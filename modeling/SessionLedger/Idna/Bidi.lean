import SessionLedger.Unicode.BidiClass
/-! The rules for labels that are read from right to left. They bind all labels of a name once one
of its labels holds a character of such a script. -/
namespace SessionLedger.Idna
open Unicode

/-- The label holds a letter or number that is read from right to left. -/
def isRightToLeft (label : List Char) : Bool :=
  label.any fun c => [.rightToLeft, .arabicLetter, .arabicNumber].contains (bidiClass c)

/-- The last class of a label apart from trailing nonspacing marks. -/
def lastClass? (classes : List BidiClass) : Option BidiClass :=
  (classes.reverse.dropWhile (· == .nonspacingMark)).head?

/-- Classes that may stand in a label of either direction. -/
def neutralClasses : List BidiClass :=
  [.europeanNumber, .europeanSeparator, .commonSeparator, .europeanTerminator, .otherNeutral,
   .boundaryNeutral, .nonspacingMark]

/-- A label read from left to right holds nothing of the other direction and ends in a letter or a
number; one read from right to left likewise, and it does not mix the two kinds of numbers. Any
other start is refused. -/
def obeysBidi (label : List Char) : Bool :=
  let classes := label.map bidiClass
  match classes with
  | [] => true
  | .leftToRight :: rest =>
    rest.all (.leftToRight :: neutralClasses).contains &&
      (lastClass? classes).all [.leftToRight, .europeanNumber].contains
  | .rightToLeft :: rest | .arabicLetter :: rest =>
    rest.all (.rightToLeft :: .arabicLetter :: .arabicNumber :: neutralClasses).contains &&
      (lastClass? classes).any
        [.rightToLeft, .arabicLetter, .europeanNumber, .arabicNumber].contains &&
      !(rest.contains .europeanNumber && rest.contains .arabicNumber)
  | _ => false

end SessionLedger.Idna
