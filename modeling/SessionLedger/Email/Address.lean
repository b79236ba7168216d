import SessionLedger.Email.Literal
import SessionLedger.Idna.Ascii
import SessionLedger.Text.Split
/-! Email addresses. A user and a domain stand around the last at sign. The domain is made of labels
of letters, digits and inner hyphens, or it ends in an address of the Internet Protocol between
brackets, or it is an international name that becomes one of these in ASCII. -/
namespace SessionLedger.Email
open Text

/-- A letter without regard to case; the long s and the Kelvin sign are forms of s and k. -/
def isLetter (c : Char) : Bool :=
  c.isAlpha || c == '\u017f' || c == '\u212a'

/-- A letter or a digit. -/
def isAlphanumeric (c : Char) : Bool :=
  isLetter c || c.isDigit

/-- A character of a user. -/
def isUserChar (c : Char) : Bool :=
  isAlphanumeric c || ".!#$%&'*+/=?^_\x60\x7b|\x7d~-".toList.contains c

/-- A label of at most 63 letters, digits and hyphens that neither starts nor ends with a
hyphen. -/
def isLabel (label : List Char) : Bool :=
  label.length ≤ 63 && label.all (fun c => isAlphanumeric c || c == '-') &&
    label.head?.any isAlphanumeric && label.getLast?.any isAlphanumeric

/-- A character between the brackets of an address: a letter, a digit, a colon, a point, or one of
the signs between the capital and the small letters. -/
def isLiteralChar (c : Char) : Bool :=
  isAlphanumeric c || [':', '.', '[', '\\', ']', '^', '_', '\x60'].contains c

/-- What stands between the first opening bracket from which on there are only characters of an
address and a bracket at the end. -/
def literal? : List Char → Option (List Char)
  | [] => none
  | c :: rest =>
    let inner := rest.dropLast
    if c = '[' ∧ rest.getLast? = some ']' ∧ inner ≠ [] ∧ inner.all isLiteralChar then some inner
    else literal? rest

/-- The domain is made of labels, or it ends in an address between brackets. -/
def isPlainDomain (domain : List Char) : Bool :=
  (pieces (· == '.') domain).all isLabel || (literal? domain).any Literal.isAddress

/-- The domain is plain, or it becomes so in ASCII. -/
def isDomain (domain : List Char) : Bool :=
  isPlainDomain domain || (Idna.toAscii? domain).any isPlainDomain

/-- The text is an email address. -/
def isAddress (email : String) : Bool :=
  match splitLast? '@' email.toList with
  | none => false
  | some (user, domain) =>
    user.length ≤ 64 && domain.length ≤ 255 && !user.isEmpty && user.all isUserChar &&
      isDomain domain

end SessionLedger.Email
