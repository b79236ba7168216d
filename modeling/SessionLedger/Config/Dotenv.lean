import SessionLedger.Config.Variables
import SessionLedger.Text.Blank
import SessionLedger.Unicode.Alphanumeric
/-! Assignments of variables in a text. A line holds one assignment, `NAME=value`, possibly after
the word `export`, or nothing but a comment; a quoted value may go on over several lines. A value
may name variables that are substituted, unless it stands in single quotes. A variable that has a
value keeps it, and at the first line that is no assignment the rest of the text is given up. -/
namespace SessionLedger.Config.Dotenv
open Text

/-! ## Lines -/

/-- Where the search for the end of a line stands: a line does not end within quotes or after a
backslash, and a comment starts after a blank. -/
inductive Stage where
  | plain
  | blank
  | escaped
  | single
  | singleEscaped
  | double
  | doubleEscaped
  | comment
  deriving DecidableEq, Repr

/-- The stage after a character that may open something. -/
def Stage.ofChar (c : Char) : Stage :=
  if c = '\\' then .escaped
  else if c = '"' then .double
  else if c = '\'' then .single
  else .plain

/-- The stage after one more character. -/
def Stage.next : Stage → Char → Stage
  | .plain, c => if isBlank c && c != '\n' && c != '\r' then .blank else .ofChar c
  | .blank, c => if c = '#' then .comment else .ofChar c
  | .escaped, _ => .plain
  | .single, c => if c = '\\' then .singleEscaped else if c = '\'' then .plain else .single
  | .singleEscaped, _ => .single
  | .double, c => if c = '\\' then .doubleEscaped else if c = '"' then .plain else .double
  | .doubleEscaped, _ => .double
  | .comment, _ => .comment

/-- The characters of a row up to a comment, and the stage after them. -/
def scan : Stage → List Char → List Char × Stage
  | stage, [] => ([], stage)
  | stage, c :: rest =>
    let stage := stage.next c
    if stage = .comment then ([], stage)
    else
      let (kept, stage) := scan stage rest
      (c :: kept, stage)

/-- The rows of a text, each with the line feed that ends it. -/
def rows : List Char → List (List Char)
  | [] => []
  | c :: rest =>
    if c = '\n' then [c] :: rows rest
    else match rows rest with
      | [] => [[c]]
      | row :: more => (c :: row) :: more

/-- The lines of some rows, given the stage and the characters of a line that is open. A line that
is open at the end of the text is dropped. -/
def lines : Stage → List Char → List (List Char) → List (List Char)
  | _, _, [] => []
  | stage, read, row :: rest =>
    if (trimStart (read ++ row)).head? = some '#' then [] :: lines .plain [] rest
    else
      let (kept, stage) := scan stage row
      if stage = .plain ∨ stage = .comment then (read ++ kept) :: lines .plain [] rest
      else lines stage (read ++ kept) rest

/-! ## Values -/

/-- Where the reading of a value stands. -/
inductive Mode where
  | plain
  | single
  | double
  /-- After a backslash, within double quotes or outside. -/
  | escaped (inDouble : Bool)
  /-- In the name of a variable, latest character first. -/
  | name (inDouble : Bool) (read : List Char)
  /-- In the name of a variable between braces, latest character first. -/
  | braced (inDouble : Bool) (read : List Char)
  /-- After the value, before a comment. -/
  | ended

/-- Within double quotes or outside of quotes. -/
def Mode.around (inDouble : Bool) : Mode :=
  if inDouble then .double else .plain

/-- The characters of a variable whose name is given latest character first; a variable without a
value has none. -/
def substitute (vars : Variables) (read : List Char) : List Char :=
  ((vars.find? (String.ofList read.reverse)).getD "").toList

/-- The character that one after a backslash stands for. -/
def escapedChar? (c : Char) : Option Char :=
  if ['\\', '\'', '"', '$', ' '].contains c then some c
  else if c = 'n' then some '\n'
  else none

/-- What a character of a value does: the mode after it and the characters that it adds. -/
def Mode.next (vars : Variables) : Mode → Char → Option (Mode × List Char)
  | .plain, c =>
    if c = '$' then some (.name false [], [])
    else if c = '\'' then some (.single, [])
    else if c = '"' then some (.double, [])
    else if c = '\\' then some (.escaped false, [])
    else if c = ' ' ∨ c = '\t' then some (.ended, [])
    else some (.plain, [c])
  | .single, c => if c = '\'' then some (.plain, []) else some (.single, [c])
  | .double, c =>
    if c = '$' then some (.name true [], [])
    else if c = '"' then some (.plain, [])
    else if c = '\\' then some (.escaped true, [])
    else some (.double, [c])
  | .escaped inDouble, c => (escapedChar? c).map fun c => (.around inDouble, [c])
  | .name inDouble read, c =>
    if Unicode.isAlphanumeric c then some (.name inDouble (c :: read), [])
    else if c = '{' ∧ read = [] then some (.braced inDouble [], [])
    else if c = '$' then some (.name inDouble [], substitute vars read)
    else some (.around inDouble, substitute vars read ++ [c])
  | .braced inDouble read, c =>
    if c = '}' then some (.around inDouble, substitute vars read)
    else some (.braced inDouble (c :: read), [])
  | .ended, c => if c = ' ' ∨ c = '\t' then some (.ended, []) else none

/-- The characters that the end of a value adds; it must not come within quotes or braces. -/
def Mode.atEnd (vars : Variables) : Mode → Option (List Char)
  | .single | .double | .escaped true | .name true _ | .braced .. => none
  | .name false read => some (substitute vars read)
  | .plain | .escaped false | .ended => some []

/-- Reads a value from a mode on. -/
def readValue (vars : Variables) : Mode → List Char → Option (List Char)
  | mode, [] => mode.atEnd vars
  | .ended, '#' :: _ => some []
  | mode, c :: rest => do
    let (mode, added) ← mode.next vars c
    return added ++ (← readValue vars mode rest)

/-! ## Assignments -/

/-- What a line says. -/
inductive Line where
  | nothing
  | assignment (name value : String)
  | malformed
  deriving DecidableEq, Repr

/-- Reads a name: a letter or an underscore, and then letters, digits, underscores and points. -/
def readName (cs : List Char) : Option (List Char × List Char) :=
  if cs.head?.any fun c => c.isAlpha || c == '_' then
    some (cs.span fun c => c.isAlphanum || c == '_' || c == '.')
  else none

/-- Reads an equals sign after blanks. -/
def readEquals (cs : List Char) : Option (List Char) :=
  match trimStart cs with
  | '=' :: rest => some rest
  | _ => none

/-- Reads a name and an equals sign. The word `export` may stand before a name, and it may be
one. -/
def readTarget (cs : List Char) : Option (List Char × List Char) := do
  let (name, rest) ← readName cs
  match readEquals rest with
  | some rest => return (name, rest)
  | none =>
    if name = "export".toList then
      let (name, rest) ← readName (trimStart rest)
      return (name, ← readEquals rest)
    else none

/-- The line is empty or a comment. -/
def isVoid (cs : List Char) : Bool :=
  cs.head?.all (· == '#')

/-- What a line says, with the variables that have a value before it. -/
def Line.read (vars : Variables) (line : List Char) : Line :=
  let cs := trim line
  if isVoid cs then .nothing
  else match readTarget cs with
    | none => .malformed
    | some (name, rest) =>
      let rest := trimStart rest
      match if isVoid rest then some [] else readValue vars .plain rest with
      | some value => .assignment (String.ofList name) (String.ofList value)
      | none => .malformed

/-- The variables after some lines. -/
def loadLines : Variables → List (List Char) → Variables
  | vars, [] => vars
  | vars, line :: rest => match Line.read vars line with
    | .nothing => loadLines vars rest
    | .assignment name value => loadLines (vars.insertNew name value) rest
    | .malformed => vars

/-- The variables after a text; a byte order mark in front of it does not count. -/
def load (vars : Variables) (text : String) : Variables :=
  let cs := match text.toList with
    | '\ufeff' :: rest => rest
    | cs => cs
  loadLines vars (lines .plain [] (rows cs))

end SessionLedger.Config.Dotenv
