import HidDescriptor.Fault
import HidDescriptor.Text.LowerCase

/-!
# Source lines

A line of source is blank, a comment, or a call `name(argument, …)`. Blanks around the parts of a
call and the case of its letters carry no meaning.

- `Call`, `Call.render`: a function name with its arguments, and its plain written form
- `SourceLine`: a numbered line with what it says
- `Call.arguments`, `Call.split?`: the parts of a call
- `SourceLine.parse`, `SourceLine.parseAll`: reading of lines
-/

namespace HidDescriptor

/-! ## Calls -/

structure Call where
  name : String
  args : List String
  deriving DecidableEq, Repr

namespace Call

/-- The plain written form of a call. -/
def render (c : Call) : String :=
  c.name ++ "(" ++ ", ".intercalate c.args ++ ")"

def isNameChar (c : Char) : Bool :=
  c.isAlphanum || c = '_'

/-- A written token without the blanks around it, in lower case. -/
def token (cs : List Char) : List Char :=
  Text.lower (Text.trim cs)

/-- One argument, which may not be empty. -/
def argument (piece : List Char) : Except Fault String :=
  let arg := token piece
  if arg.isEmpty then .error (.ofCause .emptyArgument) else .ok (String.ofList arg)

/-- The arguments between the parentheses of a call: none, or pieces parted by commas. -/
def arguments (body : List Char) : Except Fault (List String) :=
  if Text.isAllBlank body then .ok [] else (body.splitOn ',').mapM argument

/-- The name of a call and the text between its outermost parentheses. Only blanks may surround the
name and follow the closing parenthesis. -/
def split? (cs : List Char) : Option (List Char × List Char) :=
  let cs := Text.trimLeft cs
  let name := cs.takeWhile isNameChar
  match Text.trimLeft (cs.dropWhile isNameChar) with
  | '(' :: rest =>
      -- The last parenthesis closes the call. Those in between belong to its arguments.
      match rest.reverse.dropWhile Text.isBlank with
      | ')' :: body =>
          if name.isEmpty || body.contains '\n' then none else some (name, body.reverse)
      | _ => none
  | _ => none

end Call

/-! ## Lines -/

/-- What a line says. -/
inductive Content
  | comment
  | blank
  | call (call : Call)
  deriving DecidableEq, Repr

structure SourceLine where
  number : Int
  text : String
  content : Content
  deriving DecidableEq, Repr

namespace SourceLine

def isLineEnd (c : Char) : Bool :=
  c = '\n' || c = '\r'

def isComment (cs : List Char) : Bool :=
  match Text.trimLeft cs with
  | [] => false
  | c :: _ => c = '#' || c = ';'

def contentOf (cs : List Char) : Except Fault Content :=
  if isComment cs then .ok .comment
  else if Text.isAllBlank cs then .ok .blank
  else
    match Call.split? cs with
    | none => .error (.ofCause .notACall)
    | some (name, body) => do
        let args ← Call.arguments body
        .ok (.call ⟨String.ofList (Text.lower name), args⟩)

/-- Reads a line, without the line feeds and carriage returns at its end. A faulty line is quoted
with its number. -/
def parse (text : String) (number : Int) : Except Fault SourceLine :=
  let cs := Text.dropEndWhile isLineEnd text.toList
  let line := String.ofList cs
  match contentOf cs with
  | .ok content => .ok ⟨number, line, content⟩
  | .error fault => .error (fault.locate number line)

/-- Reads lines numbered from `number` on, up to the first faulty one. -/
def parseAll (number : Int) : List String → List SourceLine × Option Fault
  | [] => ([], none)
  | text :: rest =>
      match parse text number with
      | .error fault => ([], some fault)
      | .ok line =>
          let (lines, fault) := parseAll (number + 1) rest
          (line :: lines, fault)

end SourceLine
end HidDescriptor
