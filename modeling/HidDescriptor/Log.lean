import HidDescriptor.Fault

/-!
# Logs

What a run reports, and the lines of a log file that it makes of it.

- `Level`, `Origin`, `Entry`: a message with its weight and its source
- `Layout`: how the parts of a record are placed, and the mark from which lines are aligned
- `fileRecord`: a record of a log file
-/

namespace HidDescriptor
namespace Log

/-! ## Entries -/

inductive Level
  | debug
  | info
  | warning
  | error
  deriving DecidableEq, Repr

def Level.label : Level → String
  | debug => "DEBUG"
  | info => "INFO"
  | warning => "WARNING"
  | error => "ERROR"

/-- The part of a run that reports. -/
inductive Origin
  | commandLine
  | compiler
  | tables
  | log
  deriving DecidableEq, Repr

def Origin.label : Origin → String
  | commandLine => "__main__"
  | compiler => "compiler"
  | tables => "__init__"
  | log => "logging"

structure Entry where
  level : Level
  origin : Origin
  message : String
  deriving DecidableEq, Repr

/-! ## Layouts -/

structure Parts where
  time : String
  module : String
  level : String
  message : String

def Parts.get (parts : Parts) (name : String) : String :=
  if name = "asctime" then parts.time
  else if name = "module" then parts.module
  else if name = "levelname" then parts.level
  else if name = "message" then parts.message
  else ""

/-- A piece of a layout: a character as it is, or a part, cut to a limit and padded to a width. -/
inductive Piece
  | char (c : Char)
  | part (name : String) (left : Bool) (width : Nat) (limit : Option Nat)
  deriving DecidableEq, Repr

def Piece.isPart : Piece → Bool
  | char _ => false
  | part _ _ _ _ => true

abbrev Layout := List Piece

/-- A number at the start of a text, zero if there is none, and what follows. -/
def number (cs : List Char) : Nat × List Char :=
  (Numeral.value 10 ((cs.takeWhile Char.isDigit).filterMap Numeral.decimalDigit?),
    cs.dropWhile Char.isDigit)

/-- A part `%(name)s`, and what follows. Before the `s` may stand flags, of which a minus sign puts
the part to the left, a width, and a point with a limit. -/
def part? (cs : List Char) : Option (Piece × List Char) :=
  match cs with
  | '%' :: '(' :: rest =>
      let name := String.ofList (rest.takeWhile (· != ')'))
      let rest := (rest.dropWhile (· != ')')).drop 1
      let isFlag (c : Char) : Bool := "#0+ -".toList.contains c
      let left := (rest.takeWhile isFlag).contains '-'
      let (width, rest) := number (rest.dropWhile isFlag)
      let (limit, rest) :=
        match rest with
        | '.' :: rest => let (limit, rest) := number rest; (some limit, rest)
        | rest => (none, rest)
      match rest with
      | 's' :: rest => some (.part name left width limit, rest)
      | _ => none
  | _ => none

/-- The pieces of a written layout, at most `fuel` of them. -/
def layoutFrom : (fuel : Nat) → List Char → Layout
  | 0, _ => []
  | _ + 1, [] => []
  | fuel + 1, c :: rest =>
      match part? (c :: rest) with
      | some (piece, rest) => piece :: layoutFrom fuel rest
      | none =>
          match c, rest with
          -- A percent sign is written twice.
          | '%', '%' :: rest => .char '%' :: layoutFrom fuel rest
          | c, rest => .char c :: layoutFrom fuel rest

/-- The layout of its written form. A piece takes at least one character. -/
def layout (text : String) : Layout :=
  layoutFrom text.length text.toList

/-- The layout of its written form, which has to show some part of a record. An empty text stands
for the message alone. -/
def Layout.read (text : String) : Except Fault Layout :=
  if text.isEmpty then .ok [.part "message" false 0 none]
  else if (layout text).any Piece.isPart then .ok (layout text)
  else .error (.emptyLayout text)

def pieceText (parts : Parts) : Piece → List Char
  | .char c => [c]
  | .part name left width limit =>
      let text := (parts.get name).toList
      let text := match limit with
        | some limit => text.take limit
        | none => text
      let blanks := List.replicate (width - text.length) ' '
      if left then text ++ blanks else blanks ++ text

/-! ## Alignment -/

def markAt? : List Char → Option Nat
  | [] => none
  | '|' :: '|' :: '|' :: _ => some 0
  | _ :: rest => (markAt? rest).map (· + 1)

def dropMarks : List Char → List Char
  | [] => []
  | '|' :: '|' :: '|' :: rest => dropMarks rest
  | c :: rest => c :: dropMarks rest

/-- Removes the marks and indents every further line to the column of the first mark. -/
def aligned (cs : List Char) : List Char :=
  match markAt? cs with
  | none => cs
  | some column =>
      (dropMarks cs).flatMap fun c =>
        if c = '\n' then '\n' :: List.replicate column ' ' else [c]

def format (layout : Layout) (parts : Parts) : String :=
  String.ofList (aligned (layout.flatMap (pieceText parts)))

def fileLayout : Layout :=
  layout "%(asctime)s %(module)-10s %(levelname)-8s|||%(message)s"

def fileRecord (time : String) (entry : Entry) : String :=
  format fileLayout ⟨time, entry.origin.label, entry.level.label, entry.message⟩ ++ "\n"

end Log
end HidDescriptor
