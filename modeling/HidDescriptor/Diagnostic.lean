import HidDescriptor.Numeral
import HidDescriptor.Text.Blank

/-!
# Diagnostics

What is wrong with a source, and where.

- `Kind`: the classes of compile errors
- `Cause`: every reason for which a source is rejected, with its wording
- `Diagnostic`: a cause with the line it was found on
-/

namespace HidDescriptor

/-! ## Kinds -/

inductive Kind
  | general
  | malformedLine
  | unknownFunction
  | argument
  | undefinedSymbol
  | missingContext
  | structural
  | encoding
  deriving DecidableEq, Repr

def Kind.label : Kind → String
  | .general => "error"
  | .malformedLine => "syntax error"
  | .unknownFunction => "unknown function"
  | .argument => "argument error"
  | .undefinedSymbol => "undefined symbol"
  | .missingContext => "missing context"
  | .structural => "structural error"
  | .encoding => "encoding error"

/-! ## Causes -/

/-- Why a source is rejected. -/
inductive Cause
  /-- A line that is neither blank nor a comment nor a call. -/
  | notACall
  /-- Nothing between two commas. -/
  | emptyArgument
  | unknownFunction (name : String) (line : Int)
  /-- A function of one argument was given another number of them. -/
  | argumentCount (function : String) (given : Nat)
  /-- A function without arguments was given some. -/
  | unwantedArguments (function : String)
  | notNumeric (argument function : String)
  | reportIdRange (argument : String)
  | doesNotFit (value bits : Int)
  | undefinedSymbol (argument function : String)
  | missingUsagePage (function : String)
  | missingUsageTable (page : String)
  | unmatchedEnd
  | noOpenCollection
  /-- Collections left open at the end, the outermost first. -/
  | unterminated (collections : List String)
  | longItem (size : Int) (item : String)
  | payloadSize (size : Int) (item : String)
  | payloadValue (value : Int) (item : String)
  /-- A reason worded by the caller. -/
  | worded (kind : Kind) (reason : String)
  deriving DecidableEq, Repr

namespace Cause

def kind : Cause → Kind
  | notACall | emptyArgument => .malformedLine
  | unknownFunction _ _ => .unknownFunction
  | argumentCount _ _ | unwantedArguments _ | notNumeric _ _ | reportIdRange _ | doesNotFit _ _ =>
      .argument
  | undefinedSymbol _ _ => .undefinedSymbol
  | missingUsagePage _ | missingUsageTable _ => .missingContext
  | unmatchedEnd | noOpenCollection | unterminated _ => .structural
  | longItem _ _ | payloadSize _ _ | payloadValue _ _ => .encoding
  | worded kind _ => kind

/-- The integers that the wording of a cause shows, other than lengths of lists. A length is never
too long to write. -/
def integers : Cause → List Int
  | unknownFunction _ line => [line]
  | doesNotFit value bits => [value, bits]
  | longItem size _ | payloadSize size _ => [size]
  | payloadValue value _ => [value]
  | _ => []

def reason : Cause → String
  | notACall => "syntax error, expected 'function(arguments)'"
  | emptyArgument => "empty argument"
  | unknownFunction name line =>
      "unexpected function name '" ++ name ++ "' at line " ++ Numeral.decimal line
  | argumentCount function given =>
      "function " ++ function ++ "() takes exactly one argument (" ++ Numeral.decimal given ++
        " given)"
  | unwantedArguments function => "function " ++ function ++ "() takes no arguments"
  | notNumeric argument function =>
      "invalid numeric value '" ++ argument ++ "' in function " ++ function ++ "()"
  | reportIdRange argument => "report id must be between 1 and 255, not '" ++ argument ++ "'"
  | doesNotFit value bits =>
      "value " ++ Numeral.decimal value ++ " does not fit in " ++ Numeral.decimal bits ++ " bits"
  | undefinedSymbol argument function =>
      "invalid argument '" ++ argument ++ "' in function " ++ function ++ "()"
  | missingUsagePage function => "missing usage_page() before " ++ function ++ "()"
  | missingUsageTable page => "undefined usage table for page '" ++ page ++ "'"
  | unmatchedEnd => "end_collection() without a matching collection()"
  | noOpenCollection => "no open collection"
  | unterminated collections =>
      "extra context stack detected: " ++ Numeral.decimal collections.length ++
        " unterminated collection(s) (" ++ ", ".intercalate collections ++ ")"
  | longItem size item =>
      "payload of " ++ Numeral.decimal size ++ " bytes for item '" ++ item ++
        "' needs a long item (header 0xfe), which is not supported"
  | payloadSize size item =>
      "invalid payload size " ++ Numeral.decimal size ++ " for item '" ++ item ++
        "', must be 0, 1, 2 or 4"
  | payloadValue value item =>
      "payload value " ++ Numeral.decimal value ++ " of item '" ++ item ++ "' is not a byte"
  | worded _ reason => reason

end Cause

/-! ## Causes with their place -/

structure Diagnostic where
  cause : Cause
  number : Option Int
  line : Option String
  deriving DecidableEq, Repr

namespace Diagnostic

def ofCause (cause : Cause) : Diagnostic := ⟨cause, none, none⟩

def kind (d : Diagnostic) : Kind := d.cause.kind

def reason (d : Diagnostic) : String := d.cause.reason

/-- Gives a diagnostic a place, unless it has a line number already. -/
def locate (d : Diagnostic) (number : Option Int) (line : Option String) : Diagnostic :=
  if d.number.isNone then { d with number, line } else d

/-- The full text of a diagnostic: a known line is quoted, without the blanks around it. -/
def text (d : Diagnostic) : String :=
  match d.number, d.line with
  | none, _ => d.reason
  | some n, none => d.reason ++ " (line " ++ Numeral.decimal n ++ ")"
  | some n, some line =>
      "in line " ++ Numeral.decimal n ++ ":\n  " ++ String.ofList (Text.trim line.toList) ++ "\n" ++
        d.reason

end Diagnostic

end HidDescriptor
