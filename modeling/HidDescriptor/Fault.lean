import HidDescriptor.Diagnostic
import HidDescriptor.Text.Utf8
import HidDescriptor.Timestamp

/-!
# Faults

Everything that can stop an operation of this library, with its wording.

- `FileFault`: a path that cannot be opened or made
- `ReadFault`: a file whose content cannot be read
- `TableCause`: a lookup table that cannot be built
- `Fault`: all of these, compile errors, encodings, and the limits of integer notation
-/

namespace HidDescriptor

/-! ## Files -/

/-- Why a path cannot be opened or made. -/
inductive FileFault
  | noSuchFile (path : String)
  | fileExists (path : String)
  | notADirectory (path : String)
  | isADirectory (path : String)
  /-- A name on the way, or the path itself, has too many bytes. -/
  | nameTooLong (path : String)
  /-- The path holds the null character. -/
  | nullCharacter
  deriving DecidableEq, Repr

/-- The wording of a file fault, with its error number and the path in quotes where it has them. -/
def FileFault.message : FileFault → String
  | noSuchFile path => "[Errno 2] No such file or directory: " ++ Text.quoted path
  | fileExists path => "[Errno 17] File exists: " ++ Text.quoted path
  | notADirectory path => "[Errno 20] Not a directory: " ++ Text.quoted path
  | isADirectory path => "[Errno 21] Is a directory: " ++ Text.quoted path
  | nameTooLong path => "[Errno 36] File name too long: " ++ Text.quoted path
  | nullCharacter => "embedded null byte"

def Text.Utf8.Defect.message : Text.Utf8.Defect → String
  | startByte => "invalid start byte"
  | continuationByte => "invalid continuation byte"
  | unexpectedEnd => "unexpected end of data"

/-- The wording of a fault in UTF-8, with the byte or the range of positions it concerns. -/
def Text.Utf8.Fault.message (f : Text.Utf8.Fault) : String :=
  let place :=
    if f.length ≤ 1 then
      "byte 0x" ++ Numeral.hexadecimal 2 f.byte.toNat ++ " in position " ++
        Numeral.decimal f.position
    else
      "bytes in position " ++ Numeral.decimal f.position ++ "-" ++
        Numeral.decimal (f.position + f.length - 1)
  "'utf-8' codec can't decode " ++ place ++ ": " ++ f.defect.message

/-- Why the content of a table file cannot be read. -/
inductive ReadFault
  /-- The text does not follow the notation. -/
  | malformed
  | encoding (fault : Text.Utf8.Fault)
  | file (fault : FileFault)
  /-- A decimal numeral of so many digits. -/
  | longNumeral (digits : Nat)
  /-- A numeral of the given base without digits. -/
  | emptyNumeral (base : Nat)
  /-- An escaped character beyond the last one. -/
  | codeRange
  /-- Numbers that are no point in time. -/
  | timestamp (defect : Timestamp.Defect)
  deriving DecidableEq, Repr

def longNumeralMessage (digits : Nat) : String :=
  "Exceeds the limit (4300 digits) for integer string conversion: value has " ++
    Numeral.decimal digits ++ " digits; use sys.set_int_max_str_digits() to increase the limit"

/-- The wording of a read fault. Text that does not follow the notation is not described. -/
def ReadFault.message : ReadFault → Option String
  | malformed => none
  | encoding fault => some fault.message
  | file fault => some fault.message
  | longNumeral digits => some (longNumeralMessage digits)
  | emptyNumeral base =>
      some ("invalid literal for int() with base " ++ Numeral.decimal base ++ ": ''")
  | codeRange => some "chr() arg not in range(0x110000)"
  | timestamp defect => some defect.message

/-! ## Tables -/

/-- Why a lookup table cannot be built. -/
inductive TableCause
  /-- An entry that is no directive, in quoted form. -/
  | invalidDirective (shown : String)
  /-- A directive whose operand is no index, in quoted form. -/
  | invalidIndex (directive shown : String)
  | duplicateName (name : String) (value : Int)
  | negativeSkip (count : Int)
  | aliasFirst (name : String)
  | startBelow (start next : Int)
  /-- A flag table that is no mapping but a value of the named type. -/
  | flagsNotMapping (typeName : String)
  /-- A flag whose value, in quoted form, is no natural number. -/
  | invalidFlag (name shown : String)
  | notATable (file : String)
  | unreadable (file : String) (fault : ReadFault)
  | noDirectory (path : String)
  | missingTable (table : String)
  /-- A cause found in a file. -/
  | inFile (file : String) (cause : TableCause)
  deriving DecidableEq, Repr

namespace TableCause

def message : TableCause → String
  | invalidDirective shown => "Invalid enum directive: " ++ shown
  | invalidIndex directive shown => "Invalid index for directive '" ++ directive ++ "': " ++ shown
  | duplicateName name value =>
      "Duplicate enum name '" ++ name ++ "' (0x" ++ Numeral.hexadecimal 2 value ++ ")."
  | negativeSkip count => "Skip count must be positive, not " ++ Numeral.decimal count ++ "."
  | aliasFirst name => "Alias '" ++ name ++ "' has no previous name."
  | startBelow start next =>
      "Start index 0x" ++ Numeral.hexadecimal 2 start ++ " is below the next index 0x" ++
        Numeral.hexadecimal 2 next ++ "."
  | flagsNotMapping typeName => "Flag table must be a mapping, not " ++ typeName ++ "."
  | invalidFlag name shown => "Invalid value for flag '" ++ name ++ "': " ++ shown
  | notATable file => "Table '" ++ file ++ "' must be a list or a mapping."
  | unreadable file fault =>
      "Could not load table '" ++ file ++ "', error:" ++
        (match fault.message with
        | some text => "\n" ++ text
        | none => "")
  | noDirectory path => "Table directory '" ++ path ++ "' does not exist."
  | missingTable table => "Missing table '" ++ table ++ "'."
  | inFile file cause => "In '" ++ file ++ "': " ++ cause.message

end TableCause

/-! ## Sessions -/

inductive Phase
  | scanning
  | done
  | failed
  deriving DecidableEq, Repr

def Phase.label : Phase → String
  | scanning => "scanning"
  | done => "done"
  | failed => "failed"

/-! ## All faults -/

/-- Why an operation stops. -/
inductive Fault
  /-- The source is rejected. -/
  | compile (diagnostic : Diagnostic)
  /-- A table cannot be built. -/
  | table (cause : TableCause)
  | file (fault : FileFault)
  /-- Bytes of an input stand for no text. -/
  | undecodable (message : String)
  /-- A text has no bytes in the encoding of an output. -/
  | unencodable (message : String)
  /-- A decimal numeral of so many digits is too long to read. -/
  | longNumeral (digits : Nat)
  /-- An integer is too long to write in decimal. -/
  | longInteger
  /-- A power of two with a negative exponent. -/
  | negativeShift
  /-- A value outside the range of a byte. -/
  | byteRange
  /-- An infinite index. -/
  | infiniteIndex
  /-- A line for a session that is over. -/
  | closedToLines (phase : Phase)
  /-- The end of a session that is over. -/
  | closedToEnd (phase : Phase)
  | listingFormat (name : String)
  /-- A layout of log records without any part of a record. -/
  | emptyLayout (text : String)
  deriving DecidableEq, Repr

namespace Fault

def message : Fault → String
  | compile diagnostic => diagnostic.text
  | table cause => cause.message
  | file fault => fault.message
  | undecodable message => message
  | unencodable message => message
  | longNumeral digits => longNumeralMessage digits
  | longInteger =>
      "Exceeds the limit (4300 digits) for integer string conversion; " ++
        "use sys.set_int_max_str_digits() to increase the limit"
  | negativeShift => "negative shift count"
  | byteRange => "bytes must be in range(0, 256)"
  | infiniteIndex => "cannot convert float infinity to integer"
  | closedToLines phase => "Compiler is " ++ phase.label ++ ", it can not take more lines."
  | closedToEnd phase => "Compiler is " ++ phase.label ++ ", it can not finish."
  | listingFormat name => "Invalid dump format '" ++ name ++ "'."
  | emptyLayout text => "Invalid format '" ++ text ++ "' for '%' style"

/-- The fault of a compile error. Its wording has to be written out, so an integer that is too
long to write is the fault instead. -/
def ofCause (cause : Cause) : Fault :=
  if cause.integers.all Numeral.printable then .compile (.ofCause cause) else .longInteger

def locate (f : Fault) (number : Int) (line : String) : Fault :=
  match f with
  | compile diagnostic => .compile (diagnostic.locate (some number) (some line))
  | other => other

end Fault

end HidDescriptor
