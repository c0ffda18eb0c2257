import HidDescriptor.Datum

/-!
# Scalars of table files

Table files are written in a subset of YAML 1.1. A scalar without quotes is null, a truth value,
an integer, a fraction, a point in time or text, by its spelling.

- `integer?`: binary, octal, decimal, hexadecimal and base 60 integers
- `real?`: decimal and base 60 fractions, infinities and the undefined number
- `plainValue`: the value of a scalar without quotes
-/

namespace HidDescriptor
namespace TableFile

/-! ## Integers -/

def ungrouped (cs : List Char) : List Char :=
  cs.filter (· != '_')

def isGrouped (base : Nat) (c : Char) : Bool :=
  c = '_' ||
    match Numeral.hexDigit? c with
    | some d => d < base
    | none => false

/-- The value of the digits of a numeral. Only decimal numerals are limited in length. -/
def numeral (base : Nat) (cs : List Char) : Except ReadFault Nat :=
  let ds := (ungrouped cs).filterMap Numeral.hexDigit?
  if ds.isEmpty then .error (.emptyNumeral base)
  else if base = 10 && Numeral.digitLimit < ds.length then .error (.longNumeral ds.length)
  else .ok (Numeral.value base ds)

/-- Whether a text is a decimal numeral that does not start with zero. -/
def isCounting : List Char → Bool
  | [] => false
  | c :: rest => '1' ≤ c && c ≤ '9' && rest.all (isGrouped 10)

/-- Whether a text is one of the numerals 0 to 59, in at most two digits. -/
def isSixtieth : List Char → Bool
  | [c] => c.isDigit
  | [c, d] => '0' ≤ c && c ≤ '5' && d.isDigit
  | _ => false

/-- The value of numerals in base 60, the most significant first. -/
def sixtieths (parts : List (List Char)) : Except ReadFault Nat := do
  let ds ← parts.mapM (numeral 10)
  .ok (Numeral.value 60 ds)

/-- The value of an integer without a sign, if the text is one. -/
def natural? (cs : List Char) : Option (Except ReadFault Nat) :=
  match cs with
  | ['0'] => some (.ok 0)
  | '0' :: 'b' :: rest =>
      if !rest.isEmpty && rest.all (isGrouped 2) then some (numeral 2 rest) else none
  | '0' :: 'x' :: rest =>
      if !rest.isEmpty && rest.all (isGrouped 16) then some (numeral 16 rest) else none
  | '0' :: rest => if rest.all (isGrouped 8) then some (numeral 8 ('0' :: rest)) else none
  | cs =>
      match cs.splitOn ':' with
      | [single] => if isCounting single then some (numeral 10 single) else none
      | first :: rest =>
          if isCounting first && rest.all isSixtieth then some (sixtieths (first :: rest)) else none
      | [] => none

def integer? (cs : List Char) : Option (Except ReadFault Int) :=
  let (negative, body) := Binary64.splitSign cs
  (natural? body).map fun n => n.map fun n => if negative then -(n : Int) else n

/-! ## Fractions -/

/-- Whether a text is empty or an exponent, whose sign is required. -/
def isExponent : List Char → Bool
  | [] => true
  | e :: s :: rest =>
      (e = 'e' || e = 'E') && (s = '-' || s = '+') && !rest.isEmpty && rest.all Char.isDigit
  | _ => false

def startsWithDigit : List Char → Bool
  | [] => false
  | c :: _ => c.isDigit

/-- Whether a text without a sign has digits, a point, further digits and maybe an exponent. -/
def isFraction (cs : List Char) : Bool :=
  match cs.dropWhile (isGrouped 10) with
  | '.' :: rest => startsWithDigit cs && isExponent (rest.dropWhile (isGrouped 10))
  | _ => false

def isBareFraction : List Char → Bool
  | '.' :: rest => startsWithDigit rest && isExponent (rest.dropWhile (isGrouped 10))
  | _ => false

/-- The sum of base 60 digits, the least significant first, each times a power of 60. Every step is
rounded. -/
def sixtiethSum (total : Binary64) (factor : Nat) : List Binary64 → Binary64
  | [] => total
  | digit :: rest => sixtiethSum (total.addMultiple digit factor) (60 * factor) rest

/-- The value of a base 60 numeral without a sign whose last part has a fraction. -/
def sixtiethFraction? (cs : List Char) : Option Binary64 :=
  let whole := cs.takeWhile (· != '.')
  match cs.dropWhile (· != '.'), whole.splitOn ':' with
  | '.' :: fraction, first :: part :: rest =>
      if startsWithDigit first && first.all (isGrouped 10) && (part :: rest).all isSixtieth &&
          fraction.all (isGrouped 10) then do
        let digits ← ((ungrouped cs).splitOn ':').mapM Binary64.read?
        some (sixtiethSum (.ofDecimal false 0 0) 1 digits.reverse)
      else none
  | _, _ => none

def real? (cs : List Char) : Option Binary64 :=
  let (negative, body) := Binary64.splitSign cs
  let word := String.ofList body
  if isFraction body || isBareFraction cs then Binary64.read? (ungrouped cs)
  else if word = ".inf" || word = ".Inf" || word = ".INF" then some (.infinite negative)
  else if String.ofList cs = ".nan" || String.ofList cs = ".NaN" || String.ofList cs = ".NAN" then
    some .undefined
  else (sixtiethFraction? body).map (·.withSign negative)

/-! ## Words -/

def nullWords : List String := ["", "~", "null", "Null", "NULL"]

def trueWords : List String :=
  ["yes", "Yes", "YES", "true", "True", "TRUE", "on", "On", "ON"]

def falseWords : List String :=
  ["no", "No", "NO", "false", "False", "FALSE", "off", "Off", "OFF"]

/-- The scalars with a reserved meaning as keys, which have no value. -/
def reservedWords : List String := ["=", "<<"]

def plainValue (cs : List Char) : Except ReadFault Datum :=
  let word := String.ofList cs
  if nullWords.contains word then .ok .null
  else if trueWords.contains word then .ok (.bool true)
  else if falseWords.contains word then .ok (.bool false)
  else if reservedWords.contains word then .error .malformed
  else
    match real? cs, integer? cs, Timestamp.read? cs with
    | some x, _, _ => .ok (.real x)
    | none, some n, _ => n.map .int
    | none, none, some t => (t.map .time).mapError .timestamp
    | none, none, none => .ok (.text word)

end TableFile
end HidDescriptor
