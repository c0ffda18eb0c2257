import HidDescriptor.Binary64
import HidDescriptor.Fault
import HidDescriptor.Text.DecimalDigit

/-!
# Data

The values that a table file holds, and their text in messages.

- `Datum`: null, booleans, integers, fractions, points in time, text, lists and mappings
- `Datum.quote`, `Datum.display`: the text of a value, with text in quotes or as it is
- `Datum.index?`: the whole number that a value stands for
- `Datum.insertPair`: entry of a pair into a mapping
-/

namespace HidDescriptor

/-- A value of a table file. A mapping lists its pairs in order and has no two equal keys. -/
inductive Datum
  | null
  | bool (b : Bool)
  | int (n : Int)
  | real (x : Binary64)
  | time (t : Timestamp)
  | text (s : String)
  | list (items : List Datum)
  | map (pairs : List (Datum × Datum))
  deriving Repr

namespace Datum

instance : Inhabited Datum := ⟨null⟩

/-! ## Text of values -/

def typeName : Datum → String
  | null => "NoneType"
  | bool _ => "bool"
  | int _ => "int"
  | real _ => "float"
  | time t => if t.clock.isSome then "datetime" else "date"
  | text _ => "str"
  | list _ => "list"
  | map _ => "dict"

/-- The decimal text of an integer that is not too long to write. -/
def integerText (n : Int) : Except Fault String :=
  if Numeral.printable n then .ok (Numeral.decimal n) else .error .longInteger

def openBrace : String := "\x7b"

def closeBrace : String := "\x7d"

mutual

def quote : Datum → Except Fault String
  | null => .ok "None"
  | bool b => .ok (if b then "True" else "False")
  | int n => integerText n
  | real x => .ok x.text
  | time t => .ok t.quote
  | text s => .ok (Text.quoted s)
  | list items => do
      let shown ← quoteItems items
      .ok ("[" ++ ", ".intercalate shown ++ "]")
  | map pairs => do
      let shown ← quotePairs pairs
      .ok (openBrace ++ ", ".intercalate shown ++ closeBrace)

def quoteItems : List Datum → Except Fault (List String)
  | [] => .ok []
  | item :: rest => do
      let shown ← quote item
      let others ← quoteItems rest
      .ok (shown :: others)

def quotePairs : List (Datum × Datum) → Except Fault (List String)
  | [] => .ok []
  | (key, value) :: rest => do
      let shownKey ← quote key
      let shownValue ← quote value
      let others ← quotePairs rest
      .ok ((shownKey ++ ": " ++ shownValue) :: others)

end

/-- The text of a value, with text as it is and points in time in plain notation. -/
def display : Datum → Except Fault String
  | text s => .ok s
  | time t => .ok t.display
  | other => other.quote

/-! ## Whole numbers -/

/-- The digit values of a nonempty text of decimal digits of any script, with single underscores
between them. -/
def groupedDigits? : List Char → Option (List Nat)
  | [] => none
  | [c] => (Text.decimalDigit? c).map ([·])
  -- Behind the last underscore there has to be a digit: nothing has no reading.
  | c :: '_' :: rest => do
      let d ← Text.decimalDigit? c
      let ds ← groupedDigits? rest
      some (d :: ds)
  | c :: rest => do
      let d ← Text.decimalDigit? c
      let ds ← groupedDigits? rest
      some (d :: ds)

/-- Whether a character may surround a numeral: a blank that is no separator of files, groups,
records or units. -/
def surroundsNumeral (c : Char) : Bool :=
  Text.isBlank c && !(0x1C ≤ c.toNat && c.toNat ≤ 0x1F)

/-- The whole number that a text stands for: blanks around it and one sign are allowed. -/
def integerOfText? (s : String) : Option Int :=
  let trimmed := Text.dropEndWhile surroundsNumeral (s.toList.dropWhile surroundsNumeral)
  let (negative, body) := Binary64.splitSign trimmed
  match groupedDigits? body with
  | none => none
  | some ds =>
      if Numeral.digitLimit < ds.length then none
      else
        let n : Int := Numeral.value 10 ds
        some (if negative then -n else n)

/-- The whole number that a value stands for. Truth values count as 0 and 1 and fractions are cut
off. An infinite number is a fault of its own. -/
def index? : Datum → Except Fault (Option Int)
  | bool b => .ok (some (if b then 1 else 0))
  | int n => .ok (some n)
  | real (.infinite _) => .error .infiniteIndex
  | real x => .ok x.truncate?
  | text s => .ok (integerOfText? s)
  | _ => .ok none

/-! ## Mappings -/

/-- A number as an integer or a fraction, truth values counting as 0 and 1. -/
def numeric? : Datum → Option (Int ⊕ Binary64)
  | bool b => some (.inl (if b then 1 else 0))
  | int n => some (.inl n)
  | real x => some (.inr x)
  | _ => none

/-- Whether two keys are one and the same. Numbers are compared by value across their types. -/
def sameKey (a b : Datum) : Bool :=
  match numeric? a, numeric? b with
  | some (.inl m), some (.inl n) => m == n
  | some (.inl m), some (.inr y) => y.equalsInt m
  | some (.inr x), some (.inl n) => x.equalsInt n
  | some (.inr x), some (.inr y) => x.equals y
  | none, none =>
      match a, b with
      | null, null => true
      | text s, text t => s == t
      | time s, time t => s == t
      -- Collections are no keys, so there is nothing to compare.
      | _, _ => false
  | _, _ => false

/-- Enters a pair into a mapping. An equal key keeps its place and gets the new value. -/
def insertPair (same : Datum → Datum → Bool) (key value : Datum) :
    List (Datum × Datum) → List (Datum × Datum)
  | [] => [(key, value)]
  | (k, v) :: rest =>
      if same k key then (k, value) :: rest else (k, v) :: insertPair same key value rest

def ofPairs (pairs : List (Datum × Datum)) : Datum :=
  .map (pairs.foldl (fun acc pair => insertPair sameKey pair.1 pair.2 acc) [])

end Datum
end HidDescriptor
