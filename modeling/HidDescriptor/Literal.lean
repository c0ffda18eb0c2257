import HidDescriptor.Fault

/-!
# Numeric literals

A literal is an optional minus sign followed by decimal digits, or by `0x` and hexadecimal digits
of either case. One line feed may end it.

- `Literal.hex?`, `Literal.dec?`: the digits of a body
- `Literal.read`: the value of a literal
-/

namespace HidDescriptor
namespace Literal

/-- The digit values of a nonempty text all of whose characters are digits. -/
def digitsOf? (digit? : Char → Option Nat) (cs : List Char) : Option (List Nat) :=
  if cs.isEmpty then none else cs.mapM digit?

/-- The text without one line feed at its end. -/
def dropFeed (cs : List Char) : List Char :=
  if cs.getLast? = some '\n' then cs.dropLast else cs

def hex? : List Char → Option (List Nat)
  | '0' :: x :: cs => if x = 'x' || x = 'X' then digitsOf? Numeral.hexDigit? cs else none
  | _ => none

def dec? (cs : List Char) : Option (List Nat) :=
  digitsOf? Numeral.decimalDigit? cs

/-- The value of an unsigned literal, if the text is one. Decimal digits are limited in number. -/
def magnitude (cs : List Char) : Except Fault (Option Nat) :=
  match hex? cs with
  -- Hexadecimal digits are not limited in number.
  | some ds => .ok (some (Numeral.value 16 ds))
  | none =>
      match dec? cs with
      | none => .ok none
      | some ds =>
          if Numeral.digitLimit < ds.length then .error (.longNumeral ds.length)
          else .ok (some (Numeral.value 10 ds))

def readChars (cs : List Char) : Except Fault (Option Int) :=
  match dropFeed cs with
  | '-' :: body => (magnitude body).map (·.map fun n => -(n : Int))
  | body => (magnitude body).map (·.map fun n => (n : Int))

def read (token : String) : Except Fault (Option Int) :=
  readChars token.toList

end Literal
end HidDescriptor
