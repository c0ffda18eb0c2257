import HidDescriptor.Text.Quoted

/-!
# Numerals

Positional notation of whole numbers.

- `digits`, `value`: the digits of a number in a base, and the number that digits denote
- `decimal`: decimal text of an integer, and `printable`, the limit on its length
- `hexadecimal`: hexadecimal text of an integer, padded with zeros
-/

namespace HidDescriptor
namespace Numeral

/-! ## Digits -/

/-- The digits of a number in a base of at least two, the most significant first. -/
def digits (base n : Nat) : List Nat :=
  if _h : base < 2 ∨ n < base then [n]
  else digits base (n / base) ++ [n % base]
termination_by n
decreasing_by
  exact Nat.div_lt_self (by omega) (by omega)

/-- The number that digits denote in a base, the most significant digit first. -/
def value (base : Nat) (ds : List Nat) : Nat :=
  ds.foldl (fun v d => base * v + d) 0

def decimalDigit? (c : Char) : Option Nat :=
  if '0' ≤ c && c ≤ '9' then some (c.toNat - 0x30) else none

/-- The value of an ASCII hexadecimal digit of either case. -/
def hexDigit? (c : Char) : Option Nat :=
  if '0' ≤ c && c ≤ '9' then some (c.toNat - 0x30)
  else if 'a' ≤ c && c ≤ 'f' then some (c.toNat - 0x57)
  else if 'A' ≤ c && c ≤ 'F' then some (c.toNat - 0x37)
  else none

/-! ## Text of a number -/

/-- The most decimal digits that a number is read from or written with. -/
def digitLimit : Nat := 4300

/-- Whether an integer may be written in decimal. -/
def printable (n : Int) : Bool :=
  n.natAbs < Nat.pow 10 digitLimit

def sign (n : Int) : List Char :=
  if n < 0 then ['-'] else []

def decimal (n : Int) : String :=
  String.ofList (sign n ++ (digits 10 n.natAbs).map Text.hexDigit)

def padLeft (width : Nat) (fill : Char) (cs : List Char) : List Char :=
  List.replicate (width - cs.length) fill ++ cs

/-- Lower case hexadecimal text of an integer. The width counts the sign, and zeros stand between
the sign and the digits. -/
def hexadecimal (width : Nat) (n : Int) : String :=
  let s := sign n
  String.ofList (s ++ padLeft (width - s.length) '0' ((digits 16 n.natAbs).map Text.hexDigit))

end Numeral
end HidDescriptor
