import HidDescriptor.Numeral

/-!
# Double precision numbers

Numbers with a fraction occur in table files. They are kept exactly, as a mantissa below `2 ^ 53`
times a power of two, and written with the fewest digits that read back as the same number.

- `Binary64`: finite numbers, infinities, and the undefined number
- `ofDecimal`: the nearest number to a decimal fraction, ties to the even mantissa
- `read?`: the number of a decimal numeral
- `addMultiple`: sums of numbers that are not negative
- `truncate?`: the whole part of a number
- `shortest`, `text`: the decimal text of a number
-/

namespace HidDescriptor

/-- A double precision number. A finite one is `mantissa * 2 ^ exponent`, with a sign that zero
has too. -/
inductive Binary64
  | undefined
  | infinite (negative : Bool)
  | finite (negative : Bool) (mantissa : Nat) (exponent : Int)
  deriving DecidableEq, Repr

namespace Binary64

/-! ## Rounding -/

def minExponent : Int := -1074

def maxExponent : Int := 971

def scaled (num den : Nat) (power : Int) : Nat × Nat :=
  if 0 ≤ power then (num * Nat.pow 2 power.toNat, den)
  else (num, den * Nat.pow 2 (-power).toNat)

/-- The whole number nearest to a fraction, ties to the even one. -/
def roundToEven (num den : Nat) : Nat :=
  let whole := num / den
  let rest := num % den
  if 2 * rest < den then whole
  else if den < 2 * rest then whole + 1
  else whole + whole % 2

def ofFraction (negative : Bool) (num den : Nat) : Binary64 :=
  if num = 0 then .finite negative 0 minExponent
  else
    -- The power of two below the fraction is the guess or the one before it.
    let guess : Int := (Nat.log2 num : Int) - Nat.log2 den
    let (n, d) := scaled num den (-guess)
    let top := if n < d then guess - 1 else guess
    let exponent := max (top - 52) minExponent
    let (n, d) := scaled num den (-exponent)
    let mantissa := roundToEven n d
    -- Rounding up may carry into a further bit.
    let (mantissa, exponent) :=
      if mantissa = Nat.pow 2 53 then (Nat.pow 2 52, exponent + 1) else (mantissa, exponent)
    if maxExponent < exponent then .infinite negative else .finite negative mantissa exponent

def digitCount (n : Nat) : Nat :=
  if n = 0 then 0 else (Numeral.digits 10 n).length

/-- The number nearest to `significand * 10 ^ power`. Powers far beyond the range of exponents are
decided without computing them. -/
def ofDecimal (negative : Bool) (significand : Nat) (power : Int) : Binary64 :=
  let order : Int := digitCount significand + power
  if significand = 0 || order < -330 then .finite negative 0 minExponent
  else if 310 < order then .infinite negative
  else if 0 ≤ power then ofFraction negative (significand * Nat.pow 10 power.toNat) 1
  else ofFraction negative significand (Nat.pow 10 (-power).toNat)

/-! ## Reading -/

/-- A sign in front of a numeral: whether it is a minus, and the rest. -/
def splitSign : List Char → Bool × List Char
  | '-' :: rest => (true, rest)
  | '+' :: rest => (false, rest)
  | cs => (false, cs)

def spanDigits : List Char → List Nat × List Char
  | [] => ([], [])
  | c :: rest =>
      match Numeral.decimalDigit? c with
      | none => ([], c :: rest)
      | some d =>
          let (ds, rest) := spanDigits rest
          (d :: ds, rest)

def exponentPart : List Char → Option Int
  | [] => some 0
  | e :: cs =>
      if e = 'e' || e = 'E' then
        let (negative, cs) := splitSign cs
        match spanDigits cs with
        | (d :: ds, []) =>
            let n : Int := Numeral.value 10 (d :: ds)
            some (if negative then -n else n)
        | _ => none
      else none

/-- The number of a decimal numeral with an optional sign, fraction and exponent, or of the words
`inf`, `infinity` and `nan` in any case. -/
def read? (cs : List Char) : Option Binary64 :=
  let (negative, cs) := splitSign cs
  let word := String.ofList (cs.map Char.toLower)
  if word = "nan" then some .undefined
  else if word = "inf" || word = "infinity" then some (.infinite negative)
  else
    let (whole, cs) := spanDigits cs
    let (fraction, cs) :=
      match cs with
      | '.' :: rest => spanDigits rest
      | rest => ([], rest)
    if whole.isEmpty && fraction.isEmpty then none
    else (exponentPart cs).map fun power =>
      ofDecimal negative (Numeral.value 10 (whole ++ fraction)) (power - fraction.length)

/-! ## Sums -/

/-- The number nearest to `total + digit * factor`, where the product is rounded first. Signs are
left out. -/
def addMultiple (total digit : Binary64) (factor : Nat) : Binary64 :=
  match digit with
  | finite _ mantissa exponent =>
      let (n, d) := scaled mantissa 1 exponent
      match total, ofFraction false (n * factor) d with
      | finite _ m e, finite _ m' e' =>
          let (n, d) := scaled m 1 e
          let (n', d') := scaled m' 1 e'
          ofFraction false (n * d' + n' * d) (d * d')
      | _, _ => .infinite false
  | _ => .infinite false

/-- A number with a minus in front of it, or as it is. -/
def withSign (negative : Bool) : Binary64 → Binary64
  | undefined => undefined
  | infinite s => .infinite (s != negative)
  | finite s m e => .finite (s != negative) m e

/-! ## Whole part -/

def truncate? : Binary64 → Option Int
  | finite negative mantissa exponent =>
      let (n, d) := scaled mantissa 1 exponent
      let whole : Int := (n / d : Nat)
      some (if negative then -whole else whole)
  | _ => none

def equalsInt (x : Binary64) (n : Int) : Bool :=
  match x with
  | finite negative mantissa exponent =>
      let (a, d) := scaled mantissa 1 exponent
      a == n.natAbs * d && (n == 0 || decide (n < 0) == negative)
  | _ => false

/-- Equality of numbers: the undefined number equals none, and both zeros are equal. -/
def equals : Binary64 → Binary64 → Bool
  | infinite a, infinite b => a == b
  | finite s m e, finite s' m' e' => m == m' && (m == 0 || (s == s' && e == e'))
  | _, _ => false

/-! ## Writing -/

/-- The place of the decimal point of a positive fraction `x`: the `k` with
`10 ^ (k - 1) ≤ x < 10 ^ k`. -/
def decimalPoint (num den : Nat) : Int :=
  if den ≤ num then digitCount (num / den) else 1 - (digitCount ((den - 1) / num) : Int)

def scaledTen (num den : Nat) (power : Int) : Nat × Nat :=
  if 0 ≤ power then (num * Nat.pow 10 power.toNat, den)
  else (num, den * Nat.pow 10 (-power).toNat)

/-- Whether a grid point `candidate` lies among the reals that round to a number. All three are in
quarters of the distance between neighbours at the number: `centre` is the number, `below` the
distance to the lower end, and the upper end lies two quarters above. The ends belong to it if the
mantissa is even. -/
def rounds (even : Bool) (candidate : Nat × Nat) (centre below : Nat) : Bool :=
  let (n, d) := candidate
  if even then (centre - below) * d ≤ n && n ≤ (centre + 2) * d
  else (centre - below) * d < n && n < (centre + 2) * d

/-- The digits of a positive number, as a whole number of `count` digits at most, on the coarsest
decimal grid from `count` digits on that has a point which rounds to the number. The nearer point
is taken, of two equally near ones the even one. -/
def shortestFrom (mantissa : Nat) (exponent point : Int) : (fuel count : Nat) → Nat × Int
  | 0, count =>
      let (n, d) := scaled mantissa 1 exponent
      let (n, d) := scaledTen n d (count - point)
      (roundToEven n d, point - count)
  | fuel + 1, count =>
      -- Below a power of two the neighbours are half as far apart.
      let below := if mantissa = Nat.pow 2 52 && minExponent < exponent then 1 else 2
      let quarters (candidate : Nat) : Nat × Nat :=
        let (n, d) := scaledTen candidate 1 (point - count)
        scaled n d (2 - exponent)
      let (n, d) := scaled mantissa 1 exponent
      let (n, d) := scaledTen n d (count - point)
      let low := n / d
      let good (candidate : Nat) : Bool :=
        rounds (mantissa % 2 == 0) (quarters candidate) (4 * mantissa) below
      match good low, good (low + 1) with
      | true, true => (roundToEven n d, point - count)
      | true, false => (low, point - count)
      | false, true => (low + 1, point - count)
      | false, false => shortestFrom mantissa exponent point fuel (count + 1)

/-- The fewest digits that read back as a positive number, with the power of ten they are
multiplied by. Seventeen digits always suffice. -/
def shortest (mantissa : Nat) (exponent : Int) : Nat × Int :=
  let (n, d) := scaled mantissa 1 exponent
  shortestFrom mantissa exponent (decimalPoint n d) 16 1

/-- How numbers are written: in positional notation while the decimal point stands from `least` to
`greatest`, and with an exponent of at least `exponentWidth` digits beyond. -/
structure Layout where
  least : Int
  greatest : Int
  exponentWidth : Nat

/-- Positional from 0.0001 up to sixteen digits before the point, and two digits in exponents. -/
def layout : Layout := ⟨-3, 16, 2⟩

def dropZeros (cs : List Char) : List Char :=
  (cs.reverse.dropWhile (· = '0')).reverse

/-- Text of significant digits with the decimal point at the given place. -/
def place (l : Layout) (digits : List Char) (point : Int) : List Char :=
  if point < l.least || l.greatest < point then
    let fraction := digits.drop 1
    let power := point - 1
    digits.take 1 ++ (if fraction.isEmpty then [] else '.' :: fraction) ++
      'e' :: (if power < 0 then '-' else '+') ::
      Numeral.padLeft l.exponentWidth '0' ((Numeral.digits 10 power.natAbs).map Text.hexDigit)
  else if point ≤ 0 then '0' :: '.' :: List.replicate (-point).toNat '0' ++ digits
  else if (digits.length : Int) ≤ point then
    digits ++ List.replicate (point.toNat - digits.length) '0' ++ ['.', '0']
  else digits.take point.toNat ++ '.' :: digits.drop point.toNat

def text : Binary64 → String
  | undefined => "nan"
  | infinite negative => if negative then "-inf" else "inf"
  | finite negative mantissa exponent =>
      let body :=
        if mantissa = 0 then ['0', '.', '0']
        else
          let (significand, power) := shortest mantissa exponent
          let digits := (Numeral.digits 10 significand).map Text.hexDigit
          place layout (dropZeros digits) (digits.length + power)
      String.ofList ((if negative then ['-'] else []) ++ body)

end Binary64
end HidDescriptor
