import HidDescriptor.Literal
import Mathlib.Data.List.Basic

/-!
# Numbers and their digits

Digits denote the number that they were made of, and hexadecimal text is read back to its number.

- `Numeral.value_digits`, `Numeral.digits_lt`: the digits of a number in a base
- `Numeral.hexDigit?_hexDigit`: single hexadecimal digits
- `Numeral.readHexadecimal`, `Numeral.readHexadecimal_hexadecimal`: hexadecimal text
- `Numeral.toList_hexadecimal_byte`: the two digits of a byte
-/

namespace HidDescriptor
namespace Numeral

/-! ## Digits -/

theorem value_concat (base : Nat) (ds : List Nat) (d : Nat) :
    value base (ds ++ [d]) = base * value base ds + d := by
  rw [value, value, List.foldl_append]
  rfl

/-- Zeros in front do not count. -/
theorem value_zeros (base k : Nat) (ds : List Nat) :
    value base (List.replicate k 0 ++ ds) = value base ds := by
  have hzeros : (List.replicate k 0).foldl (fun v d => base * v + d) 0 = 0 := by
    induction k with
    | zero =>
        rfl
    | succ k ih =>
        rw [List.replicate_succ, List.foldl_cons, Nat.mul_zero]
        exact ih
  rw [value, List.foldl_append, hzeros, value]

/-- Digits denote the number that they were made of. -/
theorem value_digits (base n : Nat) : value base (digits base n) = n := by
  fun_induction digits base n with
  | case1 n _ =>
      simp [value]
  | case2 n _ ih =>
      rw [value_concat, ih]
      exact Nat.div_add_mod n base

theorem digits_lt {base n d : Nat} (hbase : 2 ≤ base) (h : d ∈ digits base n) : d < base := by
  fun_induction digits base n with
  | case1 n hsmall =>
      rw [List.mem_singleton.1 h]
      omega
  | case2 n _ ih =>
      rcases List.mem_append.1 h with h | h
      · exact ih h
      · rw [List.mem_singleton.1 h]
        exact Nat.mod_lt _ (by omega)

theorem digits_ne_nil (base n : Nat) : digits base n ≠ [] := by
  unfold digits
  split <;> simp

/-! ## Hexadecimal text -/

/-- A hexadecimal digit is read back. -/
theorem hexDigit?_hexDigit : ∀ d < 16, hexDigit? (Text.hexDigit d) = some d := by
  decide

def readHexadecimal (cs : List Char) : Option Nat :=
  (Literal.digitsOf? hexDigit? cs).map (value 16)

theorem mapM_hexDigit? {ds : List Nat} (h : ∀ d ∈ ds, d < 16) :
    (ds.map Text.hexDigit).mapM hexDigit? = some ds := by
  induction ds with
  | nil =>
      rfl
  | cons d rest ih =>
      rw [List.map_cons, List.mapM_cons, hexDigit?_hexDigit d (h d List.mem_cons_self),
        ih fun d hd => h d (List.mem_cons_of_mem _ hd)]
      rfl

theorem readHexadecimal_digits {ds : List Nat} (hne : ds ≠ []) (h : ∀ d ∈ ds, d < 16) :
    readHexadecimal (ds.map Text.hexDigit) = some (value 16 ds) := by
  rw [readHexadecimal, Literal.digitsOf?, mapM_hexDigit? h]
  simp [hne]

/-- Hexadecimal text is made of digits, zeros in front included. -/
theorem toList_hexadecimal (width n : Nat) :
    (hexadecimal width n).toList =
      (List.replicate (width - (digits 16 n).length) 0 ++ digits 16 n).map Text.hexDigit := by
  have hsign : sign (n : Int) = [] := if_neg (by omega)
  have hzero : Text.hexDigit 0 = '0' := by decide
  simp [hexadecimal, hsign, padLeft, hzero]

theorem lt_of_mem_padded {width n d : Nat}
    (h : d ∈ List.replicate (width - (digits 16 n).length) 0 ++ digits 16 n) : d < 16 := by
  rcases List.mem_append.1 h with h | h
  · rw [List.eq_of_mem_replicate h]
    decide
  · exact digits_lt (by decide) h

theorem exists_of_mem_hexadecimal {width n : Nat} {c : Char}
    (h : c ∈ (hexadecimal width n).toList) : ∃ d < 16, c = Text.hexDigit d := by
  rw [toList_hexadecimal] at h
  rcases List.mem_map.1 h with ⟨d, hd, rfl⟩
  exact ⟨d, lt_of_mem_padded hd, rfl⟩

/-- Hexadecimal text is read back, whatever the width it was padded to. -/
theorem readHexadecimal_hexadecimal (width n : Nat) :
    readHexadecimal (hexadecimal width n).toList = some n := by
  have hne : List.replicate (width - (digits 16 n).length) 0 ++ digits 16 n ≠ [] := by
    simp [digits_ne_nil]
  rw [toList_hexadecimal, readHexadecimal_digits hne fun d hd => lt_of_mem_padded hd, value_zeros,
    value_digits]

/-- A byte has two hexadecimal digits. -/
theorem toList_hexadecimal_byte {n : Nat} (h : n < 256) :
    (hexadecimal 2 n).toList = [Text.hexDigit (n / 16), Text.hexDigit (n % 16)] := by
  rw [toList_hexadecimal]
  by_cases hsmall : n < 16
  · have hdigits : digits 16 n = [n] := by
      rw [digits, dif_pos (Or.inr hsmall)]
    rw [hdigits, Nat.div_eq_of_lt hsmall, Nat.mod_eq_of_lt hsmall]
    rfl
  · have hdigits : digits 16 n = [n / 16, n % 16] := by
      rw [digits, dif_neg (by omega), digits, dif_pos (by omega)]
      rfl
    rw [hdigits]
    rfl

end Numeral
end HidDescriptor
