import HidDescriptor.Proofs.Literals
import HidDescriptor.Proofs.LowerCase
import HidDescriptor.Proofs.Numerals
import Mathlib.Data.List.Induction
import Mathlib.Data.Nat.Digits.Defs

/-!
# Literals and their spellings

Which texts are numeric literals, and which numbers they stand for.

- `Numeral.place`, `Numeral.positional`: digits and the number that they denote by their positions
- `Literal.Spelling`: a literal in its parts, with its text and its value
- `Literal.Spelling.readChars_text`: the text of a spelling is read as its value
- `Literal.exists_spelling`: nothing else is read as a number
- `Literal.readChars_map_toLower`: letter case does not matter
- `Literal.Spelling.ofInt`: the literals that integers are printed as
- `Literal.read_grammar`: the grammar of literals, with their values
-/

namespace HidDescriptor

/-! ## Digits -/

namespace Numeral

def IsHexadecimal (c : Char) : Prop :=
  IsDecimal c ∨ 'a' ≤ c ∧ c ≤ 'f' ∨ 'A' ≤ c ∧ c ≤ 'F'

instance (c : Char) : Decidable (IsDecimal c) :=
  inferInstanceAs (Decidable (_ ∧ _))

instance (c : Char) : Decidable (IsHexadecimal c) :=
  inferInstanceAs (Decidable (_ ∨ _))

def digitChars : List Char :=
  ['0', '1', '2', '3', '4', '5', '6', '7', '8', '9', 'a', 'b', 'c', 'd', 'e', 'f']

/-- The value of a digit is its place among the digits. -/
def place (c : Char) : Nat :=
  digitChars.idxOf c.toLower

/-- The number that digits denote by their positions, the last digit being that of the ones. -/
def positional (base : Nat) (cs : List Char) : Nat :=
  Nat.ofDigits base (cs.reverse.map place)

/-- What holds of the characters of ASCII, and of those without a lower case in ASCII, holds of all
characters. -/
theorem char_cases {P : Char → Prop} (hascii : ∀ n < 0x80, P (Char.ofNat n))
    (hfixed : ∀ c : Char, 0x80 ≤ c.toNat → c.toLower = c → P c) (c : Char) : P c := by
  by_cases hc : c.toNat < 0x80
  · rw [← Char.ofNat_toNat c]
    exact hascii c.toNat hc
  · exact hfixed c (by omega) (Text.toLower_of_not_capital (by omega))

theorem not_le_of_ascii {c : Char} (hc : 0x80 ≤ c.toNat) (limit : Char)
    (hlimit : limit.toNat < 0x80) : ¬ c ≤ limit := by
  intro hle
  have hnat : c.toNat ≤ limit.toNat := hle
  omega

theorem decimalDigit?_eq (c : Char) :
    decimalDigit? c = if IsDecimal c then some (place c) else none := by
  revert c
  refine char_cases (by decide) ?_
  intro c hc _
  have hnine := not_le_of_ascii hc '9' (by decide)
  simp [decimalDigit?, IsDecimal, hnine]

theorem hexDigit?_eq (c : Char) :
    hexDigit? c = if IsHexadecimal c then some (place c) else none := by
  revert c
  refine char_cases (by decide) ?_
  intro c hc _
  have hnine := not_le_of_ascii hc '9' (by decide)
  have hsmall := not_le_of_ascii hc 'f' (by decide)
  have hcapital := not_le_of_ascii hc 'F' (by decide)
  simp [hexDigit?, IsHexadecimal, IsDecimal, hnine, hsmall, hcapital]

/-- The running value of digits is the number that they denote by their positions. -/
theorem value_map_place (base : Nat) (cs : List Char) :
    value base (cs.map place) = positional base cs := by
  induction cs using List.reverseRecOn with
  | nil =>
      rfl
  | append_singleton cs c ih =>
      rw [List.map_append, List.map_singleton, value_concat, ih]
      simp [positional, Nat.ofDigits_cons, Nat.add_comm]

end Numeral

/-- A traversal by digits gives their values if and only if all characters are digits. -/
theorem mapM_eq_some_iff_of_eq_ite {f : Char → Option Nat} {P : Char → Prop} [DecidablePred P]
    {g : Char → Nat} (hf : ∀ c, f c = if P c then some (g c) else none) {cs : List Char}
    {ds : List Nat} : cs.mapM f = some ds ↔ (∀ c ∈ cs, P c) ∧ ds = cs.map g := by
  induction cs generalizing ds with
  | nil =>
      simp [eq_comm]
  | cons c rest ih =>
      rw [List.mapM_cons, hf c, List.forall_mem_cons, List.map_cons]
      by_cases hc : P c
      · rw [if_pos hc]
        cases hrest : rest.mapM f with
        | none =>
            have hnot : ¬ ∀ c ∈ rest, P c := by
              intro hall
              rw [ih.2 ⟨hall, rfl⟩] at hrest
              cases hrest
            simp [hnot]
        | some others =>
            rcases ih.1 hrest with ⟨hall, rfl⟩
            constructor
            · intro h
              exact ⟨⟨hc, hall⟩, (Option.some.inj h).symm⟩
            · rintro ⟨_, rfl⟩
              rfl
      · simp [hc]

namespace Literal

open Numeral

/-! ## Spellings -/

/-- What stands in front of the digits: nothing for decimal ones, and `0x` or `0X` for hexadecimal
ones. -/
inductive Mark
  | decimal
  | hexadecimal (capital : Bool)
  deriving DecidableEq

namespace Mark

def text : Mark → List Char
  | decimal => []
  | hexadecimal false => ['0', 'x']
  | hexadecimal true => ['0', 'X']

def base : Mark → Nat
  | decimal => 10
  | hexadecimal _ => 16

def IsDigit : Mark → Char → Prop
  | decimal, c => IsDecimal c
  | hexadecimal _, c => IsHexadecimal c

instance (mark : Mark) (c : Char) : Decidable (mark.IsDigit c) :=
  match mark with
  | decimal => inferInstanceAs (Decidable (IsDecimal c))
  | hexadecimal _ => inferInstanceAs (Decidable (IsHexadecimal c))

/-- How many digits may follow the mark: only those of decimal literals are limited in number. -/
def Admits (mark : Mark) (count : Nat) : Prop :=
  mark = decimal → count ≤ 4300

instance (mark : Mark) (count : Nat) : Decidable (mark.Admits count) :=
  inferInstanceAs (Decidable (_ → _))

theorem admits_decimal_iff {count : Nat} : decimal.Admits count ↔ count ≤ 4300 :=
  ⟨fun h => h rfl, fun h _ => h⟩

theorem admits_hexadecimal (capital : Bool) (count : Nat) : (hexadecimal capital).Admits count :=
  nofun

theorem ne_of_isDigit {mark : Mark} {c : Char} (h : mark.IsDigit c) : c ≠ '\n' ∧ c ≠ '-' := by
  have hdigit : IsHexadecimal c := by
    cases mark with
    | decimal =>
        exact Or.inl h
    | hexadecimal capital =>
        exact h
  constructor
  · rintro rfl
    exact absurd hdigit (by decide)
  · rintro rfl
    exact absurd hdigit (by decide)

end Mark

/-- A literal in its parts: sign, mark, digits, and a line feed at the end. -/
structure Spelling where
  negative : Bool
  mark : Mark
  digits : List Char
  feed : Bool
  digits_ne_nil : digits ≠ []
  isDigit : ∀ c ∈ digits, mark.IsDigit c

namespace Spelling

def text (s : Spelling) : List Char :=
  (if s.negative then ['-'] else []) ++ s.mark.text ++ s.digits ++ (if s.feed then ['\n'] else [])

def value (s : Spelling) : Int :=
  if s.negative then -(positional s.mark.base s.digits : Int)
  else (positional s.mark.base s.digits : Int)

end Spelling

/-! ## Unsigned literals -/

theorem digitsOf?_eq_some_iff {f : Char → Option Nat} {P : Char → Prop} [DecidablePred P]
    (hf : ∀ c, f c = if P c then some (place c) else none) {cs : List Char} {ds : List Nat} :
    digitsOf? f cs = some ds ↔ cs ≠ [] ∧ (∀ c ∈ cs, P c) ∧ ds = cs.map place := by
  unfold digitsOf?
  cases cs with
  | nil =>
      simp
  | cons c rest =>
      rw [if_neg (by simp), mapM_eq_some_iff_of_eq_ite hf]
      simp

theorem dec?_eq_some_iff {cs : List Char} {ds : List Nat} :
    dec? cs = some ds ↔ cs ≠ [] ∧ (∀ c ∈ cs, IsDecimal c) ∧ ds = cs.map place :=
  digitsOf?_eq_some_iff decimalDigit?_eq

theorem hex?_eq_some_iff {cs : List Char} {ds : List Nat} :
    hex? cs = some ds ↔ ∃ capital digits, cs = (Mark.hexadecimal capital).text ++ digits ∧
      digits ≠ [] ∧ (∀ c ∈ digits, IsHexadecimal c) ∧ ds = digits.map place := by
  constructor
  · intro h
    unfold hex? at h
    split at h
    next x digits =>
      split at h
      next hmark =>
        have hdigits := (digitsOf?_eq_some_iff hexDigit?_eq).1 h
        rcases (by simpa using hmark : x = 'x' ∨ x = 'X') with rfl | rfl
        · exact ⟨false, digits, rfl, hdigits⟩
        · exact ⟨true, digits, rfl, hdigits⟩
      next =>
        cases h
    next =>
      cases h
  · rintro ⟨capital, digits, rfl, hdigits⟩
    have hread := (digitsOf?_eq_some_iff hexDigit?_eq).2 hdigits
    cases capital with
    | false =>
        exact hread
    | true =>
        exact hread

/-- Digits behind their mark are read as the number that they denote, unless they are decimal and too
many. -/
theorem magnitude_text {mark : Mark} {digits : List Char} (hne : digits ≠ [])
    (hall : ∀ c ∈ digits, mark.IsDigit c) :
    magnitude (mark.text ++ digits) =
      if mark.Admits digits.length then .ok (some (positional mark.base digits))
      else .error (.longNumeral digits.length) := by
  cases mark with
  | decimal =>
      have hdec : dec? digits = some (digits.map place) := dec?_eq_some_iff.2 ⟨hne, hall, rfl⟩
      simp only [Mark.text, List.nil_append, magnitude, hex?_of_isDecimal hall, hdec, digitLimit,
        List.length_map, value_map_place, Mark.base, Mark.admits_decimal_iff]
      by_cases hlimit : digits.length ≤ 4300
      · rw [if_neg (by omega), if_pos hlimit]
      · rw [if_pos (by omega), if_neg hlimit]
  | hexadecimal capital =>
      have hhex : hex? ((Mark.hexadecimal capital).text ++ digits) = some (digits.map place) :=
        hex?_eq_some_iff.2 ⟨capital, digits, rfl, hne, hall, rfl⟩
      rw [if_pos (Mark.admits_hexadecimal _ _)]
      simp only [magnitude, hhex, value_map_place, Mark.base]

/-- Only digits behind their mark are read as a number or refused. -/
theorem exists_mark_of_magnitude {cs : List Char} (h : magnitude cs ≠ .ok none) :
    ∃ (mark : Mark) (digits : List Char), cs = mark.text ++ digits ∧ digits ≠ [] ∧
      ∀ c ∈ digits, mark.IsDigit c := by
  unfold magnitude at h
  split at h
  next ds hhex =>
    rcases hex?_eq_some_iff.1 hhex with ⟨capital, digits, hcs, hne, hall, _⟩
    exact ⟨.hexadecimal capital, digits, hcs, hne, hall⟩
  next =>
    split at h
    next =>
      exact absurd rfl h
    next ds hdec =>
      rcases dec?_eq_some_iff.1 hdec with ⟨hne, hall, _⟩
      exact ⟨.decimal, cs, rfl, hne, hall⟩

/-! ## Signed literals -/

theorem readChars_of_minus {cs body : List Char} (h : dropFeed cs = '-' :: body) :
    readChars cs = (magnitude body).map (Option.map fun n : Nat => -(n : Int)) := by
  simp only [readChars, h]
  rcases magnitude body with fault | (_ | n) <;> rfl

theorem readChars_of_no_minus {cs : List Char} (h : (dropFeed cs).head? ≠ some '-') :
    readChars cs = (magnitude (dropFeed cs)).map (Option.map fun n : Nat => (n : Int)) := by
  unfold readChars
  split
  next body hbody =>
    exact absurd (congrArg List.head? hbody) h
  next =>
    rcases magnitude (dropFeed cs) with fault | (_ | n) <;> rfl

namespace Spelling

variable (s : Spelling)

/-- A line feed counts at the end only, and digits do not end in one. -/
theorem dropFeed_text :
    dropFeed s.text = (if s.negative then ['-'] else []) ++ s.mark.text ++ s.digits := by
  unfold text
  cases s.feed with
  | true =>
      exact dropFeed_append_feed _
  | false =>
      rw [if_neg Bool.false_ne_true, List.append_nil]
      exact dropFeed_of_not_mem s.digits_ne_nil fun hfeed =>
        (Mark.ne_of_isDigit (s.isDigit _ hfeed)).1 rfl

theorem head?_mark_digits : (s.mark.text ++ s.digits).head? ≠ some '-' := by
  cases hmark : s.mark with
  | decimal =>
      intro hhead
      have hdigit := s.isDigit '-' (List.mem_of_mem_head? hhead)
      exact (Mark.ne_of_isDigit hdigit).2 rfl
  | hexadecimal capital =>
      cases capital <;> simp [Mark.text]

/-- The text of a spelling is read as its value, unless it has too many decimal digits. -/
theorem readChars_text :
    readChars s.text =
      if s.mark.Admits s.digits.length then .ok (some s.value)
      else .error (.longNumeral s.digits.length) := by
  have hdrop := s.dropFeed_text
  have hmagnitude := magnitude_text s.digits_ne_nil s.isDigit
  unfold value
  cases hnegative : s.negative with
  | true =>
      have hminus : dropFeed s.text = '-' :: (s.mark.text ++ s.digits) := by
        rw [hdrop, hnegative, if_pos rfl, List.append_assoc]
        rfl
      rw [readChars_of_minus hminus, hmagnitude]
      split <;> rfl
  | false =>
      rw [hnegative, if_neg Bool.false_ne_true, List.nil_append] at hdrop
      rw [readChars_of_no_minus (hdrop ▸ s.head?_mark_digits), hdrop, hmagnitude]
      split <;> rfl

end Spelling

/-- What is read as a number, or refused, is the text of a spelling. -/
theorem exists_spelling {cs : List Char} (h : readChars cs ≠ .ok none) :
    ∃ s : Spelling, cs = s.text := by
  rcases dropFeed_cases cs with ⟨feed, hfeed, hcs⟩
  obtain ⟨ends, rfl⟩ : ∃ ends : Bool, feed = if ends then ['\n'] else [] := by
    rcases hfeed with rfl | rfl
    · exact ⟨false, rfl⟩
    · exact ⟨true, rfl⟩
  unfold readChars at h
  split at h
  next body hbody =>
    have hsome : magnitude body ≠ .ok none := by
      intro hnone
      rw [hnone] at h
      exact h rfl
    rcases exists_mark_of_magnitude hsome with ⟨mark, digits, rfl, hne, hall⟩
    refine ⟨⟨true, mark, digits, ends, hne, hall⟩, ?_⟩
    rw [hcs, hbody]
    simp [Spelling.text]
  next =>
    have hsome : magnitude (dropFeed cs) ≠ .ok none := by
      intro hnone
      rw [hnone] at h
      exact h rfl
    rcases exists_mark_of_magnitude hsome with ⟨mark, digits, hbody, hne, hall⟩
    refine ⟨⟨false, mark, digits, ends, hne, hall⟩, ?_⟩
    rw [hcs, hbody]
    simp [Spelling.text]

/-! ## Letter case -/

/-- Only itself has a character below the letters as its lower case. -/
theorem toLower_eq_iff {c mark : Char} (hmark : mark.toNat < 0x41) : c.toLower = mark ↔ c = mark := by
  constructor
  · rintro rfl
    rcases Text.toLower_cases c with ⟨hlow, _⟩ | ⟨hsame, _⟩
    · omega
    · exact hsame.symm
  · rintro rfl
    exact Text.toLower_of_not_capital (by omega)

theorem dropFeed_map_toLower (cs : List Char) :
    dropFeed (cs.map Char.toLower) = (dropFeed cs).map Char.toLower := by
  have hlast : (cs.map Char.toLower).getLast? = some '\n' ↔ cs.getLast? = some '\n' := by
    simp [List.getLast?_map, Option.map_eq_some_iff, toLower_eq_iff (show '\n'.toNat < 0x41 by decide)]
  unfold dropFeed
  by_cases hfeed : cs.getLast? = some '\n'
  · rw [if_pos (hlast.2 hfeed), if_pos hfeed, List.map_dropLast]
  · rw [if_neg fun h => hfeed (hlast.1 h), if_neg hfeed]

theorem digitsOf?_map_toLower {f : Char → Option Nat} (hf : ∀ c, f c.toLower = f c) (cs : List Char) :
    digitsOf? f (cs.map Char.toLower) = digitsOf? f cs := by
  have hcomp : f ∘ Char.toLower = f := funext hf
  unfold digitsOf?
  rw [List.mapM_map, hcomp, List.isEmpty_map]

theorem decimalDigit?_toLower : ∀ c : Char, decimalDigit? c.toLower = decimalDigit? c := by
  refine char_cases (by decide) ?_
  intro c _ hfixed
  rw [hfixed]

theorem hexDigit?_toLower : ∀ c : Char, hexDigit? c.toLower = hexDigit? c := by
  refine char_cases (by decide) ?_
  intro c _ hfixed
  rw [hfixed]

theorem toLower_mark_iff : ∀ c : Char, c.toLower = 'x' ∨ c.toLower = 'X' ↔ c = 'x' ∨ c = 'X' := by
  refine char_cases (by decide) ?_
  intro c _ hfixed
  rw [hfixed]

theorem hex?_cons_cons (c x : Char) (cs : List Char) :
    hex? (c :: x :: cs) =
      if c = '0' ∧ (x = 'x' ∨ x = 'X') then digitsOf? hexDigit? cs else none := by
  by_cases hc : c = '0'
  · subst hc
    simp [hex?]
  · rw [if_neg fun h => hc h.1]
    unfold hex?
    split
    next heq =>
      exact absurd (List.cons.inj heq).1 hc
    next =>
      rfl

theorem hex?_map_toLower (cs : List Char) : hex? (cs.map Char.toLower) = hex? cs := by
  match cs with
  | [] =>
      rfl
  | [c] =>
      simp [hex?]
  | c :: x :: rest =>
      simp only [List.map_cons, hex?_cons_cons, toLower_mark_iff,
        toLower_eq_iff (show '0'.toNat < 0x41 by decide), digitsOf?_map_toLower hexDigit?_toLower]

theorem magnitude_map_toLower (cs : List Char) :
    magnitude (cs.map Char.toLower) = magnitude cs := by
  unfold magnitude
  rw [hex?_map_toLower, dec?, digitsOf?_map_toLower decimalDigit?_toLower]
  rfl

theorem readChars_map_toLower (cs : List Char) : readChars (cs.map Char.toLower) = readChars cs := by
  have hdrop := dropFeed_map_toLower cs
  by_cases hhead : (dropFeed cs).head? = some '-'
  · rcases List.head?_eq_some_iff.1 hhead with ⟨body, hbody⟩
    rw [hbody, List.map_cons] at hdrop
    rw [readChars_of_minus hdrop, readChars_of_minus hbody, magnitude_map_toLower]
  · have hhead' : (dropFeed (cs.map Char.toLower)).head? ≠ some '-' := by
      rw [hdrop, List.head?_map]
      intro h
      rcases Option.map_eq_some_iff.1 h with ⟨c, hc, hlower⟩
      rw [(toLower_eq_iff (by decide)).1 hlower] at hc
      exact hhead hc
    rw [readChars_of_no_minus hhead, readChars_of_no_minus hhead', hdrop, magnitude_map_toLower]

/-! ## Printed integers -/

theorem place_hexDigit : ∀ d < 16, place (Text.hexDigit d) = d := by
  decide

theorem Mark.base_bounds (mark : Mark) : 2 ≤ mark.base ∧ mark.base ≤ 16 := by
  cases mark <;> simp [Mark.base]

theorem Mark.isDigit_hexDigit {mark : Mark} {d : Nat} (h : d < mark.base) :
    mark.IsDigit (Text.hexDigit d) := by
  have hdecimal : ∀ d < 10, IsDecimal (Text.hexDigit d) := by
    decide
  have hhexadecimal : ∀ d < 16, IsHexadecimal (Text.hexDigit d) := by
    decide
  cases mark with
  | decimal =>
      exact hdecimal d h
  | hexadecimal capital =>
      exact hhexadecimal d h

/-- Printed digits denote the number that was printed. -/
theorem positional_digits {base : Nat} (hbase : 2 ≤ base ∧ base ≤ 16) (n : Nat) :
    positional base ((digits base n).map Text.hexDigit) = n := by
  have hplaces : ((digits base n).map Text.hexDigit).map place = digits base n := by
    rw [List.map_map, List.map_congr_left, List.map_id]
    intro d hd
    have hlt : d < base := digits_lt hbase.1 hd
    exact place_hexDigit d (by omega)
  rw [← value_map_place, hplaces, value_digits]

namespace Spelling

def ofInt (mark : Mark) (n : Int) : Spelling where
  negative := decide (n < 0)
  mark := mark
  digits := (Numeral.digits mark.base n.natAbs).map Text.hexDigit
  feed := false
  digits_ne_nil := by
    simp [Numeral.digits_ne_nil]
  isDigit := by
    intro c hc
    rcases List.mem_map.1 hc with ⟨d, hd, rfl⟩
    exact Mark.isDigit_hexDigit (Numeral.digits_lt mark.base_bounds.1 hd)

theorem value_ofInt (mark : Mark) (n : Int) : (ofInt mark n).value = n := by
  simp only [value, ofInt, positional_digits mark.base_bounds, decide_eq_true_eq]
  split <;> omega

theorem text_ofInt (mark : Mark) (n : Int) :
    (ofInt mark n).text =
      sign n ++ mark.text ++ (Numeral.digits mark.base n.natAbs).map Text.hexDigit := by
  simp [text, ofInt, sign]

def withZeros (s : Spelling) (count : Nat) : Spelling where
  negative := s.negative
  mark := s.mark
  digits := List.replicate count '0' ++ s.digits
  feed := s.feed
  digits_ne_nil := by
    simp [s.digits_ne_nil]
  isDigit := by
    intro c hc
    rcases List.mem_append.1 hc with hc | hc
    · rw [List.eq_of_mem_replicate hc]
      exact Mark.isDigit_hexDigit (d := 0) (by have := s.mark.base_bounds; omega)
    · exact s.isDigit c hc

theorem value_withZeros (s : Spelling) (count : Nat) : (s.withZeros count).value = s.value := by
  have hzero : place '0' = 0 := by
    decide
  have hdigits : positional s.mark.base (List.replicate count '0' ++ s.digits) =
      positional s.mark.base s.digits := by
    rw [← value_map_place, List.map_append, List.map_replicate, hzero, value_zeros, value_map_place]
  simp only [value, withZeros, hdigits]

end Spelling

def hexText (n : Int) : String :=
  String.ofList (sign n ++ ['0', 'x'] ++ (Numeral.digits 16 n.natAbs).map Text.hexDigit)

/-! ## The grammar of literals -/

section Grammar

variable {token : String} {s : Spelling}

theorem read_of_text (h : token.toList = s.text) :
    read token =
      if s.mark.Admits s.digits.length then .ok (some s.value)
      else .error (.longNumeral s.digits.length) := by
  rw [read, h, s.readChars_text]

theorem read_of_admits (h : token.toList = s.text) (hadmits : s.mark.Admits s.digits.length) :
    read token = .ok (some s.value) := by
  rw [read_of_text h, if_pos hadmits]

theorem read_eq_none_iff : read token = .ok none ↔ ¬ ∃ s : Spelling, token.toList = s.text := by
  constructor
  · rintro hread ⟨s, hs⟩
    rw [read_of_text hs] at hread
    split at hread <;> cases hread
  · intro hnot
    by_contra hread
    exact hnot (exists_spelling hread)

theorem read_eq_some_iff {value : Int} :
    read token = .ok (some value) ↔
      ∃ s : Spelling, token.toList = s.text ∧ s.mark.Admits s.digits.length ∧ value = s.value := by
  constructor
  · intro hread
    have hsome : read token ≠ .ok none := by
      simp [hread]
    rcases exists_spelling hsome with ⟨s, hs⟩
    rw [read_of_text hs] at hread
    split at hread
    next hadmits =>
      cases hread
      exact ⟨s, hs, hadmits, rfl⟩
    next =>
      cases hread
  · rintro ⟨s, hs, hadmits, rfl⟩
    exact read_of_admits hs hadmits

theorem read_eq_error_iff_text {fault : Fault} :
    read token = .error fault ↔
      ∃ s : Spelling, token.toList = s.text ∧ ¬ s.mark.Admits s.digits.length ∧
        fault = .longNumeral s.digits.length := by
  constructor
  · intro hread
    have hsome : read token ≠ .ok none := by
      simp [hread]
    rcases exists_spelling hsome with ⟨s, hs⟩
    rw [read_of_text hs] at hread
    split at hread
    next =>
      cases hread
    next hnot =>
      cases hread
      exact ⟨s, hs, hnot, rfl⟩
  · rintro ⟨s, hs, hnot, rfl⟩
    rw [read_of_text hs, if_neg hnot]

end Grammar

/-- A text stands for a number if and only if it is a sign or nothing, a mark with digits of its kind,
and a line feed or nothing, where decimal digits are limited in number. The number is what the digits
denote by their positions, with the sign. So integers are read as they are printed, and neither zeros in
front nor the case of letters change what is read. -/
theorem read_grammar :
    (∀ token value, read token = .ok (some value) ↔
      ∃ s : Spelling, token.toList = s.text ∧ s.mark.Admits s.digits.length ∧ value = s.value) ∧
    (∀ token fault, read token = .error fault ↔
      ∃ s : Spelling, token.toList = s.text ∧ ¬ s.mark.Admits s.digits.length ∧
        fault = .longNumeral s.digits.length) ∧
    (∀ token, read token = .ok none ↔ ¬ ∃ s : Spelling, token.toList = s.text) ∧
    (∀ n : Int, read (hexText n) = .ok (some n)) ∧
    (∀ n : Int, (Numeral.digits 10 n.natAbs).length ≤ 4300 → read (decimal n) = .ok (some n)) ∧
    (∀ (s : Spelling) (count : Nat), s.mark.Admits (count + s.digits.length) →
      read (String.ofList (s.withZeros count).text) = .ok (some s.value) ∧
      read (String.ofList s.text) = .ok (some s.value)) ∧
    (∀ token other : String, token.toList.map Char.toLower = other.toList.map Char.toLower →
      read token = read other) := by
  refine ⟨fun _ _ => read_eq_some_iff, fun _ _ => read_eq_error_iff_text, fun _ => read_eq_none_iff,
    ?_, ?_, ?_, ?_⟩
  · intro n
    have htext : (hexText n).toList = (Spelling.ofInt (.hexadecimal false) n).text := by
      rw [Spelling.text_ofInt, hexText, String.toList_ofList]
      rfl
    rw [read_of_admits htext (Mark.admits_hexadecimal _ _), Spelling.value_ofInt]
  · intro n hlength
    have htext : (decimal n).toList = (Spelling.ofInt .decimal n).text := by
      rw [Spelling.text_ofInt, decimal, String.toList_ofList, Mark.text, List.append_nil]
      rfl
    have hadmits : Mark.decimal.Admits (Spelling.ofInt .decimal n).digits.length := by
      rw [Mark.admits_decimal_iff, Spelling.ofInt, List.length_map]
      exact hlength
    rw [read_of_admits htext hadmits, Spelling.value_ofInt]
  · -- Zeros in front count as digits, so the limit is that of the longer spelling.
    intro s count hadmits
    have hzeros : s.mark.Admits (s.withZeros count).digits.length := by
      simpa [Spelling.withZeros] using hadmits
    have hadmits' : s.mark.Admits s.digits.length := fun hmark => by
      have := hadmits hmark
      omega
    refine ⟨?_, read_of_admits String.toList_ofList hadmits'⟩
    rw [← s.value_withZeros count]
    exact read_of_admits String.toList_ofList hzeros
  · intro token other hcase
    rw [read, ← readChars_map_toLower, hcase, readChars_map_toLower]
    rfl

/-- A literal with all parts, the same literal in other letters, and a printed integer. -/
theorem read_grammar_feed :
    read "-0X00fF\n" = .ok (some (-255)) ∧ read "-0x00Ff\n" = .ok (some (-255)) ∧
      (Numeral.digits 10 (-42 : Int).natAbs).length ≤ 4300 ∧
      read (decimal (-42)) = .ok (some (-42)) := by
  let s : Spelling :=
    { negative := true
      mark := .hexadecimal true
      digits := ['0', '0', 'f', 'F']
      feed := true
      digits_ne_nil := by
        simp
      isDigit := by
        simp only [List.forall_mem_cons, List.not_mem_nil, false_implies, implies_true, and_true]
        decide }
  have hdigits : (Numeral.digits 10 (-42 : Int).natAbs).length ≤ 4300 := by
    show (Numeral.digits 10 42).length ≤ 4300
    rw [Numeral.digits, dif_neg (by decide), Numeral.digits, dif_pos (by decide)]
    decide
  rcases read_grammar with ⟨hsome, _, _, _, hdecimal, _, hcase⟩
  have hread : read "-0X00fF\n" = .ok (some (-255)) :=
    (hsome _ _).2 ⟨s, by decide, by decide, by decide⟩
  have hother : read "-0x00Ff\n" = read "-0X00fF\n" := hcase _ _ (by decide)
  exact ⟨hread, hother.trans hread, hdigits, hdecimal (-42) hdigits⟩

end Literal
end HidDescriptor
