import HidDescriptor.Proofs.Payloads

/-!
# Literals that are too long

Reading a literal fails for one reason only: a decimal one has more digits than are read.

- `Literal.Overlong`: the literals with too many decimal digits
- `Literal.magnitude_eq_error_iff`, `Literal.read_eq_error_iff`: reading fails on these alone
-/

namespace HidDescriptor

/-! ## Digits -/

namespace Numeral

/-- The decimal digits of ASCII. -/
def IsDecimal (c : Char) : Prop :=
  '0' ≤ c ∧ c ≤ '9'

theorem decimalDigit?_isSome_iff {c : Char} : (decimalDigit? c).isSome = true ↔ IsDecimal c := by
  unfold decimalDigit? IsDecimal
  split
  next h =>
    simpa using h
  next h =>
    simpa using h

end Numeral

/-- A traversal gives a result for all elements or none. -/
theorem mapM_isSome_iff {α β : Type} {f : α → Option β} {xs : List α} :
    (xs.mapM f).isSome = true ↔ ∀ x ∈ xs, (f x).isSome = true := by
  induction xs with
  | nil =>
      simp
  | cons x rest ih =>
      rw [List.mapM_cons]
      cases hx : f x with
      | none =>
          simp [hx]
      | some y =>
          cases hrest : rest.mapM f with
          | none =>
              simpa [hx, hrest] using ih
          | some ys =>
              simpa [hx, hrest] using ih

theorem length_of_mapM_eq_some {α β : Type} {f : α → Option β} {xs : List α} {ys : List β}
    (h : xs.mapM f = some ys) : ys.length = xs.length := by
  induction xs generalizing ys with
  | nil =>
      cases h
      rfl
  | cons x rest ih =>
      rw [List.mapM_cons] at h
      rcases Option.bind_eq_some_iff.1 h with ⟨y, _, h⟩
      rcases Option.bind_eq_some_iff.1 h with ⟨others, hothers, h⟩
      cases h
      simp [ih hothers]

namespace Literal

open Numeral

/-- A decimal literal of more digits than are read, with or without a sign and a final line feed. -/
def Overlong (token : String) : Prop :=
  ∃ sign digits feed, token.toList = sign ++ digits ++ feed ∧ (sign = [] ∨ sign = ['-']) ∧
    (feed = [] ∨ feed = ['\n']) ∧ (∀ c ∈ digits, IsDecimal c) ∧ digitLimit < digits.length

/-! ## Unsigned literals -/

/-- Decimal digits have no mark of a hexadecimal literal. -/
theorem hex?_of_isDecimal {cs : List Char} (h : ∀ c ∈ cs, IsDecimal c) : hex? cs = none := by
  unfold hex?
  split
  next x rest =>
    have hx : IsDecimal x := h x (by simp)
    have hmark : ¬ (x = 'x' || x = 'X') = true := by
      intro hmark
      rcases (by simpa using hmark : x = 'x' ∨ x = 'X') with rfl | rfl
      · exact absurd hx.2 (by decide)
      · exact absurd hx.2 (by decide)
    rw [if_neg hmark]
  next =>
    rfl

theorem magnitude_eq_error_iff {cs : List Char} {fault : Fault} :
    magnitude cs = .error fault ↔
      (∀ c ∈ cs, IsDecimal c) ∧ digitLimit < cs.length ∧ fault = .longNumeral cs.length := by
  constructor
  · intro h
    unfold magnitude at h
    -- Hexadecimal digits are not limited in number, so what is left are decimal ones.
    split at h
    · cases h
    · split at h
      · cases h
      next ds hds =>
        unfold dec? digitsOf? at hds
        split at hds
        · cases hds
        · have hlen := length_of_mapM_eq_some hds
          have hall : ∀ c ∈ cs, IsDecimal c := by
            intro c hc
            have hsome : (cs.mapM decimalDigit?).isSome = true := by
              rw [hds]
              rfl
            exact decimalDigit?_isSome_iff.1 (mapM_isSome_iff.1 hsome c hc)
          split at h
          next hlimit =>
            cases h
            exact ⟨hall, by omega, by rw [hlen]⟩
          next =>
            cases h
  · rintro ⟨hall, hlimit, rfl⟩
    have hne : ¬ cs.isEmpty = true := by
      intro hempty
      rw [List.isEmpty_iff.1 hempty] at hlimit
      exact absurd hlimit (Nat.not_lt_zero _)
    have hsome : (cs.mapM decimalDigit?).isSome = true :=
      mapM_isSome_iff.2 fun c hc => decimalDigit?_isSome_iff.2 (hall c hc)
    rcases Option.isSome_iff_exists.1 hsome with ⟨ds, hds⟩
    have hlen := length_of_mapM_eq_some hds
    have hdec : dec? cs = some ds := by
      rw [dec?, digitsOf?, if_neg hne, hds]
    simp only [magnitude, hex?_of_isDecimal hall, hdec]
    rw [hlen, if_pos hlimit]

/-! ## Signed literals -/

theorem dropFeed_cases (cs : List Char) :
    ∃ feed, (feed = [] ∨ feed = ['\n']) ∧ cs = dropFeed cs ++ feed := by
  unfold dropFeed
  split
  next hlast =>
    rcases List.getLast?_eq_some_iff.1 hlast with ⟨body, rfl⟩
    exact ⟨['\n'], Or.inr rfl, by simp⟩
  next =>
    exact ⟨[], Or.inl rfl, by simp⟩

theorem dropFeed_append_feed (body : List Char) : dropFeed (body ++ ['\n']) = body := by
  simp [dropFeed]

theorem dropFeed_of_not_mem {front digits : List Char} (hne : digits ≠ []) (hfeed : '\n' ∉ digits) :
    dropFeed (front ++ digits) = front ++ digits := by
  unfold dropFeed
  rw [if_neg]
  intro hlast
  rw [List.getLast?_append, Option.or_of_isSome (by simpa using hne)] at hlast
  exact hfeed (List.mem_of_getLast? hlast)

/-- Reading fails on a decimal literal with too many digits, and on nothing else. -/
theorem read_eq_error_iff {token : String} {fault : Fault} :
    read token = .error fault ↔
      ∃ sign digits feed, token.toList = sign ++ digits ++ feed ∧ (sign = [] ∨ sign = ['-']) ∧
        (feed = [] ∨ feed = ['\n']) ∧ (∀ c ∈ digits, IsDecimal c) ∧
        digitLimit < digits.length ∧ fault = .longNumeral digits.length := by
  unfold read readChars
  constructor
  · intro h
    rcases dropFeed_cases token.toList with ⟨feed, hfeed, htoken⟩
    -- What follows a leading minus sign is read as an unsigned literal, and so is all else.
    split at h
    next digits hbody =>
      rcases magnitude_eq_error_iff.1 (map_eq_error_iff.1 h) with ⟨hall, hlimit, hfault⟩
      rw [hbody] at htoken
      exact ⟨['-'], digits, feed, htoken, Or.inr rfl, hfeed, hall, hlimit, hfault⟩
    next =>
      rcases magnitude_eq_error_iff.1 (map_eq_error_iff.1 h) with ⟨hall, hlimit, hfault⟩
      exact ⟨[], dropFeed token.toList, feed, htoken, Or.inl rfl, hfeed, hall, hlimit, hfault⟩
  · rintro ⟨sign, digits, feed, htoken, hsign, hfeed, hall, hlimit, rfl⟩
    have hne : digits ≠ [] := by
      rintro rfl
      exact absurd hlimit (Nat.not_lt_zero _)
    -- The last of the digits is no line feed, and the first one is no minus sign.
    have hbody : dropFeed token.toList = sign ++ digits := by
      rw [htoken]
      rcases hfeed with rfl | rfl
      · rw [List.append_nil]
        exact dropFeed_of_not_mem hne fun hfeed => absurd (hall _ hfeed).1 (by decide)
      · exact dropFeed_append_feed _
    have hmagnitude : magnitude digits = .error (.longNumeral digits.length) :=
      magnitude_eq_error_iff.2 ⟨hall, hlimit, rfl⟩
    rw [hbody]
    rcases hsign with rfl | rfl
    · rw [List.nil_append]
      split
      next body =>
        exact absurd (hall '-' (by simp)).1 (by decide)
      next =>
        rw [hmagnitude]
        rfl
    · rw [List.singleton_append]
      simp only [hmagnitude]
      rfl

end Literal
end HidDescriptor
