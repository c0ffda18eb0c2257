import HidDescriptor.Proofs.Trimming
import HidDescriptor.Text.LowerCase
import Mathlib.Data.List.Basic

/-!
# Lower case twice

Lower case text stays as it is when it is lower-cased again, and lower-casing makes neither blanks
nor punctuation.

- `Text.CaseRun.Clear`, `Text.clear_of_mem`: what the letters of a run become
- `Text.IsSmall`: the characters that are their own lower case
- `Text.Lowers`, `Text.exists_lowers`: what a character may become, and does become
- `Text.lower_lower`: lower case text is its own lower case
- `Text.mem_of_mem_lower`, `Text.trimmed_lower`: blanks and punctuation come from the text itself
-/

namespace HidDescriptor
namespace Text

/-! ## Runs of letters -/

namespace CaseRun

def least (r : CaseRun) : Nat :=
  ((r.first : Int) + r.offset).toNat

def greatest (r : CaseRun) : Nat :=
  ((r.last : Int) + r.offset).toNat

/-- Whether no lower case letter of a run belongs to another run: it lies before or behind that run,
or it lies between the letters of a run with every second letter. -/
def avoids (r q : CaseRun) : Bool :=
  Nat.blt r.greatest q.first || Nat.blt q.last r.least ||
    (q.stride == 2 && (r.stride == 2 || r.first == r.last) && (r.least + q.first) % 2 == 1)

/-- Code points with a meaning of their own: the blanks from next line on, and the capital I with a
dot. -/
def reserved : List (Nat × Nat) :=
  [(0x85, 0x85), (0xA0, 0xA0), (0x130, 0x130), (0x1680, 0x1680), (0x2000, 0x200A),
    (0x2028, 0x2029), (0x202F, 0x202F), (0x205F, 0x205F), (0x3000, 0x3000)]

/-- Whether the lower case letters of a run are characters from the small letters of ASCII on, and
none of them is reserved. -/
def isPlain (r : CaseRun) : Bool :=
  Nat.ble 0x61 r.least &&
    (Nat.blt r.greatest 0xD800 || (Nat.ble 0xE000 r.least && Nat.blt r.greatest 0x110000)) &&
    reserved.all fun s => Nat.blt r.greatest s.1 || Nat.blt s.2 r.least

/-- What the tables of letters are built to satisfy. -/
structure Clear (r : CaseRun) : Prop where
  plain : r.isPlain = true
  avoids : ∀ q ∈ caseRuns, r.avoids q = true

end CaseRun

theorem clear_of_mem {r : CaseRun} (hr : r ∈ caseRuns) : r.Clear := by
  have hplain : caseRuns.all CaseRun.isPlain = true := by
    decide +kernel
  have havoids : (caseRuns.all fun r => caseRuns.all r.avoids) = true := by
    decide +kernel
  exact ⟨List.all_eq_true.1 hplain r hr, List.all_eq_true.1 (List.all_eq_true.1 havoids r hr)⟩

/-- The code point that a letter of a run becomes lies in the range of the run's lower case. -/
theorem CaseRun.Clear.bounds {r : CaseRun} {n : Nat} (h : r.Clear) (hn : r.covers n = true) :
    r.least ≤ ((n : Int) + r.offset).toNat ∧ ((n : Int) + r.offset).toNat ≤ r.greatest ∧
      0x61 ≤ r.least := by
  have hplain := h.plain
  simp only [isPlain, Bool.and_eq_true, Nat.ble_eq] at hplain
  simp only [covers, Bool.and_eq_true, decide_eq_true_eq] at hn
  have hlow : 0x61 ≤ r.least := hplain.1.1
  unfold least greatest at *
  omega

theorem CaseRun.Clear.isValidChar {r : CaseRun} {n : Nat} (h : r.Clear) (hn : r.covers n = true) :
    (((n : Int) + r.offset).toNat).isValidChar := by
  have hbounds := h.bounds hn
  have hplain := h.plain
  simp only [isPlain, Bool.and_eq_true, Bool.or_eq_true, Nat.ble_eq, Nat.blt_eq] at hplain
  unfold Nat.isValidChar
  omega

/-- The lower case of a letter belongs to no run. -/
theorem CaseRun.Clear.not_covers {r q : CaseRun} {n : Nat} (h : r.Clear) (hn : r.covers n = true)
    (hq : q ∈ caseRuns) : q.covers ((n : Int) + r.offset).toNat = false := by
  have hbounds := h.bounds hn
  have havoids := h.avoids q hq
  simp only [CaseRun.avoids, Bool.or_eq_true, Bool.and_eq_true, Nat.blt_eq, beq_iff_eq] at havoids
  rw [Bool.eq_false_iff]
  intro hcovers
  simp only [covers, Bool.and_eq_true, decide_eq_true_eq, beq_iff_eq] at hn hcovers
  rcases havoids with (hbefore | hbehind) | ⟨⟨hq2, hr2⟩, hparity⟩
  · omega
  · omega
  · -- Both letters keep their distance from the start of their run even, and the starts differ.
    have heven : (n - r.first) % 2 = 0 := by
      rcases hr2 with hr2 | hsingle
      · rw [hr2] at hn
        exact hn.2
      · have hzero : n - r.first = 0 := by omega
        rw [hzero]
    rw [hq2] at hcovers
    unfold least at hparity hbounds
    omega

/-! ## Characters -/

/-- A character that is its own lower case wherever it stands. -/
structure IsSmall (c : Char) : Prop where
  letter : lowerLetter c = [c]
  ne_sigma : c ≠ capitalSigma

theorem isSmall_of_ascii {c : Char} (hc : c.toNat < 0x80) (hlower : c.toLower = c) : IsSmall c := by
  refine ⟨?_, ?_⟩
  · rw [lowerLetter, if_pos hc, hlower]
  · rintro rfl
    exact absurd hc (by decide)

theorem isSmall_of_not_covers {c : Char} (hascii : 0x80 ≤ c.toNat) (hdot : c.toNat ≠ 0x130)
    (h : ∀ q ∈ caseRuns, q.covers c.toNat = false) : IsSmall c := by
  have hnone : caseRuns.find? (·.covers c.toNat) = none := by
    rw [List.find?_eq_none]
    intro q hq
    simp [h q hq]
  refine ⟨?_, ?_⟩
  · rw [lowerLetter, if_neg (by omega), if_neg hdot, hnone]
  · -- The capital sigma is one of the letters with a lower case.
    rintro rfl
    have hsigma : (caseRuns.find? (·.covers capitalSigma.toNat)).isSome = true := by
      decide +kernel
    rw [hnone] at hsigma
    cases hsigma

theorem toNat_toLower {c : Char} (h : 0x41 ≤ c.toNat ∧ c.toNat ≤ 0x5A) :
    c.toLower.toNat = c.toNat + 0x20 := by
  have hcapital : c.val ≥ 'A'.val ∧ c.val ≤ 'Z'.val := h
  have hstep : ('a'.val - 'A'.val).toNat = 0x20 := by decide
  have hval : c.val.toNat = c.toNat := rfl
  have hlower : c.toLower = _ := dif_pos hcapital
  rw [hlower]
  show (c.val + ('a'.val - 'A'.val)).toNat = _
  rw [UInt32.toNat_add, hstep]
  omega

theorem toLower_of_not_capital {c : Char} (h : ¬ (0x41 ≤ c.toNat ∧ c.toNat ≤ 0x5A)) :
    c.toLower = c := by
  unfold Char.toLower
  exact dif_neg h

/-- The lower case of an ASCII character is a small letter, or the character itself. -/
theorem toLower_cases (c : Char) :
    (0x61 ≤ c.toLower.toNat ∧ c.toLower.toNat ≤ 0x7A) ∨
      (c.toLower = c ∧ ¬ (0x41 ≤ c.toNat ∧ c.toNat ≤ 0x5A)) := by
  by_cases h : 0x41 ≤ c.toNat ∧ c.toNat ≤ 0x5A
  · have hlower := toNat_toLower h
    exact Or.inl ⟨by omega, by omega⟩
  · exact Or.inr ⟨toLower_of_not_capital h, h⟩

/-- What a character may become: a small character, and a blank or a character below the small
letters of ASCII only if it is the character itself. -/
structure Lowers (c x : Char) : Prop where
  small : IsSmall x
  mark : x.toNat < 0x61 ∨ isBlank x = true → x = c

theorem Lowers.refl {c : Char} (h : IsSmall c) : Lowers c c :=
  ⟨h, fun _ => rfl⟩

theorem Lowers.of_letter {c x : Char} (hsmall : IsSmall x) (hlow : 0x61 ≤ x.toNat)
    (hblank : isBlank x = false) : Lowers c x := by
  refine ⟨hsmall, ?_⟩
  rintro (hx | hx)
  · omega
  · rw [hblank] at hx
    cases hx

theorem isBlank_of_ascii {c : Char} (hlow : 0x21 ≤ c.toNat) (hhigh : c.toNat < 0x80) :
    isBlank c = false := by
  simp only [isBlank, Bool.or_eq_false_iff, Bool.and_eq_false_iff, decide_eq_false_iff_not,
    beq_eq_false_iff_ne]
  omega

theorem lowers_toLower {c : Char} (hascii : c.toNat < 0x80) : Lowers c c.toLower := by
  rcases toLower_cases c with ⟨hlow, hhigh⟩ | ⟨hsame, _⟩
  · have hsmall : IsSmall c.toLower :=
      isSmall_of_ascii (by omega) (toLower_of_not_capital (by omega))
    exact .of_letter hsmall hlow (isBlank_of_ascii (by omega) (by omega))
  · rw [hsame]
    exact .refl (isSmall_of_ascii hascii hsame)

/-- No letter of a run becomes a letter of a run, a blank or punctuation. -/
theorem lowers_run {r : CaseRun} {c : Char} (hr : r ∈ caseRuns) (hc : r.covers c.toNat = true) :
    Lowers c (Char.ofNat ((c.toNat : Int) + r.offset).toNat) := by
  have hclear : r.Clear := clear_of_mem hr
  have hbounds := hclear.bounds hc
  have hnat : (Char.ofNat ((c.toNat : Int) + r.offset).toNat).toNat =
      ((c.toNat : Int) + r.offset).toNat := by
    rw [Char.ofNat, dif_pos (hclear.isValidChar hc)]
    rfl
  -- The lower case stays clear of the reserved code points, which are the blanks above ASCII.
  have hplain := hclear.plain
  simp only [CaseRun.isPlain, CaseRun.reserved, List.all_cons, List.all_nil, Bool.and_eq_true,
    Bool.or_eq_true, Nat.ble_eq, Nat.blt_eq] at hplain
  have hblank : isBlank (Char.ofNat ((c.toNat : Int) + r.offset).toNat) = false := by
    simp only [isBlank, Bool.or_eq_false_iff, Bool.and_eq_false_iff, decide_eq_false_iff_not,
      beq_eq_false_iff_ne, hnat]
    omega
  refine .of_letter ?_ (by omega) hblank
  by_cases hascii : ((c.toNat : Int) + r.offset).toNat < 0x80
  · exact isSmall_of_ascii (by omega) (toLower_of_not_capital (by omega))
  · refine isSmall_of_not_covers (by omega) (by omega) ?_
    intro q hq
    rw [hnat]
    exact hclear.not_covers hc hq

theorem lowers_of_mem_lowerLetter {c x : Char} (h : x ∈ lowerLetter c) : Lowers c x := by
  unfold lowerLetter at h
  split at h
  next hascii =>
    rw [List.mem_singleton.1 h]
    exact lowers_toLower hascii
  next hascii =>
    split at h
    next =>
      -- The capital I with a dot becomes two characters.
      have hx : x = 'i' ∨ x = Char.ofNat 0x307 := by
        simpa using h
      rcases hx with rfl | rfl
      · exact .of_letter (isSmall_of_ascii (by decide) (by decide)) (by decide) (by decide)
      · exact .of_letter ⟨by decide +kernel, by decide⟩ (by decide) (by decide)
    next hdot =>
      split at h
      next run hrun =>
        have hcovers : run.covers c.toNat = true := by
          simpa using List.find?_some hrun
        rw [List.mem_singleton.1 h]
        exact lowers_run (List.mem_of_find?_eq_some hrun) hcovers
      next hrun =>
        rw [List.mem_singleton.1 h]
        refine .refl (isSmall_of_not_covers (by omega) hdot ?_)
        intro q hq
        simpa using List.find?_eq_none.1 hrun q hq

theorem lowerLetter_ne_nil (c : Char) : lowerLetter c ≠ [] := by
  unfold lowerLetter
  split
  · simp
  · split
    · simp
    · split
      · simp
      · simp

/-! ## Texts -/

/-- What a character becomes at its place in a text. -/
def lowerAt (before : List Char) (c : Char) (after : List Char) : List Char :=
  if c = capitalSigma then [lowerSigma before after] else lowerLetter c

theorem lowerAfter_cons (before : List Char) (c : Char) (rest : List Char) :
    lowerAfter before (c :: rest) = lowerAt before c rest ++ lowerAfter (c :: before) rest :=
  rfl

theorem lowerAt_ne_nil (before : List Char) (c : Char) (after : List Char) :
    lowerAt before c after ≠ [] := by
  unfold lowerAt
  split
  · simp
  · exact lowerLetter_ne_nil c

theorem lowers_of_mem_lowerAt {before after : List Char} {c x : Char}
    (h : x ∈ lowerAt before c after) : Lowers c x := by
  unfold lowerAt at h
  split at h
  · -- Both small forms of sigma are their own lower case.
    have hx : x = 'ς' ∨ x = 'σ' := by
      have hsigma : x = lowerSigma before after := List.mem_singleton.1 h
      unfold lowerSigma at hsigma
      split at hsigma
      · exact Or.inl hsigma
      · exact Or.inr hsigma
    rcases hx with rfl | rfl
    · exact .of_letter ⟨by decide +kernel, by decide⟩ (by decide) (by decide)
    · exact .of_letter ⟨by decide +kernel, by decide⟩ (by decide) (by decide)
  · exact lowers_of_mem_lowerLetter h

/-- Every character of lower case text comes from a character of the text. -/
theorem exists_lowers {before cs : List Char} {x : Char} (h : x ∈ lowerAfter before cs) :
    ∃ c ∈ cs, Lowers c x := by
  induction cs generalizing before with
  | nil =>
      cases h
  | cons c rest ih =>
      rw [lowerAfter_cons] at h
      rcases List.mem_append.1 h with hx | hx
      · exact ⟨c, List.mem_cons_self, lowers_of_mem_lowerAt hx⟩
      · rcases ih hx with ⟨d, hd, hlowers⟩
        exact ⟨d, List.mem_cons_of_mem _ hd, hlowers⟩

theorem isSmall_of_mem_lower {cs : List Char} {x : Char} (h : x ∈ lower cs) : IsSmall x := by
  rcases exists_lowers h with ⟨c, _, hlowers⟩
  exact hlowers.small

/-- Punctuation and blanks of lower case text are those of the text. -/
theorem mem_of_mem_lower {cs : List Char} {x : Char} (h : x ∈ lower cs)
    (hx : x.toNat < 0x61 ∨ isBlank x = true) : x ∈ cs := by
  rcases exists_lowers h with ⟨c, hc, hlowers⟩
  rw [hlowers.mark hx]
  exact hc

theorem lowerAfter_of_isSmall {cs : List Char} (before : List Char) (h : ∀ c ∈ cs, IsSmall c) :
    lowerAfter before cs = cs := by
  induction cs generalizing before with
  | nil =>
      rfl
  | cons c rest ih =>
      have hc : IsSmall c := h c List.mem_cons_self
      have hrest : lowerAfter (c :: before) rest = rest :=
        ih (c :: before) fun d hd => h d (List.mem_cons_of_mem _ hd)
      rw [lowerAfter_cons, lowerAt, if_neg hc.ne_sigma, hc.letter, hrest]
      rfl

/-- Lower case text is its own lower case. -/
theorem lower_lower (cs : List Char) : lower (lower cs) = lower cs :=
  lowerAfter_of_isSmall [] fun _ hc => isSmall_of_mem_lower hc

theorem lowerAfter_ne_nil {cs : List Char} (before : List Char) (h : cs ≠ []) :
    lowerAfter before cs ≠ [] := by
  cases cs with
  | nil =>
      exact absurd rfl h
  | cons c rest =>
      rw [lowerAfter_cons]
      exact List.append_ne_nil_of_left_ne_nil (lowerAt_ne_nil before c rest) _

theorem getLast?_lowerAfter {before cs : List Char} {x : Char}
    (h : (lowerAfter before cs).getLast? = some x) : ∃ c, cs.getLast? = some c ∧ Lowers c x := by
  induction cs generalizing before with
  | nil =>
      cases h
  | cons c rest ih =>
      rw [lowerAfter_cons] at h
      cases rest with
      | nil =>
          have hx : x ∈ lowerAt before c [] := by
            simpa [lowerAfter] using List.mem_of_getLast? h
          exact ⟨c, rfl, lowers_of_mem_lowerAt hx⟩
      | cons d others =>
          -- The last character belongs to what follows the first.
          have hne : lowerAfter (c :: before) (d :: others) ≠ [] :=
            lowerAfter_ne_nil _ (List.cons_ne_nil d others)
          rw [List.getLast?_append_of_ne_nil _ hne] at h
          rcases ih h with ⟨last, hlast, hlowers⟩
          exact ⟨last, by simpa using hlast, hlowers⟩

theorem head?_lower {cs : List Char} {x : Char} (h : (lower cs).head? = some x) :
    ∃ c, cs.head? = some c ∧ Lowers c x := by
  cases cs with
  | nil =>
      cases h
  | cons c rest =>
      rw [lower, lowerAfter_cons, List.head?_append_of_ne_nil _ (lowerAt_ne_nil [] c rest)] at h
      exact ⟨c, rfl, lowers_of_mem_lowerAt (List.mem_of_head? h)⟩

theorem Lowers.isBlank_eq_false {c x : Char} (h : Lowers c x) (hc : isBlank c = false) :
    isBlank x = false := by
  rw [Bool.eq_false_iff]
  intro hblank
  rw [h.mark (Or.inr hblank), hc] at hblank
  cases hblank

/-- Lower-casing brings no blanks to the ends of a text. -/
theorem trimmed_lower {cs : List Char} (h : Trimmed cs) : Trimmed (lower cs) := by
  refine ⟨?_, ?_⟩
  · intro x hx
    rcases head?_lower hx with ⟨c, hc, hlowers⟩
    exact hlowers.isBlank_eq_false (h.first c hc)
  · intro x hx
    rcases getLast?_lowerAfter hx with ⟨c, hc, hlowers⟩
    exact hlowers.isBlank_eq_false (h.last c hc)

end Text
end HidDescriptor
