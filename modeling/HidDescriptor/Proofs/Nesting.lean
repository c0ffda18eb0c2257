import Mathlib.Data.List.Induction

/-!
# Nesting of brackets

Sequences in which some elements open and some close a bracket.

- `opens`, `closes`, `Nested`, `Balanced`: counting brackets
- `Matched`: the bracket in front of a sequence is closed in it
- `surplus`: the number of closing brackets without a partner, which decides `Matched`
- `unmatched`: the opening brackets that no later bracket closes, and how it grows
- `exists_last_unmatched`: the last of them is followed by balanced brackets
-/

namespace HidDescriptor

inductive Bracket
  | opening
  | closing
  deriving DecidableEq

namespace Nesting

variable {α : Type} (side : α → Option Bracket)

/-! ## Counting -/

def opens (xs : List α) : Nat :=
  xs.countP (side · = some .opening)

def closes (xs : List α) : Nat :=
  xs.countP (side · = some .closing)

/-- No closing bracket comes before the bracket it closes. -/
def Nested (xs : List α) : Prop :=
  ∀ p, p <+: xs → closes side p ≤ opens side p

/-- Every bracket has a partner. -/
def Balanced (xs : List α) : Prop :=
  Nested side xs ∧ closes side xs = opens side xs

/-- An opening bracket in front of the sequence is closed in it: all brackets in between have their
partners there. -/
def Matched (rest : List α) : Prop :=
  ∃ inner x outer, rest = inner ++ x :: outer ∧ Balanced side inner ∧ side x = some .closing

/-- The number of closing brackets without a partner. -/
def surplus : List α → Nat
  | [] => 0
  | x :: rest =>
      match side x with
      | some .opening => surplus rest - 1
      | some .closing => surplus rest + 1
      | none => surplus rest

variable {side} {x : α} {xs : List α}

theorem opens_append_singleton :
    opens side (xs ++ [x]) = opens side xs + if side x = some .opening then 1 else 0 := by
  simp [opens, List.countP_append, List.countP_cons]

theorem closes_append_singleton :
    closes side (xs ++ [x]) = closes side xs + if side x = some .closing then 1 else 0 := by
  simp [closes, List.countP_append, List.countP_cons]

theorem opens_cons :
    opens side (x :: xs) = opens side xs + if side x = some .opening then 1 else 0 := by
  simp [opens, List.countP_cons]

theorem closes_cons :
    closes side (x :: xs) = closes side xs + if side x = some .closing then 1 else 0 := by
  simp [closes, List.countP_cons]

/-! ## Closing brackets without a partner -/

theorem surplus_cons_opening (h : side x = some .opening) :
    surplus side (x :: xs) = surplus side xs - 1 := by
  simp [surplus, h]

theorem surplus_cons_closing (h : side x = some .closing) :
    surplus side (x :: xs) = surplus side xs + 1 := by
  simp [surplus, h]

theorem surplus_cons_none (h : side x = none) : surplus side (x :: xs) = surplus side xs := by
  simp [surplus, h]

/-- The surplus is the most by which closing brackets are ahead in a prefix. -/
theorem surplus_le_iff {k : Nat} :
    surplus side xs ≤ k ↔ ∀ p, p <+: xs → closes side p ≤ opens side p + k := by
  induction xs generalizing k with
  | nil =>
      simp [surplus, opens, closes]
  | cons x rest ih =>
      -- A prefix is empty, with nothing ahead, or it is `x` and a prefix of the rest.
      have hcons : (∀ p, p <+: x :: rest → closes side p ≤ opens side p + k) ↔
          ∀ p, p <+: rest → closes side (x :: p) ≤ opens side (x :: p) + k := by
        constructor
        · intro h p hp
          exact h (x :: p) ((List.prefix_cons_inj x).2 hp)
        · intro h p hp
          rcases List.prefix_cons_iff.1 hp with rfl | ⟨t, rfl, ht⟩
          · simp [closes]
          · exact h t ht
      rw [hcons]
      simp only [opens_cons, closes_cons]
      cases hx : side x with
      | none =>
          rw [surplus_cons_none hx, ih]
          simp
      | some b =>
          cases b with
          | opening =>
              rw [surplus_cons_opening hx, Nat.sub_le_iff_le_add, ih]
              simp
              grind
          | closing =>
              rw [surplus_cons_closing hx]
              cases k with
              | zero =>
                  -- The bracket in front is already ahead by one.
                  have hahead : ∃ p, p <+: rest ∧ ¬ closes side p + 1 ≤ opens side p :=
                    ⟨[], List.nil_prefix, by simp [opens]⟩
                  simpa using hahead
              | succ k =>
                  rw [Nat.add_le_add_iff_right, ih]
                  simp
                  grind

theorem nested_iff : Nested side xs ↔ surplus side xs = 0 := by
  rw [← Nat.le_zero, surplus_le_iff]
  rfl

/-- Brackets that are not nested have a first closing bracket without a partner. -/
theorem matched_of_not_nested (h : ¬ Nested side xs) : Matched side xs := by
  -- The induction is on the end of the sequence, so that the part before it is nested or not.
  induction xs using List.reverseRecOn with
  | nil =>
      exact absurd (nested_iff.2 rfl) h
  | append_singleton ys y ih =>
      by_cases hys : Nested side ys
      · -- Only the whole sequence has closing brackets ahead, so `y` is the first one too many.
        have hover : ¬ closes side (ys ++ [y]) ≤ opens side (ys ++ [y]) := by
          intro hle
          apply h
          intro p hp
          rcases List.prefix_concat_iff.1 hp with rfl | hp
          · exact hle
          · exact hys p hp
        rw [closes_append_singleton, opens_append_singleton] at hover
        have hle := hys ys List.prefix_rfl
        have hy : side y = some .closing := by
          by_contra hy
          simp [hy] at hover
          omega
        simp [hy] at hover
        exact ⟨ys, y, [], rfl, ⟨hys, by omega⟩, hy⟩
      · rcases ih hys with ⟨inner, x, outer, rfl, hinner, hx⟩
        exact ⟨inner, x, outer ++ [y], by simp, hinner, hx⟩

theorem matched_iff : Matched side xs ↔ 0 < surplus side xs := by
  constructor
  · rintro ⟨inner, x, outer, rfl, ⟨_, hcount⟩, hx⟩
    by_contra hzero
    -- Right behind the balanced part, closing brackets would be ahead by one.
    have hnested : Nested side (inner ++ x :: outer) := nested_iff.2 (by omega)
    have hle := hnested (inner ++ [x]) ⟨outer, by simp⟩
    rw [closes_append_singleton, opens_append_singleton] at hle
    simp [hx] at hle
    omega
  · intro h
    apply matched_of_not_nested
    rw [nested_iff]
    omega

instance : DecidablePred (Matched side) :=
  fun _ => decidable_of_iff _ matched_iff.symm

/-! ## Opening brackets without a partner -/

variable (side) in
/-- The opening brackets that are not matched by a later one, in order. -/
def unmatched : List α → List α
  | [] => []
  | x :: rest =>
      if side x = some .opening ∧ ¬ Matched side rest then x :: unmatched rest else unmatched rest

theorem unmatched_cons_of_ne (h : side x ≠ some .opening) :
    unmatched side (x :: xs) = unmatched side xs := by
  simp [unmatched, h]

theorem unmatched_cons_of_matched (h : 0 < surplus side xs) :
    unmatched side (x :: xs) = unmatched side xs := by
  simp [unmatched, matched_iff, h]

theorem unmatched_cons_opening (hx : side x = some .opening) (h : surplus side xs = 0) :
    unmatched side (x :: xs) = x :: unmatched side xs := by
  simp [unmatched, matched_iff, hx, h]

theorem mem_unmatched {y : α} (h : y ∈ unmatched side xs) :
    y ∈ xs ∧ side y = some .opening := by
  induction xs with
  | nil =>
      simp [unmatched] at h
  | cons x rest ih =>
      unfold unmatched at h
      split at h
      next hx =>
        rcases List.mem_cons.1 h with rfl | h
        · exact ⟨List.mem_cons_self, hx.1⟩
        · exact ⟨List.mem_cons_of_mem _ (ih h).1, (ih h).2⟩
      next =>
        exact ⟨List.mem_cons_of_mem _ (ih h).1, (ih h).2⟩

theorem surplus_append_of_ne (hx : side x ≠ some .closing) :
    surplus side (xs ++ [x]) = surplus side xs := by
  induction xs with
  | nil =>
      cases h : side x with
      | none =>
          simp [surplus, h]
      | some b =>
          cases b with
          | opening =>
              simp [surplus, h]
          | closing =>
              exact absurd h hx
  | cons y rest ih =>
      simp only [List.cons_append, surplus, ih]

/-- A closing bracket finds a partner unless there is none left. -/
theorem surplus_append_closing (hx : side x = some .closing) :
    surplus side (xs ++ [x]) =
      surplus side xs + if unmatched side xs = [] then 1 else 0 := by
  induction xs with
  | nil =>
      simp [surplus, unmatched, hx]
  | cons y rest ih =>
      rw [List.cons_append]
      cases hy : side y with
      | none =>
          rw [surplus_cons_none hy, surplus_cons_none hy, unmatched_cons_of_ne (by simp [hy]), ih]
      | some b =>
          cases b with
          | opening =>
              -- `y` is the partner of one closing bracket, if the rest leaves it any.
              rw [surplus_cons_opening hy, surplus_cons_opening hy, ih]
              rcases Nat.eq_zero_or_pos (surplus side rest) with h | h
              · rw [unmatched_cons_opening hy h, h, if_neg (List.cons_ne_nil _ _)]
                split <;> rfl
              · rw [unmatched_cons_of_matched h]
                omega
          | closing =>
              rw [surplus_cons_closing hy, surplus_cons_closing hy,
                unmatched_cons_of_ne (by simp [hy]), ih]
              omega

theorem unmatched_append_opening (hx : side x = some .opening) :
    unmatched side (xs ++ [x]) = unmatched side xs ++ [x] := by
  induction xs with
  | nil =>
      exact unmatched_cons_opening hx rfl
  | cons y rest ih =>
      have hsurplus : surplus side (rest ++ [x]) = surplus side rest :=
        surplus_append_of_ne (by simp [hx])
      simp only [List.cons_append, unmatched, matched_iff, hsurplus, ih]
      split <;> rfl

theorem unmatched_append_none (hx : side x = none) :
    unmatched side (xs ++ [x]) = unmatched side xs := by
  induction xs with
  | nil =>
      exact unmatched_cons_of_ne (by simp [hx])
  | cons y rest ih =>
      have hsurplus : surplus side (rest ++ [x]) = surplus side rest :=
        surplus_append_of_ne (by simp [hx])
      simp only [List.cons_append, unmatched, matched_iff, hsurplus, ih]

/-- A closing bracket closes the last opening one that was left. -/
theorem unmatched_append_closing (hx : side x = some .closing) :
    unmatched side (xs ++ [x]) = (unmatched side xs).dropLast := by
  induction xs with
  | nil =>
      exact unmatched_cons_of_ne (by simp [hx])
  | cons y rest ih =>
      have hsurplus : surplus side (rest ++ [x]) =
          surplus side rest + if unmatched side rest = [] then 1 else 0 :=
        surplus_append_closing hx
      rw [List.cons_append]
      by_cases hy : side y = some .opening
      · rcases Nat.eq_zero_or_pos (surplus side rest) with h | h
        · -- `y` is left over, and the new bracket closes it if nothing behind it is left over.
          rw [unmatched_cons_opening hy h]
          by_cases hrest : unmatched side rest = []
          · rw [if_pos hrest] at hsurplus
            rw [unmatched_cons_of_matched (by omega), ih, hrest]
            rfl
          · rw [if_neg hrest] at hsurplus
            rw [unmatched_cons_opening hy (by omega), ih, List.dropLast_cons_of_ne_nil hrest]
        · rw [unmatched_cons_of_matched h, unmatched_cons_of_matched (by omega), ih]
      · rw [unmatched_cons_of_ne hy, unmatched_cons_of_ne hy, ih]

/-! ## Partners -/

theorem Nested.of_append {ys : List α} (h : Nested side (xs ++ ys)) : Nested side xs :=
  fun p hp => h p (hp.trans (List.prefix_append xs ys))

/-- One more bracket keeps the nesting if it does not close what is not open. -/
theorem nested_concat_iff :
    Nested side (xs ++ [x]) ↔
      Nested side xs ∧ (side x = some .closing → unmatched side xs ≠ []) := by
  rw [nested_iff, nested_iff]
  by_cases hx : side x = some .closing
  · rw [surplus_append_closing hx]
    by_cases hxs : unmatched side xs = [] <;> simp [hx, hxs]
  · simp [surplus_append_of_ne hx, hx]

theorem surplus_append_of_nested {ys : List α} (h : Nested side ys) :
    surplus side (xs ++ ys) = surplus side xs := by
  induction xs with
  | nil =>
      exact nested_iff.1 h
  | cons y rest ih =>
      simp only [List.cons_append, surplus, ih]

theorem Balanced.append {ys : List α} (hxs : Balanced side xs) (hys : Balanced side ys) :
    Balanced side (xs ++ ys) := by
  refine ⟨?_, ?_⟩
  · rw [nested_iff, surplus_append_of_nested hys.1]
    exact nested_iff.1 hxs.1
  · have hxs := hxs.2
    have hys := hys.2
    simp only [opens, closes, List.countP_append] at hxs hys ⊢
    omega

theorem Balanced.enclose {y : α} (hxs : Balanced side xs) (hx : side x = some .opening)
    (hy : side y = some .closing) : Balanced side (x :: xs ++ [y]) := by
  refine ⟨?_, ?_⟩
  · have hone : surplus side (xs ++ [y]) ≤ 1 := by
      rw [surplus_append_closing hy, nested_iff.1 hxs.1]
      split <;> decide
    rw [nested_iff, List.cons_append, surplus_cons_opening hx]
    omega
  · rw [closes_append_singleton, opens_append_singleton, closes_cons, opens_cons, hxs.2]
    simp [hx, hy]

/-- The last bracket that is left open is followed by balanced ones. -/
theorem exists_last_unmatched (h : unmatched side xs ≠ []) :
    ∃ outer x inner, xs = outer ++ x :: inner ∧ side x = some .opening ∧ Balanced side inner ∧
      unmatched side xs = unmatched side outer ++ [x] := by
  -- The induction is on the length: a closing bracket leads back to the part before its partner.
  induction hn : xs.length using Nat.strongRecOn generalizing xs with
  | ind n ih =>
      rcases List.eq_nil_or_concat xs with rfl | ⟨ys, y, rfl⟩
      · exact absurd rfl h
      · rw [List.concat_eq_append] at *
        rw [List.length_append, List.length_singleton] at hn
        cases hy : side y with
        | none =>
            rw [unmatched_append_none hy] at h ⊢
            rcases ih _ (by omega) h rfl with ⟨outer, x, inner, rfl, hx, hinner, hleft⟩
            have hskip : Balanced side [y] := by
              refine ⟨nested_iff.2 (surplus_cons_none hy), ?_⟩
              simp [closes, opens, hy]
            exact ⟨outer, x, inner ++ [y], by simp, hx, hinner.append hskip, hleft⟩
        | some b =>
            cases b with
            | opening =>
                have hempty : Balanced side [] := ⟨nested_iff.2 rfl, rfl⟩
                exact ⟨ys, y, [], rfl, hy, hempty, unmatched_append_opening hy⟩
            | closing =>
                rw [unmatched_append_closing hy] at h ⊢
                have hys : unmatched side ys ≠ [] := by
                  intro hys
                  simp [hys] at h
                rcases ih _ (by omega) hys rfl with ⟨outer, x, inner, rfl, hx, hinner, hleft⟩
                rw [hleft, List.dropLast_concat] at h ⊢
                rw [List.length_append, List.length_cons] at hn
                rcases ih _ (by omega) h rfl with ⟨outer', x', inner', rfl, hx', hinner', hleft'⟩
                refine ⟨outer', x', inner' ++ (x :: inner ++ [y]), by simp, hx', ?_, hleft'⟩
                exact hinner'.append (hinner.enclose hx hy)

end Nesting
end HidDescriptor
