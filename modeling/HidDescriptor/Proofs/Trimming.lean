import HidDescriptor.Text.Blank
import Mathlib.Data.List.DropRight

/-!
# Trimmed text

What is left of a text when characters of a class are cut off at its ends, and the pieces between
separators.

- `Text.span_append`, `Text.span_unique`: cutting at the start
- `Text.dropEndWhile_eq_rdropWhile`, `Text.dropEndWhile_append_run`, `Text.dropEndWhile_append_cons`:
  cutting at the end
- `Text.Trimmed`: text without blanks at its ends
- `Text.trimmed_trim`, `Text.trim_eq`, `Text.trim_append`: trimming gives such text, and it cuts off
  no more than blanks
- `Text.exists_append_trim`: a text is what trimming leaves, with blanks around
- `Text.trim_ne_nil_iff`: it leaves something of every text that is not blank
- `Text.not_mem_of_mem_splitOn`: pieces hold no separator
-/

namespace HidDescriptor
namespace Text

variable {p : Char → Bool} {cs : List Char} {c : Char}

/-! ## Starts of text -/

/-- A run of a class of characters ends where the first character outside the class stands. -/
theorem span_append {run rest : List Char} (hrun : ∀ c ∈ run, p c = true)
    (hrest : ∀ c, rest.head? = some c → p c = false) :
    (run ++ rest).takeWhile p = run ∧ (run ++ rest).dropWhile p = rest := by
  rw [List.takeWhile_append_of_pos hrun, List.dropWhile_append_of_pos hrun]
  cases rest with
  | nil =>
      simp
  | cons c rest =>
      simp [hrest c rfl]

/-- A text starts with one longest run of a class of characters. -/
theorem span_unique {run run' rest rest' : List Char} (h : run ++ rest = run' ++ rest')
    (hrun : ∀ c ∈ run, p c = true) (hrest : ∀ c, rest.head? = some c → p c = false)
    (hrun' : ∀ c ∈ run', p c = true) (hrest' : ∀ c, rest'.head? = some c → p c = false) :
    run = run' ∧ rest = rest' := by
  have hspan := span_append hrun hrest
  have hspan' := span_append hrun' hrest'
  rw [h] at hspan
  exact ⟨hspan.1.symm.trans hspan'.1, hspan.2.symm.trans hspan'.2⟩

/-! ## Ends of text -/

theorem dropEndWhile_eq_rdropWhile (p : Char → Bool) (cs : List Char) :
    dropEndWhile p cs = cs.rdropWhile p :=
  rfl

theorem exists_dropEndWhile_append (p : Char → Bool) (cs : List Char) :
    ∃ ends, cs = dropEndWhile p cs ++ ends ∧ ∀ c ∈ ends, p c = true := by
  refine ⟨cs.rtakeWhile p, ?_, fun _ => List.mem_rtakeWhile_imp⟩
  rw [dropEndWhile_eq_rdropWhile, List.rdropWhile_append_rtakeWhile]

theorem getLast?_dropEndWhile (h : (dropEndWhile p cs).getLast? = some c) : p c = false := by
  rw [dropEndWhile_eq_rdropWhile] at h
  rcases List.mem_getLast?_eq_getLast h with ⟨hne, rfl⟩
  exact Bool.eq_false_iff.2 (List.rdropWhile_last_not p cs hne)

/-- Cutting at the end takes a run of the class, and no more. -/
theorem dropEndWhile_append_run {ends : List Char} (h : ∀ c, cs.getLast? = some c → p c = false)
    (hends : ∀ c ∈ ends, p c = true) : dropEndWhile p (cs ++ ends) = cs := by
  have hreverse : (ends.reverse ++ cs.reverse).dropWhile p = cs.reverse := by
    refine (span_append ?_ ?_).2
    · intro c hc
      exact hends c (List.mem_reverse.1 hc)
    · intro c hc
      rw [List.head?_reverse] at hc
      exact h c hc
  rw [dropEndWhile, List.reverse_append, hreverse, List.reverse_reverse]

/-- What stands before a character outside the class is not touched. -/
theorem dropEndWhile_append_cons (before : List Char) (hc : p c = false) (after : List Char) :
    dropEndWhile p (before ++ c :: after) = before ++ c :: dropEndWhile p after := by
  rcases exists_dropEndWhile_append p after with ⟨ends, happend, hends⟩
  -- The last character is the last one left of `after`, or `c` itself.
  have hlast : ∀ x, (before ++ c :: dropEndWhile p after).getLast? = some x → p x = false := by
    intro x hx
    rw [List.getLast?_append_of_ne_nil _ (List.cons_ne_nil _ _), List.getLast?_cons] at hx
    cases hafter : (dropEndWhile p after).getLast? with
    | none =>
        rw [hafter] at hx
        cases hx
        exact hc
    | some y =>
        rw [hafter] at hx
        cases hx
        exact getLast?_dropEndWhile hafter
  calc
    dropEndWhile p (before ++ c :: after)
        = dropEndWhile p ((before ++ c :: dropEndWhile p after) ++ ends) := by
          rw [List.append_assoc, List.cons_append, ← happend]
    _ = before ++ c :: dropEndWhile p after := dropEndWhile_append_run hlast hends

/-- What is cut off behind a character does not depend on what stands before it. -/
theorem dropEndWhile_replace {front back behind : List Char}
    (hc : p c = false) (h : dropEndWhile p (front ++ c :: back) = front ++ c :: behind)
    (front' : List Char) : dropEndWhile p (front' ++ c :: back) = front' ++ c :: behind := by
  rw [dropEndWhile_append_cons front hc] at h
  rw [dropEndWhile_append_cons front' hc, (List.cons.inj (List.append_cancel_left h)).2]

/-! ## Text without blanks at its ends -/

/-- Neither the first nor the last character is a blank. -/
structure Trimmed (cs : List Char) : Prop where
  first : ∀ c, cs.head? = some c → isBlank c = false
  last : ∀ c, cs.getLast? = some c → isBlank c = false

/-- Trimming cuts off the blanks around a text, and no more. -/
theorem trim_append {left right : List Char} (h : Trimmed cs) (hne : cs ≠ [])
    (hleft : ∀ c ∈ left, isBlank c = true) (hright : ∀ c ∈ right, isBlank c = true) :
    trim (left ++ (cs ++ right)) = cs := by
  have hstart : trimLeft (left ++ (cs ++ right)) = cs ++ right := by
    refine (span_append hleft ?_).2
    intro c hc
    rw [List.head?_append_of_ne_nil cs hne] at hc
    exact h.first c hc
  rw [trim, hstart]
  exact dropEndWhile_append_run h.last hright

theorem trim_eq (h : Trimmed cs) : trim cs = cs := by
  by_cases hne : cs = []
  · rw [hne]
    rfl
  · simpa using trim_append h hne (List.forall_mem_nil _) (List.forall_mem_nil _)

theorem trimmed_trim (cs : List Char) : Trimmed (trim cs) := by
  refine ⟨?_, ?_⟩
  · intro c hc
    -- Cutting at the end leaves the first character in place, if it leaves any.
    rcases exists_dropEndWhile_append isBlank (trimLeft cs) with ⟨ends, happend, _⟩
    have hhead : (trimLeft cs).head? = some c := by
      rw [happend, List.head?_append]
      rw [trim, trimRight] at hc
      rw [hc]
      rfl
    have hnot := List.head?_dropWhile_not isBlank cs
    rw [trimLeft] at hhead
    rw [hhead] at hnot
    simpa using hnot
  · intro c hc
    exact getLast?_dropEndWhile hc

/-- A text is what trimming leaves of it, with blanks around. -/
theorem exists_append_trim (cs : List Char) :
    ∃ left right, cs = left ++ (trim cs ++ right) ∧ (∀ c ∈ left, isBlank c = true) ∧
      ∀ c ∈ right, isBlank c = true := by
  rcases exists_dropEndWhile_append isBlank (trimLeft cs) with ⟨right, hright, hblank⟩
  refine ⟨cs.takeWhile isBlank, right, ?_, fun c hc => List.mem_takeWhile_imp hc, hblank⟩
  calc
    cs = cs.takeWhile isBlank ++ trimLeft cs := List.takeWhile_append_dropWhile.symm
    _ = cs.takeWhile isBlank ++ (trim cs ++ right) := congrArg _ hright

theorem mem_of_mem_trim (h : c ∈ trim cs) : c ∈ cs := by
  rcases exists_append_trim cs with ⟨left, right, hcs, _, _⟩
  rw [hcs]
  exact List.mem_append_right _ (List.mem_append_left _ h)

theorem trim_ne_nil_iff : trim cs ≠ [] ↔ ∃ c ∈ cs, isBlank c = false := by
  constructor
  · intro hne
    rcases List.exists_cons_of_ne_nil hne with ⟨first, rest, htrim⟩
    refine ⟨first, mem_of_mem_trim ?_, (trimmed_trim cs).first first ?_⟩
    · rw [htrim]
      exact List.mem_cons_self
    · rw [htrim]
      rfl
  · rintro ⟨c, hc, hblank⟩ hnil
    -- If nothing is left, the text is no more than what was cut off.
    rcases exists_append_trim cs with ⟨left, right, hcs, hleft, hright⟩
    rw [hcs, hnil, List.nil_append] at hc
    have hall : isBlank c = true := (List.mem_append.1 hc).elim (hleft c) (hright c)
    rw [hblank] at hall
    cases hall

/-! ## Pieces of text -/

/-- The pieces between separators have no separator in them. -/
theorem not_mem_of_mem_splitOn {x : Char} {piece : List Char} (h : piece ∈ cs.splitOn x) :
    x ∉ piece := by
  induction cs generalizing piece with
  | nil =>
      rw [List.splitOn_nil, List.mem_singleton] at h
      simp [h]
  | cons c rest ih =>
      rw [List.splitOn_cons_eq_if_modifyHead] at h
      split at h
      next =>
        rcases List.mem_cons.1 h with rfl | hpiece
        · exact List.not_mem_nil
        · exact ih hpiece
      next hc =>
        -- The character joins the first piece of the rest.
        cases hrest : rest.splitOn x with
        | nil =>
            exact absurd hrest (List.splitOn_ne_nil x rest)
        | cons first others =>
            rw [hrest] at h ih
            rcases List.mem_cons.1 h with rfl | hpiece
            · have hfirst : x ∉ first := ih List.mem_cons_self
              have hne : x ≠ c := fun hx => hc (by simp [hx])
              simp [hne, hfirst]
            · exact ih (List.mem_cons_of_mem _ hpiece)

end Text
end HidDescriptor
