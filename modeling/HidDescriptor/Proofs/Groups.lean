import HidDescriptor.Proofs.Enumerations
import Mathlib.Data.List.Forall2

/-!
# Names that share a code

In an enumeration a code is shared by a name and its aliases, and by no others.

- `Enumeration.group`, `Enumeration.groups`: names with their aliases
- `Enumeration.hasCode_iff_group`: the code of a group
- `Enumeration.nextCode_lt_append`, `Enumeration.exists_codes`: codes rise from name to name
- `Enumeration.build_groups`: the codes that names have in common
-/

namespace HidDescriptor
namespace Enumeration

open Directive

variable {first code : Int} {before after directives : List Directive} {directive : Directive}
  {name : String}

/-! ## Groups -/

/-- A name with its aliases, which are those that follow it up to the next name. -/
def group (name : String) (after : List Directive) : List String :=
  name :: (after.takeWhile (·.assigned?.isNone)).filterMap alias?

def groups : List Directive → List (List String)
  | [] => []
  | .assign name :: rest => group name rest :: groups rest
  | _ :: rest => groups rest

theorem mem_groups_iff {members : List String} :
    members ∈ groups directives ↔
      ∃ before name after, directives = before ++ .assign name :: after ∧
        members = group name after := by
  induction directives with
  | nil =>
      simp [groups]
  | cons directive rest ih =>
      have hrest : (∃ before name after, directive :: rest = before ++ .assign name :: after ∧
          members = group name after) ↔
          (∃ name, directive = .assign name ∧ members = group name rest) ∨
            members ∈ groups rest := by
        rw [ih]
        constructor
        · rintro ⟨before, name, after, hsplit, hmembers⟩
          cases before with
          | nil =>
              cases hsplit
              exact Or.inl ⟨name, rfl, hmembers⟩
          | cons first before =>
              cases hsplit
              exact Or.inr ⟨before, name, after, rfl, hmembers⟩
        · rintro (⟨name, rfl, hmembers⟩ | ⟨before, name, after, rfl, hmembers⟩)
          · exact ⟨[], name, rest, rfl, hmembers⟩
          · exact ⟨directive :: before, name, after, rfl, hmembers⟩
      rw [hrest]
      cases directive with
      | assign name => simp [groups]
      | _ => simp [groups]

/-- All names of a group have the code of its first one. -/
theorem hasCode_iff_group :
    HasCode first directives name code ↔
      ∃ before target after, directives = before ++ .assign target :: after ∧
        name ∈ group target after ∧ code = nextCode first before := by
  constructor
  · intro h
    cases h with
    | assign hsplit hcode =>
        exact ⟨_, name, _, hsplit, List.mem_cons_self, hcode⟩
    | «alias» hsplit hcode =>
        rename_i after
        rcases hcode with ⟨earlier, target, between, rfl, hbetween, hcode⟩
        refine ⟨earlier, target, between ++ .alias name :: after, ?_, ?_, hcode⟩
        · rw [hsplit, List.append_assoc, List.cons_append]
        · -- No name is assigned up to the alias, so the group reaches it.
          have htake : (between ++ .alias name :: after).takeWhile (·.assigned?.isNone) =
              between ++ .alias name :: after.takeWhile (·.assigned?.isNone) := by
            rw [List.takeWhile_append_of_pos]
            · simp [assigned?]
            · intro other hother
              simp [hbetween other hother]
          rw [group, htake]
          simp [alias?]
  · rintro ⟨before, target, after, rfl, hname, hcode⟩
    rcases List.mem_cons.1 hname with rfl | hname
    · exact .assign rfl hcode
    · -- An alias of the group lies in the run of directives behind the name that assign nothing.
      rcases List.mem_filterMap.1 hname with ⟨directive, hmem, halias⟩
      obtain rfl : directive = .alias name := by
        cases directive with
        | «alias» other => rw [Option.some.inj halias]
        | _ => cases halias
      rcases List.append_of_mem hmem with ⟨between, others, htake⟩
      have hafter : after = between ++ .alias name ::
          (others ++ after.dropWhile (·.assigned?.isNone)) := by
        calc
          after = after.takeWhile (·.assigned?.isNone) ++ after.dropWhile (·.assigned?.isNone) :=
              List.takeWhile_append_dropWhile.symm
          _ = _ := by rw [htake, List.append_assoc, List.cons_append]
      have hbetween : ∀ other ∈ between, other.assigned? = none := by
        intro other hother
        have htaken : other ∈ after.takeWhile (·.assigned?.isNone) := by
          rw [htake]
          exact List.mem_append_left _ hother
        simpa using List.mem_takeWhile_imp htaken
      have hsplit : before ++ .assign target :: after =
          (before ++ .assign target :: between) ++ .alias name ::
            (others ++ after.dropWhile (·.assigned?.isNone)) := by
        rw [List.append_assoc, List.cons_append, ← hafter]
      exact .alias hsplit ⟨before, target, between, rfl, hbetween, hcode⟩

/-! ## Codes in order -/

theorem nextCode_le_concat (h : Fits first before directive) :
    nextCode first before ≤ nextCode first (before ++ [directive]) := by
  cases directive with
  | assign name =>
      rw [nextCode_concat_assign]
      omega
  | skip count =>
      have hcount : 0 ≤ count := h
      rw [nextCode_concat_skip]
      omega
  | «alias» name =>
      exact Int.le_of_eq nextCode_concat_alias.symm
  | startAt index =>
      rw [nextCode_concat_startAt]
      exact h

theorem nextCode_le_append (h : Valid first (before ++ after)) :
    nextCode first before ≤ nextCode first (before ++ after) := by
  induction after using List.reverseRecOn with
  | nil =>
      exact Int.le_of_eq (congrArg (nextCode first) (List.append_nil before).symm)
  | append_singleton after directive ih =>
      rw [← List.append_assoc] at h ⊢
      exact Int.le_trans (ih h.of_append) (nextCode_le_concat h.fits)

/-- A name takes its code away from all that follows. -/
theorem nextCode_lt_append (h : Valid first (before ++ .assign name :: after)) :
    nextCode first before < nextCode first (before ++ .assign name :: after) := by
  rw [List.append_cons] at h ⊢
  have hle := nextCode_le_append h
  rw [nextCode_concat_assign] at hle
  omega

/-- A name that stands farther back was assigned another code. -/
theorem eq_nil_of_nextCode_eq {between after' : List Directive} {other : String}
    (h : Valid first (before ++ .assign name :: after))
    (hrest : .assign name :: after = between ++ .assign other :: after')
    (hcode : nextCode first before = nextCode first (before ++ between)) : between = [] := by
  cases between with
  | nil =>
      rfl
  | cons directive rest =>
      rw [hrest, ← List.append_assoc] at h
      obtain rfl : .assign name = directive := (List.cons.inj hrest).1
      have hlt := nextCode_lt_append h.of_append
      omega

/-- Two names that were assigned one code are one and the same. -/
theorem eq_of_nextCode_eq {before' after' : List Directive} {name' : String}
    (h : Valid first (before ++ .assign name :: after))
    (hsplit : before ++ .assign name :: after = before' ++ .assign name' :: after')
    (hcode : nextCode first before = nextCode first before') : name = name' ∧ after = after' := by
  have hbefore : before = before' := by
    rcases List.append_eq_append_iff.1 hsplit with ⟨between, rfl, hrest⟩ | ⟨between, rfl, hrest⟩
    · rw [eq_nil_of_nextCode_eq h hrest hcode, List.append_nil]
    · rw [eq_nil_of_nextCode_eq (hsplit ▸ h) hrest hcode.symm, List.append_nil]
  subst hbefore
  cases List.append_cancel_left hsplit
  exact ⟨rfl, rfl⟩

/-- The codes of the names that were assigned rise from the first code to the next. -/
theorem exists_codes (h : Valid first directives) :
    ∃ codes, List.Forall₂ (HasCode first directives) (directives.filterMap assigned?) codes ∧
      codes.Pairwise (· < ·) ∧ ∀ code ∈ codes, first ≤ code ∧ code < nextCode first directives := by
  -- From the end: the codes so far lie below the next one, which the last directive may hand out.
  induction directives using List.reverseRecOn with
  | nil =>
      exact ⟨[], .nil, .nil, List.forall_mem_nil _⟩
  | append_singleton before directive ih =>
      rcases ih h.of_append with ⟨codes, hcodes, hrise, hbounds⟩
      have hkept := hcodes.imp fun name code hcode => HasCode.append hcode [directive]
      have hle := nextCode_le_concat h.fits
      rw [List.filterMap_append]
      cases directive with
      | assign name =>
          have hfirst : first ≤ nextCode first before := by
            have hall : nextCode first [] ≤ nextCode first ([] ++ before) :=
              nextCode_le_append h.of_append
            rwa [nextCode_nil] at hall
          refine ⟨codes ++ [nextCode first before], ?_, ?_, ?_⟩
          · exact List.rel_append hkept (.cons (.assign rfl rfl) .nil)
          · refine List.pairwise_append.2 ⟨hrise, List.pairwise_singleton _ _, ?_⟩
            intro code hcode other hother
            rw [List.mem_singleton.1 hother]
            exact (hbounds code hcode).2
          · intro code hcode
            rw [nextCode_concat_assign]
            rcases List.mem_append.1 hcode with hcode | hcode
            · have hbound := hbounds code hcode
              omega
            · rw [List.mem_singleton.1 hcode]
              omega
      | _ =>
          refine ⟨codes, ?_, hrise, ?_⟩
          · simpa [List.filterMap_cons, assigned?] using hkept
          · intro code hcode
            have hbound := hbounds code hcode
            omega

/-- In an enumeration codes are shared only through aliases. The codes of the names that were
assigned rise from the first code on, and two names have one code if and only if they are in one
group. -/
theorem build_groups {table : Table} (h : build directives first = .ok table) :
    (∃ codes : List Int, (directives.filterMap assigned?).map table.get? = codes.map some ∧
      codes.Pairwise (· < ·) ∧ ∀ code ∈ codes, first ≤ code) ∧
    ∀ name ∈ table.keys, ∀ other ∈ table.keys,
      (table.get? name = table.get? other ↔
        ∃ members ∈ groups directives, name ∈ members ∧ other ∈ members) := by
  rcases recounts_of_build h with ⟨hvalid, e, he, rfl⟩
  constructor
  · rcases exists_codes hvalid with ⟨codes, hcodes, hrise, hbounds⟩
    refine ⟨codes, ?_, hrise, fun code hcode => (hbounds code hcode).1⟩
    rw [← List.forall₂_eq_eq_eq, List.forall₂_map_left_iff, List.forall₂_map_right_iff]
    exact hcodes.imp fun name code hcode => (he.codes name code).2 hcode
  · intro name hname other hother
    rcases Option.isSome_iff_exists.1 (Dictionary.mem_keys_iff.1 hname) with ⟨code, hcode⟩
    rcases Option.isSome_iff_exists.1 (Dictionary.mem_keys_iff.1 hother) with ⟨code', hcode'⟩
    constructor
    · -- Each name is in the group of a place, and places with the same next code are the same.
      intro hsame
      rw [hcode, hcode', Option.some.injEq] at hsame
      rcases hasCode_iff_group.1 ((he.codes name code).1 hcode) with
        ⟨before, target, after, rfl, hmember, rfl⟩
      rcases hasCode_iff_group.1 ((he.codes other code').1 hcode') with
        ⟨before', target', after', hsplit, hmember', rfl⟩
      rcases eq_of_nextCode_eq hvalid hsplit hsame with ⟨rfl, rfl⟩
      exact ⟨_, mem_groups_iff.2 ⟨before, target, after, rfl, rfl⟩, hmember, hmember'⟩
    · rintro ⟨members, hmembers, hmember, hmember'⟩
      rcases mem_groups_iff.1 hmembers with ⟨before, target, after, hsplit, rfl⟩
      have hgroup {key : String} (hkey : key ∈ group target after) :
          e.table.get? key = some (nextCode first before) :=
        (he.codes key _).2 (hasCode_iff_group.2 ⟨before, target, after, hsplit, hkey, rfl⟩)
      rw [hgroup hmember, hgroup hmember']

/-- The keypad shares the code of the keyboard, whatever stands between them. -/
theorem build_groups_keypad :
    ∃ directives table, build directives 6 = .ok table ∧
      groups directives = [["keyboard", "keypad"], ["led"]] ∧
      table.get? "keypad" = table.get? "keyboard" ∧ table.get? "keypad" ≠ table.get? "led" ∧
      ∃ codes : List Int, ["keyboard", "led"].map table.get? = codes.map some ∧
        codes.Pairwise (· < ·) ∧ ∀ code ∈ codes, 6 ≤ code := by
  let directives : List Directive :=
    [.skip 1, .assign "keyboard", .startAt 8, .alias "keypad", .assign "led"]
  let table : Table := .ofList [("keyboard", 7), ("keypad", 7), ("led", 8)]
  have htable : build directives 6 = .ok table := by
    decide +kernel
  rcases build_groups htable with ⟨hcodes, hshared⟩
  have hkeypad := hshared "keypad" (by decide) "keyboard" (by decide)
  have hled := hshared "keypad" (by decide) "led" (by decide)
  exact ⟨directives, table, htable, rfl, hkeypad.2 (by decide),
    fun hsame => absurd (hled.1 hsame) (by decide), hcodes⟩

end Enumeration
end HidDescriptor
