import HidDescriptor.Dictionary
import Mathlib.Data.List.Nodup

/-!
# Dictionaries with new entries

What can be looked up in a dictionary after values were entered, and under which names.

- `Dictionary.get?_eq_some_iff`: lookups find the entries
- `Dictionary.get?_insert`, `Dictionary.get?_merge`: lookups with new entries
- `Dictionary.get?_erase`: lookups without the entry of a name
- `Dictionary.eq_or_mem_of_mem_insert`: the entries themselves
- `Dictionary.keys_insert`, `Dictionary.keys_merge_of_subset`: the names and their order
- `Dictionary.eq_of_keys_eq`: a dictionary is told by its names and lookups
- `Dictionary.insert_insert`: the later of two values stays
-/

namespace HidDescriptor
namespace Dictionary

variable {α : Type} {d e extra : Dictionary α} {name : String} {value : α}
  {entries : List (String × α)}

theorem eq_of_entries_eq (h : d.entries = e.entries) : d = e := by
  cases d
  cases e
  cases h
  rfl

/-! ## Lookups -/

theorem mem_keys_iff : name ∈ d.keys ↔ (d.get? name).isSome = true := by
  rw [← contains_eq_isSome_get?]
  simp [keys, contains]

theorem get?_eq_none_iff : d.get? name = none ↔ name ∉ d.keys := by
  rw [mem_keys_iff]
  simp

theorem mem_entries_of_get? (h : d.get? name = some value) : (name, value) ∈ d.entries := by
  rcases Option.map_eq_some_iff.1 h with ⟨⟨key, found⟩, hfind, rfl⟩
  have hkey : key = name := by
    simpa using List.find?_some hfind
  rw [← hkey]
  exact List.mem_of_find?_eq_some hfind

/-- Since a name has one entry, the entry that is found first is the only one. -/
theorem get?_eq_some_iff : d.get? name = some value ↔ (name, value) ∈ d.entries := by
  refine ⟨mem_entries_of_get?, fun hmem => ?_⟩
  have hsome : (d.get? name).isSome = true := mem_keys_iff.1 (List.mem_map_of_mem hmem)
  rcases Option.isSome_iff_exists.1 hsome with ⟨found, hfound⟩
  have hsame : (name, found) = (name, value) :=
    List.inj_on_of_nodup_map d.nodup (mem_entries_of_get? hfound) hmem rfl
  rw [hfound, (Prod.mk.inj hsame).2]

theorem get?_insert (d : Dictionary α) (name : String) (value : α) (key : String) :
    (d.insert name value).get? key = if key = name then some value else d.get? key := by
  unfold insert get?
  simp only
  generalize d.entries = entries
  induction entries with
  | nil =>
      by_cases hkey : key = name
      · simp [insertEntry, hkey]
      · simp [insertEntry, hkey, Ne.symm hkey]
  | cons entry rest ih =>
      rcases entry with ⟨first, old⟩
      by_cases hfirst : first = name
      · by_cases hkey : key = name
        · simp [insertEntry, hfirst, hkey]
        · simp [insertEntry, hfirst, hkey, Ne.symm hkey]
      · by_cases hhead : first = key
        · have hkey : key ≠ name := fun h => hfirst (hhead.trans h)
          simp [insertEntry, hhead, hkey]
        · simpa [insertEntry, hfirst, hhead] using ih

theorem get?_erase (d : Dictionary α) (name key : String) :
    (d.erase name).get? key = if key = name then none else d.get? key := by
  unfold erase get?
  rw [List.find?_filter]
  split
  next hkey =>
    rw [Option.map_eq_none_iff, List.find?_eq_none]
    simp [hkey]
  next hkey =>
    -- No entry of another name is dropped.
    congr 2
    funext entry
    by_cases hentry : entry.1 = key
    · simp [hentry, hkey]
    · simp [hentry]

theorem eq_or_mem_of_mem_insert {entry : String × α} (h : entry ∈ (d.insert name value).entries) :
    entry = (name, value) ∨ entry ∈ d.entries := by
  unfold insert at h
  simp only at h
  generalize d.entries = entries at h ⊢
  induction entries with
  | nil =>
      exact Or.inl (List.mem_singleton.1 h)
  | cons first rest ih =>
      unfold insertEntry at h
      split at h
      · rcases List.mem_cons.1 h with rfl | hrest
        · exact Or.inl rfl
        · exact Or.inr (List.mem_cons_of_mem _ hrest)
      · rcases List.mem_cons.1 h with rfl | hrest
        · exact Or.inr List.mem_cons_self
        · exact (ih hrest).imp_right (List.mem_cons_of_mem _)

/-! ## Names -/

theorem keys_insert (d : Dictionary α) (name : String) (value : α) :
    (d.insert name value).keys = if name ∈ d.keys then d.keys else d.keys ++ [name] :=
  map_fst_insertEntry name value d.entries

/-- A new name is entered behind all others. -/
theorem entries_insert_of_not_mem (h : name ∉ d.keys) (value : α) :
    (d.insert name value).entries = d.entries ++ [(name, value)] := by
  unfold insert
  unfold keys at h
  simp only
  generalize d.entries = entries at h ⊢
  induction entries with
  | nil =>
      rfl
  | cons entry rest ih =>
      rcases not_or.1 (mt List.mem_cons.2 h) with ⟨hfirst, hrest⟩
      rw [insertEntry, if_neg (Ne.symm hfirst), ih hrest]
      rfl

/-! ## Many entries -/

theorem insertAll_cons (d : Dictionary α) (entry : String × α) (rest : List (String × α)) :
    d.insertAll (entry :: rest) = (d.insert entry.1 entry.2).insertAll rest :=
  rfl

/-- Names get the values of their last entries, and all others keep theirs. -/
theorem get?_insertAll (h : (entries.map (·.1)).Nodup) (d : Dictionary α) (name : String) :
    (d.insertAll entries).get? name =
      ((entries.find? (·.1 == name)).map (·.2)).or (d.get? name) := by
  induction entries generalizing d with
  | nil =>
      rfl
  | cons entry rest ih =>
      rcases List.nodup_cons.1 h with ⟨hkey, hrest⟩
      rw [insertAll_cons, ih hrest, get?_insert]
      by_cases hname : entry.1 = name
      · -- The entry that was entered first is not replaced by one behind it.
        have hnone : rest.find? (·.1 == name) = none := by
          rw [List.find?_eq_none]
          intro other hother hsame
          have hother' : other.1 = entry.1 := by
            simpa [hname] using hsame
          exact hkey (List.mem_map.2 ⟨other, hother, hother'⟩)
        simp [hnone, hname]
      · simp [hname, Ne.symm hname]

theorem get?_merge (d extra : Dictionary α) (name : String) :
    (d.merge extra).get? name = (extra.get? name).or (d.get? name) :=
  get?_insertAll extra.nodup d name

/-- Entering known names leaves all names in their places. -/
theorem keys_insertAll_of_subset (h : ∀ entry ∈ entries, entry.1 ∈ d.keys) :
    (d.insertAll entries).keys = d.keys := by
  induction entries generalizing d with
  | nil =>
      rfl
  | cons entry rest ih =>
      rcases List.forall_mem_cons.1 h with ⟨hentry, hrest⟩
      have hkeys : (d.insert entry.1 entry.2).keys = d.keys := by
        rw [keys_insert, if_pos hentry]
      rw [insertAll_cons, ih, hkeys]
      rw [hkeys]
      exact hrest

theorem keys_merge_of_subset (h : ∀ name ∈ extra.keys, name ∈ d.keys) :
    (d.merge extra).keys = d.keys :=
  keys_insertAll_of_subset fun entry hentry => h entry.1 (List.mem_map_of_mem hentry)

theorem entries_insertAll (h : (d.keys ++ entries.map (·.1)).Nodup) :
    (d.insertAll entries).entries = d.entries ++ entries := by
  induction entries generalizing d with
  | nil =>
      simp [insertAll]
  | cons entry rest ih =>
      have hkey : entry.1 ∉ d.keys := fun hkey =>
        List.disjoint_of_nodup_append h hkey List.mem_cons_self
      have hentries := entries_insert_of_not_mem hkey entry.2
      rw [insertAll_cons, ih, hentries, List.append_assoc, List.singleton_append]
      rw [keys, hentries]
      simpa [keys] using h

theorem empty_merge (d : Dictionary α) : empty.merge d = d :=
  eq_of_entries_eq (entries_insertAll d.nodup)

theorem entries_eq (d : Dictionary α) :
    d.entries = d.keys.filterMap fun name => (d.get? name).map fun value => (name, value) := by
  have hfound : ∀ entry ∈ d.entries,
      (d.get? entry.1).map (fun value => (entry.1, value)) = some entry := by
    intro entry hentry
    rw [get?_eq_some_iff.2 hentry]
    rfl
  rw [keys, List.filterMap_map]
  exact (List.filterMap_congr hfound).trans (List.filterMap_some) |>.symm

theorem eq_of_keys_eq (hkeys : d.keys = e.keys) (hget : ∀ name, d.get? name = e.get? name) :
    d = e := by
  refine eq_of_entries_eq ?_
  rw [entries_eq d, entries_eq e, hkeys]
  simp only [hget]

/-- Of two values entered for a name, the later one stays. -/
theorem insert_insert (d : Dictionary α) (name : String) (old new : α) :
    (d.insert name old).insert name new = d.insert name new := by
  refine eq_of_keys_eq ?_ fun key => ?_
  · have hmem : name ∈ (d.insert name old).keys := by
      rw [mem_keys_iff, get?_insert, if_pos rfl]
      rfl
    rw [keys_insert, if_pos hmem, keys_insert, keys_insert]
  · rw [get?_insert, get?_insert, get?_insert]
    split
    · rfl
    · rfl

end Dictionary
end HidDescriptor
