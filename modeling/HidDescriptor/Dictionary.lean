/-!
# Dictionaries

Finite maps from names to values that keep the order in which names were first entered.

- `Dictionary`: the entries in order, one for each name
- `get?`, `contains`, `keys`: queries
- `insert`, `erase`, `merge`: a value entered for a known name takes the place of the old one
-/

namespace HidDescriptor

/-- Names with their values, in the order of first entry. No two entries have the same name. -/
structure Dictionary (α : Type) where
  entries : List (String × α)
  nodup : (entries.map (·.1)).Nodup := by decide
  deriving DecidableEq, Repr

namespace Dictionary

variable {α : Type}

def empty : Dictionary α where
  entries := []
  nodup := .nil

instance : EmptyCollection (Dictionary α) := ⟨empty⟩

instance : Inhabited (Dictionary α) := ⟨empty⟩

def get? (d : Dictionary α) (name : String) : Option α :=
  (d.entries.find? (·.1 == name)).map (·.2)

def contains (d : Dictionary α) (name : String) : Bool :=
  d.entries.any (·.1 == name)

theorem contains_eq_isSome_get? (d : Dictionary α) (name : String) :
    d.contains name = (d.get? name).isSome := by
  rw [get?, Option.isSome_map, List.isSome_find?, contains]

def keys (d : Dictionary α) : List String :=
  d.entries.map (·.1)

def size (d : Dictionary α) : Nat :=
  d.entries.length

/-- Replaces the first entry of a name, or adds an entry at the end. -/
def insertEntry (name : String) (value : α) : List (String × α) → List (String × α)
  | [] => [(name, value)]
  | (key, old) :: rest =>
      if key = name then (name, value) :: rest else (key, old) :: insertEntry name value rest

/-- A known name keeps its place, and a new one comes last. -/
theorem map_fst_insertEntry (name : String) (value : α) (entries : List (String × α)) :
    (insertEntry name value entries).map (·.1) =
      if name ∈ entries.map (·.1) then entries.map (·.1) else entries.map (·.1) ++ [name] := by
  induction entries with
  | nil =>
      rfl
  | cons entry rest ih =>
      rcases entry with ⟨first, old⟩
      by_cases hfirst : first = name
      · simp [insertEntry, hfirst]
      · simp only [insertEntry, hfirst, if_false, List.map_cons, ih, List.mem_cons,
          Ne.symm hfirst, false_or]
        split
        · rfl
        · rfl

def insert (d : Dictionary α) (name : String) (value : α) : Dictionary α where
  entries := insertEntry name value d.entries
  nodup := by
    rw [map_fst_insertEntry]
    split
    next =>
      exact d.nodup
    next hname =>
      have hapart : ∀ key ∈ d.entries.map (·.1), ∀ last ∈ [name], key ≠ last := by
        intro key hkey last hlast hsame
        rw [hsame, List.mem_singleton.1 hlast] at hkey
        exact hname hkey
      exact List.nodup_append.2 ⟨d.nodup, by simp, hapart⟩

def erase (d : Dictionary α) (name : String) : Dictionary α where
  entries := d.entries.filter fun e => !(e.1 == name)
  nodup := d.nodup.sublist (List.filter_sublist.map _)

/-- Enters values in turn, later ones replacing earlier ones of the same name. -/
def insertAll (d : Dictionary α) (entries : List (String × α)) : Dictionary α :=
  entries.foldl (fun d e => d.insert e.1 e.2) d

def merge (d extra : Dictionary α) : Dictionary α :=
  d.insertAll extra.entries

def ofList (entries : List (String × α)) : Dictionary α :=
  empty.insertAll entries

end Dictionary

end HidDescriptor
