import HidDescriptor.Proofs.Dictionaries
import HidDescriptor.Table.Layers

/-!
# Tables upon each other

Tables that are merged one after the other, the last one on top.

- `Table.stack`: the table that comes of it
- `Table.LastDefines`, `Table.lastDefinition`: the value of a name in the last table that has it
- `Table.get?_of_stack`: what can be looked up
- `Table.stack_append_self`: tables that are put on top of themselves
- `Table.stack_flatMap_last`: the same for layers of tables
-/

namespace HidDescriptor
namespace Table

/-- Tables upon each other, the last one on top. -/
def stack : List Table → Option Table
  | [] => none
  | table :: rest => some (rest.foldl Dictionary.merge table)

def lastDefinition (tables : List Table) (name : String) : Option Int :=
  tables.reverse.findSome? fun table => table.get? name

/-- A name has a value in one of the tables and is not in those behind it. -/
def LastDefines (tables : List Table) (name : String) (value : Int) : Prop :=
  ∃ before table after, tables = before ++ table :: after ∧ table.get? name = some value ∧
    ∀ later ∈ after, later.get? name = none

variable {tables others : List Table} {table : Table} {name : String}

theorem lastDefinition_append (tables others : List Table) (name : String) :
    lastDefinition (tables ++ others) name =
      (lastDefinition others name).or (lastDefinition tables name) := by
  rw [lastDefinition, List.reverse_append, List.findSome?_append]
  rfl

theorem lastDefinition_cons (table : Table) (tables : List Table) (name : String) :
    lastDefinition (table :: tables) name = (lastDefinition tables name).or (table.get? name) := by
  have hlast : lastDefinition [table] name = table.get? name := by
    simp [lastDefinition]
  rw [← hlast, ← lastDefinition_append]
  rfl

theorem lastDefinition_eq_some_iff {value : Int} :
    lastDefinition tables name = some value ↔ LastDefines tables name value := by
  rw [lastDefinition, List.findSome?_eq_some_iff]
  constructor
  · rintro ⟨after, table, before, hsplit, hvalue, hlater⟩
    refine ⟨before.reverse, table, after.reverse, ?_, hvalue, ?_⟩
    · simpa using List.reverse_eq_append_iff.1 hsplit
    · intro later hmem
      exact hlater later (List.mem_reverse.1 hmem)
  · rintro ⟨before, table, after, rfl, hvalue, hlater⟩
    refine ⟨after.reverse, table, before.reverse, by simp, hvalue, ?_⟩
    intro later hmem
    exact hlater later (List.mem_reverse.1 hmem)

theorem isSome_lastDefinition (hmem : table ∈ tables) (hname : name ∈ table.keys) :
    (lastDefinition tables name).isSome = true := by
  rw [lastDefinition, List.findSome?_isSome_iff]
  exact ⟨table, List.mem_reverse.2 hmem, Dictionary.mem_keys_iff.1 hname⟩

theorem get?_foldl_merge (tables : List Table) (table : Table) (name : String) :
    (tables.foldl Dictionary.merge table).get? name =
      (lastDefinition tables name).or (table.get? name) := by
  induction tables generalizing table with
  | nil =>
      rfl
  | cons first rest ih =>
      rw [List.foldl_cons, ih, Dictionary.get?_merge, lastDefinition_cons, Option.or_assoc]

theorem keys_foldl_merge (h : ∀ t ∈ tables, ∀ name ∈ t.keys, name ∈ table.keys) :
    (tables.foldl Dictionary.merge table).keys = table.keys := by
  induction tables generalizing table with
  | nil =>
      rfl
  | cons first rest ih =>
      rcases List.forall_mem_cons.1 h with ⟨hfirst, hrest⟩
      have hkeys := Dictionary.keys_merge_of_subset hfirst
      rw [List.foldl_cons, ih, hkeys]
      rw [hkeys]
      exact hrest

/-- Tables without another value for any name leave a table below them as it is, whatever they do to
each other. -/
theorem foldl_merge_eq_self
    (hknown : ∀ name, (lastDefinition tables name).or (table.get? name) = table.get? name) :
    tables.foldl Dictionary.merge table = table := by
  -- A name of any of the tables has a last definition among them, so it is known below.
  have hkeys : (tables.foldl Dictionary.merge table).keys = table.keys := by
    refine keys_foldl_merge ?_
    intro t ht name hname
    rw [Dictionary.mem_keys_iff, ← hknown name, Option.isSome_or,
      isSome_lastDefinition ht hname, Bool.true_or]
  refine Dictionary.eq_of_keys_eq hkeys ?_
  intro name
  rw [get?_foldl_merge, hknown]

theorem isSome_stack_iff : (stack tables).isSome = true ↔ tables ≠ [] := by
  cases tables with
  | nil =>
      simp [stack]
  | cons first rest =>
      simp [stack]

theorem stack_concat (tables : List Table) (table : Table) :
    stack (tables ++ [table]) = some (Layers.upon (stack tables) table) := by
  cases tables with
  | nil =>
      exact congrArg some (Dictionary.empty_merge table).symm
  | cons first rest =>
      simp [stack, Layers.upon]

theorem get?_of_stack (hstack : stack tables = some table) (name : String) :
    table.get? name = lastDefinition tables name := by
  cases tables with
  | nil =>
      cases hstack
  | cons first rest =>
      cases hstack
      rw [get?_foldl_merge, lastDefinition_cons]

/-- The last tables can be put on top of themselves. -/
theorem stack_append_self (tables others : List Table) :
    stack (tables ++ others ++ others) = stack (tables ++ others) := by
  cases hall : tables ++ others with
  | nil =>
      rw [(List.append_eq_nil_iff.1 hall).2]
      rfl
  | cons first rest =>
      have hbelow : ∀ name, (rest.foldl Dictionary.merge first).get? name =
          lastDefinition (tables ++ others) name :=
        get?_of_stack (congrArg stack hall)
      rw [List.cons_append, stack, List.foldl_append, stack, foldl_merge_eq_self]
      intro name
      rw [hbelow, lastDefinition_append, ← Option.or_assoc, Option.or_self]

section Layered

variable {α : Type} {layers : List α} {f : α → List Table}

theorem isSome_stack_flatMap_iff {P : α → Prop} (h : ∀ layer ∈ layers, f layer ≠ [] ↔ P layer) :
    (stack (layers.flatMap f)).isSome = true ↔ ∃ layer ∈ layers, P layer := by
  rw [isSome_stack_iff, Ne, List.flatMap_eq_nil_iff]
  push Not
  exact exists_congr fun layer => and_congr_right (h layer)

theorem get?_of_stack_flatMap (hstack : stack (layers.flatMap f) = some table) (value : Int) :
    table.get? name = some value ↔ LastDefines (layers.flatMap f) name value := by
  rw [← lastDefinition_eq_some_iff, get?_of_stack hstack]

theorem stack_flatMap_last {last : α} (hlast : layers.getLast? = some last) :
    stack ((layers ++ [last]).flatMap f) = stack (layers.flatMap f) := by
  rcases List.getLast?_eq_some_iff.1 hlast with ⟨front, rfl⟩
  simp only [List.flatMap_append, List.flatMap_singleton]
  exact stack_append_self (front.flatMap f) (f last)

end Layered

end Table
end HidDescriptor
