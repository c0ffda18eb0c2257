import HidDescriptor.Function
import HidDescriptor.Proofs.Dictionaries
import HidDescriptor.Proofs.Payloads

/-!
# Accepted calls

What a call of a function can do to the item state, said once for all functions.

- `Function.item`: the item that a function stands for
- `Function.symbol_eq_ok_iff`, `Function.usageTable_eq_ok_iff`: symbols and the tables for them
- `Function.callNumber_eq_ok_iff` and the like: the accepted calls of each kind of function
- `Function.call_eq_ok`: payload, update and value of an accepted call
- `Function.advance`, `Function.apply_eq_advance`: the state after an accepted call
- `Function.advance_cases`: everything that can differ from the state before
- `Function.call_congr`: a call reads nothing of the state but the usage page
- `ItemState.onPage`: the state in which only the usage page is set
-/

namespace HidDescriptor

/-- An outcome that emits a payload and leaves the state alone. -/
structure Outcome.Quiet (outcome : Outcome) : Prop where
  emittable : outcome.payload.Emittable
  update : outcome.update = .keep
  value : outcome.value = .null

theorem Outcome.Quiet.plain {payload : Payload} (h : payload.Emittable) :
    (Outcome.plain payload).Quiet :=
  ⟨h, rfl, rfl⟩

namespace Function

/-! ## Functions and items -/

theorem isSome_byName? (f : Function) : (Item.byName? f.name).isSome := by
  cases f <;> decide

def item (f : Function) : Item :=
  (Item.byName? f.name).get f.isSome_byName?

theorem byName?_name (f : Function) : Item.byName? f.name = some f.item := by
  simp [item]

theorem item_name (f : Function) : f.item.name = f.name := by
  cases f <;> decide

theorem ofName?_name (f : Function) : ofName? f.name = some f := by
  cases f <;> decide

theorem name_eq_of_ofName? {name : String} {f : Function} (h : ofName? name = some f) :
    name = f.name := by
  have hname := List.find?_some h
  exact (by simpa using hname : f.name = name).symm

theorem name_injective {f g : Function} (h : f.name = g.name) : f = g := by
  have hsome : some f = some g := by rw [← ofName?_name f, h, ofName?_name]
  exact Option.some.inj hsome

/-! ## Arguments -/

theorem oneArgument_eq_ok_iff {name arg : String} {args : List String} :
    oneArgument name args = .ok arg ↔ args = [arg] := by
  match args with
  | [a] =>
      simp [oneArgument]
  | [] =>
      simp [oneArgument]
  | a :: b :: rest =>
      simp [oneArgument]

/-- A function of one literal is accepted if what it does with the value is. -/
theorem oneLiteral_eq_ok_iff {α : Type} {name : String} {args : List String}
    {refusal : String → Fault} {k : String → Int → Except Fault α} {a : α} :
    (do
        let arg ← oneArgument name args
        match ← Literal.read arg with
        | none => .error (refusal arg)
        | some value => k arg value) = .ok a ↔
      ∃ arg value, args = [arg] ∧ Literal.read arg = .ok (some value) ∧ k arg value = .ok a := by
  constructor
  · intro h
    rcases bind_eq_ok_iff.1 h with ⟨arg, harg, h⟩
    rcases bind_eq_ok_iff.1 h with ⟨literal, hread, h⟩
    cases literal with
    | none =>
        cases h
    | some value =>
        exact ⟨arg, value, oneArgument_eq_ok_iff.1 harg, hread, h⟩
  · rintro ⟨arg, value, hargs, hread, h⟩
    exact bind_eq_ok_iff.2 ⟨arg, oneArgument_eq_ok_iff.2 hargs, bind_eq_ok_iff.2 ⟨_, hread, h⟩⟩

/-- A symbol is accepted if it denotes a value that has a payload. -/
theorem symbol_eq_ok_iff {name arg : String} {table : Table} {payload : Payload} :
    symbol name table arg = .ok payload ↔
      ∃ value, table.Denotes arg value ∧ Payload.encode value none false = .ok payload := by
  rw [← Payload.resolve_eq_some_iff]
  constructor
  · intro h
    rcases bind_eq_ok_iff.1 h with ⟨resolved, hresolved, h⟩
    cases resolved with
    | none =>
        cases h
    | some found =>
        cases h
        exact hresolved
  · intro h
    exact bind_eq_ok_iff.2 ⟨some payload, h, rfl⟩

theorem symbol_emittable {name arg : String} {table : Table} {payload : Payload}
    (h : symbol name table arg = .ok payload) : payload.Emittable := by
  rcases symbol_eq_ok_iff.1 h with ⟨value, _, hpayload⟩
  exact Payload.encode_emittable hpayload

/-- The usages of a page are those of its table, and the keypad has the table of the keyboard. -/
theorem usageTable_eq_ok_iff {state : ItemState} {tables : Tables} {name : String} {table : Table} :
    usageTable state tables name = .ok table ↔
      ∃ page, state.current? pageName = some (.text page) ∧
        tables.usages.get? (if page = "keypad" then "keyboard" else page) = some table := by
  -- A page without a table is a fault, whether or not the page can be shown in its message.
  have hmissing (page : Datum) : (do
      let shown ← page.display
      .error (.ofCause (.missingUsageTable shown)) : Except Fault Table) ≠ .ok table := by
    intro h
    rcases bind_eq_ok_iff.1 h with ⟨shown, _, h⟩
    cases h
  unfold usageTable
  cases state.current? pageName with
  | none =>
      simp
  | some current =>
      cases current with
      | text page =>
          simp only [usagesPage, Option.some.injEq, Datum.text.injEq, exists_eq_left']
          cases tables.usages.get? (if page = "keypad" then "keyboard" else page) with
          | some found =>
              simp
          | none =>
              simpa using hmissing _
      | _ =>
          simpa [usagesPage] using hmissing _

/-! ## Outcomes of each kind of function -/

section Kinds

variable {state : ItemState} {tables : Tables} {name : String} {args : List String}
  {outcome : Outcome}

theorem callUsagePage_eq_ok_iff :
    callUsagePage tables name args = .ok outcome ↔
      ∃ page payload, args = [page] ∧ symbol name tables.usagePages page = .ok payload ∧
        ⟨payload, .setGlobal, .text page⟩ = outcome := by
  simp only [callUsagePage, bind_eq_ok_iff, oneArgument_eq_ok_iff, Except.ok.injEq,
    exists_and_left]

theorem callCollection_eq_ok_iff :
    callCollection tables name args = .ok outcome ↔
      ∃ kind payload, args = [kind] ∧ symbol name tables.collections kind = .ok payload ∧
        ⟨payload, .openScope, .text kind⟩ = outcome := by
  simp only [callCollection, bind_eq_ok_iff, oneArgument_eq_ok_iff, Except.ok.injEq,
    exists_and_left]

theorem callEndCollection_eq_ok_iff :
    callEndCollection name args = .ok outcome ↔
      args = [] ∧ outcome = ⟨[], .closeScope, .null⟩ := by
  unfold callEndCollection
  cases args with
  | nil =>
      simp [eq_comm]
  | cons arg rest =>
      simp

theorem callUsage_eq_ok_iff :
    callUsage state tables name args = .ok outcome ↔
      ∃ arg table payload, args = [arg] ∧ usageTable state tables name = .ok table ∧
        symbol name table arg = .ok payload ∧ .plain payload = outcome := by
  simp only [callUsage, bind_eq_ok_iff, oneArgument_eq_ok_iff, Except.ok.injEq,
    exists_and_left]

theorem callNumber_eq_ok_iff :
    callNumber name args = .ok outcome ↔
      ∃ arg value payload, args = [arg] ∧ Literal.read arg = .ok (some value) ∧
        Payload.encode value none true = .ok payload ∧ .plain payload = outcome := by
  refine oneLiteral_eq_ok_iff.trans ?_
  simp only [map_eq_ok_iff, exists_and_left]

theorem callCount_eq_ok_iff :
    callCount name args = .ok outcome ↔
      ∃ arg value payload, args = [arg] ∧ Literal.read arg = .ok (some value) ∧ 0 ≤ value ∧
        Payload.encode value none false = .ok payload ∧ .plain payload = outcome := by
  refine oneLiteral_eq_ok_iff.trans ?_
  simp only [guard_eq_ok_iff, map_eq_ok_iff, Int.not_lt, exists_and_left]

theorem callReportId_eq_ok_iff :
    callReportId name args = .ok outcome ↔
      ∃ arg value, args = [arg] ∧ Literal.read arg = .ok (some value) ∧ 1 ≤ value ∧ value ≤ 255 ∧
        .plain [value] = outcome := by
  refine oneLiteral_eq_ok_iff.trans ?_
  simp [ite_eq_iff, and_assoc]

theorem callFlags_eq_ok_iff :
    callFlags tables name args = .ok outcome ↔
      ∃ union payload, Payload.composeFlags tables.flags args = some union ∧
        Payload.encode union none false = .ok payload ∧ .plain payload = outcome := by
  unfold callFlags
  split
  next union hunion =>
    simp [hunion, map_eq_ok_iff]
  next hunion =>
    simp [hunion]

end Kinds

/-! ## All functions -/

/-- The functions that leave the state alone. -/
def IsQuiet (f : Function) : Prop :=
  f ≠ .usagePage ∧ f ≠ .collection ∧ f ≠ .endCollection

theorem quiet_of_call {f : Function} {state : ItemState} {tables : Tables} {args : List String}
    {outcome : Outcome} (hf : f.IsQuiet) (h : f.call state tables args = .ok outcome) :
    outcome.Quiet := by
  cases f with
  | usagePage =>
      exact absurd rfl hf.1
  | collection =>
      exact absurd rfl hf.2.1
  | endCollection =>
      exact absurd rfl hf.2.2
  | usage | usageMinimum | usageMaximum =>
      rcases callUsage_eq_ok_iff.1 h with ⟨_, _, _, _, _, hpayload, rfl⟩
      exact .plain (symbol_emittable hpayload)
  | logicalMinimum | logicalMaximum | physicalMinimum | physicalMaximum =>
      rcases callNumber_eq_ok_iff.1 h with ⟨_, _, _, _, _, hpayload, rfl⟩
      exact .plain (Payload.encode_emittable hpayload)
  | reportSize | reportCount =>
      rcases callCount_eq_ok_iff.1 h with ⟨_, _, _, _, _, _, hpayload, rfl⟩
      exact .plain (Payload.encode_emittable hpayload)
  | reportId =>
      rcases callReportId_eq_ok_iff.1 h with ⟨_, value, _, _, hlow, hhigh, rfl⟩
      exact .plain (Payload.emittable_singleton (by omega) (by omega))
  | input | output | feature =>
      rcases callFlags_eq_ok_iff.1 h with ⟨_, _, _, hpayload, rfl⟩
      exact .plain (Payload.encode_emittable hpayload)

/-- An accepted call emits a payload of a short item. It sets the usage page to its argument, opens
a scope for its argument, closes a scope, or leaves the state alone. -/
theorem call_eq_ok {f : Function} {state : ItemState} {tables : Tables} {args : List String}
    {outcome : Outcome} (h : f.call state tables args = .ok outcome) :
    outcome.payload.Emittable ∧
      ((f = .usagePage ∧
          ∃ page, args = [page] ∧ outcome.update = .setGlobal ∧ outcome.value = .text page) ∨
        (f = .collection ∧
          ∃ kind, args = [kind] ∧ outcome.update = .openScope ∧ outcome.value = .text kind) ∨
        (f = .endCollection ∧ args = [] ∧ outcome.update = .closeScope ∧ outcome.value = .null) ∨
        (f.IsQuiet ∧ outcome.update = .keep ∧ outcome.value = .null)) := by
  by_cases hpage : f = .usagePage
  · subst hpage
    rcases callUsagePage_eq_ok_iff.1 h with ⟨page, payload, hargs, hpayload, rfl⟩
    exact ⟨symbol_emittable hpayload, Or.inl ⟨rfl, page, hargs, rfl, rfl⟩⟩
  by_cases hcollection : f = .collection
  · subst hcollection
    rcases callCollection_eq_ok_iff.1 h with ⟨kind, payload, hargs, hpayload, rfl⟩
    exact ⟨symbol_emittable hpayload, Or.inr (Or.inl ⟨rfl, kind, hargs, rfl, rfl⟩)⟩
  by_cases hend : f = .endCollection
  · subst hend
    rcases callEndCollection_eq_ok_iff.1 h with ⟨hargs, rfl⟩
    exact ⟨Payload.emittable_nil, Or.inr (Or.inr (Or.inl ⟨rfl, hargs, rfl, rfl⟩))⟩
  have hf : f.IsQuiet := ⟨hpage, hcollection, hend⟩
  have hquiet := quiet_of_call hf h
  exact ⟨hquiet.emittable, Or.inr (Or.inr (Or.inr ⟨hf, hquiet.update, hquiet.value⟩))⟩

/-- A call reads nothing of the state but the usage page. -/
theorem call_congr (f : Function) {state state' : ItemState} (tables : Tables) (args : List String)
    (h : state.current? pageName = state'.current? pageName) :
    f.call state tables args = f.call state' tables args := by
  -- Only the functions for usages read the state at all.
  have husage (name : String) :
      callUsage state tables name args = callUsage state' tables name args := by
    simp only [callUsage, usageTable, h]
  cases f with
  | usage | usageMinimum | usageMaximum =>
      exact husage _
  | _ =>
      rfl

end Function

/-! ## States after accepted calls -/

namespace ItemState

def frame (kind : String) : Scope :=
  .ofList [(collectionName, .text kind)]

/-- The global values when only the usage page may be set. -/
def pageGlobals (page : Option String) : Dictionary Datum :=
  .ofList (page.toList.map fun page => (Function.pageName, .text page))

def onPage (page : Option String) : ItemState :=
  ⟨pageGlobals page, []⟩

theorem current?_pageName {state : ItemState} {page : Option String}
    (h : state.globals = pageGlobals page) :
    state.current? Function.pageName = page.map .text := by
  unfold current?
  rw [h]
  cases page with
  | none =>
      rfl
  | some page =>
      simp [pageGlobals, Dictionary.ofList, Dictionary.insertAll, Dictionary.get?_insert]

theorem keys_pageGlobals (page : Option String) :
    (pageGlobals page).keys = page.toList.map fun _ => Function.pageName := by
  cases page with
  | none =>
      rfl
  | some page =>
      rfl

theorem insert_pageGlobals (page : Option String) (new : String) :
    (pageGlobals page).insert Function.pageName (.text new) = pageGlobals (some new) := by
  cases page with
  | none =>
      rfl
  | some page =>
      exact Dictionary.insert_insert .empty Function.pageName (Datum.text page) (Datum.text new)

/-- The end is accepted if and only if no scope is open. -/
theorem checkClosed_eq_ok_iff {state : ItemState} :
    state.checkClosed = .ok () ↔ state.scopes = [] := by
  unfold checkClosed
  split
  next hempty =>
    simpa using hempty
  next hempty =>
    constructor
    · intro h
      rcases bind_eq_ok_iff.1 h with ⟨_, _, h⟩
      cases h
    · intro h
      exact absurd (by rw [h]; rfl) hempty

end ItemState

namespace Function

/-- The state after an accepted call. Only the end of a collection can still be refused. -/
def advance (f : Function) (args : List String) (state : ItemState) : Except Fault ItemState :=
  match f, args with
  | usagePage, [page] => .ok { state with globals := state.globals.insert pageName (.text page) }
  | collection, [kind] => .ok { state with scopes := ItemState.frame kind :: state.scopes }
  | endCollection, _ => state.closeScope.map (·.2)
  | _, _ => .ok state

theorem advance_of_isQuiet {f : Function} (h : f.IsQuiet) (args : List String) (state : ItemState) :
    f.advance args state = .ok state := by
  rcases h with ⟨hpage, hcollection, hend⟩
  unfold advance
  split
  · exact absurd rfl hpage
  · exact absurd rfl hcollection
  · exact absurd rfl hend
  · rfl

/-- Making the change of an accepted call is one step: if it is refused, nothing has changed. -/
theorem apply_eq_advance {f : Function} {state : ItemState} {tables : Tables} {args : List String}
    {outcome : Outcome} (h : f.call state tables args = .ok outcome) :
    state.apply f.item outcome =
      match f.advance args state with
      | .ok state => (state, .ok ())
      | .error fault => (state, .error fault) := by
  rcases outcome with ⟨payload, update, value⟩
  rcases call_eq_ok h with ⟨_, hcases⟩
  rcases hcases with ⟨rfl, page, rfl, rfl, rfl⟩ | ⟨rfl, kind, rfl, rfl, rfl⟩ |
    ⟨rfl, rfl, rfl, rfl⟩ | ⟨hquiet, rfl, rfl⟩
  · rfl
  · rfl
  · -- The end of a collection records nothing, so the scope that is closed is all that changes.
    cases hscopes : state.scopes with
    | nil =>
        simp [ItemState.apply, ItemState.applyUpdate, ItemState.closeScope, advance, hscopes,
          Except.map]
    | cons scope rest =>
        simp [ItemState.apply, ItemState.applyUpdate, ItemState.closeScope, ItemState.records,
          advance, hscopes, Except.map]
  · rw [advance_of_isQuiet hquiet]
    simp [ItemState.apply, ItemState.applyUpdate, ItemState.records]

/-- Only the end of a collection is refused, and only when none is open. -/
theorem advance_isOk_iff {f : Function} {args : List String} {state : ItemState} :
    (∃ state', f.advance args state = .ok state') ↔ (f = .endCollection → state.scopes ≠ []) := by
  by_cases hf : f = .endCollection
  · subst hf
    cases hscopes : state.scopes with
    | nil =>
        simp [advance, ItemState.closeScope, hscopes, Except.map]
    | cons scope rest =>
        simp [advance, ItemState.closeScope, hscopes, Except.map]
  · refine ⟨fun _ h => absurd h hf, fun _ => ?_⟩
    unfold advance
    split
    · exact ⟨_, rfl⟩
    · exact ⟨_, rfl⟩
    · exact absurd rfl hf
    · exact ⟨_, rfl⟩

/-- Everything that an accepted call can do to the state. -/
theorem advance_cases {f : Function} {state state' : ItemState} {tables : Tables}
    {args : List String} {outcome : Outcome} (hcall : f.call state tables args = .ok outcome)
    (h : f.advance args state = .ok state') :
    (f = .usagePage ∧ ∃ page, args = [page] ∧
        state' = ⟨state.globals.insert pageName (.text page), state.scopes⟩) ∨
      (f = .collection ∧ ∃ kind, args = [kind] ∧
        state' = ⟨state.globals, ItemState.frame kind :: state.scopes⟩) ∨
      (f = .endCollection ∧ ∃ scope, args = [] ∧ state.scopes = scope :: state'.scopes ∧
        state'.globals = state.globals) ∨
      (f.IsQuiet ∧ state' = state) := by
  rcases call_eq_ok hcall with ⟨_, hcases⟩
  rcases hcases with ⟨rfl, page, rfl, _⟩ | ⟨rfl, kind, rfl, _⟩ | ⟨rfl, rfl, _⟩ | ⟨hquiet, _⟩
  · cases h
    exact Or.inl ⟨rfl, page, rfl, rfl⟩
  · cases h
    exact Or.inr (Or.inl ⟨rfl, kind, rfl, rfl⟩)
  · rcases map_eq_ok_iff.1 h with ⟨⟨closed, left⟩, hclosed, rfl⟩
    unfold ItemState.closeScope at hclosed
    split at hclosed
    next =>
      cases hclosed
    next scope rest hscopes =>
      cases hclosed
      exact Or.inr (Or.inr (Or.inl ⟨rfl, closed, rfl, hscopes, rfl⟩))
  · rw [advance_of_isQuiet hquiet] at h
    cases h
    exact Or.inr (Or.inr (Or.inr ⟨hquiet, rfl⟩))

end Function
end HidDescriptor
