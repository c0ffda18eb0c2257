import HidDescriptor.Proofs.Calls
import HidDescriptor.Proofs.Dictionaries
import Mathlib.Data.List.Induction

/-!
# Scopes over a run

Operations on the item state, in any order and with any of them failing. Scopes obey the discipline of
a stack, and globals are changed by setting them only.

- `ItemState.Operation`, `ItemState.perform`: one operation, its answer and the state after it
- `ItemState.Step`, `ItemState.steps`: a run as the operations with the states that they meet
- `ItemState.Step.cases`: what a step does to the scopes
- `ItemState.depth_performAll`: the number of open scopes, counted over a run
- `ItemState.Holds`: a scope with what was recorded in it, on top of the scopes from before it
- `ItemState.Holds.step`, `ItemState.holds_performAll`: it is kept by each step and over a run, as long
  as it stays open
- `ItemState.stack_discipline`: what holds at every point of every run
-/

namespace HidDescriptor
namespace ItemState

/-! ## Operations -/

/-- What the state can be asked to do. -/
inductive Operation
  | setGlobal (name : String) (value : Datum)
  | current (name : String)
  | openScope
  | closeScope
  | top
  | recordLocal (name : String) (value : Datum)
  | checkClosed

inductive Answer
  | done
  | value (value : Option Datum)
  | scope (scope : Scope)

def perform (state : ItemState) : Operation → ItemState × Except Fault Answer
  | .setGlobal name value => (state.setGlobal name value, .ok .done)
  | .current name => (state, .ok (.value (state.current? name)))
  | .openScope => (state.openScope, .ok (.scope .empty))
  | .closeScope =>
      match state.closeScope with
      | .ok (scope, rest) => (rest, .ok (.scope scope))
      | .error fault => (state, .error fault)
  | .top => (state, state.top.map .scope)
  | .recordLocal name value =>
      match state.recordLocal name value with
      | .ok changed => (changed, .ok .done)
      | .error fault => (state, .error fault)
  | .checkClosed => (state, state.checkClosed.map fun _ => .done)

/-- The state after operations, failed ones included. -/
def performAll (state : ItemState) (ops : List Operation) : ItemState :=
  ops.foldl (fun state op => (state.perform op).1) state

variable {state : ItemState} {op : Operation} {ops : List Operation}

theorem performAll_append (state : ItemState) (ops rest : List Operation) :
    state.performAll (ops ++ rest) = (state.performAll ops).performAll rest :=
  List.foldl_append

theorem performAll_concat (state : ItemState) (ops : List Operation) (op : Operation) :
    state.performAll (ops ++ [op]) = ((state.performAll ops).perform op).1 :=
  performAll_append state ops [op]

/-- An operation that fails changes nothing. -/
theorem perform_of_error {fault : Fault} (h : (state.perform op).2 = .error fault) :
    (state.perform op).1 = state := by
  cases op with
  | setGlobal name value =>
      cases h
  | current name =>
      rfl
  | openScope =>
      cases h
  | closeScope =>
      cases hclose : state.closeScope with
      | ok closed =>
          simp [perform, hclose] at h
      | error fault =>
          simp [perform, hclose]
  | top =>
      rfl
  | recordLocal name value =>
      cases hrecord : state.recordLocal name value with
      | ok changed =>
          simp [perform, hrecord] at h
      | error fault =>
          simp [perform, hrecord]
  | checkClosed =>
      rfl

/-- The end is refused if and only if a scope is open. -/
theorem exists_checkClosed_error_iff :
    (∃ fault, (state.perform .checkClosed).2 = .error fault) ↔ 0 < state.depth := by
  have haccepted : (∃ answer, (state.perform .checkClosed).2 = .ok answer) ↔
      state.checkClosed = .ok () := by
    constructor
    · rintro ⟨answer, h⟩
      rcases map_eq_ok_iff.1 h with ⟨_, hclosed, _⟩
      exact hclosed
    · intro hclosed
      exact ⟨.done, map_eq_ok_iff.2 ⟨(), hclosed, rfl⟩⟩
  rw [exists_error_iff, haccepted, checkClosed_eq_ok_iff, depth, List.length_pos_iff]

theorem globals_perform (h : ∀ name value, op ≠ .setGlobal name value) :
    (state.perform op).1.globals = state.globals := by
  rcases state with ⟨globals, scopes⟩
  cases op with
  | setGlobal name value =>
      exact absurd rfl (h name value)
  | closeScope =>
      cases scopes <;> rfl
  | recordLocal name value =>
      cases scopes <;> rfl
  | current name =>
      rfl
  | openScope =>
      rfl
  | top =>
      rfl
  | checkClosed =>
      rfl

theorem current?_setGlobal_self (state : ItemState) (name : String) (new value : Datum) :
    (state.setGlobal name new).current? name = some value ↔ new = value ∧ value ≠ .null := by
  unfold current?
  cases new with
  | null =>
      -- Null is erased, so that there is no value.
      simp only [setGlobal, Dictionary.get?_erase, if_true]
      constructor
      · intro h
        cases h
      · rintro ⟨rfl, hnull⟩
        exact absurd rfl hnull
  | _ =>
      simp only [setGlobal, Dictionary.get?_insert, if_true, Option.some.injEq]
      refine ⟨?_, And.left⟩
      rintro rfl
      exact ⟨rfl, by simp⟩

theorem current?_setGlobal_of_ne {name key : String} (hne : name ≠ key) (state : ItemState)
    (new : Datum) : (state.setGlobal key new).current? name = state.current? name := by
  unfold current?
  cases new <;> simp [setGlobal, Dictionary.get?_insert, Dictionary.get?_erase, hne]

/-! ## Steps -/

/-- A step of a run: an operation and the state that it meets. -/
structure Step where
  state : ItemState
  operation : Operation

def steps : ItemState → List Operation → List Step
  | _, [] => []
  | state, op :: rest => ⟨state, op⟩ :: steps (state.perform op).1 rest

theorem steps_concat (state : ItemState) (ops : List Operation) (op : Operation) :
    steps state (ops ++ [op]) = steps state ops ++ [⟨state.performAll ops, op⟩] := by
  induction ops generalizing state with
  | nil =>
      rfl
  | cons first rest ih =>
      exact congrArg (_ :: ·) (ih (state.perform first).1)

namespace Step

def after (s : Step) : ItemState :=
  (s.state.perform s.operation).1

def answer (s : Step) : Except Fault Answer :=
  (s.state.perform s.operation).2

def opens (s : Step) : Bool :=
  match s.operation with
  | .openScope => true
  | _ => false

/-- Whether a scope is closed: the operation must not fail. -/
def closes (s : Step) : Bool :=
  match s.operation, s.answer with
  | .closeScope, .ok _ => true
  | _, _ => false

def sets? (name : String) (s : Step) : Option Datum :=
  match s.operation with
  | .setGlobal key value => if key = name then some value else none
  | _ => none

/-- The value that is recorded under a name while `depth` scopes are open. -/
def records? (depth : Nat) (name : String) (s : Step) : Option Datum :=
  match s.operation with
  | .recordLocal key value => if key = name ∧ s.state.depth = depth then some value else none
  | _ => none

/-- A step opens a scope, closes the innermost one, records a value in it, or leaves the scopes as they
are. -/
theorem cases (s : Step) :
    (s.operation = .openScope ∧ s.after.scopes = .empty :: s.state.scopes) ∨
    (∃ scope, s.operation = .closeScope ∧ s.answer = .ok (.scope scope) ∧
      s.state.scopes = scope :: s.after.scopes) ∨
    (∃ name value scope rest, s.operation = .recordLocal name value ∧
      s.state.scopes = scope :: rest ∧ s.after.scopes = scope.insert name value :: rest) ∨
    (s.after.scopes = s.state.scopes ∧ s.opens = false ∧ s.closes = false ∧
      ∀ depth name, 0 < depth → s.records? depth name = none) := by
  rcases s with ⟨⟨globals, scopes⟩, op⟩
  cases op with
  | openScope =>
      exact Or.inl ⟨rfl, rfl⟩
  | closeScope =>
      cases scopes with
      | nil =>
          exact Or.inr (Or.inr (Or.inr ⟨rfl, rfl, rfl, fun _ _ _ => rfl⟩))
      | cons scope rest =>
          exact Or.inr (Or.inl ⟨scope, rfl, rfl, rfl⟩)
  | recordLocal name value =>
      cases scopes with
      | nil =>
          -- Without an open scope the operation fails, and no depth but zero sees it.
          refine Or.inr (Or.inr (Or.inr ⟨rfl, rfl, rfl, ?_⟩))
          intro depth key hdepth
          exact if_neg fun h => absurd h.2 (Nat.ne_of_lt hdepth)
      | cons scope rest =>
          exact Or.inr (Or.inr (Or.inl ⟨name, value, scope, rest, rfl, rfl, rfl⟩))
  | setGlobal name value =>
      refine Or.inr (Or.inr (Or.inr ⟨?_, rfl, rfl, fun _ _ _ => rfl⟩))
      cases value <;> rfl
  | current name =>
      exact Or.inr (Or.inr (Or.inr ⟨rfl, rfl, rfl, fun _ _ _ => rfl⟩))
  | top =>
      exact Or.inr (Or.inr (Or.inr ⟨rfl, rfl, rfl, fun _ _ _ => rfl⟩))
  | checkClosed =>
      exact Or.inr (Or.inr (Or.inr ⟨rfl, rfl, rfl, fun _ _ _ => rfl⟩))

/-- A scope more for one that is opened, and one less for one that is closed. -/
theorem depth_after (s : Step) :
    s.after.depth + [s].countP closes = s.state.depth + [s].countP opens := by
  unfold depth
  rcases s.cases with ⟨hop, hafter⟩ | ⟨scope, hop, hanswer, hbefore⟩ |
    ⟨name, value, scope, rest, hop, hbefore, hafter⟩ | ⟨hafter, hopens, hcloses, _⟩
  · have hopens : s.opens = true := by rw [opens, hop]
    have hcloses : s.closes = false := by simp [closes, hop]
    simp [hafter, hopens, hcloses]
  · have hopens : s.opens = false := by simp [opens, hop]
    have hcloses : s.closes = true := by rw [closes, hop, hanswer]
    simp [hbefore, hopens, hcloses]
  · have hopens : s.opens = false := by simp [opens, hop]
    have hcloses : s.closes = false := by simp [closes, hop]
    simp [hbefore, hafter, hopens, hcloses]
  · simp [hafter, hopens, hcloses]

/-- A global value comes from setting it to something but null, or from before. -/
theorem current?_after_iff (s : Step) (name : String) (value : Datum) :
    s.after.current? name = some value ↔
      value ≠ .null ∧ s.sets? name = some value ∨
        s.sets? name = none ∧ s.state.current? name = some value := by
  rcases s with ⟨⟨globals, scopes⟩, op⟩
  cases op with
  | setGlobal key new =>
      unfold sets? after perform
      by_cases hkey : key = name
      · simp [hkey, current?_setGlobal_self, and_comm]
      · simp [hkey, current?_setGlobal_of_ne (Ne.symm hkey)]
  | closeScope =>
      cases scopes <;> simp [sets?, after, perform, closeScope, current?]
  | recordLocal key new =>
      cases scopes <;> simp [sets?, after, perform, recordLocal, current?]
  | openScope =>
      simp [sets?, after, perform, openScope, current?]
  | current key =>
      simp [sets?, after, perform]
  | top =>
      simp [sets?, after, perform]
  | checkClosed =>
      simp [sets?, after, perform]

end Step

/-! ## Runs -/

def lastValue (f : Step → Option Datum) (run : List Step) : Option Datum :=
  (run.filterMap f).getLast?

theorem lastValue_concat (f : Step → Option Datum) (run : List Step) (s : Step) :
    lastValue f (run ++ [s]) = (f s).or (lastValue f run) := by
  unfold lastValue
  rw [List.filterMap_append, List.getLast?_append]
  cases hs : f s with
  | none =>
      simp [hs]
  | some value =>
      simp [hs]

/-- The scopes that are open after a run are those that were opened and not closed. -/
theorem depth_performAll (state : ItemState) (ops : List Operation) :
    (state.performAll ops).depth + (steps state ops).countP Step.closes =
      state.depth + (steps state ops).countP Step.opens := by
  induction ops using List.reverseRecOn with
  | nil =>
      rfl
  | append_singleton ops op ih =>
      have hstep := Step.depth_after ⟨state.performAll ops, op⟩
      rw [performAll_concat, steps_concat, List.countP_append, List.countP_append]
      simp only [Step.after] at hstep
      omega

/-- The value of a global name is the last one that was set, unless that is null. -/
theorem current?_performAll (ops : List Operation) (name : String) (value : Datum) :
    (empty.performAll ops).current? name = some value ↔
      value ≠ .null ∧ lastValue (Step.sets? name) (steps empty ops) = some value := by
  induction ops using List.reverseRecOn with
  | nil =>
      simp [performAll, steps, lastValue, current?, empty, Dictionary.get?, Dictionary.empty]
  | append_singleton ops op ih =>
      have hstep := Step.current?_after_iff ⟨empty.performAll ops, op⟩ name value
      rw [performAll_concat, steps_concat, lastValue_concat]
      refine hstep.trans ?_
      cases hset : Step.sets? name ⟨empty.performAll ops, op⟩ with
      | none =>
          simpa using ih
      | some new =>
          simp

/-! ## Scopes that stay open -/

/-- A scope, the scopes on top of it, and those below it: the scope holds the values of a run that were
recorded while it was the innermost one. -/
def Holds (base : List Scope) (run : List Step) (scopes : List Scope) : Prop :=
  ∃ above held, scopes = above ++ held :: base ∧
    ∀ name, held.get? name = lastValue (Step.records? (base.length + 1) name) run

/-- A step that leaves more scopes open than there are at the base keeps the scope on the base, and
what it holds. -/
theorem Holds.step {base : List Scope} {run : List Step} {s : Step}
    (h : Holds base run s.state.scopes) (hopen : base.length < s.after.depth) :
    Holds base (run ++ [s]) s.after.scopes := by
  rcases h with ⟨above, held, hscopes, hheld⟩
  -- A step that records nothing at the height of the scope leaves its values as they are.
  have hquiet (hnone : ∀ name, s.records? (base.length + 1) name = none) (name : String) :
      held.get? name = lastValue (Step.records? (base.length + 1) name) (run ++ [s]) := by
    rw [lastValue_concat, hnone, Option.none_or, hheld]
  rcases s.cases with ⟨hop, hafter⟩ | ⟨scope, hop, _, hbefore⟩ |
    ⟨key, value, scope, rest, hop, hbefore, hafter⟩ | ⟨hafter, _, _, hnone⟩
  · -- One more scope is on top.
    refine ⟨.empty :: above, held, ?_, hquiet fun name => ?_⟩
    · rw [hafter, hscopes, List.cons_append]
    · simp [Step.records?, hop]
  · -- The scope that is closed is one of those on top.
    rw [hscopes] at hbefore
    cases above with
    | nil =>
        rw [List.nil_append] at hbefore
        rw [depth, ← (List.cons.inj hbefore).2] at hopen
        exact absurd hopen (Nat.lt_irrefl _)
    | cons first above =>
        refine ⟨above, held, (List.cons.inj hbefore).2.symm, hquiet fun name => ?_⟩
        simp [Step.records?, hop]
  · -- The innermost scope is the one on the base, or one of those on top of it.
    have hdepth : s.state.depth = (above ++ held :: base).length := by
      rw [depth, hscopes]
    rw [hscopes] at hbefore
    cases above with
    | nil =>
        rcases List.cons.inj hbefore with ⟨rfl, rfl⟩
        refine ⟨[], held.insert key value, hafter, ?_⟩
        intro name
        have hrecord : s.records? (base.length + 1) name = if key = name then some value else none := by
          simp [Step.records?, hop, hdepth]
        rw [lastValue_concat, hrecord, Dictionary.get?_insert, ← hheld]
        by_cases hname : key = name
        · simp [hname]
        · simp [hname, Ne.symm hname]
    | cons first above =>
        rcases List.cons.inj hbefore with ⟨rfl, rfl⟩
        refine ⟨first.insert key value :: above, held, hafter, hquiet fun name => ?_⟩
        simp [Step.records?, hop, hdepth]
        omega
  · exact ⟨above, held, hafter.trans hscopes, hquiet fun name => hnone _ name (Nat.succ_pos _)⟩

/-- As long as more scopes are open than below a new one, this one is kept and so are those below it. -/
theorem holds_performAll {base : List Scope} (hstate : state.scopes = .empty :: base)
    (hopen : ∀ p, p <+: ops → base.length < (state.performAll p).depth) :
    Holds base (steps state ops) (state.performAll ops).scopes := by
  induction ops using List.reverseRecOn with
  | nil =>
      exact ⟨[], .empty, hstate, fun _ => rfl⟩
  | append_singleton ops op ih =>
      have hheld := ih fun p hp => hopen p (hp.trans (List.prefix_append _ _))
      have hstep := hopen (ops ++ [op]) List.prefix_rfl
      rw [performAll_concat] at hstep
      rw [performAll_concat, steps_concat]
      exact Holds.step (s := ⟨state.performAll ops, op⟩) hheld hstep

/-- A scope that is opened after some operations stays open during further ones, and is closed by the
operation after them: then as many scopes are open as before, for the first time. -/
def Encloses (before inner : List Operation) : Prop :=
  (∀ p, p <+: inner →
    (empty.performAll before).depth < (empty.performAll (before ++ .openScope :: p)).depth) ∧
  (empty.performAll (before ++ .openScope :: inner ++ [.closeScope])).depth =
    (empty.performAll before).depth

/-- Closing a scope gives the values recorded in it, and brings the scopes back that were open before
it. -/
theorem Encloses.closeScope {before inner : List Operation} (h : Encloses before inner) :
    (empty.performAll (before ++ .openScope :: inner ++ [.closeScope])).scopes =
        (empty.performAll before).scopes ∧
      ∃ scope,
        ((empty.performAll (before ++ .openScope :: inner)).perform .closeScope).2 =
          .ok (.scope scope) ∧
        ∀ name, scope.get? name =
          lastValue (Step.records? ((empty.performAll before).depth + 1) name)
            (steps (empty.performAll (before ++ [.openScope])) inner) := by
  rcases h with ⟨hopen, hclosed⟩
  have hsplit (p : List Operation) : empty.performAll (before ++ .openScope :: p) =
      (empty.performAll (before ++ [.openScope])).performAll p := by
    rw [← performAll_append, List.append_assoc]
    rfl
  have hfirst : (empty.performAll (before ++ [.openScope])).scopes =
      .empty :: (empty.performAll before).scopes := by
    rw [performAll_concat]
    rfl
  rcases holds_performAll hfirst (fun p hp => hsplit p ▸ hopen p hp) with
    ⟨above, held, hscopes, hheld⟩
  rw [← hsplit] at hscopes
  rw [performAll_concat] at hclosed ⊢
  -- With anything left on top of the scope, there would be more scopes open than before.
  generalize empty.performAll (before ++ .openScope :: inner) = last at hscopes hclosed ⊢
  rcases last with ⟨globals, scopes⟩
  obtain rfl : scopes = _ := hscopes
  cases above with
  | nil =>
      exact ⟨rfl, held, rfl, hheld⟩
  | cons first above =>
      have hlen : (above ++ held :: (empty.performAll before).scopes).length =
          (empty.performAll before).scopes.length := hclosed
      rw [List.length_append, List.length_cons] at hlen
      omega

/-! ## Every point of every run -/

/-- At every point of a run, whichever of its operations fail: an operation that fails changes nothing.
Only setting a global changes the globals, and each has the value it was last set to. A scope that is
closed holds the values that were last recorded in it, and the scopes from before it was opened are
back. The end is refused if and only if more scopes were opened than closed. -/
theorem stack_discipline (ops : List Operation) :
    (∀ op fault, ((empty.performAll ops).perform op).2 = .error fault →
      ((empty.performAll ops).perform op).1 = empty.performAll ops) ∧
    (∀ op, ((empty.performAll ops).perform op).1.globals ≠ (empty.performAll ops).globals →
      ∃ name value, op = .setGlobal name value) ∧
    (∀ name, ∃ found, ((empty.performAll ops).perform (.current name)).2 = .ok (.value found) ∧
      ∀ value, found = some value ↔
        value ≠ .null ∧ lastValue (Step.sets? name) (steps empty ops) = some value) ∧
    (∀ before inner, ops = before ++ .openScope :: inner ++ [.closeScope] → Encloses before inner →
      (empty.performAll ops).scopes = (empty.performAll before).scopes ∧
      ∃ scope,
        ((empty.performAll (before ++ .openScope :: inner)).perform .closeScope).2 =
          .ok (.scope scope) ∧
        scope.keys.Nodup ∧
        ∀ name, scope.get? name =
          lastValue (Step.records? ((empty.performAll before).depth + 1) name)
            (steps (empty.performAll (before ++ [.openScope])) inner)) ∧
    ((∃ fault, ((empty.performAll ops).perform .checkClosed).2 = .error fault) ↔
      (steps empty ops).countP Step.closes < (steps empty ops).countP Step.opens) := by
  refine ⟨fun op fault => perform_of_error, ?_, ?_, ?_, ?_⟩
  · intro op hchanged
    by_contra hnot
    exact hchanged (globals_perform fun name value hop => hnot ⟨name, value, hop⟩)
  · intro name
    exact ⟨_, rfl, current?_performAll ops name⟩
  · rintro before inner rfl hencloses
    rcases hencloses.closeScope with ⟨hback, scope, hclosed, hheld⟩
    exact ⟨hback, scope, hclosed, scope.nodup, hheld⟩
  · -- What is open at the end is what was opened and not closed.
    have hdepth := depth_performAll empty ops
    have hempty : empty.depth = 0 := rfl
    rw [exists_checkClosed_error_iff]
    omega

/-- A scope inside another one, after a closing that fails: what is recorded in the scope on top of it
under the same name does not count. -/
theorem stack_discipline_nested :
    ∃ before inner : List Operation, Encloses before inner ∧
      (empty.performAll (before ++ .openScope :: inner ++ [.closeScope])).scopes =
        [.ofList [("collection", .text "application")]] ∧
      ∃ scope,
        ((empty.performAll (before ++ .openScope :: inner)).perform .closeScope).2 =
          .ok (.scope scope) ∧
        scope.get? "collection" = some (.text "physical") := by
  let before : List Operation :=
    [.closeScope, .openScope, .recordLocal "collection" (.text "application")]
  let inner : List Operation :=
    [.recordLocal "collection" (.text "report"), .recordLocal "collection" (.text "physical"), .openScope,
      .recordLocal "collection" (.text "logical"), .closeScope]
  have hencloses : Encloses before inner := by
    have hopen : ∀ n < 6, (empty.performAll before).depth <
        (empty.performAll (before ++ .openScope :: inner.take n)).depth := by
      decide
    refine ⟨?_, rfl⟩
    intro p hp
    rw [List.prefix_iff_eq_take.1 hp]
    exact hopen _ (Nat.lt_succ_of_le hp.length_le)
  rcases (stack_discipline _).2.2.2.1 before inner rfl hencloses with ⟨hback, scope, hclosed, _, hheld⟩
  exact ⟨before, inner, hencloses, hback, scope, hclosed, hheld "collection"⟩

end ItemState
end HidDescriptor
