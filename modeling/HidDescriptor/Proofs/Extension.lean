import HidDescriptor.Proofs.Steps

/-!
# Larger tables

A source that compiles with some tables compiles to the same descriptor with all tables that hold
their names with the same codes.

- `Carries`: two computations of which the second gives what the first gives
- `Dictionary.Within`, `PagesWithin`, `Tables.Within`: tables that are contained in others
- `Function.carries_call`, `ItemState.carries_answer`: calls with larger tables
- `Session.withTables`, `Session.feedAll_within`: runs with larger tables
- `compileLines_within`: whole sources
-/

namespace HidDescriptor

/-! ## Simulation of computations -/

/-- Whatever the first computation gives, the second gives something related to it. -/
def Carries {α β : Type} (R : α → β → Prop) (x : Except Fault α) (y : Except Fault β) : Prop :=
  ∀ a, x = .ok a → ∃ b, y = .ok b ∧ R a b

namespace Carries

variable {α β γ δ : Type} {R : α → β → Prop} {S : γ → δ → Prop}

theorem error (fault : Fault) (y : Except Fault β) : Carries R (.error fault) y := by
  intro a ha
  cases ha

theorem refl (x : Except Fault α) : Carries Eq x x :=
  fun a ha => ⟨a, ha, rfl⟩

theorem bind {x : Except Fault α} {y : Except Fault β} {k : α → Except Fault γ}
    {l : β → Except Fault δ} (hxy : Carries R x y) (hkl : ∀ a b, R a b → Carries S (k a) (l b)) :
    Carries S (x >>= k) (y >>= l) := by
  intro c hc
  rcases bind_eq_ok_iff.1 hc with ⟨a, ha, hk⟩
  rcases hxy a ha with ⟨b, hb, hab⟩
  rcases hkl a b hab c hk with ⟨d, hd, hcd⟩
  exact ⟨d, bind_eq_ok_iff.2 ⟨b, hb, hd⟩, hcd⟩

/-- The same first step, and then one that carries. -/
theorem after (x : Except Fault α) {k : α → Except Fault γ} {l : α → Except Fault δ}
    (h : ∀ a, Carries S (k a) (l a)) : Carries S (x >>= k) (x >>= l) := by
  refine (refl x).bind ?_
  rintro a _ rfl
  exact h a

theorem eq_ok {x y : Except Fault α} {a : α} (h : Carries Eq x y) (hx : x = .ok a) : y = .ok a := by
  rcases h a hx with ⟨_, hy, rfl⟩
  exact hy

end Carries

/-! ## Tables within others -/

/-- Every name of the first dictionary has the same value in the second. -/
def Dictionary.Within {α : Type} (d d' : Dictionary α) : Prop :=
  ∀ name value, d.get? name = some value → d'.get? name = some value

/-- Every page of the first usages is a page of the second, with all of its names. -/
def PagesWithin (usages usages' : Dictionary Table) : Prop :=
  ∀ page table, usages.get? page = some table →
    ∃ table', usages'.get? page = some table' ∧ table.Within table'

/-- Every name of the first tables has the same code in the second. -/
structure Tables.Within (tables tables' : Tables) : Prop where
  usagePages : tables.usagePages.Within tables'.usagePages
  usages : PagesWithin tables.usages tables'.usages
  collections : tables.collections.Within tables'.collections
  flags : tables.flags.Within tables'.flags

/-! ## Names -/

namespace Function

/-- Literals are read before names, so a name that is added cannot take the place of one. -/
theorem denotes_within {table table' : Table} (h : table.Within table') {arg : String} {value : Int}
    (hvalue : table.Denotes arg value) : table'.Denotes arg value := by
  cases hvalue with
  | literal hread =>
      exact .literal hread
  | code hread hcode =>
      exact .code hread (h arg value hcode)

theorem carries_symbol {table table' : Table} (h : table.Within table') (name arg : String) :
    Carries Eq (symbol name table arg) (symbol name table' arg) := by
  intro payload hpayload
  rcases symbol_eq_ok_iff.1 hpayload with ⟨value, hvalue, hencode⟩
  exact ⟨payload, symbol_eq_ok_iff.2 ⟨value, denotes_within h hvalue, hencode⟩, rfl⟩

end Function

theorem Payload.composeFlags_within {table table' : Table} (h : table.Within table')
    {flags : List String} {union : Int} (hunion : composeFlags table flags = some union) :
    composeFlags table' flags = some union := by
  unfold composeFlags at hunion ⊢
  generalize (0 : Int) = first at hunion ⊢
  induction flags generalizing first with
  | nil =>
      exact hunion
  | cons flag rest ih =>
      rw [List.foldlM_cons] at hunion ⊢
      rcases Option.bind_eq_some_iff.1 hunion with ⟨next, hnext, hrest⟩
      rcases Option.map_eq_some_iff.1 hnext with ⟨code, hcode, rfl⟩
      rw [h flag code hcode]
      exact ih _ hrest

/-! ## Calls -/

namespace Function

variable {tables tables' : Tables}

theorem carries_usageTable (h : tables.Within tables') (state : ItemState) (name : String) :
    Carries Dictionary.Within (usageTable state tables name) (usageTable state tables' name) := by
  intro table htable
  rcases usageTable_eq_ok_iff.1 htable with ⟨page, hpage, hget⟩
  rcases h.usages _ table hget with ⟨table', hget', hwithin⟩
  exact ⟨table', usageTable_eq_ok_iff.2 ⟨page, hpage, hget'⟩, hwithin⟩

theorem carries_callFlags (h : tables.Within tables') (name : String) (args : List String) :
    Carries Eq (callFlags tables name args) (callFlags tables' name args) := by
  intro outcome houtcome
  rcases callFlags_eq_ok_iff.1 houtcome with ⟨union, payload, hunion, hpayload⟩
  have hunion' := Payload.composeFlags_within h.flags hunion
  exact ⟨outcome, callFlags_eq_ok_iff.2 ⟨union, payload, hunion', hpayload⟩, rfl⟩

/-- A call that succeeds has the same outcome with larger tables. -/
theorem carries_call (f : Function) (h : tables.Within tables') (state : ItemState)
    (args : List String) : Carries Eq (f.call state tables args) (f.call state tables' args) := by
  have husage (name : String) :
      Carries Eq (callUsage state tables name args) (callUsage state tables' name args) := by
    refine .after _ fun arg => (carries_usageTable h state name).bind fun table table' htable => ?_
    refine (carries_symbol htable name arg).bind ?_
    rintro payload _ rfl
    exact .refl _
  cases f with
  | usagePage =>
      refine .after _ fun page => (carries_symbol h.usagePages _ page).bind ?_
      rintro payload _ rfl
      exact .refl _
  | collection =>
      refine .after _ fun kind => (carries_symbol h.collections _ kind).bind ?_
      rintro payload _ rfl
      exact .refl _
  | usage | usageMinimum | usageMaximum =>
      exact husage _
  | input | output | feature =>
      exact carries_callFlags h _ args
  | _ =>
      exact .refl _

end Function

theorem ItemState.carries_answer {tables tables' : Tables} (h : tables.Within tables')
    (state : ItemState) (c : Call) (number : Int) :
    Carries Eq (state.answer tables c number) (state.answer tables' c number) := by
  unfold answer
  cases Function.ofName? c.name with
  | none =>
      exact .error _ _
  | some f =>
      refine (f.carries_call h state c.args).bind ?_
      rintro outcome _ rfl
      exact .refl _

/-! ## Runs -/

namespace Session

def withTables (s : Session) (tables : Tables) : Session :=
  { s with tables }

/-- A line that is read without a fault does the same with larger tables. -/
theorem feed_within {s s' : Session} {tables : Tables} {line : SourceLine}
    (hwithin : s.tables.Within tables) (h : s.feed line = (s', .ok ())) :
    s'.tables = s.tables ∧ (s.withTables tables).feed line = (s'.withTables tables, .ok ()) := by
  rcases feed_eq_ok h with ⟨hphase, ⟨hsilent, rfl⟩ | ⟨c, state, r, hc, hn, hanswer, rfl⟩⟩
  · exact ⟨rfl, feed_silent hphase hsilent⟩
  · refine ⟨rfl, ?_⟩
    have hlarger : (s.withTables tables).state.answer (s.withTables tables).tables c line.number =
        .ok (state, r) :=
      (s.state.carries_answer hwithin c line.number).eq_ok hanswer
    have hfeed := feed_call_eq (s := s.withTables tables) hphase hc hn
    rw [hlarger] at hfeed
    exact hfeed

/-- Lines that are read without a fault are read with larger tables, too. -/
theorem feedAll_within {s s' : Session} {tables : Tables} {number : Int} {lines : List String}
    (hwithin : s.tables.Within tables) (h : s.feedAll number lines = (s', .ok ())) :
    (s.withTables tables).feedAll number lines = (s'.withTables tables, .ok ()) := by
  induction lines generalizing s number with
  | nil =>
      cases h
      rfl
  | cons text rest ih =>
      rcases feedAll_cons_eq_ok.1 h with ⟨line, s₁, hparse, hfeed, hrest⟩
      rcases feed_within hwithin hfeed with ⟨htables, hlarger⟩
      have hwithin₁ : s₁.tables.Within tables := by
        rw [htables]
        exact hwithin
      exact feedAll_cons_eq_ok.2 ⟨line, _, hparse, hlarger, ih hwithin₁ hrest⟩

end Session

theorem compileLines_within {tables tables' : Tables} (hwithin : tables.Within tables')
    {lines : List String} {d : Descriptor} (h : compileLines tables lines = .ok d) :
    compileLines tables' lines = .ok d := by
  rcases compileLines_eq_ok.1 h with ⟨s, hrun, hphase, hclosed, rfl⟩
  exact compileLines_eq_ok.2
    ⟨s.withTables tables', Session.feedAll_within hwithin hrun, hphase, hclosed, rfl⟩

end HidDescriptor
