import HidDescriptor.Proofs.History

/-!
# Steps are taken as a whole or not at all

A line that is refused leaves records, bytes, globals and scopes of a session as they were, and a
session that is over stays as it is.

- `ItemState.Labelled`: every open scope is that of a collection
- `Session.labelled_performAll`: so it is in every session, whatever it was asked to do
- `Session.finish_of_labelled`: the end of a source from such a state
- `Session.Atomic`: what a session does with a line and with the end of the source
- `Session.atomic_performAll`: every session does so
-/

namespace HidDescriptor

/-! ## Scopes of collections -/

namespace ItemState

/-- Every open scope holds the kind of its collection and nothing else. -/
def Labelled (state : ItemState) : Prop :=
  ∃ kinds : List String, state.scopes = kinds.map frame

theorem labelled_empty : empty.Labelled :=
  ⟨[], rfl⟩

/-- An accepted call opens a scope with a kind, closes one, or leaves the scopes alone. -/
theorem Labelled.answer {state state' : ItemState} {tables : Tables} {c : Call} {number : Int}
    {r : Record} (h : state.Labelled)
    (hanswer : state.answer tables c number = .ok (state', r)) : state'.Labelled := by
  rcases h with ⟨kinds, hkinds⟩
  rcases answer_eq_ok hanswer with ⟨f, outcome, _, hcall, hadvance, _⟩
  rcases Function.advance_cases hcall hadvance with ⟨_, page, _, rfl⟩ | ⟨_, kind, _, rfl⟩ |
    ⟨_, scope, _, hscopes, _⟩ | ⟨_, rfl⟩
  · exact ⟨kinds, hkinds⟩
  · exact ⟨kind :: kinds, by simp [hkinds]⟩
  · rw [hkinds] at hscopes
    cases kinds with
    | nil =>
        cases hscopes
    | cons kind rest =>
        exact ⟨rest, (List.cons.inj hscopes).2.symm⟩
  · exact ⟨kinds, hkinds⟩

theorem Labelled.checkClosed_eq {state : ItemState} (h : state.Labelled) :
    ∃ kinds : List String, (kinds = [] ↔ state.scopes = []) ∧
      state.checkClosed =
        if kinds = [] then .ok () else .error (.compile (.ofCause (.unterminated kinds))) := by
  rcases h with ⟨kinds, hkinds⟩
  refine ⟨kinds.reverse, ?_, checkClosed_frames ?_⟩
  · rw [hkinds, List.reverse_eq_nil_iff, List.map_eq_nil_iff]
  · rw [hkinds, List.map_reverse]

end ItemState

namespace Session

/-! ## Every session has labelled scopes -/

theorem stop_state (s : Session) (fault : Fault) : (s.stop fault).1.state = s.state := by
  unfold stop
  split <;> rfl

/-- The number of the line does not matter here: even a record that cannot be kept leaves a state
with labelled scopes. -/
theorem labelled_feed {s : Session} (h : s.state.Labelled) (line : SourceLine) :
    (s.feed line).1.state.Labelled := by
  unfold feed
  split
  · split
    next c _ =>
      rcases s.call_cases c line.number line.text with ⟨fault, _, ⟨_, hcall⟩ | hcall⟩ |
        ⟨state, r, hanswer, hcall⟩
      · rw [hcall]
        exact h
      · rw [hcall, stop_state]
        exact h
      · -- The state is the new one, whether or not the number of the line can be written.
        have hstate : state.Labelled := h.answer hanswer
        rw [hcall]
        split
        · exact hstate
        · exact hstate
    next =>
      exact h
  · exact h

theorem labelled_finish {s : Session} (h : s.state.Labelled) : s.finish.1.state.Labelled := by
  unfold finish
  split
  · split
    · rw [stop_state]
      exact h
    · exact h
  · exact h

theorem labelled_performAll {s : Session} (h : s.state.Labelled) (commands : List Command) :
    (s.performAll commands).state.Labelled := by
  induction commands generalizing s with
  | nil =>
      exact h
  | cons command rest ih =>
      apply ih
      cases command with
      | feed line =>
          exact labelled_feed h line
      | finish =>
          exact labelled_finish h

/-! ## Sessions that are over -/

theorem finish_closed {s : Session} (hphase : s.phase ≠ .scanning) :
    s.finish = (s, .error (.closedToEnd s.phase)) := by
  unfold finish
  split
  next h =>
    exact absurd h hphase
  next =>
    rfl

/-- Nothing that a session is asked to do when it is over changes it. -/
theorem performAll_closed {s : Session} (hphase : s.phase ≠ .scanning) (commands : List Command) :
    s.performAll commands = s := by
  induction commands with
  | nil =>
      rfl
  | cons command rest ih =>
      have hstep : s.perform command = s := by
        cases command with
        | feed line =>
            simp only [perform, feed_closed line hphase]
        | finish =>
            simp only [perform, finish_closed hphase]
      rw [performAll, List.foldl_cons, hstep]
      exact ih

/-! ## Single steps -/

/-- The end of a source is refused for nothing but open scopes. -/
theorem finish_of_labelled {s : Session} (h : s.state.Labelled) (hphase : s.phase = .scanning) :
    (s.state.scopes = [] → s.finish = ({ s with phase := .done }, .ok ⟨s.records, s.data⟩)) ∧
      (s.state.scopes ≠ [] →
        ∃ d, s.finish = ({ s with phase := .failed }, .error (.compile d)) ∧
          d.kind = .structural) := by
  rcases h.checkClosed_eq with ⟨kinds, hkinds, hclosed⟩
  refine ⟨?_, ?_⟩
  · intro hscopes
    rw [if_pos (hkinds.2 hscopes)] at hclosed
    simp only [finish, hphase, hclosed]
  · intro hscopes
    rw [if_neg fun hnil => hscopes (hkinds.1 hnil)] at hclosed
    refine ⟨.ofCause (.unterminated kinds), ?_, rfl⟩
    simp only [finish, hphase, hclosed]
    rfl

theorem length_encoding {r : Record} (h : r.payload.Emittable) :
    r.encoding.length ∈ [1, 2, 3, 5] := by
  rcases Item.encode_shape (Record.bytes_eq h) with ⟨head, hbytes, _⟩
  have hlength : r.encoding.length = r.payload.length + 1 := by
    rw [hbytes, List.length_cons, List.length_map]
  rcases h.size with hsize | hsize | hsize | hsize
  all_goals
    rw [hlength, hsize]
    decide

/-! ## All that a session can do -/

/-- What a session does with a line, with the end of the source, and once it is over. -/
structure Atomic (s : Session) (line : SourceLine) : Prop where
  /-- A session that is over refuses every line and every end, and stays as it is. -/
  ended : s.phase ≠ .scanning →
    s.feed line = (s, .error (.closedToLines s.phase)) ∧
      s.finish = (s, .error (.closedToEnd s.phase)) ∧ ∀ commands, s.performAll commands = s
  /-- A line without a call changes nothing. -/
  silent : s.phase = .scanning → (∀ c, line.content ≠ .call c) → s.feed line = (s, .ok ())
  /-- A call adds its record and the bytes of this record, or it changes nothing but the phase. -/
  call : s.phase = .scanning → ∀ c, line.content = .call c →
    (∃ state r bytes,
      s.feed line = (⟨s.tables, state, s.records ++ [r], s.data ++ bytes, .scanning⟩, .ok ()) ∧
        r.item.name = c.name ∧ r.args = c.args ∧ r.line = line.number ∧ r.bytes = .ok bytes ∧
        bytes.length ∈ [1, 2, 3, 5]) ∨
    ∃ fault, (s.feed line).2 = .error fault ∧
      (fault.IsCompile → (s.feed line).1 = { s with phase := .failed }) ∧
      (¬ fault.IsCompile → (s.feed line).1 = s)
  /-- With no scope open, the end of the source gives the descriptor. -/
  done : s.phase = .scanning → s.state.scopes = [] →
    s.finish = ({ s with phase := .done }, .ok ⟨s.records, s.data⟩)
  /-- With a scope open, the end of the source is refused. -/
  refused : s.phase = .scanning → s.state.scopes ≠ [] →
    ∃ d, s.finish = ({ s with phase := .failed }, .error (.compile d)) ∧ d.kind = .structural

/-- Whatever a session was asked to do before, and whatever of it failed, it takes every further
step as a whole or not at all. The number of the further line has to be short enough to be
written; those of the lines before need not be. -/
theorem atomic_performAll (tables : Tables) (commands : List Command) (line : SourceLine)
    (hn : Numeral.printable line.number = true) :
    ((start tables).performAll commands).Atomic line := by
  have hlabelled := labelled_performAll (s := start tables) ItemState.labelled_empty commands
  -- Of the commands so far only this is needed: every open scope is labelled.
  generalize (start tables).performAll commands = s at hlabelled
  refine ⟨?_, ?_, ?_, ?_, ?_⟩
  · intro hphase
    exact ⟨feed_closed line hphase, finish_closed hphase, performAll_closed hphase⟩
  · intro hphase hsilent
    exact feed_silent hphase hsilent
  · intro hphase c hc
    rw [feed_call_eq hphase hc hn]
    cases hanswer : s.state.answer s.tables c line.number with
    | ok answer =>
        rcases answer with ⟨state, r⟩
        rcases ItemState.answer_eq_ok hanswer with ⟨f, outcome, hname, hcall, _, hr⟩
        have hemit : r.payload.Emittable := by
          rw [hr]
          exact (Function.call_eq_ok hcall).1
        have hitem : r.item.name = c.name := by
          rw [hr, hname]
          exact f.item_name
        refine Or.inl ⟨state, r, r.encoding, ?_, hitem, by rw [hr], by rw [hr],
          Record.bytes_eq hemit, length_encoding hemit⟩
        rw [← hphase]
        rfl
    | error fault =>
        exact Or.inr ⟨_, s.stop_snd _, s.stop_fst _⟩
  · intro hphase hscopes
    exact (finish_of_labelled hlabelled hphase).1 hscopes
  · intro hphase hscopes
    exact (finish_of_labelled hlabelled hphase).2 hscopes

/-- An end with an argument is refused, and the collection and its bytes stay. -/
theorem atomic_performAll_refused :
    ∃ (tables : Tables) (commands : List Command) (line : SourceLine),
      Numeral.printable line.number = true ∧
      ((start tables).performAll commands).Atomic line ∧
      ((start tables).performAll commands).phase = .scanning ∧
      ((start tables).performAll commands).data = [0xA1, 1] ∧
      ((start tables).performAll (commands ++ [.feed line])).phase = .failed ∧
      ((start tables).performAll (commands ++ [.feed line, .finish])).data = [0xA1, 1] := by
  let tables : Tables := ⟨.empty, .empty, .ofList [("application", 1)], .empty⟩
  let commands : List Command :=
    [.feed ⟨1, "", .call ⟨"collection", ["application"]⟩⟩, .feed ⟨2, "# inner", .comment⟩]
  let line : SourceLine := ⟨-3, "", .call ⟨"end_collection", ["application"]⟩⟩
  have hn : Numeral.printable line.number = true := by
    decide +kernel
  exact ⟨tables, commands, line, hn, atomic_performAll tables commands line hn, by decide +kernel,
    by decide +kernel, by decide +kernel, by decide +kernel⟩

end Session
end HidDescriptor
