import HidDescriptor.Session
import HidDescriptor.Proofs.Calls
import HidDescriptor.Proofs.ShortItems

/-!
# Steps of a session

One line either leaves a session as it is, adds one record, or ends the session.

- `Record.encoding`: the bytes of a record that can be emitted
- `ItemState.answer`: the state and the record that a call leads to
- `ItemState.answer_eq_ok`: everything that an accepted call does
- `Session.extend`, `Session.call_cases`, `Session.feed_call_eq`: the step of a session on a call
- `Session.feed_cases`: the results of a step
- `Session.feedAll_append`: lines one after the other
-/

namespace HidDescriptor

/-! ## Faults -/

namespace Fault

/-- Whether a fault says that the source is rejected. -/
def IsCompile : Fault → Prop
  | compile _ => True
  | _ => False

theorem ofCause_eq_compile {cause : Cause} (h : cause.integers.all Numeral.printable = true) :
    ofCause cause = .compile (.ofCause cause) := by
  rw [ofCause, if_pos h]

theorem isCompile_locate {fault : Fault} {number : Int} {line : String} :
    (fault.locate number line).IsCompile ↔ fault.IsCompile := by
  cases fault <;> rfl

end Fault

/-! ## Records -/

namespace Record

/-- The bytes of a record, none if it cannot be emitted. -/
def encoding (r : Record) : List UInt8 :=
  match r.bytes with
  | .ok bytes => bytes
  | .error _ => []

theorem bytes_eq {r : Record} (h : r.payload.Emittable) : r.bytes = .ok r.encoding := by
  rcases r.item.exists_encode h with ⟨bytes, hbytes⟩
  have hbytes' : r.bytes = .ok bytes := hbytes
  rw [encoding, hbytes']

theorem mapM_bytes {records : List Record} (h : ∀ r ∈ records, r.payload.Emittable) :
    records.mapM bytes = .ok (records.map encoding) := by
  induction records with
  | nil =>
      rfl
  | cons r rest ih =>
      exact mapM_cons_eq_ok_iff.2 ⟨r.encoding, rest.map encoding, bytes_eq (h r List.mem_cons_self),
        ih fun r hr => h r (List.mem_cons_of_mem _ hr), rfl⟩

end Record

/-! ## Answers to calls -/

namespace ItemState

def answer (state : ItemState) (tables : Tables) (c : Call) (number : Int) :
    Except Fault (ItemState × Record) :=
  match Function.ofName? c.name with
  | none => .error (.ofCause (.unknownFunction c.name number))
  | some f => do
      let outcome ← f.call state tables c.args
      let state ← f.advance c.args state
      .ok (state, ⟨f.item, outcome.payload, c.args, number⟩)

theorem answer_eq_ok {state state' : ItemState} {tables : Tables} {c : Call} {number : Int}
    {r : Record} (h : state.answer tables c number = .ok (state', r)) :
    ∃ (f : Function) (outcome : Outcome), c.name = f.name ∧
      f.call state tables c.args = .ok outcome ∧ f.advance c.args state = .ok state' ∧
      r = ⟨f.item, outcome.payload, c.args, number⟩ := by
  unfold answer at h
  split at h
  next =>
    cases h
  next f hf =>
    rcases bind_eq_ok_iff.1 h with ⟨outcome, houtcome, h⟩
    rcases bind_eq_ok_iff.1 h with ⟨next, hnext, h⟩
    cases h
    exact ⟨f, outcome, Function.name_eq_of_ofName? hf, houtcome, hnext, rfl⟩

theorem answer_of_name {state : ItemState} {tables : Tables} {c : Call} {number : Int}
    {f : Function} (h : c.name = f.name) :
    state.answer tables c number = (do
      let outcome ← f.call state tables c.args
      let state ← f.advance c.args state
      .ok (state, ⟨f.item, outcome.payload, c.args, number⟩)) := by
  rw [answer, h, Function.ofName?_name]

end ItemState

/-! ## Steps -/

namespace Session

def extend (s : Session) (state : ItemState) (r : Record) : Session :=
  { s with state, records := s.records ++ [r], data := s.data ++ r.encoding }

/-- Everything that a call can do, whatever the number of its line: an unknown function and a
refused answer end the session and leave all else alone, and the state of an answer is kept even if
the number of the line is too long for its record. -/
theorem call_cases (s : Session) (c : Call) (number : Int) (text : String) :
    (∃ fault, s.state.answer s.tables c number = .error fault ∧
        ((fault = .ofCause (.unknownFunction c.name number) ∧
            s.call c number text =
              ({ s with phase := .failed }, .error (fault.locate number text))) ∨
          s.call c number text = s.stop (fault.locate number text))) ∨
      ∃ state r, s.state.answer s.tables c number = .ok (state, r) ∧
        s.call c number text =
          if Numeral.printable number then (s.extend state r, .ok ())
          else ({ s with state }, .error .longInteger) := by
  unfold call ItemState.answer
  cases hf : Function.ofName? c.name with
  | none =>
      exact Or.inl ⟨_, rfl, Or.inl ⟨rfl, rfl⟩⟩
  | some f =>
      rw [Function.name_eq_of_ofName? hf, f.byName?_name]
      simp only [execute]
      cases hcall : f.call s.state s.tables c.args with
      | error fault =>
          exact Or.inl ⟨fault, rfl, Or.inr rfl⟩
      | ok outcome =>
          rcases Function.call_eq_ok hcall with ⟨hpayload, _⟩
          -- The payload can be emitted, so all that is left to fail is the change of the state.
          have hbytes := Record.bytes_eq (r := ⟨f.item, outcome.payload, c.args, number⟩) hpayload
          rw [Record.bytes] at hbytes
          simp only [hbytes, Session.apply, Function.apply_eq_advance hcall]
          cases hadvance : f.advance c.args s.state with
          | error fault =>
              exact Or.inl ⟨fault, rfl, Or.inr rfl⟩
          | ok state =>
              exact Or.inr ⟨state, ⟨f.item, outcome.payload, c.args, number⟩, rfl, rfl⟩

/-- A call is answered as a whole: its record is added, or the session stops and keeps all else. -/
theorem call_eq (s : Session) (c : Call) {number : Int} (text : String)
    (hn : Numeral.printable number = true) :
    s.call c number text =
      match s.state.answer s.tables c number with
      | .ok (state, r) => (s.extend state r, .ok ())
      | .error fault => s.stop (fault.locate number text) := by
  rcases s.call_cases c number text with ⟨fault, hanswer, ⟨hfault, hcall⟩ | hcall⟩ |
    ⟨state, r, hanswer, hcall⟩
  · -- The message names the line, whose number can be written.
    have hcompile : Fault.ofCause (.unknownFunction c.name number) =
        .compile (.ofCause (.unknownFunction c.name number)) :=
      Fault.ofCause_eq_compile (by simp [Cause.integers, hn])
    rw [hanswer, hcall, hfault, hcompile]
    rfl
  · rw [hanswer, hcall]
  · rw [hanswer, hcall, if_pos hn]

theorem stop_snd (s : Session) (fault : Fault) : (s.stop fault).2 = .error fault := by
  unfold stop
  split <;> rfl

/-- A compile error makes the session fail. Any other fault leaves it as it is. -/
theorem stop_fst (s : Session) (fault : Fault) :
    (fault.IsCompile → (s.stop fault).1 = { s with phase := .failed }) ∧
      (¬ fault.IsCompile → (s.stop fault).1 = s) := by
  cases fault with
  | compile diagnostic =>
      exact ⟨fun _ => rfl, fun h => absurd trivial h⟩
  | _ =>
      exact ⟨fun h => absurd h id, fun _ => rfl⟩

theorem stop_ne_ok (s : Session) (fault : Fault) : (s.stop fault).2 ≠ .ok () := by
  rw [stop_snd]
  simp

theorem feed_closed {s : Session} (line : SourceLine) (hphase : s.phase ≠ .scanning) :
    s.feed line = (s, .error (.closedToLines s.phase)) := by
  unfold feed
  split
  next h =>
    exact absurd h hphase
  next =>
    rfl

theorem feed_silent {s : Session} {line : SourceLine} (hphase : s.phase = .scanning)
    (hsilent : ∀ c, line.content ≠ .call c) : s.feed line = (s, .ok ()) := by
  unfold feed
  rw [hphase]
  cases hc : line.content with
  | call c =>
      exact absurd hc (hsilent c)
  | _ =>
      rfl

theorem feed_call_eq {s : Session} {line : SourceLine} {c : Call} (hphase : s.phase = .scanning)
    (hc : line.content = .call c) (hn : Numeral.printable line.number = true) :
    s.feed line =
      match s.state.answer s.tables c line.number with
      | .ok (state, r) => (s.extend state r, .ok ())
      | .error fault => s.stop (fault.locate line.number line.text) := by
  simp only [feed, hphase, hc]
  exact s.call_eq c line.text hn

/-- Everything that reading a line can do: a session that is over refuses it, a line without a call
changes nothing, and a call adds its record or stops the session. -/
theorem feed_cases (s : Session) {line : SourceLine} (hn : Numeral.printable line.number = true) :
    (s.phase ≠ .scanning ∧ s.feed line = (s, .error (.closedToLines s.phase))) ∨
      (s.phase = .scanning ∧ (∀ c, line.content ≠ .call c) ∧ s.feed line = (s, .ok ())) ∨
      (s.phase = .scanning ∧ ∃ c, line.content = .call c ∧
        ((∃ state r, s.state.answer s.tables c line.number = .ok (state, r) ∧
            s.feed line = (s.extend state r, .ok ())) ∨
          ∃ fault, s.state.answer s.tables c line.number = .error fault ∧
            s.feed line = s.stop (fault.locate line.number line.text))) := by
  by_cases hphase : s.phase = .scanning
  · by_cases hcall : ∃ c, line.content = .call c
    · rcases hcall with ⟨c, hc⟩
      refine Or.inr (Or.inr ⟨hphase, c, hc, ?_⟩)
      rw [feed_call_eq hphase hc hn]
      cases hanswer : s.state.answer s.tables c line.number with
      | ok answer =>
          rcases answer with ⟨state, r⟩
          exact Or.inl ⟨state, r, rfl, rfl⟩
      | error fault =>
          exact Or.inr ⟨fault, rfl, rfl⟩
    · have hsilent : ∀ c, line.content ≠ .call c := fun c hc => hcall ⟨c, hc⟩
      exact Or.inr (Or.inl ⟨hphase, hsilent, feed_silent hphase hsilent⟩)
  · exact Or.inl ⟨hphase, feed_closed line hphase⟩

/-- Only a call whose line number can be written is carried out to its end. -/
theorem printable_of_call_ok {s s' : Session} {c : Call} {number : Int} {text : String}
    (h : s.call c number text = (s', .ok ())) : Numeral.printable number = true := by
  -- All branches in front of the one that writes the number end in a fault.
  unfold call at h
  split at h
  next f item _ _ =>
    unfold execute at h
    split at h
    · exact absurd (congrArg Prod.snd h) (stop_ne_ok _ _)
    · split at h
      · exact absurd (congrArg Prod.snd h) (stop_ne_ok _ _)
      · split at h
        · exact absurd (congrArg Prod.snd h) (stop_ne_ok _ _)
        · split at h
          next hn =>
            exact hn
          next =>
            cases h
  next =>
    cases h

/-- A line that is read without a fault is no call, or a call that adds its record. -/
theorem feed_eq_ok {s s' : Session} {line : SourceLine} (h : s.feed line = (s', .ok ())) :
    s.phase = .scanning ∧
      (((∀ c, line.content ≠ .call c) ∧ s' = s) ∨
        ∃ c state r, line.content = .call c ∧ Numeral.printable line.number = true ∧
          s.state.answer s.tables c line.number = .ok (state, r) ∧ s' = s.extend state r) := by
  by_cases hphase : s.phase = .scanning
  · refine ⟨hphase, ?_⟩
    by_cases hcall : ∃ c, line.content = .call c
    · rcases hcall with ⟨c, hc⟩
      -- Without a fault the number of the line was written.
      have hn : Numeral.printable line.number = true := by
        simp only [feed, hphase, hc] at h
        exact printable_of_call_ok h
      rw [feed_call_eq hphase hc hn] at h
      cases hanswer : s.state.answer s.tables c line.number with
      | error fault =>
          rw [hanswer] at h
          exact absurd (congrArg Prod.snd h) (stop_ne_ok _ _)
      | ok answer =>
          rcases answer with ⟨state, r⟩
          rw [hanswer] at h
          cases h
          exact Or.inr ⟨c, state, r, hc, hn, hanswer, rfl⟩
    · have hsilent : ∀ c, line.content ≠ .call c := fun c hc => hcall ⟨c, hc⟩
      rw [feed_silent hphase hsilent] at h
      cases h
      exact Or.inl ⟨hsilent, rfl⟩
  · rw [feed_closed line hphase] at h
    cases h

/-! ## Runs over lines -/

theorem feedAll_cons_eq_ok {s s' : Session} {number : Int} {text : String} {rest : List String} :
    s.feedAll number (text :: rest) = (s', .ok ()) ↔
      ∃ line s₁, SourceLine.parse text number = .ok line ∧ s.feed line = (s₁, .ok ()) ∧
        s₁.feedAll (number + 1) rest = (s', .ok ()) := by
  rw [feedAll]
  constructor
  · intro h
    split at h
    next =>
      cases h
    next line hline =>
      split at h
      next =>
        cases h
      next s₁ hfeed =>
        exact ⟨line, s₁, hline, hfeed, h⟩
  · rintro ⟨line, s₁, hline, hfeed, h⟩
    rw [hline]
    simp only [hfeed]
    exact h

/-- Lines are read one after the other, and the first fault ends the reading. -/
theorem feedAll_append (s : Session) (number : Int) (before after : List String) :
    s.feedAll number (before ++ after) =
      match s.feedAll number before with
      | (s', .ok ()) => s'.feedAll (number + before.length) after
      | (s', .error fault) => (s', .error fault) := by
  induction before generalizing s number with
  | nil =>
      simp [feedAll]
  | cons text rest ih =>
      have hnumber : number + 1 + (rest.length : Int) = number + ((rest.length + 1 : Nat) : Int) := by
        omega
      rw [List.cons_append, feedAll, feedAll, List.length_cons]
      cases SourceLine.parse text number with
      | error fault =>
          rfl
      | ok line =>
          rcases hfeed : s.feed line with ⟨s₁, result⟩
          cases result with
          | error fault =>
              simp only [hfeed]
          | ok _ =>
              simp only [hfeed, ih, hnumber]

/-! ## Ends of sources -/

theorem finish_eq_ok {s : Session} {d : Descriptor} :
    s.finish.2 = .ok d ↔
      s.phase = .scanning ∧ s.state.checkClosed = .ok () ∧ d = ⟨s.records, s.data⟩ := by
  unfold finish
  cases hphase : s.phase with
  | scanning =>
      cases hclosed : s.state.checkClosed with
      | error fault =>
          simp
      | ok _ =>
          simp [eq_comm]
  | _ =>
      simp

end Session

theorem compileLines_eq_ok {tables : Tables} {lines : List String} {d : Descriptor} :
    compileLines tables lines = .ok d ↔
      ∃ s, (Session.start tables).feedAll 1 lines = (s, .ok ()) ∧ s.phase = .scanning ∧
        s.state.checkClosed = .ok () ∧ d = ⟨s.records, s.data⟩ := by
  unfold compileLines
  rcases (Session.start tables).feedAll 1 lines with ⟨s, result⟩
  cases result with
  | error fault =>
      simp
  | ok _ =>
      simp [Session.finish_eq_ok]

end HidDescriptor
