import HidDescriptor.Proofs.Nesting
import HidDescriptor.Proofs.Steps
import Mathlib.Data.List.Forall2

/-!
# The history of a session

The records of a session are its history. Bytes, usage page and open scopes can be computed from
them, whatever lines were read and however often the session was asked to end.

- `Record.Sound`: what every record of a session satisfies
- `Record.side`, `Record.pageOf`: the records as brackets, and the usage page they set
- `ItemState.Tracks`, `Session.Tracks`: state and session agree with the records
- `Session.Tracks.perform`, `Session.tracks_performAll`: one command, and every sequence of them
-/

namespace HidDescriptor

/-! ## Records -/

namespace Record

def setsPage (r : Record) : Bool :=
  r.item.name = Function.usagePage.name

/-- Collections open a bracket and their ends close one. -/
def side (r : Record) : Option Bracket :=
  if r.item.name = Function.collection.name then some .opening
  else if r.item.name = Function.endCollection.name then some .closing
  else none

/-- The usage page that records have set: the first argument of the last that sets it. -/
def pageOf (records : List Record) : Option String :=
  (records.filter setsPage).getLast?.bind (·.args.head?)

def scope (r : Record) : Scope :=
  ItemState.frame (r.args.headD "")

/-- What an accepted call leaves: an item of a function with a payload that can be emitted, and an
argument wherever the state keeps one. -/
structure Sound (r : Record) : Prop where
  item : ∃ f : Function, r.item = f.item
  payload : r.payload.Emittable
  page : r.setsPage = true → ∃ page, r.args = [page]
  kind : r.side = some .opening → ∃ kind, r.args = [kind]

variable {r : Record} {records : List Record} {f : Function}

theorem setsPage_iff (h : r.item = f.item) : r.setsPage = true ↔ f = .usagePage := by
  rw [setsPage, h, f.item_name, decide_eq_true_eq]
  exact ⟨Function.name_injective, fun h => by rw [h]⟩

theorem side_eq_opening_iff (h : r.item = f.item) :
    r.side = some .opening ↔ f = .collection := by
  rw [side, h, f.item_name]
  cases f <;> simp [Function.name]

theorem side_eq_closing_iff (h : r.item = f.item) :
    r.side = some .closing ↔ f = .endCollection := by
  rw [side, h, f.item_name]
  cases f <;> simp [Function.name]

theorem side_eq_none_iff (h : r.item = f.item) :
    r.side = none ↔ f ≠ .collection ∧ f ≠ .endCollection := by
  rw [side, h, f.item_name]
  cases f <;> simp [Function.name]

theorem pageOf_append (r : Record) (records : List Record) :
    pageOf (records ++ [r]) = if r.setsPage then r.args.head? else pageOf records := by
  unfold pageOf
  rw [List.filter_append]
  cases hr : r.setsPage with
  | true =>
      simp [hr]
  | false =>
      simp [hr]

end Record

/-! ## States -/

namespace ItemState

/-- The state is the one that the records have led to. -/
structure Tracks (state : ItemState) (records : List Record) : Prop where
  globals : state.globals = pageGlobals (Record.pageOf records)
  scopes : state.scopes = ((Nesting.unmatched Record.side records).map Record.scope).reverse

theorem tracks_empty : empty.Tracks [] :=
  ⟨rfl, rfl⟩

/-- Scopes of collections are shown by the kinds of the collections, so the end of a source is
refused for nothing but open scopes. -/
theorem checkClosed_frames {state : ItemState} {kinds : List String}
    (h : state.scopes.reverse = kinds.map frame) :
    state.checkClosed =
      if kinds = [] then .ok () else .error (.compile (.ofCause (.unterminated kinds))) := by
  have hempty : state.scopes.isEmpty = true ↔ kinds = [] := by
    rw [List.isEmpty_iff, ← List.reverse_eq_nil_iff, h, List.map_eq_nil_iff]
  have hlabels : (kinds.map frame).mapM scopeLabel = .ok kinds := by
    clear h hempty
    induction kinds with
    | nil =>
        rfl
    | cons kind rest ih =>
        exact mapM_cons_eq_ok_iff.2 ⟨kind, rest, rfl, ih, rfl⟩
  unfold checkClosed
  by_cases hkinds : kinds = []
  · rw [if_pos (hempty.2 hkinds), if_pos hkinds]
  · rw [if_neg fun he => hkinds (hempty.1 he), if_neg hkinds, h, hlabels]
    exact congrArg Except.error (Fault.ofCause_eq_compile rfl)

/-- An accepted call leaves a sound record, and the state tracks it. -/
theorem Tracks.answer {state state' : ItemState} {records : List Record} {tables : Tables}
    {c : Call} {number : Int} {r : Record} (h : state.Tracks records)
    (hanswer : state.answer tables c number = .ok (state', r)) :
    r.Sound ∧ state'.Tracks (records ++ [r]) := by
  rcases answer_eq_ok hanswer with ⟨f, outcome, _, hcall, hadvance, rfl⟩
  rcases Function.call_eq_ok hcall with ⟨hpayload, _⟩
  -- From here on the record counts only through its item, its payload and its arguments.
  generalize hr : (⟨f.item, outcome.payload, c.args, number⟩ : Record) = r
  have hitem : r.item = f.item := by rw [← hr]
  have hargs : r.args = c.args := by rw [← hr]
  have hemit : r.payload.Emittable := by rw [← hr]; exact hpayload
  have hpage := Record.setsPage_iff hitem
  have hopen := Record.side_eq_opening_iff hitem
  have hclose := Record.side_eq_closing_iff hitem
  have hnone := Record.side_eq_none_iff hitem
  rcases Function.advance_cases hcall hadvance with ⟨rfl, page, hone, rfl⟩ |
    ⟨rfl, kind, hone, rfl⟩ | ⟨rfl, scope, hone, hscopes, hglobals⟩ | ⟨⟨hf, hf', hf''⟩, rfl⟩
  · -- The usage page is set and the scopes stay.
    have hside : r.side = none := hnone.2 (by simp)
    have hsets : r.setsPage = true := hpage.2 rfl
    rw [hone] at hargs
    refine ⟨⟨⟨_, hitem⟩, hemit, fun _ => ⟨page, hargs⟩, by simp [hside]⟩, ?_, ?_⟩
    · rw [Record.pageOf_append, if_pos hsets, hargs, h.globals]
      exact insert_pageGlobals _ _
    · rw [Nesting.unmatched_append_none hside]
      exact h.scopes
  · -- A scope with the argument is opened.
    have hside : r.side = some .opening := hopen.2 rfl
    have hsets : ¬ r.setsPage = true := by simp [hpage]
    rw [hone] at hargs
    refine ⟨⟨⟨_, hitem⟩, hemit, fun hp => absurd hp hsets, fun _ => ⟨kind, hargs⟩⟩, ?_, ?_⟩
    · rw [Record.pageOf_append, if_neg hsets]
      exact h.globals
    · rw [Nesting.unmatched_append_opening hside, List.map_append, List.reverse_append, ← h.scopes]
      simp [Record.scope, hargs]
  · -- The innermost scope is closed.
    have hside : r.side = some .closing := hclose.2 rfl
    have hsets : ¬ r.setsPage = true := by simp [hpage]
    refine ⟨⟨⟨_, hitem⟩, hemit, fun hp => absurd hp hsets, by simp [hside]⟩, ?_, ?_⟩
    · rw [Record.pageOf_append, if_neg hsets, hglobals]
      exact h.globals
    · -- The innermost scope comes first in the state and last among the open brackets.
      have hdrop : state.scopes.reverse.dropLast = state'.scopes.reverse := by
        rw [hscopes, List.reverse_cons, List.dropLast_concat]
      rw [h.scopes, List.reverse_reverse] at hdrop
      rw [Nesting.unmatched_append_closing hside, List.map_dropLast, hdrop, List.reverse_reverse]
  · -- The state stays.
    have hside : r.side = none := hnone.2 ⟨hf', hf''⟩
    have hsets : ¬ r.setsPage = true := fun hp => hf (hpage.1 hp)
    refine ⟨⟨⟨f, hitem⟩, hemit, fun hp => absurd hp hsets, by simp [hside]⟩, ?_, ?_⟩
    · rw [Record.pageOf_append, if_neg hsets]
      exact h.globals
    · rw [Nesting.unmatched_append_none hside]
      exact h.scopes

end ItemState

/-! ## Sessions -/

namespace Session

/-- The session agrees with its records. -/
structure Tracks (s : Session) : Prop where
  sound : ∀ r ∈ s.records, r.Sound
  data : s.data = s.records.flatMap Record.encoding
  state : s.state.Tracks s.records

theorem tracks_start (tables : Tables) : (start tables).Tracks :=
  ⟨by simp [start], rfl, ItemState.tracks_empty⟩

/-- The phase of a session is no part of its history. -/
theorem Tracks.setPhase {s : Session} (h : s.Tracks) (phase : Phase) :
    Tracks { s with phase } :=
  ⟨h.sound, h.data, h.state⟩

theorem Tracks.stop {s : Session} (h : s.Tracks) (fault : Fault) : (s.stop fault).1.Tracks := by
  unfold Session.stop
  split
  · exact h.setPhase .failed
  · exact h

theorem Tracks.extend {s : Session} {state : ItemState} {r : Record} {c : Call} {number : Int}
    (h : s.Tracks) (hanswer : s.state.answer s.tables c number = .ok (state, r)) :
    (s.extend state r).Tracks := by
  rcases h.state.answer hanswer with ⟨hr, hstate⟩
  refine ⟨?_, ?_, hstate⟩
  · intro q hq
    rcases List.mem_append.1 hq with hq | hq
    · exact h.sound q hq
    · rw [List.mem_singleton.1 hq]
      exact hr
  · simp [Session.extend, h.data]

theorem Tracks.feed {s : Session} {line : SourceLine} (h : s.Tracks)
    (hn : Numeral.printable line.number = true) : (s.feed line).1.Tracks := by
  rcases s.feed_cases hn with ⟨_, hfeed⟩ | ⟨_, _, hfeed⟩ |
    ⟨_, c, _, ⟨state, r, hanswer, hfeed⟩ | ⟨fault, _, hfeed⟩⟩
  · rw [hfeed]
    exact h
  · rw [hfeed]
    exact h
  · rw [hfeed]
    exact h.extend hanswer
  · rw [hfeed]
    exact h.stop _

theorem Tracks.feedAll {s s' : Session} {number : Int} {lines : List String} (h : s.Tracks)
    (hrun : s.feedAll number lines = (s', .ok ())) : s'.Tracks := by
  induction lines generalizing s number with
  | nil =>
      cases hrun
      exact h
  | cons text rest ih =>
      rcases feedAll_cons_eq_ok.1 hrun with ⟨line, s₁, _, hfeed, hrun⟩
      refine ih ?_ hrun
      rcases feed_eq_ok hfeed with ⟨_, ⟨_, rfl⟩ | ⟨c, state, r, _, _, hanswer, rfl⟩⟩
      · exact h
      · exact h.extend hanswer

theorem Tracks.finish {s : Session} (h : s.Tracks) : s.finish.1.Tracks := by
  unfold Session.finish
  split
  · split
    · exact h.stop _
    · exact h.setPhase .done
  · exact h

/-! ## Sequences of commands -/

/-- What a session can be asked to do. -/
inductive Command
  | feed (line : SourceLine)
  | finish

/-- The session after a command, whether the command fails or not. -/
def perform (s : Session) : Command → Session
  | .feed line => (s.feed line).1
  | .finish => s.finish.1

/-- The session after commands, failed ones included. -/
def performAll (s : Session) (commands : List Command) : Session :=
  commands.foldl perform s

theorem tracks_performAll {s : Session} {commands : List Command} (h : s.Tracks)
    (hn : ∀ line, .feed line ∈ commands → Numeral.printable line.number = true) :
    (s.performAll commands).Tracks := by
  induction commands generalizing s with
  | nil =>
      exact h
  | cons command rest ih =>
      refine ih ?_ fun line hline => hn line (List.mem_cons_of_mem _ hline)
      cases command with
      | feed line =>
          exact h.feed (hn line List.mem_cons_self)
      | finish =>
          exact h.finish

/-! ## What a history tells -/

/-- The collections that no later item has closed, the outermost first. -/
def opened (s : Session) : List Record :=
  Nesting.unmatched Record.side s.records

/-- Bytes, globals and scopes of a session say what its records say. -/
structure Faithful (s : Session) : Prop where
  /-- The bytes are those of the records, in order. -/
  data : ∃ encoded, s.records.mapM Record.bytes = .ok encoded ∧ s.data = encoded.flatten
  /-- No global value is set but the usage page. -/
  globals : ∀ name ∈ s.state.globals.keys, name = "usage_page"
  /-- The usage page is set if and only if a record sets it. -/
  page : (∃ value, s.state.current? "usage_page" = some value) ↔
    ∃ r ∈ s.records, r.item.name = "usage_page"
  /-- Its value is the first argument of the last record that sets it. -/
  lastPage : ∀ r, (s.records.filter (·.item.name = "usage_page")).getLast? = some r →
    ∃ page, r.args.head? = some page ∧ s.state.current? "usage_page" = some (.text page)
  /-- There is one scope for each collection left open, in order, and it holds nothing but the
  argument of the collection. -/
  scopes : List.Forall₂
    (fun scope r => ∃ kind, r.args = [kind] ∧ scope.entries = [("collection", .text kind)])
    s.state.scopes.reverse s.opened
  /-- The end of the source is refused if and only if a collection is left open. -/
  closed : s.state.checkClosed = .ok () ↔ s.opened = []
  /-- The message names the collections left open, the outermost first. -/
  message : ∀ fault, s.state.checkClosed = .error fault →
    fault = .compile (.ofCause (.unterminated (s.opened.flatMap (·.args)))) ∧
    fault.message = "extra context stack detected: " ++ Numeral.decimal s.opened.length ++
      " unterminated collection(s) (" ++ ", ".intercalate (s.opened.flatMap (·.args)) ++ ")"
  /-- No scope lacks the name under which the message shows it. -/
  named : ∀ scope ∈ s.state.scopes, ∃ kind, scope.get? ItemState.collectionName = some (.text kind)

namespace Tracks

variable {s : Session} (h : s.Tracks)

include h

theorem exists_kind {r : Record} (hr : r ∈ s.opened) : ∃ kind, r.args = [kind] := by
  rcases Nesting.mem_unmatched hr with ⟨hmem, hside⟩
  exact (h.sound r hmem).kind hside

theorem reverse_scopes : s.state.scopes.reverse = s.opened.map Record.scope := by
  rw [h.state.scopes, List.reverse_reverse, opened]

/-- Every open collection has one argument, which is its kind. -/
theorem flatMap_args {records : List Record} (hopen : ∀ r ∈ records, r ∈ s.opened) :
    records.flatMap (·.args) = records.map (·.args.headD "") := by
  rw [List.map_eq_flatMap]
  refine List.flatMap_congr fun r hr => ?_
  rcases h.exists_kind (hopen r hr) with ⟨kind, hargs⟩
  rw [hargs]
  rfl

theorem length_kinds : (s.opened.flatMap (·.args)).length = s.opened.length := by
  rw [h.flatMap_args fun _ hr => hr, List.length_map]

theorem checkClosed_eq :
    s.state.checkClosed =
      if s.opened = [] then .ok ()
      else .error (.compile (.ofCause (.unterminated (s.opened.flatMap (·.args))))) := by
  have hargs : s.opened.flatMap (·.args) = s.opened.map (·.args.headD "") :=
    h.flatMap_args fun _ hr => hr
  have hframes : s.state.scopes.reverse =
      (s.opened.map (·.args.headD "")).map ItemState.frame := by
    rw [h.reverse_scopes, List.map_map]
    rfl
  rw [ItemState.checkClosed_frames hframes, hargs]
  simp only [List.map_eq_nil_iff]

theorem current?_page : s.state.current? "usage_page" = (Record.pageOf s.records).map .text :=
  ItemState.current?_pageName h.state.globals

/-- The last record that sets the usage page decides it. -/
theorem current?_of_getLast? {r : Record} (hr : (s.records.filter Record.setsPage).getLast? = some r) :
    ∃ page, r.args.head? = some page ∧ s.state.current? "usage_page" = some (.text page) := by
  rcases List.mem_filter.1 (List.mem_of_getLast? hr) with ⟨hmem, hsets⟩
  rcases (h.sound r hmem).page hsets with ⟨page, hargs⟩
  refine ⟨page, by rw [hargs]; rfl, ?_⟩
  rw [h.current?_page, Record.pageOf, hr, Option.bind_some, hargs]
  rfl

theorem faithful : s.Faithful where
  data := by
    refine ⟨_, Record.mapM_bytes fun r hr => (h.sound r hr).payload, ?_⟩
    rw [h.data, List.flatMap_def]
  globals := by
    intro name hname
    rw [h.state.globals, ItemState.keys_pageGlobals] at hname
    rcases List.mem_map.1 hname with ⟨_, _, rfl⟩
    rfl
  page := by
    constructor
    · rintro ⟨value, hvalue⟩
      rw [h.current?_page] at hvalue
      rcases Option.map_eq_some_iff.1 hvalue with ⟨page, hpage, _⟩
      rcases Option.bind_eq_some_iff.1 hpage with ⟨r, hr, _⟩
      rcases List.mem_filter.1 (List.mem_of_getLast? hr) with ⟨hmem, hsets⟩
      exact ⟨r, hmem, of_decide_eq_true hsets⟩
    · -- With a record that sets the page there is a last one, and that one is in force.
      rintro ⟨r, hr, hname⟩
      have hmem : r ∈ s.records.filter Record.setsPage :=
        List.mem_filter.2 ⟨hr, decide_eq_true hname⟩
      have hlast := List.getLast?_eq_some_getLast (List.ne_nil_of_mem hmem)
      rcases h.current?_of_getLast? hlast with ⟨page, _, hpage⟩
      exact ⟨_, hpage⟩
  lastPage := fun r hr => h.current?_of_getLast? hr
  scopes := by
    rw [h.reverse_scopes, List.forall₂_map_left_iff, List.forall₂_same]
    intro r hr
    rcases h.exists_kind hr with ⟨kind, hargs⟩
    exact ⟨kind, hargs, by rw [Record.scope, hargs]; rfl⟩
  closed := by
    rw [h.checkClosed_eq]
    split <;> simp [*]
  message := by
    intro fault hfault
    rw [h.checkClosed_eq] at hfault
    split at hfault
    · cases hfault
    · rcases Except.error.inj hfault with rfl
      refine ⟨rfl, ?_⟩
      rw [← h.length_kinds]
      rfl
  named := by
    intro scope hscope
    rw [← List.mem_reverse, h.reverse_scopes] at hscope
    rcases List.mem_map.1 hscope with ⟨r, _, rfl⟩
    exact ⟨r.args.headD "", rfl⟩

end Tracks

/-- Whatever a session is asked to do, and whichever of it fails, the session stays faithful to its
records. The numbers of the lines have to be short enough to be written. -/
theorem faithful_performAll (tables : Tables) (commands : List Command)
    (hn : ∀ line, .feed line ∈ commands → Numeral.printable line.number = true) :
    ((start tables).performAll commands).Faithful :=
  (tracks_performAll (tracks_start tables) hn).faithful

/-- A rejected call and a refused end leave the open collection behind. -/
theorem faithful_performAll_rejected :
    ∃ (tables : Tables) (commands : List Command),
      (∀ line, .feed line ∈ commands → Numeral.printable line.number = true) ∧
      ((start tables).performAll commands).Faithful ∧
      ((start tables).performAll commands).phase = .failed ∧
      ((start tables).performAll commands).opened.map (·.args) = [["application"]] := by
  let tables : Tables := ⟨.ofList [("led", 8)], .empty, .ofList [("application", 1)], .empty⟩
  let commands : List Command :=
    [.feed ⟨1, "", .call ⟨"usage_page", ["led"]⟩⟩,
      .feed ⟨2, "", .call ⟨"collection", ["application"]⟩⟩, .feed ⟨-7, "", .call ⟨"nope", []⟩⟩,
      .feed ⟨4, "", .call ⟨"end_collection", []⟩⟩, .finish]
  have hn : ∀ line, .feed line ∈ commands → Numeral.printable line.number = true := by
    intro line hline
    simp only [commands, List.mem_cons, Command.feed.injEq, reduceCtorEq, List.not_mem_nil,
      or_false] at hline
    rcases hline with rfl | rfl | rfl | rfl <;> decide +kernel
  exact ⟨tables, commands, hn, faithful_performAll tables commands hn, by decide +kernel,
    by decide +kernel⟩

end Session
end HidDescriptor
