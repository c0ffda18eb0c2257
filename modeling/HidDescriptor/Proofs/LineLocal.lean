import HidDescriptor.Proofs.History
import Mathlib.Data.List.Induction

/-!
# Compilation line by line

A source compiles to the bytes of its lines, each of which depends on the line itself and on the
usage page in force there.

- `SourceLine.callOf?`, `callCount`, `pageBefore`: calls of lines, without any session
- `recordOf?`, `recordsOf`: the records of a source, line by line
- `Readable`: the condition on single lines under which a source is read to its end
- `Session.Follows`: what a session knows after lines
- `compileLines_line_local`: compilation agrees with this description
-/

namespace HidDescriptor

/-! ## Calls of lines -/

/-- The call that a line makes. -/
def SourceLine.callOf? (text : String) : Option Call :=
  match SourceLine.parse text 0 with
  | .ok ⟨_, _, .call c⟩ => some c
  | _ => none

/-- How often lines call a function. -/
def callCount (name : String) (lines : List String) : Nat :=
  lines.countP fun text => (SourceLine.callOf? text).any (·.name = name)

/-- The usage page that is in force after lines: the argument of the last call that sets it. -/
def pageBefore (lines : List String) : Option String :=
  ((lines.filterMap SourceLine.callOf?).filter (·.name = "usage_page")).getLast?.bind (·.args.head?)

def recordOf? (tables : Tables) (page : Option String) (number : Int) (text : String) :
    Option Record := do
  let c ← SourceLine.callOf? text
  let f ← Function.ofName? c.name
  let item ← Item.byName? c.name
  let outcome ← (f.call (.onPage page) tables c.args).toOption
  some ⟨item, outcome.payload, c.args, number⟩

def recordAt? (tables : Tables) (lines : List String) (i : Nat) : Option Record :=
  lines[i]?.bind (recordOf? tables (pageBefore (lines.take i)) (i + 1))

def recordsOf (tables : Tables) (lines : List String) : List Record :=
  (List.range lines.length).filterMap (recordAt? tables lines)

/-- Every line can be parsed, every call succeeds when only the usage page in force is known, and
no collection ends before it starts. -/
structure Readable (tables : Tables) (lines : List String) : Prop where
  parses : ∀ (i : Nat) text, lines[i]? = some text → ∃ line, SourceLine.parse text (i + 1) = .ok line
  calls : ∀ (i : Nat) text c, lines[i]? = some text → SourceLine.callOf? text = some c →
    ∃ f item outcome, Function.ofName? c.name = some f ∧ Item.byName? c.name = some item ∧
      f.call (.onPage (pageBefore (lines.take i))) tables c.args = .ok outcome
  nested : ∀ n, callCount "end_collection" (lines.take n) ≤ callCount "collection" (lines.take n)

/-! ## One more line -/

theorem callCount_append (name : String) (lines : List String) (text : String) :
    callCount name (lines ++ [text]) =
      callCount name lines + if (SourceLine.callOf? text).any (·.name = name) then 1 else 0 := by
  simp [callCount, List.countP_append, List.countP_cons]

theorem pageBefore_append_none {text : String} (h : SourceLine.callOf? text = none)
    (lines : List String) : pageBefore (lines ++ [text]) = pageBefore lines := by
  simp [pageBefore, h]

theorem pageBefore_append_call {text : String} {c : Call} (h : SourceLine.callOf? text = some c)
    (lines : List String) :
    pageBefore (lines ++ [text]) =
      if c.name = "usage_page" then c.args.head? else pageBefore lines := by
  unfold pageBefore
  by_cases hc : c.name = "usage_page"
  · simp [h, hc]
  · simp [h, hc]

theorem recordAt?_append {tables : Tables} {lines : List String} {i : Nat} (h : i < lines.length)
    (after : List String) : recordAt? tables (lines ++ after) i = recordAt? tables lines i := by
  rw [recordAt?, recordAt?, List.getElem?_append_left h, List.take_append_of_le_length (by omega)]

theorem recordAt?_length (tables : Tables) (lines : List String) (text : String)
    (after : List String) :
    recordAt? tables (lines ++ text :: after) lines.length =
      recordOf? tables (pageBefore lines) (lines.length + 1) text := by
  simp [recordAt?]

theorem recordsOf_append (tables : Tables) (lines : List String) (text : String) :
    recordsOf tables (lines ++ [text]) =
      recordsOf tables lines ++
        (recordOf? tables (pageBefore lines) (lines.length + 1) text).toList := by
  -- A record depends on no later line.
  have hbefore : (List.range lines.length).filterMap (recordAt? tables (lines ++ [text])) =
      (List.range lines.length).filterMap (recordAt? tables lines) := by
    refine List.filterMap_congr fun i hi => ?_
    exact recordAt?_append (List.mem_range.1 hi) [text]
  rw [recordsOf, List.length_append, List.length_singleton, List.range_succ, List.filterMap_append,
    hbefore, ← recordsOf]
  have hlast := recordAt?_length tables lines text []
  cases hrecord : recordOf? tables (pageBefore lines) (lines.length + 1) text with
  | none =>
      rw [hrecord] at hlast
      simp [hlast]
  | some r =>
      rw [hrecord] at hlast
      simp [hlast]

/-- The part of `Readable` that is about the line behind given ones. -/
structure Readable.Next (tables : Tables) (lines : List String) (text : String) : Prop where
  parses : ∃ line, SourceLine.parse text (lines.length + 1) = .ok line
  calls : ∀ c, SourceLine.callOf? text = some c →
    ∃ f item outcome, Function.ofName? c.name = some f ∧ Item.byName? c.name = some item ∧
      f.call (.onPage (pageBefore lines)) tables c.args = .ok outcome
  nested : callCount "end_collection" (lines ++ [text]) ≤ callCount "collection" (lines ++ [text])

theorem readable_nil (tables : Tables) : Readable tables [] :=
  ⟨by simp, by simp, by simp [callCount]⟩

theorem readable_append_iff {tables : Tables} {lines : List String} {text : String} :
    Readable tables (lines ++ [text]) ↔ Readable tables lines ∧ Readable.Next tables lines text := by
  constructor
  · intro h
    -- A line of the part is the same line of the whole, with the same lines before it.
    have hleft (i : Nat) (t : String) (hi : lines[i]? = some t) :
        (lines ++ [text])[i]? = some t ∧ (lines ++ [text]).take i = lines.take i := by
      rcases List.getElem?_eq_some_iff.1 hi with ⟨hlt, _⟩
      rw [List.getElem?_append_left hlt, List.take_append_of_le_length (by omega)]
      exact ⟨hi, rfl⟩
    refine ⟨⟨?_, ?_, ?_⟩, ⟨?_, ?_, ?_⟩⟩
    · intro i t hi
      exact h.parses i t (hleft i t hi).1
    · intro i t c hi hc
      have hcall := h.calls i t c (hleft i t hi).1 hc
      rwa [(hleft i t hi).2] at hcall
    · intro n
      have hn := h.nested (min n lines.length)
      rwa [List.take_append_of_le_length (by omega), ← List.take_eq_take_min] at hn
    · exact h.parses lines.length text (by simp)
    · intro c hc
      have hcall := h.calls lines.length text c (by simp) hc
      rwa [List.take_left] at hcall
    · have hn := h.nested (lines.length + 1)
      rwa [List.take_of_length_le (by simp)] at hn
  · rintro ⟨h, hnext⟩
    -- Each line of the whole is one of the part, or the new one.
    have hcases (i : Nat) (t : String) (hi : (lines ++ [text])[i]? = some t) :
        (lines[i]? = some t ∧ (lines ++ [text]).take i = lines.take i) ∨
          (i = lines.length ∧ t = text ∧ (lines ++ [text]).take i = lines) := by
      rcases List.getElem?_eq_some_iff.1 hi with ⟨hlt, _⟩
      rw [List.length_append, List.length_singleton] at hlt
      rcases Nat.lt_or_ge i lines.length with hlt | hge
      · rw [List.getElem?_append_left hlt] at hi
        exact Or.inl ⟨hi, List.take_append_of_le_length (by omega)⟩
      · obtain rfl : i = lines.length := by omega
        exact Or.inr ⟨rfl, by simpa using hi.symm, List.take_left⟩
    refine ⟨?_, ?_, ?_⟩
    · intro i t hi
      rcases hcases i t hi with ⟨hi, _⟩ | ⟨rfl, rfl, _⟩
      · exact h.parses i t hi
      · exact hnext.parses
    · intro i t c hi hc
      rcases hcases i t hi with ⟨hi, htake⟩ | ⟨rfl, rfl, htake⟩
      · rw [htake]
        exact h.calls i t c hi hc
      · rw [htake]
        exact hnext.calls c hc
    · intro n
      rcases Nat.lt_or_ge lines.length n with hlt | hge
      · rw [List.take_of_length_le (by rw [List.length_append]; exact hlt)]
        exact hnext.nested
      · rw [List.take_append_of_le_length hge]
        exact h.nested n

/-! ## Sessions after lines -/

theorem SourceLine.parse_eq_ok {text : String} {number : Int} {line : SourceLine}
    (h : SourceLine.parse text number = .ok line) :
    line.number = number ∧ ∀ c, line.content = .call c ↔ callOf? text = some c := by
  unfold SourceLine.parse at h
  unfold callOf? SourceLine.parse
  simp only at h ⊢
  split at h
  next content hcontent =>
    cases h
    cases content <;> simp
  next =>
    cases h

/-- In a state with nothing but a usage page and open scopes, a call is answered if it succeeds
with the usage page alone and finds a scope to close. -/
theorem ItemState.answer_isOk_iff {state : ItemState} {page : Option String} {tables : Tables}
    {c : Call} {number : Int} (h : state.globals = pageGlobals page) :
    (∃ state' r, state.answer tables c number = .ok (state', r)) ↔
      (∃ f item outcome, Function.ofName? c.name = some f ∧ Item.byName? c.name = some item ∧
        f.call (.onPage page) tables c.args = .ok outcome) ∧
      (c.name = "end_collection" → state.scopes ≠ []) := by
  -- Calls look at nothing of the state but the page, so the one with this page alone will do.
  have hpage : state.current? Function.pageName = (onPage page).current? Function.pageName := by
    rw [current?_pageName h, current?_pageName rfl]
  constructor
  · rintro ⟨state', r, hanswer⟩
    rcases answer_eq_ok hanswer with ⟨f, outcome, hname, hcall, hadvance, _⟩
    rw [f.call_congr tables c.args hpage] at hcall
    refine ⟨⟨f, f.item, outcome, ?_, ?_, hcall⟩, ?_⟩
    · rw [hname, f.ofName?_name]
    · rw [hname, f.byName?_name]
    · intro hend
      exact Function.advance_isOk_iff.1 ⟨state', hadvance⟩
        (Function.name_injective (hname.symm.trans hend))
  · rintro ⟨⟨f, item, outcome, hf, _, hcall⟩, hscopes⟩
    have hname := Function.name_eq_of_ofName? hf
    rw [← f.call_congr tables c.args hpage] at hcall
    have hend : f = .endCollection → state.scopes ≠ [] := by
      rintro rfl
      exact hscopes hname
    rcases Function.advance_isOk_iff.2 hend with ⟨state', hadvance⟩
    refine ⟨state', ⟨f.item, outcome.payload, c.args, number⟩, ?_⟩
    rw [answer_of_name hname, hcall, hadvance]
    rfl

/-- The record of an answered call is the record of its line. -/
theorem ItemState.recordOf?_of_answer {state state' : ItemState} {page : Option String}
    {tables : Tables} {c : Call} {number : Int} {text : String} {r : Record}
    (h : state.globals = pageGlobals page) (hc : SourceLine.callOf? text = some c)
    (hanswer : state.answer tables c number = .ok (state', r)) :
    recordOf? tables page number text = some r := by
  rcases answer_eq_ok hanswer with ⟨f, outcome, hname, hcall, _, rfl⟩
  have hpage : state.current? Function.pageName = (onPage page).current? Function.pageName := by
    rw [current?_pageName h, current?_pageName rfl]
  rw [f.call_congr tables c.args hpage] at hcall
  simp [recordOf?, hc, hname, f.ofName?_name, f.byName?_name, hcall, Except.toOption]

namespace Session

/-- What a session knows after lines: their records, the usage page in force, and the number of
collections left open. -/
structure Follows (tables : Tables) (lines : List String) (s : Session) : Prop where
  sameTables : s.tables = tables
  phase : s.phase = .scanning
  records : s.records = recordsOf tables lines
  globals : s.state.globals = ItemState.pageGlobals (pageBefore lines)
  depth : s.state.scopes.length + callCount "end_collection" lines = callCount "collection" lines

theorem follows_start (tables : Tables) : Follows tables [] (start tables) :=
  ⟨rfl, rfl, rfl, rfl, rfl⟩

/-- A line that makes no call leaves the session as it is. -/
theorem Follows.silent {tables : Tables} {lines : List String} {s : Session} {text : String}
    (h : Follows tables lines s) (hc : SourceLine.callOf? text = none) :
    Follows tables (lines ++ [text]) s where
  sameTables := h.sameTables
  phase := h.phase
  records := by
    rw [recordsOf_append, recordOf?, hc, h.records]
    simp
  globals := by
    rw [pageBefore_append_none hc, h.globals]
  depth := by
    rw [callCount_append, callCount_append, hc]
    exact h.depth

/-- A line whose call is answered adds its record. -/
theorem Follows.answered {tables : Tables} {lines : List String} {s : Session} {text : String}
    {c : Call} {state : ItemState} {r : Record} (h : Follows tables lines s)
    (hc : SourceLine.callOf? text = some c)
    (hanswer : s.state.answer s.tables c (lines.length + 1) = .ok (state, r)) :
    Follows tables (lines ++ [text]) (s.extend state r) := by
  have hrecord : recordsOf tables (lines ++ [text]) = s.records ++ [r] := by
    rw [recordsOf_append, ← h.records, ← h.sameTables,
      ItemState.recordOf?_of_answer h.globals hc hanswer]
    rfl
  rcases ItemState.answer_eq_ok hanswer with ⟨f, outcome, hname, hcall, hadvance, _⟩
  -- The counts go by the name of the call, the state by its function.
  have hnames (g : Function) : c.name = g.name ↔ f = g := by
    rw [hname]
    exact ⟨Function.name_injective, fun hg => by rw [hg]⟩
  have hpage : c.name = "usage_page" ↔ f = .usagePage := hnames .usagePage
  have hopen : c.name = "collection" ↔ f = .collection := hnames .collection
  have hclose : c.name = "end_collection" ↔ f = .endCollection := hnames .endCollection
  have hdepth := h.depth
  suffices hstate : state.globals = ItemState.pageGlobals (pageBefore (lines ++ [text])) ∧
      state.scopes.length + callCount "end_collection" (lines ++ [text]) =
        callCount "collection" (lines ++ [text]) by
    exact ⟨h.sameTables, h.phase, hrecord.symm, hstate.1, hstate.2⟩
  rw [pageBefore_append_call hc, callCount_append, callCount_append, hc]
  simp only [Option.any_some, decide_eq_true_eq, hpage, hopen, hclose]
  rcases Function.advance_cases hcall hadvance with ⟨rfl, page, hargs, rfl⟩ |
    ⟨rfl, kind, _, rfl⟩ | ⟨rfl, scope, _, hscopes, hglobals⟩ | ⟨⟨hf, hf', hf''⟩, rfl⟩
  · rw [hargs, h.globals, ItemState.insert_pageGlobals]
    exact ⟨rfl, by simpa using hdepth⟩
  · refine ⟨by simpa using h.globals, ?_⟩
    simp
    omega
  · rw [hscopes, List.length_cons] at hdepth
    refine ⟨by simpa [hglobals] using h.globals, ?_⟩
    simp
    omega
  · simp only [hf, hf', hf'', if_false]
    exact ⟨h.globals, hdepth⟩

/-! ## Runs -/

theorem feedAll_singleton_eq_ok {s s' : Session} {number : Int} {text : String} :
    s.feedAll number [text] = (s', .ok ()) ↔
      ∃ line, SourceLine.parse text number = .ok line ∧ s.feed line = (s', .ok ()) := by
  rw [feedAll_cons_eq_ok]
  constructor
  · rintro ⟨line, s₁, hline, hfeed, hrun⟩
    cases hrun
    exact ⟨line, hline, hfeed⟩
  · rintro ⟨line, hline, hfeed⟩
    exact ⟨line, s', hline, hfeed, rfl⟩

theorem feedAll_append_eq_ok {s s' : Session} {number : Int} {lines : List String} {text : String} :
    s.feedAll number (lines ++ [text]) = (s', .ok ()) ↔
      ∃ s₀ line, s.feedAll number lines = (s₀, .ok ()) ∧
        SourceLine.parse text (number + lines.length) = .ok line ∧ s₀.feed line = (s', .ok ()) := by
  rw [feedAll_append]
  rcases s.feedAll number lines with ⟨s₀, result⟩
  cases result with
  | error fault =>
      simp
  | ok _ =>
      simp [feedAll_singleton_eq_ok]

/-- Lines that are read without a fault meet the conditions on single lines. -/
theorem follows_of_feedAll {tables : Tables} {lines : List String} {s : Session}
    (h : (start tables).feedAll 1 lines = (s, .ok ())) :
    Readable tables lines ∧ Follows tables lines s := by
  induction lines using List.reverseRecOn generalizing s with
  | nil =>
      cases h
      exact ⟨readable_nil tables, follows_start tables⟩
  | append_singleton lines text ih =>
      rcases feedAll_append_eq_ok.1 h with ⟨s₀, line, hrun, hline, hfeed⟩
      rcases ih hrun with ⟨hreadable, hfollows⟩
      rw [Int.add_comm] at hline
      rcases SourceLine.parse_eq_ok hline with ⟨hnumber, hcontent⟩
      -- The counts of brackets follow from the number of open scopes afterwards.
      suffices hnext : Follows tables (lines ++ [text]) s ∧
          ∀ c, SourceLine.callOf? text = some c →
            ∃ f item outcome, Function.ofName? c.name = some f ∧ Item.byName? c.name = some item ∧
              f.call (.onPage (pageBefore lines)) tables c.args = .ok outcome by
        refine ⟨readable_append_iff.2 ⟨hreadable, ⟨line, hline⟩, hnext.2, ?_⟩, hnext.1⟩
        have hdepth := hnext.1.depth
        omega
      rcases feed_eq_ok hfeed with ⟨_, ⟨hsilent, rfl⟩ | ⟨c, state, r, hc, _, hanswer, rfl⟩⟩
      · have hnone : SourceLine.callOf? text = none :=
          Option.eq_none_iff_forall_ne_some.2 fun c hc => hsilent c ((hcontent c).2 hc)
        exact ⟨hfollows.silent hnone, fun c hc => absurd hc (by simp [hnone])⟩
      · have hcall := (hcontent c).1 hc
        rw [hnumber] at hanswer
        refine ⟨hfollows.answered hcall hanswer, fun c' hc' => ?_⟩
        obtain rfl : c = c' := Option.some.inj (hcall.symm.trans hc')
        rw [hfollows.sameTables] at hanswer
        exact ((ItemState.answer_isOk_iff hfollows.globals).1 ⟨state, r, hanswer⟩).1

theorem printable_of_le {m n : Nat} (h : m ≤ n) (hn : Numeral.printable n = true) :
    Numeral.printable m = true := by
  simp only [Numeral.printable, decide_eq_true_eq, Int.natAbs_natCast] at hn ⊢
  omega

/-- Lines that meet the conditions on single lines are read without a fault. -/
theorem exists_feedAll_of_readable {tables : Tables} {lines : List String}
    (short : Numeral.printable lines.length = true) (h : Readable tables lines) :
    ∃ s, (start tables).feedAll 1 lines = (s, .ok ()) := by
  induction lines using List.reverseRecOn with
  | nil =>
      exact ⟨start tables, rfl⟩
  | append_singleton lines text ih =>
      rw [List.length_append, List.length_singleton] at short
      rcases readable_append_iff.1 h with ⟨hreadable, hnext⟩
      rcases ih (printable_of_le (by omega) short) hreadable with ⟨s, hrun⟩
      rcases follows_of_feedAll hrun with ⟨_, hfollows⟩
      rcases hnext.parses with ⟨line, hline⟩
      rcases SourceLine.parse_eq_ok hline with ⟨hnumber, hcontent⟩
      suffices hfeed : ∃ s', s.feed line = (s', .ok ()) by
        rcases hfeed with ⟨s', hfeed⟩
        rw [Int.add_comm] at hline
        exact ⟨s', feedAll_append_eq_ok.2 ⟨s, line, hrun, hline, hfeed⟩⟩
      cases hc : SourceLine.callOf? text with
      | none =>
          have hsilent (c : Call) : line.content ≠ .call c := by
            intro hcall
            simp [(hcontent c).1 hcall] at hc
          exact ⟨s, feed_silent hfollows.phase hsilent⟩
      | some c =>
          -- With no scope open, one more end would put the ends ahead.
          have hend : c.name = "end_collection" → s.state.scopes ≠ [] := by
            intro hname hscopes
            have hnested := hnext.nested
            have hdepth := hfollows.depth
            rw [callCount_append, callCount_append, hc] at hnested
            simp [hname] at hnested
            simp [hscopes] at hdepth
            omega
          obtain ⟨state, r, hanswer⟩ :
              ∃ state r, s.state.answer tables c line.number = .ok (state, r) :=
            (ItemState.answer_isOk_iff hfollows.globals).2 ⟨hnext.calls c hc, hend⟩
          rw [← hfollows.sameTables] at hanswer
          have hprintable : Numeral.printable line.number = true := by
            rw [hnumber]
            exact short
          refine ⟨s.extend state r, ?_⟩
          rw [feed_call_eq hfollows.phase ((hcontent c).2 hc) hprintable, hanswer]

end Session

/-! ## Compiled lines -/

theorem readable_of_compileLines {tables : Tables} {lines : List String} {d : Descriptor}
    (h : compileLines tables lines = .ok d) :
    Readable tables lines ∧ callCount "end_collection" lines = callCount "collection" lines ∧
      d.records = recordsOf tables lines ∧
      ∃ encoded, d.records.mapM Record.bytes = .ok encoded ∧ d.data = encoded.flatten := by
  rcases compileLines_eq_ok.1 h with ⟨s, hrun, _, hclosed, rfl⟩
  rcases Session.follows_of_feedAll hrun with ⟨hreadable, hfollows⟩
  have htracks := (Session.tracks_start tables).feedAll hrun
  have hdepth := hfollows.depth
  rw [ItemState.checkClosed_eq_ok_iff.1 hclosed, List.length_nil] at hdepth
  exact ⟨hreadable, by omega, hfollows.records, htracks.faithful.data⟩

theorem exists_compileLines_of_readable {tables : Tables} {lines : List String}
    (short : Numeral.printable lines.length = true) (h : Readable tables lines)
    (hbalance : callCount "end_collection" lines = callCount "collection" lines) :
    ∃ d, compileLines tables lines = .ok d := by
  rcases Session.exists_feedAll_of_readable short h with ⟨s, hrun⟩
  rcases Session.follows_of_feedAll hrun with ⟨_, hfollows⟩
  have hdepth := hfollows.depth
  have hscopes : s.state.scopes = [] := List.eq_nil_of_length_eq_zero (by omega)
  exact ⟨⟨s.records, s.data⟩, compileLines_eq_ok.2
    ⟨s, hrun, hfollows.phase, ItemState.checkClosed_eq_ok_iff.2 hscopes, rfl⟩⟩

/-! ## Bytes of single lines -/

def Descriptor.lineBytes (d : Descriptor) (number : Int) : Except Fault (List UInt8) :=
  ((d.records.filter (·.line = number)).mapM Record.bytes).map List.flatten

theorem line_of_recordAt? {tables : Tables} {lines : List String} {i : Nat} {r : Record}
    (h : recordAt? tables lines i = some r) : r.line = i + 1 := by
  rcases Option.bind_eq_some_iff.1 h with ⟨text, _, h⟩
  rcases Option.bind_eq_some_iff.1 h with ⟨c, _, h⟩
  rcases Option.bind_eq_some_iff.1 h with ⟨f, _, h⟩
  rcases Option.bind_eq_some_iff.1 h with ⟨item, _, h⟩
  rcases Option.bind_eq_some_iff.1 h with ⟨outcome, _, h⟩
  cases h
  rfl

/-- A line has at most one record, which carries its number. -/
theorem filter_recordsOf (tables : Tables) (lines : List String) (i : Nat) :
    (recordsOf tables lines).filter (·.line = (i : Int) + 1) =
      (recordAt? tables lines i).toList := by
  -- Stated for the first `n` lines, so that the induction can add them one by one.
  have hrange (n : Nat) : ((List.range n).filterMap (recordAt? tables lines)).filter
      (·.line = (i : Int) + 1) = if i < n then (recordAt? tables lines i).toList else [] := by
    induction n with
    | zero =>
        simp
    | succ n ih =>
        rw [List.range_succ, List.filterMap_append, List.filter_append, ih]
        cases hn : recordAt? tables lines n with
        | none =>
            rcases Nat.lt_trichotomy i n with hlt | rfl | hgt
            · simp [hn, hlt, Nat.lt_succ_of_lt hlt]
            · simp [hn]
            · simp [hn, Nat.not_lt_of_lt hgt, Nat.not_lt.2 (Nat.succ_le_of_lt hgt)]
        | some r =>
            have hline := line_of_recordAt? hn
            rcases Nat.lt_trichotomy i n with hlt | rfl | hgt
            · have hne : ¬ r.line = (i : Int) + 1 := by omega
              simp [hn, hlt, Nat.lt_succ_of_lt hlt, hne]
            · simp [hn, hline]
            · have hne : ¬ r.line = (i : Int) + 1 := by omega
              simp [hn, Nat.not_lt_of_lt hgt, Nat.not_lt.2 (Nat.succ_le_of_lt hgt), hne]
  rw [recordsOf, hrange]
  split
  next =>
    rfl
  next hlen =>
    rw [recordAt?, List.getElem?_eq_none (by omega)]
    rfl

theorem recordOf?_number (tables : Tables) (page : Option String) (m n : Int) (text : String) :
    recordOf? tables page n text = (recordOf? tables page m text).map ({ · with line := n }) := by
  simp only [recordOf?, Option.bind_eq_bind]
  cases SourceLine.callOf? text with
  | none =>
      rfl
  | some c =>
      simp only [Option.bind_some]
      cases Function.ofName? c.name with
      | none =>
          rfl
      | some f =>
          simp only [Option.bind_some]
          cases Item.byName? c.name with
          | none =>
              rfl
          | some item =>
              simp only [Option.bind_some]
              cases (f.call (.onPage page) tables c.args).toOption with
              | none =>
                  rfl
              | some outcome =>
                  rfl

/-- The bytes of a line come from its call and the usage page in force, whatever its number. -/
theorem lineBytes_eq {tables : Tables} {lines lines' : List String} {d d' : Descriptor}
    {i i' : Nat} (h : compileLines tables lines = .ok d) (h' : compileLines tables lines' = .ok d')
    (hline : lines[i]? = lines'[i']?)
    (hpage : pageBefore (lines.take i) = pageBefore (lines'.take i')) :
    d.lineBytes (i + 1) = d'.lineBytes (i' + 1) := by
  rcases readable_of_compileLines h with ⟨_, _, hrecords, _⟩
  rcases readable_of_compileLines h' with ⟨_, _, hrecords', _⟩
  -- The two records differ in nothing but their line numbers, and bytes do not show these.
  have hnumber : recordAt? tables lines i =
      (recordAt? tables lines' i').map ({ · with line := (i : Int) + 1 }) := by
    rw [recordAt?, recordAt?, hline, hpage]
    cases lines'[i']? with
    | none =>
        rfl
    | some text =>
        exact recordOf?_number tables _ _ _ text
  unfold Descriptor.lineBytes
  rw [hrecords, hrecords', filter_recordsOf, filter_recordsOf, hnumber]
  cases recordAt? tables lines' i' with
  | none =>
      rfl
  | some r =>
      rfl

theorem pageBefore_congr {before x y after : List String}
    (hx : ∀ text ∈ x, ∀ c, SourceLine.callOf? text = some c → c.name ≠ "usage_page")
    (hy : ∀ text ∈ y, ∀ c, SourceLine.callOf? text = some c → c.name ≠ "usage_page") :
    pageBefore (before ++ x ++ after) = pageBefore (before ++ y ++ after) := by
  have hnone (z : List String)
      (hz : ∀ text ∈ z, ∀ c, SourceLine.callOf? text = some c → c.name ≠ "usage_page") :
      (z.filterMap SourceLine.callOf?).filter (·.name = "usage_page") = [] := by
    rw [List.filter_eq_nil_iff]
    intro c hc
    rcases List.mem_filterMap.1 hc with ⟨text, htext, hcall⟩
    simpa using hz text htext c hcall
  unfold pageBefore
  simp only [List.filterMap_append, List.filter_append, hnone x hx, hnone y hy]

/-! ## The description of compilation by lines -/

/-- Compilation in one pass over a state is the same as compilation line by line.

A source compiles if and only if every line can be parsed, every call succeeds in a state that
holds nothing but the usage page set by the lines before it, no collection ends before it starts,
and as many collections end as start. Then records and bytes are those of the lines, in order. So
lines that do not set the usage page can be replaced by any others of this kind, and no other line
changes its bytes.

The number of lines has to be short enough to be written: lists have fewer than `10 ^ 4300`. -/
theorem compileLines_line_local (tables : Tables) (lines : List String)
    (short : Numeral.printable lines.length = true) :
    ((∃ d, compileLines tables lines = .ok d) ↔
      Readable tables lines ∧
        callCount "end_collection" lines = callCount "collection" lines) ∧
    (∀ d, compileLines tables lines = .ok d →
      d.records = recordsOf tables lines ∧
        ∃ encoded, d.records.mapM Record.bytes = .ok encoded ∧ d.data = encoded.flatten) ∧
    (∀ before x y after d d',
      (∀ text ∈ x ++ y, ∀ c, SourceLine.callOf? text = some c → c.name ≠ "usage_page") →
      lines = before ++ x ++ after → compileLines tables lines = .ok d →
      compileLines tables (before ++ y ++ after) = .ok d' →
      (∀ i, i < before.length → d.lineBytes (i + 1) = d'.lineBytes (i + 1)) ∧
        ∀ i, d.lineBytes ((before.length + x.length + i : Nat) + 1) =
          d'.lineBytes ((before.length + y.length + i : Nat) + 1)) := by
  refine ⟨⟨?_, ?_⟩, ?_, ?_⟩
  · rintro ⟨d, hd⟩
    rcases readable_of_compileLines hd with ⟨hreadable, hbalance, _⟩
    exact ⟨hreadable, hbalance⟩
  · rintro ⟨hreadable, hbalance⟩
    exact exists_compileLines_of_readable short hreadable hbalance
  · intro d hd
    rcases readable_of_compileLines hd with ⟨_, _, hrecords, hdata⟩
    exact ⟨hrecords, hdata⟩
  · -- What is replaced sets no usage page, so the page in force is the same on every other line.
    rintro before x y after d d' hpages rfl hd hd'
    refine ⟨?_, ?_⟩
    · intro i hi
      refine lineBytes_eq hd hd' ?_ ?_
      · rw [List.append_assoc, List.append_assoc, List.getElem?_append_left hi,
          List.getElem?_append_left hi]
      · rw [List.append_assoc, List.append_assoc, List.take_append_of_le_length (by omega),
          List.take_append_of_le_length (by omega)]
    · intro i
      refine lineBytes_eq hd hd' ?_ ?_
      · rw [← List.length_append, ← List.length_append, List.getElem?_append_right (by omega),
          List.getElem?_append_right (by omega), Nat.add_sub_cancel_left, Nat.add_sub_cancel_left]
      · rw [← List.length_append, ← List.length_append, List.take_length_add_append,
          List.take_length_add_append]
        exact pageBefore_congr (fun text ht => hpages text (List.mem_append_left _ ht))
          fun text ht => hpages text (List.mem_append_right _ ht)

/-- Two usage pages, a comment and a collection. -/
theorem compileLines_line_local_pages :
    ∃ (tables : Tables) (lines : List String) (d : Descriptor),
      Numeral.printable lines.length = true ∧ compileLines tables lines = .ok d ∧
      d.data = [0x05, 8, 0xA1, 1, 0x09, 2, 0x05, 9, 0x09, 7, 0xC0] ∧
      Readable tables lines ∧ d.records = recordsOf tables lines := by
  let tables : Tables :=
    ⟨.ofList [("led", 8), ("button", 9)], .ofList [("led", .ofList [("caps", 2)]), ("button", .empty)],
      .ofList [("application", 1)], .empty⟩
  let lines : List String :=
    ["Usage_Page(LED)", "Collection(Application)", "  Usage(Caps)", "# buttons",
      "Usage_Page(Button)", "Usage(7)", "End_Collection()"]
  have short : Numeral.printable lines.length = true := by
    decide +kernel
  have hsome : (compileLines tables lines).isOk = true := by
    decide +kernel
  obtain ⟨d, hd⟩ : ∃ d, compileLines tables lines = .ok d := by
    cases h : compileLines tables lines with
    | error fault =>
        rw [h] at hsome
        cases hsome
    | ok d =>
        exact ⟨d, rfl⟩
  have hdata : (compileLines tables lines).toOption.map (·.data) =
      some [0x05, 8, 0xA1, 1, 0x09, 2, 0x05, 9, 0x09, 7, 0xC0] := by
    decide +kernel
  rcases compileLines_line_local tables lines short with ⟨hiff, hrecords, _⟩
  refine ⟨tables, lines, d, short, hd, ?_, (hiff.1 ⟨d, hd⟩).1, (hrecords d hd).1⟩
  rw [hd] at hdata
  exact Option.some.inj hdata

end HidDescriptor
