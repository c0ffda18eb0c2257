import HidDescriptor.Proofs.LineLocal
import HidDescriptor.Proofs.NormalCalls

/-!
# Descriptors as source

A compiled descriptor can be written as source again, one line for each record, and that source
compiles to the same descriptor.

- `Record.source`, `Descriptor.source`: the written form of records
- `Descriptor.renumber`: the records on the lines of their written form
- `ItemState.answer_number`: a call does the same on every line
- `Session.feed_render`, `Session.feedAll_source`: a session that reads the written form of what
  another has read
- `compileLines_source`: the written form of a descriptor compiles to it
-/

namespace HidDescriptor

/-! ## Written records -/

namespace Record

def source (r : Record) : String :=
  Call.render ⟨r.item.name, r.args⟩

def renumberAll (records : List Record) : List Record :=
  records.mapIdx fun i r => { r with line := i + 1 }

theorem renumberAll_append (records : List Record) (r : Record) :
    renumberAll (records ++ [r]) =
      renumberAll records ++ [{ r with line := (records.length : Int) + 1 }] := by
  simp [renumberAll, List.mapIdx_append]

theorem map_source_renumberAll (records : List Record) :
    (renumberAll records).map source = records.map source := by
  induction records using List.reverseRecOn with
  | nil =>
      rfl
  | append_singleton records r ih =>
      rw [renumberAll_append, List.map_append, List.map_append, ih]
      rfl

end Record

namespace Descriptor

def source (d : Descriptor) : List String :=
  d.records.map Record.source

/-- The descriptor with the line numbers of its written form. -/
def renumber (d : Descriptor) : Descriptor :=
  ⟨Record.renumberAll d.records, d.data⟩

end Descriptor

/-! ## Answers to written calls -/

namespace ItemState

variable {state state' : ItemState} {tables : Tables} {c : Call} {number : Int} {r : Record}

/-- The number of a line goes into the record of its call and nowhere else. -/
theorem answer_number (h : state.answer tables c number = .ok (state', r)) (n : Int) :
    state.answer tables c n = .ok (state', { r with line := n }) := by
  rcases answer_eq_ok h with ⟨f, outcome, hname, hcall, hadvance, rfl⟩
  rw [answer_of_name hname, hcall]
  simp only [hadvance]
  rfl

/-- The record of an answered call is written as that call. -/
theorem source_of_answer (h : state.answer tables c number = .ok (state', r)) :
    r.source = c.render := by
  rcases answer_eq_ok h with ⟨f, outcome, hname, _, _, rfl⟩
  rw [Record.source, f.item_name, ← hname]

end ItemState

/-! ## Sessions over written records -/

namespace Session

def renumber (s : Session) : Session :=
  { s with records := Record.renumberAll s.records }

theorem renumber_extend (s : Session) (state : ItemState) (r : Record) :
    (s.extend state r).renumber =
      s.renumber.extend state { r with line := (s.records.length : Int) + 1 } := by
  simp only [renumber, extend, Record.renumberAll_append]
  rfl

/-- A written call adds the record that the call has added, with the number of the written line. -/
theorem feed_render {s : Session} {c : Call} {number : Int} {state : ItemState} {r : Record}
    (hphase : s.phase = .scanning) (hanswer : s.state.answer s.tables c number = .ok (state, r))
    (hn : Numeral.printable ((s.records.length : Int) + 1) = true) :
    s.renumber.feed ⟨s.records.length + 1, c.render, .call c⟩ =
      ((s.extend state r).renumber, .ok ()) := by
  let line : SourceLine := ⟨s.records.length + 1, c.render, .call c⟩
  have hcontent : line.content = .call c := rfl
  have hwritten : s.renumber.state.answer s.renumber.tables c line.number =
      .ok (state, { r with line := (s.records.length : Int) + 1 }) :=
    ItemState.answer_number hanswer _
  have hfeed := feed_call_eq (s := s.renumber) hphase hcontent hn
  rw [hwritten] at hfeed
  rw [renumber_extend]
  exact hfeed

theorem length_records_le {tables : Tables} {lines : List String} {s : Session}
    (h : (start tables).feedAll 1 lines = (s, .ok ())) : s.records.length ≤ lines.length := by
  rw [(follows_of_feedAll h).2.records, recordsOf]
  calc
    _ ≤ (List.range lines.length).length := List.length_filterMap_le _ _
    _ = lines.length := List.length_range

/-- A session that reads the written form of the records of a run ends where the run has ended. -/
theorem feedAll_source {tables : Tables} {lines : List String} {s : Session}
    (h : (start tables).feedAll 1 lines = (s, .ok ())) :
    (start tables).feedAll 1 (s.records.map Record.source) = (s.renumber, .ok ()) := by
  induction lines using List.reverseRecOn generalizing s with
  | nil =>
      cases h
      rfl
  | append_singleton lines text ih =>
      rcases feedAll_append_eq_ok.1 h with ⟨s₀, line, hrun, hparse, hfeed⟩
      rcases feed_eq_ok hfeed with ⟨hphase, ⟨_, rfl⟩ | ⟨c, state, r, hc, hn, hanswer, rfl⟩⟩
      · -- Lines without a call leave no record.
        exact ih hrun
      · have hrecords : (s₀.extend state r).records.map Record.source =
            s₀.records.map Record.source ++ [c.render] := by
          simp [extend, ItemState.source_of_answer hanswer]
        -- The written line stands no later than the line it came from, so its number is writable.
        have hnumber : Numeral.printable ((s₀.records.length : Int) + 1) = true := by
          have hle : s₀.records.length + 1 ≤ lines.length + 1 :=
            Nat.succ_le_succ (length_records_le hrun)
          have hline : line.number = ((lines.length + 1 : Nat) : Int) := by
            rw [(SourceLine.parse_eq_ok hparse).1]
            omega
          rw [hline] at hn
          exact printable_of_le hle hn
        have hplace : 1 + ((s₀.records.map Record.source).length : Int) = s₀.records.length + 1 := by
          rw [List.length_map]
          omega
        rw [hrecords]
        refine feedAll_append_eq_ok.2 ⟨s₀.renumber, _, ih hrun, ?_, feed_render hphase hanswer hnumber⟩
        rw [hplace]
        exact SourceLine.parse_render (SourceLine.normal_of_parse hparse hc) _

end Session

/-! ## Descriptors -/

/-- The written form of a compiled descriptor compiles to the same items, payloads, arguments and
bytes, and writing it once more changes nothing. -/
theorem compileLines_source {tables : Tables} {lines : List String} {d : Descriptor}
    (h : compileLines tables lines = .ok d) :
    compileLines tables d.source = .ok d.renumber ∧ d.renumber.source = d.source := by
  rcases compileLines_eq_ok.1 h with ⟨s, hrun, hphase, hclosed, rfl⟩
  refine ⟨?_, Record.map_source_renumberAll s.records⟩
  exact compileLines_eq_ok.2 ⟨s.renumber, Session.feedAll_source hrun, hphase, hclosed, rfl⟩

/-- A page whose name has a comment mark, a parenthesis and a letter with a final form, and items
behind comments and blank lines. -/
theorem compileLines_source_page :
    ∃ (tables : Tables) (lines : List String) (d : Descriptor),
      compileLines tables lines = .ok d ∧ d.records.map (·.line) = [2, 4, 5, 6] ∧
      d.source = ["usage_page(#1 (λόγος) x)", "collection(2)", "input(data, var)",
        "end_collection()"] ∧
      compileLines tables d.source = .ok d.renumber ∧
      d.renumber.records.map (·.line) = [1, 2, 3, 4] ∧ d.renumber.data = d.data := by
  let tables : Tables :=
    ⟨.ofList [("#1 (λόγος) x", 9)], .empty, .empty, .ofList [("data", 0), ("var", 2)]⟩
  let lines : List String :=
    ["; a page", "  Usage_Page ( #1 (ΛΌΓΟΣ) X )  ", "", "Collection(2)", "Input( Data,VAR )\r\n",
      "End_Collection( )"]
  let d : Descriptor :=
    ⟨[⟨Function.usagePage.item, [9], ["#1 (λόγος) x"], 2⟩, ⟨Function.collection.item, [2], ["2"], 4⟩,
        ⟨Function.input.item, [2], ["data", "var"], 5⟩, ⟨Function.endCollection.item, [], [], 6⟩],
      [0x05, 9, 0xA1, 2, 0x81, 2, 0xC0]⟩
  have hd : compileLines tables lines = .ok d := by
    decide +kernel
  have hsource : d.source = ["usage_page(#1 (λόγος) x)", "collection(2)", "input(data, var)",
      "end_collection()"] := by
    decide +kernel
  exact ⟨tables, lines, d, hd, rfl, hsource, (compileLines_source hd).1, rfl, rfl⟩

end HidDescriptor
