import HidDescriptor.Proofs.Locations

/-!
# What a compile error tells

The first line that is rejected decides the compile error of a source, and lines behind it have no
say. Only the end of a source can be rejected without a line, for the collections that are open
there, and ends for these are all that the source lacks.

- `Session.feedAll_eq_error`: the line that ends the reading of lines
- `Session.feedAll_endLines`: ends of collections behind the lines of a source
- `Diagnostic.Blames`, `Diagnostic.LacksEnds`: what a compile error says, with or without a line
- `compileLines_diagnosis`: every compile error says one of the two
-/

namespace HidDescriptor

/-! ## The first rejected line -/

namespace Session

variable {s s' : Session} {number : Int} {fault : Fault}

theorem feedAll_cons_of_error {text : String} (h : s.feedAll number [text] = (s', .error fault))
    (rest : List String) : s.feedAll number (text :: rest) = (s', .error fault) := by
  have happend := s.feedAll_append number [text] rest
  rw [h] at happend
  exact happend

/-- The reading of lines ends at one line, and all lines before it are read. -/
theorem feedAll_eq_error {lines : List String}
    (h : s.feedAll number lines = (s', .error fault)) :
    ∃ before text after s₀, lines = before ++ text :: after ∧
      s.feedAll number before = (s₀, .ok ()) ∧
      s₀.feedAll (number + before.length) [text] = (s', .error fault) := by
  induction lines using List.reverseRecOn generalizing s' fault with
  | nil =>
      cases h
  | append_singleton lines text ih =>
      rw [feedAll_append] at h
      rcases hrun : s.feedAll number lines with ⟨s₀, result⟩
      rw [hrun] at h
      cases result with
      | error found =>
          -- An earlier line ends the reading, and the last one is never looked at.
          rcases ih (hrun.trans h) with ⟨before, line, after, s₁, rfl, hbefore, hline⟩
          exact ⟨before, line, after ++ [text], s₁, by simp, hbefore, hline⟩
      | ok _ =>
          exact ⟨lines, text, [], s₀, rfl, hrun, h⟩

end Session

theorem compileLines_of_feedAll_error {tables : Tables} {lines : List String} {s : Session}
    {fault : Fault} (h : (Session.start tables).feedAll 1 lines = (s, .error fault)) :
    compileLines tables lines = .error fault := by
  rw [compileLines, h]

/-- A source whose lines are all read lacks nothing but the ends of the collections left open. -/
theorem compileLines_of_feedAll_ok {tables : Tables} {lines : List String} {s : Session}
    (h : (Session.start tables).feedAll 1 lines = (s, .ok ())) :
    compileLines tables lines =
      if s.opened = [] then .ok ⟨s.records, s.data⟩
      else .error (.compile (.ofCause (.unterminated (s.opened.flatMap (·.args))))) := by
  have htracks : s.Tracks := (Session.tracks_start tables).feedAll h
  have hphase : s.phase = .scanning := (Session.follows_of_feedAll h).2.phase
  have hclosed := htracks.checkClosed_eq
  rw [compileLines, h]
  by_cases hopened : s.opened = []
  · rw [if_pos hopened] at hclosed ⊢
    simp only [Session.finish, hphase, hclosed]
  · rw [if_neg hopened] at hclosed ⊢
    simp only [Session.finish, hphase, hclosed]

/-! ## Ends of collections -/

/-- The line that ends a collection. -/
def endLine : String := "End_Collection()"

theorem parse_endLine (number : Int) :
    SourceLine.parse endLine number =
      .ok ⟨number, endLine, .call ⟨Function.endCollection.name, []⟩⟩ := by
  have hlist : Text.dropEndWhile SourceLine.isLineEnd endLine.toList = endLine.toList := by
    decide +kernel
  have hcontent : SourceLine.contentOf endLine.toList =
      .ok (.call ⟨Function.endCollection.name, []⟩) := by
    decide +kernel
  simp only [SourceLine.parse, hlist, hcontent, String.ofList_toList]

namespace Session

/-- With a collection open, one more end is read, and it closes the innermost one. -/
theorem Tracks.feedAll_endLine {s : Session} {number : Int} (h : s.Tracks)
    (hphase : s.phase = .scanning) (hopened : s.opened ≠ [])
    (hn : Numeral.printable number = true) :
    ∃ s', s.feedAll number [endLine] = (s', .ok ()) ∧ s'.opened = s.opened.dropLast := by
  have hscopes : s.state.scopes ≠ [] := by
    intro hnil
    have hmap := h.reverse_scopes
    rw [hnil] at hmap
    exact hopened (List.map_eq_nil_iff.1 hmap.symm)
  rcases List.exists_cons_of_ne_nil hscopes with ⟨scope, rest, hcons⟩
  let c : Call := ⟨Function.endCollection.name, []⟩
  let line : SourceLine := ⟨number, endLine, .call c⟩
  let r : Record := ⟨Function.endCollection.item, [], [], number⟩
  have hanswer : s.state.answer s.tables c line.number =
      .ok (⟨s.state.globals, rest⟩, r) := by
    rw [ItemState.answer_of_name (f := .endCollection) rfl]
    simp only [Function.call, Function.callEndCollection, Function.advance, ItemState.closeScope,
      hcons]
    rfl
  have hcontent : line.content = .call c := rfl
  have hfeed : s.feed line = (s.extend ⟨s.state.globals, rest⟩ r, .ok ()) := by
    rw [feed_call_eq hphase hcontent hn, hanswer]
  have hside : r.side = some .closing := (Record.side_eq_closing_iff rfl).2 rfl
  refine ⟨_, feedAll_singleton_eq_ok.2 ⟨line, parse_endLine number, hfeed⟩, ?_⟩
  exact Nesting.unmatched_append_closing hside

/-- As many ends as there are collections open can be read behind the lines of a source. Each
closes the innermost collection that is left. -/
theorem feedAll_endLines {tables : Tables} {lines : List String} {s : Session} {k : Nat}
    (h : (start tables).feedAll 1 lines = (s, .ok ())) (hk : k ≤ s.opened.length)
    (hn : Numeral.printable (lines.length + k : Nat) = true) :
    ∃ s', (start tables).feedAll 1 (lines ++ List.replicate k endLine) = (s', .ok ()) ∧
      s'.opened = s.opened.take (s.opened.length - k) := by
  induction k with
  | zero =>
      exact ⟨s, by simpa using h, by simp⟩
  | succ k ih =>
      rcases ih (by omega) (printable_of_le (by omega) hn) with ⟨s₁, hrun, hopened⟩
      have htracks : s₁.Tracks := (tracks_start tables).feedAll hrun
      have hphase : s₁.phase = .scanning := (follows_of_feedAll hrun).2.phase
      have hne : s₁.opened ≠ [] := by
        intro hnil
        have hlength := congrArg List.length hopened
        rw [hnil, List.length_nil, List.length_take] at hlength
        omega
      -- The number of the new line counts the lines and the ends before it.
      have hnumber : Numeral.printable (1 + (lines ++ List.replicate k endLine).length) = true := by
        rw [List.length_append, List.length_replicate]
        have hcast : (1 : Int) + (lines.length + k : Nat) = (lines.length + (k + 1) : Nat) := by
          omega
        rw [hcast]
        exact hn
      rcases htracks.feedAll_endLine hphase hne hnumber with ⟨s₂, hlast, hdrop⟩
      refine ⟨s₂, ?_, ?_⟩
      · rw [List.replicate_succ', ← List.append_assoc, feedAll_append, hrun]
        exact hlast
      · calc
          s₂.opened = s₁.opened.dropLast := hdrop
          _ = (s.opened.take (s.opened.length - k)).dropLast := by rw [hopened]
          _ = s.opened.take (s.opened.length - (k + 1)) := by
              have hmin : min (min (s.opened.length - k) s.opened.length - 1)
                  (s.opened.length - k) = s.opened.length - (k + 1) := by
                omega
              rw [List.dropLast_eq_take, List.take_take, List.length_take, hmin]

/-- Every open collection has one argument, so the arguments are those of the first collections. -/
theorem Tracks.flatMap_take {s : Session} (h : s.Tracks) (k : Nat) :
    (s.opened.take k).flatMap (·.args) = (s.opened.flatMap (·.args)).take k := by
  rw [h.flatMap_args fun _ hr => List.mem_of_mem_take hr, h.flatMap_args fun _ hr => hr,
    List.map_take]

end Session

/-! ## What a compile error says -/

namespace Diagnostic

/-- The error is the one of the line with index `i`. -/
structure Blames (d : Diagnostic) (tables : Tables) (lines : List String) (i : Nat) : Prop where
  /-- The line is quoted without the line ends behind it. -/
  quoted : ∃ text line, lines[i]? = some text ∧ d.line = some line ∧ SourceLine.Stripped text line
  /-- All lines before it are read without a fault. -/
  before : ∃ s, (Session.start tables).feedAll 1 (lines.take i) = (s, .ok ())
  /-- Whatever follows the line, the error is the same. -/
  decided : ∀ rest, compileLines tables (lines.take (i + 1) ++ rest) = .error (.compile d)

/-- The error is that collections of the given kinds are left open, the outermost first. -/
structure LacksEnds (d : Diagnostic) (tables : Tables) (lines : List String)
    (kinds : List String) : Prop where
  structural : d.kind = .structural
  cause : d = .ofCause (.unterminated kinds)
  /-- All lines are read without a fault. -/
  read : ∃ s, (Session.start tables).feedAll 1 lines = (s, .ok ())
  /-- So many more collections start than end. -/
  count : 1 ≤ kinds.length ∧
    callCount "collection" lines = callCount "end_collection" lines + kinds.length
  /-- With an end for each of them the source compiles. With fewer ends the outermost ones are
  still open. The number of lines has to be short enough to be written. -/
  repair : Numeral.printable (lines.length + kinds.length : Nat) = true →
    (∃ result, compileLines tables (lines ++ List.replicate kinds.length endLine) = .ok result) ∧
    ∀ k, k < kinds.length → compileLines tables (lines ++ List.replicate k endLine) =
      .error (.compile (.ofCause (.unterminated (kinds.take (kinds.length - k)))))

end Diagnostic

/-- The error of a line that ends the reading of lines is the error of this line. -/
theorem blames_of_feedAll {tables : Tables} {lines : List String} {s : Session} {d : Diagnostic}
    (h : (Session.start tables).feedAll 1 lines = (s, .error (.compile d))) :
    ∃ i : Nat, d.number = some ((i : Int) + 1) ∧ i < lines.length ∧ d.Blames tables lines i := by
  rcases Session.feedAll_eq_error h with ⟨before, text, after, s₀, rfl, hbefore, hline⟩
  have hfollows := (Session.follows_of_feedAll hbefore).2
  rcases Session.located_of_feedAll hfollows.phase hfollows.globals hline with
    ⟨hnumber, line, hquoted, hstripped⟩
  have htake : (before ++ text :: after).take (before.length + 1) = before ++ [text] := by
    rw [List.take_length_add_append]
    rfl
  refine ⟨before.length, ?_, by simp, ?_, ?_, ?_⟩
  · rw [hnumber, Int.add_comm]
  · exact ⟨text, line, by simp, hquoted, hstripped⟩
  · rw [List.take_left]
    exact ⟨s₀, hbefore⟩
  · -- What stands behind the line is not read.
    intro rest
    have hrun : (Session.start tables).feedAll 1 (before ++ text :: rest) =
        (s, .error (.compile d)) := by
      rw [Session.feedAll_append, hbefore]
      exact Session.feedAll_cons_of_error hline rest
    rw [htake, List.append_assoc, List.singleton_append]
    exact compileLines_of_feedAll_error hrun

/-- The error of a source whose lines are all read is that of the collections left open. -/
theorem lacksEnds_of_feedAll {tables : Tables} {lines : List String} {s : Session}
    (h : (Session.start tables).feedAll 1 lines = (s, .ok ())) (hopened : s.opened ≠ []) :
    (Diagnostic.ofCause (.unterminated (s.opened.flatMap (·.args)))).LacksEnds tables lines
      (s.opened.flatMap (·.args)) := by
  have htracks : s.Tracks := (Session.tracks_start tables).feedAll h
  have hlength := htracks.length_kinds
  have hpos : 1 ≤ s.opened.length := List.length_pos_iff.2 hopened
  refine ⟨rfl, rfl, ⟨s, h⟩, ⟨by omega, ?_⟩, ?_⟩
  · have hdepth := (Session.follows_of_feedAll h).2.depth
    have hscopes := congrArg List.length htracks.reverse_scopes
    rw [List.length_reverse, List.length_map] at hscopes
    omega
  · -- With `k` ends behind the lines, the last `k` collections are closed and the others stay.
    rw [hlength]
    intro short
    refine ⟨?_, ?_⟩
    · rcases Session.feedAll_endLines h (Nat.le_refl _) short with ⟨s', hrun, hclosed⟩
      have hnil : s'.opened = [] := by
        rw [hclosed, Nat.sub_self, List.take_zero]
      exact ⟨_, (compileLines_of_feedAll_ok hrun).trans (if_pos hnil)⟩
    · intro k hk
      have hn : Numeral.printable (lines.length + k : Nat) = true :=
        Session.printable_of_le (by omega) short
      rcases Session.feedAll_endLines h (Nat.le_of_lt hk) hn with ⟨s', hrun, hleft⟩
      have hne : s'.opened ≠ [] := by
        intro hnil
        have hcount := congrArg List.length hleft
        rw [hnil, List.length_nil, List.length_take] at hcount
        omega
      rw [compileLines_of_feedAll_ok hrun, if_neg hne, hleft, htracks.flatMap_take]

/-- Every compile error of a source is found at its first rejected line or at its end.

An error with a line number is that of the line with this number: the lines before are read without
a fault, the line is quoted as it is, and no line behind it changes the error. An error without a
line number is about collections left open: all lines are read, and as many ends as collections are
open, but no fewer, make the source compile. -/
theorem compileLines_diagnosis (tables : Tables) (lines : List String) (d : Diagnostic)
    (h : compileLines tables lines = .error (.compile d)) :
    (∀ n, d.number = some n →
      ∃ i : Nat, n = (i : Int) + 1 ∧ i < lines.length ∧ d.Blames tables lines i) ∧
    (d.number = none → ∃ kinds, d.LacksEnds tables lines kinds) := by
  rcases hrun : (Session.start tables).feedAll 1 lines with ⟨s, result⟩
  cases result with
  | error fault =>
      have hfault : fault = .compile d :=
        Except.error.inj ((compileLines_of_feedAll_error hrun).symm.trans h)
      rw [hfault] at hrun
      rcases blames_of_feedAll hrun with ⟨i, hnumber, hlt, hblames⟩
      refine ⟨?_, ?_⟩
      · intro n hn
        exact ⟨i, Option.some.inj (hn.symm.trans hnumber), hlt, hblames⟩
      · intro hnone
        rw [hnone] at hnumber
        cases hnumber
  | ok _ =>
      rw [compileLines_of_feedAll_ok hrun] at h
      split at h
      · cases h
      next hopened =>
        cases h
        refine ⟨?_, ?_⟩
        · intro n hn
          cases hn
        · intro _
          exact ⟨_, lacksEnds_of_feedAll hrun hopened⟩

/-- A line with an unknown function and a carriage return behind it, and two collections left
open. -/
theorem compileLines_diagnosis_both :
    ∃ (tables : Tables) (bad left : List String) (d e : Diagnostic),
      compileLines tables bad = .error (.compile d) ∧ d.number = some 2 ∧
      d.Blames tables bad 1 ∧ d.line = some "  Nope(1)" ∧
      compileLines tables left = .error (.compile e) ∧ e.number = none ∧
      e.LacksEnds tables left ["application", "0x2"] := by
  let tables : Tables := ⟨.empty, .empty, .ofList [("application", 1)], .empty⟩
  let bad : List String := ["Collection(Application)", "  Nope(1)\r\n", "End_Collection()"]
  let left : List String := ["Collection(Application)", "# inner", "Collection(0x2)"]
  let d : Diagnostic := ⟨.unknownFunction "nope" 2, some 2, some "  Nope(1)"⟩
  let e : Diagnostic := .ofCause (.unterminated ["application", "0x2"])
  have hbad : compileLines tables bad = .error (.compile d) := by
    decide +kernel
  have hleft : compileLines tables left = .error (.compile e) := by
    decide +kernel
  rcases (compileLines_diagnosis tables bad d hbad).1 2 rfl with ⟨i, hi, _, hblames⟩
  rcases (compileLines_diagnosis tables left e hleft).2 rfl with ⟨kinds, hlacks⟩
  obtain rfl : i = 1 := by omega
  have hkinds : ["application", "0x2"] = kinds := by
    have hcause := congrArg Diagnostic.cause hlacks.cause
    exact Cause.unterminated.inj hcause
  rw [← hkinds] at hlacks
  exact ⟨tables, bad, left, d, e, hbad, rfl, hblames, rfl, hleft, rfl, hlacks⟩

end HidDescriptor
