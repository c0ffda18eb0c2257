import HidDescriptor.Proofs.Trimming
import HidDescriptor.Session
import HidDescriptor.Table.Standard

/-!
# Line ends

A source is read alike from a text and from a file, whatever ends its lines.

- `Text.PlainBreaks`: texts whose lines end in line feeds, some of them behind a carriage return
- `SourceLine.stem`: a line without the line ends behind it
- `Text.stem_splitAfterFeed_unifyBreaks`, `Text.stem_splitAfterFeed`: both ways to cut a text leave
  the same lines, up to their ends
- `Session.feedAll_congr`, `compileLines_congr`: the ends of lines are never looked at
- `compileText_eq_compileFile`: so a text and a file give the same result
-/

namespace HidDescriptor

namespace SourceLine

/-- What is left of a line when the line feeds and carriage returns behind it are cut off. -/
def stem (cs : List Char) : List Char :=
  Text.dropEndWhile isLineEnd cs

theorem stem_cons {c : Char} (h : isLineEnd c = false) (cs : List Char) :
    stem (c :: cs) = c :: stem cs :=
  Text.dropEndWhile_append_cons [] h cs

/-- A character that ends no line joins the first line, whether or not line ends are cut off. -/
theorem map_stem_consToHead {c : Char} (h : isLineEnd c = false) (lines : List (List Char)) :
    (Text.consToHead c lines).map stem = Text.consToHead c (lines.map stem) := by
  cases lines with
  | nil =>
      have hc : stem [c] = [c] := stem_cons h []
      rw [Text.consToHead, List.map_singleton, hc]
      rfl
  | cons line rest =>
      simp only [Text.consToHead, List.map_cons, stem_cons h]

end SourceLine

/-! ## Lines of a text -/

namespace Text

open SourceLine

theorem isLineEnd_of_endsLine {c : Char} (h : endsLine c = false) : isLineEnd c = false := by
  rw [Bool.eq_false_iff] at h ⊢
  intro hend
  apply h
  simp only [isLineEnd, Bool.or_eq_true, decide_eq_true_eq] at hend
  rcases hend with rfl | rfl
  · decide
  · decide

theorem ne_feed_of_endsLine {c : Char} (h : endsLine c = false) : c ≠ '\n' := by
  rintro rfl
  revert h
  decide

/-- Texts in which the characters that end lines occur only as a line feed, or as a carriage return
with its line feed. -/
inductive PlainBreaks : List Char → Prop
  | nil : PlainBreaks []
  | feed {rest : List Char} (h : PlainBreaks rest) : PlainBreaks ('\n' :: rest)
  | pair {rest : List Char} (h : PlainBreaks rest) : PlainBreaks ('\r' :: '\n' :: rest)
  | other {c : Char} {rest : List Char} (hc : endsLine c = false) (h : PlainBreaks rest) :
      PlainBreaks (c :: rest)

theorem splitLines_feed (rest : List Char) : splitLines ('\n' :: rest) = [] :: splitLines rest := by
  rfl

theorem splitLines_pair (rest : List Char) :
    splitLines ('\r' :: '\n' :: rest) = [] :: splitLines rest := by
  rfl

theorem splitLines_other {c : Char} (h : endsLine c = false) (rest : List Char) :
    splitLines (c :: rest) = consToHead c (splitLines rest) := by
  have hreturn : c ≠ '\r' := by
    rintro rfl
    revert h
    decide
  rw [splitLines, if_neg (by simp [h])]
  intro _ hc _
  exact hreturn hc

/-- The lines of a text have no line ends. -/
theorem stem_splitLines (cs : List Char) : (splitLines cs).map stem = splitLines cs := by
  fun_induction splitLines cs with
  | case1 =>
      rfl
  | case2 rest ih =>
      rw [List.map_cons, ih]
      rfl
  | case3 c rest _ hc ih =>
      rw [List.map_cons, ih]
      rfl
  | case4 c rest _ hc ih =>
      have hend : endsLine c = false := Bool.eq_false_iff.2 hc
      rw [map_stem_consToHead (isLineEnd_of_endsLine hend), ih]

/-- With one line feed for each line boundary, cutting behind the feeds leaves the same lines. -/
theorem stem_splitAfterFeed_unifyBreaks (cs : List Char) :
    (splitAfterFeed (unifyBreaks cs)).map stem = splitLines cs := by
  fun_induction splitLines cs with
  | case1 =>
      rfl
  | case2 rest ih =>
      -- The pair is one line feed, which is a line of its own here.
      have hfeed : splitAfterFeed (unifyBreaks ('\r' :: '\n' :: rest)) =
          ['\n'] :: splitAfterFeed (unifyBreaks rest) := by
        rfl
      rw [hfeed, List.map_cons, ih]
      rfl
  | case3 c rest hpair hc ih =>
      have hfeed : splitAfterFeed (unifyBreaks (c :: rest)) =
          ['\n'] :: splitAfterFeed (unifyBreaks rest) := by
        rw [unifyBreaks, if_pos hc]
        · rfl
        · exact hpair
      rw [hfeed, List.map_cons, ih]
      rfl
  | case4 c rest hpair hc ih =>
      have hend : endsLine c = false := Bool.eq_false_iff.2 hc
      have hkeep : splitAfterFeed (unifyBreaks (c :: rest)) =
          consToHead c (splitAfterFeed (unifyBreaks rest)) := by
        rw [unifyBreaks, if_neg hc, splitAfterFeed, if_neg (ne_feed_of_endsLine hend)]
        exact hpair
      rw [hkeep, map_stem_consToHead (isLineEnd_of_endsLine hend), ih]

/-- Where lines end in line feeds only, these need not be rewritten: a carriage return in front of
one is part of the line end behind the line. -/
theorem stem_splitAfterFeed {cs : List Char} (h : PlainBreaks cs) :
    (splitAfterFeed cs).map stem = splitLines cs := by
  induction h with
  | nil =>
      rfl
  | @feed rest _ ih =>
      have hfeed : splitAfterFeed ('\n' :: rest) = ['\n'] :: splitAfterFeed rest := by
        rfl
      rw [hfeed, splitLines_feed, List.map_cons, ih]
      rfl
  | @pair rest _ ih =>
      have hpair : splitAfterFeed ('\r' :: '\n' :: rest) = ['\r', '\n'] :: splitAfterFeed rest := by
        rfl
      rw [hpair, splitLines_pair, List.map_cons, ih]
      rfl
  | @other c rest hc _ ih =>
      rw [splitAfterFeed, if_neg (ne_feed_of_endsLine hc),
        map_stem_consToHead (isLineEnd_of_endsLine hc), splitLines_other hc, ih]

end Text

/-! ## Reading -/

/-- A line is read without the line ends behind it. -/
theorem SourceLine.parse_congr {text text' : String} (number : Int)
    (h : stem text.toList = stem text'.toList) : parse text number = parse text' number := by
  rw [stem, stem] at h
  unfold parse
  rw [h]

/-- Lines that differ only in the line ends behind them are read alike. -/
theorem Session.feedAll_congr {lines lines' : List (List Char)}
    (h : lines.map SourceLine.stem = lines'.map SourceLine.stem) (s : Session) (number : Int) :
    s.feedAll number (lines.map String.ofList) = s.feedAll number (lines'.map String.ofList) := by
  induction lines generalizing lines' s number with
  | nil =>
      have hnil : lines' = [] := List.map_eq_nil_iff.1 h.symm
      rw [hnil]
  | cons line rest ih =>
      cases lines' with
      | nil =>
          cases h
      | cons line' rest' =>
          rcases List.cons.inj h with ⟨hline, hrest⟩
          have hparse : SourceLine.parse (String.ofList line) number =
              SourceLine.parse (String.ofList line') number := by
            apply SourceLine.parse_congr
            rw [String.toList_ofList, String.toList_ofList]
            exact hline
          rw [List.map_cons, List.map_cons, feedAll, feedAll, hparse]
          cases SourceLine.parse (String.ofList line') number with
          | error fault =>
              rfl
          | ok read =>
              rcases hfeed : s.feed read with ⟨s', result⟩
              cases result with
              | error fault =>
                  simp only [hfeed]
              | ok _ =>
                  simp only [hfeed]
                  exact ih hrest s' (number + 1)

theorem compileLines_congr {lines lines' : List (List Char)}
    (h : lines.map SourceLine.stem = lines'.map SourceLine.stem) (tables : Tables) :
    compileLines tables (lines.map String.ofList) =
      compileLines tables (lines'.map String.ofList) := by
  unfold compileLines
  rw [Session.feedAll_congr h]

/-- A text and the file that has one line feed for each of its line boundaries compile to the same
descriptor, or fail with the same fault at the same line. A text whose lines end in line feeds, with
or without a carriage return, need not even be rewritten for this. -/
theorem compileText_eq_compileFile (tables : Tables) (text : String) :
    compileText tables text =
        compileFile tables (String.ofList (Text.unifyBreaks text.toList)) ∧
      (Text.PlainBreaks text.toList → compileText tables text = compileFile tables text) := by
  have hstem := Text.stem_splitLines text.toList
  refine ⟨?_, ?_⟩
  · have hlines := Text.stem_splitAfterFeed_unifyBreaks text.toList
    unfold compileText compileFile
    rw [String.toList_ofList]
    exact compileLines_congr (hstem.trans hlines.symm) tables
  · intro hplain
    have hlines := Text.stem_splitAfterFeed hplain
    exact compileLines_congr (hstem.trans hlines.symm) tables

/-- Behind a comment and an empty line, both ways to read find the fault in the third line. -/
theorem compileText_eq_compileFile_third :
    Text.PlainBreaks "#\r\n\n(".toList ∧
      compileText .standard "#\r\n\n(" = compileFile .standard "#\r\n\n(" ∧
      compileText .standard "#\r\n\n(" =
        .error (.compile ⟨.notACall, some 3, some "("⟩) := by
  have hplain : Text.PlainBreaks "#\r\n\n(".toList :=
    .other (by decide) (.pair (.feed (.other (by decide) .nil)))
  exact ⟨hplain, (compileText_eq_compileFile .standard "#\r\n\n(").2 hplain, by decide +kernel⟩

end HidDescriptor
