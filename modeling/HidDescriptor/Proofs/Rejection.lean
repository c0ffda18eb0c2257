import HidDescriptor.CommandLine.Run
import HidDescriptor.Proofs.LineLocal
import HidDescriptor.Proofs.Limits
import HidDescriptor.Proofs.NormalCalls
import HidDescriptor.TableFile.Document

/-!
# Rejected sources

A source that does not compile is rejected with a compile error, unless it comes to a call with an
integer beyond the limits of notation.

- `Call.Oversized`, `OversizedSource`: such calls, and the sources that come to one
- `Session.oversteps_feed`, `Session.feed_not_failed_iff`: the fault of a line, and the phase after it
- `Session.oversteps_feedAll`, `oversteps_compileLines`: lines one after the other
- `CommandLine.Reads`, `CommandLine.ending_run_iff`: runs on a source that does not compile
- `oversizedSource_numeralLine`: one long numeral is enough
- `compileLines_rejects_iff`: the exact condition
-/

namespace HidDescriptor

/-- A call of a function that exceeds a limit. -/
def Call.Oversized (c : Call) (page : Option String) (tables : Tables) : Prop :=
  ∃ f, Function.ofName? c.name = some f ∧ f.Oversized page tables c.args

/-- The sources with a line whose call exceeds a limit and before which all lines can be read. -/
def OversizedSource (tables : Tables) (lines : List String) : Prop :=
  ∃ before text after c, lines = before ++ text :: after ∧ Readable tables before ∧
    SourceLine.callOf? text = some c ∧ c.Oversized (pageBefore before) tables

theorem not_oversizedSource_nil (tables : Tables) : ¬ OversizedSource tables [] := by
  rintro ⟨before, text, after, c, hlines, _⟩
  simp at hlines

theorem oversizedSource_append_iff {tables : Tables} {lines : List String} {text : String} :
    OversizedSource tables (lines ++ [text]) ↔
      OversizedSource tables lines ∨ (Readable tables lines ∧
        ∃ c, SourceLine.callOf? text = some c ∧ c.Oversized (pageBefore lines) tables) := by
  constructor
  · rintro ⟨before, line, after, c, hlines, hreadable, hc, hover⟩
    -- The oversized line is the last one, or the last one plays no part.
    rcases List.eq_nil_or_concat after with rfl | ⟨rest, last, rfl⟩
    · rcases List.append_inj' hlines rfl with ⟨rfl, hline⟩
      cases hline
      exact Or.inr ⟨hreadable, c, hc, hover⟩
    · rw [List.concat_eq_append, ← List.cons_append, ← List.append_assoc] at hlines
      rcases List.append_inj' hlines rfl with ⟨rfl, _⟩
      exact Or.inl ⟨before, line, rest, c, rfl, hreadable, hc, hover⟩
  · rintro (⟨before, line, after, c, rfl, hreadable, hc, hover⟩ | ⟨hreadable, c, hc, hover⟩)
    · exact ⟨before, line, after ++ [text], c, by simp, hreadable, hc, hover⟩
    · exact ⟨lines, text, [], c, rfl, hreadable, hc, hover⟩

/-! ## Lines -/

namespace Oversteps

theorem mapM {α β : Type} {f : α → Except Fault β} (hf : ∀ x, Oversteps (f x) False)
    (xs : List α) : Oversteps (xs.mapM f) False := by
  induction xs with
  | nil =>
      exact .ok []
  | cons x rest ih =>
      rw [List.mapM_cons]
      have hrest (y : β) : Oversteps (rest.mapM f >>= fun ys => pure (y :: ys)) False :=
        (ih.bind fun ys _ => .ok (y :: ys)).congr (by simp)
      exact ((hf x).bind fun y _ => hrest y).congr (by simp)

/-- The place of a fault does not change what kind of fault it is. -/
theorem locate {α β : Type} {fault : Fault} {P : Prop} {number : Int} {line : String}
    (h : Oversteps (.error fault : Except Fault α) P) :
    Oversteps (.error (fault.locate number line) : Except Fault β) P := by
  have honly : (fault.locate number line).IsCompile ∨ (fault.locate number line).IsLimit := by
    rw [Fault.isCompile_locate, Fault.isLimit_locate]
    exact h.only fault rfl
  refine (error honly).congr ?_
  rw [Fault.isLimit_locate, h.isLimit_iff]

end Oversteps

namespace SourceLine

theorem oversteps_contentOf (cs : List Char) : Oversteps (contentOf cs) False := by
  have hargument (piece : List Char) : Oversteps (Call.argument piece) False := by
    unfold Call.argument
    simp only
    split
    · exact .plainCause rfl
    · exact .ok _
  have harguments (body : List Char) : Oversteps (Call.arguments body) False := by
    unfold Call.arguments
    split
    · exact .ok _
    · exact .mapM hargument _
  unfold contentOf
  split
  · exact .ok _
  · split
    · exact .ok _
    · split
      · exact .plainCause rfl
      next body _ =>
        exact ((harguments body).bind fun _ _ => .ok _).congr (by simp)

theorem oversteps_parse (text : String) (number : Int) : Oversteps (parse text number) False := by
  unfold parse
  simp only
  have hcontent := oversteps_contentOf (Text.dropEndWhile isLineEnd text.toList)
  split
  · exact .ok _
  next fault hfault =>
    rw [hfault] at hcontent
    exact hcontent.locate

theorem callOf?_of_parse_eq_error {text : String} {number : Int} {fault : Fault}
    (h : parse text number = .error fault) : callOf? text = none := by
  unfold parse at h
  unfold callOf? parse
  simp only at h ⊢
  split at h
  · cases h
  · rfl

end SourceLine

theorem ItemState.oversteps_answer {state : ItemState} {page : Option String} {number : Int}
    (tables : Tables) (c : Call) (hpage : state.globals = pageGlobals page)
    (hn : Numeral.printable number = true) :
    Oversteps (state.answer tables c number) (c.Oversized page tables) := by
  unfold answer Call.Oversized
  cases hf : Function.ofName? c.name with
  | none =>
      exact (Oversteps.ofCause _).congr (by simp [Cause.integers, hn])
  | some f =>
      have hadvance (outcome : Outcome) : Oversteps
          (f.advance c.args state >>= fun state' =>
            (.ok (state', ⟨f.item, outcome.payload, c.args, number⟩) :
              Except Fault (ItemState × Record))) False :=
        ((f.oversteps_advance c.args state).bind fun _ _ => .ok _).congr (by simp)
      refine ((f.oversteps_call tables c.args hpage).bind fun outcome _ => hadvance outcome).congr ?_
      simp

/-! ## Sessions -/

namespace Session

theorem oversteps_feed {s : Session} {page : Option String} {line : SourceLine}
    (hphase : s.phase = .scanning) (hpage : s.state.globals = ItemState.pageGlobals page)
    (hn : Numeral.printable line.number = true) :
    Oversteps (s.feed line).2 (∃ c, line.content = .call c ∧ c.Oversized page s.tables) := by
  rcases s.feed_cases hn with ⟨hclosed, _⟩ | ⟨_, hsilent, hfeed⟩ |
    ⟨_, c, hc, ⟨state, r, hresult, hfeed⟩ | ⟨fault, hresult, hfeed⟩⟩
  · exact absurd hphase hclosed
  · rw [hfeed]
    exact (Oversteps.ok ()).congr (by simp [hsilent])
  · have hanswer := ItemState.oversteps_answer s.tables c hpage hn
    rw [hresult] at hanswer
    rw [hfeed]
    exact (Oversteps.ok ()).congr (by simp [hc, hanswer.not_of_ok])
  · have hanswer := ItemState.oversteps_answer s.tables c hpage hn
    rw [hresult] at hanswer
    rw [hfeed, stop_snd]
    exact hanswer.locate.congr (by simp [hc])

/-- A faulty line makes the session fail if its fault is a compile error. -/
theorem feed_eq_error {s : Session} {line : SourceLine} {fault : Fault}
    (hphase : s.phase = .scanning) (hn : Numeral.printable line.number = true)
    (h : (s.feed line).2 = .error fault) :
    (fault.IsCompile → (s.feed line).1 = { s with phase := .failed }) ∧
      (¬ fault.IsCompile → (s.feed line).1 = s) := by
  rcases s.feed_cases hn with ⟨hclosed, _⟩ | ⟨_, _, hfeed⟩ |
    ⟨_, c, _, ⟨state, r, _, hfeed⟩ | ⟨cause, _, hfeed⟩⟩
  · exact absurd hphase hclosed
  · rw [hfeed] at h
    cases h
  · rw [hfeed] at h
    cases h
  · rw [hfeed, stop_snd] at h
    rw [hfeed, ← Except.error.inj h]
    exact s.stop_fst _

/-- From a session that reads lines, a faulty line leads to one that has not failed if and only if
its call exceeds a limit. -/
theorem feed_not_failed_iff {s : Session} {page : Option String} {line : SourceLine}
    (hphase : s.phase = .scanning) (hpage : s.state.globals = ItemState.pageGlobals page)
    (hn : Numeral.printable line.number = true) :
    ((∃ fault, (s.feed line).2 = .error fault) ∧ (s.feed line).1.phase ≠ .failed) ↔
      ∃ c, line.content = .call c ∧ c.Oversized page s.tables := by
  have hfeed := oversteps_feed hphase hpage hn
  rw [← hfeed.iff]
  constructor
  · rintro ⟨⟨fault, hfault⟩, hne⟩
    rcases hfeed.only fault hfault with hcompile | hlimit
    · have hfailed := (feed_eq_error hphase hn hfault).1 hcompile
      exact absurd (by rw [hfailed]) hne
    · exact ⟨fault, hfault, hlimit⟩
  · rintro ⟨fault, hfault, hlimit⟩
    have hnot : ¬ fault.IsCompile := fun hcompile =>
      Fault.not_isLimit_of_isCompile hcompile hlimit
    refine ⟨⟨fault, hfault⟩, ?_⟩
    rw [(feed_eq_error hphase hn hfault).2 hnot, hphase]
    decide

/-- Lines one after the other exceed a limit at the first call that does, if no line before it is
rejected. -/
theorem oversteps_feedAll (tables : Tables) {lines : List String}
    (short : Numeral.printable lines.length = true) :
    Oversteps ((start tables).feedAll 1 lines).2 (OversizedSource tables lines) := by
  induction lines using List.reverseRecOn with
  | nil =>
      refine (Oversteps.ok ()).congr ?_
      simp [not_oversizedSource_nil]
  | append_singleton lines text ih =>
      rw [List.length_append, List.length_singleton] at short
      have hshort : Numeral.printable lines.length = true := printable_of_le (by omega) short
      have hbefore := ih hshort
      rw [feedAll_append]
      rcases hrun : (start tables).feedAll 1 lines with ⟨s, result⟩
      rw [hrun] at hbefore
      cases result with
      | error fault =>
          -- The last line is not reached, and indeed the lines before it are not readable.
          have hnot : ¬ Readable tables lines := by
            intro hreadable
            rcases exists_feedAll_of_readable hshort hreadable with ⟨s', hrun'⟩
            rw [hrun] at hrun'
            cases hrun'
          exact hbefore.congr (by simp [oversizedSource_append_iff, hnot])
      | ok _ =>
          -- All lines before are readable and none is oversized: the last line decides.
          rcases follows_of_feedAll hrun with ⟨hreadable, hfollows⟩
          have hnot : ¬ OversizedSource tables lines := hbefore.not_of_ok
          suffices hlast : Oversteps (s.feedAll (1 + lines.length) [text]).2
              (∃ c, SourceLine.callOf? text = some c ∧ c.Oversized (pageBefore lines) tables) by
            exact hlast.congr (by simp [oversizedSource_append_iff, hnot, hreadable])
          rw [feedAll]
          cases hparse : SourceLine.parse text (1 + lines.length) with
          | error fault =>
              have hfault := SourceLine.oversteps_parse text (1 + lines.length)
              rw [hparse] at hfault
              exact hfault.pass.congr (by simp [SourceLine.callOf?_of_parse_eq_error hparse])
          | ok line =>
              rcases SourceLine.parse_eq_ok hparse with ⟨hnumber, hcontent⟩
              have hn : Numeral.printable line.number = true := by
                rw [hnumber, Int.add_comm]
                exact short
              have hfeed := oversteps_feed hfollows.phase hfollows.globals hn
              simp only [hcontent, hfollows.sameTables] at hfeed
              rcases hstep : s.feed line with ⟨s', outcome⟩
              rw [hstep] at hfeed
              simp only [hstep]
              cases outcome with
              | error fault =>
                  exact hfeed
              | ok _ =>
                  exact hfeed

theorem oversteps_finish {s : Session} (h : s.Tracks) (hphase : s.phase = .scanning) :
    Oversteps s.finish.2 False := by
  unfold finish
  rw [hphase, h.checkClosed_eq]
  by_cases hopened : s.opened = []
  · rw [if_pos hopened]
    exact .ok _
  · rw [if_neg hopened]
    exact .error (Or.inl trivial)

end Session

theorem oversteps_compileLines (tables : Tables) {lines : List String}
    (short : Numeral.printable lines.length = true) :
    Oversteps (compileLines tables lines) (OversizedSource tables lines) := by
  have hfeed := Session.oversteps_feedAll tables short
  unfold compileLines
  rcases hrun : (Session.start tables).feedAll 1 lines with ⟨s, result⟩
  rw [hrun] at hfeed
  cases result with
  | error fault =>
      exact hfeed.pass
  | ok _ =>
      have hnot : ¬ OversizedSource tables lines := hfeed.not_of_ok
      rcases Session.follows_of_feedAll hrun with ⟨_, hfollows⟩
      have htracks := (Session.tracks_start tables).feedAll hrun
      exact (Session.oversteps_finish htracks hfollows.phase).congr (by simp [hnot])

/-! ## Runs of the command line -/

namespace CommandLine

variable {read : Table.Reader} {inv : Invocation} {options : Options} {tables : Tables}
  {lines : List String} {readFault : Option String}

/-- A compile error ends a run with the status of failure, and a limit does not. -/
theorem ending_stop_iff {α : Type} {fault : Fault} {P : Prop}
    (h : Oversteps (.error fault : Except Fault α) P) (w : World) (options : Options) :
    (w.stop options fault).ending = .status failure ↔ ¬ P := by
  rcases h.only fault rfl with hcompile | hlimit
  · rcases Fault.eq_compile_of_isCompile hcompile with ⟨diagnostic, rfl⟩
    exact ⟨fun _ => h.isCompile_iff.1 hcompile, fun _ => rfl⟩
  · refine ⟨fun hending => ?_, fun hnot => absurd (h.isLimit_iff.1 hlimit) hnot⟩
    cases fault with
    | longNumeral digits =>
        cases hending
    | longInteger =>
        cases hending
    | _ =>
        exact absurd hlimit id

/-- A source that cannot be decoded or does not compile stops the run with the status of failure,
unless it comes to a call that exceeds a limit. -/
theorem compileInput_eq_error (w : World) (options : Options)
    (short : Numeral.printable lines.length = true)
    (hbad : readFault.isSome = true ∨ ∃ fault, compileLines tables lines = .error fault) :
    ∃ w' fault, compileInput w tables lines readFault = (w', .error fault) ∧
      ((w'.stop options fault).ending = .status failure ↔ ¬ OversizedSource tables lines) := by
  have hfeed := Session.oversteps_feedAll tables short
  have hcompile := oversteps_compileLines tables short
  unfold compileInput
  unfold compileLines at hbad hcompile
  rcases hrun : (Session.start tables).feedAll 1 lines with ⟨s, result⟩
  rw [hrun] at hfeed
  simp only [hrun] at hbad hcompile ⊢
  cases result with
  | error fault =>
      exact ⟨_, fault, rfl, ending_stop_iff hfeed _ options⟩
  | ok _ =>
      cases readFault with
      | some message =>
          -- The fault is reported, and it is met because no line in front of it was rejected.
          exact ⟨_, .undecodable message, rfl, fun _ => hfeed.not_of_ok, fun _ => rfl⟩
      | none =>
          rcases hbad with hsome | ⟨fault, hfault⟩
          · cases hsome
          · simp only at hfault hcompile ⊢
            rw [hfault] at hcompile ⊢
            exact ⟨_, fault, rfl, ending_stop_iff hcompile _ options⟩

/-- A run that comes to compile lines: its words are accepted, its log file is opened, its tables are
loaded, and its input is read up to its end or to a fault. -/
def Reads (read : Table.Reader) (inv : Invocation) (tables : Tables) (lines : List String)
    (readFault : Option String) : Prop :=
  ∃ options start w bytes decode, Options.parse inv.argv = .ok options ∧
    prepare inv options = .ok start ∧
    loadTables read start (inv.directories options) = (w, .ok tables) ∧
    inputOf w.files options inv = .ok (bytes, decode) ∧
    inputLines (decode bytes) = (lines, readFault)

theorem ending_run_iff (h : Reads read inv tables lines readFault)
    (short : Numeral.printable lines.length = true)
    (hbad : readFault.isSome = true ∨ ∃ fault, compileLines tables lines = .error fault) :
    (run read inv).ending = .status failure ↔ ¬ OversizedSource tables lines := by
  rcases h with ⟨options, start, w, bytes, decode, hargv, hstart, hload, hinput, hlines⟩
  rcases compileInput_eq_error w options short hbad with ⟨w', fault, hcompile, hending⟩
  have hstop : loadAndCompile read start options inv = (w', .error fault) := by
    unfold loadAndCompile
    simp only [hload, hinput, hlines, hcompile]
  unfold run
  simp only [hargv, hstart, hstop]
  exact hending

end CommandLine

/-! ## Lines with a long numeral -/

def numeralLine (digits : List Char) : String :=
  String.ofList ("logical_minimum(".toList ++ digits ++ [')'])

section Digits

open Numeral

variable {digits : List Char}

theorem callOf?_numeralLine (hne : digits ≠ []) (h : ∀ c ∈ digits, IsDecimal c) :
    SourceLine.callOf? (numeralLine digits) =
      some ⟨"logical_minimum", [String.ofList digits]⟩ := by
  let c : Call := ⟨"logical_minimum", [String.ofList digits]⟩
  -- The line is the plain form of a normal call, and such a form is read as its call.
  have hline : numeralLine digits = c.render := by
    have hargs : (", ".intercalate [String.ofList digits]).toList = digits := by
      rw [String.toList_intercalate, List.map_singleton, String.toList_ofList]
      simp
    have hopen : "logical_minimum(".toList = "logical_minimum".toList ++ "(".toList := by
      decide
    rw [← String.toList_inj]
    calc
      (numeralLine digits).toList = "logical_minimum(".toList ++ digits ++ [')'] :=
          String.toList_ofList
      _ = "logical_minimum".toList ++ "(".toList ++ digits ++ ")".toList := by rw [hopen]; rfl
      _ = c.render.toList := by simp only [c, Call.render, String.toList_append, hargs]
  have hdigits : Call.NormalArgument (String.ofList digits) := by
    refine Call.normalArgument_of_isSmallNameChar ?_ ?_
    · rwa [String.toList_ofList]
    · intro d hd
      rw [String.toList_ofList] at hd
      exact Call.isSmallNameChar_iff.2 (Or.inr (Or.inl (h d hd)))
  have hname : "logical_minimum".toList ≠ [] := by
    decide
  have hchars : "logical_minimum".toList.all Call.isSmallNameChar = true := by
    decide
  have hnormal : c.Normal := by
    refine ⟨hname, List.all_eq_true.1 hchars, ?_⟩
    intro arg harg
    rw [List.mem_singleton.1 harg]
    exact hdigits
  rw [SourceLine.callOf?, hline, SourceLine.parse_render hnormal]

/-- A decimal literal with too many digits is enough to exceed a limit, whatever the tables. -/
theorem oversizedSource_numeralLine (tables : Tables) (h : ∀ c ∈ digits, IsDecimal c)
    (hlimit : digitLimit < digits.length) : OversizedSource tables [numeralLine digits] := by
  have hne : digits ≠ [] := by
    rintro rfl
    exact absurd hlimit (Nat.not_lt_zero _)
  have hlong : Literal.Overlong (String.ofList digits) :=
    ⟨[], digits, [], by simp, Or.inl rfl, Or.inl rfl, h, hlimit⟩
  have hover : Call.Oversized ⟨"logical_minimum", [String.ofList digits]⟩ none tables :=
    ⟨.logicalMinimum, Function.ofName?_name .logicalMinimum, _, rfl, Or.inl hlong⟩
  exact ⟨[], numeralLine digits, [], _, rfl, readable_nil tables, callOf?_numeralLine hne h, hover⟩

end Digits

/-! ## The exact condition -/

/-- A source is compiled or rejected with a compile error if and only if it does not come to a call
that exceeds a limit: a decimal literal too long to read, or a value that fits no item and is too
long to be named in the message. At such a call the compilation ends with a fault that is no
compile error, the session does not fail, and a run does not end with the status of failure. No
call overflows the bytes of its payload.

The number of lines has to be short enough to be written: lists have fewer than `10 ^ 4300`. -/
theorem compileLines_rejects_iff (tables : Tables) (lines : List String)
    (short : Numeral.printable lines.length = true) :
    (((∃ d, compileLines tables lines = .ok d) ∨
        ∃ diagnostic, compileLines tables lines = .error (.compile diagnostic)) ↔
      ¬ OversizedSource tables lines) ∧
    (OversizedSource tables lines →
      ∃ fault, compileLines tables lines = .error fault ∧ fault.IsLimit) ∧
    (∀ commands line, (∀ l, .feed l ∈ commands → Numeral.printable l.number = true) →
      Numeral.printable line.number = true →
      ∀ s, s = (Session.start tables).performAll commands → s.phase = .scanning →
      (((∃ fault, (s.feed line).2 = .error fault) ∧ (s.feed line).1.phase ≠ .failed) ↔
        ∃ c, line.content = .call c ∧ c.Oversized (Record.pageOf s.records) s.tables)) ∧
    (∀ read inv readFault, CommandLine.Reads read inv tables lines readFault →
      (readFault.isSome = true ∨ ∃ fault, compileLines tables lines = .error fault) →
      ((CommandLine.run read inv).ending = .status CommandLine.failure ↔
        ¬ OversizedSource tables lines)) ∧
    (∀ value signed payload, Payload.encode value none signed = .ok payload →
      ∃ bits raw : Int, Payload.toSignMagnitude value bits = .ok raw ∧ 0 ≤ raw ∧
        raw < 256 ^ payload.length ∧ Payload.ofLittleEndian payload = raw) := by
  have hcompile := oversteps_compileLines tables short
  refine ⟨hcompile.not_iff, hcompile.iff.2, ?_, ?_, ?_⟩
  · -- The page in force is known from the records, by the invariant of sessions.
    rintro commands line hcommands hn s rfl hphase
    have htracks := Session.tracks_performAll (Session.tracks_start tables) hcommands
    exact Session.feed_not_failed_iff hphase htracks.state.globals hn
  · intro read inv readFault hreads hbad
    exact CommandLine.ending_run_iff hreads short hbad
  · intro value signed payload hencode
    exact Payload.exists_code_of_encode hencode

/-- A run on a source with an unknown function ends with the status of failure. -/
theorem compileLines_rejects_iff_unknown :
    ∃ (inv : CommandLine.Invocation) (lines : List String),
      Numeral.printable lines.length = true ∧ ¬ OversizedSource .standard lines ∧
      (CommandLine.run TableFile.read inv).ending = .status 2 := by
  let lines : List String := ["Usage_Page(LED)\n", "Nope()\n"]
  let bytes : List UInt8 := Text.Utf8.encode "Usage_Page(LED)\nNope()\n".toList
  let inv : CommandLine.Invocation := ⟨["-"], .empty, bytes, .utf8, none, fun _ => ""⟩
  let options : CommandLine.Options := ⟨"-", none, .binary, [], false, none⟩
  have short : Numeral.printable lines.length = true := by
    decide +kernel
  have hargv : CommandLine.Options.parse inv.argv = .ok options := by
    decide +kernel
  have hlines : CommandLine.inputLines (CommandLine.Decoder.utf8 bytes) = (lines, none) := by
    decide +kernel
  have hfault : compileLines .standard lines = .error (.compile
      ⟨.unknownFunction "nope" 2, some 2, some "Nope()"⟩) := by
    decide +kernel
  have hreads : CommandLine.Reads TableFile.read inv .standard lines none :=
    ⟨options, _, _, bytes, CommandLine.Decoder.utf8, hargv, rfl, rfl, rfl, hlines⟩
  rcases compileLines_rejects_iff .standard lines short with ⟨hiff, _, _, hending, _⟩
  have hnot : ¬ OversizedSource .standard lines := hiff.1 (Or.inr ⟨_, hfault⟩)
  refine ⟨inv, lines, short, hnot, ?_⟩
  exact (hending TableFile.read inv none hreads (Or.inr ⟨_, hfault⟩)).2 hnot

/-- A literal of one digit too many is neither compiled nor rejected. -/
theorem compileLines_numeral_escapes :
    ∃ fault, compileLines .standard [numeralLine (List.replicate 4301 '1')] = .error fault ∧
      ¬ fault.IsCompile := by
  have short : Numeral.printable [numeralLine (List.replicate 4301 '1')].length = true :=
    Numeral.printable_of_lt (by decide)
  have hdigits : ∀ c ∈ List.replicate 4301 '1', Numeral.IsDecimal c := by
    intro c hc
    rw [List.eq_of_mem_replicate hc]
    exact ⟨by decide, by decide⟩
  have hlimit : Numeral.digitLimit < (List.replicate 4301 '1').length := by
    rw [List.length_replicate]
    decide
  rcases (oversteps_compileLines .standard short).iff.2
    (oversizedSource_numeralLine .standard hdigits hlimit) with ⟨fault, hfault, hlimited⟩
  exact ⟨fault, hfault, fun hcompile => Fault.not_isLimit_of_isCompile hcompile hlimited⟩

end HidDescriptor
