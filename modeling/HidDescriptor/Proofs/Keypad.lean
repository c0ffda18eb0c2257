import HidDescriptor.Proofs.Dictionaries
import HidDescriptor.Proofs.Layouts
import HidDescriptor.Proofs.Rejection

/-!
# The keypad page and the keyboard page

The keypad has the usages of the keyboard. Where both pages have one code, a source cannot tell
which of the two it is on.

- `SameEnd`: two computations that end with related values or with the same fault
- `ItemState.Parallel`, `Session.Parallel`: states on pages with the same usages
- `Function.call_parallel`, `ItemState.sameEnd_answer`: one call in two such states
- `Fault.Alike`: faults that differ in the quoted line at most
- `SourceLine.exists_replaceArgument`: a line can be rewritten with another argument
- `Session.Parallel.feedAll`: two sources, line by line
- `compileLines_keypad`: whole sources
-/

namespace HidDescriptor

/-! ## Two computations -/

/-- Two computations end alike: with related values, or with the same fault. -/
inductive SameEnd {α β : Type} (R : α → β → Prop) : Except Fault α → Except Fault β → Prop
  | ok {a : α} {b : β} (h : R a b) : SameEnd R (.ok a) (.ok b)
  | error (fault : Fault) : SameEnd R (.error fault) (.error fault)

namespace SameEnd

variable {α β γ δ : Type} {R : α → β → Prop} {S : γ → δ → Prop}

theorem refl (x : Except Fault α) : SameEnd Eq x x := by
  cases x with
  | ok a =>
      exact .ok rfl
  | error fault =>
      exact .error fault

theorem bind {x : Except Fault α} {y : Except Fault β} {k : α → Except Fault γ}
    {l : β → Except Fault δ} (hxy : SameEnd R x y) (hkl : ∀ a b, R a b → SameEnd S (k a) (l b)) :
    SameEnd S (x >>= k) (y >>= l) := by
  cases hxy with
  | ok h =>
      exact hkl _ _ h
  | error fault =>
      exact .error fault

end SameEnd

/-! ## States on pages with the same usages -/

namespace ItemState

/-- The page whose usages are in force. -/
def usages? (state : ItemState) : Option Datum :=
  (state.current? Function.pageName).map Function.usagesPage

/-- Two states with the same open scopes, on pages with the same usages. -/
structure Parallel (state state' : ItemState) : Prop where
  usages : state.usages? = state'.usages?
  scopes : state.scopes = state'.scopes

theorem Parallel.refl (state : ItemState) : state.Parallel state :=
  ⟨rfl, rfl⟩

theorem usages?_insert (state : ItemState) (page : String) :
    usages? { state with globals := state.globals.insert Function.pageName (.text page) } =
      some (Function.usagesPage (.text page)) := by
  rw [usages?, current?, Dictionary.get?_insert, if_pos rfl]
  rfl

end ItemState

namespace Function

variable {state state' : ItemState}

/-- The usage table is that of the page whose usages are in force. -/
theorem usageTable_parallel (h : state.usages? = state'.usages?) (tables : Tables) (name : String) :
    usageTable state tables name = usageTable state' tables name := by
  unfold ItemState.usages? at h
  unfold usageTable
  cases hpage : state.current? pageName with
  | none =>
      rw [hpage] at h
      rw [Option.map_eq_none_iff.1 h.symm]
  | some page =>
      rw [hpage] at h
      rcases Option.map_eq_some_iff.1 h.symm with ⟨page', hpage', hsame⟩
      rw [hpage']
      simp only [hsame]

theorem call_parallel (f : Function) (h : state.Parallel state') (tables : Tables)
    (args : List String) : f.call state tables args = f.call state' tables args := by
  -- Only the functions for usages read the state, and they read the usage table.
  have husage (name : String) :
      callUsage state tables name args = callUsage state' tables name args := by
    simp only [callUsage, usageTable_parallel h.usages]
  cases f with
  | usage | usageMinimum | usageMaximum =>
      exact husage _
  | _ =>
      rfl

theorem sameEnd_advance (f : Function) (args : List String) (h : state.Parallel state') :
    SameEnd ItemState.Parallel (f.advance args state) (f.advance args state') := by
  unfold advance
  split
  · refine .ok ⟨?_, h.scopes⟩
    rw [ItemState.usages?_insert, ItemState.usages?_insert]
  · exact .ok ⟨h.usages, congrArg (ItemState.frame _ :: ·) h.scopes⟩
  · -- The innermost scope is closed, or there is none in either state.
    unfold ItemState.closeScope
    rw [← h.scopes]
    cases state.scopes with
    | nil =>
        exact .error _
    | cons scope rest =>
        exact .ok ⟨h.usages, rfl⟩
  · exact .ok h

/-- A name has the payload of its code. -/
theorem symbol_of_code {table : Table} {arg : String} {code : Int} (name : String)
    (hread : Literal.read arg = .ok none) (hcode : table.get? arg = some code) :
    symbol name table arg = Payload.encode code none false := by
  unfold symbol Payload.resolve
  rw [hread]
  simp only [Option.bind_some, hcode]
  show (Payload.encode code none false).map some >>= _ = _
  cases Payload.encode code none false with
  | ok payload =>
      rfl
  | error fault =>
      rfl

end Function

/-! ## Calls -/

def Call.page (page : String) : Call :=
  ⟨Function.usagePage.name, [page]⟩

/-- A call, and the call that may stand in its place: the same call, or the keyboard page for the
keypad page. -/
def Call.Replaces (c c' : Call) : Prop :=
  c' = c ∨ (c = .page "keypad" ∧ c' = .page "keyboard")

/-- Both pages have the same code. -/
def Tables.OnePage (tables : Tables) : Prop :=
  ∃ code, tables.usagePages.get? "keypad" = some code ∧
    tables.usagePages.get? "keyboard" = some code

namespace ItemState

variable {state state' : ItemState} {tables : Tables}

/-- Records with the same bytes, and states on pages with the same usages. -/
def SameAnswer (a b : ItemState × Record) : Prop :=
  a.1.Parallel b.1 ∧ a.2.encoding = b.2.encoding

theorem answer_page (state : ItemState) (tables : Tables) {page : String} {code : Int}
    (number : Int) (hread : Literal.read page = .ok none)
    (hcode : tables.usagePages.get? page = some code) :
    state.answer tables (.page page) number = (do
      let payload ← Payload.encode code none false
      .ok ({ state with globals := state.globals.insert Function.pageName (.text page) },
        ⟨Function.usagePage.item, payload, [page], number⟩)) := by
  have hname : (Call.page page).name = Function.usagePage.name := rfl
  have hcall : Function.usagePage.call state tables [page] = (do
      let payload ← Payload.encode code none false
      .ok ⟨payload, .setGlobal, .text page⟩) := by
    rw [← Function.symbol_of_code Function.usagePage.name hread hcode]
    rfl
  rw [answer_of_name hname]
  show (Function.usagePage.call state tables [page] >>= _) = _
  rw [hcall]
  cases Payload.encode code none false with
  | ok payload =>
      rfl
  | error fault =>
      rfl

/-- A call and the call in its place are answered alike. -/
theorem sameEnd_answer {c c' : Call} (hpages : tables.OnePage) (h : state.Parallel state')
    (hc : c.Replaces c') (number : Int) :
    SameEnd SameAnswer (state.answer tables c number) (state'.answer tables c' number) := by
  rcases hc with rfl | ⟨rfl, rfl⟩
  · unfold answer
    cases Function.ofName? c'.name with
    | none =>
        exact .error _
    | some f =>
        simp only [f.call_parallel h tables c'.args]
        refine (SameEnd.refl _).bind ?_
        rintro outcome _ rfl
        refine (f.sameEnd_advance c'.args h).bind ?_
        intro next next' hnext
        exact .ok ⟨hnext, rfl⟩
  · -- Both names have the same code, and the pages that are kept have the same usages.
    rcases hpages with ⟨code, hkeypad, hkeyboard⟩
    rw [answer_page state tables number (by decide +kernel) hkeypad,
      answer_page state' tables number (by decide +kernel) hkeyboard]
    refine (SameEnd.refl _).bind ?_
    rintro payload _ rfl
    refine .ok ⟨⟨?_, h.scopes⟩, rfl⟩
    rw [usages?_insert, usages?_insert]
    rfl

end ItemState

/-! ## Sessions -/

/-- Two faults that differ at most in the line that they quote. -/
inductive Fault.Alike : Fault → Fault → Prop
  | same (fault : Fault) : Alike fault fault
  | quoted (cause : Cause) (number : Option Int) (line line' : Option String) :
      Alike (.compile ⟨cause, number, line⟩) (.compile ⟨cause, number, line'⟩)

theorem Fault.alike_locate (fault : Fault) (number : Int) (line line' : String) :
    (fault.locate number line).Alike (fault.locate number line') := by
  cases fault with
  | compile d =>
      unfold Fault.locate Diagnostic.locate
      by_cases hplace : d.number.isNone = true
      · simp only [if_pos hplace]
        exact .quoted _ _ _ _
      · simp only [if_neg hplace]
        exact .same _
  | _ =>
      exact .same _

namespace Session

/-- Two sessions over the given tables with the same bytes, in states on pages with the same
usages. -/
structure Parallel (tables : Tables) (s s' : Session) : Prop where
  left : s.tables = tables
  right : s'.tables = tables
  phase : s.phase = s'.phase
  state : s.state.Parallel s'.state
  data : s.data = s'.data

/-- Two steps end alike: in parallel sessions, or with faults that are alike. -/
inductive SameStep (tables : Tables) :
    Session × Except Fault Unit → Session × Except Fault Unit → Prop
  | ok {s s' : Session} (h : Parallel tables s s') : SameStep tables (s, .ok ()) (s', .ok ())
  | error {s s' : Session} {fault fault' : Fault} (h : fault.Alike fault') :
      SameStep tables (s, .error fault) (s', .error fault')

variable {tables : Tables} {s s' : Session}

theorem SameStep.of_errors {x y : Session × Except Fault Unit} {fault fault' : Fault}
    (hx : x.2 = .error fault) (hy : y.2 = .error fault') (h : fault.Alike fault') :
    SameStep tables x y := by
  rcases x with ⟨s, result⟩
  rcases y with ⟨s', result'⟩
  obtain rfl : result = .error fault := hx
  obtain rfl : result' = .error fault' := hy
  exact .error h

/-- A refused answer is the fault of the call, placed on its line. -/
theorem call_of_answer_error {c : Call} {number : Int} {text : String} {fault : Fault}
    (h : s.state.answer s.tables c number = .error fault) :
    (s.call c number text).2 = .error (fault.locate number text) := by
  rcases s.call_cases c number text with ⟨found, hfound, ⟨_, hcall⟩ | hcall⟩ |
    ⟨state, r, hanswer, _⟩
  · obtain rfl := Except.error.inj (hfound.symm.trans h)
    rw [hcall]
  · obtain rfl := Except.error.inj (hfound.symm.trans h)
    rw [hcall, stop_snd]
  · rw [hanswer] at h
    cases h

/-- An answer is kept, unless the number of the line is too long to be written. -/
theorem call_of_answer_ok {c : Call} {number : Int} {text : String} {state : ItemState} {r : Record}
    (h : s.state.answer s.tables c number = .ok (state, r)) :
    s.call c number text =
      if Numeral.printable number then (s.extend state r, .ok ())
      else ({ s with state }, .error .longInteger) := by
  rcases s.call_cases c number text with ⟨found, hfound, _⟩ | ⟨state', r', hanswer, hcall⟩
  · rw [hfound] at h
    cases h
  · obtain ⟨rfl, rfl⟩ := Prod.mk.inj (Except.ok.inj (hanswer.symm.trans h))
    exact hcall

theorem Parallel.call {c c' : Call} (h : Parallel tables s s') (hpages : tables.OnePage)
    (hc : c.Replaces c') (number : Int) (text text' : String) :
    SameStep tables (s.call c number text) (s'.call c' number text') := by
  have hanswer := ItemState.sameEnd_answer hpages h.state hc number
  generalize hleft : s.state.answer tables c number = left at hanswer
  generalize hright : s'.state.answer tables c' number = right at hanswer
  rw [← h.left] at hleft
  rw [← h.right] at hright
  cases hanswer with
  | error fault =>
      exact .of_errors (call_of_answer_error hleft) (call_of_answer_error hright)
        (fault.alike_locate number text text')
  | @ok a b hsame =>
      rcases a with ⟨state, r⟩
      rcases b with ⟨state', r'⟩
      rw [call_of_answer_ok hleft, call_of_answer_ok hright]
      split
      · refine .ok ⟨h.left, h.right, h.phase, hsame.1, ?_⟩
        show s.data ++ r.encoding = s'.data ++ r'.encoding
        rw [h.data, hsame.2]
      · exact .error (.same _)

/-- A line and the line in its place are read alike. -/
theorem Parallel.feed {line line' : SourceLine} (h : Parallel tables s s')
    (hpages : tables.OnePage)
    (hline : line' = line ∨ ∃ c c', line.content = .call c ∧ line'.content = .call c' ∧
      c.Replaces c' ∧ line'.number = line.number) :
    SameStep tables (s.feed line) (s'.feed line') := by
  by_cases hphase : s.phase = .scanning
  · have hphase' : s'.phase = .scanning := h.phase.symm.trans hphase
    rcases hline with rfl | ⟨c, c', hc, hc', hreplaces, hnumber⟩
    · simp only [Session.feed, hphase, hphase']
      cases line'.content with
      | call c =>
          exact h.call hpages (Or.inl rfl) _ _ _
      | _ =>
          exact .ok h
    · simp only [Session.feed, hphase, hphase', hc, hc', hnumber]
      exact h.call hpages hreplaces _ _ _
  · have hphase' : s'.phase ≠ .scanning := fun hscanning => hphase (h.phase.trans hscanning)
    rw [feed_closed line hphase, feed_closed line' hphase', h.phase]
    exact .error (.same _)

end Session

/-! ## Sources -/

namespace SourceLine

/-- The argument of a call can be replaced where it stands, whatever the layout of the line. -/
theorem exists_replaceArgument {text name arg new : String}
    (h : callOf? text = some ⟨name, [arg]⟩) (hnew : Call.NormalArgument new) :
    ∃ before word after, text.toList = before ++ (word ++ after) ∧
      Text.lower word = arg.toList ∧
      callOf? (String.ofList (before ++ (new.toList ++ after))) = some ⟨name, [new]⟩ := by
  rw [callOf?_eq_some_iff] at h
  rcases contentOf_eq_call_iff.1 h with ⟨written, body, hwritten, hargs, hname⟩
  rcases hwritten.parts with ⟨blanks, between, behind, hline, hblanks, hbetween, hbehind⟩
  rcases Call.argument_eq_ok_iff.1 (Call.argument_of_arguments hargs) with ⟨_, rfl⟩
  rcases Text.exists_append_trim body with ⟨left, right, hbody, hleft, hright⟩
  rcases Text.exists_dropEndWhile_append isLineEnd text.toList with ⟨ends, htext, _⟩
  -- Everything up to the closing parenthesis, for the old argument and for the new one.
  let front (body : List Char) := blanks ++ (written ++ (between ++ '(' :: body))
  have hfront : text.toList = front body ++ ')' :: (behind ++ ends) := by
    rw [htext, hline]
    simp only [front, List.append_assoc, List.cons_append]
  refine ⟨front left, Text.trim body, right ++ ')' :: (behind ++ ends), ?_,
    by rw [String.toList_ofList]; rfl, ?_⟩
  · rw [hfront]
    conv_lhs => rw [hbody]
    simp only [front, List.append_assoc, List.cons_append]
  · -- The new argument has the same blanks around it, and the same line ends are cut off.
    let body' := left ++ (new.toList ++ right)
    have hfeed : '\n' ∉ body' := by
      have hold := hwritten.no_feed
      rw [hbody] at hold
      simp only [body', List.mem_append, not_or] at hold ⊢
      exact ⟨hold.1, hnew.no_feed, hold.2.2⟩
    have hcut : Text.dropEndWhile isLineEnd (front body ++ ')' :: (behind ++ ends)) =
        front body ++ ')' :: behind := by
      rw [← hfront, hline]
      simp only [front, List.append_assoc, List.cons_append]
    have hstem := Text.dropEndWhile_replace (by decide) hcut (front body')
    rw [callOf?_eq_some_iff, String.toList_ofList, contentOf_eq_call_iff]
    refine ⟨written, body', ⟨hwritten.name_ne_nil, hwritten.name_chars, hfeed, blanks, between,
      behind, ?_, hblanks, hbetween, hbehind⟩, Call.arguments_padded hnew hleft hright, hname⟩
    simpa only [front, body', List.append_assoc, List.cons_append] using hstem

/-- A line, and the line that may stand in its place: the same line, or one that sets the keyboard
page where the first sets the keypad page. -/
def Replaces (text text' : String) : Prop :=
  text' = text ∨
    (callOf? text = some (.page "keypad") ∧ callOf? text' = some (.page "keyboard"))

theorem exists_parse_of_callOf? {text : String} {c : Call} (h : callOf? text = some c)
    (number : Int) :
    ∃ line, parse text number = .ok line ∧ line.number = number ∧ line.content = .call c := by
  cases hparse : parse text number with
  | error fault =>
      rw [callOf?_of_parse_eq_error hparse] at h
      cases h
  | ok line =>
      rcases parse_eq_ok hparse with ⟨hnumber, hcontent⟩
      exact ⟨line, rfl, hnumber, (hcontent c).2 h⟩

end SourceLine

namespace Session

variable {tables : Tables} {s s' : Session}

theorem parallel_start (tables : Tables) : Parallel tables (start tables) (start tables) :=
  ⟨rfl, rfl, rfl, .refl _, rfl⟩

/-- Two sources are read alike, up to the first fault. -/
theorem Parallel.feedAll {lines lines' : List String} (h : Parallel tables s s')
    (hpages : tables.OnePage) (number : Int)
    (hlines : List.Forall₂ SourceLine.Replaces lines lines') :
    SameStep tables (s.feedAll number lines) (s'.feedAll number lines') := by
  induction hlines generalizing s s' number with
  | nil =>
      exact .ok h
  | @cons text text' rest rest' htext _ ih =>
      -- Once both lines are parsed, the first fault ends both runs, and else both go on.
      have hstep {line line' : SourceLine} (hparse : SourceLine.parse text number = .ok line)
          (hparse' : SourceLine.parse text' number = .ok line')
          (hfeed : SameStep tables (s.feed line) (s'.feed line')) :
          SameStep tables (s.feedAll number (text :: rest))
            (s'.feedAll number (text' :: rest')) := by
        rw [Session.feedAll, Session.feedAll, hparse, hparse']
        simp only
        generalize s.feed line = x at hfeed ⊢
        generalize s'.feed line' = y at hfeed ⊢
        cases hfeed with
        | ok hnext =>
            exact ih hnext (number + 1)
        | error halike =>
            exact .error halike
      rcases htext with rfl | ⟨hc, hc'⟩
      · cases hparse : SourceLine.parse text' number with
        | error fault =>
            rw [Session.feedAll, Session.feedAll, hparse]
            exact .error (.same fault)
        | ok line =>
            exact hstep hparse hparse (h.feed hpages (Or.inl rfl))
      · rcases SourceLine.exists_parse_of_callOf? hc number with ⟨line, hparse, hnumber, hcall⟩
        rcases SourceLine.exists_parse_of_callOf? hc' number with ⟨line', hparse', hnumber', hcall'⟩
        exact hstep hparse hparse' (h.feed hpages
          (Or.inr ⟨_, _, hcall, hcall', Or.inr ⟨rfl, rfl⟩, hnumber'.trans hnumber.symm⟩))

end Session

/-- Two sources end alike: both compile to the same bytes, or both fail with faults that are
alike. -/
theorem compileLines_parallel {tables : Tables} {lines lines' : List String}
    (hpages : tables.OnePage) (hlines : List.Forall₂ SourceLine.Replaces lines lines') :
    (∃ d d', compileLines tables lines = .ok d ∧ compileLines tables lines' = .ok d' ∧
      d.data = d'.data) ∨
    ∃ fault fault', compileLines tables lines = .error fault ∧
      compileLines tables lines' = .error fault' ∧ fault.Alike fault' := by
  have hrun := (Session.parallel_start tables).feedAll hpages 1 hlines
  unfold compileLines
  generalize (Session.start tables).feedAll 1 lines = x at hrun ⊢
  generalize (Session.start tables).feedAll 1 lines' = y at hrun ⊢
  cases hrun with
  | error halike =>
      exact Or.inr ⟨_, _, rfl, rfl, halike⟩
  | @ok s s' h =>
      -- The end of a source looks at the open scopes only.
      have hclosed : s.state.checkClosed = s'.state.checkClosed := by
        unfold ItemState.checkClosed
        rw [h.state.scopes]
      simp only [Session.finish]
      rw [h.phase, hclosed]
      cases s'.phase with
      | scanning =>
          cases s'.state.checkClosed with
          | ok _ =>
              exact Or.inl ⟨_, _, rfl, rfl, h.data⟩
          | error fault =>
              exact Or.inr ⟨fault, fault, rfl, rfl, .same fault⟩
      | _ =>
          exact Or.inr ⟨_, _, rfl, rfl, .same _⟩

/-- The keypad page cannot be told from the keyboard page, if both have one code.

The argument of a line that sets the keypad page can be replaced where it stands. With the keyboard
page set on any of these lines instead, a source compiles to the same bytes, or is rejected for the
same reason on the same line. -/
theorem compileLines_keypad {tables : Tables} {lines lines' : List String}
    (hpages : tables.OnePage) (hlines : List.Forall₂ SourceLine.Replaces lines lines') :
    (∀ data, (∃ d, compileLines tables lines = .ok d ∧ d.data = data) ↔
      ∃ d, compileLines tables lines' = .ok d ∧ d.data = data) ∧
    (∀ kind reason number,
      (∃ d, compileLines tables lines = .error (.compile d) ∧
        d.kind = kind ∧ d.reason = reason ∧ d.number = number) ↔
      ∃ d, compileLines tables lines' = .error (.compile d) ∧
        d.kind = kind ∧ d.reason = reason ∧ d.number = number) ∧
    ∀ text, SourceLine.callOf? text = some (.page "keypad") →
      ∃ before word after, text.toList = before ++ (word ++ after) ∧
        Text.lower word = "keypad".toList ∧
        SourceLine.Replaces text (String.ofList (before ++ ("keyboard".toList ++ after))) := by
  refine ⟨?_, ?_, ?_⟩
  · intro data
    rcases compileLines_parallel hpages hlines with ⟨d, d', hd, hd', hdata⟩ |
      ⟨fault, fault', hfault, hfault', _⟩
    · simp [hd, hd', hdata]
    · simp [hfault, hfault']
  · intro kind reason number
    rcases compileLines_parallel hpages hlines with ⟨d, d', hd, hd', _⟩ |
      ⟨fault, fault', hfault, hfault', halike⟩
    · simp [hd, hd']
    · -- Faults that are alike differ in the line that is quoted, and in nothing asked for here.
      rw [hfault, hfault']
      cases halike with
      | same fault =>
          rfl
      | quoted cause number line line' =>
          simp [Diagnostic.kind, Diagnostic.reason]
  · intro text htext
    have hnormal : Call.NormalArgument "keyboard" :=
      Call.normalArgument_of_isSmallNameChar (by decide) (List.all_eq_true.1 (by decide))
    rcases SourceLine.exists_replaceArgument htext hnormal with
      ⟨before, word, after, hline, hword, hcall⟩
    exact ⟨before, word, after, hline, hword, Or.inr ⟨htext, hcall⟩⟩

/-- A source that sets the keypad page twice, with one of the two replaced, and a source on the
keypad page with a usage that the keyboard lacks. -/
theorem compileLines_keypad_usages :
    ∃ (tables : Tables) (lines lines' faulty faulty' : List String), tables.OnePage ∧
      List.Forall₂ SourceLine.Replaces lines lines' ∧ lines ≠ lines' ∧
      (∃ d, compileLines tables lines' = .ok d ∧
        d.data = [0x05, 0x07, 0x09, 0x04, 0x05, 0x07, 0x09, 0x58]) ∧
      List.Forall₂ SourceLine.Replaces faulty faulty' ∧ faulty ≠ faulty' ∧
      ∃ d, compileLines tables faulty' = .error (.compile d) ∧ d.kind = .undefinedSymbol ∧
        d.reason = "invalid argument 'mouse' in function usage()" ∧ d.number = some 2 := by
  let tables : Tables :=
    ⟨.ofList [("keyboard", 7), ("keypad", 7)],
      .ofList [("keyboard", .ofList [("a", 4), ("enter", 0x58)])], .empty, .empty⟩
  have hpages : tables.OnePage := ⟨7, rfl, rfl⟩
  have hfirst : SourceLine.Replaces "Usage_Page(Keypad)" "Usage_Page(Keyboard)" :=
    Or.inr ⟨by decide +kernel, by decide +kernel⟩
  have hlines : List.Forall₂ SourceLine.Replaces
      ["Usage_Page(Keypad)", "Usage(A)", " USAGE_PAGE ( KeyPad )", "Usage(Enter)"]
      ["Usage_Page(Keyboard)", "Usage(A)", " USAGE_PAGE ( KeyPad )", "Usage(Enter)"] :=
    .cons hfirst (List.forall₂_same.2 fun _ _ => Or.inl rfl)
  have hfaulty : List.Forall₂ SourceLine.Replaces ["Usage_Page(Keypad)", "Usage(Mouse)"]
      ["Usage_Page(Keyboard)", "Usage(Mouse)"] :=
    .cons hfirst (List.forall₂_same.2 fun _ _ => Or.inl rfl)
  let d : Descriptor :=
    ⟨[⟨Function.usagePage.item, [7], ["keypad"], 1⟩, ⟨Function.usage.item, [4], ["a"], 2⟩,
        ⟨Function.usagePage.item, [7], ["keypad"], 3⟩, ⟨Function.usage.item, [0x58], ["enter"], 4⟩],
      [0x05, 0x07, 0x09, 0x04, 0x05, 0x07, 0x09, 0x58]⟩
  have hd : compileLines tables
      ["Usage_Page(Keypad)", "Usage(A)", " USAGE_PAGE ( KeyPad )", "Usage(Enter)"] = .ok d := by
    decide +kernel
  have hfault : compileLines tables ["Usage_Page(Keypad)", "Usage(Mouse)"] =
      .error (.compile ⟨.undefinedSymbol "mouse" "usage", some 2, some "Usage(Mouse)"⟩) := by
    decide +kernel
  refine ⟨tables, _, _, _, _, hpages, hlines, by decide, ?_, hfaulty, by decide, ?_⟩
  · exact ((compileLines_keypad hpages hlines).1 _).1 ⟨d, hd, rfl⟩
  · exact ((compileLines_keypad hpages hfaulty).2.1 _ _ _).1
      ⟨_, hfault, rfl, by decide +kernel, rfl⟩

end HidDescriptor
