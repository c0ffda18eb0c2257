import HidDescriptor.Proofs.Locations
import HidDescriptor.Proofs.NormalCalls

/-!
# The grammar of lines

Which texts are comments, blank lines and calls, said without the functions that read them, and
that reading follows this grammar.

- `Text.Marked`, `SourceLine.isComment_iff`: comments
- `Call.Parts`, `Call.Parts.Spells`: a call cut into its parts
- `Call.Parts.Spells.unique`, `Call.Parts.Spells.outermost`: there is one way to cut it, at the
  outermost parentheses
- `Call.arguments_eq_ok_iff`: the arguments between the parentheses
- `SourceLine.contentOf_eq_comment_iff`, `SourceLine.contentOf_eq_blank_iff`,
  `SourceLine.contentOf_eq_call_iff_spells`: what a line says
- `SourceLine.parse_grammar`: reading of a line
-/

namespace HidDescriptor

/-! ## Comments -/

/-- The first character other than a blank is a number sign or a semicolon. -/
def Text.Marked (cs : List Char) : Prop :=
  ∃ before mark after, cs = before ++ mark :: after ∧ (∀ c ∈ before, isBlank c = true) ∧
    (mark = '#' ∨ mark = ';')

theorem SourceLine.isComment_iff {cs : List Char} : isComment cs = true ↔ Text.Marked cs := by
  constructor
  · intro h
    have happend : cs.takeWhile Text.isBlank ++ Text.trimLeft cs = cs :=
      List.takeWhile_append_dropWhile
    unfold isComment at h
    split at h
    next =>
      cases h
    next mark rest hleft =>
      rw [hleft] at happend
      refine ⟨cs.takeWhile Text.isBlank, mark, rest, happend.symm, ?_, ?_⟩
      · intro c hc
        exact List.mem_takeWhile_imp hc
      · simpa using h
  · rintro ⟨before, mark, after, rfl, hbefore, hmark⟩
    have hleft : Text.trimLeft (before ++ mark :: after) = mark :: after := by
      refine (Text.span_append hbefore ?_).2
      intro c hc
      cases hc
      rcases hmark with rfl | rfl
      · decide
      · decide
    rw [isComment, hleft]
    simpa using hmark

/-! ## Calls -/

namespace Call

/-- The parts of a written call from left to right, without its outermost parentheses. -/
structure Parts where
  before : List Char
  name : List Char
  between : List Char
  body : List Char
  after : List Char

namespace Parts

/-- A text is a call with these parts: blanks, a name, blanks, a body in parentheses, and blanks.
The body is blank, or none of its pieces between commas is. -/
structure Spells (p : Parts) (cs : List Char) : Prop where
  text : cs = p.before ++ (p.name ++ (p.between ++ '(' :: (p.body ++ ')' :: p.after)))
  before : ∀ c ∈ p.before, Text.isBlank c = true
  name_ne_nil : p.name ≠ []
  name_chars : ∀ c ∈ p.name, isNameChar c = true
  between : ∀ c ∈ p.between, Text.isBlank c = true
  no_feed : '\n' ∉ p.body
  after : ∀ c ∈ p.after, Text.isBlank c = true
  pieces : (∀ c ∈ p.body, Text.isBlank c = true) ∨
    ∀ piece ∈ p.body.splitOn ',', ∃ c ∈ piece, Text.isBlank c = false

/-- The arguments: none, or the pieces of the body between commas, trimmed and in lower case. -/
def args (p : Parts) : List String :=
  if p.body.all Text.isBlank then []
  else (p.body.splitOn ',').map fun piece => String.ofList (Text.lower (Text.trim piece))

def call (p : Parts) : Call :=
  ⟨String.ofList (Text.lower p.name), p.args⟩

theorem args_call (p : Parts) : p.call.args = p.args := by
  rw [call]

variable {p q : Parts} {cs : List Char}

theorem Spells.written (h : p.Spells cs) : Written cs p.name p.body where
  name_ne_nil := h.name_ne_nil
  name_chars := h.name_chars
  no_feed := h.no_feed
  parts := ⟨p.before, p.between, p.after, h.text, h.before, h.between, h.after⟩

/-! ### Uniqueness -/

/-- A call is cut into parts in one way. -/
theorem Spells.unique (hp : p.Spells cs) (hq : q.Spells cs) : p = q := by
  have hparen : ∀ rest : List Char, ∀ c, ('(' :: rest).head? = some c → Text.isBlank c = false := by
    intro rest c hc
    cases hc
    decide
  have hclose : ∀ rest : List Char, ∀ c, (')' :: rest).head? = some c → Text.isBlank c = false := by
    intro rest c hc
    cases hc
    decide
  -- From the left, each part is the longest run of its class.
  have hbefore := Text.span_unique (hp.text.symm.trans hq.text)
    hp.before (isBlank_head_name hp.name_ne_nil hp.name_chars _)
    hq.before (isBlank_head_name hq.name_ne_nil hq.name_chars _)
  have hname := Text.span_unique hbefore.2
    hp.name_chars (isNameChar_head_between hp.between _)
    hq.name_chars (isNameChar_head_between hq.between _)
  have hbetween := Text.span_unique hname.2 hp.between (hparen _) hq.between (hparen _)
  -- What is left ends in a closing parenthesis and blanks, so it is cut from the right.
  have hrest : p.after.reverse ++ ')' :: p.body.reverse =
      q.after.reverse ++ ')' :: q.body.reverse := by
    have hreverse := congrArg List.reverse (List.cons.inj hbetween.2).2
    simpa using hreverse
  have hafter := Text.span_unique hrest (fun c hc => hp.after c (List.mem_reverse.1 hc)) (hclose _)
    (fun c hc => hq.after c (List.mem_reverse.1 hc)) (hclose _)
  have hbody : p.body = q.body := List.reverse_inj.1 (List.cons.inj hafter.2).2
  cases p
  cases q
  simp only [Parts.mk.injEq]
  exact ⟨hbefore.1, hname.1, hbetween.1, hbody, List.reverse_inj.1 hafter.1⟩

/-- The parentheses around the body are the first opening and the last closing one. -/
theorem Spells.outermost (h : p.Spells cs) :
    '(' ∉ p.before ++ (p.name ++ p.between) ∧ ')' ∉ p.after := by
  have hblank {run : List Char} {x : Char} (hrun : ∀ c ∈ run, Text.isBlank c = true)
      (hx : Text.isBlank x = false) : x ∉ run := by
    intro hmem
    have hx' := hrun x hmem
    rw [hx] at hx'
    cases hx'
  have hname : '(' ∉ p.name := by
    intro hmem
    have hchar := h.name_chars _ hmem
    revert hchar
    decide
  refine ⟨?_, hblank h.after (by decide)⟩
  rw [List.mem_append, List.mem_append]
  rintro (hmem | hmem | hmem)
  · exact hblank h.before (by decide) hmem
  · exact hname hmem
  · exact hblank h.between (by decide) hmem

end Parts

/-! ### Arguments -/

/-- Every piece with something in it gives one argument. -/
theorem mapM_argument_eq_ok_iff {pieces : List (List Char)} {args : List String} :
    pieces.mapM argument = .ok args ↔
      (∀ piece ∈ pieces, ∃ c ∈ piece, Text.isBlank c = false) ∧
        args = pieces.map fun piece => String.ofList (token piece) := by
  induction pieces generalizing args with
  | nil =>
      constructor
      · intro h
        cases h
        simp
      · rintro ⟨_, rfl⟩
        rfl
  | cons piece rest ih =>
      rw [mapM_cons_eq_ok_iff, List.forall_mem_cons, ← token_ne_nil_iff]
      constructor
      · rintro ⟨arg, others, harg, hothers, rfl⟩
        rcases argument_eq_ok_iff.1 harg with ⟨hne, rfl⟩
        rcases ih.1 hothers with ⟨hrest, rfl⟩
        exact ⟨⟨hne, hrest⟩, rfl⟩
      · rintro ⟨⟨hne, hrest⟩, rfl⟩
        exact ⟨_, _, argument_eq_ok_iff.2 ⟨hne, rfl⟩, ih.2 ⟨hrest, rfl⟩, rfl⟩

theorem arguments_eq_ok_iff {p : Parts} {args : List String} :
    arguments p.body = .ok args ↔
      ((∀ c ∈ p.body, Text.isBlank c = true) ∨
        ∀ piece ∈ p.body.splitOn ',', ∃ c ∈ piece, Text.isBlank c = false) ∧ args = p.args := by
  have hsame : Text.isAllBlank p.body = p.body.all Text.isBlank := rfl
  unfold arguments Parts.args
  rw [hsame, ← List.all_eq_true]
  by_cases h : p.body.all Text.isBlank = true
  · rw [if_pos h, if_pos h]
    constructor
    · intro hargs
      cases hargs
      exact ⟨Or.inl h, rfl⟩
    · rintro ⟨_, rfl⟩
      rfl
  · rw [if_neg h, if_neg h, mapM_argument_eq_ok_iff]
    constructor
    · rintro ⟨hpieces, hargs⟩
      exact ⟨Or.inr hpieces, hargs⟩
    · rintro ⟨hblank | hpieces, hargs⟩
      · exact absurd hblank h
      · exact ⟨hpieces, hargs⟩

/-- A body with one argument is one piece. -/
theorem argument_of_arguments {body : List Char} {arg : String} (h : arguments body = .ok [arg]) :
    argument body = .ok arg := by
  unfold arguments at h
  split at h
  next =>
    cases h
  next =>
    have hjoin : [','].intercalate (body.splitOn ',') = body := List.intercalate_splitOn ','
    cases hpieces : body.splitOn ',' with
    | nil =>
        exact absurd hpieces (List.splitOn_ne_nil ',' body)
    | cons piece rest =>
        rw [hpieces] at h hjoin
        rcases mapM_cons_eq_ok_iff.1 h with ⟨first, others, hfirst, hothers, hargs⟩
        cases hargs
        cases rest with
        | nil =>
            obtain rfl : piece = body := by simpa using hjoin
            exact hfirst
        | cons second rest =>
            -- A second piece would be a second argument.
            rcases mapM_cons_eq_ok_iff.1 hothers with ⟨_, _, _, _, hnil⟩
            cases hnil

theorem mapM_argument_eq_error {pieces : List (List Char)} {fault : Fault}
    (h : pieces.mapM argument = .error fault) : fault = .ofCause .emptyArgument := by
  induction pieces with
  | nil =>
      cases h
  | cons piece rest ih =>
      rw [List.mapM_cons] at h
      rcases bind_eq_error_iff.1 h with harg | ⟨_, _, h⟩
      · unfold argument at harg
        simp only at harg
        split at harg
        · exact (Except.error.inj harg).symm
        · cases harg
      · rcases bind_eq_error_iff.1 h with hrest | ⟨_, _, h⟩
        · exact ih hrest
        · cases h

end Call

/-! ## Lines -/

namespace SourceLine

variable {cs : List Char}

/-- A text of blanks has no mark. -/
theorem not_marked_of_blank (h : ∀ c ∈ cs, Text.isBlank c = true) : ¬ Text.Marked cs := by
  rintro ⟨before, mark, after, rfl, _, hmark⟩
  have hblank : Text.isBlank mark = true := h mark (by simp)
  revert hblank
  rcases hmark with rfl | rfl
  · decide
  · decide

/-- What a call can come to: itself, or one of the two ways in which a line is malformed. -/
theorem contentOf_rest (hcomment : isComment cs = false) (hblank : Text.isAllBlank cs = false) :
    (∃ c, contentOf cs = .ok (.call c)) ∨
      ∃ cause, contentOf cs = .error (.compile (.ofCause cause)) ∧ cause.kind = .malformedLine := by
  unfold contentOf
  rw [hcomment, hblank]
  simp only [Bool.false_eq_true, if_false]
  cases hsplit : Call.split? cs with
  | none =>
      exact Or.inr ⟨.notACall, rfl, rfl⟩
  | some parts =>
      rcases parts with ⟨name, body⟩
      simp only
      cases hargs : Call.arguments body with
      | ok args =>
          exact Or.inl ⟨_, rfl⟩
      | error fault =>
          have hfault : fault = .ofCause .emptyArgument := by
            unfold Call.arguments at hargs
            split at hargs
            · cases hargs
            · exact Call.mapM_argument_eq_error hargs
          rw [hfault]
          exact Or.inr ⟨.emptyArgument, rfl, rfl⟩

theorem contentOf_eq_comment_iff : contentOf cs = .ok .comment ↔ Text.Marked cs := by
  rw [← isComment_iff]
  constructor
  · intro h
    by_contra hcomment
    rw [Bool.not_eq_true] at hcomment
    cases hblank : Text.isAllBlank cs with
    | true =>
        rw [contentOf, hcomment, hblank] at h
        cases h
    | false =>
        rcases contentOf_rest hcomment hblank with ⟨c, hc⟩ | ⟨cause, hcause, _⟩
        · rw [hc] at h
          cases h
        · rw [hcause] at h
          cases h
  · intro hcomment
    rw [contentOf, hcomment]
    rfl

theorem contentOf_eq_blank_iff :
    contentOf cs = .ok .blank ↔ ∀ c ∈ cs, Text.isBlank c = true := by
  constructor
  · intro h
    cases hcomment : isComment cs with
    | true =>
        rw [contentOf, hcomment] at h
        cases h
    | false =>
        cases hblank : Text.isAllBlank cs with
        | true =>
            exact List.all_eq_true.1 hblank
        | false =>
            rcases contentOf_rest hcomment hblank with ⟨c, hc⟩ | ⟨cause, hcause, _⟩
            · rw [hc] at h
              cases h
            · rw [hcause] at h
              cases h
  · intro h
    have hcomment : isComment cs = false := by
      rw [Bool.eq_false_iff]
      intro hmark
      exact not_marked_of_blank h (isComment_iff.1 hmark)
    have hblank : Text.isAllBlank cs = true := List.all_eq_true.2 h
    rw [contentOf, hcomment, hblank]
    rfl

theorem contentOf_eq_call_iff_spells {c : Call} :
    contentOf cs = .ok (.call c) ↔ ∃ p : Call.Parts, p.Spells cs ∧ c = p.call := by
  rw [contentOf_eq_call_iff]
  constructor
  · rintro ⟨name, body, hwritten, hargs, hname⟩
    rcases hwritten.parts with ⟨before, between, after, htext, hbefore, hbetween, hafter⟩
    let p : Call.Parts := ⟨before, name, between, body, after⟩
    rcases Call.arguments_eq_ok_iff (p := p).1 hargs with ⟨hpieces, hargs⟩
    refine ⟨p, ⟨htext, hbefore, hwritten.name_ne_nil, hwritten.name_chars, hbetween,
      hwritten.no_feed, hafter, hpieces⟩, ?_⟩
    cases c
    simp only at hargs hname
    rw [hargs, hname]
    rfl
  · rintro ⟨p, hspells, rfl⟩
    refine ⟨p.name, p.body, hspells.written, ?_, rfl⟩
    rw [p.args_call]
    exact Call.arguments_eq_ok_iff.2 ⟨hspells.pieces, rfl⟩

/-- How a line is read whose text is `text` and whose number is `number`. -/
structure Reads (text : String) (number : Int) (result : Except Fault SourceLine) : Prop where
  comment : result = .ok ⟨number, text, .comment⟩ ↔ Text.Marked text.toList
  blank : result = .ok ⟨number, text, .blank⟩ ↔ ∀ c ∈ text.toList, Text.isBlank c = true
  call : ∀ c, result = .ok ⟨number, text, .call c⟩ ↔
    ∃ p : Call.Parts, p.Spells text.toList ∧ c = p.call
  /-- A line of no other kind is malformed, and the diagnostic says which line it is. -/
  malformed : ¬ Text.Marked text.toList → (∃ c ∈ text.toList, Text.isBlank c = false) →
    (¬ ∃ p : Call.Parts, p.Spells text.toList) →
    ∃ d, result = .error (.compile d) ∧ d.kind = .malformedLine ∧ d.number = some number ∧
      d.line = some text
  /-- There is one way to cut a call, at the first opening and the last closing parenthesis. -/
  parts : ∀ p : Call.Parts, p.Spells text.toList →
    ('(' ∉ p.before ++ (p.name ++ p.between) ∧ ')' ∉ p.after) ∧
      ∀ q : Call.Parts, q.Spells text.toList → q = p

theorem callOf?_eq_some_iff {text : String} {c : Call} :
    callOf? text = some c ↔
      contentOf (Text.dropEndWhile isLineEnd text.toList) = .ok (.call c) := by
  unfold callOf? parse
  simp only
  cases contentOf (Text.dropEndWhile isLineEnd text.toList) with
  | error fault =>
      simp
  | ok content =>
      cases content <;> simp

/-- Reading a line is reading what it says, with its number and its text. -/
theorem parse_eq_ok_iff {text : String} {number : Int} {content : Content} :
    parse text number =
        .ok ⟨number, String.ofList (Text.dropEndWhile isLineEnd text.toList), content⟩ ↔
      contentOf (Text.dropEndWhile isLineEnd text.toList) = .ok content := by
  unfold parse
  simp only
  split
  next found hfound =>
    rw [hfound]
    simp
  next fault hfault =>
    rw [hfault]
    simp

/-- Every line is read by the grammar, once the line feeds and carriage returns at its end are cut
off: comments, blank lines and calls are the lines of these forms, and every other line is refused
with its number and its text. -/
theorem parse_grammar (text : String) (number : Int) :
    ∃ line, Stripped text line ∧ Reads line number (parse text number) := by
  refine ⟨_, stripped_dropEndWhile text, ?_, ?_, ?_, ?_, ?_⟩
  · rw [parse_eq_ok_iff, String.toList_ofList]
    exact contentOf_eq_comment_iff
  · rw [parse_eq_ok_iff, String.toList_ofList]
    exact contentOf_eq_blank_iff
  · intro c
    rw [parse_eq_ok_iff, String.toList_ofList]
    exact contentOf_eq_call_iff_spells
  · -- A line that is none of the three is refused as a whole or at an argument.
    rw [String.toList_ofList]
    intro hmark hblank hcall
    have hcomment : isComment (Text.dropEndWhile isLineEnd text.toList) = false := by
      rw [Bool.eq_false_iff]
      intro h
      exact hmark (isComment_iff.1 h)
    have hnot : Text.isAllBlank (Text.dropEndWhile isLineEnd text.toList) = false := by
      rcases hblank with ⟨c, hc, hfalse⟩
      exact List.all_eq_false.2 ⟨c, hc, by simp [hfalse]⟩
    rcases contentOf_rest hcomment hnot with ⟨c, hc⟩ | ⟨cause, hcause, hkind⟩
    · exact absurd (contentOf_eq_call_iff_spells.1 hc) (fun ⟨p, hp, _⟩ => hcall ⟨p, hp⟩)
    · refine ⟨⟨cause, some number, some (String.ofList (Text.dropEndWhile isLineEnd text.toList))⟩,
        ?_, hkind, rfl, rfl⟩
      unfold parse
      simp only [hcause]
      rfl
  · rw [String.toList_ofList]
    intro p hp
    exact ⟨hp.outermost, fun q hq => hq.unique hp⟩

end SourceLine
end HidDescriptor
