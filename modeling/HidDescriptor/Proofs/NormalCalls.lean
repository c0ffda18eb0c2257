import HidDescriptor.Proofs.LowerCase
import HidDescriptor.Proofs.ShortItems
import HidDescriptor.SourceLine

/-!
# Calls in normal form

Every call that is read from a line is in normal form, and a call in normal form is read back from
its plain written form.

- `Call.NormalArgument`, `Call.Normal`: tokens that trimming and lower-casing leave as they are
- `Call.Written`, `Call.split?_eq_some_iff`: the parts of a written call
- `Call.normalArgument_of_arguments`, `Call.arguments_intercalate`: arguments parted by commas
- `SourceLine.contentOf_eq_call_iff`: the lines that are calls
- `SourceLine.normal_of_parse`, `SourceLine.parse_render`: reading gives normal calls, and it gives
  back the normal call that was written
-/

namespace HidDescriptor
namespace Call

/-! ## Names -/

def isSmallNameChar (c : Char) : Bool :=
  c.isLower || c.isDigit || c = '_'

theorem eq_lowLine_iff {c : Char} : c = '_' ↔ c.toNat = 0x5F := by
  constructor
  · rintro rfl
    rfl
  · intro h
    rw [← Char.ofNat_toNat c, h]

theorem isUpper_iff {c : Char} : c.isUpper = true ↔ 0x41 ≤ c.toNat ∧ c.toNat ≤ 0x5A := by
  show decide (c.val ≥ 'A'.val ∧ c.val ≤ 'Z'.val) = true ↔ _
  simp [UInt32.le_iff_toNat_le]

theorem isLower_iff {c : Char} : c.isLower = true ↔ 0x61 ≤ c.toNat ∧ c.toNat ≤ 0x7A := by
  show (decide (c.val ≥ 'a'.val) && decide (c.val ≤ 'z'.val)) = true ↔ _
  simp [UInt32.le_iff_toNat_le]

theorem isSmallNameChar_iff {c : Char} :
    isSmallNameChar c = true ↔
      (0x61 ≤ c.toNat ∧ c.toNat ≤ 0x7A) ∨ (0x30 ≤ c.toNat ∧ c.toNat ≤ 0x39) ∨ c.toNat = 0x5F := by
  simp [isSmallNameChar, isLower_iff, Char.isDigit_iff_toNat, eq_lowLine_iff, or_assoc]

/-- A character of a name is a capital letter, or it may stand in a name in lower case. -/
theorem isNameChar_iff {c : Char} :
    isNameChar c = true ↔ (0x41 ≤ c.toNat ∧ c.toNat ≤ 0x5A) ∨ isSmallNameChar c = true := by
  have hletters : isNameChar c = (c.isUpper || c.isLower || c.isDigit || c = '_') := rfl
  simp [hletters, isUpper_iff, isSmallNameChar, or_assoc]

theorem isBlank_of_isNameChar {c : Char} (h : isNameChar c = true) : Text.isBlank c = false := by
  rw [isNameChar_iff, isSmallNameChar_iff] at h
  exact Text.isBlank_of_ascii (by omega) (by omega)

/-- Names are in ASCII, so the case of each letter is changed on its own. -/
theorem lower_eq_map {name : List Char} (h : ∀ c ∈ name, isNameChar c = true) :
    Text.lower name = name.map Char.toLower := by
  have hafter (before : List Char) : Text.lowerAfter before name = name.map Char.toLower := by
    induction name generalizing before with
    | nil =>
        rfl
    | cons c rest ih =>
        have hc := h c List.mem_cons_self
        rw [isNameChar_iff, isSmallNameChar_iff] at hc
        have hsigma : c ≠ Text.capitalSigma := by
          rintro rfl
          revert hc
          decide
        have hrest := ih (fun d hd => h d (List.mem_cons_of_mem _ hd)) (c :: before)
        rw [Text.lowerAfter_cons, Text.lowerAt, if_neg hsigma, Text.lowerLetter,
          if_pos (by omega), hrest]
        rfl
  exact hafter []

theorem isSmallNameChar_toLower {c : Char} (h : isNameChar c = true) :
    isSmallNameChar c.toLower = true := by
  rcases Text.toLower_cases c with hletter | ⟨hsame, hcapital⟩
  · exact isSmallNameChar_iff.2 (Or.inl hletter)
  · rw [hsame]
    exact (isNameChar_iff.1 h).resolve_left hcapital

theorem lower_eq_self {name : List Char} (h : ∀ c ∈ name, isSmallNameChar c = true) :
    Text.lower name = name := by
  have hsame : ∀ c ∈ name, c.toLower = c := by
    intro c hc
    have hsmall := isSmallNameChar_iff.1 (h c hc)
    refine Text.toLower_of_not_capital ?_
    omega
  calc
    Text.lower name = name.map Char.toLower :=
        lower_eq_map fun c hc => isNameChar_iff.2 (Or.inr (h c hc))
    _ = name.map id := List.map_congr_left hsame
    _ = name := List.map_id name

/-! ## Normal form -/

/-- An argument without commas, line feeds, outer blanks and letters to lower. -/
structure NormalArgument (arg : String) : Prop where
  ne_nil : arg.toList ≠ []
  no_comma : ',' ∉ arg.toList
  no_feed : '\n' ∉ arg.toList
  trimmed : Text.Trimmed arg.toList
  lower : Text.lower arg.toList = arg.toList

/-- A call as it is read: a name in lower case, and normal arguments. -/
structure Normal (c : Call) : Prop where
  name_ne_nil : c.name.toList ≠ []
  name_chars : ∀ x ∈ c.name.toList, isSmallNameChar x = true
  args : ∀ arg ∈ c.args, NormalArgument arg

theorem Normal.isNameChar {c : Call} (h : c.Normal) :
    ∀ x ∈ c.name.toList, isNameChar x = true := by
  intro x hx
  exact isNameChar_iff.2 (Or.inr (h.name_chars x hx))

/-- What may be a function name in lower case is a normal argument. -/
theorem normalArgument_of_isSmallNameChar {arg : String} (hne : arg.toList ≠ [])
    (h : ∀ c ∈ arg.toList, isSmallNameChar c = true) : NormalArgument arg := by
  have hblank : ∀ c ∈ arg.toList, Text.isBlank c = false := by
    intro c hc
    exact isBlank_of_isNameChar (isNameChar_iff.2 (Or.inr (h c hc)))
  refine ⟨hne, ?_, ?_, ⟨?_, ?_⟩, lower_eq_self h⟩
  · intro hc
    exact absurd (h _ hc) (by decide)
  · intro hc
    exact absurd (h _ hc) (by decide)
  · intro c hc
    exact hblank c (List.mem_of_head? hc)
  · intro c hc
    exact hblank c (List.mem_of_getLast? hc)

/-! ## The parts of a call -/

/-- A text that is a call: a name and a body in parentheses, with blanks before and behind the name
and behind the closing parenthesis. -/
structure Written (cs name body : List Char) : Prop where
  name_ne_nil : name ≠ []
  name_chars : ∀ c ∈ name, isNameChar c = true
  no_feed : '\n' ∉ body
  parts : ∃ before between after,
    cs = before ++ (name ++ (between ++ '(' :: (body ++ ')' :: after))) ∧
      (∀ c ∈ before, Text.isBlank c = true) ∧ (∀ c ∈ between, Text.isBlank c = true) ∧
      ∀ c ∈ after, Text.isBlank c = true

/-- No blank stands where a name starts. -/
theorem isBlank_head_name {name : List Char} (hne : name ≠ [])
    (hchars : ∀ c ∈ name, isNameChar c = true) (rest : List Char) :
    ∀ c, (name ++ rest).head? = some c → Text.isBlank c = false := by
  intro c hc
  rw [List.head?_append_of_ne_nil name hne] at hc
  exact isBlank_of_isNameChar (hchars c (List.mem_of_head? hc))

/-- A name ends at a blank or at the opening parenthesis. -/
theorem isNameChar_head_between {between : List Char}
    (hbetween : ∀ c ∈ between, Text.isBlank c = true) (rest : List Char) :
    ∀ c, (between ++ '(' :: rest).head? = some c → isNameChar c = false := by
  intro c hc
  rw [Bool.eq_false_iff]
  intro hchar
  cases between with
  | nil =>
      cases hc
      revert hchar
      decide
  | cons b others =>
      cases hc
      have hblank := hbetween c List.mem_cons_self
      rw [isBlank_of_isNameChar hchar] at hblank
      cases hblank

theorem Written.split?_eq {cs name body : List Char} (h : Written cs name body) :
    split? cs = some (name, body) := by
  rcases h.parts with ⟨before, between, after, rfl, hbefore, hbetween, hafter⟩
  have hstart : Text.trimLeft (before ++ (name ++ (between ++ '(' :: (body ++ ')' :: after)))) =
      name ++ (between ++ '(' :: (body ++ ')' :: after)) :=
    (Text.span_append hbefore (isBlank_head_name h.name_ne_nil h.name_chars _)).2
  have hname := Text.span_append h.name_chars
    (isNameChar_head_between hbetween (body ++ ')' :: after))
  have hopen : Text.trimLeft (between ++ '(' :: (body ++ ')' :: after)) =
      '(' :: (body ++ ')' :: after) := by
    refine (Text.span_append hbetween ?_).2
    intro c hc
    cases hc
    decide
  -- Read from the back, the first character other than a blank closes the call.
  have hclose : (body ++ ')' :: after).reverse.dropWhile Text.isBlank = ')' :: body.reverse := by
    have hreverse : (body ++ ')' :: after).reverse = after.reverse ++ ')' :: body.reverse := by
      simp
    rw [hreverse]
    refine (Text.span_append ?_ ?_).2
    · intro c hc
      exact hafter c (List.mem_reverse.1 hc)
    · intro c hc
      cases hc
      decide
  have hkeep : (name.isEmpty || body.reverse.contains '\n') = false := by
    simp [h.name_ne_nil, h.no_feed]
  unfold split?
  simp only [hstart, hname.1, hname.2, hopen, hclose, hkeep, List.reverse_reverse]
  rfl

theorem written_of_split? {cs name body : List Char} (h : split? cs = some (name, body)) :
    Written cs name body := by
  unfold split? at h
  simp only at h
  split at h
  next rest hopen =>
    split at h
    next inner hclose =>
      split at h
      next =>
        cases h
      next hkeep =>
        cases h
        simp only [Bool.or_eq_true, List.isEmpty_iff, List.contains_iff_mem, not_or] at hkeep
        refine ⟨hkeep.1, fun c hc => List.mem_takeWhile_imp hc, by simpa using hkeep.2, ?_⟩
        -- Each scan splits what the one before has left.
        refine ⟨cs.takeWhile Text.isBlank,
          ((Text.trimLeft cs).dropWhile isNameChar).takeWhile Text.isBlank,
          (rest.reverse.takeWhile Text.isBlank).reverse, ?_, fun c hc => List.mem_takeWhile_imp hc,
          fun c hc => List.mem_takeWhile_imp hc,
          fun c hc => List.mem_takeWhile_imp (List.mem_reverse.1 hc)⟩
        have hrest : rest = inner.reverse ++ ')' :: (rest.reverse.takeWhile Text.isBlank).reverse := by
          have happend : rest.reverse.takeWhile Text.isBlank ++ ')' :: inner = rest.reverse := by
            rw [← hclose]
            exact List.takeWhile_append_dropWhile
          have hreverse := congrArg List.reverse happend
          simpa using hreverse.symm
        have hname : ((Text.trimLeft cs).dropWhile isNameChar).takeWhile Text.isBlank ++ '(' :: rest =
            (Text.trimLeft cs).dropWhile isNameChar := by
          rw [← hopen]
          exact List.takeWhile_append_dropWhile
        rw [← hrest, hname, List.takeWhile_append_dropWhile]
        exact List.takeWhile_append_dropWhile.symm
    next =>
      cases h
  next =>
    cases h

/-- A call has one reading. -/
theorem split?_eq_some_iff {cs name body : List Char} :
    split? cs = some (name, body) ↔ Written cs name body :=
  ⟨written_of_split?, Written.split?_eq⟩

/-! ## Arguments -/

theorem argument_eq_ok_iff {piece : List Char} {arg : String} :
    argument piece = .ok arg ↔ token piece ≠ [] ∧ String.ofList (token piece) = arg := by
  unfold argument
  simp only [List.isEmpty_iff]
  split
  next h =>
    simp [h]
  next h =>
    simp [h]

/-- A piece without commas and line feeds gives a normal argument. -/
theorem normalArgument_of_argument {piece : List Char} {arg : String} (h : argument piece = .ok arg)
    (hcomma : ',' ∉ piece) (hfeed : '\n' ∉ piece) : NormalArgument arg := by
  rcases argument_eq_ok_iff.1 h with ⟨hne, rfl⟩
  -- Punctuation and line feeds of a token stand in its piece.
  have hmem {x : Char} (hmark : x.toNat < 0x61) (hx : x ∈ token piece) : x ∈ piece :=
    Text.mem_of_mem_trim (Text.mem_of_mem_lower hx (Or.inl hmark))
  refine ⟨?_, ?_, ?_, ?_, ?_⟩
  · rwa [String.toList_ofList]
  · rw [String.toList_ofList]
    exact fun hx => hcomma (hmem (by decide) hx)
  · rw [String.toList_ofList]
    exact fun hx => hfeed (hmem (by decide) hx)
  · rw [String.toList_ofList]
    exact Text.trimmed_lower (Text.trimmed_trim piece)
  · rw [String.toList_ofList]
    exact Text.lower_lower (Text.trim piece)

/-- An argument is read from all text that lowers to it, with blanks around. -/
theorem argument_of_lower {arg : String} {text left right : List Char} (h : NormalArgument arg)
    (htrimmed : Text.Trimmed text) (hne : text ≠ []) (hlower : Text.lower text = arg.toList)
    (hleft : ∀ c ∈ left, Text.isBlank c = true) (hright : ∀ c ∈ right, Text.isBlank c = true) :
    argument (left ++ (text ++ right)) = .ok arg := by
  have htoken : token (left ++ (text ++ right)) = arg.toList := by
    rw [token, Text.trim_append htrimmed hne hleft hright, hlower]
  rw [argument_eq_ok_iff, htoken]
  exact ⟨h.ne_nil, String.ofList_toList⟩

theorem argument_of_normal {arg : String} (h : NormalArgument arg) (left : List Char)
    (hleft : ∀ c ∈ left, Text.isBlank c = true) : argument (left ++ arg.toList) = .ok arg := by
  have hpad := argument_of_lower h h.trimmed h.ne_nil h.lower hleft (List.forall_mem_nil _)
  rwa [List.append_nil] at hpad

/-- A piece comes to something unless it is blank. -/
theorem token_ne_nil_iff {piece : List Char} :
    token piece ≠ [] ↔ ∃ c ∈ piece, Text.isBlank c = false := by
  rw [← Text.trim_ne_nil_iff, token]
  constructor
  · intro h hnil
    apply h
    rw [hnil]
    rfl
  · intro h
    exact Text.lowerAfter_ne_nil [] h

/-! ## Pieces -/

theorem mem_intercalate {sep piece : List Char} {pieces : List (List Char)} {c : Char}
    (h : piece ∈ pieces) (hc : c ∈ piece) : c ∈ sep.intercalate pieces := by
  induction pieces with
  | nil =>
      cases h
  | cons first rest ih =>
      cases rest with
      | nil =>
          obtain rfl : piece = first := List.mem_singleton.1 h
          simpa using hc
      | cons second others =>
          rw [List.intercalate_cons_cons, List.append_assoc]
          rcases List.mem_cons.1 h with rfl | hrest
          · exact List.mem_append_left _ hc
          · exact List.mem_append_right _ (List.mem_append_right _ (ih hrest))

theorem mem_of_mem_intercalate {sep : List Char} {pieces : List (List Char)} {c : Char}
    (h : c ∈ sep.intercalate pieces) : c ∈ sep ∨ ∃ piece ∈ pieces, c ∈ piece := by
  induction pieces with
  | nil =>
      cases h
  | cons first rest ih =>
      cases rest with
      | nil =>
          exact Or.inr ⟨first, List.mem_cons_self, by simpa using h⟩
      | cons second others =>
          rw [List.intercalate_cons_cons, List.append_assoc, List.mem_append, List.mem_append] at h
          rcases h with hfirst | hsep | hrest
          · exact Or.inr ⟨first, List.mem_cons_self, hfirst⟩
          · exact Or.inl hsep
          · rcases ih hrest with hsep | ⟨piece, hpiece, hc⟩
            · exact Or.inl hsep
            · exact Or.inr ⟨piece, List.mem_cons_of_mem _ hpiece, hc⟩

/-- A blank behind each comma belongs to the piece that follows. -/
theorem intercalate_comma_blank (first : List Char) (rest : List (List Char)) :
    [',', ' '].intercalate (first :: rest) = [','].intercalate (first :: rest.map (' ' :: ·)) := by
  induction rest generalizing first with
  | nil =>
      rfl
  | cons second others ih =>
      have hblank : [','].intercalate ((' ' :: second) :: others.map (' ' :: ·)) =
          ' ' :: [','].intercalate (second :: others.map (' ' :: ·)) := by
        cases others with
        | nil =>
            simp
        | cons third more =>
            simp [List.intercalate_cons_cons]
      rw [List.map_cons, List.intercalate_cons_cons, List.intercalate_cons_cons, ih second, hblank]
      simp

/-! ## Lists of arguments -/

theorem normalArgument_of_arguments {body : List Char} {args : List String}
    (h : arguments body = .ok args) (hfeed : '\n' ∉ body) : ∀ arg ∈ args, NormalArgument arg := by
  intro arg harg
  unfold arguments at h
  split at h
  next =>
    cases h
    cases harg
  next =>
    rcases exists_of_mem_mapM h harg with ⟨piece, hpiece, hargument⟩
    refine normalArgument_of_argument hargument (Text.not_mem_of_mem_splitOn hpiece) ?_
    intro hc
    have hmem : '\n' ∈ [','].intercalate (body.splitOn ',') := mem_intercalate hpiece hc
    rw [List.intercalate_splitOn] at hmem
    exact hfeed hmem

/-- Pieces that give arguments are read from their commas on. -/
theorem arguments_pieces {pieces : List (List Char)} {args : List String} (hne : pieces ≠ [])
    (hcomma : ∀ piece ∈ pieces, ',' ∉ piece) (h : pieces.mapM argument = .ok args) :
    arguments ([','].intercalate pieces) = .ok args := by
  have hblank : Text.isAllBlank ([','].intercalate pieces) = false := by
    cases pieces with
    | nil =>
        exact absurd rfl hne
    | cons first rest =>
        rcases mapM_cons_eq_ok_iff.1 h with ⟨arg, _, harg, _, _⟩
        rcases token_ne_nil_iff.1 (argument_eq_ok_iff.1 harg).1 with ⟨c, hc, hnot⟩
        exact List.all_eq_false.2 ⟨c, mem_intercalate List.mem_cons_self hc, by simp [hnot]⟩
  rw [arguments, hblank, List.splitOn_intercalate ',' hcomma hne]
  exact h

theorem mapM_argument_padded {args : List String} (h : ∀ arg ∈ args, NormalArgument arg) :
    (args.map fun arg => ' ' :: arg.toList).mapM argument = .ok args := by
  have hblank : ∀ c ∈ [' '], Text.isBlank c = true := by
    intro c hc
    rw [List.mem_singleton.1 hc]
    decide
  induction args with
  | nil =>
      rfl
  | cons arg rest ih =>
      have harg : argument (' ' :: arg.toList) = .ok arg :=
        argument_of_normal (h arg List.mem_cons_self) [' '] hblank
      exact mapM_cons_eq_ok_iff.2 ⟨arg, rest, harg,
        ih fun a ha => h a (List.mem_cons_of_mem _ ha), rfl⟩

/-- Normal arguments are read back from between the parentheses. -/
theorem arguments_intercalate {args : List String} (h : ∀ arg ∈ args, NormalArgument arg) :
    arguments (", ".intercalate args).toList = .ok args := by
  have hlist : (", ".intercalate args).toList = [',', ' '].intercalate (args.map String.toList) :=
    String.toList_intercalate
  rw [hlist]
  cases args with
  | nil =>
      rfl
  | cons first rest =>
      have hfirst : NormalArgument first := h first List.mem_cons_self
      have hrest : ∀ arg ∈ rest, NormalArgument arg := fun a ha => h a (List.mem_cons_of_mem _ ha)
      have hread : argument first.toList = .ok first :=
        argument_of_normal hfirst [] (List.forall_mem_nil _)
      rw [List.map_cons, intercalate_comma_blank, List.map_map]
      refine arguments_pieces (List.cons_ne_nil _ _) ?_ ?_
      · intro piece hpiece
        rcases List.mem_cons.1 hpiece with rfl | hpiece
        · exact hfirst.no_comma
        · rcases List.mem_map.1 hpiece with ⟨arg, harg, rfl⟩
          simpa using (hrest arg harg).no_comma
      · exact mapM_cons_eq_ok_iff.2 ⟨first, rest, hread, mapM_argument_padded hrest, rfl⟩

theorem no_feed_intercalate {args : List String} (h : ∀ arg ∈ args, NormalArgument arg) :
    '\n' ∉ (", ".intercalate args).toList := by
  have hlist : (", ".intercalate args).toList = [',', ' '].intercalate (args.map String.toList) :=
    String.toList_intercalate
  rw [hlist]
  intro hc
  rcases mem_of_mem_intercalate hc with hsep | ⟨piece, hpiece, hc⟩
  · revert hsep
    decide
  · rcases List.mem_map.1 hpiece with ⟨arg, harg, rfl⟩
    exact (h arg harg).no_feed hc

/-- The plain written form is a call with the arguments between its parentheses. -/
theorem Normal.written_render {c : Call} (h : c.Normal) :
    Written c.render.toList c.name.toList (", ".intercalate c.args).toList where
  name_ne_nil := h.name_ne_nil
  name_chars := h.isNameChar
  no_feed := no_feed_intercalate h.args
  parts := ⟨[], [], [], by simp [render, String.toList_append], by simp, by simp, by simp⟩

end Call

/-! ## Lines -/

namespace SourceLine

/-- A text with the parts of a call is neither blank nor a comment. -/
theorem contentOf_of_written {cs name body : List Char} (h : Call.Written cs name body) :
    contentOf cs = (do
      let args ← Call.arguments body
      .ok (.call ⟨String.ofList (Text.lower name), args⟩)) := by
  have hsplit := Call.split?_eq_some_iff.2 h
  rcases h.parts with ⟨before, between, after, hcs, hbefore, _, _⟩
  cases name with
  | nil =>
      exact absurd rfl h.name_ne_nil
  | cons c rest =>
      -- The first character other than a blank is that of the name.
      have hc : Call.isNameChar c = true := h.name_chars c List.mem_cons_self
      have hstart : Text.trimLeft cs = c :: (rest ++ (between ++ '(' :: (body ++ ')' :: after))) := by
        rw [hcs]
        refine (Text.span_append hbefore ?_).2
        intro d hd
        cases hd
        exact Call.isBlank_of_isNameChar hc
      have hcomment : isComment cs = false := by
        rw [isComment, hstart]
        rw [Bool.eq_false_iff]
        intro hmark
        simp only [Bool.or_eq_true, decide_eq_true_eq] at hmark
        rcases hmark with rfl | rfl
        · revert hc
          decide
        · revert hc
          decide
      have hblank : Text.isAllBlank cs = false := by
        refine List.all_eq_false.2 ⟨c, ?_, by simp [Call.isBlank_of_isNameChar hc]⟩
        rw [hcs]
        simp
      rw [contentOf, hcomment, hblank, hsplit]
      rfl

theorem contentOf_eq_call_iff {cs : List Char} {c : Call} :
    contentOf cs = .ok (.call c) ↔
      ∃ name body, Call.Written cs name body ∧ Call.arguments body = .ok c.args ∧
        c.name = String.ofList (Text.lower name) := by
  constructor
  · intro h
    unfold contentOf at h
    split at h
    next =>
      cases h
    next =>
      split at h
      next =>
        cases h
      next =>
        split at h
        next =>
          cases h
        next name body hsplit =>
          rcases bind_eq_ok_iff.1 h with ⟨args, hargs, h⟩
          cases h
          exact ⟨name, body, Call.split?_eq_some_iff.1 hsplit, hargs, rfl⟩
  · rintro ⟨name, body, hwritten, hargs, hname⟩
    rw [contentOf_of_written hwritten, hargs, ← hname]
    rfl

theorem normal_of_contentOf {cs : List Char} {c : Call} (h : contentOf cs = .ok (.call c)) :
    c.Normal := by
  rcases contentOf_eq_call_iff.1 h with ⟨name, body, hwritten, hargs, hname⟩
  have hlower : c.name.toList = name.map Char.toLower := by
    rw [hname, String.toList_ofList, Call.lower_eq_map hwritten.name_chars]
  refine ⟨?_, ?_, Call.normalArgument_of_arguments hargs hwritten.no_feed⟩
  · rw [hlower]
    simpa using hwritten.name_ne_nil
  · intro x hx
    rw [hlower] at hx
    rcases List.mem_map.1 hx with ⟨y, hy, rfl⟩
    exact Call.isSmallNameChar_toLower (hwritten.name_chars y hy)

/-- Every call that is read is normal. -/
theorem normal_of_parse {text : String} {number : Int} {line : SourceLine} {c : Call}
    (h : parse text number = .ok line) (hc : line.content = .call c) : c.Normal := by
  unfold parse at h
  simp only at h
  split at h
  next content hcontent =>
    cases h
    exact normal_of_contentOf (hcontent.trans (congrArg Except.ok hc))
  next =>
    cases h

/-- A normal call is read back from its plain written form. -/
theorem parse_render {c : Call} (h : c.Normal) (number : Int) :
    parse c.render number = .ok ⟨number, c.render, .call c⟩ := by
  have hend : Text.dropEndWhile isLineEnd c.render.toList = c.render.toList := by
    have hclose : c.render.toList =
        c.name.toList ++ '(' :: (", ".intercalate c.args).toList ++ [')'] := by
      simp [Call.render, String.toList_append]
    rw [hclose, Text.dropEndWhile_eq_rdropWhile, List.rdropWhile_concat_neg]
    decide
  have hcontent : contentOf c.render.toList = .ok (.call c) := by
    refine contentOf_eq_call_iff.2 ⟨_, _, h.written_render, Call.arguments_intercalate h.args, ?_⟩
    rw [Call.lower_eq_self h.name_chars, String.ofList_toList]
  unfold parse
  simp only [hend, hcontent, String.ofList_toList]

end SourceLine
end HidDescriptor
