import HidDescriptor.Proofs.Grammar

/-!
# Layouts of calls

A call may be written with capital letters and with blanks around its parts. Whatever the layout,
the same call is read.

- `Text.capitalise`, `Text.lower_capitalise`: capital letters at some places, and lower case again
- `Padding`, `Call.Layout`, `Call.Layout.write`: the ways to write a call
- `Call.Layout.arguments_body`: the arguments are read back from between the parentheses
- `Call.Layout.written`: a layout is a call in its parts
- `SourceLine.parse_layouts`: every call that is read is normal, and a normal call is read from every
  layout of it
-/

namespace HidDescriptor

/-! ## Capital letters -/

namespace Text

/-- Capital letters at the chosen places, as far as small letters of ASCII stand there. -/
def capitalise (capital : Nat → Bool) (cs : List Char) : List Char :=
  cs.mapIdx fun i c => if capital i then c.toUpper else c

theorem toNat_toUpper {c : Char} (h : 0x61 ≤ c.toNat ∧ c.toNat ≤ 0x7A) :
    c.toUpper.toNat + 0x20 = c.toNat := by
  have hsmall : 'a'.val ≤ c.val ∧ c.val ≤ 'z'.val := h
  have hstep : ('A'.val - 'a'.val).toNat = 2 ^ 32 - 0x20 := by decide
  have hval : c.val.toNat = c.toNat := rfl
  have hupper : c.toUpper = _ := dif_pos hsmall
  rw [hupper]
  show (c.val + ('A'.val - 'a'.val)).toNat + 0x20 = _
  rw [UInt32.toNat_add, hstep]
  omega

/-- How a character may be written: as it is, or as the capital letter that lowers to it. -/
structure Capital (c written : Char) : Prop where
  bounds : 0x41 ≤ written.toNat ∧ written.toNat ≤ 0x5A
  toLower : written.toLower = c

theorem capital_toUpper (c : Char) : c.toUpper = c ∨ Capital c c.toUpper := by
  by_cases h : 0x61 ≤ c.toNat ∧ c.toNat ≤ 0x7A
  · have hupper := toNat_toUpper h
    have hlower : c.toUpper.toLower.toNat = c.toNat := by
      rw [toNat_toLower ⟨by omega, by omega⟩, hupper]
    exact Or.inr ⟨⟨by omega, by omega⟩, Char.toNat_inj.1 hlower⟩
  · exact Or.inl (dif_neg h)

theorem capital_of_choice (b : Bool) (c : Char) :
    (if b then c.toUpper else c) = c ∨ Capital c (if b then c.toUpper else c) := by
  cases b with
  | false =>
      exact Or.inl rfl
  | true =>
      exact capital_toUpper c

variable {capital : Nat → Bool} {cs : List Char}

theorem capitalise_cons (capital : Nat → Bool) (c : Char) (rest : List Char) :
    capitalise capital (c :: rest) =
      (if capital 0 then c.toUpper else c) :: capitalise (fun i => capital (i + 1)) rest :=
  List.mapIdx_cons

theorem exists_of_mem_capitalise {x : Char} (h : x ∈ capitalise capital cs) :
    ∃ c ∈ cs, x = c ∨ Capital c x := by
  rcases List.mem_mapIdx.1 h with ⟨i, hi, rfl⟩
  exact ⟨cs[i], List.getElem_mem hi, capital_of_choice (capital i) cs[i]⟩

/-- Only capital letters are new. -/
theorem mem_of_mem_capitalise {x : Char} (h : x ∈ capitalise capital cs)
    (hx : ¬ (0x41 ≤ x.toNat ∧ x.toNat ≤ 0x5A)) : x ∈ cs := by
  rcases exists_of_mem_capitalise h with ⟨c, hc, rfl | hcapital⟩
  · exact hc
  · exact absurd hcapital.bounds hx

theorem isBlank_of_choice {c : Char} (b : Bool) (h : isBlank c = false) :
    isBlank (if b then c.toUpper else c) = false := by
  rcases capital_of_choice b c with hsame | hcapital
  · rw [hsame]
    exact h
  · have hbounds := hcapital.bounds
    exact isBlank_of_ascii (by omega) (by omega)

/-- Capital letters are no blanks, so the ends of a text stay as they are. -/
theorem trimmed_capitalise (h : Trimmed cs) : Trimmed (capitalise capital cs) := by
  refine ⟨?_, ?_⟩
  · intro x hx
    rw [capitalise, List.head?_mapIdx] at hx
    rcases Option.map_eq_some_iff.1 hx with ⟨c, hc, rfl⟩
    exact isBlank_of_choice _ (h.first c hc)
  · intro x hx
    rw [capitalise, List.getLast?_mapIdx] at hx
    rcases Option.map_eq_some_iff.1 hx with ⟨c, hc, rfl⟩
    exact isBlank_of_choice _ (h.last c hc)

/-- A small character comes back from its capital, wherever it stands: neither of them is the capital
sigma, the only character that looks at its neighbours. -/
theorem IsSmall.lowerAt_choice {c : Char} (h : IsSmall c) (b : Bool) (before after : List Char) :
    lowerAt before (if b then c.toUpper else c) after = [c] := by
  rcases capital_of_choice b c with hsame | hcapital
  · rw [hsame, lowerAt, if_neg h.ne_sigma, h.letter]
  · have hbounds := hcapital.bounds
    have hsigma : (if b then c.toUpper else c) ≠ capitalSigma := by
      intro hsigma
      rw [hsigma] at hbounds
      revert hbounds
      decide
    rw [lowerAt, if_neg hsigma, lowerLetter, if_pos (by omega), hcapital.toLower]

theorem lowerAfter_capitalise (before : List Char) (h : ∀ c ∈ cs, IsSmall c) :
    lowerAfter before (capitalise capital cs) = cs := by
  induction cs generalizing before capital with
  | nil =>
      rfl
  | cons c rest ih =>
      have hc : IsSmall c := h c List.mem_cons_self
      have hrest : ∀ d ∈ rest, IsSmall d := fun d hd => h d (List.mem_cons_of_mem _ hd)
      rw [capitalise_cons, lowerAfter_cons, hc.lowerAt_choice, ih _ hrest]
      rfl

/-- Lower case text comes back from any choice of capital letters. -/
theorem lower_capitalise (h : lower cs = cs) : lower (capitalise capital cs) = cs := by
  refine lowerAfter_capitalise [] ?_
  intro c hc
  rw [← h] at hc
  exact isSmall_of_mem_lower hc

end Text

/-! ## Layouts -/

structure Padding where
  chars : List Char
  blank : ∀ c ∈ chars, Text.isBlank c = true
  no_feed : '\n' ∉ chars

def Padding.ofChars (chars : List Char)
    (h : chars.all (fun c => Text.isBlank c && c != '\n') = true) : Padding where
  chars := chars
  blank := by
    intro c hc
    have hchar := List.all_eq_true.1 h c hc
    simp only [Bool.and_eq_true] at hchar
    exact hchar.1
  no_feed := by
    intro hfeed
    have hchar := List.all_eq_true.1 h '\n' hfeed
    simp at hchar

namespace Call

/-- A way to write a call: where its letters are capital, and the blanks around its parts. The
characters of each token and the arguments are counted from zero. -/
structure Layout where
  before : Padding
  nameCapital : Nat → Bool
  between : Padding
  /-- What stands between the parentheses if there are no arguments. -/
  hollow : Padding
  /-- What stands before an argument: behind the opening parenthesis or a comma. -/
  left : Nat → Padding
  argCapital : Nat → Nat → Bool
  /-- What stands behind an argument: before the closing parenthesis or a comma. -/
  right : Nat → Padding
  after : Padding

namespace Layout

def name (l : Layout) (c : Call) : List Char :=
  Text.capitalise l.nameCapital c.name.toList

def piece (l : Layout) (i : Nat) (arg : String) : List Char :=
  (l.left i).chars ++ (Text.capitalise (l.argCapital i) arg.toList ++ (l.right i).chars)

def body (l : Layout) (args : List String) : List Char :=
  if args.isEmpty then l.hollow.chars else [','].intercalate (args.mapIdx l.piece)

def write (l : Layout) (c : Call) : String :=
  String.ofList (l.before.chars ++ (l.name c ++ (l.between.chars ++
    '(' :: (l.body c.args ++ ')' :: l.after.chars))))

variable {l : Layout} {c : Call} {arg : String} {args : List String}

/-! ### Arguments -/

theorem argument_piece (h : NormalArgument arg) (i : Nat) : argument (l.piece i arg) = .ok arg := by
  have hne : Text.capitalise (l.argCapital i) arg.toList ≠ [] := by
    rw [Text.capitalise, ne_eq, List.mapIdx_eq_nil_iff]
    exact h.ne_nil
  exact argument_of_lower h (Text.trimmed_capitalise h.trimmed) hne (Text.lower_capitalise h.lower)
    (l.left i).blank (l.right i).blank

/-- A piece holds no more marks than its argument and the blanks around it. -/
theorem mem_piece {x : Char} {i : Nat} (hx : ¬ (0x41 ≤ x.toNat ∧ x.toNat ≤ 0x5A))
    (h : x ∈ l.piece i arg) : x ∈ (l.left i).chars ∨ x ∈ arg.toList ∨ x ∈ (l.right i).chars := by
  rcases List.mem_append.1 h with hleft | h
  · exact Or.inl hleft
  · rcases List.mem_append.1 h with harg | hright
    · exact Or.inr (Or.inl (Text.mem_of_mem_capitalise harg hx))
    · exact Or.inr (Or.inr hright)

theorem no_comma_piece (h : NormalArgument arg) (i : Nat) : ',' ∉ l.piece i arg := by
  have hblank (p : Padding) : ',' ∉ p.chars := by
    intro hc
    have hcomma := p.blank ',' hc
    revert hcomma
    decide
  intro hc
  rcases mem_piece (by decide) hc with hc | hc | hc
  · exact hblank _ hc
  · exact h.no_comma hc
  · exact hblank _ hc

theorem no_feed_piece (h : NormalArgument arg) (i : Nat) : '\n' ∉ l.piece i arg := by
  intro hc
  rcases mem_piece (by decide) hc with hc | hc | hc
  · exact (l.left i).no_feed hc
  · exact h.no_feed hc
  · exact (l.right i).no_feed hc

/-- Arguments are read from their pieces one by one. -/
theorem mapM_argument_mapIdx {piece : Nat → String → List Char}
    (h : ∀ i, ∀ arg ∈ args, argument (piece i arg) = .ok arg) :
    (args.mapIdx piece).mapM argument = .ok args := by
  induction args generalizing piece with
  | nil =>
      rfl
  | cons arg rest ih =>
      rw [List.mapIdx_cons]
      have hrest := ih fun i a ha => h (i + 1) a (List.mem_cons_of_mem _ ha)
      exact mapM_cons_eq_ok_iff.2 ⟨arg, rest, h 0 arg List.mem_cons_self, hrest, rfl⟩

theorem arguments_body (h : ∀ arg ∈ args, NormalArgument arg) :
    arguments (l.body args) = .ok args := by
  cases args with
  | nil =>
      exact if_pos (List.all_eq_true.2 l.hollow.blank)
  | cons first rest =>
      refine arguments_pieces ?_ ?_ (mapM_argument_mapIdx fun i arg harg => argument_piece (h arg harg) i)
      · rw [ne_eq, List.mapIdx_eq_nil_iff]
        exact List.cons_ne_nil first rest
      · intro piece hpiece
        rcases List.mem_mapIdx.1 hpiece with ⟨i, hi, rfl⟩
        exact no_comma_piece (h _ (List.getElem_mem hi)) i

theorem no_feed_body (h : ∀ arg ∈ args, NormalArgument arg) : '\n' ∉ l.body args := by
  unfold body
  split
  · exact l.hollow.no_feed
  · intro hc
    rcases mem_of_mem_intercalate hc with hsep | ⟨piece, hpiece, hc⟩
    · revert hsep
      decide
    · rcases List.mem_mapIdx.1 hpiece with ⟨i, hi, rfl⟩
      exact no_feed_piece (h _ (List.getElem_mem hi)) i hc

/-! ### Calls -/

theorem isNameChar_name (h : c.Normal) : ∀ x ∈ l.name c, isNameChar x = true := by
  intro x hx
  rcases Text.exists_of_mem_capitalise hx with ⟨y, hy, rfl | hcapital⟩
  · exact h.isNameChar x hy
  · exact isNameChar_iff.2 (Or.inl hcapital.bounds)

/-- A layout is a call in its parts, whatever blanks are left behind it. -/
theorem written (h : c.Normal) {after : List Char} (hafter : ∀ x ∈ after, Text.isBlank x = true) :
    Written (l.before.chars ++ (l.name c ++ (l.between.chars ++ '(' :: (l.body c.args ++ ')' :: after))))
      (l.name c) (l.body c.args) where
  name_ne_nil := by
    rw [name, Text.capitalise, ne_eq, List.mapIdx_eq_nil_iff]
    exact h.name_ne_nil
  name_chars := isNameChar_name h
  no_feed := no_feed_body h.args
  parts := ⟨_, _, _, rfl, l.before.blank, l.between.blank, hafter⟩

end Layout

/-- A normal argument with blanks around it is one argument. -/
theorem arguments_padded {arg : String} {left right : List Char} (h : NormalArgument arg)
    (hleft : ∀ c ∈ left, Text.isBlank c = true) (hright : ∀ c ∈ right, Text.isBlank c = true) :
    arguments (left ++ (arg.toList ++ right)) = .ok [arg] := by
  have hone := argument_of_lower h h.trimmed h.ne_nil h.lower hleft hright
  have hblank {run : List Char} (hrun : ∀ c ∈ run, Text.isBlank c = true) : ',' ∉ run :=
    fun hmem => absurd (hrun ',' hmem) (by decide)
  have hcomma : ',' ∉ left ++ (arg.toList ++ right) := by
    simp only [List.mem_append, not_or]
    exact ⟨hblank hleft, h.no_comma, hblank hright⟩
  have hpieces : arguments ([','].intercalate [left ++ (arg.toList ++ right)]) = .ok [arg] := by
    apply arguments_pieces (List.cons_ne_nil _ [])
    · simpa using hcomma
    · exact mapM_cons_eq_ok_iff.2 ⟨arg, [], hone, rfl, rfl⟩
  simpa using hpieces

end Call

/-! ## Lines -/

namespace SourceLine

/-- The line ends of a layout are blanks behind its closing parenthesis. -/
theorem contentOf_write {c : Call} (l : Call.Layout) (h : c.Normal) :
    contentOf (Text.dropEndWhile isLineEnd (l.write c).toList) = .ok (.call c) := by
  have hafter : ∀ x ∈ Text.dropEndWhile isLineEnd l.after.chars, Text.isBlank x = true := by
    intro x hx
    rcases Text.exists_dropEndWhile_append isLineEnd l.after.chars with ⟨ends, happend, _⟩
    refine l.after.blank x ?_
    rw [happend]
    exact List.mem_append_left _ hx
  have hstrip : Text.dropEndWhile isLineEnd (l.write c).toList =
      l.before.chars ++ (l.name c ++ (l.between.chars ++ '(' :: (l.body c.args ++
        ')' :: Text.dropEndWhile isLineEnd l.after.chars))) := by
    have hclose : isLineEnd ')' = false := by decide
    have hcut := Text.dropEndWhile_append_cons
      (l.before.chars ++ (l.name c ++ (l.between.chars ++ '(' :: l.body c.args))) hclose l.after.chars
    simpa [Call.Layout.write] using hcut
  rw [hstrip]
  refine contentOf_eq_call_iff.2 ⟨_, _, l.written h hafter, l.arguments_body h.args, ?_⟩
  have hname : Text.lower c.name.toList = c.name.toList := Call.lower_eq_self h.name_chars
  rw [Call.Layout.name, Text.lower_capitalise hname, String.ofList_toList]

/-- Every call that is read is normal, and every layout of a normal call is read as that call. -/
theorem parse_layouts :
    (∀ (text : String) (number : Int) (line : SourceLine) (c : Call),
      parse text number = .ok line → line.content = .call c → c.Normal) ∧
    (∀ (c : Call) (l : Call.Layout) (number : Int), c.Normal →
      ∃ line, Stripped (l.write c) line ∧
        parse (l.write c) number = .ok ⟨number, line, .call c⟩) := by
  refine ⟨?_, ?_⟩
  · intro text number line c hparse hcontent
    exact normal_of_parse hparse hcontent
  · intro c l number hnormal
    exact ⟨_, stripped_dropEndWhile (l.write c), parse_eq_ok_iff.2 (contentOf_write l hnormal)⟩

/-- A layout with capital letters, blanks of several kinds and a carriage return at its end. -/
def mixed : Call.Layout where
  before := .ofChars ['\u00a0'] (by decide)
  nameCapital i := i % 2 = 0
  between := .ofChars ['\t'] (by decide)
  hollow := .ofChars [] (by decide)
  left i := if i = 0 then .ofChars [' '] (by decide) else .ofChars ['\u2003'] (by decide)
  argCapital _ _ := true
  right i := if i = 0 then .ofChars ['\r'] (by decide) else .ofChars ['\u2003'] (by decide)
  after := .ofChars [' ', '\r'] (by decide)

/-- An argument with parentheses and with a letter that has a final form is read from this layout. -/
theorem parse_layouts_mixed :
    (⟨"input", ["#1 (λόγος) x", "data"]⟩ : Call).Normal ∧
      mixed.write ⟨"input", ["#1 (λόγος) x", "data"]⟩ =
        "\u00a0InPuT\t( #1 (λόγος) X\r,\u2003DATA\u2003) \r" ∧
      ∃ line, Stripped "\u00a0InPuT\t( #1 (λόγος) X\r,\u2003DATA\u2003) \r" line ∧
        parse "\u00a0InPuT\t( #1 (λόγος) X\r,\u2003DATA\u2003) \r" 7 =
          .ok ⟨7, line, .call ⟨"input", ["#1 (λόγος) x", "data"]⟩⟩ := by
  have hplain : parse "input(#1 (λόγος) x, data)" 1 =
      .ok ⟨1, "input(#1 (λόγος) x, data)", .call ⟨"input", ["#1 (λόγος) x", "data"]⟩⟩ := by
    decide +kernel
  have hnormal : (⟨"input", ["#1 (λόγος) x", "data"]⟩ : Call).Normal :=
    parse_layouts.1 _ _ _ _ hplain rfl
  have hwrite : mixed.write ⟨"input", ["#1 (λόγος) x", "data"]⟩ =
      "\u00a0InPuT\t( #1 (λόγος) X\r,\u2003DATA\u2003) \r" := by
    decide +kernel
  have hlayout := parse_layouts.2 _ mixed 7 hnormal
  rw [hwrite] at hlayout
  exact ⟨hnormal, hwrite, hlayout⟩

end SourceLine
end HidDescriptor
