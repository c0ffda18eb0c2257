import HidDescriptor.Proofs.Listings
import HidDescriptor.Table.Layers
import HidDescriptor.TableFile.Document

/-!
# Comments of array listings

The array form of a listing is content of a C array as long as no argument ends the comment that it
stands in.

- `Listing.scan`: the text outside of comments
- `Listing.Enclosed`: text that stays inside a comment
- `Listing.scan_comment`: the comment of one row
- `Listing.print_array_content`: listings of compiled sources
-/

namespace HidDescriptor
namespace Listing

/-! ## Text outside of comments -/

/-- Where a piece of text stands. -/
inductive Region
  | code
  | comment
  deriving DecidableEq

/-- The text outside of comments, and where the text ends. A comment runs from `/*` to the first
`*/` behind it. -/
def scan : Region → List Char → List Char × Region
  | region, [] => ([], region)
  | .code, '/' :: '*' :: rest => scan .comment rest
  | .comment, '*' :: '/' :: rest => scan .code rest
  | .code, c :: rest => (c :: (scan .code rest).1, (scan .code rest).2)
  | .comment, _ :: rest => scan .comment rest

/-- Nothing but `/*` ends a piece of code. -/
theorem scan_code_cons {c : Char} {rest : List Char} (h : ∀ tail, c = '/' → rest ≠ '*' :: tail) :
    scan .code (c :: rest) = (c :: (scan .code rest).1, (scan .code rest).2) := by
  rw [scan.eq_4]
  exact h

/-- Nothing but `*/` ends a comment. -/
theorem scan_comment_cons {c : Char} {rest : List Char} (h : ∀ tail, c = '*' → rest ≠ '/' :: tail) :
    scan .comment (c :: rest) = scan .comment rest := by
  rw [scan.eq_5]
  exact h

theorem scan_code_append {xs : List Char} (h : '/' ∉ xs) (ys : List Char) :
    scan .code (xs ++ ys) = (xs ++ (scan .code ys).1, (scan .code ys).2) := by
  induction xs with
  | nil =>
      rfl
  | cons c rest ih =>
      have hc : ∀ tail, c = '/' → rest ++ ys ≠ '*' :: tail :=
        fun _ hc => absurd (hc ▸ List.mem_cons_self) h
      rw [List.cons_append, scan_code_cons hc, ih fun hmem => h (List.mem_cons_of_mem _ hmem)]
      rfl

theorem scan_comment_append {xs : List Char} (h : '*' ∉ xs) (ys : List Char) :
    scan .comment (xs ++ ys) = scan .comment ys := by
  induction xs with
  | nil =>
      rfl
  | cons c rest ih =>
      have hc : ∀ tail, c = '*' → rest ++ ys ≠ '/' :: tail :=
        fun _ hc => absurd (hc ▸ List.mem_cons_self) h
      rw [List.cons_append, scan_comment_cons hc, ih fun hmem => h (List.mem_cons_of_mem _ hmem)]

/-- Text can be cut before a character that is no part of `/*` and `*/`. -/
theorem scan_append_cons (region : Region) (xs : List Char) {c : Char} (hslash : c ≠ '/')
    (hstar : c ≠ '*') (ys : List Char) :
    scan region (xs ++ c :: ys) =
      ((scan region xs).1 ++ (scan (scan region xs).2 (c :: ys)).1,
        (scan (scan region xs).2 (c :: ys)).2) := by
  -- A mark takes two characters, so what follows the cut must not complete one.
  fun_induction scan region xs with
  | case1 region =>
      rfl
  | case2 rest ih =>
      exact ih
  | case3 rest ih =>
      exact ih
  | case4 d rest hd ih =>
      have hnext : ∀ tail, d = '/' → rest ++ c :: ys ≠ '*' :: tail := by
        intro tail hslash hrest
        cases rest with
        | nil =>
            exact hstar (List.cons.inj hrest).1
        | cons e others =>
            exact hd others hslash (by rw [(List.cons.inj hrest).1])
      rw [List.cons_append, scan_code_cons hnext, ih]
      rfl
  | case5 d rest hd ih =>
      have hnext : ∀ tail, d = '*' → rest ++ c :: ys ≠ '/' :: tail := by
        intro tail hstar hrest
        cases rest with
        | nil =>
            exact hslash (List.cons.inj hrest).1
        | cons e others =>
            exact hd others hstar (by rw [(List.cons.inj hrest).1])
      rw [List.cons_append, scan_comment_cons hnext, ih]

/-- Text that stays inside a comment: what leaves the comment is white space, and the text ends
inside of a comment again. -/
structure Enclosed (text : List Char) : Prop where
  spacing : ∀ c ∈ (scan .comment text).1, isSpacing c = true
  ends : (scan .comment text).2 = .comment

/-- Text without `*/` stays inside a comment. -/
theorem enclosed_of_no_end {text : List Char} (h : ¬ ['*', '/'] <:+: text) : Enclosed text := by
  have hscan : scan .comment text = ([], .comment) := by
    induction text with
    | nil =>
        rfl
    | cons c rest ih =>
        have hc : ∀ tail, c = '*' → rest ≠ '/' :: tail := by
          rintro tail rfl rfl
          exact h ⟨[], tail, rfl⟩
        rw [scan_comment_cons hc]
        exact ih fun hpart => h (hpart.trans (List.suffix_cons c rest).isInfix)
  exact ⟨by simp [hscan], by rw [hscan]⟩

/-! ## Bytes outside of comments -/

theorem readBytes_eq_nil_iff {cs : List Char} :
    readBytes cs = some [] ↔ ∀ c ∈ cs, isSpacing c = true := by
  constructor
  · intro h
    fun_induction readBytes cs with
    | case1 =>
        simp
    | case2 high low rest ih =>
        rcases Option.bind_eq_some_iff.1 h with ⟨b, _, h⟩
        rcases Option.bind_eq_some_iff.1 h with ⟨bytes, _, h⟩
        cases h
    | case3 c rest _ hc ih =>
        intro d hd
        rcases List.mem_cons.1 hd with rfl | hd
        · exact hc
        · exact ih h d hd
    | case4 c rest _ hc =>
        cases h
  · intro h
    have hgap := readBytes_gap h []
    rwa [List.append_nil] at hgap

theorem hexDigit?_of_isSpacing {c : Char} (h : isSpacing c = true) :
    Numeral.hexDigit? c = none := by
  have hall : [' ', '\t', '\n', '\x0b', '\x0c', '\r'].all
      (fun c => (Numeral.hexDigit? c).isNone) = true := by
    decide
  exact Option.isNone_iff_eq_none.1 (List.all_eq_true.1 hall c (List.contains_iff_mem.1 h))

theorem byte?_of_isSpacing {high low : Char} (h : isSpacing high = true ∨ isSpacing low = true) :
    byte? high low = none := by
  rw [byte?]
  rcases h with h | h
  · rw [hexDigit?_of_isSpacing h]
    rfl
  · rw [hexDigit?_of_isSpacing h]
    cases Numeral.hexDigit? high <;> rfl

/-- A number is not read across white space. -/
theorem readBytes_append_cons (xs : List Char) {c : Char} (hc : isSpacing c = true)
    (ys : List Char) :
    readBytes (xs ++ c :: ys) =
      (readBytes xs).bind fun bytes => (readBytes ys).map (bytes ++ ·) := by
  fun_induction readBytes xs with
  | case1 =>
      rw [List.nil_append, readBytes_spacing hc]
      simp
  | case2 high low rest ih =>
      simp only [List.cons_append, readBytes.eq_2, ih]
      cases byte? high low <;> cases readBytes rest <;> cases readBytes ys <;> rfl
  | case3 d rest _ hd ih =>
      rw [List.cons_append, readBytes_spacing hd, ih]
  | case4 d rest hshape hd =>
      by_cases hnumber : ∃ high low tail, d = '0' ∧
          rest ++ c :: ys = 'x' :: high :: low :: ',' :: tail
      · rcases hnumber with ⟨high, low, tail, rfl, hrest⟩
        -- The number would end behind the white space, which stands for none of its characters.
        have hbyte : byte? high low = none := by
          rcases rest with _ | ⟨x, _ | ⟨h, _ | ⟨l, _ | ⟨comma, others⟩⟩⟩⟩
          · rw [(List.cons.inj hrest).1] at hc
            exact absurd hc (by decide)
          · simp only [List.cons_append, List.nil_append, List.cons.injEq] at hrest
            exact byte?_of_isSpacing (Or.inl (hrest.2.1 ▸ hc))
          · simp only [List.cons_append, List.nil_append, List.cons.injEq] at hrest
            exact byte?_of_isSpacing (Or.inr (hrest.2.2.1 ▸ hc))
          · simp only [List.cons_append, List.nil_append, List.cons.injEq] at hrest
            rw [hrest.2.2.2.1] at hc
            exact absurd hc (by decide)
          · simp only [List.cons_append, List.cons.injEq] at hrest
            rcases hrest with ⟨rfl, rfl, rfl, rfl, _⟩
            exact (hshape _ _ others rfl rfl).elim
        rw [List.cons_append, hrest, readBytes.eq_2, hbyte]
        rfl
      · rw [List.cons_append, readBytes.eq_3, if_neg hd]
        · rfl
        · intro high low tail hzero hrest
          exact hnumber ⟨high, low, tail, hzero, hrest⟩

/-! ## Rows -/

variable {before : List Record} {r : Record}

def argsText (r : Record) : List Char :=
  (", ".intercalate r.args).toList

/-- What stands outside of the comment of a row, behind its numbers. -/
def residue (before : List Record) (r : Record) : List Char :=
  (scan .comment
    (comment (offset before) (describe r.item r.args (indentAt before)).1 .array)).1

theorem caption_of_nil (h : r.args = []) : caption r.item r.args = r.item.title.toList := by
  simp [caption, h]

theorem caption_of_ne_nil (h : r.args ≠ []) :
    caption r.item r.args = r.item.title.toList ++ ' ' :: '(' :: (argsText r ++ [')']) := by
  simp [caption, argsText, h]

/-- The end of a row closes the comment. Where no comment is open, it is code. -/
theorem scan_end {tail : List Char} (h : ∀ c ∈ tail, c = '\t') :
    scan .comment (tail ++ ['*', '/']) = ([], .code) ∧
      scan .code (tail ++ ['*', '/']) = (tail ++ ['*', '/'], .code) := by
  have hstar : '*' ∉ tail := fun hmem => absurd (h _ hmem) (by decide)
  have hslash : '/' ∉ tail := fun hmem => absurd (h _ hmem) (by decide)
  exact ⟨scan_comment_append hstar _, scan_code_append hslash _⟩

/-- Text before a parenthesis at the end of a row. Once it has left the comment, the parenthesis
stands outside too. -/
theorem scan_parenthesis (text : List Char) {tail : List Char} (h : ∀ c ∈ tail, c = '\t') :
    (scan .comment (text ++ ')' :: (tail ++ ['*', '/']))).2 = .code ∧
      (readBytes (scan .comment (text ++ ')' :: (tail ++ ['*', '/']))).1 = some [] ↔
        Enclosed text) := by
  rcases scan_end h with ⟨hcomment, hcode⟩
  rw [scan_append_cons .comment text (by decide) (by decide)]
  cases hends : (scan .comment text).2 with
  | comment =>
      rw [scan_comment_cons (by simp), hcomment, List.append_nil]
      refine ⟨rfl, ?_⟩
      rw [readBytes_eq_nil_iff]
      exact ⟨fun hspacing => ⟨hspacing, hends⟩, fun henclosed => henclosed.spacing⟩
  | code =>
      -- The comment is closed in front of the parenthesis, which then stands outside.
      rw [scan_code_cons (by simp), hcode]
      refine ⟨rfl, ?_⟩
      rw [readBytes_eq_nil_iff]
      constructor
      · intro hspacing
        exact absurd (hspacing ')' (by simp)) (by decide)
      · intro henclosed
        have hcontra := henclosed.ends
        rw [hends] at hcontra
        cases hcontra

/-- The comment of a row always ends, and it encloses the description if and only if the arguments
leave nothing but white space outside. -/
theorem scan_comment (hsound : r.Sound) (hnested : Nesting.Nested Record.side (before ++ [r])) :
    (scan .comment
        (comment (offset before) (describe r.item r.args (indentAt before)).1 .array)).2 = .code ∧
      (readBytes (residue before r) = some [] ↔ Enclosed (argsText r)) := by
  have htabs : ∀ c ∈ (tabs 52 (describe r.item r.args (indentAt before)).1).toList, c = '\t' :=
    fun c hc => eq_tab_of_mem_tabs hc
  rw [residue, comment, toList_describe hnested]
  generalize (tabs 52 (describe r.item r.args (indentAt before)).1).toList = tail at htabs
  -- Up to the arguments there is nothing that could end the comment.
  have hstart (rest : List Char) :
      scan .comment (' ' :: (List.replicate (r.around before).length ' ' ++
        (r.item.title.toList ++ rest))) = scan .comment rest := by
    have hblanks : '*' ∉ ' ' :: List.replicate (r.around before).length ' ' := by
      simp
    have htitle : '*' ∉ r.item.title.toList := not_mem_title hsound (by decide) (by decide)
    rw [← List.cons_append, scan_comment_append hblanks, scan_comment_append htitle]
  by_cases hargs : r.args = []
  · have hnil : argsText r = [] := by simp [argsText, hargs]
    rw [caption_of_nil hargs, List.append_assoc, hstart, (scan_end htabs).1, hnil]
    exact ⟨rfl, fun _ => ⟨by simp [scan], rfl⟩, fun _ => rfl⟩
  · have hopen : scan .comment (' ' :: '(' :: (argsText r ++ ')' :: (tail ++ ['*', '/']))) =
        scan .comment (argsText r ++ ')' :: (tail ++ ['*', '/'])) := by
      rw [scan_comment_cons (by simp), scan_comment_cons (by simp)]
    have htext := caption_of_ne_nil hargs
    rw [htext, List.append_assoc, List.append_assoc, hstart]
    simp only [List.cons_append, List.append_assoc, List.nil_append]
    rw [hopen]
    exact scan_parenthesis _ htabs

/-- Outside of comments, a row leaves its numbers and its residue. -/
theorem scan_row (hsound : r.Sound) (hnested : Nesting.Nested Record.side (before ++ [r]))
    (text : List Char) :
    scan .code (rowOf .array before r ++ '\n' :: text) =
      (front .array r.encoding ++ (residue before r ++ '\n' :: (scan .code text).1),
        (scan .code text).2) := by
  have hfront : '/' ∉ front .array r.encoding := fun h => (mem_front h).1 rfl
  have hrow : scan .code (rowOf .array before r) =
      (front .array r.encoding ++ residue before r, .code) := by
    have hopen (text : List Char) :
        scan .code (Format.array.mark ++ text) = scan .comment text := rfl
    rw [rowOf, row, scan_code_append hfront, hopen, residue, (scan_comment hsound hnested).1]
  rw [scan_append_cons .code _ (by decide) (by decide), hrow, scan_code_cons (by simp),
    List.append_assoc]

/-- Numbers, the bytes of a residue, and what follows on further rows. -/
theorem readBytes_row (bytes : List UInt8) (rest code : List Char) :
    readBytes (front .array bytes ++ (rest ++ '\n' :: code)) =
      (readBytes rest).bind fun extra =>
        (readBytes code).map fun others => bytes ++ (extra ++ others) := by
  rw [readBytes_front, readBytes_append_cons rest (by decide)]
  cases readBytes rest <;> cases readBytes code <;> rfl

/-! ## Listings -/

def arrayText (before rest : List Record) : List Char :=
  (rowsFrom .array before rest).flatMap (· ++ ['\n'])

theorem scan_arrayText_cons {rest : List Record} (h : Record.Orderly (before ++ r :: rest)) :
    scan .code (arrayText before (r :: rest)) =
      (front .array r.encoding ++
        (residue before r ++ '\n' :: (scan .code (arrayText (before ++ [r]) rest)).1),
        (scan .code (arrayText (before ++ [r]) rest)).2) := by
  rcases h.of_split with ⟨hsound, hnested⟩
  rw [← scan_row hsound hnested, arrayText, rowsFrom, List.flatMap_cons, List.append_assoc]
  rfl

/-- Every comment of a listing ends. -/
theorem scan_arrayText_snd (before : List Record) {rest : List Record}
    (h : Record.Orderly (before ++ rest)) :
    (scan .code (arrayText before rest)).2 = .code := by
  induction rest generalizing before with
  | nil =>
      rfl
  | cons r rest ih =>
      rw [scan_arrayText_cons h]
      exact ih (before ++ [r]) (by simpa using h)

/-- Comments that enclose their descriptions leave the bytes of the records. -/
theorem readBytes_of_enclosed (before : List Record) {rest : List Record}
    (h : Record.Orderly (before ++ rest))
    (henclosed : ∀ r ∈ rest, Enclosed (argsText r)) :
    readBytes (scan .code (arrayText before rest)).1 = some (rest.flatMap Record.encoding) := by
  induction rest generalizing before with
  | nil =>
      rfl
  | cons r rest ih =>
      rcases h.of_split with ⟨hsound, hnested⟩
      have hresidue := (scan_comment hsound hnested).2.2 (henclosed r List.mem_cons_self)
      have hrest := ih (before ++ [r]) (by simpa using h)
        fun r hr => henclosed r (List.mem_cons_of_mem _ hr)
      rw [scan_arrayText_cons h, readBytes_row, hresidue, hrest]
      rfl

/-- What can be read holds the bytes of the records. It holds more where a description leaves its
comment. -/
theorem enclosed_of_readBytes (before : List Record) {rest : List Record}
    (h : Record.Orderly (before ++ rest))
    {read : List UInt8} (hread : readBytes (scan .code (arrayText before rest)).1 = some read) :
    (rest.flatMap Record.encoding).length ≤ read.length ∧
      (read = rest.flatMap Record.encoding → ∀ r ∈ rest, Enclosed (argsText r)) := by
  induction rest generalizing before read with
  | nil =>
      simp
  | cons r rest ih =>
      rcases h.of_split with ⟨hsound, hnested⟩
      rw [scan_arrayText_cons h, readBytes_row] at hread
      rcases Option.bind_eq_some_iff.1 hread with ⟨extra, hextra, hread⟩
      rcases Option.map_eq_some_iff.1 hread with ⟨others, hothers, rfl⟩
      rcases ih (before ++ [r]) (by simpa using h) hothers with ⟨hlength, henclosed⟩
      rw [List.flatMap_cons]
      refine ⟨by simp only [List.length_append]; omega, ?_⟩
      intro heq
      have hothers := List.append_cancel_left heq
      -- The other rows hold all their bytes already, so there is no room for more.
      have hnil : extra = [] := by
        have hlengths := congrArg List.length hothers
        rw [List.length_append] at hlengths
        exact List.length_eq_zero_iff.1 (by omega)
      subst hnil
      intro q hq
      rcases List.mem_cons.1 hq with rfl | hq
      · exact (scan_comment hsound hnested).2.1 hextra
      · exact henclosed hothers q hq

theorem Enclosed.join {first rest : List Char} (hfirst : Enclosed first) (hrest : Enclosed rest) :
    Enclosed (first ++ ',' :: ' ' :: rest) := by
  have hscan : scan .comment (first ++ ',' :: ' ' :: rest) =
      ((scan .comment first).1 ++ (scan .comment rest).1, (scan .comment rest).2) := by
    rw [scan_append_cons .comment first (by decide) (by decide), hfirst.ends,
      scan_comment_cons (by simp), scan_comment_cons (by simp)]
  refine ⟨?_, ?_⟩
  · intro c hc
    rw [hscan] at hc
    rcases List.mem_append.1 hc with hc | hc
    · exact hfirst.spacing c hc
    · exact hrest.spacing c hc
  · rw [hscan]
    exact hrest.ends

/-- Arguments that stay inside a comment one by one do so together. -/
theorem enclosed_argsText (h : ∀ arg ∈ r.args, Enclosed arg.toList) : Enclosed (argsText r) := by
  have hlist : argsText r = [',', ' '].intercalate (r.args.map String.toList) :=
    String.toList_intercalate
  rw [hlist]
  generalize r.args = args at h
  induction args with
  | nil =>
      exact ⟨by simp [scan], rfl⟩
  | cons first rest ih =>
      have hfirst := h first List.mem_cons_self
      have hrest := ih fun arg harg => h arg (List.mem_cons_of_mem _ harg)
      cases rest with
      | nil =>
          simpa using hfirst
      | cons second others =>
          rw [List.map_cons, List.map_cons, List.intercalate_cons_cons, List.append_assoc]
          exact hfirst.join hrest

/-- Without its comments, the array form of a listing is white space and the bytes of the
descriptor, if and only if no arguments leave the comment that they stand in. That is so if no
argument has `*/` in it. Every comment ends in any case. -/
theorem print_array_content {tables : Tables} {lines : List String} {d : Descriptor}
    (h : compileLines tables lines = .ok d) :
    ∃ text, print .array d.records = .ok text ∧ (scan .code text.toList).2 = .code ∧
      (readBytes (scan .code text.toList).1 = some d.data ↔
        ∀ r ∈ d.records, Enclosed (", ".intercalate r.args).toList) ∧
      ((∀ r ∈ d.records, ∀ arg ∈ r.args, ¬ ['*', '/'] <:+: arg.toList) →
        readBytes (scan .code text.toList).1 = some d.data) := by
  rcases orderly_of_compileLines h with ⟨horderly, hdata⟩
  have hprint := printFrom_eq_rows .array [] fun r hr => (horderly.sound r hr).payload
  refine ⟨String.ofList (arrayText [] d.records), hprint, ?_⟩
  rw [String.toList_ofList, hdata]
  refine ⟨scan_arrayText_snd [] horderly, ⟨?_, ?_⟩, ?_⟩
  · intro hread
    exact (enclosed_of_readBytes [] horderly hread).2 rfl
  · exact readBytes_of_enclosed [] horderly
  · intro hplain
    refine readBytes_of_enclosed [] horderly fun r hr => enclosed_argsText fun arg harg => ?_
    exact enclosed_of_no_end (hplain r hr arg harg)

/-- An argument that ends the comment and opens the next one. -/
theorem print_array_content_reopened :
    ∃ (tables : Tables) (lines : List String) (d : Descriptor) (text : String),
      compileLines tables lines = .ok d ∧ d.data = [0x81, 1] ∧ print .array d.records = .ok text ∧
      text = "\t0x81, 0x01,\t\t\t/* Input (a*/ /*b)\t\t\t\t*/\n" ∧
      readBytes (scan .code text.toList).1 = some d.data := by
  let tables : Tables := ⟨.empty, .empty, .empty, .ofList [("a*/ /*b", 1)]⟩
  let d : Descriptor := ⟨[⟨Function.input.item, [1], ["a*/ /*b"], 1⟩], [0x81, 1]⟩
  have hd : compileLines tables ["Input(a*/ /*b)"] = .ok d := by
    decide +kernel
  have henclosed : ∀ r ∈ d.records, Enclosed (", ".intercalate r.args).toList := by
    intro r hr
    rw [List.mem_singleton.1 hr]
    exact ⟨List.all_eq_true.1 (by decide +kernel), by decide +kernel⟩
  have hprint : print .array d.records =
      .ok "\t0x81, 0x01,\t\t\t/* Input (a*/ /*b)\t\t\t\t*/\n" := by
    decide +kernel
  rcases print_array_content hd with ⟨text, htext, _, hiff, _⟩
  have hsame := Except.ok.inj (htext.symm.trans hprint)
  exact ⟨tables, ["Input(a*/ /*b)"], d, text, hd, rfl, htext, hsame, hiff.2 henclosed⟩

/-- A flag of a table file that ends the comment it stands in. The rest of its row is no white space
and no number. -/
theorem print_array_escapes :
    ∃ (tree : FileTree) (tables : Tables) (d : Descriptor) (text : String),
      Tables.load TableFile.read tree (.directory "base") ["more"] = .ok tables ∧
      compileLines tables ["Input(a*/b)"] = .ok d ∧ print .array d.records = .ok text ∧
      String.ofList (scan .code text.toList).1 = "\t0x81, 0x01,\t\t\tb)\t\t\t\t\t*/\n" ∧
      readBytes (scan .code text.toList).1 ≠ some d.data := by
  let tree : FileTree :=
    ⟨[(["base"], .directory), (["base", "usage_pages.yml"], .file "led: 8\n".toUTF8.toList),
      (["base", "collections.yml"], .file "physical: 0\n".toUTF8.toList),
      (["base", "flags.yml"], .file "data: 0\n".toUTF8.toList),
      (["more"], .directory),
      (["more", "flags.yml"], .file "a*/b: 1\n".toUTF8.toList)]⟩
  let tables : Tables :=
    ⟨.ofList [("led", 8)], .empty, .ofList [("physical", 0)], .ofList [("data", 0), ("a*/b", 1)]⟩
  let d : Descriptor := ⟨[⟨Function.input.item, [1], ["a*/b"], 1⟩], [0x81, 1]⟩
  exact ⟨tree, tables, d, "\t0x81, 0x01,\t\t\t/* Input (a*/b)\t\t\t\t\t*/\n", by decide +kernel,
    by decide +kernel, by decide +kernel, by decide +kernel, by decide +kernel⟩

end Listing
end HidDescriptor
