import HidDescriptor.Listing
import HidDescriptor.Proofs.Decoding
import HidDescriptor.Proofs.NormalCalls
import HidDescriptor.Proofs.Numerals

/-!
# Listings read back

A listing tells the bytes of a descriptor, where each item starts, and how deep it stands in
collections.

- `Listing.readBytes`: the bytes that text of a C array denotes
- `Listing.cut`, `Listing.rowBytes`, `Listing.rowComment`: the parts of a row before and behind the
  mark of its comment
- `Record.around`: the collections that a record stands in
- `Record.Orderly`, `orderly_of_compileLines`: the records of compiled sources
- `Listing.indentAt_eq`: the indentation counts open collections
- `Listing.printFrom_eq_rows`: a listing is one row behind the other
- `Listing.Faithful`, `Listing.print_faithful`: listings of compiled sources
-/

namespace HidDescriptor
namespace Listing

/-! ## Reading bytes -/

/-- White space between the numbers of a C array. -/
def isSpacing (c : Char) : Bool :=
  [' ', '\t', '\n', '\x0b', '\x0c', '\r'].contains c

def byte? (high low : Char) : Option UInt8 := do
  let high ← Numeral.hexDigit? high
  let low ← Numeral.hexDigit? low
  some (UInt8.ofNat (16 * high + low))

/-- The bytes that text denotes: a sequence of `0xHH,` with any white space between. -/
def readBytes : List Char → Option (List UInt8)
  | [] => some []
  | '0' :: 'x' :: high :: low :: ',' :: rest => do
      let b ← byte? high low
      let bytes ← readBytes rest
      some (b :: bytes)
  | c :: rest => if isSpacing c then readBytes rest else none

/-- A byte as a number of a C array. -/
def token (b : UInt8) : List Char :=
  ['0', 'x', Text.hexDigit (b.toNat / 16), Text.hexDigit (b.toNat % 16), ',']

theorem readBytes_spacing {c : Char} (h : isSpacing c = true) (cs : List Char) :
    readBytes (c :: cs) = readBytes cs := by
  rw [readBytes.eq_3, if_pos h]
  rintro high low rest rfl
  exact absurd h (by decide)

theorem readBytes_gap {gap : List Char} (h : ∀ c ∈ gap, isSpacing c = true) (cs : List Char) :
    readBytes (gap ++ cs) = readBytes cs := by
  induction gap with
  | nil =>
      rfl
  | cons c rest ih =>
      rw [List.cons_append, readBytes_spacing (h c List.mem_cons_self)]
      exact ih fun c hc => h c (List.mem_cons_of_mem _ hc)

theorem byte?_hexDigit (b : UInt8) :
    byte? (Text.hexDigit (b.toNat / 16)) (Text.hexDigit (b.toNat % 16)) = some b := by
  have hb := b.toNat_lt
  have hvalue : 16 * (b.toNat / 16) + b.toNat % 16 = b.toNat := Nat.div_add_mod _ _
  rw [byte?, Numeral.hexDigit?_hexDigit _ (by omega), Numeral.hexDigit?_hexDigit _ (by omega)]
  show some (UInt8.ofNat (16 * (b.toNat / 16) + b.toNat % 16)) = some b
  rw [hvalue, UInt8.ofNat_toNat]

theorem readBytes_token (b : UInt8) (cs : List Char) :
    readBytes (token b ++ cs) = (readBytes cs).map (b :: ·) := by
  rw [token]
  simp only [List.cons_append, List.nil_append, readBytes.eq_2, byte?_hexDigit]
  cases readBytes cs <;> rfl

theorem toList_rawValues (bytes : List UInt8) :
    (rawValues bytes).toList = [' '].intercalate (bytes.map token) := by
  have htoken (b : UInt8) : ("0x" ++ Numeral.hexadecimal 2 b.toNat ++ ",").toList = token b := by
    have hdigits := Numeral.toList_hexadecimal_byte b.toNat_lt
    simp only [String.toList_append, hdigits, token]
    rfl
  have hlist : (rawValues bytes).toList = " ".toList.intercalate
      ((bytes.map fun b => "0x" ++ Numeral.hexadecimal 2 b.toNat ++ ",").map String.toList) :=
    String.toList_intercalate
  rw [hlist, List.map_map]
  exact congrArg _ (List.map_congr_left fun b _ => htoken b)

/-- The numbers of a row are read back, whatever follows them. -/
theorem readBytes_rawValues (bytes : List UInt8) (cs : List Char) :
    readBytes ((rawValues bytes).toList ++ cs) = (readBytes cs).map (bytes ++ ·) := by
  rw [toList_rawValues]
  induction bytes with
  | nil =>
      simp
  | cons b rest ih =>
      cases rest with
      | nil =>
          simpa using readBytes_token b cs
      | cons b' others =>
          rw [List.map_cons, List.map_cons, List.intercalate_cons_cons, ← List.map_cons,
            List.append_assoc, List.append_assoc, readBytes_token, List.singleton_append,
            readBytes_spacing (by decide), ih, Option.map_map]
          rfl

/-- No character of the numbers starts a comment or ends a row. -/
theorem mem_rawValues {bytes : List UInt8} {c : Char} (h : c ∈ (rawValues bytes).toList) :
    c ≠ '/' ∧ c ≠ '\n' := by
  have hdigit : ∀ d < 16, Text.hexDigit d ≠ '/' ∧ Text.hexDigit d ≠ '\n' := by
    decide
  rw [toList_rawValues] at h
  rcases Call.mem_of_mem_intercalate h with hsep | ⟨piece, hpiece, hc⟩
  · rw [List.mem_singleton.1 hsep]
    decide
  · rcases List.mem_map.1 hpiece with ⟨b, _, rfl⟩
    have hb := b.toNat_lt
    simp only [token, List.mem_cons, List.not_mem_nil, or_false] at hc
    rcases hc with rfl | rfl | rfl | rfl | rfl
    · decide
    · decide
    · exact hdigit _ (by omega)
    · exact hdigit _ (by omega)
    · decide

/-! ## Rows -/

/-- What stands before the first occurrence of a mark, and what stands behind it. -/
def cut (mark : List Char) : List Char → Option (List Char × List Char)
  | [] => none
  | c :: rest =>
      if mark <+: c :: rest then some ([], (c :: rest).drop mark.length)
      else (cut mark rest).map fun parts => (c :: parts.1, parts.2)

theorem cut_append {first : Char} {front : List Char} (h : first ∉ front) (second : Char)
    (back : List Char) :
    cut [first, second] (front ++ first :: second :: back) = some (front, back) := by
  induction front with
  | nil =>
      simp [cut]
  | cons c rest ih =>
      have hc : first ≠ c := fun hc => h (hc ▸ List.mem_cons_self)
      have hrest := ih fun hmem => h (List.mem_cons_of_mem _ hmem)
      rw [List.cons_append, cut, if_neg (by simp [hc]), hrest]
      rfl

def Format.mark : Format → List Char
  | .annotated => ['/', '/']
  | .array => ['/', '*']

/-- The bytes of a row: those before the mark. -/
def rowBytes (format : Format) (row : List Char) : Option (List UInt8) :=
  (cut format.mark row).bind fun parts => readBytes parts.1

/-- The comment of a row: what stands behind the mark. -/
def rowComment (format : Format) (row : List Char) : Option (List Char) :=
  (cut format.mark row).map (·.2)

/-- The description of an item without its indentation. -/
def caption (item : Item) (args : List String) : List Char :=
  (if args.isEmpty then item.title else item.title ++ " (" ++ ", ".intercalate args ++ ")").toList

/-- A comment on an item: a description at a level, behind the offset in annotated rows. -/
def IsComment (offset level : Nat) (text comment : List Char) : Format → Prop
  | .annotated => ∃ digits, Numeral.readHexadecimal digits = some offset ∧
      comment = ' ' :: (digits ++ ':' :: ' ' :: (List.replicate level ' ' ++ text))
  | .array => ∃ tabs, (∀ c ∈ tabs, c = '\t') ∧
      comment = ' ' :: (List.replicate level ' ' ++ (text ++ (tabs ++ ['*', '/'])))

def front : Format → List UInt8 → List Char
  | .annotated, bytes => (padRight 18 (rawValues bytes)).toList ++ [' ']
  | .array, bytes => '\t' :: ((rawValues bytes).toList ++ (tabs 40 (rawValues bytes)).toList)

def comment (offset : Nat) (description : String) : Format → List Char
  | .annotated =>
      ' ' :: ((Numeral.hexadecimal 3 offset).toList ++ ':' :: ' ' :: description.toList)
  | .array => ' ' :: (description.toList ++ ((tabs 52 description).toList ++ ['*', '/']))

def row (format : Format) (bytes : List UInt8) (offset : Nat) (description : String) : List Char :=
  front format bytes ++ (format.mark ++ comment offset description format)

theorem toList_line (format : Format) (bytes : List UInt8) (offset : Nat) (description : String) :
    (line format bytes offset description).toList =
      row format bytes offset description ++ ['\n'] := by
  cases format <;> simp [line, row, front, comment, Format.mark, String.toList_append]

theorem eq_tab_of_mem_tabs {column : Nat} {s : String} {c : Char} (h : c ∈ (tabs column s).toList) :
    c = '\t' := by
  rw [tabs, String.toList_ofList] at h
  exact List.eq_of_mem_replicate h

theorem mem_front {format : Format} {bytes : List UInt8} {c : Char} (h : c ∈ front format bytes) :
    c ≠ '/' ∧ c ≠ '\n' := by
  cases format with
  | annotated =>
      simp only [front, padRight, String.toList_append, String.toList_ofList, List.mem_append,
        List.mem_replicate, List.mem_singleton] at h
      rcases h with (h | ⟨_, rfl⟩) | rfl
      · exact mem_rawValues h
      · decide
      · decide
  | array =>
      simp only [front, List.mem_cons, List.mem_append] at h
      rcases h with rfl | h | h
      · decide
      · exact mem_rawValues h
      · rw [eq_tab_of_mem_tabs h]
        decide

/-- The bytes of a row are read back, whatever follows in the place of the mark. -/
theorem readBytes_front (format : Format) (bytes : List UInt8) (cs : List Char) :
    readBytes (front format bytes ++ cs) = (readBytes cs).map (bytes ++ ·) := by
  cases format with
  | annotated =>
      have hgap : ∀ c ∈ List.replicate (18 - (rawValues bytes).length) ' ' ++ [' '],
          isSpacing c = true := by
        intro c hc
        rcases List.mem_append.1 hc with hc | hc
        · rw [List.eq_of_mem_replicate hc]
          decide
        · rw [List.mem_singleton.1 hc]
          decide
      rw [front, padRight, String.toList_append, String.toList_ofList, List.append_assoc,
        List.append_assoc, readBytes_rawValues, ← List.append_assoc, readBytes_gap hgap]
  | array =>
      have hgap : ∀ c ∈ (tabs 40 (rawValues bytes)).toList, isSpacing c = true := by
        intro c hc
        rw [eq_tab_of_mem_tabs hc]
        decide
      rw [front, List.cons_append, readBytes_spacing (by decide), List.append_assoc,
        readBytes_rawValues, readBytes_gap hgap]

theorem cut_row (format : Format) (bytes : List UInt8) (offset : Nat) (description : String) :
    cut format.mark (row format bytes offset description) =
      some (front format bytes, comment offset description format) := by
  have hfront : '/' ∉ front format bytes := fun h => (mem_front h).1 rfl
  cases format <;> exact cut_append hfront _ _

end Listing

/-! ## Records of a compiled source -/

namespace Record

/-- The collections around a record: those that are open before it, or behind it if it is the end
of a collection. -/
def around (before : List Record) (r : Record) : List Record :=
  Nesting.unmatched side (if r.side = some .closing then before ++ [r] else before)

theorem side_cases (r : Record) :
    (r.side = some .opening ∧ r.item.name = "collection") ∨
      (r.side = some .closing ∧ r.item.name = "end_collection") ∨
      (r.side = none ∧ r.item.name ≠ "collection" ∧ r.item.name ≠ "end_collection") := by
  have hside : r.side = if r.item.name = "collection" then some .opening
      else if r.item.name = "end_collection" then some .closing else none := rfl
  by_cases hopen : r.item.name = "collection"
  · exact Or.inl ⟨by simp [hside, hopen], hopen⟩
  · by_cases hclose : r.item.name = "end_collection"
    · exact Or.inr (Or.inl ⟨by simp [hside, hclose], hclose⟩)
    · exact Or.inr (Or.inr ⟨by simp [hside, hopen, hclose], hopen, hclose⟩)

/-- Records that can be listed: sound ones with normal arguments, in which no collection ends before
it starts. -/
structure Orderly (records : List Record) : Prop where
  sound : ∀ r ∈ records, r.Sound
  nested : Nesting.Nested side records
  normal : ∀ r ∈ records, ∀ arg ∈ r.args, Call.NormalArgument arg

theorem orderly_nil : Orderly [] :=
  ⟨by simp, Nesting.nested_iff.2 rfl, by simp⟩

theorem Orderly.of_split {before after : List Record} {r : Record}
    (h : Orderly (before ++ r :: after)) : r.Sound ∧ Nesting.Nested side (before ++ [r]) := by
  have hnested := h.nested
  rw [← List.singleton_append, ← List.append_assoc] at hnested
  exact ⟨h.sound r (by simp), hnested.of_append⟩

/-- The record of an accepted call can be listed behind those before it. -/
theorem Orderly.answer {records : List Record} {state state' : ItemState} {tables : Tables}
    {c : Call} {number : Int} {r : Record} (h : Orderly records) (htracks : state.Tracks records)
    (hc : c.Normal) (hanswer : state.answer tables c number = .ok (state', r)) :
    Orderly (records ++ [r]) := by
  have hsound := (htracks.answer hanswer).1
  rcases ItemState.answer_eq_ok hanswer with ⟨f, outcome, _, _, hadvance, hr⟩
  have hitem : r.item = f.item := by rw [hr]
  have hargs : r.args = c.args := by rw [hr]
  -- The end of a collection is accepted only where a scope is open.
  have hopen : r.side = some .closing → Nesting.unmatched side records ≠ [] := by
    intro hside hnone
    have hscopes : state.scopes ≠ [] :=
      Function.advance_isOk_iff.1 ⟨state', hadvance⟩ ((side_eq_closing_iff hitem).1 hside)
    exact hscopes (by rw [htracks.scopes, hnone]; rfl)
  refine ⟨?_, Nesting.nested_concat_iff.2 ⟨h.nested, hopen⟩, ?_⟩
  · intro q hq
    rcases List.mem_append.1 hq with hq | hq
    · exact h.sound q hq
    · rw [List.mem_singleton.1 hq]
      exact hsound
  · intro q hq
    rcases List.mem_append.1 hq with hq | hq
    · exact h.normal q hq
    · rw [List.mem_singleton.1 hq, hargs]
      exact hc.args

end Record

theorem Session.Tracks.orderly_feedAll {s s' : Session} {number : Int} {lines : List String}
    (htracks : s.Tracks) (h : Record.Orderly s.records)
    (hrun : s.feedAll number lines = (s', .ok ())) : Record.Orderly s'.records := by
  induction lines generalizing s number with
  | nil =>
      cases hrun
      exact h
  | cons text rest ih =>
      rcases feedAll_cons_eq_ok.1 hrun with ⟨line, s₁, hparse, hfeed, hrest⟩
      rcases feed_eq_ok hfeed with ⟨_, ⟨_, rfl⟩ | ⟨c, state, r, hc, _, hanswer, rfl⟩⟩
      · exact ih htracks h hrest
      · have hnormal := SourceLine.normal_of_parse hparse hc
        exact ih (htracks.extend hanswer) (h.answer htracks.state hnormal hanswer) hrest

/-- The records of a compiled source can be listed, and its bytes are theirs. -/
theorem orderly_of_compileLines {tables : Tables} {lines : List String} {d : Descriptor}
    (h : compileLines tables lines = .ok d) :
    Record.Orderly d.records ∧ d.data = d.records.flatMap Record.encoding := by
  rcases compileLines_eq_ok.1 h with ⟨s, hrun, _, _, rfl⟩
  have hstart := Session.tracks_start tables
  exact ⟨hstart.orderly_feedAll Record.orderly_nil hrun, (hstart.feedAll hrun).data⟩

namespace Listing

/-! ## Indentation -/

def indentAt (before : List Record) : Int :=
  before.foldl (fun indent r => (describe r.item r.args indent).2) 0

theorem indentAt_concat (before : List Record) (r : Record) :
    indentAt (before ++ [r]) = (describe r.item r.args (indentAt before)).2 := by
  rw [indentAt, List.foldl_concat]
  rfl

/-- The indentation is the number of open collections. -/
theorem indentAt_eq {before : List Record} (h : Nesting.Nested Record.side before) :
    indentAt before = (Nesting.unmatched Record.side before).length := by
  induction before using List.reverseRecOn with
  | nil =>
      rfl
  | append_singleton before r ih =>
      rcases Nesting.nested_concat_iff.1 h with ⟨hbefore, hclose⟩
      rw [indentAt_concat, ih hbefore]
      rcases r.side_cases with ⟨hside, hname⟩ | ⟨hside, hname⟩ | ⟨hside, hname, hname'⟩
      · rw [Nesting.unmatched_append_opening hside, List.length_append]
        simp [describe, hname]
      · -- There is a collection to close, so the indentation does not end at zero by force.
        have hpos := List.length_pos_of_ne_nil (hclose hside)
        rw [Nesting.unmatched_append_closing hside, List.length_dropLast]
        simp [describe, hname]
        omega
      · rw [Nesting.unmatched_append_none hside]
        simp [describe, hname, hname']

/-- The end of a collection takes back an indentation that there is. -/
theorem indentAt_pos {before : List Record} {r : Record}
    (h : Nesting.Nested Record.side (before ++ [r])) (hside : r.side = some .closing) :
    0 < indentAt before := by
  rcases Nesting.nested_concat_iff.1 h with ⟨hbefore, hclose⟩
  have hpos := List.length_pos_of_ne_nil (hclose hside)
  rw [indentAt_eq hbefore]
  omega

/-- A record is described at the level of the collections around it. -/
theorem toList_describe {before : List Record} {r : Record}
    (h : Nesting.Nested Record.side (before ++ [r])) :
    (describe r.item r.args (indentAt before)).1.toList =
      List.replicate (r.around before).length ' ' ++ caption r.item r.args := by
  rw [indentAt_eq h.of_append]
  simp only [describe, caption, Record.around, String.toList_append, String.toList_ofList]
  rcases r.side_cases with ⟨hside, hname⟩ | ⟨hside, hname⟩ | ⟨hside, _, hname⟩
  · simp [hside, hname]
  · rw [if_pos hname, if_pos hside, Nesting.unmatched_append_closing hside, List.length_dropLast]
    congr 2
    omega
  · simp [hside, hname]

/-- Titles are words of letters. -/
theorem title_chars (f : Function) :
    (∀ c ∈ f.item.title.toList, c = ' ' ∨ c.isAlpha = true) ∧
      f.item.title.toList.head?.any Char.isAlpha = true := by
  have hall : f.item.title.toList.all (fun c => c == ' ' || c.isAlpha) = true := by
    cases f <;> decide +kernel
  refine ⟨?_, by cases f <;> decide +kernel⟩
  intro c hc
  simpa using List.all_eq_true.1 hall c hc

theorem not_mem_title {r : Record} {c : Char} (hsound : r.Sound) (hblank : c ≠ ' ')
    (hletter : c.isAlpha = false) : c ∉ r.item.title.toList := by
  rcases hsound.item with ⟨f, hf⟩
  intro h
  rw [hf] at h
  rcases (title_chars f).1 c h with h | h
  · exact hblank h
  · rw [hletter] at h
    cases h

theorem no_feed_caption {r : Record} (hsound : r.Sound)
    (hnormal : ∀ arg ∈ r.args, Call.NormalArgument arg) : '\n' ∉ caption r.item r.args := by
  have htitle : '\n' ∉ r.item.title.toList := not_mem_title hsound (by decide) (by decide)
  have hargs := Call.no_feed_intercalate hnormal
  unfold caption
  split
  · exact htitle
  · simp only [String.toList_append, List.mem_append, not_or]
    exact ⟨⟨⟨htitle, by decide⟩, hargs⟩, by decide⟩

theorem caption_start {r : Record} (hsound : r.Sound) :
    ∃ c rest, caption r.item r.args = c :: rest ∧ c ≠ ' ' := by
  rcases hsound.item with ⟨f, hf⟩
  have hhead := (title_chars f).2
  cases htitle : f.item.title.toList with
  | nil =>
      rw [htitle] at hhead
      cases hhead
  | cons c rest =>
      rw [htitle] at hhead
      have hc : c ≠ ' ' := by
        rintro rfl
        have hblank : Char.isAlpha ' ' = false := by decide
        exact absurd hhead (by simp [hblank])
      unfold caption
      split
      · exact ⟨c, rest, by rw [hf, htitle], hc⟩
      · exact ⟨c, rest ++ (" (" ++ ", ".intercalate r.args ++ ")").toList, by simp [hf, htitle], hc⟩

/-! ## Rows of records -/

def offset (before : List Record) : Nat :=
  (before.flatMap Record.encoding).length

theorem offset_concat (before : List Record) (r : Record) :
    offset (before ++ [r]) = offset before + r.encoding.length := by
  simp [offset]

def rowOf (format : Format) (before : List Record) (r : Record) : List Char :=
  row format r.encoding (offset before) (describe r.item r.args (indentAt before)).1

def rowsFrom (format : Format) (before : List Record) : List Record → List (List Char)
  | [] => []
  | r :: rest => rowOf format before r :: rowsFrom format (before ++ [r]) rest

/-- Offset and indentation of a listing are those of the records before. -/
theorem linesFrom_eq_rows (format : Format) (before : List Record) {rest : List Record}
    (h : ∀ r ∈ rest, r.payload.Emittable) :
    linesFrom format (offset before) (indentAt before) rest =
      (rowsFrom format before rest).map fun row => .ok (String.ofList (row ++ ['\n'])) := by
  -- Offset and indentation are those of the records in front, which grow from line to line.
  induction rest generalizing before with
  | nil =>
      rfl
  | cons r rest ih =>
      have hrest := ih (before ++ [r]) fun r hr => h r (List.mem_cons_of_mem _ hr)
      rw [offset_concat, indentAt_concat] at hrest
      have hline : line format r.encoding (offset before)
            (describe r.item r.args (indentAt before)).1 =
          String.ofList (rowOf format before r ++ ['\n']) := by
        apply String.toList_inj.1
        simp [toList_line, rowOf]
      rw [linesFrom, Record.bytes_eq (h r List.mem_cons_self)]
      exact congrArg₂ List.cons (congrArg Except.ok hline) hrest

theorem printFrom_eq_rows (format : Format) (before : List Record) {rest : List Record}
    (h : ∀ r ∈ rest, r.payload.Emittable) :
    printFrom format (offset before) (indentAt before) rest =
      .ok (String.ofList ((rowsFrom format before rest).flatMap (· ++ ['\n']))) := by
  rw [printFrom, linesFrom_eq_rows format before h, List.mapM_map]
  refine (congrArg (Except.map String.join) List.mapM_pure).trans (congrArg Except.ok ?_)
  apply String.toList_inj.1
  simp [String.toList_join, List.flatMap_map]

theorem rowsFrom_append (format : Format) (before mid rest : List Record) :
    rowsFrom format before (mid ++ rest) =
      rowsFrom format before mid ++ rowsFrom format (before ++ mid) rest := by
  induction mid generalizing before with
  | nil =>
      simp [rowsFrom]
  | cons r mid ih =>
      simp [rowsFrom, ih]

/-- A listing goes on with the offset and the indentation that it has reached. -/
theorem exists_printFrom_split (format : Format) {records before after : List Record}
    (h : ∀ r ∈ records, r.payload.Emittable) (hsplit : records = before ++ after) :
    ∃ first rest, printFrom format 0 0 before = .ok first ∧
      printFrom format (offset before) (indentAt before) after = .ok rest ∧
      print format records = .ok (first ++ rest) := by
  subst hsplit
  refine ⟨_, _, printFrom_eq_rows format [] fun r hr => h r (List.mem_append_left _ hr),
    printFrom_eq_rows format before fun r hr => h r (List.mem_append_right _ hr), ?_⟩
  have hwhole := printFrom_eq_rows format [] h
  rw [rowsFrom_append, List.flatMap_append, String.ofList_append, List.nil_append] at hwhole
  exact hwhole

theorem length_rowsFrom (format : Format) (before rest : List Record) :
    (rowsFrom format before rest).length = rest.length := by
  induction rest generalizing before with
  | nil =>
      rfl
  | cons r rest ih =>
      simp [rowsFrom, ih]

theorem getElem?_rowsFrom (format : Format) (before after : List Record) (r : Record) :
    (rowsFrom format [] (before ++ r :: after))[before.length]? = some (rowOf format before r) := by
  rw [rowsFrom_append, List.getElem?_append_right (by rw [length_rowsFrom]), length_rowsFrom,
    Nat.sub_self]
  rfl

theorem exists_of_mem_rowsFrom {format : Format} {before rest : List Record} {text : List Char}
    (h : text ∈ rowsFrom format before rest) :
    ∃ mid r after, rest = mid ++ r :: after ∧ text = rowOf format (before ++ mid) r := by
  induction rest generalizing before with
  | nil =>
      cases h
  | cons r rest ih =>
      rcases List.mem_cons.1 h with rfl | h
      · exact ⟨[], r, rest, rfl, by simp⟩
      · rcases ih h with ⟨mid, q, after, rfl, rfl⟩
        exact ⟨r :: mid, q, after, rfl, by simp⟩

theorem rowBytes_rowOf (format : Format) (before : List Record) (r : Record) :
    rowBytes format (rowOf format before r) = some r.encoding := by
  have hread := readBytes_front format r.encoding []
  rw [List.append_nil] at hread
  rw [rowBytes, rowOf, cut_row, Option.bind_some, hread]
  simp [readBytes]

theorem mapM_rowBytes (format : Format) (before rest : List Record) :
    (rowsFrom format before rest).mapM (rowBytes format) = some (rest.map Record.encoding) := by
  induction rest generalizing before with
  | nil =>
      rfl
  | cons r rest ih =>
      rw [rowsFrom, List.mapM_cons, rowBytes_rowOf, ih]
      rfl

structure Shows (format : Format) (row : List Char) (bytes : List UInt8) (offset level : Nat)
    (text : List Char) : Prop where
  /-- The bytes stand before the mark. -/
  bytes : rowBytes format row = some bytes
  /-- Behind it stands the description with a blank for each level, and the offset before it in
  annotated rows. -/
  comment : ∃ comment, rowComment format row = some comment ∧
    IsComment offset level text comment format
  /-- The description starts with no blank itself. -/
  start : ∃ c rest, text = c :: rest ∧ c ≠ ' '

variable {before : List Record} {r : Record}

theorem shows_rowOf (format : Format) (hsound : r.Sound)
    (hnested : Nesting.Nested Record.side (before ++ [r])) :
    Shows format (rowOf format before r) r.encoding (offset before) (r.around before).length
      (caption r.item r.args) := by
  refine ⟨rowBytes_rowOf format before r, ⟨_, by rw [rowComment, rowOf, cut_row]; rfl, ?_⟩,
    caption_start hsound⟩
  have htext := toList_describe hnested
  cases format with
  | annotated =>
      refine ⟨(Numeral.hexadecimal 3 (offset before)).toList,
        Numeral.readHexadecimal_hexadecimal 3 (offset before), ?_⟩
      rw [comment, htext]
  | array =>
      refine ⟨(tabs 52 (describe r.item r.args (indentAt before)).1).toList,
        fun c hc => eq_tab_of_mem_tabs hc, ?_⟩
      rw [comment, htext, List.append_assoc]

theorem no_feed_rowOf (format : Format) (hsound : r.Sound)
    (hnormal : ∀ arg ∈ r.args, Call.NormalArgument arg)
    (hnested : Nesting.Nested Record.side (before ++ [r])) : '\n' ∉ rowOf format before r := by
  have htext : '\n' ∉ (describe r.item r.args (indentAt before)).1.toList := by
    rw [toList_describe hnested, List.mem_append]
    rintro (h | h)
    · exact absurd (List.eq_of_mem_replicate h) (by decide)
    · exact no_feed_caption hsound hnormal h
  have hcomment :
      '\n' ∉ comment (offset before) (describe r.item r.args (indentAt before)).1 format := by
    cases format with
    | annotated =>
        have hdigit : ∀ d < 16, '\n' ≠ Text.hexDigit d := by
          decide
        have hoffset : '\n' ∉ (Numeral.hexadecimal 3 (offset before)).toList := by
          intro h
          rcases Numeral.exists_of_mem_hexadecimal h with ⟨d, hd, hc⟩
          exact hdigit d hd hc
        simp [comment, hoffset, htext]
    | array =>
        simp [comment, tabs, htext]
  simp only [rowOf, row, List.mem_append]
  rintro (h | h | h)
  · exact (mem_front h).2 rfl
  · cases format <;> exact absurd h (by decide)
  · exact hcomment h

/-! ## Listings of compiled sources -/

/-- The end of a collection stands where the collection that it closes stands. -/
theorem exists_partner (hnested : Nesting.Nested Record.side (before ++ [r]))
    (hside : r.side = some .closing) :
    ∃ outer q inner, before = outer ++ q :: inner ∧ q.side = some .opening ∧
      Nesting.Balanced Record.side inner ∧ r.around before = q.around outer := by
  have hopen := (Nesting.nested_concat_iff.1 hnested).2 hside
  rcases Nesting.exists_last_unmatched hopen with ⟨outer, q, inner, hbefore, hq, hinner, hlast⟩
  refine ⟨outer, q, inner, hbefore, hq, hinner, ?_⟩
  rw [Record.around, Record.around, if_pos hside, Nesting.unmatched_append_closing hside, hlast,
    List.dropLast_concat, if_neg (by simp [hq])]

/-- The rows of a listing tell the descriptor. -/
structure Faithful (format : Format) (d : Descriptor) (rows : List (List Char)) : Prop where
  /-- The listing is made of the rows, each with a line feed behind it. -/
  printed : print format d.records = .ok (String.ofList (rows.flatMap (· ++ ['\n'])))
  /-- There is no other line feed. -/
  whole : ∀ row ∈ rows, '\n' ∉ row
  /-- There is one row for each item. -/
  length : rows.length = d.records.length
  /-- The bytes before the marks are those of the descriptor. -/
  data : ∃ read, rows.mapM (rowBytes format) = some read ∧ read.flatten = d.data
  /-- The row of an item shows its bytes, where they start, and a description at the level of the
  collections around it. -/
  shows : ∀ before r after, d.records = before ++ r :: after →
    ∃ row bytes, rows[before.length]? = some row ∧ r.bytes = .ok bytes ∧
      d.data = before.flatMap Record.encoding ++ (bytes ++ after.flatMap Record.encoding) ∧
      Shows format row bytes (before.flatMap Record.encoding).length (r.around before).length
        (caption r.item r.args)
  /-- The end of a collection stands at the level of the collection that it closes. -/
  ends : ∀ before r after, d.records = before ++ r :: after → r.side = some .closing →
    ∃ outer q inner, before = outer ++ q :: inner ∧ q.side = some .opening ∧
      Nesting.Balanced Record.side inner ∧ r.around before = q.around outer
  /-- The listing comes to an item with the indentation of the items before, and the end of a
  collection finds an indentation to take back. -/
  unclamped : ∀ before r after, d.records = before ++ r :: after →
    ∃ first rest, printFrom format 0 0 before = .ok first ∧
      printFrom format (offset before) (indentAt before) (r :: after) = .ok rest ∧
      print format d.records = .ok (first ++ rest) ∧
      (r.item.name = "end_collection" → max (indentAt before - 1) 0 = indentAt before - 1)

/-- A listing is faithful to the bytes and to the collections of a compiled source. -/
theorem print_faithful {tables : Tables} {lines : List String} {d : Descriptor}
    (h : compileLines tables lines = .ok d) (format : Format) :
    ∃ rows, Faithful format d rows := by
  rcases orderly_of_compileLines h with ⟨horderly, hdata⟩
  -- The records up to each one are nested, since the whole of them is.
  have hat {before after : List Record} {r : Record} (hsplit : d.records = before ++ r :: after) :
      r.Sound ∧ Nesting.Nested Record.side (before ++ [r]) := by
    rw [hsplit] at horderly
    exact horderly.of_split
  have hemit : ∀ r ∈ d.records, r.payload.Emittable := fun r hr => (horderly.sound r hr).payload
  refine ⟨rowsFrom format [] d.records, ?_, ?_, length_rowsFrom _ _ _, ?_, ?_, ?_, ?_⟩
  · exact printFrom_eq_rows format [] hemit
  · intro row hrow
    rcases exists_of_mem_rowsFrom hrow with ⟨before, r, after, hsplit, rfl⟩
    rcases hat hsplit with ⟨hsound, hnested⟩
    exact no_feed_rowOf format hsound (horderly.normal r (by simp [hsplit])) hnested
  · exact ⟨_, mapM_rowBytes format [] d.records, by rw [hdata, List.flatMap_def]⟩
  · intro before r after hsplit
    rcases hat hsplit with ⟨hsound, hnested⟩
    refine ⟨_, r.encoding, by rw [hsplit]; exact getElem?_rowsFrom format before after r,
      Record.bytes_eq hsound.payload, ?_, shows_rowOf format hsound hnested⟩
    rw [hdata, hsplit, List.flatMap_append, List.flatMap_cons]
  · intro before r after hsplit
    exact exists_partner (hat hsplit).2
  · intro before r after hsplit
    rcases exists_printFrom_split format hemit hsplit with ⟨first, rest, hfirst, hrest, hwhole⟩
    refine ⟨first, rest, hfirst, hrest, hwhole, fun hname => ?_⟩
    -- An end has its collection in front of it, so it is indented by one at least.
    have hside : r.side = some .closing := by
      rcases r.side_cases with ⟨_, h⟩ | ⟨h, _⟩ | ⟨_, _, h⟩
      · exact absurd (h.symm.trans hname) (by decide)
      · exact h
      · exact absurd hname h
    have hpos := indentAt_pos (hat hsplit).2 hside
    omega

/-- Collections in a collection, and a page whose name has both marks in it. -/
theorem print_faithful_nested :
    ∃ (tables : Tables) (lines : List String) (d : Descriptor),
      compileLines tables lines = .ok d ∧
      print .annotated d.records = .ok
        ("0x05, 0x09,        // 000: Usage Page (a // 0x00 /* b)\n" ++
          "0xa1, 0x02,        // 002: Collection (logical)\n" ++
          "0xa2, 0x2c, 0x01,  // 004:  Collection (300)\n" ++
          "0x81, 0x02,        // 007:   Input (data, var)\n" ++
          "0xc0,              // 009:  End Collection\n" ++
          "0xc0,              // 00a: End Collection\n") ∧
      ∀ format, ∃ rows, Faithful format d rows := by
  let tables : Tables :=
    ⟨.ofList [("a // 0x00 /* b", 9)], .empty, .ofList [("logical", 2)],
      .ofList [("data", 0), ("var", 2)]⟩
  let lines : List String :=
    ["Usage_Page(a // 0x00 /* b)", "Collection(Logical)", "Collection(300)", "Input(data, var)",
      "End_Collection()", "End_Collection()"]
  let d : Descriptor :=
    ⟨[⟨Function.usagePage.item, [9], ["a // 0x00 /* b"], 1⟩,
        ⟨Function.collection.item, [2], ["logical"], 2⟩,
        ⟨Function.collection.item, [0x2C, 1], ["300"], 3⟩,
        ⟨Function.input.item, [2], ["data", "var"], 4⟩, ⟨Function.endCollection.item, [], [], 5⟩,
        ⟨Function.endCollection.item, [], [], 6⟩],
      [0x05, 9, 0xA1, 2, 0xA2, 0x2C, 1, 0x81, 2, 0xC0, 0xC0]⟩
  have hd : compileLines tables lines = .ok d := by
    decide +kernel
  exact ⟨tables, lines, d, hd, by decide +kernel, print_faithful hd⟩

end Listing
end HidDescriptor
