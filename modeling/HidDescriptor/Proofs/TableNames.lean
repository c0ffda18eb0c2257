import HidDescriptor.Proofs.Diagnosis
import HidDescriptor.Proofs.Enumerations
import HidDescriptor.Proofs.Limits
import HidDescriptor.Proofs.NormalCalls
import HidDescriptor.Proofs.TableData
import HidDescriptor.Proofs.Widths

/-!
# Names of tables in source

Table files and source lines bring names to the same form, so a name of a table can be written in
source as it is written in its file.

- `Table.ofDatum_induction`: what the entries of every table file keep up
- `Table.normal_ofDatum`: the names of tables
- `Enumeration.buildFrom_eq_ok_iff`: entries are read, and then carried out
- `parse_collectionLine`, `compileLines_collection`: a name between the parentheses of a call
- `compileLines_reaches_names`: collections by the names of their table
-/

namespace HidDescriptor

/-! ## Tables of all files -/

/-- The names in directives of table files are in the form of table names. -/
theorem Directive.exists_nameOf {raw : Datum} {directive : Directive} {name : String}
    (h : ofDatum raw = .ok directive) (hname : directive.name? = some name) :
    ∃ s, name = Table.nameOf s := by
  rcases ofDatum_cases h with ⟨s, _, rfl⟩ | ⟨_, s, _, _, rfl⟩ | ⟨_, rfl⟩ | ⟨_, _, _, _, rfl⟩ |
    ⟨_, _, _, _, rfl⟩
  · exact ⟨s, (Option.some.inj hname).symm⟩
  · exact ⟨s, (Option.some.inj hname).symm⟩
  · cases hname
  · cases hname
  · cases hname

namespace Enumeration

theorem eq_insert_of_put {table table' : Table} {name : String} {value : Int}
    (h : put table name value = .ok table') : table' = Dictionary.insert table name value := by
  unfold put at h
  split at h
  · cases h
  · cases h
    rfl

/-- A directive enters its name, if it has one, with the next code or with the latest one. -/
theorem table_step {e e' : Enumeration} {directive : Directive} (h : e.step directive = .ok e') :
    e'.table = e.table ∨
      ∃ name value, directive.name? = some name ∧ (value = e.next ∨ e.latest = some value) ∧
        e'.table = Dictionary.insert e.table name value := by
  cases directive with
  | assign name =>
      rcases bind_eq_ok_iff.1 h with ⟨table, hput, h⟩
      cases h
      exact Or.inr ⟨name, e.next, rfl, Or.inl rfl, eq_insert_of_put hput⟩
  | «alias» name =>
      rw [step] at h
      split at h
      next =>
        cases h
      next code hlatest =>
        rcases bind_eq_ok_iff.1 h with ⟨table, hput, h⟩
        cases h
        exact Or.inr ⟨name, code, rfl, Or.inr hlatest, eq_insert_of_put hput⟩
  | _ =>
      rw [step] at h
      split at h
      · cases h
      · cases h
        exact Or.inl rfl

end Enumeration

namespace Table

section Induction

variable {P : Table → Prop}
  (hinsert : ∀ table s value, P table → 0 ≤ value → P (Dictionary.insert table (nameOf s) value))

include hinsert

theorem runEntries_induction {e e' : Enumeration} {entries : List Datum} (hnatural : e.Natural)
    (he : P e.table) (h : Enumeration.runEntries Directive.ofDatum e entries = .ok e') :
    P e'.table := by
  induction entries generalizing e with
  | nil =>
      cases h
      exact he
  | cons entry rest ih =>
      rw [Enumeration.runEntries_cons] at h
      rcases bind_eq_ok_iff.1 h with ⟨e₁, hcarry, h⟩
      rcases bind_eq_ok_iff.1 hcarry with ⟨directive, hread, hstep⟩
      refine ih (hnatural.step hstep) ?_ h
      rcases Enumeration.table_step hstep with hsame | ⟨name, value, hname, hvalue, hnew⟩
      · rw [hsame]
        exact he
      · rcases Directive.exists_nameOf hread hname with ⟨s, rfl⟩
        rw [hnew]
        refine hinsert e.table s value he ?_
        rcases hvalue with rfl | hlatest
        · exact hnatural.next
        · exact hnatural.latest value hlatest

/-- What holds of the empty table and is kept when a name of a file is entered with a natural number
holds of the tables of all files. -/
theorem ofDatum_induction (hempty : P .empty) {raw : Datum} {file : String} {table : Table}
    (h : ofDatum raw file = .ok table) : P table := by
  cases raw with
  | null =>
      cases h
      exact hempty
  | map pairs =>
      exact enterFlags_induction hinsert hempty h
  | list entries =>
      rcases map_eq_ok_iff.1 (eq_ok_of_inFile h) with ⟨e, hrun, rfl⟩
      exact runEntries_induction hinsert Enumeration.natural_start hempty hrun
  | _ =>
      cases h

end Induction

structure NormalName (name : String) : Prop where
  trim : Text.trim name.toList = name.toList
  lower : Text.lower name.toList = name.toList

theorem normalName_nameOf (s : String) : NormalName (nameOf s) := by
  have hlist : (nameOf s).toList = Text.lower (Text.trim s.toList) := String.toList_ofList
  refine ⟨?_, ?_⟩
  · rw [hlist]
    exact Text.trim_eq (Text.trimmed_lower (Text.trimmed_trim s.toList))
  · rw [hlist]
    exact Text.lower_lower (Text.trim s.toList)

/-- The names of tables are in normal form, and their codes are natural numbers. -/
theorem normal_ofDatum {raw : Datum} {file : String} {table : Table}
    (h : ofDatum raw file = .ok table) :
    ∀ entry ∈ table.entries, NormalName entry.1 ∧ 0 ≤ entry.2 := by
  refine ofDatum_induction (P := fun table => ∀ entry ∈ table.entries, NormalName entry.1 ∧ 0 ≤ entry.2)
    ?_ (List.forall_mem_nil _) h
  intro table s value htable hvalue entry hentry
  rcases Dictionary.eq_or_mem_of_mem_insert hentry with rfl | hentry
  · exact ⟨normalName_nameOf s, hvalue⟩
  · exact htable entry hentry

end Table

/-! ## Entries of lists -/

namespace Enumeration

theorem runEntries_eq_ok_iff {α : Type} {read : α → Except Fault Directive} {e e' : Enumeration}
    {entries : List α} :
    runEntries read e entries = .ok e' ↔
      ∃ directives, entries.mapM read = .ok directives ∧ runEntries .ok e directives = .ok e' := by
  -- In a run without a fault it makes no difference whether all entries are read beforehand.
  induction entries generalizing e with
  | nil =>
      constructor
      · intro h
        exact ⟨[], rfl, h⟩
      · rintro ⟨directives, hread, h⟩
        cases hread
        exact h
  | cons entry rest ih =>
      rw [runEntries, bind_eq_ok_iff]
      constructor
      · rintro ⟨directive, hdirective, h⟩
        rcases bind_eq_ok_iff.1 h with ⟨e₁, hstep, h⟩
        rcases ih.1 h with ⟨directives, hread, h⟩
        refine ⟨directive :: directives,
          mapM_cons_eq_ok_iff.2 ⟨directive, directives, hdirective, hread, rfl⟩, ?_⟩
        exact bind_eq_ok_iff.2 ⟨directive, rfl, bind_eq_ok_iff.2 ⟨e₁, hstep, h⟩⟩
      · rintro ⟨_, hread, h⟩
        rcases mapM_cons_eq_ok_iff.1 hread with ⟨directive, directives, hdirective, hrest, rfl⟩
        rcases bind_eq_ok_iff.1 h with ⟨_, hsame, h⟩
        cases hsame
        rcases bind_eq_ok_iff.1 h with ⟨e₁, hstep, h⟩
        exact ⟨directive, hdirective, bind_eq_ok_iff.2 ⟨e₁, hstep, ih.2 ⟨directives, hrest, h⟩⟩⟩

/-- Entries make a table if all of them can be read and the directives make it. -/
theorem buildFrom_eq_ok_iff {α : Type} {read : α → Except Fault Directive} {entries : List α}
    {index : Int} {table : Table} :
    buildFrom read entries index = .ok table ↔
      ∃ directives, entries.mapM read = .ok directives ∧ build directives index = .ok table := by
  rw [buildFrom, map_eq_ok_iff]
  constructor
  · rintro ⟨e, hentries, htable⟩
    rcases runEntries_eq_ok_iff.1 hentries with ⟨directives, hread, hrun⟩
    exact ⟨directives, hread, map_eq_ok_iff.2 ⟨e, hrun, htable⟩⟩
  · rintro ⟨directives, hread, hbuild⟩
    rcases map_eq_ok_iff.1 hbuild with ⟨e, hrun, htable⟩
    exact ⟨e, runEntries_eq_ok_iff.2 ⟨directives, hread, hrun⟩, htable⟩

end Enumeration

/-! ## Names in source -/

/-- A name that can stand between the parentheses of a call. -/
structure Table.Writable (r : String) : Prop where
  no_comma : ',' ∉ r.toList
  no_feed : '\n' ∉ r.toList
  not_blank : Text.trim r.toList ≠ []

/-- An argument is brought to the same form as a name of a table. -/
theorem Call.arguments_of_writable {r : String} (h : Table.Writable r) :
    arguments r.toList = .ok [Table.nameOf r] := by
  have hargument : argument r.toList = .ok (Table.nameOf r) := by
    refine argument_eq_ok_iff.2 ⟨?_, rfl⟩
    exact Text.lowerAfter_ne_nil [] h.not_blank
  have hpieces : [r.toList].mapM argument = .ok [Table.nameOf r] :=
    mapM_cons_eq_ok_iff.2 ⟨_, [], hargument, rfl, rfl⟩
  have hcomma : ∀ piece ∈ [r.toList], ',' ∉ piece := by
    intro piece hpiece
    rw [List.mem_singleton.1 hpiece]
    exact h.no_comma
  have hread := arguments_pieces (List.cons_ne_nil _ _) hcomma hpieces
  rwa [List.intercalate_singleton] at hread

/-- The line that opens a collection, with its kind as it is written. -/
def collectionLine (r : String) : String :=
  "Collection(" ++ r ++ ")"

theorem parse_collectionLine {r : String} (h : Table.Writable r) (number : Int) :
    SourceLine.parse (collectionLine r) number =
      .ok ⟨number, collectionLine r, .call ⟨Function.collection.name, [Table.nameOf r]⟩⟩ := by
  have hlist : (collectionLine r).toList = "Collection".toList ++ '(' :: (r.toList ++ [')']) := by
    simp [collectionLine, String.toList_append]
  have hend : Text.dropEndWhile SourceLine.isLineEnd (collectionLine r).toList =
      (collectionLine r).toList := by
    rw [hlist, ← List.cons_append, ← List.append_assoc, Text.dropEndWhile_eq_rdropWhile,
      List.rdropWhile_concat_neg]
    decide
  have hchars : ∀ c ∈ "Collection".toList, Call.isNameChar c = true :=
    List.all_eq_true.1 (by decide)
  -- Parentheses in the name do no harm, as the last one of the line closes the call.
  have hwritten : Call.Written (collectionLine r).toList "Collection".toList r.toList :=
    ⟨by decide, hchars, h.no_feed, [], [], [], hlist, by simp, by simp, by simp⟩
  have hname : Function.collection.name = String.ofList (Text.lower "Collection".toList) := by
    decide +kernel
  have hcontent : SourceLine.contentOf (collectionLine r).toList =
      .ok (.call ⟨Function.collection.name, [Table.nameOf r]⟩) :=
    SourceLine.contentOf_eq_call_iff.2 ⟨_, _, hwritten, Call.arguments_of_writable h, hname⟩
  simp only [SourceLine.parse, hend, hcontent, String.ofList_toList]

/-- A collection that is opened and closed makes two items. -/
theorem compileLines_collection {tables : Tables} {text kind : String} {payload : Payload}
    (hparse : SourceLine.parse text 1 = .ok ⟨1, text, .call ⟨Function.collection.name, [kind]⟩⟩)
    (hsymbol : Function.symbol Function.collection.name tables.collections kind = .ok payload) :
    ∃ d, compileLines tables [text, endLine] = .ok d ∧
      d.records = [⟨Function.collection.item, payload, [kind], 1⟩,
        ⟨Function.endCollection.item, [], [], 2⟩] := by
  -- The session after each of the two lines is written down and then checked.
  let first : SourceLine := ⟨1, text, .call ⟨Function.collection.name, [kind]⟩⟩
  let last : SourceLine := ⟨2, endLine, .call ⟨Function.endCollection.name, []⟩⟩
  let opened : Record := ⟨Function.collection.item, payload, [kind], 1⟩
  let closed : Record := ⟨Function.endCollection.item, [], [], 2⟩
  let s : Session := (Session.start tables).extend ⟨.empty, [ItemState.frame kind]⟩ opened
  have hopen : (Session.start tables).feed first = (s, .ok ()) := by
    have hcall : Function.callCollection tables Function.collection.name [kind] =
        .ok ⟨payload, .openScope, .text kind⟩ :=
      Function.callCollection_eq_ok_iff.2 ⟨kind, payload, rfl, hsymbol, rfl⟩
    have hanswer : (Session.start tables).state.answer (Session.start tables).tables
        ⟨Function.collection.name, [kind]⟩ first.number =
        .ok (⟨.empty, [ItemState.frame kind]⟩, opened) := by
      rw [ItemState.answer_of_name (f := .collection) rfl]
      exact bind_eq_ok_iff.2 ⟨_, hcall, rfl⟩
    have hcontent : first.content = .call ⟨Function.collection.name, [kind]⟩ := rfl
    have hnumber : Numeral.printable 1 = true := Numeral.printable_of_lt (by decide)
    rw [Session.feed_call_eq rfl hcontent hnumber, hanswer]
  have hclose : s.feed last = (s.extend ⟨.empty, []⟩ closed, .ok ()) := by
    have hanswer : s.state.answer s.tables ⟨Function.endCollection.name, []⟩ last.number =
        .ok (⟨.empty, []⟩, closed) := by
      rw [ItemState.answer_of_name (f := .endCollection) rfl]
      rfl
    have hcontent : last.content = .call ⟨Function.endCollection.name, []⟩ := rfl
    have hnumber : Numeral.printable 2 = true := Numeral.printable_of_lt (by decide)
    rw [Session.feed_call_eq rfl hcontent hnumber, hanswer]
  have hrun : (Session.start tables).feedAll 1 [text, endLine] =
      (s.extend ⟨.empty, []⟩ closed, .ok ()) :=
    Session.feedAll_cons_eq_ok.2 ⟨first, s, hparse, hopen,
      Session.feedAll_singleton_eq_ok.2 ⟨last, parse_endLine 2, hclose⟩⟩
  exact ⟨_, compileLines_eq_ok.2 ⟨_, hrun, rfl, rfl, rfl⟩, rfl⟩

/-- An entry of a list that is a plain text has the next code of the entries in front of it. -/
theorem Table.get?_of_entry {before after : List Datum} {r file : String} {table : Table}
    (h : ofDatum (.list (before ++ .text r :: after)) file = .ok table) :
    ∃ directives, before.mapM Directive.ofDatum = .ok directives ∧
      table.get? (nameOf r) = some (Enumeration.nextCode 0 directives) := by
  rcases Enumeration.buildFrom_eq_ok_iff.1 (eq_ok_of_inFile h) with ⟨directives, hread, hbuild⟩
  rw [List.mapM_append] at hread
  rcases bind_eq_ok_iff.1 hread with ⟨earlier, hbefore, hread⟩
  rcases bind_eq_ok_iff.1 hread with ⟨others, hothers, hread⟩
  rcases mapM_cons_eq_ok_iff.1 hothers with ⟨directive, later, hdirective, _, rfl⟩
  cases hdirective
  cases hread
  rcases Enumeration.recounts_of_build hbuild with ⟨_, e, he, rfl⟩
  exact ⟨earlier, hbefore, (he.codes _ _).2 (.assign rfl rfl)⟩

/-- The names of every table are in normal form, with natural numbers for codes. A name that a list
of collections holds as plain text can be written in source as it is written there, if it has no
comma and no line feed, is not blank and is no literal: the collection is compiled, and its payload
is the code of the name. -/
theorem compileLines_reaches_names {raw : Datum} {file : String} {table : Table}
    (h : Table.ofDatum raw file = .ok table) :
    (∀ entry ∈ table.entries, Text.trim entry.1.toList = entry.1.toList ∧
      Text.lower entry.1.toList = entry.1.toList ∧ 0 ≤ entry.2) ∧
    ∀ before r after, raw = .list (before ++ .text r :: after) →
      ∃ directives code, before.mapM Directive.ofDatum = .ok directives ∧
        code = Enumeration.nextCode 0 directives ∧ table.get? (Table.nameOf r) = some code ∧
        ∀ tables : Tables, tables.collections = table →
          ',' ∉ r.toList → '\n' ∉ r.toList → Text.trim r.toList ≠ [] →
          Literal.read (Table.nameOf r) = .ok none → code < 2 ^ 32 →
          ∃ d payload, compileLines tables ["Collection(" ++ r ++ ")", "End_Collection()"] = .ok d ∧
            d.records = [⟨Function.collection.item, payload, [Table.nameOf r], 1⟩,
              ⟨Function.endCollection.item, [], [], 2⟩] ∧
            Payload.decode payload false = .ok code := by
  constructor
  · intro entry hentry
    rcases Table.normal_ofDatum h entry hentry with ⟨hnormal, hvalue⟩
    exact ⟨hnormal.trim, hnormal.lower, hvalue⟩
  · -- The call is read as the name that the table holds, since both are trimmed and lowered alike.
    rintro before r after rfl
    rcases Table.get?_of_entry h with ⟨directives, hread, hcode⟩
    refine ⟨directives, _, hread, rfl, hcode, ?_⟩
    rintro tables rfl hcomma hfeed hblank hliteral hbound
    have hnatural := (Table.natural_ofDatum h).of_get? hcode
    rcases Payload.exists_encode_unsigned_iff.2 ⟨by omega, hbound⟩ with ⟨payload, hencode⟩
    have hsymbol : Function.symbol Function.collection.name tables.collections (Table.nameOf r) =
        .ok payload :=
      Function.symbol_eq_ok_iff.2 ⟨_, .code hliteral hcode, hencode⟩
    rcases compileLines_collection (parse_collectionLine ⟨hcomma, hfeed, hblank⟩ 1) hsymbol with
      ⟨d, hcompile, hrecords⟩
    exact ⟨d, payload, hcompile, hrecords, Payload.decode_of_encode_unsigned hnatural hencode⟩

/-- Capital letters, parentheses and blanks around a name do not keep it from being found. -/
theorem compileLines_reaches_names_parentheses :
    ∃ (table : Table) (d : Descriptor) (payload : Payload),
      Table.ofDatum (.list [.map [(.text "skip", .int 300)], .text " Named (Array) ", .text "switch"])
        "collections.yml" = .ok table ∧
      compileLines ⟨.empty, .empty, table, .empty⟩
        ["Collection(" ++ " Named (Array) " ++ ")", "End_Collection()"] = .ok d ∧
      d.records.map (·.payload) = [payload, []] ∧ Payload.decode payload false = .ok 300 := by
  let before : List Datum := [.map [(.text "skip", .int 300)]]
  let table : Table := .ofList [("named (array)", 300), ("switch", 301)]
  have htable : Table.ofDatum (.list (before ++ .text " Named (Array) " :: [.text "switch"]))
      "collections.yml" = .ok table := by
    decide +kernel
  rcases (compileLines_reaches_names htable).2 before _ _ rfl with
    ⟨directives, code, hread, hcode, _, hcompile⟩
  have hdirectives : directives = [.skip 300] := (Except.ok.inj hread).symm
  have hvalue : code = 300 := by
    rw [hcode, hdirectives]
    decide
  subst hvalue
  rcases hcompile ⟨.empty, .empty, table, .empty⟩ rfl (by decide) (by decide) (by decide +kernel)
      (by decide +kernel) (by decide) with ⟨d, payload, hd, hrecords, hdecode⟩
  exact ⟨table, d, payload, htable, hd, by rw [hrecords]; rfl, hdecode⟩

end HidDescriptor
