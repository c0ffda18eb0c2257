import HidDescriptor.Proofs.Dictionaries
import HidDescriptor.Proofs.Payloads
import HidDescriptor.Table.Enumeration
import Mathlib.Data.List.DropRight
import Mathlib.Data.List.Induction

/-!
# Codes of enumerations

The code of a name can be told from the directives in front of it, and so can the first directive
that is refused.

- `Enumeration.nextCode`, `Enumeration.LatestCode`, `Enumeration.HasCode`: codes by the directives so far
- `Enumeration.Fits`, `Enumeration.Offends`, `Enumeration.Valid`: directives that are carried out or
  refused
- `Enumeration.Recounts`, `Enumeration.Recounts.step`, `Enumeration.run_cases`: the state of an
  enumeration after its directives
- `Enumeration.build_codes`: acceptance, table and first fault of every list of directives
-/

namespace HidDescriptor

/-! ## Parts of directives -/

namespace Directive

def assigned? : Directive → Option String
  | assign name => some name
  | _ => none

def alias? : Directive → Option String
  | «alias» name => some name
  | _ => none

def skipped? : Directive → Option Int
  | skip count => some count
  | _ => none

def start? : Directive → Option Int
  | startAt index => some index
  | _ => none

def name? : Directive → Option String
  | assign name => some name
  | «alias» name => some name
  | _ => none

end Directive

namespace Enumeration

open Directive

variable {first code : Int} {before after directives : List Directive} {directive : Directive}
  {name : String} {e : Enumeration}

/-! ## Codes by the directives so far -/

/-- The directives behind the last start. -/
def sinceStart (before : List Directive) : List Directive :=
  before.rtakeWhile (·.start?.isNone)

/-- The next code after directives: the code of the last start, or the first code if there is no
start, and one more for each name that was assigned and each code that was skipped since. -/
def nextCode (first : Int) (before : List Directive) : Int :=
  (before.filterMap start?).getLastD first + ((sinceStart before).filterMap assigned?).length +
    ((sinceStart before).filterMap skipped?).sum

/-- The code of the last name that was assigned, whatever stands behind it. -/
def LatestCode (first : Int) (before : List Directive) (code : Int) : Prop :=
  ∃ earlier name between, before = earlier ++ .assign name :: between ∧
    (∀ directive ∈ between, directive.assigned? = none) ∧ code = nextCode first earlier

/-- The code that directives give to a name. -/
inductive HasCode (first : Int) (directives : List Directive) (name : String) (code : Int) : Prop
  /-- The next code. -/
  | assign {before after : List Directive} (h : directives = before ++ .assign name :: after)
      (hcode : code = nextCode first before)
  /-- The code of the name that was assigned last. -/
  | alias {before after : List Directive} (h : directives = before ++ .alias name :: after)
      (hcode : LatestCode first before code)

def names (directives : List Directive) : List String :=
  directives.filterMap name?

/-- The directives of an enumeration: no negative counts, no start below the next code, no alias
without a name in front of it, and no name twice. -/
structure Valid (first : Int) (directives : List Directive) : Prop where
  skips : ∀ count, .skip count ∈ directives → 0 ≤ count
  starts : ∀ before index after, directives = before ++ .startAt index :: after →
    nextCode first before ≤ index
  aliases : ∀ before name after, directives = before ++ .alias name :: after →
    ∃ target, .assign target ∈ before
  names : (names directives).Nodup

def Fits (first : Int) (before : List Directive) : Directive → Prop
  | .assign name => name ∉ names before
  | .skip count => 0 ≤ count
  | .alias name => (∃ target, .assign target ∈ before) ∧ name ∉ names before
  | .startAt index => nextCode first before ≤ index

inductive Offends (first : Int) (before : List Directive) : Directive → Fault → Prop
  | assign {name : String} (h : name ∈ names before) :
      Offends first before (.assign name) (.table (.duplicateName name (nextCode first before)))
  | skip {count : Int} (h : count < 0) :
      Offends first before (.skip count) (.ofTableCause (.negativeSkip count))
  | orphan {name : String} (h : ∀ target, .assign target ∉ before) :
      Offends first before (.alias name) (.table (.aliasFirst name))
  | alias {name : String} {code : Int} (hcode : LatestCode first before code)
      (h : name ∈ names before) :
      Offends first before (.alias name) (.table (.duplicateName name code))
  | startAt {index : Int} (h : index < nextCode first before) :
      Offends first before (.startAt index) (.table (.startBelow index (nextCode first before)))

/-! ### One directive more -/

theorem nextCode_nil (first : Int) : nextCode first [] = first := by
  simp [nextCode, sinceStart]

/-- All directives but a start are counted from the same start as those before. -/
theorem sinceStart_concat (h : directive.start? = none) :
    sinceStart (before ++ [directive]) = sinceStart before ++ [directive] :=
  List.rtakeWhile_concat_pos _ _ _ (by simp [h])

theorem nextCode_concat_assign :
    nextCode first (before ++ [.assign name]) = nextCode first before + 1 := by
  unfold nextCode
  rw [sinceStart_concat rfl]
  simp [List.filterMap_cons, start?, assigned?, skipped?]
  omega

theorem nextCode_concat_skip {count : Int} :
    nextCode first (before ++ [.skip count]) = nextCode first before + count := by
  unfold nextCode
  rw [sinceStart_concat rfl]
  simp [List.filterMap_cons, start?, assigned?, skipped?]
  omega

theorem nextCode_concat_alias :
    nextCode first (before ++ [.alias name]) = nextCode first before := by
  unfold nextCode
  rw [sinceStart_concat rfl]
  simp [List.filterMap_cons, start?, assigned?, skipped?]

theorem nextCode_concat_startAt {index : Int} :
    nextCode first (before ++ [.startAt index]) = index := by
  have hsince : sinceStart (before ++ [.startAt index]) = [] :=
    List.rtakeWhile_concat_neg _ _ _ (by simp [start?])
  unfold nextCode
  rw [hsince]
  simp [start?]

/-- A directive of a longer list is the last one, or it stands among those before. -/
theorem concat_eq_append_cons_iff {earlier between : List Directive} {last : Directive} :
    before ++ [last] = earlier ++ directive :: between ↔
      (before = earlier ∧ last = directive ∧ between = []) ∨
        ∃ others, before = earlier ++ directive :: others ∧ between = others ++ [last] := by
  constructor
  · intro h
    rcases List.eq_nil_or_concat between with rfl | ⟨others, other, rfl⟩
    · rcases List.append_inj' h rfl with ⟨hbefore, hlast⟩
      exact Or.inl ⟨hbefore, List.singleton_inj.1 hlast, rfl⟩
    · have hconcat : before ++ [last] = (earlier ++ directive :: others) ++ [other] := by
        simpa using h
      rcases List.append_inj' hconcat rfl with ⟨hbefore, hlast⟩
      exact Or.inr ⟨others, hbefore, by simp [List.singleton_inj.1 hlast]⟩
  · rintro (⟨rfl, rfl, rfl⟩ | ⟨others, rfl, rfl⟩)
    · rfl
    · simp

theorem latestCode_concat_assign :
    LatestCode first (before ++ [.assign name]) code ↔ code = nextCode first before := by
  constructor
  · rintro ⟨earlier, target, between, hsplit, hbetween, rfl⟩
    rcases concat_eq_append_cons_iff.1 hsplit with ⟨rfl, _, _⟩ | ⟨others, _, rfl⟩
    · rfl
    · -- The last name would be one that is not assigned.
      have hlast := hbetween (.assign name) (List.mem_append_right _ List.mem_cons_self)
      cases hlast
  · rintro rfl
    exact ⟨before, name, [], rfl, List.forall_mem_nil _, rfl⟩

theorem latestCode_concat_of_assigned?_eq_none (h : directive.assigned? = none) :
    LatestCode first (before ++ [directive]) code ↔ LatestCode first before code := by
  constructor
  · rintro ⟨earlier, target, between, hsplit, hbetween, hcode⟩
    rcases concat_eq_append_cons_iff.1 hsplit with ⟨_, rfl, _⟩ | ⟨others, rfl, rfl⟩
    · cases h
    · refine ⟨earlier, target, others, rfl, ?_, hcode⟩
      intro other hother
      exact hbetween other (List.mem_append_left _ hother)
  · rintro ⟨earlier, target, between, rfl, hbetween, hcode⟩
    refine ⟨earlier, target, between ++ [directive], by simp, ?_, hcode⟩
    intro other hother
    rcases List.mem_append.1 hother with hother | hother
    · exact hbetween other hother
    · rw [List.mem_singleton.1 hother]
      exact h

/-- There is a latest code as soon as a name was assigned. -/
theorem exists_latestCode_iff :
    (∃ code, LatestCode first before code) ↔ ∃ target, .assign target ∈ before := by
  constructor
  · rintro ⟨_, earlier, target, between, rfl, _, _⟩
    exact ⟨target, List.mem_append_right _ List.mem_cons_self⟩
  · rintro ⟨target, hmem⟩
    induction before using List.reverseRecOn with
    | nil =>
        cases hmem
    | append_singleton before directive ih =>
        cases directive with
        | assign name =>
            exact ⟨_, latestCode_concat_assign.2 rfl⟩
        | _ =>
            have hbefore : .assign target ∈ before := by
              simpa using hmem
            rcases ih hbefore with ⟨code, hcode⟩
            exact ⟨code, (latestCode_concat_of_assigned?_eq_none rfl).2 hcode⟩

/-- Directives that follow take no code away. -/
theorem HasCode.append (h : HasCode first before name code) (after : List Directive) :
    HasCode first (before ++ after) name code := by
  cases h with
  | assign hsplit hcode =>
      subst hsplit
      exact .assign (List.append_assoc _ _ _) hcode
  | «alias» hsplit hcode =>
      subst hsplit
      exact .alias (List.append_assoc _ _ _) hcode

theorem hasCode_concat_iff :
    HasCode first (before ++ [directive]) name code ↔
      HasCode first before name code ∨
        (directive = .assign name ∧ code = nextCode first before) ∨
          (directive = .alias name ∧ LatestCode first before code) := by
  constructor
  · intro h
    cases h with
    | assign hsplit hcode =>
        rcases concat_eq_append_cons_iff.1 hsplit with ⟨rfl, hlast, _⟩ | ⟨others, hbefore, _⟩
        · exact Or.inr (Or.inl ⟨hlast, hcode⟩)
        · exact Or.inl (.assign hbefore hcode)
    | «alias» hsplit hcode =>
        rcases concat_eq_append_cons_iff.1 hsplit with ⟨rfl, hlast, _⟩ | ⟨others, hbefore, _⟩
        · exact Or.inr (Or.inr ⟨hlast, hcode⟩)
        · exact Or.inl (.alias hbefore hcode)
  · rintro (h | ⟨rfl, hcode⟩ | ⟨rfl, hcode⟩)
    · exact h.append [directive]
    · exact .assign rfl hcode
    · exact .alias rfl hcode

theorem HasCode.mem_names (h : HasCode first directives name code) : name ∈ names directives := by
  cases h with
  | assign hsplit _ => simp [hsplit, names, name?]
  | «alias» hsplit _ => simp [hsplit, names, name?]

theorem names_append : names (before ++ after) = names before ++ names after :=
  List.filterMap_append

/-- A name that directives enter is a new one if and only if all names stay distinct. -/
theorem nodup_names_concat_iff (h : directive.name? = some name) :
    (names (before ++ [directive])).Nodup ↔ (names before).Nodup ∧ name ∉ names before := by
  have hnames : names [directive] = [name] := by
    simp [names, h]
  rw [names_append, hnames, ← List.concat_eq_append, List.nodup_concat, and_comm]

theorem nodup_names_concat_of_name?_eq_none (h : directive.name? = none) :
    (names (before ++ [directive])).Nodup ↔ (names before).Nodup := by
  have hnames : names [directive] = [] := by
    simp [names, h]
  rw [names_append, hnames, List.append_nil]

/-! ### Valid directives -/

theorem Valid.of_append (h : Valid first (before ++ after)) : Valid first before := by
  refine ⟨?_, ?_, ?_, ?_⟩
  · intro count hcount
    exact h.skips count (List.mem_append_left after hcount)
  · rintro earlier index between rfl
    exact h.starts earlier index (between ++ after) (List.append_assoc _ _ _)
  · rintro earlier name between rfl
    exact h.aliases earlier name (between ++ after) (List.append_assoc _ _ _)
  · have hnames := h.names
    rw [names_append] at hnames
    exact hnames.of_append_left

theorem Valid.fits (h : Valid first (before ++ [directive])) : Fits first before directive := by
  have hnames := h.names
  cases directive with
  | assign name =>
      exact ((nodup_names_concat_iff rfl).1 hnames).2
  | skip count =>
      exact h.skips count (List.mem_append_right _ List.mem_cons_self)
  | «alias» name =>
      exact ⟨h.aliases before name [] rfl, ((nodup_names_concat_iff rfl).1 hnames).2⟩
  | startAt index =>
      exact h.starts before index [] rfl

theorem Valid.concat (h : Valid first before) (hfits : Fits first before directive) :
    Valid first (before ++ [directive]) := by
  refine ⟨?_, ?_, ?_, ?_⟩
  · intro count hcount
    rcases List.mem_append.1 hcount with hcount | hcount
    · exact h.skips count hcount
    · rw [← List.mem_singleton.1 hcount] at hfits
      exact hfits
  · intro earlier index between hsplit
    rcases concat_eq_append_cons_iff.1 hsplit with ⟨rfl, rfl, _⟩ | ⟨others, hbefore, _⟩
    · exact hfits
    · exact h.starts earlier index others hbefore
  · intro earlier name between hsplit
    rcases concat_eq_append_cons_iff.1 hsplit with ⟨rfl, rfl, _⟩ | ⟨others, hbefore, _⟩
    · exact hfits.1
    · exact h.aliases earlier name others hbefore
  · cases directive with
    | assign name => exact (nodup_names_concat_iff rfl).2 ⟨h.names, hfits⟩
    | «alias» name => exact (nodup_names_concat_iff rfl).2 ⟨h.names, hfits.2⟩
    | _ => exact (nodup_names_concat_of_name?_eq_none rfl).2 h.names

theorem valid_nil (first : Int) : Valid first [] where
  skips := by simp
  starts := by simp
  aliases := by simp
  names := List.nodup_nil

/-- What is refused cannot be carried out. -/
theorem Offends.not_fits {fault : Fault} (h : Offends first before directive fault) :
    ¬ Fits first before directive := by
  cases h with
  | assign h => exact fun hfits => hfits h
  | skip h => exact fun hfits => absurd hfits (Int.not_le.2 h)
  | orphan h => exact fun ⟨⟨target, htarget⟩, _⟩ => h target htarget
  | «alias» _ h => exact fun hfits => hfits.2 h
  | startAt h => exact fun hfits => absurd hfits (Int.not_le.2 h)

/-! ## The state after directives -/

/-- An enumeration that stands where its directives lead. -/
structure Recounts (first : Int) (directives : List Directive) (e : Enumeration) : Prop where
  next : e.next = nextCode first directives
  latest : ∀ code, e.latest = some code ↔ LatestCode first directives code
  keys : e.table.keys = names directives
  codes : ∀ name code, e.table.get? name = some code ↔ HasCode first directives name code

theorem recounts_start (first : Int) : Recounts first [] (start first) where
  next := (nextCode_nil first).symm
  latest := by simp [start, LatestCode]
  keys := rfl
  codes := by
    intro name code
    constructor
    · intro h
      cases h
    · intro h
      cases h.mem_names

theorem put_eq_ok {table : Table} {value : Int} (h : name ∉ table.keys) :
    put table name value = .ok (Dictionary.insert table name value) := by
  have hnot : table.contains name = false := by
    rw [Dictionary.contains_eq_isSome_get?, Dictionary.get?_eq_none_iff.2 h]
    rfl
  simp [put, hnot]

theorem put_eq_error {table : Table} {value : Int} (h : name ∈ table.keys) :
    put table name value = .error (.table (.duplicateName name value)) := by
  have hthere : table.contains name = true := by
    rw [Dictionary.contains_eq_isSome_get?]
    exact Dictionary.mem_keys_iff.1 h
  simp [put, hthere]

/-- The table with a new name, if its directive gives the name this code and no other name any. -/
theorem Recounts.codes_insert (h : Recounts first before e) (hname : name ∉ names before)
    (hcodes : ∀ key value, HasCode first (before ++ [directive]) key value ↔
      HasCode first before key value ∨ key = name ∧ value = code) (key : String) (value : Int) :
    (Dictionary.insert e.table name code).get? key = some value ↔
      HasCode first (before ++ [directive]) key value := by
  rw [hcodes, ← h.codes, Dictionary.get?_insert]
  split
  next hkey =>
    subst hkey
    have hnone : e.table.get? key = none := by
      rw [Dictionary.get?_eq_none_iff, h.keys]
      exact hname
    simp [hnone, eq_comm]
  next hkey =>
    simp [hkey]

theorem Recounts.keys_insert (h : Recounts first before e) (hname : name ∉ names before)
    (hdirective : directive.name? = some name) :
    (Dictionary.insert e.table name code).keys = names (before ++ [directive]) := by
  rw [Dictionary.keys_insert, h.keys, if_neg hname, names_append]
  simp [names, hdirective]

/-- A directive that enters no name leaves names and codes as they are. -/
theorem Recounts.quiet {e' : Enumeration} (h : Recounts first before e)
    (hdirective : directive.name? = none) (hlatest : e'.latest = e.latest)
    (htable : e'.table = e.table) (hnext : e'.next = nextCode first (before ++ [directive])) :
    Recounts first (before ++ [directive]) e' := by
  have hassign : ∀ name, directive ≠ .assign name := by
    rintro name rfl
    cases hdirective
  have halias : ∀ name, directive ≠ .alias name := by
    rintro name rfl
    cases hdirective
  have hassigned : directive.assigned? = none := by
    cases directive with
    | assign name => exact absurd rfl (hassign name)
    | _ => rfl
  refine ⟨hnext, ?_, ?_, ?_⟩
  · intro code
    rw [hlatest, h.latest, latestCode_concat_of_assigned?_eq_none hassigned]
  · rw [htable, h.keys, names_append]
    simp [names, hdirective]
  · intro name code
    rw [htable, h.codes, hasCode_concat_iff]
    simp [hassign, halias]

theorem Recounts.assign (h : Recounts first before e) (hname : name ∉ names before) :
    Recounts first (before ++ [.assign name])
      ⟨e.next + 1, some e.next, Dictionary.insert e.table name e.next⟩ := by
  refine ⟨?_, ?_, h.keys_insert hname rfl, h.codes_insert hname ?_⟩
  · rw [nextCode_concat_assign, h.next]
  · intro code
    rw [latestCode_concat_assign, h.next, Option.some.injEq, eq_comm]
  · intro key value
    rw [hasCode_concat_iff, h.next]
    simp [eq_comm]

theorem Recounts.alias (h : Recounts first before e) (hlatest : e.latest = some code)
    (hname : name ∉ names before) :
    Recounts first (before ++ [.alias name])
      { e with table := Dictionary.insert e.table name code } := by
  refine ⟨?_, ?_, h.keys_insert hname rfl, h.codes_insert hname ?_⟩
  · rw [nextCode_concat_alias, h.next]
  · intro other
    rw [latestCode_concat_of_assigned?_eq_none rfl, ← h.latest]
  · intro key value
    rw [hasCode_concat_iff, ← h.latest, hlatest]
    simp [eq_comm]

theorem step_alias (hlatest : e.latest = some code) :
    e.step (.alias name) = put e.table name code >>= fun table => .ok { e with table } := by
  rw [Enumeration.step]
  split
  next hnone =>
    rw [hlatest] at hnone
    cases hnone
  next other hother =>
    obtain rfl : code = other := Option.some.inj (hlatest.symm.trans hother)
    rfl

/-- Each directive is carried out or refused as the directives before it tell. -/
theorem Recounts.step (h : Recounts first before e) (directive : Directive) :
    (Fits first before directive ∧
        ∃ e', e.step directive = .ok e' ∧ Recounts first (before ++ [directive]) e') ∨
      ∃ fault, Offends first before directive fault ∧ e.step directive = .error fault := by
  cases directive with
  | assign name =>
      by_cases hname : name ∈ names before
      · refine Or.inr ⟨_, .assign hname, ?_⟩
        rw [Enumeration.step, put_eq_error (h.keys ▸ hname), h.next]
        rfl
      · refine Or.inl ⟨hname, _, ?_, h.assign hname⟩
        rw [Enumeration.step, put_eq_ok (h.keys ▸ hname)]
        rfl
  | skip count =>
      by_cases hcount : count < 0
      · exact Or.inr ⟨_, .skip hcount, if_pos hcount⟩
      · refine Or.inl ⟨Int.not_lt.1 hcount, _, if_neg hcount, h.quiet rfl rfl rfl ?_⟩
        rw [nextCode_concat_skip, h.next]
  | «alias» name =>
      cases hlatest : e.latest with
      | none =>
          -- Where a name was assigned there would be a latest code.
          refine Or.inr ⟨_, .orphan ?_, ?_⟩
          · intro target htarget
            rcases exists_latestCode_iff.2 ⟨target, htarget⟩ with ⟨code, hcode⟩
            rw [← h.latest, hlatest] at hcode
            cases hcode
          · rw [Enumeration.step, hlatest]
      | some code =>
          have hcode : LatestCode first before code := (h.latest code).1 hlatest
          rw [step_alias hlatest]
          by_cases hname : name ∈ names before
          · refine Or.inr ⟨_, .alias hcode hname, ?_⟩
            rw [put_eq_error (h.keys ▸ hname)]
            rfl
          · refine Or.inl ⟨⟨exists_latestCode_iff.1 ⟨code, hcode⟩, hname⟩, _, ?_,
              h.alias hlatest hname⟩
            rw [put_eq_ok (h.keys ▸ hname)]
            rfl
  | startAt index =>
      by_cases hindex : index < nextCode first before
      · refine Or.inr ⟨_, .startAt hindex, ?_⟩
        rw [Enumeration.step, h.next, if_pos hindex]
      · refine Or.inl ⟨Int.not_lt.1 hindex, { e with next := index }, ?_, h.quiet rfl rfl rfl ?_⟩
        · rw [Enumeration.step, h.next, if_neg hindex]
        · rw [nextCode_concat_startAt]

/-! ## Whole lists of directives -/

theorem runEntries_append {α : Type} (read : α → Except Fault Directive) (e : Enumeration)
    (entries others : List α) :
    runEntries read e (entries ++ others) =
      runEntries read e entries >>= fun e => runEntries read e others := by
  induction entries generalizing e with
  | nil =>
      rfl
  | cons entry rest ih =>
      rw [List.cons_append, runEntries, runEntries]
      simp only [ih, bind_assoc]

/-- Directives are carried out up to the first that is refused. -/
theorem run_cases (first : Int) (directives : List Directive) :
    (Valid first directives ∧
        ∃ e, runEntries .ok (start first) directives = .ok e ∧ Recounts first directives e) ∨
      ∃ before directive after fault, directives = before ++ directive :: after ∧
        Valid first before ∧ Offends first before directive fault ∧
          ∀ rest, runEntries .ok (start first) (before ++ directive :: rest) = .error fault := by
  -- The last directive is carried out only if none in front of it offends.
  induction directives using List.reverseRecOn with
  | nil =>
      exact Or.inl ⟨valid_nil first, start first, rfl, recounts_start first⟩
  | append_singleton directives last ih =>
      rcases ih with ⟨hvalid, e, hrun, he⟩ | ⟨before, directive, after, fault, rfl, hvalid, h, hrun⟩
      · have hnext (rest : List Directive) : runEntries .ok (start first) (directives ++ last :: rest) =
            e.step last >>= fun e => runEntries .ok e rest := by
          rw [runEntries_append, hrun]
          rfl
        rcases he.step last with ⟨hfits, e', hstep, he'⟩ | ⟨fault, hfault, hstep⟩
        · refine Or.inl ⟨hvalid.concat hfits, e', ?_, he'⟩
          rw [hnext, hstep]
          rfl
        · refine Or.inr ⟨directives, last, [], fault, rfl, hvalid, hfault, ?_⟩
          intro rest
          rw [hnext, hstep]
          rfl
      · exact Or.inr ⟨before, directive, after ++ [last], fault, by simp, hvalid, h, hrun⟩

/-- What is refused after valid directives makes all lists invalid that begin so. -/
theorem Offends.not_valid {fault : Fault} (h : Offends first before directive fault)
    (after : List Directive) : ¬ Valid first (before ++ directive :: after) := by
  intro hvalid
  rw [List.append_cons] at hvalid
  exact h.not_fits hvalid.of_append.fits

theorem recounts_of_build {table : Table} (h : build directives first = .ok table) :
    Valid first directives ∧ ∃ e, Recounts first directives e ∧ e.table = table := by
  rcases map_eq_ok_iff.1 h with ⟨e, hrun, htable⟩
  rcases run_cases first directives with ⟨hvalid, e', hrun', he⟩ |
      ⟨before, directive, after, fault, rfl, _, _, herror⟩
  · obtain rfl : e = e' := Except.ok.inj (hrun.symm.trans hrun')
    exact ⟨hvalid, e, he, htable⟩
  · rw [herror after] at hrun
    cases hrun

theorem exists_build_of_valid (h : Valid first directives) :
    ∃ table, build directives first = .ok table := by
  rcases run_cases first directives with ⟨_, e, hrun, _⟩ |
      ⟨before, directive, after, fault, rfl, _, hoffends, _⟩
  · exact ⟨e.table, map_eq_ok_iff.2 ⟨e, hrun, rfl⟩⟩
  · exact absurd h (hoffends.not_valid after)

/-- Directives make a table if and only if no count is negative, no start is below the next code,
each alias has a name in front of it and no name stands twice. The table has these names with the
codes that the directives in front of them tell. In all other cases the first directive that cannot
be carried out is refused, whatever follows it. -/
theorem build_codes (first : Int) (directives : List Directive) :
    ((∃ table, build directives first = .ok table) ↔ Valid first directives) ∧
    (∀ table, build directives first = .ok table →
      table.keys = names directives ∧
        ∀ name code, table.get? name = some code ↔ HasCode first directives name code) ∧
    ∀ fault, build directives first = .error fault →
      ∃ before directive after, directives = before ++ directive :: after ∧
        Valid first before ∧ Offends first before directive fault ∧
          ∀ rest, ¬ Valid first (before ++ directive :: rest) ∧
            build (before ++ directive :: rest) first = .error fault := by
  refine ⟨⟨?_, exists_build_of_valid⟩, ?_, ?_⟩
  · rintro ⟨table, h⟩
    exact (recounts_of_build h).1
  · intro table h
    rcases recounts_of_build h with ⟨_, e, he, rfl⟩
    exact ⟨he.keys, he.codes⟩
  · intro fault h
    -- The run stops at the first directive that offends, so what is behind it does not matter.
    rcases run_cases first directives with ⟨hvalid, _⟩ |
        ⟨before, directive, after, other, rfl, hvalid, hoffends, herror⟩
    · rcases exists_build_of_valid hvalid with ⟨table, htable⟩
      rw [h] at htable
      cases htable
    · have hbuild (rest : List Directive) :
          build (before ++ directive :: rest) first = .error other :=
        map_eq_error_iff.2 (herror rest)
      obtain rfl : fault = other := Except.error.inj (h.symm.trans (hbuild after))
      exact ⟨before, directive, after, rfl, hvalid, hoffends, fun rest =>
        ⟨hoffends.not_valid rest, hbuild rest⟩⟩

/-- An alias behind skipped codes has the code of its name, and that alias is no name for another
code. -/
theorem build_codes_joystick :
    ∃ directives table fault, build directives 1 = .ok table ∧ Valid 1 directives ∧
      table.get? "stick" = some 5 ∧ build (directives ++ [.assign "stick"]) 1 = .error fault ∧
        ∃ before directive, Offends 1 before directive fault ∧
          ∀ rest, build (before ++ directive :: rest) 1 = .error fault := by
  let directives : List Directive :=
    [.assign "mouse", .skip 2, .startAt 4, .skip 1, .assign "joystick", .skip 3, .alias "stick"]
  let table : Table := .ofList [("mouse", 1), ("joystick", 5), ("stick", 5)]
  have htable : build directives 1 = .ok table := by
    decide +kernel
  have hfault : build (directives ++ [.assign "stick"]) 1 =
      .error (.table (.duplicateName "stick" 9)) := by
    decide +kernel
  have hstick : HasCode 1 directives "stick" 5 := by
    have hsplit : directives = directives.take 6 ++ .alias "stick" :: [] := rfl
    exact .alias hsplit ⟨directives.take 4, "joystick", [.skip 3], rfl, by decide, by decide⟩
  rcases build_codes 1 directives with ⟨hvalid, hcodes, _⟩
  rcases (build_codes 1 (directives ++ [.assign "stick"])).2.2 _ hfault with
    ⟨before, directive, _, _, _, hoffends, hrest⟩
  exact ⟨directives, table, _, htable, hvalid.1 ⟨table, htable⟩,
    ((hcodes table htable).2 "stick" 5).2 hstick, hfault, before, directive, hoffends,
    fun rest => (hrest rest).2⟩

end Enumeration
end HidDescriptor
