import HidDescriptor.Proofs.Dictionaries
import HidDescriptor.Proofs.Payloads
import HidDescriptor.Table.Enumeration

/-!
# Tables from arbitrary data

Whatever a table file holds, it gives a table of natural numbers, or it is refused with a table
error, unless it comes to an integer that cannot be written or to an infinite index.

- `Datum.Overlong`, `Datum.quote_eq_error_iff`: values that cannot be shown in a message
- `Escaping`: the faults of a computation that are no table errors
- `Directive.Escapes`, `Enumeration.escaping_carry`: entries with such a fault
- `Datum.Escapes`, `Table.escaping_ofDatum`: data that come to such an entry
- `Enumeration.Natural`, `Table.natural_ofDatum`: the values of tables
- `Table.ofDatum_refuses_iff`: the exact condition
-/

namespace HidDescriptor

/-! ## Values in messages -/

namespace Datum

/-- A value that holds an integer too long to be written. -/
inductive Overlong : Datum → Prop
  | int {n : Int} (h : Numeral.printable n = false) : Overlong (.int n)
  | item {items : List Datum} {item : Datum} (hmem : item ∈ items) (h : Overlong item) :
      Overlong (.list items)
  | key {pairs : List (Datum × Datum)} {key value : Datum} (hmem : (key, value) ∈ pairs)
      (h : Overlong key) : Overlong (.map pairs)
  | value {pairs : List (Datum × Datum)} {key value : Datum} (hmem : (key, value) ∈ pairs)
      (h : Overlong value) : Overlong (.map pairs)

theorem overlong_int_iff {n : Int} : Overlong (.int n) ↔ Numeral.printable n = false := by
  constructor
  · intro h
    cases h with
    | int h => exact h
  · exact .int

theorem overlong_list_iff {items : List Datum} :
    Overlong (.list items) ↔ ∃ item ∈ items, item.Overlong := by
  constructor
  · intro h
    cases h with
    | item hmem h => exact ⟨_, hmem, h⟩
  · rintro ⟨item, hmem, h⟩
    exact .item hmem h

theorem overlong_map_iff {pairs : List (Datum × Datum)} :
    Overlong (.map pairs) ↔ ∃ pair ∈ pairs, pair.1.Overlong ∨ pair.2.Overlong := by
  constructor
  · intro h
    cases h with
    | key hmem h => exact ⟨_, hmem, Or.inl h⟩
    | value hmem h => exact ⟨_, hmem, Or.inr h⟩
  · rintro ⟨⟨key, value⟩, hmem, h | h⟩
    · exact .key hmem h
    · exact .value hmem h

/-- Showing one value after another stops at the first that cannot be shown. -/
theorem bind_eq_longInteger_iff {α β : Type} {x : Except Fault α} {k : α → Except Fault β}
    {P Q : Prop} {fault : Fault} (hx : ∀ fault, x = .error fault ↔ fault = .longInteger ∧ P)
    (hk : ∀ a fault, k a = .error fault ↔ fault = .longInteger ∧ Q) :
    x >>= k = .error fault ↔ fault = .longInteger ∧ (P ∨ Q) := by
  rw [bind_eq_error_iff, hx]
  simp only [hk]
  cases x with
  | error other =>
      have hP : P := ((hx other).1 rfl).2
      simp [hP]
  | ok a =>
      have hP : ¬ P := fun h => by simpa using (hx .longInteger).2 ⟨rfl, h⟩
      simp [hP]

theorem ok_eq_longInteger_iff {α : Type} {a : α} {fault : Fault} :
    (.ok a : Except Fault α) = .error fault ↔ fault = .longInteger ∧ False := by
  simp

mutual

/-- A value can be shown unless it holds an integer too long to be written. -/
theorem quote_eq_error_iff : (d : Datum) → (fault : Fault) →
    (d.quote = .error fault ↔ fault = .longInteger ∧ d.Overlong)
  | .null, fault | .bool _, fault | .real _, fault | .time _, fault | .text _, fault => by
      rw [quote]
      constructor
      · intro h
        cases h
      · rintro ⟨_, h⟩
        cases h
  | .int n, fault => by
      rw [quote, integerText, overlong_int_iff]
      cases Numeral.printable n with
      | true => simp
      | false => simp [eq_comm]
  | .list items, fault => by
      rw [quote, overlong_list_iff]
      refine (bind_eq_longInteger_iff (quoteItems_eq_error_iff items)
        fun _ _ => ok_eq_longInteger_iff).trans ?_
      rw [or_false]
  | .map pairs, fault => by
      rw [quote, overlong_map_iff]
      refine (bind_eq_longInteger_iff (quotePairs_eq_error_iff pairs)
        fun _ _ => ok_eq_longInteger_iff).trans ?_
      rw [or_false]

theorem quoteItems_eq_error_iff : (items : List Datum) → (fault : Fault) →
    (quoteItems items = .error fault ↔
      fault = .longInteger ∧ ∃ item ∈ items, item.Overlong)
  | [], fault => by
      rw [quoteItems]
      simp
  | item :: rest, fault => by
      rw [quoteItems]
      simp only [List.mem_cons, exists_eq_or_imp]
      refine bind_eq_longInteger_iff (quote_eq_error_iff item) fun _ other => ?_
      refine (bind_eq_longInteger_iff (quoteItems_eq_error_iff rest)
        fun _ _ => ok_eq_longInteger_iff).trans ?_
      rw [or_false]

theorem quotePairs_eq_error_iff : (pairs : List (Datum × Datum)) → (fault : Fault) →
    (quotePairs pairs = .error fault ↔
      fault = .longInteger ∧ ∃ pair ∈ pairs, pair.1.Overlong ∨ pair.2.Overlong)
  | [], fault => by
      rw [quotePairs]
      simp
  | (key, value) :: rest, fault => by
      rw [quotePairs]
      simp only [List.mem_cons, exists_eq_or_imp, or_assoc]
      refine bind_eq_longInteger_iff (quote_eq_error_iff key) fun _ other => ?_
      refine bind_eq_longInteger_iff (quote_eq_error_iff value) fun _ other => ?_
      refine (bind_eq_longInteger_iff (quotePairs_eq_error_iff rest)
        fun _ _ => ok_eq_longInteger_iff).trans ?_
      rw [or_false]

end

theorem display_eq_error_iff (d : Datum) (fault : Fault) :
    d.display = .error fault ↔ fault = .longInteger ∧ d.Overlong := by
  unfold display
  split
  · simp only [reduceCtorEq, false_iff, not_and]
    intro _ h
    cases h
  · simp only [reduceCtorEq, false_iff, not_and]
    intro _ h
    cases h
  · exact quote_eq_error_iff d fault

end Datum

/-! ## Faults that are no table errors -/

/-- Whether a fault says that a table cannot be built. -/
def Fault.IsTable : Fault → Prop
  | table _ => True
  | _ => False

/-- The faults of a computation that are no table errors are those with `P`. -/
def Escaping {α : Type} (x : Except Fault α) (P : Fault → Prop) : Prop :=
  ∀ fault, (x = .error fault ∧ ¬ fault.IsTable) ↔ P fault

namespace Escaping

variable {α β : Type} {x : Except Fault α} {k : α → Except Fault β} {P P' : Fault → Prop}
  {Q : α → Fault → Prop}

theorem congr (h : Escaping x P) (hP : ∀ fault, P fault ↔ P' fault) : Escaping x P' := by
  intro fault
  exact (h fault).trans (hP fault)

theorem ok (a : α) : Escaping (.ok a : Except Fault α) fun _ => False := by
  intro fault
  simp

theorem table (cause : TableCause) :
    Escaping (.error (.table cause) : Except Fault α) fun _ => False := by
  intro fault
  simp only [iff_false, not_and, not_not]
  rintro ⟨rfl⟩
  trivial

theorem bind (hx : Escaping x P) (hk : ∀ a, Escaping (k a) (Q a)) :
    Escaping (x >>= k) fun fault => P fault ∨ ∃ a, x = .ok a ∧ Q a fault := by
  intro fault
  rw [bind_eq_error_iff]
  constructor
  · rintro ⟨h | ⟨a, ha, h⟩, hfault⟩
    · exact Or.inl ((hx fault).1 ⟨h, hfault⟩)
    · exact Or.inr ⟨a, ha, (hk a fault).1 ⟨h, hfault⟩⟩
  · rintro (h | ⟨a, ha, h⟩)
    · rcases (hx fault).2 h with ⟨h, hfault⟩
      exact ⟨Or.inl h, hfault⟩
    · rcases (hk a fault).2 h with ⟨h, hfault⟩
      exact ⟨Or.inr ⟨a, ha, h⟩, hfault⟩

theorem map (f : α → β) (hx : Escaping x P) : Escaping (x.map f) P := by
  intro fault
  rw [map_eq_error_iff]
  exact hx fault

/-- A computation after which nothing escapes. -/
theorem andThen (hx : Escaping x P) (hk : ∀ a, Escaping (k a) fun _ => False) :
    Escaping (x >>= k) P := by
  refine (hx.bind hk).congr ?_
  simp

/-- A text is made for a message or a name: all that can go wrong is an integer in it. -/
theorem ofShown {d : Datum} (h : ∀ fault, x = .error fault ↔ fault = .longInteger ∧ d.Overlong) :
    Escaping x fun fault => fault = .longInteger ∧ d.Overlong := by
  intro fault
  rw [h fault]
  constructor
  · rintro ⟨hfault, _⟩
    exact hfault
  · rintro ⟨rfl, hlong⟩
    exact ⟨⟨rfl, hlong⟩, id⟩

end Escaping

/-! ## Entries -/

namespace Directive

inductive Unreadable : Datum → Fault → Prop
  /-- An infinite number is no index. -/
  | infinite {key : String} {negative : Bool} (hkey : key = "skip" ∨ key = "start") :
      Unreadable (.map [(.text key, .real (.infinite negative))]) .infiniteIndex
  /-- The message shows an operand that is no index. -/
  | operand {key : String} {operand : Datum} (hkey : key = "skip" ∨ key = "start")
      (hint : ∀ n, operand ≠ .int n) (hlong : operand.Overlong) :
      Unreadable (.map [(.text key, operand)]) .longInteger
  /-- The text of the operand is a name. -/
  | name {operand : Datum} (hlong : operand.Overlong) :
      Unreadable (.map [(.text "alias", operand)]) .longInteger
  /-- The message shows an entry that is no directive. -/
  | entry {raw : Datum} (hkeys : ∀ key operand, raw = .map [(.text key, operand)] →
        key ≠ "skip" ∧ key ≠ "alias" ∧ key ≠ "start") (hlong : raw.Overlong) :
      Unreadable raw .longInteger

/-- The entries that cannot be read, or whose count cannot be shown in the message that refuses
it. -/
inductive Escapes : Datum → Fault → Prop
  | read {raw : Datum} {fault : Fault} (h : Unreadable raw fault) : Escapes raw fault
  | count {operand : Datum} {n : Int} (hindex : operand.index? = .ok (some n)) (hneg : n < 0)
      (hlong : Numeral.printable n = false) :
      Escapes (.map [(.text "skip", operand)]) .longInteger

/-! ### Indices -/

theorem index?_eq_error_iff {operand : Datum} {fault : Fault} :
    operand.index? = .error fault ↔
      fault = .infiniteIndex ∧ ∃ negative, operand = .real (.infinite negative) := by
  cases operand with
  | real x =>
      cases x with
      | infinite negative => simp [Datum.index?, eq_comm]
      | _ => simp [Datum.index?]
  | _ => simp [Datum.index?]

/-- Of the values that are indices, only integers can be too long to be written. -/
theorem not_overlong_of_index? {operand : Datum} {n : Int} (h : operand.index? = .ok (some n))
    (hint : ∀ m, operand ≠ .int m) : ¬ operand.Overlong := by
  intro hlong
  cases hlong with
  | int _ => exact hint _ rfl
  | _ => cases h

theorem ne_int_of_index? {operand : Datum} (h : operand.index? = .ok none) :
    ∀ n, operand ≠ .int n := by
  rintro n rfl
  cases h

theorem escaping_indexOf (key : String) (operand : Datum) :
    Escaping (indexOf key operand) fun fault =>
      (fault = .infiniteIndex ∧ ∃ negative, operand = .real (.infinite negative)) ∨
        (fault = .longInteger ∧ (∀ n, operand ≠ .int n) ∧ operand.Overlong) := by
  unfold indexOf
  cases hindex : operand.index? with
  | error other =>
      rcases index?_eq_error_iff.1 hindex with ⟨rfl, negative, rfl⟩
      intro fault
      constructor
      · rintro ⟨h, _⟩
        cases h
        exact Or.inl ⟨rfl, negative, rfl⟩
      · rintro (⟨rfl, _⟩ | ⟨_, _, hlong⟩)
        · exact ⟨rfl, id⟩
        · cases hlong
  | ok found =>
      have hfinite : ¬ ∃ negative, operand = .real (.infinite negative) := by
        rintro ⟨negative, rfl⟩
        cases hindex
      cases found with
      | some n =>
          refine (Escaping.ok n).congr fun fault => ?_
          simp only [false_iff]
          rintro (⟨_, hinfinite⟩ | ⟨_, hint, hlong⟩)
          · exact hfinite hinfinite
          · exact not_overlong_of_index? hindex hint hlong
      | none =>
          -- Only a value that is no index is shown.
          have hshown := (Escaping.ofShown operand.quote_eq_error_iff).andThen
            (k := fun shown => (.error (.table (.invalidIndex key shown)) : Except Fault Int))
            fun _ => .table _
          refine hshown.congr fun fault => ?_
          simp [hfinite, ne_int_of_index? hindex]

/-! ### Directives -/

theorem escaping_refuse (raw : Datum) :
    Escaping (refuse raw) fun fault => fault = .longInteger ∧ raw.Overlong :=
  (Escaping.ofShown raw.quote_eq_error_iff).andThen fun _ => .table _

/-- An entry that names a directive cannot be read for its operand, any other one for itself. -/
theorem unreadable_keyed_iff {key : String} {operand : Datum} {fault : Fault} :
    Unreadable (.map [(.text key, operand)]) fault ↔
      ((key = "skip" ∨ key = "start") ∧
          ((fault = .infiniteIndex ∧ ∃ negative, operand = .real (.infinite negative)) ∨
            (fault = .longInteger ∧ (∀ n, operand ≠ .int n) ∧ operand.Overlong))) ∨
        (key = "alias" ∧ fault = .longInteger ∧ operand.Overlong) ∨
        ((key ≠ "skip" ∧ key ≠ "alias" ∧ key ≠ "start") ∧ fault = .longInteger ∧
          (Datum.map [(.text key, operand)]).Overlong) := by
  constructor
  · intro h
    cases h with
    | infinite hkey => exact Or.inl ⟨hkey, Or.inl ⟨rfl, _, rfl⟩⟩
    | operand hkey hint hlong => exact Or.inl ⟨hkey, Or.inr ⟨rfl, hint, hlong⟩⟩
    | name hlong => exact Or.inr (Or.inl ⟨rfl, rfl, hlong⟩)
    | entry hkeys hlong => exact Or.inr (Or.inr ⟨hkeys key operand rfl, rfl, hlong⟩)
  · rintro (⟨hkey, ⟨rfl, negative, rfl⟩ | ⟨rfl, hint, hlong⟩⟩ | ⟨rfl, rfl, hlong⟩ |
      ⟨hkeys, rfl, hlong⟩)
    · exact .infinite hkey
    · exact .operand hkey hint hlong
    · exact .name hlong
    · refine .entry ?_ hlong
      rintro other value hraw
      cases hraw
      exact hkeys

theorem escaping_ofDatum (raw : Datum) : Escaping (ofDatum raw) (Unreadable raw) := by
  -- The cases are those of the definition: a name, a keyed operand by its word, and all else.
  unfold ofDatum
  split
  next s =>
    refine (Escaping.ok _).congr fun fault => ?_
    simp only [false_iff]
    intro h
    cases h with
    | entry _ hlong => cases hlong
  next key operand =>
    split
    next hkey =>
      subst hkey
      split
      · -- A missing operand is not looked at as an index.
        have hnull : ¬ Datum.null.Overlong := by
          rintro ⟨⟩
        refine (Escaping.ok _).congr fun fault => ?_
        rw [unreadable_keyed_iff]
        simp [hnull]
      · refine ((escaping_indexOf "skip" operand).andThen fun _ => .ok _).congr fun fault => ?_
        rw [unreadable_keyed_iff]
        simp
    next hskip =>
      split
      next halias =>
        subst halias
        refine ((Escaping.ofShown operand.display_eq_error_iff).andThen fun _ => .ok _).congr
          fun fault => ?_
        rw [unreadable_keyed_iff]
        simp
      next halias =>
        split
        next hstart =>
          subst hstart
          refine ((escaping_indexOf "start" operand).andThen fun _ => .ok _).congr fun fault => ?_
          rw [unreadable_keyed_iff]
          simp
        next hstart =>
          refine (escaping_refuse _).congr fun fault => ?_
          rw [unreadable_keyed_iff]
          simp [hskip, halias, hstart]
  next htext hkeyed =>
    refine (escaping_refuse raw).congr fun fault => ?_
    constructor
    · rintro ⟨rfl, hlong⟩
      refine .entry ?_ hlong
      intro key operand hraw
      exact absurd hraw (hkeyed key operand)
    · intro h
      cases h with
      | entry _ hlong => exact ⟨rfl, hlong⟩
      | _ => exact absurd rfl (hkeyed _ _)

theorem indexOf_eq_ok_iff {key : String} {operand : Datum} {n : Int} :
    indexOf key operand = .ok n ↔ operand.index? = .ok (some n) := by
  unfold indexOf
  rw [bind_eq_ok_iff]
  constructor
  · rintro ⟨found, hfound, h⟩
    cases found with
    | some m =>
        cases h
        exact hfound
    | none =>
        rcases bind_eq_ok_iff.1 h with ⟨_, _, h⟩
        cases h
  · intro h
    exact ⟨some n, h, rfl⟩

/-- Everything that an entry can be read as. -/
theorem ofDatum_cases {raw : Datum} {directive : Directive} (h : ofDatum raw = .ok directive) :
    (∃ s, raw = .text s ∧ directive = .assign (Table.nameOf s)) ∨
      (∃ operand s, raw = .map [(.text "alias", operand)] ∧ operand.display = .ok s ∧
        directive = .alias (Table.nameOf s)) ∨
      (raw = .map [(.text "skip", .null)] ∧ directive = .skip 1) ∨
      (∃ operand n, raw = .map [(.text "skip", operand)] ∧ operand.index? = .ok (some n) ∧
        directive = .skip n) ∨
      ∃ operand n, raw = .map [(.text "start", operand)] ∧ operand.index? = .ok (some n) ∧
        directive = .startAt n := by
  unfold ofDatum at h
  split at h
  next s =>
    cases h
    exact Or.inl ⟨s, rfl, rfl⟩
  next key operand =>
    split at h
    next hkey =>
      subst hkey
      split at h
      next =>
        cases h
        exact Or.inr (Or.inr (Or.inl ⟨rfl, rfl⟩))
      next =>
        rcases bind_eq_ok_iff.1 h with ⟨n, hn, h⟩
        cases h
        exact Or.inr (Or.inr (Or.inr (Or.inl ⟨operand, n, rfl, indexOf_eq_ok_iff.1 hn, rfl⟩)))
    next =>
      split at h
      next hkey =>
        subst hkey
        rcases bind_eq_ok_iff.1 h with ⟨s, hs, h⟩
        cases h
        exact Or.inr (Or.inl ⟨operand, s, rfl, hs, rfl⟩)
      next =>
        split at h
        next hkey =>
          subst hkey
          rcases bind_eq_ok_iff.1 h with ⟨n, hn, h⟩
          cases h
          exact Or.inr (Or.inr (Or.inr (Or.inr ⟨operand, n, rfl, indexOf_eq_ok_iff.1 hn, rfl⟩)))
        next =>
          rcases bind_eq_ok_iff.1 h with ⟨_, _, h⟩
          cases h
  next =>
    rcases bind_eq_ok_iff.1 h with ⟨_, _, h⟩
    cases h

/-- A negative count is read from an operand. -/
theorem ofDatum_eq_skip_iff {raw : Datum} {n : Int} (hneg : n < 0) :
    ofDatum raw = .ok (.skip n) ↔
      ∃ operand, raw = .map [(.text "skip", operand)] ∧ operand.index? = .ok (some n) := by
  constructor
  · intro h
    rcases ofDatum_cases h with ⟨_, _, h⟩ | ⟨_, _, _, _, h⟩ | ⟨_, h⟩ |
      ⟨operand, _, hraw, hindex, h⟩ | ⟨_, _, _, _, h⟩
    · cases h
    · cases h
    · -- The count of a bare `skip` is one.
      cases h
      cases hneg
    · cases h
      exact ⟨operand, hraw, hindex⟩
    · cases h
  · rintro ⟨operand, rfl, hindex⟩
    have hread : indexOf "skip" operand = .ok n := indexOf_eq_ok_iff.2 hindex
    cases operand with
    | null => cases hindex
    | _ => exact bind_eq_ok_iff.2 ⟨n, hread, rfl⟩

end Directive

/-! ## Enumerations -/

namespace Enumeration

theorem escaping_put (table : Table) (name : String) (value : Int) :
    Escaping (put table name value) fun _ => False := by
  unfold put
  split
  · exact .table _
  · exact .ok _

/-- All directives that are refused are refused with a table error, but for a count that cannot be
shown. -/
theorem escaping_step (e : Enumeration) (directive : Directive) :
    Escaping (e.step directive) fun fault =>
      ∃ n, directive = .skip n ∧ n < 0 ∧ Numeral.printable n = false ∧ fault = .longInteger := by
  cases directive with
  | assign name =>
      exact ((escaping_put _ _ _).andThen fun _ => .ok _).congr (by simp)
  | skip count =>
      rw [step]
      split
      next hneg =>
        unfold Fault.ofTableCause
        simp only
        split
        next hshort =>
          exact (Escaping.table _).congr (by simp [hshort])
        next hlong =>
          -- The only step that escapes: the count is wrong, and the message cannot name it.
          intro fault
          simp only [Directive.skip.injEq, exists_eq_left', hneg, hlong]
          constructor
          · rintro ⟨h, _⟩
            cases h
            simp
          · rintro ⟨_, _, rfl⟩
            exact ⟨rfl, id⟩
      next hneg =>
        exact (Escaping.ok _).congr (by simp [hneg])
  | «alias» name =>
      rw [step]
      split
      · exact (Escaping.table _).congr (by simp)
      · exact ((escaping_put _ _ _).andThen fun _ => .ok _).congr (by simp)
  | startAt index =>
      rw [step]
      split
      · exact (Escaping.table _).congr (by simp)
      · exact (Escaping.ok _).congr (by simp)

/-- Whether an entry escapes does not depend on the entries before it. -/
theorem escaping_carry (e : Enumeration) (raw : Datum) :
    Escaping (Directive.ofDatum raw >>= e.step) (Directive.Escapes raw) := by
  refine ((Directive.escaping_ofDatum raw).bind e.escaping_step).congr fun fault => ?_
  -- Only a negative count escapes after it has been read, and its entry tells that it is one.
  constructor
  · rintro (h | ⟨directive, hread, n, rfl, hneg, hlong, rfl⟩)
    · exact .read h
    · rcases (Directive.ofDatum_eq_skip_iff hneg).1 hread with ⟨operand, rfl, hindex⟩
      exact .count hindex hneg hlong
  · intro h
    cases h with
    | read h =>
        exact Or.inl h
    | count hindex hneg hlong =>
        have hread := (Directive.ofDatum_eq_skip_iff hneg).2 ⟨_, rfl, hindex⟩
        exact Or.inr ⟨_, hread, _, rfl, hneg, hlong, rfl⟩

theorem runEntries_cons (e : Enumeration) (entry : Datum) (rest : List Datum) :
    runEntries Directive.ofDatum e (entry :: rest) =
      (Directive.ofDatum entry >>= e.step) >>= fun e => runEntries Directive.ofDatum e rest := by
  rw [runEntries]
  cases Directive.ofDatum entry <;> rfl

/-- Entries are carried out up to the first that escapes or is refused. -/
theorem escaping_runEntries (e : Enumeration) (entries : List Datum) :
    Escaping (runEntries Directive.ofDatum e entries) fun fault =>
      ∃ before entry after, entries = before ++ entry :: after ∧
        (∃ e', runEntries Directive.ofDatum e before = .ok e') ∧ Directive.Escapes entry fault := by
  induction entries generalizing e with
  | nil =>
      exact (Escaping.ok e).congr (by simp)
  | cons entry rest ih =>
      rw [runEntries_cons]
      refine ((e.escaping_carry entry).bind ih).congr fun fault => ?_
      constructor
      · rintro (h | ⟨e₁, hcarry, before, other, after, rfl, ⟨e', hbefore⟩, h⟩)
        · exact ⟨[], entry, rest, rfl, ⟨e, rfl⟩, h⟩
        · refine ⟨entry :: before, other, after, rfl, ⟨e', ?_⟩, h⟩
          rw [runEntries_cons]
          exact bind_eq_ok_iff.2 ⟨e₁, hcarry, hbefore⟩
      · rintro ⟨before, other, after, hsplit, ⟨e', hbefore⟩, h⟩
        cases before with
        | nil =>
            cases hsplit
            exact Or.inl h
        | cons first before =>
            cases hsplit
            rw [runEntries_cons] at hbefore
            rcases bind_eq_ok_iff.1 hbefore with ⟨e₁, hcarry, hbefore⟩
            exact Or.inr ⟨e₁, hcarry, before, other, after, rfl, ⟨e', hbefore⟩, h⟩

end Enumeration

/-! ## Natural numbers -/

/-- All values of a table are natural numbers. -/
def Table.Natural (table : Table) : Prop :=
  ∀ entry ∈ table.entries, 0 ≤ entry.2

theorem Table.natural_empty : Natural .empty := by
  intro entry h
  cases h

theorem Table.Natural.of_get? {table : Table} (h : table.Natural) {name : String} {value : Int}
    (hvalue : table.get? name = some value) : 0 ≤ value :=
  h (name, value) (Dictionary.mem_entries_of_get? hvalue)

theorem Table.Natural.insert {table : Table} (h : table.Natural) {value : Int} (hvalue : 0 ≤ value)
    (name : String) : Natural (Dictionary.insert table name value) := by
  intro entry hentry
  rcases Dictionary.eq_or_mem_of_mem_insert hentry with rfl | hentry
  · exact hvalue
  · exact h entry hentry

namespace Enumeration

/-- The next code, the latest code and the codes of all names are natural numbers. -/
structure Natural (e : Enumeration) : Prop where
  next : 0 ≤ e.next
  latest : ∀ code, e.latest = some code → 0 ≤ code
  table : e.table.Natural

theorem natural_start : (start 0).Natural := by
  refine ⟨Int.le_refl 0, ?_, Table.natural_empty⟩
  intro code hcode
  cases hcode

theorem natural_put {table table' : Table} {name : String} {value : Int} (h : table.Natural)
    (hvalue : 0 ≤ value) (hput : put table name value = .ok table') : table'.Natural := by
  unfold put at hput
  split at hput
  · cases hput
  · cases hput
    exact h.insert hvalue name

theorem Natural.step {e e' : Enumeration} {directive : Directive} (h : e.Natural)
    (hstep : e.step directive = .ok e') : e'.Natural := by
  cases directive with
  | assign name =>
      rcases bind_eq_ok_iff.1 hstep with ⟨table, hput, hstep⟩
      cases hstep
      have hnext : 0 ≤ e.next + 1 := Int.add_nonneg h.next (by decide)
      refine ⟨hnext, ?_, natural_put h.table h.next hput⟩
      intro code hcode
      cases hcode
      exact h.next
  | skip count =>
      rw [Enumeration.step] at hstep
      split at hstep
      · cases hstep
      next hcount =>
        cases hstep
        exact ⟨Int.add_nonneg h.next (Int.not_lt.1 hcount), h.latest, h.table⟩
  | «alias» name =>
      rw [Enumeration.step] at hstep
      split at hstep
      · cases hstep
      next code hlatest =>
        rcases bind_eq_ok_iff.1 hstep with ⟨table, hput, hstep⟩
        cases hstep
        exact ⟨h.next, h.latest, natural_put h.table (h.latest code hlatest) hput⟩
  | startAt index =>
      rw [Enumeration.step] at hstep
      split at hstep
      · cases hstep
      next hindex =>
        cases hstep
        exact ⟨Int.le_trans h.next (Int.not_lt.1 hindex), h.latest, h.table⟩

theorem Natural.runEntries {e e' : Enumeration} {entries : List Datum} (h : e.Natural)
    (hrun : Enumeration.runEntries Directive.ofDatum e entries = .ok e') : e'.Natural := by
  induction entries generalizing e with
  | nil =>
      cases hrun
      exact h
  | cons entry rest ih =>
      rw [runEntries_cons] at hrun
      rcases bind_eq_ok_iff.1 hrun with ⟨e₁, hcarry, hrun⟩
      rcases bind_eq_ok_iff.1 hcarry with ⟨directive, _, hstep⟩
      exact ih (h.step hstep) hrun

end Enumeration

/-! ## Flags -/

namespace Table

/-- A pair of a flag table: a name that can be shown, and a natural number. -/
def IsFlag (pair : Datum × Datum) : Prop :=
  ¬ pair.1.Overlong ∧ ∃ n, pair.2 = .int n ∧ 0 ≤ n

/-- A pair that cannot be entered since its name, or in a message its value, cannot be shown. -/
def FlagEscapes (key value : Datum) : Prop :=
  key.Overlong ∨ (value.Overlong ∧ ∀ n, value = .int n → n < 0)

theorem escaping_refuseFlag (key value : Datum) :
    Escaping (enterFlags.refuseFlag key value) fun fault =>
      fault = .longInteger ∧ (key.Overlong ∨ value.Overlong) := by
  intro fault
  have hshown (shown : String) (other : Fault) :
      (value.quote >>= fun text =>
        (.error (.table (.invalidFlag shown text)) : Except Fault Table)) = .error other ∧
          ¬ other.IsTable ↔ other = .longInteger ∧ value.Overlong :=
    (Escaping.ofShown value.quote_eq_error_iff).andThen (fun _ => .table _) other
  refine ((Escaping.ofShown key.display_eq_error_iff).bind hshown fault).trans ?_
  constructor
  · rintro (⟨hfault, hkey⟩ | ⟨_, _, hfault, hvalue⟩)
    · exact ⟨hfault, Or.inl hkey⟩
    · exact ⟨hfault, Or.inr hvalue⟩
  · -- The key is shown first, so the value is not looked at behind a faulty key.
    rintro ⟨hfault, h⟩
    by_cases hkey : key.Overlong
    · exact Or.inl ⟨hfault, hkey⟩
    · cases hdisplay : key.display with
      | error other =>
          exact absurd ((key.display_eq_error_iff other).1 hdisplay).2 hkey
      | ok shown =>
          exact Or.inr ⟨shown, rfl, hfault, h.resolve_left hkey⟩

theorem enterFlags_natural (table : Table) (key : Datum) {n : Int} (h : 0 ≤ n)
    (rest : List (Datum × Datum)) :
    enterFlags table ((key, .int n) :: rest) =
      key.display >>= fun name => enterFlags (Dictionary.insert table (nameOf name) n) rest := by
  rw [enterFlags]
  simp only [Int.not_lt.2 h, if_false]

theorem negative_of_not_natural {value : Datum} (h : ¬ ∃ n, value = .int n ∧ 0 ≤ n) :
    ∀ n, value = .int n → n < 0 := by
  intro n hvalue
  exact Int.not_le.1 fun hn => h ⟨n, hvalue, hn⟩

theorem enterFlags_refused (table : Table) (key : Datum) {value : Datum}
    (h : ∀ n, value = .int n → n < 0) (rest : List (Datum × Datum)) :
    enterFlags table ((key, value) :: rest) = enterFlags.refuseFlag key value := by
  cases value with
  | int n => rw [enterFlags, if_pos (h n rfl)]
  | _ => rfl

/-- Pairs are entered up to the first that escapes or is refused. -/
theorem escaping_enterFlags (table : Table) (pairs : List (Datum × Datum)) :
    Escaping (enterFlags table pairs) fun fault =>
      fault = .longInteger ∧ ∃ before key value after, pairs = before ++ (key, value) :: after ∧
        (∀ pair ∈ before, IsFlag pair) ∧ FlagEscapes key value := by
  induction pairs generalizing table with
  | nil =>
      exact (Escaping.ok table).congr (by simp)
  | cons pair rest ih =>
      rcases pair with ⟨key, value⟩
      -- A natural number is entered without being shown, and any other value is refused.
      by_cases hnatural : ∃ n, value = .int n ∧ 0 ≤ n
      · rcases hnatural with ⟨n, rfl, hn⟩
        rw [enterFlags_natural table key hn rest]
        have hname := Escaping.ofShown key.display_eq_error_iff
        refine (hname.bind fun _ => ih _).congr fun fault => ?_
        constructor
        · rintro (⟨hfault, hkey⟩ | ⟨name, hname, hfault, before, k, v, after, rfl, hbefore, h⟩)
          · exact ⟨hfault, [], key, .int n, rest, rfl, by simp, Or.inl hkey⟩
          · have hkey : ¬ key.Overlong := by
              intro hlong
              have herror := (key.display_eq_error_iff .longInteger).2 ⟨rfl, hlong⟩
              rw [hname] at herror
              cases herror
            refine ⟨hfault, (key, .int n) :: before, k, v, after, rfl, ?_, h⟩
            exact List.forall_mem_cons.2 ⟨⟨hkey, n, rfl, hn⟩, hbefore⟩
        · rintro ⟨hfault, before, k, v, after, hsplit, hbefore, h⟩
          cases before with
          | nil =>
              cases hsplit
              -- So it is the name that cannot be shown.
              refine Or.inl ⟨hfault, h.resolve_right ?_⟩
              rintro ⟨_, hneg⟩
              exact absurd (hneg n rfl) (Int.not_lt.2 hn)
          | cons first before =>
              cases hsplit
              rcases List.forall_mem_cons.1 hbefore with ⟨⟨hkey, _⟩, hbefore⟩
              cases hname : key.display with
              | error other =>
                  exact absurd ((key.display_eq_error_iff other).1 hname).2 hkey
              | ok name =>
                  exact Or.inr ⟨name, rfl, hfault, before, k, v, after, rfl, hbefore, h⟩
      · have hrefused := negative_of_not_natural hnatural
        rw [enterFlags_refused table key hrefused rest]
        refine (escaping_refuseFlag key value).congr fun fault => and_congr_right fun _ => ?_
        constructor
        · intro h
          exact ⟨[], key, value, rest, rfl, by simp, h.imp_right fun hvalue => ⟨hvalue, hrefused⟩⟩
        · rintro ⟨before, k, v, after, hsplit, hbefore, h⟩
          cases before with
          | nil =>
              cases hsplit
              exact h.imp_right fun hvalue => hvalue.1
          | cons first before =>
              cases hsplit
              exact absurd (hbefore _ List.mem_cons_self).2 hnatural

/-- What is kept when a name is entered with a natural number is kept when flags are. -/
theorem enterFlags_induction {P : Table → Prop}
    (hinsert : ∀ table s value, P table → 0 ≤ value → P (Dictionary.insert table (nameOf s) value))
    {table table' : Table} {pairs : List (Datum × Datum)} (he : P table)
    (h : enterFlags table pairs = .ok table') : P table' := by
  induction pairs generalizing table with
  | nil =>
      cases h
      exact he
  | cons pair rest ih =>
      rcases pair with ⟨key, value⟩
      by_cases hnatural : ∃ n, value = .int n ∧ 0 ≤ n
      · rcases hnatural with ⟨n, rfl, hn⟩
        rw [enterFlags_natural table key hn rest] at h
        rcases bind_eq_ok_iff.1 h with ⟨name, _, h⟩
        exact ih (hinsert table name n he hn) h
      · rw [enterFlags_refused table key (negative_of_not_natural hnatural) rest] at h
        rcases bind_eq_ok_iff.1 h with ⟨_, _, h⟩
        rcases bind_eq_ok_iff.1 h with ⟨_, _, h⟩
        cases h

theorem Natural.enterFlags {table table' : Table} {pairs : List (Datum × Datum)}
    (h : table.Natural) (henter : Table.enterFlags table pairs = .ok table') : table'.Natural :=
  enterFlags_induction (fun _ _ _ htable hvalue => htable.insert hvalue _) h henter

end Table

/-! ## Data of table files -/

/-- The data that come to an entry or a pair with a fault that is no table error, with this
fault. -/
inductive Datum.Escapes : Datum → Fault → Prop
  | entry {before : List Datum} {entry : Datum} {after : List Datum} {fault : Fault}
      {e : Enumeration}
      (hbefore : Enumeration.runEntries Directive.ofDatum (.start 0) before = .ok e)
      (h : Directive.Escapes entry fault) : Escapes (.list (before ++ entry :: after)) fault
  | flag {before : List (Datum × Datum)} {key value : Datum} {after : List (Datum × Datum)}
      (hbefore : ∀ pair ∈ before, Table.IsFlag pair) (h : Table.FlagEscapes key value) :
      Escapes (.map (before ++ (key, value) :: after)) .longInteger

theorem Directive.Escapes.fault_eq {raw : Datum} {fault : Fault} (h : Directive.Escapes raw fault) :
    fault = .infiniteIndex ∨ fault = .longInteger := by
  cases h with
  | read h =>
      cases h with
      | infinite _ => exact Or.inl rfl
      | _ => exact Or.inr rfl
  | count _ _ _ => exact Or.inr rfl

namespace Table

/-- Naming the file of a table error makes nothing else of any fault. -/
theorem escaping_inFile {α : Type} {x : Except Fault α} {P : Fault → Prop} (file : String)
    (h : Escaping x P) : Escaping (x.mapError (inFile file)) P := by
  intro fault
  rw [← h fault]
  cases x with
  | ok a =>
      simp [Except.mapError]
  | error other =>
      cases other with
      | table cause =>
          simp only [Except.mapError, inFile, Except.error.injEq]
          constructor
          · rintro ⟨rfl, hfault⟩
            exact absurd trivial hfault
          · rintro ⟨rfl, hfault⟩
            exact absurd trivial hfault
      | _ =>
          rfl

theorem eq_ok_of_inFile {α : Type} {x : Except Fault α} {file : String} {a : α}
    (h : x.mapError (inFile file) = .ok a) : x = .ok a := by
  cases x with
  | ok b => exact h
  | error fault => cases h

theorem escaping_ofDatum (raw : Datum) (file : String) :
    Escaping (ofDatum raw file) raw.Escapes := by
  cases raw with
  | null =>
      refine (Escaping.ok _).congr fun fault => ?_
      simp only [false_iff]
      rintro ⟨⟩
  | map pairs =>
      refine (escaping_enterFlags .empty pairs).congr fun fault => ?_
      constructor
      · rintro ⟨rfl, before, key, value, after, rfl, hbefore, h⟩
        exact .flag hbefore h
      · intro h
        cases h with
        | flag hbefore h => exact ⟨rfl, _, _, _, _, rfl, hbefore, h⟩
  | list entries =>
      have hrun := (Enumeration.start 0).escaping_runEntries entries
      refine (escaping_inFile file (hrun.map (·.table))).congr fun fault => ?_
      constructor
      · rintro ⟨before, entry, after, rfl, ⟨e, hbefore⟩, h⟩
        exact .entry hbefore h
      · intro h
        cases h with
        | entry hbefore h => exact ⟨_, _, _, rfl, ⟨_, hbefore⟩, h⟩
  | _ =>
      refine (Escaping.table _).congr fun fault => ?_
      simp only [false_iff]
      rintro ⟨⟩

theorem natural_ofDatum {raw : Datum} {file : String} {table : Table}
    (h : ofDatum raw file = .ok table) : table.Natural := by
  cases raw with
  | null =>
      cases h
      exact natural_empty
  | map pairs =>
      exact natural_empty.enterFlags h
  | list entries =>
      rcases map_eq_ok_iff.1 (eq_ok_of_inFile h) with ⟨e, hrun, rfl⟩
      exact (Enumeration.natural_start.runEntries hrun).table
  | _ =>
      cases h

/-- The data of a table file give a table of natural numbers or are refused with a table error, if
and only if they do not come to an entry or a pair that escapes: one with an infinite index, or one
with an integer that is too long to be written where a message or a name shows it. Such an entry
ends the construction with its own fault. The data may be nested to any depth here: an interpreter
that bounds the depth of its recursion is taken to be given data within that bound. -/
theorem ofDatum_refuses_iff (raw : Datum) (file : String) :
    (((∃ table, ofDatum raw file = .ok table ∧ ∀ entry ∈ table.entries, 0 ≤ entry.2) ∨
        ∃ cause, ofDatum raw file = .error (.table cause)) ↔ ¬ ∃ fault, raw.Escapes fault) ∧
    ∀ fault, raw.Escapes fault →
      ofDatum raw file = .error fault ∧ (fault = .infiniteIndex ∨ fault = .longInteger) := by
  have hescaping := escaping_ofDatum raw file
  refine ⟨⟨?_, ?_⟩, ?_⟩
  · -- An escaping fault is neither a table nor a table error.
    rintro h ⟨fault, hfault⟩
    rcases (hescaping fault).2 hfault with ⟨herror, hnot⟩
    rcases h with ⟨table, hok, _⟩ | ⟨cause, hcause⟩
    · rw [herror] at hok
      cases hok
    · rw [herror] at hcause
      cases hcause
      exact hnot trivial
  · intro hnone
    cases hresult : ofDatum raw file with
    | ok table =>
        exact Or.inl ⟨table, rfl, natural_ofDatum hresult⟩
    | error fault =>
        cases fault with
        | table cause =>
            exact Or.inr ⟨cause, rfl⟩
        | _ =>
            exact absurd ⟨_, (hescaping _).1 ⟨hresult, id⟩⟩ hnone
  · intro fault hfault
    refine ⟨((hescaping fault).2 hfault).1, ?_⟩
    cases hfault with
    | entry _ h => exact h.fault_eq
    | flag _ _ => exact Or.inr rfl

/-- Two names are entered before the infinite count ends the construction. -/
theorem ofDatum_refuses_iff_infinite :
    ∃ raw fault, raw.Escapes fault ∧ ofDatum raw "usages/led.yml" = .error fault := by
  let count : Datum := .map [(.text "skip", .real (.infinite true))]
  let raw : Datum := .list ([.text "num_lock", .text "caps_lock"] ++ count :: [.text "kana"])
  have hcount : Directive.Escapes count .infiniteIndex := .read (.infinite (Or.inl rfl))
  have hraw : raw.Escapes .infiniteIndex := .entry rfl hcount
  exact ⟨raw, .infiniteIndex, hraw, ((ofDatum_refuses_iff raw _).2 _ hraw).1⟩

/-- An infinite index is neither accepted nor refused with a table error. -/
theorem ofDatum_infinite_escapes :
    ∃ fault, ofDatum (.list [.map [(.text "start", .real (.infinite false))]]) "consumer.yml" =
      .error fault ∧ ¬ fault.IsTable := by
  exact ⟨.infiniteIndex, by decide +kernel, id⟩

end Table
end HidDescriptor
