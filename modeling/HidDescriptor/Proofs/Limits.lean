import HidDescriptor.Proofs.Literals
import HidDescriptor.Proofs.Steps

/-!
# Limits of notation

Integers that are too long can neither be read nor written in a message. A call that comes upon
one ends with a fault that is no compile error; every other fault of a call is one.

- `Oversteps`: a computation exceeds the limits exactly under a condition
- `Payload.oversteps_encode`, `Literal.oversteps_read`: encoding and reading of values
- `Function.Oversized`, `Function.oversteps_call`: the calls that exceed the limits
-/

namespace HidDescriptor

/-! ## Computations under limits -/

namespace Fault

/-- Whether a fault says that an integer is too long to read or to write. -/
def IsLimit : Fault → Prop
  | longNumeral _ | longInteger => True
  | _ => False

theorem not_isLimit_of_isCompile {fault : Fault} (h : fault.IsCompile) : ¬ fault.IsLimit := by
  cases fault with
  | compile diagnostic =>
      exact id
  | _ =>
      exact absurd h id

theorem isLimit_locate {fault : Fault} {number : Int} {line : String} :
    (fault.locate number line).IsLimit ↔ fault.IsLimit := by
  cases fault <;> rfl

theorem eq_compile_of_isCompile {fault : Fault} (h : fault.IsCompile) :
    ∃ diagnostic, fault = .compile diagnostic := by
  cases fault with
  | compile diagnostic =>
      exact ⟨diagnostic, rfl⟩
  | _ =>
      exact absurd h id

end Fault

/-- A computation exceeds a limit exactly if `P` holds, and any other fault of it is a compile
error. -/
structure Oversteps {α : Type} (x : Except Fault α) (P : Prop) : Prop where
  iff : (∃ fault, x = .error fault ∧ fault.IsLimit) ↔ P
  only : ∀ fault, x = .error fault → fault.IsCompile ∨ fault.IsLimit

namespace Oversteps

variable {α β : Type} {x : Except Fault α} {k : α → Except Fault β} {f : α → β} {P P' : Prop}
  {Q : α → Prop}

theorem congr (h : Oversteps x P) (hP : P ↔ P') : Oversteps x P' :=
  ⟨h.iff.trans hP, h.only⟩

theorem ok (a : α) : Oversteps (.ok a : Except Fault α) False :=
  ⟨by simp, by simp⟩

theorem not_of_ok {a : α} (h : Oversteps (.ok a : Except Fault α) P) : ¬ P := by
  rw [← h.iff]
  simp

theorem error {fault : Fault} (h : fault.IsCompile ∨ fault.IsLimit) :
    Oversteps (.error fault : Except Fault α) fault.IsLimit := by
  refine ⟨⟨?_, fun hlimit => ⟨fault, rfl, hlimit⟩⟩, ?_⟩
  · rintro ⟨_, hfault, hlimit⟩
    rwa [← Except.error.inj hfault] at hlimit
  · intro other hother
    rwa [← Except.error.inj hother]

theorem isLimit_iff {fault : Fault} (h : Oversteps (.error fault : Except Fault α) P) :
    fault.IsLimit ↔ P := by
  rw [← h.iff]
  constructor
  · intro hlimit
    exact ⟨fault, rfl, hlimit⟩
  · rintro ⟨_, hfault, hlimit⟩
    rwa [Except.error.inj hfault]

theorem isCompile_iff {fault : Fault} (h : Oversteps (.error fault : Except Fault α) P) :
    fault.IsCompile ↔ ¬ P := by
  rw [← h.isLimit_iff]
  constructor
  · exact Fault.not_isLimit_of_isCompile
  · intro hnot
    rcases h.only fault rfl with hcompile | hlimit
    · exact hcompile
    · exact absurd hlimit hnot

/-- A cause is a compile error if all its integers can be written. -/
theorem ofCause (cause : Cause) :
    Oversteps (.error (.ofCause cause) : Except Fault α)
      (cause.integers.all Numeral.printable = false) := by
  cases hall : cause.integers.all Numeral.printable with
  | true =>
      rw [Fault.ofCause, if_pos hall]
      have hcompile : (Fault.compile (.ofCause cause)).IsCompile := trivial
      refine (error (Or.inl hcompile)).congr ?_
      simp [Fault.IsLimit]
  | false =>
      rw [Fault.ofCause, if_neg (by simp [hall])]
      have hlimit : Fault.longInteger.IsLimit := trivial
      refine (error (Or.inr hlimit)).congr ?_
      simp [Fault.IsLimit]

/-- A cause that shows no integer is a compile error. -/
theorem plainCause {cause : Cause} (h : cause.integers = []) :
    Oversteps (.error (.ofCause cause) : Except Fault α) False :=
  (ofCause cause).congr (by simp [h])

/-- A fault stays what it is when it is passed on. -/
theorem pass {fault : Fault} (h : Oversteps (.error fault : Except Fault α) P) :
    Oversteps (.error fault : Except Fault β) P := by
  have hfault : Oversteps (.error fault : Except Fault β) fault.IsLimit := error (h.only fault rfl)
  exact hfault.congr h.isLimit_iff

theorem bind (hx : Oversteps x P) (hk : ∀ a, x = .ok a → Oversteps (k a) (Q a)) :
    Oversteps (x >>= k) (P ∨ ∃ a, x = .ok a ∧ Q a) := by
  cases x with
  | error fault =>
      have hstop : Oversteps (Except.error fault >>= k) P := hx.pass
      exact hstop.congr (by simp)
  | ok a =>
      -- There is no fault yet, so the limit can only be exceeded in what follows.
      have hnext : Oversteps (Except.ok a >>= k) (Q a) := hk a rfl
      exact hnext.congr (by simp [hx.not_of_ok])

theorem map (hx : Oversteps x P) : Oversteps (x.map f) P := by
  cases x with
  | error fault =>
      exact hx.pass
  | ok a =>
      exact (ok (f a)).congr (by simp [hx.not_of_ok])

/-- Where the condition fails there is a result or a compile error. -/
theorem not_iff (h : Oversteps x P) :
    ((∃ a, x = .ok a) ∨ ∃ diagnostic, x = .error (.compile diagnostic)) ↔ ¬ P := by
  cases x with
  | ok a =>
      simp [h.not_of_ok]
  | error fault =>
      rw [← h.isCompile_iff]
      constructor
      · rintro (⟨a, ha⟩ | ⟨diagnostic, hdiagnostic⟩)
        · cases ha
        · rw [Except.error.inj hdiagnostic]
          trivial
      · intro hcompile
        rcases Fault.eq_compile_of_isCompile hcompile with ⟨diagnostic, rfl⟩
        exact Or.inr ⟨diagnostic, rfl⟩

end Oversteps

/-! ## Values -/

theorem Literal.oversteps_read (token : String) : Oversteps (read token) (Overlong token) := by
  refine ⟨⟨?_, ?_⟩, ?_⟩
  · rintro ⟨fault, hfault, _⟩
    rcases read_eq_error_iff.1 hfault with ⟨sign, digits, feed, htoken, hsign, hfeed, hall, hlimit, _⟩
    exact ⟨sign, digits, feed, htoken, hsign, hfeed, hall, hlimit⟩
  · rintro ⟨sign, digits, feed, htoken, hsign, hfeed, hall, hlimit⟩
    refine ⟨.longNumeral digits.length, read_eq_error_iff.2 ?_, trivial⟩
    exact ⟨sign, digits, feed, htoken, hsign, hfeed, hall, hlimit, rfl⟩
  · intro fault hfault
    rcases read_eq_error_iff.1 hfault with ⟨_, _, _, _, _, _, _, _, rfl⟩
    exact Or.inr trivial

theorem Numeral.printable_of_lt {n : Int} (h : n.natAbs < 2 ^ 32) : printable n = true := by
  have hpow : 2 ^ 32 ≤ Nat.pow 10 digitLimit := by
    decide +kernel
  rw [printable, decide_eq_true_eq]
  omega

namespace Payload

theorem natAbs_lt_of_fits {value : Int} {signed : Bool} {bits : Nat} (hbits : bits ∈ widths)
    (h : fits value signed bits = true) : value.natAbs < 2 ^ 32 := by
  have hle : bits ≤ 32 := by
    simp only [widths, List.mem_cons, List.not_mem_nil, or_false] at hbits
    omega
  have hroom : 2 ^ bits ≤ 2 ^ 32 := Nat.pow_le_pow_right (by decide) hle
  have hroom' : 2 ^ (bits - 1) ≤ 2 ^ 32 := Nat.pow_le_pow_right (by decide) (by omega)
  simp only [fits, Bool.or_eq_true, Bool.and_eq_true, decide_eq_true_eq, Nat.pow_eq] at h
  omega

/-- A value that fits no width is named in the message, so it has to be written. -/
theorem oversteps_encode (value : Int) (signed : Bool) :
    Oversteps (encode value none signed) (Numeral.printable value = false) := by
  have hcause : (Cause.doesNotFit value 32).integers.all Numeral.printable =
      Numeral.printable value := by
    have hbits : Numeral.printable 32 = true := Numeral.printable_of_lt (by decide)
    simp [Cause.integers, hbits]
  have hstop : Oversteps (.error (.ofCause (.doesNotFit value 32)) : Except Fault Payload)
      (Numeral.printable value = false) := by
    rw [← hcause]
    exact .ofCause _
  cases hencode : encode value none signed with
  | error fault =>
      have hfault := (encode_eq_error_iff.1 hencode).2
      rw [hfault]
      exact hstop
  | ok payload =>
      -- A value that is too long to write is too large for every width.
      refine (Oversteps.ok payload).congr ⟨False.elim, fun hlong => ?_⟩
      have hnone : ∀ bits ∈ widths, fits value signed bits = false := by
        intro bits hbits
        rw [Bool.eq_false_iff]
        intro hfits
        rw [Numeral.printable_of_lt (natAbs_lt_of_fits hbits hfits)] at hlong
        cases hlong
      have hfault : encode value none signed = .error (.ofCause (.doesNotFit value 32)) :=
        encode_eq_error_iff.2 ⟨hnone, Eq.refl _⟩
      rw [hfault] at hencode
      cases hencode

end Payload

/-! ## Arguments -/

/-- A literal that is too long to read, or whose value is too long to write. -/
def Literal.Oversized (token : String) : Prop :=
  Overlong token ∨ ∃ value, read token = .ok (some value) ∧ Numeral.printable value = false

/-- A literal of this kind, or a name whose code is too long to write. -/
def Table.Oversized (table : Table) (token : String) : Prop :=
  Literal.Oversized token ∨
    Literal.read token = .ok none ∧ ∃ code, table.get? token = some code ∧
      Numeral.printable code = false

/-- What is done with a literal oversteps if the literal is too long to read, or if what is done
with its value does. -/
theorem Literal.oversteps_read_bind {α : Type} {token : String} {k : Option Int → Except Fault α}
    {N : Prop} {Q : Int → Prop} (hnone : Oversteps (k none) N)
    (hsome : ∀ value, Oversteps (k (some value)) (Q value)) :
    Oversteps (read token >>= k)
      (Overlong token ∨ (read token = .ok none ∧ N) ∨
        ∃ value, read token = .ok (some value) ∧ Q value) := by
  have hk (literal : Option Int) : Oversteps (k literal) (literal.elim N Q) := by
    cases literal with
    | none =>
        exact hnone
    | some value =>
        exact hsome value
  refine ((oversteps_read token).bind fun literal _ => hk literal).congr (or_congr_right ?_)
  rw [Option.exists]
  rfl

namespace Function

theorem oversteps_oneArgument_bind {α : Type} {name : String} {args : List String}
    {k : String → Except Fault α} {Q : String → Prop} (h : ∀ arg, Oversteps (k arg) (Q arg)) :
    Oversteps (oneArgument name args >>= k) (∃ arg, args = [arg] ∧ Q arg) := by
  have hone : Oversteps (oneArgument name args) False := by
    unfold oneArgument
    split
    next arg =>
      exact .ok arg
    next =>
      exact .plainCause rfl
  refine (hone.bind fun arg _ => h arg).congr ?_
  simp only [oneArgument_eq_ok_iff, false_or]

theorem oversteps_resolve (table : Table) (token : String) :
    Oversteps (Payload.resolve (some table) token none) (table.Oversized token) := by
  unfold Payload.resolve Table.Oversized Literal.Oversized
  rw [or_assoc, or_comm (b := _ ∧ _)]
  refine Literal.oversteps_read_bind ?_ fun value => (Payload.oversteps_encode value false).map
  -- The token is no literal, so it is looked up.
  simp only [Option.bind_some]
  cases table.get? token with
  | none =>
      exact (Oversteps.ok _).congr (by simp)
  | some code =>
      exact (Payload.oversteps_encode code false).map.congr (by simp)

theorem oversteps_symbol (name : String) (table : Table) (arg : String) :
    Oversteps (symbol name table arg) (table.Oversized arg) := by
  unfold symbol
  have hresolve := oversteps_resolve table arg
  refine (hresolve.bind (Q := fun _ => False) fun found _ => ?_).congr (by simp)
  cases found with
  | some payload =>
      exact .ok payload
  | none =>
      exact .plainCause rfl

/-! ## Calls -/

def usagesOn (tables : Tables) (page : Option String) : Option Table :=
  page.bind fun page => tables.usages.get? (if page = "keypad" then "keyboard" else page)

/-- The calls that exceed a limit when a usage page is in force. -/
def Oversized (f : Function) (page : Option String) (tables : Tables) (args : List String) : Prop :=
  match f with
  | usagePage => ∃ arg, args = [arg] ∧ tables.usagePages.Oversized arg
  | collection => ∃ arg, args = [arg] ∧ tables.collections.Oversized arg
  | usage | usageMinimum | usageMaximum =>
      ∃ arg, args = [arg] ∧ ∃ table, usagesOn tables page = some table ∧ table.Oversized arg
  | logicalMinimum | logicalMaximum | physicalMinimum | physicalMaximum =>
      ∃ arg, args = [arg] ∧ Literal.Oversized arg
  | reportSize | reportCount =>
      ∃ arg, args = [arg] ∧ (Literal.Overlong arg ∨
        ∃ value, Literal.read arg = .ok (some value) ∧ 0 ≤ value ∧ Numeral.printable value = false)
  | reportId => ∃ arg, args = [arg] ∧ Literal.Overlong arg
  | input | output | feature =>
      ∃ union, Payload.composeFlags tables.flags args = some union ∧
        Numeral.printable union = false
  | endCollection => False

/-! ### Each kind of function -/

theorem oversteps_callUsagePage (tables : Tables) (name : String) (args : List String) :
    Oversteps (callUsagePage tables name args)
      (∃ arg, args = [arg] ∧ tables.usagePages.Oversized arg) := by
  refine oversteps_oneArgument_bind fun arg => ?_
  exact ((oversteps_symbol name tables.usagePages arg).bind fun _ _ => .ok _).congr (by simp)

theorem oversteps_callCollection (tables : Tables) (name : String) (args : List String) :
    Oversteps (callCollection tables name args)
      (∃ arg, args = [arg] ∧ tables.collections.Oversized arg) := by
  refine oversteps_oneArgument_bind fun arg => ?_
  exact ((oversteps_symbol name tables.collections arg).bind fun _ _ => .ok _).congr (by simp)

theorem oversteps_callEndCollection (name : String) (args : List String) :
    Oversteps (callEndCollection name args) False := by
  unfold callEndCollection
  split
  · exact .ok _
  · exact .plainCause rfl

/-- With nothing but a usage page set, the usage table is that of the page. -/
theorem usageTable_eq {state : ItemState} {page : Option String} (tables : Tables) (name : String)
    (h : state.globals = ItemState.pageGlobals page) :
    usageTable state tables name =
      match usagesOn tables page, page with
      | some table, _ => .ok table
      | none, none => .error (.ofCause (.missingUsagePage name))
      | none, some page =>
          .error (.ofCause (.missingUsageTable (if page = "keypad" then "keyboard" else page))) := by
  unfold usageTable
  rw [ItemState.current?_pageName h]
  cases page with
  | none =>
      rfl
  | some page =>
      simp only [Option.map_some, usagesPage, usagesOn, Option.bind_some]
      cases tables.usages.get? (if page = "keypad" then "keyboard" else page) with
      | none =>
          rfl
      | some table =>
          rfl

theorem oversteps_callUsage {state : ItemState} {page : Option String} (tables : Tables)
    (name : String) (args : List String) (h : state.globals = ItemState.pageGlobals page) :
    Oversteps (callUsage state tables name args)
      (∃ arg, args = [arg] ∧ ∃ table, usagesOn tables page = some table ∧ table.Oversized arg) := by
  refine oversteps_oneArgument_bind fun arg => ?_
  have hsymbol (table : Table) : Oversteps
      (symbol name table arg >>= fun payload => (.ok (.plain payload) : Except Fault Outcome))
      (table.Oversized arg) :=
    ((oversteps_symbol name table arg).bind fun _ _ => .ok _).congr (by simp)
  rw [usageTable_eq tables name h]
  cases usagesOn tables page with
  | some table =>
      exact (hsymbol table).congr (by simp)
  | none =>
      -- There is no table to look in, and neither message shows an integer.
      cases page with
      | none =>
          exact (Oversteps.plainCause rfl).congr (by simp)
      | some page =>
          exact (Oversteps.plainCause rfl).congr (by simp)

theorem oversteps_callNumber (name : String) (args : List String) :
    Oversteps (callNumber name args) (∃ arg, args = [arg] ∧ Literal.Oversized arg) := by
  refine oversteps_oneArgument_bind fun arg => ?_
  refine (Literal.oversteps_read_bind (.plainCause rfl) fun value =>
    (Payload.oversteps_encode value true).map).congr ?_
  simp [Literal.Oversized]

theorem oversteps_callCount (name : String) (args : List String) :
    Oversteps (callCount name args)
      (∃ arg, args = [arg] ∧ (Literal.Overlong arg ∨
        ∃ value, Literal.read arg = .ok (some value) ∧ 0 ≤ value ∧
          Numeral.printable value = false)) := by
  refine oversteps_oneArgument_bind fun arg => ?_
  have hvalue (value : Int) : Oversteps
      (if value < 0 then .error (.ofCause (.notNumeric arg name))
        else (Payload.encode value none false).map .plain : Except Fault Outcome)
      (0 ≤ value ∧ Numeral.printable value = false) := by
    split
    next hneg =>
      refine (Oversteps.plainCause rfl).congr ?_
      simp [Int.not_le.2 hneg]
    next hneg =>
      refine (Payload.oversteps_encode value false).map.congr ?_
      simp [Int.not_lt.1 hneg]
  refine (Literal.oversteps_read_bind (.plainCause rfl) hvalue).congr ?_
  simp

theorem oversteps_callReportId (name : String) (args : List String) :
    Oversteps (callReportId name args) (∃ arg, args = [arg] ∧ Literal.Overlong arg) := by
  refine oversteps_oneArgument_bind fun arg => ?_
  have hvalue (value : Int) : Oversteps
      (if 1 ≤ value && value ≤ 0xFF then .ok (.plain [value])
        else .error (.ofCause (.reportIdRange arg)) : Except Fault Outcome) False := by
    split
    · exact .ok _
    · exact .plainCause rfl
  refine (Literal.oversteps_read_bind (.plainCause rfl) hvalue).congr ?_
  simp

theorem oversteps_callFlags (tables : Tables) (name : String) (args : List String) :
    Oversteps (callFlags tables name args)
      (∃ union, Payload.composeFlags tables.flags args = some union ∧
        Numeral.printable union = false) := by
  unfold callFlags
  split
  next union hunion =>
    refine (Payload.oversteps_encode union false).map.congr ?_
    simp [hunion]
  next hnone =>
    refine (Oversteps.plainCause rfl).congr ?_
    simp [hnone]

/-- A call exceeds a limit exactly if it is oversized, and is else carried out or rejected. -/
theorem oversteps_call (f : Function) {state : ItemState} {page : Option String} (tables : Tables)
    (args : List String) (h : state.globals = ItemState.pageGlobals page) :
    Oversteps (f.call state tables args) (f.Oversized page tables args) := by
  cases f with
  | usagePage =>
      exact oversteps_callUsagePage tables _ args
  | collection =>
      exact oversteps_callCollection tables _ args
  | endCollection =>
      exact oversteps_callEndCollection _ args
  | usage | usageMinimum | usageMaximum =>
      exact oversteps_callUsage tables _ args h
  | logicalMinimum | logicalMaximum | physicalMinimum | physicalMaximum =>
      exact oversteps_callNumber _ args
  | reportSize | reportCount =>
      exact oversteps_callCount _ args
  | reportId =>
      exact oversteps_callReportId _ args
  | input | output | feature =>
      exact oversteps_callFlags tables _ args

theorem oversteps_advance (f : Function) (args : List String) (state : ItemState) :
    Oversteps (f.advance args state) False := by
  have hclose : Oversteps state.closeScope False := by
    unfold ItemState.closeScope
    split
    · exact .plainCause rfl
    · exact .ok _
  unfold advance
  split
  · exact .ok _
  · exact .ok _
  · exact hclose.map
  · exact .ok _

end Function
end HidDescriptor
