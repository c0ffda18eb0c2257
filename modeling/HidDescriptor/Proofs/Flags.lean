import HidDescriptor.Proofs.Representable
import HidDescriptor.Proofs.Steps

/-!
# Flags as a set

What a call of flags gives depends on which flags are named, not on their order or on how often a
flag is named.

- `Payload.testBit_of_composeFlags`: the bits of a union of flags
- `Payload.composeFlags_congr`, `Payload.composeFlags_append_iff`: unions of the same flags, and of
  flags in two parts
- `Table.FirstUnknown`: the unknown flag that a refused call names
- `Function.call_flags_as_set`: calls of flags
-/

namespace HidDescriptor

/-- Two faults of one class: the same fault, or compile errors of one kind. -/
inductive Fault.SameClass : Fault → Fault → Prop
  | same (fault : Fault) : SameClass fault fault
  | kind {d d' : Diagnostic} (h : d.kind = d'.kind) : SameClass (.compile d) (.compile d')

/-! ## Bits of a union -/

/-- A bit is set in a union if and only if it is set in one of the codes. -/
theorem testBit_foldr_or (codes : List Nat) (k : Nat) :
    (codes.foldr (· ||| ·) 0).testBit k = true ↔ ∃ code ∈ codes, code.testBit k = true := by
  induction codes with
  | nil =>
      simp
  | cons code rest ih =>
      rw [List.foldr_cons, Nat.testBit_or, Bool.or_eq_true, ih]
      simp

namespace Payload

variable {table : Table} {flags : List String}

/-- The codes of flags are the codes that the table has for them. -/
theorem FlagCodes.mem_iff {codes : List Nat} (h : FlagCodes table flags codes) (code : Nat) :
    code ∈ codes ↔ ∃ flag ∈ flags, table.get? flag = some (code : Int) := by
  induction h with
  | nil =>
      simp
  | @cons flag first rest others hfirst _ ih =>
      rw [List.mem_cons, ih]
      constructor
      · rintro (rfl | ⟨other, hmem, hother⟩)
        · exact ⟨flag, List.mem_cons_self, hfirst⟩
        · exact ⟨other, List.mem_cons_of_mem _ hmem, hother⟩
      · rintro ⟨other, hmem, hother⟩
        rcases List.mem_cons.1 hmem with rfl | hmem
        · -- A flag has one code.
          exact Or.inl (Int.ofNat.inj (Option.some.inj (hother.symm.trans hfirst)))
        · exact Or.inr ⟨other, hmem, hother⟩

/-- Flags have codes if and only if the table has all of them. -/
theorem exists_flagCodes_iff (h : table.Natural) :
    (∃ codes, FlagCodes table flags codes) ↔ ∀ flag ∈ flags, table.get? flag ≠ none := by
  induction flags with
  | nil =>
      exact ⟨fun _ => List.forall_mem_nil _, fun _ => ⟨[], .nil⟩⟩
  | cons flag rest ih =>
      rw [List.forall_mem_cons, ← ih]
      constructor
      · rintro ⟨_, hcodes⟩
        cases hcodes with
        | cons hcode hrest =>
            exact ⟨by rw [hcode]; exact Option.some_ne_none _, ⟨_, hrest⟩⟩
      · rintro ⟨hflag, codes, hcodes⟩
        rcases Option.ne_none_iff_exists'.1 hflag with ⟨code, hcode⟩
        obtain ⟨n, rfl⟩ := Int.eq_ofNat_of_zero_le (h.of_get? hcode)
        exact ⟨n :: codes, .cons hcode hcodes⟩

/-- A union of flags is a natural number, and its bits are those of the flags. -/
theorem testBit_of_composeFlags (h : table.Natural) {union : Int}
    (hunion : composeFlags table flags = some union) :
    ∃ value : Nat, union = value ∧ ∀ k, value.testBit k = true ↔
      ∃ flag ∈ flags, ∃ code : Nat, table.get? flag = some (code : Int) ∧
        code.testBit k = true := by
  rcases (composeFlags_eq_some_iff h).1 hunion with ⟨codes, hcodes, rfl⟩
  refine ⟨codes.foldr (· ||| ·) 0, rfl, fun k => ?_⟩
  rw [testBit_foldr_or]
  constructor
  · rintro ⟨code, hmem, hbit⟩
    rcases (hcodes.mem_iff code).1 hmem with ⟨flag, hflag, hcode⟩
    exact ⟨flag, hflag, code, hcode, hbit⟩
  · rintro ⟨flag, hflag, code, hcode, hbit⟩
    exact ⟨code, (hcodes.mem_iff code).2 ⟨flag, hflag, hcode⟩, hbit⟩

/-- A union fails if and only if a flag is unknown. -/
theorem composeFlags_eq_none_iff (h : table.Natural) :
    composeFlags table flags = none ↔ ∃ flag ∈ flags, table.get? flag = none := by
  have hsome : (∃ union, composeFlags table flags = some union) ↔
      ∃ codes, FlagCodes table flags codes := by
    simp only [composeFlags_eq_some_iff h]
    constructor
    · rintro ⟨_, codes, hcodes, _⟩
      exact ⟨codes, hcodes⟩
    · rintro ⟨codes, hcodes⟩
      exact ⟨_, codes, hcodes, rfl⟩
  rw [exists_flagCodes_iff h] at hsome
  rw [← not_iff_not, ← ne_eq, Option.ne_none_iff_exists', hsome]
  push Not
  rfl

/-- Neither order nor repetition of flags changes their union. -/
theorem composeFlags_congr (h : table.Natural) {flags' : List String}
    (hsame : ∀ flag, flag ∈ flags ↔ flag ∈ flags') :
    composeFlags table flags = composeFlags table flags' := by
  have hnone : composeFlags table flags = none ↔ composeFlags table flags' = none := by
    simp only [composeFlags_eq_none_iff h, hsame]
  cases hunion : composeFlags table flags with
  | none =>
      rw [hnone.1 hunion]
  | some union =>
      have hne : composeFlags table flags' ≠ none := by
        intro hfail
        rw [hnone.2 hfail] at hunion
        cases hunion
      rcases Option.ne_none_iff_exists'.1 hne with ⟨union', hunion'⟩
      rcases testBit_of_composeFlags h hunion with ⟨value, rfl, hbits⟩
      rcases testBit_of_composeFlags h hunion' with ⟨value', rfl, hbits'⟩
      -- Both unions have the bits of the same codes.
      have hvalue : value = value' := by
        apply Nat.eq_of_testBit_eq
        intro k
        rw [Bool.eq_iff_iff, hbits, hbits']
        simp only [hsame]
      rw [hunion', hvalue]

/-- The union of flags in two parts is the union of the parts. -/
theorem composeFlags_append_iff (h : table.Natural) {flags' : List String} {union : Int} :
    composeFlags table (flags ++ flags') = some union ↔
      ∃ m n : Nat, composeFlags table flags = some (m : Int) ∧
        composeFlags table flags' = some (n : Int) ∧ union = (m ||| n : Nat) := by
  -- What the first part comes to is where the union of the second part starts.
  have hsplit : composeFlags table (flags ++ flags') =
      (composeFlags table flags).bind fun first =>
        flags'.foldlM (fun union flag => (table.get? flag).map (unionBits union)) first :=
    List.foldlM_append
  rw [hsplit, Option.bind_eq_some_iff]
  constructor
  · rintro ⟨first, hfirst, hrest⟩
    rcases testBit_of_composeFlags h hfirst with ⟨m, rfl, _⟩
    rcases (foldlM_union_eq_some_iff h m).1 hrest with ⟨codes, hcodes, rfl⟩
    exact ⟨m, codes.foldr (· ||| ·) 0, hfirst,
      (composeFlags_eq_some_iff h).2 ⟨codes, hcodes, rfl⟩, rfl⟩
  · rintro ⟨m, n, hm, hn, rfl⟩
    rcases (composeFlags_eq_some_iff h).1 hn with ⟨codes, hcodes, hvalue⟩
    obtain rfl := Int.ofNat.inj hvalue
    exact ⟨m, hm, (foldlM_union_eq_some_iff h m).2 ⟨codes, hcodes, rfl⟩⟩

end Payload

/-! ## Calls of flags -/

/-- A flag that a table lacks, with none but known flags before it. -/
def Table.FirstUnknown (table : Table) (flags : List String) (flag : String) : Prop :=
  ∃ before after, flags = before ++ flag :: after ∧
    (∀ known ∈ before, table.get? known ≠ none) ∧ table.get? flag = none

namespace Function

/-- The functions whose arguments are flags. -/
def TakesFlags (f : Function) : Prop :=
  f = .input ∨ f = .output ∨ f = .feature

section

variable {tables : Tables} {name : String} {args : List String}

theorem call_of_takesFlags {f : Function} (hf : f.TakesFlags) (state : ItemState) (tables : Tables)
    (args : List String) : f.call state tables args = callFlags tables f.name args := by
  rcases hf with rfl | rfl | rfl <;> rfl

theorem callFlags_of_some {union : Int}
    (h : Payload.composeFlags tables.flags args = some union) :
    callFlags tables name args = (Payload.encode union none false).map .plain := by
  unfold callFlags
  split
  next value hvalue =>
    rw [Option.some.inj (hvalue.symm.trans h)]
  next hnone =>
    rw [hnone] at h
    cases h

/-- A call with an unknown flag names the first one. -/
theorem callFlags_of_none (name : String) (h : Payload.composeFlags tables.flags args = none) :
    ∃ flag, tables.flags.FirstUnknown args flag ∧
      callFlags tables name args = .error (.compile (.ofCause (.undefinedSymbol flag name))) := by
  have hfind := Option.some_get (Payload.isSome_find?_of_composeFlags_eq_none h)
  rcases List.find?_eq_some_iff_append.1 hfind.symm with ⟨hunknown, before, after, hargs, hbefore⟩
  refine ⟨unknownFlag tables.flags args h, ⟨before, after, hargs, ?_, ?_⟩, ?_⟩
  · intro known hmem
    have hknown := hbefore known hmem
    rwa [Bool.not_not, Dictionary.contains_eq_isSome_get?, Option.isSome_iff_ne_none] at hknown
  · rwa [Bool.not_eq_true', Dictionary.contains_eq_isSome_get?, Option.isSome_eq_false_iff,
      Option.isNone_iff_eq_none] at hunknown
  · unfold callFlags
    split
    next value hvalue =>
      rw [hvalue] at h
      cases h
    next =>
      exact congrArg Except.error (Fault.ofCause_eq_compile rfl)

end

/-- The arguments of a call of flags are a set.

Calls with the same flags have the same outcome, or are both refused for the same class of reasons.
The bits of the payload are those of the flags, so flags in two parts come to the union of the two
parts. A refusal for unknown flags names the first of them. -/
theorem call_flags_as_set (f : Function) (hf : f.TakesFlags) (state : ItemState) (tables : Tables)
    (hflags : tables.flags.Natural) :
    (∀ a b : List String, (∀ flag, flag ∈ a ↔ flag ∈ b) →
      (∃ outcome, f.call state tables a = .ok outcome ∧ f.call state tables b = .ok outcome) ∨
        ∃ fault fault', f.call state tables a = .error fault ∧
          f.call state tables b = .error fault' ∧ fault.SameClass fault') ∧
    (∀ args outcome, f.call state tables args = .ok outcome →
      ∃ value : Nat, Payload.decode outcome.payload false = .ok (value : Int) ∧
        ∀ k, value.testBit k = true ↔
          ∃ flag ∈ args, ∃ code : Nat, tables.flags.get? flag = some (code : Int) ∧
            code.testBit k = true) ∧
    (∀ a b union, Payload.composeFlags tables.flags (a ++ b) = some union ↔
      ∃ m n : Nat, Payload.composeFlags tables.flags a = some (m : Int) ∧
        Payload.composeFlags tables.flags b = some (n : Int) ∧ union = (m ||| n : Nat)) ∧
    ∀ args, (∃ flag ∈ args, tables.flags.get? flag = none) →
      ∃ flag, tables.flags.FirstUnknown args flag ∧
        f.call state tables args = .error (.compile (.ofCause (.undefinedSymbol flag f.name))) := by
  simp only [call_of_takesFlags hf]
  refine ⟨?_, ?_, fun a b union => Payload.composeFlags_append_iff hflags, ?_⟩
  · intro a b hsame
    have hunion := Payload.composeFlags_congr hflags hsame
    cases ha : Payload.composeFlags tables.flags a with
    | some union =>
        rw [callFlags_of_some ha, callFlags_of_some (hunion.symm.trans ha)]
        cases (Payload.encode union none false).map Outcome.plain with
        | ok outcome =>
            exact Or.inl ⟨outcome, rfl, rfl⟩
        | error fault =>
            exact Or.inr ⟨fault, fault, rfl, rfl, .same fault⟩
    | none =>
        -- The two refusals may name different flags, each the first in its own list.
        rcases callFlags_of_none f.name ha with ⟨flag, _, hcall⟩
        rcases callFlags_of_none f.name (hunion.symm.trans ha) with ⟨flag', _, hcall'⟩
        exact Or.inr ⟨_, _, hcall, hcall', .kind rfl⟩
  · intro args outcome hcall
    rcases callFlags_eq_ok_iff.1 hcall with ⟨union, payload, hunion, hencode, rfl⟩
    rcases Payload.testBit_of_composeFlags hflags hunion with ⟨value, rfl, hbits⟩
    exact ⟨value, Payload.decode_of_encode_unsigned (Int.natCast_nonneg value) hencode, hbits⟩
  · intro args hunknown
    exact callFlags_of_none f.name ((Payload.composeFlags_eq_none_iff hflags).2 hunknown)

/-- Two overlapping flags in either order with one of them repeated, and two unknown ones. -/
theorem call_flags_as_set_overlap :
    ∃ tables : Tables, TakesFlags .feature ∧ tables.flags.Natural ∧
      feature.call .empty tables ["low", "wide", "low"] = .ok (.plain [0x03, 0x01]) ∧
      feature.call .empty tables ["wide", "low"] = .ok (.plain [0x03, 0x01]) ∧
      (∃ value : Nat, Payload.decode [0x03, 0x01] false = .ok (value : Int) ∧
        value.testBit 8 = true ∧ value.testBit 2 = false) ∧
      feature.call .empty tables ["low", "b", "a"] =
        .error (.compile (.ofCause (.undefinedSymbol "b" "feature"))) := by
  let tables : Tables := ⟨.empty, .empty, .empty, .ofList [("low", 3), ("wide", 0x101)]⟩
  have hf : TakesFlags .feature := Or.inr (Or.inr rfl)
  have hflags : tables.flags.Natural := by
    unfold Table.Natural
    decide
  have hcall : feature.call .empty tables ["low", "wide", "low"] = .ok (.plain [0x03, 0x01]) := by
    rfl
  rcases call_flags_as_set feature hf .empty tables hflags with ⟨hset, hbits, _, hunknown⟩
  refine ⟨tables, hf, hflags, hcall, ?_, ?_, ?_⟩
  · have hsame : ∀ flag, flag ∈ ["low", "wide", "low"] ↔ flag ∈ ["wide", "low"] := by
      intro flag
      simp
      tauto
    rcases hset _ _ hsame with ⟨outcome, hfirst, hsecond⟩ | ⟨fault, _, hfault, _⟩
    · rw [hsecond, ← hfirst, hcall]
    · rw [hcall] at hfault
      cases hfault
  · rcases hbits _ _ hcall with ⟨value, hvalue, hvalueBits⟩
    refine ⟨value, hvalue, (hvalueBits 8).2 ⟨"wide", by simp, 0x101, rfl, rfl⟩, ?_⟩
    rw [Bool.eq_false_iff, ne_eq, hvalueBits 2]
    rintro ⟨flag, hmem, code, hcode, hbit⟩
    simp only [List.mem_cons, List.not_mem_nil, or_false] at hmem
    rcases hmem with rfl | rfl | rfl <;> cases hcode <;> cases hbit
  · rcases hunknown ["low", "b", "a"] ⟨"a", by simp, rfl⟩ with
      ⟨flag, ⟨before, after, hargs, hknown, hnone⟩, hrefused⟩
    -- The first argument is known and the second is not, so the second is the one that is named.
    rcases before with _ | ⟨first, _ | ⟨second, rest⟩⟩
    · cases hargs
      exact absurd hnone (by decide)
    · cases hargs
      exact hrefused
    · have hsecond : "b" = second := (List.cons.inj (List.cons.inj hargs).2).1
      exact absurd rfl (hknown "b" (by simp [hsecond]))

end Function
end HidDescriptor
