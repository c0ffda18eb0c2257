import HidDescriptor.Proofs.Calls
import HidDescriptor.Proofs.Literals
import HidDescriptor.Proofs.ShortItems
import HidDescriptor.Proofs.TableData
import HidDescriptor.Proofs.Widths
import Mathlib.Data.List.Forall2

/-!
# Representable calls

A call is accepted if and only if its arguments denote a value that a short item can hold, and the
value is read back from its payload.

- `Payload.Holds`, `Payload.Conveys`: the values with a payload, and the payloads of a value
- `Payload.composeFlags_eq_some_iff`: the union of flags of a natural table
- `Function.Denotes`, `Function.Represents`: the value that the arguments of a call stand for
- `Function.Encodes`, `Function.encodes_call`: the payloads of calls are the encodings of these values
- `Function.call_accepts_representable`: acceptance, payload and item of every call
-/

namespace HidDescriptor

/-! ## Values and payloads -/

namespace Payload

/-- The values that a short item can hold, with a sign to keep or without. -/
def Holds (signed : Bool) (value : Int) : Prop :=
  match signed with
  | true => value.natAbs < 2 ^ 31
  | false => -2 ^ 31 < value ∧ value < 2 ^ 32

instance (signed : Bool) (value : Int) : Decidable (Holds signed value) :=
  match signed with
  | true => inferInstanceAs (Decidable (value.natAbs < 2 ^ 31))
  | false => inferInstanceAs (Decidable (-2 ^ 31 < value ∧ value < 2 ^ 32))

/-- The payload is read back as the value. Where signs are not kept, this is asked of natural
numbers only. -/
def Conveys (payload : Payload) (signed : Bool) (value : Int) : Prop :=
  signed = true ∨ 0 ≤ value → decode payload signed = .ok value

variable {value : Int} {signed : Bool} {payload : Payload}

theorem exists_encode_iff_holds :
    (∃ payload, encode value none signed = .ok payload) ↔ Holds signed value := by
  cases signed with
  | true =>
      exact exists_encode_signed_iff
  | false =>
      exact exists_encode_unsigned_iff

theorem conveys_of_encode (h : encode value none signed = .ok payload) :
    Conveys payload signed value := by
  intro hvalue
  cases signed with
  | true =>
      exact decode_of_encode_signed h
  | false =>
      exact decode_of_encode_unsigned (hvalue.resolve_left Bool.false_ne_true) h

/-- A byte is its own payload. -/
theorem encode_byte (h₀ : 0 ≤ value) (h₁ : value < 256) : encode value none false = .ok [value] := by
  have hleast : LeastWidth value false 8 := by
    refine ⟨⟨by decide, (fits_unsigned_iff (by decide)).2 (by omega)⟩, ?_⟩
    rintro bits ⟨hbits, _⟩
    exact (by decide : ∀ bits ∈ widths, 8 ≤ bits) bits hbits
  refine encode_eq_ok_iff.2 ⟨8, hleast, ?_⟩
  rw [signMagnitude_of_nonneg h₀]
  simp [littleEndian, Int.emod_eq_of_lt h₀ h₁]

/-! ## Unions of flags -/

def FlagCodes (table : Table) (flags : List String) (codes : List Nat) : Prop :=
  List.Forall₂ (fun flag (code : Nat) => table.get? flag = some (code : Int)) flags codes

theorem foldlM_union_eq_some_iff {table : Table} (h : table.Natural) {flags : List String}
    {union : Int} (first : Nat) :
    flags.foldlM (fun union flag => (table.get? flag).map (unionBits union)) (first : Int) =
        some union ↔
      ∃ codes, FlagCodes table flags codes ∧
        union = (first ||| codes.foldr (· ||| ·) 0 : Nat) := by
  -- The union so far is general, as it grows from flag to flag.
  induction flags generalizing first with
  | nil =>
      simp [FlagCodes, eq_comm]
  | cons flag rest ih =>
      rw [List.foldlM_cons]
      cases hcode : table.get? flag with
      | none =>
          constructor
          · intro hunion
            cases hunion
          · rintro ⟨_, hcodes, _⟩
            cases hcodes with
            | cons hhead _ =>
                rw [hcode] at hhead
                cases hhead
      | some code =>
          -- Codes are natural, so the union so far stays natural too.
          obtain ⟨n, rfl⟩ := Int.eq_ofNat_of_zero_le (h.of_get? hcode)
          refine (ih (first ||| n)).trans ?_
          constructor
          · rintro ⟨codes, hcodes, rfl⟩
            exact ⟨n :: codes, .cons hcode hcodes, by rw [List.foldr_cons, Nat.or_assoc]⟩
          · rintro ⟨_, hcodes, rfl⟩
            cases hcodes with
            | cons hhead htail =>
                obtain rfl := Int.ofNat.inj (Option.some.inj (hcode.symm.trans hhead))
                exact ⟨_, htail, by rw [List.foldr_cons, Nat.or_assoc]⟩

theorem composeFlags_eq_some_iff {table : Table} (h : table.Natural) {flags : List String}
    {union : Int} :
    composeFlags table flags = some union ↔
      ∃ codes, FlagCodes table flags codes ∧ union = (codes.foldr (· ||| ·) 0 : Nat) := by
  refine (foldlM_union_eq_some_iff h 0).trans ?_
  simp only [Nat.zero_or]

end Payload

/-- Only literals of too many digits cannot be read. -/
theorem Literal.exists_read_of_length_le {token : String}
    (h : token.length ≤ Numeral.digitLimit) : ∃ literal, read token = .ok literal := by
  by_contra hnot
  -- The digits that are too many are part of the token.
  rcases exists_error_iff.2 hnot with ⟨fault, hfault⟩
  rcases read_eq_error_iff.1 hfault with ⟨sign, digits, feed, htoken, _, _, _, hlimit, _⟩
  have hlength : token.length = sign.length + digits.length + feed.length := by
    rw [← String.length_toList, htoken, List.length_append, List.length_append]
  omega

namespace Function

/-! ## What calls denote -/

def isSigned : Function → Bool
  | logicalMinimum | logicalMaximum | physicalMinimum | physicalMaximum => true
  | _ => false

/-- The value that the arguments of a call stand for. -/
def Denotes (f : Function) (state : ItemState) (tables : Tables) (args : List String)
    (value : Int) : Prop :=
  match f with
  | usagePage => ∃ arg, args = [arg] ∧ tables.usagePages.Denotes arg value
  | collection => ∃ arg, args = [arg] ∧ tables.collections.Denotes arg value
  | usage | usageMinimum | usageMaximum =>
      ∃ arg page table, args = [arg] ∧ state.current? pageName = some (.text page) ∧
        tables.usages.get? (if page = "keypad" then "keyboard" else page) = some table ∧
        table.Denotes arg value
  | logicalMinimum | logicalMaximum | physicalMinimum | physicalMaximum =>
      ∃ arg, args = [arg] ∧ Literal.read arg = .ok (some value)
  | reportSize | reportCount => ∃ arg, args = [arg] ∧ Literal.read arg = .ok (some value) ∧ 0 ≤ value
  | reportId =>
      ∃ arg, args = [arg] ∧ Literal.read arg = .ok (some value) ∧ 1 ≤ value ∧ value ≤ 255
  | input | output | feature =>
      ∃ codes, Payload.FlagCodes tables.flags args codes ∧
        value = (codes.foldr (· ||| ·) 0 : Nat)
  | endCollection => args = [] ∧ value = 0

/-- The arguments of a call stand for a value that its item can hold. -/
def Represents (f : Function) (state : ItemState) (tables : Tables) (args : List String)
    (value : Int) : Prop :=
  f.Denotes state tables args value ∧ Payload.Holds f.isSigned value

/-! ## Payloads of each kind of function -/

section Kinds

variable {state : ItemState} {tables : Tables} {name : String} {args : List String}

/-- The payloads of a computation are the encodings of the values of a kind. -/
def Encodes (x : Except Fault Outcome) (signed : Bool) (D : Int → Prop) : Prop :=
  ∀ payload, (∃ outcome, x = .ok outcome ∧ outcome.payload = payload) ↔
    ∃ value, D value ∧ Payload.encode value none signed = .ok payload

theorem encodes_callUsagePage :
    Encodes (callUsagePage tables name args) false
      fun value => ∃ arg, args = [arg] ∧ tables.usagePages.Denotes arg value := by
  intro payload
  constructor
  · rintro ⟨_, hcall, rfl⟩
    rcases callUsagePage_eq_ok_iff.1 hcall with ⟨page, _, hargs, hsymbol, rfl⟩
    rcases symbol_eq_ok_iff.1 hsymbol with ⟨value, hvalue, hencode⟩
    exact ⟨value, ⟨page, hargs, hvalue⟩, hencode⟩
  · rintro ⟨value, ⟨page, hargs, hvalue⟩, hencode⟩
    refine ⟨_, callUsagePage_eq_ok_iff.2 ⟨page, payload, hargs, ?_, rfl⟩, rfl⟩
    exact symbol_eq_ok_iff.2 ⟨value, hvalue, hencode⟩

theorem encodes_callCollection :
    Encodes (callCollection tables name args) false
      fun value => ∃ arg, args = [arg] ∧ tables.collections.Denotes arg value := by
  intro payload
  constructor
  · rintro ⟨_, hcall, rfl⟩
    rcases callCollection_eq_ok_iff.1 hcall with ⟨kind, _, hargs, hsymbol, rfl⟩
    rcases symbol_eq_ok_iff.1 hsymbol with ⟨value, hvalue, hencode⟩
    exact ⟨value, ⟨kind, hargs, hvalue⟩, hencode⟩
  · rintro ⟨value, ⟨kind, hargs, hvalue⟩, hencode⟩
    refine ⟨_, callCollection_eq_ok_iff.2 ⟨kind, payload, hargs, ?_, rfl⟩, rfl⟩
    exact symbol_eq_ok_iff.2 ⟨value, hvalue, hencode⟩

theorem encodes_callUsage :
    Encodes (callUsage state tables name args) false
      fun value => ∃ arg page table, args = [arg] ∧ state.current? pageName = some (.text page) ∧
        tables.usages.get? (if page = "keypad" then "keyboard" else page) = some table ∧
        table.Denotes arg value := by
  intro payload
  constructor
  · rintro ⟨_, hcall, rfl⟩
    rcases callUsage_eq_ok_iff.1 hcall with ⟨arg, table, _, hargs, htable, hsymbol, rfl⟩
    rcases usageTable_eq_ok_iff.1 htable with ⟨page, hpage, hget⟩
    rcases symbol_eq_ok_iff.1 hsymbol with ⟨value, hvalue, hencode⟩
    exact ⟨value, ⟨arg, page, table, hargs, hpage, hget, hvalue⟩, hencode⟩
  · rintro ⟨value, ⟨arg, page, table, hargs, hpage, hget, hvalue⟩, hencode⟩
    refine ⟨_, callUsage_eq_ok_iff.2 ⟨arg, table, payload, hargs, ?_, ?_, rfl⟩, rfl⟩
    · exact usageTable_eq_ok_iff.2 ⟨page, hpage, hget⟩
    · exact symbol_eq_ok_iff.2 ⟨value, hvalue, hencode⟩

theorem encodes_callNumber :
    Encodes (callNumber name args) true
      fun value => ∃ arg, args = [arg] ∧ Literal.read arg = .ok (some value) := by
  intro payload
  constructor
  · rintro ⟨_, hcall, rfl⟩
    rcases callNumber_eq_ok_iff.1 hcall with ⟨arg, value, _, hargs, hread, hencode, rfl⟩
    exact ⟨value, ⟨arg, hargs, hread⟩, hencode⟩
  · rintro ⟨value, ⟨arg, hargs, hread⟩, hencode⟩
    exact ⟨_, callNumber_eq_ok_iff.2 ⟨arg, value, payload, hargs, hread, hencode, rfl⟩, rfl⟩

theorem encodes_callCount :
    Encodes (callCount name args) false
      fun value => ∃ arg, args = [arg] ∧ Literal.read arg = .ok (some value) ∧ 0 ≤ value := by
  intro payload
  constructor
  · rintro ⟨_, hcall, rfl⟩
    rcases callCount_eq_ok_iff.1 hcall with ⟨arg, value, _, hargs, hread, hvalue, hencode, rfl⟩
    exact ⟨value, ⟨arg, hargs, hread, hvalue⟩, hencode⟩
  · rintro ⟨value, ⟨arg, hargs, hread, hvalue⟩, hencode⟩
    exact ⟨_, callCount_eq_ok_iff.2 ⟨arg, value, payload, hargs, hread, hvalue, hencode, rfl⟩, rfl⟩

/-- An identifier is written as it is, which is how a byte is encoded. -/
theorem encodes_callReportId :
    Encodes (callReportId name args) false
      fun value => ∃ arg, args = [arg] ∧ Literal.read arg = .ok (some value) ∧
        1 ≤ value ∧ value ≤ 255 := by
  intro payload
  constructor
  · rintro ⟨_, hcall, rfl⟩
    rcases callReportId_eq_ok_iff.1 hcall with ⟨arg, value, hargs, hread, hlow, hhigh, rfl⟩
    exact ⟨value, ⟨arg, hargs, hread, hlow, hhigh⟩, Payload.encode_byte (by omega) (by omega)⟩
  · rintro ⟨value, ⟨arg, hargs, hread, hlow, hhigh⟩, hencode⟩
    refine ⟨_, callReportId_eq_ok_iff.2 ⟨arg, value, hargs, hread, hlow, hhigh, rfl⟩, ?_⟩
    rw [Payload.encode_byte (by omega) (by omega)] at hencode
    exact Except.ok.inj hencode

theorem encodes_callFlags (h : tables.flags.Natural) :
    Encodes (callFlags tables name args) false
      fun value => ∃ codes, Payload.FlagCodes tables.flags args codes ∧
        value = (codes.foldr (· ||| ·) 0 : Nat) := by
  intro payload
  constructor
  · rintro ⟨_, hcall, rfl⟩
    rcases callFlags_eq_ok_iff.1 hcall with ⟨union, _, hunion, hencode, rfl⟩
    exact ⟨union, (Payload.composeFlags_eq_some_iff h).1 hunion, hencode⟩
  · rintro ⟨union, hunion, hencode⟩
    refine ⟨_, callFlags_eq_ok_iff.2 ⟨union, payload, ?_, hencode, rfl⟩, rfl⟩
    exact (Payload.composeFlags_eq_some_iff h).2 hunion

end Kinds

/-! ## All functions -/

section Calls

variable {f : Function} {state : ItemState} {tables : Tables} {args : List String}

/-- Only the end of a collection has no value to encode. -/
theorem encodes_call (h : tables.flags.Natural) (hf : f ≠ .endCollection) :
    Encodes (f.call state tables args) f.isSigned (f.Denotes state tables args) := by
  cases f with
  | usagePage =>
      exact encodes_callUsagePage
  | collection =>
      exact encodes_callCollection
  | usage | usageMinimum | usageMaximum =>
      exact encodes_callUsage
  | logicalMinimum | logicalMaximum | physicalMinimum | physicalMaximum =>
      exact encodes_callNumber
  | reportSize | reportCount =>
      exact encodes_callCount
  | reportId =>
      exact encodes_callReportId
  | input | output | feature =>
      exact encodes_callFlags h
  | endCollection =>
      exact absurd rfl hf

/-- The value that is denoted is in the payload. -/
theorem exists_call_of_represents (h : tables.flags.Natural) {value : Int}
    (hvalue : f.Represents state tables args value) :
    ∃ outcome, f.call state tables args = .ok outcome ∧
      outcome.payload.Conveys f.isSigned value := by
  by_cases hf : f = .endCollection
  · subst hf
    rcases hvalue with ⟨⟨hargs, rfl⟩, _⟩
    -- Nothing is read as zero.
    exact ⟨_, callEndCollection_eq_ok_iff.2 ⟨hargs, rfl⟩, fun _ => rfl⟩
  · rcases Payload.exists_encode_iff_holds.2 hvalue.2 with ⟨payload, hencode⟩
    rcases (encodes_call h hf payload).2 ⟨value, hvalue.1, hencode⟩ with ⟨outcome, hcall, rfl⟩
    exact ⟨outcome, hcall, Payload.conveys_of_encode hencode⟩

theorem exists_represents_of_call (h : tables.flags.Natural) {outcome : Outcome}
    (hcall : f.call state tables args = .ok outcome) :
    ∃ value, f.Represents state tables args value := by
  by_cases hf : f = .endCollection
  · subst hf
    exact ⟨0, ⟨(callEndCollection_eq_ok_iff.1 hcall).1, rfl⟩, by decide⟩
  · rcases (encodes_call h hf _).1 ⟨outcome, hcall, rfl⟩ with ⟨value, hvalue, hencode⟩
    exact ⟨value, hvalue, Payload.exists_encode_iff_holds.1 ⟨_, hencode⟩⟩

end Calls

/-- A call is accepted if and only if its arguments stand for a value that its item can hold. The
value is read back from the payload, the end of a collection has none, and the item of an accepted
call can always be written. Tokens of at most as many characters as a literal may have digits are
literals or names. -/
theorem call_accepts_representable (f : Function) (state : ItemState) (tables : Tables)
    (args : List String) (hflags : tables.flags.Natural) :
    ((∃ outcome, f.call state tables args = .ok outcome) ↔
      ∃ value, f.Represents state tables args value) ∧
    (∀ outcome, f.call state tables args = .ok outcome →
      (∀ value, f.Represents state tables args value →
        outcome.payload.Conveys f.isSigned value) ∧
      (f = .endCollection → outcome.payload = []) ∧
      ∃ bytes, f.item.encode outcome.payload = .ok bytes) ∧
    ∀ arg ∈ args, arg.length ≤ Numeral.digitLimit → ∃ literal, Literal.read arg = .ok literal := by
  refine ⟨⟨?_, ?_⟩, ?_, fun _ _ hlength => Literal.exists_read_of_length_le hlength⟩
  · rintro ⟨outcome, hcall⟩
    exact exists_represents_of_call hflags hcall
  · rintro ⟨value, hvalue⟩
    rcases exists_call_of_represents hflags hvalue with ⟨outcome, hcall, _⟩
    exact ⟨outcome, hcall⟩
  · intro outcome hcall
    refine ⟨?_, ?_, Item.exists_encode f.item (call_eq_ok hcall).1⟩
    · -- A call has one outcome, so it is the one that conveys the value.
      intro value hvalue
      rcases exists_call_of_represents hflags hvalue with ⟨outcome', hcall', hconveys⟩
      obtain rfl := Except.ok.inj (hcall.symm.trans hcall')
      exact hconveys
    · rintro rfl
      rw [(callEndCollection_eq_ok_iff.1 hcall).2]

def halves : Tables :=
  ⟨.empty, .empty, .empty, .ofList [("low", 0xFFFF), ("high", 0xFFFF0000)]⟩

theorem call_accepts_representable_halves :
    halves.flags.Natural ∧
      ∃ outcome, input.call .empty halves ["high", "low"] = .ok outcome ∧
        Payload.decode outcome.payload false = .ok 0xFFFFFFFF ∧
        ∃ bytes, input.item.encode outcome.payload = .ok bytes := by
  have hnatural : halves.flags.Natural := by
    unfold Table.Natural
    decide
  have hvalue : input.Represents .empty halves ["high", "low"] 0xFFFFFFFF := by
    refine ⟨⟨[0xFFFF0000, 0xFFFF], ?_, rfl⟩, by decide⟩
    exact .cons rfl (.cons rfl .nil)
  rcases call_accepts_representable input .empty halves ["high", "low"] hnatural with
    ⟨haccepts, hpayload, _⟩
  rcases haccepts.2 ⟨_, hvalue⟩ with ⟨outcome, hcall⟩
  rcases hpayload outcome hcall with ⟨hconveys, _, hitem⟩
  exact ⟨hnatural, outcome, hcall, hconveys _ hvalue (Or.inr (by decide)), hitem⟩

end Function
end HidDescriptor
