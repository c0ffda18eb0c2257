import HidDescriptor.Item.Encoding
import HidDescriptor.Proofs.Payloads

/-!
# Short items and their bytes

The header of a short item tells where the item ends, so a sequence of items can be read back from
its bytes alone.

- `Item.encode_shape`, `Item.exists_encode`: the bytes of an item, and when there are any
- `ShortItem.ofItem`: what the bytes of an item keep of it
- `ShortItem.decode_encode_append`, `ShortItem.decode_encodeAll`: reading back
- `ShortItem.mem_of_decode_prefix`: the bytes after whole items are headers
-/

namespace HidDescriptor

/-! ## Sequences of computations -/

theorem mapM_cons_eq_ok_iff {α β : Type} {f : α → Except Fault β} {a : α} {as : List α}
    {bs : List β} :
    (a :: as).mapM f = .ok bs ↔
      ∃ b rest, f a = .ok b ∧ as.mapM f = .ok rest ∧ bs = b :: rest := by
  rw [List.mapM_cons, bind_eq_ok_iff]
  constructor
  · rintro ⟨b, hb, h⟩
    rcases bind_eq_ok_iff.1 h with ⟨rest, hrest, h⟩
    cases h
    exact ⟨b, rest, hb, hrest, rfl⟩
  · rintro ⟨b, rest, hb, hrest, rfl⟩
    exact ⟨b, hb, bind_eq_ok_iff.2 ⟨rest, hrest, rfl⟩⟩

theorem exists_of_mem_mapM {α β : Type} {f : α → Except Fault β} {as : List α} {bs : List β} {b : β}
    (h : as.mapM f = .ok bs) (hb : b ∈ bs) : ∃ a ∈ as, f a = .ok b := by
  induction as generalizing bs with
  | nil =>
      cases h
      cases hb
  | cons a rest ih =>
      rcases mapM_cons_eq_ok_iff.1 h with ⟨first, others, hfirst, hothers, rfl⟩
      rcases List.mem_cons.1 hb with rfl | hb
      · exact ⟨a, List.mem_cons_self, hfirst⟩
      · rcases ih hothers hb with ⟨a', ha', hvalue⟩
        exact ⟨a', List.mem_cons_of_mem _ ha', hvalue⟩

/-! ## Encoding -/

namespace Item

/-- The bytes of an item: a header from which tag, type and payload size can be read off, then the
payload. -/
theorem encode_shape {item : Item} {payload : Payload} {bytes : List UInt8}
    (h : item.encode payload = .ok bytes) :
    ∃ head : UInt8, bytes = head :: payload.map byte ∧
      head.toNat / 16 = (item.tag % 16).toNat ∧
      head.toNat / 4 % 4 = (item.type % 4).toNat ∧
      ShortItem.sizeOf (head.toNat % 4) = payload.length ∧ payload.Emittable := by
  unfold encode at h
  split at h
  · cases h
  next hbytes =>
    rcases bind_eq_ok_iff.1 h with ⟨head, hhead, h⟩
    cases h
    have hisByte : ∀ b ∈ payload, 0 ≤ b ∧ b < 256 := by
      intro b hb
      have hb := List.find?_eq_none.1 hbytes b hb
      exact Payload.isByte_iff.1 (by simpa using hb)
    unfold header at hhead
    split at hhead
    next code hcode =>
      cases hhead
      -- The three fields do not overlap, so each is a quotient or remainder of the header.
      have htag := Int.emod_nonneg item.tag (show (16 : Int) ≠ 0 by decide)
      have htag' := Int.emod_lt_of_pos item.tag (show (0 : Int) < 16 by decide)
      have htype := Int.emod_nonneg item.type (show (4 : Int) ≠ 0 by decide)
      have htype' := Int.emod_lt_of_pos item.type (show (0 : Int) < 4 by decide)
      have hsize : (code = 0 ∧ payload.length = 0) ∨ (code = 1 ∧ payload.length = 1) ∨
          (code = 2 ∧ payload.length = 2) ∨ (code = 3 ∧ payload.length = 4) := by
        unfold sizeCode? at hcode
        grind
      refine ⟨_, rfl, ?_, ?_, ?_, hisByte, by omega⟩
      · simp only [byte, UInt8.toNat_ofNat']
        omega
      · simp only [byte, UInt8.toNat_ofNat']
        omega
      · simp only [byte, UInt8.toNat_ofNat', ShortItem.sizeOf]
        split <;> omega
    next =>
      split at hhead <;> cases hhead

/-- Every payload of a short item can be emitted. -/
theorem exists_encode (item : Item) {payload : Payload} (h : payload.Emittable) :
    ∃ bytes, item.encode payload = .ok bytes := by
  have hfind : payload.find? (!Payload.isByte ·) = none := by
    rw [List.find?_eq_none]
    intro b hb
    simpa using Payload.isByte_iff.2 (h.bytes b hb)
  have hsize : ∃ code, sizeCode? payload.length = some code := by
    rcases h.size with hlen | hlen | hlen | hlen <;> rw [hlen]
    · exact ⟨0, rfl⟩
    · exact ⟨1, rfl⟩
    · exact ⟨2, rfl⟩
    · exact ⟨3, rfl⟩
  rcases hsize with ⟨code, hcode⟩
  refine ⟨byte (item.tag % 16 * 16 + item.type % 4 * 4 + code) :: payload.map byte, ?_⟩
  simp only [encode, hfind, header, hcode]
  rfl

end Item

/-! ## Decoding -/

namespace ShortItem

/-- What the bytes of an item keep of it: the lowest bits of its tag and its type, and the
payload. -/
def ofItem (item : Item) (payload : Payload) : ShortItem :=
  ⟨(item.tag % 16).toNat, (item.type % 4).toNat, payload⟩

theorem map_toNat_byte {payload : Payload} (h : ∀ b ∈ payload, 0 ≤ b ∧ b < 256) :
    (payload.map Item.byte).map (fun b => (b.toNat : Int)) = payload := by
  induction payload with
  | nil =>
      rfl
  | cons b rest ih =>
      have hb := h b List.mem_cons_self
      have hbyte : ((Item.byte b).toNat : Int) = b := by
        simp only [Item.byte, UInt8.toNat_ofNat']
        omega
      simp only [List.map_cons, hbyte, ih fun c hc => h c (List.mem_cons_of_mem _ hc)]

/-- An item in front of other bytes is read back, and the reading goes on behind it. -/
theorem decode_encode_append {item : Item} {payload : Payload} {bytes : List UInt8}
    (h : item.encode payload = .ok bytes) (rest : List UInt8) :
    decode (bytes ++ rest) = (decode rest).map (ofItem item payload :: ·) := by
  rcases Item.encode_shape h with ⟨head, rfl, htag, htype, hsize, hpayload⟩
  have hlen : payload.length = (payload.map Item.byte).length := by rw [List.length_map]
  -- The header tells the size of the payload, so the bytes are cut right behind it.
  rw [List.cons_append, decode, hsize, htag, htype, hlen, List.take_left, List.drop_left,
    map_toNat_byte hpayload.bytes, if_pos (by rw [List.length_append]; omega)]
  rfl

/-- The bytes of items in a row determine the items. -/
theorem decode_encodeAll {items : List (Item × Payload)} {encoded : List (List UInt8)}
    (h : items.mapM (fun p => p.1.encode p.2) = .ok encoded) :
    decode encoded.flatten = some (items.map fun p => ofItem p.1 p.2) := by
  induction items generalizing encoded with
  | nil =>
      obtain rfl : [] = encoded := Except.ok.inj h
      rw [List.flatten_nil, decode]
      rfl
  | cons p items ih =>
      rcases mapM_cons_eq_ok_iff.1 h with ⟨bytes, others, hbytes, hothers, rfl⟩
      rw [List.flatten_cons, decode_encode_append hbytes, ih hothers]
      rfl

/-- Bytes that can be read start with a whole item. -/
theorem sizeOf_le_of_decode {head : UInt8} {rest : List UInt8} {read : List ShortItem}
    (h : decode (head :: rest) = some read) : sizeOf (head.toNat % 4) ≤ rest.length := by
  rw [decode] at h
  split at h
  next hle =>
    exact hle
  next =>
    cases h

/-- A byte of items in a row that stands behind bytes that can be read is a header. -/
theorem mem_of_decode_prefix {items : List (Item × Payload)} {encoded : List (List UInt8)}
    {before after : List UInt8} {head : UInt8} {read : List ShortItem}
    (h : items.mapM (fun p => p.1.encode p.2) = .ok encoded)
    (hsplit : encoded.flatten = before ++ head :: after) (hread : decode before = some read) :
    ∃ p ∈ items, head.toNat / 16 = (p.1.tag % 16).toNat ∧
      head.toNat / 4 % 4 = (p.1.type % 4).toNat := by
  induction items generalizing encoded before read with
  | nil =>
      obtain rfl : [] = encoded := Except.ok.inj h
      simp at hsplit
  | cons p items ih =>
      rcases mapM_cons_eq_ok_iff.1 h with ⟨bytes, others, hbytes, hothers, rfl⟩
      rcases Item.encode_shape hbytes with ⟨first, hshape, htag, htype, hsize, _⟩
      rw [List.flatten_cons, hshape, List.cons_append] at hsplit
      cases before with
      | nil =>
          rcases List.cons.inj hsplit with ⟨rfl, _⟩
          exact ⟨p, List.mem_cons_self, htag, htype⟩
      | cons b before =>
          rcases List.cons.inj hsplit with ⟨rfl, htail⟩
          -- What is read ends behind the payload at the earliest.
          have hlen : (p.2.map Item.byte).length ≤ before.length := by
            rw [List.length_map, ← hsize]
            exact sizeOf_le_of_decode hread
          obtain ⟨before', rfl, hsplit'⟩ :
              ∃ t, before = p.2.map Item.byte ++ t ∧ others.flatten = t ++ head :: after := by
            rcases List.append_eq_append_iff.1 htail with ⟨t, hbefore, hrest⟩ | ⟨t, hmap, hrest⟩
            · exact ⟨t, hbefore, hrest⟩
            · have ht : t = [] := by
                have hsum := congrArg List.length hmap
                rw [List.length_append] at hsum
                exact List.eq_nil_of_length_eq_zero (by omega)
              subst ht
              exact ⟨[], by simpa using hmap.symm, by simpa using hrest.symm⟩
          -- The rest of what is read stands in front of the same byte among the other items.
          rw [← List.cons_append, ← hshape, decode_encode_append hbytes] at hread
          rcases Option.map_eq_some_iff.1 hread with ⟨read', hread', _⟩
          rcases ih hothers hsplit' hread' with ⟨q, hq, hhead⟩
          exact ⟨q, List.mem_cons_of_mem _ hq, hhead⟩

end ShortItem
end HidDescriptor
