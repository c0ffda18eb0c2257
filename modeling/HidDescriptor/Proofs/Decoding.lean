import HidDescriptor.Proofs.History

/-!
# Reading a descriptor back

The bytes of a compiled source tell its items and payloads.

- `ShortItem.item?`: the item of a tag and a type
- `ShortItem.item?_ofItem`: no two items share tag and type
- `ShortItem.decode_inverts_encoding`: bytes of items can be read back, those of a compiled source
  to the names and payloads of its records
-/

namespace HidDescriptor

/-! ## Items by tag and type -/

theorem Item.mem_catalog_of_byName? {name : String} {item : Item}
    (h : Item.byName? name = some item) : ∃ type, (type, item) ∈ Item.catalog := by
  rcases Option.map_eq_some_iff.1 h with ⟨⟨type, found⟩, hfind, rfl⟩
  exact ⟨type, List.mem_of_find?_eq_some hfind⟩

/-- No item has the type that is reserved. -/
theorem Item.type_ne_three : ∀ entry ∈ Item.catalog, (entry.2.type % 4).toNat ≠ 3 := by
  decide

namespace ShortItem

def item? (short : ShortItem) : Option Item :=
  (Item.catalog.find? fun entry =>
    entry.2.type == (short.type : Int) && entry.2.tag == (short.tag : Int)).map (·.2)

/-- Tag and type tell all items apart. -/
theorem item?_ofItem {type : ItemType} {item : Item} (h : (type, item) ∈ Item.catalog)
    (payload : Payload) : (ofItem item payload).item? = some item := by
  have hall : ∀ entry ∈ Item.catalog, (ofItem entry.2 []).item? = some entry.2 := by
    decide
  exact hall (type, item) h

end ShortItem

/-! ## Compiled sources -/

def Descriptor.items (d : Descriptor) : List (Item × Payload) :=
  d.records.map fun r => (r.item, r.payload)

/-- A compiled source consists of sound records, and its bytes are theirs. -/
theorem exists_encode_of_compileLines {tables : Tables} {lines : List String} {d : Descriptor}
    (h : compileLines tables lines = .ok d) :
    (∀ r ∈ d.records, r.Sound) ∧
      ∃ encoded, d.items.mapM (fun p => p.1.encode p.2) = .ok encoded ∧ d.data = encoded.flatten := by
  rcases compileLines_eq_ok.1 h with ⟨s, hrun, _, _, rfl⟩
  have htracks := (Session.tracks_start tables).feedAll hrun
  rcases htracks.faithful.data with ⟨encoded, hencoded, hdata⟩
  refine ⟨htracks.sound, encoded, ?_, hdata⟩
  rw [Descriptor.items, List.mapM_map]
  exact hencoded

theorem Record.Sound.mem_catalog {r : Record} (h : r.Sound) :
    ∃ type, (type, r.item) ∈ Item.catalog := by
  rcases h.item with ⟨f, hf⟩
  rw [hf]
  exact Item.mem_catalog_of_byName? f.byName?_name

namespace ShortItem

/-- Reading undoes encoding, for items of any tag and type. So the bytes of a compiled source are
read back to the names and payloads of its records, and none of its headers is that of a long item
or has the reserved type. A byte is a header if it stands behind whole items. -/
theorem decode_inverts_encoding :
    (∀ (items : List (Item × Payload)) (encoded : List (List UInt8)),
      items.mapM (fun p => p.1.encode p.2) = .ok encoded →
        decode encoded.flatten =
          some (items.map fun p => ⟨(p.1.tag % 16).toNat, (p.1.type % 4).toNat, p.2⟩)) ∧
    (∀ (tables : Tables) (lines : List String) (d : Descriptor),
      compileLines tables lines = .ok d →
        (∃ read, decode d.data = some read ∧
          read.map (fun short => (short.item?.map (·.name), short.payload)) =
            d.records.map fun r => (some r.item.name, r.payload)) ∧
        ∀ before head after, d.data = before ++ head :: after → (decode before).isSome = true →
          head ≠ 0xFE ∧ head.toNat / 4 % 4 ≠ 3) := by
  refine ⟨fun items encoded h => decode_encodeAll h, ?_⟩
  intro tables lines d h
  rcases exists_encode_of_compileLines h with ⟨hsound, encoded, hencoded, hdata⟩
  refine ⟨⟨d.items.map fun p => ofItem p.1 p.2, ?_, ?_⟩, ?_⟩
  · rw [hdata]
    exact decode_encodeAll hencoded
  · rw [Descriptor.items, List.map_map, List.map_map]
    refine List.map_congr_left fun r hr => ?_
    rcases (hsound r hr).mem_catalog with ⟨type, hmem⟩
    simp only [Function.comp, item?_ofItem hmem]
    rfl
  · intro before head after hsplit hbefore
    rw [hdata] at hsplit
    rcases Option.isSome_iff_exists.1 hbefore with ⟨read, hread⟩
    rcases mem_of_decode_prefix hencoded hsplit hread with ⟨p, hp, _, htype⟩
    rcases List.mem_map.1 hp with ⟨r, hr, rfl⟩
    rcases (hsound r hr).mem_catalog with ⟨type, hmem⟩
    -- The header of a long item has the reserved type too.
    have hne : head.toNat / 4 % 4 ≠ 3 := by
      rw [htype]
      exact Item.type_ne_three _ hmem
    refine ⟨?_, hne⟩
    rintro rfl
    exact hne rfl

/-- A tag and a type of more than their bits, and a compiled source whose payload bytes look like
the header of a long item. -/
theorem decode_inverts_encoding_masked :
    decode [0x7A, 1, 2, 0xC0] = some [⟨7, 2, [1, 2]⟩, ⟨12, 0, []⟩] ∧
    compileLines .empty ["Report_Size(0xFE)"] =
      .ok ⟨[⟨⟨"report_size", 7, 1⟩, [0xFE], ["0xfe"], 1⟩], [0x75, 0xFE]⟩ ∧
    ∃ read, decode [0x75, 0xFE] = some read ∧
      read.map (fun short => (short.item?.map (·.name), short.payload)) =
        [(some "report_size", [0xFE])] := by
  have hsource : compileLines .empty ["Report_Size(0xFE)"] =
      .ok ⟨[⟨⟨"report_size", 7, 1⟩, [0xFE], ["0xfe"], 1⟩], [0x75, 0xFE]⟩ := by
    decide +kernel
  refine ⟨?_, hsource, (decode_inverts_encoding.2 _ _ _ hsource).1⟩
  exact decode_inverts_encoding.1 [(⟨"wide", -9, 6⟩, [1, 2]), (⟨"end", 12, 0⟩, [])]
    [[0x7A, 1, 2], [0xC0]] rfl

end ShortItem
end HidDescriptor
