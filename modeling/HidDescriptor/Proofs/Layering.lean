import HidDescriptor.Proofs.Dictionaries
import HidDescriptor.Proofs.Extension
import HidDescriptor.Table.Layers
import HidDescriptor.TableFile.Document

/-!
# Layers that only add names

A directory that gives no known name another code can be put upon the tables of any source that
compiles.

- `Dictionary.Agrees`, `Dictionary.Within.merge`: entries that give known names no other value
- `Layers.AddsOnly`: a directory without other codes for known names
- `Layers.addDirectory_eq_ok_iff`, `Layers.addAll_append`: one layer, and the last ones
- `Layers.addDirectories_fst`, `Layers.addDirectories_snd`: directories that are announced
- `Layers.within_addDirectory`: what a layer that only adds names leaves in place
- `compileLines_conservative`: sources with such a layer
-/

namespace HidDescriptor

/-! ## Entries -/

namespace Dictionary

variable {α : Type} {d e : Dictionary α}

/-- Every entry of the second dictionary for a name of the first gives it the same value. -/
def Agrees (d extra : Dictionary α) : Prop :=
  ∀ entry ∈ extra.entries, ∀ value ∈ d.get? entry.1, value = entry.2

instance [DecidableEq α] (d extra : Dictionary α) : Decidable (d.Agrees extra) :=
  inferInstanceAs (Decidable (∀ entry ∈ extra.entries, ∀ value ∈ d.get? entry.1, value = entry.2))

theorem Within.refl (d : Dictionary α) : d.Within d :=
  fun _ _ h => h

theorem Within.insert {name : String} {value : α} (h : d.Within e)
    (hsame : ∀ known, d.get? name = some known → known = value) : d.Within (e.insert name value) := by
  intro key known hknown
  rw [get?_insert]
  split
  next hkey =>
    rw [hkey] at hknown
    rw [hsame known hknown]
  next =>
    exact h key known hknown

theorem Within.merge {extra : Dictionary α} (h : d.Within e) (hagrees : d.Agrees extra) :
    d.Within (e.merge extra) := by
  unfold Agrees at hagrees
  unfold Dictionary.merge
  generalize extra.entries = entries at hagrees ⊢
  induction entries generalizing e with
  | nil =>
      exact h
  | cons entry rest ih =>
      rcases List.forall_mem_cons.1 hagrees with ⟨hfirst, hrest⟩
      exact ih (h.insert hfirst) hrest

end Dictionary

theorem PagesWithin.insert {usages usages' : Dictionary Table} {page : String} {table : Table}
    (h : PagesWithin usages usages')
    (hpage : ∀ base, usages.get? page = some base → base.Within table) :
    PagesWithin usages (usages'.insert page table) := by
  intro key base hbase
  rw [Dictionary.get?_insert]
  split
  next hkey =>
    rw [hkey] at hbase
    exact ⟨table, rfl, hpage base hbase⟩
  next =>
    exact h key base hbase

/-! ## Directories -/

namespace Layers

section Files

variable (read : Table.Reader) (tree : FileTree)

/-- A file that gives the names of a table no other codes, if it holds a table at all. -/
def AddsTo (path : String) (base : Table) : Prop :=
  ∀ table ∈ (loadTable read tree path).toOption, base.Agrees table

instance (path : String) (base : Table) : Decidable (AddsTo read tree path base) :=
  inferInstanceAs (Decidable (∀ table ∈ (loadTable read tree path).toOption, base.Agrees table))

/-- A directory whose files give the names of the tables no other codes. -/
structure AddsOnly (directory : String) (tables : Tables) : Prop where
  usagePages : AddsTo read tree (FileTree.join directory "usage_pages.yml") tables.usagePages
  collections : AddsTo read tree (FileTree.join directory "collections.yml") tables.collections
  flags : AddsTo read tree (FileTree.join directory "flags.yml") tables.flags
  usages : ∀ name ∈ tree.list (FileTree.join directory "usages"), ∀ page ∈ pageOf? name,
    ∀ base ∈ tables.usages.get? page,
      AddsTo read tree (FileTree.join (FileTree.join directory "usages") name) base

instance (directory : String) (tables : Tables) : Decidable (AddsOnly read tree directory tables) :=
  decidable_of_iff
    (AddsTo read tree (FileTree.join directory "usage_pages.yml") tables.usagePages ∧
      AddsTo read tree (FileTree.join directory "collections.yml") tables.collections ∧
      AddsTo read tree (FileTree.join directory "flags.yml") tables.flags ∧
      ∀ name ∈ tree.list (FileTree.join directory "usages"), ∀ page ∈ pageOf? name,
        ∀ base ∈ tables.usages.get? page,
          AddsTo read tree (FileTree.join (FileTree.join directory "usages") name) base)
    ⟨fun ⟨usagePages, collections, flags, usages⟩ => ⟨usagePages, collections, flags, usages⟩,
      fun h => ⟨h.usagePages, h.collections, h.flags, h.usages⟩⟩

end Files

variable {read : Table.Reader} {tree : FileTree} {directory : String} {tables tables' : Tables}

theorem AddsTo.agrees {path : String} {base table : Table} (h : AddsTo read tree path base)
    (hload : loadTable read tree path = .ok table) : base.Agrees table := by
  refine h table ?_
  rw [hload]
  rfl

theorem within_addTable {name : String} {base table : Table}
    (hadds : AddsTo read tree (FileTree.join directory name) base)
    (h : addTable read tree directory name (some base) = .ok (some table)) : base.Within table := by
  unfold addTable at h
  simp only at h
  split at h
  next =>
    rcases bind_eq_ok_iff.1 h with ⟨extra, hextra, h⟩
    cases h
    exact (Dictionary.Within.refl base).merge (hadds.agrees hextra)
  next =>
    cases h
    exact .refl base

/-- The files of a directory are added one by one, and each leaves the names below in place. -/
theorem within_addUsages {base usages usages' : Dictionary Table} {names : List String}
    (hbase : PagesWithin base usages)
    (hadds : ∀ name ∈ names, ∀ page ∈ pageOf? name, ∀ table ∈ base.get? page,
      AddsTo read tree (FileTree.join directory name) table)
    (h : addUsages read tree directory usages names = .ok usages') : PagesWithin base usages' := by
  induction names generalizing usages with
  | nil =>
      cases h
      exact hbase
  | cons name rest ih =>
      have hrest : ∀ other ∈ rest, ∀ page ∈ pageOf? other, ∀ table ∈ base.get? page,
          AddsTo read tree (FileTree.join directory other) table :=
        fun other hother => hadds other (List.mem_cons_of_mem _ hother)
      unfold addUsages at h
      split at h
      next =>
        exact ih hbase hrest h
      next page hpage =>
        rcases bind_eq_ok_iff.1 h with ⟨extra, hextra, h⟩
        refine ih (hbase.insert ?_) hrest h
        intro table htable
        -- Earlier files of this page have added names to the table as well.
        rcases hbase page table htable with ⟨below, hbelow, hwithin⟩
        rw [hbelow]
        have hname := hadds name List.mem_cons_self page hpage table htable
        exact hwithin.merge (hname.agrees hextra)

theorem tables_eq_ok_iff {layers : Layers} : layers.tables = .ok tables ↔ layers = ofTables tables := by
  rcases layers with ⟨usagePages, collections, flags, usages⟩
  constructor
  · intro h
    cases usagePages with
    | none =>
        cases h
    | some usagePages =>
        cases collections with
        | none =>
            cases h
        | some collections =>
            cases flags with
            | none =>
                cases h
            | some flags =>
                cases h
                rfl
  · intro h
    cases h
    rfl

/-- The names in the directory for usages. There are none if there is no such directory. -/
def usageNames (tree : FileTree) (directory : String) : List String :=
  let below := FileTree.join directory "usages"
  if tree.isDirectory below then tree.list below else []

theorem mem_list_of_mem_usageNames {name : String} (h : name ∈ usageNames tree directory) :
    name ∈ tree.list (FileTree.join directory "usages") := by
  unfold usageNames at h
  simp only at h
  split at h
  · exact h
  · cases h

theorem addDirectory_eq (read : Table.Reader) (tree : FileTree) (layers : Layers)
    (directory : String) :
    addDirectory read tree layers directory = (do
      let usagePages ← addTable read tree directory "usage_pages.yml" layers.usagePages
      let collections ← addTable read tree directory "collections.yml" layers.collections
      let flags ← addTable read tree directory "flags.yml" layers.flags
      let usages ← addUsages read tree (FileTree.join directory "usages") layers.usages
        (usageNames tree directory)
      .ok ⟨usagePages, collections, flags, usages⟩) := by
  by_cases hthere : tree.isDirectory (FileTree.join directory "usages") = true
  · simp only [addDirectory, usageNames, hthere, if_true]
  · simp only [addDirectory, usageNames, hthere]
    rfl

theorem addDirectory_eq_ok_iff {layers layers' : Layers} :
    addDirectory read tree layers directory = .ok layers' ↔
      addTable read tree directory "usage_pages.yml" layers.usagePages = .ok layers'.usagePages ∧
      addTable read tree directory "collections.yml" layers.collections = .ok layers'.collections ∧
      addTable read tree directory "flags.yml" layers.flags = .ok layers'.flags ∧
      addUsages read tree (FileTree.join directory "usages") layers.usages
        (usageNames tree directory) = .ok layers'.usages := by
  rw [addDirectory_eq]
  constructor
  · intro h
    rcases bind_eq_ok_iff.1 h with ⟨usagePages, husagePages, h⟩
    rcases bind_eq_ok_iff.1 h with ⟨collections, hcollections, h⟩
    rcases bind_eq_ok_iff.1 h with ⟨flags, hflags, h⟩
    rcases bind_eq_ok_iff.1 h with ⟨usages, husages, h⟩
    cases h
    exact ⟨husagePages, hcollections, hflags, husages⟩
  · rintro ⟨husagePages, hcollections, hflags, husages⟩
    refine bind_eq_ok_iff.2 ⟨_, husagePages, ?_⟩
    refine bind_eq_ok_iff.2 ⟨_, hcollections, ?_⟩
    refine bind_eq_ok_iff.2 ⟨_, hflags, ?_⟩
    exact bind_eq_ok_iff.2 ⟨_, husages, rfl⟩

/-- A directory that only adds names leaves the tables below it in place. -/
theorem within_addDirectory (hadds : AddsOnly read tree directory tables)
    (h : addDirectory read tree (ofTables tables) directory = .ok (ofTables tables')) :
    tables.Within tables' := by
  rcases addDirectory_eq_ok_iff.1 h with ⟨husagePages, hcollections, hflags, husages⟩
  have hpages : PagesWithin tables.usages tables.usages :=
    fun _ table htable => ⟨table, htable, .refl table⟩
  refine ⟨within_addTable hadds.usagePages husagePages, ?_,
    within_addTable hadds.collections hcollections, within_addTable hadds.flags hflags⟩
  exact within_addUsages hpages
    (fun name hname => hadds.usages name (mem_list_of_mem_usageNames hname)) husages

/-! ## Several directories -/

/-- The layers of directories upon others, from files that stay as they are. -/
def addAll (read : Table.Reader) (tree : FileTree) (base : Base) (layers : Layers) :
    List String → Except Fault Layers
  | [] => .ok layers
  | directory :: rest =>
      if base = .directory directory ∨ tree.isDirectory directory = true then do
        let next ← addDirectory read tree layers directory
        addAll read tree base next rest
      else .error (.table (.noDirectory directory))

variable {base : Base} {layers layers' : Layers} {directories rest : List String}

section Announcements

variable {σ : Type} {files : σ → FileTree} {announce : σ → String → σ} {P : σ → Prop} {state : σ}

theorem addDirectories_cons_of_missing
    (h : ¬(base = .directory directory ∨ (files state).isDirectory directory = true)) :
    addDirectories read files announce base state layers (directory :: rest) =
      (state, .error (.table (.noDirectory directory))) := by
  have hlook : (!decide (base = .directory directory) && !(files state).isDirectory directory) =
      true := by
    simpa using h
  simp [addDirectories, hlook]

theorem addDirectories_cons_of_there
    (h : base = .directory directory ∨ (files state).isDirectory directory = true) :
    addDirectories read files announce base state layers (directory :: rest) =
      let next := if base = .directory directory then state else announce state directory
      match addDirectory read (files next) layers directory with
      | .error fault => (next, .error fault)
      | .ok layers => addDirectories read files announce base next layers rest := by
  have hlook : (!decide (base = .directory directory) && !(files state).isDirectory directory) =
      false := by
    simpa [← not_and_or, imp_iff_not_or] using h
  simp only [addDirectories, hlook]
  rfl

/-- What announcements keep holds when the directories are read. -/
theorem addDirectories_fst (hannounce : ∀ state directory, P state → P (announce state directory))
    (h : P state) :
    P (addDirectories read files announce base state layers directories).1 := by
  induction directories generalizing state layers with
  | nil =>
      exact h
  | cons directory rest ih =>
      by_cases hthere : base = .directory directory ∨ (files state).isDirectory directory = true
      · have hnext : P (if base = .directory directory then state else announce state directory) := by
          split
          · exact h
          · exact hannounce state directory h
        rw [addDirectories_cons_of_there hthere]
        simp only
        split
        · exact hnext
        · exact ih hnext
      · rw [addDirectories_cons_of_missing hthere]
        exact h

/-- Announcements that keep the files leave the layers alone. -/
theorem addDirectories_snd (hannounce : ∀ state directory, P state →
      P (announce state directory) ∧ files (announce state directory) = files state)
    (h : P state) :
    (addDirectories read files announce base state layers directories).2 =
      addAll read (files state) base layers directories := by
  -- `P` is what keeps announcements away from the files, and it holds of every state of the run.
  induction directories generalizing state layers with
  | nil =>
      rfl
  | cons directory rest ih =>
      rw [addAll]
      by_cases hthere : base = .directory directory ∨ (files state).isDirectory directory = true
      · have hnext : P (if base = .directory directory then state else announce state directory) ∧
            files (if base = .directory directory then state else announce state directory) =
              files state := by
          split
          · exact ⟨h, rfl⟩
          · exact hannounce state directory h
        rw [addDirectories_cons_of_there hthere, if_pos hthere]
        simp only [hnext.2]
        cases addDirectory read (files state) layers directory with
        | error fault =>
            rfl
        | ok next =>
            simp only [ih hnext.1, hnext.2]
            rfl
      · rw [addDirectories_cons_of_missing hthere, if_neg hthere]

end Announcements

theorem addAll_cons_eq_ok :
    addAll read tree base layers (directory :: rest) = .ok layers' ↔
      (base = .directory directory ∨ tree.isDirectory directory = true) ∧
        ∃ next, addDirectory read tree layers directory = .ok next ∧
          addAll read tree base next rest = .ok layers' := by
  rw [addAll]
  split
  next hthere =>
    rw [bind_eq_ok_iff]
    exact ⟨fun h => ⟨hthere, h⟩, And.right⟩
  next hthere =>
    constructor
    · intro h
      cases h
    · exact fun h => absurd h.1 hthere

/-- The last directories are added to the layers of those in front, if these can be added. -/
theorem addAll_append {others : List String} :
    addAll read tree base layers (directories ++ others) =
      addAll read tree base layers directories >>= fun next =>
        addAll read tree base next others := by
  induction directories generalizing layers with
  | nil =>
      rfl
  | cons directory rest ih =>
      rw [List.cons_append, addAll, addAll]
      split
      next =>
        cases addDirectory read tree layers directory with
        | error fault =>
            rfl
        | ok next =>
            exact ih
      next =>
        rfl

end Layers

/-! ## Whole sets of tables -/

namespace Tables

variable {read : Table.Reader} {tree : FileTree} {base : Base} {directories : List String}
  {extra : String} {tables tables' : Tables}

section Announcements

variable {σ : Type} {files : σ → FileTree} {announce : σ → String → σ} {P : σ → Prop} {state : σ}

theorem loadFrom_fst (hannounce : ∀ state directory, P state → P (announce state directory))
    (h : P state) : P (loadFrom read files announce state base directories).1 := by
  unfold loadFrom
  cases Layers.ofBase read (files state) base with
  | error fault =>
      exact h
  | ok layers =>
      exact Layers.addDirectories_fst hannounce h

/-- Announcements that keep the files leave the tables alone. -/
theorem loadFrom_snd (hannounce : ∀ state directory, P state →
      P (announce state directory) ∧ files (announce state directory) = files state)
    (h : P state) :
    (loadFrom read files announce state base directories).2 =
      Layers.ofBase read (files state) base >>= fun layers =>
        Layers.addAll read (files state) base layers directories >>= Layers.tables := by
  unfold loadFrom
  cases Layers.ofBase read (files state) base with
  | error fault =>
      rfl
  | ok layers =>
      exact congrArg (Except.bind · Layers.tables) (Layers.addDirectories_snd hannounce h)

end Announcements

theorem load_eq (read : Table.Reader) (tree : FileTree) (base : Base) (directories : List String) :
    load read tree base directories =
      Layers.ofBase read tree base >>= fun layers =>
        Layers.addAll read tree base layers directories >>= Layers.tables :=
  loadFrom_snd (P := fun _ => True) (fun _ _ h => ⟨h, rfl⟩) trivial

theorem load_eq_ok_iff :
    load read tree base directories = .ok tables ↔
      ∃ layers, Layers.ofBase read tree base = .ok layers ∧
        Layers.addAll read tree base layers directories = .ok (Layers.ofTables tables) := by
  rw [load_eq, bind_eq_ok_iff]
  refine exists_congr fun layers => and_congr_right fun _ => ?_
  rw [bind_eq_ok_iff]
  simp only [Layers.tables_eq_ok_iff, exists_eq_right]

/-- A last directory that only adds names leaves the tables below it in place. -/
theorem within_load (h : load read tree base directories = .ok tables)
    (hadds : Layers.AddsOnly read tree extra tables)
    (h' : load read tree base (directories ++ [extra]) = .ok tables') : tables.Within tables' := by
  rcases load_eq_ok_iff.1 h with ⟨layers, hbase, hlayers⟩
  rcases load_eq_ok_iff.1 h' with ⟨layers', hbase', hlayers'⟩
  obtain rfl : layers = layers' := Except.ok.inj (hbase.symm.trans hbase')
  rw [Layers.addAll_append] at hlayers'
  rcases bind_eq_ok_iff.1 hlayers' with ⟨next, hnext, hlast⟩
  obtain rfl : Layers.ofTables tables = next := Except.ok.inj (hlayers.symm.trans hnext)
  rcases Layers.addAll_cons_eq_ok.1 hlast with ⟨_, final, hfinal, hnone⟩
  obtain rfl : final = Layers.ofTables tables' := Except.ok.inj hnone
  exact Layers.within_addDirectory hadds hfinal

end Tables

/-- Adding names to the tables is conservative: a source that compiles has the same descriptor with
all tables that hold the names of the first with the same codes. So it has the same descriptor when
a directory that only adds names is put upon the directories of the tables, however their files are
read. -/
theorem compileLines_conservative {tables : Tables} {lines : List String} {d : Descriptor}
    (h : compileLines tables lines = .ok d) :
    (∀ tables', tables.Within tables' → compileLines tables' lines = .ok d) ∧
    ∀ (read : Table.Reader) (tree : FileTree) (base : Base) (directories : List String)
      (extra : String) (tables' : Tables), Tables.load read tree base directories = .ok tables →
        Layers.AddsOnly read tree extra tables →
        Tables.load read tree base (directories ++ [extra]) = .ok tables' →
        compileLines tables' lines = .ok d := by
  refine ⟨fun tables' hwithin => compileLines_within hwithin h, ?_⟩
  intro read tree base directories extra tables' hload hadds hload'
  exact compileLines_within (Tables.within_load hload hadds hload') h

/-- A literal stays a literal among tables in which it is a name, and a directory adds a flag and a
usage of a known page. -/
theorem compileLines_conservative_layer :
    ∃ (tree : FileTree) (tables named layered : Tables) (lines : List String) (d : Descriptor),
      compileLines tables lines = .ok d ∧ named.collections.get? "0x1" = some 7 ∧
      compileLines named lines = .ok d ∧
      Tables.load TableFile.read tree (.directory "base") [] = .ok tables ∧
      Tables.load TableFile.read tree (.directory "base") ["more"] = .ok layered ∧
      layered.flags.get? "relative" = some 4 ∧ layered ≠ tables ∧
      compileLines layered lines = .ok d := by
  let tree : FileTree :=
    ⟨[(["base"], .directory), (["base", "usage_pages.yml"], .file "led: 8\n".toUTF8.toList),
      (["base", "collections.yml"], .file "physical: 0\n".toUTF8.toList),
      (["base", "flags.yml"], .file "data: 0\nvariable: 2\n".toUTF8.toList),
      (["base", "usages"], .directory),
      (["base", "usages", "led.yml"], .file "power: 6\n".toUTF8.toList),
      (["more"], .directory),
      (["more", "flags.yml"], .file "relative: 4\ndata: 0\n".toUTF8.toList),
      (["more", "usages"], .directory),
      (["more", "usages", "LED.yml"], .file "mute: 9\n".toUTF8.toList)]⟩
  let tables : Tables :=
    ⟨.ofList [("led", 8)], .ofList [("led", .ofList [("power", 6)])], .ofList [("physical", 0)],
      .ofList [("data", 0), ("variable", 2)]⟩
  let named : Tables := { tables with collections := .ofList [("physical", 0), ("0x1", 7)] }
  let layered : Tables :=
    { tables with
      usages := .ofList [("led", .ofList [("power", 6), ("mute", 9)])]
      flags := .ofList [("data", 0), ("variable", 2), ("relative", 4)] }
  let lines : List String :=
    ["Usage_Page(LED)", "Collection(0x1)", "Usage(Power)", "Input(Data, Variable)",
      "End_Collection()"]
  let d : Descriptor :=
    ⟨[⟨Function.usagePage.item, [8], ["led"], 1⟩, ⟨Function.collection.item, [1], ["0x1"], 2⟩,
        ⟨Function.usage.item, [6], ["power"], 3⟩,
        ⟨Function.input.item, [2], ["data", "variable"], 4⟩,
        ⟨Function.endCollection.item, [], [], 5⟩],
      [0x05, 8, 0xA1, 1, 0x09, 6, 0x81, 2, 0xC0]⟩
  have hd : compileLines tables lines = .ok d := by
    decide +kernel
  have hbase : Tables.load TableFile.read tree (.directory "base") [] = .ok tables := by
    decide +kernel
  have hlayered : Tables.load TableFile.read tree (.directory "base") ["more"] = .ok layered := by
    decide +kernel
  have hadds : Layers.AddsOnly TableFile.read tree "more" tables := by
    decide +kernel
  have hagrees : tables.collections.Agrees (.ofList [("0x1", 7)]) := by
    decide +kernel
  have hcollections : tables.collections.Within named.collections :=
    (Dictionary.Within.refl tables.collections).merge hagrees
  have hwithin : tables.Within named :=
    ⟨.refl _, fun _ table htable => ⟨table, htable, .refl _⟩, hcollections, .refl _⟩
  rcases compileLines_conservative hd with ⟨hlarger, hlayer⟩
  have hsame : compileLines layered lines = .ok d :=
    hlayer TableFile.read tree (.directory "base") [] "more" layered hbase hadds hlayered
  exact ⟨tree, tables, named, layered, lines, d, hd, rfl, hlarger named hwithin, hbase, hlayered,
    rfl, by decide, hsame⟩

end HidDescriptor
