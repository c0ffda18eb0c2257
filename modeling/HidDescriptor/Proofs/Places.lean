import HidDescriptor.FileTree
import HidDescriptor.Proofs.Trimming

/-!
# Places of a file tree

Where paths lead, and what changes of a file tree leave as it is.

- `FileTree.node?_put_self`, `FileTree.node?_put_of_ne`: what stands where after a change
- `FileTree.eq_normalised_of_resolve`: a path that can be followed leads to the place of its names
- `FileTree.Normal`, `FileTree.normalised_pathOf`: the path of a place leads to the place
- `FileTree.KeptAt`: places that are as before, or where a directory has been made
- `FileTree.keptAt_makeDirectories`: directories are made on the way to a path only
-/

namespace HidDescriptor
namespace FileTree

variable {tree before after : FileTree} {place q : Place} {node : Node} {path : String}

/-! ## Changes -/

theorem lookup_putNode (place q : Place) (node : Node) (nodes : List (Place × Node)) :
    (putNode place node nodes).lookup q = if q = place then some node else nodes.lookup q := by
  induction nodes with
  | nil =>
      rw [putNode, List.lookup_cons]
      by_cases hq : q = place
      · simp [hq]
      · simp [hq, beq_false_of_ne hq]
  | cons entry rest ih =>
      rcases entry with ⟨p, n⟩
      rw [putNode]
      split
      next hp =>
        rw [List.lookup_cons, List.lookup_cons, hp]
        by_cases hq : q = place
        · simp [hq]
        · simp [hq, beq_false_of_ne hq]
      next hp =>
        -- The entry of another place stays in front.
        rw [List.lookup_cons, List.lookup_cons, ih]
        by_cases hq : q = p
        · simp [hq, hp]
        · simp [beq_false_of_ne hq]

theorem node?_put_of_ne (h : q ≠ place) : (tree.put place node).node? q = tree.node? q := by
  rw [node?, node?, put, lookup_putNode, if_neg h]

theorem node?_put_self (h : isAbove place = false) :
    (tree.put place node).node? place = some node := by
  rw [node?, put, lookup_putNode]
  simp [h]

theorem isAbove_eq_false (h : tree.node? place ≠ some .directory) : isAbove place = false := by
  by_contra hne
  apply h
  rw [node?, if_pos (by simpa using hne)]

/-! ## Ways -/

/-- The place that names lead to from a place, if every directory on the way is there. -/
def follow (place : Place) (names : List String) : Place :=
  names.foldl (fun place name => if name = "" || name = "." then place else below place name) place

theorem follow_cons (place : Place) (name : String) (rest : List String) :
    follow place (name :: rest) =
      follow (if name = "" || name = "." then place else below place name) rest := rfl

theorem follow_append (place : Place) (names names' : List String) :
    follow place (names ++ names') = follow (follow place names) names' :=
  List.foldl_append

theorem normalised_eq (path : String) :
    normalised path =
      follow (if (components path).head? = some "" && 1 < (components path).length
        then [rootName] else []) (components path) := rfl

theorem eq_follow_of_walk {names : List String} (h : tree.walk place names = .ok q) :
    q = follow place names := by
  induction names generalizing place with
  | nil =>
      cases h
      rfl
  | cons name rest ih =>
      rw [walk] at h
      rw [follow_cons]
      split at h
      · cases h
      · cases h
      · split at h
        next hskip =>
          rw [if_pos hskip]
          exact ih h
        next hskip =>
          split at h
          · cases h
          · rw [if_neg hskip]
            exact ih h

theorem eq_normalised_of_resolve (h : tree.resolve path = .ok place) : place = normalised path := by
  rw [resolve] at h
  cases hcheck : checkPath path with
  | error obstacle =>
      rw [hcheck] at h
      cases h
  | ok _ =>
      simp only [hcheck, bind, Except.bind] at h
      rw [normalised_eq]
      split at h
      next =>
        cases h
      next names hne hnames =>
        -- An absolute path: the empty name in front of its first slash leads to the root.
        have hpos : 0 < names.length := List.length_pos_iff.2 hne
        rw [eq_follow_of_walk h, if_pos (by simp [hnames, hpos]), hnames, follow_cons]
        rfl
      next hne hne' =>
        -- A relative path, which has no empty name in front.
        have hhead : (components path).head? ≠ some "" := by
          intro hhead
          rcases List.head?_eq_some_iff.1 hhead with ⟨rest, hrest⟩
          exact hne' rest hrest
        rw [eq_follow_of_walk h, if_neg (by simp [hhead])]

/-- A file that can be opened for writing stands at the place of its path, or nothing does. -/
theorem writeTarget_eq_ok (h : tree.writeTarget path = .ok place) :
    place = normalised path ∧ tree.node? place ≠ some .directory := by
  rw [writeTarget] at h
  split at h
  · -- A path with a slash at its end is never opened.
    split at h <;> cases h
  · split at h
    · cases h
    next place' hresolve =>
      rw [checkTarget] at h
      split at h
      · cases h
      · cases h
      · split at h
        · cases h
        next hnode =>
          cases h
          exact ⟨eq_normalised_of_resolve hresolve, hnode⟩

theorem readFile_eq_ok {content : List UInt8} (h : tree.readFile path = .ok content) :
    tree.node? (normalised path) = some (.file content) := by
  rw [readFile] at h
  split at h
  · cases h
  next place' hresolve =>
    rw [← eq_normalised_of_resolve hresolve]
    split at h
    · cases h
    · cases h
    next content' hnode =>
      cases h
      exact hnode

/-! ## Normal places -/

/-- A name on the way to a place, other than those that lead upwards. -/
structure IsName (name : String) : Prop where
  ne_empty : name ≠ ""
  ne_dot : name ≠ "."
  ne_dots : name ≠ ".."
  slashless : '/' ∉ name.toList

/-- A place in normal form leads upwards or to the root of all files first, if at all. -/
def Normal (place : Place) : Prop :=
  ∃ above names, place = above ++ names ∧ isAbove above = true ∧ ∀ name ∈ names, IsName name

theorem isAbove_iff :
    isAbove place = true ↔ (∀ name ∈ place, name = "..") ∨ place = [rootName] := by
  simp [isAbove]

theorem normal_below {name : String} (h : Normal place) (hempty : name ≠ "") (hdot : name ≠ ".")
    (hslash : '/' ∉ name.toList) : Normal (below place name) := by
  rcases h with ⟨above, names, rfl, habove, hnames⟩
  rw [below]
  by_cases hdots : name = ".."
  · subst hdots
    simp only [decide_true, Bool.true_and]
    split
    · exact ⟨above, names, rfl, habove, hnames⟩
    next hroot =>
      rcases List.eq_nil_or_concat names with rfl | ⟨front, last, rfl⟩
      · -- From a directory above the working directory the way leads further upwards.
        rw [List.append_nil] at hroot ⊢
        rw [habove]
        refine ⟨above ++ [".."], [], by simp, ?_, by simp⟩
        rcases isAbove_iff.1 habove with hall | rfl
        · rw [isAbove_iff]
          left
          intro name hname
          rcases List.mem_append.1 hname with hname | hname
          · exact hall name hname
          · exact List.mem_singleton.1 hname
        · simp at hroot
      · -- From any other place the way leads back to the directory that holds it.
        rw [List.concat_eq_append] at hnames ⊢
        have hlast : IsName last := hnames last (by simp)
        have hnot : isAbove (above ++ (front ++ [last])) = false := by
          rw [Bool.eq_false_iff, ne_eq, isAbove_iff]
          rintro (hall | hroot')
          · exact hlast.ne_dots (hall last (by simp))
          · simp [hroot'] at hroot
        rw [hnot]
        refine ⟨above, front, ?_, habove, fun name hname => hnames name (by simp [hname])⟩
        simp [← List.append_assoc]
  · -- Any other name is added to the names.
    simp only [hdots, decide_false, Bool.false_and]
    refine ⟨above, names ++ [name], by simp, habove, ?_⟩
    intro other hother
    rcases List.mem_append.1 hother with hother | hother
    · exact hnames other hother
    · rw [List.mem_singleton.1 hother]
      exact ⟨hempty, hdot, hdots, hslash⟩

theorem normal_follow {names : List String} (h : Normal place)
    (hnames : ∀ name ∈ names, '/' ∉ name.toList) : Normal (follow place names) := by
  induction names generalizing place with
  | nil =>
      exact h
  | cons name rest ih =>
      rw [follow_cons]
      refine ih ?_ fun other hother => hnames other (List.mem_cons_of_mem _ hother)
      split
      · exact h
      next hskip =>
        simp only [Bool.or_eq_true, decide_eq_true_eq, not_or] at hskip
        exact normal_below h hskip.1 hskip.2 (hnames name List.mem_cons_self)

theorem slashless_components {name : String} (h : name ∈ components path) : '/' ∉ name.toList := by
  rcases List.mem_map.1 h with ⟨piece, hpiece, rfl⟩
  rw [String.toList_ofList]
  exact Text.not_mem_of_mem_splitOn hpiece

theorem normal_normalised (path : String) : Normal (normalised path) := by
  rw [normalised_eq]
  refine normal_follow ?_ fun name => slashless_components
  split
  · exact ⟨[rootName], [], rfl, rfl, by simp⟩
  · exact ⟨[], [], rfl, rfl, by simp⟩

/-! ## Paths of places -/

theorem components_intercalate {names : List String} (hne : names ≠ [])
    (h : ∀ name ∈ names, '/' ∉ name.toList) : components ("/".intercalate names) = names := by
  have hpieces : ∀ piece ∈ names.map String.toList, '/' ∉ piece := by
    intro piece hpiece
    rcases List.mem_map.1 hpiece with ⟨name, hname, rfl⟩
    exact h name hname
  have hsplit : ("/".intercalate names).toList.splitOn '/' = names.map String.toList := by
    rw [String.toList_intercalate]
    exact List.splitOn_intercalate '/' hpieces (by simpa using hne)
  rw [components, hsplit, List.map_map]
  simp [Function.comp_def]

theorem follow_names {names : List String} (h : ∀ name ∈ names, IsName name) :
    follow place names = place ++ names := by
  induction names generalizing place with
  | nil =>
      simp [follow]
  | cons name rest ih =>
      have hname := h name List.mem_cons_self
      have hstep : follow place (name :: rest) = follow (place ++ [name]) rest := by
        simp [follow_cons, below, hname.ne_empty, hname.ne_dot, hname.ne_dots]
      rw [hstep, ih fun other hother => h other (List.mem_cons_of_mem _ hother)]
      simp

theorem follow_dots {names : List String} (hplace : ∀ name ∈ place, name = "..")
    (h : ∀ name ∈ names, name = "..") : follow place names = place ++ names := by
  induction names generalizing place with
  | nil =>
      simp [follow]
  | cons name rest ih =>
      have hname : name = ".." := h name List.mem_cons_self
      have hroot : place ≠ [rootName] := by
        rintro rfl
        exact absurd (hplace rootName List.mem_cons_self) (by decide)
      have habove : isAbove place = true := isAbove_iff.2 (Or.inl hplace)
      have hstep : follow place (name :: rest) = follow (place ++ [name]) rest := by
        simp [follow_cons, below, hname, hroot, habove]
      rw [hstep, ih ?_ fun other hother => h other (List.mem_cons_of_mem _ hother)]
      · simp
      · intro other hother
        rcases List.mem_append.1 hother with hother | hother
        · exact hplace other hother
        · rw [List.mem_singleton.1 hother, hname]

/-- The path of a place leads to the place. -/
theorem normalised_pathOf (h : Normal place) : normalised (pathOf place) = place := by
  rcases h with ⟨above, names, rfl, habove, hnames⟩
  rcases isAbove_iff.1 habove with hdots | rfl
  · -- A relative path, unless the place is the working directory itself.
    have hslash : ∀ name ∈ above ++ names, '/' ∉ name.toList := by
      intro name hname
      rcases List.mem_append.1 hname with hname | hname
      · rw [hdots name hname]
        decide
      · exact (hnames name hname).slashless
    have hempty : ∀ name ∈ above ++ names, name ≠ "" := by
      intro name hname
      rcases List.mem_append.1 hname with hname | hname
      · rw [hdots name hname]
        decide
      · exact (hnames name hname).ne_empty
    cases hplace : above ++ names with
    | nil =>
        decide
    | cons first rest =>
        rw [hplace] at hslash hempty
        have hroot : first ≠ rootName := by
          rintro rfl
          exact absurd (hslash rootName List.mem_cons_self) (by decide)
        have hcomponents : components (pathOf (first :: rest)) = first :: rest := by
          rw [pathOf, if_neg hroot]
          exact components_intercalate (by simp) hslash
        have hfirst : first ≠ "" := hempty first List.mem_cons_self
        rw [normalised_eq, hcomponents, if_neg (by simp [hfirst]), ← hplace, follow_append,
          follow_dots (by simp) hdots, follow_names hnames, List.nil_append]
  · -- An absolute path, whose names follow an empty one.
    cases names with
    | nil =>
        decide
    | cons first rest =>
        have hpath : pathOf ([rootName] ++ first :: rest) =
            "/".intercalate ("" :: first :: rest) := by
          rw [List.singleton_append, pathOf, if_pos rfl, ← String.toList_inj]
          simp [String.toList_intercalate]
        have hslash : ∀ name ∈ "" :: first :: rest, '/' ∉ name.toList := by
          intro name hname
          rcases List.mem_cons.1 hname with rfl | hname
          · decide
          · exact (hnames name hname).slashless
        have hcomponents :
            components (pathOf ([rootName] ++ first :: rest)) = "" :: first :: rest := by
          rw [hpath]
          exact components_intercalate (by simp) hslash
        rw [normalised_eq, hcomponents, if_pos (by simp), follow_cons]
        exact follow_names hnames

/-! ## Directories on the way -/

/-- What stands at a place is as before, unless there was nothing and a directory was made there
that may be made. -/
def KeptAt (dirs : Place → Prop) (before after : FileTree) (place : Place) : Prop :=
  after.node? place = before.node? place ∨
    dirs place ∧ before.node? place = none ∧ after.node? place = some .directory

namespace KeptAt

variable {dirs dirs' : Place → Prop}

theorem refl (dirs : Place → Prop) (tree : FileTree) (place : Place) :
    KeptAt dirs tree tree place :=
  Or.inl rfl

theorem congr {after' : FileTree} (h : KeptAt dirs before after place)
    (hafter : after'.node? place = after.node? place) : KeptAt dirs before after' place := by
  rw [KeptAt, hafter]
  exact h

theorem trans {after' : FileTree} (h : KeptAt dirs before after place)
    (h' : KeptAt dirs after after' place) : KeptAt dirs before after' place := by
  rcases h' with hsame | ⟨hdir, hnone, hmade⟩
  · exact h.congr hsame
  · rcases h with hsame | ⟨_, _, hmade'⟩
    · exact Or.inr ⟨hdir, hsame.symm.trans hnone, hmade⟩
    · rw [hnone] at hmade'
      cases hmade'

theorem mono (h : KeptAt dirs before after place) (hdirs : dirs place → dirs' place) :
    KeptAt dirs' before after place :=
  h.imp_right fun ⟨hdir, hmade⟩ => ⟨hdirs hdir, hmade⟩

/-- A file is not made on the way to another. -/
theorem file {content : List UInt8} (h : KeptAt dirs before after place)
    (hfile : after.node? place = some (.file content)) :
    before.node? place = some (.file content) := by
  rcases h with hsame | ⟨_, _, hmade⟩
  · exact hsame.symm.trans hfile
  · rw [hfile] at hmade
    cases hmade

end KeptAt

theorem keptAt_makeDirectory (h : before.makeDirectory path = .ok after) (place : Place) :
    KeptAt (· = normalised path) before after place := by
  rw [makeDirectory] at h
  split at h
  · cases h
  next made hresolve =>
    rw [eq_normalised_of_resolve hresolve] at h
    split at h
    · cases h
    next hnone =>
      cases h
      by_cases hplace : place = normalised path
      · have hne : before.node? (normalised path) ≠ some .directory := by
          simp [hnone]
        subst hplace
        exact Or.inr ⟨rfl, hnone, node?_put_self (isAbove_eq_false hne)⟩
      · exact Or.inl (node?_put_of_ne hplace)

theorem keptAt_ensureDirectory (h : before.ensureDirectory path = .ok after) (place : Place) :
    KeptAt (· = normalised path) before after place := by
  rw [ensureDirectory] at h
  split at h
  next hmade =>
    cases h
    exact keptAt_makeDirectory hmade place
  next =>
    split at h
    · cases h
      exact .refl _ _ _
    · cases h

/-- Making directories changes nothing but the places on the way, and makes directories only. -/
theorem keptAt_makeDirectories (before : FileTree) (path : String) (place : Place) :
    KeptAt (fun place => ∃ p ∈ ancestors path, place = normalised p) before
      (before.makeDirectories path).1 place := by
  rw [makeDirectories]
  -- By induction over the paths on the way, each made in the tree that those before it leave.
  generalize ancestors path = paths
  induction paths generalizing before with
  | nil =>
      exact .refl _ _ _
  | cons p rest ih =>
      have hrest (middle : FileTree) : KeptAt (fun place => ∃ p' ∈ p :: rest, place = normalised p')
          middle (makeInTurn path middle rest).1 place :=
        (ih middle).mono fun ⟨p', hp', hplace⟩ => ⟨p', List.mem_cons_of_mem _ hp', hplace⟩
      rw [makeInTurn]
      split
      · exact hrest before
      · split
        · exact .refl _ _ _
        next middle hmade =>
          have hfirst := keptAt_ensureDirectory hmade place
          exact (hfirst.mono fun hp => ⟨p, List.mem_cons_self, hp⟩).trans (hrest middle)

end FileTree
end HidDescriptor
