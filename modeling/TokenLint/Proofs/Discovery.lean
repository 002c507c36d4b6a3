import TokenLint.Discovery
import TokenLint.Proofs.Ordered

/-!
# The Files That Are Found

Which files are found under a directory can be said without a walk. A path is
found if it leads to a file, if its suffix is a wanted one, and if no exclusion
stands for the path or for a directory on the way. The walk does not look at all
of these paths: it passes by an excluded directory with all that is in it. No
file is lost by that and none is won, since a path into such a directory has the
directory on its way (`mem_walk`).

The order in which files are found can be said without a walk too. Two paths are
told apart where they part: there a file comes in front of a directory, and
otherwise the smaller name comes first. `Precedes` is this order. It says of any
two paths which one comes first, so there is one way only to list a set of paths
by it, and how the system lists a directory does not show in what is found.

## Main definitions

* `Node.HasFile`: The steps that lead to a file.
* `Node.IsTree`: A node without two entries of one name in a directory.
* `Node.Relisted`: A node with its directories listed in another order.
* `Discovery.Precedes`: The order in which files are found.
* `Discovery.Excludes`: Exclusions that stand for a path.
* `Discovery.Spares`: A walk that gets through to a path.

## Theorems

* `Discovery.mem_walk`: The files that a walk comes across.
* `Discovery.walk_precedes`: The order in which it does.
* `Discovery.eq_of_precedes`: There is one order only.
* `discover_lists`: The files that are found under a directory.
-/

namespace TokenLint

namespace Node

/-- What holds of files, and of a directory if it holds of all that is in it, holds of
    every node. -/
theorem induction {motive : Node → Prop} (file : ∀ bytes, motive (.file bytes))
    (directory : ∀ entries : List (String × Node), (∀ entry ∈ entries, motive entry.2) →
      motive (.directory entries)) : ∀ node, motive node
  | .file bytes => file bytes
  | .directory entries => directory entries fun entry _ => induction file directory entry.2
termination_by node => sizeOf node
decreasing_by
  rename_i hentry
  have hlist := List.sizeOf_lt_of_mem hentry
  obtain ⟨name, node⟩ := entry
  simp only [Prod.mk.sizeOf_spec, Node.directory.sizeOf_spec] at hlist ⊢
  omega

/-- There is a file at the end of some steps. -/
inductive HasFile : Node → List String → Prop
  /-- It is an entry of the directory. -/
  | here {entries : List (String × Node)} {name : String} {bytes : List UInt8}
      (h : (name, .file bytes) ∈ entries) : HasFile (.directory entries) [name]
  /-- It is somewhere below an entry. -/
  | further {entries : List (String × Node)} {name : String} {node : Node} {steps : List String}
      (h : (name, node) ∈ entries) (hfile : HasFile node steps) :
      HasFile (.directory entries) (name :: steps)

theorem HasFile.ne_nil {node : Node} {steps : List String} (h : node.HasFile steps) :
    steps ≠ [] := by
  cases h <;> exact List.cons_ne_nil _ _

/-- No two entries of a directory have one name. -/
inductive IsTree : Node → Prop
  | file (bytes : List UInt8) : IsTree (.file bytes)
  | directory {entries : List (String × Node)} (hnames : (entries.map (·.1)).Nodup)
      (hbelow : ∀ entry ∈ entries, IsTree entry.2) : IsTree (.directory entries)

@[simp] theorem isTree_file (bytes : List UInt8) : (Node.file bytes).IsTree := .file bytes

@[simp] theorem isTree_directory (entries : List (String × Node)) :
    (Node.directory entries).IsTree ↔
      (entries.map (·.1)).Nodup ∧ ∀ entry ∈ entries, entry.2.IsTree :=
  ⟨fun | .directory hnames hbelow => ⟨hnames, hbelow⟩, fun h => .directory h.1 h.2⟩

/-- Two lists of entries have the same names in some order, and what the names stand for is
    related. -/
inductive ListedAs (R : Node → Node → Prop) :
    List (String × Node) → List (String × Node) → Prop
  | nil : ListedAs R [] []
  | cons {name : String} {node other : Node} {entries front back : List (String × Node)}
      (hnode : R node other) (hentries : ListedAs R entries (front ++ back)) :
      ListedAs R ((name, node) :: entries) (front ++ (name, other) :: back)

/-- The same node with the entries of its directories in another order. -/
inductive Relisted : Node → Node → Prop
  | file (bytes : List UInt8) : Relisted (.file bytes) (.file bytes)
  | directory {entries others : List (String × Node)} (h : ListedAs Relisted entries others) :
      Relisted (.directory entries) (.directory others)

namespace ListedAs

variable {R : Node → Node → Prop} {entries others : List (String × Node)}

theorem perm (h : ListedAs R entries others) : (entries.map (·.1)).Perm (others.map (·.1)) := by
  induction h with
  | nil => exact List.Perm.refl _
  | cons _ _ ih =>
      rw [List.map_append] at ih
      rw [List.map_cons, List.map_append, List.map_cons]
      exact (ih.cons _).trans List.perm_middle.symm

/-- An entry of one list is an entry of the other. -/
theorem exists_other (h : ListedAs R entries others) {name : String} {node : Node}
    (hentry : (name, node) ∈ entries) : ∃ other, (name, other) ∈ others ∧ R node other := by
  induction h with
  | nil => exact absurd hentry List.not_mem_nil
  | cons hnode _ ih =>
      rcases List.mem_cons.mp hentry with heq | hentry
      · cases heq
        exact ⟨_, List.mem_append_right _ List.mem_cons_self, hnode⟩
      · obtain ⟨other, hother, hrelated⟩ := ih hentry
        exact ⟨other, List.perm_middle.symm.subset (List.mem_cons_of_mem _ hother), hrelated⟩

theorem exists_node (h : ListedAs R entries others) {name : String} {other : Node}
    (hentry : (name, other) ∈ others) : ∃ node, (name, node) ∈ entries ∧ R node other := by
  induction h with
  | nil => exact absurd hentry List.not_mem_nil
  | cons hnode _ ih =>
      rcases List.mem_cons.mp (List.perm_middle.subset hentry) with heq | hentry
      · cases heq
        exact ⟨_, List.mem_cons_self, hnode⟩
      · obtain ⟨node, hmem, hrelated⟩ := ih hentry
        exact ⟨node, List.mem_cons_of_mem _ hmem, hrelated⟩

end ListedAs

namespace Relisted

/-- In whatever order directories are listed, the same steps lead to files. -/
theorem hasFile_iff {node other : Node} (h : Relisted node other) (steps : List String) :
    node.HasFile steps ↔ other.HasFile steps := by
  induction node using Node.induction generalizing other steps with
  | file bytes =>
      cases h
      exact Iff.rfl
  | directory entries ih =>
      obtain _ | ⟨hlisted⟩ := h
      constructor
      · rintro (hfile | ⟨hentry, hfile⟩)
        · obtain ⟨other, hother, hsame⟩ := hlisted.exists_other hfile
          cases hsame
          exact .here hother
        · obtain ⟨other, hother, hsame⟩ := hlisted.exists_other hentry
          exact .further hother ((ih _ hentry hsame _).mp hfile)
      · rintro (hfile | ⟨hentry, hfile⟩)
        · obtain ⟨node, hnode, hsame⟩ := hlisted.exists_node hfile
          cases hsame
          exact .here hnode
        · obtain ⟨node, hnode, hsame⟩ := hlisted.exists_node hentry
          exact .further hnode ((ih _ hnode hsame _).mpr hfile)

theorem isTree {node other : Node} (h : Relisted node other) (htree : node.IsTree) :
    other.IsTree := by
  induction node using Node.induction generalizing other with
  | file bytes =>
      cases h
      exact htree
  | directory entries ih =>
      obtain _ | ⟨hlisted⟩ := h
      obtain ⟨hnames, hbelow⟩ := (isTree_directory _).mp htree
      refine .directory (hlisted.perm.nodup_iff.mp hnames) fun entry hentry => ?_
      obtain ⟨node, hnode, hsame⟩ := hlisted.exists_node hentry
      exact ih _ hnode hsame (hbelow _ hnode)

end Relisted

end Node

namespace Discovery

/-! ### The order of files -/

/-- The order in which files are found, by the steps that lead to them: the files of a
    directory come first, then those below its directories, both by name. -/
inductive Precedes : List String → List String → Prop
  /-- Two files of one directory. -/
  | files {a b : String} (h : a < b) : Precedes [a] [b]
  /-- A file of a directory, and one that is further below. -/
  | fileFirst (a b c : String) (steps : List String) : Precedes [a] (b :: c :: steps)
  /-- Files below two directories of one directory. -/
  | directories {a b : String} (h : a < b) (c d : String) (steps others : List String) :
      Precedes (a :: c :: steps) (b :: d :: others)
  /-- Files below one directory. -/
  | within (a : String) {steps others : List String} (h : Precedes steps others) :
      Precedes (a :: steps) (a :: others)

namespace Precedes

theorem asymm {steps others : List String} (h : Precedes steps others) :
    ¬ Precedes others steps := by
  intro hback
  induction h with
  | files h =>
      cases hback with
      | files h' => exact String.lt_asymm h h'
      | within _ h' => cases h'
  | fileFirst a b c steps =>
      cases hback with
      | within _ h' => cases h'
  | directories h c d steps others =>
      cases hback with
      | directories h' => exact String.lt_asymm h h'
      | within => exact String.lt_irrefl _ h
  | within a h ih =>
      cases hback with
      | files h' => exact String.lt_irrefl _ h'
      | fileFirst => cases h
      | directories h' => exact String.lt_irrefl _ h'
      | within _ h' => exact ih h'

/-- Steps in front of both do not matter. -/
theorem append {steps others : List String} (h : Precedes steps others) (place : List String) :
    Precedes (place ++ steps) (place ++ others) := by
  induction place with
  | nil => exact h
  | cons name place ih => exact .within name ih

theorem of_files {place : List String} {a b : String} (h : a < b) :
    Precedes (place ++ [a]) (place ++ [b]) := (files h).append place

theorem of_fileFirst {place steps : List String} (a b : String) (h : steps ≠ []) :
    Precedes (place ++ [a]) (place ++ b :: steps) := by
  obtain ⟨c, steps, rfl⟩ := List.exists_cons_of_ne_nil h
  exact (fileFirst a b c steps).append place

theorem of_directories {place steps others : List String} {a b : String} (h : a < b)
    (hsteps : steps ≠ []) (hothers : others ≠ []) :
    Precedes (place ++ a :: steps) (place ++ b :: others) := by
  obtain ⟨c, steps, rfl⟩ := List.exists_cons_of_ne_nil hsteps
  obtain ⟨d, others, rfl⟩ := List.exists_cons_of_ne_nil hothers
  exact (directories h c d steps others).append place

end Precedes

/-- Nothing is listed twice in this order. -/
theorem nodup_of_precedes {paths : List (List String)} (h : paths.Pairwise Precedes) :
    paths.Nodup :=
  h.imp fun hab heq => hab.asymm (by rwa [heq] at hab ⊢)

/-- There is one way only to list paths in this order. -/
theorem eq_of_precedes {paths others : List (List String)} (hpaths : paths.Pairwise Precedes)
    (hothers : others.Pairwise Precedes) (hsame : ∀ path, path ∈ paths ↔ path ∈ others) :
    paths = others := by
  have hperm : paths.Perm others :=
    (List.perm_ext_iff_of_nodup (nodup_of_precedes hpaths) (nodup_of_precedes hothers)).mpr hsame
  exact hperm.eq_of_pairwise (fun _ _ _ _ hab hba => absurd hba hab.asymm) hpaths hothers

/-! ### What a walk comes across -/

/-- Nothing that is left out is on the way along some steps from a place. -/
def Spares (skip : List String → Bool) (place steps : List String) : Prop :=
  ∀ front, front ≠ [] → front <+: steps → skip (place ++ front) = false

theorem spares_nil (skip : List String → Bool) (place : List String) : Spares skip place [] :=
  fun _ hne hfront => absurd (List.prefix_nil.mp hfront) hne

theorem spares_cons {skip : List String → Bool} {place steps : List String} {name : String} :
    Spares skip place (name :: steps) ↔
      skip (place ++ [name]) = false ∧ Spares skip (place ++ [name]) steps := by
  constructor
  · intro h
    refine ⟨h [name] (List.cons_ne_nil _ _) ?_, fun front _ hfront => ?_⟩
    · exact List.cons_prefix_cons.mpr ⟨rfl, List.nil_prefix⟩
    · rw [List.append_assoc]
      exact h (name :: front) (List.cons_ne_nil _ _) (List.cons_prefix_cons.mpr ⟨rfl, hfront⟩)
  · rintro ⟨hname, h⟩ front hne hfront
    obtain ⟨first, front, rfl⟩ := List.exists_cons_of_ne_nil hne
    obtain ⟨rfl, hbehind⟩ := List.cons_prefix_cons.mp hfront
    cases front with
    | nil => exact hname
    | cons next front =>
        have hrest := h (next :: front) (List.cons_ne_nil _ _) hbehind
        rwa [List.append_assoc] at hrest

theorem mem_fileNames {entries : List (String × Node)} {name : String} :
    name ∈ fileNames entries ↔ ∃ bytes, (name, .file bytes) ∈ entries := by
  rw [fileNames, List.mem_filterMap]
  constructor
  · rintro ⟨⟨found, node⟩, hentry, hname⟩
    cases node with
    | file bytes =>
        cases hname
        exact ⟨bytes, hentry⟩
    | directory entries => cases hname
  · rintro ⟨bytes, hentry⟩
    exact ⟨_, hentry, rfl⟩

theorem fileNames_sublist (entries : List (String × Node)) :
    (fileNames entries).Sublist (entries.map (·.1)) := by
  induction entries with
  | nil => exact List.Sublist.refl _
  | cons entry entries ih =>
      obtain ⟨name, node⟩ := entry
      cases node with
      | file bytes => exact ih.cons_cons name
      | directory below => exact ih.cons name

section Walk

variable (skip : List String → Bool) (place : List String)

theorem mem_walkEntries {entries : List (String × Node)} {name : String}
    {paths : List (List String)} :
    (name, paths) ∈ walkEntries skip place entries ↔
      ∃ node, (name, node) ∈ entries ∧ skip (place ++ [name]) = false ∧
        paths = walk skip (place ++ [name]) node := by
  induction entries with
  | nil => exact ⟨fun h => absurd h List.not_mem_nil, fun ⟨_, h, _⟩ => absurd h List.not_mem_nil⟩
  | cons entry entries ih =>
      obtain ⟨first, node⟩ := entry
      rw [walkEntries]
      split
      · rename_i hskip
        rw [ih]
        constructor
        · rintro ⟨found, hentry, h⟩
          exact ⟨found, List.mem_cons_of_mem _ hentry, h⟩
        · rintro ⟨found, hentry, hkept, h⟩
          rcases List.mem_cons.mp hentry with heq | hentry
          · cases heq
            rw [hskip] at hkept
            cases hkept
          · exact ⟨found, hentry, hkept, h⟩
      · rename_i hkept
        rw [Bool.not_eq_true] at hkept
        rw [List.mem_cons, ih]
        constructor
        · rintro (heq | ⟨found, hentry, h⟩)
          · cases heq
            exact ⟨node, List.mem_cons_self, hkept, rfl⟩
          · exact ⟨found, List.mem_cons_of_mem _ hentry, h⟩
        · rintro ⟨found, hentry, h⟩
          rcases List.mem_cons.mp hentry with heq | hentry
          · cases heq
            exact .inl (Prod.ext rfl h.2)
          · exact .inr ⟨found, hentry, h⟩

theorem walkEntries_sublist (entries : List (String × Node)) :
    ((walkEntries skip place entries).map (·.1)).Sublist (entries.map (·.1)) := by
  induction entries with
  | nil => exact List.Sublist.refl _
  | cons entry entries ih =>
      rw [walkEntries]
      split
      · exact ih.cons _
      · exact ih.cons_cons _

/-- A walk through a directory comes across its own files that are not left out, and through
    the directories in it that are not. -/
theorem mem_walk_directory {entries : List (String × Node)} {path : List String} :
    path ∈ walk skip place (.directory entries) ↔
      (∃ name bytes, (name, .file bytes) ∈ entries ∧ skip (place ++ [name]) = false ∧
        path = place ++ [name]) ∨
      ∃ name node, (name, node) ∈ entries ∧ skip (place ++ [name]) = false ∧
        path ∈ walk skip (place ++ [name]) node := by
  rw [walk, List.mem_append, List.mem_filter, List.mem_map, List.mem_flatMap]
  refine or_congr ⟨?_, ?_⟩ ⟨?_, ?_⟩
  · rintro ⟨⟨name, hname, rfl⟩, hkept⟩
    obtain ⟨bytes, hentry⟩ := mem_fileNames.mp ((List.mergeSort_perm _ _).subset hname)
    exact ⟨name, bytes, hentry, Bool.not_eq_true' _ ▸ hkept, rfl⟩
  · rintro ⟨name, bytes, hentry, hkept, rfl⟩
    refine ⟨⟨name, ?_, rfl⟩, Bool.not_eq_true' _ ▸ hkept⟩
    exact (List.mergeSort_perm _ _).symm.subset (mem_fileNames.mpr ⟨bytes, hentry⟩)
  · rintro ⟨⟨name, paths⟩, hpaths, hpath⟩
    obtain ⟨node, hentry, hkept, rfl⟩ :=
      (mem_walkEntries skip place).mp ((Ordered.sortByKey_perm _).subset hpaths)
    exact ⟨name, node, hentry, hkept, hpath⟩
  · rintro ⟨name, node, hentry, hkept, hpath⟩
    refine ⟨(name, walk skip (place ++ [name]) node), ?_, hpath⟩
    exact (Ordered.sortByKey_perm _).symm.subset
      ((mem_walkEntries skip place).mpr ⟨node, hentry, hkept, rfl⟩)

variable {skip place}

/-- A walk comes across the files on whose way nothing is left out. -/
theorem mem_walk {node : Node} {path : List String} :
    path ∈ walk skip place node ↔
      ∃ steps, path = place ++ steps ∧ node.HasFile steps ∧ Spares skip place steps := by
  induction node using Node.induction generalizing place path with
  | file bytes =>
      rw [walk]
      exact ⟨fun h => absurd h List.not_mem_nil, fun ⟨_, _, hfile, _⟩ => nomatch hfile⟩
  | directory entries ih =>
      rw [mem_walk_directory]
      constructor
      · rintro (⟨name, bytes, hentry, hkept, rfl⟩ | ⟨name, node, hentry, hkept, hpath⟩)
        · exact ⟨[name], rfl, .here hentry, spares_cons.mpr ⟨hkept, spares_nil _ _⟩⟩
        · obtain ⟨steps, rfl, hfile, hspares⟩ := (ih _ hentry).mp hpath
          refine ⟨name :: steps, ?_, .further hentry hfile, spares_cons.mpr ⟨hkept, hspares⟩⟩
          rw [List.append_assoc, List.singleton_append]
      · rintro ⟨steps, rfl, hfile | ⟨hentry, hfile⟩, hspares⟩
        · exact .inl ⟨_, _, ‹_›, (spares_cons.mp hspares).1, rfl⟩
        · obtain ⟨hkept, hspares⟩ := spares_cons.mp hspares
          refine .inr ⟨_, _, hentry, hkept, (ih _ hentry).mpr ⟨_, ?_, hfile, hspares⟩⟩
          rw [List.append_assoc, List.singleton_append]

/-- A walk comes across files in their order. -/
theorem walk_precedes {node : Node} (htree : node.IsTree) :
    (walk skip place node).Pairwise Precedes := by
  induction node using Node.induction generalizing place with
  | file bytes =>
      rw [walk]
      exact List.Pairwise.nil
  | directory entries ih =>
      obtain ⟨hnames, hbelow⟩ := (Node.isTree_directory _).mp htree
      have hpaths : ∀ name node, (name, node) ∈ entries → ∀ path,
          path ∈ walk skip (place ++ [name]) node →
            ∃ steps, steps ≠ [] ∧ path = place ++ name :: steps := by
        intro name node _ path hpath
        obtain ⟨steps, rfl, hfile, _⟩ := mem_walk.mp hpath
        exact ⟨steps, hfile.ne_nil, by rw [List.append_assoc, List.singleton_append]⟩
      rw [walk, List.pairwise_append, List.pairwise_flatMap]
      refine ⟨?_, ⟨?_, ?_⟩, ?_⟩
      · refine List.Pairwise.filter _ (List.pairwise_map.mpr ?_)
        have hown : ((fileNames entries).map id).Nodup := by
          rw [List.map_id]
          exact hnames.sublist (fileNames_sublist entries)
        exact (Ordered.mergeSort_ascending id hown).imp Precedes.of_files
      · rintro ⟨name, paths⟩ hmem
        obtain ⟨node, hentry, -, rfl⟩ :=
          (mem_walkEntries skip place).mp ((Ordered.sortByKey_perm _).subset hmem)
        exact ih _ hentry (hbelow _ hentry)
      · -- Two directories are in the order of their names, and so are all paths into them.
        have hkeys := hnames.sublist (walkEntries_sublist skip place entries)
        refine (Ordered.sortByKey_ascending hkeys).imp_of_mem ?_
        rintro ⟨a, paths⟩ ⟨b, others⟩ ha hb hab x hx y hy
        obtain ⟨node, hnode, -, rfl⟩ :=
          (mem_walkEntries skip place).mp ((Ordered.sortByKey_perm _).subset ha)
        obtain ⟨other, hother, -, rfl⟩ :=
          (mem_walkEntries skip place).mp ((Ordered.sortByKey_perm _).subset hb)
        obtain ⟨steps, hsteps, rfl⟩ := hpaths a node hnode x hx
        obtain ⟨rest, hrest, rfl⟩ := hpaths b other hother y hy
        exact .of_directories hab hsteps hrest
      · intro x hx y hy
        obtain ⟨name, -, rfl⟩ := List.mem_map.mp (List.mem_of_mem_filter hx)
        obtain ⟨⟨below, paths⟩, hmem, hy⟩ := List.mem_flatMap.mp hy
        obtain ⟨node, hnode, -, rfl⟩ :=
          (mem_walkEntries skip place).mp ((Ordered.sortByKey_perm _).subset hmem)
        obtain ⟨steps, hsteps, rfl⟩ := hpaths below node hnode y hy
        exact .of_fileFirst name below hsteps

end Walk

/-! ### What is found -/

/-- One of the patterns stands for a path from the root as a whole, or for one of its
    steps. -/
def Excludes (patterns steps : List String) : Prop :=
  ∃ pattern ∈ patterns, Glob.matchesText pattern (Text.joinWith "/" steps) = true ∨
    ∃ name ∈ steps, Glob.matchesText pattern name = true

theorem isExcluded_iff {patterns steps : List String} :
    isExcluded patterns steps = true ↔ Excludes patterns steps := by
  simp only [isExcluded, Excludes, List.any_eq_true, Bool.or_eq_true]

theorem spares_isExcluded_iff {patterns steps : List String} :
    Spares (isExcluded patterns) [] steps ↔
      ∀ front, front ≠ [] → front <+: steps → ¬ Excludes patterns front := by
  refine forall_congr' fun front => imp_congr_right fun _ => imp_congr_right fun _ => ?_
  rw [List.nil_append, ← isExcluded_iff, Bool.not_eq_true]

end Discovery

/-- The path that steps from a root lead to. -/
def Path.under (root : Path) (steps : List String) : Path :=
  { root with steps := root.steps ++ steps }

theorem Path.under_injective (root : Path) : Function.Injective root.under := by
  intro steps others h
  exact List.append_cancel_left (congrArg Path.steps h)

namespace Discovery

section Found

variable (root : Path) (extensions exclude : List String)

/-- The files of a directory that a walk comes across and whose suffix is a wanted one. -/
def foundIn (entries : List (String × Node)) : List (List String) :=
  (walk (isExcluded exclude) [] (.directory entries)).filter fun steps =>
    (extensions.map normalExtension).contains (Text.lower (root.under steps).suffix)

variable {entries : List (String × Node)}

theorem mem_foundIn {steps : List String} :
    steps ∈ foundIn root extensions exclude entries ↔ (Node.directory entries).HasFile steps ∧
      Text.lower (root.under steps).suffix ∈ extensions.map normalExtension ∧
      ∀ front, front ≠ [] → front <+: steps → ¬ Excludes exclude front := by
  rw [foundIn, List.mem_filter, List.contains_iff_mem, mem_walk, ← spares_isExcluded_iff]
  constructor
  · rintro ⟨⟨found, rfl, hfile, hspares⟩, hwanted⟩
    exact ⟨hfile, hwanted, hspares⟩
  · rintro ⟨hfile, hwanted, hspares⟩
    exact ⟨⟨steps, rfl, hfile, hspares⟩, hwanted⟩

variable (htree : (Node.directory entries).IsTree)

include htree

theorem foundIn_precedes : (foundIn root extensions exclude entries).Pairwise Precedes :=
  (walk_precedes htree).filter _

theorem nodup_foundIn : ((foundIn root extensions exclude entries).map root.under).Nodup :=
  (nodup_of_precedes (foundIn_precedes root extensions exclude htree)).map root.under_injective

/-- Nothing is found twice, so nothing is dropped at the end. -/
theorem discover_eq {tree : FileTree} (hroot : tree.lookup root = .ok (some (.directory entries))) :
    discover tree root extensions exclude =
      .ok ((foundIn root extensions exclude entries).map root.under) := by
  have hfilter : ((walk (isExcluded exclude) [] (.directory entries)).map root.under).filter
      (fun path => (extensions.map normalExtension).contains (Text.lower path.suffix)) =
        (foundIn root extensions exclude entries).map root.under := List.filter_map
  rw [discover, hroot]
  change Except.ok (distinct _) = _
  rw [← distinct_of_nodup (nodup_foundIn root extensions exclude htree), ← hfilter]
  rfl

end Found

end Discovery

open Discovery in
/-- The files that are found under a directory are those with a wanted suffix that no
    exclusion stands for, neither for the file nor for a directory on the way to it. Each of
    them is found once, the own files of a directory in front of all that are further below,
    and otherwise by name. The order in which the system lists directories does not matter. -/
theorem discover_lists {tree : FileTree} {root : Path} {entries : List (String × Node)}
    (extensions exclude : List String)
    (hroot : tree.lookup root = .ok (some (.directory entries)))
    (htree : (Node.directory entries).IsTree) :
    ∃ found : List (List String),
      discover tree root extensions exclude = .ok (found.map root.under) ∧
      (∀ steps, steps ∈ found ↔ (Node.directory entries).HasFile steps ∧
        Text.lower (root.under steps).suffix ∈ extensions.map normalExtension ∧
        ∀ front, front ≠ [] → front <+: steps → ¬ Excludes exclude front) ∧
      found.Pairwise Precedes ∧ (found.map root.under).Nodup ∧
      ∀ (other : FileTree) (others : List (String × Node)),
        other.lookup root = .ok (some (.directory others)) →
        (Node.directory entries).Relisted (.directory others) →
        discover other root extensions exclude = discover tree root extensions exclude := by
  refine ⟨foundIn root extensions exclude entries,
    discover_eq root extensions exclude htree hroot,
    fun steps => mem_foundIn root extensions exclude,
    foundIn_precedes root extensions exclude htree,
    nodup_foundIn root extensions exclude htree, fun other others hother hsame => ?_⟩
  have hothers := hsame.isTree htree
  rw [discover_eq root extensions exclude hothers hother,
    discover_eq root extensions exclude htree hroot]
  -- What is found is a matter of the files alone, and so is the order.
  congr 2
  refine eq_of_precedes (foundIn_precedes root extensions exclude hothers)
    (foundIn_precedes root extensions exclude htree) fun steps => ?_
  rw [mem_foundIn, mem_foundIn, hsame.hasFile_iff]

/-- A package with a directory of cached files in it. -/
def packageEntries : List (String × Node) := [
  ("b.py", .file []),
  ("pkg", .directory [("__cache__", .directory [("z.py", .file [])]), ("z.PY", .file [])]),
  ("a.py", .file [])]

/-- The tree with the package at its top. -/
def packageTree : FileTree := ⟨⟨"/", []⟩, .directory packageEntries⟩

open Discovery in
/-- The files of the package are found, but for the cached ones. -/
theorem discover_lists_package :
    packageTree.lookup .here = .ok (some (.directory packageEntries)) ∧
      (Node.directory packageEntries).IsTree ∧
      ∃ found : List (List String),
        discover packageTree .here [" py "] ["__c*"] = .ok (found.map Path.here.under) ∧
        found.Pairwise Precedes ∧
        ["pkg", "z.PY"] ∈ found ∧ ["pkg", "__cache__", "z.py"] ∉ found := by
  have hroot : packageTree.lookup .here = .ok (some (.directory packageEntries)) := rfl
  have htree : (Node.directory packageEntries).IsTree := by simp [packageEntries]
  obtain ⟨found, hfound, hmem, hordered, -⟩ := discover_lists [" py "] ["__c*"] hroot htree
  refine ⟨hroot, htree, found, hfound, hordered, ?_, fun hcached => ?_⟩
  · refine (hmem _).mpr ⟨?_, by decide +kernel, ?_⟩
    · exact .further (List.mem_cons_of_mem _ List.mem_cons_self)
        (.here (List.mem_cons_of_mem _ List.mem_cons_self))
    · refine spares_isExcluded_iff.mp ?_
      exact spares_cons.mpr ⟨by decide +kernel,
        spares_cons.mpr ⟨by decide +kernel, spares_nil _ _⟩⟩
  · -- The directory that the file is in is excluded.
    obtain ⟨-, -, hspared⟩ := (hmem _).mp hcached
    refine hspared ["pkg", "__cache__"] (List.cons_ne_nil _ _) ⟨["z.py"], rfl⟩ ?_
    exact isExcluded_iff.mp (by decide +kernel)

end TokenLint
