import Mathlib.Data.List.Nodup
import Runbook.Proofs.PathOrder
import Runbook.Reference.Resolution
import Runbook.FileSystem.Virtual

/-! # Expansion of directories

A file system shows a tree at a path when it lists, in any order, what the tree has there. A
reference to a directory then stands for the files of the tree in the order of their paths, which is
the order in which the tree is walked when the entries of each directory come by their names.
-/
namespace Runbook

open Text (Bytes)

inductive FileTree where
  | file (content : Text)
  | directory (children : List (Bytes × FileTree))

namespace FileTree

mutual

def files (p : Path) : FileTree → List (Path × Text)
  | .file content => [(p, content)]
  | .directory children => filesOf p children

def filesOf (p : Path) : List (Bytes × FileTree) → List (Path × Text)
  | [] => []
  | (name, tree) :: rest => files (p.join name) tree ++ filesOf p rest

end

def paths (p : Path) (t : FileTree) : List Path := (t.files p).map Prod.fst

end FileTree

namespace Resolution

/-- The file system has this tree at a path. The entries of a directory are told apart by their
names, which increase in the tree but are listed in any order. -/
inductive Shows (fs : FileSystem) : Path → FileTree → Prop
  | file {p : Path} {content : Text} (plain : fs.isDirectory p = false)
      (read : fs.read p = .ok content) : Shows fs p (.file content)
  | directory {p : Path} {children listing : List (Bytes × FileTree)}
      (dir : fs.isDirectory p = true)
      (listed : fs.list p = .ok (listing.map fun c => p.join c.1))
      (perm : listing.Perm children)
      (names : ∀ c ∈ children, Path.IsEntryName c.1)
      (increasing : children.Pairwise fun a b => a.1.map UInt8.toNat < b.1.map UInt8.toNat)
      (shown : ∀ c ∈ children, Shows fs (p.join c.1) c.2) : Shows fs p (.directory children)

/-- The file system lists this tree at a path. What its files hold, and whether they can be read,
does not matter. -/
inductive Lists (fs : FileSystem) : Path → FileTree → Prop
  | file {p : Path} {content : Text} (plain : fs.isDirectory p = false) :
      Lists fs p (.file content)
  | directory {p : Path} {children listing : List (Bytes × FileTree)}
      (dir : fs.isDirectory p = true)
      (listed : fs.list p = .ok (listing.map fun c => p.join c.1))
      (perm : listing.Perm children)
      (names : ∀ c ∈ children, Path.IsEntryName c.1)
      (increasing : children.Pairwise fun a b => a.1.map UInt8.toNat < b.1.map UInt8.toNat)
      (below : ∀ c ∈ children, Lists fs (p.join c.1) c.2) : Lists fs p (.directory children)

/-- From a path, through directories, one comes to an entry that is no directory. -/
inductive Reaches (fs : FileSystem) : Path → Path → Prop
  | here {p : Path} (plain : fs.isDirectory p = false) : Reaches fs p p
  | through {p e q : Path} {entries : List Path} (dir : fs.isDirectory p = true)
      (listed : fs.list p = .ok entries) (entry : e ∈ entries) (rest : Reaches fs e q) :
      Reaches fs p q

variable {fs : FileSystem} {p : Path} {t : FileTree}

theorem Shows.lists (shown : Shows fs p t) : Lists fs p t := by
  induction shown with
  | file plain read => exact .file plain
  | directory dir listed perm names increasing shown ih =>
    exact .directory dir listed perm names increasing ih

theorem filesOf_eq_flatMap (p : Path) (cs : List (Bytes × FileTree)) :
    FileTree.filesOf p cs = cs.flatMap fun c => c.2.files (p.join c.1) := by
  induction cs with
  | nil => rfl
  | cons c cs ih => rw [FileTree.filesOf, ih, List.flatMap_cons]

theorem files_directory (p : Path) (cs : List (Bytes × FileTree)) :
    (FileTree.directory cs).files p = cs.flatMap fun c => c.2.files (p.join c.1) := by
  rw [FileTree.files, filesOf_eq_flatMap]

theorem paths_directory (p : Path) (cs : List (Bytes × FileTree)) :
    (FileTree.directory cs).paths p = cs.flatMap fun c => c.2.paths (p.join c.1) := by
  rw [FileTree.paths, files_directory, List.map_flatMap]
  rfl

/-! ## The walk -/

def entryFiles (fs : FileSystem) (e : Path) : ExceptT Error Option (List Path) :=
  if fs.isDirectory e then walk fs e else pure [e]

theorem walk_of_list {entries : List Path} (listed : fs.list p = .ok entries) :
    walk fs p = List.flatten <$> entries.mapM (entryFiles fs) := by
  rw [walk.eq_1, listed]
  rfl

theorem mapM_eq_pure {α β : Type} {f : α → ExceptT Error Option (List β)} {expected : α → List β}
    (l : List α) (h : ∀ a ∈ l, ∃ found, f a = pure found ∧ found.Perm (expected a)) :
    ∃ founds, l.mapM f = pure founds ∧ founds.flatten.Perm (l.flatMap expected) := by
  induction l with
  | nil => exact ⟨[], rfl, .refl _⟩
  | cons a l ih =>
    obtain ⟨found, hfound, hperm⟩ := h a List.mem_cons_self
    obtain ⟨founds, hfounds, hperms⟩ := ih fun b hb => h b (List.mem_cons_of_mem _ hb)
    refine ⟨found :: founds, ?_, ?_⟩
    · rw [List.mapM_cons, hfound, hfounds, pure_bind, pure_bind]
    · rw [List.flatten_cons, List.flatMap_cons]
      exact hperm.append hperms

theorem Lists.exists_entryFiles (tree : Lists fs p t) :
    ∃ found, entryFiles fs p = pure found ∧ found.Perm (t.paths p) := by
  induction tree with
  | @file p content plain =>
    refine ⟨[p], ?_, .refl _⟩
    rw [entryFiles, plain]
    rfl
  | @directory p children listing dir listed perm names increasing below ih =>
    have hentries : ∀ c ∈ listing, ∃ found,
        entryFiles fs (p.join c.1) = pure found ∧
        found.Perm (c.2.paths (p.join c.1)) := fun c hc => ih c (perm.mem_iff.mp hc)
    obtain ⟨founds, hfounds, hperm⟩ := mapM_eq_pure listing hentries
    -- The files come as the entries are listed; which of them there are is left to `perm`.
    refine ⟨founds.flatten, ?_, ?_⟩
    · have hmap : (listing.map fun c => p.join c.1).mapM (entryFiles fs) =
          pure founds := by
        rw [List.mapM_map]
        exact hfounds
      rw [entryFiles, if_pos dir, walk_of_list listed, hmap, map_pure]
    · rw [paths_directory]
      exact hperm.trans (perm.flatMap_right _)

/-! ## Order -/

theorem Lists.components_extend (tree : Lists fs p t) :
    ∀ q ∈ t.paths p, p.components <+: q.components := by
  induction tree with
  | @file p content plain =>
    intro q hq
    obtain rfl : q = p := List.mem_singleton.mp hq
    exact List.prefix_rfl
  | @directory p children listing dir listed perm names increasing below ih =>
    intro q hq
    rw [paths_directory] at hq
    obtain ⟨c, hc, hqc⟩ := List.mem_flatMap.mp hq
    have hjoin : p.components <+: (p.join c.1).components := by
      rw [Path.components_join p (names c hc)]
      exact List.prefix_append _ _
    exact hjoin.trans (ih c hc q hqc)

theorem lt_of_names_lt {d : List Path.Component} {s u : Bytes} {x y : List Path.Component}
    (h : s.map UInt8.toNat < u.map UInt8.toNat) (hx : d ++ [.name s] <+: x)
    (hy : d ++ [.name u] <+: y) : x < y := by
  obtain ⟨a, rfl⟩ := hx
  obtain ⟨b, rfl⟩ := hy
  rw [List.append_assoc, List.append_assoc]
  exact List.append_left_lt (List.cons_lt_cons_iff.mpr (.inl (Path.Component.name_lt_name.mpr h)))

theorem Lists.paths_increasing (tree : Lists fs p t) :
    (t.paths p).Pairwise fun a b => a.components < b.components := by
  induction tree with
  | file plain => exact List.pairwise_singleton _ _
  | @directory p children listing dir listed perm names increasing below ih =>
    rw [paths_directory, List.pairwise_flatMap]
    refine ⟨ih, ?_⟩
    -- Files below two entries differ first where the names of the entries stand.
    refine increasing.imp_of_mem fun {c d} hc hd hlt x hx y hy => ?_
    have hcx := (below c hc).components_extend x hx
    have hdy := (below d hd).components_extend y hy
    rw [Path.components_join p (names c hc)] at hcx
    rw [Path.components_join p (names d hd)] at hdy
    exact lt_of_names_lt hlt hcx hdy

theorem paths_increasing (shown : Shows fs p t) :
    (t.paths p).Pairwise fun a b => a.components < b.components :=
  shown.lists.paths_increasing

theorem mergeSort_eq_of_increasing {found paths : List Path} (perm : found.Perm paths)
    (increasing : paths.Pairwise fun a b => a.components < b.components) :
    found.mergeSort Path.le = paths := by
  have hsorted : (found.mergeSort Path.le).Pairwise fun a b => Path.le a b = true := by
    apply List.pairwise_mergeSort
    · intro a b c hab hbc
      rw [Path.le_iff] at hab hbc ⊢
      exact hab.trans hbc
    · intro a b
      rw [Bool.or_eq_true, Path.le_iff, Path.le_iff]
      exact le_total _ _
  have hpaths : paths.Pairwise fun a b => Path.le a b = true :=
    increasing.imp fun h => (Path.le_iff _ _).mpr h.le
  -- Different paths may have the same components, but no two of these have.
  have hnodup : (paths.map Path.components).Nodup :=
    List.pairwise_map.mpr (increasing.imp fun h => h.ne)
  have hmem : ∀ a b, a ∈ found.mergeSort Path.le → b ∈ paths → a.le b = true → b.le a = true →
      a = b := by
    intro a b ha hb hab hba
    have ha' : a ∈ paths := perm.mem_iff.mp (List.mem_mergeSort.mp ha)
    have hcomponents := ((Path.le_iff a b).mp hab).antisymm ((Path.le_iff b a).mp hba)
    exact List.inj_on_of_nodup_map hnodup ha' hb hcomponents
  exact List.Perm.eq_of_pairwise hmem hsorted hpaths ((List.mergeSort_perm _ _).trans perm)

/-! ## Descendants -/

theorem Lists.mem_paths_iff (tree : Lists fs p t) (q : Path) :
    q ∈ t.paths p ↔ Reaches fs p q := by
  induction tree with
  | @file p content plain =>
    have hpaths : (FileTree.file content).paths p = [p] := rfl
    rw [hpaths, List.mem_singleton]
    constructor
    · rintro rfl
      exact .here plain
    · intro h
      cases h with
      | here => rfl
      | through dir => exact absurd dir (by simp [plain])
  | @directory p children listing dir listed perm names increasing below ih =>
    rw [paths_directory, List.mem_flatMap]
    constructor
    · rintro ⟨c, hc, hq⟩
      have hentry : p.join c.1 ∈ listing.map fun c => p.join c.1 :=
        List.mem_map.mpr ⟨c, perm.mem_iff.mpr hc, rfl⟩
      exact .through dir listed hentry ((ih c hc).mp hq)
    · intro h
      cases h with
      | here plain => exact absurd dir (by simp [plain])
      | through _ found entry rest =>
        have hentries := Except.ok.inj (found.symm.trans listed)
        rw [hentries] at entry
        obtain ⟨c, hc, rfl⟩ := List.mem_map.mp entry
        have hc' := perm.mem_iff.mp hc
        exact ⟨c, hc', (ih c hc').mpr rest⟩

theorem mem_paths_iff (shown : Shows fs p t) (q : Path) : q ∈ t.paths p ↔ Reaches fs p q :=
  shown.lists.mem_paths_iff q

/-! ## Leaves -/

theorem read_of_mem_files (shown : Shows fs p t) :
    ∀ f ∈ t.files p, fs.read f.1 = .ok f.2 := by
  induction shown with
  | file plain read =>
    intro f hf
    rw [List.mem_singleton.mp hf]
    exact read
  | @directory p children listing dir listed perm names increasing shown ih =>
    intro f hf
    rw [files_directory] at hf
    obtain ⟨c, hc, hfc⟩ := List.mem_flatMap.mp hf
    exact ih c hc f hfc

/-- Every content that is to be registered has options that can be taken off it. -/
def WellMarked (r : Reference) (t : FileTree) : Prop :=
  r.subtype.isRegistration = true →
    ∀ f ∈ t.files r.path, ∃ marked, Options.extract f.2 = .ok marked

theorem leaf_of_read {r : Reference} {file : Path} {content : Text}
    (read : fs.read file = .ok content)
    (marked : r.subtype.isRegistration = true → ∃ marked, Options.extract content = .ok marked) :
    ∃ d, leaf fs r file = .ok d ∧ d.source = some file := by
  rw [leaf, read]
  by_cases hr : r.subtype.isRegistration = true
  · obtain ⟨⟨options, body⟩, hmarked⟩ := marked hr
    refine ⟨⟨r.kind, r.subtype, options, body, some file⟩, ?_, rfl⟩
    simp only [hr, if_true, hmarked]
  · exact ⟨⟨r.kind, r.subtype, none, content, some file⟩, by simp only [if_neg hr], rfl⟩

theorem leaves_of_leaf {r : Reference} {paths : List Path}
    (h : ∀ file ∈ paths, ∃ d, leaf fs r file = .ok d ∧ d.source = some file) :
    ∃ ds, leaves fs r paths = .ok ds ∧ ds.map Directive.source = paths.map some := by
  induction paths with
  | nil => exact ⟨[], rfl, rfl⟩
  | cons file rest ih =>
    obtain ⟨d, hd, hsource⟩ := h file List.mem_cons_self
    obtain ⟨ds, hds, hsources⟩ := ih fun f hf => h f (List.mem_cons_of_mem _ hf)
    refine ⟨d :: ds, ?_, ?_⟩
    · rw [leaves, hd]
      simp only [hds]
    · rw [List.map_cons, List.map_cons, hsource, hsources]

theorem leaves_congr {fs' : FileSystem} {r : Reference} {paths : List Path}
    (h : ∀ file ∈ paths, fs.read file = fs'.read file) :
    leaves fs r paths = leaves fs' r paths := by
  induction paths with
  | nil => rfl
  | cons file rest ih =>
    have hfile : leaf fs r file = leaf fs' r file := by
      rw [leaf, leaf, h file List.mem_cons_self]
    rw [leaves, leaves, hfile, ih fun f hf => h f (List.mem_cons_of_mem _ hf)]

/-! ## Directories -/

namespace Lists

variable {children : List (Bytes × FileTree)}

theorem isDirectory (tree : Lists fs p (.directory children)) : fs.isDirectory p = true := by
  cases tree
  assumption

theorem exists_walk (tree : Lists fs p (.directory children)) :
    ∃ found, walk fs p = pure found ∧ found.Perm ((FileTree.directory children).paths p) := by
  have h := tree.exists_entryFiles
  rwa [entryFiles, if_pos tree.isDirectory] at h

theorem filesBelow_eq (tree : Lists fs p (.directory children)) :
    filesBelow fs p = .ok ((FileTree.directory children).paths p) := by
  obtain ⟨found, hwalk, hperm⟩ := tree.exists_walk
  have hsorted := mergeSort_eq_of_increasing hperm tree.paths_increasing
  have hbelow : filesBelow fs p = .ok (found.mergeSort Path.le) := by
    rw [filesBelow, hwalk]
    rfl
  rw [hbelow, hsorted]

theorem resolve_eq {r : Reference} (tree : Lists fs r.path (.directory children)) :
    (r.resolve fs).result = leaves fs r ((FileTree.directory children).paths r.path) := by
  rw [Reference.resolve]
  simp only [Resolution.files, if_pos tree.isDirectory, tree.filesBelow_eq]

end Lists

theorem walk_of_shows {children : List (Bytes × FileTree)}
    (shown : Shows fs p (.directory children)) :
    ∃ found, walk fs p = pure found ∧ found.Perm ((FileTree.directory children).paths p) :=
  shown.lists.exists_walk

theorem resolve_of_shows {r : Reference} {children : List (Bytes × FileTree)}
    (shown : Shows fs r.path (.directory children)) :
    (r.resolve fs).result = leaves fs r ((FileTree.directory children).paths r.path) :=
  shown.lists.resolve_eq

/-- A directory with a finite tree stands for the files of the tree, each once, in the order of
their paths, and so does every directory that shows the same tree. -/
theorem resolve_directory {fs : FileSystem} {r : Reference} {children : List (Bytes × FileTree)}
    (shown : Shows fs r.path (.directory children))
    (marked : WellMarked r (.directory children)) :
    ∃ found paths ds, walk fs r.path = pure found ∧ (r.resolve fs).result = .ok ds ∧
      ds.map Directive.source = paths.map some ∧
      (∀ q, q ∈ paths ↔ Reaches fs r.path q) ∧
      paths.Pairwise (fun a b => a.components < b.components) ∧
      paths = (FileTree.directory children).paths r.path ∧
      ∀ fs', Shows fs' r.path (.directory children) → (r.resolve fs').result = .ok ds := by
  obtain ⟨found, hwalk, -⟩ := walk_of_shows shown
  have hread := read_of_mem_files shown
  have hleaf : ∀ file ∈ (FileTree.directory children).paths r.path,
      ∃ d, leaf fs r file = .ok d ∧ d.source = some file := by
    intro file hfile
    obtain ⟨f, hf, rfl⟩ := List.mem_map.mp hfile
    exact leaf_of_read (hread f hf) fun hr => marked hr f hf
  obtain ⟨ds, hds, hsources⟩ := leaves_of_leaf hleaf
  refine ⟨found, _, ds, hwalk, (resolve_of_shows shown).trans hds, hsources, mem_paths_iff shown,
    paths_increasing shown, rfl, ?_⟩
  intro fs' shown'
  have hreads : ∀ file ∈ (FileTree.directory children).paths r.path,
      fs'.read file = fs.read file := by
    intro file hfile
    obtain ⟨f, hf, rfl⟩ := List.mem_map.mp hfile
    rw [hread f hf, read_of_mem_files shown' f hf]
  rw [resolve_of_shows shown', leaves_congr hreads, hds]

def shelf : FileSystem :=
  let put (v : Virtual) (path content : String) : Virtual :=
    v.put (.ofText path.toList) (.file (Text.encode content.toList))
  (put (put (put .empty "d/a.sql" "A") "d/b.sql" "B") "d/a/x.sql" "X").fileSystem

def shelfTree : List (Bytes × FileTree) :=
  [(Text.encode "a".toList, .directory [(Text.encode "x.sql".toList, .file "X".toList)]),
    (Text.encode "a.sql".toList, .file "A".toList), (Text.encode "b.sql".toList, .file "B".toList)]

theorem shelf_shows : Shows shelf (.ofText "d".toList) (.directory shelfTree) := by
  have inner : Shows shelf (.ofText "d/a".toList)
      (.directory [(Text.encode "x.sql".toList, .file "X".toList)]) := by
    refine .directory rfl rfl (.refl _) (by decide) (by decide) ?_
    rintro _ (_ | ⟨_, ⟨⟩⟩)
    exact .file rfl rfl
  refine .directory rfl rfl (.cons _ (.swap _ _ [])) (by decide) (by decide) ?_
  rintro _ (_ | ⟨_, _ | ⟨_, _ | ⟨_, ⟨⟩⟩⟩⟩)
  · exact inner
  · exact .file rfl rfl
  · exact .file rfl rfl

theorem shelf_wellMarked :
    WellMarked ⟨.sql, .report, .ofText "d".toList⟩ (.directory shelfTree) := by
  rintro - _ (_ | ⟨_, _ | ⟨_, _ | ⟨_, ⟨⟩⟩⟩⟩)
  all_goals exact ⟨_, rfl⟩

theorem resolve_directory_shelf :
    ∃ ds, (Reference.resolve shelf ⟨.sql, .report, .ofText "d".toList⟩).result = .ok ds ∧
      ds.map Directive.source =
        ["d/a/x.sql", "d/a.sql", "d/b.sql"].map fun path => some (.ofText path.toList) := by
  obtain ⟨_, _, ds, -, hds, hsources, -, -, rfl, -⟩ :=
    resolve_directory (r := ⟨.sql, .report, .ofText "d".toList⟩) shelf_shows
      shelf_wellMarked
  exact ⟨ds, hds, hsources⟩

end Resolution

end Runbook
