import Runbook.Proofs.Expansion
import Runbook.Proofs.PathParents
import Runbook.Proofs.Wildcards

/-! # What a glob selects

A glob stands for those files below its parent whose names it matches, in the order in which the
parent stands for all of its files. Only the files that are selected are read.
-/
namespace Runbook

open Text (Bytes)

namespace Path

def star : UInt8 := 42

/-- The last part of a path that is a glob. -/
structure IsGlobName (n : Bytes) : Prop where
  wildcard : star ∈ n
  plain : slash ∉ n

namespace IsGlobName

variable {n : Bytes}

theorem isEntryName (h : IsGlobName n) : IsEntryName n where
  nonempty := List.ne_nil_of_mem h.wildcard
  plain := h.plain
  notCurrent := by
    rintro rfl
    exact absurd h.wildcard (by decide)
  notParent := by
    rintro rfl
    exact absurd h.wildcard (by decide)

theorem contains_display (h : IsGlobName n) {p : Path} (sub : n ⊆ p.bytes) :
    p.display.contains Pattern.Glob.wildcard = true := by
  rw [List.contains_iff_mem]
  exact @Text.mem_decodeLossy star (by decide) _ (sub h.wildcard)

end IsGlobName

end Path

namespace Resolution

variable {fs : FileSystem} {d p : Path} {t : FileTree} {r : Reference}

/-! ## Leaves of a selection -/

theorem source_of_leaf {file : Path} {x : Directive} (h : leaf fs r file = .ok x) :
    x.source = some file := by
  rw [leaf] at h
  split at h
  · cases h
  · cases h
  · split at h
    · split at h
      · cases h
      · obtain rfl := Except.ok.inj h
        rfl
    · obtain rfl := Except.ok.inj h
      rfl

theorem leaves_cons_eq_ok {file : Path} {rest : List Path} {ds : List Directive} :
    leaves fs r (file :: rest) = .ok ds ↔
      ∃ x xs, leaf fs r file = .ok x ∧ leaves fs r rest = .ok xs ∧ ds = x :: xs := by
  rw [leaves]
  cases leaf fs r file with
  | error e => simp
  | ok x =>
    cases leaves fs r rest with
    | error e => simp
    | ok xs => simp [eq_comm]

/-- The directives in some of the files are those of the directives whose files these are. -/
theorem leaves_filter {paths : List Path} {ds : List Directive} (keep : Path → Bool)
    (h : leaves fs r paths = .ok ds) :
    leaves fs r (paths.filter keep) = .ok (ds.filter fun x => x.source.any keep) := by
  induction paths generalizing ds with
  | nil =>
    obtain rfl := Except.ok.inj h
    rfl
  | cons file rest ih =>
    obtain ⟨x, xs, hx, hxs, rfl⟩ := leaves_cons_eq_ok.mp h
    have hany : x.source.any keep = keep file := by
      rw [source_of_leaf hx]
      rfl
    rw [List.filter_cons, List.filter_cons, hany]
    split
    · exact leaves_cons_eq_ok.mpr ⟨x, _, hx, ih hxs, rfl⟩
    · exact ih hxs

theorem leaves_path (kind : Kind) (subtype : Subtype) (p q : Path) (paths : List Path) :
    leaves fs ⟨kind, subtype, p⟩ paths = leaves fs ⟨kind, subtype, q⟩ paths := by
  induction paths with
  | nil => rfl
  | cons file rest ih =>
    rw [leaves, leaves, ih]
    rfl

/-! ## Names of files -/

theorem Lists.exists_fileName (tree : Lists fs p t) :
    ∀ q ∈ t.paths p, q = p ∨ ∃ base, q.fileName? = some base := by
  induction tree with
  | @file p content plain =>
    intro q hq
    exact .inl (List.mem_singleton.mp hq)
  | @directory p children listing dir listed perm names increasing below ih =>
    intro q hq
    rw [paths_directory] at hq
    obtain ⟨c, hc, hqc⟩ := List.mem_flatMap.mp hq
    rcases ih c hc q hqc with rfl | hbase
    · exact .inr ⟨c.1, Path.fileName?_join p (names c hc)⟩
    · exact .inr hbase

theorem Reaches.plain {q : Path} (h : Reaches fs p q) : fs.isDirectory q = false := by
  induction h with
  | here plain => exact plain
  | through dir listed entry rest ih => exact ih

theorem Lists.fileName_of_mem {children : List (Bytes × FileTree)}
    (tree : Lists fs p (.directory children)) {q : Path}
    (hq : q ∈ (FileTree.directory children).paths p) : ∃ base, q.fileName? = some base := by
  rcases tree.exists_fileName q hq with rfl | hbase
  · have plain := ((tree.mem_paths_iff q).mp hq).plain
    rw [tree.isDirectory] at plain
    cases plain
  · exact hbase

theorem matchesName_iff {rx : Pattern.Regex} {q : Path} :
    matchesName rx q = true ↔
      ∃ base, q.fileName? = some base ∧ rx.isMatch (Text.decodeLossy base) = true := by
  rw [matchesName]
  cases q.fileName? <;> simp

/-! ## The files of a glob -/

variable {n : Bytes} {rx : Pattern.Regex} {children : List (Bytes × FileTree)}

theorem files_of_glob (glob : Path.IsGlobName n) (sub : n ⊆ p.bytes)
    (name : p.fileName? = some n) (parent : globParent p = d)
    (notDirectory : fs.isDirectory p = false)
    (compiled : Pattern.Glob.compile (Text.decodeLossy n) = .ok rx)
    (tree : Lists fs d (.directory children)) :
    files fs p = ⟨.ok (((FileTree.directory children).paths d).filter (matchesName rx)), []⟩ := by
  have hname : globName p = Text.decodeLossy n := by
    rw [globName, name]
    rfl
  rw [files, notDirectory, if_neg Bool.false_ne_true, if_pos (glob.contains_display sub), globFiles,
    hname, compiled]
  simp only [parent, if_pos tree.isDirectory, tree.filesBelow_eq]
  rfl

theorem subset_join (d : Path) (n : Bytes) : n ⊆ (d.join n).bytes := by
  rw [Path.join]
  split
  · exact List.Subset.refl n
  · split
    · exact List.subset_append_right _ _
    · exact fun b hb => List.mem_append_right _ (List.mem_cons_of_mem _ hb)

theorem globParent_join (tidy : d.Tidy) (glob : Path.IsGlobName n) : globParent (d.join n) = d := by
  rw [globParent, tidy.parent?_join glob.isEntryName]
  split
  · rename_i h
    obtain rfl := Option.some.inj h
    exact absurd rfl tidy.nonempty
  · rename_i h
    exact (Option.some.inj h).symm
  · rename_i h
    cases h

theorem globParent_bare (glob : Path.IsGlobName n) : globParent ⟨n⟩ = ⟨[Path.dot]⟩ := by
  rw [globParent, glob.isEntryName.parent?_self]

theorem tidy_current : Path.Tidy ⟨[Path.dot]⟩ := ⟨by decide, by decide, by decide⟩

/-- A glob without a directory looks where one in the current directory does. -/
theorem files_bare (glob : Path.IsGlobName n) (notDirectory : fs.isDirectory ⟨n⟩ = false)
    (notDirectory' : fs.isDirectory (Path.join ⟨[Path.dot]⟩ n) = false) :
    (files fs ⟨n⟩).result = (files fs (Path.join ⟨[Path.dot]⟩ n)).result := by
  have hname : globName ⟨n⟩ = globName (Path.join ⟨[Path.dot]⟩ n) := by
    rw [globName, globName, glob.isEntryName.fileName?_self,
      Path.fileName?_join _ glob.isEntryName]
  have hparent : globParent ⟨n⟩ = globParent (Path.join ⟨[Path.dot]⟩ n) := by
    rw [globParent_bare glob, globParent_join tidy_current glob]
  rw [files, notDirectory, if_neg Bool.false_ne_true,
    if_pos (glob.contains_display (List.Subset.refl n)), files, notDirectory',
    if_neg Bool.false_ne_true, if_pos (glob.contains_display (subset_join _ n)), globFiles,
    globFiles, hname, hparent]
  split
  · rfl
  · rfl

theorem resolve_result (r : Reference) :
    (r.resolve fs).result = (files fs r.path).result.bind (leaves fs r) := by
  rw [Reference.resolve]
  cases (files fs r.path).result with
  | error e => rfl
  | ok paths => rfl

theorem isMatch_wildcard {name : Text}
    (compiled : Pattern.Glob.compile [Pattern.Glob.wildcard] = .ok rx) (noFeed : '\n' ∉ name) :
    rx.isMatch name = true := by
  have hcompile : Pattern.Glob.compile [Pattern.Glob.wildcard] =
      .ok (Pattern.Branches.finish ⟨[], Pattern.Glob.piecesOf [Pattern.Glob.wildcard]⟩).value := rfl
  obtain rfl := Except.ok.inj (hcompile.symm.trans compiled)
  have covers := Pattern.Glob.Covers.cons (.many noFeed) .nil
  rw [List.append_nil] at covers
  exact Pattern.Glob.isMatch_piecesOf_iff.mpr covers

theorem Lists.nodup_paths (tree : Lists fs p t) : (t.paths p).Nodup :=
  tree.paths_increasing.imp fun hlt heq => absurd (congrArg Path.components heq) hlt.ne

/-- The asterisk alone selects every file whose name is on one line. -/
theorem Lists.filter_wildcard (tree : Lists fs d (.directory children))
    (compiled : Pattern.Glob.compile [Pattern.Glob.wildcard] = .ok rx)
    (noFeed : ∀ q base, Reaches fs d q → q.fileName? = some base →
      '\n' ∉ Text.decodeLossy base) :
    ((FileTree.directory children).paths d).filter (matchesName rx) =
      (FileTree.directory children).paths d := by
  refine List.filter_eq_self.mpr fun q hq => ?_
  obtain ⟨base, hbase⟩ := tree.fileName_of_mem hq
  have hfeed := noFeed q base ((tree.mem_paths_iff q).mp hq) hbase
  exact matchesName_iff.mpr ⟨base, hbase, isMatch_wildcard compiled hfeed⟩

/-- A glob below a directory stands for those files of the directory whose names it matches, each
once and in their order. It needs no other file to be readable, and where the directory can be
expanded the glob gives the same directives for its files. -/
theorem resolve_glob {fs : FileSystem} {d : Path} {n : Bytes} {rx : Pattern.Regex}
    {children : List (Bytes × FileTree)} (tidy : d.Tidy) (glob : Path.IsGlobName n)
    (tree : Lists fs d (.directory children)) (notDirectory : fs.isDirectory (d.join n) = false)
    (compiled : Pattern.Glob.compile (Text.decodeLossy n) = .ok rx) (kind : Kind)
    (subtype : Subtype) :
    let selected := ((FileTree.directory children).paths d).filter (matchesName rx)
    let below : Reference := ⟨kind, subtype, d⟩
    let chosen : Reference := ⟨kind, subtype, d.join n⟩
    ((files fs d).result = .ok ((FileTree.directory children).paths d) ∧
      (files fs (d.join n)).result = .ok selected) ∧
    (∀ q, q ∈ selected ↔ Reaches fs d q ∧
      ∃ base, q.fileName? = some base ∧ rx.isMatch (Text.decodeLossy base) = true) ∧
    (selected.Nodup ∧ selected.Sublist ((FileTree.directory children).paths d)) ∧
    (∀ ds, (below.resolve fs).result = .ok ds →
      (chosen.resolve fs).result = .ok (ds.filter fun x => x.source.any (matchesName rx))) ∧
    ((∀ q ∈ selected, ∃ content, fs.read q = .ok content ∧
        (subtype.isRegistration = true → ∃ marked, Options.extract content = .ok marked)) →
      ∃ ds, (chosen.resolve fs).result = .ok ds ∧
        ds.map Directive.source = selected.map some) ∧
    (n = [Path.star] →
      (∀ q base, Reaches fs d q → q.fileName? = some base → '\n' ∉ Text.decodeLossy base) →
      (chosen.resolve fs).result = (below.resolve fs).result) ∧
    (fs.isDirectory ⟨n⟩ = false → fs.isDirectory (Path.join ⟨[Path.dot]⟩ n) = false →
      (files fs ⟨n⟩).result = (files fs (Path.join ⟨[Path.dot]⟩ n)).result ∧
      (Reference.resolve fs ⟨kind, subtype, ⟨n⟩⟩).result =
        (Reference.resolve fs ⟨kind, subtype, Path.join ⟨[Path.dot]⟩ n⟩).result) := by
  intro selected below chosen
  have hfiles : files fs (d.join n) = ⟨.ok selected, []⟩ :=
    files_of_glob glob (subset_join d n) (Path.fileName?_join d glob.isEntryName)
      (globParent_join tidy glob) notDirectory compiled tree
  have hbelow : (below.resolve fs).result =
      leaves fs below ((FileTree.directory children).paths d) := tree.resolve_eq
  have hchosen : (chosen.resolve fs).result = leaves fs below selected := by
    rw [resolve_result, hfiles]
    exact leaves_path kind subtype _ _ _
  have hwhole : files fs d = ⟨.ok ((FileTree.directory children).paths d), []⟩ := by
    rw [files, if_pos tree.isDirectory, tree.filesBelow_eq]
  have hmem : ∀ q, q ∈ selected ↔ Reaches fs d q ∧
      ∃ base, q.fileName? = some base ∧ rx.isMatch (Text.decodeLossy base) = true := by
    intro q
    rw [List.mem_filter, tree.mem_paths_iff, matchesName_iff]
  refine ⟨⟨congrArg Resolution.result hwhole, congrArg Resolution.result hfiles⟩, hmem,
    ⟨tree.nodup_paths.filter _, List.filter_sublist⟩, ?_, ?_, ?_, ?_⟩
  · intro ds hds
    rw [hbelow] at hds
    rw [hchosen]
    exact leaves_filter (matchesName rx) hds
  · intro readable
    rw [hchosen]
    refine leaves_of_leaf fun file hfile => ?_
    obtain ⟨content, read, marked⟩ := readable file hfile
    exact leaf_of_read read marked
  · rintro rfl noFeed
    have hall : selected = (FileTree.directory children).paths d :=
      tree.filter_wildcard compiled noFeed
    rw [hchosen, hbelow, hall]
  · intro bare current
    have hbare := files_bare glob bare current
    refine ⟨hbare, ?_⟩
    rw [resolve_result, resolve_result, hbare]
    exact congrArg _ (funext (leaves_path kind subtype _ _))

def cabinet : FileSystem :=
  let put (v : Virtual) (path : String) (node : Virtual.Node) : Virtual :=
    v.put (.ofText path.toList) node
  (put (put (put .empty "d/a.sql" (.file (Text.encode "A".toList)))
    "d/x.txt" (.unreadable "denied".toList))
    "d/a/b.sql" (.file (Text.encode "B".toList))).fileSystem

def cabinetTree : List (Bytes × FileTree) :=
  [(Text.encode "a".toList, .directory [(Text.encode "b.sql".toList, .file [])]),
    (Text.encode "a.sql".toList, .file []), (Text.encode "x.txt".toList, .file [])]

theorem cabinet_lists : Lists cabinet (.ofText "d".toList) (.directory cabinetTree) := by
  have inner : Lists cabinet (.ofText "d/a".toList)
      (.directory [(Text.encode "b.sql".toList, .file [])]) := by
    refine .directory rfl rfl (.refl _) (by decide) (by decide) ?_
    rintro _ (_ | ⟨_, ⟨⟩⟩)
    exact .file rfl
  refine .directory rfl rfl (.cons _ (.swap _ _ [])) (by decide) (by decide) ?_
  rintro _ (_ | ⟨_, _ | ⟨_, _ | ⟨_, ⟨⟩⟩⟩⟩)
  · exact inner
  · exact .file rfl
  · exact .file rfl

/-- The directory cannot be expanded, but the glob does not select the file that is to blame. -/
theorem resolve_glob_cabinet :
    (Reference.resolve cabinet ⟨.sql, .report, .ofText "d".toList⟩).result =
        .error (.unreadable (.ofText "d/x.txt".toList) "denied".toList) ∧
      ∃ ds, (Reference.resolve cabinet ⟨.sql, .report, .ofText "d/*.sql".toList⟩).result = .ok ds ∧
        ds.map Directive.source =
          ["d/a/b.sql", "d/a.sql"].map fun path => some (.ofText path.toList) := by
  have tidy : (Path.ofText "d".toList).Tidy := ⟨by decide, by decide, by decide⟩
  have glob : Path.IsGlobName (Text.encode "*.sql".toList) := ⟨by decide, by decide⟩
  obtain ⟨rx, compiled⟩ : ∃ rx, Pattern.Glob.compile
      (Text.decodeLossy (Text.encode "*.sql".toList)) = .ok rx := ⟨_, rfl⟩
  have selection : (Pattern.Glob.compile (Text.decodeLossy (Text.encode "*.sql".toList))).map
      (fun rx => ((FileTree.directory cabinetTree).paths (.ofText "d".toList)).filter
        (matchesName rx)) =
      .ok (["d/a/b.sql", "d/a.sql"].map fun path => .ofText path.toList) := by
    decide
  rw [compiled] at selection
  have hselected : ((FileTree.directory cabinetTree).paths (.ofText "d".toList)).filter
      (matchesName rx) = ["d/a/b.sql", "d/a.sql"].map fun path => .ofText path.toList :=
    Except.ok.inj selection
  obtain ⟨-, -, -, -, succeeds, -, -⟩ :=
    resolve_glob tidy glob cabinet_lists rfl compiled .sql .report
  refine ⟨cabinet_lists.resolve_eq.trans rfl, ?_⟩
  rw [hselected, List.map_map] at succeeds
  refine succeeds ?_
  rintro _ (_ | ⟨_, _ | ⟨_, ⟨⟩⟩⟩)
  · exact ⟨"B".toList, rfl, fun _ => ⟨_, rfl⟩⟩
  · exact ⟨"A".toList, rfl, fun _ => ⟨_, rfl⟩⟩

end Resolution

end Runbook
