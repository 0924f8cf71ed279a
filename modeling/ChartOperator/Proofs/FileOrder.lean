import ChartOperator.Proofs.ChartTree
import ChartOperator.Proofs.Encoding
import ChartOperator.Proofs.Listings

/-!
# The order of chart files

The templates of a loaded chart, and its other files, are in ascending order of the paths to them,
name by name and byte by byte; so are those of the charts inside it.  Only the entries of the
directories matter, and not the order in which they are listed.  As long as all names are texts, no
two files of a chart have one name.
-/

namespace ChartOperator

namespace FileTree

/-- The order of names is the lexicographic one of their bytes. -/
theorem nameLt_iff_lt {first second : Bytes} : nameLt first second = true ↔ first < second := by
  induction first generalizing second with
  | nil => cases second <;> simp [nameLt]
  | cons a as ih =>
      cases second with
      | nil => simp [nameLt]
      | cons b bs => simp [nameLt, List.cons_lt_cons_iff, ih]

/-- The order of paths is the lexicographic one of their names. -/
theorem pathLt_iff_lt {first second : List Bytes} : PathLt first second ↔ first < second := by
  have order : (fun a b : Bytes => nameLt a b = true) = (· < ·) := by
    funext a b
    exact propext nameLt_iff_lt
  rw [PathLt, order]
  rfl

end FileTree

namespace Chart

variable {tree : FileTree} {root : Path}

/-- Whether the templates and the other files of a chart are those at some paths of its content, in
ascending order: the first name in which two paths differ decides, and in these names the first
byte. -/
structure InOrder (tree : FileTree) (root : Path) (rules : IgnoreRules) (chart : Chart)
    (templatePaths filePaths : List (List Bytes)) : Prop where
  templates : List.Forall₂ (IsFileAt tree root) templatePaths chart.templates
  files : List.Forall₂ (IsFileAt tree root) filePaths chart.files
  templatesAscending : templatePaths.Pairwise (· < ·)
  filesAscending : filePaths.Pairwise (· < ·)
  isTemplate : ∀ names, names ∈ templatePaths ↔
    (IsBelow tree root names ∧ InContent tree root rules names) ∧
      names.head? = some templatesName
  isFile : ∀ names, names ∈ filePaths ↔
    (IsBelow tree root names ∧ InContent tree root rules names) ∧
      names.head? ≠ some templatesName

/-- The files of a loaded chart are collected in ascending order. -/
theorem exists_inOrder_of_load {chart : Chart} (loaded : load tree root = .ok chart) :
    ∃ rules templatePaths filePaths, readIgnoreRules tree root = .ok rules ∧
      InOrder tree root rules chart templatePaths filePaths := by
  obtain ⟨entries, parts⟩ := load_eq_ok_iff.mp loaded
  have content := parts.content
  simp only [readFiles, bind_eq_ok_iff, Except.ok.injEq, Prod.mk.injEq] at content
  obtain ⟨rules, readRules, collected, found, templates, others⟩ := content
  have holds := holds_of_collect found templates.symm others.symm
  have ascending : (collected.map (·.names)).Pairwise (· < ·) := by
    have visited : ((tree.visits (keeps rules) [] root []).filterMap
        FileTree.Visit.names?).Pairwise FileTree.PathLt := FileTree.pairwise_visited _ _ _ _
    rw [(collect_eq_ok found).2.1]
    exact (visited.imp FileTree.pathLt_iff_lt.mp).filter _
  refine ⟨rules, _, _, readRules, holds.templates, holds.files, ascending.filter _,
    ascending.filter _, fun names => ?_, fun names => ?_⟩
  · rw [List.mem_filter, mem_collected_iff parts.isDirectory found, beq_iff_eq]
  · rw [List.mem_filter, mem_collected_iff parts.isDirectory found, Bool.not_eq_true',
      beq_eq_false_iff_ne]

theorem map_name_of_forall₂ {paths : List (List Bytes)} {files : List ChartFile}
    (found : List.Forall₂ (IsFileAt tree root) paths files) :
    files.map (·.name) = paths.map ChartFile.relativeName := by
  induction found with
  | nil => rfl
  | cons first _ ih => rw [List.map_cons, List.map_cons, first.name, ih]

theorem nodup_of_ascending {paths : List (List Bytes)} (ascending : paths.Pairwise (· < ·)) :
    paths.Nodup := by
  refine ascending.imp ?_
  rintro first second less rfl
  exact FileTree.not_pathLt_self first (FileTree.pathLt_iff_lt.mpr less)

/-- Files at different paths have different names, if all names on the way to them are texts. -/
theorem InOrder.nodup_names {rules : IgnoreRules} {chart : Chart}
    {templatePaths filePaths : List (List Bytes)}
    (inOrder : InOrder tree root rules chart templatePaths filePaths)
    (text : ∀ names ∈ templatePaths ++ filePaths, ∀ name ∈ names, Utf8.IsText name) :
    ((chart.templates ++ chart.files).map (·.name)).Nodup := by
  have apart : templatePaths.Disjoint filePaths := by
    intro names template other
    exact ((inOrder.isFile names).mp other).2 ((inOrder.isTemplate names).mp template).2
  have once : (templatePaths ++ filePaths).Nodup :=
    (nodup_of_ascending inOrder.templatesAscending).append
      (nodup_of_ascending inOrder.filesAscending) apart
  have textPath : ∀ names ∈ templatePaths ++ filePaths, IsTextPath names := by
    intro names mem
    have below : IsBelow tree root names := by
      rcases List.mem_append.mp mem with template | other
      · exact ((inOrder.isTemplate names).mp template).1.1
      · exact ((inOrder.isFile names).mp other).1.1
    exact ⟨below.nonempty, below.named, text names mem⟩
  rw [List.map_append, map_name_of_forall₂ inOrder.templates, map_name_of_forall₂ inOrder.files,
    ← List.map_append]
  exact once.map_on fun names mem others otherMem same =>
    eq_of_relativeName_eq (textPath names mem) (textPath others otherMem) same

/-! ## Loaded charts -/

/-- The files of a loaded chart, and of every chart inside it, are in ascending order of their
paths, with different names if all names on the paths are texts; and the chart does not depend on
the order in which directories are listed. -/
theorem load_order {chart : Chart} (loaded : load tree root = .ok chart) :
    (∀ inner, Contains chart inner → ∃ rules templatePaths filePaths,
      readIgnoreRules tree inner.source = .ok rules ∧
        InOrder tree inner.source rules inner templatePaths filePaths ∧
        ((∀ names ∈ templatePaths ++ filePaths, ∀ name ∈ names, Utf8.IsText name) →
          ((inner.templates ++ inner.files).map (·.name)).Nodup)) ∧
      ∀ other, FileTree.IsReordered tree other → load other root = .ok chart := by
  constructor
  · intro inner contained
    obtain ⟨innerLoaded, -⟩ := load_of_contains contained loaded
    obtain ⟨rules, templatePaths, filePaths, readRules, inOrder⟩ :=
      exists_inOrder_of_load innerLoaded
    exact ⟨rules, templatePaths, filePaths, readRules, inOrder, inOrder.nodup_names⟩
  · intro other reordered
    rw [← load_congr reordered, loaded]

/-- A chart in the working directory with a file and a directory whose names start alike. -/
def workingTree : FileTree :=
  let file (text : String) : FileEntry := .file (Utf8.ofString text)
  let entry (name : String) (entry : FileEntry) : Bytes × FileEntry := (Utf8.ofString name, entry)
  ⟨[entry "a.txt" (file "after the directory"),
    entry "templates" (.directory [entry "service.yaml" (file "kind: Service\n")]),
    entry "a" (.directory [entry "b" (file "before the file")]),
    entry "Chart.yaml" (file "name: app\nversion: 1.0.0\n")]⟩

theorem distinct_workingTree (here : FileTree.Location) :
    ((workingTree.listing here).map (·.1)).Nodup := by
  have single : ∀ (name content : Bytes) (names : List Bytes),
      ((FileTree.entriesAt [(name, .file content)] names).map (·.1)).Nodup := by
    intro name content names
    exact FileTree.nodup_entriesAt (by simp) (by simp) names
  refine FileTree.nodup_entriesAt (by decide +kernel) ?_ here.names
  intro name inner mem
  simp only [workingTree, List.mem_cons, Prod.mk.injEq, FileEntry.directory.injEq, reduceCtorEq,
    and_false, List.not_mem_nil, or_false, false_or] at mem
  rcases mem with ⟨-, rfl⟩ | ⟨-, rfl⟩
  · exact single _ _
  · exact single _ _

/-- The chart in the working directory is loaded with its files in order, also when the entries are
listed the other way round. -/
theorem load_order_workingTree :
    ∃ chart, load workingTree (Path.ofString ".") = .ok chart ∧
      chart.files.map (·.name) = ["a/b", "a.txt"] ∧
      load ⟨workingTree.entries.reverse⟩ (Path.ofString ".") = .ok chart ∧
      ∀ inner, Contains chart inner → ∃ rules templatePaths filePaths,
        readIgnoreRules workingTree inner.source = .ok rules ∧
          InOrder workingTree inner.source rules inner templatePaths filePaths ∧
          ((∀ names ∈ templatePaths ++ filePaths, ∀ name ∈ names, Utf8.IsText name) →
            ((inner.templates ++ inner.files).map (·.name)).Nodup) := by
  obtain ⟨chart, loaded⟩ : ∃ chart, load workingTree (Path.ofString ".") = .ok chart :=
    exists_eq_ok_of_isOk (by decide +kernel)
  have names : (load workingTree (Path.ofString ".")).toOption.map
      (fun chart => chart.files.map (·.name)) = some ["a/b", "a.txt"] := by
    decide +kernel
  rw [loaded] at names
  obtain ⟨inOrder, canonical⟩ := load_order loaded
  exact ⟨chart, loaded, Option.some.inj names, canonical _ (FileTree.isReordered_of_perm
    distinct_workingTree (List.reverse_perm _).symm), inOrder⟩

end Chart

end ChartOperator
