import ChartOperator.Proofs.Loading
import Mathlib.Data.List.Forall2

/-!
# The content of a chart

Which files make up a chart: exactly those below its directory that are outside the directory of
charts, are none of the chart's own files, and are left out by no rule, neither themselves nor
through a directory on the way.  Each of them appears once.
-/

namespace ChartOperator

namespace Chart

variable {tree : FileTree} {root : Path}

/-- A path below the directory of a chart that leads somewhere, given by the names on the way. -/
structure IsBelow (tree : FileTree) (root : Path) (names : List Bytes) : Prop where
  nonempty : names ≠ []
  named : ∀ name ∈ names, FileTree.isName name = true
  leads : ∃ target, tree.resolve (pathOf root names) = .ok target

/-- Whether the rules of a chart leave out what is at a path. -/
def isIgnored (tree : FileTree) (root : Path) (rules : IgnoreRules) (names : List Bytes) : Bool :=
  rules.ignores (ChartFile.relativeName names).toList (tree.isDirectory (pathOf root names))

/-- Whether a path below the directory of a chart is one of a file that belongs to the chart. -/
structure InContent (tree : FileTree) (root : Path) (rules : IgnoreRules) (names : List Bytes) :
    Prop where
  isFile : tree.isFile (pathOf root names) = true
  outside : names.head? ≠ some subchartsName
  notOwn : ∀ own ∈ ownFiles, names ≠ [own]
  kept : ∀ start, start ≠ [] → start <+: names → isIgnored tree root rules start = false

/-- Whether the files of a chart are those at some paths, one for each path: templates first, then
the other files. -/
structure Holds (tree : FileTree) (root : Path) (chart : Chart) (paths : List (List Bytes)) :
    Prop where
  once : paths.Nodup
  templates : List.Forall₂ (IsFileAt tree root)
    (paths.filter fun names => names.head? == some templatesName) chart.templates
  files : List.Forall₂ (IsFileAt tree root)
    (paths.filter fun names => !names.head? == some templatesName) chart.files

theorem isOwn_eq_false_iff {names : List Bytes} :
    isOwn names = false ↔ ∀ own ∈ ownFiles, names ≠ [own] := by
  simp [isOwn]

/-- The condition of the walk holds all the way exactly if the way leads around the directory of
charts and past all rules. -/
theorem keepsWay_keeps_iff {rules : IgnoreRules} {names : List Bytes} :
    tree.KeepsWay (keeps rules) root [] names ↔
      names.head? ≠ some subchartsName ∧
        ∀ start, start ≠ [] → start <+: names → isIgnored tree root rules start = false := by
  have kept : ∀ start : List Bytes,
      keeps rules ([] ++ start) (tree.kindAt (start.foldl Path.join root)) = true ↔
        start ≠ [subchartsName] ∧ isIgnored tree root rules start = false := by
    intro start
    have kind : (tree.kindAt (pathOf root start) == .directory) =
        tree.isDirectory (pathOf root start) := by
      unfold FileTree.kindAt
      split <;> simp_all
    change keeps rules start (tree.kindAt (pathOf root start)) = true ↔ _
    simp [keeps, isIgnored, kind]
  constructor
  · intro keepsAll
    refine ⟨fun first => ?_, fun start nonempty before =>
      ((kept start).mp (keepsAll start nonempty before)).2⟩
    obtain ⟨rest, rfl⟩ := List.head?_eq_some_iff.mp first
    exact ((kept [subchartsName]).mp (keepsAll [subchartsName] (by simp) (by simp))).1 rfl
  · rintro ⟨outside, passed⟩ start nonempty before
    refine (kept start).mpr ⟨?_, passed start nonempty before⟩
    rintro rfl
    obtain ⟨rest, rfl⟩ := before
    exact outside rfl

/-- The walk of a chart is to visit exactly the content of the chart, besides its own files. -/
theorem reaches_iff {rules : IgnoreRules} {names : List Bytes} :
    tree.Reaches (keeps rules) root [] names ∧ isOwn names = false ↔
      IsBelow tree root names ∧ InContent tree root rules names := by
  rw [isOwn_eq_false_iff]
  constructor
  · rintro ⟨reaches, notOwn⟩
    obtain ⟨outside, passed⟩ := keepsWay_keeps_iff.mp reaches.kept
    obtain ⟨content, found⟩ := FileTree.isFile_iff.mp reaches.isFile
    exact ⟨⟨reaches.nonempty, reaches.named, _, found⟩,
      ⟨reaches.isFile, outside, notOwn, passed⟩⟩
  · rintro ⟨below, content⟩
    exact ⟨⟨below.nonempty, below.named, content.isFile,
      keepsWay_keeps_iff.mpr ⟨content.outside, content.kept⟩⟩, content.notOwn⟩

/-- The paths of the collected files are those of the content of the chart. -/
theorem mem_collected_iff {rules : IgnoreRules} {files : List Collected} {names : List Bytes}
    (isDirectory : tree.isDirectory root = true)
    (collected : collect tree root (tree.visits (keeps rules) [] root []) = .ok files) :
    names ∈ files.map (·.names) ↔
      IsBelow tree root names ∧ InContent tree root rules names := by
  obtain ⟨noFault, mapped, readAll⟩ := collect_eq_ok collected
  have visited : names ∈ files.map (·.names) ↔
      .file names ∈ tree.visits (keeps rules) [] root [] ∧ isOwn names = false := by
    simp [mapped]
  rw [← reaches_iff]
  constructor
  · intro mem
    obtain ⟨fileVisited, notOwn⟩ := visited.mp mem
    obtain ⟨file, fileMem, rfl⟩ := List.mem_map.mp mem
    obtain ⟨below, same, reaches⟩ := FileTree.exists_of_file_mem_visits fileVisited
    obtain rfl : file.names = below := by simpa using same
    have found := FileTree.readBytes_eq_ok_iff.mp (readAll file fileMem).data
    exact ⟨reaches (FileTree.isFile_iff.mpr ⟨_, found⟩), notOwn⟩
  · rintro ⟨reaches, notOwn⟩
    obtain ⟨here, reached⟩ := FileTree.isDirectory_iff.mp isDirectory
    refine visited.mpr ⟨?_, notOwn⟩
    simpa using FileTree.file_mem_visits (FileTree.bytes_ne_nil_of_resolve reached) noFault reaches

/-- Files sorted out by the names on the way to them are those at the sorted out paths. -/
theorem forall₂_isFileAt_filter {files : List Collected} (choose : List Bytes → Bool)
    (readAll : ∀ file ∈ files, IsFileAt tree root file.names file.file) :
    List.Forall₂ (IsFileAt tree root) ((files.map (·.names)).filter choose)
      ((files.filter fun file => choose file.names).map (·.file)) := by
  rw [List.filter_map, List.forall₂_map_left_iff, List.forall₂_map_right_iff]
  refine List.forall₂_same.mpr fun file mem => ?_
  exact readAll file (List.mem_filter.mp mem).1

theorem holds_of_collect {rules : IgnoreRules} {files : List Collected} {chart : Chart}
    (collected : collect tree root (tree.visits (keeps rules) [] root []) = .ok files)
    (templates : chart.templates = (files.filter (·.isTemplate)).map (·.file))
    (others : chart.files = (files.filter (!·.isTemplate)).map (·.file)) :
    Holds tree root chart (files.map (·.names)) := by
  obtain ⟨-, mapped, readAll⟩ := collect_eq_ok collected
  refine ⟨?_, ?_, ?_⟩
  · rw [mapped]
    refine List.Pairwise.imp ?_ ((FileTree.pairwise_visited (keeps rules) [] root []).filter _)
    rintro first second less rfl
    exact FileTree.not_pathLt_self first less
  · rw [templates]
    exact forall₂_isFileAt_filter _ readAll
  · rw [others]
    exact forall₂_isFileAt_filter _ readAll

/-- A loaded chart consists of the files of its content, each once: the templates are those below
the directory of templates.  What is below a directory that is left out stays out, whatever the
rules say about it. -/
theorem load_content {chart : Chart} (loaded : load tree root = .ok chart) :
    ∃ rules paths, readIgnoreRules tree root = .ok rules ∧ Holds tree root chart paths ∧
      (∀ names, names ∈ paths ↔ IsBelow tree root names ∧ InContent tree root rules names) ∧
      ∀ directory below, directory ≠ [] → isIgnored tree root rules directory = true →
        directory ++ below ∉ paths := by
  obtain ⟨entries, parts⟩ := load_eq_ok_iff.mp loaded
  have content := parts.content
  simp only [readFiles, bind_eq_ok_iff, Except.ok.injEq, Prod.mk.injEq] at content
  obtain ⟨rules, readRules, files, collected, templates, others⟩ := content
  have exact : ∀ names, names ∈ files.map (·.names) ↔
      IsBelow tree root names ∧ InContent tree root rules names :=
    fun _ => mem_collected_iff parts.isDirectory collected
  refine ⟨rules, files.map (·.names), readRules,
    holds_of_collect collected templates.symm others.symm, exact, ?_⟩
  intro directory below nonempty ignored mem
  have kept := ((exact _).mp mem).2.kept directory nonempty (List.prefix_append _ _)
  rw [ignored] at kept
  contradiction

/-- A chart whose rules leave out a directory and bring back files with a name. -/
def exampleTree : FileTree :=
  let file (text : String) : FileEntry := .file (Utf8.ofString text)
  let entry (name : String) (entry : FileEntry) : Bytes × FileEntry := (Utf8.ofString name, entry)
  ⟨[entry "app" (.directory [
    entry "Chart.yaml" (file "name: app\nversion: 1.0.0\n"),
    entry ".helmignore" (file "ci/\n!kept.txt\n"),
    entry "ci" (.directory [entry "kept.txt" (file "left out")]),
    entry "kept.txt" (file "a file"),
    entry "templates" (.directory [entry "linked.yaml" (.link (Path.ofString "../kept.txt"))])])]⟩

/-- The chart of the example is loaded, and so it has exactly its content. -/
theorem load_content_exampleTree :
    ∃ chart, load exampleTree (Path.ofString "app") = .ok chart ∧
      ∃ rules paths, readIgnoreRules exampleTree (Path.ofString "app") = .ok rules ∧
        Holds exampleTree (Path.ofString "app") chart paths ∧
        (∀ names, names ∈ paths ↔
          IsBelow exampleTree (Path.ofString "app") names ∧
            InContent exampleTree (Path.ofString "app") rules names) ∧
        ∀ directory below, directory ≠ [] →
          isIgnored exampleTree (Path.ofString "app") rules directory = true →
            directory ++ below ∉ paths := by
  obtain ⟨chart, loaded⟩ : ∃ chart, load exampleTree (Path.ofString "app") = .ok chart :=
    exists_eq_ok_of_isOk (by decide +kernel)
  exact ⟨chart, loaded, load_content loaded⟩

end Chart

end ChartOperator
