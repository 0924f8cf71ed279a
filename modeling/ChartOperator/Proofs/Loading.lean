import ChartOperator.Chart.Loader
import ChartOperator.Proofs.Except
import ChartOperator.Proofs.Walk

/-!
# The parts of a loaded chart

A chart is loaded exactly when each of its parts is, and then it consists of these parts.  The files
come from the visits of a walk without faults, each read from its own path.
-/

namespace ChartOperator

namespace Chart

variable {tree : FileTree} {root : Path}

/-- What an entry of the directory of charts contributes to the charts inside a chart. -/
def loadEntry (tree : FileTree) (root : Path) (name : Bytes) : Except ChartError (Option Chart) :=
  let path := subchartPath root name
  if tree.isDirectory path then some <$> load tree path
  else if isPackage name then .error (.packagedSubchart path)
  else .ok none

/-- The parts of a chart that is loaded. -/
structure Loaded (tree : FileTree) (root : Path) (chart : Chart) (entries : List (Option Chart)) :
    Prop where
  isDirectory : tree.isDirectory root = true
  metadata : readMetadata tree root = .ok chart.metadata
  values : readValues tree root = .ok chart.values
  content : readFiles tree root = .ok (chart.templates, chart.files)
  inner : (subchartNames tree root).mapM (loadEntry tree root) = .ok entries
  subcharts : chart.subcharts = entries.reduceOption
  source : chart.source = root

theorem load_of_directory {here : FileTree.Location}
    (reached : tree.resolve root = .ok (.directory here)) :
    load tree root = (do
      let metadata ← readMetadata tree root
      let values ← readValues tree root
      let (templates, files) ← readFiles tree root
      let subcharts ← (subchartNames tree root).mapM (loadEntry tree root)
      .ok ⟨metadata, values, templates, files, subcharts.reduceOption, root⟩) := by
  rw [load]
  split
  · simp_all
  · simp_all
  · simp_all
  · rw [List.mapM_subtype (g := loadEntry tree root), List.unattach_attach]
    intro name mem
    rfl

/-- A chart is loaded exactly when all of its parts are. -/
theorem load_eq_ok_iff {chart : Chart} :
    load tree root = .ok chart ↔ ∃ entries, Loaded tree root chart entries := by
  by_cases isDirectory : tree.isDirectory root = true
  · obtain ⟨here, reached⟩ := FileTree.isDirectory_iff.mp isDirectory
    rw [load_of_directory reached]
    simp only [bind_eq_ok_iff, Except.ok.injEq]
    constructor
    · rintro ⟨metadata, readMetadata, values, readValues, ⟨templates, files⟩, readFiles, entries,
        loaded, rfl⟩
      exact ⟨entries, isDirectory, readMetadata, readValues, readFiles, loaded, rfl, rfl⟩
    · rintro ⟨entries, loaded⟩
      refine ⟨_, loaded.metadata, _, loaded.values, _, loaded.content, entries, loaded.inner, ?_⟩
      rw [← loaded.subcharts, ← loaded.source]
      cases chart
      rfl
  · constructor
    · intro loaded
      rw [load] at loaded
      split at loaded
      · contradiction
      · contradiction
      · contradiction
      · rename_i here reached
        exact absurd (FileTree.isDirectory_iff.mpr ⟨here, reached⟩) isDirectory
    · rintro ⟨entries, loaded⟩
      exact absurd loaded.isDirectory isDirectory

/-! ## Files -/

/-- Whether a file of a chart is the one at a path below the directory of the chart. -/
structure IsFileAt (tree : FileTree) (root : Path) (names : List Bytes) (file : ChartFile) :
    Prop where
  name : file.name = ChartFile.relativeName names
  data : tree.readBytes (pathOf root names) = .ok file.data

/-- Whether the names on the way to a file are those of one of the chart's own files. -/
def isOwn (names : List Bytes) : Bool :=
  ownFiles.any (names == [·])

/-- Files are collected only from a walk without faults, and then every visited file is, except for
the chart's own ones. -/
theorem collect_eq_ok {visits : List FileTree.Visit} {files : List Collected}
    (collected : collect tree root visits = .ok files) :
    .fault ∉ visits ∧
      files.map (·.names) =
        (visits.filterMap FileTree.Visit.names?).filter (fun names => !isOwn names) ∧
      ∀ file ∈ files, IsFileAt tree root file.names file.file := by
  induction visits generalizing files with
  | nil =>
      obtain rfl : files = [] := by simpa [collect] using collected.symm
      simp
  | cons visit rest ih =>
      cases visit with
      | fault => simp [collect] at collected
      | file names =>
          unfold collect at collected
          split at collected
          · rename_i own
            obtain ⟨noFault, mapped, readAll⟩ := ih collected
            have ownName : isOwn names = true := own
            refine ⟨by simpa using noFault, ?_, readAll⟩
            simp [FileTree.Visit.names?, ownName, mapped]
          · rename_i other
            have otherName : isOwn names = false := by simpa [isOwn] using other
            split at collected
            · contradiction
            · rename_i data read
              split at collected
              · contradiction
              · rename_i others restCollected
                obtain ⟨noFault, mapped, readAll⟩ := ih restCollected
                obtain rfl := Except.ok.inj collected
                refine ⟨by simpa using noFault,
                  by simp [FileTree.Visit.names?, otherName, mapped], ?_⟩
                intro file mem
                rcases List.mem_cons.mp mem with rfl | mem
                · exact ⟨rfl, read⟩
                · exact readAll file mem

end Chart

end ChartOperator
