import ChartOperator.Proofs.Content
import ChartOperator.Proofs.Lists
import ChartOperator.Proofs.Names
import ChartOperator.Proofs.Text
import Mathlib.Data.List.ReduceOption

/-!
# The tree of charts

A loaded chart is well-formed, and so is every chart inside it at any depth: each of them has valid
metadata, sorts its files by where they are, and has one inner chart for each directory in its
directory of charts, which is what is loaded from there.  A single chart at any depth that cannot be
loaded, or that is packaged, spoils the whole tree.
-/

namespace ChartOperator

/-! ## Metadata -/

namespace ChartMetadata

/-- What holds of the metadata of every loaded chart. -/
structure IsValid (metadata : ChartMetadata) : Prop where
  apiVersion : metadata.apiVersion = "v1" ∨ metadata.apiVersion = "v2"
  name : Text.trim metadata.name ≠ ""
  version : Text.trim metadata.version ≠ ""
  chartType : metadata.chartType = none ∨ metadata.chartType = some "application" ∨
    metadata.chartType = some "library"

theorem fault?_eq_none_iff {metadata : ChartMetadata} :
    metadata.fault? = none ↔ metadata.IsValid := by
  unfold fault?
  constructor
  · intro sound
    split at sound
    · cases sound
    · rename_i known
      split at sound
      · cases sound
      · rename_i named
        split at sound
        · cases sound
        · rename_i versioned
          rw [← Text.trim_eq_empty_iff] at named versioned
          refine ⟨by simpa [or_iff_not_imp_left] using known, named, versioned, ?_⟩
          split at sound
          · exact Or.inl ‹_›
          · rename_i text typed
            split at sound
            · rename_i allowed
              rw [typed]
              exact Or.inr (by simpa using allowed)
            · cases sound
  · rintro ⟨known, named, versioned, typed⟩
    rw [ne_eq, Text.trim_eq_empty_iff] at named versioned
    rw [if_neg (by simpa [or_iff_not_imp_left] using known), if_neg named, if_neg versioned]
    rcases typed with absent | application | library
    · rw [absent]
    · rw [application]
      rfl
    · rw [library]
      rfl

theorem check_eq_ok_iff {metadata checked : ChartMetadata} :
    metadata.check = .ok checked ↔
      checked = metadata.withApiVersion ∧ metadata.withApiVersion.IsValid := by
  rw [← fault?_eq_none_iff, check]
  split
  · rename_i fault found
    simp [found]
  · rename_i sound
    rw [Except.ok.injEq, eq_comm]
    exact (and_iff_left sound).symm

end ChartMetadata

namespace Chart

variable {tree : FileTree} {root : Path}

/-- Whether metadata are those that are written in the description of a chart. -/
def IsWritten (tree : FileTree) (root : Path) (written : ChartMetadata) : Prop :=
  ∃ content, tree.readText (root.joinName "Chart.yaml") = .ok content ∧
    Yaml.decodeText decodeMetadata content = .ok written

theorem isFile_of_readText {path : Path} {content : String}
    (read : tree.readText path = .ok content) : tree.isFile path = true := by
  unfold FileTree.readText at read
  split at read
  · cases read
  · rename_i bytes found
    exact FileTree.isFile_iff.mpr ⟨bytes, FileTree.readBytes_eq_ok_iff.mp found⟩

/-- The metadata of a chart are the written ones, a blank API version apart, if they are valid. -/
theorem readMetadata_eq_ok_iff {metadata : ChartMetadata} :
    readMetadata tree root = .ok metadata ↔
      ∃ written, IsWritten tree root written ∧ metadata = written.withApiVersion ∧
        metadata.IsValid := by
  unfold readMetadata IsWritten
  dsimp only
  cases text : tree.readText (root.joinName "Chart.yaml") with
  | error e =>
      cases tree.isFile (root.joinName "Chart.yaml") with
      | false => simp
      | true => simp
  | ok content =>
      rw [isFile_of_readText text]
      cases decoded : Yaml.decodeText decodeMetadata content with
      | error e => simp [decoded]
      | ok written =>
          have checked : written.check = .ok metadata ↔
              metadata = written.withApiVersion ∧ metadata.IsValid := by
            rw [ChartMetadata.check_eq_ok_iff]
            refine and_congr_right ?_
            rintro rfl
            exact Iff.rfl
          simp [decoded, mapError_eq_ok_iff, checked]

/-! ## Files -/

/-- Whether a file is one at a path of the content of a chart, as a template or not. -/
def IsContentFile (tree : FileTree) (root : Path) (isTemplate : Bool) (file : ChartFile) : Prop :=
  ∃ rules names, IsBelow tree root names ∧ InContent tree root rules names ∧
    file.name = ChartFile.relativeName names ∧
      (names.head? == some templatesName) = isTemplate

/-- The files that are sorted out from the collected ones are those at some paths. -/
theorem isContentFile_of_collect {rules : IgnoreRules} {collected : List Collected}
    {choose : Collected → Bool} {isTemplate : Bool} {file : ChartFile}
    (isDirectory : tree.isDirectory root = true)
    (found : collect tree root (tree.visits (keeps rules) [] root []) = .ok collected)
    (chosen : ∀ entry, choose entry = true → entry.isTemplate = isTemplate)
    (mem : file ∈ (collected.filter choose).map (·.file)) :
    IsContentFile tree root isTemplate file := by
  obtain ⟨entry, entryChosen, rfl⟩ := List.mem_map.mp mem
  obtain ⟨entryMem, isChosen⟩ := List.mem_filter.mp entryChosen
  obtain ⟨below, inContent⟩ :=
    (mem_collected_iff isDirectory found).mp (List.mem_map_of_mem entryMem)
  exact ⟨rules, entry.names, below, inContent, ((collect_eq_ok found).2.2 entry entryMem).name,
    chosen entry isChosen⟩

/-- The files of a loaded chart are those at some paths of its content. -/
theorem isContentFile_of_readFiles {templates files : List ChartFile}
    (isDirectory : tree.isDirectory root = true)
    (content : readFiles tree root = .ok (templates, files)) :
    (∀ file ∈ templates, IsContentFile tree root true file) ∧
      ∀ file ∈ files, IsContentFile tree root false file := by
  simp only [readFiles, bind_eq_ok_iff, Except.ok.injEq, Prod.mk.injEq] at content
  obtain ⟨rules, -, collected, found, rfl, rfl⟩ := content
  constructor
  · intro file mem
    exact isContentFile_of_collect isDirectory found (fun _ isTemplate => isTemplate) mem
  · intro file mem
    exact isContentFile_of_collect isDirectory found (by simp) mem

theorem isAtOrBelow_of_isContentFile {isTemplate : Bool} {file : ChartFile}
    (inContent : IsContentFile tree root isTemplate file) :
    IsAtOrBelow "templates" file.name ↔ isTemplate = true := by
  obtain ⟨rules, names, below, -, named, first⟩ := inContent
  rw [named, isAtOrBelow_relativeName_iff (by decide +kernel) below.named below.nonempty, ← first,
    beq_iff_eq]
  rfl

/-- No file of the content of a chart has the name of one of the chart's own files, or of anything
in the directory of charts. -/
theorem name_of_isContentFile {isTemplate : Bool} {file : ChartFile}
    (isContentFile : IsContentFile tree root isTemplate file) :
    file.name ∉ ["Chart.yaml", "values.yaml", ".helmignore"] ∧
      ¬ IsAtOrBelow "charts" file.name := by
  obtain ⟨rules, names, below, inContent, named, -⟩ := isContentFile
  rw [named]
  constructor
  · intro own
    have words : ∀ word ∈ ["Chart.yaml", "values.yaml", ".helmignore"], IsWord word := by
      decide +kernel
    have only := (relativeName_eq_iff (words _ own) below.named below.nonempty).mp rfl
    exact inContent.notOwn _ (List.mem_map_of_mem own) only
  · rw [isAtOrBelow_relativeName_iff (by decide +kernel) below.named below.nonempty]
    exact inContent.outside

/-! ## Inner charts -/

/-- Whether a directory has an entry with a name. -/
def HasEntry (tree : FileTree) (directory : Path) (name : Bytes) : Prop :=
  ∃ here, tree.resolve directory = .ok (.directory here) ∧ FileTree.isName name = true ∧
    ∃ entry, (tree.listing here).lookup name = some entry

/-- The names in the directory of charts that lead to directories. -/
def innerNames (tree : FileTree) (root : Path) : List Bytes :=
  (subchartNames tree root).filter fun name => tree.isDirectory (subchartPath root name)

theorem mem_subchartNames_iff {name : Bytes} :
    name ∈ subchartNames tree root ↔ HasEntry tree (root.join subchartsName) name := by
  unfold subchartNames HasEntry
  split
  · rename_i here reached
    simp [reached, FileTree.mem_names_iff]
  · rename_i nowhere
    constructor
    · intro mem
      cases mem
    · rintro ⟨here, reached, -⟩
      exact absurd reached (nowhere here)

theorem pairwise_subchartNames (tree : FileTree) (root : Path) :
    (subchartNames tree root).Pairwise fun a b => FileTree.nameLt a b = true := by
  unfold subchartNames
  split
  · exact FileTree.pairwise_names _
  · exact List.Pairwise.nil

theorem mem_innerNames_iff {name : Bytes} :
    name ∈ innerNames tree root ↔
      HasEntry tree (root.join subchartsName) name ∧
        tree.isDirectory (subchartPath root name) = true := by
  rw [innerNames, List.mem_filter, mem_subchartNames_iff]

/-- An entry is passed over, unless it is a directory or a packaged chart. -/
theorem loadEntry_eq_ok_iff {name : Bytes} {loaded : Option Chart} :
    loadEntry tree root name = .ok loaded ↔
      if tree.isDirectory (subchartPath root name) then
        ∃ inner, load tree (subchartPath root name) = .ok inner ∧ loaded = some inner
      else isPackage name = false ∧ loaded = none := by
  unfold loadEntry
  dsimp only
  split
  · cases load tree (subchartPath root name) with
    | error e => simp
    | ok inner => simp [eq_comm]
  · split
    · rename_i packaged
      simp [packaged]
    · rename_i other
      simp [other, eq_comm]

/-- The inner charts are loaded from the directories among the entries, in their order, and no other
entry is a packaged chart. -/
theorem forall₂_load_of_mapM {names : List Bytes} {entries : List (Option Chart)}
    (loaded : names.mapM (loadEntry tree root) = .ok entries) :
    List.Forall₂ (fun name inner => load tree (subchartPath root name) = .ok inner)
        (names.filter fun name => tree.isDirectory (subchartPath root name))
        entries.reduceOption ∧
      ∀ name ∈ names, tree.isDirectory (subchartPath root name) = false →
        isPackage name = false := by
  induction names generalizing entries with
  | nil =>
      cases loaded
      exact ⟨List.Forall₂.nil, by simp⟩
  | cons name rest ih =>
      simp only [List.mapM_cons, bind_eq_ok_iff] at loaded
      obtain ⟨entry, first, others, restLoaded, same⟩ := loaded
      cases same
      obtain ⟨matched, unpacked⟩ := ih restLoaded
      rw [loadEntry_eq_ok_iff] at first
      split at first
      · rename_i isDirectory
        obtain ⟨inner, innerLoaded, rfl⟩ := first
        rw [List.filter_cons, if_pos isDirectory, List.reduceOption_cons_of_some]
        refine ⟨List.Forall₂.cons innerLoaded matched, ?_⟩
        rintro other mem notDirectory
        rcases List.mem_cons.mp mem with rfl | mem
        · rw [isDirectory] at notDirectory
          cases notDirectory
        · exact unpacked other mem notDirectory
      · rename_i notDirectory
        obtain ⟨notPackage, rfl⟩ := first
        rw [List.filter_cons, if_neg notDirectory, List.reduceOption_cons_of_none]
        refine ⟨matched, ?_⟩
        rintro other mem otherNotDirectory
        rcases List.mem_cons.mp mem with rfl | mem
        · exact notPackage
        · exact unpacked other mem otherNotDirectory

/-! ## Well-formed charts -/

/-- What holds of a loaded chart, whether it was asked for or is inside another one. -/
structure WellFormed (tree : FileTree) (chart : Chart) : Prop where
  /-- A blank API version stands for the first one; all else is as it is written. -/
  written : ∃ written, IsWritten tree chart.source written ∧
    chart.metadata = { written with
      apiVersion := if Text.trim written.apiVersion = "" then "v1" else written.apiVersion }
  metadata : chart.metadata.IsValid
  templates : ∀ file ∈ chart.templates, IsAtOrBelow "templates" file.name
  files : ∀ file ∈ chart.files, ¬ IsAtOrBelow "templates" file.name
  notOwn : ∀ file ∈ chart.templates ++ chart.files,
    file.name ∉ ["Chart.yaml", "values.yaml", ".helmignore"]
  outside : ∀ file ∈ chart.templates ++ chart.files, ¬ IsAtOrBelow "charts" file.name
  /-- There is one inner chart for each directory among the entries, in ascending order. -/
  subcharts : ∃ names : List Bytes, names.Pairwise (fun a b => FileTree.nameLt a b = true) ∧
    (∀ name, name ∈ names ↔ HasEntry tree (chart.source.join subchartsName) name ∧
      tree.isDirectory (subchartPath chart.source name) = true) ∧
    List.Forall₂ (fun name inner => load tree (subchartPath chart.source name) = .ok inner ∧
      inner.source = subchartPath chart.source name) names chart.subcharts
  unpacked : ∀ name, HasEntry tree (chart.source.join subchartsName) name →
    tree.isDirectory (subchartPath chart.source name) = false →
      ∀ ending ∈ [".tgz", ".tar.gz"], ¬ Utf8.ofString ending <:+ name

theorem withApiVersion_eq (metadata : ChartMetadata) :
    metadata.withApiVersion = { metadata with
      apiVersion := if Text.trim metadata.apiVersion = "" then "v1" else metadata.apiVersion } := by
  unfold ChartMetadata.withApiVersion
  simp only [Text.trim_eq_empty_iff]
  split
  · rfl
  · rfl

theorem isPackage_eq_false_iff {name : Bytes} :
    isPackage name = false ↔ ∀ ending ∈ [".tgz", ".tar.gz"], ¬ Utf8.ofString ending <:+ name := by
  simp [isPackage, ← Bool.not_eq_true, List.isSuffixOf_iff_suffix]

theorem source_of_load {chart : Chart} (loaded : load tree root = .ok chart) :
    chart.source = root := by
  obtain ⟨entries, parts⟩ := load_eq_ok_iff.mp loaded
  exact parts.source

theorem forall₂_subcharts {chart : Chart} (loaded : load tree root = .ok chart) :
    List.Forall₂ (fun name inner => load tree (subchartPath root name) = .ok inner)
      (innerNames tree root) chart.subcharts := by
  obtain ⟨entries, parts⟩ := load_eq_ok_iff.mp loaded
  rw [parts.subcharts]
  exact (forall₂_load_of_mapM parts.inner).1

theorem wellFormed_of_load {chart : Chart} (loaded : load tree root = .ok chart) :
    WellFormed tree chart := by
  obtain ⟨entries, parts⟩ := load_eq_ok_iff.mp loaded
  obtain rfl := parts.source
  obtain ⟨written, isWritten, same, valid⟩ := readMetadata_eq_ok_iff.mp parts.metadata
  obtain ⟨templates, files⟩ := isContentFile_of_readFiles parts.isDirectory parts.content
  have names : ∀ file ∈ chart.templates ++ chart.files,
      file.name ∉ ["Chart.yaml", "values.yaml", ".helmignore"] ∧
        ¬ IsAtOrBelow "charts" file.name := by
    intro file mem
    rcases List.mem_append.mp mem with mem | mem
    · exact name_of_isContentFile (templates file mem)
    · exact name_of_isContentFile (files file mem)
  constructor
  case written => exact ⟨written, isWritten, by rw [same, withApiVersion_eq]⟩
  case metadata => exact valid
  case templates =>
    intro file mem
    exact (isAtOrBelow_of_isContentFile (templates file mem)).mpr rfl
  case files =>
    intro file mem below
    cases (isAtOrBelow_of_isContentFile (files file mem)).mp below
  case notOwn =>
    intro file mem
    exact (names file mem).1
  case outside =>
    intro file mem
    exact (names file mem).2
  case subcharts =>
    refine ⟨innerNames tree chart.source, (pairwise_subchartNames tree _).filter _,
      fun name => mem_innerNames_iff, (forall₂_subcharts loaded).imp ?_⟩
    intro name inner innerLoaded
    exact ⟨innerLoaded, source_of_load innerLoaded⟩
  case unpacked =>
    intro name entry notDirectory
    rw [← isPackage_eq_false_iff]
    exact (forall₂_load_of_mapM parts.inner).2 name (mem_subchartNames_iff.mpr entry) notDirectory

/-! ## At every depth -/

/-- The charts of which a chart consists: itself and, at every depth, the charts inside it. -/
inductive Contains : Chart → Chart → Prop
  | self (chart : Chart) : Contains chart chart
  | inside {chart inner deep : Chart} (mem : inner ∈ chart.subcharts)
      (contains : Contains inner deep) : Contains chart deep

/-- The directories of charts at and below a directory, links followed. -/
inductive Nested (tree : FileTree) : Path → Path → Prop
  | self (root : Path) : Nested tree root root
  | inside {root path : Path} (name : Bytes)
      (entry : HasEntry tree (root.join subchartsName) name)
      (isDirectory : tree.isDirectory (subchartPath root name) = true)
      (nested : Nested tree (subchartPath root name) path) : Nested tree root path

/-- What keeps a directory from being that of a chart. -/
inductive IsSpoilt (tree : FileTree) (path : Path) : Prop
  | notDirectory (nowhere : tree.isDirectory path = false)
  /-- The chart has no description, or not a valid one. -/
  | metadata (invalid : ∀ written, IsWritten tree path written → ¬ written.withApiVersion.IsValid)
  | values (e : ChartError) (unread : readValues tree path = .error e)
  | files (e : ChartError) (unread : readFiles tree path = .error e)
  /-- There is a packaged chart among its inner charts. -/
  | packaged (name : Bytes) (entry : HasEntry tree (path.join subchartsName) name)
      (notDirectory : tree.isDirectory (subchartPath path name) = false)
      (isPackage : isPackage name = true)

/-- Every chart in a loaded chart is what is loaded from its own directory.  By induction on the
way down: an inner chart is loaded from its entry. -/
theorem load_of_contains {chart inner : Chart} (contains : Contains chart inner)
    (loaded : load tree root = .ok chart) :
    load tree inner.source = .ok inner ∧ Nested tree root inner.source := by
  induction contains generalizing root with
  | self chart =>
      rw [source_of_load loaded]
      exact ⟨loaded, Nested.self root⟩
  | inside mem _ ih =>
      obtain ⟨name, listed, innerLoaded⟩ := exists_left_of_forall₂ (forall₂_subcharts loaded) mem
      obtain ⟨entry, isDirectory⟩ := mem_innerNames_iff.mp listed
      obtain ⟨deepLoaded, nested⟩ := ih innerLoaded
      exact ⟨deepLoaded, Nested.inside name entry isDirectory nested⟩

/-- A loaded chart contains the chart of every directory of charts below its own.  By induction on
the way down: the directory of an entry holds an inner chart. -/
theorem exists_contains_of_nested {path : Path} {chart : Chart} (nested : Nested tree root path)
    (loaded : load tree root = .ok chart) :
    ∃ inner, Contains chart inner ∧ inner.source = path := by
  induction nested generalizing chart with
  | self root => exact ⟨chart, Contains.self chart, source_of_load loaded⟩
  | inside name entry isDirectory _ ih =>
      have listed := mem_innerNames_iff.mpr ⟨entry, isDirectory⟩
      obtain ⟨inner, mem, innerLoaded⟩ :=
        exists_left_of_forall₂ (forall₂_subcharts loaded).flip listed
      obtain ⟨deep, contains, source⟩ := ih innerLoaded
      exact ⟨deep, Contains.inside mem contains, source⟩

theorem not_isSpoilt_of_load {chart : Chart} (loaded : load tree root = .ok chart) :
    ¬ IsSpoilt tree root := by
  obtain ⟨entries, parts⟩ := load_eq_ok_iff.mp loaded
  rintro (nowhere | invalid | ⟨e, unread⟩ | ⟨e, unread⟩ | ⟨name, entry, notDirectory, isPackage⟩)
  · rw [parts.isDirectory] at nowhere
    cases nowhere
  · obtain ⟨written, isWritten, same, valid⟩ := readMetadata_eq_ok_iff.mp parts.metadata
    rw [same] at valid
    exact invalid written isWritten valid
  · rw [parts.values] at unread
    cases unread
  · rw [parts.content] at unread
    cases unread
  · have listed := mem_subchartNames_iff.mpr entry
    rw [(forall₂_load_of_mapM parts.inner).2 name listed notDirectory] at isPackage
    cases isPackage

/-- The parts of a chart in a directory that is not spoilt, apart from its inner charts. -/
theorem exists_loaded_of_not_isSpoilt {entries : List (Option Chart)}
    (sound : ¬ IsSpoilt tree root)
    (inner : (subchartNames tree root).mapM (loadEntry tree root) = .ok entries) :
    ∃ chart, load tree root = .ok chart := by
  have isDirectory : tree.isDirectory root = true := by
    rw [← Bool.not_eq_false]
    intro nowhere
    exact sound (IsSpoilt.notDirectory nowhere)
  obtain ⟨metadata, metadataRead⟩ : ∃ metadata, readMetadata tree root = .ok metadata := by
    by_contra unread
    apply sound
    apply IsSpoilt.metadata
    intro written isWritten valid
    exact unread ⟨_, readMetadata_eq_ok_iff.mpr ⟨written, isWritten, rfl, valid⟩⟩
  cases values : readValues tree root with
  | error e => exact absurd (IsSpoilt.values e values) sound
  | ok valuesRead =>
      cases files : readFiles tree root with
      | error e => exact absurd (IsSpoilt.files e files) sound
      | ok sorted =>
          exact ⟨⟨metadata, valuesRead, sorted.1, sorted.2, entries.reduceOption, root⟩,
            load_eq_ok_iff.mpr
              ⟨entries, isDirectory, metadataRead, values, files, inner, rfl, rfl⟩⟩

/-- If no directory of charts is spoilt, at any depth, the chart is loaded.  By induction on the
length that is left for paths: the path of an inner chart is longer. -/
theorem exists_load_of_not_isSpoilt
    (sound : ∀ path, Nested tree root path → ¬ IsSpoilt tree path) :
    ∃ chart, load tree root = .ok chart := by
  generalize left : FileTree.pathLimit + 1 - root.bytes.length = n
  induction n using Nat.strong_induction_on generalizing root with
  | _ n ih =>
      have here := sound root (Nested.self root)
      have each : ∀ name ∈ subchartNames tree root, ∃ entry,
          loadEntry tree root name = .ok entry := by
        intro name listed
        have entry := mem_subchartNames_iff.mp listed
        by_cases isDirectory : tree.isDirectory (subchartPath root name) = true
        · -- A path that leads somewhere is within the limit, so something is left for longer ones.
          have shorter : FileTree.pathLimit + 1 - (subchartPath root name).bytes.length < n := by
            obtain ⟨place, reached⟩ := FileTree.isDirectory_iff.mp isDirectory
            have limit := FileTree.length_le_of_resolve reached
            have longer :=
              length_lt_length_subchartPath root (ne_nil_of_mem_subchartNames listed)
            omega
          obtain ⟨inner, loaded⟩ := ih _ shorter
            (fun path nested => sound path (Nested.inside name entry isDirectory nested)) rfl
          refine ⟨some inner, ?_⟩
          rw [loadEntry_eq_ok_iff, if_pos isDirectory]
          exact ⟨inner, loaded, rfl⟩
        · have notPackage : isPackage name = false := by
            rw [← Bool.not_eq_true]
            intro isPackage
            exact here (IsSpoilt.packaged name entry (by simpa using isDirectory) isPackage)
          refine ⟨none, ?_⟩
          rw [loadEntry_eq_ok_iff, if_neg isDirectory]
          exact ⟨notPackage, rfl⟩
      obtain ⟨entries, inner⟩ := exists_mapM_eq_ok each
      exact exists_loaded_of_not_isSpoilt here inner

/-- A loaded chart is well-formed at every depth: the charts in it are those of the directories of
charts below its own, each is what is loaded from there, and each is well-formed.  No chart is
loaded exactly if one of these directories is spoilt, however deep it is. -/
theorem load_wellFormed (tree : FileTree) (root : Path) :
    (∀ chart, load tree root = .ok chart →
      chart.source = root ∧
        (∀ path, Nested tree root path ↔ ∃ inner, Contains chart inner ∧ inner.source = path) ∧
          ∀ inner, Contains chart inner →
            load tree inner.source = .ok inner ∧ WellFormed tree inner) ∧
      ((∃ e, load tree root = .error e) ↔ ∃ path, Nested tree root path ∧ IsSpoilt tree path) := by
  constructor
  · intro chart loaded
    refine ⟨source_of_load loaded, fun path => ⟨?_, ?_⟩, ?_⟩
    · intro nested
      exact exists_contains_of_nested nested loaded
    · rintro ⟨inner, contains, rfl⟩
      exact (load_of_contains contains loaded).2
    · intro inner contains
      have innerLoaded := (load_of_contains contains loaded).1
      exact ⟨innerLoaded, wellFormed_of_load innerLoaded⟩
  · constructor
    · rintro ⟨e, failed⟩
      by_contra sound
      have unspoilt : ∀ path, Nested tree root path → ¬ IsSpoilt tree path :=
        fun path nested spoilt => sound ⟨path, nested, spoilt⟩
      obtain ⟨chart, loaded⟩ := exists_load_of_not_isSpoilt unspoilt
      rw [failed] at loaded
      cases loaded
    · rintro ⟨path, nested, spoilt⟩
      cases outcome : load tree root with
      | error e => exact ⟨e, rfl⟩
      | ok chart =>
          exfalso
          obtain ⟨inner, contains, rfl⟩ := exists_contains_of_nested nested outcome
          exact not_isSpoilt_of_load (load_of_contains contains outcome).1 spoilt

/-- A chart with two inner charts, one of them behind a link, and a chart inside one of these, where
some further entries are in its directory of charts. -/
def exampleNest (entries : List (Bytes × FileEntry)) : FileTree :=
  let file (text : String) : FileEntry := .file (Utf8.ofString text)
  let entry (name : String) (entry : FileEntry) : Bytes × FileEntry := (Utf8.ofString name, entry)
  ⟨[entry "shared" (.directory [
      entry "Chart.yaml" (file "apiVersion: v2\nname: shared\nversion: 2.0.0\ntype: library\n")]),
    entry "app" (.directory [
      entry "Chart.yaml" (file "name: app\nversion: 1.0.0\n"),
      entry "templates" (.directory [entry "service.yaml" (file "a template")]),
      entry "charts" (.directory [
        entry "shared" (.link (Path.ofString "../../shared")),
        entry "README.md" (file "a note"),
        entry "cache" (.directory [
          entry "Chart.yaml" (file "name: cache\nversion: 1.0.0\n"),
          entry "charts" (.directory [
            entry "disk" (.directory [
              entry "Chart.yaml" (file "name: disk\nversion: 1.0.0\n"),
              entry "charts" (.directory entries)])])])])])]⟩

/-- The chart of the example is loaded and well-formed at every depth.  With a packaged chart in its
innermost directory of charts it is not loaded. -/
theorem load_wellFormed_exampleNest :
    (∃ chart, load (exampleNest []) (Path.ofString "app") = .ok chart ∧
      chart.source = Path.ofString "app" ∧
        (∀ path, Nested (exampleNest []) (Path.ofString "app") path ↔
          ∃ inner, Contains chart inner ∧ inner.source = path) ∧
          ∀ inner, Contains chart inner →
            load (exampleNest []) inner.source = .ok inner ∧
              WellFormed (exampleNest []) inner) ∧
      ∃ e, load (exampleNest [(Utf8.ofString "old.tgz", .file [])]) (Path.ofString "app") =
        .error e := by
  constructor
  · obtain ⟨chart, loaded⟩ : ∃ chart, load (exampleNest []) (Path.ofString "app") = .ok chart :=
      exists_eq_ok_of_isOk (by decide +kernel)
    exact ⟨chart, loaded, (load_wellFormed _ _).1 chart loaded⟩
  · refine (load_wellFormed _ _).2.mpr
      ⟨Path.ofString "app/charts/cache/charts/disk", ?_, ?_⟩
    · refine Nested.inside (Utf8.ofString "cache")
        (mem_subchartNames_iff.mp (by decide +kernel)) (by decide +kernel) ?_
      refine Nested.inside (Utf8.ofString "disk")
        (mem_subchartNames_iff.mp (by decide +kernel)) (by decide +kernel) ?_
      exact Nested.self _
    · exact IsSpoilt.packaged (Utf8.ofString "old.tgz")
        (mem_subchartNames_iff.mp (by decide +kernel)) (by decide +kernel) (by decide +kernel)

end Chart

end ChartOperator
