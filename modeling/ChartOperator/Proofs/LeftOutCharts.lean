import ChartOperator.Proofs.ChartTree

/-!
# Inner charts that the rules leave out

The rules of a chart decide which of its files belong to it, but not which charts are inside it:
what they leave out of the directory of charts counts as if they said nothing about it.  The chart
is loaded as it would be if they did decide only where this makes no difference, that is, where they
leave out neither a directory nor a packaged chart.
-/

namespace ChartOperator

namespace Chart

variable {tree : FileTree} {root : Path} {name : Bytes}

/-- Whether the rules of a chart leave out an entry of its directory of charts, alone or with the
whole directory. -/
def leavesOut (tree : FileTree) (root : Path) (name : Bytes) : Bool :=
  match readIgnoreRules tree root with
  | .error _ => false
  | .ok rules =>
      isIgnored tree root rules [subchartsName] || isIgnored tree root rules [subchartsName, name]

/-- What loading the chart in a directory would give if its rules decided about inner charts too: an
entry that they leave out is passed over. -/
def loadGoverned (tree : FileTree) (root : Path) : Except ChartError Chart := do
  let metadata ← readMetadata tree root
  let values ← readValues tree root
  let (templates, files) ← readFiles tree root
  let subcharts ← ((subchartNames tree root).filter fun name => !leavesOut tree root name).mapM
    (loadEntry tree root)
  .ok ⟨metadata, values, templates, files, subcharts.reduceOption, root⟩

/-- Whether an entry of the directory of charts is passed over in any case. -/
def IsPassedOver (tree : FileTree) (root : Path) (name : Bytes) : Prop :=
  tree.isDirectory (subchartPath root name) = false ∧ isPackage name = false

theorem subchartPath_injective (root : Path) : Function.Injective (subchartPath root) := by
  intro first second same
  rw [subchartPath, subchartPath] at same
  generalize root.join subchartsName = charts at same
  unfold Path.join at same
  split at same
  · simpa using same
  · simpa using same

/-- The rest of a chart is loaded together with the entries that are not left out. -/
theorem loadGoverned_eq_ok_iff {chart : Chart} :
    loadGoverned tree root = .ok chart ↔
      ∃ entries, readMetadata tree root = .ok chart.metadata ∧
        readValues tree root = .ok chart.values ∧
        readFiles tree root = .ok (chart.templates, chart.files) ∧
        ((subchartNames tree root).filter fun name => !leavesOut tree root name).mapM
          (loadEntry tree root) = .ok entries ∧
        chart.subcharts = entries.reduceOption ∧ chart.source = root := by
  simp only [loadGoverned, bind_eq_ok_iff, Except.ok.injEq]
  constructor
  · rintro ⟨metadata, metadataRead, values, valuesRead, ⟨templates, files⟩, filesRead, entries,
      loaded, rfl⟩
    exact ⟨entries, metadataRead, valuesRead, filesRead, loaded, rfl, rfl⟩
  · rintro ⟨entries, metadataRead, valuesRead, filesRead, loaded, subcharts, source⟩
    refine ⟨_, metadataRead, _, valuesRead, _, filesRead, entries, loaded, ?_⟩
    rw [← subcharts, ← source]
    cases chart
    rfl

/-- Entries that are passed over in any case may be there or not. -/
theorem exists_mapM_of_filter {names : List Bytes} {keeps : Bytes → Bool}
    {entries : List (Option Chart)}
    (passedOver : ∀ name ∈ names, keeps name = false → IsPassedOver tree root name)
    (loaded : (names.filter keeps).mapM (loadEntry tree root) = .ok entries) :
    ∃ others, names.mapM (loadEntry tree root) = .ok others ∧
      others.reduceOption = entries.reduceOption := by
  induction names generalizing entries with
  | nil => exact ⟨entries, loaded, rfl⟩
  | cons name names ih =>
      obtain ⟨first, rest⟩ := List.forall_mem_cons.mp passedOver
      cases kept : keeps name with
      | false =>
          rw [List.filter_cons_of_neg (by simp [kept])] at loaded
          obtain ⟨others, othersLoaded, same⟩ := ih rest loaded
          have nothing : loadEntry tree root name = .ok none := by
            rw [loadEntry_eq_ok_iff, if_neg (by simp [(first kept).1])]
            exact ⟨(first kept).2, rfl⟩
          refine ⟨none :: others, ?_, same⟩
          rw [List.mapM_cons, nothing, othersLoaded]
          rfl
      | true =>
          rw [List.filter_cons_of_pos kept, List.mapM_cons, bind_eq_ok_iff] at loaded
          obtain ⟨entry, entryLoaded, loaded⟩ := loaded
          obtain ⟨tail, tailLoaded, whole⟩ := bind_eq_ok_iff.mp loaded
          cases whole
          obtain ⟨others, othersLoaded, same⟩ := ih rest tailLoaded
          refine ⟨entry :: others, ?_, ?_⟩
          · rw [List.mapM_cons, entryLoaded, othersLoaded]
            rfl
          · cases entry <;> simp [same]

/-- A directory among the entries is loaded as an inner chart. -/
theorem exists_inner_of_load {chart : Chart} (loaded : load tree root = .ok chart)
    (entry : HasEntry tree (root.join subchartsName) name)
    (isDirectory : tree.isDirectory (subchartPath root name) = true) :
    ∃ inner ∈ chart.subcharts, load tree (subchartPath root name) = .ok inner :=
  exists_left_of_forall₂ (forall₂_subcharts loaded).flip
    (mem_innerNames_iff.mpr ⟨entry, isDirectory⟩)

/-- An inner chart of a chart that is loaded under its rules is no left out one. -/
theorem source_ne_of_loadGoverned {chart inner : Chart}
    (governed : loadGoverned tree root = .ok chart) (mem : inner ∈ chart.subcharts)
    (leftOut : leavesOut tree root name = true) : inner.source ≠ subchartPath root name := by
  obtain ⟨entries, -, -, -, loaded, subcharts, -⟩ := loadGoverned_eq_ok_iff.mp governed
  rw [subcharts] at mem
  obtain ⟨other, listed, innerLoaded⟩ := exists_left_of_forall₂ (forall₂_load_of_mapM loaded).1 mem
  have kept : leavesOut tree root other = false := by
    simpa using (List.mem_filter.mp (List.mem_filter.mp listed).1).2
  rw [source_of_load innerLoaded]
  intro same
  rw [subchartPath_injective root same, leftOut] at kept
  cases kept

/-- No chart is loaded with an entry that cannot be. -/
theorem isSound_of_load {chart : Chart} (loaded : load tree root = .ok chart)
    (entry : HasEntry tree (root.join subchartsName) name) :
    if tree.isDirectory (subchartPath root name) then
      ∃ inner, load tree (subchartPath root name) = .ok inner
    else isPackage name = false := by
  split
  · rename_i isDirectory
    obtain ⟨inner, -, innerLoaded⟩ := exists_inner_of_load loaded entry isDirectory
    exact ⟨inner, innerLoaded⟩
  · rename_i notDirectory
    obtain ⟨entries, parts⟩ := load_eq_ok_iff.mp loaded
    exact (forall₂_load_of_mapM parts.inner).2 name (mem_subchartNames_iff.mpr entry)
      (by simpa using notDirectory)

/-- A chart that would be loaded if the rules decided about inner charts is the loaded chart exactly
if all that is left out is passed over in any case. -/
theorem load_eq_ok_iff_of_loadGoverned {chart : Chart}
    (isDirectory : tree.isDirectory root = true) (governed : loadGoverned tree root = .ok chart) :
    load tree root = .ok chart ↔
      ∀ name, HasEntry tree (root.join subchartsName) name → leavesOut tree root name = true →
        IsPassedOver tree root name := by
  constructor
  · intro loaded name entry leftOut
    have sound := isSound_of_load loaded entry
    split at sound
    · rename_i entryIsDirectory
      obtain ⟨inner, mem, innerLoaded⟩ := exists_inner_of_load loaded entry entryIsDirectory
      exact absurd (source_of_load innerLoaded) (source_ne_of_loadGoverned governed mem leftOut)
    · rename_i notDirectory
      exact ⟨by simpa using notDirectory, sound⟩
  · intro passedOver
    obtain ⟨entries, metadata, values, content, kept, subcharts, source⟩ :=
      loadGoverned_eq_ok_iff.mp governed
    have idle : ∀ name ∈ subchartNames tree root, (!leavesOut tree root name) = false →
        IsPassedOver tree root name := by
      intro name listed leftOut
      exact passedOver name (mem_subchartNames_iff.mp listed) (by simpa using leftOut)
    obtain ⟨others, loaded, same⟩ := exists_mapM_of_filter idle kept
    exact load_eq_ok_iff.mpr
      ⟨others, isDirectory, metadata, values, content, loaded, by rw [subcharts, same], source⟩

/-- The rules of a chart have no influence on the charts inside it.  A chart that would be loaded if
they had one is the loaded chart exactly if all that they leave out of the directory of charts is
passed over in any case.  A left out directory is an inner chart like any other, and if it cannot be
loaded, or if a left out entry is a packaged chart, the whole chart is not loaded. -/
theorem load_of_leavesOut (isDirectory : tree.isDirectory root = true) :
    (∀ chart, loadGoverned tree root = .ok chart →
      (load tree root = .ok chart ↔
        ∀ name, HasEntry tree (root.join subchartsName) name → leavesOut tree root name = true →
          IsPassedOver tree root name)) ∧
    ∀ name, HasEntry tree (root.join subchartsName) name → leavesOut tree root name = true →
      (∀ chart, load tree root = .ok chart → tree.isDirectory (subchartPath root name) = true →
        ∃ inner ∈ chart.subcharts, load tree (subchartPath root name) = .ok inner) ∧
      ((tree.isDirectory (subchartPath root name) = true ∧
          (∃ e, load tree (subchartPath root name) = .error e) ∨
        tree.isDirectory (subchartPath root name) = false ∧ isPackage name = true) →
          ∃ e, load tree root = .error e) := by
  refine ⟨fun chart governed => load_eq_ok_iff_of_loadGoverned isDirectory governed, ?_⟩
  intro name entry _
  refine ⟨fun chart loaded entryIsDirectory =>
    exists_inner_of_load loaded entry entryIsDirectory, ?_⟩
  intro unsound
  cases outcome : load tree root with
  | error e => exact ⟨e, rfl⟩
  | ok chart =>
      have sound := isSound_of_load outcome entry
      rcases unsound with ⟨entryIsDirectory, e, failed⟩ | ⟨notDirectory, packaged⟩
      · rw [if_pos entryIsDirectory, failed] at sound
        obtain ⟨inner, innerLoaded⟩ := sound
        cases innerLoaded
      · rw [if_neg (by simp [notDirectory]), packaged] at sound
        cases sound

/-- A chart whose rules leave out its directory of charts, where there is one entry. -/
def exampleRules (name : String) (entry : FileEntry) : FileTree :=
  let file (text : String) : FileEntry := .file (Utf8.ofString text)
  ⟨[(Utf8.ofString "app", .directory [
    (Utf8.ofString "Chart.yaml", file "name: app\nversion: 1.0.0\n"),
    (Utf8.ofString ".helmignore", file "charts/\n"),
    (Utf8.ofString "charts", .directory [(Utf8.ofString name, entry)])])]⟩

/-- The directory of a chart. -/
def exampleInner : FileEntry :=
  .directory [(Utf8.ofString "Chart.yaml",
    .file (Utf8.ofString "name: inner\nversion: 1.0.0\n"))]

theorem load_of_leavesOut_exampleRules :
    (exampleRules "inner" exampleInner).isDirectory (Path.ofString "app") = true ∧
      leavesOut (exampleRules "inner" exampleInner) (Path.ofString "app")
        (Utf8.ofString "inner") = true ∧
      ∃ chart, load (exampleRules "inner" exampleInner) (Path.ofString "app") = .ok chart ∧
        loadGoverned (exampleRules "inner" exampleInner) (Path.ofString "app") ≠ .ok chart ∧
        ∃ inner ∈ chart.subcharts, load (exampleRules "inner" exampleInner)
          (subchartPath (Path.ofString "app") (Utf8.ofString "inner")) = .ok inner := by
  have isDirectory :
      (exampleRules "inner" exampleInner).isDirectory (Path.ofString "app") = true := by
    decide +kernel
  have leftOut : leavesOut (exampleRules "inner" exampleInner) (Path.ofString "app")
      (Utf8.ofString "inner") = true := by
    decide +kernel
  have entry : HasEntry (exampleRules "inner" exampleInner)
      ((Path.ofString "app").join subchartsName) (Utf8.ofString "inner") :=
    mem_subchartNames_iff.mp (by decide +kernel)
  have entryIsDirectory : (exampleRules "inner" exampleInner).isDirectory
      (subchartPath (Path.ofString "app") (Utf8.ofString "inner")) = true := by
    decide +kernel
  obtain ⟨chart, loaded⟩ :
      ∃ chart, load (exampleRules "inner" exampleInner) (Path.ofString "app") = .ok chart :=
    exists_eq_ok_of_isOk (by decide +kernel)
  obtain ⟨governed, leftOutEffect⟩ := load_of_leavesOut isDirectory
  refine ⟨isDirectory, leftOut, chart, loaded, ?_,
    (leftOutEffect _ entry leftOut).1 chart loaded entryIsDirectory⟩
  intro governedLoaded
  have passedOver := (governed chart governedLoaded).mp loaded _ entry leftOut
  rw [passedOver.1] at entryIsDirectory
  cases entryIsDirectory

/-- A chart that the rules leave out is an inner chart nevertheless, and a packaged chart that they
leave out is an error nevertheless. -/
theorem exists_inner_leavesOut :
    (leavesOut (exampleRules "inner" exampleInner) (Path.ofString "app")
        (Utf8.ofString "inner") = true ∧
      ∃ chart, load (exampleRules "inner" exampleInner) (Path.ofString "app") = .ok chart ∧
        ∃ inner ∈ chart.subcharts, inner.source = Path.ofString "app/charts/inner") ∧
    leavesOut (exampleRules "inner.tgz" (.file [])) (Path.ofString "app")
        (Utf8.ofString "inner.tgz") = true ∧
      load (exampleRules "inner.tgz" (.file [])) (Path.ofString "app") =
        .error (.packagedSubchart (Path.ofString "app/charts/inner.tgz")) := by
  refine ⟨⟨by decide +kernel, ?_⟩, by decide +kernel, ?_⟩
  · obtain ⟨chart, loaded⟩ :
        ∃ chart, load (exampleRules "inner" exampleInner) (Path.ofString "app") = .ok chart :=
      exists_eq_ok_of_isOk (by decide +kernel)
    obtain ⟨inner, mem, innerLoaded⟩ := exists_inner_of_load loaded
      (mem_subchartNames_iff.mp (by decide +kernel : Utf8.ofString "inner" ∈
        subchartNames (exampleRules "inner" exampleInner) (Path.ofString "app")))
      (by decide +kernel)
    refine ⟨chart, loaded, inner, mem, ?_⟩
    rw [source_of_load innerLoaded]
    decide +kernel
  · rw [← causeOf?_eq_some_iff]
    decide +kernel

end Chart

end ChartOperator
