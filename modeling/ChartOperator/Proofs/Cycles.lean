import ChartOperator.Proofs.ChartTree
import ChartOperator.Proofs.Ways

/-!
# Charts in directories that enclose them

Among the inner charts of a chart there may be a link back to a directory that encloses it.  This
is no fault: the chart is loaded once more, inside itself.  Each time takes a link, so in a row of
charts, each inside the one before, every directory occurs only so often as links may be followed,
and once more.  An inner chart for which no link is left is passed over.
-/

namespace ChartOperator

namespace Chart

variable {tree : FileTree} {root : Path} {chart : Chart}

/-- Whether a chart is inside another one, at any depth. -/
def IsInside (outer deep : Chart) : Prop :=
  ∃ inner ∈ outer.subcharts, Contains inner deep

theorem Contains.trans {middle deep : Chart} (first : Contains chart middle)
    (second : Contains middle deep) : Contains chart deep := by
  induction first with
  | self => exact second
  | inside mem _ ih => exact Contains.inside mem (ih second)

theorem IsInside.trans {middle deep : Chart} (first : IsInside chart middle)
    (second : IsInside middle deep) : IsInside chart deep := by
  obtain ⟨inner, mem, contains⟩ := first
  obtain ⟨innermost, memMiddle, containsDeep⟩ := second
  exact ⟨inner, mem, contains.trans (Contains.inside memMiddle containsDeep)⟩

/-- A loaded chart is in a directory. -/
theorem exists_leadsTo_of_load (loaded : load tree root = .ok chart) :
    ∃ left place, FileTree.LeadsTo tree root left place := by
  obtain ⟨entries, parts⟩ := load_eq_ok_iff.mp loaded
  obtain ⟨place, reached⟩ := FileTree.isDirectory_iff.mp parts.isDirectory
  obtain ⟨left, leads⟩ :=
    FileTree.exists_leadsTo_of_place? (FileTree.place?_eq_some_iff.mpr reached)
  exact ⟨left, place, leads⟩

/-- The way to an inner chart goes forward from its chart. -/
theorem forward_of_mem_subcharts {inner : Chart} (loaded : load tree root = .ok chart)
    (mem : inner ∈ chart.subcharts) {links left : Nat} {here place : FileTree.Location}
    (start : FileTree.LeadsTo tree root links here)
    (leads : FileTree.LeadsTo tree inner.source left place) :
    FileTree.Forward links here left place := by
  obtain ⟨entries, parts⟩ := load_eq_ok_iff.mp loaded
  obtain ⟨_, reached⟩ := FileTree.isDirectory_iff.mp parts.isDirectory
  have nonempty := FileTree.bytes_ne_nil_of_resolve reached
  obtain ⟨name, listed, innerLoaded⟩ := exists_left_of_forall₂ (forall₂_subcharts loaded) mem
  obtain ⟨⟨_, -, named, -⟩, -⟩ := mem_innerNames_iff.mp listed
  rw [source_of_load innerLoaded] at leads
  obtain ⟨between, middle, toCharts, last⟩ :=
    FileTree.exists_way_of_leadsTo_join (Path.join_bytes_ne_nil nonempty subchartsName) named leads
  obtain ⟨links', here', toChart, first⟩ :=
    FileTree.exists_way_of_leadsTo_join nonempty (by decide) toCharts
  obtain ⟨rfl, rfl⟩ := FileTree.Way.unique start toChart
  exact (first.forward_of_isName (by decide)).trans (last.forward_of_isName named)

/-- The way to a chart inside another one goes forward from it.  By induction on the way down. -/
theorem forward_of_contains {inner deep : Chart} (contains : Contains inner deep)
    (loaded : load tree root = .ok chart) (mem : inner ∈ chart.subcharts) {links left : Nat}
    {here place : FileTree.Location} (start : FileTree.LeadsTo tree root links here)
    (leads : FileTree.LeadsTo tree deep.source left place) :
    FileTree.Forward links here left place := by
  induction contains generalizing chart root links here with
  | self => exact forward_of_mem_subcharts loaded mem start leads
  | @inside inner next deep memInner _ ih =>
      obtain ⟨name, -, innerLoaded⟩ := exists_left_of_forall₂ (forall₂_subcharts loaded) mem
      obtain ⟨between, middle, toInner⟩ := exists_leadsTo_of_load innerLoaded
      have onward := ih innerLoaded memInner toInner leads
      rw [← source_of_load innerLoaded] at toInner
      exact (forward_of_mem_subcharts loaded mem start toInner).trans onward

/-- If a chart is in the directory of another one that it is inside, a link is taken between
them. -/
theorem lt_of_isInside {outer deep : Chart} (loaded : load tree root = .ok chart)
    (contains : Contains chart outer) (inside : IsInside outer deep) {links left : Nat}
    {place : FileTree.Location} (start : FileTree.LeadsTo tree outer.source links place)
    (leads : FileTree.LeadsTo tree deep.source left place) : left < links := by
  obtain ⟨inner, mem, containsDeep⟩ := inside
  have outerLoaded := (load_of_contains contains loaded).1
  exact (forward_of_contains containsDeep outerLoaded mem start leads).lt_of_same

/-- A list whose members have numbers that descend below a limit is no longer than the limit. -/
theorem length_le_of_descending {α : Type} (number : α → Nat → Prop) {xs : List α} {limit : Nat}
    (numbered : ∀ x ∈ xs, ∃ n, n < limit ∧ number x n)
    (descending : xs.Pairwise fun first second => ∀ m n, number first m → number second n → n < m) :
    xs.length ≤ limit := by
  induction xs generalizing limit with
  | nil => exact Nat.zero_le limit
  | cons x rest ih =>
      obtain ⟨n, below, isNumber⟩ := numbered x List.mem_cons_self
      obtain ⟨first, others⟩ := List.pairwise_cons.mp descending
      have restBelow : ∀ other ∈ rest, ∃ m, m < n ∧ number other m := by
        intro other mem
        obtain ⟨m, -, otherNumber⟩ := numbered other (List.mem_cons_of_mem x mem)
        exact ⟨m, first other mem n m isNumber otherNumber, otherNumber⟩
      exact Nat.le_trans (Nat.succ_le_succ (ih restBelow others)) below

/-- A row of charts, each inside the one before. -/
def IsRow (charts : List Chart) : Prop :=
  charts.IsChain fun outer inner => inner ∈ outer.subcharts

theorem pairwise_isInside_of_isRow {charts : List Chart} (row : IsRow charts) :
    charts.Pairwise IsInside := by
  have chain : charts.IsChain IsInside := row.imp fun outer inner mem => ⟨inner, mem, .self inner⟩
  have trans : IsTrans Chart IsInside := ⟨fun _ _ _ first second => first.trans second⟩
  exact List.isChain_iff_pairwise.mp chain

theorem contains_of_isRow {rest : List Chart} (row : IsRow (chart :: rest)) {other : Chart}
    (mem : other ∈ chart :: rest) : Contains chart other := by
  rcases List.mem_cons.mp mem with rfl | mem
  · exact Contains.self other
  · obtain ⟨inner, memInner, contains⟩ :=
      (List.pairwise_cons.mp (pairwise_isInside_of_isRow row)).1 other mem
    exact Contains.inside memInner contains

/-- In a row of charts every directory occurs only so often as links may be followed, and once
more. -/
theorem countP_place_le {rest : List Chart} (loaded : load tree root = .ok chart)
    (row : IsRow (chart :: rest)) (place : FileTree.Location) :
    (chart :: rest).countP (fun other => tree.place? other.source == some place) ≤
      FileTree.linkLimit + 1 := by
  rw [List.countP_eq_length_filter]
  apply length_le_of_descending fun other left => FileTree.LeadsTo tree other.source left place
  · intro other mem
    have reached := (List.mem_filter.mp mem).2
    obtain ⟨left, leads⟩ := FileTree.exists_leadsTo_of_place? (by simpa using reached)
    exact ⟨left, Nat.lt_succ_of_le leads.le_linkLimit, leads⟩
  · apply List.Pairwise.imp_of_mem _ ((pairwise_isInside_of_isRow row).filter _)
    intro outer deep memOuter _ inside links left start leads
    have contains := contains_of_isRow row (List.mem_filter.mp memOuter).1
    exact lt_of_isInside loaded contains inside start leads

theorem isDirectory_of_mem_subcharts {inner : Chart} (loaded : load tree root = .ok chart)
    (mem : inner ∈ chart.subcharts) : tree.isDirectory inner.source = true := by
  obtain ⟨name, listed, innerLoaded⟩ := exists_left_of_forall₂ (forall₂_subcharts loaded) mem
  rw [source_of_load innerLoaded]
  exact (mem_innerNames_iff.mp listed).2

/-- Whether no chart in a chart is in the directory of one that it is inside. -/
def IsAcyclic (tree : FileTree) (chart : Chart) : Prop :=
  ∀ outer deep, Contains chart outer → IsInside outer deep →
    ∀ place, tree.place? outer.source = some place → tree.place? deep.source ≠ some place

/-- Without links a loaded chart is acyclic.  With links, the way to a chart takes more of them than
the way to any chart in the same directory that it is inside; so no row of charts has a directory
more often than links may be followed, and once more.  An inner chart behind too many links is
passed over. -/
theorem load_repeats_behind_links (loaded : load tree root = .ok chart) :
    ((∀ here name target, (tree.listing here).lookup name ≠ some (.link target)) →
      IsAcyclic tree chart) ∧
    (∀ outer deep, Contains chart outer → IsInside outer deep → ∀ place,
      tree.place? outer.source = some place → tree.place? deep.source = some place →
        ∃ links left, FileTree.LeadsTo tree outer.source links place ∧
          FileTree.LeadsTo tree deep.source left place ∧ left < links) ∧
    (∀ rest, IsRow (chart :: rest) → ∀ place,
      (chart :: rest).countP (fun other => tree.place? other.source == some place) ≤
        FileTree.linkLimit + 1) ∧
    ∀ outer, Contains chart outer → ∀ name,
      tree.resolve (subchartPath outer.source name) = .error .tooManyLinks →
        ∀ inner ∈ outer.subcharts, inner.source ≠ subchartPath outer.source name := by
  have taken : ∀ outer deep, Contains chart outer → IsInside outer deep → ∀ place,
      tree.place? outer.source = some place → tree.place? deep.source = some place →
        ∃ links left, FileTree.LeadsTo tree outer.source links place ∧
          FileTree.LeadsTo tree deep.source left place ∧ left < links := by
    intro outer deep contains inside place reachedOuter reachedDeep
    obtain ⟨links, start⟩ := FileTree.exists_leadsTo_of_place? reachedOuter
    obtain ⟨left, leads⟩ := FileTree.exists_leadsTo_of_place? reachedDeep
    exact ⟨links, left, start, leads, lt_of_isInside loaded contains inside start leads⟩
  refine ⟨?_, taken, ?_, ?_⟩
  · intro noLinks outer deep contains inside place reachedOuter reachedDeep
    obtain ⟨links, left, start, leads, fewer⟩ :=
      taken outer deep contains inside place reachedOuter reachedDeep
    rw [FileTree.Way.left_eq_of_noLinks noLinks start,
      FileTree.Way.left_eq_of_noLinks noLinks leads] at fewer
    exact Nat.lt_irrefl _ fewer
  · intro rest row place
    exact countP_place_le loaded row place
  · intro outer contains name tooMany inner mem same
    have isDirectory := isDirectory_of_mem_subcharts (load_of_contains contains loaded).1 mem
    rw [same, FileTree.isDirectory, tooMany] at isDirectory
    contradiction

/-- A chart where one of its directories has a link back to the chart. -/
def exampleCycle (directory : String) : FileTree :=
  let file (text : String) : FileEntry := .file (Utf8.ofString text)
  let entry (name : String) (entry : FileEntry) : Bytes × FileEntry := (Utf8.ofString name, entry)
  ⟨[entry "app" (.directory [
    entry "Chart.yaml" (file "name: app\nversion: 1.0.0\n"),
    entry directory (.directory [entry "self" (.link (Path.ofString ".."))])])]⟩

theorem exists_inner_exampleCycle :
    ∃ chart inner, load (exampleCycle "charts") (Path.ofString "app") = .ok chart ∧
      inner ∈ chart.subcharts ∧
      ∀ source ∈ [chart.source, inner.source], (exampleCycle "charts").place? source =
        some ⟨[Utf8.ofString "app"]⟩ := by
  obtain ⟨chart, loaded⟩ :
      ∃ chart, load (exampleCycle "charts") (Path.ofString "app") = .ok chart :=
    exists_eq_ok_of_isOk (by decide +kernel)
  have listed :
      Utf8.ofString "self" ∈ innerNames (exampleCycle "charts") (Path.ofString "app") := by
    decide +kernel
  obtain ⟨inner, mem, innerLoaded⟩ := exists_left_of_forall₂ (forall₂_subcharts loaded).flip listed
  refine ⟨chart, inner, loaded, mem, ?_⟩
  rw [source_of_load loaded, source_of_load innerLoaded]
  decide +kernel

/-- The chart of the example is inside itself, on a way that takes a link more; and it is inside
itself only so often. -/
theorem load_repeats_behind_links_exampleCycle :
    ∃ chart inner, load (exampleCycle "charts") (Path.ofString "app") = .ok chart ∧
      inner ∈ chart.subcharts ∧
      (∃ links left,
        FileTree.LeadsTo (exampleCycle "charts") chart.source links
          ⟨[Utf8.ofString "app"]⟩ ∧
        FileTree.LeadsTo (exampleCycle "charts") inner.source left
          ⟨[Utf8.ofString "app"]⟩ ∧ left < links) ∧
      ∀ rest, IsRow (chart :: rest) → ∀ place, (chart :: rest).countP (fun other =>
        (exampleCycle "charts").place? other.source == some place) ≤ FileTree.linkLimit + 1 := by
  obtain ⟨chart, inner, loaded, mem, reached⟩ := exists_inner_exampleCycle
  obtain ⟨-, taken, counted, -⟩ := load_repeats_behind_links loaded
  exact ⟨chart, inner, loaded, mem,
    taken chart inner (Contains.self chart) ⟨inner, mem, Contains.self inner⟩ _
      (reached _ (by simp)) (reached _ (by simp)), counted⟩

/-- A chart with a link back among its inner charts is loaded, and is inside itself.  The same link
among its templates is an error. -/
theorem exists_load_not_isAcyclic :
    (∃ chart, load (exampleCycle "charts") (Path.ofString "app") = .ok chart ∧
      ¬ IsAcyclic (exampleCycle "charts") chart) ∧
    load (exampleCycle "templates") (Path.ofString "app") =
      .error (.walk (Path.ofString "app")) := by
  constructor
  · obtain ⟨chart, inner, loaded, mem, reached⟩ := exists_inner_exampleCycle
    refine ⟨chart, loaded, ?_⟩
    intro acyclic
    exact acyclic chart inner (Contains.self chart) ⟨inner, mem, Contains.self inner⟩ _
      (reached _ (by simp)) (reached _ (by simp))
  · rw [← causeOf?_eq_some_iff]
    decide +kernel

end Chart

end ChartOperator
