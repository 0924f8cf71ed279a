import ChartOperator.Chart.Metadata
import ChartOperator.FileTree.Walk

/-!
# Loading charts

A chart is loaded from a directory: its metadata from `Chart.yaml`, its default settings from
`values.yaml`, its templates and other files from a walk of the directory, where the rules of
`.helmignore` leave some out, and the charts inside it from the directories in `charts`.
-/

namespace ChartOperator

namespace ChartFile

/-- The name of a file with the given names on the way to it. -/
def relativeName (names : List Bytes) : String :=
  String.intercalate "/" (names.map fun name => String.ofList (Utf8.decodeLossy name))

end ChartFile

namespace Chart

/-- Reads the metadata of the chart in a directory. -/
def readMetadata (tree : FileTree) (root : Path) : Except ChartError ChartMetadata :=
  let path := root.joinName "Chart.yaml"
  if !tree.isFile path then .error (.noMetadata root)
  else
    match tree.readText path with
    | .error e => .error (.unreadable path e)
    | .ok content =>
        match Yaml.decodeText decodeMetadata content with
        | .error e => .error (.yaml path e)
        | .ok metadata => metadata.check.mapError (.invalidMetadata path)

/-- Reads the default settings of the chart in a directory: a mapping, or nothing at all. -/
def readValues (tree : FileTree) (root : Path) : Except ChartError Yaml.Mapping :=
  let path := root.joinName "values.yaml"
  if !tree.isFile path then .ok []
  else
    match tree.readText path with
    | .error e => .error (.unreadable path e)
    | .ok content =>
        match Yaml.Value.parse content with
        | .error e => .error (.yaml path e)
        | .ok .null => .ok []
        | .ok (.mapping entries) => .ok entries
        | .ok _ => .error (.invalidValues path)

/-- Reads the ignore rules of the chart in a directory. -/
def readIgnoreRules (tree : FileTree) (root : Path) : Except ChartError IgnoreRules :=
  let path := root.joinName ".helmignore"
  if !tree.isFile path then .ok []
  else
    match tree.readText path with
    | .error e => .error (.unreadable path e)
    | .ok content => (IgnoreRules.parse content).mapError (.invalidIgnore path)

/-- The directory of the charts inside a chart. -/
def subchartsName : Bytes := Utf8.ofString "charts"

/-- The directory of the templates of a chart. -/
def templatesName : Bytes := Utf8.ofString "templates"

/-- The files of a chart that are no part of its content. -/
def ownFiles : List Bytes :=
  ["Chart.yaml", "values.yaml", ".helmignore"].map Utf8.ofString

/-- Whether a file or directory of a chart belongs to its content as far as its name tells. -/
def keeps (rules : IgnoreRules) : FileTree.Keeps := fun names found =>
  names != [subchartsName] &&
    !rules.ignores (ChartFile.relativeName names).toList (found == .directory)

/-- The path of a file with the given names on the way to it. -/
def pathOf (root : Path) (names : List Bytes) : Path :=
  names.foldl Path.join root

/-- A file of a chart before it is sorted into the templates or the other files. -/
structure Collected where
  names : List Bytes
  file : ChartFile

/-- Reads what a walk has visited.  The first fault, or the first file that cannot be read, is the
error. -/
def collect (tree : FileTree) (root : Path) : List FileTree.Visit →
    Except ChartError (List Collected)
  | [] => .ok []
  | .fault :: _ => .error (.walk root)
  | .file names :: rest =>
      if ownFiles.any (names == [·]) then collect tree root rest
      else
        match tree.readBytes (pathOf root names) with
        | .error e => .error (.unreadable (pathOf root names) e)
        | .ok data =>
            match collect tree root rest with
            | .error e => .error e
            | .ok files => .ok (⟨names, ChartFile.relativeName names, data⟩ :: files)

/-- Whether a file is a template: its path starts at the directory of the templates. -/
def Collected.isTemplate (collected : Collected) : Bool :=
  collected.names.head? == some templatesName

/-- Reads the templates and the other files of the chart in a directory. -/
def readFiles (tree : FileTree) (root : Path) :
    Except ChartError (List ChartFile × List ChartFile) := do
  let rules ← readIgnoreRules tree root
  let collected ← collect tree root (tree.visits (keeps rules) [] root [])
  .ok ((collected.filter (·.isTemplate)).map (·.file),
    (collected.filter (!·.isTemplate)).map (·.file))

/-- The names in the directory of the charts inside a chart. -/
def subchartNames (tree : FileTree) (root : Path) : List Bytes :=
  match tree.resolve (root.join subchartsName) with
  | .ok (.directory location) => tree.names location
  | _ => []

/-- The path of a chart inside another one. -/
def subchartPath (root : Path) (name : Bytes) : Path :=
  (root.join subchartsName).join name

/-- Whether a name is that of a packaged chart. -/
def isPackage (name : Bytes) : Bool :=
  (Utf8.ofString ".tgz").isSuffixOf name || (Utf8.ofString ".tar.gz").isSuffixOf name

theorem ne_nil_of_mem_subchartNames {tree : FileTree} {root : Path} {name : Bytes}
    (h : name ∈ subchartNames tree root) : name ≠ [] := by
  unfold subchartNames at h
  split at h
  · exact FileTree.ne_nil_of_mem_names h
  · simp at h

theorem length_lt_length_subchartPath (root : Path) {name : Bytes} (h : name ≠ []) :
    root.bytes.length < (subchartPath root name).bytes.length :=
  Nat.lt_of_le_of_lt
    (Nat.le_of_lt (root.length_lt_length_join (by decide)))
    ((root.join subchartsName).length_lt_length_join h)

/-- Loads the chart in a directory.  Of the entries in its directory of charts, each directory is
loaded as a chart; a packaged chart is an error, and other files are passed over. -/
def load (tree : FileTree) (root : Path) : Except ChartError Chart :=
  match _h : tree.resolve root with
  | .error .notFound => .error (.notFound root)
  | .error e => .error (.unreadable root e)
  | .ok (.file _) => .error (.notADirectory root)
  | .ok (.directory _) => do
      let metadata ← readMetadata tree root
      let values ← readValues tree root
      let (templates, files) ← readFiles tree root
      let subcharts ← (subchartNames tree root).attach.mapM fun ⟨name, _⟩ =>
        let path := subchartPath root name
        if tree.isDirectory path then some <$> load tree path
        else if isPackage name then .error (.packagedSubchart path)
        else .ok none
      .ok {
        metadata := metadata
        values := values
        templates := templates
        files := files
        subcharts := subcharts.reduceOption
        source := root }
  termination_by FileTree.pathLimit + 1 - root.bytes.length
  decreasing_by
    rename_i hname _
    have := FileTree.length_le_of_resolve _h
    have := length_lt_length_subchartPath root (ne_nil_of_mem_subchartNames hname)
    omega

end Chart

end ChartOperator
