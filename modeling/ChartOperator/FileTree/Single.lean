import ChartOperator.FileTree.Resolve

/-!
# Trees with a single file

The tree in which a path leads to a given file.  It has the directories through which the path goes,
and no links.
-/

namespace ChartOperator

namespace FileTree

/-- The directory to which a name leads from another one, where there are no links. -/
def Location.step (here : Location) (name : Bytes) : Location :=
  if name = [] || name = [0x2E] then here
  else if name = [0x2E, 0x2E] then here.parent
  else here.child name

/-- Adds an entry, in place of those with the same name. -/
def withEntry (entries : List (Bytes × FileEntry)) (name : Bytes) (entry : FileEntry) :
    List (Bytes × FileEntry) :=
  (name, entry) :: entries.filter fun named => named.1 ≠ name

/-- Changes the entries of the directory at the end of a chain of names.  Directories are made where
there are none. -/
def changeAt (change : List (Bytes × FileEntry) → List (Bytes × FileEntry))
    (entries : List (Bytes × FileEntry)) : List Bytes → List (Bytes × FileEntry)
  | [] => change entries
  | name :: rest =>
      withEntry entries name (.directory (changeAt change (entriesAt entries [name]) rest))

/-- Adds the directories to which names lead from a directory on, and a file under the last name. -/
def lay (content : Bytes) (entries : List (Bytes × FileEntry)) (here : Location) :
    List Bytes → List (Bytes × FileEntry)
  | [] => entries
  | [name] => changeAt (fun inside => withEntry inside name (.file content)) entries here.names
  | name :: rest =>
      lay content (changeAt id entries (here.step name).names) (here.step name) rest

/-- The tree in which a path leads to a file when the operator runs in the directory `place`. -/
def ofFile (place : Location) (path : Path) (content : Bytes) : FileTree where
  entries := lay content [] (origin place path) (Path.components path.bytes)
  workingDirectory := ⟨place⟩

end FileTree

end ChartOperator
