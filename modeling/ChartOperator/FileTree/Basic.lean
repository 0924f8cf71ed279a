import ChartOperator.FileTree.Path

/-!
# File trees

The files that the operator finds, as a tree, and the directory of it in which the operator runs.
An entry of a directory is a file, another directory or a symbolic link.
-/

namespace ChartOperator

/-- An entry of a file tree. -/
inductive FileEntry where
  | file (content : Bytes)
  | directory (entries : List (Bytes × FileEntry))
  | link (target : Path)

instance : Inhabited FileEntry := ⟨.directory []⟩

namespace FileTree

/-- A directory, by the names that lead to it from the root. -/
structure Location where
  names : List Bytes
  deriving DecidableEq

namespace Location

/-- The directory that contains all others. -/
def root : Location := ⟨[]⟩

/-- The directory that contains a directory.  The root contains itself. -/
def parent (location : Location) : Location := ⟨location.names.dropLast⟩

/-- The place of a name inside a directory. -/
def child (location : Location) (name : Bytes) : Location := ⟨location.names ++ [name]⟩

end Location

/-- The directory in which the operator runs.  It is found as an instance, so a tree is given by its
entries alone where the operator runs in the root. -/
class WorkingDirectory where
  location : Location

instance : WorkingDirectory := ⟨.root⟩

end FileTree

/-- The entries of the root, and the directory in which the operator runs. -/
structure FileTree where
  entries : List (Bytes × FileEntry)
  [workingDirectory : FileTree.WorkingDirectory]

namespace FileTree

/-- The tree without any entry. -/
def empty : FileTree := ⟨[]⟩

/-- The entries of the directory at the end of a chain of names.  Where there is no directory, there
are none. -/
def entriesAt (entries : List (Bytes × FileEntry)) : List Bytes → List (Bytes × FileEntry)
  | [] => entries
  | name :: rest =>
      match entries.lookup name with
      | some (.directory inner) => entriesAt inner rest
      | _ => []

/-- The entries of a directory. -/
def listing (tree : FileTree) (location : Location) : List (Bytes × FileEntry) :=
  entriesAt tree.entries location.names

end FileTree

end ChartOperator
