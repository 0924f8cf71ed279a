import ChartOperator.FileTree.Basic

/-!
# Looking up paths

What a path leads to when symbolic links are followed.  Links are followed at most forty times
on the way; names have at most 255 bytes and paths at most 4095.
-/

namespace ChartOperator

namespace FileTree

/-- The greatest number of links that are followed on the way to one file. -/
def linkLimit : Nat := 40

/-- The greatest length of a name. -/
def nameLimit : Nat := 255

/-- The greatest length of a path. -/
def pathLimit : Nat := 4095

/-- What a path leads to. -/
inductive Target where
  | file (content : Bytes)
  | directory (location : Location)

/-- The directory in which a path starts: the root, or the one from which it is followed. -/
def origin (here : Location) (path : Path) : Location :=
  if path.isAbsolute then .root else here

/-- Follows the names of a path from a directory on, up to the first link; what is behind the link
is found by `follow`, from the directory of the link, its target and the names after it.  An empty
name stands for nothing, except that a path that ends with a slash has to lead to a directory. -/
def descend (tree : FileTree) (follow : Location → Path → List Bytes → Except FileError Target)
    (here : Location) : List Bytes → Except FileError Target
  | [] => .ok (.directory here)
  | name :: rest =>
      if name = [] || name = [0x2E] then tree.descend follow here rest
      else if name = [0x2E, 0x2E] then tree.descend follow here.parent rest
      else if nameLimit < name.length then .error .nameTooLong
      else
        match (tree.listing here).lookup name with
        | none => .error .notFound
        | some (.directory _) => tree.descend follow (here.child name) rest
        | some (.file content) =>
            if rest.isEmpty then .ok (.file content) else .error .notADirectory
        | some (.link target) => follow here target rest

/-- Follows the names of a path from a directory on, with a given number of links left. -/
def locate (tree : FileTree) : Nat → Location → List Bytes → Except FileError Target
  | 0 => tree.descend fun _ _ _ => .error .tooManyLinks
  | links + 1 => tree.descend fun here target rest =>
      tree.locate links (origin here target) (Path.components target.bytes ++ rest)

/-- The directory in which a path starts for the operator. -/
def start (tree : FileTree) (path : Path) : Location :=
  origin tree.workingDirectory.location path

/-- What a path leads to. -/
def resolve (tree : FileTree) (path : Path) : Except FileError Target :=
  if path.bytes.contains 0 then .error .zeroByteInName
  else if path.bytes.isEmpty then .error .notFound
  else if pathLimit < path.bytes.length then .error .nameTooLong
  else tree.locate linkLimit (tree.start path) (Path.components path.bytes)

/-- Whether a path leads to a file. -/
def isFile (tree : FileTree) (path : Path) : Bool :=
  match tree.resolve path with
  | .ok (.file _) => true
  | _ => false

/-- Whether a path leads to a directory. -/
def isDirectory (tree : FileTree) (path : Path) : Bool :=
  match tree.resolve path with
  | .ok (.directory _) => true
  | _ => false

/-- The content of the file to which a path leads. -/
def readBytes (tree : FileTree) (path : Path) : Except FileError Bytes :=
  match tree.resolve path with
  | .ok (.file content) => .ok content
  | .ok (.directory _) => .error .isADirectory
  | .error e => .error e

/-- The text of the file to which a path leads. -/
def readText (tree : FileTree) (path : Path) : Except FileError String :=
  match tree.readBytes path with
  | .error e => .error e
  | .ok content =>
      match Utf8.decode? content with
      | some cs => .ok (String.ofList cs)
      | none => .error .invalidText

end FileTree

end ChartOperator
