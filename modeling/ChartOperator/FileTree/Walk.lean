import ChartOperator.FileTree.Resolve

/-!
# Walking a directory

A walk visits everything below a directory, in ascending order of the names at every level and
with links followed.  A link that leads nowhere, or back to a directory in which the walk already
is, is a fault; so the walk does not go in circles.  A condition on the names decides which files
and directories are kept; what is below a directory that is not kept is not visited.
-/

namespace ChartOperator

namespace FileTree

/-- Whether bytes can be the name of an entry: there is at least one, none of them is a slash or
zero, and they are not one or two dots. -/
def isName (name : Bytes) : Bool :=
  !name.isEmpty && !name.contains Path.slash && !name.contains 0 &&
    name != [0x2E] && name != [0x2E, 0x2E]

/-- The order of names by their bytes. -/
def nameLt : Bytes → Bytes → Bool
  | _, [] => false
  | [], _ :: _ => true
  | a :: as, b :: bs => a < b || (a == b && nameLt as bs)

/-- Adds a name to names in ascending order, unless it is one of them. -/
def insertByBytes (name : Bytes) : List Bytes → List Bytes
  | [] => [name]
  | n :: rest =>
      if nameLt name n then name :: n :: rest
      else if name = n then n :: rest
      else n :: insertByBytes name rest

/-- The names of the entries of a directory, in ascending order. -/
def names (tree : FileTree) (location : Location) : List Bytes :=
  ((tree.listing location).map (·.1)).foldr insertByBytes [] |>.filter isName

theorem ne_nil_of_mem_names {tree : FileTree} {location : Location} {name : Bytes}
    (h : name ∈ tree.names location) : name ≠ [] := by
  have := (List.mem_filter.mp h).2
  intro hnil
  simp [isName, hnil] at this

/-- What a walk finds under a name. -/
inductive Found where
  | file
  | directory
  deriving DecidableEq

/-- What a walk finds at a path under a name of the directory `here`, where `inside` are the
directories in which the walk is.  `none` for a link that leads nowhere or back to one of them. -/
def find? (tree : FileTree) (inside : List Location) (here : Location) (path : Path)
    (name : Bytes) : Option Found :=
  match (tree.listing here).lookup name with
  | some (.file _) => some .file
  | some (.directory _) => some .directory
  | some (.link _) =>
      match tree.resolve path with
      | .ok (.file _) => some .file
      | .ok (.directory location) => if location ∈ inside then none else some .directory
      | .error _ => none
  | none => none

/-- A condition on the names on the way to a file or directory below the start of a walk. -/
abbrev Keeps := List Bytes → Found → Bool

/-- One result of a walk. -/
inductive Visit where
  /-- A file with the names on the way to it. -/
  | file (names : List Bytes)
  /-- Something that cannot be visited. -/
  | fault
  deriving DecidableEq

theorem length_le_of_resolve {tree : FileTree} {path : Path} {target : Target}
    (h : tree.resolve path = .ok target) : path.bytes.length ≤ pathLimit := by
  unfold resolve at h
  split at h
  · simp at h
  · split at h
    · simp at h
    · split at h
      · simp at h
      · omega

/-- The results of a walk below the directory with a path, which is `names` away from the start.
The walk is inside the directories `inside` and this one. -/
def visits (tree : FileTree) (keeps : Keeps) (inside : List Location) (path : Path)
    (names : List Bytes) : List Visit :=
  match _h : tree.resolve path with
  | .ok (.directory here) =>
      (tree.names here).attach.flatMap fun ⟨name, _⟩ =>
        match tree.find? (here :: inside) here (path.join name) name with
        | none => [.fault]
        | some .file => if keeps (names ++ [name]) .file then [.file (names ++ [name])] else []
        | some .directory =>
            if keeps (names ++ [name]) .directory then
              tree.visits keeps (here :: inside) (path.join name) (names ++ [name])
            else []
  | _ => [.fault]
  termination_by pathLimit + 1 - path.bytes.length
  decreasing_by
    rename_i hname _
    have := length_le_of_resolve _h
    have := path.length_lt_length_join (ne_nil_of_mem_names hname)
    omega

end FileTree

end ChartOperator
