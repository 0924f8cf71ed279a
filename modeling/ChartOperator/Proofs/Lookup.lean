import ChartOperator.FileTree.Walk

/-!
# Looking up one more name

A path that leads to a directory can be made longer by a name.  Looking up the longer path goes on
from that directory, with fewer links left; and a longer path leads somewhere only if the shorter
one leads to a directory.
-/

namespace ChartOperator

namespace Path

theorem components_ne_nil (bytes : Bytes) : components bytes ≠ [] := by
  cases bytes with
  | nil => simp [components]
  | cons b rest =>
      unfold components
      split
      · simp
      · split <;> simp

/-- A slash separates the names before it from those after it. -/
theorem components_append_slash (before after : Bytes) :
    components (before ++ slash :: after) = components before ++ components after := by
  induction before with
  | nil => simp [components]
  | cons b rest ih =>
      by_cases isSlash : b = slash
      · simp [components, isSlash, ih]
      · obtain ⟨name, names, split⟩ := List.exists_cons_of_ne_nil (components_ne_nil rest)
        simp [components, isSlash, ih, split]

theorem components_of_not_mem {name : Bytes} (noSlash : slash ∉ name) :
    components name = [name] := by
  induction name with
  | nil => rfl
  | cons b rest ih =>
      have first : b ≠ slash := fun equal => noSlash (by simp [equal])
      have others : slash ∉ rest := fun mem => noSlash (List.mem_cons_of_mem b mem)
      simp [components, first, ih others]

/-- The names of a path with one more name: those of the path, up to a slash at its end, and the new
one. -/
theorem components_join {path : Path} {name : Bytes} (nonempty : path.bytes ≠ [])
    (noSlash : slash ∉ name) :
    ∃ names, components (path.join name).bytes = names ++ [name] ∧
      (components path.bytes = names ∨ components path.bytes = names ++ [[]]) := by
  by_cases ends : path.bytes.getLast? = some slash
  · obtain ⟨before, split⟩ := List.getLast?_eq_some_iff.mp ends
    refine ⟨components before, ?_, Or.inr ?_⟩
    · simp [join, split, components_append_slash, components_of_not_mem noSlash]
    · rw [split, components_append_slash]
      rfl
  · refine ⟨components path.bytes, ?_, Or.inl rfl⟩
    simp [join, nonempty, ends, components_append_slash, components_of_not_mem noSlash]

@[simp]
theorem isAbsolute_join {path : Path} (nonempty : path.bytes ≠ []) (name : Bytes) :
    (path.join name).isAbsolute = path.isAbsolute := by
  obtain ⟨b, rest, split⟩ := List.exists_cons_of_ne_nil nonempty
  unfold isAbsolute join
  split <;> simp [split]

theorem join_bytes_ne_nil {path : Path} (nonempty : path.bytes ≠ []) (name : Bytes) :
    (path.join name).bytes ≠ [] := by
  unfold join
  split <;> simp [nonempty]

/-- Adding a name keeps every byte of a path. -/
theorem mem_bytes_join {path : Path} {name : Bytes} {b : UInt8} (mem : b ∈ path.bytes) :
    b ∈ (path.join name).bytes := by
  unfold join
  split <;> simp [mem]

end Path

namespace FileTree

variable {tree : FileTree}

theorem isName_iff {name : Bytes} :
    isName name = true ↔
      name ≠ [] ∧ Path.slash ∉ name ∧ 0 ∉ name ∧ name ≠ [0x2E] ∧ name ≠ [0x2E, 0x2E] := by
  simp [isName, and_assoc]

/-- What looking up the names `names` from somewhere says about every longer list of names, where
`look rest` is the result for the names followed by `rest`. -/
def LeadsOn (tree : FileTree) (look : List Bytes → Except FileError Target) : Prop :=
  match look [] with
  | .ok (.directory here) => ∃ left, ∀ rest, look rest = tree.locate left here rest
  | .ok (.file _) => ∀ rest, rest ≠ [] → look rest = .error .notADirectory
  | .error e => ∀ rest, look rest = .error e

/-- If what is behind links leads on, so does a way that goes through directories first. -/
theorem leadsOn_descend {follow : Location → Path → List Bytes → Except FileError Target}
    {links : Nat} (same : tree.locate links = tree.descend follow)
    (followed : ∀ here target names,
      tree.LeadsOn fun rest => follow here target (names ++ rest))
    (here : Location) (names : List Bytes) :
    tree.LeadsOn fun rest => tree.descend follow here (names ++ rest) := by
  induction names generalizing here with
  | nil => exact ⟨links, fun rest => by rw [same]; rfl⟩
  | cons name names ih =>
      simp only [List.cons_append, descend]
      split
      · exact ih here
      · split
        · exact ih here.parent
        · split
          · exact fun _ => rfl
          · cases (tree.listing here).lookup name with
            | none => exact fun _ => rfl
            | some entry =>
                cases entry with
                | directory entries => exact ih (here.child name)
                | link target => exact followed here target names
                | file content =>
                    cases names with
                    | nil => exact fun rest nonempty => by simp [nonempty]
                    | cons next others => exact fun _ => rfl

/-- Looking up names leads on, by induction on the links that are left. -/
theorem leadsOn_locate (tree : FileTree) (links : Nat) (here : Location) (names : List Bytes) :
    tree.LeadsOn fun rest => tree.locate links here (names ++ rest) := by
  induction links generalizing here names with
  | zero =>
      have same : tree.locate 0 = tree.descend fun _ _ _ => .error .tooManyLinks := rfl
      rw [same]
      exact leadsOn_descend same (fun _ _ _ _ => rfl) here names
  | succ links ih =>
      have same : tree.locate (links + 1) = tree.descend fun here target rest =>
          tree.locate links (origin here target) (Path.components target.bytes ++ rest) := rfl
      rw [same]
      refine leadsOn_descend same (fun here target names => ?_) here names
      simpa only [List.append_assoc] using
        ih (origin here target) (Path.components target.bytes ++ names)

/-- Names that lead to a directory can be replaced by that directory. -/
theorem locate_append {links : Nat} {here place : Location} {names : List Bytes}
    (found : tree.locate links here names = .ok (.directory place)) :
    ∃ left, ∀ rest, tree.locate links here (names ++ rest) = tree.locate left place rest := by
  have leads := leadsOn_locate tree links here names
  simpa [LeadsOn, found] using leads

/-- A result of a longer list of names comes from a directory. -/
theorem exists_directory_of_locate_append {links : Nat} {here : Location}
    {names rest : List Bytes} {target : Target} (nonempty : rest ≠ [])
    (found : tree.locate links here (names ++ rest) = .ok target) :
    ∃ place, tree.locate links here names = .ok (.directory place) := by
  have leads := leadsOn_locate tree links here names
  cases start : tree.locate links here names with
  | error e =>
      simp only [LeadsOn, List.append_nil, start] at leads
      simp [leads rest] at found
  | ok reached =>
      cases reached with
      | directory place => exact ⟨place, rfl⟩
      | file content =>
          simp only [LeadsOn, List.append_nil, start] at leads
          simp [leads rest nonempty] at found

/-- What a single name leads to is the entry with this name. -/
theorem lookup_of_locate_singleton {links : Nat} {here : Location} {name : Bytes}
    {target : Target} (named : isName name = true)
    (found : tree.locate links here [name] = .ok target) :
    ∃ entry, (tree.listing here).lookup name = some entry ∧
      match entry with
      | .file content => target = .file content
      | .directory _ => target = .directory (here.child name)
      | .link _ => True := by
  obtain ⟨nonempty, -, -, notDot, notDots⟩ := isName_iff.mp named
  have opened : ∃ follow, tree.locate links = tree.descend follow := by
    cases links <;> exact ⟨_, rfl⟩
  obtain ⟨follow, same⟩ := opened
  rw [same] at found
  simp only [descend, nonempty, notDot, notDots, decide_false, Bool.or_self, Bool.false_eq_true,
    if_false] at found
  split at found
  · contradiction
  · cases entry : (tree.listing here).lookup name with
    | none => simp [entry] at found
    | some e =>
        refine ⟨e, rfl, ?_⟩
        cases e with
        | link target => trivial
        | directory entries => simpa [entry] using found.symm
        | file content => simpa [entry] using found.symm

/-! ## Paths that lead somewhere -/

theorem resolve_eq_ok_iff {path : Path} {target : Target} :
    tree.resolve path = .ok target ↔
      (0 ∉ path.bytes ∧ path.bytes ≠ [] ∧ path.bytes.length ≤ pathLimit) ∧
        tree.locate linkLimit (tree.start path) (Path.components path.bytes) =
          .ok target := by
  unfold resolve
  by_cases zero : 0 ∈ path.bytes
  · simp [zero]
  · by_cases empty : path.bytes = []
    · simp [empty]
    · by_cases long : pathLimit < path.bytes.length
      · simp [zero, empty, long, Nat.not_le_of_lt long]
      · simp [zero, empty, long, Nat.le_of_not_lt long]

theorem start_join {path : Path} (nonempty : path.bytes ≠ []) (name : Bytes) :
    tree.start (path.join name) = tree.start path := by
  simp [start, origin, nonempty]

theorem bytes_ne_nil_of_resolve {path : Path} {target : Target}
    (found : tree.resolve path = .ok target) : path.bytes ≠ [] :=
  (resolve_eq_ok_iff.mp found).1.2.1

/-- A path with one more name leads somewhere only from a directory, and there it leads to the entry
with this name. -/
theorem exists_directory_of_resolve_join {path : Path} {name : Bytes} {target : Target}
    (nonempty : path.bytes ≠ []) (named : isName name = true)
    (found : tree.resolve (path.join name) = .ok target) :
    ∃ here, tree.resolve path = .ok (.directory here) ∧
      ∃ left, tree.locate left here [name] = .ok target := by
  obtain ⟨names, longer, shorter⟩ :=
    Path.components_join nonempty (isName_iff.mp named).2.1
  obtain ⟨⟨zero, -, short⟩, located⟩ := resolve_eq_ok_iff.mp found
  rw [longer, start_join nonempty] at located
  obtain ⟨here, reached⟩ := exists_directory_of_locate_append (by simp) located
  obtain ⟨left, leads⟩ := locate_append reached
  have noZero : 0 ∉ path.bytes := fun mem => zero (Path.mem_bytes_join mem)
  refine ⟨here, resolve_eq_ok_iff.mpr ⟨⟨noZero, nonempty, ?_⟩, ?_⟩, left,
    (leads [name]).symm.trans located⟩
  · exact Nat.le_trans
      (Nat.le_of_lt (path.length_lt_length_join (isName_iff.mp named).1)) short
  · rcases shorter with same | slashed
    · rw [same, reached]
    · rw [slashed, leads]
      cases left <;> rfl

/-- What a path with one more name leads to, seen from the directory to which the path leads. -/
theorem lookup_of_resolve_join {path : Path} {name : Bytes} {here : Location} {target : Target}
    (reached : tree.resolve path = .ok (.directory here)) (named : isName name = true)
    (found : tree.resolve (path.join name) = .ok target) :
    ∃ entry, (tree.listing here).lookup name = some entry ∧
      match entry with
      | .file content => target = .file content
      | .directory _ => target = .directory (here.child name)
      | .link _ => True := by
  obtain ⟨there, sameReached, left, located⟩ :=
    exists_directory_of_resolve_join (bytes_ne_nil_of_resolve reached) named found
  obtain rfl : there = here := by
    rw [reached] at sameReached
    simpa using sameReached.symm
  exact lookup_of_locate_singleton named located

/-- A path with more names leads somewhere only from a directory. -/
theorem exists_directory_of_resolve_foldl {path : Path} {below : List Bytes} {target : Target}
    (nonempty : path.bytes ≠ []) (longer : below ≠ []) (named : ∀ name ∈ below, isName name = true)
    (found : tree.resolve (below.foldl Path.join path) = .ok target) :
    ∃ here, tree.resolve path = .ok (.directory here) := by
  induction below generalizing path with
  | nil => contradiction
  | cons name rest ih =>
      have first := named name List.mem_cons_self
      have joined : ∃ reached, tree.resolve (path.join name) = .ok reached := by
        by_cases last : rest = []
        · subst last
          exact ⟨target, found⟩
        · obtain ⟨here, reached⟩ := ih (Path.join_bytes_ne_nil nonempty name) last
            (fun other mem => named other (List.mem_cons_of_mem _ mem)) found
          exact ⟨_, reached⟩
      obtain ⟨reached, joinedFound⟩ := joined
      obtain ⟨here, start, -⟩ := exists_directory_of_resolve_join nonempty first joinedFound
      exact ⟨here, start⟩

theorem isFile_iff {path : Path} :
    tree.isFile path = true ↔ ∃ content, tree.resolve path = .ok (.file content) := by
  unfold isFile
  split <;> simp_all

theorem isDirectory_iff {path : Path} :
    tree.isDirectory path = true ↔ ∃ here, tree.resolve path = .ok (.directory here) := by
  unfold isDirectory
  split <;> simp_all

theorem readBytes_eq_ok_iff {path : Path} {content : Bytes} :
    tree.readBytes path = .ok content ↔ tree.resolve path = .ok (.file content) := by
  unfold readBytes
  split <;> simp_all

/-- A file beside the working directory, by its path from there and behind a link. -/
example :
    let tree : FileTree := {
      entries := [
        (Utf8.ofString "etc", .directory [(Utf8.ofString "app.yaml", .file [0x61])]),
        (Utf8.ofString "srv", .directory [
          (Utf8.ofString "config", .link (.ofString "/etc/app.yaml"))])]
      workingDirectory := ⟨⟨[Utf8.ofString "srv"]⟩⟩ }
    (tree.readBytes (.ofString "../etc/app.yaml")).toOption = some [0x61] ∧
      (tree.readBytes (.ofString "config")).toOption = some [0x61] := by
  decide +kernel

theorem isDirectory_eq_false_of_isFile {path : Path} (isFile : tree.isFile path = true) :
    tree.isDirectory path = false := by
  obtain ⟨content, found⟩ := isFile_iff.mp isFile
  simp [isDirectory, found]

end FileTree

end ChartOperator
