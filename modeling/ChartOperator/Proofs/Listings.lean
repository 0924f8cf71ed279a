import ChartOperator.Proofs.Lists
import ChartOperator.Proofs.Loading
import Mathlib.Data.List.Sort

/-!
# The order of listings

The entries of a directory are listed in some order, which is not that of their names.  Looking up a
name does not depend on it, as names are distinct, and whatever goes through a directory sorts the
names first.  So nothing that is read from a tree depends on the order of its listings.
-/

namespace ChartOperator

/-- What the listing of a directory shows of an entry.  What is inside a directory is shown by its
own listing. -/
inductive ShownEntry where
  | file (content : Bytes)
  | directory
  | link (target : Path)

/-- What is shown of an entry. -/
def FileEntry.shown : FileEntry → ShownEntry
  | file content => .file content
  | directory _ => .directory
  | link target => .link target

namespace FileTree

variable {tree other : FileTree}

/-- What the listing of a directory shows. -/
def shownListing (tree : FileTree) (here : Location) : List (Bytes × ShownEntry) :=
  (tree.listing here).map fun named => (named.1, named.2.shown)

/-- Whether two trees have the same entries in each directory, in any order, and the operator runs
in the same one.  A directory has no two entries with one name. -/
structure IsReordered (tree other : FileTree) : Prop where
  workingDirectory : tree.workingDirectory = other.workingDirectory
  distinct : ∀ here, ((tree.listing here).map (·.1)).Nodup
  listed : ∀ here, (tree.shownListing here).Perm (other.shownListing here)

/-! ## Looking up a name -/

/-- What is shown of the entry with a name. -/
def shownAt (tree : FileTree) (here : Location) (name : Bytes) : Option ShownEntry :=
  ((tree.listing here).lookup name).map FileEntry.shown

theorem shownAt_congr (reordered : IsReordered tree other) (here : Location) (name : Bytes) :
    tree.shownAt here name = other.shownAt here name := by
  have listed := reordered.listed here
  have distinct : ((tree.shownListing here).map (·.1)).Nodup := by
    rw [shownListing, List.map_map]
    exact reordered.distinct here
  have otherDistinct := (listed.map (·.1)).nodup distinct
  rw [shownAt, shownAt, ← lookup_map_snd, ← lookup_map_snd]
  refine Option.ext fun shown => ?_
  rw [← shownListing, ← shownListing]
  rw [lookup_eq_some_iff_mem distinct, lookup_eq_some_iff_mem otherDistinct, listed.mem_iff]

/-- Names are distinct in each directory if they are so in the root and below each of its
directories. -/
theorem nodup_entriesAt {entries : List (Bytes × FileEntry)} (once : (entries.map (·.1)).Nodup)
    (deeper : ∀ name inner, (name, .directory inner) ∈ entries →
      ∀ names, ((entriesAt inner names).map (·.1)).Nodup) (names : List Bytes) :
    ((entriesAt entries names).map (·.1)).Nodup := by
  cases names with
  | nil => exact once
  | cons name rest =>
      rw [entriesAt]
      split
      · rename_i inner found
        exact deeper name inner ((lookup_eq_some_iff_mem once).mp found) rest
      · exact List.nodup_nil

/-- The entries of the root can be listed in any order. -/
theorem isReordered_of_perm {others : List (Bytes × FileEntry)}
    (distinct : ∀ here, ((tree.listing here).map (·.1)).Nodup) (perm : tree.entries.Perm others) :
    IsReordered tree { tree with entries := others } := by
  refine ⟨rfl, distinct, fun here => ?_⟩
  obtain ⟨names⟩ := here
  cases names with
  | nil => exact perm.map _
  | cons name rest =>
      have once : (tree.entries.map (·.1)).Nodup := distinct .root
      have same : tree.entries.lookup name = others.lookup name := by
        refine Option.ext fun entry => ?_
        rw [lookup_eq_some_iff_mem once, perm.mem_iff,
          lookup_eq_some_iff_mem ((perm.map _).nodup once)]
      have listed : tree.listing ⟨name :: rest⟩ =
          listing { tree with entries := others } ⟨name :: rest⟩ := by
        rw [listing, listing, entriesAt, entriesAt, same]
      rw [shownListing, shownListing, listed]

instance : Std.Irrefl fun a b => nameLt a b = true :=
  ⟨fun name => by simp [nameLt_irrefl]⟩

instance : Std.Antisymm fun a b => nameLt a b = true :=
  ⟨fun first second less more => absurd (nameLt_trans less more) (by simp [nameLt_irrefl])⟩

theorem names_congr (reordered : IsReordered tree other) (here : Location) :
    tree.names here = other.names here := by
  refine (pairwise_names here).eq_of_mem_iff (pairwise_names here) fun name => ?_
  have shown : ∀ t : FileTree, (∃ entry, (t.listing here).lookup name = some entry) ↔
      (t.shownAt here name).isSome = true := by
    intro t
    rw [shownAt, Option.isSome_map, Option.isSome_iff_exists]
  rw [mem_names_iff, mem_names_iff, shown, shown, shownAt_congr reordered]

/-! ## Looking up a path -/

theorem descend_cons (tree : FileTree)
    (follow : Location → Path → List Bytes → Except FileError Target) (here : Location)
    (name : Bytes) (rest : List Bytes) :
    tree.descend follow here (name :: rest) =
      if name = [] || name = [0x2E] then tree.descend follow here rest
      else if name = [0x2E, 0x2E] then tree.descend follow here.parent rest
      else if nameLimit < name.length then .error .nameTooLong
      else
        match tree.shownAt here name with
        | none => .error .notFound
        | some .directory => tree.descend follow (here.child name) rest
        | some (.file content) =>
            if rest.isEmpty then .ok (.file content) else .error .notADirectory
        | some (.link target) => follow here target rest := by
  rw [descend, shownAt]
  cases (tree.listing here).lookup name with
  | none => rfl
  | some entry => cases entry <;> rfl

theorem descend_congr (reordered : IsReordered tree other)
    (follow : Location → Path → List Bytes → Except FileError Target) (here : Location)
    (names : List Bytes) : tree.descend follow here names = other.descend follow here names := by
  induction names generalizing here with
  | nil => rfl
  | cons name rest ih =>
      simp only [descend_cons, shownAt_congr reordered, ih]

theorem locate_congr (reordered : IsReordered tree other) (links : Nat) :
    tree.locate links = other.locate links := by
  induction links with
  | zero =>
      funext here names
      exact descend_congr reordered _ here names
  | succ links ih =>
      funext here names
      rw [locate, locate, descend_congr reordered, ih]

theorem resolve_congr (reordered : IsReordered tree other) (path : Path) :
    tree.resolve path = other.resolve path := by
  rw [resolve, resolve, locate_congr reordered, start, start, reordered.workingDirectory]

theorem isFile_congr (reordered : IsReordered tree other) (path : Path) :
    tree.isFile path = other.isFile path := by
  rw [isFile, isFile, resolve_congr reordered]

theorem isDirectory_congr (reordered : IsReordered tree other) (path : Path) :
    tree.isDirectory path = other.isDirectory path := by
  rw [isDirectory, isDirectory, resolve_congr reordered]

theorem readBytes_congr (reordered : IsReordered tree other) (path : Path) :
    tree.readBytes path = other.readBytes path := by
  rw [readBytes, readBytes, resolve_congr reordered]

theorem readText_congr (reordered : IsReordered tree other) (path : Path) :
    tree.readText path = other.readText path := by
  rw [readText, readText, readBytes_congr reordered]

/-! ## Walking -/

theorem find?_eq (tree : FileTree) (inside : List Location) (here : Location) (path : Path)
    (name : Bytes) :
    tree.find? inside here path name =
      match tree.shownAt here name with
      | some (.file _) => some .file
      | some .directory => some .directory
      | some (.link _) =>
          match tree.resolve path with
          | .ok (.file _) => some .file
          | .ok (.directory location) => if location ∈ inside then none else some .directory
          | .error _ => none
      | none => none := by
  rw [find?, shownAt]
  cases (tree.listing here).lookup name with
  | none => rfl
  | some entry => cases entry <;> rfl

theorem find?_congr (reordered : IsReordered tree other) (inside : List Location)
    (here : Location) (path : Path) (name : Bytes) :
    tree.find? inside here path name = other.find? inside here path name := by
  simp only [find?_eq, shownAt_congr reordered, resolve_congr reordered]

/-- A walk goes the same way in both trees.  By induction on the walk. -/
theorem visits_congr (reordered : IsReordered tree other) (keeps : Keeps)
    (inside : List Location) (path : Path) (names : List Bytes) :
    tree.visits keeps inside path names = other.visits keeps inside path names := by
  induction inside, path, names using visits.induct tree with
  | case1 inside path names here reached ih =>
      rw [visits_of_directory reached,
        visits_of_directory ((resolve_congr reordered path).symm.trans reached),
        ← names_congr reordered]
      refine List.flatMap_congr fun name listed => ?_
      rw [visitsAt, visitsAt, find?_congr reordered, ih name listed]
  | case2 inside path names nowhere =>
      have nowhereOther : ∀ here, other.resolve path ≠ .ok (.directory here) := by
        intro here
        rw [← resolve_congr reordered]
        exact nowhere here
      rw [visits_of_not_directory nowhere, visits_of_not_directory nowhereOther]

end FileTree

namespace Chart

open FileTree

variable {tree other : FileTree}

/-! ## Loading -/

theorem collect_congr (reordered : IsReordered tree other) (root : Path) (visits : List Visit) :
    collect tree root visits = collect other root visits := by
  induction visits with
  | nil => rfl
  | cons visit rest ih =>
      cases visit with
      | fault => rfl
      | file names => rw [collect, collect, readBytes_congr reordered, ih]

theorem readFiles_congr (reordered : IsReordered tree other) (root : Path) :
    readFiles tree root = readFiles other root := by
  have rules : readIgnoreRules tree root = readIgnoreRules other root := by
    simp only [readIgnoreRules, isFile_congr reordered, readText_congr reordered]
  simp only [readFiles, rules, visits_congr reordered, collect_congr reordered]

theorem subchartNames_congr (reordered : IsReordered tree other) (root : Path) :
    subchartNames tree root = subchartNames other root := by
  simp only [subchartNames, resolve_congr reordered, names_congr reordered]

/-- Where there is no directory, the error tells what there is. -/
theorem load_of_not_directory {root : Path}
    (nowhere : ∀ here, tree.resolve root ≠ .ok (.directory here)) :
    load tree root =
      match tree.resolve root with
      | .error .notFound => .error (.notFound root)
      | .error e => .error (.unreadable root e)
      | .ok _ => .error (.notADirectory root) := by
  rw [load]
  split
  · simp_all
  · simp_all
  · simp_all
  · rename_i here reached
    exact absurd reached (nowhere here)

/-- What is loaded does not depend on the order of listings.  By induction on the length that is
left for paths: the path of an inner chart is longer. -/
theorem load_congr (reordered : IsReordered tree other) (root : Path) :
    load tree root = load other root := by
  generalize left : pathLimit + 1 - root.bytes.length = n
  induction n using Nat.strongRecOn generalizing root with
  | _ n ih =>
      by_cases isDirectory : tree.isDirectory root = true
      · obtain ⟨here, reached⟩ := isDirectory_iff.mp isDirectory
        have limit := length_le_of_resolve reached
        have inner : (subchartNames tree root).mapM (loadEntry tree root) =
            (subchartNames tree root).mapM (loadEntry other root) := by
          refine mapM_congr_of_mem fun name listed => ?_
          have longer := length_lt_length_subchartPath root (ne_nil_of_mem_subchartNames listed)
          have loaded : load tree (subchartPath root name) = load other (subchartPath root name) :=
            ih (pathLimit + 1 - (subchartPath root name).bytes.length) (by omega) _ rfl
          rw [loadEntry, loadEntry, isDirectory_congr reordered, loaded]
        rw [load_of_directory reached,
          load_of_directory ((resolve_congr reordered root).symm.trans reached), inner]
        simp only [readMetadata, readValues, isFile_congr reordered, readText_congr reordered,
          readFiles_congr reordered, subchartNames_congr reordered]
      · have nowhere : ∀ here, tree.resolve root ≠ .ok (.directory here) := by
          intro here reached
          exact isDirectory (isDirectory_iff.mpr ⟨here, reached⟩)
        rw [load_of_not_directory nowhere,
          load_of_not_directory fun here => resolve_congr reordered root ▸ nowhere here,
          resolve_congr reordered]

end Chart

end ChartOperator
