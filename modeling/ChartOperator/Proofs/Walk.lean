import ChartOperator.Proofs.Lookup
import Mathlib.Data.List.Basic

/-!
# What a walk visits

A walk without faults visits exactly the files for which the condition holds all the way: for every
directory on the way and for the file itself.  It visits them in ascending order, name by name, and
so no file twice.
-/

namespace ChartOperator

namespace FileTree

variable {tree : FileTree}

/-! ## The names in a directory -/

theorem nameLt_irrefl (name : Bytes) : nameLt name name = false := by
  induction name with
  | nil => rfl
  | cons b rest ih => simp [nameLt, ih]

theorem nameLt_trans {first second third : Bytes} (left : nameLt first second = true)
    (right : nameLt second third = true) : nameLt first third = true := by
  induction first generalizing second third with
  | nil =>
      cases second with
      | nil => simp [nameLt] at left
      | cons b bs => cases third <;> simp_all [nameLt]
  | cons a as ih =>
      cases second with
      | nil => simp [nameLt] at left
      | cons b bs =>
          cases third with
          | nil => simp [nameLt] at right
          | cons c cs =>
              simp only [nameLt, Bool.or_eq_true, decide_eq_true_eq, Bool.and_eq_true,
                beq_iff_eq] at left right ⊢
              rcases left with less | ⟨rfl, less⟩
              · rcases right with more | ⟨rfl, -⟩
                · exact Or.inl (UInt8.lt_trans less more)
                · exact Or.inl less
              · rcases right with more | ⟨rfl, more⟩
                · exact Or.inl more
                · exact Or.inr ⟨rfl, ih less more⟩

/-- Of two different names one comes before the other. -/
theorem nameLt_of_not_nameLt {first second : Bytes} (different : first ≠ second)
    (notBefore : nameLt first second = false) : nameLt second first = true := by
  induction first generalizing second with
  | nil => cases second <;> simp_all [nameLt]
  | cons a as ih =>
      cases second with
      | nil => rfl
      | cons b bs =>
          simp only [nameLt, Bool.or_eq_false_iff, decide_eq_false_iff_not, UInt8.not_lt,
            Bool.and_eq_false_iff, beq_eq_false_iff_ne] at notBefore
          simp only [nameLt, Bool.or_eq_true, decide_eq_true_eq, Bool.and_eq_true, beq_iff_eq]
          by_cases equal : a = b
          · subst equal
            have restDifferent : as ≠ bs := fun same => different (by rw [same])
            exact Or.inr ⟨rfl, ih restDifferent (by simpa using notBefore.2)⟩
          · exact Or.inl (UInt8.lt_of_le_of_ne notBefore.1 (Ne.symm equal))

@[simp]
theorem mem_insertByBytes {name other : Bytes} {names : List Bytes} :
    other ∈ insertByBytes name names ↔ other = name ∨ other ∈ names := by
  induction names with
  | nil => simp [insertByBytes]
  | cons n rest ih =>
      unfold insertByBytes
      split
      · simp
      · split
        · rename_i same
          simp [same]
        · simp [ih, or_left_comm]

theorem pairwise_insertByBytes {name : Bytes} {names : List Bytes}
    (ascending : names.Pairwise fun a b => nameLt a b = true) :
    (insertByBytes name names).Pairwise fun a b => nameLt a b = true := by
  induction names with
  | nil => simp [insertByBytes]
  | cons n rest ih =>
      obtain ⟨first, others⟩ := List.pairwise_cons.mp ascending
      unfold insertByBytes
      split
      · rename_i before
        refine List.pairwise_cons.mpr ⟨fun other mem => ?_, ascending⟩
        rcases List.mem_cons.mp mem with rfl | mem
        · exact before
        · exact nameLt_trans before (first other mem)
      · rename_i notBefore
        split
        · exact ascending
        · rename_i different
          refine List.pairwise_cons.mpr ⟨fun other mem => ?_, ih others⟩
          rcases mem_insertByBytes.mp mem with rfl | mem
          · exact nameLt_of_not_nameLt different (by simpa using notBefore)
          · exact first other mem

@[simp]
theorem mem_foldr_insertByBytes {name : Bytes} {names : List Bytes} :
    name ∈ names.foldr insertByBytes [] ↔ name ∈ names := by
  induction names with
  | nil => simp
  | cons n rest ih => simp [ih]

theorem pairwise_foldr_insertByBytes (names : List Bytes) :
    (names.foldr insertByBytes []).Pairwise fun a b => nameLt a b = true := by
  induction names with
  | nil => exact List.Pairwise.nil
  | cons n rest ih => exact pairwise_insertByBytes ih

theorem mem_map_fst_iff {name : Bytes} {entries : List (Bytes × FileEntry)} :
    name ∈ entries.map (·.1) ↔ ∃ entry, entries.lookup name = some entry := by
  induction entries with
  | nil => simp
  | cons named rest ih =>
      obtain ⟨n, entry⟩ := named
      by_cases same : name = n
      · simp [same]
      · rw [List.map_cons, List.mem_cons, List.lookup_cons, beq_false_of_ne same]
        simp [same, ih]

/-- The names in a directory are those of its entries that can be names. -/
theorem mem_names_iff {here : Location} {name : Bytes} :
    name ∈ tree.names here ↔
      isName name = true ∧ ∃ entry, (tree.listing here).lookup name = some entry := by
  rw [names, List.mem_filter, mem_foldr_insertByBytes, mem_map_fst_iff, and_comm]

theorem pairwise_names (here : Location) :
    (tree.names here).Pairwise fun a b => nameLt a b = true :=
  (pairwise_foldr_insertByBytes _).filter _

/-! ## What is found under a name -/

/-- What stands at a path: a directory if the path leads to one, else a file. -/
def kindAt (tree : FileTree) (path : Path) : Found :=
  if tree.isDirectory path then .directory else .file

theorem kindAt_of_isFile {path : Path} (isFile : tree.isFile path = true) :
    tree.kindAt path = .file := by
  simp [kindAt, isDirectory_eq_false_of_isFile isFile]

theorem kindAt_of_resolve {path : Path} {here : Location}
    (reached : tree.resolve path = .ok (.directory here)) : tree.kindAt path = .directory := by
  simp [kindAt, isDirectory_iff.mpr ⟨here, reached⟩]

/-- A walk finds what a path leads to, unless a link leads back to where the walk is. -/
theorem find?_of_resolve {inside : List Location} {here : Location} {path : Path} {name : Bytes}
    {target : Target} (reached : tree.resolve path = .ok (.directory here))
    (named : isName name = true) (found : tree.resolve (path.join name) = .ok target)
    (noFault : tree.find? inside here (path.join name) name ≠ none) :
    tree.find? inside here (path.join name) name = some (tree.kindAt (path.join name)) := by
  obtain ⟨entry, looked, leads⟩ := lookup_of_resolve_join reached named found
  unfold find? at noFault ⊢
  rw [looked] at noFault ⊢
  cases entry with
  | file content =>
      subst leads
      simp [kindAt_of_isFile (isFile_iff.mpr ⟨content, found⟩)]
  | directory entries =>
      subst leads
      simp [kindAt_of_resolve found]
  | link linked =>
      cases target with
      | file content =>
          simp [found, kindAt_of_isFile (isFile_iff.mpr ⟨content, found⟩)]
      | directory place =>
          simp only [found] at noFault ⊢
          split
          · simp_all
          · simp [kindAt_of_resolve found]

/-! ## Files that are visited -/

/-- The names on the way to a visited file. -/
def Visit.names? : Visit → Option (List Bytes)
  | .file names => some names
  | .fault => none

@[simp]
theorem Visit.names?_eq_some_iff {visit : Visit} {names : List Bytes} :
    visit.names? = some names ↔ visit = .file names := by
  cases visit <;> simp [names?]

/-- What a walk visits under a name of a directory. -/
def visitsAt (tree : FileTree) (keeps : Keeps) (inside : List Location) (here : Location)
    (path : Path) (names : List Bytes) (name : Bytes) : List Visit :=
  match tree.find? (here :: inside) here (path.join name) name with
  | none => [.fault]
  | some .file => if keeps (names ++ [name]) .file then [.file (names ++ [name])] else []
  | some .directory =>
      if keeps (names ++ [name]) .directory then
        tree.visits keeps (here :: inside) (path.join name) (names ++ [name])
      else []

theorem visits_of_directory {keeps : Keeps} {inside : List Location} {path : Path}
    {names : List Bytes} {here : Location}
    (reached : tree.resolve path = .ok (.directory here)) :
    tree.visits keeps inside path names =
      (tree.names here).flatMap (tree.visitsAt keeps inside here path names) := by
  rw [visits]
  split
  · rename_i place found
    obtain rfl : place = here := by
      rw [reached] at found
      simpa using found.symm
    rw [List.flatMap_subtype fun _ _ => rfl, List.unattach_attach]
    rfl
  · simp_all

theorem visits_of_not_directory {keeps : Keeps} {inside : List Location} {path : Path}
    {names : List Bytes} (nowhere : ∀ here, tree.resolve path ≠ .ok (.directory here)) :
    tree.visits keeps inside path names = [.fault] := by
  rw [visits]
  split
  · rename_i found
    exact absurd found (nowhere _)
  · rfl

/-- A condition holds all the way along some names below a path: for everything on the way, as what
it is, and for what is at the end. -/
def KeepsWay (tree : FileTree) (keeps : Keeps) (path : Path) (names below : List Bytes) : Prop :=
  ∀ start, start ≠ [] → start <+: below →
    keeps (names ++ start) (tree.kindAt (start.foldl Path.join path)) = true

theorem keepsWay_cons_iff {keeps : Keeps} {path : Path} {names rest : List Bytes} {name : Bytes} :
    tree.KeepsWay keeps path names (name :: rest) ↔
      keeps (names ++ [name]) (tree.kindAt (path.join name)) = true ∧
        tree.KeepsWay keeps (path.join name) (names ++ [name]) rest := by
  constructor
  · intro kept
    refine ⟨kept [name] (by simp) (by simp), fun start nonempty before => ?_⟩
    simpa using kept (name :: start) (by simp) (List.cons_prefix_cons.mpr ⟨rfl, before⟩)
  · rintro ⟨first, others⟩ start nonempty before
    rcases List.prefix_cons_iff.mp before with rfl | ⟨rest', rfl, restBefore⟩
    · contradiction
    · by_cases last : rest' = []
      · subst last
        exact first
      · simpa using others rest' last restBefore

/-- The files below a directory that a walk is to visit: they are there, and the condition holds all
the way. -/
structure Reaches (tree : FileTree) (keeps : Keeps) (path : Path) (names below : List Bytes) :
    Prop where
  nonempty : below ≠ []
  named : ∀ name ∈ below, isName name = true
  isFile : tree.isFile (below.foldl Path.join path) = true
  kept : tree.KeepsWay keeps path names below

/-- A walk without faults treats every name of a directory as what the longer path leads to. -/
theorem visitsAt_of_resolve {keeps : Keeps} {inside : List Location} {path : Path}
    {names : List Bytes} {name : Bytes} {here : Location} {target : Target}
    (noFault : .fault ∉ tree.visits keeps inside path names)
    (reached : tree.resolve path = .ok (.directory here)) (named : isName name = true)
    (found : tree.resolve (path.join name) = .ok target)
    (kept : keeps (names ++ [name]) (tree.kindAt (path.join name)) = true) :
    tree.visitsAt keeps inside here path names name ⊆ tree.visits keeps inside path names ∧
      tree.visitsAt keeps inside here path names name =
        match tree.kindAt (path.join name) with
        | .file => [.file (names ++ [name])]
        | .directory => tree.visits keeps (here :: inside) (path.join name) (names ++ [name]) := by
  obtain ⟨entry, looked, -⟩ := lookup_of_resolve_join reached named found
  have mem : name ∈ tree.names here := mem_names_iff.mpr ⟨named, entry, looked⟩
  have subset : tree.visitsAt keeps inside here path names name ⊆
      tree.visits keeps inside path names := by
    intro visit visited
    rw [visits_of_directory reached]
    exact List.mem_flatMap.mpr ⟨name, mem, visited⟩
  refine ⟨subset, ?_⟩
  have noGap : tree.find? (here :: inside) here (path.join name) name ≠ none := by
    intro gap
    exact noFault (subset (by simp [visitsAt, gap]))
  rw [visitsAt, find?_of_resolve reached named found noGap]
  cases kind : tree.kindAt (path.join name) with
  | file =>
      rw [kind] at kept
      simp [kept]
  | directory =>
      rw [kind] at kept
      simp [kept]

/-- A walk without faults visits every file that it is to visit.  By induction on the names on the
way; each directory on the way is found because the file behind it is there. -/
theorem file_mem_visits {keeps : Keeps} {inside : List Location} {path : Path}
    {names below : List Bytes} (start : path.bytes ≠ [])
    (noFault : .fault ∉ tree.visits keeps inside path names)
    (reaches : tree.Reaches keeps path names below) :
    .file (names ++ below) ∈ tree.visits keeps inside path names := by
  induction below generalizing inside path names with
  | nil => exact absurd rfl reaches.nonempty
  | cons name rest ih =>
      obtain ⟨content, found⟩ := isFile_iff.mp reaches.isFile
      obtain ⟨here, reached⟩ :=
        exists_directory_of_resolve_foldl start reaches.nonempty reaches.named found
      obtain ⟨keepsFirst, keepsRest⟩ := keepsWay_cons_iff.mp reaches.kept
      have named := reaches.named name List.mem_cons_self
      have joined := Path.join_bytes_ne_nil start name
      by_cases last : rest = []
      · subst last
        obtain ⟨subset, visited⟩ :=
          visitsAt_of_resolve noFault reached named found keepsFirst
        have isFile : tree.kindAt (path.join name) = .file := kindAt_of_isFile reaches.isFile
        rw [isFile] at visited
        exact subset (by simp [visited])
      · have restNamed : ∀ other ∈ rest, isName other = true :=
          fun other mem => reaches.named other (List.mem_cons_of_mem _ mem)
        obtain ⟨place, placed⟩ := exists_directory_of_resolve_foldl joined last restNamed found
        obtain ⟨subset, visited⟩ :=
          visitsAt_of_resolve noFault reached named placed keepsFirst
        rw [kindAt_of_resolve placed] at visited
        rw [visited] at subset
        have deeper := ih joined (fun fault => noFault (subset fault))
          ⟨last, restNamed, reaches.isFile, keepsRest⟩
        exact subset (by simpa using deeper)

/-- A walk visits only files below its start whose names can be names; and if such a file is there,
the condition holds all the way to it. -/
theorem exists_of_file_mem_visits {keeps : Keeps} {inside : List Location} {path : Path}
    {names found : List Bytes} (mem : .file found ∈ tree.visits keeps inside path names) :
    ∃ below, found = names ++ below ∧
      (tree.isFile (below.foldl Path.join path) = true → tree.Reaches keeps path names below) := by
  induction inside, path, names using visits.induct tree with
  | case1 inside path names here reached ih =>
      rw [visits_of_directory reached] at mem
      obtain ⟨name, listed, visited⟩ := List.mem_flatMap.mp mem
      have named := (mem_names_iff.mp listed).1
      unfold visitsAt at visited
      split at visited
      · simp at visited
      · split at visited
        · rename_i kept
          obtain rfl : found = names ++ [name] := by simpa using visited
          refine ⟨[name], rfl, fun isFile => ⟨by simp, by simpa using named, isFile, ?_⟩⟩
          refine keepsWay_cons_iff.mpr ⟨?_, fun start nonempty before => ?_⟩
          · have last : tree.kindAt (path.join name) = .file := kindAt_of_isFile isFile
            rw [last]
            exact kept
          · exact absurd (List.prefix_nil.mp before) nonempty
        · simp at visited
      · split at visited
        · rename_i kept
          obtain ⟨below, rfl, reaches⟩ := ih name listed visited
          refine ⟨name :: below, by simp, fun isFile => ?_⟩
          have deeper := reaches isFile
          refine ⟨by simp, ?_, isFile, keepsWay_cons_iff.mpr ⟨?_, deeper.kept⟩⟩
          · intro other otherMem
            rcases List.mem_cons.mp otherMem with rfl | otherMem
            · exact named
            · exact deeper.named other otherMem
          · obtain ⟨content, there⟩ := isFile_iff.mp isFile
            obtain ⟨place, placed⟩ := exists_directory_of_resolve_foldl
              (Path.join_bytes_ne_nil (bytes_ne_nil_of_resolve reached) name) deeper.nonempty
              deeper.named there
            rw [kindAt_of_resolve placed]
            exact kept
        · simp at visited
  | case2 inside path names nowhere =>
      rw [visits_of_not_directory nowhere] at mem
      simp at mem

/-! ## The order of visits -/

/-- The order of paths, name by name. -/
def PathLt : List Bytes → List Bytes → Prop :=
  List.Lex fun a b => nameLt a b = true

theorem not_pathLt_self (names : List Bytes) : ¬ PathLt names names :=
  List.lex_irrefl (fun name => by simp [nameLt_irrefl]) names

theorem pathLt_append {first second : Bytes} (before : nameLt first second = true)
    (names as bs : List Bytes) : PathLt (names ++ first :: as) (names ++ second :: bs) := by
  induction names with
  | nil => exact List.Lex.rel before
  | cons name rest ih => exact List.Lex.cons ih

/-- What a walk visits under a name lies under this name. -/
theorem exists_of_file_mem_visitsAt {keeps : Keeps} {inside : List Location} {here : Location}
    {path : Path} {names found : List Bytes} {name : Bytes}
    (mem : .file found ∈ tree.visitsAt keeps inside here path names name) :
    ∃ below, found = names ++ name :: below := by
  unfold visitsAt at mem
  split at mem
  · simp at mem
  · split at mem
    · exact ⟨[], by simpa using mem⟩
    · simp at mem
  · split at mem
    · obtain ⟨below, rfl, -⟩ := exists_of_file_mem_visits mem
      exact ⟨below, by simp⟩
    · simp at mem

/-- A walk visits files in ascending order.  By induction on the walk: the names in a directory are
ascending, and so is what lies under one of them. -/
theorem pairwise_visits (keeps : Keeps) (inside : List Location) (path : Path)
    (names : List Bytes) :
    (tree.visits keeps inside path names).Pairwise fun first second =>
      ∀ a b, first = .file a → second = .file b → PathLt a b := by
  induction inside, path, names using visits.induct tree with
  | case1 inside path names here reached ih =>
      rw [visits_of_directory reached, List.pairwise_flatMap]
      constructor
      · intro name listed
        unfold visitsAt
        split
        · exact List.pairwise_singleton _ _
        · split
          · exact List.pairwise_singleton _ _
          · exact List.Pairwise.nil
        · split
          · exact ih name listed
          · exact List.Pairwise.nil
      · refine (pairwise_names here).imp ?_
        rintro first second before _ visited _ visited' a b rfl rfl
        obtain ⟨as, rfl⟩ := exists_of_file_mem_visitsAt visited
        obtain ⟨bs, rfl⟩ := exists_of_file_mem_visitsAt visited'
        exact pathLt_append before names as bs
  | case2 inside path names nowhere =>
      rw [visits_of_not_directory nowhere]
      exact List.pairwise_singleton _ _

/-- The visited files, in the order of the visits, are ascending. -/
theorem pairwise_visited (keeps : Keeps) (inside : List Location) (path : Path)
    (names : List Bytes) :
    ((tree.visits keeps inside path names).filterMap Visit.names?).Pairwise PathLt := by
  refine List.pairwise_filterMap.mpr ((pairwise_visits keeps inside path names).imp ?_)
  intro first second less a isFirst b isSecond
  exact less a b (Visit.names?_eq_some_iff.mp isFirst) (Visit.names?_eq_some_iff.mp isSecond)

end FileTree

end ChartOperator
