import ChartOperator.FileTree.Single
import ChartOperator.Proofs.Lookup

/-!
# Reading the single file

In the tree that is made for a file, the file is read under its path.  The directories on the way
are made one after the other, and none of them is lost when the next one is made or the file is
added.
-/

namespace ChartOperator

namespace FileTree

variable {entries : List (Bytes × FileEntry)} {names way : List Bytes} {name last : Bytes}
  {here : Location} {content : Bytes} {tree : FileTree}

/-! ## Entries under names -/

theorem lookup_withEntry_self (entry : FileEntry) :
    (withEntry entries name entry).lookup name = some entry :=
  List.lookup_cons_self

theorem lookup_withEntry_of_ne {other : Bytes} (different : other ≠ name) (entry : FileEntry) :
    (withEntry entries name entry).lookup other = entries.lookup other := by
  rw [withEntry, List.lookup_cons, beq_false_of_ne different]
  change (entries.filter fun named => named.1 ≠ name).lookup other = entries.lookup other
  induction entries with
  | nil => rfl
  | cons first rest ih =>
      obtain ⟨key, value⟩ := first
      by_cases own : key = name
      · subst own
        rw [List.filter_cons_of_neg (by simp), List.lookup_cons, beq_false_of_ne different]
        exact ih
      · rw [List.filter_cons_of_pos (by simpa using own), List.lookup_cons, List.lookup_cons, ih]

theorem entriesAt_nil : ∀ names, entriesAt [] names = []
  | [] => rfl
  | _ :: _ => rfl

theorem entriesAt_cons (name : Bytes) (rest : List Bytes) :
    entriesAt entries (name :: rest) = entriesAt (entriesAt entries [name]) rest := by
  rw [entriesAt, entriesAt]
  split
  · rfl
  · exact (entriesAt_nil rest).symm

/-- A change is what is seen in the directory that is changed. -/
theorem entriesAt_changeAt (change : List (Bytes × FileEntry) → List (Bytes × FileEntry)) :
    entriesAt (changeAt change entries names) names = change (entriesAt entries names) := by
  induction names generalizing entries with
  | nil => rfl
  | cons name rest ih =>
      rw [changeAt, entriesAt, lookup_withEntry_self, entriesAt_cons name rest]
      exact ih

/-! ## Directories -/

/-- Whether there is a directory at the end of a chain of names. -/
def HasDirectory (entries : List (Bytes × FileEntry)) : List Bytes → Prop
  | [] => True
  | name :: rest =>
      ∃ inner, entries.lookup name = some (.directory inner) ∧ HasDirectory inner rest

theorem hasDirectory_changeAt_self
    (change : List (Bytes × FileEntry) → List (Bytes × FileEntry))
    (entries : List (Bytes × FileEntry)) (names : List Bytes) :
    HasDirectory (changeAt change entries names) names := by
  induction names generalizing entries with
  | nil => trivial
  | cons name rest ih => exact ⟨_, lookup_withEntry_self _, ih _⟩

/-- A directory is still there after a change that keeps what is below the directory that is
changed. -/
theorem HasDirectory.changeAt {change : List (Bytes × FileEntry) → List (Bytes × FileEntry)}
    {changed : List Bytes} (has : HasDirectory entries names)
    (kept : ∀ inner rest, names = changed ++ rest → HasDirectory inner rest →
      HasDirectory (change inner) rest) :
    HasDirectory (changeAt change entries changed) names := by
  induction changed generalizing entries names with
  | nil => exact kept entries names rfl has
  | cons name others ih =>
      cases names with
      | nil => trivial
      | cons first rest =>
          obtain ⟨inner, found, below⟩ := has
          by_cases same : first = name
          · subst same
            refine ⟨_, lookup_withEntry_self _, ?_⟩
            have here : entriesAt entries [first] = inner := by
              rw [entriesAt, found]
              rfl
            rw [here]
            refine ih below fun deep more split => kept deep more ?_
            rw [split, List.cons_append]
          · exact ⟨inner, (lookup_withEntry_of_ne same _).trans found, below⟩

theorem exists_lookup_of_hasDirectory (has : HasDirectory entries (names ++ [name])) :
    ∃ inner, (entriesAt entries names).lookup name = some (.directory inner) := by
  induction names generalizing entries with
  | nil =>
      obtain ⟨inner, found, -⟩ := has
      exact ⟨inner, found⟩
  | cons first rest ih =>
      obtain ⟨inner, found, below⟩ := has
      rw [entriesAt, found]
      exact ih below

/-! ## The way to the file -/

/-- The directory to which names lead from another one. -/
def Location.along (here : Location) (names : List Bytes) : Location :=
  names.foldl Location.step here

theorem lay_cons (content : Bytes) (entries : List (Bytes × FileEntry)) (here : Location)
    (name : Bytes) {rest : List Bytes} (more : rest ≠ []) :
    lay content entries here (name :: rest) =
      lay content (changeAt id entries (here.step name).names) (here.step name) rest := by
  cases rest with
  | nil => contradiction
  | cons _ _ => rfl

/-- A directory is still there once the file is, unless it would be at or below the place of the
file. -/
theorem HasDirectory.lay (has : HasDirectory entries names)
    (apart : ¬ ((here.along way).child last).names <+: names) :
    HasDirectory (lay content entries here (way ++ [last])) names := by
  induction way generalizing entries here with
  | nil =>
      refine has.changeAt fun inner rest split below => ?_
      cases rest with
      | nil => trivial
      | cons first others =>
          have different : first ≠ last := by
            rintro rfl
            exact apart ⟨others, by simp [split, Location.along, Location.child]⟩
          obtain ⟨deep, found, deeper⟩ := below
          exact ⟨deep, (lookup_withEntry_of_ne different _).trans found, deeper⟩
  | cons name rest ih =>
      rw [List.cons_append, lay_cons _ _ _ _ (by simp)]
      exact ih (has.changeAt fun _ _ _ below => below) apart

/-- The names lead to the file.  By induction on the names, each of which leads to a directory that
was made for it. -/
theorem descend_lay {follow : Location → Path → List Bytes → Except FileError Target}
    (laid : tree.entries = lay content entries here (way ++ [last])) (named : isName last = true)
    (short : ∀ name ∈ way ++ [last], name.length ≤ nameLimit)
    (apart : ∀ before after, way = before ++ after →
      ¬ ((here.along way).child last).names <+: (here.along before).names) :
    tree.descend follow here (way ++ [last]) = .ok (.file content) := by
  induction way generalizing entries here with
  | nil =>
      obtain ⟨nonempty, -, -, notDot, notDots⟩ := isName_iff.mp named
      have found : (tree.listing here).lookup last = some (.file content) := by
        rw [listing, laid]
        change (entriesAt (changeAt _ entries here.names) here.names).lookup last = _
        rw [entriesAt_changeAt, lookup_withEntry_self]
      have fits : ¬ nameLimit < last.length := Nat.not_lt.mpr (short last (by simp))
      simp [descend, nonempty, notDot, notDots, fits, found]
  | cons name rest ih =>
      rw [List.cons_append, lay_cons _ _ _ _ (by simp)] at laid
      have onward : tree.descend follow (here.step name) (rest ++ [last]) = .ok (.file content) :=
        ih laid (fun other mem => short other (List.mem_cons_of_mem name mem))
          fun before after split => apart (name :: before) after (by rw [split, List.cons_append])
      rw [List.cons_append, descend]
      by_cases blank : (name = [] || name = [0x2E]) = true
      · have stay : here.step name = here := if_pos blank
        rw [if_pos blank]
        rwa [stay] at onward
      · by_cases dots : name = [0x2E, 0x2E]
        · have up : here.step name = here.parent := (if_neg blank).trans (if_pos dots)
          rw [if_neg blank, if_pos dots]
          rwa [up] at onward
        · have down : here.step name = here.child name := (if_neg blank).trans (if_neg dots)
          have fits : ¬ nameLimit < name.length := Nat.not_lt.mpr (short name (by simp))
          have has : HasDirectory tree.entries (here.child name).names := by
            have made := hasDirectory_changeAt_self id entries (here.step name).names
            rw [laid, ← down]
            exact made.lay (apart [name] rest rfl)
          obtain ⟨inner, found⟩ := exists_lookup_of_hasDirectory has
          rw [if_neg blank, if_neg dots, if_neg fits, listing, found, ← down]
          exact onward

/-- The file is read under its path, unless the path goes through the place of the file itself. -/
theorem readBytes_ofFile {place : Location} {path : Path}
    (zero : 0 ∉ path.bytes) (limit : path.bytes.length ≤ pathLimit)
    (names : Path.components path.bytes = way ++ [last]) (named : isName last = true)
    (short : ∀ name ∈ way ++ [last], name.length ≤ nameLimit)
    (apart : ∀ before after, way = before ++ after →
      ¬ (((origin place path).along way).child last).names <+:
        ((origin place path).along before).names) :
    (ofFile place path content).readBytes path = .ok content := by
  have nonempty : path.bytes ≠ [] := by
    intro empty
    have single : [[]] = way ++ [last] := (congrArg Path.components empty).symm.trans names
    have lastName : some [] = some last := by simpa using congrArg List.getLast? single
    exact (isName_iff.mp named).1 (Option.some.inj lastName).symm
  rw [readBytes_eq_ok_iff, resolve_eq_ok_iff]
  refine ⟨⟨zero, nonempty, limit⟩, ?_⟩
  rw [names]
  exact descend_lay (by rw [ofFile, names]; rfl) named short apart

/-- Paths that start in the root, above the working directory, or with a way back. -/
example :
    ["/etc/app/config.yaml", "../config.yaml", "conf/./../config.yaml"].map (fun path =>
      (ofFile ⟨[Utf8.ofString "srv"]⟩ (.ofString path) [0x61]).readBytes (.ofString path)
        |>.toOption) =
      List.replicate 3 (some [0x61]) := by
  decide +kernel

end FileTree

end ChartOperator
