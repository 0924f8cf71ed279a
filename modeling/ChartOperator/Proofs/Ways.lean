import ChartOperator.Proofs.Lookup

/-!
# Ways through a tree

A path that leads to a directory goes there on a way: it passes from directory to directory, and
each link on it takes one of the links that may be followed.  The way is unique, and what it takes
is never given back.  So a way that goes down by a name to where it was before has taken a link.
-/

namespace ChartOperator

namespace FileTree

/-- Whether a name stands for an entry, and neither for a directory itself nor for the one above. -/
def NamesEntry (name : Bytes) : Prop :=
  name ≠ [] ∧ name ≠ [0x2E] ∧ name ≠ [0x2E, 0x2E]

/-- A way through a tree: names lead from one directory to another, and of the links that may be
followed some are left. -/
inductive Way (tree : FileTree) : Nat → Location → List Bytes → Nat → Location → Prop where
  | done (links : Nat) (here : Location) : Way tree links here [] links here
  | stay {links left : Nat} {here place : Location} {name : Bytes} {rest : List Bytes}
      (blank : name = [] ∨ name = [0x2E]) (onward : Way tree links here rest left place) :
      Way tree links here (name :: rest) left place
  | up {links left : Nat} {here place : Location} {rest : List Bytes}
      (onward : Way tree links here.parent rest left place) :
      Way tree links here ([0x2E, 0x2E] :: rest) left place
  | down {links left : Nat} {here place : Location} {name : Bytes} {rest : List Bytes}
      {entries : List (Bytes × FileEntry)} (named : NamesEntry name)
      (entry : (tree.listing here).lookup name = some (.directory entries))
      (onward : Way tree links (here.child name) rest left place) :
      Way tree links here (name :: rest) left place
  | link {links left : Nat} {here place : Location} {name : Bytes} {rest : List Bytes}
      {target : Path} (named : NamesEntry name)
      (entry : (tree.listing here).lookup name = some (.link target))
      (onward :
        Way tree links (origin here target) (Path.components target.bytes ++ rest) left place) :
      Way tree (links + 1) here (name :: rest) left place

variable {tree : FileTree} {links left : Nat} {here place : Location} {names : List Bytes}

theorem Way.unique {otherLeft : Nat} {otherPlace : Location}
    (way : Way tree links here names left place)
    (other : Way tree links here names otherLeft otherPlace) :
    otherLeft = left ∧ otherPlace = place := by
  induction way with
  | done => cases other; exact ⟨rfl, rfl⟩
  | stay blank _ ih =>
      cases other with
      | stay _ onward => exact ih onward
      | up _ => simp at blank
      | down named => simp_all [NamesEntry]
      | link named => simp_all [NamesEntry]
  | up _ ih =>
      cases other with
      | stay blank _ => simp at blank
      | up onward => exact ih onward
      | down named => simp_all [NamesEntry]
      | link named => simp_all [NamesEntry]
  | down named entry _ ih =>
      cases other with
      | stay blank _ => simp_all [NamesEntry]
      | up _ => simp_all [NamesEntry]
      | down _ _ onward => exact ih onward
      | link _ linked => simp_all
  | link named entry _ ih =>
      cases other with
      | stay blank _ => simp_all [NamesEntry]
      | up _ => simp_all [NamesEntry]
      | down _ directory => simp_all
      | link _ linked onward =>
          rw [entry] at linked
          cases linked
          exact ih onward

theorem Way.split {before after : List Bytes}
    (way : Way tree links here (before ++ after) left place) :
    ∃ between middle, Way tree links here before between middle ∧
      Way tree between middle after left place := by
  generalize whole : before ++ after = names at way
  induction way generalizing before with
  | done links here =>
      obtain ⟨rfl, rfl⟩ := List.append_eq_nil_iff.mp whole
      exact ⟨links, here, .done links here, .done links here⟩
  | @stay links left here place name rest blank onward ih =>
      cases before with
      | nil => subst whole; exact ⟨links, here, .done links here, .stay blank onward⟩
      | cons first others =>
          obtain ⟨rfl, tail⟩ := List.cons.inj whole
          obtain ⟨between, middle, start, rest⟩ := ih tail
          exact ⟨between, middle, .stay blank start, rest⟩
  | @up links left here place rest onward ih =>
      cases before with
      | nil => subst whole; exact ⟨links, here, .done links here, .up onward⟩
      | cons first others =>
          obtain ⟨rfl, tail⟩ := List.cons.inj whole
          obtain ⟨between, middle, start, rest⟩ := ih tail
          exact ⟨between, middle, .up start, rest⟩
  | @down links left here place name rest entries named entry onward ih =>
      cases before with
      | nil => subst whole; exact ⟨links, here, .done links here, .down named entry onward⟩
      | cons first others =>
          obtain ⟨rfl, tail⟩ := List.cons.inj whole
          obtain ⟨between, middle, start, rest⟩ := ih tail
          exact ⟨between, middle, .down named entry start, rest⟩
  | @link links left here place name rest target named entry onward ih =>
      cases before with
      | nil => subst whole; exact ⟨links + 1, here, .done _ here, .link named entry onward⟩
      | cons first others =>
          obtain ⟨rfl, rfl⟩ := List.cons.inj whole
          obtain ⟨between, middle, start, rest⟩ := ih (List.append_assoc _ others after)
          exact ⟨between, middle, .link named entry start, rest⟩

theorem Way.append {between : Nat} {middle : Location} {after : List Bytes}
    (first : Way tree links here names between middle)
    (second : Way tree between middle after left place) :
    Way tree links here (names ++ after) left place := by
  induction first with
  | done => exact second
  | stay blank _ ih => exact .stay blank (ih second)
  | up _ ih => exact .up (ih second)
  | down named entry _ ih => exact .down named entry (ih second)
  | link named entry _ ih =>
      have onward := ih second
      rw [List.append_assoc] at onward
      exact .link named entry onward

/-- What a way takes is never given back. -/
theorem Way.left_le (way : Way tree links here names left place) : left ≤ links := by
  induction way with
  | done => exact Nat.le_refl _
  | stay _ _ ih => exact ih
  | up _ ih => exact ih
  | down _ _ _ ih => exact ih
  | link _ _ _ ih => exact Nat.le_succ_of_le ih

/-- Without links on it, a way takes none. -/
theorem Way.left_eq_of_noLinks (noLinks : ∀ here name target,
    (tree.listing here).lookup name ≠ some (.link target))
    (way : Way tree links here names left place) : left = links := by
  induction way with
  | done => rfl
  | stay _ _ ih => exact ih
  | up _ ih => exact ih
  | down _ _ _ ih => exact ih
  | link _ entry _ _ => exact absurd entry (noLinks _ _ _)

/-! ## Ways and looking up -/

theorem namesEntry_of_isName {name : Bytes} (named : isName name = true) : NamesEntry name := by
  obtain ⟨nonempty, -, -, notDot, notDots⟩ := isName_iff.mp named
  exact ⟨nonempty, notDot, notDots⟩

/-- If there is a way behind every link, there is one that goes through directories first. -/
theorem exists_way_of_descend {follow : Location → Path → List Bytes → Except FileError Target}
    (followed : ∀ here name target rest, NamesEntry name →
      (tree.listing here).lookup name = some (.link target) →
        follow here target rest = .ok (.directory place) →
          ∃ left, Way tree links here (name :: rest) left place)
    (found : tree.descend follow here names = .ok (.directory place)) :
    ∃ left, Way tree links here names left place := by
  induction names generalizing here with
  | nil =>
      obtain rfl : here = place := by simpa [descend] using found
      exact ⟨links, .done links here⟩
  | cons name rest ih =>
      unfold descend at found
      split at found
      · rename_i blank
        obtain ⟨left, onward⟩ := ih found
        exact ⟨left, .stay (by simpa using blank) onward⟩
      · rename_i notBlank
        split at found
        · rename_i dots
          subst dots
          obtain ⟨left, onward⟩ := ih found
          exact ⟨left, .up onward⟩
        · rename_i notDots
          have named : NamesEntry name := by
            simp only [Bool.or_eq_true, decide_eq_true_eq, not_or] at notBlank
            exact ⟨notBlank.1, notBlank.2, notDots⟩
          split at found
          · contradiction
          · split at found
            · contradiction
            · rename_i entries entry
              obtain ⟨left, onward⟩ := ih found
              exact ⟨left, .down named entry onward⟩
            · split at found
              · simp at found
              · contradiction
            · rename_i target entry
              exact followed here name target rest named entry found

/-- There is a way to every directory that is found.  By induction on the links that are left. -/
theorem exists_way_of_locate (found : tree.locate links here names = .ok (.directory place)) :
    ∃ left, Way tree links here names left place := by
  induction links generalizing here names with
  | zero =>
      refine exists_way_of_descend ?_ found
      intro here name target rest _ _ followed
      contradiction
  | succ links ih =>
      refine exists_way_of_descend ?_ found
      intro here name target rest named entry followed
      obtain ⟨left, onward⟩ := ih followed
      exact ⟨left, .link named entry onward⟩

/-! ## Going down -/

/-- How far a directory is from the root. -/
def Location.depth (location : Location) : Nat := location.names.length

theorem Location.depth_lt_depth_child (here : Location) (name : Bytes) :
    here.depth < (here.child name).depth := by
  simp [depth, child]

/-- A way from a directory goes forward: it takes a link, or goes down. -/
def Forward (links : Nat) (here : Location) (left : Nat) (place : Location) : Prop :=
  left < links ∨ left = links ∧ here.depth < place.depth

theorem Forward.trans {between : Nat} {middle : Location}
    (first : Forward links here between middle) (second : Forward between middle left place) :
    Forward links here left place := by
  unfold Forward at *
  omega

/-- A way forward to the same directory takes a link. -/
theorem Forward.lt_of_same (forward : Forward links here left here) : left < links := by
  unfold Forward at forward
  omega

theorem Way.forward_of_isName {name : Bytes} (named : isName name = true)
    (way : Way tree links here [name] left place) : Forward links here left place := by
  obtain ⟨nonempty, notDot, notDots⟩ := namesEntry_of_isName named
  cases way with
  | stay blank _ => simp_all
  | up _ => contradiction
  | down _ _ onward =>
      cases onward with
      | done => exact Or.inr ⟨rfl, Location.depth_lt_depth_child here name⟩
  | link _ _ onward => exact Or.inl (Nat.lt_succ_of_le onward.left_le)

/-! ## Paths -/

/-- The directory to which a path leads, if it leads to one. -/
def place? (tree : FileTree) (path : Path) : Option Location :=
  match tree.resolve path with
  | .ok (.directory here) => some here
  | _ => none

theorem place?_eq_some_iff {path : Path} :
    tree.place? path = some place ↔ tree.resolve path = .ok (.directory place) := by
  unfold place?
  split
  · rename_i here reached
    simp [reached]
  · rename_i nowhere
    simp only [reduceCtorEq, false_iff]
    exact nowhere place

/-- A path leads to a directory, and of the links that may be followed some are left. -/
def LeadsTo (tree : FileTree) (path : Path) (left : Nat) (place : Location) : Prop :=
  Way tree linkLimit (tree.start path) (Path.components path.bytes) left place

theorem LeadsTo.le_linkLimit {path : Path} (leads : LeadsTo tree path left place) :
    left ≤ linkLimit :=
  Way.left_le leads

theorem exists_leadsTo_of_place? {path : Path} (reached : tree.place? path = some place) :
    ∃ left, LeadsTo tree path left place :=
  exists_way_of_locate (resolve_eq_ok_iff.mp (place?_eq_some_iff.mp reached)).2

/-- A path with one more name goes on from where the path leads. -/
theorem exists_way_of_leadsTo_join {path : Path} {name : Bytes} (nonempty : path.bytes ≠ [])
    (named : isName name = true) (leads : LeadsTo tree (path.join name) left place) :
    ∃ links here, LeadsTo tree path links here ∧ Way tree links here [name] left place := by
  obtain ⟨names, longer, shorter⟩ := Path.components_join nonempty (isName_iff.mp named).2.1
  rw [LeadsTo, longer, start_join nonempty] at leads
  obtain ⟨links, here, start, last⟩ := Way.split leads
  refine ⟨links, here, ?_, last⟩
  rcases shorter with same | slashed
  · rw [LeadsTo, same]
    exact start
  · rw [LeadsTo, slashed]
    exact start.append (.stay (Or.inl rfl) (.done links here))

end FileTree

end ChartOperator
