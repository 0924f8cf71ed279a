import ChartOperator.Proofs.ByteOrder
import ChartOperator.Proofs.Scope
import ChartOperator.Proofs.Text
import Mathlib.Data.Set.Operations

/-!
# The namespaces that a signal selects

A signal stands for the set of the names between its commas: the watches are one for each of them,
whatever their order, their number and the blanks around them, or one for the whole cluster if the
signal is a star or holds no name.  The configured namespace counts only without a signal.
-/

namespace ChartOperator

namespace Scope

/-- The names in a signal: what the pieces between its commas are without surrounding blanks, unless
nothing is left of them. -/
def namesIn (signal : String) : Set String :=
  {name | name ≠ "" ∧ ∃ piece, Text.IsPiece ',' signal.toList piece ∧
    name = String.ofList (Text.trimChars piece)}

/-- The watches for a kind with namespaces. -/
def watches (scope : Scope) : List (Option String) :=
  scope.cacheStrategy.watchNamespaces true

variable {signal name : String}

theorem mem_namesBetweenCommas_iff :
    name ∈ namesBetweenCommas signal.toList ↔ name ∈ namesIn signal := by
  simp only [namesBetweenCommas, List.mem_map, List.mem_filter, Bool.not_eq_true',
    List.isEmpty_eq_false_iff, Text.mem_splitAt_iff, namesIn, Set.mem_ofPred_eq]
  constructor
  · rintro ⟨_, ⟨⟨piece, isPiece, rfl⟩, nonempty⟩, rfl⟩
    exact ⟨by simpa using nonempty, piece, isPiece, rfl⟩
  · rintro ⟨nonempty, piece, isPiece, rfl⟩
    exact ⟨_, ⟨⟨piece, isPiece, rfl⟩, by simpa using nonempty⟩, rfl⟩

theorem namesBetweenCommas_trimChars (cs : List Char) :
    namesBetweenCommas (Text.trimChars cs) = namesBetweenCommas cs := by
  rw [namesBetweenCommas, Text.map_trimChars_splitAt (by decide), namesBetweenCommas]

/-- Without a comma a trimmed text is the only name. -/
theorem namesBetweenCommas_of_not_mem {cs : List Char} (noComma : ',' ∉ Text.trimChars cs)
    (nonempty : Text.trimChars cs ≠ []) :
    namesBetweenCommas cs = [String.ofList (Text.trimChars cs)] := by
  rw [← namesBetweenCommas_trimChars, namesBetweenCommas, Text.splitAt_of_not_mem noComma]
  simp [nonempty]

theorem namesBetweenCommas_of_blank {cs : List Char} (blank : Text.trimChars cs = []) :
    namesBetweenCommas cs = [] := by
  rw [← namesBetweenCommas_trimChars, blank]
  rfl

/-- The names in a signal, in ascending order. -/
def signalNames (signal : String) : List String :=
  nameSet (namesBetweenCommas signal.toList)

theorem mem_signalNames_iff : name ∈ signalNames signal ↔ name ∈ namesIn signal := by
  rw [signalNames, mem_nameSet, mem_namesBetweenCommas_iff]

theorem signalNames_ne_nil_iff : signalNames signal ≠ [] ↔ (namesIn signal).Nonempty := by
  constructor
  · intro nonempty
    obtain ⟨name, mem⟩ := List.exists_mem_of_ne_nil _ nonempty
    exact ⟨name, mem_signalNames_iff.mp mem⟩
  · rintro ⟨name, mem⟩
    exact List.ne_nil_of_mem (mem_signalNames_iff.mpr mem)

theorem signalNames_eq_nil_of_namesIn (empty : namesIn signal = ∅) : signalNames signal = [] := by
  apply List.eq_nil_iff_forall_not_mem.mpr
  intro name mem
  rw [mem_signalNames_iff, empty] at mem
  exact mem

theorem trim_eq_star_iff : Text.trim signal = "*" ↔ Text.trimChars signal.toList = ['*'] := by
  rw [Text.trim, ← String.ofList_inj]

/-- A signal without a comma is blank, or a star, or a single name. -/
theorem ofSignal_of_not_mem (noComma : ',' ∉ Text.trimChars signal.toList) :
    (ofSignal signal = .all ∧ (Text.trim signal = "*" ∨ signalNames signal = [])) ∨
      ∃ name, ofSignal signal = .single name ∧ Text.trim signal ≠ "*" ∧
        signalNames signal = [name] := by
  rw [ne_eq, trim_eq_star_iff, signalNames, ofSignal]
  by_cases blank : Text.trimChars signal.toList = []
  · left
    rw [if_pos (Or.inl blank), namesBetweenCommas_of_blank blank]
    exact ⟨rfl, Or.inr rfl⟩
  · by_cases star : Text.trimChars signal.toList = ['*']
    · left
      rw [if_pos (Or.inr star)]
      exact ⟨rfl, Or.inl star⟩
    · right
      rw [if_neg (not_or.mpr ⟨blank, star⟩), if_neg noComma,
        namesBetweenCommas_of_not_mem noComma blank]
      exact ⟨_, rfl, star, rfl⟩

/-- A signal with a comma stands for the set of its names. -/
theorem ofSignal_of_mem (comma : ',' ∈ Text.trimChars signal.toList) :
    ofSignal signal = ofNames (signalNames signal) ∧ Text.trim signal ≠ "*" := by
  have notBlank : Text.trimChars signal.toList ≠ [] := List.ne_nil_of_mem comma
  have notStar : Text.trimChars signal.toList ≠ ['*'] := by
    intro star
    rw [star] at comma
    exact absurd comma (by decide)
  constructor
  · rw [ofSignal, if_neg (not_or.mpr ⟨notBlank, notStar⟩), if_pos comma,
      namesBetweenCommas_trimChars, signalNames]
  · rw [ne_eq, trim_eq_star_iff]
    exact notStar

/-- The watches for a signal: one for each of its names, unless it is a star or has none. -/
theorem watches_ofSignal (signal : String) :
    (ofSignal signal).watches =
      if Text.trim signal = "*" ∨ signalNames signal = [] then [none]
      else (signalNames signal).map some := by
  by_cases comma : ',' ∈ Text.trimChars signal.toList
  · obtain ⟨same, notStar⟩ := ofSignal_of_mem comma
    rw [same, ofNames]
    by_cases empty : signalNames signal = []
    · rw [if_pos (Or.inr empty), empty]
      rfl
    · rw [if_neg (not_or.mpr ⟨notStar, empty⟩), if_neg (by simp [empty])]
      rfl
  · rcases ofSignal_of_not_mem comma with ⟨all, everywhere⟩ | ⟨name, single, notStar, named⟩
    · rw [all, if_pos everywhere]
      rfl
    · rw [single, named, if_neg (not_or.mpr ⟨notStar, by simp⟩)]
      rfl

/-- A signal selects several namespaces exactly if it has a comma and some name. -/
theorem ofSignal_eq_several_iff {names : List String} :
    ofSignal signal = .several names ↔
      ',' ∈ (Text.trim signal).toList ∧ signalNames signal ≠ [] ∧ names = signalNames signal := by
  rw [Text.trim, String.toList_ofList]
  by_cases comma : ',' ∈ Text.trimChars signal.toList
  · rw [(ofSignal_of_mem comma).1, ofNames]
    by_cases empty : signalNames signal = []
    · simp [empty]
    · rw [if_neg (by simp [empty]), several.injEq, eq_comm]
      exact ⟨fun same => ⟨comma, empty, same⟩, fun holds => holds.2.2⟩
  · rcases ofSignal_of_not_mem comma with ⟨all, -⟩ | ⟨name, single, -, -⟩
    · simp [all, comma]
    · simp [single, comma]

/-- The names in a signal are not blank, trimmed, and without commas. -/
theorem isPlain_of_mem_namesIn (mem : name ∈ namesIn signal) :
    Text.isBlankText name = false ∧ Text.trim name = name ∧ ',' ∉ name.toList := by
  obtain ⟨nonempty, piece, ⟨noComma, -⟩, rfl⟩ := mem
  have trimmed : Text.trim (String.ofList (Text.trimChars piece)) =
      String.ofList (Text.trimChars piece) := by
    simp [Text.trim]
  refine ⟨?_, trimmed, ?_⟩
  · rw [← Bool.not_eq_true, ← Text.trim_eq_empty_iff, trimmed]
    exact nonempty
  · rw [String.toList_ofList]
    exact fun comma => noComma (Text.mem_of_mem_trimChars comma)

/-- Whatever decides, a single namespace has a name. -/
theorem decide_ne_single_empty (signal configured : Option String) :
    decide signal configured ≠ .single "" := by
  intro blank
  cases signal with
  | none =>
      rw [decide, ofConfigured] at blank
      split at blank
      · rename_i name present
        obtain rfl : name = "" := by simpa using blank
        simp at present
      · contradiction
  | some text =>
      rw [decide] at blank
      by_cases comma : ',' ∈ Text.trimChars text.toList
      · rw [(ofSignal_of_mem comma).1, ofNames] at blank
        split at blank <;> contradiction
      · rcases ofSignal_of_not_mem comma with ⟨all, -⟩ | ⟨name, single, -, named⟩
        · rw [all] at blank
          contradiction
        · rw [single, Scope.single.injEq] at blank
          have mem : name ∈ namesIn text := by
            rw [← mem_signalNames_iff, named]
            exact List.mem_singleton_self name
          exact mem.1 blank

/-- Whatever decides, a set of namespaces is not empty. -/
theorem decide_ne_several_nil (signal configured : Option String) :
    decide signal configured ≠ .several [] := by
  intro empty
  cases signal with
  | none =>
      rw [decide, ofConfigured] at empty
      split at empty <;> contradiction
  | some text =>
      obtain ⟨-, nonempty, same⟩ := ofSignal_eq_several_iff.mp empty
      exact nonempty same.symm

/-- What holds of the scope that a signal selects. -/
structure IsSelectedBy (scope : Scope) (signal : String) : Prop where
  /-- A star, or a signal without names, selects the whole cluster. -/
  everywhere : Text.trim signal = "*" ∨ namesIn signal = ∅ → scope.watches = [none]
  /-- Any other signal selects its names, each once, in ascending order of their bytes. -/
  named : Text.trim signal ≠ "*" → (namesIn signal).Nonempty → ∃ names : List String,
    scope.watches = names.map some ∧
      names.Pairwise (fun first second =>
        FileTree.nameLt (Utf8.ofString first) (Utf8.ofString second) = true) ∧
      ∀ name, name ∈ names ↔ name ∈ namesIn signal
  /-- The scope is a set exactly if the signal has a comma and some name. -/
  isSet : (∃ names, scope = .several names) ↔
    ',' ∈ (Text.trim signal).toList ∧ (namesIn signal).Nonempty
  /-- Such a set is not empty, and its names are not blank, trimmed, and without commas. -/
  members : ∀ names, scope = .several names → names ≠ [] ∧ ∀ name ∈ names,
    Text.isBlankText name = false ∧ Text.trim name = name ∧ ',' ∉ name.toList

theorem isSelectedBy_ofSignal (signal : String) : IsSelectedBy (ofSignal signal) signal := by
  constructor
  case everywhere =>
    intro everywhere
    rw [watches_ofSignal, if_pos (everywhere.imp_right signalNames_eq_nil_of_namesIn)]
  case named =>
    intro notStar nonempty
    refine ⟨signalNames signal, ?_, ?_, fun name => mem_signalNames_iff⟩
    · rw [watches_ofSignal, if_neg (not_or.mpr ⟨notStar, signalNames_ne_nil_iff.mpr nonempty⟩)]
    · apply (pairwise_nameSet _).imp
      intro first second less
      exact Utf8.nameLt_ofString_iff.mpr less
  case isSet =>
    simp only [ofSignal_eq_several_iff, ← signalNames_ne_nil_iff]
    simp
  case members =>
    intro names several
    obtain ⟨-, nonempty, rfl⟩ := ofSignal_eq_several_iff.mp several
    exact ⟨nonempty, fun name mem => isPlain_of_mem_namesIn (mem_signalNames_iff.mp mem)⟩

/-- Signals with the same names lead to the same watches. -/
theorem watches_congr {other : String} (notStar : Text.trim signal ≠ "*")
    (otherNotStar : Text.trim other ≠ "*") (same : namesIn other = namesIn signal) :
    (ofSignal other).watches = (ofSignal signal).watches := by
  have sameNames : signalNames other = signalNames signal := by
    apply nameSet_congr
    simp only [mem_namesBetweenCommas_iff, same, implies_true]
  rw [watches_ofSignal, watches_ofSignal, sameNames]
  simp [notStar, otherNotStar]

/-- A signal decides the scope by the set of its names, whatever namespace is configured; without a
signal the configured namespace decides, unless it is empty.  A kind without namespaces always has
one watch for the whole cluster. -/
theorem decide_selects (signal : String) (configured : Option String) :
    IsSelectedBy (decide (some signal) configured) signal ∧
      (∀ other, decide (some signal) other = decide (some signal) configured) ∧
      (∀ other otherConfigured, Text.trim signal ≠ "*" → Text.trim other ≠ "*" →
        namesIn other = namesIn signal →
          (decide (some other) otherConfigured).watches =
            (decide (some signal) configured).watches) ∧
      (∀ name, name ≠ "" → decide none (some name) = .single name) ∧
      (decide none (some "") = .all ∧ decide none none = .all) ∧
      ∀ scope : Scope, scope.cacheStrategy.watchNamespaces false = [none] := by
  refine ⟨isSelectedBy_ofSignal signal, fun other => rfl, ?_, ?_, ⟨rfl, rfl⟩, fun scope => rfl⟩
  · intro other otherConfigured notStar otherNotStar same
    exact watches_congr notStar otherNotStar same
  · intro name nonempty
    simp [decide, ofConfigured, Option.filter, nonempty]

/-- A name with and without a comma behind it: the one signal selects a set and the other a single
namespace, but the watches are the same, and the configured namespace does not count. -/
theorem decide_selects_exampleName :
    (decide (some " a ") (some "b") = .single "a" ∧ decide (some "a, ,a,") none = .several ["a"]) ∧
      IsSelectedBy (decide (some "a, ,a,") none) "a, ,a," ∧
        (decide (some " a ") (some "b")).watches = [some "a"] ∧
          (decide (some "a, ,a,") none).watches = (decide (some " a ") (some "b")).watches := by
  have same : namesIn "a, ,a," = namesIn " a " := by
    ext name
    have onlyName : namesBetweenCommas " a ".toList = ["a"] := by decide +kernel
    have twice : namesBetweenCommas "a, ,a,".toList = ["a", "a"] := by decide +kernel
    rw [← mem_namesBetweenCommas_iff, ← mem_namesBetweenCommas_iff, onlyName, twice]
    simp
  refine ⟨by decide +kernel, ?_, by decide +kernel, ?_⟩
  · exact (decide_selects "a, ,a," none).1
  · exact (decide_selects " a " (some "b")).2.2.1 "a, ,a," none (by decide +kernel)
      (by decide +kernel) same

end Scope

end ChartOperator
