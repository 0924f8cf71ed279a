import ChartOperator.Scope
import Mathlib.Data.List.Nodup

/-!
# The namespaces of a scope

A scope names no namespace twice.  So among the watches for a kind there is exactly one for each
namespace of the scope, and for a kind without namespaces there is exactly one for the whole
cluster.
-/

namespace ChartOperator

/-! ## Sets of names -/

@[simp]
theorem mem_insertName {name other : String} {names : List String} :
    other ∈ insertName name names ↔ other = name ∨ other ∈ names := by
  induction names with
  | nil => simp [insertName]
  | cons n rest ih =>
      unfold insertName
      split
      · simp
      · split
        · rename_i same
          simp [same]
        · simp [ih, or_left_comm]

theorem pairwise_insertName {name : String} {names : List String}
    (ascending : names.Pairwise (· < ·)) : (insertName name names).Pairwise (· < ·) := by
  induction names with
  | nil => exact List.pairwise_singleton _ _
  | cons n rest ih =>
      obtain ⟨first, others⟩ := List.pairwise_cons.mp ascending
      unfold insertName
      split
      · rename_i before
        rw [List.pairwise_cons]
        refine ⟨?_, ascending⟩
        intro other mem
        rcases List.mem_cons.mp mem with rfl | mem
        · exact before
        · exact String.lt_trans before (first other mem)
      · rename_i notBefore
        split
        · exact ascending
        · rename_i different
          rw [List.pairwise_cons]
          refine ⟨?_, ih others⟩
          intro other mem
          rcases mem_insertName.mp mem with rfl | mem
          · exact Std.lt_of_le_of_ne (String.not_lt.mp notBefore) (Ne.symm different)
          · exact first other mem

theorem pairwise_nameSet (names : List String) : (nameSet names).Pairwise (· < ·) := by
  induction names with
  | nil => exact List.Pairwise.nil
  | cons name rest ih => exact pairwise_insertName ih

theorem nodup_nameSet (names : List String) : (nameSet names).Nodup := by
  apply (pairwise_nameSet names).imp
  rintro first second less rfl
  exact String.lt_irrefl first less

@[simp]
theorem mem_nameSet {name : String} {names : List String} :
    name ∈ nameSet names ↔ name ∈ names := by
  induction names with
  | nil => rfl
  | cons n rest ih =>
      change name ∈ insertName n (nameSet rest) ↔ _
      rw [mem_insertName, ih, List.mem_cons]

/-- A set of names is determined by its members. -/
theorem nameSet_congr {names others : List String} (same : ∀ name, name ∈ names ↔ name ∈ others) :
    nameSet names = nameSet others := by
  refine List.Perm.eq_of_pairwise ?_ (pairwise_nameSet names) (pairwise_nameSet others) ?_
  · intro first second _ _ less more
    exact absurd (String.lt_trans less more) (String.lt_irrefl first)
  · rw [List.perm_ext_iff_of_nodup (nodup_nameSet names) (nodup_nameSet others)]
    simpa using same

/-! ## Scopes -/

namespace Scope

theorem nodup_names_ofSignal (signal : String) : (ofSignal signal).names.Nodup := by
  unfold ofSignal
  dsimp only
  split
  · exact List.nodup_nil
  · split
    · unfold ofNames
      split
      · exact List.nodup_nil
      · exact nodup_nameSet _
    · exact List.nodup_singleton _

theorem nodup_names_ofConfigured (configured : Option String) :
    (ofConfigured configured).names.Nodup := by
  unfold ofConfigured
  split
  · exact List.nodup_singleton _
  · exact List.nodup_nil

/-- A decided scope names no namespace twice. -/
theorem nodup_names_decide (signal configured : Option String) :
    (decide signal configured).names.Nodup := by
  cases signal with
  | none => exact nodup_names_ofConfigured configured
  | some text => exact nodup_names_ofSignal text

/-- Whether a namespace belongs to a scope. -/
def Includes (scope : Scope) (name : String) : Prop :=
  scope = .all ∨ name ∈ scope.names

instance (scope : Scope) (name : String) : Decidable (scope.Includes name) :=
  inferInstanceAs (Decidable (_ ∨ _))

end Scope

/-- Whether a watch in a namespace, or in the whole cluster, covers a namespace. -/
def coversNamespace (watched : Option String) (name : String) : Bool :=
  watched == none || watched == some name

/-- Exactly one of the watches for a kind covers a namespace of the scope, and none any other; the
watch for a kind without namespaces covers all of them. -/
theorem length_filter_coversNamespace {scope : Scope} (distinct : scope.names.Nodup)
    (namespaced : Bool) (name : String) :
    ((scope.cacheStrategy.watchNamespaces namespaced).filter (coversNamespace · name)).length =
      if namespaced = false ∨ scope.Includes name then 1 else 0 := by
  cases namespaced with
  | false => simp [CacheStrategy.watchNamespaces, coversNamespace]
  | true =>
      cases scope with
      | all => simp [CacheStrategy.watchNamespaces, Scope.cacheStrategy, coversNamespace,
          Scope.Includes]
      | single watched =>
          by_cases same : watched = name
          · simp [CacheStrategy.watchNamespaces, Scope.cacheStrategy, coversNamespace,
              Scope.Includes, Scope.names, same]
          · simp [CacheStrategy.watchNamespaces, Scope.cacheStrategy, coversNamespace,
              Scope.Includes, Scope.names, same, Ne.symm same]
      | several names =>
          have distinctNames : names.Nodup := distinct
          have counted : (names.filter fun watched => watched == name).length =
              if name ∈ names then 1 else 0 := by
            rw [← List.count_eq_length_filter, distinctNames.count]
          simpa [CacheStrategy.watchNamespaces, Scope.cacheStrategy, coversNamespace,
            Scope.Includes, Scope.names, List.filter_map, Function.comp_def] using counted

end ChartOperator
