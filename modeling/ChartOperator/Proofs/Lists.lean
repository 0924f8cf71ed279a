import Mathlib.Data.List.Forall2
import Mathlib.Data.List.Nodup
import Mathlib.Data.List.Perm.Basic

/-!
# Lists that correspond, and lists of keys with values

Lists correspond to each other if their elements do so one by one.  In a list of keys with values,
if no key occurs twice, what is found under a key is what the list holds with it; if the keys
moreover ascend, then what is found under all keys determines the list.
-/

namespace ChartOperator

/-! ## Corresponding lists -/

/-- Two lists that correspond to a third one element by element correspond to each other. -/
theorem forall₂_trans {α β γ : Type} {R : α → β → Prop} {S : β → γ → Prop} {T : α → γ → Prop}
    (both : ∀ a b c, R a b → S b c → T a c) {as : List α} {bs : List β} {cs : List γ}
    (first : List.Forall₂ R as bs) (second : List.Forall₂ S bs cs) : List.Forall₂ T as cs := by
  induction first generalizing cs with
  | nil =>
      cases second
      exact List.Forall₂.nil
  | cons related _ ih =>
      cases second with
      | cons relatedNext others =>
          exact List.Forall₂.cons (both _ _ _ related relatedNext) (ih others)

theorem exists_left_of_forall₂ {α β : Type} {R : α → β → Prop} {as : List α} {bs : List β} {b : β}
    (related : List.Forall₂ R as bs) (mem : b ∈ bs) : ∃ a ∈ as, R a b := by
  induction related with
  | nil => cases mem
  | cons first _ ih =>
      rcases List.mem_cons.mp mem with rfl | mem
      · exact ⟨_, List.mem_cons_self, first⟩
      · obtain ⟨a, memRest, holds⟩ := ih mem
        exact ⟨a, List.mem_cons_of_mem _ memRest, holds⟩

/-! ## Keys with values -/

/-- No key comes before itself, so none occurs twice among ascending ones. -/
theorem nodup_of_ascending {κ : Type} {before : κ → κ → Prop} {keys : List κ}
    (asymm : ∀ a b, before a b → ¬ before b a) (ascending : keys.Pairwise before) : keys.Nodup := by
  refine ascending.imp fun {a b} isBefore same => ?_
  rw [same] at isBefore
  exact asymm b b isBefore isBefore

variable {κ α : Type} [BEq κ] [LawfulBEq κ]

theorem lookup_map_snd {β : Type} (f : α → β) (key : κ) (entries : List (κ × α)) :
    (entries.map fun entry => (entry.1, f entry.2)).lookup key = (entries.lookup key).map f := by
  induction entries with
  | nil => rfl
  | cons entry rest ih =>
      obtain ⟨first, value⟩ := entry
      by_cases same : key = first
      · simp [same]
      · simp [List.lookup_cons, beq_false_of_ne same, ih]

theorem lookup_eq_some_iff_mem {key : κ} {value : α} {entries : List (κ × α)}
    (distinct : (entries.map (·.1)).Nodup) :
    entries.lookup key = some value ↔ (key, value) ∈ entries := by
  induction entries with
  | nil => simp
  | cons entry rest ih =>
      obtain ⟨first, other⟩ := entry
      rw [List.map_cons, List.nodup_cons] at distinct
      obtain ⟨firstOnly, restDistinct⟩ := distinct
      by_cases same : key = first
      · subst same
        have notLater : (key, value) ∉ rest := by
          intro mem
          exact firstOnly (List.mem_map.mpr ⟨(key, value), mem, rfl⟩)
        simp [notLater, eq_comm]
      · simp [List.lookup_cons, beq_false_of_ne same, ih restDistinct, same]

/-- Lists with ascending keys are the same if the same is found under each key. -/
theorem eq_of_lookup_eq {before : κ → κ → Prop} {entries others : List (κ × α)}
    (asymm : ∀ a b, before a b → ¬ before b a) (ascending : (entries.map (·.1)).Pairwise before)
    (othersAscending : (others.map (·.1)).Pairwise before)
    (found : ∀ key, entries.lookup key = others.lookup key) : entries = others := by
  have distinct := nodup_of_ascending asymm ascending
  have othersDistinct := nodup_of_ascending asymm othersAscending
  have perm : entries.Perm others := by
    rw [List.perm_ext_iff_of_nodup distinct.of_map othersDistinct.of_map]
    rintro ⟨key, value⟩
    rw [← lookup_eq_some_iff_mem distinct, ← lookup_eq_some_iff_mem othersDistinct, found]
  rw [List.pairwise_map] at ascending othersAscending
  refine perm.eq_of_pairwise ?_ ascending othersAscending
  intro a b _ _ isBefore isAfter
  exact absurd isAfter (asymm a.1 b.1 isBefore)

end ChartOperator
