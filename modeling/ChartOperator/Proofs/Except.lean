import Mathlib.Data.List.Forall2

/-!
# Computations that succeed or fail

When a computation made of several steps succeeds, every step has succeeded.  When it fails, some
step has failed, and those before it have succeeded.
-/

namespace ChartOperator

universe u v

variable {ε : Type u} {α : Type v} {β : Type v}

theorem bind_eq_ok_iff {first : Except ε α} {next : α → Except ε β} {b : β} :
    first >>= next = .ok b ↔ ∃ a, first = .ok a ∧ next a = .ok b := by
  cases first with
  | error e => simp [bind, Except.bind]
  | ok a => simp [bind, Except.bind]

theorem bind_eq_error_iff {first : Except ε α} {next : α → Except ε β} {e : ε} :
    first >>= next = .error e ↔ first = .error e ∨ ∃ a, first = .ok a ∧ next a = .error e := by
  cases first with
  | error e' => simp [bind, Except.bind]
  | ok a => simp [bind, Except.bind]

theorem toOption_eq_some_iff {result : Except ε α} {a : α} :
    result.toOption = some a ↔ result = .ok a := by
  cases result with
  | error e => simp [Except.toOption]
  | ok a' => simp [Except.toOption]

/-- The error of a computation, if it fails. -/
def causeOf? : Except ε α → Option ε
  | .error e => some e
  | .ok _ => none

theorem causeOf?_eq_some_iff {result : Except ε α} {e : ε} :
    causeOf? result = some e ↔ result = .error e := by
  cases result with
  | error e' => simp [causeOf?]
  | ok a => simp [causeOf?]

section MapError

variable {δ : Type u} {f : ε → δ}

@[simp]
theorem mapError_error (f : ε → δ) (e : ε) :
    (.error e : Except ε α).mapError f = .error (f e) := rfl

@[simp]
theorem mapError_ok (f : ε → δ) (a : α) : (.ok a : Except ε α).mapError f = .ok a := rfl

theorem mapError_eq_ok_iff {result : Except ε α} {a : α} :
    result.mapError f = .ok a ↔ result = .ok a := by
  cases result with
  | error e => simp
  | ok a' => simp

theorem mapError_eq_error_iff {result : Except ε α} {e : δ} :
    result.mapError f = .error e ↔ ∃ cause, result = .error cause ∧ f cause = e := by
  cases result with
  | error e' => simp
  | ok a => simp

end MapError

theorem map_eq_ok_iff {f : α → β} {result : Except ε α} {b : β} :
    result.map f = .ok b ↔ ∃ a, result = .ok a ∧ f a = b := by
  cases result with
  | error e => simp [Except.map]
  | ok a => simp [Except.map]

theorem map_eq_error_iff {f : α → β} {result : Except ε α} {e : ε} :
    result.map f = .error e ↔ result = .error e := by
  cases result with
  | error e' => simp [Except.map]
  | ok a => simp [Except.map]

/-- A computation for every element succeeds exactly if it succeeds for each of them. -/
theorem mapM_eq_ok_iff {f : α → Except ε β} {as : List α} {bs : List β} :
    as.mapM f = .ok bs ↔ List.Forall₂ (fun a b => f a = .ok b) as bs := by
  induction as generalizing bs with
  | nil => simp [pure, Except.pure, eq_comm]
  | cons a rest ih =>
      simp only [List.mapM_cons, bind_eq_ok_iff, ih, List.forall₂_cons_left_iff]
      constructor
      · rintro ⟨b, first, others, each, collected⟩
        exact ⟨b, others, first, each, (Except.ok.inj collected).symm⟩
      · rintro ⟨b, others, first, each, rfl⟩
        exact ⟨b, first, others, each, rfl⟩

/-- A computation for every element fails where it fails for the first time. -/
theorem mapM_eq_error_iff {f : α → Except ε β} {as : List α} {e : ε} :
    as.mapM f = .error e ↔
      ∃ before a after, as = before ++ a :: after ∧ (∀ earlier ∈ before, ∃ b, f earlier = .ok b) ∧
        f a = .error e := by
  induction as with
  | nil => simp [pure, Except.pure]
  | cons first rest ih =>
      have step : (first :: rest).mapM f = .error e ↔
          f first = .error e ∨ (∃ b, f first = .ok b) ∧ rest.mapM f = .error e := by
        simp [List.mapM_cons, bind_eq_error_iff, pure, Except.pure]
      rw [step, ih]
      constructor
      · rintro (failed | ⟨accepted, before, a, after, rfl, allAccepted, failed⟩)
        · exact ⟨[], first, rest, rfl, by simp, failed⟩
        · exact ⟨first :: before, a, after, rfl,
            List.forall_mem_cons.mpr ⟨accepted, allAccepted⟩, failed⟩
      · rintro ⟨before, a, after, whole, accepted, failed⟩
        cases before with
        | nil =>
            cases whole
            exact Or.inl failed
        | cons _ before =>
            cases whole
            rcases List.forall_mem_cons.mp accepted with ⟨firstAccepted, allAccepted⟩
            exact Or.inr ⟨firstAccepted, before, a, after, rfl, allAccepted, failed⟩

theorem exists_mapM_eq_ok {f : α → Except ε β} {as : List α}
    (each : ∀ a ∈ as, ∃ b, f a = .ok b) : ∃ bs, as.mapM f = .ok bs := by
  induction as with
  | nil => exact ⟨[], rfl⟩
  | cons a rest ih =>
      obtain ⟨b, first⟩ := each a List.mem_cons_self
      obtain ⟨bs, others⟩ := ih fun other mem => each other (List.mem_cons_of_mem _ mem)
      refine ⟨b :: bs, ?_⟩
      rw [List.mapM_cons, bind_eq_ok_iff]
      refine ⟨b, first, ?_⟩
      rw [bind_eq_ok_iff]
      exact ⟨bs, others, rfl⟩

theorem exists_mapM_eq_ok_iff {f : α → Except ε β} {as : List α} :
    (∃ bs, as.mapM f = .ok bs) ↔ ∀ a ∈ as, ∃ b, f a = .ok b := by
  constructor
  · rintro ⟨bs, accepted⟩
    have each := mapM_eq_ok_iff.mp accepted
    clear accepted
    induction each with
    | nil => simp
    | cons first _ ih => exact List.forall_mem_cons.mpr ⟨⟨_, first⟩, ih⟩
  · exact exists_mapM_eq_ok

theorem mapM_congr_of_mem {f g : α → Except ε β} {as : List α}
    (same : ∀ a ∈ as, f a = g a) : as.mapM f = as.mapM g := by
  induction as with
  | nil => rfl
  | cons a rest ih =>
      rw [List.mapM_cons, List.mapM_cons, same a List.mem_cons_self,
        ih fun other mem => same other (List.mem_cons_of_mem _ mem)]

theorem exists_eq_ok_of_isOk {result : Except ε α} (isOk : result.isOk = true) :
    ∃ a, result = .ok a := by
  cases result with
  | error e => contradiction
  | ok a => exact ⟨a, rfl⟩

theorem exists_eq_error_of_isOk_eq_false {result : Except ε α} (isOk : result.isOk = false) :
    ∃ e, result = .error e := by
  cases result with
  | error e => exact ⟨e, rfl⟩
  | ok a => contradiction

end ChartOperator
