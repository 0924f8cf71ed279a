import Mathlib.Data.List.Basic

/-!
# Calls that are made one after the other

A call has an outcome and leaves a state, which the next call meets.  So what the first calls come
to does not depend on the later ones, and those only depend on the state that they meet.
-/

namespace ChartOperator

variable {κ σ ρ : Type}

/-- What comes out of some calls, one after the other, and the state after them. -/
def makeCalls (make : κ → σ → ρ × σ) (state : σ) : List κ → List ρ × σ
  | [] => ([], state)
  | call :: rest =>
      let (outcome, next) := make call state
      let (outcomes, last) := makeCalls make next rest
      (outcome :: outcomes, last)

section Outcomes

variable (make : κ → σ → ρ × σ) (state : σ)

theorem makeCalls_cons (call : κ) (rest : List κ) :
    makeCalls make state (call :: rest) =
      ((make call state).1 :: (makeCalls make (make call state).2 rest).1,
        (makeCalls make (make call state).2 rest).2) := rfl

theorem makeCalls_append (before after : List κ) :
    makeCalls make state (before ++ after) =
      ((makeCalls make state before).1 ++ (makeCalls make (makeCalls make state before).2 after).1,
        (makeCalls make (makeCalls make state before).2 after).2) := by
  induction before generalizing state with
  | nil => rfl
  | cons call rest ih => simp [makeCalls_cons, ih]

@[simp]
theorem length_makeCalls (calls : List κ) :
    (makeCalls make state calls).1.length = calls.length := by
  induction calls generalizing state with
  | nil => rfl
  | cons call rest ih => simp [makeCalls_cons, ih]

/-- A call in the middle meets the state that those before it leave. -/
theorem outcome_middle (before after : List κ) (call : κ) :
    (makeCalls make state (before ++ call :: after)).1[before.length]? =
      some (make call (makeCalls make state before).2).1 := by
  rw [makeCalls_append, makeCalls_cons, ← length_makeCalls make state before]
  simp

/-- A call that changes nothing can be left out. -/
theorem makeCalls_erase {before after : List κ} {call : κ}
    (idle : (make call (makeCalls make state before).2).2 = (makeCalls make state before).2) :
    makeCalls make state (before ++ after) =
      ((makeCalls make state (before ++ call :: after)).1.eraseIdx before.length,
        (makeCalls make state (before ++ call :: after)).2) := by
  rw [makeCalls_append, makeCalls_append, makeCalls_cons, idle,
    ← length_makeCalls make state before]
  simp [List.eraseIdx_append_of_length_le]

end Outcomes

/-- The calls that are accepted. -/
def acceptedCalls {ε : Type} (calls : List κ) (outcomes : List (Except ε Unit)) : List κ :=
  ((calls.zip outcomes).filter fun made => made.2.isOk).map fun made => made.1

section Accepted

variable {ε : Type} (calls : List κ) (outcomes : List (Except ε Unit))

@[simp]
theorem acceptedCalls_cons_ok (call : κ) :
    acceptedCalls (call :: calls) (.ok () :: outcomes) = call :: acceptedCalls calls outcomes := rfl

@[simp]
theorem acceptedCalls_cons_error (call : κ) (e : ε) :
    acceptedCalls (call :: calls) (.error e :: outcomes) = acceptedCalls calls outcomes := rfl

/-- What is accepted of some calls is the same whatever is called later. -/
theorem acceptedCalls_append (make : κ → σ → Except ε Unit × σ) (state : σ)
    (before after : List κ) :
    acceptedCalls before (makeCalls make state (before ++ after)).1 =
      acceptedCalls before (makeCalls make state before).1 := by
  have answered := (length_makeCalls make state before).symm
  have zipped (later : List (Except ε Unit)) :
      before.zip ((makeCalls make state before).1 ++ later) =
        before.zip (makeCalls make state before).1 := by
    simpa using @List.zip_append _ _ before [] _ later answered
  rw [makeCalls_append, acceptedCalls, zipped, acceptedCalls]

end Accepted

end ChartOperator
