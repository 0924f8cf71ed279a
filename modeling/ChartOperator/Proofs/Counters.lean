import ChartOperator.Proofs.Exposition
import ChartOperator.Proofs.Lists
import ChartOperator.Proofs.Starting
import ChartOperator.Reconciler.Pass
import Mathlib.Data.List.Count
import Mathlib.Data.String.Basic

/-!
# What the counters count

Each call counts at most one pair of a kind and a result, and only adds to what was counted before.
So after any calls the text shows for each pair how many of them counted it, and their order makes
no difference.
-/

namespace ChartOperator

/-! ## The order of the counters -/

namespace CounterKey

variable {a b c : CounterKey}

theorem Before.trans (first : a.Before b) (second : b.Before c) : a.Before c := by
  rcases first with kind | ⟨sameKind, result⟩
  · rcases second with otherKind | ⟨sameOther, -⟩
    · exact Or.inl (lt_trans kind otherKind)
    · exact Or.inl (sameOther ▸ kind)
  · rcases second with otherKind | ⟨sameOther, otherResult⟩
    · exact Or.inl (sameKind ▸ otherKind)
    · exact Or.inr ⟨sameKind.trans sameOther, lt_trans result otherResult⟩

/-- What comes before the first of ascending keys comes before all of them. -/
theorem Before.all {keys : List CounterKey} (first : a.Before b)
    (isFirst : ∀ c ∈ keys, b.Before c) : ∀ c ∈ b :: keys, a.Before c :=
  List.forall_mem_cons.mpr ⟨first, fun c mem => first.trans (isFirst c mem)⟩

theorem not_before_self (key : CounterKey) : ¬ key.Before key := by
  rintro (kind | ⟨-, result⟩)
  · exact lt_irrefl _ kind
  · exact lt_irrefl _ result

theorem Before.asymm (first : a.Before b) : ¬ b.Before a :=
  fun second => not_before_self a (first.trans second)

/-- Of two pairs one comes before the other. -/
theorem before_of_ne (different : a ≠ b) (notBefore : ¬ a.Before b) : b.Before a := by
  rcases lt_trichotomy a.kind b.kind with kind | sameKind | kind
  · exact absurd (Or.inl kind) notBefore
  · rcases lt_trichotomy a.result b.result with result | sameResult | result
    · exact absurd (Or.inr ⟨sameKind, result⟩) notBefore
    · obtain ⟨kind, result⟩ := a
      obtain rfl := sameKind
      obtain rfl := sameResult
      exact absurd rfl different
    · exact Or.inr ⟨sameKind.symm, result⟩
  · exact Or.inl kind

end CounterKey

namespace Metrics

/-! ## Counting one more -/

section Increment

variable {counters : List (CounterKey × Nat)} {key : CounterKey}

theorem mem_keys_increment {other : CounterKey}
    (mem : other ∈ (increment key counters).map (·.1)) :
    other = key ∨ other ∈ counters.map (·.1) := by
  induction counters with
  | nil => simpa [increment] using mem
  | cons counter rest ih =>
      obtain ⟨first, n⟩ := counter
      unfold increment at mem
      split at mem
      · simpa using mem
      · split at mem
        · exact Or.inr mem
        · rw [List.map_cons, List.mem_cons] at mem ⊢
          rcases mem with isFirst | later
          · exact Or.inr (Or.inl isFirst)
          · exact (ih later).imp_right Or.inr

theorem ascending_increment (ascending : (counters.map (·.1)).Pairwise CounterKey.Before) :
    ((increment key counters).map (·.1)).Pairwise CounterKey.Before := by
  induction counters with
  | nil => simp [increment]
  | cons counter rest ih =>
      obtain ⟨first, n⟩ := counter
      obtain ⟨isFirst, restAscending⟩ := List.pairwise_cons.mp ascending
      unfold increment
      split
      · rename_i before
        exact List.pairwise_cons.mpr ⟨before.all isFirst, ascending⟩
      · rename_i notBefore
        split
        · exact ascending
        · rename_i different
          refine List.pairwise_cons.mpr ⟨fun other mem => ?_, ih restAscending⟩
          rcases mem_keys_increment mem with rfl | later
          · exact CounterKey.before_of_ne different notBefore
          · exact isFirst other later

/-- A key that comes before all others has no counter. -/
theorem lookup_eq_none_of_before (first : ∀ other ∈ counters.map (·.1), key.Before other) :
    counters.lookup key = none := by
  rw [List.lookup_eq_none_iff]
  intro counter mem
  rw [bne_iff_ne]
  rintro rfl
  exact CounterKey.not_before_self _ (first _ (List.mem_map_of_mem mem))

theorem lookup_counter_cons (first other : CounterKey) (n : Nat) :
    List.lookup other ((first, n) :: counters) =
      if other = first then some n else counters.lookup other := by
  by_cases same : other = first
  · simp [same]
  · simp [List.lookup_cons, beq_false_of_ne same, same]

/-- The counter of the key goes up by one, and the others stay as they are. -/
theorem lookup_increment (ascending : (counters.map (·.1)).Pairwise CounterKey.Before)
    (other : CounterKey) :
    (increment key counters).lookup other =
      if other = key then some ((counters.lookup key).getD 0 + 1) else counters.lookup other := by
  induction counters with
  | nil => exact lookup_counter_cons key other 1
  | cons counter rest ih =>
      obtain ⟨first, n⟩ := counter
      obtain ⟨isFirst, restAscending⟩ := List.pairwise_cons.mp ascending
      unfold increment
      split
      · rename_i before
        have nothing : List.lookup key ((first, n) :: rest) = none :=
          lookup_eq_none_of_before (before.all isFirst)
        rw [nothing, lookup_counter_cons]
        rfl
      · split
        · rename_i same
          subst same
          rw [lookup_counter_cons, lookup_counter_cons, lookup_counter_cons, if_pos rfl]
          by_cases isKey : other = key
          · simp [isKey]
          · simp [isKey]
        · rename_i different
          rw [lookup_counter_cons, ih restAscending, lookup_counter_cons, lookup_counter_cons,
            if_neg different]
          by_cases isFirst : other = first
          · simp [isFirst, Ne.symm different]
          · simp [isFirst]

end Increment

/-! ## Totals -/

/-- The counters are those of the pairs that were counted, each with how often. -/
structure Tallies (metrics : Metrics) (total : CounterKey → Nat) : Prop where
  ascending : (metrics.counters.map (·.1)).Pairwise CounterKey.Before
  shown : ∀ key, metrics.counters.lookup key = if total key = 0 then none else some (total key)

theorem tallies_empty : Tallies {} fun _ => 0 where
  ascending := List.Pairwise.nil
  shown := fun _ => rfl

section Tallies

variable {metrics other : Metrics} {total : CounterKey → Nat}

theorem Tallies.nodup (tallies : Tallies metrics total) : (metrics.counters.map (·.1)).Nodup :=
  nodup_of_ascending (fun _ _ => CounterKey.Before.asymm) tallies.ascending

theorem Tallies.count_eq (tallies : Tallies metrics total) (key : CounterKey) :
    metrics.count key = total key := by
  rw [count, tallies.shown]
  by_cases zero : total key = 0
  · simp [zero]
  · simp [zero]

theorem Tallies.observe (tallies : Tallies metrics total) (key : CounterKey) :
    Tallies (metrics.observe key) fun other => total other + if other = key then 1 else 0 where
  ascending := ascending_increment tallies.ascending
  shown := by
    intro other
    have before : (metrics.counters.lookup key).getD 0 = total key := tallies.count_eq key
    rw [Metrics.observe, lookup_increment tallies.ascending, before]
    by_cases same : other = key
    · simp [same]
    · simp [same, tallies.shown]

theorem Tallies.mem_iff (tallies : Tallies metrics total) {key : CounterKey} {n : Nat} :
    (key, n) ∈ metrics.counters ↔ n = total key ∧ 0 < total key := by
  rw [← lookup_eq_some_iff_mem tallies.nodup, tallies.shown]
  by_cases zero : total key = 0
  · simp only [zero, if_true, reduceCtorEq, false_iff]
    omega
  · simp only [zero, if_false, Option.some.injEq]
    omega

theorem Tallies.unique (tallies : Tallies metrics total) (others : Tallies other total) :
    metrics = other := by
  obtain ⟨counters⟩ := metrics
  obtain ⟨otherCounters⟩ := other
  have same : counters = otherCounters := by
    refine eq_of_lookup_eq (fun _ _ => CounterKey.Before.asymm) tallies.ascending others.ascending
      fun key => ?_
    rw [tallies.shown, others.shown]
  rw [same]

end Tallies

/-- The text shows how often a pair was counted, in one line if that is not zero. -/
theorem Tallies.shows {metrics : Metrics} {total : CounterKey → Nat}
    (tallies : Tallies metrics total) (key : CounterKey) :
    Shows metrics.render key.line (total key) := by
  intro n
  rw [count_line, tallies.nodup.of_map.count]
  simp only [tallies.mem_iff]

end Metrics

/-! ## Calls -/

namespace Call

/-- The pair that a call counts, if it counts one. -/
def key? : Call → Option CounterKey
  | reconcile r object => object.name.map fun _ => .success r.gvk.kind
  | recover r _ _ => some (.failure r.gvk.kind)
  | observe key => some key

/-- Whether a call reconciles a resource that has a name, for a controller of a kind. -/
def isSuccess (kind : String) : Call → Bool
  | reconcile r object => r.gvk.kind = kind && object.name.isSome
  | _ => false

/-- Whether a call applies the error policy of a controller of a kind. -/
def isFailure (kind : String) : Call → Bool
  | recover r _ _ => r.gvk.kind = kind
  | _ => false

/-- Whether a call observes a pair directly. -/
def isObservation (key : CounterKey) : Call → Bool
  | observe other => other = key
  | _ => false

/-- How many calls count a pair. -/
def total (calls : List Call) (key : CounterKey) : Nat :=
  calls.countP fun call => call.key? = some key

theorem countP_add {p q r : Call → Bool}
    (split : ∀ call,
      (if p call then 1 else 0) = (if q call then 1 else 0) + if r call then 1 else 0)
    (calls : List Call) : calls.countP p = calls.countP q + calls.countP r := by
  induction calls with
  | nil => rfl
  | cons call rest ih =>
      rw [List.countP_cons, List.countP_cons, List.countP_cons, ih, split]
      omega

theorem total_success (calls : List Call) (kind : String) :
    total calls (.success kind) =
      calls.countP (isSuccess kind) + calls.countP (isObservation (.success kind)) := by
  refine countP_add (fun call => ?_) calls
  cases call with
  | reconcile r object =>
      cases named : object.name with
      | none => simp [key?, isSuccess, isObservation, named]
      | some name => simp [key?, isSuccess, isObservation, named, CounterKey.success]
  | recover r object cause =>
      simp [key?, isSuccess, isObservation, CounterKey.success, CounterKey.failure]
  | observe key => simp [key?, isSuccess, isObservation]

theorem total_failure (calls : List Call) (kind : String) :
    total calls (.failure kind) =
      calls.countP (isFailure kind) + calls.countP (isObservation (.failure kind)) := by
  refine countP_add (fun call => ?_) calls
  cases call with
  | reconcile r object =>
      simp [key?, isFailure, isObservation, CounterKey.success, CounterKey.failure]
  | recover r object cause => simp [key?, isFailure, isObservation, CounterKey.failure]
  | observe key => simp [key?, isFailure, isObservation]

theorem total_other (calls : List Call) {key : CounterKey} (notSuccess : key.result ≠ "success")
    (notFailure : key.result ≠ "error") : total calls key = calls.countP (isObservation key) := by
  refine List.countP_congr fun call _ => ?_
  cases call with
  | reconcile r object =>
      have different : CounterKey.success r.gvk.kind ≠ key := by
        rintro rfl
        exact notSuccess rfl
      cases object.name <;> simp [key?, isObservation, *]
  | recover r object cause =>
      have different : CounterKey.failure r.gvk.kind ≠ key := by
        rintro rfl
        exact notFailure rfl
      simp [key?, isObservation, different]
  | observe other => simp [key?, isObservation]

end Call

namespace Metrics

/-- The metrics after some calls. -/
def afterAll (metrics : Metrics) (calls : List Call) : Metrics :=
  calls.foldl after metrics

theorem after_eq (metrics : Metrics) (call : Call) :
    metrics.after call = call.key?.elim metrics metrics.observe := by
  cases call with
  | reconcile r object =>
      rw [after, Reconciler.apply_attempt, Call.key?]
      cases object.name with
      | none => rfl
      | some name => rfl
  | recover r object cause => rfl
  | observe key => rfl

/-- One call adds one to what it counts, and to nothing else. -/
theorem Tallies.after {metrics : Metrics} {total : CounterKey → Nat}
    (tallies : Tallies metrics total) (call : Call) :
    Tallies (metrics.after call) fun key => total key + if call.key? = some key then 1 else 0 := by
  rw [after_eq]
  cases counted : call.key? with
  | none => simpa using tallies
  | some key => simpa [eq_comm] using tallies.observe key

/-- All calls of a run are counted. -/
theorem Tallies.afterAll {metrics : Metrics} {total : CounterKey → Nat}
    (tallies : Tallies metrics total) (calls : List Call) :
    Tallies (metrics.afterAll calls) fun key => total key + Call.total calls key := by
  induction calls generalizing metrics total with
  | nil => exact tallies
  | cons call rest ih =>
      have counted := ih (tallies.after call)
      have totals : (fun key => total key + (if call.key? = some key then 1 else 0) +
          Call.total rest key) = fun key => total key + Call.total (call :: rest) key := by
        funext key
        rw [Call.total, Call.total, List.countP_cons]
        simp only [decide_eq_true_eq]
        omega
      rwa [totals] at counted

theorem tallies_afterAll (calls : List Call) :
    Tallies (afterAll {} calls) (Call.total calls) := by
  have tallies := tallies_empty.afterAll calls
  simp only [Nat.zero_add] at tallies
  exact tallies

/-- What was never counted has no line. -/
theorem not_mem_linesOf_afterAll {calls : List Call} {key : CounterKey}
    (never : ∀ call ∈ calls, call.key? ≠ some key) (n : Nat) :
    key.line n ∉ linesOf (afterAll {} calls).render := by
  have zero : Call.total calls key = 0 := by
    rw [Call.total, List.countP_eq_zero]
    intro call mem
    simpa using never call mem
  have shown := (tallies_afterAll calls).shows key n
  rw [zero, if_neg fun both => Nat.lt_irrefl 0 both.2] at shown
  exact List.count_eq_zero.mp shown

/-- The order of the calls makes no difference. -/
theorem afterAll_eq_of_perm {calls others : List Call} (perm : calls.Perm others) :
    afterAll {} calls = afterAll {} others := by
  have totals : Call.total calls = Call.total others := by
    funext key
    exact perm.countP_eq _
  have tallies := tallies_afterAll calls
  rw [totals] at tallies
  exact tallies.unique (tallies_afterAll others)

end Metrics

section Nameless

variable (r : Reconciler) {object : ResourceObject} (nameless : object.name = none)
  (metrics : Metrics)

include nameless

theorem Reconciler.apply_attempt_of_nameless :
    (r.attempt object).apply metrics = (.error .noName, metrics) := by
  rw [apply_attempt, nameless]

theorem Reconciler.handle_of_nameless :
    r.handle object metrics = r.recover object .noName metrics := by
  rw [handle, apply_attempt_of_nameless r nameless]

end Nameless

/-- After any calls the text shows for each pair how many of them counted it: reconciles of
resources with names as successes, applications of the error policy as failures, and direct
observations.  What was never counted is not shown.  The attempt to reconcile a resource without a
name fails and counts nothing, so the error policy behind it adds one failure and nothing else.  The
order of the calls makes no difference to the text. -/
theorem text_shows_counts :
    (∀ calls : List Call,
      let text := (Metrics.afterAll {} calls).render
      (∀ kind, Shows text (CounterKey.success kind).line
        (calls.countP (Call.isSuccess kind) +
          calls.countP (Call.isObservation (.success kind)))) ∧
      (∀ kind, Shows text (CounterKey.failure kind).line
        (calls.countP (Call.isFailure kind) +
          calls.countP (Call.isObservation (.failure kind)))) ∧
      (∀ key : CounterKey, key.result ≠ "success" → key.result ≠ "error" →
        Shows text key.line (calls.countP (Call.isObservation key))) ∧
      (∀ key : CounterKey, (∀ call ∈ calls, call.key? ≠ some key) →
        ∀ n, key.line n ∉ linesOf text) ∧
      Shows text buildLine 1) ∧
    (∀ (calls : List Call) (r : Reconciler) (object : ResourceObject), object.name = none →
      let metrics := Metrics.afterAll {} calls
      (r.attempt object).apply metrics = (.error .noName, metrics) ∧
        ∀ key : CounterKey, ∃ n, Shows metrics.render key.line n ∧
          Shows (r.handle object metrics).metrics.render key.line
            (n + if key = .failure r.gvk.kind then 1 else 0)) ∧
    ∀ calls others : List Call, calls.Perm others →
      (Metrics.afterAll {} calls).render = (Metrics.afterAll {} others).render := by
  refine ⟨?_, ?_, ?_⟩
  · intro calls
    have tallies := Metrics.tallies_afterAll calls
    refine ⟨?_, ?_, ?_, ?_, Metrics.shows_buildLine _⟩
    · intro kind
      rw [← Call.total_success]
      exact tallies.shows _
    · intro kind
      rw [← Call.total_failure]
      exact tallies.shows _
    · intro key notSuccess notFailure
      rw [← Call.total_other calls notSuccess notFailure]
      exact tallies.shows key
    · intro key never n
      exact Metrics.not_mem_linesOf_afterAll never n
  · intro calls r object nameless
    have tallies := Metrics.tallies_afterAll calls
    refine ⟨r.apply_attempt_of_nameless nameless _, fun key => ⟨_, tallies.shows key, ?_⟩⟩
    rw [r.handle_of_nameless nameless]
    exact (tallies.observe (.failure r.gvk.kind)).shows key
  · intro calls others perm
    rw [Metrics.afterAll_eq_of_perm perm]

/-- Calls of two controllers for kinds of one name, the second of which is in a group. -/
def exampleCountedCalls : List Call :=
  let first := exampleReconciler "Site"
  let second := { exampleReconciler "Site" with gvk := ⟨"example.com", "v1", "Site"⟩ }
  [.reconcile first { name := some "main" }, .recover second {} .noName,
    .reconcile second { name := some "main" }, .observe (.success "Site"),
    .observe ⟨"Site", "late"⟩, .reconcile first {}]

/-- Both controllers count for one pair, and the attempt without a name counts for none. -/
theorem text_shows_counts_exampleCountedCalls :
    let metrics := Metrics.afterAll {} exampleCountedCalls
    Shows metrics.render (CounterKey.success "Site").line 3 ∧
      Shows metrics.render (CounterKey.failure "Site").line 1 ∧
      Shows metrics.render (CounterKey.line ⟨"Site", "late"⟩) 1 ∧
      (∀ n, (CounterKey.success "Page").line n ∉ linesOf metrics.render) ∧
      ((exampleReconciler "Site").attempt {}).apply metrics = (.error .noName, metrics) ∧
      metrics.render = (Metrics.afterAll {} exampleCountedCalls.reverse).render := by
  obtain ⟨successes, failures, others, never, -⟩ := text_shows_counts.1 exampleCountedCalls
  exact ⟨successes "Site", failures "Site", others ⟨"Site", "late"⟩ (by decide) (by decide),
    never (.success "Page") (by decide),
    (text_shows_counts.2.1 exampleCountedCalls (exampleReconciler "Site") {} rfl).1,
    text_shows_counts.2.2 exampleCountedCalls exampleCountedCalls.reverse
      (List.reverse_perm _).symm⟩

end ChartOperator
