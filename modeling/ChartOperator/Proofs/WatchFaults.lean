import ChartOperator.Proofs.Text
import ChartOperator.Proofs.WatchList
import Mathlib.Data.List.ReduceOption

/-!
# The faults of a watch list

An entry of a watch list can have faults of its own, and it can repeat the kind of an entry before
it.  A list is accepted exactly if no entry has a fault.  Otherwise the error is the first fault of
the first entry that has one, whatever comes behind this entry.
-/

namespace ChartOperator

namespace WatchDraft

/-! ## The faults of an entry -/

/-- An entry without faults of its own. -/
structure IsValid (draft : WatchDraft) : Prop where
  version : Text.trim draft.version ≠ ""
  kind : Text.trim draft.kind ≠ ""
  chart : ∃ path, draft.chart = some path ∧ path.bytes ≠ []
  concurrency : ∀ limit, draft.maxConcurrentReconciles = some limit → 1 ≤ limit
  period : ∀ text, draft.reconcilePeriod = some text →
    ∃ period, Duration.parse text = .ok period

/-- A fault, if there is a reason for it. -/
def faultIf (reason : Prop) [Decidable reason] (fault : WatchError) : Option WatchError :=
  if reason then some fault else none

/-- The fault in the period of the entry at an index. -/
def periodFault? (draft : WatchDraft) (index : Nat) : Option WatchError :=
  draft.reconcilePeriod.bind fun text =>
    match Duration.parse text with
    | .ok _ => none
    | .error cause => some (.reconcilePeriod index cause)

/-- The faults that the entry at an index has by itself, each found without regard to the others,
in the order in which they count. -/
def ownFaults (draft : WatchDraft) (index : Nat) : List WatchError :=
  [ faultIf (Text.trim draft.version = "") (.invalid index .noVersion),
    faultIf (Text.trim draft.kind = "") (.invalid index .noKind),
    faultIf (draft.chartDir? = none) (.invalid index .noChart),
    faultIf (draft.maxConcurrentReconciles = some 0) (.invalid index .noConcurrency),
    draft.periodFault? index ].reduceOption

/-- The faults of the entry at an index, where `earlier` are the kinds of the entries before it. -/
def faults (draft : WatchDraft) (earlier : List Gvk) (index : Nat) : List WatchError :=
  draft.ownFaults index ++ if draft.gvk ∈ earlier then [.duplicate draft.gvk] else []

theorem faultIf_eq_none_iff {reason : Prop} [Decidable reason] {fault : WatchError} :
    faultIf reason fault = none ↔ ¬ reason := by
  simp [faultIf]

theorem periodFault?_eq_none_iff {draft : WatchDraft} {index : Nat} :
    draft.periodFault? index = none ↔
      ∀ text, draft.reconcilePeriod = some text → ∃ period, Duration.parse text = .ok period := by
  unfold periodFault?
  cases draft.reconcilePeriod with
  | none => simp
  | some text => cases parsed : Duration.parse text <;> simp [parsed]

theorem readPeriod_eq_error_iff {draft : WatchDraft} {index : Nat} {e : WatchError} :
    draft.readPeriod index = .error e ↔ draft.periodFault? index = some e := by
  unfold readPeriod periodFault?
  cases draft.reconcilePeriod with
  | none => simp
  | some text => cases parsed : Duration.parse text <;> simp [parsed]

theorem chartDir?_eq_none_iff {draft : WatchDraft} :
    draft.chartDir? = none ↔ ¬ ∃ path, draft.chart = some path ∧ path.bytes ≠ [] := by
  simp only [← chartDir?_eq_some_iff, Option.eq_none_iff_forall_ne_some, not_exists, Ne]

theorem ownFaults_eq_nil_iff {draft : WatchDraft} (index : Nat) :
    draft.ownFaults index = [] ↔ draft.IsValid := by
  have absent : draft.ownFaults index = [] ↔
      ¬ Text.trim draft.version = "" ∧ ¬ Text.trim draft.kind = "" ∧ ¬ draft.chartDir? = none ∧
        ¬ draft.maxConcurrentReconciles = some 0 ∧ draft.periodFault? index = none := by
    simp [ownFaults, List.reduceOption, faultIf_eq_none_iff]
  rw [absent, chartDir?_eq_none_iff, not_not, periodFault?_eq_none_iff]
  constructor
  · rintro ⟨version, kind, chart, concurrency, period⟩
    refine ⟨version, kind, chart, fun limit given => ?_, period⟩
    apply Nat.one_le_iff_ne_zero.mpr
    rintro rfl
    exact concurrency given
  · intro valid
    refine ⟨valid.version, valid.kind, valid.chart, fun given => ?_, valid.period⟩
    exact absurd (valid.concurrency 0 given) (by decide)

/-- An entry is without faults exactly if it has none of its own and its kind is new. -/
theorem faults_eq_nil_iff {draft : WatchDraft} {earlier : List Gvk} {index : Nat} :
    draft.faults earlier index = [] ↔ draft.IsValid ∧ draft.gvk ∉ earlier := by
  rw [faults, List.append_eq_nil_iff, ownFaults_eq_nil_iff]
  by_cases known : draft.gvk ∈ earlier <;> simp [known]

/-- The faults of an entry depend on which kinds came before, and not on their order. -/
theorem faults_congr {draft : WatchDraft} {earlier others : List Gvk} {index : Nat}
    (same : ∀ gvk, gvk ∈ earlier ↔ gvk ∈ others) :
    draft.faults earlier index = draft.faults others index := by
  simp [faults, same]

/-- A check fails with the first of the faults that an entry has by itself.  The cases follow the
order of the checks. -/
theorem check_eq_error_iff {env : Environment} {index : Nat} {draft : WatchDraft}
    {e : WatchError} :
    draft.check env index = .error e ↔ (draft.ownFaults index).head? = some e := by
  simp only [ownFaults, List.reduceOption, List.head?_filterMap, check, ← Text.trim_eq_empty_iff]
  by_cases version : Text.trim draft.version = ""
  · simp [version, faultIf]
  by_cases kind : Text.trim draft.kind = ""
  · simp [version, kind, faultIf]
  cases chart : draft.chartDir? with
  | none => simp [version, kind, faultIf]
  | some path =>
      by_cases concurrency : draft.maxConcurrentReconciles = some 0
      · simp [version, kind, concurrency, faultIf]
      · cases read : draft.readPeriod index with
        | error cause =>
            simp [version, kind, concurrency, faultIf, readPeriod_eq_error_iff.mp read]
        | ok period =>
            have noFault : draft.periodFault? index = none := by
              cases fault : draft.periodFault? index with
              | none => rfl
              | some cause =>
                  rw [readPeriod_eq_error_iff.mpr fault] at read
                  cases read
            simp [version, kind, concurrency, faultIf, noFault]

/-- A check passes exactly if the entry has no faults of its own. -/
theorem exists_check_eq_ok_iff (env : Environment) (index : Nat) {draft : WatchDraft} :
    (∃ entry, draft.check env index = .ok entry) ↔ draft.IsValid := by
  rw [← ownFaults_eq_nil_iff index, ← List.head?_eq_none_iff,
    Option.eq_none_iff_forall_ne_some]
  constructor
  · rintro ⟨entry, checked⟩ e first
    rw [check_eq_error_iff.mpr first] at checked
    contradiction
  · intro none
    cases checked : draft.check env index with
    | error e => exact absurd (check_eq_error_iff.mp checked) (none e)
    | ok entry => exact ⟨entry, rfl⟩

end WatchDraft

/-! ## The faults of a list -/

/-- A watch list whose entries have no faults: none of their own, and no two of them name the same
kind. -/
structure IsSound (drafts : List WatchDraft) : Prop where
  valid : ∀ draft ∈ drafts, draft.IsValid
  distinct : (drafts.map (·.gvk)).Nodup

theorem isSound_cons_iff {draft : WatchDraft} {rest : List WatchDraft} :
    IsSound (draft :: rest) ↔
      draft.IsValid ∧ (∀ other ∈ rest, other.gvk ≠ draft.gvk) ∧ IsSound rest := by
  constructor
  · rintro ⟨valid, distinct⟩
    rw [List.map_cons, List.nodup_cons] at distinct
    refine ⟨valid draft List.mem_cons_self, fun other mem same => distinct.1 ?_,
      fun other mem => valid other (List.mem_cons_of_mem _ mem), distinct.2⟩
    exact List.mem_map.mpr ⟨other, mem, same⟩
  · rintro ⟨valid, new, others, distinct⟩
    constructor
    · intro other mem
      rcases List.mem_cons.mp mem with rfl | mem
      · exact valid
      · exact others other mem
    · rw [List.map_cons, List.nodup_cons]
      refine ⟨fun known => ?_, distinct⟩
      rcases List.mem_map.mp known with ⟨other, mem, same⟩
      exact new other mem same

/-- The first entry of a list is refused with its first fault; without a fault it is passed over. -/
theorem checkDrafts_cons_eq_error_iff {env : Environment} {seen : List Gvk} {index : Nat}
    {draft : WatchDraft} {rest : List WatchDraft} {e : WatchError} :
    checkDrafts env seen index (draft :: rest) = .error e ↔
      (draft.faults seen index).head? = some e ∨
        draft.faults seen index = [] ∧
          checkDrafts env (draft.gvk :: seen) (index + 1) rest = .error e := by
  rw [checkDrafts]
  cases checked : draft.check env index with
  | error cause =>
      have first := WatchDraft.check_eq_error_iff.mp checked
      have faulty : draft.ownFaults index ≠ [] := by
        intro none
        rw [none] at first
        contradiction
      simp [WatchDraft.faults, first, faulty]
  | ok entry =>
      have accepts := WatchDraft.check_eq_ok_iff.mp checked
      have noFault : draft.ownFaults index = [] :=
        (WatchDraft.ownFaults_eq_nil_iff index).mpr
          ((WatchDraft.exists_check_eq_ok_iff env index).mp ⟨entry, checked⟩)
      dsimp only
      rw [accepts.gvk, WatchDraft.faults, noFault, List.nil_append]
      by_cases known : draft.gvk ∈ seen
      · simp [known]
      · cases checkDrafts env (draft.gvk :: seen) (index + 1) rest <;> simp [known]

/-- A list is refused exactly if it has an entry with a fault behind entries without any.  By
induction on the list, where `seen` grows by the kinds that are passed over. -/
theorem checkDrafts_eq_error_iff {env : Environment} {seen : List Gvk} {index : Nat}
    {drafts : List WatchDraft} {e : WatchError} :
    checkDrafts env seen index drafts = .error e ↔
      ∃ before draft after, drafts = before ++ draft :: after ∧ IsSound before ∧
        (∀ passed ∈ before, passed.gvk ∉ seen) ∧
        (draft.faults (before.map (·.gvk) ++ seen) (index + before.length)).head? = some e := by
  induction drafts generalizing seen index with
  | nil => simp [checkDrafts]
  | cons first rest ih =>
      rw [checkDrafts_cons_eq_error_iff, WatchDraft.faults_eq_nil_iff, ih]
      constructor
      · rintro (fault | ⟨⟨valid, new⟩, before, draft, after, rfl, sound, fresh, fault⟩)
        · exact ⟨[], first, rest, rfl, ⟨by simp, by simp⟩, by simp, fault⟩
        · refine ⟨first :: before, draft, after, rfl, isSound_cons_iff.mpr ⟨valid, ?_, sound⟩,
            ?_, ?_⟩
          · intro other mem same
            exact fresh other mem (by simp [same])
          · intro passed mem
            rcases List.mem_cons.mp mem with rfl | mem
            · exact new
            · exact fun known => fresh passed mem (List.mem_cons_of_mem _ known)
          · rw [List.length_cons, Nat.add_comm before.length 1, ← Nat.add_assoc, ← fault]
            exact congrArg List.head? (WatchDraft.faults_congr (by simp [or_left_comm]))
      · rintro ⟨before, draft, after, split, sound, fresh, fault⟩
        cases before with
        | nil =>
            obtain ⟨rfl, rfl⟩ := List.cons.inj split
            exact Or.inl fault
        | cons passed before =>
            obtain ⟨rfl, rfl⟩ := List.cons.inj split
            obtain ⟨valid, new, others⟩ := isSound_cons_iff.mp sound
            refine Or.inr ⟨⟨valid, fresh _ List.mem_cons_self⟩, before, draft, after, rfl, others,
              ?_, ?_⟩
            · intro other mem known
              rcases List.mem_cons.mp known with same | known
              · exact new other mem same
              · exact fresh other (List.mem_cons_of_mem _ mem) known
            · rw [← fault, List.length_cons, Nat.add_comm before.length 1, ← Nat.add_assoc]
              exact congrArg List.head? (WatchDraft.faults_congr (by simp [or_left_comm]))

/-! ## Accepted lists -/

theorem exists_forall₂_accepts (env : Environment) {drafts : List WatchDraft}
    (valid : ∀ draft ∈ drafts, draft.IsValid) :
    ∃ entries, List.Forall₂ (WatchDraft.Accepts env) drafts entries := by
  induction drafts with
  | nil => exact ⟨[], List.Forall₂.nil⟩
  | cons draft rest ih =>
      obtain ⟨entry, checked⟩ :=
        (WatchDraft.exists_check_eq_ok_iff env 0).mpr (valid draft List.mem_cons_self)
      obtain ⟨entries, accepted⟩ := ih fun other mem => valid other (List.mem_cons_of_mem _ mem)
      exact ⟨entry :: entries, .cons (WatchDraft.check_eq_ok_iff.mp checked) accepted⟩

theorem map_gvk_of_accepts {env : Environment} {drafts : List WatchDraft}
    {entries : List WatchEntry} (accepted : List.Forall₂ (WatchDraft.Accepts env) drafts entries) :
    entries.map (·.gvk) = drafts.map (·.gvk) := by
  induction accepted with
  | nil => rfl
  | cons accepts _ ih => rw [List.map_cons, List.map_cons, ih, accepts.gvk]

theorem forall_isValid_of_accepts {env : Environment} {drafts : List WatchDraft}
    {entries : List WatchEntry} (accepted : List.Forall₂ (WatchDraft.Accepts env) drafts entries) :
    ∀ draft ∈ drafts, draft.IsValid := by
  induction accepted with
  | nil => simp
  | cons accepts _ ih =>
      intro draft mem
      rcases List.mem_cons.mp mem with rfl | mem
      · exact (WatchDraft.exists_check_eq_ok_iff env 0).mp
          ⟨_, WatchDraft.check_eq_ok_iff.mpr accepts⟩
      · exact ih draft mem

/-- A list is accepted exactly if its entries have no faults. -/
theorem exists_checkWatches_eq_ok_iff (env : Environment) {drafts : List WatchDraft} :
    (∃ entries, checkWatches env drafts = .ok entries) ↔ IsSound drafts := by
  simp only [checkWatches, checkDrafts_eq_ok_iff]
  constructor
  · rintro ⟨entries, accepted, distinct, -⟩
    rw [map_gvk_of_accepts accepted] at distinct
    exact ⟨forall_isValid_of_accepts accepted, distinct⟩
  · rintro ⟨valid, distinct⟩
    obtain ⟨entries, accepted⟩ := exists_forall₂_accepts env valid
    rw [← map_gvk_of_accepts accepted] at distinct
    exact ⟨entries, accepted, distinct, by simp⟩

/-! ## The influence of the environment -/

theorem WatchDraft.ReadsPeriod.unique {text : Option String} {period other : Option Duration}
    (reads : ReadsPeriod text period) (readsOther : ReadsPeriod text other) : period = other := by
  cases reads with
  | absent =>
      cases readsOther
      rfl
  | present parsed =>
      cases readsOther with
      | present again => rw [Except.ok.inj (parsed.symm.trans again)]

/-- A checked entry without its override values. -/
def WatchEntry.withoutOverrides (entry : WatchEntry) : WatchEntry :=
  { entry with overrideValues := [] }

/-- Of a checked entry only the override values depend on the environment. -/
theorem WatchDraft.Accepts.withoutOverrides_eq {env other : Environment} {draft : WatchDraft}
    {entry entry' : WatchEntry} (accepts : draft.Accepts env entry)
    (acceptsOther : draft.Accepts other entry') :
    entry.withoutOverrides = entry'.withoutOverrides := by
  have chart : entry.chartDir = entry'.chartDir :=
    Option.some.inj (accepts.chart.symm.trans acceptsOther.chart)
  have period : entry.reconcilePeriod = entry'.reconcilePeriod :=
    accepts.period.unique acceptsOther.period
  simp [WatchEntry.withoutOverrides, accepts.gvk, acceptsOther.gvk, chart, accepts.dependents,
    acceptsOther.dependents, accepts.selector, acceptsOther.selector, accepts.limit,
    acceptsOther.limit, period]

theorem map_withoutOverrides_eq {env other : Environment} {drafts : List WatchDraft}
    {entries entries' : List WatchEntry}
    (accepted : List.Forall₂ (WatchDraft.Accepts env) drafts entries)
    (acceptedOther : List.Forall₂ (WatchDraft.Accepts other) drafts entries') :
    entries.map WatchEntry.withoutOverrides = entries'.map WatchEntry.withoutOverrides := by
  induction accepted generalizing entries' with
  | nil =>
      cases acceptedOther
      rfl
  | cons accepts _ ih =>
      cases acceptedOther with
      | cons acceptsOther others =>
          rw [List.map_cons, List.map_cons, accepts.withoutOverrides_eq acceptsOther, ih others]

/-! ## The outcome for a watch list -/

/-- A watch list is refused at an entry: the entries before it have no faults, and the error is the
first fault of this one. -/
structure IsRefusedAt (before : List WatchDraft) (draft : WatchDraft) (e : WatchError) : Prop where
  sound : IsSound before
  first : (draft.faults (before.map (·.gvk)) before.length).head? = some e

theorem checkWatches_eq_error_iff {env : Environment} {drafts : List WatchDraft} {e : WatchError} :
    checkWatches env drafts = .error e ↔
      ∃ before draft after, drafts = before ++ draft :: after ∧ IsRefusedAt before draft e := by
  simp only [checkWatches, checkDrafts_eq_error_iff, List.append_nil, Nat.zero_add]
  constructor
  · rintro ⟨before, draft, after, split, sound, -, first⟩
    exact ⟨before, draft, after, split, sound, first⟩
  · rintro ⟨before, draft, after, split, sound, first⟩
    exact ⟨before, draft, after, split, sound, by simp, first⟩

/-- Checking a list in another environment has the same outcome, up to the override values. -/
theorem checkWatches_map_withoutOverrides (env other : Environment) (drafts : List WatchDraft) :
    (checkWatches env drafts).map (List.map WatchEntry.withoutOverrides) =
      (checkWatches other drafts).map (List.map WatchEntry.withoutOverrides) := by
  cases checked : checkWatches env drafts with
  | error e =>
      have checkedOther : checkWatches other drafts = .error e :=
        checkWatches_eq_error_iff.mpr (checkWatches_eq_error_iff.mp checked)
      rw [checkedOther]
  | ok entries =>
      obtain ⟨entries', checkedOther⟩ :=
        (exists_checkWatches_eq_ok_iff other).mpr
          ((exists_checkWatches_eq_ok_iff env).mp ⟨entries, checked⟩)
      have accepted := (checkDrafts_eq_ok_iff.mp checked).1
      have acceptedOther := (checkDrafts_eq_ok_iff.mp checkedOther).1
      rw [checkedOther, Except.map, Except.map, map_withoutOverrides_eq accepted acceptedOther]

theorem parseWatches_of_readDrafts {content : String} {drafts : List WatchDraft}
    (read : readDrafts content = .ok drafts) (env : Environment) :
    parseWatches env content = checkWatches env drafts := by
  rw [parseWatches, read]

/-- A watch list is accepted exactly if its entries have no faults, and then every entry has its
checked form.  Otherwise the error is the first fault of the first entry that has one; what comes
behind this entry makes no difference.  The environment has an influence on nothing but the values
of overrides. -/
theorem parseWatches_outcome {content : String} {drafts : List WatchDraft}
    (read : readDrafts content = .ok drafts) (env : Environment) :
    ((∃ entries, parseWatches env content = .ok entries) ↔ IsSound drafts) ∧
    (∀ entries, parseWatches env content = .ok entries →
      List.Forall₂ (WatchDraft.Accepts env) drafts entries) ∧
    (∀ e, parseWatches env content = .error e ↔
      ∃ before draft after, drafts = before ++ draft :: after ∧ IsRefusedAt before draft e) ∧
    (∀ before draft e, IsRefusedAt before draft e → ∀ after other content',
      readDrafts content' = .ok (before ++ draft :: after) →
        parseWatches other content' = .error e) ∧
    ∀ other, (parseWatches other content).map (List.map WatchEntry.withoutOverrides) =
      (parseWatches env content).map (List.map WatchEntry.withoutOverrides) := by
  rw [parseWatches_of_readDrafts read]
  refine ⟨exists_checkWatches_eq_ok_iff env, ?_, fun e => checkWatches_eq_error_iff, ?_, ?_⟩
  · intro entries checked
    exact (checkDrafts_eq_ok_iff.mp checked).1
  · intro before draft e refused after other content' readOther
    rw [parseWatches_of_readDrafts readOther]
    exact checkWatches_eq_error_iff.mpr ⟨before, draft, after, rfl, refused⟩
  · intro other
    rw [parseWatches_of_readDrafts read]
    exact checkWatches_map_withoutOverrides other env drafts

/-- Two entries: the second one repeats the kind of the first and forbids every reconcile. -/
def exampleRepeated : String :=
  "- version: v1\n  kind: Site\n  chart: app\n" ++
    "- version: v1\n  kind: Site\n  chart: app\n  maxConcurrentReconciles: 0\n"

/-- The list of the example is refused for the limit of the second entry. -/
theorem parseWatches_outcome_exampleRepeated :
    ∃ drafts, readDrafts exampleRepeated = .ok drafts ∧ ¬ IsSound drafts ∧
      ∃ before draft after, drafts = before ++ draft :: after ∧
        IsRefusedAt before draft (.invalid 1 .noConcurrency) := by
  have refused :
      parseWatches (fun _ => none) exampleRepeated = .error (.invalid 1 .noConcurrency) := by
    decide +kernel
  obtain ⟨drafts, read⟩ : ∃ drafts, readDrafts exampleRepeated = .ok drafts := by
    unfold parseWatches at refused
    cases read : readDrafts exampleRepeated with
    | error e => simp [read] at refused
    | ok drafts => exact ⟨drafts, rfl⟩
  obtain ⟨accepted_iff, -, refused_iff, -⟩ := parseWatches_outcome read fun _ => none
  refine ⟨drafts, read, fun sound => ?_, (refused_iff _).mp refused⟩
  rcases accepted_iff.mpr sound with ⟨entries, accepted⟩
  rw [refused] at accepted
  cases accepted

end ChartOperator
