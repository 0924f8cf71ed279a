import ChartOperator.Proofs.Lists
import ChartOperator.Watch.File

/-!
# Accepted watch lists

A watch list is accepted exactly when every entry passes its own checks and no two entries name the
same kind.
-/

namespace ChartOperator

namespace WatchDraft

/-- The period of an entry, read from its text if there is one. -/
inductive ReadsPeriod : Option String → Option Duration → Prop where
  | absent : ReadsPeriod none none
  | present {text : String} {period : Duration} (parsed : Duration.parse text = .ok period) :
      ReadsPeriod (some text) (some period)

/-- The checked form of an entry that passes its own checks. -/
structure Accepts (env : Environment) (draft : WatchDraft) (entry : WatchEntry) : Prop where
  version : Text.isBlankText draft.version = false
  kind : Text.isBlankText draft.kind = false
  chart : draft.chart = some entry.chartDir
  chartNonempty : entry.chartDir.bytes ≠ []
  concurrency : draft.maxConcurrentReconciles ≠ some 0
  period : ReadsPeriod draft.reconcilePeriod entry.reconcilePeriod
  gvk : entry.gvk = draft.gvk
  dependents : entry.watchDependentResources = draft.watchDependentResources.getD true
  overrides : entry.overrideValues = draft.overrideValues.mapValues (Environment.expand env)
  selector : entry.selector = draft.selector.getD {}
  limit : entry.maxConcurrentReconciles = draft.maxConcurrentReconciles

theorem readPeriod_eq_ok_iff {draft : WatchDraft} {index : Nat} {period : Option Duration} :
    draft.readPeriod index = .ok period ↔ ReadsPeriod draft.reconcilePeriod period := by
  unfold readPeriod
  cases draft.reconcilePeriod with
  | none =>
      constructor
      · intro absent
        obtain rfl := Except.ok.inj absent
        exact ReadsPeriod.absent
      · rintro ⟨⟩
        rfl
  | some text =>
      cases parsed : Duration.parse text with
      | error e =>
          constructor
          · intro read
            simp [parsed] at read
          · intro reads
            cases reads with
            | present again =>
                rw [parsed] at again
                contradiction
      | ok found =>
          constructor
          · intro read
            obtain rfl : some found = period := by simpa [parsed] using read
            exact ReadsPeriod.present parsed
          · intro reads
            cases reads with
            | present again => simp [again]

theorem chartDir?_eq_some_iff {draft : WatchDraft} {path : Path} :
    draft.chartDir? = some path ↔ draft.chart = some path ∧ path.bytes ≠ [] := by
  simp [chartDir?, Option.filter_eq_some_iff]

/-- An entry passes its checks at any place in the list, or at none. -/
theorem check_eq_ok_iff {env : Environment} {index : Nat} {draft : WatchDraft}
    {entry : WatchEntry} : draft.check env index = .ok entry ↔ draft.Accepts env entry := by
  constructor
  · intro checked
    unfold check at checked
    split at checked
    · contradiction
    · rename_i version
      split at checked
      · contradiction
      · rename_i kind
        split at checked
        · contradiction
        · rename_i path chart
          split at checked
          · contradiction
          · rename_i concurrency
            split at checked
            · contradiction
            · rename_i period read
              obtain rfl := Except.ok.inj checked
              obtain ⟨chart, nonempty⟩ := chartDir?_eq_some_iff.mp chart
              exact ⟨by simpa using version, by simpa using kind, chart, nonempty, concurrency,
                readPeriod_eq_ok_iff.mp read, rfl, rfl, rfl, rfl, rfl⟩
  · intro accepts
    have chart := chartDir?_eq_some_iff.mpr ⟨accepts.chart, accepts.chartNonempty⟩
    have period : draft.readPeriod index = .ok entry.reconcilePeriod :=
      readPeriod_eq_ok_iff.mpr accepts.period
    simp only [check, accepts.version, accepts.kind, chart, accepts.concurrency, period,
      Bool.false_eq_true, if_false, Except.ok.injEq]
    rw [← accepts.gvk, ← accepts.dependents, ← accepts.overrides, ← accepts.selector,
      ← accepts.limit]

end WatchDraft

/-- A list is accepted exactly when each entry passes its own checks and the kinds are new and
different. -/
theorem checkDrafts_eq_ok_iff {env : Environment} {seen : List Gvk} {index : Nat}
    {drafts : List WatchDraft} {entries : List WatchEntry} :
    checkDrafts env seen index drafts = .ok entries ↔
      List.Forall₂ (WatchDraft.Accepts env) drafts entries ∧
        (entries.map (·.gvk)).Nodup ∧ ∀ entry ∈ entries, entry.gvk ∉ seen := by
  induction drafts generalizing seen index entries with
  | nil =>
      rw [checkDrafts, List.forall₂_nil_left_iff]
      constructor
      · intro checked
        obtain rfl := Except.ok.inj checked
        simp
      · rintro ⟨rfl, -⟩
        rfl
  | cons draft rest ih =>
      rw [checkDrafts, List.forall₂_cons_left_iff]
      cases checked : draft.check env index with
      | error e =>
          constructor
          · intro refused
            contradiction
          · rintro ⟨⟨entry, others, accepts, -⟩, -⟩
            rw [WatchDraft.check_eq_ok_iff.mpr accepts] at checked
            contradiction
      | ok entry =>
          have accepts := WatchDraft.check_eq_ok_iff.mp checked
          have only : ∀ other, draft.Accepts env other → other = entry := by
            intro other acceptsOther
            rw [WatchDraft.check_eq_ok_iff.mpr acceptsOther] at checked
            exact Except.ok.inj checked
          dsimp only
          constructor
          · intro accepted
            split at accepted
            · contradiction
            · rename_i new
              split at accepted
              · contradiction
              · rename_i others restChecked
                obtain rfl := Except.ok.inj accepted
                obtain ⟨all, distinct, fresh⟩ := ih.mp restChecked
                refine ⟨⟨entry, others, accepts, all, rfl⟩, ?_, ?_⟩
                · rw [List.map_cons, List.nodup_cons]
                  refine ⟨fun repeated => ?_, distinct⟩
                  obtain ⟨other, mem, same⟩ := List.mem_map.mp repeated
                  exact fresh other mem (by simp [same])
                · intro other mem
                  rcases List.mem_cons.mp mem with rfl | mem
                  · exact new
                  · exact fun old => fresh other mem (List.mem_cons_of_mem _ old)
          · rintro ⟨⟨other, others, acceptsOther, all, rfl⟩, distinct, fresh⟩
            obtain rfl := only other acceptsOther
            rw [List.map_cons, List.nodup_cons] at distinct
            have restChecked :
                checkDrafts env (other.gvk :: seen) (index + 1) rest = .ok others := by
              refine ih.mpr ⟨all, distinct.2, fun next mem known => ?_⟩
              rcases List.mem_cons.mp known with same | old
              · exact distinct.1 (List.mem_map.mpr ⟨next, mem, same⟩)
              · exact fresh next (List.mem_cons_of_mem _ mem) old
            simp [fresh other List.mem_cons_self, restChecked]

/-- The entries of a watch list that is read name whole kinds, each once, and none of them forbids
every reconcile. -/
theorem checked_of_parseWatches {env : Environment} {content : String} {entries : List WatchEntry}
    (parsed : parseWatches env content = .ok entries) :
    (∀ entry ∈ entries, entry.gvk.version ≠ "" ∧ entry.gvk.kind ≠ "" ∧
      entry.maxConcurrentReconciles ≠ some 0) ∧ (entries.map (·.gvk)).Nodup := by
  unfold parseWatches at parsed
  split at parsed
  · contradiction
  · rename_i drafts _
    obtain ⟨accepted, distinct, -⟩ := checkDrafts_eq_ok_iff.mp parsed
    refine ⟨fun entry mem => ?_, distinct⟩
    obtain ⟨draft, -, accepts⟩ := exists_left_of_forall₂ accepted mem
    have blank : Text.isBlankText "" = true := rfl
    rw [accepts.gvk, accepts.limit]
    refine ⟨fun empty => ?_, fun empty => ?_, accepts.concurrency⟩
    · have version := accepts.version
      rw [show draft.version = "" from empty, blank] at version
      contradiction
    · have kind := accepts.kind
      rw [show draft.kind = "" from empty, blank] at kind
      contradiction

end ChartOperator
