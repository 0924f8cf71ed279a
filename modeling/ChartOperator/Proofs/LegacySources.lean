import ChartOperator.Proofs.Precedence

/-!
# Older ways to give a setting

An older name of a flag is nothing but another name: with the value under the new name instead the
same configuration comes out, and only the notice about the older name is missing.  The older
variable for the leader election id is the last source of this id and of nothing else.  The notices
tell which older ways are used, whatever values they give.
-/

namespace ChartOperator

/-- Sources that agree on the conflicts of flags and on the limit are refused alike. -/
theorem resolve_eq_map {s other : Sources}
    (sameConflict : other.flags.conflict? = s.flags.conflict?)
    (sameLimit : other.settings.maxConcurrentReconciles = s.settings.maxConcurrentReconciles) :
    resolve other = (resolve s).map fun _ => ⟨other.settings, other.notices⟩ := by
  unfold resolve checkFlags
  rw [sameConflict, sameLimit]
  cases s.flags.conflict? with
  | some legacy => rfl
  | none =>
      by_cases zero : s.settings.maxConcurrentReconciles = 0
      · simp [zero, Except.map]
      · simp [zero, Except.map]

/-- Flags under both of their names are refused before anything else. -/
theorem resolve_eq_conflict_iff {s : Sources} {legacy : LegacyFlag} :
    resolve s = .error (.conflictingFlags legacy) ↔ s.flags.conflict? = some legacy := by
  unfold resolve checkFlags
  cases s.flags.conflict? with
  | some other => simp
  | none =>
      by_cases zero : s.settings.maxConcurrentReconciles = 0
      · simp [zero]
      · simp [zero]

/-! ## Flags under two names -/

namespace Flags

/-- Whether a flag is given under both of its names. -/
def IsDoubled (flags : Flags) (legacy : LegacyFlag) : Prop :=
  flags.hasReplacement legacy = true ∧ flags.hasLegacy legacy = true

/-- The flags with the value under an older name, if there is one, given under the new name. -/
def modernize (flags : Flags) : LegacyFlag → Flags
  | .enableLeaderElection =>
      match flags.enableLeaderElection with
      | none => flags
      | some enabled => { flags with leaderElect := some enabled, enableLeaderElection := none }
  | .metricsAddr =>
      match flags.metricsAddr with
      | none => flags
      | some address => { flags with metricsBindAddress := some address, metricsAddr := none }

variable {flags others : Flags} {legacy : LegacyFlag}

theorem conflict?_eq_some_of_first {before after : List LegacyFlag}
    (split : LegacyFlag.all = before ++ legacy :: after) (doubled : flags.IsDoubled legacy)
    (first : ∀ earlier ∈ before, ¬ flags.IsDoubled earlier) : flags.conflict? = some legacy := by
  rw [conflict?, List.find?_eq_some_iff_append]
  refine ⟨Bool.and_eq_true_iff.mpr doubled, before, after, split, ?_⟩
  intro earlier mem
  rw [Bool.not_eq_true', ← Bool.not_eq_true, Bool.and_eq_true_iff]
  exact first earlier mem

theorem conflict?_eq_none_iff : flags.conflict? = none ↔ ∀ legacy, ¬ flags.IsDoubled legacy := by
  constructor
  · exact not_both_of_conflict?
  · intro noneDoubled
    rw [conflict?, List.find?_eq_none]
    intro legacy _
    rw [Bool.and_eq_true_iff]
    exact noneDoubled legacy

theorem conflict?_congr (same : ∀ legacy, others.IsDoubled legacy ↔ flags.IsDoubled legacy) :
    others.conflict? = flags.conflict? := by
  unfold conflict?
  congr 1
  funext legacy
  rw [Bool.eq_iff_iff, Bool.and_eq_true_iff, Bool.and_eq_true_iff]
  exact same legacy

/-- Under its new name a flag sets the same, unless it was given under both. -/
theorem value?_modernize (single : ¬ flags.IsDoubled legacy) (field : SettingField) :
    (flags.modernize legacy).value? field = flags.value? field := by
  cases legacy with
  | enableLeaderElection =>
      cases given : flags.enableLeaderElection with
      | none => simp only [modernize, given]
      | some enabled =>
          have free : flags.leaderElect = none := by
            simpa [IsDoubled, hasReplacement, hasLegacy, given] using single
          cases field <;> simp [modernize, value?, given, free]
  | metricsAddr =>
      cases given : flags.metricsAddr with
      | none => simp only [modernize, given]
      | some address =>
          have free : flags.metricsBindAddress = none := by
            simpa [IsDoubled, hasReplacement, hasLegacy, given] using single
          cases field <;> simp [modernize, value?, given, free]

theorem hasLegacy_modernize (flags : Flags) (legacy other : LegacyFlag) :
    (flags.modernize legacy).hasLegacy other = (flags.hasLegacy other && other ≠ legacy) := by
  cases legacy with
  | enableLeaderElection =>
      cases given : flags.enableLeaderElection <;> cases other <;>
        simp [modernize, hasLegacy, given]
  | metricsAddr =>
      cases given : flags.metricsAddr <;> cases other <;> simp [modernize, hasLegacy, given]

theorem hasReplacement_modernize (flags : Flags) {legacy other : LegacyFlag}
    (different : other ≠ legacy) :
    (flags.modernize legacy).hasReplacement other = flags.hasReplacement other := by
  cases legacy with
  | enableLeaderElection =>
      cases given : flags.enableLeaderElection <;> cases other <;>
        simp_all [modernize, hasReplacement]
  | metricsAddr =>
      cases given : flags.metricsAddr <;> cases other <;> simp_all [modernize, hasReplacement]

theorem isDoubled_modernize_iff (single : ¬ flags.IsDoubled legacy) (other : LegacyFlag) :
    (flags.modernize legacy).IsDoubled other ↔ flags.IsDoubled other := by
  by_cases same : other = legacy
  · subst same
    exact iff_of_false (by simp [IsDoubled, hasLegacy_modernize]) single
  · simp [IsDoubled, hasLegacy_modernize, hasReplacement_modernize flags same, same]

end Flags

/-- Flags that set the same lead to the same settings. -/
theorem Sources.settings_congr {s : Sources} {flags : Flags}
    (same : ∀ field, flags.value? field = s.flags.value? field) :
    { s with flags := flags }.settings = s.settings := by
  apply Settings.eq_of_value?
  intro field
  -- Any environment will do that holds the older variable.
  let env : Environment := fun _ => s.environment.operatorName
  have older : s.environment.operatorName = env.get? .operatorName := rfl
  rw [Sources.value?_settings s older, Sources.value?_settings { s with flags := flags } older,
    same field]

/-! ## Notices -/

/-- All notices in their order. -/
def Notice.all : List Notice :=
  [.deprecatedFlag .enableLeaderElection, .deprecatedFlag .metricsAddr, .deprecatedOperatorName,
    .operatorNameIgnored]

namespace Sources

/-- The sources with the value under an older name of a flag given under the new name. -/
def modernize (s : Sources) (legacy : LegacyFlag) : Sources :=
  { s with flags := s.flags.modernize legacy }

/-- The sources with another value of the older variable for the leader election id. -/
def withOperatorName (s : Sources) (name : Option String) : Sources :=
  { s with environment := { s.environment with operatorName := name } }

/-- Whether there is a reason for a notice.  Only the presence of flags and of the older variable
counts. -/
def warrants (s : Sources) : Notice → Bool
  | .deprecatedFlag legacy => s.flags.hasLegacy legacy
  | .deprecatedOperatorName => s.environment.operatorName.isSome
  | .operatorNameIgnored =>
      s.environment.operatorName.isSome && s.flags.leaderElectionId.isSome

theorem notices_eq (s : Sources) : s.notices = Notice.all.filter s.warrants := by
  cases leader : s.flags.hasLegacy .enableLeaderElection <;>
    cases metrics : s.flags.hasLegacy .metricsAddr <;>
    cases name : s.environment.operatorName.isSome <;>
    cases id : s.flags.leaderElectionId.isSome <;>
    simp [notices, Notice.all, warrants, Flags.legacy, LegacyFlag.all, leader, metrics, name, id]

variable {s other : Sources} {legacy : LegacyFlag}

theorem nodup_notices (s : Sources) : s.notices.Nodup := by
  rw [notices_eq]
  exact List.Pairwise.filter _ (by decide : Notice.all.Nodup)

theorem mem_notices_iff {notice : Notice} : notice ∈ s.notices ↔ s.warrants notice = true := by
  have listed : notice ∈ Notice.all := by
    rcases notice with legacy | _ | _
    · cases legacy <;> decide
    · decide
    · decide
  simp [notices_eq, listed]

/-- With the new name of a flag there is no reason left for the notice about its older name, and
every other reason stays. -/
theorem notices_modernize (single : ¬ s.flags.IsDoubled legacy) :
    (s.modernize legacy).notices = s.notices.filter (· ≠ .deprecatedFlag legacy) := by
  rw [notices_eq, notices_eq, List.filter_filter]
  apply List.filter_congr
  intro notice _
  cases notice with
  | deprecatedFlag other =>
      simp [warrants, modernize, Flags.hasLegacy_modernize, Bool.and_comm]
  | deprecatedOperatorName => simp [warrants, modernize]
  | operatorNameIgnored =>
      have sameId : (s.flags.modernize legacy).leaderElectionId = s.flags.leaderElectionId :=
        Flags.value?_modernize single .leaderElectionId
      simp [warrants, modernize, sameId]

theorem notices_congr
    (sameFlags : ∀ legacy, other.flags.hasLegacy legacy = s.flags.hasLegacy legacy)
    (sameId : other.flags.leaderElectionId.isSome = s.flags.leaderElectionId.isSome)
    (sameName : other.environment.operatorName.isSome = s.environment.operatorName.isSome) :
    other.notices = s.notices := by
  rw [notices_eq, notices_eq]
  apply List.filter_congr
  intro notice _
  cases notice with
  | deprecatedFlag legacy => exact sameFlags legacy
  | deprecatedOperatorName => exact sameName
  | operatorNameIgnored => simp only [warrants, sameId, sameName]

end Sources

/-! ## Older names of flags -/

/-- A value may be given under the older name of a flag as well as under the new one: the same
configuration comes out or the same error, and of the notices only the one about the older name is
missing.  A flag under both of its names is an error, the first one where there are two.  The
notices are those for which there is a reason, in one order; no value makes a difference to them. -/
theorem resolve_modernize (s : Sources) :
    (∀ legacy, ¬ s.flags.IsDoubled legacy →
      resolve (s.modernize legacy) =
        (resolve s).map fun resolution =>
          { resolution with
            notices := resolution.notices.filter (· ≠ .deprecatedFlag legacy) }) ∧
    (∀ before legacy after, LegacyFlag.all = before ++ legacy :: after →
      s.flags.IsDoubled legacy → (∀ earlier ∈ before, ¬ s.flags.IsDoubled earlier) →
      resolve s = .error (.conflictingFlags legacy)) ∧
    ((∃ legacy, resolve s = .error (.conflictingFlags legacy)) ↔
      ∃ legacy, s.flags.IsDoubled legacy) ∧
    ∀ resolution, resolve s = .ok resolution →
      resolution.notices = Notice.all.filter s.warrants ∧ resolution.notices.Nodup ∧
      (∀ legacy, .deprecatedFlag legacy ∈ resolution.notices ↔
        s.flags.hasLegacy legacy = true) ∧
      ∀ other otherResolution, resolve other = .ok otherResolution →
        (∀ legacy, other.flags.hasLegacy legacy = s.flags.hasLegacy legacy) →
        other.flags.leaderElectionId.isSome = s.flags.leaderElectionId.isSome →
        other.environment.operatorName.isSome = s.environment.operatorName.isSome →
        otherResolution.notices = resolution.notices := by
  refine ⟨?_, ?_, ?_, ?_⟩
  · intro legacy single
    have sameSettings : (s.modernize legacy).settings = s.settings :=
      Sources.settings_congr (Flags.value?_modernize single)
    rw [resolve_eq_map (Flags.conflict?_congr (Flags.isDoubled_modernize_iff single))
      (congrArg Settings.maxConcurrentReconciles sameSettings), sameSettings,
      Sources.notices_modernize single]
    cases merged : resolve s with
    | error e => rfl
    | ok resolution =>
        rcases resolve_eq_ok_iff.mp merged with ⟨-, -, rfl⟩
        rfl
  · intro before legacy after split doubled first
    exact resolve_eq_conflict_iff.mpr (Flags.conflict?_eq_some_of_first split doubled first)
  · simp only [resolve_eq_conflict_iff, ← Option.isSome_iff_exists]
    rw [← Option.ne_none_iff_isSome, ne_eq, Flags.conflict?_eq_none_iff, not_forall_not]
  · intro resolution merged
    rcases resolve_eq_ok_iff.mp merged with ⟨-, -, rfl⟩
    refine ⟨s.notices_eq, s.nodup_notices, fun legacy => Sources.mem_notices_iff, ?_⟩
    intro other otherResolution otherMerged sameFlags sameId sameName
    rcases resolve_eq_ok_iff.mp otherMerged with ⟨-, -, rfl⟩
    exact Sources.notices_congr sameFlags sameId sameName

/-- Two flags under their older names, and the older variable. -/
def exampleLegacySources : Sources where
  flags :=
    { enableLeaderElection := some true, metricsAddr := some ":1", leaderElectionId := some "" }
  environment := { metricsBindAddress := some ":2", operatorName := some "older" }
  file := {}
  defaults := { maxConcurrentReconciles := 4 }

/-- The same value under both names of a flag. -/
def exampleDoubled : Sources :=
  { exampleLegacySources with
    flags := { metricsBindAddress := some ":1", metricsAddr := some ":1" } }

/-- In the example a notice goes with the older name, and other values lead to the same notices. -/
theorem resolve_modernize_exampleLegacySources :
    (∃ resolution, resolve exampleLegacySources = .ok resolution ∧
      resolve (exampleLegacySources.modernize .metricsAddr) =
        .ok { resolution with
          notices := [.deprecatedFlag .enableLeaderElection, .deprecatedOperatorName,
            .operatorNameIgnored] } ∧
      ∀ other, resolve (exampleLegacySources.withOperatorName (some "")) = .ok other →
        other.notices = resolution.notices) ∧
    resolve exampleDoubled = .error (.conflictingFlags .metricsAddr) := by
  rcases resolve_modernize exampleLegacySources with ⟨renamed, -, -, noticed⟩
  rcases resolve_modernize exampleDoubled with ⟨-, refused, -, -⟩
  have merged : resolve exampleLegacySources = .ok ⟨_, _⟩ := rfl
  have single : ¬ exampleLegacySources.flags.IsDoubled .metricsAddr := by
    rintro ⟨given, -⟩
    cases given
  have notFirst : ¬ exampleDoubled.flags.IsDoubled .enableLeaderElection := by
    rintro ⟨given, -⟩
    cases given
  refine ⟨⟨_, merged, ?_, ?_⟩, ?_⟩
  · rw [renamed .metricsAddr single, merged]
    rfl
  · intro other otherMerged
    exact (noticed _ merged).2.2.2 _ other otherMerged (fun _ => rfl) rfl rfl
  · exact refused [.enableLeaderElection] .metricsAddr [] rfl ⟨rfl, rfl⟩ (by simpa using notFirst)

/-! ## The older variable -/

theorem nonEmpty_eq_none_iff {text : Option String} :
    nonEmpty text = none ↔ text = none ∨ text = some "" := by
  cases text with
  | none => simp [nonEmpty]
  | some text => simp [nonEmpty, Option.filter_eq_none_iff]

namespace Sources

/-- Whether neither a flag, nor a variable, nor a text of the file that is not empty gives the
leader election id. -/
def LeavesIdOpen (s : Sources) : Prop :=
  s.flags.leaderElectionId = none ∧ s.environment.leaderElectionId = none ∧
    (s.file.leaderElection.resourceName = none ∨ s.file.leaderElection.resourceName = some "")

variable {s : Sources}

theorem leavesIdOpen_iff :
    s.LeavesIdOpen ↔
      (s.flags.leaderElectionId <|> s.environment.leaderElectionId <|>
        nonEmpty s.file.leaderElection.resourceName) = none := by
  simp [LeavesIdOpen, nonEmpty_eq_none_iff]

/-- The older variable is the last source of the id. -/
theorem leaderElectionId_withOperatorName (s : Sources) (name : Option String) :
    (s.withOperatorName name).leaderElectionId =
      ((s.flags.leaderElectionId <|> s.environment.leaderElectionId <|>
        nonEmpty s.file.leaderElection.resourceName) <|> nonEmpty name) := by
  simp [withOperatorName, leaderElectionId, Option.or_assoc]

/-- Nothing but the id depends on the older variable. -/
theorem settings_withOperatorName (s : Sources) (name : Option String) :
    (s.withOperatorName name).settings =
      { (s.withOperatorName none).settings with
        leaderElection.id := (s.withOperatorName name).leaderElectionId } := by
  rfl

/-- With the older variable its notices come behind those that there are without it. -/
theorem notices_withOperatorName (s : Sources) (name : String) :
    (s.withOperatorName (some name)).notices =
      (s.withOperatorName none).notices ++ .deprecatedOperatorName ::
        if s.flags.leaderElectionId.isSome then [.operatorNameIgnored] else [] := by
  have without : (s.withOperatorName none).notices = s.flags.legacy.map .deprecatedFlag :=
    List.append_nil _
  rw [without]
  rfl

/-- Where the id is left open, it comes from the older variable, unless that one is empty. -/
theorem leaderElectionId_of_leavesIdOpen (isOpen : s.LeavesIdOpen) (name : Option String) :
    (s.withOperatorName name).leaderElectionId = nonEmpty name := by
  rw [leaderElectionId_withOperatorName, leavesIdOpen_iff.mp isOpen]
  rfl

/-- Where the id is given, the older variable makes no difference to it. -/
theorem leaderElectionId_of_not_leavesIdOpen (given : ¬ s.LeavesIdOpen) (name : Option String) :
    (s.withOperatorName name).leaderElectionId = (s.withOperatorName none).leaderElectionId := by
  rw [leavesIdOpen_iff, ← ne_eq, Option.ne_none_iff_exists'] at given
  rcases given with ⟨id, isId⟩
  rw [leaderElectionId_withOperatorName, leaderElectionId_withOperatorName, isId]
  rfl

/-- Where the id is left open, a name in the older variable becomes the id. -/
theorem leaderElectionId_eq_name {name : String} (named : s.LeavesIdOpen ∧ name ≠ "") :
    (s.withOperatorName none).leaderElectionId = none ∧
      (s.withOperatorName (some name)).leaderElectionId = some name := by
  rcases named with ⟨isOpen, nonempty⟩
  rw [leaderElectionId_of_leavesIdOpen isOpen, leaderElectionId_of_leavesIdOpen isOpen]
  simp [nonEmpty, nonempty]

/-- The older variable makes a difference to the id in this case only. -/
theorem leaderElectionId_ne_iff {name : String} :
    (s.withOperatorName (some name)).leaderElectionId ≠
        (s.withOperatorName none).leaderElectionId ↔
      s.LeavesIdOpen ∧ name ≠ "" := by
  constructor
  · intro different
    have isOpen : s.LeavesIdOpen := by
      by_contra given
      exact different (leaderElectionId_of_not_leavesIdOpen given _)
    refine ⟨isOpen, ?_⟩
    rintro rfl
    rw [leaderElectionId_of_leavesIdOpen isOpen, leaderElectionId_of_leavesIdOpen isOpen]
      at different
    exact different rfl
  · intro named
    rcases leaderElectionId_eq_name named with ⟨noId, id⟩
    rw [noId, id]
    exact Option.some_ne_none name

end Sources

/-- The older variable, be it empty, is neither a reason to refuse a configuration nor to accept it,
and it makes a difference to the leader election id only: where no other source gives the id, a text
that is not empty is the id.  Its notices come behind all others. -/
theorem resolve_withOperatorName (s : Sources) (name : String) :
    (∀ e, resolve (s.withOperatorName (some name)) = .error e ↔
      resolve (s.withOperatorName none) = .error e) ∧
    ∀ without, resolve (s.withOperatorName none) = .ok without →
      ∃ resolution, resolve (s.withOperatorName (some name)) = .ok resolution ∧
        resolution.settings =
          { without.settings with
            leaderElection.id := resolution.settings.leaderElection.id } ∧
        (resolution.settings.leaderElection.id ≠ without.settings.leaderElection.id ↔
          s.LeavesIdOpen ∧ name ≠ "") ∧
        (s.LeavesIdOpen ∧ name ≠ "" →
          without.settings.leaderElection.id = none ∧
            resolution.settings.leaderElection.id = some name) ∧
        resolution.notices =
          without.notices ++ .deprecatedOperatorName ::
            if s.flags.leaderElectionId.isSome then [.operatorNameIgnored] else [] := by
  have mapped : resolve (s.withOperatorName (some name)) =
      (resolve (s.withOperatorName none)).map fun _ =>
        ⟨(s.withOperatorName (some name)).settings, (s.withOperatorName (some name)).notices⟩ :=
    resolve_eq_map rfl rfl
  constructor
  · intro e
    rw [mapped, map_eq_error_iff]
  · intro without merged
    rcases resolve_eq_ok_iff.mp merged with ⟨-, -, rfl⟩
    refine ⟨⟨(s.withOperatorName (some name)).settings, (s.withOperatorName (some name)).notices⟩,
      ?_, Sources.settings_withOperatorName s _, Sources.leaderElectionId_ne_iff,
      Sources.leaderElectionId_eq_name, Sources.notices_withOperatorName s name⟩
    rw [mapped, merged]
    rfl

/-- Sources of which only the file gives a leader election id, and that is empty. -/
def exampleUnnamed : Sources where
  flags := { metricsAddr := some ":1" }
  environment := {}
  file := { leaderElection := { resourceName := some "" } }
  defaults := { maxConcurrentReconciles := 4 }

/-- A name in the older variable becomes the id where only the file gives one, and that is empty. -/
theorem resolve_withOperatorName_exampleUnnamed :
    ∃ without resolution,
      resolve (exampleUnnamed.withOperatorName none) = .ok without ∧
      resolve (exampleUnnamed.withOperatorName (some "older")) = .ok resolution ∧
      without.settings.leaderElection.id = none ∧
      resolution.settings.leaderElection.id = some "older" ∧
      resolution.notices = without.notices ++ [.deprecatedOperatorName] := by
  have merged : resolve (exampleUnnamed.withOperatorName none) = .ok ⟨_, _⟩ := rfl
  have isOpen : exampleUnnamed.LeavesIdOpen := ⟨rfl, rfl, Or.inr rfl⟩
  rcases (resolve_withOperatorName exampleUnnamed "older").2 _ merged with
    ⟨resolution, otherMerged, -, -, named, noticed⟩
  rcases named ⟨isOpen, by decide⟩ with ⟨noId, id⟩
  exact ⟨_, resolution, merged, otherMerged, noId, id, noticed⟩

end ChartOperator
