import ChartOperator.Manager.Options
import ChartOperator.Proofs.Except
import ChartOperator.Proofs.Text

/-!
# Complete forms of bind addresses

An address that a server can listen on is a host and a port, with the last colon between them.  Its
complete form only differs from its trimmed text if there is no host, so the complete form of a
complete form is the same again, and two addresses with one form are the same up to blanks and the
host that stands for every interface.
-/

namespace ChartOperator

/-! ## Decimal numbers -/

namespace Text

theorem digitValue?_ten (c : Char) :
    digitValue? 10 c = if c.isDigit then some (c.toNat - '0'.toNat) else none := by
  have digit_iff : ('0' ≤ c ∧ c ≤ '9') ↔ c.isDigit = true := Char.isDigit_iff_toNat.symm
  unfold digitValue?
  by_cases digit : c.isDigit = true
  · have bounds := Char.isDigit_iff_toNat.mp digit
    have small : c.toNat - '0'.toNat < 10 := by
      change 48 ≤ c.toNat ∧ c.toNat ≤ 57 at bounds
      change c.toNat - 48 < 10
      omega
    rw [if_pos (digit_iff.mpr digit), if_pos digit]
    exact Option.filter_eq_some_iff.mpr ⟨rfl, decide_eq_true small⟩
  · -- A letter stands for ten or more.
    rw [if_neg (mt digit_iff.mp digit), if_neg digit]
    dsimp only
    split
    · simp
    · split <;> simp

theorem le_ofDigitChars (value : Nat) (digits : List Char) :
    value ≤ Nat.ofDigitChars 10 digits value := by
  induction digits generalizing value with
  | nil => exact Nat.le_refl value
  | cons c rest ih =>
      rw [Nat.ofDigitChars_cons]
      exact Nat.le_trans (by omega) (ih _)

/-- Digits are read exactly if their value does not exceed the limit.  No value on the way exceeds
it then, since further digits never make a value smaller. -/
theorem readDigits_ten_eq_ok_iff {limit value n : Nat} {cs : List Char} (below : value ≤ limit) :
    readDigits 10 limit value cs = .ok n ↔
      (∀ c ∈ cs, c.isDigit = true) ∧ Nat.ofDigitChars 10 cs value = n ∧ n ≤ limit := by
  induction cs generalizing value with
  | nil =>
      rw [readDigits, Except.ok.injEq, Nat.ofDigitChars_nil]
      constructor
      · rintro rfl
        exact ⟨by simp, rfl, below⟩
      · rintro ⟨-, same, -⟩
        exact same
  | cons c rest ih =>
      rw [readDigits, digitValue?_ten, Nat.ofDigitChars_cons, List.forall_mem_cons]
      by_cases digit : c.isDigit = true
      · simp only [digit, if_true, true_and, Nat.mul_comm value 10]
        split
        · rename_i tooLarge
          constructor
          · intro read
            contradiction
          · rintro ⟨-, rfl, within⟩
            have grows := le_ofDigitChars (10 * value + (c.toNat - '0'.toNat)) rest
            omega
        · rename_i within
          exact ih (Nat.le_of_not_lt within)
      · simp [digit]

/-- Whether a text is a number with the given digits: one or more of them, with a plus sign in front
or without. -/
structure IsNumeral (cs digits : List Char) : Prop where
  text : cs = digits ∨ cs = '+' :: digits
  nonempty : digits ≠ []
  digits : ∀ c ∈ digits, c.isDigit = true

theorem IsNumeral.ne_plus {cs digits : List Char} (numeral : IsNumeral cs digits) :
    ∀ c ∈ digits, c ≠ '+' := by
  rintro c mem rfl
  have plus := numeral.digits '+' mem
  contradiction

theorem readUnsigned_ten_eq_ok_iff {limit n : Nat} {cs : List Char} :
    readUnsigned 10 limit cs = .ok n ↔
      ∃ digits, IsNumeral cs digits ∧ Nat.ofDigitChars 10 digits 0 = n ∧ n ≤ limit := by
  unfold readUnsigned
  split
  · simp only [reduceCtorEq, false_iff]
    rintro ⟨digits, numeral, -⟩
    rcases numeral.text with rfl | signed
    · exact numeral.nonempty rfl
    · contradiction
  · simp only [reduceCtorEq, false_iff]
    rintro ⟨digits, numeral, -⟩
    rcases numeral.text with rfl | signed
    · exact numeral.ne_plus '+' List.mem_cons_self rfl
    · exact numeral.nonempty (List.cons.inj signed).2.symm
  · rename_i rest alone
    rw [readDigits_ten_eq_ok_iff (Nat.zero_le limit)]
    constructor
    · rintro ⟨digits, value⟩
      exact ⟨rest, ⟨Or.inr rfl, fun empty => alone (by rw [empty]), digits⟩, value⟩
    · rintro ⟨digits, numeral, value⟩
      rcases numeral.text with rfl | signed
      · exact absurd rfl (numeral.ne_plus '+' List.mem_cons_self)
      · obtain rfl := (List.cons.inj signed).2
        exact ⟨numeral.digits, value⟩
  · rename_i nonempty _ unsigned
    rw [readDigits_ten_eq_ok_iff (Nat.zero_le limit)]
    constructor
    · rintro ⟨digits, value⟩
      exact ⟨cs, ⟨Or.inl rfl, nonempty, digits⟩, value⟩
    · rintro ⟨digits, numeral, value⟩
      rcases numeral.text with rfl | signed
      · exact ⟨numeral.digits, value⟩
      · exact absurd signed (unsigned digits)

end Text

namespace BindAddress

/-! ## Hosts and ports -/

/-- Whether a text is a host and a port, with the last colon of the text between them. -/
structure IsHostAndPort (text host port : List Char) : Prop where
  text : text = host ++ ':' :: port
  last : ':' ∉ port
  port : ∃ digits, Text.IsNumeral port digits ∧ Nat.ofDigitChars 10 digits 0 ≤ 65535

/-- The complete form of a host and a port. -/
def completed (host port : List Char) : List Char :=
  (if host = [] then "0.0.0.0".toList else host) ++ ':' :: port

theorem isPort_iff {port : List Char} :
    isPort port = true ↔
      ∃ digits, Text.IsNumeral port digits ∧ Nat.ofDigitChars 10 digits 0 ≤ 65535 := by
  rw [isPort]
  constructor
  · intro isOk
    obtain ⟨n, read⟩ := exists_eq_ok_of_isOk isOk
    obtain ⟨digits, numeral, rfl, small⟩ := Text.readUnsigned_ten_eq_ok_iff.mp read
    exact ⟨digits, numeral, small⟩
  · rintro ⟨digits, numeral, small⟩
    have read := Text.readUnsigned_ten_eq_ok_iff.mpr ⟨digits, numeral, rfl, small⟩
    change (Text.readUnsigned 10 65535 port).isOk = true
    rw [read]
    rfl

/-- Neither a colon nor a blank stands in a port. -/
theorem plain_of_mem_port {port digits : List Char} (numeral : Text.IsNumeral port digits)
    {c : Char} (mem : c ∈ port) : c ≠ ':' ∧ Text.isBlank c = false := by
  have plain : c ∈ digits → c ≠ ':' ∧ Text.isBlank c = false := by
    intro inDigits
    have digit := numeral.digits c inDigits
    refine ⟨?_, Text.isBlank_of_isDigit digit⟩
    rintro rfl
    contradiction
  rcases numeral.text with rfl | rfl
  · exact plain mem
  · rcases List.mem_cons.mp mem with rfl | inDigits
    · decide
    · exact plain inDigits

/-! ## The last colon -/

theorem splitLastColon?_append (host : List Char) {port : List Char} (last : ':' ∉ port) :
    splitLastColon? (host ++ ':' :: port) = some (host, port) := by
  have beforeColon : ∀ c ∈ port.reverse, decide (c ≠ ':') = true := by
    intro c mem
    rw [decide_eq_true_eq]
    rintro rfl
    exact last (List.mem_reverse.mp mem)
  obtain ⟨run, rest⟩ :=
    Text.span_append (p := fun c => decide (c ≠ ':')) (':' :: host.reverse) beforeColon (by simp)
  have reversed : (host ++ ':' :: port).reverse = port.reverse ++ ':' :: host.reverse := by simp
  rw [splitLastColon?, reversed, run, rest]
  simp

theorem splitLastColon?_of_not_mem {text : List Char} (noColon : ':' ∉ text) :
    splitLastColon? text = none := by
  have nothingLeft : text.reverse.dropWhile (fun c => decide (c ≠ ':')) = [] := by
    rw [List.dropWhile_eq_nil_iff]
    intro c mem
    rw [decide_eq_true_eq]
    rintro rfl
    exact noColon (List.mem_reverse.mp mem)
  rw [splitLastColon?, nothingLeft]

/-- A text with a colon has a last one. -/
theorem exists_last_colon {text : List Char} (mem : ':' ∈ text) :
    ∃ host port, text = host ++ ':' :: port ∧ ':' ∉ port := by
  obtain ⟨port, host, split, last⟩ := List.eq_append_cons_of_mem (List.mem_reverse.mpr mem)
  refine ⟨host.reverse, port.reverse, ?_, by simpa using last⟩
  rw [← List.reverse_inj, split]
  simp

/-- There is only one last colon. -/
theorem eq_of_last_colon {host port otherHost otherPort : List Char} (last : ':' ∉ port)
    (otherLast : ':' ∉ otherPort)
    (same : host ++ ':' :: port = otherHost ++ ':' :: otherPort) :
    host = otherHost ∧ port = otherPort := by
  have split := splitLastColon?_append host last
  rw [same, splitLastColon?_append otherHost otherLast] at split
  exact ⟨(Prod.mk.inj (Option.some.inj split)).1.symm, (Prod.mk.inj (Option.some.inj split)).2.symm⟩

/-! ## Complete forms of trimmed texts -/

section Trimmed

variable {text host port : List Char}

theorem normalizeTrimmed_append (host : List Char) (last : ':' ∉ port) :
    normalizeTrimmed (host ++ ':' :: port) =
      if isPort port then .ok (some (completed host port)) else .error .badPort := by
  have notZero : host ++ ':' :: port ≠ ['0'] := by
    intro zero
    have mem : ':' ∈ host ++ ':' :: port := by simp
    rw [zero] at mem
    simp at mem
  rw [normalizeTrimmed, if_neg notZero, splitLastColon?_append host last]
  cases host with
  | nil => rfl
  | cons c rest => rfl

theorem normalizeTrimmed_of_not_mem (noColon : ':' ∉ text) (notZero : text ≠ ['0']) :
    normalizeTrimmed text = .error .noPort := by
  rw [normalizeTrimmed, if_neg notZero, splitLastColon?_of_not_mem noColon]

/-- What becomes of a text: it is a lone zero, it is a host and a port, or it is refused. -/
theorem normalizeTrimmed_cases (text : List Char) :
    (text = ['0'] ∧ normalizeTrimmed text = .ok none) ∨
      (∃ host port, IsHostAndPort text host port ∧
        normalizeTrimmed text = .ok (some (completed host port))) ∨
      (text ≠ ['0'] ∧ (¬ ∃ host port, IsHostAndPort text host port) ∧
        normalizeTrimmed text = .error (if ':' ∈ text then .badPort else .noPort)) := by
  by_cases colon : ':' ∈ text
  · obtain ⟨host, port, rfl, last⟩ := exists_last_colon colon
    rw [normalizeTrimmed_append host last, if_pos colon]
    by_cases isNumber : isPort port = true
    · exact Or.inr (Or.inl ⟨host, port, ⟨rfl, last, isPort_iff.mp isNumber⟩, if_pos isNumber⟩)
    · refine Or.inr (Or.inr ⟨?_, ?_, if_neg isNumber⟩)
      · intro zero
        rw [zero] at colon
        simp at colon
      · rintro ⟨otherHost, otherPort, other⟩
        obtain ⟨-, rfl⟩ := eq_of_last_colon last other.last other.text
        exact isNumber (isPort_iff.mpr other.port)
  · by_cases zero : text = ['0']
    · exact Or.inl ⟨zero, by rw [zero]; rfl⟩
    · refine Or.inr (Or.inr ⟨zero, ?_, ?_⟩)
      · rintro ⟨host, port, isAddress⟩
        rw [isAddress.text] at colon
        simp at colon
      · rw [normalizeTrimmed_of_not_mem colon zero, if_neg colon]

theorem IsHostAndPort.ne_zero (isAddress : IsHostAndPort text host port) : text ≠ ['0'] := by
  intro zero
  have colon : ':' ∈ text := by simp [isAddress.text]
  rw [zero] at colon
  simp at colon

/-- A text is a host and a port in one way only. -/
theorem IsHostAndPort.unique {otherHost otherPort : List Char}
    (isAddress : IsHostAndPort text host port) (other : IsHostAndPort text otherHost otherPort) :
    host = otherHost ∧ port = otherPort :=
  eq_of_last_colon isAddress.last other.last (isAddress.text.symm.trans other.text)

/-- The host of a complete form. -/
theorem IsHostAndPort.isHostAndPort_completed (isAddress : IsHostAndPort text host port) :
    IsHostAndPort (completed host port) (if host = [] then "0.0.0.0".toList else host) port :=
  ⟨rfl, isAddress.last, isAddress.port⟩

theorem completed_completed (host port : List Char) :
    completed (if host = [] then "0.0.0.0".toList else host) port = completed host port := by
  cases host with
  | nil => rfl
  | cons c rest => rfl

/-- A complete form has no blanks around it if the text has none. -/
theorem IsHostAndPort.trimChars_completed (isAddress : IsHostAndPort text host port)
    (trimmed : Text.trimChars text = text) :
    Text.trimChars (completed host port) = completed host port := by
  cases host with
  | nil =>
      obtain ⟨digits, numeral, -⟩ := isAddress.port
      refine Text.trimChars_of_visible fun c mem => ?_
      rcases List.mem_append.mp mem with inHost | inPort
      · have visible : "0.0.0.0".toList.all (fun c => !Text.isBlank c) = true := by decide
        simpa using List.all_eq_true.mp visible c inHost
      · rcases List.mem_cons.mp inPort with rfl | inNumber
        · rfl
        · exact (plain_of_mem_port numeral inNumber).2
  | cons c rest =>
      rw [isAddress.text] at trimmed
      exact trimmed

end Trimmed

/-! ## Complete forms -/

section Addresses

variable {address : String}

theorem toList_trim (address : String) :
    (Text.trim address).toList = Text.trimChars address.toList := by
  rw [Text.trim, String.toList_ofList]

theorem trim_eq_zero_iff : Text.trim address = "0" ↔ (Text.trim address).toList = ['0'] := by
  rw [← String.toList_inj]
  exact Iff.rfl

/-- What becomes of an address. -/
theorem normalize_cases (address : String) :
    (Text.trim address = "0" ∧ normalize address = .ok none) ∨
      (∃ host port, IsHostAndPort (Text.trim address).toList host port ∧
        normalize address = .ok (some (String.ofList (completed host port)))) ∨
      (Text.trim address ≠ "0" ∧
        (¬ ∃ host port, IsHostAndPort (Text.trim address).toList host port) ∧
        normalize address = .error ⟨Text.trim address,
          if ':' ∈ (Text.trim address).toList then .badPort else .noPort⟩) := by
  rw [normalize, ne_eq, trim_eq_zero_iff, ← toList_trim, String.ofList_toList]
  rcases normalizeTrimmed_cases (Text.trim address).toList with
    ⟨zero, outcome⟩ | ⟨host, port, isAddress, outcome⟩ | ⟨notZero, noAddress, outcome⟩
  · exact Or.inl ⟨zero, by rw [outcome]; rfl⟩
  · exact Or.inr (Or.inl ⟨host, port, isAddress, by rw [outcome]; rfl⟩)
  · exact Or.inr (Or.inr ⟨notZero, noAddress, by rw [outcome]⟩)

theorem normalize_eq_none_iff : normalize address = .ok none ↔ Text.trim address = "0" := by
  rcases normalize_cases address with
    ⟨zero, outcome⟩ | ⟨host, port, isAddress, outcome⟩ | ⟨notZero, -, outcome⟩
  · simp [zero, outcome]
  · have notZero := mt trim_eq_zero_iff.mp isAddress.ne_zero
    simp [notZero, outcome]
  · simp [notZero, outcome]

theorem normalize_eq_some_iff {form : String} :
    normalize address = .ok (some form) ↔
      ∃ host port, IsHostAndPort (Text.trim address).toList host port ∧
        form = String.ofList (completed host port) := by
  rcases normalize_cases address with
    ⟨zero, outcome⟩ | ⟨host, port, isAddress, outcome⟩ | ⟨-, noAddress, outcome⟩
  · constructor
    · intro some
      rw [outcome] at some
      cases Except.ok.inj some
    · rintro ⟨host, port, isAddress, -⟩
      exact absurd (trim_eq_zero_iff.mp zero) isAddress.ne_zero
  · rw [outcome, Except.ok.injEq, Option.some.injEq]
    constructor
    · rintro rfl
      exact ⟨host, port, isAddress, rfl⟩
    · rintro ⟨otherHost, otherPort, other, rfl⟩
      obtain ⟨rfl, rfl⟩ := isAddress.unique other
      rfl
  · constructor
    · intro some
      rw [outcome] at some
      contradiction
    · rintro ⟨host, port, isAddress, -⟩
      exact absurd ⟨host, port, isAddress⟩ noAddress

theorem normalize_eq_error_iff {e : AddressError} :
    normalize address = .error e ↔
      Text.trim address ≠ "0" ∧
        (¬ ∃ host port, IsHostAndPort (Text.trim address).toList host port) ∧
        e = ⟨Text.trim address,
          if ':' ∈ (Text.trim address).toList then .badPort else .noPort⟩ := by
  rcases normalize_cases address with
    ⟨zero, outcome⟩ | ⟨host, port, isAddress, outcome⟩ | ⟨notZero, noAddress, outcome⟩
  · simp [zero, outcome]
  · have someAddress : ∃ host port, IsHostAndPort (Text.trim address).toList host port :=
      ⟨host, port, isAddress⟩
    simp only [outcome, someAddress, reduceCtorEq, not_true_eq_false, false_and, and_false]
  · rw [outcome, Except.error.injEq]
    constructor
    · rintro rfl
      exact ⟨notZero, noAddress, rfl⟩
    · rintro ⟨-, -, rfl⟩
      rfl

/-- The complete form of a complete form is the same again. -/
theorem normalize_of_normalize {form : String} (accepted : normalize address = .ok (some form)) :
    normalize form = .ok (some form) := by
  obtain ⟨host, port, isAddress, rfl⟩ := normalize_eq_some_iff.mp accepted
  have trimmed : Text.trimChars (Text.trim address).toList = (Text.trim address).toList := by
    rw [toList_trim, Text.trimChars_trimChars]
  have complete : (Text.trim (String.ofList (completed host port))).toList =
      completed host port := by
    rw [toList_trim, String.toList_ofList, isAddress.trimChars_completed trimmed]
  refine normalize_eq_some_iff.mpr ⟨_, port, ?_, congrArg _ (completed_completed host port).symm⟩
  rw [complete]
  exact isAddress.isHostAndPort_completed

/-- Whether two texts only differ in the host, which one of them leaves out and the other names as
that of every interface. -/
def DifferInMissingHost (text other : String) : Prop :=
  ∃ port, (text = ":" ++ port ∧ other = "0.0.0.0:" ++ port) ∨
    (text = "0.0.0.0:" ++ port ∧ other = ":" ++ port)

/-- Two addresses with one form are the same up to blanks and a missing host. -/
theorem eq_or_differInMissingHost {other : String} {form : Option String}
    (first : normalize address = .ok form) (second : normalize other = .ok form) :
    Text.trim address = Text.trim other ∨
      DifferInMissingHost (Text.trim address) (Text.trim other) := by
  cases form with
  | none =>
      rw [normalize_eq_none_iff] at first second
      exact Or.inl (first.trans second.symm)
  | some form =>
      obtain ⟨host, port, isAddress, rfl⟩ := normalize_eq_some_iff.mp first
      obtain ⟨otherHost, otherPort, isOther, same⟩ := normalize_eq_some_iff.mp second
      obtain ⟨sameHost, rfl⟩ :=
        eq_of_last_colon isAddress.last isOther.last (String.ofList_inj.mp same)
      have text : Text.trim address = String.ofList host ++ ":" ++ String.ofList port := by
        rw [← String.toList_inj, isAddress.text]
        simp
      have otherText : Text.trim other = String.ofList otherHost ++ ":" ++ String.ofList port := by
        rw [← String.toList_inj, isOther.text]
        simp
      rw [text, otherText]
      by_cases missing : host = []
      · by_cases otherMissing : otherHost = []
        · rw [missing, otherMissing]
          exact Or.inl rfl
        · rw [if_pos missing, if_neg otherMissing] at sameHost
          rw [missing, ← sameHost]
          exact Or.inr ⟨String.ofList port, Or.inl ⟨rfl, rfl⟩⟩
      · by_cases otherMissing : otherHost = []
        · rw [if_neg missing, if_pos otherMissing] at sameHost
          rw [otherMissing, sameHost]
          exact Or.inr ⟨String.ofList port, Or.inr ⟨rfl, rfl⟩⟩
        · rw [if_neg missing, if_neg otherMissing] at sameHost
          rw [sameHost]
          exact Or.inl rfl

end Addresses

end BindAddress

/-! ## The addresses of a manager -/

section Options

variable {settings : Settings} {cache : CacheStrategy}

theorem ManagerOptions.ofSettings_eq_ok_iff {options : ManagerOptions} :
    ofSettings settings cache = .ok options ↔
      ∃ metrics probes, BindAddress.normalize settings.metricsBindAddress = .ok metrics ∧
        BindAddress.normalize settings.healthProbeBindAddress = .ok probes ∧
        options = ⟨cache, metrics, probes, settings.leaderElection⟩ := by
  simp only [ofSettings, bind_eq_ok_iff, Except.ok.injEq]
  constructor
  · rintro ⟨metrics, metricsAccepted, probes, probesAccepted, rfl⟩
    exact ⟨metrics, probes, metricsAccepted, probesAccepted, rfl⟩
  · rintro ⟨metrics, probes, metricsAccepted, probesAccepted, rfl⟩
    exact ⟨metrics, metricsAccepted, probes, probesAccepted, rfl⟩

theorem ManagerOptions.ofSettings_eq_error_iff {e : AddressError} :
    ofSettings settings cache = .error e ↔
      BindAddress.normalize settings.metricsBindAddress = .error e ∨
        (∃ metrics, BindAddress.normalize settings.metricsBindAddress = .ok metrics) ∧
          BindAddress.normalize settings.healthProbeBindAddress = .error e := by
  simp only [ofSettings, bind_eq_error_iff, reduceCtorEq, and_false, exists_false, or_false,
    exists_and_right]

end Options

namespace BindAddress

/-- An address is a lone zero, or it has a complete form, exactly if it is a host and a port, or it
is refused.  A complete form is its own complete form, and addresses with one form are the same up
to blanks and a missing host.  The options of a manager are made exactly if both of its addresses
are accepted, and of two bad ones that for the metrics is the error. -/
theorem normalize_outcome :
    (∀ address,
      (normalize address = .ok none ↔ Text.trim address = "0") ∧
      (∀ form, normalize address = .ok (some form) ↔
        ∃ host port, IsHostAndPort (Text.trim address).toList host port ∧
          form = String.ofList (completed host port)) ∧
      (∀ e, normalize address = .error e ↔
        Text.trim address ≠ "0" ∧
          (¬ ∃ host port, IsHostAndPort (Text.trim address).toList host port) ∧
          e = ⟨Text.trim address,
            if ':' ∈ (Text.trim address).toList then .badPort else .noPort⟩) ∧
      (∀ form, normalize address = .ok (some form) → normalize form = .ok (some form)) ∧
      ∀ other form, normalize address = .ok form → normalize other = .ok form →
        Text.trim address = Text.trim other ∨
          DifferInMissingHost (Text.trim address) (Text.trim other)) ∧
    ∀ settings cache,
      (∀ options, ManagerOptions.ofSettings settings cache = .ok options ↔
        ∃ metrics probes, normalize settings.metricsBindAddress = .ok metrics ∧
          normalize settings.healthProbeBindAddress = .ok probes ∧
          options = ⟨cache, metrics, probes, settings.leaderElection⟩) ∧
      ∀ e, ManagerOptions.ofSettings settings cache = .error e ↔
        normalize settings.metricsBindAddress = .error e ∨
          (∃ metrics, normalize settings.metricsBindAddress = .ok metrics) ∧
            normalize settings.healthProbeBindAddress = .error e := by
  constructor
  · intro address
    refine ⟨normalize_eq_none_iff, fun form => normalize_eq_some_iff,
      fun e => normalize_eq_error_iff, ?_, ?_⟩
    · intro form accepted
      exact normalize_of_normalize accepted
    · intro other form first second
      exact eq_or_differInMissingHost first second
  · intro settings cache
    exact ⟨fun options => ManagerOptions.ofSettings_eq_ok_iff,
      fun e => ManagerOptions.ofSettings_eq_error_iff⟩

/-- A port with a sign and a zero in front keeps both, and the two addresses of the example only
differ in a missing host. -/
theorem normalize_outcome_exampleAddress :
    normalize " :+080 " = .ok (some "0.0.0.0:+080") ∧
      normalize "0.0.0.0:+080" = .ok (some "0.0.0.0:+080") ∧
      DifferInMissingHost (Text.trim " :+080 ") (Text.trim "0.0.0.0:+080") := by
  have accepted : normalize " :+080 " = .ok (some "0.0.0.0:+080") := by
    rfl
  have complete := (normalize_outcome.1 " :+080 ").2.2.2.1 _ accepted
  refine ⟨accepted, complete, ?_⟩
  rcases (normalize_outcome.1 " :+080 ").2.2.2.2 _ _ accepted complete with same | differ
  · exact absurd same (by decide +kernel)
  · exact differ

end BindAddress

end ChartOperator
