import ChartOperator.Proofs.Except
import ChartOperator.Proofs.IgnoreLines
import ChartOperator.Proofs.Text
import Mathlib.Data.List.Induction
import Mathlib.Logic.Relation

/-!
# Ignore files put together

An ignore file is read line by line, and the rules of two files in a row are those of the first
followed by those of the second.  So the second one decides wherever one of its rules applies.
Lines that hold no rule, and the way in which lines are ended, make no difference.
-/

namespace ChartOperator

namespace IgnoreRules

/-- The lines of an ignore file. -/
def linesOf (content : String) : List (List Char) := Text.splitAt '\n' content.toList

theorem linesOf_append (first second : String) :
    linesOf (first ++ "\n" ++ second) = linesOf first ++ linesOf second := by
  rw [linesOf, String.toList_append, String.toList_append, List.append_assoc]
  exact Text.splitAt_append_separator '\n' first.toList second.toList

theorem not_mem_of_mem_linesOf {content : String} {line : List Char}
    (mem : line ∈ linesOf content) : '\n' ∉ line :=
  (Text.mem_splitAt_iff.mp mem).1

theorem mem_of_mem_linesOf {content : String} {line : List Char} {c : Char}
    (mem : line ∈ linesOf content) (inLine : c ∈ line) : c ∈ content.toList := by
  obtain ⟨single, between⟩ := Text.mem_splitAt_iff.mp mem
  have inside : c ∈ '\n' :: content.toList ++ ['\n'] := between.subset (by simp [inLine])
  have different : c ≠ '\n' := fun same => single (same ▸ inLine)
  simpa [different] using inside

/-- A single line is read as its rule, if it holds one. -/
theorem parse_line {line : List Char} (single : '\n' ∉ line) :
    parse (String.ofList line) = (IgnoreRule.read (Text.trimChars line)).map Option.toList := by
  rw [parse, String.toList_ofList, Text.splitAt_of_not_mem single, ofLines, ofLines]
  cases IgnoreRule.read (Text.trimChars line) with
  | error e => rfl
  | ok rule => simp [bind, Except.bind, Except.map]

/-! ## Rules of several lines -/

section Lines

variable {lines others : List (List Char)} {rules : IgnoreRules} {e : IgnoreError}

theorem ofLines_append (lines others : List (List Char)) :
    ofLines (lines ++ others) = (do
      let before ← ofLines lines
      let after ← ofLines others
      .ok (before ++ after)) := by
  induction lines with
  | nil =>
      rw [List.nil_append, ofLines]
      cases ofLines others <;> rfl
  | cons line lines ih =>
      rw [List.cons_append, ofLines, ofLines, ih]
      cases IgnoreRule.read (Text.trimChars line) with
      | error e => rfl
      | ok rule =>
          cases ofLines lines with
          | error e => rfl
          | ok before =>
              cases ofLines others with
              | error e => rfl
              | ok after => simp [bind, Except.bind]

theorem ofLines_append_eq_ok_iff :
    ofLines (lines ++ others) = .ok rules ↔
      ∃ before after, ofLines lines = .ok before ∧ ofLines others = .ok after ∧
        rules = before ++ after := by
  simp only [ofLines_append, bind_eq_ok_iff, Except.ok.injEq]
  constructor
  · rintro ⟨before, first, after, second, rfl⟩
    exact ⟨before, after, first, second, rfl⟩
  · rintro ⟨before, after, first, second, rfl⟩
    exact ⟨before, first, after, second, rfl⟩

/-- A line without a rule adds nothing. -/
theorem ofLines_cons_of_read_eq_none {line : List Char}
    (noRule : IgnoreRule.read (Text.trimChars line) = .ok none) :
    ofLines (line :: lines) = ofLines lines := by
  rw [ofLines, noRule]
  cases ofLines lines <;> rfl

/-- The error is that of the first line that cannot be read. -/
theorem ofLines_eq_error_iff :
    ofLines lines = .error e ↔
      ∃ before line after, lines = before ++ line :: after ∧
        (∀ other ∈ before, ∃ rule, IgnoreRule.read (Text.trimChars other) = .ok rule) ∧
        IgnoreRule.read (Text.trimChars line) = .error e := by
  induction lines with
  | nil => simp [ofLines]
  | cons first lines ih =>
      have step : ofLines (first :: lines) = .error e ↔
          IgnoreRule.read (Text.trimChars first) = .error e ∨
            (∃ rule, IgnoreRule.read (Text.trimChars first) = .ok rule) ∧
              ofLines lines = .error e := by
        simp [ofLines, bind_eq_error_iff]
      rw [step, ih]
      constructor
      · rintro (failed | ⟨⟨rule, read⟩, before, line, after, rfl, accepted, failed⟩)
        · exact ⟨[], first, lines, rfl, by simp, failed⟩
        · exact ⟨first :: before, line, after, rfl,
            List.forall_mem_cons.mpr ⟨⟨rule, read⟩, accepted⟩, failed⟩
      · rintro ⟨before, line, after, whole, accepted, failed⟩
        cases before with
        | nil =>
            cases whole
            exact Or.inl failed
        | cons _ before =>
            cases whole
            obtain ⟨read, accepted⟩ := List.forall_mem_cons.mp accepted
            exact Or.inr ⟨read, before, line, after, rfl, accepted, failed⟩

theorem ofLines_congr (same : lines.map Text.trimChars = others.map Text.trimChars) :
    ofLines lines = ofLines others := by
  induction lines generalizing others with
  | nil =>
      rw [List.map_nil, eq_comm, List.map_eq_nil_iff] at same
      rw [same]
  | cons line lines ih =>
      cases others with
      | nil => cases same
      | cons other others =>
          obtain ⟨first, rest⟩ := List.cons.inj same
          rw [ofLines, ofLines, first, ih rest]

end Lines

/-! ## Whole files -/

/-- Whether an error is that of the first line that is refused when it stands alone. -/
def IsFirstFault (lines : List (List Char)) (e : IgnoreError) : Prop :=
  ∃ before line after, lines = before ++ line :: after ∧
    (∀ other ∈ before, ∃ rules, parse (String.ofList other) = .ok rules) ∧
    parse (String.ofList line) = .error e

/-- The effect of the last rule that applies to a path: whether it leaves the path out. -/
def lastEffect? (rules : IgnoreRules) (path : List Char) (isDirectory : Bool) : Option Bool :=
  ((rules.filter (·.appliesTo path isDirectory)).getLast?).map (!·.negated)

/-- Whether a line holds no rule: it is blank or a comment. -/
def IsIdle (line : List Char) : Prop :=
  Text.trimChars line = [] ∨ (Text.trimChars line).head? = some '#'

/-- Whether two stars stand in a row in a line, which is no comment. -/
def HoldsDoubleStar (line : List Char) : Prop :=
  (Text.trimChars line).head? ≠ some '#' ∧ ['*', '*'] <:+: line

/-- A change of an ignore file that adds a line without a rule, or ends a line in another way. -/
inductive Edit (content edited : String) : Prop where
  | insertLine {before after : List (List Char)} {line : List Char}
      (whole : linesOf content = before ++ after)
      (longer : linesOf edited = before ++ line :: after) (idle : IsIdle line)
  | carriageReturn {before after : List Char}
      (whole : content.toList = before ++ '\n' :: after)
      (longer : edited.toList = before ++ '\r' :: '\n' :: after)

variable {content edited first second : String} {e : IgnoreError} {rules : IgnoreRules}

theorem parse_append_eq_ok_iff :
    parse (first ++ "\n" ++ second) = .ok rules ↔
      ∃ before after, parse first = .ok before ∧ parse second = .ok after ∧
        rules = before ++ after := by
  change ofLines (linesOf (first ++ "\n" ++ second)) = .ok rules ↔ _
  rw [linesOf_append]
  exact ofLines_append_eq_ok_iff

theorem parse_eq_error_iff : parse content = .error e ↔ IsFirstFault (linesOf content) e := by
  have accepted : ∀ line ∈ linesOf content,
      ((∃ rules, parse (String.ofList line) = .ok rules) ↔
        ∃ rule, IgnoreRule.read (Text.trimChars line) = .ok rule) := by
    intro line mem
    simp only [parse_line (not_mem_of_mem_linesOf mem), map_eq_ok_iff]
    constructor
    · rintro ⟨-, rule, read, -⟩
      exact ⟨rule, read⟩
    · rintro ⟨rule, read⟩
      exact ⟨rule.toList, rule, read, rfl⟩
  have refused : ∀ line ∈ linesOf content, (parse (String.ofList line) = .error e ↔
      IgnoreRule.read (Text.trimChars line) = .error e) := by
    intro line mem
    rw [parse_line (not_mem_of_mem_linesOf mem), map_eq_error_iff]
  change ofLines (linesOf content) = .error e ↔ _
  rw [ofLines_eq_error_iff, IsFirstFault]
  refine exists_congr fun before => exists_congr fun line => exists_congr fun after =>
    and_congr_right fun whole => and_congr (forall₂_congr fun other mem => ?_) ?_
  · exact (accepted other (by rw [whole]; simp [mem])).symm
  · exact (refused line (by rw [whole]; simp)).symm

/-- Where a rule of the second of two files applies, the last such rule decides. -/
theorem ignores_append (before after : IgnoreRules) (path : List Char) (isDirectory : Bool) :
    ignores (before ++ after) path isDirectory =
      (lastEffect? after path isDirectory).getD (ignores before path isDirectory) := by
  induction after using List.reverseRecOn with
  | nil => simp [lastEffect?]
  | append_singleton rules rule ih =>
      rw [← List.append_assoc, ignores, List.foldl_append, ← ignores, ih, lastEffect?, lastEffect?,
        List.filter_append]
      cases applies : rule.appliesTo path isDirectory with
      | true => simp [applies]
      | false => simp [applies]

/-- An idle line holds no rule. -/
theorem read_of_isIdle {line : List Char} (idle : IsIdle line) :
    IgnoreRule.read (Text.trimChars line) = .ok none := by
  rcases idle with blank | comment
  · simp [IgnoreRule.read, blank]
  · simp [IgnoreRule.read, comment]

theorem parse_of_edit (edit : Edit content edited) : parse edited = parse content := by
  change ofLines (linesOf edited) = ofLines (linesOf content)
  cases edit with
  | @insertLine before after line whole longer idle =>
      rw [longer, whole, ofLines_append, ofLines_append,
        ofLines_cons_of_read_eq_none (read_of_isIdle idle)]
  | @carriageReturn before after whole longer =>
      have noBreak : '\n' ∉ ['\r'] := by simp
      obtain ⟨others, last, pieces, ended⟩ := Text.exists_splitAt_append noBreak before
      refine ofLines_congr ?_
      have split : linesOf edited = others ++ [last ++ ['\r']] ++ Text.splitAt '\n' after := by
        rw [linesOf, longer, ← ended, ← Text.splitAt_append_separator]
        simp
      rw [split, linesOf, whole, Text.splitAt_append_separator, pieces]
      have blank : ∀ c ∈ ['\r'], Text.isBlank c = true := by
        intro c mem
        rw [List.mem_singleton.mp mem]
        rfl
      simp [Text.trimChars_append_of_blank blank]

/-- Changes that add idle lines or end lines in another way leave the rules as they are, however
many there are and in whichever direction they are made. -/
theorem parse_of_edits (edits : Relation.EqvGen Edit content edited) :
    parse edited = parse content := by
  induction edits with
  | rel content edited edit => exact parse_of_edit edit
  | refl content => rfl
  | symm content edited _ ih => exact ih.symm
  | trans content between edited _ _ ih₁ ih₂ => exact ih₂.trans ih₁

/-! ## Stars in a row -/

theorem doubleStar_infix_trimChars_iff {line : List Char} :
    ['*', '*'] <:+: Text.trimChars line ↔ ['*', '*'] <:+: line := by
  obtain ⟨lead, trail, whole, leadBlank, trailBlank⟩ := Text.exists_blanks_around line
  have notAmong : ∀ blanks : List Char, (∀ c ∈ blanks, Text.isBlank c = true) → '*' ∉ blanks := by
    intro blanks blank mem
    exact absurd (blank '*' mem) (by decide)
  conv_rhs => rw [whole]
  exact (doubled_infix_append (notAmong lead leadBlank) (notAmong trail trailBlank)).symm

/-- Without brackets a line is refused only for two stars in a row, and not if it is a comment. -/
theorem read_eq_error_iff {cs : List Char} (noBracket : '[' ∉ cs) :
    (∃ e, IgnoreRule.read cs = .error e) ↔ cs.head? ≠ some '#' ∧ ['*', '*'] <:+: cs := by
  obtain ⟨line, rfl, isPattern, -⟩ := PatternLine.exists_text_eq cs
  obtain ⟨tokens, read⟩ : ∃ tokens, Glob.readPattern? line.pattern = some tokens :=
    Glob.exists_readPattern?_of_not_mem fun mem => noBracket (by simp [PatternLine.text, mem])
  rw [PatternLine.doubleStar_infix_text_iff, ← hasDoubleStar_iff]
  constructor
  · rintro ⟨e, failed⟩
    simp only [IgnoreRule.read, ← isPattern, read] at failed
    split at failed
    · cases failed
    · rename_i noComment
      split at failed
      · cases failed
      · split at failed
        · rename_i doubled
          exact ⟨fun comment => noComment (by simp [comment]), doubled⟩
        · cases failed
  · rintro ⟨noComment, doubled⟩
    have hasPattern : line.pattern.isEmpty = false := by
      rw [List.isEmpty_eq_false_iff]
      intro empty
      rw [empty] at doubled
      cases doubled
    have nonempty : line.text.isEmpty = false := by
      rw [List.isEmpty_eq_false_iff] at hasPattern ⊢
      simp [PatternLine.text, hasPattern]
    refine ⟨⟨String.ofList line.pattern, .doubleStar⟩, ?_⟩
    simp [IgnoreRule.read, nonempty, noComment, ← isPattern, hasPattern, doubled]

/-- Without brackets a file is refused only for a line with two stars in a row. -/
theorem parse_eq_error_iff_of_not_mem (noBracket : '[' ∉ content.toList) :
    (∃ e, parse content = .error e) ↔ ∃ line ∈ linesOf content, HoldsDoubleStar line := by
  have refused : ∀ line ∈ linesOf content,
      ((∃ e, IgnoreRule.read (Text.trimChars line) = .error e) ↔ HoldsDoubleStar line) := by
    intro line mem
    have noneInLine : '[' ∉ Text.trimChars line := fun inLine =>
      noBracket (mem_of_mem_linesOf mem (Text.mem_of_mem_trimChars inLine))
    rw [read_eq_error_iff noneInLine, doubleStar_infix_trimChars_iff, HoldsDoubleStar]
  constructor
  · rintro ⟨e, failed⟩
    obtain ⟨before, line, after, whole, -, lineFailed⟩ := ofLines_eq_error_iff.mp failed
    have mem : line ∈ linesOf content := by
      rw [linesOf, whole]
      simp
    exact ⟨line, mem, (refused line mem).mp ⟨e, lineFailed⟩⟩
  · rintro ⟨line, mem, doubled⟩
    obtain ⟨e, lineFailed⟩ := (refused line mem).mpr doubled
    cases result : parse content with
    | error e => exact ⟨e, rfl⟩
    | ok rules =>
        -- All lines of an accepted file are accepted.
        obtain ⟨before, after, whole⟩ := List.append_of_mem mem
        rw [parse, ← linesOf, whole, ofLines_append_eq_ok_iff] at result
        obtain ⟨_, _, -, rest, -⟩ := result
        rw [ofLines, lineFailed] at rest
        cases rest

/-- Two ignore files in a row are accepted if both are, and refused for the first line that is
refused when it stands alone.  Their rules decide as those of the second one do, or those of the
first one where none of the second applies.  Idle lines and the way in which lines are ended make no
difference; without brackets only two stars in a row are refused, outside of comments. -/
theorem parse_append_outcome (first second : String) :
    (∀ rules, parse (first ++ "\n" ++ second) = .ok rules ↔
      ∃ before after, parse first = .ok before ∧ parse second = .ok after ∧
        rules = before ++ after) ∧
    (∀ e, parse (first ++ "\n" ++ second) = .error e ↔
      IsFirstFault (linesOf first ++ linesOf second) e) ∧
    (∀ before after path isDirectory,
      ignores (before ++ after) path isDirectory =
        (lastEffect? after path isDirectory).getD (ignores before path isDirectory) ∧
      ignores before path isDirectory = (lastEffect? before path isDirectory).getD false) ∧
    (∀ edited, Relation.EqvGen Edit first edited → parse edited = parse first) ∧
    ('[' ∉ first.toList →
      ((∃ e, parse first = .error e) ↔ ∃ line ∈ linesOf first, HoldsDoubleStar line)) := by
  refine ⟨?_, ?_, ?_, ?_, ?_⟩
  · intro rules
    exact parse_append_eq_ok_iff
  · intro e
    rw [parse_eq_error_iff, linesOf_append]
  · intro before after path isDirectory
    refine ⟨ignores_append before after path isDirectory, ?_⟩
    exact ignores_append [] before path isDirectory
  · intro edited edits
    exact parse_of_edits edits
  · exact parse_eq_error_iff_of_not_mem

end IgnoreRules

end ChartOperator
