import ChartOperator.Chart.IgnoreRules
import ChartOperator.Proofs.Patterns

/-!
# Lines of an ignore file

A line of an ignore file is a pattern between its marks: an exclamation mark and slashes in front,
and a slash at the end.  Each line has such parts, and the parts are read as they are written.  No
mark is a star, so stars stand in a line as they stand in its pattern.
-/

namespace ChartOperator

/-! ## Stars in a row -/

theorem hasDoubleStar_iff {cs : List Char} : hasDoubleStar cs = true ↔ ['*', '*'] <:+: cs := by
  induction cs using hasDoubleStar.induct with
  | case1 rest => exact iff_of_true rfl ⟨[], rest, rfl⟩
  | case2 c rest other ih =>
      have notHere : ¬ ['*', '*'] <+: c :: rest := Glob.not_pair_prefix other
      rw [hasDoubleStar, ih, List.infix_cons_iff, or_iff_right notHere]
      exact other
  | case3 => simp [hasDoubleStar]

section Doubled

variable {c : Char} {cs : List Char}

theorem doubled_infix_append_left {lead : List Char} (notMark : c ∉ lead) :
    [c, c] <:+: lead ++ cs ↔ [c, c] <:+: cs := by
  induction lead with
  | nil => rfl
  | cons d lead ih =>
      obtain ⟨different, others⟩ := List.ne_and_not_mem_of_not_mem_cons notMark
      have notHere : ¬ [c, c] <+: d :: (lead ++ cs) := by
        rw [List.cons_prefix_cons]
        exact fun start => different start.1
      rw [List.cons_append, List.infix_cons_iff, or_iff_right notHere, ih others]

/-- Two of a character stand in a row only where there are such characters at all. -/
theorem doubled_infix_append {lead trail : List Char} (notBefore : c ∉ lead)
    (notBehind : c ∉ trail) : [c, c] <:+: lead ++ cs ++ trail ↔ [c, c] <:+: cs := by
  have turned : c ∉ trail.reverse := mt List.mem_reverse.mp notBehind
  calc
    [c, c] <:+: lead ++ cs ++ trail ↔ [c, c] <:+: cs ++ trail := by
      rw [List.append_assoc, doubled_infix_append_left notBefore]
    _ ↔ [c, c].reverse <:+: trail.reverse ++ cs.reverse := by
      rw [← List.reverse_infix, List.reverse_append]
    _ ↔ [c, c].reverse <:+: cs.reverse := doubled_infix_append_left turned
    _ ↔ [c, c] <:+: cs := List.reverse_infix

end Doubled

/-! ## The parts of a line -/

/-- The parts of a line of an ignore file. -/
structure PatternLine where
  /-- An exclamation mark stands in front. -/
  negated : Bool
  /-- The number of slashes in front of the pattern. -/
  slashes : Nat
  pattern : List Char
  /-- A slash stands at the end. -/
  directoriesOnly : Bool

namespace PatternLine

/-- The marks in front of the pattern. -/
def lead (line : PatternLine) : List Char :=
  (if line.negated then ['!'] else []) ++ List.replicate line.slashes '/'

/-- The mark behind the pattern. -/
def trail (line : PatternLine) : List Char :=
  if line.directoriesOnly then ['/'] else []

/-- The text of a line. -/
def text (line : PatternLine) : List Char :=
  line.lead ++ line.pattern ++ line.trail

/-- Whether the parts of a line are what a reader takes them for: there is a pattern, none of its
characters counts as a mark, and the line is no comment. -/
structure IsProper (line : PatternLine) : Prop where
  nonempty : line.pattern ≠ []
  start : line.pattern.head? ≠ some '/'
  ending : line.directoriesOnly = false → line.pattern.getLast? ≠ some '/'
  unmarked : line.negated = false → line.slashes = 0 →
    line.pattern.head? ≠ some '!' ∧ line.pattern.head? ≠ some '#'

/-- Whether the pattern of a line is matched against the last name of a path. -/
def lastNameOnly (line : PatternLine) : Bool :=
  line.slashes == 0 && !line.pattern.contains '/'

variable {line : PatternLine}

theorem star_not_mem_lead (line : PatternLine) : '*' ∉ line.lead := by
  rw [lead, List.mem_append, not_or]
  constructor
  · cases line.negated <;> simp
  · simp

theorem star_not_mem_trail (line : PatternLine) : '*' ∉ line.trail := by
  rw [trail]
  cases line.directoriesOnly <;> simp

theorem doubleStar_infix_text_iff : ['*', '*'] <:+: line.text ↔ ['*', '*'] <:+: line.pattern :=
  doubled_infix_append line.star_not_mem_lead line.star_not_mem_trail

theorem head?_text (proper : line.IsProper) :
    line.text.head? =
      if line.negated then some '!'
      else if line.slashes = 0 then line.pattern.head? else some '/' := by
  obtain ⟨c, rest, isPattern⟩ := List.exists_cons_of_ne_nil proper.nonempty
  rw [text, lead, isPattern]
  cases line.negated with
  | true => rfl
  | false =>
      cases line.slashes with
      | zero => rfl
      | succ n => rfl

theorem head?_text_eq_exclamation_iff (proper : line.IsProper) :
    line.text.head? = some '!' ↔ line.negated = true := by
  rw [head?_text proper]
  cases negated : line.negated with
  | true => simp
  | false =>
      by_cases unrooted : line.slashes = 0
      · simpa [unrooted] using (proper.unmarked negated unrooted).1
      · simp [unrooted]

theorem head?_text_ne_hash (proper : line.IsProper) : line.text.head? ≠ some '#' := by
  rw [head?_text proper]
  cases negated : line.negated with
  | true => simp
  | false =>
      by_cases unrooted : line.slashes = 0
      · simpa [unrooted] using (proper.unmarked negated unrooted).2
      · simp [unrooted]

theorem getLast?_pattern_append (proper : line.IsProper) :
    (line.pattern ++ line.trail).getLast? = some '/' ↔ line.directoriesOnly = true := by
  rw [trail]
  cases marked : line.directoriesOnly with
  | true => simp
  | false => simpa using proper.ending marked

/-- The parts of a line are read as they are written. -/
theorem read_text (proper : line.IsProper) :
    IgnoreLine.read line.text =
      ⟨line.negated, line.directoriesOnly, line.slashes != 0, line.pattern⟩ := by
  have body : (if line.negated = true then line.text.tail else line.text) =
      List.replicate line.slashes '/' ++ line.pattern ++ line.trail := by
    rw [text, lead]
    cases line.negated <;> rfl
  have last : (List.replicate line.slashes '/' ++ line.pattern ++ line.trail).getLast? =
      some '/' ↔ line.directoriesOnly = true := by
    rw [← getLast?_pattern_append proper, List.append_assoc,
      List.getLast?_append_of_ne_nil _ (by simp [proper.nonempty])]
  have path : (if line.directoriesOnly = true then
      (List.replicate line.slashes '/' ++ line.pattern ++ line.trail).dropLast
      else List.replicate line.slashes '/' ++ line.pattern ++ line.trail) =
        List.replicate line.slashes '/' ++ line.pattern := by
    rw [trail]
    cases line.directoriesOnly <;> simp
  have rooted : decide ((List.replicate line.slashes '/' ++ line.pattern).head? = some '/') =
      (line.slashes != 0) := by
    cases line.slashes with
    | zero => simpa using proper.start
    | succ n => rfl
  have pattern : (List.replicate line.slashes '/' ++ line.pattern).dropWhile (· = '/') =
      line.pattern := by
    rw [List.dropWhile_append_of_pos (by simp)]
    obtain ⟨c, rest, isPattern⟩ := List.exists_cons_of_ne_nil proper.nonempty
    have notSlash : c ≠ '/' := by simpa [isPattern] using proper.start
    rw [isPattern, List.dropWhile_cons_of_neg (by simpa using notSlash)]
  simp only [IgnoreLine.read, head?_text_eq_exclamation_iff proper, body, last, path, rooted,
    pattern, Bool.decide_eq_true]

/-- Every line has parts, and with a pattern among them it is no comment or these are what a reader
takes them for. -/
theorem exists_text_eq (cs : List Char) :
    ∃ line : PatternLine, line.text = cs ∧ line.pattern = (IgnoreLine.read cs).pattern ∧
      (line.pattern ≠ [] → cs.head? ≠ some '#' → line.IsProper) := by
  let negated := cs.head? = some '!'
  let body := if negated then cs.tail else cs
  let directoriesOnly := body.getLast? = some '/'
  let path := if directoriesOnly then body.dropLast else body
  have front : (if negated then ['!'] else []) ++ body = cs := by
    by_cases marked : cs.head? = some '!'
    · obtain ⟨rest, rfl⟩ := List.head?_eq_some_iff.mp marked
      rfl
    · simp [body, negated, marked]
  have back : path ++ (if directoriesOnly then ['/'] else []) = body := by
    by_cases marked : body.getLast? = some '/'
    · simpa [path, directoriesOnly, marked] using List.dropLast_append_getLast? '/' marked
    · simp [path, directoriesOnly, marked]
  have slashes : List.replicate (path.takeWhile (· = '/')).length '/' ++
      path.dropWhile (· = '/') = path := by
    have allSlashes : path.takeWhile (· = '/') =
        List.replicate (path.takeWhile (· = '/')).length '/' := by
      rw [List.eq_replicate_iff]
      exact ⟨rfl, fun c mem => by simpa using List.mem_takeWhile_imp mem⟩
    rw [← allSlashes, List.takeWhile_append_dropWhile]
  refine ⟨⟨negated, (path.takeWhile (· = '/')).length, path.dropWhile (· = '/'),
    directoriesOnly⟩, ?_, rfl, ?_⟩
  · simp only [text, lead, trail, decide_eq_true_eq]
    rw [List.append_assoc, List.append_assoc, ← List.append_assoc (List.replicate _ _), slashes,
      back, front]
  · intro hasPattern noComment
    constructor
    case nonempty => exact hasPattern
    case start =>
      intro slash
      have other := List.head?_dropWhile_not (· = '/') path
      rw [slash] at other
      simp at other
    case ending =>
      intro unmarked slash
      refine of_decide_eq_false unmarked ?_
      have same : path = body := if_neg (of_decide_eq_false unmarked)
      change body.getLast? = some '/'
      rw [← same, ← slashes, List.getLast?_append_of_ne_nil _ hasPattern]
      exact slash
    case unmarked =>
      intro unmarked unrooted
      have same : body = cs := if_neg (of_decide_eq_false unmarked)
      have start : path = path.dropWhile (· = '/') := by
        rw [List.length_eq_zero_iff.mp unrooted] at slashes
        exact slashes.symm
      have first : cs.head? = (path.dropWhile (· = '/')).head? := by
        rw [← start, ← same, ← back, List.head?_append_of_ne_nil _ (start ▸ hasPattern)]
      rw [← first]
      exact ⟨of_decide_eq_false unmarked, noComment⟩

/-- The rule on a line with a pattern that is read as some tokens. -/
def rule (line : PatternLine) (tokens : List Glob.Token) : IgnoreRule where
  pattern := tokens
  negated := line.negated
  directoriesOnly := line.directoriesOnly
  lastNameOnly := line.lastNameOnly

theorem read_of_readPattern? {tokens : List Glob.Token} (proper : line.IsProper)
    (single : ¬ ['*', '*'] <:+: line.pattern)
    (read : Glob.readPattern? line.pattern = some tokens) :
    IgnoreRule.read line.text = .ok (some (line.rule tokens)) := by
  have nonempty : line.text.isEmpty = false := by
    simp [text, proper.nonempty]
  have noComment : decide (line.text.head? = some '#') = false :=
    decide_eq_false (head?_text_ne_hash proper)
  have hasPattern : line.pattern.isEmpty = false := by simp [proper.nonempty]
  have noDoubleStar : hasDoubleStar line.pattern = false := by
    rw [← Bool.not_eq_true, hasDoubleStar_iff]
    exact single
  have lastName : (!(line.slashes != 0) && !line.pattern.contains '/') = line.lastNameOnly := by
    rw [lastNameOnly, bne, Bool.not_not]
  simp only [IgnoreRule.read, read_text proper, nonempty, noComment, hasPattern, noDoubleStar, read,
    Bool.or_self, Bool.false_eq_true, if_false, lastName, rule]

end PatternLine

end ChartOperator
