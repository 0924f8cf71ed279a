import ChartOperator.Metrics
import ChartOperator.Proofs.Text
import Mathlib.Data.List.Count

/-!
# The lines of the metrics text

A family that has samples has two lines about itself and one line for each sample, and a line shows
which counter and which number it is for: the value of a label is written so that the quote behind
it can be told from the quotes in it.
-/

namespace ChartOperator

/-! ## Lines -/

/-- The lines of a text.  Behind the last line break there is one more, which may be empty. -/
def linesOf (text : String) : List String :=
  (Text.splitAt '\n' text.toList).map String.ofList

theorem linesOf_line_append {line : String} (single : '\n' ∉ line.toList) (rest : String) :
    linesOf (line ++ "\n" ++ rest) = line :: linesOf rest := by
  have text : (line ++ "\n" ++ rest).toList = line.toList ++ '\n' :: rest.toList := by simp
  rw [linesOf, text, Text.splitAt_append_separator, Text.splitAt_of_not_mem single, List.map_append,
    List.map_singleton, String.ofList_toList]
  rfl

/-- A text that is put together from lines has these lines. -/
theorem linesOf_join {lines : List String} (single : ∀ line ∈ lines, '\n' ∉ line.toList) :
    linesOf (String.join (lines.map (· ++ "\n"))) = lines ++ [""] := by
  induction lines with
  | nil => rfl
  | cons line rest ih =>
      rw [List.forall_mem_cons] at single
      have text : String.join ((line :: rest).map (· ++ "\n")) =
          line ++ "\n" ++ String.join (rest.map (· ++ "\n")) := by
        rw [← String.toList_inj]
        simp
      rw [text, linesOf_line_append single.1, ih single.2, List.cons_append]

/-! ## Labels -/

/-- The character that is written with a backslash before another one. -/
def escapedBy : Char → Char
  | 'n' => '\n'
  | c => c

/-- Reads the value of a label up to the quote behind it. -/
def readLabel? : List Char → Option (List Char × List Char)
  | [] => none
  | '"' :: rest => some ([], rest)
  | '\\' :: c :: rest => (readLabel? rest).map fun read => (escapedBy c :: read.1, read.2)
  | c :: rest => (readLabel? rest).map fun read => (c :: read.1, read.2)

theorem readLabel?_escaped (value rest : List Char) :
    readLabel? (value.flatMap escapeLabelChar ++ '"' :: rest) = some (value, rest) := by
  induction value with
  | nil => rfl
  | cons c cs ih =>
      rw [List.flatMap_cons, List.append_assoc]
      by_cases backslash : c = '\\'
      · subst backslash
        simp [escapeLabelChar, readLabel?, ih, escapedBy]
      by_cases quote : c = '"'
      · subst quote
        simp [escapeLabelChar, readLabel?, ih, escapedBy]
      by_cases newline : c = '\n'
      · subst newline
        simp [escapeLabelChar, readLabel?, ih, escapedBy]
      · simp [escapeLabelChar, backslash, readLabel?, ih]

/-- The value of a label ends at the first quote that is no part of it. -/
theorem eq_of_escaped_append {value other rest otherRest : List Char}
    (same : value.flatMap escapeLabelChar ++ '"' :: rest =
      other.flatMap escapeLabelChar ++ '"' :: otherRest) :
    value = other ∧ rest = otherRest := by
  have read := readLabel?_escaped value rest
  rw [same, readLabel?_escaped, Option.some.injEq, Prod.mk.injEq] at read
  exact ⟨read.1.symm, read.2.symm⟩

theorem newline_not_mem_escapeLabelChar (c : Char) : '\n' ∉ escapeLabelChar c := by
  unfold escapeLabelChar
  split
  · decide
  · decide
  · decide
  · rename_i notNewline
    simpa using Ne.symm notNewline

/-! ## Samples -/

/-- The value of a label as it is written. -/
def escapedText (value : String) : String :=
  String.ofList (value.toList.flatMap escapeLabelChar)

/-- The line of the counter for a key. -/
def CounterKey.line (key : CounterKey) (n : Nat) : String :=
  "helm_operator_reconcile_total\x7bkind=\"" ++ escapedText key.kind ++ "\",result=\"" ++
    escapedText key.result ++ "\"\x7d " ++ toString n

/-- The line for the version of the running program. -/
def buildLine (n : Nat) : String :=
  "helm_operator_build_info\x7bcommit=\"" ++ Build.commit ++ "\",version=\"" ++ Build.version ++
    "\"\x7d " ++ toString n

theorem newline_not_mem_escapedText (value : String) : '\n' ∉ (escapedText value).toList := by
  rw [escapedText, String.toList_ofList, List.mem_flatMap]
  rintro ⟨c, -, mem⟩
  exact newline_not_mem_escapeLabelChar c mem

theorem newline_not_mem_toString (n : Nat) : '\n' ∉ (toString n).toList := by
  intro mem
  rw [Nat.toString_eq_repr, Nat.toList_repr] at mem
  have digit : '\n'.isDigit = true :=
    Nat.isDigit_of_mem_toDigits (by decide) (by decide) mem
  contradiction

theorem eq_of_toString_eq {n m : Nat} (same : (toString n).toList = (toString m).toList) :
    n = m := by
  rw [Nat.toString_eq_repr, Nat.toString_eq_repr, Nat.toList_repr, Nat.toList_repr] at same
  have value := congrArg (Nat.ofDigitChars 10 · 0) same
  simpa [Nat.ofDigitChars_toDigits] using value

theorem CounterKey.newline_not_mem_line (key : CounterKey) (n : Nat) :
    '\n' ∉ (key.line n).toList := by
  unfold line
  simp only [String.toList_append, List.mem_append, newline_not_mem_escapedText,
    newline_not_mem_toString, or_false]
  simp

/-- A line shows which counter it is for, and the number. -/
theorem CounterKey.line_injective {key other : CounterKey} {n m : Nat}
    (same : key.line n = other.line m) : key = other ∧ n = m := by
  unfold line escapedText at same
  rw [← String.toList_inj] at same
  simp only [String.toList_append, String.toList_ofList, List.append_assoc] at same
  have fromKind := List.append_cancel_left same
  obtain ⟨sameKind, behindKind⟩ := eq_of_escaped_append fromKind
  have fromResult := @List.append_cancel_left _ ",result=\"".toList _ _ behindKind
  obtain ⟨sameResult, behindResult⟩ := eq_of_escaped_append fromResult
  have sameNumber := @List.append_cancel_left _ "\x7d ".toList _ _ behindResult
  obtain ⟨kind, result⟩ := key
  obtain rfl := String.toList_inj.mp sameKind
  obtain rfl := String.toList_inj.mp sameResult
  exact ⟨rfl, eq_of_toString_eq sameNumber⟩

/-- The names of the two families differ. -/
theorem CounterKey.line_ne_buildLine (key : CounterKey) (n m : Nat) : key.line n ≠ buildLine m := by
  intro same
  have letter := congrArg (fun line => line.toList[14]?) same
  unfold line buildLine at letter
  simp only [String.toList_append, List.append_assoc] at letter
  rw [List.getElem?_append_left (by decide), List.getElem?_append_left (by decide)] at letter
  revert letter
  decide +kernel

theorem render_sample (counter : CounterKey × Nat) :
    (Metrics.sample counter).render "helm_operator_reconcile_total" =
      counter.1.line counter.2 ++ "\n" := by
  have opening : "helm_operator_reconcile_total\x7bkind=\"" =
      "helm_operator_reconcile_total" ++ "\x7b" ++ "kind" ++ "=\"" := rfl
  have middle : "\",result=\"" = "\"" ++ "," ++ "result" ++ "=\"" := rfl
  have closing : "\"\x7d " = "\"" ++ "\x7d " := rfl
  unfold CounterKey.line Metrics.sample Sample.render renderMetricLabel escapedText
  rw [opening, middle, closing]
  simp only [List.map_cons, List.map_nil, String.intercalate_cons_cons,
    String.intercalate_singleton, String.append_assoc]

/-! ## The text -/

/-- The lines about the version of the running program. -/
def buildHead : List String :=
  ["# HELP helm_operator_build_info Build information of the running operator",
    "# TYPE helm_operator_build_info gauge"]

/-- The lines about the counters. -/
def counterHead : List String :=
  ["# HELP helm_operator_reconcile_total Reconciles by watched kind and result",
    "# TYPE helm_operator_reconcile_total counter"]

/-- The lines of the counters, with those about them unless there is no counter. -/
def Metrics.counterLines (metrics : Metrics) : List String :=
  (if metrics.counters.isEmpty then [] else counterHead) ++
    metrics.counters.map fun counter => counter.1.line counter.2

theorem render_buildFamily :
    buildFamily.render = String.join ((buildHead ++ [buildLine 1]).map (· ++ "\n")) := by
  rfl

theorem Metrics.render_reconcileFamily (metrics : Metrics) :
    metrics.reconcileFamily.render = String.join (metrics.counterLines.map (· ++ "\n")) := by
  obtain ⟨counters⟩ := metrics
  cases counters with
  | nil => rfl
  | cons counter rest =>
      have samples : ((counter :: rest).map sample).map
          (Sample.render "helm_operator_reconcile_total") =
            ((counter :: rest).map fun counter => counter.1.line counter.2).map (· ++ "\n") := by
        rw [List.map_map, List.map_map]
        exact List.map_congr_left fun counter _ => render_sample counter
      have head : String.join (counterHead.map (· ++ "\n")) =
          "# HELP " ++ "helm_operator_reconcile_total" ++ " " ++
            "Reconciles by watched kind and result" ++ "\n" ++
            "# TYPE " ++ "helm_operator_reconcile_total" ++ " " ++ "counter" ++ "\n" :=
        rfl
      have lines : counterLines ⟨counter :: rest⟩ =
          counterHead ++ (counter :: rest).map fun counter => counter.1.line counter.2 := rfl
      rw [lines, List.map_append, String.join_append, head, ← samples]
      rfl

theorem Metrics.linesOf_render (metrics : Metrics) :
    linesOf metrics.render = buildHead ++ [buildLine 1] ++ metrics.counterLines ++ [""] := by
  have together : metrics.render =
      String.join ((buildHead ++ [buildLine 1] ++ metrics.counterLines).map (· ++ "\n")) := by
    rw [render, render_buildFamily, render_reconcileFamily, ← String.join_append, ← List.map_append]
  rw [together, linesOf_join]
  intro line mem
  rcases List.mem_append.mp mem with inHead | inCounters
  · have plain : ∀ line ∈ buildHead ++ [buildLine 1], '\n' ∉ line.toList := by decide +kernel
    exact plain line inHead
  · rcases List.mem_append.mp inCounters with inHead | inLines
    · have plain : ∀ line ∈ counterHead, '\n' ∉ line.toList := by
        simp [counterHead]
      refine plain line ?_
      split at inHead
      · cases inHead
      · exact inHead
    · obtain ⟨counter, -, rfl⟩ := List.mem_map.mp inLines
      exact counter.1.newline_not_mem_line counter.2

/-- A text shows a number in exactly one line of a form, and no other number; zero is not shown. -/
def Shows (text : String) (line : Nat → String) (n : Nat) : Prop :=
  ∀ m, (linesOf text).count (line m) = if m = n ∧ 0 < n then 1 else 0

/-- A line with a number is none of the lines about the families, and it is not empty. -/
theorem not_mem_of_head {line : String} (head : line.toList.head? = some 'h') :
    line ∉ buildHead ∧ line ∉ counterHead ∧ line ≠ "" := by
  have others : ∀ other ∈ buildHead ++ counterHead ++ [""], other.toList.head? ≠ some 'h' := by
    simp [buildHead, counterHead]
  have apart : line ∉ buildHead ++ counterHead ++ [""] := fun mem => others line mem head
  simpa [not_or, and_assoc] using apart

theorem CounterKey.head_line (key : CounterKey) (n : Nat) :
    (key.line n).toList.head? = some 'h' := by
  unfold line
  simp only [String.toList_append, List.append_assoc]
  rw [List.head?_append]
  rfl

theorem head_buildLine (n : Nat) : (buildLine n).toList.head? = some 'h' := by
  unfold buildLine
  simp only [String.toList_append, List.append_assoc]
  rw [List.head?_append]
  rfl

theorem buildLine_injective {n m : Nat} (same : buildLine n = buildLine m) : n = m := by
  unfold buildLine at same
  rw [← String.toList_inj] at same
  simp only [String.toList_append] at same
  exact eq_of_toString_eq (List.append_cancel_left same)

/-- The text has a line for each counter. -/
theorem Metrics.count_line (metrics : Metrics) (key : CounterKey) (n : Nat) :
    (linesOf metrics.render).count (key.line n) = metrics.counters.count (key, n) := by
  obtain ⟨notBuild, notCounter, notEmpty⟩ := not_mem_of_head (key.head_line n)
  have inHead : (if metrics.counters.isEmpty then [] else counterHead).count (key.line n) = 0 := by
    split
    · rfl
    · exact List.count_eq_zero.mpr notCounter
  have inLines := List.count_map_of_injective metrics.counters
    (fun counter => counter.1.line counter.2)
    (fun a b same => Prod.ext (CounterKey.line_injective same).1 (CounterKey.line_injective same).2)
    (key, n)
  have notVersion : key.line n ∉ [buildLine 1] := by
    simpa using key.line_ne_buildLine n 1
  have notLast : key.line n ∉ [""] := by
    simpa using notEmpty
  rw [linesOf_render, List.count_append, List.count_append, List.count_append,
    List.count_eq_zero.mpr notBuild, List.count_eq_zero.mpr notVersion,
    List.count_eq_zero.mpr notLast, counterLines, List.count_append, inHead, inLines]
  omega

/-- The text shows the version in one line, whatever the counters are. -/
theorem Metrics.shows_buildLine (metrics : Metrics) : Shows metrics.render buildLine 1 := by
  intro n
  obtain ⟨notBuild, notCounter, notEmpty⟩ := not_mem_of_head (head_buildLine n)
  have notLine : buildLine n ∉ metrics.counterLines := by
    rw [counterLines, List.mem_append, not_or]
    constructor
    · split
      · exact List.not_mem_nil
      · exact notCounter
    · intro mem
      obtain ⟨counter, -, same⟩ := List.mem_map.mp mem
      exact counter.1.line_ne_buildLine counter.2 n same
  have notLast : buildLine n ∉ [""] := by
    simpa using notEmpty
  rw [linesOf_render, List.count_append, List.count_append, List.count_append,
    List.count_eq_zero.mpr notBuild, List.count_eq_zero.mpr notLine,
    List.count_eq_zero.mpr notLast]
  by_cases one : n = 1
  · simp [one]
  · have other : buildLine n ∉ [buildLine 1] := by
      rw [List.mem_singleton]
      exact fun same => one (buildLine_injective same)
    simp [List.count_eq_zero.mpr other, one]

end ChartOperator
