import ChartOperator.Text.Blank
import Mathlib.Data.List.TakeWhile

/-!
# Trimmed and split texts

A text without its surrounding blanks stands between blanks in the whole text, and nothing is left
of it exactly if the text is blank.  A text is split into the pieces between its separators; if its
pieces are trimmed in turn, it makes no difference whether the text was trimmed before.
-/

namespace ChartOperator.Text

/-- A run of characters ends where something follows that does not belong to it. -/
theorem span_append {p : Char → Bool} {run : List Char} (rest : List Char)
    (inRun : ∀ c ∈ run, p c = true) (stop : ∀ c ∈ rest.head?, p c = false) :
    (run ++ rest).takeWhile p = run ∧ (run ++ rest).dropWhile p = rest := by
  rw [List.takeWhile_append_of_pos inRun, List.dropWhile_append_of_pos inRun]
  cases rest with
  | nil => simp
  | cons c rest => simp [stop c rfl]

theorem isBlank_of_isDigit {c : Char} (digit : c.isDigit = true) : isBlank c = false := by
  have code : 48 ≤ c.toNat ∧ c.toNat ≤ 57 := Char.isDigit_iff_toNat.mp digit
  simp only [isBlank, Bool.or_eq_false_iff, Bool.and_eq_false_iff, decide_eq_false_iff_not,
    beq_eq_false_iff_ne]
  omega

theorem trimEnd_eq_nil_iff {cs : List Char} : trimEnd cs = [] ↔ ∀ c ∈ cs, isBlank c = true := by
  simp [trimEnd, List.dropWhile_eq_nil_iff]

theorem trimChars_eq_nil_iff {cs : List Char} :
    trimChars cs = [] ↔ ∀ c ∈ cs, isBlank c = true := by
  induction cs with
  | nil => simp [trimChars, trimEnd]
  | cons c rest ih =>
      by_cases blank : isBlank c = true
      · simpa [trimChars, blank] using ih
      · simp [trimChars, blank, trimEnd_eq_nil_iff]

theorem trim_eq_empty_iff {s : String} : trim s = "" ↔ isBlankText s = true := by
  simp [trim, isBlankText, trimChars_eq_nil_iff]

section Blanks

variable {cs lead trail : List Char}

theorem trimEnd_append_of_blank (blank : ∀ c ∈ trail, isBlank c = true) :
    trimEnd (cs ++ trail) = trimEnd cs := by
  rw [trimEnd, List.reverse_append, List.dropWhile_append_of_pos (by simpa using blank), trimEnd]

theorem trimChars_append_of_blank (blank : ∀ c ∈ trail, isBlank c = true) :
    trimChars (cs ++ trail) = trimChars cs := by
  rw [trimChars, List.dropWhile_append, trimChars]
  split
  · rename_i noneLeft
    rw [List.isEmpty_iff.mp noneLeft, List.dropWhile_eq_nil_iff.mpr blank]
  · exact trimEnd_append_of_blank blank

theorem trimChars_blank_append (blank : ∀ c ∈ lead, isBlank c = true) :
    trimChars (lead ++ cs) = trimChars cs := by
  rw [trimChars, List.dropWhile_append_of_pos blank, trimChars]

/-- A text is its trimmed text between blanks. -/
theorem exists_blanks_around (cs : List Char) :
    ∃ lead trail, cs = lead ++ trimChars cs ++ trail ∧ (∀ c ∈ lead, isBlank c = true) ∧
      ∀ c ∈ trail, isBlank c = true := by
  have atEnd : ∀ ds : List Char, trimEnd ds ++ (ds.reverse.takeWhile isBlank).reverse = ds := by
    intro ds
    rw [trimEnd, ← List.reverse_append, List.takeWhile_append_dropWhile, List.reverse_reverse]
  refine ⟨cs.takeWhile isBlank, ((cs.dropWhile isBlank).reverse.takeWhile isBlank).reverse,
    ?_, ?_, ?_⟩
  · rw [List.append_assoc, trimChars, atEnd, List.takeWhile_append_dropWhile]
  · intro c mem
    exact List.mem_takeWhile_imp mem
  · intro c mem
    exact List.mem_takeWhile_imp (List.mem_reverse.mp mem)

theorem trimChars_of_visible (visible : ∀ c ∈ cs, isBlank c = false) : trimChars cs = cs := by
  have nothing : ∀ blanks : List Char, blanks ⊆ cs → (∀ c ∈ blanks, isBlank c = true) →
      blanks = [] := by
    intro blanks within blank
    refine List.eq_nil_iff_forall_not_mem.mpr fun c mem => ?_
    have contradicting := blank c mem
    rw [visible c (within mem)] at contradicting
    cases contradicting
  obtain ⟨lead, trail, whole, leadBlank, trailBlank⟩ := exists_blanks_around cs
  have leadNil := nothing lead (by rw [whole]; simp) leadBlank
  have trailNil := nothing trail (by rw [whole]; simp) trailBlank
  rw [leadNil, trailNil, List.nil_append, List.append_nil] at whole
  exact whole.symm

@[simp]
theorem trimChars_trimChars (cs : List Char) : trimChars (trimChars cs) = trimChars cs := by
  obtain ⟨lead, trail, whole, leadBlank, trailBlank⟩ := exists_blanks_around cs
  calc
    trimChars (trimChars cs) = trimChars (lead ++ trimChars cs ++ trail) := by
      rw [trimChars_append_of_blank trailBlank, trimChars_blank_append leadBlank]
    _ = trimChars cs := by rw [← whole]

theorem mem_of_mem_trimChars {c : Char} (mem : c ∈ trimChars cs) : c ∈ cs := by
  obtain ⟨lead, trail, whole, -, -⟩ := exists_blanks_around cs
  rw [whole]
  simp [mem]

end Blanks

/-! ## Pieces between separators -/

/-- Each character of a text that is put together is the separator or stands in a piece. -/
theorem eq_or_mem_of_mem_intercalate {separator c : Char} {pieces : List (List Char)}
    (mem : c ∈ [separator].intercalate pieces) : c = separator ∨ ∃ piece ∈ pieces, c ∈ piece := by
  induction pieces with
  | nil => cases mem
  | cons first others ih =>
      cases others with
      | nil =>
          rw [List.intercalate_singleton] at mem
          exact Or.inr ⟨first, List.mem_cons_self, mem⟩
      | cons second others =>
          rw [List.intercalate_cons_cons, List.append_assoc, List.mem_append, List.singleton_append,
            List.mem_cons] at mem
          rcases mem with inFirst | isSeparator | inOthers
          · exact Or.inr ⟨first, List.mem_cons_self, inFirst⟩
          · exact Or.inl isSeparator
          · rcases ih inOthers with isSeparator | ⟨piece, isPiece, inPiece⟩
            · exact Or.inl isSeparator
            · exact Or.inr ⟨piece, List.mem_cons_of_mem _ isPiece, inPiece⟩

/-- Whether a text is one of the pieces of another one: it holds no separator, and it stands between
two of them if one is put before the other text and one behind it. -/
def IsPiece (separator : Char) (text piece : List Char) : Prop :=
  separator ∉ piece ∧ separator :: piece ++ [separator] <:+: separator :: text ++ [separator]

section Pieces

variable {separator : Char} {text piece : List Char}

theorem eq_nil_or_cons_of_prefix {c : Char} {rest : List Char}
    (ends : piece ++ [separator] <+: c :: (rest ++ [separator])) :
    (piece = [] ∧ c = separator) ∨
      ∃ longer, piece = c :: longer ∧ longer ++ [separator] <+: rest ++ [separator] := by
  cases piece with
  | nil =>
      rw [List.nil_append, List.cons_prefix_cons] at ends
      exact Or.inl ⟨rfl, ends.1.symm⟩
  | cons d longer =>
      rw [List.cons_append, List.cons_prefix_cons] at ends
      exact Or.inr ⟨longer, by rw [ends.1], ends.2⟩

/-- The first piece ends at the first separator; each further piece stands between two separators of
the text.  By induction on the text, whose first character ends the first piece or makes it
longer. -/
theorem exists_splitAt_eq_cons (separator : Char) (text : List Char) :
    ∃ first others, splitAt separator text = first :: others ∧
      (∀ piece, piece = first ↔
        separator ∉ piece ∧ piece ++ [separator] <+: text ++ [separator]) ∧
      ∀ piece, piece ∈ others ↔
        separator ∉ piece ∧ separator :: piece ++ [separator] <:+: text ++ [separator] := by
  induction text with
  | nil =>
      refine ⟨[], [], rfl, fun piece => ?_, fun piece => ?_⟩
      · constructor
        · rintro rfl
          simp
        · rintro ⟨-, start⟩
          simpa using start.length_le
      · simp only [List.not_mem_nil, List.nil_append, false_iff, not_and]
        intro _ inside
        simpa using inside.length_le
  | cons c rest ih =>
      obtain ⟨first, others, pieces, isFirst, between⟩ := ih
      by_cases isSeparator : c = separator
      · subst isSeparator
        refine ⟨[], first :: others, by simp [splitAt, pieces], fun piece => ?_, fun piece => ?_⟩
        · constructor
          · rintro rfl
            simp
          · rintro ⟨noSeparator, start⟩
            rcases eq_nil_or_cons_of_prefix start with ⟨rfl, -⟩ | ⟨longer, rfl, -⟩
            · rfl
            · simp at noSeparator
        · rw [List.mem_cons, isFirst, between, List.cons_append, List.cons_append,
            List.infix_cons_iff, List.cons_prefix_cons, ← and_or_left]
          simp
      · refine ⟨c :: first, others, by simp [splitAt, isSeparator, pieces], fun piece => ?_,
          fun piece => ?_⟩
        · constructor
          · rintro rfl
            obtain ⟨noSeparator, start⟩ := (isFirst first).mp rfl
            exact ⟨by simp [noSeparator, Ne.symm isSeparator], by simpa using start⟩
          · rintro ⟨noSeparator, start⟩
            rcases eq_nil_or_cons_of_prefix start with ⟨-, same⟩ | ⟨longer, rfl, restStart⟩
            · exact absurd same isSeparator
            · have noOther : separator ∉ longer := fun mem =>
                noSeparator (List.mem_cons_of_mem _ mem)
              rw [(isFirst longer).mpr ⟨noOther, restStart⟩]
        · rw [between]
          simp [List.infix_cons_iff, Ne.symm isSeparator]

/-- A text is split into the pieces between its separators. -/
theorem mem_splitAt_iff : piece ∈ splitAt separator text ↔ IsPiece separator text piece := by
  obtain ⟨first, others, pieces, isFirst, between⟩ := exists_splitAt_eq_cons separator text
  rw [pieces, List.mem_cons, isFirst, between, IsPiece, List.cons_append, List.cons_append,
    List.infix_cons_iff, List.cons_prefix_cons, ← and_or_left]
  simp

theorem splitAt_of_not_mem (noSeparator : separator ∉ text) : splitAt separator text = [text] := by
  induction text with
  | nil => rfl
  | cons c rest ih =>
      rw [List.mem_cons, not_or] at noSeparator
      simp [splitAt, Ne.symm noSeparator.1, ih noSeparator.2]

theorem splitAt_append_separator (separator : Char) (text other : List Char) :
    splitAt separator (text ++ separator :: other) =
      splitAt separator text ++ splitAt separator other := by
  induction text with
  | nil => simp [splitAt]
  | cons c rest ih =>
      obtain ⟨first, others, pieces, -⟩ := exists_splitAt_eq_cons separator rest
      by_cases isSeparator : c = separator
      · simp [splitAt, isSeparator, ih]
      · simp [splitAt, isSeparator, ih, pieces]

/-- What is put before a text becomes part of its first piece. -/
theorem splitAt_append_left {lead first : List Char} {others : List (List Char)}
    (noSeparator : separator ∉ lead) (pieces : splitAt separator text = first :: others) :
    splitAt separator (lead ++ text) = (lead ++ first) :: others := by
  induction lead with
  | nil => exact pieces
  | cons c rest ih =>
      rw [List.mem_cons, not_or] at noSeparator
      simp [splitAt, Ne.symm noSeparator.1, ih noSeparator.2]

/-- What is put behind a text becomes part of its last piece. -/
theorem exists_splitAt_append {trail : List Char} (noSeparator : separator ∉ trail)
    (text : List Char) :
    ∃ others last, splitAt separator text = others ++ [last] ∧
      splitAt separator (text ++ trail) = others ++ [last ++ trail] := by
  induction text with
  | nil => exact ⟨[], [], rfl, splitAt_of_not_mem noSeparator⟩
  | cons c rest ih =>
      obtain ⟨others, last, pieces, longer⟩ := ih
      by_cases isSeparator : c = separator
      · exact ⟨[] :: others, last, by simp [splitAt, isSeparator, pieces],
          by simp [splitAt, isSeparator, longer]⟩
      · cases others with
        | nil =>
            exact ⟨[], c :: last, by simp [splitAt, isSeparator, pieces],
              by simp [splitAt, isSeparator, longer]⟩
        | cons first others =>
            exact ⟨(c :: first) :: others, last, by simp [splitAt, isSeparator, pieces],
              by simp [splitAt, isSeparator, longer]⟩

/-- Trimmed pieces are the same whether the text was trimmed before or not. -/
theorem map_trimChars_splitAt (visible : isBlank separator = false) (text : List Char) :
    (splitAt separator (trimChars text)).map trimChars =
      (splitAt separator text).map trimChars := by
  obtain ⟨lead, trail, whole, leadBlank, trailBlank⟩ := exists_blanks_around text
  have notAmong : ∀ blanks : List Char, (∀ c ∈ blanks, isBlank c = true) → separator ∉ blanks := by
    intro blanks blank mem
    rw [blank separator mem] at visible
    cases visible
  obtain ⟨others, last, pieces, longer⟩ :=
    exists_splitAt_append (notAmong trail trailBlank) (trimChars text)
  obtain ⟨first, rest, start⟩ : ∃ first rest, others ++ [last ++ trail] = first :: rest :=
    List.exists_cons_of_ne_nil (by simp)
  have before := splitAt_append_left (notAmong lead leadBlank) (longer.trans start)
  rw [← List.append_assoc, ← whole] at before
  rw [before, pieces, List.map_cons, trimChars_blank_append leadBlank, ← List.map_cons, ← start]
  simp [trimChars_append_of_blank trailBlank]

end Pieces

end ChartOperator.Text
