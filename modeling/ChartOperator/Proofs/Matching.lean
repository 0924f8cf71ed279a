import ChartOperator.Glob.Matching
import Mathlib.Data.List.Forall2

/-!
# Texts cut into pieces

What a pattern matches is said with pieces: a text is cut into one piece for each token, and every
token takes its piece.  The marks from which a match is decided tell, for each start of the text,
whether it can be cut into pieces for the tokens so far.
-/

namespace ChartOperator.Glob

universe u

/-! ## Pieces -/

section Cuts

variable {σ : Type u} {takes : σ → List Char → Prop} {signs : List σ} {text : List Char}

/-- Whether a text can be cut into consecutive pieces, one for each of some signs in their order. -/
def Cuts (takes : σ → List Char → Prop) (signs : List σ) (text : List Char) : Prop :=
  ∃ pieces : List (List Char), List.Forall₂ takes signs pieces ∧ pieces.flatten = text

@[simp]
theorem cuts_nil_iff : Cuts takes [] text ↔ text = [] := by
  constructor
  · rintro ⟨pieces, matched, rfl⟩
    cases matched
    rfl
  · rintro rfl
    exact ⟨[], List.Forall₂.nil, rfl⟩

theorem cuts_cons_iff {sign : σ} :
    Cuts takes (sign :: signs) text ↔
      ∃ piece rest, takes sign piece ∧ Cuts takes signs rest ∧ text = piece ++ rest := by
  constructor
  · rintro ⟨pieces, matched, rfl⟩
    cases matched with
    | cons first others => exact ⟨_, _, first, ⟨_, others, rfl⟩, rfl⟩
  · rintro ⟨piece, rest, first, ⟨pieces, others, rfl⟩, rfl⟩
    exact ⟨piece :: pieces, List.Forall₂.cons first others, rfl⟩

theorem cuts_map_iff {τ : Type u} {f : τ → σ} {others : τ → List Char → Prop} {signs : List τ}
    (same : ∀ sign piece, takes (f sign) piece ↔ others sign piece) :
    Cuts takes (signs.map f) text ↔ Cuts others signs text := by
  simp only [Cuts, List.forall₂_map_left_iff, same]

/-- A measure that each piece shares with its sign is shared by the whole text. -/
theorem count_of_cuts {c : Char} {written : σ → List Char}
    (each : ∀ sign ∈ signs, ∀ piece, takes sign piece → piece.count c = (written sign).count c)
    (cuts : Cuts takes signs text) : text.count c = (signs.flatMap written).count c := by
  induction signs generalizing text with
  | nil =>
      rw [cuts_nil_iff.mp cuts]
      rfl
  | cons sign signs ih =>
      obtain ⟨piece, rest, first, others, rfl⟩ := cuts_cons_iff.mp cuts
      rw [List.count_append, List.flatMap_cons, List.count_append,
        each sign List.mem_cons_self piece first,
        ih (fun other mem => each other (List.mem_cons_of_mem _ mem)) others]

end Cuts

/-- Whether a text is a piece for a token: a run is of any length, all else is one character. -/
def Token.Takes (token : Token) (piece : List Char) : Prop :=
  match token with
  | .anyRun => '/' ∉ piece
  | .literal _ | .anyOne | .oneOf _ => ∃ c, token.accepts c = true ∧ piece = [c]

/-- Characters that stand for themselves match nothing but themselves. -/
theorem cuts_literal_iff {cs text : List Char} :
    Cuts Token.Takes (cs.map .literal) text ↔ text = cs := by
  induction cs generalizing text with
  | nil => exact cuts_nil_iff
  | cons c cs ih =>
      simp only [List.map_cons, cuts_cons_iff, ih, Token.Takes, Token.accepts, beq_iff_eq]
      constructor
      · rintro ⟨_, _, ⟨_, rfl, rfl⟩, rfl, rfl⟩
        rfl
      · rintro rfl
        exact ⟨[c], cs, ⟨c, rfl, rfl⟩, rfl, rfl⟩

/-! ## Marks -/

/-- Whether marks tell for every start of a text if it is reached, the empty start first. -/
def Marked (reached : List Char → Prop) : List Char → List Bool → Prop
  | [], [mark] => (mark = true ↔ reached [])
  | c :: cs, mark :: marks =>
      (mark = true ↔ reached []) ∧ Marked (fun start => reached (c :: start)) cs marks
  | _, _ => False

variable {reached other : List Char → Prop} {text : List Char} {marks : List Bool}

theorem Marked.congr (same : ∀ start, reached start ↔ other start)
    (marked : Marked reached text marks) : Marked other text marks := by
  rwa [← funext fun start => propext (same start)]

/-- At the start only the empty text is reached. -/
theorem marked_start (text : List Char) :
    Marked (· = []) text (true :: text.map fun _ => false) := by
  have nowhere : ∀ (cs : List Char) (c : Char),
      Marked (fun start => c :: start = []) cs (false :: cs.map fun _ => false) := by
    intro cs
    induction cs with
    | nil => simp [Marked]
    | cons d cs ih =>
        intro c
        refine ⟨by simp, Marked.congr ?_ (ih d)⟩
        simp
  cases text with
  | nil => simp [Marked]
  | cons c cs => exact ⟨by simp, nowhere cs c⟩

/-- The last mark is for the whole text. -/
theorem getLast?_of_marked (marked : Marked reached text marks) :
    marks.getLast?.getD false = true ↔ reached text := by
  induction text generalizing reached marks with
  | nil =>
      match marks, marked with
      | [mark], marked => simpa [Marked] using marked
  | cons c cs ih =>
      match marks, marked with
      | mark :: marks, ⟨_, marked⟩ =>
          -- The marks behind the first one are as many as the rest of the text, and one more.
          have nonempty : marks ≠ [] := by
            rintro rfl
            cases cs <;> simp [Marked] at marked
          rw [List.getLast?_cons_of_ne_nil nonempty]
          exact ih marked

/-- Behind one more character, a start is reached if it is reached without this character. -/
theorem marked_afterOne {accepts : Char → Bool} {mark : Bool} {now : Prop}
    (first : mark = true ↔ now) (marked : Marked reached text marks) :
    Marked
      (fun start => (now ∧ start = []) ∨
        ∃ before c, start = before ++ [c] ∧ reached before ∧ accepts c = true)
      text (mark :: marksAfterOne accepts text marks) := by
  induction text generalizing reached marks mark now with
  | nil => simpa [Marked, marksAfterOne] using first
  | cons c cs ih =>
      match marks, marked with
      | old :: marks, ⟨oldFirst, marked⟩ =>
          refine ⟨by simpa using first, ?_⟩
          have next : (old && accepts c) = true ↔ reached [] ∧ accepts c = true := by
            rw [Bool.and_eq_true, oldFirst]
          refine Marked.congr ?_ (ih next marked)
          intro start
          constructor
          · rintro (⟨⟨atFirst, accepted⟩, rfl⟩ | ⟨before, d, rfl, atBefore, accepted⟩)
            · exact Or.inr ⟨[], c, rfl, atFirst, accepted⟩
            · exact Or.inr ⟨c :: before, d, rfl, atBefore, accepted⟩
          · rintro (⟨-, empty⟩ | ⟨before, d, whole, atBefore, accepted⟩)
            · cases empty
            · cases before with
              | nil =>
                  cases whole
                  exact Or.inl ⟨⟨atBefore, accepted⟩, rfl⟩
              | cons _ before =>
                  cases whole
                  exact Or.inr ⟨before, d, rfl, atBefore, accepted⟩

/-- Behind a run, a start is reached if it is reached without this run, or if it is all of a run
that has begun earlier. -/
theorem marked_afterRun {accepts : Char → Bool} {running : Bool} {begun : Prop}
    (earlier : running = true ↔ begun) (marked : Marked reached text marks) :
    Marked
      (fun start => (begun ∧ ∀ c ∈ start, accepts c = true) ∨
        ∃ before run, start = before ++ run ∧ reached before ∧ ∀ c ∈ run, accepts c = true)
      text (marksAfterRun accepts running text marks) := by
  induction text generalizing reached marks running begun with
  | nil =>
      match marks, marked with
      | [mark], first =>
          have first : mark = true ↔ reached [] := first
          simp [Marked, marksAfterRun, first, earlier, or_comm]
  | cons c cs ih =>
      match marks, marked with
      | mark :: marks, ⟨first, marked⟩ =>
          have here : (mark || running) = true ↔ reached [] ∨ begun := by
            rw [Bool.or_eq_true, first, earlier]
          have next : ((mark || running) && accepts c) = true ↔
              (reached [] ∨ begun) ∧ accepts c = true := by
            rw [Bool.and_eq_true, here]
          refine ⟨by simp [here, or_comm], Marked.congr ?_ (ih next marked)⟩
          intro start
          constructor
          · rintro (⟨⟨now | started, accepted⟩, all⟩ | ⟨before, run, rfl, atBefore, all⟩)
            · exact Or.inr ⟨[], c :: start, rfl, now, List.forall_mem_cons.mpr ⟨accepted, all⟩⟩
            · exact Or.inl ⟨started, List.forall_mem_cons.mpr ⟨accepted, all⟩⟩
            · exact Or.inr ⟨c :: before, run, rfl, atBefore, all⟩
          · rintro (⟨started, all⟩ | ⟨before, run, whole, atBefore, all⟩)
            · obtain ⟨accepted, all⟩ := List.forall_mem_cons.mp all
              exact Or.inl ⟨⟨Or.inr started, accepted⟩, all⟩
            · cases before with
              | nil =>
                  obtain rfl : c :: start = run := whole
                  obtain ⟨accepted, all⟩ := List.forall_mem_cons.mp all
                  exact Or.inl ⟨⟨Or.inl atBefore, accepted⟩, all⟩
              | cons _ before =>
                  cases whole
                  exact Or.inr ⟨before, run, rfl, atBefore, all⟩

/-- Behind the piece for a token, a start is reached if such a piece leads there. -/
theorem marked_after (token : Token) (marked : Marked reached text marks) :
    Marked (fun start => ∃ before piece, start = before ++ piece ∧ reached before ∧
      token.Takes piece) text (marksAfter token text marks) := by
  have never : false = true ↔ False := by simp
  have one : (∀ piece, token.Takes piece ↔ ∃ c, token.accepts c = true ∧ piece = [c]) →
      Marked (fun start => ∃ before piece, start = before ++ piece ∧ reached before ∧
        token.Takes piece) text (false :: marksAfterOne token.accepts text marks) := by
    intro single
    refine Marked.congr ?_ (marked_afterOne never marked)
    intro start
    simp only [single, false_and, false_or]
    constructor
    · rintro ⟨before, c, rfl, atBefore, accepted⟩
      exact ⟨before, [c], rfl, atBefore, c, accepted, rfl⟩
    · rintro ⟨before, _, rfl, atBefore, c, accepted, rfl⟩
      exact ⟨before, c, rfl, atBefore, accepted⟩
  cases token with
  | literal c => exact one fun _ => Iff.rfl
  | anyOne => exact one fun _ => Iff.rfl
  | oneOf characters => exact one fun _ => Iff.rfl
  | anyRun =>
      refine Marked.congr ?_ (marked_afterRun never marked)
      intro start
      have noSlash : ∀ run : List Char,
          (∀ c ∈ run, Token.anyRun.accepts c = true) ↔ '/' ∉ run := by
        intro run
        simp only [Token.accepts, ne_eq, decide_not, Bool.not_eq_true', decide_eq_false_iff_not]
        exact ⟨fun all mem => all _ mem rfl, fun none c mem same => none (same ▸ mem)⟩
      simp only [noSlash, false_and, false_or, Token.Takes]

/-- Behind the pieces for some tokens, a start is reached if such pieces lead there.  By induction
on the tokens, as the marks behind the first one are marks like those before it. -/
theorem marked_foldl (tokens : List Token) (marked : Marked reached text marks) :
    Marked (fun start => ∃ before rest, start = before ++ rest ∧ reached before ∧
        Cuts Token.Takes tokens rest) text
      (tokens.foldl (fun marks token => marksAfter token text marks) marks) := by
  induction tokens generalizing reached marks with
  | nil => simpa using marked
  | cons token tokens ih =>
      refine Marked.congr ?_ (ih (marked_after token marked))
      intro start
      simp only [cuts_cons_iff]
      constructor
      · rintro ⟨_, rest, rfl, ⟨before, piece, rfl, atBefore, taken⟩, cuts⟩
        exact ⟨before, piece ++ rest, by simp, atBefore, piece, rest, taken, cuts, rfl⟩
      · rintro ⟨before, _, rfl, atBefore, piece, rest, taken, cuts, rfl⟩
        exact ⟨before ++ piece, rest, by simp, ⟨before, piece, rfl, atBefore, taken⟩, cuts⟩

/-- A pattern matches a text exactly if the text can be cut into pieces for its tokens. -/
theorem isMatch_iff {tokens : List Token} : isMatch tokens text = true ↔
    Cuts Token.Takes tokens text := by
  have marked := marked_foldl tokens (marked_start text)
  rw [isMatch, getLast?_of_marked marked]
  simp

end ChartOperator.Glob
