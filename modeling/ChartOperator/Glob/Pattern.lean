import ChartOperator.Glob.CharClass

/-!
# Glob patterns

A pattern is a sequence of tokens: characters that stand for themselves, a star for any run of
characters, a question mark for any single one and a class in brackets for one of its members.
Neither star nor question mark stands for a slash.
-/

namespace ChartOperator.Glob

/-- One token of a pattern. -/
inductive Token where
  | literal (c : Char)
  /-- Any run of characters but slashes. -/
  | anyRun
  /-- Any one character but a slash. -/
  | anyOne
  | oneOf (characters : CharClass)
  deriving DecidableEq

/-- The text of a class and what follows its closing bracket. -/
def splitClass? (cs : List Char) : Option (List Char × List Char) :=
  match cs.dropWhile (· ≠ ']') with
  | [] => none
  | _ :: rest => some (cs.takeWhile (· ≠ ']'), rest)

theorem length_lt_of_splitClass? {cs content rest : List Char}
    (h : splitClass? cs = some (content, rest)) : rest.length < cs.length := by
  unfold splitClass? at h
  have hle := (List.dropWhile_suffix (· ≠ ']') (l := cs)).length_le
  split at h
  · simp at h
  · rename_i heq
    simp only [Option.some.injEq, Prod.mk.injEq] at h
    obtain ⟨-, rfl⟩ := h
    rw [heq] at hle
    simp only [List.length_cons] at hle
    omega

/-- The tokens of a pattern.  A bracket that is never closed stands for itself, and so does
everything after it; a pair of brackets with nothing in between is an opening bracket that stands
for itself.  `none` if a class cannot be read. -/
def readPattern? (cs : List Char) : Option (List Token) :=
  match cs with
  | [] => some []
  | '*' :: rest => (readPattern? rest).map (.anyRun :: ·)
  | '?' :: rest => (readPattern? rest).map (.anyOne :: ·)
  | '[' :: rest =>
      match _h : splitClass? rest with
      | none => some (.literal '[' :: rest.map .literal)
      | some ([], after) => (readPattern? after).map (.literal '[' :: ·)
      | some (content, after) => do
          let characters ← CharClass.read? content
          let tokens ← readPattern? after
          some (.oneOf characters :: tokens)
  | c :: rest => (readPattern? rest).map (.literal c :: ·)
  termination_by cs.length
  decreasing_by
    all_goals try have := length_lt_of_splitClass? _h
    all_goals simp only [List.length_cons]
    all_goals omega

end ChartOperator.Glob
