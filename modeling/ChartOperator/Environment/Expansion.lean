/-!
# Environment references

An environment is a partial map from names to values.  A text may refer to it as `$NAME` or
`${NAME}`; expansion cuts the text into pieces and replaces each reference by the value of its
name, or by nothing when the name is unset.  Values are inserted as they are and not expanded
again.
-/

namespace ChartOperator

/-- The variables of a process: the value of each name that is set. -/
abbrev Environment := String → Option String

namespace Environment

/-- One piece of a text with references. -/
inductive Piece where
  /-- Text without a dollar sign. -/
  | text (content : List Char)
  /-- A reference `${name}`; any characters but the closing brace may stand in the name. -/
  | braced (name : List Char)
  /-- A reference `$name`, as long as the name can be. -/
  | named (name : List Char)
  /-- A dollar sign that starts no reference. -/
  | dollar
  deriving DecidableEq

/-- The characters that may start the name of a bare reference. -/
def isNameStart (c : Char) : Bool :=
  c.isAlpha || c == '_'

/-- The characters that may follow in the name of a bare reference. -/
def isNamePart (c : Char) : Bool :=
  c.isAlphanum || c == '_'

/-- The text up to a closing brace and what follows the brace. -/
def readBraced? (cs : List Char) : Option (List Char × List Char) :=
  match cs.dropWhile (· != '}') with
  | [] => none
  | _ :: rest => some (cs.takeWhile (· != '}'), rest)

/-- Reads the reference after a dollar sign; without one the dollar sign stands for itself. -/
def readReference (cs : List Char) : Piece × List Char :=
  match cs with
  | '{' :: rest =>
      match readBraced? rest with
      | some (name, rest') => (.braced name, rest')
      | none => (.dollar, cs)
  | c :: rest =>
      if isNameStart c then
        (.named (c :: rest.takeWhile isNamePart), rest.dropWhile isNamePart)
      else (.dollar, cs)
  | [] => (.dollar, [])

theorem readBraced?_length_lt {cs name rest : List Char}
    (h : readBraced? cs = some (name, rest)) : rest.length < cs.length := by
  unfold readBraced? at h
  split at h
  · simp at h
  · rename_i c rest' heq
    simp only [Option.some.injEq, Prod.mk.injEq] at h
    have hdrop := (List.dropWhile_suffix (fun c => c != '}') (l := cs)).length_le
    rw [heq, h.2] at hdrop
    simp only [List.length_cons] at hdrop
    omega

theorem readReference_length_le (cs : List Char) : (readReference cs).2.length ≤ cs.length := by
  unfold readReference
  split
  · split
    · rename_i name rest' h
      have := readBraced?_length_lt h
      simp only [List.length_cons]
      omega
    · simp
  · rename_i c rest _
    split
    · have := (List.dropWhile_suffix isNamePart (l := rest)).length_le
      simp only [List.length_cons]
      omega
    · simp
  · simp

/-- The pieces of a text, from left to right. -/
def pieces : List Char → List Piece
  | [] => []
  | c :: rest =>
      if c = '$' then (readReference rest).1 :: pieces (readReference rest).2
      else .text (c :: rest.takeWhile (· != '$')) :: pieces (rest.dropWhile (· != '$'))
  termination_by cs => cs.length
  decreasing_by
    · have := readReference_length_le rest
      simp only [List.length_cons]
      omega
    · have := (List.dropWhile_suffix (fun c => c != '$') (l := rest)).length_le
      simp only [List.length_cons]
      omega

/-- The value of a referenced name; an unset name has the empty value. -/
def valueOf (env : Environment) (name : List Char) : List Char :=
  ((env (String.ofList name)).getD "").toList

/-- What a piece becomes. -/
def Piece.expand (env : Environment) : Piece → List Char
  | .text content => content
  | .braced name => valueOf env name
  | .named name => valueOf env name
  | .dollar => ['$']

/-- Replaces every reference in a text. -/
def expand (env : Environment) (value : String) : String :=
  String.ofList ((pieces value.toList).flatMap (Piece.expand env))

end Environment

end ChartOperator
