import ChartOperator.Yaml.Scalar.Core

/-!
# YAML values

Values without a fixed type, as in the settings of a chart.  Equality of values decides whether a
key is repeated: mappings are compared without regard to order, and floating-point zeros of
either sign are equal.
-/

namespace ChartOperator.Yaml

/-- A YAML value.  The entries of a mapping keep the order in which they are written. -/
inductive Value where
  | null
  | bool (b : Bool)
  | int (i : Int)
  | float (x : Binary64)
  | string (s : String)
  | sequence (items : List Value)
  | mapping (entries : List (Value × Value))
  | tagged (tag : String) (value : Value)

instance : Inhabited Value := ⟨.null⟩

/-- The entries of a mapping. -/
abbrev Mapping := List (Value × Value)

/-- The value of a scalar. -/
def Value.ofScalar : ScalarValue → Value
  | .null => .null
  | .bool b => .bool b
  | .int i => .int i
  | .float x => .float x
  | .string s => .string s

mutual

/-- Equality of values. -/
def Value.same : Value → Value → Bool
  | .null, .null => true
  | .bool a, .bool b => a == b
  | .int a, .int b => a == b
  | .float a, .float b => a.same b
  | .string a, .string b => a == b
  | .sequence as, .sequence bs => sameItems as bs
  | .mapping as, .mapping bs => as.length == bs.length && sameEntries as bs
  | .tagged s a, .tagged t b => s == t && a.same b
  | _, _ => false

/-- Equality of sequences. -/
def sameItems : List Value → List Value → Bool
  | [], [] => true
  | a :: as, b :: bs => a.same b && sameItems as bs
  | _, _ => false

/-- Whether every entry of one mapping is an entry of another. -/
def sameEntries : List (Value × Value) → List (Value × Value) → Bool
  | [], _ => true
  | (key, value) :: rest, others =>
      others.any (fun other => key.same other.1 && value.same other.2) &&
        sameEntries rest others

end

/-- The name of a local tag, written with one exclamation mark in front; a tag that is nothing
but the mark keeps it as its name. -/
def localTagName (tag : String) : String :=
  let strip (cs : List Char) : List Char :=
    match cs with
    | '!' :: c :: rest => c :: rest
    | _ => cs
  String.ofList ('!' :: strip (strip tag.toList))

end ChartOperator.Yaml
