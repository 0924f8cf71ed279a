import ChartOperator.Text.Decimal
import ChartOperator.Yaml.Document
import ChartOperator.Yaml.Value

/-!
# Reading typed data from YAML

Decoders for the types of which the operator's files consist: texts, truth values, numbers, lists,
mappings and records.  A decoder follows aliases, but only so often: the number of steps is
limited by the size of the document.
-/

namespace ChartOperator.Yaml

/-- A computation that reads a document and counts the aliases it has followed. -/
abbrev Decode := ReaderT Document (StateT Nat (Except Error))

/-- How often aliases may be followed for each part of a document. -/
def aliasesPerPart : Nat := 100

/-- The depth up to which collections may be nested. -/
def depthLimit : Nat := 128

namespace Decode

/-- Refuses the document. -/
def fail {α : Type} (e : Error) : Decode α :=
  fun _ _ => .error e

/-- The node that an alias refers to; any other node is itself. -/
def follow (node : Node Nat) : Decode (Node Nat) :=
  match node with
  | .alias number => do
      let document ← read
      let count := (← get) + 1
      set count
      if document.size * aliasesPerPart < count then fail .repetition
      else
        match document.target? number with
        | some target => pure target
        | none => fail (.unknownAlias (toString number))
  | node => pure node

/-- Whether a node is a plain scalar without any text, which stands for an empty collection. -/
def isNothing : Node Nat → Bool
  | .scalar _ .plain "" => true
  | _ => false

/-- The text of a scalar, whatever its style and tag. -/
def text (node : Node Nat) : Decode String := do
  match ← follow node with
  | .scalar _ _ s => pure s
  | _ => fail (.mismatch "a string")

/-- A value that may be absent: nothing, or a plain null, stands for its absence. -/
def optional {α : Type} (decode : Node Nat → Decode α) (node : Node Nat) :
    Decode (Option α) := do
  let target ← follow node
  match target with
  | .scalar properties .plain s =>
      match properties.tag with
      | none => if s = "" || isNullWord s then pure none else some <$> decode target
      | some tag =>
          if tag = CoreType.null.tag then
            if isNullWord s then pure none else fail (.mismatch "null")
          else some <$> decode target
  | _ => some <$> decode target

/-- Whether a scalar may be read as a value of a core type: if it is plain, or a literal block
with the tag of the type. -/
def mayBe (type : CoreType) (properties : Properties) (style : Style) : Bool :=
  style == .plain || (style == .literal && properties.tag == some type.tag)

/-- A truth value. -/
def bool (node : Node Nat) : Decode Bool := do
  match ← follow node with
  | .scalar properties style s =>
      match (if mayBe .bool properties style then boolWord? s else none) with
      | some b => pure b
      | none => fail (.mismatch "a boolean")
  | _ => fail (.mismatch "a boolean")

/-- A whole number from zero to a limit. -/
def unsigned (limit : Nat) (node : Node Nat) : Decode Nat := do
  match ← follow node with
  | .scalar properties style s =>
      match (if mayBe .int properties style then unsigned? limit s else none) with
      | some n => pure n
      | none => fail (.mismatch "an unsigned integer")
  | _ => fail (.mismatch "an unsigned integer")

/-- A list. -/
def list {α : Type} (decode : Node Nat → Decode α) (node : Node Nat) : Decode (List α) := do
  match ← follow node with
  | .sequence _ items => items.mapM decode
  | other => if isNothing other then pure [] else fail (.mismatch "a sequence")

/-- The entries of a mapping with their keys as texts. -/
def entries (node : Node Nat) : Decode (List (String × Node Nat)) := do
  match ← follow node with
  | .mapping _ pairs => pairs.mapM fun (key, value) => do
      pure (← text key, value)
  | other => if isNothing other then pure [] else fail (.mismatch "a mapping")

/-- The fields of a record. -/
abbrev Fields := List (String × Node Nat)

/-- The known fields of a record, none of which may be repeated.  Unknown fields are left out. -/
def record (known : List String) (node : Node Nat) : Decode Fields := do
  let all ← entries node
  let fields := all.filter fun field => known.contains field.1
  if (fields.map (·.1)).Nodup then pure fields else fail .duplicateKey

/-- A field that may be missing. -/
def field? {α : Type} (fields : Fields) (name : String) (decode : Node Nat → Decode α) :
    Decode (Option α) :=
  match fields.lookup name with
  | none => pure none
  | some node => some <$> decode node

/-- A field whose value may be absent in either way: missing or null. -/
def optionalField {α : Type} (fields : Fields) (name : String) (decode : Node Nat → Decode α) :
    Decode (Option α) := do
  pure (← field? fields name (optional decode)).join

/-- A text among the fields of a record that may be absent. -/
def optionalText (fields : Fields) (name : String) : Decode (Option String) :=
  optionalField fields name text

/-- A field whose value may be absent, in a record where the last of repeated fields counts. -/
def lastField {α : Type} (fields : Fields) (name : String) (decode : Node Nat → Decode α) :
    Decode (Option α) := do
  let values ← (fields.filter (·.1 == name)).mapM fun field => optional decode field.2
  pure values.getLast?.join

/-- A field that has to be there. -/
def requiredField {α : Type} (fields : Fields) (name : String) (decode : Node Nat → Decode α) :
    Decode α := do
  match ← field? fields name decode with
  | some value => pure value
  | none => fail (.missingField name)

/-- Marks a value with the local tag of its node. -/
def tag (properties : Properties) (v : Value) : Value :=
  match properties.tag with
  | some t => if isLocalTag t then .tagged (localTagName t) v else v
  | none => v

/-- The value of a scalar; under a local tag it is read by its style alone. -/
def scalarValue (properties : Properties) (style : Style) (s : String) : Decode Value :=
  let schemaTag := properties.tag.filter (!isLocalTag ·)
  match ScalarValue.read schemaTag style s with
  | .error e => fail e
  | .ok scalar => pure (tag properties (.ofScalar scalar))

/-- Adds an entry to a mapping; its key has to be a new one. -/
def addEntry (mapping : Mapping) (key value : Value) : Decode Mapping :=
  if mapping.any (fun entry => entry.1.same key) then fail .duplicateKey
  else pure (mapping ++ [(key, value)])

/-- A value of any type, given a decoder for the items of collections. -/
def valueWith (item : Node Nat → Decode Value) (node : Node Nat) : Decode Value := do
  match ← follow node with
  | .scalar properties style s => scalarValue properties style s
  | .sequence properties items => do
      pure (tag properties (.sequence (← items.mapM item)))
  | .mapping properties pairs => do
      let mapping ← pairs.foldlM (fun mapping (key, value) => do
        addEntry mapping (← item key) (← item value)) []
      pure (tag properties (.mapping mapping))
  | .alias number => fail (.unknownAlias (toString number))

/-- A value of any type, nested up to a given depth. -/
def value : Nat → Node Nat → Decode Value
  | 0, node => do
      match ← follow node with
      | .scalar properties style s => scalarValue properties style s
      | _ => fail .depth
  | depth + 1, node => valueWith (value depth) node

/-- Decodes the root of a document. -/
def run {α : Type} (decode : Node Nat → Decode α) (document : Document) : Except Error α :=
  (StateT.run (decode document.root document) 0).map (·.1)

end Decode

/-- Reads a text as a YAML document of a given type. -/
def decodeText {α : Type} (decode : Node Nat → Decode α) (text : String) : Except Error α := do
  (← Document.parse text.toList) |> Decode.run decode

/-- Reads a text as a YAML value. -/
def Value.parse (text : String) : Except Error Value :=
  decodeText (Decode.value depthLimit) text

end ChartOperator.Yaml
