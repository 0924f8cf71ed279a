import ChartOperator.Yaml.Grammar
import ChartOperator.Yaml.Layout

/-!
# YAML documents

A YAML text holds one document.  Once its tree is known, the aliases are bound: each anchored
node gets a number, and an alias the number of the last node anchored under its name so far.  The
number of an anchored node is the number of different names anchored before it, so a repeated
name and a new one after it may share a number; the node that starts last then owns it.
-/

namespace ChartOperator.Yaml

/-- A node that aliases may refer to. -/
structure Anchored where
  number : Nat
  /-- The place in the document where the node starts. -/
  position : Nat
  node : Node Nat

/-- A document whose aliases are bound to numbers. -/
structure Document where
  root : Node Nat
  anchored : List Anchored
  /-- The number of parts: one for a scalar or alias, two for a collection. -/
  size : Nat

/-- The node that owns a number. -/
def Document.target? (document : Document) (number : Nat) : Option (Node Nat) :=
  let owners := document.anchored.filter (·.number == number)
  let last := owners.foldl (fun best? owner =>
    match best? with
    | none => some owner
    | some best => some (if best.position < owner.position then owner else best)) none
  last.map (·.node)

/-- What is known while the aliases of a tree are bound. -/
structure Binding where
  /-- The names anchored so far with the number of their last node. -/
  names : List (String × Nat)
  anchored : List Anchored
  position : Nat

/-- Gives a node that starts here its number, if it is anchored. -/
def Binding.anchor (b : Binding) (properties : Properties) : Binding × Option Nat :=
  match properties.anchor with
  | none => (b, none)
  | some name =>
      let number := b.names.length
      ({ b with names := (name, number) :: b.names.filter (·.1 != name) }, some number)

/-- Moves past one part of the document. -/
def Binding.advance (b : Binding) : Binding :=
  { b with position := b.position + 1 }

/-- Records a node that started at a position under its number. -/
def Binding.record (b : Binding) (number : Option Nat) (position : Nat) (node : Node Nat) :
    Binding :=
  match number with
  | none => b
  | some n => { b with anchored := ⟨n, position, node⟩ :: b.anchored }

mutual

/-- Binds the aliases of a node, from left to right. -/
def bindNode : Node String → Binding → Except Error (Node Nat × Binding)
  | .alias name, b =>
      match b.names.lookup name with
      | some number => .ok (.alias number, b.advance)
      | none => .error (.unknownAlias name)
  | .scalar properties style text, b =>
      let (anchored, number) := b.anchor properties
      let node := Node.scalar properties style text
      .ok (node, (anchored.record number b.position node).advance)
  | .sequence properties items, b => do
      let (anchored, number) := b.anchor properties
      let (items, after) ← bindItems items anchored.advance
      let node := Node.sequence properties items
      .ok (node, (after.record number b.position node).advance)
  | .mapping properties entries, b => do
      let (anchored, number) := b.anchor properties
      let (entries, after) ← bindEntries entries anchored.advance
      let node := Node.mapping properties entries
      .ok (node, (after.record number b.position node).advance)

/-- Binds the aliases of the items of a sequence. -/
def bindItems : List (Node String) → Binding → Except Error (List (Node Nat) × Binding)
  | [], b => .ok ([], b)
  | item :: rest, b => do
      let (item, afterItem) ← bindNode item b
      let (rest, after) ← bindItems rest afterItem
      .ok (item :: rest, after)

/-- Binds the aliases of the entries of a mapping. -/
def bindEntries : List (Node String × Node String) → Binding →
    Except Error (List (Node Nat × Node Nat) × Binding)
  | [], b => .ok ([], b)
  | (key, value) :: rest, b => do
      let (key, afterKey) ← bindNode key b
      let (value, afterValue) ← bindNode value afterKey
      let (rest, after) ← bindEntries rest afterValue
      .ok ((key, value) :: rest, after)

end

/-- Whether a token may follow a document marker without a node in between. -/
def endsDocument : Token → Bool
  | .versionDirective _ _ => true
  | .tagDirective _ _ => true
  | .documentStart => true
  | .documentEnd => true
  | .streamEnd => true
  | _ => false

/-- Reads the directives in front of a document marker: at most one version, which has to be 1.1
or 1.2, and at most one text for each tag handle. -/
def readDirectives (version : Bool) (handles : Handles) :
    List Token → Except Error (Handles × List Token)
  | .versionDirective major minor :: rest =>
      if version then .error (.grammatical "found duplicate %YAML directive")
      else if major = 1 && (minor = 1 || minor = 2) then readDirectives true handles rest
      else .error (.grammatical "found incompatible YAML document")
  | .tagDirective handle start :: rest =>
      if (handles.lookup handle).isSome then
        .error (.grammatical "found duplicate %TAG directive")
      else readDirectives version ((handle, start) :: handles) rest
  | .documentStart :: rest => .ok (handles ++ standardHandles, rest)
  | _ => .error (unexpected "<document start>")

/-- Reads the node of a document and checks that nothing but end markers follows it. -/
def readDocument (handles : Handles) (empty : Token → Bool) (ts : List Token) :
    Except Error (Node String) :=
  match ts with
  | [] => .error (unexpected "node content")
  | t :: rest =>
      match readOptional handles empty true false t rest with
      | .error e => .error e
      | .ok p =>
          match p.rest.dropWhile (· == .documentEnd) with
          | [.streamEnd] => .ok p.value
          | _ => .error .severalDocuments

/-- The tree that a list of tokens describes.  A text without a document counts as one with
nothing written in it. -/
def Node.ofTokens (ts : List Token) : Except Error (Node String) :=
  match ts with
  | [.streamEnd] => .ok .empty
  | t :: _ =>
      match t with
      | .versionDirective _ _ | .tagDirective _ _ | .documentStart => do
          let (handles, rest) ← readDirectives false [] ts
          readDocument handles endsDocument rest
      | _ => readDocument standardHandles (fun _ => false) ts
  | [] => .error (unexpected "node content")

/-- The document that a text holds. -/
def Document.parse (text : List Char) : Except Error Document := do
  let ts ← tokens text
  let tree ← Node.ofTokens ts
  let (root, binding) ← bindNode tree ⟨[], [], 0⟩
  .ok ⟨root, binding.anchored, binding.position⟩

end ChartOperator.Yaml
