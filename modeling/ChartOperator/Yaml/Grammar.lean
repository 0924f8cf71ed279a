import ChartOperator.Yaml.Node

/-!
# The grammar of YAML

Builds the node tree of a text from its tokens.  Each function reads a part of the grammar off
the front of a token list and returns what is left, with a proof that it is no longer than the
bound in its type; this makes the recursion well-founded.
-/

namespace ChartOperator.Yaml

/-- What a part of the grammar reads off a token list, and the tokens left. -/
structure Parsed (α : Type) (bound : Nat) where
  value : α
  rest : List Token
  rest_le : rest.length ≤ bound

/-- The same reading under a weaker bound. -/
def Parsed.weaken {α : Type} {m n : Nat} (p : Parsed α m) (h : m ≤ n) : Parsed α n :=
  ⟨p.value, p.rest, Nat.le_trans p.rest_le h⟩

/-- The tag handles of a document with the texts that they stand for. -/
abbrev Handles := List (String × String)

/-- The handles that every document has. -/
def standardHandles : Handles :=
  [("!", "!"), ("!!", "tag:yaml.org,2002:")]

/-- The full form of a tag. -/
def TagName.resolve (handles : Handles) (name : TagName) : Except Error String :=
  if name.handle = "" then .ok name.suffix
  else
    match handles.lookup name.handle with
    | some start => .ok (start ++ name.suffix)
    | none => .error (.grammatical "found undefined tag handle")

/-- The properties in front of a node, and the token after them. -/
structure PropertiesRead (bound : Nat) where
  properties : Properties
  next : Token
  rest : List Token
  rest_le : rest.length ≤ bound

/-- Reads the properties in front of a node: an anchor and a tag, in either order. -/
def readProperties (handles : Handles) (t : Token) (ts : List Token) :
    Except Error (PropertiesRead ts.length) :=
  match t, ts with
  | .anchor anchor, .tag name :: t' :: rest =>
      (name.resolve handles).map fun tag =>
        ⟨⟨some anchor, some tag⟩, t', rest, by simp only [List.length_cons]; omega⟩
  | .anchor anchor, t' :: rest => .ok ⟨⟨some anchor, none⟩, t', rest, by simp⟩
  | .tag name, .anchor anchor :: t' :: rest =>
      (name.resolve handles).map fun tag =>
        ⟨⟨some anchor, some tag⟩, t', rest, by simp only [List.length_cons]; omega⟩
  | .tag name, t' :: rest =>
      (name.resolve handles).map fun tag => ⟨⟨none, some tag⟩, t', rest, by simp⟩
  | t, ts => .ok ⟨{}, t, ts, Nat.le_refl _⟩

/-- The tokens at which an entry of a block collection has no node. -/
def endsBlockItem (inMapping : Bool) : Token → Bool
  | .blockEnd => true
  | .blockEntry => !inMapping
  | .key => inMapping
  | .value => inMapping
  | _ => false

/-- The tokens at which an entry of a sequence without indentation has no node. -/
def endsIndentlessItem (t : Token) : Bool :=
  endsBlockItem false t || endsBlockItem true t

/-- The tokens at which the key or value of a flow collection has no node. -/
def endsFlowItem (closing : Token) (t : Token) : Bool :=
  t == .flowEntry || t == closing

/-- The error of an unexpected token. -/
def unexpected (expected : String) : Error :=
  .grammatical s!"did not find expected {expected}"

mutual

/-- Reads a node.  Block collections are only allowed where `block` says so, and a sequence that
is not indented only as a part of a block mapping. -/
def readNode (handles : Handles) (block indentless : Bool) (t : Token) (ts : List Token) :
    Except Error (Parsed (Node String) ts.length) :=
  match t with
  | .alias name => .ok ⟨.alias name, ts, Nat.le_refl _⟩
  | t =>
      match readProperties handles t ts with
      | .error e => .error e
      | .ok ⟨properties, next, rest, h⟩ =>
          let bare : Except Error (Parsed (Node String) ts.length) :=
            if properties.anchor.isSome || properties.tag.isSome then
              if hlen : (next :: rest).length ≤ ts.length then
                .ok ⟨.empty properties, next :: rest, hlen⟩
              else .error (unexpected "node content")
            else .error (unexpected "node content")
          match next with
          -- The lone tag `!` stays on a scalar too: as a value, `! x` is the text `x` with a tag.
          | .scalar style text => .ok ⟨.scalar properties style text, rest, h⟩
          | .flowSequenceStart =>
              match readFlowItems handles true rest with
              | .error e => .error e
              | .ok items => .ok ⟨.sequence properties items.value, items.rest,
                  Nat.le_trans items.rest_le h⟩
          | .flowMappingStart =>
              match readFlowEntries handles true rest with
              | .error e => .error e
              | .ok entries => .ok ⟨.mapping properties entries.value, entries.rest,
                  Nat.le_trans entries.rest_le h⟩
          | .blockSequenceStart =>
              if block then
                match readBlockItems handles rest with
                | .error e => .error e
                | .ok items => .ok ⟨.sequence properties items.value, items.rest,
                    Nat.le_trans items.rest_le h⟩
              else bare
          | .blockMappingStart =>
              if block then
                match readBlockEntries handles rest with
                | .error e => .error e
                | .ok entries => .ok ⟨.mapping properties entries.value, entries.rest,
                    Nat.le_trans entries.rest_le h⟩
              else bare
          | .blockEntry =>
              if indentless then
                match readIndentlessItem handles rest with
                | .error e => .error e
                | .ok items => .ok ⟨.sequence properties items.value, items.rest,
                    Nat.le_trans items.rest_le h⟩
              else bare
          | _ => bare
  termination_by 6 * ts.length + 4
  decreasing_by all_goals omega

/-- Reads a node, or nothing where one of the given tokens is next. -/
def readOptional (handles : Handles) (ends : Token → Bool) (block indentless : Bool) (t : Token)
    (ts : List Token) : Except Error (Parsed (Node String) (ts.length + 1)) :=
  if ends t then .ok ⟨.empty, t :: ts, by simp⟩
  else
    match readNode handles block indentless t ts with
    | .error e => .error e
    | .ok p => .ok (p.weaken (Nat.le_succ _))
  termination_by 6 * ts.length + 5
  decreasing_by all_goals omega

/-- Reads the value of a mapping entry; without its mark there is none. -/
def readValue (handles : Handles) (ends : Token → Bool) (block : Bool) (ts : List Token) :
    Except Error (Parsed (Node String) ts.length) :=
  match ts with
  | .value :: t :: rest =>
      match readOptional handles ends block block t rest with
      | .error e => .error e
      | .ok p => .ok (p.weaken (by simp))
  | ts => .ok ⟨.empty, ts, Nat.le_refl _⟩
  termination_by 6 * ts.length
  decreasing_by all_goals grind

/-- Reads the entries of a block sequence up to its end. -/
def readBlockItems (handles : Handles) (ts : List Token) :
    Except Error (Parsed (List (Node String)) ts.length) :=
  match ts with
  | .blockEntry :: t :: rest =>
      match readOptional handles (endsBlockItem false) true false t rest with
      | .error e => .error e
      | .ok ⟨item, rest', h⟩ =>
          match readBlockItems handles rest' with
          | .error e => .error e
          | .ok items => .ok ⟨item :: items.value, items.rest, by
              have := items.rest_le; simp only [List.length_cons]; omega⟩
  | .blockEnd :: rest => .ok ⟨[], rest, by simp⟩
  | _ => .error (unexpected "'-' indicator")
  termination_by 6 * ts.length
  decreasing_by all_goals grind

/-- Reads the node after a dash of a sequence that is not indented, and the entries after it. -/
def readIndentlessItem (handles : Handles) (ts : List Token) :
    Except Error (Parsed (List (Node String)) ts.length) :=
  match ts with
  | [] => .error (unexpected "node content")
  | t :: rest =>
      match readOptional handles endsIndentlessItem true false t rest with
      | .error e => .error e
      | .ok item =>
          match hr : item.rest with
          | .blockEntry :: rest' =>
              have h := hr ▸ item.rest_le
              match readIndentlessItem handles rest' with
              | .error e => .error e
              | .ok items => .ok ⟨item.value :: items.value, items.rest, by
                  have := items.rest_le; simp only [List.length_cons] at *; omega⟩
          | _ => .ok ⟨[item.value], item.rest, by simpa using item.rest_le⟩
  termination_by 6 * ts.length + 2
  decreasing_by all_goals grind

/-- Reads the entries of a block mapping up to its end. -/
def readBlockEntries (handles : Handles) (ts : List Token) :
    Except Error (Parsed (List (Node String × Node String)) ts.length) :=
  match ts with
  | .key :: t :: rest =>
      match readOptional handles (endsBlockItem true) true true t rest with
      | .error e => .error e
      | .ok key =>
          have h := key.rest_le
          match readValue handles (endsBlockItem true) true key.rest with
          | .error e => .error e
          | .ok value =>
              have h' := value.rest_le
              match readBlockEntries handles value.rest with
              | .error e => .error e
              | .ok entries => .ok ⟨(key.value, value.value) :: entries.value, entries.rest, by
                  have := entries.rest_le; simp only [List.length_cons]; omega⟩
  | .blockEnd :: rest => .ok ⟨[], rest, by simp⟩
  | _ => .error (unexpected "key")
  termination_by 6 * ts.length
  decreasing_by all_goals grind

/-- Reads the items of a flow sequence up to its end; all but the first follow a comma. -/
def readFlowItems (handles : Handles) (first : Bool) (ts : List Token) :
    Except Error (Parsed (List (Node String)) ts.length) :=
  match ts with
  | .flowSequenceEnd :: rest => .ok ⟨[], rest, by simp⟩
  | .flowEntry :: t :: rest =>
      if first then .error (unexpected "node content")
      else
        match readFlowItem handles t rest with
        | .error e => .error e
        | .ok items => .ok ⟨items.value, items.rest, by
            have := items.rest_le; simp only [List.length_cons]; omega⟩
  | t :: rest =>
      if first then
        match readFlowItem handles t rest with
        | .error e => .error e
        | .ok items => .ok ⟨items.value, items.rest, by
            have := items.rest_le; simp only [List.length_cons]; omega⟩
      else .error (unexpected "',' or ']'")
  | [] => .error (unexpected "',' or ']'")
  termination_by 6 * ts.length + 3
  decreasing_by all_goals grind

/-- Reads an item of a flow sequence, which may be a single entry of a mapping, and the items
after it.  The sequence may also end here, after a comma. -/
def readFlowItem (handles : Handles) (t : Token) (ts : List Token) :
    Except Error (Parsed (List (Node String)) ts.length) :=
  match t, ts with
  | .flowSequenceEnd, ts => .ok ⟨[], ts, Nat.le_refl _⟩
  | .key, [] => .error (unexpected "node content")
  | .key, t' :: rest =>
      let key : Except Error (Parsed (Node String) rest.length) :=
        if endsFlowItem .flowSequenceEnd t' || t' == .value then
          .ok ⟨.empty, rest, Nat.le_refl _⟩
        else readNode handles false false t' rest
      match key with
      | .error e => .error e
      | .ok key =>
          have h := key.rest_le
          match readValue handles (endsFlowItem .flowSequenceEnd) false key.rest with
          | .error e => .error e
          | .ok value =>
              have h' := value.rest_le
              match readFlowItems handles false value.rest with
              | .error e => .error e
              | .ok items =>
                  .ok ⟨.mapping {} [(key.value, value.value)] :: items.value, items.rest, by
                    have := items.rest_le; simp only [List.length_cons]; omega⟩
  | t, ts =>
      match readNode handles false false t ts with
      | .error e => .error e
      | .ok ⟨item, rest, h⟩ =>
          match readFlowItems handles false rest with
          | .error e => .error e
          | .ok items => .ok ⟨item :: items.value, items.rest, by
              have := items.rest_le; omega⟩
  termination_by 6 * ts.length + 5
  decreasing_by all_goals grind

/-- Reads the entries of a flow mapping up to its end; all but the first follow a comma. -/
def readFlowEntries (handles : Handles) (first : Bool) (ts : List Token) :
    Except Error (Parsed (List (Node String × Node String)) ts.length) :=
  match ts with
  | .flowMappingEnd :: rest => .ok ⟨[], rest, by simp⟩
  | .flowEntry :: t :: rest =>
      if first then .error (unexpected "node content")
      else
        match readFlowPair handles t rest with
        | .error e => .error e
        | .ok entries => .ok ⟨entries.value, entries.rest, by
            have := entries.rest_le; simp only [List.length_cons]; omega⟩
  | t :: rest =>
      if first then
        match readFlowPair handles t rest with
        | .error e => .error e
        | .ok entries => .ok ⟨entries.value, entries.rest, by
            have := entries.rest_le; simp only [List.length_cons]; omega⟩
      else .error (unexpected "',' or '\x7d'")
  | [] => .error (unexpected "',' or '\x7d'")
  termination_by 6 * ts.length + 3
  decreasing_by all_goals grind

/-- Reads an entry of a flow mapping, which may lack its value, and the entries after it.  The
mapping may also end here, after a comma. -/
def readFlowPair (handles : Handles) (t : Token) (ts : List Token) :
    Except Error (Parsed (List (Node String × Node String)) ts.length) :=
  match t, ts with
  | .flowMappingEnd, ts => .ok ⟨[], ts, Nat.le_refl _⟩
  | .key, [] => .error (unexpected "node content")
  | .key, t' :: rest =>
      match readOptional handles (fun x => endsFlowItem .flowMappingEnd x || x == .value)
          false false t' rest with
      | .error e => .error e
      | .ok key =>
          have h := key.rest_le
          match readValue handles (endsFlowItem .flowMappingEnd) false key.rest with
          | .error e => .error e
          | .ok value =>
              have h' := value.rest_le
              match readFlowEntries handles false value.rest with
              | .error e => .error e
              | .ok entries => .ok ⟨(key.value, value.value) :: entries.value, entries.rest, by
                  have := entries.rest_le; simp only [List.length_cons]; omega⟩
  | t, ts =>
      match readNode handles false false t ts with
      | .error e => .error e
      | .ok ⟨key, rest, h⟩ =>
          match readFlowEntries handles false rest with
          | .error e => .error e
          | .ok entries => .ok ⟨(key, .empty) :: entries.value, entries.rest, by
              have := entries.rest_le; omega⟩
  termination_by 6 * ts.length + 5
  decreasing_by all_goals grind

end

end ChartOperator.Yaml
