import ChartOperator.Log.FieldPattern
import ChartOperator.Log.Level
import ChartOperator.Text.Alphanumeric
import ChartOperator.Text.Blank

/-!
# Log filters

A filter is a list of directives between commas.  A directive may name the targets it is about, a
span and fields in brackets, and a threshold: `target[span{field=value}]=level`.  Of the
directives about an event, the most specific decides; a directive about a span lets events inside
the span pass besides.
-/

namespace ChartOperator

/-- A directive of a log filter. -/
structure Directive where
  /-- The start of the targets it is about. -/
  target : Option String := none
  /-- The name of the span it is about. -/
  span : Option String := none
  /-- The names of the fields it is about, each with whether its value matters. -/
  fields : List (String × Bool) := []
  threshold : Threshold
  deriving DecidableEq

namespace Directive

/-- The characters with which a directive may start, apart from a bracket. -/
def isStart (c : Char) : Bool :=
  c == '-' || c == ':' || c == '_' || Text.isAlphanumeric c

/-- The threshold after an equals sign; without a word everything is logged. -/
def readThreshold? (word : List Char) : Option Threshold :=
  if word.isEmpty then some (some .trace) else Threshold.read? word

/-- A directive that is a single word: a threshold for all targets, or a target of which
everything is logged. -/
def ofWord (word : List Char) : Directive :=
  match Threshold.read? word with
  | some threshold => { threshold := threshold }
  | none => { target := some (String.ofList word), threshold := some .trace }

/-- A field with an optional pattern for its value; a second equals sign ends the pattern. -/
def readField? (cs : List Char) : Option (String × Bool) :=
  let name := String.ofList (cs.takeWhile (· ≠ '='))
  match cs.dropWhile (· ≠ '=') with
  | [] => some (name, false)
  | _ :: value =>
      if FieldPattern.isValid (value.takeWhile (· ≠ '=')) then some (name, true) else none

/-- A text that is read by its form: `form` tells where its parts end, and the parts are cut from
`text` at the same places. -/
structure Formed where
  form : List Char
  text : List Char

namespace Formed

/-- A text of which the blanks around it are no part of the form.  They are not taken out of the
text, so blanks in front of it shift its parts. -/
def ofText (cs : List Char) : Formed := ⟨Text.trimChars cs, cs⟩

/-- The text without its first characters. -/
def drop (f : Formed) (n : Nat) : Formed := ⟨f.form.drop n, f.text.drop n⟩

/-- The number of characters up to the first one with a property. -/
def distance (f : Formed) (p : Char → Bool) : Nat := (f.form.takeWhile fun c => !p c).length

end Formed

/-- What is read from the brackets of a directive, and what follows them. -/
structure Brackets where
  span : Option String
  fields : List (String × Bool)
  rest : Formed

/-- Reads the span and the field of a directive up to the closing bracket.  A field needs a name,
and its braces have to stand directly before the bracket. -/
def readBrackets? (f : Formed) : Option Brackets :=
  let length := f.distance fun c => c == ']' || c == '{'
  let span := String.ofList (f.text.take length)
  let rest := f.drop (length + 1)
  match f.form.drop length with
  | ']' :: _ => some ⟨some span, [], rest⟩
  | '{' :: _ =>
      let fieldLength := rest.distance (· == '}')
      match rest.form.drop fieldLength with
      | '}' :: ']' :: _ =>
          if fieldLength = 0 then none
          else
            let name := if length = 0 then none else some span
            (readField? (rest.text.take fieldLength)).map fun field =>
              ⟨name, [field], rest.drop (fieldLength + 2)⟩
      | _ => none
  | _ => none

/-- The directive with brackets after a target; the threshold may be missing. -/
def ofBrackets? (target : Option String) (brackets : Brackets) : Option Directive :=
  match brackets.rest.form with
  | [] => some ⟨target, brackets.span, brackets.fields, some .trace⟩
  | '=' :: _ =>
      (readThreshold? (brackets.rest.text.drop 1)).map fun threshold =>
        ⟨target, brackets.span, brackets.fields, threshold⟩
  | _ => none

/-- Reads a directive. -/
def read? (cs : List Char) : Option Directive :=
  let f := Formed.ofText cs
  match f.form with
  | [] => none
  | '[' :: _ => (readBrackets? (f.drop 1)).bind (ofBrackets? none)
  | c :: _ =>
      if !isStart c then none
      else
        let length := f.distance fun c => c == '=' || c == '['
        let word := String.ofList (f.text.take length)
        match f.form.drop length with
        | '=' :: _ =>
            (readThreshold? (f.text.drop (length + 1))).map fun threshold =>
              { target := some word, threshold := threshold }
        | '[' :: _ => (readBrackets? (f.drop (length + 1))).bind (ofBrackets? (some word))
        | _ => some (ofWord f.text)

/-- Whether a directive is about the events inside spans. -/
def isAboutSpans (directive : Directive) : Bool :=
  directive.span.isSome || !directive.fields.isEmpty

/-- Whether a directive is about single events: it names no span and no value of a field. -/
def isAboutEvents (directive : Directive) : Bool :=
  directive.span.isNone && !directive.fields.any (·.2)

/-- Whether a target starts as a directive asks for. -/
def coversTarget (directive : Directive) (target : String) : Bool :=
  match directive.target with
  | none => true
  | some start => start.toList.isPrefixOf target.toList

/-- The order of directives about events: longer targets are more specific, then more fields; the
rest of the order only has to be total. -/
def specificity (a b : Directive) : Ordering :=
  let size (d : Directive) := (d.target.map fun t => t.utf8ByteSize + 1).getD 0
  let names (d : Directive) := d.fields.map (·.1)
  (compare (size a) (size b)).then <|
    (compare a.fields.length b.fields.length).then <|
      (compare (a.target.getD "") (b.target.getD "")).then <| compare (names a) (names b)

end Directive

/-- A log filter: its directives about events, the most specific first, and those about spans. -/
structure Filter where
  events : List Directive
  spans : List Directive

/-- An event as far as filters look at it. -/
structure Occurrence where
  level : Level
  target : String
  fields : List String
  /-- The name and target of the span in which the event happens. -/
  span : Option (String × String)

/-- A text that is no log filter. -/
structure FilterError where
  text : String
  deriving DecidableEq

/-- The wording of a filter error; the end of it is a mark that stands for any explanation. -/
def FilterError.message (e : FilterError) : String :=
  s!"invalid --log-level '{e.text}': <filter>"

namespace Filter

/-- Adds a directive in front of the less specific ones, in place of an equal one. -/
def insert (directive : Directive) : List Directive → List Directive
  | [] => [directive]
  | d :: rest =>
      match directive.specificity d with
      | .gt => directive :: d :: rest
      | .eq => directive :: rest
      | .lt => d :: insert directive rest

/-- The filter with some directives; without any, nothing is logged. -/
def ofDirectives (directives : List Directive) : Filter :=
  let spans := directives.filter (·.isAboutSpans)
  let plain := directives.filter fun d => !d.isAboutSpans
  let events := (plain ++ spans.filter (·.isAboutEvents)).foldl (fun ds d => insert d ds) []
  if events.isEmpty && spans.isEmpty then ⟨[{ threshold := none }], []⟩ else ⟨events, spans⟩

/-- Reads a filter; nothing between two commas is no directive. -/
def parse (text : String) : Except FilterError Filter :=
  let parts := (Text.splitAt ',' text.toList).filter fun part => !part.isEmpty
  match parts.mapM Directive.read? with
  | some directives => .ok (ofDirectives directives)
  | none => .error ⟨text⟩

/-- Whether a directive is about an event. -/
def covers (occurrence : Occurrence) (directive : Directive) : Bool :=
  directive.coversTarget occurrence.target &&
    directive.fields.all fun field => occurrence.fields.contains field.1

/-- The threshold for the events inside a span without fields. -/
def spanThreshold (filter : Filter) (name target : String) : Threshold :=
  let covering := filter.spans.filter fun directive =>
    directive.coversTarget target && directive.span.all (· == name) && directive.fields.isEmpty
  covering.foldl (fun threshold directive => threshold.max directive.threshold) none

/-- Whether an event is logged. -/
def admits (filter : Filter) (occurrence : Occurrence) : Bool :=
  let insideSpan :=
    match occurrence.span with
    | none => false
    | some (name, target) => (filter.spanThreshold name target).admits occurrence.level
  let alone :=
    match filter.events.find? (covers occurrence) with
    | none => false
    | some directive => directive.threshold.admits occurrence.level
  insideSpan || alone

end Filter

end ChartOperator
