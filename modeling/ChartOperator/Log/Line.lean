import ChartOperator.CommandLine.Flag
import ChartOperator.Log.Event

/-!
# Lines of the log

The line that stands for an event, as plain text or as a JSON object.  Lines carry no time; whoever
collects the log adds it.
-/

namespace ChartOperator

namespace Log

/-- The digit of a number below sixteen. -/
def hexDigit (n : Nat) : Char :=
  if n < 10 then Char.ofNat ('0'.toNat + n) else Char.ofNat ('a'.toNat + (n - 10))

/-- A character inside a JSON string. -/
def escapeChar (c : Char) : List Char :=
  if c = '"' then ['\\', '"']
  else if c = '\\' then ['\\', '\\']
  else if c = '\n' then ['\\', 'n']
  else if c = '\r' then ['\\', 'r']
  else if c = '\t' then ['\\', 't']
  else if c.toNat < 0x20 then
    ['\\', 'u', '0', '0', hexDigit (c.toNat / 16), hexDigit (c.toNat % 16)]
  else [c]

/-- A JSON string. -/
def jsonString (text : String) : String :=
  "\"" ++ String.ofList (text.toList.flatMap escapeChar) ++ "\""

/-- A JSON object with the texts of its values. -/
def jsonObject (members : List (String × String)) : String :=
  let texts := members.map fun member => jsonString member.1 ++ ":" ++ member.2
  "\x7b" ++ String.intercalate "," texts ++ "\x7d"

end Log

/-- The JSON text of a value. -/
def FieldValue.json : FieldValue → String
  | .quoted text | .shown text => Log.jsonString text
  | .number n => toString n

/-- The text of a value in a plain line. -/
def FieldValue.plain : FieldValue → String
  | .quoted text => Log.jsonString text
  | .shown text => text
  | .number n => toString n

namespace Event

/-- The members that name the span of an event. -/
def spanMembers (event : Event) : List (String × String) :=
  match event.span with
  | none => []
  | some name =>
      let object := Log.jsonObject [("name", Log.jsonString name)]
      [("span", object), ("spans", "[" ++ object ++ "]")]

/-- The line of an event as a JSON object. -/
def jsonLine (event : Event) : String :=
  let fields := event.fields.map fun field => (field.1, field.2.json)
  Log.jsonObject ([
    ("level", Log.jsonString event.level.name),
    ("fields", Log.jsonObject (("message", Log.jsonString event.message) :: fields)),
    ("target", Log.jsonString event.component.target)] ++ event.spanMembers)

/-- The line of an event as plain text, with the level flush right. -/
def plainLine (event : Event) : String :=
  let level := event.level.name
  let margin := String.ofList (List.replicate (5 - level.length) ' ')
  let place := event.span.toList ++ [event.component.target, event.message]
  let fields := event.fields.map fun field => " " ++ field.1 ++ "=" ++ field.2.plain
  margin ++ level ++ " " ++ String.intercalate ": " place ++ String.join fields

/-- The line of an event. -/
def line (format : LogFormat) (event : Event) : String :=
  match format with
  | .text => event.plainLine
  | .json => event.jsonLine

end Event

end ChartOperator
