import ChartOperator.Glob.Matching
import ChartOperator.Text.Blank

/-!
# Ignore rules

Which paths of a chart are left out.  Each line of an ignore file is a rule with a glob pattern.
A pattern without a slash is matched against the last name of a path, any other against the whole
path; a slash at the end restricts a rule to directories, and an exclamation mark in front turns
its effect around.  The last rule that matches decides.
-/

namespace ChartOperator

/-- A rule of an ignore file. -/
structure IgnoreRule where
  pattern : List Glob.Token
  /-- The rule brings a path back instead of leaving it out. -/
  negated : Bool
  directoriesOnly : Bool
  /-- The pattern is matched against the last name of a path. -/
  lastNameOnly : Bool
  deriving DecidableEq

/-- The causes for which an ignore pattern is refused. -/
inductive IgnoreFault where
  /-- Two stars in a row. -/
  | doubleStar
  /-- A class that cannot be read. -/
  | badClass
  deriving DecidableEq

/-- A pattern that is refused. -/
structure IgnoreError where
  pattern : String
  fault : IgnoreFault
  deriving DecidableEq

/-- The wording of a fault; the text for a bad class is a mark that stands for any explanation. -/
def IgnoreFault.message : IgnoreFault → String
  | .doubleStar => "double-star (**) syntax is not supported"
  | .badClass => "<regex>"

/-- The wording of an ignore error. -/
def IgnoreError.message (e : IgnoreError) : String :=
  s!"pattern '{e.pattern}': {e.fault.message}"

/-- Whether two stars stand in a row. -/
def hasDoubleStar : List Char → Bool
  | '*' :: '*' :: _ => true
  | _ :: rest => hasDoubleStar rest
  | [] => false

/-- A line of an ignore file without its marks. -/
structure IgnoreLine where
  negated : Bool
  directoriesOnly : Bool
  /-- A slash stood in front of the pattern. -/
  rooted : Bool
  pattern : List Char

/-- Takes the marks off a line without surrounding blanks: an exclamation mark in front, one slash
at the end and any number of slashes in front. -/
def IgnoreLine.read (cs : List Char) : IgnoreLine :=
  let negated := cs.head? = some '!'
  let body := if negated then cs.tail else cs
  let directoriesOnly := body.getLast? = some '/'
  let path := if directoriesOnly then body.dropLast else body
  { negated := negated
    directoriesOnly := directoriesOnly
    rooted := path.head? = some '/'
    pattern := path.dropWhile (· = '/') }

/-- The rule on a line without surrounding blanks.  Empty lines, comments and lines of marks alone
hold none. -/
def IgnoreRule.read (cs : List Char) : Except IgnoreError (Option IgnoreRule) :=
  if cs.isEmpty || cs.head? = some '#' then .ok none
  else
    let line := IgnoreLine.read cs
    if line.pattern.isEmpty then .ok none
    else if hasDoubleStar line.pattern then .error ⟨String.ofList line.pattern, .doubleStar⟩
    else
      match Glob.readPattern? line.pattern with
      | none => .error ⟨String.ofList line.pattern, .badClass⟩
      | some tokens =>
          .ok (some {
            pattern := tokens
            negated := line.negated
            directoriesOnly := line.directoriesOnly
            lastNameOnly := !line.rooted && !line.pattern.contains '/' })

/-- The last name of a path. -/
def lastName (path : List Char) : List Char :=
  (path.reverse.takeWhile (· ≠ '/')).reverse

/-- Whether a rule is about a path. -/
def IgnoreRule.appliesTo (rule : IgnoreRule) (path : List Char) (isDirectory : Bool) : Bool :=
  (isDirectory || !rule.directoriesOnly) &&
    Glob.isMatch rule.pattern (if rule.lastNameOnly then lastName path else path)

/-- The rules of an ignore file. -/
abbrev IgnoreRules := List IgnoreRule

namespace IgnoreRules

/-- The rules on some lines; the first bad one is the error. -/
def ofLines : List (List Char) → Except IgnoreError IgnoreRules
  | [] => .ok []
  | line :: rest => do
      let rule ← IgnoreRule.read (Text.trimChars line)
      let rules ← ofLines rest
      .ok (rule.toList ++ rules)

/-- Reads the rules of an ignore file. -/
def parse (content : String) : Except IgnoreError IgnoreRules :=
  ofLines (Text.splitAt '\n' content.toList)

/-- Whether the rules leave a path out. -/
def ignores (rules : IgnoreRules) (path : List Char) (isDirectory : Bool) : Bool :=
  rules.foldl
    (fun ignored rule => if rule.appliesTo path isDirectory then !rule.negated else ignored) false

end IgnoreRules

end ChartOperator
