import ChartOperator.StringMap
import ChartOperator.Text.Blank

/-!
# Namespace scope

Which namespaces the operator watches.  A signal from the environment decides: nothing or a star
stands for all namespaces, a name for itself, and a text with commas for the set of the names
between them.  Without a signal a configured namespace counts.
-/

namespace ChartOperator

/-- The namespaces to watch. -/
inductive Scope where
  | all
  | single (name : String)
  /-- The names of a signal with commas, in ascending order, even if there is just one. -/
  | several (names : List String)
  deriving DecidableEq

/-- How the watches for one kind are laid out. -/
inductive CacheStrategy where
  /-- One watch, in the whole cluster or in one namespace. -/
  | scoped (name : Option String)
  /-- One watch for each namespace. -/
  | multi (names : List String)
  deriving DecidableEq

namespace Scope

/-- The names between the commas of a text, without surrounding blanks; blank names do not
count. -/
def namesBetweenCommas (signal : List Char) : List String :=
  let pieces := (Text.splitAt ',' signal).map Text.trimChars
  (pieces.filter fun piece => !piece.isEmpty).map String.ofList

/-- The scope of a set of names. -/
def ofNames (names : List String) : Scope :=
  if names.isEmpty then .all else .several names

/-- The scope that a signal selects. -/
def ofSignal (signal : String) : Scope :=
  let trimmed := Text.trimChars signal.toList
  if trimmed = [] ∨ trimmed = ['*'] then .all
  else if ',' ∈ trimmed then ofNames (nameSet (namesBetweenCommas trimmed))
  else .single (String.ofList trimmed)

/-- The scope that a configured namespace selects. -/
def ofConfigured (configured : Option String) : Scope :=
  match configured.filter (· ≠ "") with
  | some name => .single name
  | none => .all

/-- Decides the scope; a signal takes precedence over the configured namespace. -/
def decide (signal configured : Option String) : Scope :=
  match signal with
  | some text => ofSignal text
  | none => ofConfigured configured

/-- The watches that cover a scope. -/
def cacheStrategy : Scope → CacheStrategy
  | .all => .scoped none
  | .single name => .scoped (some name)
  | .several names => .multi names

/-- The names that a scope consists of. -/
def names : Scope → List String
  | .all => []
  | .single name => [name]
  | .several names => names

/-- The form in which messages name a scope. -/
def render : Scope → String
  | .all => "all namespaces"
  | .single name => "namespace " ++ name
  | .several names => "namespaces " ++ String.intercalate "," names

end Scope

/-- The namespaces that the watches for one kind cover, where `none` stands for the whole cluster.
A kind without namespaces has one watch for the whole cluster. -/
def CacheStrategy.watchNamespaces (strategy : CacheStrategy) (namespaced : Bool) :
    List (Option String) :=
  if namespaced then
    match strategy with
    | .scoped name => [name]
    | .multi names => names.map some
  else [none]

end ChartOperator
