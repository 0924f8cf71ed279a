import ChartOperator.Yaml.Error
import ChartOperator.Yaml.Token

/-!
# YAML documents as trees

The tree of nodes that the tokens of a text describe.  An alias refers to the anchor of an
earlier node; `ρ` is the type of these references, which are names at first.
-/

namespace ChartOperator.Yaml

/-- The properties of a node: an anchor under which aliases find it, and a tag. -/
structure Properties where
  anchor : Option String := none
  tag : Option String := none

/-- The nodes of a document. -/
inductive Node (ρ : Type) where
  | alias (reference : ρ)
  | scalar (properties : Properties) (style : Style) (text : String)
  | sequence (properties : Properties) (items : List (Node ρ))
  | mapping (properties : Properties) (entries : List (Node ρ × Node ρ))

instance {ρ : Type} : Inhabited (Node ρ) := ⟨.scalar {} .plain ""⟩

/-- The node that stands where nothing is written. -/
def Node.empty {ρ : Type} (properties : Properties := {}) : Node ρ :=
  .scalar properties .plain ""

end ChartOperator.Yaml
