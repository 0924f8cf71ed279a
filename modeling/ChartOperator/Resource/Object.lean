/-!
# Resources

A resource of a watched kind, as far as a reconcile looks at it.
-/

namespace ChartOperator

/-- A resource of the cluster. -/
structure ResourceObject where
  name : Option String := none
  /-- The namespace of the resource, if its kind has namespaces. -/
  ownNamespace : Option String := none
  /-- Whether the deletion of the resource is under way. -/
  deleting : Bool := false
  deriving DecidableEq

namespace ResourceObject

/-- The name for messages. -/
def nameText (object : ResourceObject) : String := object.name.getD ""

/-- The namespace for messages. -/
def namespaceText (object : ResourceObject) : String := object.ownNamespace.getD ""

end ResourceObject

end ChartOperator
