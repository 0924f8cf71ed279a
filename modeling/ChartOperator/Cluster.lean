import ChartOperator.Resource.Gvk
import ChartOperator.Resource.Object

/-!
# The cluster

What the operator asks the cluster: what a kind is, and which resources of it there are.  A cluster
is given by its answers.
-/

namespace ChartOperator

/-- A request to the cluster failed; the explanation is the client's. -/
structure ClientError where
  explanation : String
  deriving DecidableEq

/-- A kind as the cluster knows it. -/
structure ResourceType where
  gvk : Gvk
  /-- The name of the kind in paths. -/
  plural : String
  /-- Whether the resources of the kind belong to namespaces. -/
  namespaced : Bool
  deriving DecidableEq

namespace ResourceType

/-- The path below which the resources of a group and version are. -/
def root (gvk : Gvk) : String :=
  (if gvk.group = "" then "/api/" else "/apis/") ++ gvk.groupVersion

/-- The path of the resources of a kind, in one namespace or in the whole cluster. -/
def path (type : ResourceType) (scope : Option String) : String :=
  let inside :=
    match scope with
    | some name => "/namespaces/" ++ name
    | none => ""
  root type.gvk ++ inside ++ "/" ++ type.plural

end ResourceType

/-- A request for the resources of a kind. -/
structure ListRequest where
  path : String
  labelSelector : Option String
  deriving DecidableEq

/-- A cluster. -/
structure Cluster where
  discover : Gvk → Except ClientError ResourceType
  list : ListRequest → Except ClientError (List ResourceObject)

/-- The cluster that no request reaches. -/
def Cluster.unreachable (cause : ClientError) : Cluster :=
  ⟨fun _ => .error cause, fun _ => .error cause⟩

end ChartOperator
