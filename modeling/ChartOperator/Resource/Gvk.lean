/-!
# Kinds of resources

A kind of cluster resources is identified by its API group, version and name.
-/

namespace ChartOperator

/-- The group, version and name of a kind.  The core group has the empty name. -/
structure Gvk where
  group : String
  version : String
  kind : String
  deriving DecidableEq

namespace Gvk

/-- The group and version as one word; the core group is left out. -/
def groupVersion (gvk : Gvk) : String :=
  if gvk.group = "" then gvk.version else gvk.group ++ "/" ++ gvk.version

/-- The form in which messages name a kind, such as `example.com/v1, Kind=MyApp`. -/
def label (gvk : Gvk) : String :=
  s!"{gvk.groupVersion}, Kind={gvk.kind}"

end Gvk

end ChartOperator
