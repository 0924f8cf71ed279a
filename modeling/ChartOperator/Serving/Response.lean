import ChartOperator.Metrics
import ChartOperator.Serving.Health
import ChartOperator.Serving.Listener

/-!
# Responses of the servers

The probe server has a page for each list of checks, the metrics server one for the metrics.  A
page can be read, with or without its body; other methods are not allowed on it, and there is
nothing at any other path.
-/

namespace ChartOperator

/-- A request to one of the servers. -/
structure Request where
  server : Server
  method : String := "GET"
  /-- The path, which may be followed by a query and a fragment. -/
  target : String

/-- The answer to a request. -/
structure Response where
  status : Nat
  contentType : Option String
  body : String
  deriving DecidableEq

namespace Response

/-- There is no such page. -/
def notFound : Response := ⟨404, none, ""⟩

/-- The method is not allowed on this page. -/
def notAllowed : Response := ⟨405, none, ""⟩

/-- The answer without its body. -/
def headOnly (response : Response) : Response := { response with body := "" }

/-- The page of a report. -/
def ofReport (report : HealthReport) : Response :=
  ⟨if report.healthy then 200 else 500, some "text/plain; charset=utf-8", report.body⟩

/-- The page of the metrics. -/
def ofMetrics (metrics : Metrics) : Response :=
  ⟨200, some "text/plain; version=0.0.4; charset=utf-8", metrics.render⟩

end Response

/-- What the servers show. -/
structure Exhibits where
  liveness : HealthChecks := {}
  readiness : HealthChecks := {}
  metrics : Metrics := {}

namespace Exhibits

/-- The page of a server at a path. -/
def page? (exhibits : Exhibits) (server : Server) (path : String) : Option Response :=
  match server, path with
  | .probes, "/healthz" => some (.ofReport exhibits.liveness.report)
  | .probes, "/readyz" => some (.ofReport exhibits.readiness.report)
  | .metrics, "/metrics" => some (.ofMetrics exhibits.metrics)
  | _, _ => none

/-- The path in the target of a request. -/
def pathOf (target : String) : String :=
  String.ofList (target.toList.takeWhile fun c => c ≠ '?' ∧ c ≠ '#')

/-- The answer to a request. -/
def respond (exhibits : Exhibits) (request : Request) : Response :=
  match exhibits.page? request.server (pathOf request.target) with
  | none => .notFound
  | some page =>
      if request.method = "GET" then page
      else if request.method = "HEAD" then page.headOnly
      else .notAllowed

end Exhibits

end ChartOperator
