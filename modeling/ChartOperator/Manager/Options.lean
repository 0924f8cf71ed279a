import ChartOperator.Config.Settings
import ChartOperator.Scope
import ChartOperator.Serving.BindAddress

/-!
# Options of the manager

What the manager takes from the settings: the addresses of its two servers, the layout of its
watches and the settings for leader election.
-/

namespace ChartOperator

/-- The options of a manager. -/
structure ManagerOptions where
  cache : CacheStrategy
  /-- The address of the metrics server, unless it is switched off. -/
  metricsBindAddress : Option String := none
  /-- The address of the probe server, unless it is switched off. -/
  healthProbeBindAddress : Option String := none
  leaderElection : LeaderElection := {}
  deriving DecidableEq

/-- The options that follow from settings.  Of two bad addresses the one for metrics is the
error. -/
def ManagerOptions.ofSettings (settings : Settings) (cache : CacheStrategy) :
    Except AddressError ManagerOptions := do
  let metrics ← BindAddress.normalize settings.metricsBindAddress
  let probes ← BindAddress.normalize settings.healthProbeBindAddress
  .ok {
    cache := cache
    metricsBindAddress := metrics
    healthProbeBindAddress := probes
    leaderElection := settings.leaderElection }

end ChartOperator
