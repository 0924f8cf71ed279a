import ChartOperator.Binding
import ChartOperator.Config.Error
import ChartOperator.Config.Settings

/-!
# Errors of the operator

Why a run of the operator fails, by the stage that fails.
-/

namespace ChartOperator

/-- Why there is no client for a cluster. -/
inductive ClientFault where
  /-- No configuration for a client is found. -/
  | noConfiguration (cause : ClientError)
  /-- There is a configuration, but no client can be built from it. -/
  | unusable (cause : ClientError)
  deriving DecidableEq

/-- The causes for which a run fails. -/
inductive OperatorError where
  | config (cause : ConfigError)
  | unsupported (fields : List WebhookField)
  | client (fault : ClientFault)
  | manager (cause : ManagerError)
  | healthCheck (cause : ManagerError)
  | watches (cause : WatchError)
  | bind (cause : BindError)
  | runLoop (cause : ManagerError)

/-- The wording of an operator error. -/
def OperatorError.message : OperatorError → String
  | .config cause => s!"invalid configuration: {cause.message}"
  | .unsupported fields => unsupportedMessage fields
  | .client (.noConfiguration cause) =>
      s!"failed to get cluster client config: {cause.explanation}"
  | .client (.unusable cause) => s!"failed to create Kubernetes client: {cause.explanation}"
  | .manager cause => s!"failed to create a new manager: {cause.message}"
  | .healthCheck cause => s!"unable to set up health check: {cause.message}"
  | .watches cause => s!"failed to load watches: {cause.message}"
  | .bind cause => s!"failed to bind watches: {cause.message}"
  | .runLoop cause => s!"manager exited non-zero: {cause.message}"

end ChartOperator
