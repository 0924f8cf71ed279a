import ChartOperator.Config.Error
import ChartOperator.FileTree.Resolve
import ChartOperator.Text.Blank
import ChartOperator.Yaml.Decode

/-!
# The configuration file

A YAML file with settings of the manager.  All of its fields may be absent; an absent section is
one without fields, and a file with nothing but white space has no section.
-/

namespace ChartOperator

open Yaml (Node Decode)

/-- Settings for leader election in a configuration file. -/
structure LeaderElectionSection where
  leaderElect : Option Bool := none
  resourceName : Option String := none
  resourceNamespace : Option String := none
  deriving DecidableEq

/-- Settings for webhooks in a configuration file. -/
structure WebhookSection where
  port : Option Nat := none
  host : Option String := none
  certDir : Option String := none
  deriving DecidableEq

/-- The settings of a configuration file. -/
structure ConfigFile where
  cacheNamespace : Option String := none
  healthProbeBindAddress : Option String := none
  metricsBindAddress : Option String := none
  leaderElection : LeaderElectionSection := {}
  webhook : WebhookSection := {}
  deriving DecidableEq

/-- Reads the settings for leader election. -/
def decodeLeaderElection (node : Node Nat) : Decode LeaderElectionSection := do
  let fields ← Yaml.Decode.record ["leaderElect", "resourceName", "resourceNamespace"] node
  pure {
    leaderElect := ← Yaml.Decode.optionalField fields "leaderElect" Yaml.Decode.bool
    resourceName := ← Yaml.Decode.optionalText fields "resourceName"
    resourceNamespace := ← Yaml.Decode.optionalText fields "resourceNamespace" }

/-- Reads the settings for webhooks. -/
def decodeWebhook (node : Node Nat) : Decode WebhookSection := do
  let fields ← Yaml.Decode.record ["port", "host", "certDir"] node
  pure {
    port := ← Yaml.Decode.optionalField fields "port" (Yaml.Decode.unsigned Text.maxWord16)
    host := ← Yaml.Decode.optionalText fields "host"
    certDir := ← Yaml.Decode.optionalText fields "certDir" }

/-- Reads a section with a single text field. -/
def decodeSingle (name : String) (node : Node Nat) : Decode (Option String) := do
  Yaml.Decode.optionalText (← Yaml.Decode.record [name] node) name

/-- The sections of a configuration file. -/
def configSections : List String :=
  ["cacheNamespace", "health", "metrics", "leaderElection", "webhook"]

/-- Reads the settings of a configuration file. -/
def decodeConfig (node : Node Nat) : Decode ConfigFile := do
  let fields ← Yaml.Decode.record configSections node
  let cacheNamespace ← Yaml.Decode.optionalText fields "cacheNamespace"
  let health ← Yaml.Decode.field? fields "health" (decodeSingle "healthProbeBindAddress")
  let metrics ← Yaml.Decode.field? fields "metrics" (decodeSingle "bindAddress")
  let leaderElection ← Yaml.Decode.field? fields "leaderElection" decodeLeaderElection
  let webhook ← Yaml.Decode.field? fields "webhook" decodeWebhook
  pure {
    cacheNamespace := cacheNamespace
    healthProbeBindAddress := health.join
    metricsBindAddress := metrics.join
    leaderElection := leaderElection.getD {}
    webhook := webhook.getD {} }

namespace ConfigFile

/-- Reads a configuration file from its text. -/
def parse (content : String) : Except Yaml.Error ConfigFile :=
  if Text.isBlankText content then .ok {} else Yaml.decodeText decodeConfig content

/-- Reads the configuration file with a path. -/
def load (files : FileTree) (path : Path) : Except ConfigError ConfigFile :=
  match files.readText path with
  | .error e => .error (.unreadableFile path e)
  | .ok content => (parse content).mapError (.malformedFile path)

end ConfigFile

end ChartOperator
