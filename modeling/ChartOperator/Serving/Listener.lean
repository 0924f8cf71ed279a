import ChartOperator.Serving.BindAddress

/-!
# Listeners

The two servers of the operator and the opening of the addresses on which they listen.
-/

namespace ChartOperator

/-- A server of the operator. -/
inductive Server where
  /-- Answers the probes for liveness and readiness. -/
  | probes
  | metrics
  deriving DecidableEq

/-- The name of a server in messages. -/
def Server.name : Server → String
  | .probes => "health probes"
  | .metrics => "metrics"

/-- Why no listener can be opened. -/
inductive ListenFault where
  | noPort
  | badPort
  /-- The host refuses the address, with its own explanation. -/
  | refused (explanation : String)
  deriving DecidableEq

/-- The wording of a fault. -/
def ListenFault.reason : ListenFault → String
  | .noPort => "invalid socket address"
  | .badPort => "invalid port value"
  | .refused explanation => explanation

/-- The host on which the operator runs, as far as its network addresses matter. -/
structure Host where
  /-- Why an address with a proper port cannot be opened after some others. -/
  refusal? : List String → String → Option String

/-- The host that opens every address. -/
def Host.permissive : Host := ⟨fun _ _ => none⟩

/-- Opens a listener on an address, when those on some addresses have been opened before. -/
def Host.listen (host : Host) (opened : List String) (address : String) :
    Except ListenFault Unit :=
  match BindAddress.splitLastColon? address.toList with
  | none => .error .noPort
  | some (_, port) =>
      if BindAddress.isPort port then
        match host.refusal? opened address with
        | some explanation => .error (.refused explanation)
        | none => .ok ()
      else .error .badPort

end ChartOperator
