import ChartOperator.Text.Blank
import ChartOperator.Text.Decimal

/-!
# Bind addresses

The address that a server is to listen on: a host and a port, where a missing host stands for
every interface, or a lone zero for no server at all.
-/

namespace ChartOperator

/-- What is wrong with an address. -/
inductive AddressFault where
  | noPort
  | badPort
  deriving DecidableEq

/-- The wording of a fault. -/
def AddressFault.reason : AddressFault → String
  | .noPort => "expected host:port"
  | .badPort => "port must be a number between 0 and 65535"

/-- An address that no server can listen on. -/
structure AddressError where
  address : String
  fault : AddressFault
  deriving DecidableEq

/-- The wording of an address error. -/
def AddressError.message (e : AddressError) : String :=
  s!"invalid bind address '{e.address}': {e.fault.reason}"

namespace BindAddress

/-- The text before the last colon and the text after it. -/
def splitLastColon? (cs : List Char) : Option (List Char × List Char) :=
  let reversed := cs.reverse
  match reversed.dropWhile (· ≠ ':') with
  | [] => none
  | _ :: host => some (host.reverse, (reversed.takeWhile (· ≠ ':')).reverse)

/-- Whether a text is a port: a number of 16 bits. -/
def isPort (cs : List Char) : Bool :=
  (Text.readUnsigned 10 Text.maxWord16 cs).isOk

/-- The address of every interface. -/
def everyInterface : List Char := "0.0.0.0".toList

/-- The complete form of an address without surrounding blanks; none for a server that is
switched off. -/
def normalizeTrimmed (cs : List Char) : Except AddressFault (Option (List Char)) :=
  if cs = ['0'] then .ok none
  else
    match splitLastColon? cs with
    | none => .error .noPort
    | some (host, port) =>
        if isPort port then
          .ok (some ((if host.isEmpty then everyInterface else host) ++ ':' :: port))
        else .error .badPort

/-- The complete form of an address; none for a server that is switched off. -/
def normalize (address : String) : Except AddressError (Option String) :=
  let trimmed := Text.trimChars address.toList
  match normalizeTrimmed trimmed with
  | .ok form => .ok (form.map String.ofList)
  | .error fault => .error ⟨String.ofList trimmed, fault⟩

end BindAddress

end ChartOperator
