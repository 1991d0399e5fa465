import BayMap.Smp.FunctionResult
import BayMap.Transport.Error

/-!
# Request errors

Why a management request or a command to a controller has no answer.
-/

namespace BayMap

/-- What is wrong with a response frame. -/
inductive Smp.Malformation where
  /-- Fewer bytes came than a header has. -/
  | shortTransfer
  /-- The response buffer cannot hold a header. -/
  | shortBuffer
  /-- The frame is no response. -/
  | notResponse
  /-- The frame answers another function. -/
  | otherFunction
  deriving DecidableEq, Repr

/-- The wording of a malformation. -/
def Smp.Malformation.text : Smp.Malformation → String
  | .shortTransfer => "response shorter than the frame header"
  | .shortBuffer => "response buffer shorter than the frame header"
  | .notResponse => "not an SMP response frame"
  | .otherFunction => "response function does not match the request"

/-- Why a request has no answer. -/
inductive SmpError where
  /-- The node could not carry the request. -/
  | transport (cause : TransportError)
  /-- The kernel reports a failure. -/
  | transportStatus (status : UInt32)
  /-- The response is no frame for the request. -/
  | malformed (why : Smp.Malformation)
  /-- The target refuses. -/
  | functionResult (result : Smp.FunctionResult)
  /-- The answer of a controller does not have the size of its record. -/
  | lengthMismatch (expected actual : Nat)
  /-- There is no memory for the answer. -/
  | resource (length : Nat)
  deriving DecidableEq, Repr

namespace SmpError

/-- The wording of an error. -/
def message : SmpError → String
  | .transport _ => "transport failure"
  | .transportStatus status => "transport reported status " ++ Text.markedHex 0 status.toNat
  | .malformed why => "malformed response: " ++ why.text
  | .functionResult result => result.text
  | .lengthMismatch expected actual =>
    "response length " ++ Text.decimal actual ++ " does not match the expected " ++
      Text.decimal expected
  | .resource length => "failed to allocate a " ++ Text.decimal length ++ " byte response buffer"

/-- The wordings of the causes, outermost first. -/
def sources : SmpError → List String
  | .transport cause => cause.message :: cause.sources
  | _ => []

/-- An error with its causes on one line. -/
def describe (e : SmpError) : String := BayMap.describe e.message e.sources

/-- The phy does not exist. -/
def saysNoPhy (e : SmpError) : Bool := e == .functionResult .noPhy

/-- The phy exists, and nothing can be asked of it. -/
def saysVacant (e : SmpError) : Bool := e == .functionResult .phyVacant

end SmpError

end BayMap
