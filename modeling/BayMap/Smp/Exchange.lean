import BayMap.Smp.Response
import BayMap.Transport.Link

/-!
# Management exchanges

One request and its response: the request is shown in the trace and sent, and the response is shown
as far as it was received, checked, and cut to the bytes that count.
-/

namespace BayMap.Smp

open Transport

/-- The greatest size a buffer may have: a tebibyte or more is never reserved. -/
def maxBuffer : Nat := 0xffffffffff

/-- Sends a request to the expander at an address. -/
def exchange (target : UInt64) (function : Function) (request : Bytes) (capacity : Nat) :
    Conversation (Except SmpError Bytes) := do
  if maxBuffer < capacity then return .error (.resource capacity)
  Conversation.trace "smp request" request
  match ← Conversation.smp target request capacity with
  | .error cause => return .error (.transport cause)
  | .ok reply =>
    if reply.status ≠ 0 then return .error (.transportStatus reply.status)
    let response := reply.response.fit capacity
    Conversation.trace "smp response" (response.take (reply.received.getD capacity))
    return (validLength function response reply.received).map response.take

end BayMap.Smp
