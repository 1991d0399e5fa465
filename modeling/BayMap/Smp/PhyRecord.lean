import BayMap.Smp.DeviceType
import BayMap.Smp.Exchange
import BayMap.Smp.LinkRate

/-!
# DISCOVER

What an expander says of one of its phys (`PhyRecord`), and the line that sums it up. The bytes
about the attached device only count where the phy is active.
-/

namespace BayMap.Smp

/-- How a phy routes. -/
inductive Routing where
  | direct
  | subtractive
  | table
  /-- Table routing where table-to-table routing is supported. -/
  | universal
  | reserved (code : UInt8)
  deriving DecidableEq, Repr

namespace Routing

/-- The routing that the low four bits of a byte stand for. -/
def decode (code : UInt8) (tableToTable : Bool) : Routing :=
  let n := code &&& 0xf
  if n = 0 then .direct
  else if n = 1 then .subtractive
  else if n = 2 then if tableToTable then .universal else .table
  else .reserved n

/-- The letter of a routing. -/
def letter : Routing → Char
  | .direct => 'D'
  | .subtractive => 'S'
  | .table => 'T'
  | .universal => 'U'
  | .reserved _ => 'R'

end Routing

/-- What is attached to an active phy. -/
structure Attached where
  /-- The SAS address at the other end. -/
  sasAddress : UInt64
  /-- The phy of the attached device. -/
  phyId : UInt8
  /-- The name of the attached device, where the response is long enough to hold it. -/
  deviceName : Option UInt64
  /-- The phy is a virtual one. -/
  isVirtual : Bool
  /-- The initiator protocols, a bit each. -/
  initiatorProtocols : UInt8
  /-- The target protocols, a bit each. -/
  targetProtocols : UInt8
  deriving DecidableEq, Repr

/-- The attached device is an initiator, which makes the phy the link to the host. -/
def Attached.isInitiator (a : Attached) : Bool := a.initiatorProtocols &&& 0xf != 0

/-- What an expander says of a phy. -/
structure PhyRecord where
  /-- The phy that was asked for. -/
  requestedPhy : UInt8
  /-- The phy that answered. -/
  phyId : UInt8
  /-- The SAS address of the expander. -/
  expanderAddress : UInt64
  /-- How the phy routes. -/
  routing : Routing
  /-- The negotiated link rate. -/
  rate : LinkRate
  /-- The type of the attached device. -/
  deviceType : DeviceType
  /-- The bay number, where the expander reports one. -/
  slotNumber : Option UInt8
  /-- The attached device, where the phy is active. -/
  attached : Option Attached
  /-- The bytes of the response that count. -/
  responseLength : Nat
  deriving DecidableEq, Repr

namespace PhyRecord

/-- The attached device that a response describes, whether or not the phy is active. -/
def decodeAttached (response : Bytes) : Attached where
  sasAddress := response.beU64At 24
  phyId := response.u8At 32
  deviceName := if 59 < response.length then some (response.beU64At 52) else none
  isVirtual := response.u8At 43 &&& 0x80 != 0
  initiatorProtocols := response.u8At 14
  targetProtocols := response.u8At 15

/-- Reads the bytes of a response that count. -/
def decode (requestedPhy : UInt8) (response : Bytes) (tableToTable : Bool) : PhyRecord :=
  let rate : LinkRate := ⟨response.u8At 13 &&& 0xf⟩
  let deviceType : DeviceType := ⟨(response.u8At 12 &&& 0x70) >>> 4⟩
  let active := rate.inactivity?.isNone && deviceType != .none && !deviceType.isReserved
  { requestedPhy
    phyId := response.u8At 9
    expanderAddress := response.beU64At 16
    routing := .decode (response.u8At 44) tableToTable
    rate
    deviceType
    slotNumber :=
      if 108 < response.length ∧ response.u8At 108 ≠ 0xff then some (response.u8At 108) else none
    attached := if active then some (decodeAttached response) else none
    responseLength := response.length }

/-- The names of the bits that are set, joined by plus signs. -/
def protocols (bits : UInt8) (names : List (UInt8 × String)) : String :=
  "+".intercalate ((names.filter fun n => bits &&& n.1 != 0).map (·.2))

/-- The initiator protocols with their bits. -/
def initiatorNames : List (UInt8 × String) := [(8, "SSP"), (4, "STP"), (2, "SMP"), (1, "SATA")]

/-- The target protocols with their bits. -/
def targetNames : List (UInt8 × String) :=
  [(0x80, "PORT_SEL"), (8, "SSP"), (4, "STP"), (2, "SMP"), (1, "SATA")]

/-- What stands between the brackets of an attached device. -/
def attachedText (a : Attached) (deviceType : DeviceType) : String :=
  Text.hex 16 a.sasAddress.toNat ++ ":" ++ Text.decimalPad 2 a.phyId.toNat ++ " " ++
    (match a.deviceName with
      | some name => Text.hex 16 name.toNat ++ " "
      | none => "") ++
    deviceType.shortName ++
    (if a.isVirtual then " V" else "") ++
    (if a.initiatorProtocols &&& 0xf != 0 then
      " i(" ++ protocols a.initiatorProtocols initiatorNames ++ ")"
    else "") ++
    (if a.targetProtocols &&& 0xf != 0 then
      " t(" ++ protocols a.targetProtocols targetNames ++ ")"
    else "")

/-- The start of a summary. -/
def summaryStart (phy : UInt8) (routing : Routing) : String :=
  "  phy " ++ Text.decimalIn 3 phy.toNat ++ ":" ++ routing.letter.toString ++ ":"

/-- The line of a phy, or nothing where nothing is attached. -/
def summary (r : PhyRecord) : Option String :=
  match r.rate.inactivity? with
  | some state =>
    let slot := match r.slotNumber with
      | some n => Text.decimal n.toNat
      | none => "-1"
    some (summaryStart r.phyId r.routing ++ state ++ "  dsn=" ++ slot)
  | none =>
    let start := summaryStart r.requestedPhy r.routing
    let slot := match r.slotNumber with
      | some n => "  dsn=" ++ Text.decimal n.toNat
      | none => ""
    if r.deviceType = .none then none
    else
      match r.attached with
      | none =>
        let line := start ++ "attached:[0000000000000000:00]"
        if r.responseLength < 64 then some line
        else r.slotNumber.map fun _ => line ++ slot
      | some attached =>
        let speed := match r.rate.speed? with
          | some speed => "  " ++ speed
          | none => ""
        some (start ++ "attached:[" ++ attachedText attached r.deviceType ++ "]" ++ speed ++ slot)

/-- The line of a vacant phy. -/
def vacantText (phy : UInt8) : String :=
  "  phy " ++ Text.decimalIn 3 phy.toNat ++ ": inaccessible (phy vacant)"

/-- The request for a phy. -/
def request (phy : UInt8) : Bytes :=
  [requestType, Function.discover.code, 0x1d, 2, 0, 0, 0, 0, 0, phy, 0, 0, 0, 0, 0, 0]

/-- The size of the response buffer. -/
def capacity : Nat := 124

/-- Asks the expander at an address about a phy. -/
def ask (target : UInt64) (phy : UInt8) (tableToTable : Bool) :
    Transport.Conversation (Except SmpError PhyRecord) := do
  return (← exchange target .discover (request phy) capacity).map fun response =>
    decode phy response tableToTable

end PhyRecord

end BayMap.Smp
