/-!
# Attached device types

What a phy is attached to, a field of three bits of which the codes 4 to 7 are reserved.
-/

namespace BayMap.Smp

/-- The code of an attached device type. -/
structure DeviceType where
  /-- The bits of the field. -/
  code : UInt8
  deriving DecidableEq, Repr

namespace DeviceType

/-- Nothing is attached. -/
def none : DeviceType := ⟨0⟩

/-- The symbolic name of a type that is not reserved. -/
def name? (t : DeviceType) : Option String :=
  match t.code with
  | 0 => some "NONE"
  | 1 => some "END_DEVICE"
  | 2 => some "EXPANDER"
  | 3 => some "FANOUT_EXPANDER"
  | _ => Option.none

/-- The codes above 3 are reserved. -/
def isReserved (t : DeviceType) : Bool := 3 < t.code

/-- The abbreviation in a phy summary; end devices have none. -/
def shortName (t : DeviceType) : String :=
  match t.code with
  | 0 | 1 => ""
  | 2 => "exp"
  | 3 => "fex"
  | _ => "res"

end DeviceType

end BayMap.Smp
