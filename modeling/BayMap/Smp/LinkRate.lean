/-!
# Link rates

The negotiated rate of a phy, the low four bits of a DISCOVER field. Six of the codes are no rates
but say why nothing usable is attached.
-/

namespace BayMap.Smp

/-- The code of a negotiated link rate. -/
structure LinkRate where
  /-- The bits of the field. -/
  code : UInt8
  deriving DecidableEq, Repr

namespace LinkRate

/-- The symbolic name of a known rate. -/
def name? (r : LinkRate) : Option String :=
  match r.code with
  | 0 => some "UNKNOWN"
  | 1 => some "DISABLED"
  | 2 => some "RESET_PROBLEM"
  | 3 => some "SPINUP_HOLD"
  | 4 => some "PORT_SELECTOR"
  | 5 => some "RESET_IN_PROGRESS"
  | 6 => some "UNSUPPORTED_PHY_ATTACHED"
  | 8 => some "RATE_1_5"
  | 9 => some "RATE_3"
  | 0xa => some "RATE_6"
  | 0xb => some "RATE_12"
  | 0xc => some "RATE_22_5"
  | _ => none

/-- The state of a phy with nothing usable attached. -/
def inactivity? (r : LinkRate) : Option String :=
  match r.code with
  | 1 => some "disabled"
  | 2 => some "reset problem"
  | 3 => some "spinup hold"
  | 4 => some "port selector"
  | 5 => some "reset in progress"
  | 6 => some "unsupported phy attached"
  | _ => none

/-- The speed of a rate that carries data. -/
def speed? (r : LinkRate) : Option String :=
  match r.code with
  | 8 => some "1.5 Gbps"
  | 9 => some "3 Gbps"
  | 0xa => some "6 Gbps"
  | 0xb => some "12 Gbps"
  | 0xc => some "22.5 Gbps"
  | _ => none

end LinkRate

end BayMap.Smp
