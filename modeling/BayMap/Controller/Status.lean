/-!
# Statuses of passed-on frames

A controller of the first generations that passes a frame on answers with a status of its own
(`IocStatus`) and with one of the exchange (`SasStatus`). Zero is success in both.
-/

namespace BayMap.Controller

/-- A status of the controller. -/
structure IocStatus where
  /-- The code, without the bit that announces log information. -/
  code : UInt16
  deriving DecidableEq, Repr

namespace IocStatus

/-- The status of a reply; its highest bit only announces log information. -/
def ofRaw (raw : UInt16) : IocStatus := ⟨raw &&& 0x7fff⟩

/-- Success. -/
def success : IocStatus := ⟨0⟩

/-- The symbolic name of a known status. -/
def name? (s : IocStatus) : Option String :=
  match s.code with
  | 0x0000 => some "SUCCESS"
  | 0x0043 => some "SCSI_DEVICE_NOT_THERE"
  | 0x0090 => some "SAS_SMP_REQUEST_FAILED"
  | 0x0091 => some "SAS_SMP_DATA_OVERRUN"
  | _ => none

/-- The description of a known status. -/
def description? (s : IocStatus) : Option String :=
  match s.code with
  | 0x0000 => some "success"
  | 0x0043 => some "device not there"
  | 0x0090 => some "SMP request failed"
  | 0x0091 => some "SMP data overrun"
  | _ => none

end IocStatus

/-- A status of an exchange with an expander. -/
structure SasStatus where
  /-- The code. -/
  code : UInt8
  deriving DecidableEq, Repr

/-- A known status: its code, symbolic name and description. -/
structure SasStatusEntry where
  /-- The code. -/
  code : UInt8
  /-- The symbolic name. -/
  name : String
  /-- The description. -/
  description : String
  deriving Repr

/-- The known statuses. -/
def sasStatusTable : List SasStatusEntry :=
  [
    ⟨0x00, "SUCCESS", "success"⟩,
    ⟨0x01, "UNKNOWN_ERROR", "unknown SAS (SMP) error"⟩,
    ⟨0x02, "INVALID_FRAME", "invalid frame"⟩,
    ⟨0x03, "UTC_BAD_DEST", "unable to connect (bad destination)"⟩,
    ⟨0x04, "UTC_BREAK_RECEIVED", "unable to connect (break received)"⟩,
    ⟨0x05, "UTC_CONNECT_RATE_NOT_SUPPORTED", "unable to connect (connect rate not supported)"⟩,
    ⟨0x06, "UTC_PORT_LAYER_REQUEST", "unable to connect (port layer request)"⟩,
    ⟨0x07, "UTC_PROTOCOL_NOT_SUPPORTED", "unable to connect (protocol (SMP target) not supported)"⟩,
    ⟨0x08, "UTC_STP_RESOURCES_BUSY", "unable to connect (STP resources busy)"⟩,
    ⟨0x09, "UTC_WRONG_DESTINATION", "unable to connect (wrong destination)"⟩,
    ⟨0x0a, "SHORT_INFORMATION_UNIT", "short information unit"⟩,
    ⟨0x0b, "LONG_INFORMATION_UNIT", "long information unit"⟩,
    ⟨0x0c, "XFER_RDY_INCORRECT_WRITE_DATA", "XFER_RDY incorrect write data"⟩,
    ⟨0x0d, "XFER_RDY_REQUEST_OFFSET_ERROR", "XFER_RDY request offset error"⟩,
    ⟨0x0e, "XFER_RDY_NOT_EXPECTED", "XFER_RDY not expected"⟩,
    ⟨0x0f, "DATA_INCORRECT_DATA_LENGTH", "incorrect data length"⟩,
    ⟨0x10, "DATA_TOO_MUCH_READ_DATA", "too much read data"⟩,
    ⟨0x11, "DATA_OFFSET_ERROR", "data offset error"⟩,
    ⟨0x12, "SDSF_NAK_RECEIVED", "SDSF NAK received"⟩,
    ⟨0x13, "SDSF_CONNECTION_FAILED", "SDSF connection failed"⟩,
    ⟨0x14, "INITIATOR_RESPONSE_TIMEOUT", "initiator response timeout"⟩
  ]

namespace SasStatus

/-- Success. -/
def success : SasStatus := ⟨0⟩

/-- What is known of a status, if anything. -/
def entry? (s : SasStatus) : Option SasStatusEntry := sasStatusTable.find? (·.code == s.code)

/-- The symbolic name of a known status. -/
def name? (s : SasStatus) : Option String := s.entry?.map (·.name)

/-- The description of a known status. -/
def description? (s : SasStatus) : Option String := s.entry?.map (·.description)

end SasStatus

end BayMap.Controller
