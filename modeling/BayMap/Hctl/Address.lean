import BayMap.Bytes.Endian
import BayMap.Text.Numeral

/-!
# SCSI addresses

A SCSI device is addressed by host, channel, target and logical unit. The host number 0x7fff
stands for the hosts of NVMe name spaces and is written `N`. Addresses are ordered by host, channel,
target and logical unit, which is the order in which devices are enumerated.

* `order_eq_iff`: only an address itself is equal to it in the order.
-/

namespace BayMap.Hctl

/-- The address of a SCSI device. -/
structure Address where
  /-- The adapter. -/
  host : Int32
  /-- The channel, or the controller of a name space. -/
  channel : Int32
  /-- The target. -/
  target : Int32
  /-- The logical unit, or the name space. -/
  lun : UInt64
  deriving DecidableEq, Repr

/-- The host number of NVMe name spaces. -/
def nvmeHost : Int32 := 0x7fff

namespace Address

/-- The address belongs to a name space. -/
def isNvme (a : Address) : Bool := a.host == nvmeHost

/-- Both addresses lie on the same host and channel. -/
def sameBus (a b : Address) : Bool := a.host == b.host && a.channel == b.channel

/-- The enumeration order. -/
def order (a b : Address) : Ordering :=
  (compare a.host.toInt b.host.toInt).then <|
    (compare a.channel.toInt b.channel.toInt).then <|
      (compare a.target.toInt b.target.toInt).then <| compare a.lun.toNat b.lun.toNat

/-- `a` comes no later than `b`. -/
def le (a b : Address) : Bool := a.order b != .gt

/-- The logical unit in eight bytes: four words of 16 bits, the lowest word first and each with its
high byte first, or a name space as 32 bits with the low byte first and then zeros. -/
def lunBytes (a : Address) : Bytes :=
  if a.isNvme then Bytes.le 4 a.lun.toNat ++ List.replicate 4 0
  else
    [0, 1, 2, 3].flatMap fun word => Bytes.be 2 (a.lun.toNat >>> (16 * word))

/-- The four numbers between colons. -/
def text (a : Address) : String :=
  (if a.isNvme then "N" else Text.integer a.host.toInt) ++ ":" ++
    Text.integer a.channel.toInt ++ ":" ++ Text.integer a.target.toInt ++ ":" ++
    Text.decimal a.lun.toNat

@[simp] theorem length_lunBytes (a : Address) : a.lunBytes.length = 8 := by
  unfold lunBytes
  split <;> simp

theorem order_eq_iff {a b : Address} : a.order b = .eq ↔ a = b := by
  obtain ⟨h, c, t, l⟩ := a
  obtain ⟨h', c', t', l'⟩ := b
  simp [order, Ordering.then_eq_eq, Int32.toInt_inj, UInt64.toNat_inj]

end Address

end BayMap.Hctl
