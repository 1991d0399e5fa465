import BayMap.Proofs.CompletePages
import BayMap.Proofs.Exchange
import BayMap.Topology.ExpanderReport
import BayMap.Topology.Inventory

/-!
# What conversations ask for

Each conversation about an expander or a controller only asks: its management frames are requests to
report or to discover, and its commands read. Nothing that it puts to a link changes what is behind
the link, whatever the link answers. Where a frame may go is a parameter (`OnlyReads`).

* `onlyReads_exchange`, `onlyReads_submit`: the two ways to put something to a link.
* `onlyReads_walk`, `onlyReads_report`: conversations with an expander, which ask it alone.
* `onlyReads_listen`: the conversation with a controller, which asks the expanders with an address.
-/

namespace BayMap

open Transport (Conversation LinkQuery)

/-! ## Requests that only ask -/

/-- The frame is a request for a function. -/
def Smp.IsRequest (function : Function) (frame : Bytes) : Prop :=
  ∃ header, FrameHeader.read? frame = some header ∧ header.frameType = requestType ∧
    header.function = function

/-- The frame is REPORT GENERAL, REPORT MANUFACTURER INFORMATION or DISCOVER. -/
def Smp.IsInquiry (frame : Bytes) : Prop :=
  IsRequest .reportGeneral frame ∨ IsRequest .reportManufacturer frame ∨ IsRequest .discover frame

/-- The command asks the driver or the controller about itself, reads a page or its header, or sends
READ BUFFER to a device with the data coming from the device. -/
def Controller.Command.Reads : Command → Prop
  | .adapterInfo | .facts => True
  | .config request =>
    request.function = configFunction ∧
      (request.action = readHeaderAction ∨ request.action = readCurrentAction)
  | .scsi request =>
    request.function = scsiFunction ∧ request.flags = readDirection ∧
      ∃ length, request.cdb = (readBufferBlock length).block 0 32
  | .targets | .smp .. => False

/-- It changes nothing: a management frame only asks, and goes to one of some targets; a command
reads. -/
def Transport.LinkQuery.OnlyReads (targets : UInt64 → Prop) : LinkQuery → Prop
  | .smp target request _ => targets target ∧ Smp.IsInquiry request
  | .command given _ => given.Reads
  | .trace .. => True

/-! ## Expanders -/

namespace Smp

section Frames

variable {targets : UInt64 → Prop} {target : UInt64} (h : targets target)

include h

/-- An exchange sends its frame, and else only shows bytes in the trace. -/
theorem onlyReads_exchange {request : Bytes} (hr : IsInquiry request) (function : Function)
    (capacity : Nat) :
    (exchange target function request capacity).Asks (LinkQuery.OnlyReads targets) := by
  rcases Nat.lt_or_ge maxBuffer capacity with hc | hc
  · unfold exchange
    rw [if_pos hc]
    trivial
  · rw [exchange_eq target function request hc]
    refine ⟨trivial, fun _ => ⟨⟨h, hr⟩, fun answer => ?_⟩⟩
    apply (asks_settle function capacity answer).mono
    rintro _ ⟨label, bytes, rfl⟩
    trivial

theorem General.onlyReads_ask : (ask target).Asks (LinkQuery.OnlyReads targets) := by
  have hr : IsInquiry request := .inl ⟨_, rfl, rfl, rfl⟩
  exact (onlyReads_exchange h hr _ _).map _

theorem Manufacturer.onlyReads_ask : (ask target).Asks (LinkQuery.OnlyReads targets) := by
  have hr : IsInquiry request := .inr (.inl ⟨_, rfl, rfl, rfl⟩)
  exact (onlyReads_exchange h hr _ _).map _

theorem PhyRecord.onlyReads_ask (phy : UInt8) (tableToTable : Bool) :
    (ask target phy tableToTable).Asks (LinkQuery.OnlyReads targets) := by
  have hr : IsInquiry (request phy) := .inr (.inr ⟨_, rfl, rfl, rfl⟩)
  exact (onlyReads_exchange h hr _ _).map _

end Frames

end Smp

namespace Topology

variable {targets : UInt64 → Prop}

theorem onlyReads_walk {target : UInt64} (h : targets target) (tableToTable : Bool)
    (asked : List UInt8) :
    (walk target tableToTable asked).Asks (LinkQuery.OnlyReads targets) := by
  induction asked with
  | nil => trivial
  | cons phy rest ih =>
    apply (Smp.PhyRecord.onlyReads_ask h phy tableToTable).bind
    intro answer
    by_cases hl : (⟨phy, answer⟩ : PhyAnswer).isLast = true
    · simp only [if_pos hl]
      trivial
    · simp only [if_neg hl]
      exact ih.map _

theorem onlyReads_report (path : String) {target : Option UInt64} (h : targets (target.getD 0)) :
    (ExpanderReport.listen path target).Asks (LinkQuery.OnlyReads targets) := by
  apply (Smp.General.onlyReads_ask h).bind
  rintro (cause | general)
  · trivial
  · exact (onlyReads_walk h _ _).map _

end Topology

/-! ## Controllers -/

namespace Controller

variable {targets : UInt64 → Prop}

/-- A command is put to the link, and nothing else. -/
theorem onlyReads_submit {command : Command} (h : command.Reads) (capacity : Nat) :
    (submit command capacity).Asks (LinkQuery.OnlyReads targets) := by
  rw [submit_eq]
  exact ⟨h, fun _ => trivial⟩

theorem onlyReads_readRecord (α : Type) [Packed α] {command : Command} (h : command.Reads) :
    (readRecord α command).Asks (LinkQuery.OnlyReads targets) :=
  (onlyReads_submit h _).map _

/-- A page is read in two steps, and neither writes it. -/
theorem onlyReads_readPage (α : Type) [Packed α] (pageType : UInt8) (form : UInt32) :
    (readPage α pageType form).Asks (LinkQuery.OnlyReads targets) := by
  have hheader : (Command.config (pageRequest readHeaderAction pageType form 0)).Reads :=
    ⟨rfl, .inl rfl⟩
  have hpage (length : UInt16) :
      (Command.config (pageRequest readCurrentAction pageType form length)).Reads := ⟨rfl, .inr rfl⟩
  apply (onlyReads_readRecord PageHeader hheader).bind
  rintro (cause | header)
  · trivial
  · show Dialogue.Asks _ (if UInt16.size ≤ Packed.size α then _ else _)
    split
    · trivial
    · exact onlyReads_readRecord α (hpage _)

theorem onlyReads_readSes (handle : UInt16) :
    (readSes handle).Asks (LinkQuery.OnlyReads targets) := by
  have hreads : (Command.scsi (scsiRequest handle (readBufferBlock (.ofNat sesLength))
      (.ofNat sesLength))).Reads := ⟨rfl, rfl, _, rfl⟩
  have hread : (scsiRead handle (readBufferBlock (.ofNat sesLength)) sesLength).Asks
      (LinkQuery.OnlyReads targets) :=
    ⟨trivial, fun _ => (onlyReads_submit hreads _).map _⟩
  exact hread.map _

end Controller

namespace Topology

variable {targets : UInt64 → Prop}

theorem onlyReads_readEnclosures (pages room : Nat) (form : UInt32) :
    (readEnclosures pages room form).Asks (LinkQuery.OnlyReads targets) := by
  induction pages generalizing room form with
  | zero => trivial
  | succ pages ih =>
    apply (Controller.onlyReads_readPage Controller.EnclosurePage _ form).bind
    rintro (cause | page)
    · trivial
    · show Dialogue.Asks _ (if page.enclosureLogicalId = 0 then _ else if _ then _ else _)
      split
      · trivial
      split
      · exact ih room _
      rcases room with _ | room
      · exact ih 0 _
      · exact (Controller.onlyReads_readSes page.sepDevHandle).bind fun _ => (ih room _).map _

variable (h : ∀ address, address ≠ 0 → targets address)

include h

/-- A page with no address ends the chain of expanders before anything is sent to its expander. -/
theorem onlyReads_readExpanders (pages : Nat) (form : UInt32) :
    (readExpanders pages form).Asks (LinkQuery.OnlyReads targets) := by
  induction pages generalizing form with
  | zero => trivial
  | succ pages ih =>
    apply (Controller.onlyReads_readPage Controller.ExpanderPage _ form).bind
    rintro (cause | page)
    · trivial
    · show Dialogue.Asks _ (if page.sasAddress = 0 then _ else _)
      split
      · trivial
      · rename_i h0
        exact (Smp.Manufacturer.onlyReads_ask (h _ h0)).bind fun _ => (ih _).map _

theorem onlyReads_listen (path : String) (maxExpanders : Nat) :
    (ControllerReport.listen path maxExpanders).Asks (LinkQuery.OnlyReads targets) := by
  have hadapter : Controller.adapterInfo.Asks (LinkQuery.OnlyReads targets) :=
    Controller.onlyReads_readRecord _ (show Controller.Command.adapterInfo.Reads from trivial)
  have hfacts : Controller.facts.Asks (LinkQuery.OnlyReads targets) :=
    (Controller.onlyReads_readRecord _ (show Controller.Command.facts.Reads from trivial)).map _
  apply hadapter.bind
  intro adapter
  apply hfacts.bind
  intro facts
  apply (onlyReads_readEnclosures _ _ _).bind
  intro enclosures
  exact (onlyReads_readExpanders h _ _).map _

end Topology

end BayMap
