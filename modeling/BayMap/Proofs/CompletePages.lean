import BayMap.Controller.Exchange

/-!
# Configuration pages are read whole

A page takes two commands, the second of which is given only once the first has brought a whole
header. What is read then holds every byte of the page; anything else that a controller does is the
error of the first command that failed.

* `submit_eq`, `readRecord_eq`: a command is one exchange, and what comes of it.
* `recordOf_eq_ok_iff`, `recordOf_eq_error_iff`: a record is read if the whole of it was delivered.
* `readPage_whole`: a page of any structure that loses no bytes is read whole.
* `pages_read_whole`: so are the pages of enclosures and expanders.
-/

namespace BayMap.Controller

open Transport

variable {ρ : Type}

/-! ## Answers -/

/-- What the answer to a command comes to, the buffer for its data having a capacity. -/
def submitted (capacity : Nat) :
    Except TransportError CommandReply → Except SmpError (Zeroed × Nat)
  | .error cause => .error (.transport cause)
  | .ok reply =>
    if reply.status ≠ 0 then .error (.transportStatus reply.status)
    else .ok (⟨reply.data, capacity⟩, reply.length)

theorem submit_eq (command : Command) (capacity : Nat) :
    submit command capacity =
      .ask (.command command capacity) fun answer => .done (submitted capacity answer) := by
  refine congrArg (Dialogue.ask _) (funext fun answer => ?_)
  rcases answer with cause | reply
  · rfl
  · by_cases hs : reply.status ≠ 0
    · simp only [submitted, if_pos hs]
      exact if_pos hs
    · simp only [submitted, if_neg hs]
      exact if_neg hs

/-- The record that the answer to a command brings. -/
def recordOf (α : Type) [Packed α] (answer : Except TransportError CommandReply) :
    Except SmpError α :=
  ((submitted (Packed.size α) answer).bind (checked (Packed.size α))).map Packed.decode

theorem readRecord_eq (α : Type) [Packed α] (command : Command) :
    readRecord α command =
      .ask (.command command (Packed.size α)) fun answer => .done (recordOf α answer) := by
  rw [readRecord, submit_eq]
  rfl

/-- The answer is a success, and reports data of exactly `size` bytes. -/
def Delivers (size : Nat) : Except TransportError CommandReply → Prop
  | .error _ => False
  | .ok reply => reply.status = 0 ∧ reply.length = size

instance (size : Nat) : DecidablePred (Delivers size)
  | .error _ => inferInstanceAs (Decidable False)
  | .ok _ => inferInstanceAs (Decidable (_ ∧ _))

/-- The error that an answer is taken for if data of `size` bytes is expected. -/
def FailsWith (size : Nat) : Except TransportError CommandReply → SmpError → Prop
  | .error cause, e => e = .transport cause
  | .ok reply, e =>
    reply.status ≠ 0 ∧ e = .transportStatus reply.status ∨
      reply.status = 0 ∧ reply.length ≠ size ∧ e = .lengthMismatch size reply.length

section RecordOf

variable {α : Type} [Packed α] {answer : Except TransportError CommandReply}

theorem recordOf_ok (reply : CommandReply) :
    recordOf α (.ok reply) =
      if reply.status ≠ 0 then .error (.transportStatus reply.status)
      else if Packed.size α = reply.length then
        .ok (Packed.decode (reply.data.fit (Packed.size α)))
      else .error (.lengthMismatch (Packed.size α) reply.length) := by
  by_cases hs : reply.status ≠ 0
  · rw [if_pos hs, recordOf, submitted, if_pos hs]
    rfl
  · rw [if_neg hs, recordOf, submitted, if_neg hs]
    show (if Packed.size α = reply.length then _ else _ : Except SmpError Bytes).map _ = _
    split <;> rfl

theorem recordOf_eq_ok_iff {record : α} :
    recordOf α answer = .ok record ↔
      Delivers (Packed.size α) answer ∧
        ∃ reply, answer = .ok reply ∧ record = Packed.decode (reply.data.fit (Packed.size α)) := by
  rcases answer with cause | reply
  · exact ⟨fun h => (nomatch h), fun h => h.1.elim⟩
  rw [recordOf_ok]
  constructor
  · intro h
    split at h
    · cases h
    · split at h
      · rename_i hs hl
        exact ⟨⟨Decidable.not_not.1 hs, hl.symm⟩, reply, rfl, (Except.ok.inj h).symm⟩
      · cases h
  · rintro ⟨⟨hs, hl⟩, _, ⟨⟩, rfl⟩
    rw [if_neg (Decidable.not_not.2 hs), if_pos hl.symm]

theorem recordOf_eq_error_iff {e : SmpError} :
    recordOf α answer = .error e ↔ FailsWith (Packed.size α) answer e := by
  rcases answer with cause | reply
  · exact ⟨fun h => (Except.error.inj h).symm, fun h => congrArg Except.error (Eq.symm h)⟩
  rw [recordOf_ok]
  constructor
  · intro h
    split at h
    · rename_i hs
      exact .inl ⟨hs, (Except.error.inj h).symm⟩
    · rename_i hs
      split at h
      · cases h
      · rename_i hl
        exact .inr ⟨Decidable.not_not.1 hs, Ne.symm hl, (Except.error.inj h).symm⟩
  · rintro (⟨hs, rfl⟩ | ⟨hs, hl, rfl⟩)
    · rw [if_pos hs]
    · rw [if_neg (Decidable.not_not.2 hs), if_neg (Ne.symm hl)]

theorem delivers_iff : Delivers (Packed.size α) answer ↔ ∃ record, recordOf α answer = .ok record := by
  constructor
  · intro h
    obtain ⟨reply, rfl⟩ : ∃ reply, answer = .ok reply := by
      cases answer with
      | error _ => exact h.elim
      | ok reply => exact ⟨reply, rfl⟩
    exact ⟨_, recordOf_eq_ok_iff.2 ⟨h, reply, rfl, rfl⟩⟩
  · rintro ⟨record, h⟩
    exact (recordOf_eq_ok_iff.1 h).1

end RecordOf

/-! ## Pages -/

/-- What comes of a page of a structure, by the answer to the command for its header and the one to
the command for the page itself. -/
structure ComesOf (α : Type) [Packed α] (header page : Except TransportError CommandReply)
    (result : Except SmpError α) : Prop where
  /-- The page is read exactly if both answers deliver what they are expected to. -/
  read_iff : (∃ record, result = .ok record) ↔
    Delivers (Packed.size PageHeader) header ∧ Delivers (Packed.size α) page
  /-- Each field is the number at its place in what was delivered, and no byte of it is lost. -/
  whole : ∀ record, result = .ok record → ∃ reply, page = .ok reply ∧
    record = Packed.decode (reply.data.fit (Packed.size α)) ∧
    Packed.encode record = reply.data.fit (Packed.size α)
  /-- Any error is that of the first answer that does not deliver. -/
  fault : ∀ e, result = .error e ↔
    FailsWith (Packed.size PageHeader) header e ∨
      Delivers (Packed.size PageHeader) header ∧ FailsWith (Packed.size α) page e

theorem comesOf_records {α : Type} [Packed α] [CompletePacked α]
    (header page : Except TransportError CommandReply) :
    ComesOf α header page ((recordOf PageHeader header).bind fun _ => recordOf α page) where
  read_iff := by
    rw [delivers_iff, delivers_iff]
    cases recordOf PageHeader header <;> simp [Except.bind]
  whole record hrecord := by
    have hpage : recordOf α page = .ok record := by
      cases hheader : recordOf PageHeader header with
      | error e => simp [hheader, Except.bind] at hrecord
      | ok _ => simpa [hheader, Except.bind] using hrecord
    obtain ⟨-, reply, rfl, rfl⟩ := recordOf_eq_ok_iff.1 hpage
    exact ⟨reply, rfl, rfl, CompletePacked.encode_decode (Bytes.length_fit ..)⟩
  fault e := by
    rw [delivers_iff, ← recordOf_eq_error_iff, ← recordOf_eq_error_iff]
    cases recordOf PageHeader header <;> simp [Except.bind]

/-- A page of a structure is read with a command for its header and one for the page. The first
request names the type and the form, and the second one differs from it in the action and the length
alone; it is made exactly if the answer to the first one delivers a header. -/
def ReadsWholePage (α : Type) [Packed α] (pageType : UInt8) (form : UInt32)
    (r : Responder link ρ) (st : ρ) : Prop :=
  let headerRequest : ConfigRequest :=
    { (Packed.decode [] : ConfigRequest) with
      function := configFunction
      action := readHeaderAction
      pageType
      pageAddress := form
      pageLength := 0 }
  let pageRequest : ConfigRequest :=
    { headerRequest with
      action := readCurrentAction
      pageLength := .ofNat (Packed.size α) }
  let first : LinkQuery := .command (.config headerRequest) 8
  let second : LinkQuery := .command (.config pageRequest) (Packed.size α)
  let header := (r first st).1
  let page := (r second (r first st).2).1
  (readPage α pageType form).transcript r st =
      (if Delivers 8 header then [⟨first, header⟩, ⟨second, page⟩] else [⟨first, header⟩]) ∧
    ComesOf α header page ((readPage α pageType form).run r st).1

theorem readPage_whole (α : Type) [Packed α] [CompletePacked α]
    (hsize : Packed.size α < UInt16.size)
    (pageType : UInt8) (form : UInt32) (r : Responder link ρ) (st : ρ) :
    ReadsWholePage α pageType form r st := by
  unfold ReadsWholePage
  intro headerRequest pageRequest first second header page
  have hcomes : ComesOf α header page _ := comesOf_records header page
  have hdelivers : Delivers 8 header ↔ ∃ record, recordOf PageHeader header = .ok record :=
    @delivers_iff PageHeader _ header
  unfold readPage
  rw [readRecord_eq, readRecord_eq, if_neg (Nat.not_le.2 hsize), Dialogue.ask_bind,
    Dialogue.transcript, Dialogue.run]
  -- The record of the header is named, so that what follows it can be read off.
  have hrecord : recordOf PageHeader (r (.command (.config (Controller.pageRequest readHeaderAction
      pageType form 0)) (Packed.size PageHeader)) st).1 = recordOf PageHeader header := rfl
  simp only [Dialogue.done_bind, hrecord]
  cases hheader : recordOf PageHeader header with
  | error e =>
    have hnot : ¬Delivers 8 header := fun h => by
      obtain ⟨record, h⟩ := hdelivers.1 h
      rw [hheader] at h
      cases h
    rw [hheader] at hcomes
    rw [if_neg hnot]
    exact ⟨rfl, hcomes⟩
  | ok record =>
    rw [hheader] at hcomes
    rw [if_pos (hdelivers.2 ⟨record, hheader⟩)]
    exact ⟨rfl, hcomes⟩

/-- The pages of enclosures and expanders are read whole. -/
theorem pages_read_whole (pageType : UInt8) (form : UInt32) (r : Responder link ρ) (st : ρ) :
    ReadsWholePage EnclosurePage pageType form r st ∧
      ReadsWholePage ExpanderPage pageType form r st :=
  ⟨readPage_whole EnclosurePage (by decide) pageType form r st,
    readPage_whole ExpanderPage (by decide) pageType form r st⟩

end BayMap.Controller
