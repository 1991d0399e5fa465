import BayMap.Proofs.CompletePages
import BayMap.Proofs.Exchange
import BayMap.Topology.Inventory
import Mathlib.Data.List.Chain

/-!
# Chains of pages

A controller is asked for its enclosures and its expanders page by page, and each page holds the
handle by which the next one is asked for. The handles come from the controller and may lead
anywhere, also back to a page that was read before. A chain is told here as its steps: which page
was asked for, what came, and what was asked because of it.

* `Made`, `puts_put`: inquiries one after another, and what each of them puts to a link.
* `Chain`: what leads from step to step, and where the steps end.
* `exists_enclosureSteps`, `exists_expanderSteps`: the two chains, by induction on the bound.
* `controller_page_walks_bounded`: all that is asked of a controller and what is reported of it.
-/

namespace BayMap.Topology

open Controller (EnclosurePage ExpanderPage PageHeader)
open Smp (given given_append)
open Transport (Conversation LinkQuery link)

variable {ρ α β : Type}

/-! ## Inquiries -/

/-- Something that a controller is asked for. -/
inductive Inquiry where
  /-- What the driver knows of the adapter. -/
  | adapterInfo
  /-- The facts of the controller. -/
  | facts
  /-- The page of an enclosure. -/
  | enclosurePage (form : UInt32)
  /-- The buffer of an enclosure processor. -/
  | sesBuffer (handle : UInt16)
  /-- The page of an expander. -/
  | expanderPage (form : UInt32)
  /-- Who made the expander at an address. -/
  | manufacturer (address : UInt64)
  deriving DecidableEq, Repr

namespace Inquiry

/-- What an inquiry is for. -/
@[reducible] def Result : Inquiry → Type
  | adapterInfo => Controller.AdapterInfo
  | facts => Controller.Facts
  | enclosurePage _ => EnclosurePage
  | sesBuffer _ => Vector UInt8 Controller.sesLength
  | expanderPage _ => ExpanderPage
  | manufacturer _ => Smp.Manufacturer

/-- The conversation that makes an inquiry. -/
def put : (q : Inquiry) → Conversation (Except SmpError q.Result)
  | adapterInfo => Controller.adapterInfo
  | facts => Controller.facts
  | enclosurePage form => Controller.enclosurePage form
  | sesBuffer handle => Controller.readSes handle
  | expanderPage form => Controller.expanderPage form
  | manufacturer address => Smp.Manufacturer.ask address

/-- The reading that is missed if an inquiry fails. A page that cannot be read is not missed: it is
where a chain ends. -/
def reading? : Inquiry → Option Reading
  | adapterInfo => some .adapterInfo
  | facts => some .facts
  | sesBuffer _ => some .sesBuffer
  | manufacturer _ => some .manufacturer
  | enclosurePage _ | expanderPage _ => none

end Inquiry

/-- The interface of inquiries. -/
@[reducible] def inquiries : Interface where
  Query := Inquiry
  Answer q := Except SmpError q.Result

/-- The problem that an inquiry brings, if any. -/
def problem? (path : String) : Exchanged inquiries → Option Diagnostic
  | ⟨_, .ok _⟩ => none
  | ⟨q, .error cause⟩ => q.reading?.map (.unread path · cause)

/-- Inquiries that are made one after another from some state of a responder on, each with its
result; then the exchanges over the link that they consist of, and the state they end in. -/
inductive Made (r : Responder link ρ) :
    ρ → List (Exchanged inquiries) → List (Exchanged link) → ρ → Prop
  | none (s : ρ) : Made r s [] [] s
  | put (q : Inquiry) {s s' : ρ} {asked : List (Exchanged inquiries)}
    {told : List (Exchanged link)} (rest : Made r (q.put.run r s).2 asked told s') :
    Made r s (⟨q, (q.put.run r s).1⟩ :: asked) (q.put.transcript r s ++ told) s'

theorem Made.append {r : Responder link ρ} {s s' s'' : ρ}
    {asked asked' : List (Exchanged inquiries)} {told told' : List (Exchanged link)}
    (h : Made r s asked told s') (h' : Made r s' asked' told' s'') :
    Made r s (asked ++ asked') (told ++ told') s'' := by
  induction h with
  | none s => exact h'
  | put q rest ih =>
    rw [List.append_assoc]
    exact .put q (ih h')

/-- A conversation consists of some inquiries and has a result. -/
structure Inquires (r : Responder link ρ) (s : ρ) (d : Conversation α)
    (asked : List (Exchanged inquiries)) (value : α) : Prop where
  made : Made r s asked (d.transcript r s) (d.run r s).2
  value : (d.run r s).1 = value

namespace Inquires

variable {r : Responder link ρ} {s : ρ} {d : Conversation α} {asked : List (Exchanged inquiries)}

theorem pure (value : α) : Inquires r s (pure value) [] value := ⟨.none s, rfl⟩

theorem put (q : Inquiry) {answer : Except SmpError q.Result} {s' : ρ}
    (hrun : q.put.run r s = (answer, s')) {f : Except SmpError q.Result → Conversation α}
    {value : α} (h : Inquires r s' (f answer) asked value) :
    Inquires r s (q.put >>= f) (⟨q, answer⟩ :: asked) value := by
  obtain ⟨hmade, hvalue⟩ := h
  obtain rfl : (q.put.run r s).1 = answer := congrArg Prod.fst hrun
  obtain rfl : (q.put.run r s).2 = s' := congrArg Prod.snd hrun
  refine ⟨?_, ?_⟩
  · rw [Dialogue.transcript_bind, Dialogue.run_bind]
    exact .put q hmade
  · rw [Dialogue.run_bind]
    exact hvalue

theorem bind {asked' : List (Exchanged inquiries)} {f : α → Conversation β} {x : α} {value : β}
    (h : Inquires r s d asked x) (h' : Inquires r (d.run r s).2 (f x) asked' value) :
    Inquires r s (d >>= f) (asked ++ asked') value := by
  obtain ⟨hmade, rfl⟩ := h
  refine ⟨?_, ?_⟩
  · rw [Dialogue.transcript_bind, Dialogue.run_bind]
    exact hmade.append h'.made
  · rw [Dialogue.run_bind]
    exact h'.value

theorem map {x : α} (h : Inquires r s d asked x) (f : α → β) :
    Inquires r s (d >>= fun x => Pure.pure (f x)) asked (f x) := by
  have h' := h.bind (f := fun x => Pure.pure (f x)) (.pure (f x))
  rwa [List.append_nil] at h'

end Inquires

/-! ## What an inquiry puts to a link -/

/-- A page is asked for with one command for its header and one for the page, and is not read if the
second one is not given. -/
def PutsPage (pageType : UInt8) (form : UInt32) (size : Nat) (page : Except SmpError α)
    (queries : List LinkQuery) : Prop :=
  let headerRequest := Controller.pageRequest Controller.readHeaderAction pageType form 0
  let pageRequest := Controller.pageRequest Controller.readCurrentAction pageType form (.ofNat size)
  let header := LinkQuery.command (.config headerRequest) (Packed.size PageHeader)
  queries = [header, .command (.config pageRequest) size] ∨
    queries = [header] ∧ ∃ cause, page = .error cause

/-- What an inquiry with its result puts to a link: one command or frame, and for a page two
commands, of which the second one may be missing. -/
inductive Puts : Exchanged inquiries → List LinkQuery → Prop
  | adapterInfo (info : Except SmpError Controller.AdapterInfo) :
    Puts ⟨.adapterInfo, info⟩ [.command .adapterInfo (Packed.size Controller.AdapterInfo)]
  | facts (facts : Except SmpError Controller.Facts) :
    Puts ⟨.facts, facts⟩ [.command .facts (Packed.size Controller.FactsData)]
  | enclosurePage {form : UInt32} {page : Except SmpError EnclosurePage} {queries : List LinkQuery}
    (h : PutsPage Controller.enclosurePageType form (Packed.size EnclosurePage) page queries) :
    Puts ⟨.enclosurePage form, page⟩ queries
  | sesBuffer (handle : UInt16) (ses : Except SmpError (Vector UInt8 Controller.sesLength)) :
    Puts ⟨.sesBuffer handle, ses⟩
      [.command (.scsi (Controller.scsiRequest handle (Controller.readBufferBlock 60) 60)) 60]
  | expanderPage {form : UInt32} {page : Except SmpError ExpanderPage} {queries : List LinkQuery}
    (h : PutsPage Controller.expanderPageType form (Packed.size ExpanderPage) page queries) :
    Puts ⟨.expanderPage form, page⟩ queries
  | manufacturer (address : UInt64) (manufacturer : Except SmpError Smp.Manufacturer) :
    Puts ⟨.manufacturer address, manufacturer⟩ [.smp address Smp.Manufacturer.request 60]

section Given

variable (r : Responder link ρ) (s : ρ)

theorem given_submit (command : Controller.Command) (capacity : Nat) :
    given ((Controller.submit command capacity).transcript r s) = [.command command capacity] := by
  rw [Controller.submit_eq]
  rfl

theorem given_readRecord (α : Type) [Packed α] (command : Controller.Command) :
    given ((Controller.readRecord α command).transcript r s) =
      [.command command (Packed.size α)] := by
  rw [Controller.readRecord_eq]
  rfl

theorem putsPage_readPage (α : Type) [Packed α] (pageType : UInt8) (form : UInt32)
    (h : Packed.size α < UInt16.size) :
    PutsPage pageType form (Packed.size α) ((Controller.readPage α pageType form).run r s).1
      (given ((Controller.readPage α pageType form).transcript r s)) := by
  unfold Controller.readPage
  rw [Dialogue.transcript_bind, Dialogue.run_bind, given_append, given_readRecord]
  generalize (Controller.readRecord PageHeader _).run r s = answered
  obtain ⟨cause | header, s'⟩ := answered
  · exact .inr ⟨rfl, cause, rfl⟩
  · refine .inl (congrArg (_ :: ·) ?_)
    simp only [if_neg (Nat.not_le.2 h)]
    exact given_readRecord r s' α _

theorem given_readSes (handle : UInt16) :
    given ((Controller.readSes handle).transcript r s) =
      [.command (.scsi (Controller.scsiRequest handle (Controller.readBufferBlock 60) 60)) 60] := by
  unfold Controller.readSes Controller.scsiRead
  rw [Dialogue.transcript_map, if_neg (by decide)]
  show given ((Conversation.trace _ _ >>= fun _ => _).transcript r s) = _
  rw [Dialogue.transcript_bind, given_append, Dialogue.transcript_map, given_submit]
  rfl

theorem puts_put (q : Inquiry) : Puts ⟨q, (q.put.run r s).1⟩ (given (q.put.transcript r s)) := by
  cases q with
  | adapterInfo =>
    have h := given_readRecord r s Controller.AdapterInfo .adapterInfo
    rw [Inquiry.put, Controller.adapterInfo, h]
    exact .adapterInfo _
  | facts =>
    have h := given_readRecord r s Controller.FactsData .facts
    rw [Inquiry.put, Controller.facts, Dialogue.transcript_map, h]
    exact .facts _
  | enclosurePage form => exact .enclosurePage (putsPage_readPage r s _ _ _ (by decide))
  | sesBuffer handle =>
    rw [Inquiry.put, given_readSes]
    exact .sesBuffer handle _
  | expanderPage form => exact .expanderPage (putsPage_readPage r s _ _ _ (by decide))
  | manufacturer address =>
    rw [Inquiry.put, Smp.Manufacturer.ask, Dialogue.transcript_map,
      Smp.given_exchange r s address .reportManufacturer _ (by decide)]
    exact .manufacturer address _

end Given

/-! ## Steps -/

/-- A step of a chain: a page is asked for by a form, and more may be asked because of it. -/
inductive PageStep (α β : Type) where
  /-- The page cannot be read. -/
  | unread (form : UInt32) (cause : SmpError)
  /-- The page is read, and nothing is asked because of it. -/
  | passed (form : UInt32) (page : α)
  /-- The page is read, and what is asked because of it is answered. -/
  | followed (form : UInt32) (page : α) (answer : Except SmpError β)

namespace PageStep

/-- The form by which the page is asked for. -/
def form : PageStep α β → UInt32
  | unread form _ | passed form _ | followed form _ _ => form

/-- The page, if it is read. -/
def page? : PageStep α β → Option α
  | unread .. => none
  | passed _ page | followed _ page _ => some page

/-- The page with what was asked because of it. -/
def followed? : PageStep α β → Option (α × Except SmpError β)
  | unread .. | passed .. => none
  | followed _ page answer => some (page, answer)

@[simp] theorem page?_unread (form : UInt32) (cause : SmpError) :
    (unread form cause : PageStep α β).page? = none := rfl

@[simp] theorem page?_passed (form : UInt32) (page : α) :
    (passed form page : PageStep α β).page? = some page := rfl

@[simp] theorem page?_followed (form : UInt32) (page : α) (answer : Except SmpError β) :
    (followed form page answer).page? = some page := rfl

@[simp] theorem followed?_unread (form : UInt32) (cause : SmpError) :
    (unread form cause : PageStep α β).followed? = none := rfl

@[simp] theorem followed?_passed (form : UInt32) (page : α) :
    (passed form page : PageStep α β).followed? = none := rfl

@[simp] theorem followed?_followed (form : UInt32) (page : α) (answer : Except SmpError β) :
    (followed form page answer).followed? = some (page, answer) := rfl

/-- The inquiries of a step: that for the page, and then the one that follows it, if any. -/
def asked (read : UInt32 → Except SmpError α → Exchanged inquiries)
    (follow : α → Except SmpError β → Exchanged inquiries) :
    PageStep α β → List (Exchanged inquiries)
  | unread form cause => [read form (.error cause)]
  | passed form page => [read form (.ok page)]
  | followed form page answer => [read form (.ok page), follow page answer]

end PageStep

/-- The steps of a chain of at most `limit` pages from a form on, where `next?` is the form that a
page leads to. Whether pages were read before makes no difference. -/
structure Chain (next? : α → Option UInt32) (form : UInt32) (limit : Nat)
    (steps : List (PageStep α β)) : Prop where
  bounded : steps.length ≤ limit
  start : ∀ step ∈ steps.head?, step.form = form
  /-- After the first page, each is asked for by the form that the page before it leads to. -/
  linked : steps.IsChain fun step next => step.page?.bind next? = some next.form
  /-- Before the limit, the chain ends only with a page that is not read or leads nowhere. -/
  ended : steps.length < limit → ∃ last ∈ steps.getLast?, last.page?.bind next? = none

namespace Chain

variable {next? : α → Option UInt32} {limit : Nat}

theorem nil (form : UInt32) : Chain next? form 0 ([] : List (PageStep α β)) :=
  ⟨Nat.le_refl 0, fun _ h => (nomatch h), .nil, fun h => absurd h (Nat.lt_irrefl 0)⟩

theorem stop {step : PageStep α β} {form : UInt32} (hform : step.form = form)
    (h : step.page?.bind next? = none) : Chain next? form (limit + 1) [step] :=
  ⟨Nat.le_add_left 1 limit, fun _ h => Option.some.inj h ▸ hform, .singleton step,
    fun _ => ⟨step, rfl, h⟩⟩

theorem cons {step : PageStep α β} {form next : UInt32} {steps : List (PageStep α β)}
    (hform : step.form = form) (h : step.page?.bind next? = some next)
    (rest : Chain next? next limit steps) : Chain next? form (limit + 1) (step :: steps) := by
  refine ⟨Nat.succ_le_succ rest.bounded, fun _ h => Option.some.inj h ▸ hform, ?_, fun hlt => ?_⟩
  -- The law of the first form is what links the rest to the step in front of it.
  · exact List.isChain_cons.2 ⟨fun step' hstep' => by rw [h, rest.start step' hstep'], rest.linked⟩
  · obtain ⟨last, hlast, hnone⟩ := rest.ended (Nat.lt_of_succ_lt_succ hlt)
    refine ⟨last, ?_, hnone⟩
    rw [List.getLast?_cons, hlast]
    rfl

end Chain

/-! ## Enclosures -/

/-- The form that the page of an enclosure leads to. -/
def enclosureNext? (page : EnclosurePage) : Option UInt32 :=
  if page.enclosureLogicalId = 0 then none else some page.enclosureHandle.toUInt32

/-- The page is of an enclosure with an enclosure processor. -/
def hasProcessor (page : EnclosurePage) : Bool :=
  page.enclosureLogicalId ≠ 0 && page.sepDevHandle ≠ 0

/-- A step of the chain of enclosures, which is followed by the reading of a buffer. -/
abbrev EnclosureStep := PageStep EnclosurePage (Vector UInt8 Controller.sesLength)

namespace EnclosureStep

/-- The inquiries of a step. -/
def asked : EnclosureStep → List (Exchanged inquiries) :=
  PageStep.asked (fun form page => ⟨.enclosurePage form, page⟩)
    (fun page ses => ⟨.sesBuffer page.sepDevHandle, ses⟩)

/-- What is reported of an enclosure. -/
def report? (step : EnclosureStep) : Option EnclosureReport :=
  step.followed?.map fun (page, ses) => ⟨page.enclosureLogicalId, page.sepDevHandle, ses⟩

end EnclosureStep

/-- By induction on the pages that may still be read. There is room for as many enclosures as may
still be kept, and a page for which there is none is passed. -/
theorem exists_enclosureSteps (r : Responder link ρ) (pages room : Nat) (form : UInt32) (s : ρ) :
    ∃ steps : List EnclosureStep,
      Chain enclosureNext? form pages steps ∧
      steps.filter (·.followed?.isSome) = (steps.filter (·.page?.any hasProcessor)).take room ∧
      Inquires r s (readEnclosures pages room form) (steps.flatMap (·.asked))
        (steps.filterMap (·.report?)) := by
  induction pages generalizing room form s with
  | zero => exact ⟨[], .nil form, by simp, .pure _⟩
  | succ pages ih =>
    unfold readEnclosures
    rcases hrun : (Controller.enclosurePage form).run r s with ⟨cause | page, s'⟩
    · refine ⟨[.unread form cause], .stop rfl rfl, ?_, ?_⟩
      · simp
      · exact .put (.enclosurePage form) hrun (.pure _)
    by_cases hid : page.enclosureLogicalId = 0
    · have hnext : enclosureNext? page = none := if_pos hid
      refine ⟨[.passed form page], .stop rfl hnext, ?_, .put (.enclosurePage form) hrun ?_⟩
      · simp [hasProcessor, hid]
      · simp only [if_pos hid]
        exact .pure _
    have hnext : enclosureNext? page = some page.enclosureHandle.toUInt32 := if_neg hid
    by_cases hsep : page.sepDevHandle = 0
    · obtain ⟨steps, hchain, hfollowed, hasked⟩ := ih room page.enclosureHandle.toUInt32 s'
      refine ⟨.passed form page :: steps, .cons rfl hnext hchain, ?_,
        .put (.enclosurePage form) hrun ?_⟩
      · simp [hasProcessor, hsep, hfollowed]
      · simp only [if_neg hid, if_pos hsep]
        exact hasked
    have hprocessor : hasProcessor page = true := by simp [hasProcessor, hid, hsep]
    rcases room with _ | room
    · obtain ⟨steps, hchain, hfollowed, hasked⟩ := ih 0 page.enclosureHandle.toUInt32 s'
      refine ⟨.passed form page :: steps, .cons rfl hnext hchain, ?_,
        .put (.enclosurePage form) hrun ?_⟩
      · simpa using hfollowed
      · simp only [if_neg hid, if_neg hsep]
        exact hasked
    rcases hrun' : (Controller.readSes page.sepDevHandle).run r s' with ⟨ses, s''⟩
    -- The chain goes on with the handle of the page, whether the buffer was read or not.
    obtain ⟨steps, hchain, hfollowed, hasked⟩ := ih room page.enclosureHandle.toUInt32 s''
    refine ⟨.followed form page ses :: steps, .cons rfl hnext hchain, ?_,
      .put (.enclosurePage form) hrun ?_⟩
    · rw [List.filter_cons_of_pos rfl, hfollowed]
      simp [hprocessor]
    · simp only [if_neg hid, if_neg hsep]
      exact .put (.sesBuffer page.sepDevHandle) hrun' (hasked.map _)

/-! ## Expanders -/

/-- The form that the page of an expander leads to. -/
def expanderNext? (page : ExpanderPage) : Option UInt32 :=
  if page.sasAddress = 0 then none else some page.devHandle.toUInt32

/-- A step of the chain of expanders, which is followed by the question who made the expander. -/
abbrev ExpanderStep := PageStep ExpanderPage Smp.Manufacturer

namespace ExpanderStep

/-- The inquiries of a step. -/
def asked : ExpanderStep → List (Exchanged inquiries) :=
  PageStep.asked (fun form page => ⟨.expanderPage form, page⟩)
    (fun page manufacturer => ⟨.manufacturer page.sasAddress, manufacturer⟩)

/-- What is reported of an expander. -/
def report? (step : ExpanderStep) : Option ExpanderEntry :=
  step.followed?.map fun (page, manufacturer) => ⟨page.sasAddress, page.devHandle, manufacturer⟩

end ExpanderStep

theorem exists_expanderSteps (r : Responder link ρ) (pages : Nat) (form : UInt32) (s : ρ) :
    ∃ steps : List ExpanderStep,
      Chain expanderNext? form pages steps ∧
      steps.filter (·.followed?.isSome) = steps.filter (·.page?.any (·.sasAddress ≠ 0)) ∧
      Inquires r s (readExpanders pages form) (steps.flatMap (·.asked))
        (steps.filterMap (·.report?)) := by
  induction pages generalizing form s with
  | zero => exact ⟨[], .nil form, rfl, .pure _⟩
  | succ pages ih =>
    unfold readExpanders
    rcases hrun : (Controller.expanderPage form).run r s with ⟨cause | page, s'⟩
    · refine ⟨[.unread form cause], .stop rfl rfl, rfl, ?_⟩
      exact .put (.expanderPage form) hrun (.pure _)
    by_cases haddress : page.sasAddress = 0
    · have hnext : expanderNext? page = none := if_pos haddress
      refine ⟨[.passed form page], .stop rfl hnext, ?_, .put (.expanderPage form) hrun ?_⟩
      · simp [haddress]
      · simp only [if_pos haddress]
        exact .pure _
    have hnext : expanderNext? page = some page.devHandle.toUInt32 := if_neg haddress
    rcases hrun' : (Smp.Manufacturer.ask page.sasAddress).run r s' with ⟨manufacturer, s''⟩
    obtain ⟨steps, hchain, hfollowed, hasked⟩ := ih page.devHandle.toUInt32 s''
    refine ⟨.followed form page manufacturer :: steps, .cons rfl hnext hchain, ?_,
      .put (.expanderPage form) hrun ?_⟩
    · rw [List.filter_cons_of_pos rfl, hfollowed]
      simp [haddress]
    · simp only [if_neg haddress]
      exact .put (.manufacturer page.sasAddress) hrun' (hasked.map _)

/-! ## The whole conversation -/

theorem filterMap_problem? (report : ControllerReport) (q : Inquiry) {reading : Reading}
    (hq : q.reading? = some reading) (answer : Except SmpError q.Result) :
    [(⟨q, answer⟩ : Exchanged inquiries)].filterMap (problem? report.path) =
      report.problem reading answer := by
  cases answer with
  | ok value => rfl
  | error cause =>
    have h : problem? report.path ⟨q, .error cause⟩ = some (.unread report.path reading cause) := by
      rw [problem?, hq]
      rfl
    rw [List.filterMap_cons_some h]
    rfl

/-- The problems of a chain are those of what was asked because of its pages. -/
theorem filterMap_problem?_steps (report : ControllerReport) {reading : Reading}
    {read : UInt32 → Except SmpError α → Exchanged inquiries}
    {follow : α → Except SmpError β → Exchanged inquiries}
    (hread : ∀ form page, problem? report.path (read form page) = none)
    (hfollow : ∀ page answer, [follow page answer].filterMap (problem? report.path) =
      report.problem reading answer) (steps : List (PageStep α β)) :
    (steps.flatMap (PageStep.asked read follow)).filterMap (problem? report.path) =
      (steps.filterMap (·.followed?)).flatMap fun (_, answer) => report.problem reading answer := by
  rw [List.filterMap_flatMap, List.filterMap_eq_flatMap_toList, List.flatMap_assoc]
  refine List.flatMap_congr fun step _ => ?_
  cases step with
  | unread form cause => simp [PageStep.asked, hread]
  | passed form page => simp [PageStep.asked, hread]
  | followed form page answer =>
    rw [PageStep.asked, List.filterMap_cons_none (hread form _), hfollow page answer]
    exact (List.flatMap_singleton ..).symm

theorem filterMap_problem?_enclosures (report : ControllerReport) (steps : List EnclosureStep) :
    (steps.flatMap (·.asked)).filterMap (problem? report.path) =
      (steps.filterMap (·.report?)).flatMap fun e => report.problem .sesBuffer e.ses := by
  have hread (form : UInt32) (page : Except SmpError EnclosurePage) :
      problem? report.path ⟨.enclosurePage form, page⟩ = none := by cases page <;> rfl
  have hfollow (page : EnclosurePage) (ses : Except SmpError (Vector UInt8 Controller.sesLength)) :=
    filterMap_problem? report (.sesBuffer page.sepDevHandle) rfl ses
  refine (filterMap_problem?_steps report hread hfollow steps).trans ?_
  unfold EnclosureStep.report?
  rw [← List.map_filterMap, List.flatMap_map]

theorem filterMap_problem?_expanders (report : ControllerReport) (steps : List ExpanderStep) :
    (steps.flatMap (·.asked)).filterMap (problem? report.path) =
      (steps.filterMap (·.report?)).flatMap fun e =>
        report.problem .manufacturer e.manufacturer := by
  have hread (form : UInt32) (page : Except SmpError ExpanderPage) :
      problem? report.path ⟨.expanderPage form, page⟩ = none := by cases page <;> rfl
  have hfollow (page : ExpanderPage) (manufacturer : Except SmpError Smp.Manufacturer) :=
    filterMap_problem? report (.manufacturer page.sasAddress) rfl manufacturer
  refine (filterMap_problem?_steps report hread hfollow steps).trans ?_
  unfold ExpanderStep.report?
  rw [← List.map_filterMap, List.flatMap_map]

/-- A controller is asked for its adapter and its facts, then for enclosures and then for expanders.
Both are chains of pages from the first form on, the one of at most `maxExpanders + 1` pages and the
other of at most `maxExpanders`, that go on wherever the page before leads and end early only with a
page that is not read or has no identifier or address. Each of the first `maxExpanders` enclosures
with a processor has its buffer read, and each expander is asked who made it, before the next page
is read, and these are what is reported. An inquiry that fails brings one problem and ends no chain,
but where it is for a page, it ends the chain and brings none. -/
theorem controller_page_walks_bounded (r : Responder link ρ) (st : ρ) (path : String)
    (maxExpanders : Nat) :
    let listened := ControllerReport.listen path maxExpanders
    let report := (listened.run r st).1
    (∃ (enclosures : List EnclosureStep) (expanders : List ExpanderStep),
      let asked : List (Exchanged inquiries) :=
        [⟨.adapterInfo, report.adapter⟩, ⟨.facts, report.facts⟩] ++
          enclosures.flatMap (·.asked) ++ expanders.flatMap (·.asked)
      Made r st asked (listened.transcript r st) (listened.run r st).2 ∧
      Chain enclosureNext? 0xffff (maxExpanders + 1) enclosures ∧
      enclosures.filter (·.followed?.isSome) =
        (enclosures.filter (·.page?.any hasProcessor)).take maxExpanders ∧
      report.enclosures = enclosures.filterMap (·.report?) ∧
      Chain expanderNext? 0xffff maxExpanders expanders ∧
      expanders.filter (·.followed?.isSome) = expanders.filter (·.page?.any (·.sasAddress ≠ 0)) ∧
      report.expanders = expanders.filterMap (·.report?) ∧
      report.diagnostics = asked.filterMap (problem? path)) ∧
    ∀ (q : Inquiry) (s : ρ), Puts ⟨q, (q.put.run r s).1⟩ (given (q.put.transcript r s)) := by
  intro listened report
  refine ⟨?_, fun q s => puts_put r s q⟩
  rcases hadapter : Controller.adapterInfo.run r st with ⟨adapter, s₁⟩
  rcases hfacts : Controller.facts.run r s₁ with ⟨facts, s₂⟩
  obtain ⟨enclosures, hchain, hfollowed, henclosures⟩ :=
    exists_enclosureSteps r (maxExpanders + 1) maxExpanders Controller.startForm s₂
  obtain ⟨expanders, hchain', hfollowed', hexpanders⟩ :=
    exists_expanderSteps r maxExpanders Controller.startForm
      ((readEnclosures (maxExpanders + 1) maxExpanders Controller.startForm).run r s₂).2
  have hlistened : Inquires r st listened
      (⟨.adapterInfo, adapter⟩ :: ⟨.facts, facts⟩ ::
        (enclosures.flatMap (·.asked) ++ expanders.flatMap (·.asked)))
      ⟨path, adapter, facts, enclosures.filterMap (·.report?), expanders.filterMap (·.report?)⟩ :=
    .put .adapterInfo hadapter (.put .facts hfacts (henclosures.bind (hexpanders.map _)))
  refine ⟨enclosures, expanders, ?_⟩
  have hreport : report = _ := hlistened.value
  rw [hreport]
  refine ⟨hlistened.made, hchain, hfollowed, rfl, hchain', hfollowed', rfl, ?_⟩
  set told : ControllerReport := ⟨path, adapter, facts, _, _⟩
  let first : List (Exchanged inquiries) := [⟨.adapterInfo, adapter⟩, ⟨.facts, facts⟩]
  have hfirst : first.filterMap (problem? path) =
      told.problem .adapterInfo adapter ++ told.problem .facts facts := by
    rw [← filterMap_problem? told .adapterInfo rfl, ← filterMap_problem? told .facts rfl,
      ← List.filterMap_append]
    rfl
  show _ = (first ++ _ ++ _).filterMap (problem? path)
  rw [List.filterMap_append, List.filterMap_append, hfirst, filterMap_problem?_enclosures told,
    filterMap_problem?_expanders told]
  rfl

end BayMap.Topology
