import Mathlib
import Navi.Evolution.ApplyCalls
import Navi.Evolution.RollbackLaws

/-!
# What the status of a proposal tells

A call claims the proposal before it writes the candidate, and another call that finds it applying
settles the status by what it reads of the target. The status tells what happened where no call
judges the target while the candidate may still be written.
-/

namespace Navi.Evolution

open Navi.Base

variable {τ : Type}

/-- A call that has the claim and has not written the candidate. -/
def ApplyCall.mayWrite : ApplyCall → Bool
  | .claimed | .reread _ | .recorded _ => true
  | _ => false

/-- The event whose activation a call is to start. -/
def ApplyCall.activates : ApplyCall → Option String
  | .activating eventId => some eventId
  | _ => none

/-- When no call is in progress, the candidate of a failed proposal was not written, and that of an
applied one was written once and its activation started. -/
structure StatusTells (s : ApplyRun τ) : Prop where
  failed : s.calls = [] → s.proposal.status = .applyFailed → s.writes = 0
  applied : s.calls = [] → s.proposal.status = .applied →
    s.writes = 1 ∧ s.proposal.appliedEventId ∈ s.activations

/-- No call reads a target to judge it while the candidate may still be written, the target then
does not read as the baseline if the candidate was written, nor as the candidate if it was not, and
no call dies that alone is to start an activation. -/
def JudgedInTime (port : TargetPort τ) (s : ApplyRun τ) : ApplyLabel → Prop
  | .enter => True
  | .step index now _ _ =>
      s.calls[index]? = some .reconciling →
        (∀ call ∈ s.calls, call.mayWrite = false)
          ∧ (s.writes = 0 → s.proposal.before = s.proposal.after → s.events = [])
          ∧ ∀ found ∈ port.read s.target now, s.writes ≠ 0 → found.2 = s.proposal.before →
            s.proposal.before = s.proposal.after
  | .crash index =>
      ∀ eventId ∈ (s.calls[index]?).bind ApplyCall.activates,
        eventId ∈ s.activations ∨ .activating eventId ∈ s.calls.eraseIdx index

instance decidableJudgedInTime (port : TargetPort τ) (s : ApplyRun τ) :
    (label : ApplyLabel) → Decidable (JudgedInTime port s label)
  | .enter => inferInstanceAs (Decidable True)
  | .step index now _ _ => inferInstanceAs (Decidable (s.calls[index]? = some .reconciling →
      (∀ call ∈ s.calls, call.mayWrite = false)
        ∧ (s.writes = 0 → s.proposal.before = s.proposal.after → s.events = [])
        ∧ ∀ found ∈ port.read s.target now, s.writes ≠ 0 → found.2 = s.proposal.before →
          s.proposal.before = s.proposal.after))
  | .crash index => inferInstanceAs (Decidable (∀ eventId ∈
      (s.calls[index]?).bind ApplyCall.activates,
        eventId ∈ s.activations ∨ .activating eventId ∈ s.calls.eraseIdx index))

/-! ## The invariant -/

/-- The target reads as this text from now on. -/
def TargetPort.Reads (port : TargetPort τ) (target : τ) (text : String) : Prop :=
  ∀ now, ∃ left, port.read target now = some (left, text)

/-- How often the candidate was written or may still be. -/
def ApplyRun.due (s : ApplyRun τ) : Nat := s.calls.countP ApplyCall.mayWrite + s.writes

def Stands (port : TargetPort τ) (s : ApplyRun τ) : ApplyCall → Prop
  | .opened => True
  | .inspected => s.writes = 0 → port.Reads s.target s.proposal.before
  | .claimed | .reread _ | .reconciling | .doubting => s.proposal.status ≠ .proposed
  | .recorded _ => s.proposal.status ≠ .proposed ∧ s.events ≠ []
  | .written _ | .accepting _ => s.writes = 1
  | .failing => s.proposal.status ≠ .proposed ∧ s.due = 0
  | .judging current =>
      s.proposal.status ≠ .proposed ∧ s.calls.countP ApplyCall.mayWrite = 0
        ∧ (s.writes = 0 → current = s.proposal.before
          ∧ (s.proposal.before = s.proposal.after → s.events = []))
        ∧ (s.writes ≠ 0 → current = s.proposal.before → s.proposal.before = s.proposal.after)
  | .activating eventId =>
      s.proposal.status = .applied ∧ s.proposal.appliedEventId = eventId

/-- The candidate is written at most once, not before the claim and not where the apply has failed,
and where the proposal is applied its activation is started or about to be. -/
structure Settling (port : TargetPort τ) (s : ApplyRun τ) : Prop where
  once : s.due ≤ 1
  proposed : s.proposal.status = .proposed → s.due = 0
  failed : s.proposal.status = .applyFailed → s.due = 0
  applied : s.proposal.status = .applied → s.writes = 1
    ∧ (s.proposal.appliedEventId ∈ s.activations
      ∨ .activating s.proposal.appliedEventId ∈ s.calls)
  events : s.writes ≠ 0 → s.events ≠ []
  reads : s.proposal.status ≠ .proposed → s.writes = 0 → port.Reads s.target s.proposal.before
  calls : ∀ call ∈ s.calls, Stands port s call

section

variable {port : TargetPort τ} {s s' : ApplyRun τ} {label : ApplyLabel}

theorem Settling.statusTells (h : Settling port s) : StatusTells s where
  failed _ hfailed := by
    have hdue := h.failed hfailed
    unfold ApplyRun.due at hdue
    omega
  applied hnone happlied := by
    obtain ⟨hwrites, hstarted⟩ := h.applied happlied
    rw [hnone] at hstarted
    exact ⟨hwrites, hstarted.resolve_right List.not_mem_nil⟩

theorem settling_start (proposal : EvolutionProposal) (target : τ) :
    Settling port (ApplyRun.start proposal target) where
  once := Nat.zero_le 1
  proposed _ := rfl
  failed h := nomatch h
  applied h := nomatch h
  events h := absurd rfl h
  reads h := absurd rfl h
  calls := List.forall_mem_nil _

theorem reads_of_read {target left : τ} {now : Time} {text : String}
    (h : port.read target now = some (left, text)) : port.Reads left text :=
  port.read_again target now left text h

theorem TargetPort.Reads.again {target left : τ} {now : Time} {text current : String}
    (h : port.Reads target text) (hread : port.read target now = some (left, current)) :
    current = text ∧ port.Reads left text := by
  obtain ⟨left', hleft⟩ := h now
  obtain ⟨rfl, rfl⟩ := Prod.mk.inj (Option.some.inj (hread.symm.trans hleft))
  exact ⟨rfl, reads_of_read hread⟩

theorem stands_of {call : ApplyCall} (h : Stands port s call)
    (hbefore : s'.proposal.before = s.proposal.before)
    (hafter : s'.proposal.after = s.proposal.after)
    (hstatus : s.proposal.status ≠ .proposed → s'.proposal.status ≠ .proposed)
    (happlied : s.proposal.status = .applied → s'.proposal = s.proposal)
    (hwrites : s'.writes = s.writes)
    (hcalls : s'.calls.countP ApplyCall.mayWrite ≤ s.calls.countP ApplyCall.mayWrite)
    (hevents : s'.events = s.events
      ∨ s'.events ≠ [] ∧ s.calls.countP ApplyCall.mayWrite ≠ 0)
    (hreads : port.Reads s.target s.proposal.before → port.Reads s'.target s.proposal.before) :
    Stands port s' call := by
  cases call with
  | opened => trivial
  | inspected =>
      intro hnone
      rw [hbefore]
      exact hreads (h (hwrites ▸ hnone))
  | claimed => exact hstatus h
  | reread current => exact hstatus h
  | reconciling => exact hstatus h
  | doubting => exact hstatus h
  | recorded eventId =>
      refine ⟨hstatus h.1, ?_⟩
      rcases hevents with hsame | ⟨hsome, -⟩
      · exact hsame ▸ h.2
      · exact hsome
  | written eventId => exact hwrites.trans h
  | accepting eventId => exact hwrites.trans h
  | failing =>
      refine ⟨hstatus h.1, ?_⟩
      have hdue := h.2
      unfold ApplyRun.due at hdue ⊢
      omega
  | judging current =>
      obtain ⟨hclaimed, hnone, hunwritten, hwritten⟩ := h
      have hsame : s'.events = s.events := hevents.resolve_right fun hsome => hsome.2 hnone
      refine ⟨hstatus hclaimed, by omega, ?_, ?_⟩
      · rw [hwrites, hbefore, hafter, hsame]
        exact hunwritten
      · rw [hwrites, hbefore, hafter]
        exact hwritten
  | activating eventId =>
      show s'.proposal.status = .applied ∧ s'.proposal.appliedEventId = eventId
      rw [happlied h.1]
      exact h

theorem settling_same (h : Settling port s) (hproposal : s'.proposal = s.proposal)
    (hwrites : s'.writes = s.writes)
    (hcalls : s'.calls.countP ApplyCall.mayWrite ≤ s.calls.countP ApplyCall.mayWrite)
    (hevents : s'.events = s.events
      ∨ s'.events ≠ [] ∧ s.calls.countP ApplyCall.mayWrite ≠ 0)
    (hreads : port.Reads s.target s.proposal.before → port.Reads s'.target s.proposal.before)
    (hkept : ∀ call ∈ s'.calls, call ∈ s.calls ∨ Stands port s' call)
    (hstarted : s.proposal.status = .applied →
      s.proposal.appliedEventId ∈ s.activations
        ∨ .activating s.proposal.appliedEventId ∈ s.calls →
      s.proposal.appliedEventId ∈ s'.activations
        ∨ .activating s.proposal.appliedEventId ∈ s'.calls) :
    Settling port s' := by
  have hdue : s'.due ≤ s.due := by
    unfold ApplyRun.due
    omega
  refine ⟨le_trans hdue h.once, ?_, ?_, ?_, ?_, ?_, ?_⟩
  · intro hproposed
    have hzero := h.proposed (hproposal ▸ hproposed)
    omega
  · intro hfailed
    have hzero := h.failed (hproposal ▸ hfailed)
    omega
  · intro happlied
    rw [hproposal] at happlied ⊢
    obtain ⟨hone, hstart⟩ := h.applied happlied
    exact ⟨hwrites.trans hone, hstarted happlied hstart⟩
  · intro hwritten
    rcases hevents with hsame | ⟨hsome, -⟩
    · exact hsame ▸ h.events (hwrites ▸ hwritten)
    · exact hsome
  · intro hstatus hnone
    rw [hproposal] at hstatus ⊢
    exact hreads (h.reads hstatus (hwrites ▸ hnone))
  · intro call hcall
    rcases hkept call hcall with hold | hnew
    · exact stands_of (h.calls call hold) (by rw [hproposal]) (by rw [hproposal])
        (fun hstatus => by rwa [hproposal]) (fun _ => hproposal) hwrites hcalls hevents hreads
    · exact hnew

theorem calls_perm {index : Nat} {call : ApplyCall} (hcall : s.calls[index]? = some call) :
    s.calls.Perm (call :: s.calls.eraseIdx index) := by
  obtain ⟨hlt, rfl⟩ := List.getElem?_eq_some_iff.mp hcall
  exact (List.getElem_cons_eraseIdx_perm hlt).symm

theorem countP_calls {index : Nat} {call : ApplyCall} (hcall : s.calls[index]? = some call) :
    s.calls.countP ApplyCall.mayWrite
      = (s.calls.eraseIdx index).countP ApplyCall.mayWrite + if call.mayWrite then 1 else 0 := by
  rw [(calls_perm hcall).countP_eq, List.countP_cons]

theorem settling_end {index : Nat} {call : ApplyCall} {left : τ} (h : Settling port s)
    (hcall : s.calls[index]? = some call)
    (hreads : port.Reads s.target s.proposal.before → port.Reads left s.proposal.before)
    (hstarted : ∀ eventId, call = .activating eventId →
      eventId ∈ s.activations ∨ .activating eventId ∈ s.calls.eraseIdx index) :
    Settling port { s with target := left, calls := s.calls.eraseIdx index } := by
  refine settling_same h rfl rfl ?_ (.inl rfl) hreads
    (fun other hother => .inl (List.mem_of_mem_eraseIdx hother)) ?_
  · rw [countP_calls hcall]
    exact Nat.le_add_right _ _
  · rintro - (hdone | hwaits)
    · exact .inl hdone
    · rcases List.mem_cons.mp ((calls_perm hcall).mem_iff.mp hwaits) with hself | hother
      · exact hstarted _ hself.symm
      · exact .inr hother

theorem settling_go {index : Nat} {call next : ApplyCall} {left : τ} (h : Settling port s)
    (hcall : s.calls[index]? = some call)
    (hreads : port.Reads s.target s.proposal.before → port.Reads left s.proposal.before)
    (hmay : next.mayWrite = true → call.mayWrite = true)
    (hnot : ∀ eventId, call ≠ .activating eventId)
    (hstands :
      Stands port { s with target := left, calls := next :: s.calls.eraseIdx index } next) :
    Settling port { s with target := left, calls := next :: s.calls.eraseIdx index } := by
  refine settling_same h rfl rfl ?_ (.inl rfl) hreads ?_ ?_
  · rw [countP_calls hcall, List.countP_cons]
    by_cases hnext : next.mayWrite = true
    · rw [if_pos hnext, if_pos (hmay hnext)]
    · rw [if_neg hnext]
      omega
  · intro other hother
    rcases List.mem_cons.mp hother with rfl | hold
    · exact .inr hstands
    · exact .inl (List.mem_of_mem_eraseIdx hold)
  · rintro - (hdone | hwaits)
    · exact .inl hdone
    · rcases List.mem_cons.mp ((calls_perm hcall).mem_iff.mp hwaits) with hself | hother
      · exact absurd hself.symm (hnot _)
      · exact .inr (List.mem_cons_of_mem _ hother)

theorem settling_claim {index : Nat} (h : Settling port s)
    (hcall : s.calls[index]? = some .inspected) (hproposed : s.proposal.status = .proposed) :
    Settling port
      { s with proposal := s.proposal.claimed, calls := .claimed :: s.calls.eraseIdx index } := by
  have hdue := h.proposed hproposed
  have hcount := countP_calls hcall
  unfold ApplyRun.due at hdue
  have hnone : s.writes = 0 := by omega
  have hreads : port.Reads s.target s.proposal.before :=
    h.calls _ (List.mem_of_getElem? hcall) hnone
  refine ⟨?_, nofun, nofun, nofun, fun hwritten => absurd hnone hwritten, fun _ _ => hreads, ?_⟩
  · show List.countP _ (_ :: _) + s.writes ≤ 1
    rw [List.countP_cons]
    simp only [ApplyCall.mayWrite, if_true]
    omega
  · intro call hmem
    rcases List.mem_cons.mp hmem with rfl | hold
    · exact nofun
    · have hstands := h.calls call (List.mem_of_mem_eraseIdx hold)
      cases call with
      | opened => trivial
      | inspected => exact fun _ => hreads
      | claimed => exact nofun
      | reread current => exact nofun
      | reconciling => exact nofun
      | doubting => exact nofun
      | recorded eventId => exact absurd hproposed hstands.1
      | written eventId => exact absurd (hnone.symm.trans hstands) (by decide)
      | accepting eventId => exact absurd (hnone.symm.trans hstands) (by decide)
      | failing => exact absurd hproposed hstands.1
      | judging current => exact absurd hproposed hstands.1
      | activating eventId => exact nomatch hproposed.symm.trans hstands.1

theorem settling_write {index : Nat} {eventId : String} {left : τ} (h : Settling port s)
    (hcall : s.calls[index]? = some (.recorded eventId)) :
    Settling port
      { s with
        target := left
        writes := s.writes + 1
        calls := .written eventId :: s.calls.eraseIdx index } := by
  have honce := h.once
  have hcount := countP_calls hcall
  simp only [ApplyCall.mayWrite, if_true] at hcount
  unfold ApplyRun.due at honce
  have hnone : s.writes = 0 := by omega
  have hothers : (s.calls.eraseIdx index).countP ApplyCall.mayWrite = 0 := by omega
  have hsome : s.calls.countP ApplyCall.mayWrite ≠ 0 := by omega
  have hdue : s.due ≠ 0 := by
    unfold ApplyRun.due
    omega
  obtain ⟨hstatus, hevents⟩ := h.calls _ (List.mem_of_getElem? hcall)
  refine ⟨?_, fun hproposed => absurd hproposed hstatus,
    fun hfailed => absurd (h.failed hfailed) hdue, fun happlied => ?_, fun _ => hevents,
    fun _ hzero => absurd hzero (Nat.succ_ne_zero _), ?_⟩
  · show List.countP _ (_ :: _) + (s.writes + 1) ≤ 1
    rw [List.countP_cons, hothers, hnone]
    simp [ApplyCall.mayWrite]
  · have hone := (h.applied happlied).1
    omega
  · intro call hmem
    rcases List.mem_cons.mp hmem with rfl | hold
    · show s.writes + 1 = 1
      rw [hnone]
    · have hstands := h.calls call (List.mem_of_mem_eraseIdx hold)
      cases call with
      | opened => trivial
      | inspected => exact fun hzero => absurd hzero (Nat.succ_ne_zero _)
      | claimed => exact hstands
      | reread current => exact hstands
      | reconciling => exact hstands
      | doubting => exact hstands
      | recorded other => exact hstands
      | written other => exact absurd (hnone.symm.trans hstands) (by decide)
      | accepting other => exact absurd (hnone.symm.trans hstands) (by decide)
      | failing => exact absurd hstands.2 hdue
      | judging current => exact absurd hstands.2.1 hsome
      | activating other => exact hstands

theorem settling_markApplied {index : Nat} {call : ApplyCall} {eventId : String} {now : Time}
    (h : Settling port s) (hcall : s.calls[index]? = some call) (hone : s.writes = 1)
    (happlying : s.proposal.status = .applying) :
    Settling port
      { s with
        proposal := s.proposal.markApplied eventId now
        calls := .activating eventId :: s.calls.eraseIdx index } := by
  have honce := h.once
  have hcount := countP_calls hcall
  unfold ApplyRun.due at honce
  have hothers : (s.calls.eraseIdx index).countP ApplyCall.mayWrite = 0 := by omega
  have hnext : List.countP ApplyCall.mayWrite (.activating eventId :: s.calls.eraseIdx index)
      = 0 := by
    rw [List.countP_cons, hothers]
    rfl
  refine ⟨?_, nofun, nofun, fun _ => ⟨hone, .inr List.mem_cons_self⟩, h.events,
    fun _ hzero => absurd (hone.symm.trans hzero) (by decide), ?_⟩
  · show List.countP _ (_ :: _) + s.writes ≤ 1
    rw [hnext, hone]
  · intro other hmem
    rcases List.mem_cons.mp hmem with rfl | hold
    · exact ⟨rfl, rfl⟩
    · refine stands_of (h.calls other (List.mem_of_mem_eraseIdx hold)) rfl rfl (fun _ => nofun)
        (fun happlied => nomatch happlying.symm.trans happlied) rfl ?_ (.inl rfl)
        fun hreads => hreads
      rw [hnext]
      exact Nat.zero_le _

theorem settling_mark {index : Nat} {call : ApplyCall}
    {set : EvolutionProposal → EvolutionProposal} (h : Settling port s)
    (hcall : s.calls[index]? = some call) (hnot : ∀ eventId, call ≠ .activating eventId)
    (hbefore : (set s.proposal).before = s.proposal.before)
    (hafter : (set s.proposal).after = s.proposal.after)
    (hset : (set s.proposal).status = .applyFailed ∧ s.due = 0
      ∨ (set s.proposal).status = .applyUncertain) :
    Settling port
      { s with proposal := whileApplying set s.proposal, calls := s.calls.eraseIdx index } := by
  unfold whileApplying
  split
  next happlying =>
    have hcount := countP_calls hcall
    have hcalls : (s.calls.eraseIdx index).countP ApplyCall.mayWrite
        ≤ s.calls.countP ApplyCall.mayWrite := by omega
    have hstatus : (set s.proposal).status ≠ .proposed ∧ (set s.proposal).status ≠ .applied := by
      rcases hset with ⟨hfailed, -⟩ | huncertain
      · rw [hfailed]
        exact ⟨nofun, nofun⟩
      · rw [huncertain]
        exact ⟨nofun, nofun⟩
    refine ⟨?_, fun hproposed => absurd hproposed hstatus.1, fun hfailed => ?_,
      fun happlied => absurd happlied hstatus.2, h.events, fun _ hnone => ?_, ?_⟩
    · exact le_trans (Nat.add_le_add_right hcalls _) h.once
    · rcases hset with ⟨-, hdue⟩ | huncertain
      · exact Nat.le_zero.mp (hdue ▸ Nat.add_le_add_right hcalls _)
      · exact nomatch hfailed.symm.trans huncertain
    · rw [hbefore]
      exact h.reads (by rw [happlying]; exact nofun) hnone
    · intro other hold
      exact stands_of (h.calls other (List.mem_of_mem_eraseIdx hold)) hbefore hafter
        (fun _ => hstatus.1) (fun happlied => nomatch happlying.symm.trans happlied) rfl hcalls
        (.inl rfl) fun hreads => hreads
  next =>
    exact settling_end h hcall (fun hreads => hreads) fun eventId hself =>
      absurd hself (hnot eventId)

theorem stands_judged {index : Nat} {current : String} (h : Settling port s)
    (hcall : s.calls[index]? = some (.judging current)) :
    Stands port
      { s with
        calls := ApplyRun.judged s.proposal (applyEventForProposal s.events) current
          :: s.calls.eraseIdx index }
      (ApplyRun.judged s.proposal (applyEventForProposal s.events) current)
      ∧ (ApplyRun.judged s.proposal (applyEventForProposal s.events) current).mayWrite = false := by
  obtain ⟨hstatus, hnone, hunwritten, hwritten⟩ := h.calls _ (List.mem_of_getElem? hcall)
  have hcount := countP_calls hcall
  have honce := h.once
  unfold ApplyRun.due at honce
  have hfound : s.events ≠ [] → (applyEventForProposal s.events).isSome = true := by
    intro hsome
    unfold applyEventForProposal
    rw [List.isSome_head?]
    intro hempty
    have hlength := congrArg List.length hempty
    rw [List.length_insertionSort] at hlength
    exact hsome (List.length_eq_zero_iff.mp hlength)
  have hempty : s.events = [] → (applyEventForProposal s.events).isSome = false := by
    intro hempty
    rw [hempty]
    rfl
  unfold ApplyRun.judged reconcileApplying
  by_cases happlied : current = s.proposal.after ∧ (applyEventForProposal s.events).isSome = true
  · rw [if_pos happlied]
    refine ⟨?_, rfl⟩
    show s.writes = 1
    by_contra hnot
    obtain ⟨hbefore, hevents⟩ := hunwritten (by omega)
    rw [hempty (hevents (hbefore.symm.trans happlied.1))] at happlied
    exact nomatch happlied.2
  · rw [if_neg happlied]
    by_cases hbefore : current = s.proposal.before
    · rw [if_pos hbefore]
      refine ⟨⟨hstatus, ?_⟩, rfl⟩
      have hzero : s.writes = 0 := by
        by_contra hsome
        exact happlied ⟨hbefore.trans (hwritten hsome hbefore), hfound (h.events hsome)⟩
      show List.countP _ (_ :: _) + s.writes = 0
      rw [List.countP_cons, hzero]
      simp only [ApplyCall.mayWrite, Bool.false_eq_true, if_false]
      omega
    · rw [if_neg hbefore]
      exact ⟨hstatus, rfl⟩

theorem settling_advance {index : Nat} {call : ApplyCall} {now : Time} {newId : String}
    {raises : Bool} (h : Settling port s)
    (hjudged : JudgedInTime port s (.step index now newId raises))
    (hcall : s.calls[index]? = some call) :
    Settling port (s.advance port (s.calls.eraseIdx index) now newId raises call) := by
  have hstands := h.calls call (List.mem_of_getElem? hcall)
  have hcount := countP_calls hcall
  have honce := h.once
  unfold ApplyRun.due at honce
  have hend : (∀ eventId, call ≠ .activating eventId) →
      Settling port { s with calls := s.calls.eraseIdx index } := fun hnot =>
    settling_end h hcall (fun hreads => hreads) fun eventId hself => absurd hself (hnot eventId)
  have hagain : ∀ left current, port.read s.target now = some (left, current) →
      port.Reads s.target s.proposal.before → port.Reads left s.proposal.before :=
    fun left current hread hreads => (TargetPort.Reads.again hreads hread).2
  cases call with
  | opened =>
      simp only [ApplyRun.advance]
      cases hread : port.read s.target now with
      | none => exact hend nofun
      | some found =>
          obtain ⟨left, current⟩ := found
          dsimp only
          split
          next hsame =>
            refine settling_go h hcall (hagain left current hread) nofun nofun
              fun _ => ?_
            exact hsame.1 ▸ reads_of_read hread
          next => exact settling_end h hcall (hagain left current hread) nofun
  | inspected =>
      simp only [ApplyRun.advance]
      split
      next hproposed => exact settling_claim h hcall hproposed
      next => exact hend nofun
  | claimed =>
      simp only [ApplyCall.mayWrite, if_true] at hcount
      have hreads := h.reads hstands (by omega)
      simp only [ApplyRun.advance]
      cases hread : port.read s.target now with
      | none => exact hend nofun
      | some found =>
          obtain ⟨left, current⟩ := found
          dsimp only
          -- nothing was written since the baseline was read
          rw [if_pos (TargetPort.Reads.again hreads hread).1]
          exact settling_go h hcall (hagain left current hread) (fun _ => rfl) nofun hstands
  | reread current =>
      simp only [ApplyCall.mayWrite, if_true] at hcount
      simp only [ApplyRun.advance]
      cases hsnapshot : port.snapshot s.target current with
      | none => exact hend nofun
      | some rollbackState =>
          dsimp only
          have hsome : s.events ++ [⟨newId, now, rollbackState⟩] ≠ [] := by simp
          refine settling_same h rfl rfl ?_ (.inr ⟨hsome, by omega⟩) (fun hreads => hreads) ?_ ?_
          · show List.countP _ (_ :: _) ≤ _
            rw [List.countP_cons]
            simp only [ApplyCall.mayWrite, if_true]
            omega
          · intro other hother
            rcases List.mem_cons.mp hother with rfl | hold
            · exact .inr ⟨hstands, hsome⟩
            · exact .inl (List.mem_of_mem_eraseIdx hold)
          · rintro - (hdone | hwaits)
            · exact .inl hdone
            · rcases List.mem_cons.mp ((calls_perm hcall).mem_iff.mp hwaits) with hself | hold
              · exact nomatch hself
              · exact .inr (List.mem_cons_of_mem _ hold)
  | recorded eventId =>
      simp only [ApplyCall.mayWrite, if_true] at hcount
      simp only [ApplyRun.advance]
      split
      next left _ => exact settling_write h hcall
      next =>
        refine settling_go h hcall (fun hreads => hreads) nofun nofun ⟨hstands.1, ?_⟩
        show List.countP _ (_ :: _) + s.writes = 0
        rw [List.countP_cons]
        simp only [ApplyCall.mayWrite, Bool.false_eq_true, if_false]
        omega
  | written eventId =>
      simp only [ApplyRun.advance]
      split
      next happlying => exact settling_markApplied h hcall hstands happlying
      next => exact hend nofun
  | accepting eventId =>
      simp only [ApplyRun.advance]
      split
      next happlying => exact settling_markApplied h hcall hstands happlying
      next => exact hend nofun
  | failing => exact settling_mark h hcall nofun rfl rfl (.inl ⟨rfl, hstands.2⟩)
  | reconciling =>
      obtain ⟨hnone, hunwritten, hwritten⟩ := hjudged hcall
      have hzero : s.calls.countP ApplyCall.mayWrite = 0 := by
        refine List.countP_eq_zero.mpr fun other hother => ?_
        rw [hnone other hother]
        exact nofun
      simp only [ApplyRun.advance]
      cases hread : port.read s.target now with
      | none => exact hend nofun
      | some found =>
          obtain ⟨left, current⟩ := found
          refine settling_go h hcall (hagain left current hread) nofun nofun
            ⟨hstands, ?_, ?_, ?_⟩
          · show List.countP _ (_ :: _) = 0
            rw [List.countP_cons]
            simp only [ApplyCall.mayWrite, Bool.false_eq_true, if_false]
            omega
          · intro hnot
            exact ⟨(TargetPort.Reads.again (h.reads hstands hnot) hread).1, hunwritten hnot⟩
          · intro hsome hbefore
            exact hwritten (left, current) hread hsome hbefore
  | judging current =>
      obtain ⟨hnext, hmay⟩ := stands_judged h hcall
      simp only [ApplyRun.advance]
      refine settling_go h hcall (fun hreads => hreads) (fun hyes => ?_) nofun hnext
      exact nomatch hmay.symm.trans hyes
  | doubting => exact settling_mark h hcall nofun rfl rfl (.inr rfl)
  | activating eventId =>
      have hstarted : eventId ∈ ApplyRun.startActivation s.activations eventId := by
        unfold ApplyRun.startActivation
        split
        · assumption
        · exact List.mem_append_right _ (List.mem_singleton_self _)
      have hkeep : s.activations ⊆ ApplyRun.startActivation s.activations eventId := by
        unfold ApplyRun.startActivation
        split
        · exact List.Subset.refl _
        · exact List.subset_append_left _ _
      simp only [ApplyRun.advance]
      refine settling_same h rfl rfl ?_ (.inl rfl) (fun hreads => hreads)
        (fun other hother => .inl (List.mem_of_mem_eraseIdx hother)) ?_
      · exact hcount ▸ Nat.le_add_right _ _
      · rintro - (hdone | hwaits)
        · exact .inl (hkeep hdone)
        · rcases List.mem_cons.mp ((calls_perm hcall).mem_iff.mp hwaits) with hself | hother
          · exact .inl ((ApplyCall.activating.inj hself) ▸ hstarted)
          · exact .inr hother

theorem settling_enter {call : ApplyCall} (h : Settling port s)
    (hopening : ApplyRun.opening s.proposal = some call) :
    Settling port { s with calls := call :: s.calls } := by
  have hcases : (s.proposal.status = .applied ∧ call = .activating s.proposal.appliedEventId)
      ∨ (s.proposal.status = .applying ∧ call = .reconciling) ∨ call = .opened := by
    unfold ApplyRun.opening at hopening
    split at hopening
    next happlied => exact .inl ⟨happlied.1, (Option.some.inj hopening).symm⟩
    next =>
      split at hopening
      next happlying => exact .inr (.inl ⟨happlying, (Option.some.inj hopening).symm⟩)
      next =>
        split at hopening
        · exact .inr (.inr (Option.some.inj hopening).symm)
        · exact nomatch hopening
  have hnew : Stands port { s with calls := call :: s.calls } call ∧ call.mayWrite = false := by
    rcases hcases with ⟨happlied, rfl⟩ | ⟨happlying, rfl⟩ | rfl
    · exact ⟨⟨happlied, rfl⟩, rfl⟩
    · refine ⟨?_, rfl⟩
      show s.proposal.status ≠ .proposed
      rw [happlying]
      exact nofun
    · exact ⟨trivial, rfl⟩
  refine settling_same h rfl rfl ?_ (.inl rfl) (fun hreads => hreads) ?_ ?_
  · show List.countP _ (call :: s.calls) ≤ _
    rw [List.countP_cons, hnew.2]
    exact le_refl _
  · intro other hother
    rcases List.mem_cons.mp hother with rfl | hold
    · exact .inr hnew.1
    · exact .inl hold
  · rintro - (hdone | hwaits)
    · exact .inl hdone
    · exact .inr (List.mem_cons_of_mem _ hwaits)

theorem settling_step (h : Settling port s) (hjudged : JudgedInTime port s label)
    (hstep : (applySystem port).step s label = some s') : Settling port s' := by
  cases label with
  | enter =>
      obtain ⟨call, hopening, rfl⟩ := Option.map_eq_some_iff.mp hstep
      exact settling_enter h hopening
  | step index now newId raises =>
      obtain ⟨call, hcall, rfl⟩ := Option.map_eq_some_iff.mp hstep
      exact settling_advance h hjudged hcall
  | crash index =>
      obtain ⟨call, hcall, rfl⟩ := Option.map_eq_some_iff.mp hstep
      refine settling_end h hcall (fun hreads => hreads) fun eventId hself => hjudged eventId ?_
      rw [hcall, hself]
      rfl

end

/-- In a run in which every target is judged in time, the status tells what happened. -/
theorem status_tells (port : TargetPort τ) (proposal : EvolutionProposal) (target : τ)
    (labels : List ApplyLabel)
    (hjudged : (applySystem port).Along (JudgedInTime port) (.start proposal target) labels)
    (n : Nat) (s' : ApplyRun τ)
    (hrun : (applySystem port).run (.start proposal target) (labels.take n) = some s') :
    StatusTells s' := by
  rw [← List.take_append_drop n labels, System.along_append] at hjudged
  have hsettling : Settling port s' := (applySystem port).run_preserves_along
    (fun s label s' h hjudged => settling_step h hjudged) (settling_start proposal target)
    hjudged.1 hrun
  exact hsettling.statusTells

/-! ## A status that is settled too early -/

def kindProposal : EvolutionProposal :=
  { proposedRow "p" "prompt_layer" "instructions" "Be brief." "Be kind." "L2" with
    evaluationResult := "approved"
    evaluationEvidence := "passed"
    approvedBy := "owner"
    approvalId := "a" }

/-- Its target. -/
noncomputable def layerPort : TargetPort Home :=
  adapterPort plainRuntime .promptLayer "instructions"

/-- A call dies after its write, and another call finds the candidate applied. -/
def recoveredApply : List ApplyLabel :=
  [.enter, .step 0 1 "" false, .step 0 2 "" false, .step 0 3 "" false, .step 0 4 "event" false,
    .step 0 5 "" false, .crash 0, .enter, .step 0 6 "" false, .step 0 7 "" false,
    .step 0 8 "" false, .step 0 9 "" false]

/-- What a run comes to: its calls, the status, the writes and the activations. -/
def ApplyRun.told {τ : Type} (s : ApplyRun τ) :
    List ApplyCall × ProposalStatus × Nat × List String :=
  (s.calls, s.proposal.status, s.writes, s.activations)

theorem recoveredApply_judged : (applySystem layerPort).Along (JudgedInTime layerPort)
    (.start kindProposal summarisedHome) recoveredApply := by
  decide +kernel

/-- Its status tells what happened. -/
theorem recovered_apply_status_tells :
    ∃ s', (applySystem layerPort).run (.start kindProposal summarisedHome)
        (recoveredApply.take 12) = some s'
      ∧ s'.told = ([], .applied, 1, ["event"]) ∧ StatusTells s' := by
  obtain ⟨s', hs', htold⟩ := Option.map_eq_some_iff.mp (show
    ((applySystem layerPort).run (.start kindProposal summarisedHome)
      (recoveredApply.take 12)).map ApplyRun.told = some ([], .applied, 1, ["event"]) by
        decide +kernel)
  exact ⟨s', hs', htold, status_tells layerPort kindProposal summarisedHome recoveredApply
    recoveredApply_judged 12 s' hs'⟩

/-- A second call judges the target between the claim and the write of the first. -/
def judgedTooEarly : List ApplyLabel :=
  [.enter, .step 0 1 "" false, .step 0 2 "" false, .enter, .step 0 3 "" false, .step 0 4 "" false,
    .step 0 5 "" false, .step 0 6 "" false, .step 0 7 "event" false, .step 0 8 "" false,
    .step 0 9 "" false]

theorem judgedTooEarly_told :
    ((applySystem layerPort).run (.start kindProposal summarisedHome) judgedTooEarly).map
      ApplyRun.told = some ([], .applyFailed, 1, []) := by
  decide +kernel

/-- The candidate of a failed proposal is live. -/
theorem failed_proposal_is_live :
    ¬ ∀ labels s', (applySystem layerPort).run (.start kindProposal summarisedHome) labels
      = some s' → StatusTells s' := by
  intro htells
  obtain ⟨s', hrun, htold⟩ := Option.map_eq_some_iff.mp judgedTooEarly_told
  unfold ApplyRun.told at htold
  simp only [Prod.mk.injEq] at htold
  obtain ⟨hcalls, hstatus, hwrites, -⟩ := htold
  have hnone := (htells judgedTooEarly s' hrun).failed hcalls hstatus
  omega

end Navi.Evolution
