import Mathlib.Logic.Function.Basic
import Navi.Base.System
import Navi.Loop.RunStore

/-!
# Execution leases

Drivers of one loop run, interleaved statement by statement: claims, renewals
by the heartbeat thread, releases, and transitions split at their read and
their write. The version column guards a transition's write, but a renewal does
not bump it, so the write puts back the expiry it read.
-/

namespace Navi.Loop.Leases

open Navi.Base

/-- A lease owner: the drivers' owner texts are never empty. -/
abbrev Owner := { owner : String // owner ≠ "" }

/-- A transition between its read and its write. -/
structure Pending where
  request : TransitionRequest
  next : LoopRunState

/-- The rows, the clock, the transitions in flight by thread, and (a history
variable) the end of the lease last granted to each owner and not since given
up or cleared. -/
structure LeaseState where
  cell : LoopCell
  clock : Time
  pending : Nat → Option Pending
  granted : Owner → Option Time

/-- No transition is in flight; the row's lease, if any, is the only grant. -/
def LeaseState.start (cell : LoopCell) (clock : Time) : LeaseState where
  cell := cell
  clock := clock
  pending := fun _ => none
  granted := fun owner =>
    if cell.run.leaseOwner = owner.val then some cell.run.leaseExpiresAt else none

/-- One statement of some driver, or the passing of time. -/
inductive Label where
  | tick (seconds : Time)
  | claim (owner : Owner) (leaseSeconds : Time) (allowPaused : Bool)
  | renew (owner : Owner) (leaseSeconds : Time)
  | release (owner : Owner)
  | checkpoint (id : String) (node : LoopNode) (inputs : Dict)
  | read (thread : Nat) (request : TransitionRequest)
  | write (thread : Nat)

/-- The grants after a transition's write: a stop clears the stored owner's. -/
def grantedAfter (s : LeaseState) (pending : Pending) : Owner → Option Time :=
  if pending.next.terminalState.isSome then
    fun owner => if s.cell.run.leaseOwner = owner.val then none else s.granted owner
  else s.granted

/-- The drivers' statements. A statement that matches no row, or a transition
that raises, changes nothing. -/
def leaseSystem : System LeaseState Label where
  step s
    | .tick seconds => if 0 ≤ seconds then some { s with clock := s.clock + seconds } else none
    | .claim owner leaseSeconds allowPaused =>
        match claimForExecution s.cell owner.val leaseSeconds s.clock allowPaused with
        | some cell => some { s with
            cell := cell
            granted := Function.update s.granted owner (some cell.run.leaseExpiresAt) }
        | none => some s
    | .renew owner leaseSeconds =>
        match renewExecutionLease s.cell owner.val leaseSeconds s.clock with
        | some cell => some { s with
            cell := cell
            granted := Function.update s.granted owner (some cell.run.leaseExpiresAt) }
        | none => some s
    | .release owner =>
        match releaseExecutionLease s.cell owner.val s.clock with
        | some cell => some { s with
            cell := cell, granted := Function.update s.granted owner none }
        | none => some s
    | .checkpoint id node inputs => some { s with
        cell := writeCheckpoint s.cell id node inputs s.clock }
    | .read thread request =>
        match transitionRead s.cell request s.clock with
        | .ok next => some { s with
            pending := Function.update s.pending thread (some ⟨request, next⟩) }
        | .error _ => some { s with pending := Function.update s.pending thread none }
    | .write thread =>
        match s.pending thread with
        | some pending =>
            match transitionWrite s.cell pending.next with
            | .ok cell => some { s with
                cell := cell
                pending := Function.update s.pending thread none
                granted := grantedAfter s pending }
            | .error _ => some { s with pending := Function.update s.pending thread none }
        | none => none

/-! ## The claims about leases -/

/-- A granted lease is stored at least as long as it was granted for, for as
long as its owner is the stored one; it is another owner's turn only once the
clock has passed its end. -/
def LeaseState.Honoured (s : LeaseState) : Prop :=
  ∀ owner, ∀ until' ∈ s.granted owner,
    if s.cell.run.leaseOwner = owner.val then until' ≤ s.cell.run.leaseExpiresAt
    else until' ≤ s.clock

def Commits (s : LeaseState) (pending : Pending) : Prop :=
  s.cell.run.version + 1 = pending.next.version

/-- A lease-guarded transition commits only while every lease granted to
another driver has ended. -/
def Excludes (s : LeaseState) : Label → Prop
  | .write thread =>
      ∀ pending ∈ s.pending thread, Commits s pending →
        ∀ owner : Owner, pending.request.leaseOwner = owner.val →
          ∀ other ≠ owner, ∀ until' ∈ s.granted other, until' ≤ s.clock
  | _ => True

/-- The write does not put back an expiry that a renewal has meanwhile extended. -/
def WritesFresh (s : LeaseState) : Label → Prop
  | .write thread =>
      ∀ pending ∈ s.pending thread, Commits s pending → pending.next.terminalState = none →
        s.cell.run.leaseExpiresAt ≤ pending.next.leaseExpiresAt
  | _ => True

/-! ## What a read establishes and what keeps it -/

/-- What the row's version vouches for: a transition in flight whose version is
still the row's was computed from the stored owner, and from the stored expiry
unless the owner was granted a new one since. -/
structure Pending.Current (s : LeaseState) (pending : Pending) : Prop where
  guarded : pending.request.leaseOwner ≠ "" → pending.request.leaseOwner = s.cell.run.leaseOwner
  owner : pending.next.terminalState = none → pending.next.leaseOwner = s.cell.run.leaseOwner
  cleared : pending.next.terminalState ≠ none → pending.next.leaseOwner = ""
  expiry : pending.next.terminalState = none →
    pending.next.leaseExpiresAt = s.cell.run.leaseExpiresAt
      ∨ ∃ owner : Owner, s.cell.run.leaseOwner = owner.val
          ∧ s.granted owner = some s.cell.run.leaseExpiresAt

/-- Every transition in flight was computed from the row's version or an
earlier one, and from the row itself if the version is still the row's. -/
def LeaseState.Versioned (s : LeaseState) : Prop :=
  ∀ thread, ∀ pending ∈ s.pending thread,
    pending.next.version ≤ s.cell.run.version + 1 ∧ (Commits s pending → pending.Current s)

theorem read_current {s s' : LeaseState} {request : TransitionRequest} {next : LoopRunState}
    (hcell : s'.cell = s.cell) (h : transitionRead s.cell request s.clock = .ok next) :
    next.version = s'.cell.run.version + 1 ∧ Pending.Current s' ⟨request, next⟩ := by
  have hpermitted := permitted_of_transitionRead h
  rw [transitionRead_of_permitted hpermitted] at h
  obtain rfl := Except.ok.inj h
  rw [hcell]
  refine ⟨rfl, ⟨?_, ?_, ?_, ?_⟩⟩
  · intro hguarded
    rw [hcell]
    exact (hpermitted.leased hguarded).1.symm
  · intro hnone
    have hnone : request.terminalState = none := hnone
    simp [moved, leaseAfter, hnone, hcell]
  · intro hsome
    obtain ⟨terminal, hterminal⟩ := Option.ne_none_iff_exists'.mp hsome
    have hterminal : request.terminalState = some terminal := hterminal
    simp [moved, leaseAfter, hterminal]
  · intro hnone
    have hnone : request.terminalState = none := hnone
    exact .inl (by simp [moved, leaseAfter, hnone, hcell])

theorem claim_eq_some {cell cell' : LoopCell} {owner : String} {leaseSeconds now : Time}
    {allowPaused : Bool}
    (h : claimForExecution cell owner leaseSeconds now allowPaused = some cell') :
    claimable cell.run owner now = true ∧ cell'.run.leaseOwner = owner
      ∧ cell'.run.version = cell.run.version + 1 := by
  obtain ⟨hguard, rfl⟩ := claimForExecution_eq_some.mp h
  exact ⟨hguard.2, rfl, rfl⟩

theorem renew_eq_some {cell cell' : LoopCell} {owner : String} {leaseSeconds now : Time}
    (h : renewExecutionLease cell owner leaseSeconds now = some cell') :
    cell.run.leaseOwner = owner ∧ cell'.run.leaseOwner = owner
      ∧ cell'.run.version = cell.run.version
      ∧ cell'.run.leaseExpiresAt = now + max 1 leaseSeconds := by
  unfold renewExecutionLease at h
  split at h
  next hguard =>
    obtain rfl := Option.some.inj h
    exact ⟨hguard.2.1, hguard.2.1, rfl, rfl⟩
  next => cases h

theorem release_eq_some {cell cell' : LoopCell} {owner : String} {now : Time}
    (h : releaseExecutionLease cell owner now = some cell') :
    cell.run.leaseOwner = owner ∧ cell'.run.leaseOwner = ""
      ∧ cell'.run.version = cell.run.version + 1 := by
  unfold releaseExecutionLease at h
  split at h
  next hguard =>
    obtain rfl := Option.some.inj h
    exact ⟨hguard, rfl, rfl⟩
  next => cases h

theorem write_eq_ok {cell cell' : LoopCell} {next : LoopRunState} :
    transitionWrite cell next = .ok cell'
      ↔ cell.run.version + 1 = next.version ∧ cell' = { cell with run := next } := by
  unfold transitionWrite
  split
  next hversion => simp [hversion, eq_comm]
  next hversion => simp [hversion]

theorem versioned_of_bump {s s' : LeaseState} (hversioned : s.Versioned)
    (hversion : s'.cell.run.version = s.cell.run.version + 1)
    (hpending : ∀ thread, ∀ pending ∈ s'.pending thread, pending ∈ s.pending thread) :
    s'.Versioned := by
  intro thread pending hmem
  obtain ⟨hle, -⟩ := hversioned thread pending (hpending thread pending hmem)
  refine ⟨by omega, ?_⟩
  intro hcommits
  unfold Commits at hcommits
  omega

theorem versioned_of_same {s s' : LeaseState} (hversioned : s.Versioned)
    (hrun : s'.cell.run = s.cell.run) (hgranted : s'.granted = s.granted)
    (hpending : ∀ thread, ∀ pending ∈ s'.pending thread, pending ∈ s.pending thread) :
    s'.Versioned := by
  intro thread pending hmem
  obtain ⟨hle, hcurrent⟩ := hversioned thread pending (hpending thread pending hmem)
  refine ⟨by rw [hrun]; exact hle, ?_⟩
  intro hcommits
  unfold Commits at hcommits
  rw [hrun] at hcommits
  obtain ⟨hguarded, howner, hcleared, hexpiry⟩ := hcurrent hcommits
  exact ⟨hrun ▸ hguarded, hrun ▸ howner, hcleared, by rw [hrun, hgranted]; exact hexpiry⟩

theorem mem_of_update_none {pending : Nat → Option Pending} {thread thread' : Nat}
    {entry : Pending} (h : entry ∈ Function.update pending thread none thread') :
    entry ∈ pending thread' := by
  by_cases hthread : thread' = thread
  · subst hthread
    simp at h
  · rwa [Function.update_of_ne hthread] at h

theorem renew_versioned {s : LeaseState} (hversioned : s.Versioned) {owner : Owner}
    {leaseSeconds : Time} {cell : LoopCell}
    (h : renewExecutionLease s.cell owner.val leaseSeconds s.clock = some cell) :
    LeaseState.Versioned { s with
      cell := cell
      granted := Function.update s.granted owner (some cell.run.leaseExpiresAt) } := by
  obtain ⟨hold, hnew, hversion, -⟩ := renew_eq_some h
  intro thread pending hmem
  obtain ⟨hle, hcurrent⟩ := hversioned thread pending hmem
  refine ⟨by rw [hversion]; exact hle, ?_⟩
  intro hcommits
  unfold Commits at hcommits
  rw [hversion] at hcommits
  obtain ⟨hguarded, howner, hcleared, -⟩ := hcurrent hcommits
  rw [hold] at hguarded howner
  refine ⟨?_, ?_, hcleared, fun _ => .inr ⟨owner, hnew, Function.update_self ..⟩⟩
  · rw [hnew]
    exact hguarded
  · rw [hnew]
    exact howner

theorem read_versioned {s : LeaseState} (hversioned : s.Versioned) {request : TransitionRequest}
    {next : LoopRunState} (h : transitionRead s.cell request s.clock = .ok next) (thread : Nat) :
    LeaseState.Versioned
      { s with pending := Function.update s.pending thread (some ⟨request, next⟩) } := by
  intro thread' pending hmem
  by_cases hthread : thread' = thread
  · subst hthread
    simp only [Function.update_self] at hmem
    obtain rfl := Option.some.inj hmem
    have hread := read_current (rfl : s.cell = s.cell) h
    refine ⟨hread.1.le, fun _ => ?_⟩
    obtain ⟨hguarded, howner, hcleared, hexpiry⟩ := hread.2
    exact ⟨hguarded, howner, hcleared, hexpiry⟩
  · simp only [Function.update_of_ne hthread] at hmem
    obtain ⟨hle, hcurrent⟩ := hversioned thread' pending hmem
    refine ⟨hle, ?_⟩
    intro hcommits
    obtain ⟨hguarded, howner, hcleared, hexpiry⟩ := hcurrent hcommits
    exact ⟨hguarded, howner, hcleared, hexpiry⟩

theorem step_versioned {s s' : LeaseState} {label : Label} (hversioned : s.Versioned)
    (h : leaseSystem.step s label = some s') : s'.Versioned := by
  cases label with
  | tick seconds =>
      simp only [leaseSystem] at h
      split at h
      · obtain rfl := Option.some.inj h
        exact versioned_of_same hversioned rfl rfl fun _ _ hmem => hmem
      · cases h
  | claim owner leaseSeconds allowPaused =>
      simp only [leaseSystem] at h
      split at h
      next cell hclaim =>
        obtain rfl := Option.some.inj h
        exact versioned_of_bump hversioned (claim_eq_some hclaim).2.2 fun _ _ hmem => hmem
      next =>
        obtain rfl := Option.some.inj h
        exact hversioned
  | renew owner leaseSeconds =>
      simp only [leaseSystem] at h
      split at h
      next cell hrenew =>
        obtain rfl := Option.some.inj h
        exact renew_versioned hversioned hrenew
      next =>
        obtain rfl := Option.some.inj h
        exact hversioned
  | release owner =>
      simp only [leaseSystem] at h
      split at h
      next cell hrelease =>
        obtain rfl := Option.some.inj h
        exact versioned_of_bump hversioned (release_eq_some hrelease).2.2 fun _ _ hmem => hmem
      next =>
        obtain rfl := Option.some.inj h
        exact hversioned
  | checkpoint id node inputs =>
      obtain rfl := Option.some.inj h
      exact versioned_of_same hversioned rfl rfl fun _ _ hmem => hmem
  | read thread request =>
      simp only [leaseSystem] at h
      split at h
      next next hread =>
        obtain rfl := Option.some.inj h
        exact read_versioned hversioned hread thread
      next =>
        obtain rfl := Option.some.inj h
        exact versioned_of_same hversioned rfl rfl fun _ _ => mem_of_update_none
  | write thread =>
      simp only [leaseSystem] at h
      split at h
      next pending hpending =>
        split at h
        next cell hwrite =>
          obtain rfl := Option.some.inj h
          obtain ⟨hversion, rfl⟩ := write_eq_ok.mp hwrite
          exact versioned_of_bump hversioned hversion.symm fun _ _ => mem_of_update_none
        next =>
          obtain rfl := Option.some.inj h
          exact versioned_of_same hversioned rfl rfl fun _ _ => mem_of_update_none
      next => cases h

/-! ## What a step does to the grants -/

theorem excludes {s : LeaseState} (hversioned : s.Versioned) (hhonoured : s.Honoured)
    (label : Label) : Excludes s label := by
  cases label with
  | write thread =>
      intro pending hpending hcommits owner howner other hother until' huntil
      have hcurrent := (hversioned thread pending hpending).2 hcommits
      have hstored := hcurrent.guarded (howner ▸ owner.property)
      have hne : s.cell.run.leaseOwner ≠ other.val := by
        intro heq
        exact hother (Subtype.ext (heq.symm.trans (hstored.symm.trans howner)))
      simpa [hne] using hhonoured other until' huntil
  | _ => trivial

theorem claim_honoured {s : LeaseState} (hhonoured : s.Honoured) {owner : Owner}
    {leaseSeconds : Time} {allowPaused : Bool} {cell : LoopCell}
    (h : claimForExecution s.cell owner.val leaseSeconds s.clock allowPaused = some cell) :
    LeaseState.Honoured { s with
      cell := cell
      granted := Function.update s.granted owner (some cell.run.leaseExpiresAt) } := by
  obtain ⟨hclaimable, howner, -⟩ := claim_eq_some h
  intro other until' huntil
  by_cases hother : other = owner
  · subst hother
    simp only [Function.update_self] at huntil
    obtain rfl := Option.some.inj huntil
    simp [howner]
  · simp only [Function.update_of_ne hother] at huntil
    have hne : cell.run.leaseOwner ≠ other.val := by
      intro heq
      exact hother (Subtype.ext (heq.symm.trans howner))
    have hended := hhonoured other until' huntil
    simp only [hne, if_false]
    split at hended
    next hstored =>
      rcases of_decide_eq_true hclaimable with hfree | hown | hexpired
      · exact absurd (hstored.symm.trans hfree) other.property
      · exact absurd (Subtype.ext (hstored.symm.trans hown)) hother
      · exact hended.trans hexpired
    next => exact hended

theorem renew_honoured {s : LeaseState} (hhonoured : s.Honoured) {owner : Owner}
    {leaseSeconds : Time} {cell : LoopCell}
    (h : renewExecutionLease s.cell owner.val leaseSeconds s.clock = some cell) :
    LeaseState.Honoured { s with
      cell := cell
      granted := Function.update s.granted owner (some cell.run.leaseExpiresAt) } := by
  obtain ⟨hold, hnew, -, -⟩ := renew_eq_some h
  intro other until' huntil
  by_cases hother : other = owner
  · subst hother
    simp only [Function.update_self] at huntil
    obtain rfl := Option.some.inj huntil
    simp [hnew]
  · simp only [Function.update_of_ne hother] at huntil
    have hne : owner.val ≠ other.val := fun heq => hother (Subtype.ext heq.symm)
    have hended := hhonoured other until' huntil
    simp only [hold, hne, if_false] at hended
    simpa [hnew, hne] using hended

theorem release_honoured {s : LeaseState} (hhonoured : s.Honoured) {owner : Owner}
    {cell : LoopCell} (h : releaseExecutionLease s.cell owner.val s.clock = some cell) :
    LeaseState.Honoured { s with
      cell := cell, granted := Function.update s.granted owner none } := by
  obtain ⟨hold, hnew, -⟩ := release_eq_some h
  intro other until' huntil
  by_cases hother : other = owner
  · subst hother
    simp at huntil
  · simp only [Function.update_of_ne hother] at huntil
    have hne : owner.val ≠ other.val := fun heq => hother (Subtype.ext heq.symm)
    have hended := hhonoured other until' huntil
    simp only [hold, hne, if_false] at hended
    simpa [hnew, other.property.symm] using hended

/-- A write that commits keeps the grants honoured exactly when it puts back no
older expiry. -/
theorem write_honoured_iff {s : LeaseState} (hversioned : s.Versioned) (hhonoured : s.Honoured)
    {thread : Nat} {pending : Pending} (hpending : s.pending thread = some pending)
    (hcommits : Commits s pending) (pendings : Nat → Option Pending) :
    LeaseState.Honoured ⟨{ s.cell with run := pending.next }, s.clock, pendings,
        grantedAfter s pending⟩
      ↔ (pending.next.terminalState = none →
          s.cell.run.leaseExpiresAt ≤ pending.next.leaseExpiresAt) := by
  have hcurrent := (hversioned thread pending hpending).2 hcommits
  cases hterminal : pending.next.terminalState with
  | some terminal =>
      -- the stop clears the stored owner's grant; every other grant had ended
      simp only [reduceCtorEq, false_implies, iff_true]
      have hcleared := hcurrent.cleared (by simp [hterminal])
      intro other until' huntil
      simp only [grantedAfter, hterminal, Option.isSome_some, if_true] at huntil
      split at huntil
      next => cases huntil
      next hne =>
        have hended := hhonoured other until' huntil
        simp only [hne, if_false] at hended
        simpa [hcleared, other.property.symm] using hended
  | none =>
      have howner := hcurrent.owner hterminal
      simp only [forall_const]
      constructor
      · intro hafter
        rcases hcurrent.expiry hterminal with heq | ⟨owner, hstored, hgranted⟩
        · exact heq.ge
        · have hkept := hafter owner _ (by simpa [grantedAfter, hterminal] using hgranted)
          simpa [howner, hstored] using hkept
      · intro hfresh other until' huntil
        simp only [grantedAfter, hterminal, Option.isSome_none] at huntil
        have hended := hhonoured other until' huntil
        simp only [howner]
        split at hended
        next hstored => simpa [hstored] using hended.trans hfresh
        next hne => simpa [hne] using hended

theorem step_honoured_iff {s s' : LeaseState} {label : Label} (hversioned : s.Versioned)
    (hhonoured : s.Honoured) (h : leaseSystem.step s label = some s') :
    s'.Honoured ↔ WritesFresh s label := by
  cases label with
  | tick seconds =>
      simp only [leaseSystem] at h
      split at h
      next hpositive =>
        obtain rfl := Option.some.inj h
        refine iff_of_true (fun owner until' huntil => ?_) trivial
        have hended := hhonoured owner until' huntil
        split
        next hstored => exact (if_pos hstored).mp hended
        next hne => exact le_add_of_le_of_nonneg ((if_neg hne).mp hended) hpositive
      next => cases h
  | claim owner leaseSeconds allowPaused =>
      simp only [leaseSystem] at h
      split at h
      next cell hclaim =>
        obtain rfl := Option.some.inj h
        exact iff_of_true (claim_honoured hhonoured hclaim) trivial
      next =>
        obtain rfl := Option.some.inj h
        exact iff_of_true hhonoured trivial
  | renew owner leaseSeconds =>
      simp only [leaseSystem] at h
      split at h
      next cell hrenew =>
        obtain rfl := Option.some.inj h
        exact iff_of_true (renew_honoured hhonoured hrenew) trivial
      next =>
        obtain rfl := Option.some.inj h
        exact iff_of_true hhonoured trivial
  | release owner =>
      simp only [leaseSystem] at h
      split at h
      next cell hrelease =>
        obtain rfl := Option.some.inj h
        exact iff_of_true (release_honoured hhonoured hrelease) trivial
      next =>
        obtain rfl := Option.some.inj h
        exact iff_of_true hhonoured trivial
  | checkpoint id node inputs =>
      obtain rfl := Option.some.inj h
      exact iff_of_true hhonoured trivial
  | read thread request =>
      simp only [leaseSystem] at h
      split at h <;>
        · obtain rfl := Option.some.inj h
          exact iff_of_true hhonoured trivial
  | write thread =>
      simp only [leaseSystem] at h
      split at h
      next pending hpending =>
        split at h
        next cell hwrite =>
          obtain rfl := Option.some.inj h
          obtain ⟨hcommits, rfl⟩ := write_eq_ok.mp hwrite
          rw [write_honoured_iff hversioned hhonoured hpending hcommits]
          simp [WritesFresh, hpending, show Commits s pending from hcommits]
        next hwrite =>
          obtain rfl := Option.some.inj h
          refine iff_of_true hhonoured ?_
          intro pending' hpending' hcommits
          obtain rfl := Option.some.inj (hpending.symm.trans hpending')
          rw [write_eq_ok.mpr ⟨hcommits, rfl⟩] at hwrite
          cases hwrite
      next => cases h

/-! ## Leases over whole runs -/

theorem start_versioned (cell : LoopCell) (clock : Time) :
    (LeaseState.start cell clock).Versioned := by
  intro thread pending hpending
  cases hpending

theorem start_honoured (cell : LoopCell) (clock : Time) :
    (LeaseState.start cell clock).Honoured := by
  intro owner until' huntil
  simp only [LeaseState.start] at huntil ⊢
  split at huntil
  next hstored =>
    obtain rfl := Option.some.inj huntil
    simp [hstored]
  next => cases huntil

theorem write_enabled {s : LeaseState} {label : Label} (h : ¬ WritesFresh s label) :
    ∃ s', leaseSystem.step s label = some s' := by
  cases label with
  | write thread =>
      cases hpending : s.pending thread with
      | none => exact absurd (by simp [WritesFresh, hpending]) h
      | some pending =>
          simp only [leaseSystem, hpending]
          split <;> exact ⟨_, rfl⟩
  | _ => exact absurd trivial h

/-- **Leases.** In every interleaving of the drivers' statements, every lease
granted by a claim or a renewal is stored for at least as long as it was
granted until its owner gives it up, a stop clears it or it has ended, and no
lease-guarded transition commits while another driver's lease is unexpired, if
and only if no transition writes back an expiry older than the stored one. -/
theorem lease_honoured_iff (cell : LoopCell) (clock : Time) (labels : List Label) :
    (∀ n s, leaseSystem.run (.start cell clock) (labels.take n) = some s →
        s.Honoured ∧ ∀ label ∈ labels[n]?, Excludes s label)
      ↔ leaseSystem.Along WritesFresh (.start cell clock) labels := by
  have hiff := leaseSystem.run_good_iff (G := LeaseState.Honoured)
    (fun _ _ _ hversioned h => step_versioned hversioned h)
    (fun _ _ _ hversioned hhonoured h => step_honoured_iff hversioned hhonoured h)
    (fun _ _ h => write_enabled h) (start_versioned cell clock) (start_honoured cell clock) labels
  constructor
  · intro hall
    exact hiff.mp fun n s hrun => (hall n s hrun).1
  · intro hfresh n s hrun
    have hhonoured := hiff.mpr hfresh n s hrun
    have hversioned : s.Versioned := leaseSystem.run_preserves
      (fun _ _ _ hversioned h => step_versioned hversioned h) (start_versioned cell clock) hrun
    exact ⟨hhonoured, fun label _ => excludes hversioned hhonoured label⟩

def freshCell : LoopCell := createRun defaultStateGraph "run" "goal" .plan [] 0

def driver : Owner := ⟨"driver", by decide⟩

/-- The heartbeat renews between the read and the write of the same driver's
transition. -/
def heartbeatRun : List Label :=
  [.claim driver 10 false, .checkpoint "c" .plan [],
    .read 0 ⟨.execute, none, "plan_ready", [], "c", "driver"⟩,
    .tick 5, .renew driver 10, .write 0]

/-- A renewal that returned true can be lost. -/
theorem renewal_lost :
    ¬ ∀ (cell : LoopCell) (clock : Time) (labels : List Label) (s : LeaseState),
      leaseSystem.run (.start cell clock) labels = some s → s.Honoured := by
  intro hall
  have hrun : (leaseSystem.run (.start freshCell 0) heartbeatRun).map
      (fun s => (s.cell.run.leaseOwner, s.cell.run.leaseExpiresAt, s.granted driver))
        = some ("driver", 10, some 15) := by
    decide +kernel
  obtain ⟨s, hs, hfinal⟩ := Option.map_eq_some_iff.mp hrun
  simp only [Prod.mk.injEq] at hfinal
  obtain ⟨howner, hexpiry, hgranted⟩ := hfinal
  have hkept := hall _ _ _ s hs driver 15 hgranted
  rw [howner, hexpiry, if_pos (show "driver" = driver.val from rfl)] at hkept
  exact absurd hkept (by decide +kernel)

end Navi.Loop.Leases
