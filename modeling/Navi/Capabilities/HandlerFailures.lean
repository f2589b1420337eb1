import Navi.Capabilities.Invoke

/-!
# Handler failures

What `invoke` makes of a handler that raises. The journal entry of a handler that
raised is failed, and then completed like any other, which its own guard refuses.
-/

namespace Navi.Capabilities

open Navi.Base Navi.EffectJournal

/-! ## The entry of a reservation -/

/-- The entry is reserved by this owner, until then. -/
def Holds (key owner : String) (expiry : Time) (effects : Table) : Prop :=
  ∃ row, effects key = some row ∧ row.status = .active ∧ row.owner = owner
    ∧ row.leaseExpiresAt = expiry

/-- The call is a reservation of the key that finds the lease over. -/
def Reaps (key : String) (expiry : Time) : Call → Prop
  | .reserve effectKey _ _ _ _ now => effectKey = key ∧ expiry ≤ now
  | _ => False

instance (key : String) (expiry : Time) : DecidablePred (Reaps key expiry) := fun call =>
  match call with
  | .reserve effectKey _ _ _ _ now => inferInstanceAs (Decidable (effectKey = key ∧ expiry ≤ now))
  | .complete .. | .fail .. | .abandon .. => inferInstanceAs (Decidable False)

section

variable {key owner : String} {expiry : Time} {effects : Table}

theorem owned_of_holds (h : Holds key owner expiry effects) : (owned effects key owner).isSome := by
  obtain ⟨row, hrow, hactive, howner, -⟩ := h
  simp [owned, hrow, hactive, howner]

theorem owned_of_uncertain (h : Uncertain key effects) : owned effects key owner = none := by
  obtain ⟨row, hrow, hstatus⟩ := h
  simp [owned, hrow, hstatus]

theorem step_holds (h : Holds key owner expiry effects) {other : Call}
    (hother : ownerOf other ≠ owner) (hreaps : ¬ Reaps key expiry other) :
    Holds key owner expiry (journal.step effects other).1 := by
  by_cases hkey : other.key = key
  · obtain ⟨row, hrow, hactive, howner, hexpiry⟩ := h
    have hunowned : owned effects key (ownerOf other) = none := by
      simp [owned, hrow, howner, Ne.symm hother]
    refine ⟨row, ?_, hactive, howner, hexpiry⟩
    cases other with
    | reserve effectKey loopRunId tool other lease now =>
        obtain rfl : effectKey = key := hkey
        have hlease : row.leaseExpiresAt > now := by
          rw [hexpiry]
          exact not_le.mp fun hle => hreaps ⟨rfl, hle⟩
        simp [journal, reserve, hrow, hactive, hlease]
    | complete effectKey other result now =>
        obtain rfl : effectKey = key := hkey
        simp only [ownerOf] at hunowned
        simp [journal, complete, hunowned, hrow]
    | fail effectKey other error now =>
        obtain rfl : effectKey = key := hkey
        simp only [ownerOf] at hunowned
        simp [journal, fail, hunowned, hrow]
    | abandon effectKey other =>
        obtain rfl : effectKey = key := hkey
        simp only [ownerOf] at hunowned
        simp [journal, abandon, hunowned, hrow]
  · obtain ⟨row, hrow, hrest⟩ := h
    exact ⟨row, (step_frame effects other hkey).trans hrow, hrest⟩

theorem step_reaps (h : Holds key owner expiry effects) {other : Call}
    (hreaps : Reaps key expiry other) : Uncertain key (journal.step effects other).1 := by
  obtain ⟨row, hrow, hactive, -, hexpiry⟩ := h
  cases other with
  | reserve effectKey loopRunId tool other lease now =>
      obtain ⟨rfl, hover⟩ := hreaps
      have hlease : ¬ row.leaseExpiresAt > now := by
        rw [hexpiry]
        exact not_lt.mpr hover
      simp [Uncertain, journal, reserve, hrow, hactive, hlease]
  | complete | fail | abandon => exact hreaps.elim

theorem run_uncertain (hknown : Known effects) (h : Uncertain key effects) (calls : List Call) :
    Uncertain key (journal.run effects calls) := by
  have hkeeps : ∀ (s : Table) (call : Call), Known s ∧ Uncertain key s →
      Known (journal.step s call).1 ∧ Uncertain key (journal.step s call).1 :=
    fun s call hs => ⟨step_known hs.1 call, step_uncertain hs.1 hs.2 call⟩
  exact (journal.run_preserves hkeeps ⟨hknown, h⟩ calls).2

theorem run_known (hknown : Known effects) (calls : List Call) :
    Known (journal.run effects calls) :=
  journal.run_preserves (I := Known) (fun _ call h => step_known h call) hknown calls

theorem run_holds {calls : List Call} (h : Holds key owner expiry effects)
    (hothers : ∀ other ∈ calls, ownerOf other ≠ owner)
    (hkept : ∀ other ∈ calls, ¬ Reaps key expiry other) :
    Holds key owner expiry (journal.run effects calls) := by
  induction calls generalizing effects with
  | nil => exact h
  | cons other rest ih =>
      have hstep := step_holds h (hothers other List.mem_cons_self) (hkept other List.mem_cons_self)
      exact ih hstep (fun next hnext => hothers next (List.mem_cons_of_mem _ hnext))
        fun next hnext => hkept next (List.mem_cons_of_mem _ hnext)

theorem run_reaped {calls : List Call} (hknown : Known effects) (h : Holds key owner expiry effects)
    (hothers : ∀ other ∈ calls, ownerOf other ≠ owner)
    (hreaped : ∃ other ∈ calls, Reaps key expiry other) :
    Uncertain key (journal.run effects calls) := by
  induction calls generalizing effects with
  | nil =>
      obtain ⟨other, hmem, -⟩ := hreaped
      cases hmem
  | cons other rest ih =>
      by_cases hnow : Reaps key expiry other
      · exact run_uncertain (step_known hknown other) (step_reaps h hnow) rest
      · have hstep := step_holds h (hothers other List.mem_cons_self) hnow
        obtain ⟨later, hlater, hreaps⟩ := hreaped
        rcases List.mem_cons.mp hlater with rfl | hrest
        · exact absurd hreaps hnow
        · exact ih (step_known hknown other) hstep
            (fun next hnext => hothers next (List.mem_cons_of_mem _ hnext)) ⟨later, hrest, hreaps⟩

theorem holds_or_uncertain {calls : List Call} (hknown : Known effects)
    (h : Holds key owner expiry effects) (hothers : ∀ other ∈ calls, ownerOf other ≠ owner) :
    Holds key owner expiry (journal.run effects calls)
      ∨ Uncertain key (journal.run effects calls) := by
  by_cases hreaped : ∃ other ∈ calls, Reaps key expiry other
  · exact .inr (run_reaped hknown h hothers hreaped)
  · exact .inl (run_holds h hothers fun other hmem hreaps => hreaped ⟨other, hmem, hreaps⟩)

theorem owned_iff_kept {calls : List Call} (hknown : Known effects)
    (h : Holds key owner expiry effects) (hothers : ∀ other ∈ calls, ownerOf other ≠ owner) :
    (owned (journal.run effects calls) key owner).isSome
      ↔ ∀ other ∈ calls, ¬ Reaps key expiry other := by
  constructor
  · intro howned other hmem hreaps
    rw [owned_of_uncertain (run_reaped hknown h hothers ⟨other, hmem, hreaps⟩)] at howned
    cases howned
  · intro hkept
    exact owned_of_holds (run_holds h hothers hkept)

theorem uncertain_of_fail {error : String} {now : Time}
    (h : Holds key owner expiry effects ∨ Uncertain key effects) :
    Uncertain key (fail effects key owner error now) := by
  rcases h with hholds | huncertain
  · obtain ⟨row, hrow⟩ := Option.isSome_iff_exists.mp (owned_of_holds hholds)
    simp [Uncertain, fail, hrow]
  · have hnone : owned effects key owner = none := owned_of_uncertain huncertain
    simpa [fail, hnone] using huncertain

theorem holds_of_acquired {loopRunId tool : String} {lease now : Time}
    (h : (reserve effects key loopRunId tool owner lease now).1.status = .acquired) :
    Holds key owner (now + lease) (reserve effects key loopRunId tool owner lease now).2 := by
  cases hentry : effects key with
  | none => simp [Holds, reserve, hentry]
  | some row =>
      cases hstatus : row.status with
      | completed => simp [reserve, hentry, hstatus] at h
      | uncertain => simp [reserve, hentry, hstatus] at h
      | active =>
          by_cases hlease : row.leaseExpiresAt > now
          · simp [reserve, hentry, hstatus, hlease] at h
          · simp [reserve, hentry, hstatus, hlease] at h
      | other text => simp [Holds, reserve, hentry, hstatus]

end

/-! ## What a call reports -/

section

variable (call : Invocation) (world : World call) (effects : Table)

/-- The table once the effect is reserved. -/
def reservedTable : Table :=
  if call.journaled then
    (reserve effects call.effectKey call.loopRunId call.name call.effectOwner effectLeaseSeconds
      world.reservedAt).2
  else effects

/-- `audit_log_id`. -/
def auditLogId : String :=
  if call.audited then
    match world.auditReservation with
    | .ok id => id
    | .error _ => ""
  else ""

def Reached : Prop :=
  (call.journaled = true →
      (reserve effects call.effectKey call.loopRunId call.name call.effectOwner effectLeaseSeconds
        world.reservedAt).1.status = .acquired)
    ∧ world.decision = "allow"
    ∧ (call.audited = true → ∃ id, world.auditReservation = .ok id)

/-- The outcome of the audit cannot be persisted. -/
def AuditFails : Prop := auditLogId call world ≠ "" ∧ world.auditCompletion.isSome

instance : Decidable (AuditFails call world) :=
  inferInstanceAs (Decidable (_ ∧ _))

/-- No other user of the journal finds the lease of the reservation over while the
call runs. -/
def LeaseKept : Prop :=
  ∀ other ∈ world.during ++ world.completing,
    ¬ Reaps call.effectKey (world.reservedAt + effectLeaseSeconds) other

/-- An exception of the handler, of `fail` or of `complete` leaves the call. -/
def Leaks {α : Type} (outcome : Except Escape α) : Prop :=
  ∃ escape, outcome = .error escape
    ∧ (escape.origin = .handler ∨ escape.origin = .journalFail ∨ escape.origin = .journalComplete)

/-- A handler that raises is reported: with a result that is not ok, and with its
journal entry uncertain or abandoned. Neither its exception nor one of the journal
leaves the call. -/
structure Reports : Prop where
  result : ∀ error, world.handler = .raised error → Reached call world effects →
    ∃ result, (invoke call world effects).1 = .ok result ∧ result.ok = false
      ∧ (call.journaled = true → Uncertain call.effectKey (invoke call world effects).2
          ∨ (invoke call world effects).2 call.effectKey = none)
  contained : ¬ Leaks (invoke call world effects).1

/-- What has to be so where the handler raises: it raises an `Exception`, the gateway
takes its grant back, and a journaled call gets no further than the audit, because
that fails too. -/
def RaiseHandled (error : PyError) : Prop :=
  error.isException = true ∧ world.release = none
    ∧ if call.journaled then
        world.failure = none ∧ AuditFails call world ∧ world.auditFailure = none
      else
        AuditFails call world ∨ world.settlement = none ∨ call.approvedApprovalId = ""
          ∨ call.governedRunId ≠ ""

/-- What has to be so where the handler returns: a journaled call still owns its entry,
and the database does not raise. -/
def ReturnHandled : Prop :=
  world.release = none → call.journaled = true →
    if AuditFails call world then world.auditFailure = none
    else world.completion = none ∧ LeaseKept call world

/-- The condition for a call to report what its handler does. -/
def Handled : Prop :=
  Reached call world effects →
    match world.handler with
    | .raised error => RaiseHandled call world error
    | .returned _ => ReturnHandled call world

end

section

variable {call : Invocation} {world : World call} {effects : Table}

theorem not_leaks_ok {α : Type} (a : α) : ¬ Leaks (Except.ok a) := by
  rintro ⟨escape, hescape, -⟩
  cases hescape

theorem leaks_error {α : Type} {escape : Escape} :
    Leaks (Except.error escape : Except Escape α)
      ↔ escape.origin = .handler ∨ escape.origin = .journalFail
        ∨ escape.origin = .journalComplete := by
  constructor
  · rintro ⟨other, hother, horigin⟩
    obtain rfl := Except.error.inj hother
    exact horigin
  · intro horigin
    exact ⟨escape, rfl, horigin⟩

theorem leaks_invoke_iff :
    Leaks (invoke call world effects).1 ↔ Leaks (executed call world effects).1 := by
  unfold invoke
  cases hexecuted : executed call world effects with
  | mk outcome effects' =>
      cases outcome with
      | error escape => simp only [leaks_error]
      | ok conclusion =>
          have hnever : ¬ Leaks (Except.ok conclusion) := not_leaks_ok conclusion
          cases hsettlement : world.settlement with
          | none => simp only [hnever, not_leaks_ok]
          | some error =>
              by_cases happlies :
                  conclusion.settles = true ∧ settlementApplies call conclusion.result = true
              · simp [happlies, leaks_error, hnever]
              · simp only [happlies, if_false, hnever, not_leaks_ok]

theorem replay_isSome {key loopRunId tool owner : String} {lease now : Time}
    (h : (reserve effects key loopRunId tool owner lease now).1.status = .replay) :
    (reserve effects key loopRunId tool owner lease now).1.result.isSome := by
  unfold reserve at h ⊢
  repeat' split
  all_goals simp_all

theorem executed_of_reached (h : Reached call world effects) :
    executed call world effects
      = performed call world (reservedTable call world effects) (auditLogId call world) := by
  obtain ⟨hacquired, hallow, haudit⟩ := h
  have hgranted : ∀ table, granted call world table
      = performed call world table (auditLogId call world) := by
    intro table
    unfold granted auditLogId
    rw [if_neg (not_not.mpr hallow)]
    by_cases haudited : call.audited = true
    · obtain ⟨id, hid⟩ := haudit haudited
      simp [haudited, hid]
    · simp [haudited]
  unfold executed reservedTable
  by_cases hjournaled : call.journaled = true
  · simp only [hjournaled, if_true]
    have hstatus := hacquired hjournaled
    generalize reserve effects call.effectKey call.loopRunId call.name call.effectOwner
      effectLeaseSeconds world.reservedAt = reservation at hstatus ⊢
    obtain ⟨⟨status, result⟩, table⟩ := reservation
    obtain rfl : status = .acquired := hstatus
    exact hgranted table
  · simp only [hjournaled]
    exact hgranted effects

theorem not_leaks_of_unreached (h : ¬ Reached call world effects) :
    ¬ Leaks (executed call world effects).1 := by
  have hgranted : ∀ table, ¬ (world.decision = "allow"
      ∧ (call.audited = true → ∃ id, world.auditReservation = .ok id)) →
      ¬ Leaks (granted call world table).1 := by
    intro table hrefused
    unfold granted
    split
    next => exact not_leaks_ok _
    next hallow =>
      split
      next haudited =>
        split
        next id hid => exact absurd ⟨not_not.mp hallow, fun _ => ⟨id, hid⟩⟩ hrefused
        next error herror =>
          split
          next raised => simp [leaks_error]
          next => exact not_leaks_ok _
      next haudited =>
        exact absurd ⟨not_not.mp hallow, fun hyes => absurd hyes haudited⟩ hrefused
  unfold executed
  by_cases hjournaled : call.journaled = true
  · simp only [hjournaled, if_true]
    split
    next => exact not_leaks_ok _
    next => exact not_leaks_ok _
    next => exact not_leaks_ok _
    next reservation table hreplay hbusy huncertain hreserve =>
      refine hgranted table fun hrest => h ⟨fun _ => ?_, hrest⟩
      have hsome := @replay_isSome effects call.effectKey call.loopRunId call.name
        call.effectOwner effectLeaseSeconds world.reservedAt
      rw [hreserve] at hsome ⊢
      obtain ⟨status, result⟩ := reservation
      cases status with
      | acquired => rfl
      | busy => exact absurd rfl (hbusy result)
      | uncertain => exact absurd rfl (huncertain result)
      | replay =>
          obtain ⟨value, rfl⟩ := Option.isSome_iff_exists.mp (hsome rfl)
          exact absurd rfl (hreplay value)
  · simp only [hjournaled]
    exact hgranted effects fun hrest => h ⟨fun hyes => absurd hyes hjournaled, hrest⟩

theorem holds_reservedTable (h : Reached call world effects) (hjournaled : call.journaled = true) :
    Holds call.effectKey call.effectOwner (world.reservedAt + effectLeaseSeconds)
      (reservedTable call world effects) := by
  unfold reservedTable
  rw [if_pos hjournaled]
  exact holds_of_acquired (h.1 hjournaled)

theorem known_reservedTable (hknown : Known effects) :
    Known (reservedTable call world effects) := by
  unfold reservedTable
  split
  next =>
    exact step_known hknown (.reserve call.effectKey call.loopRunId call.name call.effectOwner
      effectLeaseSeconds world.reservedAt)
  next => exact hknown

theorem concluded_of_auditFails {result : CapabilityResult} (h : AuditFails call world) :
    ∃ error, concluded call world effects (auditLogId call world) result
      = auditFailed call world effects (auditLogId call world) result error := by
  obtain ⟨hid, hfails⟩ := h
  obtain ⟨error, herror⟩ := Option.isSome_iff_exists.mp hfails
  refine ⟨error, ?_⟩
  simp only [concluded, herror, ne_eq, hid, not_false_eq_true, if_true]

theorem concluded_of_audited {result : CapabilityResult} (h : ¬ AuditFails call world) :
    concluded call world effects (auditLogId call world) result
      = completed call world effects result := by
  unfold concluded
  split
  next error herror =>
    have hid : auditLogId call world = "" := by
      by_contra hid
      exact h ⟨hid, by simp [herror]⟩
    rw [if_neg (not_not.mpr hid)]
  next => rfl

/-- The completion lets an error out where the database raises and where the entry is
no longer owned. -/
theorem leaks_completed_iff (hjournaled : call.journaled = true) (result : CapabilityResult) :
    Leaks (completed call world effects result).1
      ↔ ¬ (world.completion = none ∧ (owned effects call.effectKey call.effectOwner).isSome) := by
  unfold completed
  rw [if_pos hjournaled]
  cases hcompletion : world.completion with
  | some error => simp [leaks_error]
  | none =>
      cases howned : owned effects call.effectKey call.effectOwner with
      | none => simp [complete, howned, leaks_error]
      | some row => simp [complete, howned, not_leaks_ok]

/-- A journaled call lets an error of the journal out of its end unless the condition
on the audit and the entry is met. -/
theorem leaks_concluded_iff (hjournaled : call.journaled = true) (result : CapabilityResult) :
    Leaks (concluded call world effects (auditLogId call world) result).1
      ↔ ¬ if AuditFails call world then world.auditFailure = none
          else world.completion = none
            ∧ (owned effects call.effectKey call.effectOwner).isSome := by
  by_cases haudit : AuditFails call world
  · obtain ⟨error, hconcluded⟩ := @concluded_of_auditFails call world effects result haudit
    rw [hconcluded, if_pos haudit]
    cases hfailure : world.auditFailure with
    | none => simp [auditFailed, journalFail, hjournaled, hfailure, not_leaks_ok]
    | some failure => simp [auditFailed, journalFail, hjournaled, hfailure, leaks_error]
  · rw [concluded_of_audited haudit, if_neg haudit]
    exact leaks_completed_iff hjournaled result

theorem not_leaks_concluded (hjournaled : ¬ call.journaled = true) (result : CapabilityResult) :
    ¬ Leaks (concluded call world effects (auditLogId call world) result).1 := by
  by_cases haudit : AuditFails call world
  · obtain ⟨error, hconcluded⟩ := @concluded_of_auditFails call world effects result haudit
    simp [hconcluded, auditFailed, journalFail, hjournaled, not_leaks_ok]
  · rw [concluded_of_audited haudit]
    simp [completed, hjournaled, not_leaks_ok]

theorem returned_iff (hknown : Known effects) (hreached : Reached call world effects)
    {result : CapabilityResult} (hreturned : world.handler = .returned result) :
    Reports call world effects ↔ ReturnHandled call world := by
  have hreports : Reports call world effects ↔ ¬ Leaks (invoke call world effects).1 := by
    refine ⟨Reports.contained, fun hcontained => ⟨fun error herror => ?_, hcontained⟩⟩
    rw [hreturned] at herror
    cases herror
  rw [hreports, leaks_invoke_iff, executed_of_reached hreached]
  unfold performed handled ReturnHandled
  rw [hreturned]
  cases hrelease : world.release with
  | some error => simp [leaks_error]
  | none =>
      by_cases hjournaled : call.journaled = true
      · simp only [hjournaled, forall_const]
        rw [leaks_concluded_iff hjournaled, not_not, ← journal.run_append]
        have howned := owned_iff_kept (known_reservedTable hknown)
          (holds_reservedTable hreached hjournaled)
          (fun other hmem => world.strangers other (List.mem_append_left _ hmem))
        rw [howned]
        rfl
      · simp [hjournaled, not_leaks_concluded hjournaled]

/-! ## The handler raises -/

theorem invoke_of_error {escape : Escape} {table : Table}
    (h : executed call world effects = (.error escape, table)) :
    (invoke call world effects).1 = .error escape := by
  unfold invoke
  rw [h]

theorem invoke_of_unsettled {result : CapabilityResult} {table : Table}
    (h : executed call world effects = (.ok ⟨result, false⟩, table)) :
    invoke call world effects = (.ok result, journal.run table world.afterwards) := by
  unfold invoke
  rw [h]
  cases world.settlement <;> simp

theorem settlementApplies_crashed (error : PyError) :
    settlementApplies call (crashed call error)
      = decide (call.approvedApprovalId ≠ "" ∧ call.governedRunId = "") := by
  have htext : Dict.text ((crashed call error).facts.getD []) "loop_terminal_state" = "" := by
    simp [crashed, capabilityError, Dict.text]
  have hyields : (crashed call error).yieldsControl = false := rfl
  simp [settlementApplies, htext, hyields]

theorem checkedOutput_crashed (error : PyError) :
    checkedOutput call (crashed call error) = crashed call error := rfl

theorem not_reports_of_error {error : PyError} {escape : Escape} {table : Table}
    (hraised : world.handler = .raised error) (hreached : Reached call world effects)
    (h : executed call world effects = (.error escape, table)) : ¬ Reports call world effects := by
  intro hreports
  obtain ⟨result, hresult, -⟩ := hreports.result error hraised hreached
  rw [invoke_of_error h] at hresult
  cases hresult

theorem performed_of_raised {error : PyError} {auditId : String}
    (hraised : world.handler = .raised error) (hexception : error.isException = true)
    (hrelease : world.release = none) {table : Table}
    (hfail : journalFail call (journal.run effects world.during)
      (error.typeName ++ ": " ++ error.text) world.failure world.failedAt = (none, table)) :
    performed call world effects auditId
      = concluded call world (journal.run table world.completing) auditId (crashed call error) := by
  simp only [performed, handled, hraised, hexception, if_true, hfail, hrelease,
    checkedOutput_crashed]

/-- A journaled call whose handler raised has an uncertain entry when it gets to its
end, so its completion raises too: only a failing audit keeps it from that. -/
theorem raised_journaled_iff (hknown : Known effects) (hreached : Reached call world effects)
    (hjournaled : call.journaled = true) {error : PyError}
    (hraised : world.handler = .raised error) (hexception : error.isException = true)
    (hrelease : world.release = none) (hfailure : world.failure = none) :
    Reports call world effects ↔ AuditFails call world ∧ world.auditFailure = none := by
  let before := journal.run (reservedTable call world effects) world.during
  let failed := fail before call.effectKey call.effectOwner (error.typeName ++ ": " ++ error.text)
    world.failedAt
  have hbefore : Known before := run_known (known_reservedTable hknown) world.during
  have hentry := holds_or_uncertain (known_reservedTable hknown)
    (holds_reservedTable hreached hjournaled) fun other hmem =>
      world.strangers other (List.mem_append_left _ (List.mem_append_left _ hmem))
  have hlost : Uncertain call.effectKey failed := uncertain_of_fail hentry
  have hfailed : Known failed := step_known hbefore (.fail call.effectKey call.effectOwner
    (error.typeName ++ ": " ++ error.text) world.failedAt)
  have hjournalFail : journalFail call before (error.typeName ++ ": " ++ error.text) world.failure
      world.failedAt = (none, failed) := by
    simp [journalFail, hjournaled, hfailure, failed]
  have hexecuted := executed_of_reached hreached
  rw [performed_of_raised hraised hexception hrelease hjournalFail] at hexecuted
  have hunowned : owned (journal.run failed world.completing) call.effectKey call.effectOwner
      = none :=
    owned_of_uncertain (run_uncertain hfailed hlost world.completing)
  constructor
  · intro hreports
    have hcontained := hreports.contained
    rw [leaks_invoke_iff, hexecuted, leaks_concluded_iff hjournaled, not_not] at hcontained
    by_cases haudit : AuditFails call world
    · rw [if_pos haudit] at hcontained
      exact ⟨haudit, hcontained⟩
    · rw [if_neg haudit, hunowned] at hcontained
      cases hcontained.2
  · rintro ⟨haudit, hauditFailure⟩
    obtain ⟨lost, hconcluded⟩ := @concluded_of_auditFails call world
      (journal.run failed world.completing) (crashed call error) haudit
    let lostTable := fail (journal.run failed world.completing) call.effectKey call.effectOwner
      ("audit completion failed: " ++ lost.typeName ++ ": " ++ lost.text) world.auditFailedAt
    have hend : auditFailed call world (journal.run failed world.completing)
        (auditLogId call world) (crashed call error) lost
          = (.ok ⟨auditLost call (auditLogId call world) (crashed call error) lost, false⟩,
            lostTable) := by
      simp [auditFailed, journalFail, hjournaled, hauditFailure, lostTable]
    rw [hconcluded, hend] at hexecuted
    have hinvoke := invoke_of_unsettled hexecuted
    refine ⟨fun _ _ _ => ⟨_, congrArg Prod.fst hinvoke, rfl, fun _ => .inl ?_⟩, ?_⟩
    · rw [hinvoke]
      let lastFail : Call := .fail call.effectKey call.effectOwner
        ("audit completion failed: " ++ lost.typeName ++ ": " ++ lost.text) world.auditFailedAt
      have hcompleting := run_known hfailed world.completing
      have hstill := run_uncertain hfailed hlost world.completing
      exact run_uncertain (step_known hcompleting lastFail)
        (step_uncertain hcompleting hstill lastFail) world.afterwards
    · rw [hinvoke]
      exact not_leaks_ok _

/-- A call that is not journaled reports the exception of its handler, unless the
settlement of its approval raises. -/
theorem raised_unjournaled_iff (hreached : Reached call world effects)
    (hjournaled : ¬ call.journaled = true) {error : PyError}
    (hraised : world.handler = .raised error) (hexception : error.isException = true)
    (hrelease : world.release = none) :
    Reports call world effects ↔ AuditFails call world ∨ world.settlement = none
      ∨ call.approvedApprovalId = "" ∨ call.governedRunId ≠ "" := by
  let before := journal.run (reservedTable call world effects) world.during
  have hjournalFail : journalFail call before (error.typeName ++ ": " ++ error.text) world.failure
      world.failedAt = (none, before) := by
    simp [journalFail, hjournaled]
  have hexecuted := executed_of_reached hreached
  rw [performed_of_raised hraised hexception hrelease hjournalFail] at hexecuted
  have hcontained : ¬ Leaks (invoke call world effects).1 := by
    rw [leaks_invoke_iff, hexecuted]
    exact not_leaks_concluded hjournaled _
  have hreports : Reports call world effects ↔ ∃ result,
      (invoke call world effects).1 = .ok result ∧ result.ok = false := by
    constructor
    · intro hreports
      obtain ⟨result, hresult, hok, -⟩ := hreports.result error hraised hreached
      exact ⟨result, hresult, hok⟩
    · rintro ⟨result, hresult, hok⟩
      exact ⟨fun _ _ _ => ⟨result, hresult, hok, fun hyes => absurd hyes hjournaled⟩, hcontained⟩
  rw [hreports]
  by_cases haudit : AuditFails call world
  · obtain ⟨lost, hconcluded⟩ := @concluded_of_auditFails call world
      (journal.run before world.completing) (crashed call error) haudit
    have hend : auditFailed call world (journal.run before world.completing)
        (auditLogId call world) (crashed call error) lost
          = (.ok ⟨auditLost call (auditLogId call world) (crashed call error) lost, false⟩,
            journal.run before world.completing) := by
      simp [auditFailed, journalFail, hjournaled]
    rw [hconcluded, hend] at hexecuted
    exact iff_of_true ⟨_, congrArg Prod.fst (invoke_of_unsettled hexecuted), rfl⟩ (.inl haudit)
  · have hend : completed call world (journal.run before world.completing) (crashed call error)
        = (.ok ⟨crashed call error, true⟩, journal.run before world.completing) := by
      simp [completed, hjournaled]
    rw [concluded_of_audited haudit, hend] at hexecuted
    unfold invoke
    rw [hexecuted]
    cases hsettlement : world.settlement with
    | none => exact iff_of_true ⟨_, rfl, rfl⟩ (.inr (.inl rfl))
    | some settlement =>
        simp only [settlementApplies_crashed, haudit, true_and, decide_eq_true_eq, false_or,
          reduceCtorEq]
        by_cases happlies : call.approvedApprovalId ≠ "" ∧ call.governedRunId = ""
        · rw [if_pos happlies]
          refine iff_of_false ?_ ?_
          · rintro ⟨result, hresult, -⟩
            cases hresult
          · rintro (hid | hgoverned)
            · exact happlies.1 hid
            · exact hgoverned happlies.2
        · rw [if_neg happlies]
          refine iff_of_true ⟨_, rfl, rfl⟩ ?_
          by_contra hneither
          push Not at hneither
          exact happlies hneither

theorem raised_iff (hknown : Known effects) (hreached : Reached call world effects)
    {error : PyError} (hraised : world.handler = .raised error) :
    Reports call world effects ↔ RaiseHandled call world error := by
  have hexecuted := executed_of_reached hreached
  unfold RaiseHandled
  by_cases hexception : error.isException = true
  · cases hrelease : world.release with
    | some release =>
        refine iff_of_false ?_ fun h => Option.some_ne_none _ h.2.1
        obtain ⟨table, herror⟩ : ∃ table, executed call world effects
            = (.error ⟨.release, release⟩, table) := by
          rw [hexecuted]
          simp [performed, handled, hraised, hexception, hrelease]
        exact not_reports_of_error hraised hreached herror
    | none =>
        by_cases hjournaled : call.journaled = true
        · rw [if_pos hjournaled]
          cases hfailure : world.failure with
          | some failure =>
              refine iff_of_false ?_ fun h => Option.some_ne_none _ h.2.2.1
              obtain ⟨table, herror⟩ : ∃ table, executed call world effects
                  = (.error ⟨.journalFail, failure⟩, table) := by
                rw [hexecuted]
                simp [performed, handled, hraised, hexception, hrelease, journalFail, hjournaled,
                  hfailure]
              exact not_reports_of_error hraised hreached herror
          | none =>
              rw [raised_journaled_iff hknown hreached hjournaled hraised hexception hrelease
                hfailure]
              simp [hexception]
        · rw [if_neg hjournaled, raised_unjournaled_iff hreached hjournaled hraised hexception
            hrelease]
          simp [hexception]
  · refine iff_of_false ?_ fun h => hexception h.1
    cases hrelease : world.release with
    | some release =>
        obtain ⟨table, herror⟩ : ∃ table, executed call world effects
            = (.error ⟨.release, release⟩, table) := by
          rw [hexecuted]
          simp [performed, handled, hraised, hexception, hrelease]
        exact not_reports_of_error hraised hreached herror
    | none =>
        obtain ⟨table, herror⟩ : ∃ table, executed call world effects
            = (.error ⟨.handler, error⟩, table) := by
          rw [hexecuted]
          simp [performed, handled, hraised, hexception, hrelease]
        exact not_reports_of_error hraised hreached herror

end

/-- Over every journal that its calls lead to, a call reports what its handler does
exactly where the condition holds. -/
theorem handler_failures_reported_iff (call : Invocation) (world : World call)
    (calls : List Call) :
    Reports call world (journal.run emptyTable calls)
      ↔ Handled call world (journal.run emptyTable calls) := by
  have hknown : Known (journal.run emptyTable calls) := run_known known_empty calls
  unfold Handled
  by_cases hreached : Reached call world (journal.run emptyTable calls)
  · rw [forall_prop_of_true hreached]
    cases hhandler : world.handler with
    | raised error => exact raised_iff hknown hreached hhandler
    | returned result => exact returned_iff hknown hreached hhandler
  · refine iff_of_true ⟨fun _ _ h => absurd h hreached, ?_⟩ fun h => absurd h hreached
    rw [leaks_invoke_iff]
    exact not_leaks_of_unreached hreached

/-! ## A handler that raises in a loop -/

/-- A mutating action of a loop, called with its effect key. -/
def journaledCall : Invocation where
  name := "update_goal"
  toolCapability := false
  callHasEffect := true
  loopRunId := "loop"
  effectKey := "loop:update_goal"
  effectOwner := "capability:0"
  outputSchemaErrors _ := []
  approvedApprovalId := ""
  governedRunId := ""

/-- Its handler raises, and nothing else goes wrong. -/
def raisingWorld : World journaledCall where
  reservedAt := 0
  decision := "allow"
  reason := "ok"
  grantFacts := []
  auditReservation := .ok "log"
  handler := .raised ⟨"ValueError", "unknown goal", true⟩
  during := []
  failure := none
  failedAt := 1
  release := none
  auditCompletion := none
  auditFailure := none
  auditFailedAt := 1
  completing := []
  completion := none
  completedAt := 1
  settlement := none
  afterwards := []
  strangers _ hother := absurd hother List.not_mem_nil

/-- The completion that follows raises out of the call. -/
theorem handler_failure_escapes :
    (invoke journaledCall raisingWorld emptyTable).1 = .error ⟨.journalComplete,
        ⟨"RuntimeError", "effect journal ownership changed before completion", true⟩⟩
      ∧ ¬ Reports journaledCall raisingWorld emptyTable := by
  have hraises : (invoke journaledCall raisingWorld emptyTable).1 = .error ⟨.journalComplete,
      ⟨"RuntimeError", "effect journal ownership changed before completion", true⟩⟩ := by
    rfl
  refine ⟨hraises, fun hreports => hreports.contained ?_⟩
  rw [hraises]
  exact leaks_error.mpr (.inr (.inr rfl))

end Navi.Capabilities
