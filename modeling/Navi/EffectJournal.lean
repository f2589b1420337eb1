import Mathlib.Logic.Function.Basic
import Navi.Base.Dict
import Navi.Base.System

/-!
# The effect journal

A mutating capability reserves its effect key before it runs and settles the
entry afterwards. Every method is one transaction on `loop_effects`, so any
interleaving of callers is a sequence of calls. `journal` is the machine those
calls drive and `EntryStep` is all that one call can do to one entry; the
at-most-once theorem is read off it.
-/

namespace Navi.EffectJournal

open Navi.Base

/-- The `status` column. `other` is any text the journal itself never writes. -/
inductive EffectStatus where
  | active
  | completed
  | uncertain
  | other (text : String)
  deriving DecidableEq

/-- A row of `loop_effects`. `resultJson` is the object the JSON column encodes;
the empty text decodes to the empty object. -/
structure EffectRow where
  loopRunId : String
  tool : String
  status : EffectStatus
  owner : String
  leaseExpiresAt : Time
  resultJson : Dict
  error : String
  createdAt : Time
  updatedAt : Time

/-- The table, by `effect_key`. -/
abbrev Table := String → Option EffectRow

/-- The table as the constructor creates it. -/
def emptyTable : Table := fun _ => none

/-- The `status` of an `EffectReservation`. -/
inductive ReservationStatus where
  | acquired
  | replay
  | uncertain
  | busy
  deriving DecidableEq

/-- What `reserve` returns. -/
structure EffectReservation where
  status : ReservationStatus
  result : Option Dict

/-- `EffectJournal.reserve`. -/
def reserve (effects : Table) (effectKey loopRunId tool owner : String)
    (leaseSeconds currentTime : Time) : EffectReservation × Table :=
  match effects effectKey with
  | some row =>
      match row.status with
      | .completed => (⟨.replay, some row.resultJson⟩, effects)
      | .uncertain => (⟨.uncertain, none⟩, effects)
      | .active =>
          if row.leaseExpiresAt > currentTime then (⟨.busy, none⟩, effects)
          else
            -- an expired reservation may have run: it is never taken over
            (⟨.uncertain, none⟩, Function.update effects effectKey (some { row with
              status := .uncertain, leaseExpiresAt := 0,
              error := "lease_expired_without_reconciliation", updatedAt := currentTime }))
      | .other _ =>
          (⟨.acquired, none⟩, Function.update effects effectKey (some { row with
            status := .active, owner := owner, leaseExpiresAt := currentTime + leaseSeconds,
            resultJson := [], error := "", updatedAt := currentTime }))
  | none =>
      (⟨.acquired, none⟩, Function.update effects effectKey (some {
        loopRunId := loopRunId, tool := tool, status := .active, owner := owner,
        leaseExpiresAt := currentTime + leaseSeconds, resultJson := [], error := "",
        createdAt := currentTime, updatedAt := currentTime }))

/-- `effect_key = ? AND owner = ? AND status = 'active'`. -/
def owned (effects : Table) (effectKey owner : String) : Option EffectRow :=
  match effects effectKey with
  | some row => if row.owner = owner ∧ row.status = .active then some row else none
  | none => none

/-- `EffectJournal.complete`. -/
def complete (effects : Table) (effectKey owner : String) (result : Dict) (currentTime : Time) :
    Except String Unit × Table :=
  match owned effects effectKey owner with
  | some row =>
      (.ok (), Function.update effects effectKey (some { row with
        status := .completed, resultJson := result, error := "", leaseExpiresAt := 0,
        updatedAt := currentTime }))
  | none => (.error "effect journal ownership changed before completion", effects)

/-- `EffectJournal.fail`. -/
def fail (effects : Table) (effectKey owner error : String) (currentTime : Time) : Table :=
  match owned effects effectKey owner with
  | some row =>
      Function.update effects effectKey (some { row with
        status := .uncertain, error := error, leaseExpiresAt := 0, updatedAt := currentTime })
  | none => effects

/-- `EffectJournal.abandon`, with the number of rows it deleted. -/
def abandon (effects : Table) (effectKey owner : String) : Nat × Table :=
  match owned effects effectKey owner with
  | some _ => (1, Function.update effects effectKey none)
  | none => (0, effects)

/-- A call of the journal by one of its users, at some clock reading. -/
inductive Call where
  | reserve (effectKey loopRunId tool owner : String) (leaseSeconds now : Time)
  | complete (effectKey owner : String) (result : Dict) (now : Time)
  | fail (effectKey owner error : String) (now : Time)
  | abandon (effectKey owner : String)

def Call.key : Call → String
  | .reserve effectKey .. => effectKey
  | .complete effectKey .. => effectKey
  | .fail effectKey .. => effectKey
  | .abandon effectKey _ => effectKey

/-- What a call returned to its caller. -/
inductive Outcome where
  | reserved (reservation : EffectReservation)
  | completed (result : Except String Unit)
  | failed
  | abandoned (rows : Nat)

/-- The journal as a machine: one call, one transaction. -/
def journal : Machine Table Call Outcome where
  step effects
    | .reserve effectKey loopRunId tool owner leaseSeconds now =>
        let (reservation, effects) :=
          reserve effects effectKey loopRunId tool owner leaseSeconds now
        (effects, .reserved reservation)
    | .complete effectKey owner result now =>
        let (ended, effects) := complete effects effectKey owner result now
        (effects, .completed ended)
    | .fail effectKey owner error now => (fail effects effectKey owner error now, .failed)
    | .abandon effectKey owner =>
        let (rows, effects) := abandon effects effectKey owner
        (effects, .abandoned rows)

/-! ## What one call does to one entry -/

/-- The status is one the journal writes. -/
def EffectRow.Known (row : EffectRow) : Prop := ∀ text, row.status ≠ .other text

/-- Every entry has a status the journal writes. -/
def Known (effects : Table) : Prop := ∀ key, ∀ row ∈ effects key, row.Known

/-- All that a call can do to the entry of its own key: the entry before, what
the call returned, the entry after. -/
inductive EntryStep : Option EffectRow → Call → Outcome → Option EffectRow → Prop where
  | acquire {key loopRunId tool owner lease now} {row : EffectRow}
      (hactive : row.status = .active) :
      EntryStep none (.reserve key loopRunId tool owner lease now)
        (.reserved ⟨.acquired, none⟩) (some row)
  | replay {key loopRunId tool owner lease now} {row : EffectRow}
      (hdone : row.status = .completed) :
      EntryStep (some row) (.reserve key loopRunId tool owner lease now)
        (.reserved ⟨.replay, some row.resultJson⟩) (some row)
  | refuse {key loopRunId tool owner lease now} {row : EffectRow} {status}
      (hopen : row.status ≠ .completed) (hrefused : status ≠ .acquired) :
      EntryStep (some row) (.reserve key loopRunId tool owner lease now)
        (.reserved ⟨status, none⟩) (some row)
  | expire {key loopRunId tool owner lease now} {row row' : EffectRow}
      (hactive : row.status = .active) (huncertain : row'.status = .uncertain) :
      EntryStep (some row) (.reserve key loopRunId tool owner lease now)
        (.reserved ⟨.uncertain, none⟩) (some row')
  | complete {key owner result now} {row row' : EffectRow} (hactive : row.status = .active)
      (hdone : row'.status = .completed) (hresult : row'.resultJson = result) :
      EntryStep (some row) (.complete key owner result now) (.completed (.ok ())) (some row')
  | completeRefused {key owner result now error entry} :
      EntryStep entry (.complete key owner result now) (.completed (.error error)) entry
  | fail {key owner error now} {row row' : EffectRow} (hactive : row.status = .active)
      (huncertain : row'.status = .uncertain) :
      EntryStep (some row) (.fail key owner error now) .failed (some row')
  | failRefused {key owner error now entry} :
      EntryStep entry (.fail key owner error now) .failed entry
  | abandon {key owner} {row : EffectRow} (hactive : row.status = .active) :
      EntryStep (some row) (.abandon key owner) (.abandoned 1) none
  | abandonRefused {key owner entry} :
      EntryStep entry (.abandon key owner) (.abandoned 0) entry

theorem owned_eq_some {effects : Table} {effectKey owner : String} {row : EffectRow}
    (h : owned effects effectKey owner = some row) :
    effects effectKey = some row ∧ row.owner = owner ∧ row.status = .active := by
  unfold owned at h
  split at h
  next found hfound =>
    split at h
    next hguard =>
      obtain rfl := Option.some.inj h
      exact ⟨hfound, hguard⟩
    next => exact absurd h (by simp)
  next => exact absurd h (by simp)

theorem step_frame (effects : Table) (call : Call) {key : String} (hkey : call.key ≠ key) :
    (journal.step effects call).1 key = effects key := by
  cases call with
  | reserve effectKey loopRunId tool owner leaseSeconds now =>
      have hne : key ≠ effectKey := fun h => hkey h.symm
      simp only [journal, reserve]
      repeat' split
      all_goals simp [Function.update_of_ne hne]
  | complete effectKey owner result now =>
      have hne : key ≠ effectKey := fun h => hkey h.symm
      simp only [journal, complete]
      cases owned effects effectKey owner <;> simp [Function.update_of_ne hne]
  | fail effectKey owner error now =>
      have hne : key ≠ effectKey := fun h => hkey h.symm
      simp only [journal, fail]
      cases owned effects effectKey owner <;> simp [Function.update_of_ne hne]
  | abandon effectKey owner =>
      have hne : key ≠ effectKey := fun h => hkey h.symm
      simp only [journal, abandon]
      cases owned effects effectKey owner <;> simp [Function.update_of_ne hne]

theorem step_entry {effects : Table} (hknown : Known effects) (call : Call) :
    EntryStep (effects call.key) call (journal.step effects call).2
      ((journal.step effects call).1 call.key) := by
  cases call with
  | reserve effectKey loopRunId tool owner leaseSeconds now =>
      simp only [journal, reserve, Call.key]
      cases hentry : effects effectKey with
      | none => simpa using EntryStep.acquire rfl
      | some row =>
          cases hstatus : row.status with
          | completed => simpa [hentry, hstatus] using EntryStep.replay hstatus
          | uncertain =>
              simpa [hentry, hstatus] using EntryStep.refuse (by simp [hstatus]) (by simp)
          | active =>
              by_cases hlease : row.leaseExpiresAt > now
              · simpa [hentry, hstatus, hlease] using EntryStep.refuse (by simp [hstatus]) (by simp)
              · simpa [hentry, hstatus, hlease] using EntryStep.expire hstatus rfl
          | other text => exact absurd hstatus (hknown effectKey row hentry text)
  | complete effectKey owner result now =>
      simp only [journal, complete, Call.key]
      cases howned : owned effects effectKey owner with
      | none => exact EntryStep.completeRefused
      | some row =>
          obtain ⟨hentry, -, hactive⟩ := owned_eq_some howned
          simp only [hentry, Function.update_self]
          exact EntryStep.complete hactive rfl rfl
  | fail effectKey owner error now =>
      simp only [journal, fail, Call.key]
      cases howned : owned effects effectKey owner with
      | none => exact EntryStep.failRefused
      | some row =>
          obtain ⟨hentry, -, hactive⟩ := owned_eq_some howned
          simp only [hentry, Function.update_self]
          exact EntryStep.fail hactive rfl
  | abandon effectKey owner =>
      simp only [journal, abandon, Call.key]
      cases howned : owned effects effectKey owner with
      | none => exact EntryStep.abandonRefused
      | some row =>
          obtain ⟨hentry, -, hactive⟩ := owned_eq_some howned
          simp only [hentry, Function.update_self]
          exact EntryStep.abandon hactive

/-! ## What a run of calls keeps -/

theorem known_empty : Known emptyTable := by
  intro key row hrow
  exact absurd hrow (by simp [emptyTable])

theorem EntryStep.known {entry entry' : Option EffectRow} {call : Call} {out : Outcome}
    (h : EntryStep entry call out entry') (hknown : ∀ row ∈ entry, row.Known) :
    ∀ row ∈ entry', row.Known := by
  intro row' hrow' text htext
  -- every constructor either writes a status of its own or returns the row it found
  cases h with
  | acquire hwrites | expire _ hwrites | complete _ hwrites | fail _ hwrites =>
      obtain rfl := Option.some.inj hrow'
      simp [hwrites] at htext
  | replay | refuse | completeRefused | failRefused | abandonRefused =>
      exact hknown row' hrow' text htext
  | abandon => cases hrow'

theorem EntryStep.completed {row : EffectRow} {entry' : Option EffectRow} {call : Call}
    {out : Outcome} (h : EntryStep (some row) call out entry') (hdone : row.status = .completed) :
    entry' = some row := by
  cases h with
  | replay | refuse | completeRefused | failRefused | abandonRefused => rfl
  | expire hactive | complete hactive | fail hactive | abandon hactive => simp [hdone] at hactive

theorem EntryStep.uncertain {row : EffectRow} {entry' : Option EffectRow} {call : Call}
    {out : Outcome} (h : EntryStep (some row) call out entry') (hlost : row.status = .uncertain) :
    entry' = some row := by
  cases h with
  | replay | refuse | completeRefused | failRefused | abandonRefused => rfl
  | expire hactive | complete hactive | fail hactive | abandon hactive => simp [hlost] at hactive

theorem step_known {effects : Table} (hknown : Known effects) (call : Call) :
    Known (journal.step effects call).1 := by
  intro key
  by_cases hkey : call.key = key
  · subst hkey
    exact (step_entry hknown call).known (hknown call.key)
  · rw [step_frame effects call hkey]
    exact hknown key

def Call.Reserves (key : String) : Call → Prop
  | .reserve effectKey .. => effectKey = key
  | _ => False

/-- One where the call is a reservation of this key that was acquired. -/
def acquired (key : String) : Call × Outcome → Nat
  | (.reserve effectKey .., .reserved ⟨.acquired, _⟩) => if effectKey = key then 1 else 0
  | _ => 0

/-- The rows of this key that the call abandoned. -/
def abandoned (key : String) : Call × Outcome → Nat
  | (.abandon effectKey _, .abandoned rows) => if effectKey = key then rows else 0
  | _ => 0

theorem acquired_of_other_key {call : Call} {key : String} (hkey : call.key ≠ key)
    (out : Outcome) : acquired key (call, out) = 0 := by
  unfold acquired
  split
  next hcall =>
    obtain ⟨rfl, -⟩ := Prod.mk.inj hcall
    exact if_neg hkey
  next => rfl

theorem abandoned_of_other_key {call : Call} {key : String} (hkey : call.key ≠ key)
    (out : Outcome) : abandoned key (call, out) = 0 := by
  unfold abandoned
  split
  next hcall =>
    obtain ⟨rfl, -⟩ := Prod.mk.inj hcall
    exact if_neg hkey
  next => rfl

def rows : Option EffectRow → Nat
  | some _ => 1
  | none => 0

/-- A reservation is acquired exactly when it creates the row, and an abandon
counts exactly when it deletes it. -/
theorem EntryStep.balance {entry entry' : Option EffectRow} {call : Call} {out : Outcome}
    (h : EntryStep entry call out entry') :
    rows entry + acquired call.key (call, out) = rows entry' + abandoned call.key (call, out) := by
  cases h with
  | @refuse _ _ _ _ _ _ _ status hopen hrefused =>
      cases status with
      | acquired => exact absurd rfl hrefused
      | _ => rfl
  | completeRefused | failRefused => rfl
  | abandonRefused => simp [acquired, abandoned, Call.key]
  | _ => simp [rows, acquired, abandoned, Call.key]

theorem step_balance {effects : Table} (hknown : Known effects) (call : Call) (key : String) :
    rows (effects key) + acquired key (call, (journal.step effects call).2)
      = rows ((journal.step effects call).1 key)
        + abandoned key (call, (journal.step effects call).2) := by
  by_cases hkey : call.key = key
  · subst hkey
    exact (step_entry hknown call).balance
  · rw [acquired_of_other_key hkey, abandoned_of_other_key hkey, step_frame effects call hkey]

/-- The entry is settled with this result. -/
def Completed (key : String) (result : Dict) (effects : Table) : Prop :=
  ∃ row, effects key = some row ∧ row.status = .completed ∧ row.resultJson = result

def Uncertain (key : String) (effects : Table) : Prop :=
  ∃ row, effects key = some row ∧ row.status = .uncertain

theorem step_completed {effects : Table} (hknown : Known effects) {key : String} {row : EffectRow}
    (hrow : effects key = some row) (hdone : row.status = .completed) (call : Call) :
    (journal.step effects call).1 key = some row := by
  by_cases hkey : call.key = key
  · subst hkey
    have hstep := step_entry hknown call
    rw [hrow] at hstep
    exact hstep.completed hdone
  · rw [step_frame effects call hkey, hrow]

theorem step_uncertain {effects : Table} (hknown : Known effects) {key : String}
    (huncertain : Uncertain key effects) (call : Call) :
    Uncertain key (journal.step effects call).1 := by
  obtain ⟨row, hrow, hstatus⟩ := huncertain
  refine ⟨row, ?_, hstatus⟩
  by_cases hkey : call.key = key
  · subst hkey
    have hstep := step_entry hknown call
    rw [hrow] at hstep
    exact hstep.uncertain hstatus
  · rw [step_frame effects call hkey, hrow]

theorem step_completed_replay {effects : Table} {key : String} {result : Dict}
    (hdone : Completed key result effects) {call : Call} (hcall : call.Reserves key) :
    (journal.step effects call).2 = .reserved ⟨.replay, some result⟩ := by
  obtain ⟨row, hrow, hstatus, hresult⟩ := hdone
  cases call with
  | reserve effectKey loopRunId tool owner leaseSeconds now =>
      obtain rfl : effectKey = key := hcall
      simp [journal, reserve, hrow, hstatus, hresult]
  | _ => exact hcall.elim

theorem step_uncertain_refuse {effects : Table} {key : String}
    (huncertain : Uncertain key effects) {call : Call} (hcall : call.Reserves key) :
    (journal.step effects call).2 = .reserved ⟨.uncertain, none⟩ := by
  obtain ⟨row, hrow, hstatus⟩ := huncertain
  cases call with
  | reserve effectKey loopRunId tool owner leaseSeconds now =>
      obtain rfl : effectKey = key := hcall
      simp [journal, reserve, hrow, hstatus]
  | _ => exact hcall.elim

theorem complete_ok {effects : Table} {key owner : String} {result : Dict} {now : Time}
    (hok : (complete effects key owner result now).1 = .ok ()) :
    Completed key result (journal.step effects (.complete key owner result now)).1 := by
  simp only [journal, complete] at hok ⊢
  cases howned : owned effects key owner with
  | none => simp [howned] at hok
  | some row => exact ⟨_, Function.update_self .., rfl, rfl⟩

/-- **At most once.** For every key and every sequence of calls on a fresh
journal: acquired reservations exceed successful abandons by at most one; once
a `complete` has succeeded, every later reservation replays its result and the
entry never changes again; and once the entry is uncertain no reservation is
acquired. -/
theorem effect_at_most_once (key : String) (calls : List Call) :
    ((journal.trace emptyTable calls).map (acquired key)).sum
        ≤ ((journal.trace emptyTable calls).map (abandoned key)).sum + 1
      ∧ (∀ before owner result now later,
          calls = before ++ .complete key owner result now :: later →
          (complete (journal.run emptyTable before) key owner result now).1 = .ok () →
          let settled :=
            (journal.step (journal.run emptyTable before) (.complete key owner result now)).1
          (∀ e ∈ journal.trace settled later, e.1.Reserves key →
              e.2 = .reserved ⟨.replay, some result⟩)
            ∧ Completed key result settled
            ∧ journal.run emptyTable calls key = settled key)
      ∧ (∀ before later, calls = before ++ later →
          Uncertain key (journal.run emptyTable before) →
          ∀ e ∈ journal.trace (journal.run emptyTable before) later, e.1.Reserves key →
            acquired key e = 0) := by
  have hknown : ∀ is, Known (journal.run emptyTable is) := fun is =>
    journal.run_preserves (I := Known) (fun _ call h => step_known h call) known_empty is
  refine ⟨?_, ?_, ?_⟩
  · have hbalance := journal.trace_balance (fun s => rows (s key)) (acquired key) (abandoned key)
      (fun _ call h => step_known h call) (fun _ call h => step_balance h call key)
      known_empty calls
    have hnone : rows (emptyTable key) = 0 := rfl
    have hone : rows (journal.run emptyTable calls key) ≤ 1 := by
      cases journal.run emptyTable calls key <;> simp [rows]
    omega
  · rintro before owner result now later rfl hok settled
    have hsettled : Completed key result settled := complete_ok hok
    have hsettledKnown : Known settled := step_known (hknown before) _
    obtain ⟨row, hrow, hdone, hresult⟩ := hsettled
    -- the invariant carried through the later calls: the very row `complete` wrote
    have hkeeps : ∀ (s : Table) (call : Call), Known s ∧ s key = some row →
        Known (journal.step s call).1 ∧ (journal.step s call).1 key = some row :=
      fun s call h => ⟨step_known h.1 call, step_completed h.1 h.2 hdone call⟩
    refine ⟨?_, ⟨row, hrow, hdone, hresult⟩, ?_⟩
    · exact journal.trace_forall
        (P := fun call out => call.Reserves key → out = .reserved ⟨.replay, some result⟩) hkeeps
        (fun s call h hcall => step_completed_replay ⟨row, h.2, hdone, hresult⟩ hcall)
        ⟨hsettledKnown, hrow⟩ later
    · rw [journal.run_append, journal.run_cons, hrow]
      exact (journal.run_preserves hkeeps ⟨hsettledKnown, hrow⟩ later).2
  · rintro before later rfl huncertain
    refine journal.trace_forall (I := fun s => Known s ∧ Uncertain key s)
      (P := fun call out => call.Reserves key → acquired key (call, out) = 0)
      (fun s call h => ⟨step_known h.1 call, step_uncertain h.1 h.2 call⟩) ?_
      ⟨hknown before, huncertain⟩ later
    intro s call h hcall
    rw [step_uncertain_refuse h.2 hcall]
    cases call <;> rfl

end Navi.EffectJournal
