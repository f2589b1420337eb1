import Mathlib.Logic.Function.Basic
import Navi.Base.NumberTexts
import Navi.Base.System
import Navi.Delivery.Outbox

/-!
# Delivery workers

`DeliveryCoordinator.drain` by any number of workers, interleaved at its store
calls with stale recovery, requeueing and new items. A claim leaves no owner on
the row, so a slow worker and its successor settle the same row in any order.
-/

namespace Navi.Delivery

open Navi.Base

/-- `STALE_SENDING_SECONDS`. -/
def staleSendingSeconds : Time := 300

/-- `_retry_delay`. -/
def retryDelay (attempts : Nat) (baseSeconds : Time) : Time :=
  min 3600 (max 1 baseSeconds * 2 ^ (attempts - 1))

/-- The loop variables of one `drain` call. -/
structure Loop where
  channel : String
  minimumPriority : Option Int
  remaining : Nat

/-- What is still to be stored about a claimed item. -/
inductive Verdict where
  | accepted (receipt : DeliveryReceipt)
  | refused (failure : DeliveryFailure)
  | lapsed

/-- Where a worker is inside `drain`. -/
inductive Worker where
  | idle
  | looping (loop : Loop)
  | holding (loop : Loop) (item : DeliveryItem)
  | delivering (loop : Loop) (item : DeliveryItem)
  | settling (loop : Loop) (item : DeliveryItem) (verdict : Verdict)

/-- The next round of the `for`, or the return. -/
def Loop.next (loop : Loop) : Worker :=
  if loop.remaining = 0 then .idle else .looping loop

/-- The queue, the workers, and (a history variable) the items for which some
worker's `mark_sent` has returned. -/
structure DrainState where
  outbox : Outbox
  workers : Nat → Worker
  receipted : List String

def DrainState.start (outbox : Outbox) : DrainState := ⟨outbox, fun _ => .idle, []⟩

/-- One store call or one transport answer. -/
inductive Label where
  | drain (worker : Nat) (channel : String) (limit : Int) (minimumPriority : Option Int)
      (now : Time)
  | claim (worker : Nat) (now : Time)
  | checkDeadline (worker : Nat) (now : Time)
  | deliver (worker : Nat) (answer : Except DeliveryFailure DeliveryReceipt)
  | settle (worker : Nat) (now : Time)
  | crash (worker : Nat)
  | enqueue (item : DeliveryItem)
  | recoverStaleSending (channel : String) (staleAfterSeconds now : Time) (limit : Int)
  | requeueFailed (itemId : String) (now : Time)

/-- The transport failures after which `drain` stops its loop. -/
def backsOff (failure : DeliveryFailure) : Bool :=
  failure.reason = "connector_rate_limited" ∨ failure.reason = "connector_transient_rejected"

/-- Store the verdict on a claimed item. -/
def settle (s : DrainState) (worker : Nat) (loop : Loop) (item : DeliveryItem) (now : Time) :
    Verdict → DrainState
  | .accepted receipt =>
      { outbox := (markSent s.outbox item.id receipt item.id now now).2
        workers := Function.update s.workers worker loop.next
        receipted := item.id :: s.receipted }
  | .refused failure =>
      let error := clip (failure.reason ++ ": " ++ failure.error)
      if failure.retryable ∧ item.attempts < item.maxAttempts then
        { s with
          outbox := (scheduleRetry s.outbox item.id error
            (retryDelay item.attempts failure.retryAfterSeconds) now).2
          workers := Function.update s.workers worker
            (if backsOff failure then .idle else loop.next) }
      else
        { s with
          outbox := (markFailed s.outbox item.id error now).2
          workers := Function.update s.workers worker loop.next }
  | .lapsed =>
      let error := "connector_delivery_expired: delivery deadline " ++ generalText item.expiresAt
        ++ " elapsed before connector receipt"
      { s with
        outbox := (markFailed s.outbox item.id error now).2
        workers := Function.update s.workers worker loop.next }

/-- `drain` by every worker, statement by statement. -/
def drainSystem : System DrainState Label where
  step s
    | .drain worker channel limit minimumPriority now =>
        match s.workers worker with
        | .idle => some { s with
            outbox := (recoverStaleSending s.outbox channel staleSendingSeconds now 100).2
            workers := Function.update s.workers worker
              (.looping ⟨channel, minimumPriority, (max 1 limit).toNat⟩) }
        | _ => none
    | .claim worker now =>
        match s.workers worker with
        | .looping loop =>
            match claimReady s.outbox loop.channel 1 now loop.minimumPriority with
            | ([], outbox) => some { s with
                outbox := outbox, workers := Function.update s.workers worker .idle }
            | (item :: _, outbox) => some { s with
                outbox := outbox
                workers := Function.update s.workers worker
                  (.holding { loop with remaining := loop.remaining - 1 } item) }
        | _ => none
    | .checkDeadline worker now =>
        match s.workers worker with
        | .holding loop item => some { s with
            workers := Function.update s.workers worker
              (if item.expiresAt ≠ 0 ∧ item.expiresAt ≤ now then .settling loop item .lapsed
                else .delivering loop item) }
        | _ => none
    | .deliver worker answer =>
        match s.workers worker with
        | .delivering loop item => some { s with
            workers := Function.update s.workers worker
              (.settling loop item (match answer with
                | .ok receipt => .accepted receipt
                | .error failure => .refused failure)) }
        | _ => none
    | .settle worker now =>
        match s.workers worker with
        | .settling loop item verdict => some (settle s worker loop item now verdict)
        | _ => none
    | .crash worker => some { s with workers := Function.update s.workers worker .idle }
    | .enqueue item => some { s with outbox := s.outbox.insertOrIgnore item }
    | .recoverStaleSending channel staleAfterSeconds now limit => some { s with
        outbox := (recoverStaleSending s.outbox channel staleAfterSeconds now limit).2 }
    | .requeueFailed itemId now => some { s with
        outbox := (requeueFailed s.outbox itemId now).2 }

/-! ## What a step keeps -/

/-- The item a worker has claimed and not yet settled. -/
def Worker.item? : Worker → Option DeliveryItem
  | .holding _ item => some item
  | .delivering _ item => some item
  | .settling _ item _ => some item
  | _ => none

/-- The row of every claimed item is live. -/
def DrainState.Held (s : DrainState) : Prop :=
  ∀ worker, ∀ item ∈ (s.workers worker).item?,
    ∃ row, s.outbox.get? item.id = some row ∧ row.Live

/-- Every item whose receipt was handed to a returned `mark_sent` is sent with a
receipt. -/
def DrainState.Kept (s : DrainState) : Prop :=
  ∀ id ∈ s.receipted, ∃ row, s.outbox.get? id = some row ∧ row.Receipted

/-- When a worker is about to store a receipt, the item is not failed. -/
def FindsOpen (s : DrainState) : Label → Prop
  | .settle worker _ =>
      match s.workers worker with
      | .settling _ item (.accepted _) =>
          ∀ row ∈ s.outbox.get? item.id, row.status ≠ .failed
      | _ => True
  | _ => True

/-- All that a step can do: the queue evolves; a worker's claimed item is one it
had or a row it has just moved to `sending`; and `mark_sent` is recorded only
for a receipt that a worker held. -/
structure StepFacts (s : DrainState) (label : Label) (s' : DrainState) : Prop where
  evolves : Evolves s.outbox s'.outbox
  item : ∀ worker, ∀ item ∈ (s'.workers worker).item?,
    (∃ item₀ ∈ (s.workers worker).item?, item₀.id = item.id)
      ∨ ∃ row, s'.outbox.get? item.id = some row ∧ row.Live
  receipted : s'.receipted = s.receipted
    ∨ ∃ worker loop item receipt now, label = .settle worker now
        ∧ s.workers worker = .settling loop item (.accepted receipt)
        ∧ s' = settle s worker loop item now (.accepted receipt)

theorem item?_update {workers : Nat → Worker} {worker : Nat} {new : Worker} {w : Nat}
    {item : DeliveryItem} (h : item ∈ (Function.update workers worker new w).item?) :
    (w = worker ∧ item ∈ new.item?) ∨ item ∈ (workers w).item? := by
  by_cases hw : w = worker
  · subst hw
    rw [Function.update_self] at h
    exact .inl ⟨rfl, h⟩
  · rw [Function.update_of_ne hw] at h
    exact .inr h

@[simp] theorem item?_next (loop : Loop) : loop.next.item? = none := by
  unfold Loop.next
  split <;> rfl

theorem item_of_update {s : DrainState} {s' : DrainState} {worker : Nat} {new : Worker}
    (hworkers : s'.workers = Function.update s.workers worker new)
    (hnew : ∀ item ∈ new.item?, ∃ item₀ ∈ (s.workers worker).item?, item₀.id = item.id) :
    ∀ w, ∀ item ∈ (s'.workers w).item?,
      (∃ item₀ ∈ (s.workers w).item?, item₀.id = item.id)
        ∨ ∃ row, s'.outbox.get? item.id = some row ∧ row.Live := by
  intro w item hitem
  rw [hworkers] at hitem
  rcases item?_update hitem with ⟨rfl, hmem⟩ | hmem
  · exact .inl (hnew item hmem)
  · exact .inl ⟨item, hmem, rfl⟩

theorem settle_facts {s : DrainState} {worker : Nat} {loop : Loop} {item : DeliveryItem}
    {verdict : Verdict} (hworker : s.workers worker = .settling loop item verdict) (now : Time) :
    StepFacts s (.settle worker now) (settle s worker loop item now verdict) := by
  cases verdict with
  | accepted receipt =>
      exact ⟨markSent_evolves, item_of_update rfl (by simp),
        .inr ⟨worker, loop, item, receipt, now, rfl, hworker, rfl⟩⟩
  | refused failure =>
      simp only [settle]
      split
      · refine ⟨scheduleRetry_evolves, item_of_update rfl ?_, .inl rfl⟩
        split
        · simp [Worker.item?]
        · simp
      · exact ⟨markFailed_evolves, item_of_update rfl (by simp), .inl rfl⟩
  | lapsed => exact ⟨markFailed_evolves, item_of_update rfl (by simp), .inl rfl⟩

theorem claimed_live {outbox outbox' : Outbox} {channel : String} {limit : Int} {now : Time}
    {minimumPriority : Option Int} {item : DeliveryItem} {rest : List DeliveryItem}
    (h : claimReady outbox channel limit now minimumPriority = (item :: rest, outbox')) :
    ∃ row, outbox'.get? item.id = some row ∧ row.Live := by
  obtain ⟨hrows, houtbox⟩ := Prod.mk.inj h
  have hmem : item ∈ (readyRows outbox channel limit now minimumPriority).map (·.claimed now) := by
    rw [hrows]
    exact List.mem_cons_self
  obtain ⟨row, hrow, rfl⟩ := List.mem_map.mp hmem
  obtain ⟨hget, hpending⟩ := readyRows_pending hrow
  obtain ⟨row', hrow', hstep⟩ :=
    claimReady_evolves outbox channel limit now minimumPriority _ _ hget
  rw [h] at hrow'
  exact ⟨row', hrow', hstep.live (.inl hpending)⟩

theorem step_facts {s s' : DrainState} {label : Label} (h : drainSystem.step s label = some s') :
    StepFacts s label s' := by
  cases label with
  | drain worker channel limit minimumPriority now =>
      simp only [drainSystem] at h
      split at h
      next =>
        obtain rfl := Option.some.inj h
        exact ⟨recoverStaleSending_evolves, item_of_update rfl (by simp [Worker.item?]), .inl rfl⟩
      next => cases h
  | claim worker now =>
      simp only [drainSystem] at h
      split at h
      next loop hworker =>
        have hevolves := claimReady_evolves s.outbox loop.channel 1 now loop.minimumPriority
        split at h
        next outbox hclaim =>
          obtain rfl := Option.some.inj h
          rw [hclaim] at hevolves
          exact ⟨hevolves, item_of_update rfl (by simp [Worker.item?]), .inl rfl⟩
        next item rest outbox hclaim =>
          obtain rfl := Option.some.inj h
          rw [hclaim] at hevolves
          refine ⟨hevolves, ?_, .inl rfl⟩
          intro w held hheld
          rcases item?_update hheld with ⟨rfl, hmem⟩ | hmem
          · obtain rfl := Option.some.inj hmem
            exact .inr (claimed_live hclaim)
          · exact .inl ⟨held, hmem, rfl⟩
      next => cases h
  | checkDeadline worker now =>
      simp only [drainSystem] at h
      split at h
      next loop item hworker =>
        obtain rfl := Option.some.inj h
        refine ⟨.refl _, item_of_update rfl fun held hheld => ⟨item, ?_, ?_⟩, .inl rfl⟩
        · simp [hworker, Worker.item?]
        · split at hheld <;> simp_all [Worker.item?]
      next => cases h
  | deliver worker answer =>
      simp only [drainSystem] at h
      split at h
      next loop item hworker =>
        obtain rfl := Option.some.inj h
        refine ⟨.refl _, item_of_update rfl fun held hheld => ⟨item, ?_, ?_⟩, .inl rfl⟩
        · simp [hworker, Worker.item?]
        · simp_all [Worker.item?]
      next => cases h
  | settle worker now =>
      simp only [drainSystem] at h
      split at h
      next loop item verdict hworker =>
        obtain rfl := Option.some.inj h
        exact settle_facts hworker now
      next => cases h
  | crash worker =>
      obtain rfl := Option.some.inj h
      exact ⟨.refl _, item_of_update rfl (by simp [Worker.item?]), .inl rfl⟩
  | enqueue item =>
      obtain rfl := Option.some.inj h
      exact ⟨insertOrIgnore_evolves, fun w held hheld => .inl ⟨held, hheld, rfl⟩, .inl rfl⟩
  | recoverStaleSending channel staleAfterSeconds now limit =>
      obtain rfl := Option.some.inj h
      exact ⟨recoverStaleSending_evolves, fun w held hheld => .inl ⟨held, hheld, rfl⟩, .inl rfl⟩
  | requeueFailed itemId now =>
      obtain rfl := Option.some.inj h
      exact ⟨requeueFailed_evolves, fun w held hheld => .inl ⟨held, hheld, rfl⟩, .inl rfl⟩

theorem step_held {s s' : DrainState} {label : Label} (hheld : s.Held)
    (h : drainSystem.step s label = some s') : s'.Held := by
  have hfacts := step_facts h
  intro worker item hitem
  rcases hfacts.item worker item hitem with ⟨item₀, hmem, hid⟩ | hlive
  · obtain ⟨row, hrow, hlive⟩ := hheld worker item₀ hmem
    obtain ⟨row', hrow', hstep⟩ := hfacts.evolves _ row hrow
    exact ⟨row', hid ▸ hrow', hstep.live hlive⟩
  · exact hlive

theorem findsOpen_or_accepts (s : DrainState) (label : Label) :
    FindsOpen s label ∨ ∃ worker loop item receipt now, label = .settle worker now
      ∧ s.workers worker = .settling loop item (.accepted receipt) := by
  unfold FindsOpen
  split
  next worker now =>
    split
    next loop item receipt hworker => exact .inr ⟨worker, loop, item, receipt, now, rfl, hworker⟩
    next => exact .inl trivial
  next => exact .inl trivial

/-- Storing a receipt keeps the recorded receipts exactly when it finds its item
open. -/
theorem accept_kept_iff {s : DrainState} (hheld : s.Held) {worker : Nat} {loop : Loop}
    {item : DeliveryItem} {receipt : DeliveryReceipt} {now : Time}
    (hworker : s.workers worker = .settling loop item (.accepted receipt))
    (hold : ∀ id ∈ s.receipted, ∃ row,
      (settle s worker loop item now (.accepted receipt)).outbox.get? id = some row
        ∧ row.Receipted) :
    (settle s worker loop item now (.accepted receipt)).Kept
      ↔ FindsOpen s (.settle worker now) := by
  obtain ⟨row, hrow, hlive⟩ := hheld worker item (by simp [hworker, Worker.item?])
  have hfinds : FindsOpen s (.settle worker now) ↔ row.status ≠ .failed := by
    simp [FindsOpen, hworker, hrow]
  rw [hfinds]
  constructor
  · intro hkept hfailed
    obtain ⟨row', hrow', hsent, -⟩ := hkept item.id List.mem_cons_self
    have hsame := markSent_failed hrow hfailed receipt item.id now now
    obtain rfl : row = row' := Option.some.inj (hsame.symm.trans hrow')
    simp [hfailed] at hsent
  · intro hopen id hid
    rcases List.mem_cons.mp hid with rfl | hid
    · exact markSent_receipted hrow hlive hopen receipt item.id now now
    · exact hold id hid

/-- A step keeps every recorded receipt exactly when a receipt being stored
does not find its item failed. -/
theorem step_kept_iff {s s' : DrainState} {label : Label} (hheld : s.Held) (hkept : s.Kept)
    (h : drainSystem.step s label = some s') : s'.Kept ↔ FindsOpen s label := by
  have hfacts := step_facts h
  have hold : ∀ id ∈ s.receipted, ∃ row, s'.outbox.get? id = some row ∧ row.Receipted := by
    intro id hid
    obtain ⟨row, hrow, hreceipted⟩ := hkept id hid
    obtain ⟨row', hrow', hstep⟩ := hfacts.evolves id row hrow
    exact ⟨row', hrow', hstep.receipted hreceipted⟩
  rcases findsOpen_or_accepts s label with hopen | ⟨worker, loop, item, receipt, now, rfl, hworker⟩
  · refine iff_of_true ?_ hopen
    rcases hfacts.receipted with hsame | ⟨worker, loop, item, receipt, now, rfl, hworker, rfl⟩
    · intro id hid
      exact hold id (hsame ▸ hid)
    · exact (accept_kept_iff hheld hworker hold).mpr hopen
  · simp only [drainSystem, hworker] at h
    obtain rfl := Option.some.inj h
    exact accept_kept_iff hheld hworker hold

/-! ## Receipts over whole runs -/

theorem start_held (outbox : Outbox) : (DrainState.start outbox).Held := by
  intro worker item hitem
  cases hitem

theorem start_kept (outbox : Outbox) : (DrainState.start outbox).Kept := by
  intro id hid
  cases hid

theorem settle_enabled {s : DrainState} {label : Label} (h : ¬ FindsOpen s label) :
    ∃ s', drainSystem.step s label = some s' := by
  rcases findsOpen_or_accepts s label with hopen | ⟨worker, loop, item, receipt, now, rfl, hworker⟩
  · exact absurd hopen h
  · exact ⟨settle s worker loop item now (.accepted receipt), by simp [drainSystem, hworker]⟩

/-- **A stored receipt is kept.** In every run from any queue, every item whose
receipt was handed to a returned `mark_sent` is sent with a receipt in every
later state, if and only if no `mark_sent` found its item failed. -/
theorem receipt_kept_iff (outbox : Outbox) (labels : List Label) :
    (∀ n s, drainSystem.run (.start outbox) (labels.take n) = some s → s.Kept)
      ↔ drainSystem.Along FindsOpen (.start outbox) labels :=
  drainSystem.run_good_iff (fun _ _ _ hheld h => step_held hheld h)
    (fun _ _ _ hheld hkept h => step_kept_iff hheld hkept h) (fun _ _ h => settle_enabled h)
    (start_held outbox) (start_kept outbox) labels

def slowItem : DeliveryItem where
  id := "batch:text"
  channel := "weixin"
  priority := 0
  expiresAt := 0
  status := .pending
  attempts := 0
  maxAttempts := 3
  nextAttemptAt := 0
  error := ""
  receipt := none
  deliveryId := ""
  projectedAt := 0
  createdAt := 0
  updatedAt := 0
  sentAt := 0

/-- Worker 0 claims the item and its transport is slow; worker 1 recovers the
stale claim, is refused for good and marks the item failed; then worker 0's
receipt arrives. -/
def slowRun : List Label :=
  [.enqueue slowItem,
    .drain 0 "weixin" 1 none 0, .claim 0 0, .checkDeadline 0 0,
    .drain 1 "weixin" 1 none 400, .claim 1 400, .checkDeadline 1 400,
    .deliver 1 (.error ⟨"connector_rejected", "peer refused", false, 0⟩), .settle 1 401,
    .deliver 0 (.ok ⟨"weixin", 0, []⟩), .settle 0 402]

/-- A returned `mark_sent` can leave its item failed and without a receipt. -/
theorem receipt_lost :
    ¬ ∀ (outbox : Outbox) (labels : List Label) (s : DrainState),
      drainSystem.run (.start outbox) labels = some s → s.Kept := by
  intro hall
  have hrun : (drainSystem.run (.start Table.empty) slowRun).map
      (fun s => (s.receipted, (s.outbox.get? "batch:text").map (·.status)))
        = some (["batch:text"], some .failed) := by
    decide +kernel
  obtain ⟨s, hs, hfinal⟩ := Option.map_eq_some_iff.mp hrun
  obtain ⟨hreceipted, hstatus⟩ := Prod.mk.inj hfinal
  obtain ⟨row, hrow, hsent, -⟩ := hall _ _ s hs "batch:text" (by simp [hreceipted])
  simp [hrow, hsent] at hstatus

end Navi.Delivery
