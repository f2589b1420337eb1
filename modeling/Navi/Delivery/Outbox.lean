import Mathlib.Data.List.Sort
import Mathlib.Algebra.Order.Ring.Rat
import Navi.Base.Dict
import Navi.Base.Table

/-!
# The delivery outbox

`DeliveryOutboxStore`: a queue of transport items with guarded updates. Each
method is one transaction. `RowStep` is all that a method can do to a row that
is already there; `Evolves` says so for the whole table.
-/

namespace Navi.Delivery

open Navi.Base

/-- The `status` column. `other` is a text only the legacy import writes. -/
inductive DeliveryStatus where
  | pending
  | sending
  | sent
  | failed
  | other (text : String)
  deriving DecidableEq

def DeliveryStatus.text : DeliveryStatus → String
  | .pending => "pending"
  | .sending => "sending"
  | .sent => "sent"
  | .failed => "failed"
  | .other text => text

/-- `DeliveryReceipt`. -/
structure DeliveryReceipt where
  transport : String
  mediaCount : Nat
  details : Dict

/-- `DeliveryFailure`, as the adapter classifies an exception. -/
structure DeliveryFailure where
  reason : String
  error : String
  retryable : Bool
  retryAfterSeconds : Time

/-- A row of `delivery_outbox`. `priority` and `expiresAt` are read off
`transport_context_json`, which no method writes; `receipt` is `none` for the
column default `{}`. -/
structure DeliveryItem where
  id : String
  channel : String
  priority : Int
  expiresAt : Time
  status : DeliveryStatus
  attempts : Nat
  maxAttempts : Nat
  nextAttemptAt : Time
  error : String
  receipt : Option DeliveryReceipt
  deliveryId : String
  projectedAt : Time
  createdAt : Time
  updatedAt : Time
  sentAt : Time

/-- The table, by `id`. -/
abbrev Outbox := Table String DeliveryItem (·.id)

/-- `error[:1000]`. -/
def clip (error : String) : String := String.ofList (error.toList.take 1000)

/-- The rows a select returns: filtered, ordered, limited. The order goes on with the columns of
`idx_delivery_outbox_ready`, which the rows are read by; what still ties keeps table order. -/
def select (outbox : Outbox) (guard : DeliveryItem → Bool)
    (before : DeliveryItem → DeliveryItem → Prop) [DecidableRel before] (limit : Int) :
    List DeliveryItem :=
  ((outbox.rows.filter guard).insertionSort before).take (max 1 limit).toNat

/-- Run the per-row update of a `for row in rows` loop over the selected rows. -/
def updateEach (outbox : Outbox) (guard : DeliveryItem → Bool)
    (set : DeliveryItem → DeliveryItem) (rows : List DeliveryItem)
    (hset : ∀ item, (set item).id = item.id) : Outbox :=
  match rows with
  | [] => outbox
  | item :: rest =>
      let outbox := outbox.update (fun row => row.id = item.id ∧ guard row) set hset
      updateEach outbox guard set rest hset

/-- `status = 'pending' AND next_attempt_at <= ?`. -/
def DeliveryItem.ready (now : Time) (item : DeliveryItem) : Bool :=
  item.status = .pending ∧ item.nextAttemptAt ≤ now

/-- `SET status = 'sending', attempts = attempts + 1, updated_at = ?`. -/
def DeliveryItem.claimed (now : Time) (item : DeliveryItem) : DeliveryItem :=
  { item with status := .sending, attempts := item.attempts + 1, updatedAt := now }

@[simp] theorem DeliveryItem.claimed_id (now : Time) (item : DeliveryItem) :
    (item.claimed now).id = item.id := rfl

/-- `ORDER BY priority DESC, created_at ASC`, and then by `next_attempt_at`. -/
def DeliveryItem.before (a b : DeliveryItem) : Prop :=
  b.priority < a.priority ∨ a.priority = b.priority ∧ (a.createdAt < b.createdAt
    ∨ a.createdAt = b.createdAt ∧ a.nextAttemptAt ≤ b.nextAttemptAt)

instance : DecidableRel DeliveryItem.before := fun a b =>
  inferInstanceAs (Decidable (b.priority < a.priority ∨ _))

/-- `ORDER BY updated_at ASC`, and then by `next_attempt_at` and `created_at`. -/
def DeliveryItem.staler (a b : DeliveryItem) : Prop :=
  a.updatedAt < b.updatedAt ∨ a.updatedAt = b.updatedAt ∧ (a.nextAttemptAt < b.nextAttemptAt
    ∨ a.nextAttemptAt = b.nextAttemptAt ∧ a.createdAt ≤ b.createdAt)

instance : DecidableRel DeliveryItem.staler := fun a b =>
  inferInstanceAs (Decidable (a.updatedAt < b.updatedAt ∨ _))

/-- The priority clause of `claim_ready`. -/
def DeliveryItem.urgent (minimumPriority : Option Int) (item : DeliveryItem) : Bool :=
  match minimumPriority with
  | none => true
  | some least => least ≤ item.priority

/-- The rows `claim_ready` selects. -/
def readyRows (outbox : Outbox) (channel : String) (limit : Int) (now : Time)
    (minimumPriority : Option Int) : List DeliveryItem :=
  select outbox (fun item => item.channel = channel ∧ item.ready now ∧ item.urgent minimumPriority)
    DeliveryItem.before limit

/-- `claim_ready`. Every selected row still meets the update's guard, since the
transaction holds the write lock. -/
def claimReady (outbox : Outbox) (channel : String) (limit : Int) (now : Time)
    (minimumPriority : Option Int) : List DeliveryItem × Outbox :=
  let rows := readyRows outbox channel limit now minimumPriority
  (rows.map (·.claimed now),
    updateEach outbox (·.ready now) (·.claimed now) rows (DeliveryItem.claimed_id now))

/-- `status IN ('pending', 'sending')`. -/
def DeliveryItem.unsettled (item : DeliveryItem) : Bool :=
  item.status = .pending ∨ item.status = .sending

/-- What `mark_sent` sets. -/
def DeliveryItem.accepted (receipt : DeliveryReceipt) (deliveryId : String)
    (acceptedAt now : Time) (item : DeliveryItem) : DeliveryItem :=
  { item with
    status := .sent
    receipt := some receipt
    deliveryId := deliveryId
    error := ""
    sentAt := acceptedAt
    updatedAt := now }

@[simp] theorem DeliveryItem.accepted_id (receipt : DeliveryReceipt) (deliveryId : String)
    (acceptedAt now : Time) (item : DeliveryItem) :
    (item.accepted receipt deliveryId acceptedAt now).id = item.id := rfl

/-- `mark_sent`. -/
def markSent (outbox : Outbox) (itemId : String) (receipt : DeliveryReceipt)
    (deliveryId : String) (acceptedAt now : Time) : Option DeliveryItem × Outbox :=
  let outbox := outbox.update (fun row => row.id = itemId ∧ row.unsettled)
    (·.accepted receipt (if deliveryId = "" then itemId else deliveryId) acceptedAt now)
    (DeliveryItem.accepted_id receipt _ acceptedAt now)
  (outbox.get? itemId, outbox)

/-- What `schedule_retry` sets. -/
def DeliveryItem.deferred (error : String) (nextAttemptAt now : Time) (item : DeliveryItem) :
    DeliveryItem :=
  { item with status := .pending, error := error, nextAttemptAt := nextAttemptAt, updatedAt := now }

@[simp] theorem DeliveryItem.deferred_id (error : String) (nextAttemptAt now : Time)
    (item : DeliveryItem) :
    (item.deferred error nextAttemptAt now).id = item.id := rfl

/-- `schedule_retry`. -/
def scheduleRetry (outbox : Outbox) (itemId error : String) (retryAfterSeconds now : Time) :
    Option DeliveryItem × Outbox :=
  let outbox := outbox.update (fun row => row.id = itemId ∧ row.status = .sending)
    (·.deferred (clip error) (now + max 0 retryAfterSeconds) now)
    (DeliveryItem.deferred_id (clip error) _ now)
  (outbox.get? itemId, outbox)

/-- What `mark_failed` sets. -/
def DeliveryItem.rejected (error : String) (now : Time) (item : DeliveryItem) : DeliveryItem :=
  { item with status := .failed, error := error, updatedAt := now }

@[simp] theorem DeliveryItem.rejected_id (error : String) (now : Time) (item : DeliveryItem) :
    (item.rejected error now).id = item.id := rfl

/-- `mark_failed`. -/
def markFailed (outbox : Outbox) (itemId error : String) (now : Time) :
    Option DeliveryItem × Outbox :=
  let outbox := outbox.update (fun row => row.id = itemId ∧ row.unsettled)
    (·.rejected (clip error) now) (DeliveryItem.rejected_id (clip error) now)
  (outbox.get? itemId, outbox)

/-- What `requeue_failed` sets. -/
def DeliveryItem.requeued (now : Time) (item : DeliveryItem) : DeliveryItem :=
  { item with
    status := .pending
    attempts := 0
    nextAttemptAt := now
    error := ""
    updatedAt := now
    projectedAt := 0 }

@[simp] theorem DeliveryItem.requeued_id (now : Time) (item : DeliveryItem) :
    (item.requeued now).id = item.id := rfl

/-- `requeue_failed`. -/
def requeueFailed (outbox : Outbox) (itemId : String) (now : Time) :
    Except String DeliveryItem × Outbox :=
  match outbox.get? itemId with
  | none => (.error ("delivery item not found: " ++ itemId), outbox)
  | some item =>
      if item.status ≠ .failed then
        (.error ("delivery item is not failed: " ++ itemId ++ " status=" ++ item.status.text),
          outbox)
      else if item.expiresAt ≠ 0 ∧ item.expiresAt ≤ now then
        (.error ("delivery item has expired and cannot be retried: " ++ itemId), outbox)
      else
        let guard := fun row : DeliveryItem => decide (row.id = itemId ∧ row.status = .failed)
        let after := outbox.update guard (·.requeued now) (DeliveryItem.requeued_id now)
        if outbox.rowcount guard ≠ 1 then
          (.error ("delivery item changed while requeueing: " ++ itemId), after)
        else
          match after.get? itemId with
          | some restored => (.ok restored, after)
          | none => (.error ("delivery item disappeared while requeueing: " ++ itemId), after)

/-- `status = 'sending' AND updated_at <= ?`. -/
def DeliveryItem.stale (cutoff : Time) (item : DeliveryItem) : Bool :=
  item.status = .sending ∧ item.updatedAt ≤ cutoff

/-- What `recover_stale_sending` sets. -/
def DeliveryItem.recovered (now : Time) (item : DeliveryItem) : DeliveryItem :=
  { item with
    status := .pending
    error := "connector_delivery_interrupted: retrying with the same idempotency key"
    nextAttemptAt := now
    updatedAt := now }

@[simp] theorem DeliveryItem.recovered_id (now : Time) (item : DeliveryItem) :
    (item.recovered now).id = item.id := rfl

/-- `recover_stale_sending`. -/
def recoverStaleSending (outbox : Outbox) (channel : String) (staleAfterSeconds now : Time)
    (limit : Int) : List DeliveryItem × Outbox :=
  let cutoff := now - max 1 staleAfterSeconds
  let rows := select outbox (fun item => item.channel = channel ∧ item.stale cutoff)
    DeliveryItem.staler limit
  (rows.map (·.recovered now),
    updateEach outbox (·.stale cutoff) (·.recovered now) rows (DeliveryItem.recovered_id now))

/-! ## What a method does to a row -/

/-- The row is settled with a receipt. -/
def DeliveryItem.Receipted (item : DeliveryItem) : Prop :=
  item.status = .sent ∧ item.receipt.isSome

/-- The row has a status a claimed item can have; a sent one has its receipt. -/
def DeliveryItem.Live (item : DeliveryItem) : Prop :=
  item.status = .pending ∨ item.status = .sending ∨ item.status = .failed ∨ item.Receipted

/-- All that a method can do to a row: keep it, or move one that is not sent to
a live state. -/
def RowStep (row row' : DeliveryItem) : Prop :=
  row' = row ∨ (row.status ≠ .sent ∧ row'.Live)

theorem RowStep.trans {a b c : DeliveryItem} (hab : RowStep a b) (hbc : RowStep b c) :
    RowStep a c := by
  rcases hbc with rfl | ⟨hb, hc⟩
  · exact hab
  · rcases hab with rfl | ⟨ha, -⟩
    · exact .inr ⟨hb, hc⟩
    · exact .inr ⟨ha, hc⟩

theorem RowStep.receipted {row row' : DeliveryItem} (h : RowStep row row')
    (hrow : row.Receipted) : row'.Receipted := by
  rcases h with rfl | ⟨hnot, -⟩
  · exact hrow
  · exact absurd hrow.1 hnot

theorem RowStep.live {row row' : DeliveryItem} (h : RowStep row row') (hrow : row.Live) :
    row'.Live := by
  rcases h with rfl | ⟨-, hlive⟩
  · exact hrow
  · exact hlive

/-- Every row of the first table is in the second, moved by a `RowStep`. -/
def Evolves (outbox outbox' : Outbox) : Prop :=
  ∀ id row, outbox.get? id = some row → ∃ row', outbox'.get? id = some row' ∧ RowStep row row'

theorem Evolves.refl (outbox : Outbox) : Evolves outbox outbox := fun _ row h =>
  ⟨row, h, .inl rfl⟩

theorem Evolves.trans {a b c : Outbox} (hab : Evolves a b) (hbc : Evolves b c) : Evolves a c := by
  intro id row hrow
  obtain ⟨mid, hmid, hstep⟩ := hab id row hrow
  obtain ⟨last, hlast, hstep'⟩ := hbc id mid hmid
  exact ⟨last, hlast, hstep.trans hstep'⟩

theorem evolves_update (outbox : Outbox) {guard : DeliveryItem → Bool}
    {set : DeliveryItem → DeliveryItem} (hset : ∀ item, (set item).id = item.id)
    (hguard : ∀ row, guard row = true → row.status ≠ .sent) (hlive : ∀ row, (set row).Live) :
    Evolves outbox (outbox.update guard set hset) := by
  intro id row hrow
  refine ⟨_, by rw [outbox.get?_update, hrow, Option.map_some], ?_⟩
  split
  next hmet => exact .inr ⟨hguard row hmet, hlive row⟩
  next => exact .inl rfl

theorem evolves_updateEach {guard : DeliveryItem → Bool} {set : DeliveryItem → DeliveryItem}
    (hset : ∀ item, (set item).id = item.id) (hguard : ∀ row, guard row = true → row.status ≠ .sent)
    (hlive : ∀ row, (set row).Live) (rows : List DeliveryItem) (outbox : Outbox) :
    Evolves outbox (updateEach outbox guard set rows hset) := by
  induction rows generalizing outbox with
  | nil => exact .refl outbox
  | cons item rest ih =>
      refine Evolves.trans (evolves_update outbox hset ?_ hlive) (ih _)
      intro row hmet
      exact hguard row (by simpa using (of_decide_eq_true hmet).2)

theorem ready_not_sent {now : Time} (row : DeliveryItem) (h : row.ready now = true) :
    row.status ≠ .sent := by
  obtain ⟨hpending, -⟩ := of_decide_eq_true h
  simp [hpending]

theorem unsettled_not_sent {row : DeliveryItem} (h : row.unsettled = true) :
    row.status ≠ .sent := by
  rcases of_decide_eq_true h with hstatus | hstatus <;> simp [hstatus]

theorem stale_not_sent {cutoff : Time} (row : DeliveryItem) (h : row.stale cutoff = true) :
    row.status ≠ .sent := by
  obtain ⟨hsending, -⟩ := of_decide_eq_true h
  simp [hsending]

theorem claimReady_evolves (outbox : Outbox) (channel : String) (limit : Int) (now : Time)
    (minimumPriority : Option Int) :
    Evolves outbox (claimReady outbox channel limit now minimumPriority).2 :=
  evolves_updateEach (DeliveryItem.claimed_id now) ready_not_sent
    (fun _ => .inr (.inl rfl)) _ _

theorem recoverStaleSending_evolves {outbox : Outbox} {channel : String}
    {staleAfterSeconds now : Time} {limit : Int} :
    Evolves outbox (recoverStaleSending outbox channel staleAfterSeconds now limit).2 :=
  evolves_updateEach (DeliveryItem.recovered_id now) stale_not_sent
    (fun _ => .inl rfl) _ _

theorem markSent_evolves {outbox : Outbox} {itemId : String} {receipt : DeliveryReceipt}
    {deliveryId : String} {acceptedAt now : Time} :
    Evolves outbox (markSent outbox itemId receipt deliveryId acceptedAt now).2 := by
  refine evolves_update outbox (DeliveryItem.accepted_id receipt _ acceptedAt now)
    (fun row h => ?_) (fun _ => .inr (.inr (.inr ⟨rfl, rfl⟩)))
  exact unsettled_not_sent (of_decide_eq_true h).2

theorem markFailed_evolves {outbox : Outbox} {itemId error : String} {now : Time} :
    Evolves outbox (markFailed outbox itemId error now).2 := by
  refine evolves_update outbox (DeliveryItem.rejected_id (clip error) now)
    (fun row h => ?_) (fun _ => .inr (.inr (.inl rfl)))
  exact unsettled_not_sent (of_decide_eq_true h).2

theorem scheduleRetry_evolves {outbox : Outbox} {itemId error : String}
    {retryAfterSeconds now : Time} :
    Evolves outbox (scheduleRetry outbox itemId error retryAfterSeconds now).2 := by
  refine evolves_update outbox (DeliveryItem.deferred_id (clip error) _ now)
    (fun row h => ?_) (fun _ => .inl rfl)
  simp [(of_decide_eq_true h).2]

theorem requeueFailed_evolves {outbox : Outbox} {itemId : String} {now : Time} :
    Evolves outbox (requeueFailed outbox itemId now).2 := by
  have hupdate : Evolves outbox (outbox.update
      (fun row => row.id = itemId ∧ row.status = .failed) (·.requeued now)
      (DeliveryItem.requeued_id now)) :=
    evolves_update outbox (DeliveryItem.requeued_id now)
      (fun row h => by simp [(of_decide_eq_true h).2]) (fun _ => .inl rfl)
  unfold requeueFailed
  split
  · exact .refl outbox
  · split
    · exact .refl outbox
    · split
      · exact .refl outbox
      · dsimp only
        split
        · exact hupdate
        · split <;> exact hupdate

theorem insertOrIgnore_evolves {outbox : Outbox} {item : DeliveryItem} :
    Evolves outbox (outbox.insertOrIgnore item) := fun _ row h =>
  ⟨row, outbox.get?_insertOrIgnore_of_some item h, .inl rfl⟩

theorem markSent_receipted {outbox : Outbox} {itemId : String} {row : DeliveryItem}
    (hrow : outbox.get? itemId = some row) (hlive : row.Live) (hopen : row.status ≠ .failed)
    (receipt : DeliveryReceipt) (deliveryId : String) (acceptedAt now : Time) :
    ∃ row', (markSent outbox itemId receipt deliveryId acceptedAt now).2.get? itemId = some row'
      ∧ row'.Receipted := by
  simp only [markSent, outbox.get?_update, hrow, Option.map_some, Option.some.injEq,
    exists_eq_left']
  have hid : row.id = itemId := (Table.get?_eq_some_iff.mp hrow).2
  split
  next => exact ⟨rfl, rfl⟩
  next hguard =>
    rcases hlive with hpending | hsending | hfailed | hsent
    · simp [hid, DeliveryItem.unsettled, hpending] at hguard
    · simp [hid, DeliveryItem.unsettled, hsending] at hguard
    · exact absurd hfailed hopen
    · exact hsent

theorem markSent_failed {outbox : Outbox} {itemId : String} {row : DeliveryItem}
    (hrow : outbox.get? itemId = some row) (hfailed : row.status = .failed)
    (receipt : DeliveryReceipt) (deliveryId : String) (acceptedAt now : Time) :
    (markSent outbox itemId receipt deliveryId acceptedAt now).2.get? itemId = some row := by
  simp [markSent, outbox.get?_update, hrow, DeliveryItem.unsettled, hfailed]

theorem readyRows_ready {outbox : Outbox} {channel : String} {limit : Int} {now : Time}
    {minimumPriority : Option Int} {item : DeliveryItem}
    (h : item ∈ readyRows outbox channel limit now minimumPriority) :
    outbox.get? item.id = some item ∧ item.ready now = true := by
  have hmem := List.mem_of_mem_take h
  rw [List.mem_insertionSort, List.mem_filter] at hmem
  obtain ⟨hrow, hguard⟩ := hmem
  exact ⟨Table.get?_of_mem hrow, (of_decide_eq_true hguard).2.1⟩

theorem readyRows_pending {outbox : Outbox} {channel : String} {limit : Int} {now : Time}
    {minimumPriority : Option Int} {item : DeliveryItem}
    (h : item ∈ readyRows outbox channel limit now minimumPriority) :
    outbox.get? item.id = some item ∧ item.status = .pending := by
  obtain ⟨hrow, hready⟩ := readyRows_ready h
  exact ⟨hrow, (of_decide_eq_true hready).1⟩

end Navi.Delivery
