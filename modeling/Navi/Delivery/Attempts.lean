import Navi.Base.Selection
import Navi.Delivery.Coordinator

/-!
# Submissions of an item

`attempts` is counted by `claim_ready` alone and compared with `max_attempts`
only where `drain` schedules a retry. The queue is driven here by any sequence of
store calls, each with any arguments; a claimed item is handed to the transport at
most once, or never when its worker dies.
-/

namespace Navi.Delivery

open Navi.Base

/-- An item as `DeliveryEnvelope.items` makes it. -/
def enqueuedItem (id channel : String) (priority : Int) (expiresAt : Time) (maxAttempts : Int)
    (now : Time) : DeliveryItem where
  id := id
  channel := channel
  priority := priority
  expiresAt := expiresAt
  status := .pending
  attempts := 0
  maxAttempts := (max 1 maxAttempts).toNat
  nextAttemptAt := now
  error := ""
  receipt := none
  deliveryId := ""
  projectedAt := 0
  createdAt := now
  updatedAt := now
  sentAt := 0

/-- A store call, or a call of the transport with a claimed item. -/
inductive Call where
  | enqueue (id channel : String) (priority : Int) (expiresAt : Time) (maxAttempts : Int)
      (now : Time)
  | claimReady (worker : Nat) (channel : String) (limit : Int) (now : Time)
      (minimumPriority : Option Int)
  | deliver (claim : Nat)
  | scheduleRetry (itemId error : String) (retryAfterSeconds now : Time)
  | markFailed (itemId error : String) (now : Time)
  | markSent (itemId : String) (receipt : DeliveryReceipt) (deliveryId : String)
      (acceptedAt now : Time)
  | recoverStaleSending (channel : String) (staleAfterSeconds now : Time) (limit : Int)

/-- The queue, the claims whose item the transport has not been called with, and
the items it has been called with, one entry for each call. -/
structure QueueState where
  outbox : Outbox
  claimed : List (Nat × DeliveryItem)
  delivered : List String

def QueueState.start : QueueState := ⟨.empty, [], []⟩

def callSystem : System QueueState Call where
  step s
    | .enqueue id channel priority expiresAt maxAttempts now => some { s with
        outbox := s.outbox.insertOrIgnore
          (enqueuedItem id channel priority expiresAt maxAttempts now) }
    | .claimReady worker channel limit now minimumPriority =>
        let result := claimReady s.outbox channel limit now minimumPriority
        some { s with
          outbox := result.2
          claimed := result.1.map (worker, ·) ++ s.claimed }
    | .deliver claim =>
        s.claimed[claim]?.map fun (_, item) => { s with
          claimed := s.claimed.eraseIdx claim
          delivered := item.id :: s.delivered }
    | .scheduleRetry itemId error retryAfterSeconds now => some { s with
        outbox := (scheduleRetry s.outbox itemId error retryAfterSeconds now).2 }
    | .markFailed itemId error now => some { s with
        outbox := (markFailed s.outbox itemId error now).2 }
    | .markSent itemId receipt deliveryId acceptedAt now => some { s with
        outbox := (markSent s.outbox itemId receipt deliveryId acceptedAt now).2 }
    | .recoverStaleSending channel staleAfterSeconds now limit => some { s with
        outbox := (recoverStaleSending s.outbox channel staleAfterSeconds now limit).2 }

/-- No item was claimed, or handed to the transport, more often than it may be. -/
def QueueState.Bounded (s : QueueState) : Prop :=
  ∀ row ∈ s.outbox.rows, row.attempts ≤ row.maxAttempts
    ∧ s.delivered.count row.id ≤ row.maxAttempts

/-- The rows that `claim_ready` may select. -/
def claimableRows (outbox : Outbox) (channel : String) (now : Time)
    (minimumPriority : Option Int) : List DeliveryItem :=
  outbox.rows.filter fun item =>
    item.channel = channel ∧ item.ready now ∧ item.urgent minimumPriority

/-- Before an item whose attempts are used up, `claim_ready` has its limit of others to
serve: of a higher priority, or older, or, among the equally old, due before it. -/
def ClaimsWithinBudget (s : QueueState) : Call → Prop
  | .claimReady _ channel limit now minimumPriority =>
      ∀ item ∈ claimableRows s.outbox channel now minimumPriority,
        item.maxAttempts ≤ item.attempts →
          (max 1 limit).toNat ≤ (claimableRows s.outbox channel now minimumPriority).countP
            (servedBefore (·.id) s.outbox.rows DeliveryItem.before · item)
  | _ => True

/-! ## Which rows a claim selects -/

instance : Std.Total DeliveryItem.before := by
  refine ⟨fun a b => ?_⟩
  unfold DeliveryItem.before
  rcases lt_trichotomy a.priority b.priority with h | h | h
  · exact .inr (.inl h)
  · rcases lt_trichotomy a.createdAt b.createdAt with h' | h' | h'
    · exact .inl (.inr ⟨h, .inl h'⟩)
    · rcases le_total a.nextAttemptAt b.nextAttemptAt with hle | hle
      · exact .inl (.inr ⟨h, .inr ⟨h', hle⟩⟩)
      · exact .inr (.inr ⟨h.symm, .inr ⟨h'.symm, hle⟩⟩)
    · exact .inr (.inr ⟨h.symm, .inl h'⟩)
  · exact .inl (.inl h)

instance : IsTrans DeliveryItem DeliveryItem.before := by
  refine ⟨fun a b c hab hbc => ?_⟩
  unfold DeliveryItem.before at hab hbc ⊢
  rcases hab with hab | ⟨hab, hab'⟩
  · rcases hbc with hbc | ⟨hbc, -⟩
    · exact .inl (hbc.trans hab)
    · exact .inl (hbc ▸ hab)
  · rcases hbc with hbc | ⟨hbc, hbc'⟩
    · exact .inl (hab ▸ hbc)
    · refine .inr ⟨hab.trans hbc, ?_⟩
      rcases hab' with hab' | ⟨hab', hle⟩
      · rcases hbc' with hbc' | ⟨hbc', -⟩
        · exact .inl (hab'.trans hbc')
        · exact .inl (hbc' ▸ hab')
      · rcases hbc' with hbc' | ⟨hbc', hle'⟩
        · exact .inl (hab' ▸ hbc')
        · exact .inr ⟨hab'.trans hbc', hle.trans hle'⟩

theorem mem_readyRows_iff {outbox : Outbox} {channel : String} {limit : Int} {now : Time}
    {minimumPriority : Option Int} {item : DeliveryItem} :
    item ∈ readyRows outbox channel limit now minimumPriority
      ↔ item ∈ claimableRows outbox channel now minimumPriority
        ∧ (claimableRows outbox channel now minimumPriority).countP
          (servedBefore (·.id) outbox.rows DeliveryItem.before · item) < (max 1 limit).toNat := by
  by_cases hmem : item ∈ claimableRows outbox channel now minimumPriority
  · rw [and_iff_right hmem]
    exact mem_take_insertionSort_iff outbox.nodup List.filter_sublist hmem
  · refine iff_of_false (fun hrow => hmem ?_) fun h => hmem h.1
    exact (List.mem_insertionSort _).mp (List.mem_of_mem_take hrow)

theorem claimsWithinBudget_iff {s : QueueState} {worker : Nat} {channel : String} {limit : Int}
    {now : Time} {minimumPriority : Option Int} :
    ClaimsWithinBudget s (.claimReady worker channel limit now minimumPriority)
      ↔ ∀ item ∈ readyRows s.outbox channel limit now minimumPriority,
          item.attempts < item.maxAttempts := by
  simp only [mem_readyRows_iff]
  refine forall_congr' fun item => ?_
  rw [and_imp]
  refine imp_congr_right fun _ => ?_
  rw [← not_le, ← not_le (a := item.maxAttempts), not_imp_not]

/-! ## What a method does to the counters of a row -/

/-- The counters of an item: `attempts` and `max_attempts`. -/
def counters (outbox : Outbox) (id : String) : Option (Nat × Nat) :=
  (outbox.get? id).map fun row => (row.attempts, row.maxAttempts)

theorem counters_eq_some {outbox : Outbox} {id : String} {attempts maxAttempts : Nat} :
    counters outbox id = some (attempts, maxAttempts)
      ↔ ∃ row ∈ outbox.rows, row.id = id ∧ row.attempts = attempts
          ∧ row.maxAttempts = maxAttempts := by
  simp only [counters, Option.map_eq_some_iff, Table.get?_eq_some_iff, Prod.mk.injEq, and_assoc]

theorem counters_update {outbox : Outbox} {guard : DeliveryItem → Bool}
    {set : DeliveryItem → DeliveryItem} (hset : ∀ item, (set item).id = item.id)
    (hcounters : ∀ item, (set item).attempts = item.attempts
      ∧ (set item).maxAttempts = item.maxAttempts) :
    counters (outbox.update guard set hset) = counters outbox := by
  funext id
  rw [counters, Table.get?_update, Option.map_map]
  congr 1
  funext row
  rw [Function.comp_apply]
  split
  · rw [(hcounters row).1, (hcounters row).2]
  · rfl

theorem counters_updateEach {guard : DeliveryItem → Bool} {set : DeliveryItem → DeliveryItem}
    (hset : ∀ item, (set item).id = item.id)
    (hcounters : ∀ item, (set item).attempts = item.attempts
      ∧ (set item).maxAttempts = item.maxAttempts) (rows : List DeliveryItem) (outbox : Outbox) :
    counters (updateEach outbox guard set rows hset) = counters outbox := by
  induction rows generalizing outbox with
  | nil => rfl
  | cons item rest ih => rw [updateEach, ih, counters_update hset hcounters]

theorem counters_recoverStaleSending {outbox : Outbox} {channel : String}
    {staleAfterSeconds now : Time} {limit : Int} :
    counters (recoverStaleSending outbox channel staleAfterSeconds now limit).2
      = counters outbox :=
  counters_updateEach (DeliveryItem.recovered_id now) (fun _ => ⟨rfl, rfl⟩) _ outbox

theorem counters_markSent {outbox : Outbox} {itemId : String} {receipt : DeliveryReceipt}
    {deliveryId : String} {acceptedAt now : Time} :
    counters (markSent outbox itemId receipt deliveryId acceptedAt now).2 = counters outbox :=
  counters_update (DeliveryItem.accepted_id receipt _ acceptedAt now) fun _ => ⟨rfl, rfl⟩

theorem counters_markFailed {outbox : Outbox} {itemId error : String} {now : Time} :
    counters (markFailed outbox itemId error now).2 = counters outbox :=
  counters_update (DeliveryItem.rejected_id (clip error) now) fun _ => ⟨rfl, rfl⟩

theorem counters_scheduleRetry {outbox : Outbox} {itemId error : String}
    {retryAfterSeconds now : Time} :
    counters (scheduleRetry outbox itemId error retryAfterSeconds now).2 = counters outbox :=
  counters_update (DeliveryItem.deferred_id (clip error) _ now) fun _ => ⟨rfl, rfl⟩

theorem get?_updateEach {guard : DeliveryItem → Bool} {set : DeliveryItem → DeliveryItem}
    (hset : ∀ item, (set item).id = item.id) {rows : List DeliveryItem}
    (hrows : (rows.map (·.id)).Nodup) (outbox : Outbox) (id : String) :
    (updateEach outbox guard set rows hset).get? id
      = (outbox.get? id).map fun row =>
          if id ∈ rows.map (·.id) ∧ guard row then set row else row := by
  induction rows generalizing outbox with
  | nil => simp [updateEach]
  | cons item rest ih =>
      rw [List.map_cons, List.nodup_cons] at hrows
      rw [updateEach, ih hrows.2, Table.get?_update, Option.map_map]
      cases hrow : outbox.get? id with
      | none => rfl
      | some row =>
          have hid : row.id = id := (Table.get?_eq_some_iff.mp hrow).2
          rw [Option.map_some, Option.map_some, Function.comp_apply, List.map_cons]
          by_cases hitem : id = item.id
          · subst hitem
            simp only [hrows.1, false_and, if_false, hid, List.mem_cons, true_or, true_and,
              Bool.decide_eq_true]
          · simp only [hid, hitem, List.mem_cons, false_or, false_and, decide_false, if_false,
              Bool.false_eq_true]

theorem readyRows_nodup (outbox : Outbox) (channel : String) (limit : Int) (now : Time)
    (minimumPriority : Option Int) :
    ((readyRows outbox channel limit now minimumPriority).map (·.id)).Nodup := by
  have hsorted : ((outbox.rows.filter fun item =>
      item.channel = channel ∧ item.ready now ∧ item.urgent minimumPriority).insertionSort
        DeliveryItem.before).map (·.id) |>.Nodup := by
    rw [List.Perm.nodup_iff ((List.perm_insertionSort _ _).map _)]
    exact (outbox.nodup.sublist (List.filter_sublist.map _))
  exact hsorted.sublist ((List.take_sublist _ _).map _)

/-- The ids of the rows a claim selects. -/
def claimedIds (outbox : Outbox) (channel : String) (limit : Int) (now : Time)
    (minimumPriority : Option Int) : List String :=
  (readyRows outbox channel limit now minimumPriority).map (·.id)

theorem counters_claimReady (outbox : Outbox) (channel : String) (limit : Int) (now : Time)
    (minimumPriority : Option Int) (id : String) :
    counters (claimReady outbox channel limit now minimumPriority).2 id
      = (counters outbox id).map fun (attempts, maxAttempts) =>
          (if id ∈ claimedIds outbox channel limit now minimumPriority then attempts + 1
            else attempts, maxAttempts) := by
  rw [counters, claimReady, get?_updateEach _ (readyRows_nodup _ _ _ _ _), counters,
    Option.map_map, Option.map_map]
  cases hrow : outbox.get? id with
  | none => rfl
  | some row =>
      by_cases hmem : id ∈ claimedIds outbox channel limit now minimumPriority
      · obtain ⟨item, hitem, hid⟩ := List.mem_map.mp hmem
        obtain ⟨hget, hready⟩ := readyRows_ready hitem
        rw [hid, hrow] at hget
        obtain rfl := Option.some.inj hget
        have hmem' : id ∈ (readyRows outbox channel limit now minimumPriority).map (·.id) := hmem
        simp [hmem, hmem', hready, DeliveryItem.claimed]
      · have hmem' : id ∉ (readyRows outbox channel limit now minimumPriority).map (·.id) := hmem
        simp [hmem, hmem']

/-! ## Claims and submissions -/

/-- How often an item was claimed: for the transport, or for a worker that has
not called it. -/
def QueueState.claims (s : QueueState) (id : String) : Nat :=
  s.delivered.count id + s.claimed.countP fun claim => claim.2.id = id

/-- The attempts of an item; none where there is no such item. -/
def attemptsOf (outbox : Outbox) (id : String) : Nat := (counters outbox id).elim 0 Prod.fst

/-- Every claim was counted as an attempt of its row. -/
def QueueState.Counted (s : QueueState) : Prop := ∀ id, s.claims id ≤ attemptsOf s.outbox id

theorem counted_of_counters {s s' : QueueState} (h : s.Counted)
    (hcounters : counters s'.outbox = counters s.outbox)
    (hclaims : ∀ id, s'.claims id = s.claims id) : s'.Counted := by
  intro id
  rw [attemptsOf, hcounters, hclaims]
  exact h id

theorem claims_deliver {s : QueueState} {claim worker : Nat} {item : DeliveryItem}
    (h : s.claimed[claim]? = some (worker, item)) (id : String) :
    QueueState.claims { s with
      claimed := s.claimed.eraseIdx claim, delivered := item.id :: s.delivered } id
        = s.claims id := by
  obtain ⟨hlt, hget⟩ := List.getElem?_eq_some_iff.mp h
  have hperm : ((worker, item) :: s.claimed.eraseIdx claim).Perm s.claimed := by
    rw [← hget]
    exact List.getElem_cons_eraseIdx_perm hlt
  show (item.id :: s.delivered).count id + (s.claimed.eraseIdx claim).countP _ = _
  rw [QueueState.claims, ← hperm.countP_eq, List.countP_cons, List.count_cons]
  simp only [beq_iff_eq, decide_eq_true_eq]
  omega

theorem claims_claimReady (s : QueueState) (worker : Nat) (channel : String) (limit : Int)
    (now : Time) (minimumPriority : Option Int) (id : String) :
    QueueState.claims { s with
      outbox := (claimReady s.outbox channel limit now minimumPriority).2
      claimed := (claimReady s.outbox channel limit now minimumPriority).1.map (worker, ·)
        ++ s.claimed } id
      = s.claims id
        + if id ∈ claimedIds s.outbox channel limit now minimumPriority then 1 else 0 := by
  have hcount : ((claimReady s.outbox channel limit now minimumPriority).1.map (worker, ·)).countP
      (fun claim => decide (claim.2.id = id))
        = (claimedIds s.outbox channel limit now minimumPriority).count id := by
    rw [claimReady, claimedIds, List.count_eq_countP, List.countP_map, List.countP_map,
      List.countP_map]
    rfl
  have hnodup := (readyRows_nodup s.outbox channel limit now minimumPriority).count (a := id)
  show s.delivered.count id + List.countP _ (_ ++ s.claimed) = _
  rw [List.countP_append, hcount, claimedIds, hnodup, QueueState.claims]
  omega

theorem attemptsOf_enqueue {outbox : Outbox} {item : DeliveryItem} (hfresh : item.attempts = 0)
    (id : String) : attemptsOf (outbox.insertOrIgnore item) id = attemptsOf outbox id := by
  rw [attemptsOf, attemptsOf, counters, counters, Table.get?_insertOrIgnore]
  cases outbox.get? id with
  | some row => rfl
  | none =>
      rw [Option.none_or]
      split
      · exact hfresh
      · rfl

theorem attemptsOf_claimReady {outbox : Outbox} {channel : String} {limit : Int} {now : Time}
    {minimumPriority : Option Int} (id : String) :
    attemptsOf (claimReady outbox channel limit now minimumPriority).2 id
      = attemptsOf outbox id
        + if id ∈ claimedIds outbox channel limit now minimumPriority then 1 else 0 := by
  rw [attemptsOf, counters_claimReady, attemptsOf]
  cases hcounters : counters outbox id with
  | some row =>
      show ite _ _ _ = row.1 + _
      split <;> rfl
  | none =>
      have hmissing : id ∉ claimedIds outbox channel limit now minimumPriority := by
        intro hmem
        obtain ⟨item, hitem, rfl⟩ := List.mem_map.mp hmem
        rw [counters, (readyRows_ready hitem).1] at hcounters
        cases hcounters
      rw [if_neg hmissing]
      rfl

theorem step_counted {s s' : QueueState} {call : Call} (hs : s.Counted)
    (h : callSystem.step s call = some s') : s'.Counted := by
  cases call with
  | enqueue id channel priority expiresAt maxAttempts now =>
      obtain rfl := Option.some.inj h
      intro other
      show s.claims other ≤ attemptsOf (s.outbox.insertOrIgnore _) other
      rw [attemptsOf_enqueue rfl]
      exact hs other
  | claimReady worker channel limit now minimumPriority =>
      obtain rfl := Option.some.inj h
      intro id
      rw [claims_claimReady, attemptsOf_claimReady]
      exact Nat.add_le_add_right (hs id) _
  | deliver claim =>
      obtain ⟨⟨worker, item⟩, hclaim, rfl⟩ := Option.map_eq_some_iff.mp h
      exact counted_of_counters hs rfl (claims_deliver hclaim)
  | scheduleRetry itemId error retryAfterSeconds now =>
      obtain rfl := Option.some.inj h
      exact counted_of_counters hs counters_scheduleRetry fun _ => rfl
  | markFailed itemId error now =>
      obtain rfl := Option.some.inj h
      exact counted_of_counters hs counters_markFailed fun _ => rfl
  | markSent itemId receipt deliveryId acceptedAt now =>
      obtain rfl := Option.some.inj h
      exact counted_of_counters hs counters_markSent fun _ => rfl
  | recoverStaleSending channel staleAfterSeconds now limit =>
      obtain rfl := Option.some.inj h
      exact counted_of_counters hs counters_recoverStaleSending fun _ => rfl

/-! ## The bound -/

/-- No row has used more attempts than it may. -/
def WithinBudget (outbox : Outbox) : Prop :=
  ∀ id attempts maxAttempts, counters outbox id = some (attempts, maxAttempts) →
    attempts ≤ maxAttempts

theorem bounded_iff {s : QueueState} (hs : s.Counted) : s.Bounded ↔ WithinBudget s.outbox := by
  constructor
  · intro hbounded id attempts maxAttempts hcounters
    obtain ⟨row, hrow, -, rfl, rfl⟩ := counters_eq_some.mp hcounters
    exact (hbounded row hrow).1
  · intro hbudget row hrow
    have hcounters : counters s.outbox row.id = some (row.attempts, row.maxAttempts) :=
      counters_eq_some.mpr ⟨row, hrow, rfl, rfl, rfl⟩
    have hle := hbudget _ _ _ hcounters
    have hcounted := hs row.id
    rw [attemptsOf, hcounters, QueueState.claims] at hcounted
    have hclaims : s.delivered.count row.id ≤ row.attempts := by
      show s.delivered.count row.id ≤ (row.attempts, row.maxAttempts).1
      exact le_trans (Nat.le_add_right _ _) hcounted
    exact ⟨hle, by omega⟩

theorem withinBudget_claimReady {outbox : Outbox} {channel : String} {limit : Int} {now : Time}
    {minimumPriority : Option Int} (hbudget : WithinBudget outbox) :
    WithinBudget (claimReady outbox channel limit now minimumPriority).2
      ↔ ∀ item ∈ readyRows outbox channel limit now minimumPriority,
          item.attempts < item.maxAttempts := by
  constructor
  · intro hafter item hitem
    have hmem : item.id ∈ claimedIds outbox channel limit now minimumPriority :=
      List.mem_map_of_mem hitem
    refine hafter item.id (item.attempts + 1) item.maxAttempts ?_
    rw [counters_claimReady, counters, (readyRows_ready hitem).1]
    simp only [Option.map_some, if_pos hmem]
  · intro hopen id attempts maxAttempts hcounters
    rw [counters_claimReady] at hcounters
    obtain ⟨⟨attempts₀, maxAttempts₀⟩, hbefore, hrow⟩ := Option.map_eq_some_iff.mp hcounters
    obtain ⟨hattempts, rfl⟩ := Prod.mk.inj hrow
    have hle := hbudget id attempts₀ maxAttempts₀ hbefore
    by_cases hmem : id ∈ claimedIds outbox channel limit now minimumPriority
    · rw [if_pos hmem] at hattempts
      obtain ⟨item, hitem, rfl⟩ := List.mem_map.mp hmem
      have hlt := hopen item hitem
      rw [counters, (readyRows_ready hitem).1] at hbefore
      obtain ⟨rfl, rfl⟩ := Prod.mk.inj (Option.some.inj hbefore)
      omega
    · rw [if_neg hmem] at hattempts
      omega

theorem withinBudget_enqueue {outbox : Outbox} {item : DeliveryItem} (hfresh : item.attempts = 0)
    (hbudget : WithinBudget outbox) : WithinBudget (outbox.insertOrIgnore item) := by
  intro id attempts maxAttempts hcounters
  rw [counters, Table.get?_insertOrIgnore] at hcounters
  cases hrow : outbox.get? id with
  | some row =>
      rw [hrow, Option.some_or] at hcounters
      refine hbudget id attempts maxAttempts ?_
      rw [counters, hrow]
      exact hcounters
  | none =>
      rw [hrow, Option.none_or] at hcounters
      split at hcounters
      · obtain ⟨rfl, -⟩ := Prod.mk.inj (Option.some.inj hcounters)
        omega
      · cases hcounters

/-- A call keeps the bound exactly when it claims nothing whose attempts are used
up. -/
theorem step_bounded_iff {s s' : QueueState} {call : Call} (hs : s.Counted) (hbounded : s.Bounded)
    (h : callSystem.step s call = some s') : s'.Bounded ↔ ClaimsWithinBudget s call := by
  have hbudget := (bounded_iff hs).mp hbounded
  rw [bounded_iff (step_counted hs h)]
  have hsame : counters s'.outbox = counters s.outbox → WithinBudget s'.outbox := by
    intro hcounters
    rw [WithinBudget, hcounters]
    exact hbudget
  cases call with
  | enqueue id channel priority expiresAt maxAttempts now =>
      obtain rfl := Option.some.inj h
      exact iff_of_true (withinBudget_enqueue rfl hbudget) trivial
  | claimReady worker channel limit now minimumPriority =>
      obtain rfl := Option.some.inj h
      rw [claimsWithinBudget_iff]
      exact withinBudget_claimReady hbudget
  | deliver claim =>
      obtain ⟨⟨worker, item⟩, -, rfl⟩ := Option.map_eq_some_iff.mp h
      exact iff_of_true hbudget trivial
  | scheduleRetry itemId error retryAfterSeconds now =>
      obtain rfl := Option.some.inj h
      exact iff_of_true (hsame counters_scheduleRetry) trivial
  | markFailed itemId error now =>
      obtain rfl := Option.some.inj h
      exact iff_of_true (hsame counters_markFailed) trivial
  | markSent itemId receipt deliveryId acceptedAt now =>
      obtain rfl := Option.some.inj h
      exact iff_of_true (hsame counters_markSent) trivial
  | recoverStaleSending channel staleAfterSeconds now limit =>
      obtain rfl := Option.some.inj h
      exact iff_of_true (hsame counters_recoverStaleSending) trivial

theorem claim_enabled {s : QueueState} {call : Call} (h : ¬ ClaimsWithinBudget s call) :
    ∃ s', callSystem.step s call = some s' := by
  cases call with
  | claimReady worker channel limit now minimumPriority => exact ⟨_, rfl⟩
  | _ => exact absurd trivial h

/-- **Attempts are bounded.** In every run from the empty queue, no item is ever
claimed, or handed to the transport, more often than its `max_attempts`, if and
only if every claim has its limit of rows to serve before one whose attempts are used
up. -/
theorem attempts_bounded_iff (calls : List Call) :
    (∀ n s, callSystem.run .start (calls.take n) = some s → s.Bounded)
      ↔ callSystem.Along ClaimsWithinBudget .start calls := by
  have hstart : QueueState.start.Counted := fun _ => Nat.le_refl 0
  have hbounded : QueueState.start.Bounded := by
    intro row hrow
    cases hrow
  exact callSystem.run_good_iff (fun _ _ _ hs h => step_counted hs h)
    (fun _ _ _ hs hbounded h => step_bounded_iff hs hbounded h) (fun _ _ h => claim_enabled h)
    hstart hbounded calls

/-- An item of one attempt whose first worker dies in the transport call; the stale
claim is recovered and the item claimed again. -/
def crashedCalls : List Call :=
  [.enqueue "batch:text" "weixin" 0 0 1 0, .claimReady 0 "weixin" 1 0 none, .deliver 0,
    .recoverStaleSending "weixin" 300 300 100, .claimReady 1 "weixin" 1 300 none, .deliver 0]

/-- The transport is called twice with an item of one attempt. -/
theorem crashed_delivers_twice :
    ¬ ∀ (calls : List Call) (s : QueueState), callSystem.run .start calls = some s → s.Bounded := by
  intro hall
  have hrun : (callSystem.run .start crashedCalls).map (fun s =>
      (s.outbox.rows.map fun row => (row.id, row.attempts, row.maxAttempts), s.delivered))
        = some ([("batch:text", 2, 1)], ["batch:text", "batch:text"]) := by
    decide +kernel
  obtain ⟨s, hs, hfinal⟩ := Option.map_eq_some_iff.mp hrun
  obtain ⟨hrows, -⟩ := Prod.mk.inj hfinal
  obtain ⟨row, hrow, hcolumns⟩ := List.map_eq_singleton_iff.mp hrows
  obtain ⟨-, hattempts, hmax⟩ := by simpa using hcolumns
  have hle := (hall _ s hs row (by rw [hrow]; exact List.mem_singleton_self row)).1
  omega

end Navi.Delivery
