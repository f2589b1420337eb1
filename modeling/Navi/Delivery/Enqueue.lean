import Navi.Base.System
import Navi.Delivery.Outbox
import Navi.Loop.Contracts

/-!
# Enqueuing a response

`DeliveryOutboxStore.enqueue`. The items of an envelope get ids made from the first 240
characters of its batch id. An id that is taken is accepted when the row under it has the
same batch id, kind and payload; its channel and its peer are not compared.
-/

namespace Navi.Delivery

open Navi.Base Navi.Loop

/-! ## Payloads -/

/-- A character in a string that `json.dumps` writes with `ensure_ascii=False`. -/
def jsonChar (c : Char) : String :=
  if c.toNat = 34 then "\\\""
  else if c.toNat = 92 then "\\\\"
  else if c.toNat = 8 then "\\b"
  else if c.toNat = 9 then "\\t"
  else if c.toNat = 10 then "\\n"
  else if c.toNat = 12 then "\\f"
  else if c.toNat = 13 then "\\r"
  else if c.toNat < 32 then
    "\\u00" ++ String.ofList [Nat.digitChar (c.toNat / 16), Nat.digitChar (c.toNat % 16)]
  else String.ofList [c]

/-- `_json_dump` of an object with one field that is a text. -/
def jsonDump (field value : String) : String :=
  "\x7b\"" ++ field ++ "\":\"" ++ String.join (value.toList.map jsonChar) ++ "\"\x7d"

/-! ## Envelopes and their items -/

/-- A row of `delivery_outbox`. `receipt` is `none` for the column default. -/
structure OutboxRow where
  id : String
  batchId : String
  channel : String
  peerId : String
  senderId : String
  traceId : String
  runId : String
  goalId : String
  kind : String
  payloadJson : String
  transportContext : Dict
  body : String
  bodyProvenance : String
  status : DeliveryStatus
  attempts : Int
  maxAttempts : Int
  nextAttemptAt : Time
  error : String
  receipt : Option DeliveryReceipt
  deliveryId : String
  projectedAt : Time
  createdAt : Time
  updatedAt : Time
  sentAt : Time

/-- The table `delivery_outbox`, by `id`. -/
abbrev OutboxTable := Table String OutboxRow (·.id)

/-- `DeliveryEnvelope`. -/
structure DeliveryEnvelope where
  batchId : String
  channel : String
  peerId : String
  senderId : String
  traceId : String
  runId : String
  goalId : String
  text : String
  bodyProvenance : String
  filePath : String
  transportContext : Dict
  maxAttempts : Int

/-- `_stable_batch_id`; `fresh` is what it makes of the clock where there is no id. -/
def stableBatchId (value fresh : String) : String :=
  if strip value = "" then fresh else String.ofList ((strip value).toList.take 240)

namespace DeliveryEnvelope

variable (envelope : DeliveryEnvelope)

/-- `item` of `DeliveryEnvelope.items`. -/
def item (batchId kind payloadJson body : String) (now : Time) : OutboxRow where
  id := batchId ++ ":" ++ kind
  batchId := batchId
  channel := strip envelope.channel
  peerId := strip envelope.peerId
  senderId := strip envelope.senderId
  traceId := strip envelope.traceId
  runId := strip envelope.runId
  goalId := strip envelope.goalId
  kind := kind
  payloadJson := payloadJson
  transportContext := envelope.transportContext
  body := body
  bodyProvenance := strip envelope.bodyProvenance
  status := .pending
  attempts := 0
  maxAttempts := max 1 envelope.maxAttempts
  nextAttemptAt := now
  error := ""
  receipt := none
  deliveryId := ""
  projectedAt := 0
  createdAt := now
  updatedAt := now
  sentAt := 0

/-- `items`. -/
def items (fresh : String) (now : Time) : List OutboxRow :=
  let batchId := stableBatchId envelope.batchId fresh
  let text := strip envelope.text
  let path := strip envelope.filePath
  (if text = "" then [] else [envelope.item batchId "text" (jsonDump "text" text) text now])
    ++ (if path = "" then [] else [envelope.item batchId "file" (jsonDump "path" path) "" now])

/-- Where a batch goes, under the whole of its id. -/
def address : String × String × String :=
  (strip envelope.channel, strip envelope.peerId, strip envelope.batchId)

/-- The envelope has an item, a channel and a peer. -/
def Sendable : Prop :=
  (strip envelope.text ≠ "" ∨ strip envelope.filePath ≠ "")
    ∧ strip envelope.channel ≠ "" ∧ strip envelope.peerId ≠ ""

end DeliveryEnvelope

/-! ## `enqueue` -/

/-- What `enqueue` compares: `row == (item.batch_id, item.kind, item.payload_json)`. -/
def OutboxRow.sameItem (item row : OutboxRow) : Bool :=
  row.batchId = item.batchId ∧ row.kind = item.kind ∧ row.payloadJson = item.payloadJson

/-- The loop of `enqueue`. -/
def enqueueEach : List OutboxRow → OutboxTable → Except StoreError OutboxTable
  | [], outbox => .ok outbox
  | item :: rest, outbox =>
      let outbox := outbox.insertOrIgnore item
      if (outbox.get? item.id).any item.sameItem then enqueueEach rest outbox
      else .error (.runtimeError "delivery idempotency key conflicts with a different payload")

/-- `enqueue`; a raise rolls its transaction back. -/
def enqueue (outbox : OutboxTable) (envelope : DeliveryEnvelope) (fresh : String) (now : Time) :
    Except StoreError (List OutboxRow) × OutboxTable :=
  let items := envelope.items fresh now
  if items.isEmpty then (.ok [], outbox)
  else if strip envelope.channel = "" ∨ strip envelope.peerId = "" then
    (.error (.valueError "delivery requires channel and peer_id"), outbox)
  else
    match enqueueEach items outbox with
    | .error error => (.error error, outbox)
    | .ok written => (.ok (items.map fun item => (written.get? item.id).getD item), written)

/-! ## What a call is to do -/

/-- A row that carries this item to where it is to go. -/
def OutboxRow.Carries (row item : OutboxRow) : Prop :=
  row.channel = item.channel ∧ row.peerId = item.peerId ∧ row.kind = item.kind
    ∧ row.payloadJson = item.payloadJson

/-- A call that returns has stored the items of its envelope, one that raises has changed
nothing, and the same call again adds nothing. -/
structure KeepsItsItems (outbox : OutboxTable) (envelope : DeliveryEnvelope) : Prop where
  stored : ∀ fresh now rows written, enqueue outbox envelope fresh now = (.ok rows, written) →
    ∀ item ∈ envelope.items fresh now, ∃ row, written.get? item.id = some row ∧ row.Carries item
  unchanged : ∀ fresh now error written,
    enqueue outbox envelope fresh now = (.error error, written) → written = outbox
  again : ∀ fresh now rows written fresh' now',
    enqueue outbox envelope fresh now = (.ok rows, written) →
      (enqueue written envelope fresh' now').2 = written

/-- Two envelopes for different addresses are never one batch: their calls do not both
return with rows of one batch id. -/
def StayApart (outbox : OutboxTable) (first second : DeliveryEnvelope) : Prop :=
  ∀ fresh now rows between fresh' now' rows' after,
    enqueue outbox first fresh now = (.ok rows, between) →
      enqueue between second fresh' now' = (.ok rows', after) → first.address ≠ second.address →
        ∀ item ∈ first.items fresh now, ∀ item' ∈ second.items fresh' now',
          item.batchId ≠ item'.batchId

/-- The rows that are there under the ids of these items are of the same items. -/
def Accepts (outbox : OutboxTable) (items : List OutboxRow) : Prop :=
  ∀ item ∈ items, ∀ row ∈ outbox.get? item.id, item.sameItem row = true

/-- An envelope that can be sent names its batch, and the rows that are there for its
items, where they are of the same items, are for its channel and its peer. -/
def Addressed (outbox : OutboxTable) (envelope : DeliveryEnvelope) : Prop :=
  envelope.Sendable → strip envelope.batchId ≠ "" ∧ ∀ fresh now,
    Accepts outbox (envelope.items fresh now) → ∀ item ∈ envelope.items fresh now,
      ∀ row ∈ outbox.get? item.id, row.channel = item.channel ∧ row.peerId = item.peerId

/-- Two envelopes do not collide: if their batch ids begin with the same 240 characters
and they have no item of one kind with different payloads, they are for one address. -/
def CollisionFree (outbox : OutboxTable) (first second : DeliveryEnvelope) : Prop :=
  first.Sendable → second.Sendable → ∀ fresh now fresh' now',
    Accepts outbox (first.items fresh now) → Accepts outbox (second.items fresh' now') →
      (∀ item ∈ first.items fresh now, ∀ item' ∈ second.items fresh' now', item.id = item'.id →
        item'.sameItem item = true) →
        stableBatchId first.batchId fresh = stableBatchId second.batchId fresh' →
          first.address = second.address

/-! ## Items -/

section

variable {envelope : DeliveryEnvelope} {fresh : String} {now : Time} {item : OutboxRow}

theorem mem_items : item ∈ envelope.items fresh now
    ↔ (strip envelope.text ≠ "" ∧ item = envelope.item (stableBatchId envelope.batchId fresh)
        "text" (jsonDump "text" (strip envelope.text)) (strip envelope.text) now)
      ∨ (strip envelope.filePath ≠ "" ∧ item = envelope.item
        (stableBatchId envelope.batchId fresh) "file" (jsonDump "path" (strip envelope.filePath))
        "" now) := by
  unfold DeliveryEnvelope.items
  dsimp only
  rw [List.mem_append]
  refine or_congr ?_ ?_
  · split
    next hblank => simp [hblank]
    next hnamed => simp [hnamed]
  · split
    next hblank => simp [hblank]
    next hnamed => simp [hnamed]

theorem item_of_mem (hmem : item ∈ envelope.items fresh now) :
    item.batchId = stableBatchId envelope.batchId fresh
      ∧ item.id = stableBatchId envelope.batchId fresh ++ ":" ++ item.kind
      ∧ item.channel = strip envelope.channel ∧ item.peerId = strip envelope.peerId := by
  rcases mem_items.mp hmem with ⟨-, rfl⟩ | ⟨-, rfl⟩
  · exact ⟨rfl, rfl, rfl, rfl⟩
  · exact ⟨rfl, rfl, rfl, rfl⟩

theorem append_cancel {a b c : String} (h : a ++ b = a ++ c) : b = c := by
  have hlists : a.toList ++ b.toList = a.toList ++ c.toList := by
    rw [← String.toList_append, ← String.toList_append, h]
  exact String.toList_inj.mp (List.append_cancel_left hlists)

theorem items_nodup : ((envelope.items fresh now).map (·.id)).Nodup := by
  have hids : stableBatchId envelope.batchId fresh ++ ":" ++ "text"
      ≠ stableBatchId envelope.batchId fresh ++ ":" ++ "file" := by
    intro hsame
    exact absurd (append_cancel hsame) (by decide)
  unfold DeliveryEnvelope.items
  dsimp only
  split
  · split
    · exact List.nodup_nil
    · exact List.nodup_singleton _
  · split
    · exact List.nodup_singleton _
    · exact List.nodup_cons.mpr ⟨fun hmem => hids (List.mem_singleton.mp hmem),
        List.nodup_singleton _⟩

theorem items_eq_nil : envelope.items fresh now = []
    ↔ strip envelope.text = "" ∧ strip envelope.filePath = "" := by
  unfold DeliveryEnvelope.items
  dsimp only
  rw [List.append_eq_nil_iff]
  refine and_congr ?_ ?_
  · split <;> simp_all
  · split <;> simp_all

theorem mem_items_of_named (hnamed : strip envelope.batchId ≠ "")
    (hmem : item ∈ envelope.items fresh now) (fresh' : String) (now' : Time) :
    ∃ item' ∈ envelope.items fresh' now', item'.id = item.id ∧ item'.batchId = item.batchId
      ∧ item'.kind = item.kind ∧ item'.payloadJson = item.payloadJson
      ∧ item'.channel = item.channel ∧ item'.peerId = item.peerId := by
  have hbatch : stableBatchId envelope.batchId fresh' = stableBatchId envelope.batchId fresh := by
    simp only [stableBatchId, hnamed, if_false]
  rcases mem_items.mp hmem with ⟨htext, rfl⟩ | ⟨hpath, rfl⟩
  · refine ⟨_, mem_items.mpr (.inl ⟨htext, rfl⟩), ?_⟩
    rw [hbatch]
    exact ⟨rfl, rfl, rfl, rfl, rfl, rfl⟩
  · refine ⟨_, mem_items.mpr (.inr ⟨hpath, rfl⟩), ?_⟩
    rw [hbatch]
    exact ⟨rfl, rfl, rfl, rfl, rfl, rfl⟩

end

/-! ## One call -/

@[simp] theorem sameItem_self (item : OutboxRow) : item.sameItem item = true := by
  simp [OutboxRow.sameItem]

/-- The loop goes through exactly when the rows that are there are accepted, and then
adds the items that are not there. -/
theorem enqueueEach_spec {items : List OutboxRow} (hnodup : (items.map (·.id)).Nodup)
    (outbox : OutboxTable) :
    (Accepts outbox items → ∃ written, enqueueEach items outbox = .ok written
        ∧ ∀ id, written.get? id = (outbox.get? id).or (items.find? fun item => item.id = id))
      ∧ (¬ Accepts outbox items → ∃ error, enqueueEach items outbox = .error error) := by
  induction items generalizing outbox with
  | nil =>
      refine ⟨fun _ => ⟨outbox, rfl, fun id => by simp⟩, fun hrefused => ?_⟩
      exact absurd (fun _ hmem => absurd hmem List.not_mem_nil) hrefused
  | cons head rest ih =>
      obtain ⟨hhead, hrest⟩ := List.nodup_cons.mp hnodup
      have hinserted : (outbox.insertOrIgnore head).get? head.id
          = (outbox.get? head.id).or (some head) := by
        rw [Table.get?_insertOrIgnore, if_pos rfl]
      have hothers : ∀ item ∈ rest,
          (outbox.insertOrIgnore head).get? item.id = outbox.get? item.id := by
        intro item hmem
        have hne : head.id ≠ item.id := by
          intro hsame
          exact hhead (List.mem_map.mpr ⟨item, hmem, hsame.symm⟩)
        rw [Table.get?_insertOrIgnore, if_neg hne, Option.or_none]
      have hrestAccepts : Accepts (outbox.insertOrIgnore head) rest ↔ Accepts outbox rest := by
        refine forall₂_congr fun item hmem => ?_
        rw [hothers item hmem]
      have hsplit : Accepts outbox (head :: rest)
          ↔ (∀ row ∈ outbox.get? head.id, head.sameItem row = true) ∧ Accepts outbox rest :=
        List.forall_mem_cons
      obtain ⟨hgoes, hstops⟩ := ih hrest (outbox.insertOrIgnore head)
      have hcheck : ((outbox.insertOrIgnore head).get? head.id).any head.sameItem = true
          ↔ ∀ row ∈ outbox.get? head.id, head.sameItem row = true := by
        rw [hinserted]
        cases outbox.get? head.id with
        | none => simp
        | some row => simp
      unfold enqueueEach
      dsimp only
      constructor
      · intro haccepts
        obtain ⟨hown, hrestOk⟩ := hsplit.mp haccepts
        obtain ⟨written, hwritten, hget⟩ := hgoes (hrestAccepts.mpr hrestOk)
        refine ⟨written, by rw [if_pos (hcheck.mpr hown), hwritten], fun id => ?_⟩
        rw [hget, Table.get?_insertOrIgnore, List.find?_cons, Option.or_assoc]
        by_cases hid : head.id = id
        · simp [hid]
        · simp [hid]
      · intro hrefused
        by_cases hown : ∀ row ∈ outbox.get? head.id, head.sameItem row = true
        · obtain ⟨error, herror⟩ := hstops fun hrestOk =>
            hrefused (hsplit.mpr ⟨hown, hrestAccepts.mp hrestOk⟩)
          exact ⟨error, by rw [if_pos (hcheck.mpr hown), herror]⟩
        · exact ⟨_, by rw [if_neg (hcheck.not.mpr hown)]⟩

section

variable {outbox written : OutboxTable} {envelope : DeliveryEnvelope} {fresh : String} {now : Time}

theorem enqueue_accepts (hsendable : envelope.Sendable)
    (haccepts : Accepts outbox (envelope.items fresh now)) :
    ∃ rows written, enqueue outbox envelope fresh now = (.ok rows, written)
      ∧ ∀ id, written.get? id
        = (outbox.get? id).or ((envelope.items fresh now).find? fun item => item.id = id) := by
  obtain ⟨hitems, hchannel, hpeer⟩ := hsendable
  have hsome : (envelope.items fresh now).isEmpty = false := by
    rw [← Bool.not_eq_true, List.isEmpty_iff, items_eq_nil, not_and_or]
    exact hitems
  obtain ⟨written, hwritten, hget⟩ := (enqueueEach_spec items_nodup outbox).1 haccepts
  refine ⟨(envelope.items fresh now).map fun item => (written.get? item.id).getD item, written,
    ?_, hget⟩
  unfold enqueue
  simp [hsome, hchannel, hpeer, hwritten]

theorem enqueue_returns {rows : List OutboxRow}
    (h : enqueue outbox envelope fresh now = (.ok rows, written)) :
    (envelope.items fresh now = [] ∧ written = outbox)
      ∨ envelope.Sendable ∧ Accepts outbox (envelope.items fresh now)
        ∧ ∀ id, written.get? id
          = (outbox.get? id).or ((envelope.items fresh now).find? fun item => item.id = id) := by
  unfold enqueue at h
  dsimp only at h
  split at h
  next hnone =>
    obtain ⟨-, rfl⟩ := Prod.mk.inj h
    exact .inl ⟨List.isEmpty_iff.mp hnone, rfl⟩
  next hsome =>
    rw [List.isEmpty_iff, items_eq_nil, not_and_or] at hsome
    split at h
    · cases (Prod.mk.inj h).1
    next haddressed =>
      by_cases haccepts : Accepts outbox (envelope.items fresh now)
      · obtain ⟨written', hwritten, hget⟩ := (enqueueEach_spec items_nodup outbox).1 haccepts
        rw [hwritten] at h
        obtain ⟨-, rfl⟩ := Prod.mk.inj h
        exact .inr ⟨⟨hsome, not_or.mp haddressed⟩, haccepts, hget⟩
      · obtain ⟨error, herror⟩ := (enqueueEach_spec items_nodup outbox).2 haccepts
        rw [herror] at h
        cases (Prod.mk.inj h).1

theorem enqueue_raises {error : StoreError}
    (h : enqueue outbox envelope fresh now = (.error error, written)) : written = outbox := by
  unfold enqueue at h
  dsimp only at h
  split at h
  · cases (Prod.mk.inj h).1
  split at h
  · exact (Prod.mk.inj h).2.symm
  split at h
  · exact (Prod.mk.inj h).2.symm
  · cases (Prod.mk.inj h).1

end

/-! ## Calls that keep their items -/

theorem enqueueEach_present {items : List OutboxRow} {outbox : OutboxTable}
    (hthere : ∀ item ∈ items, ∃ row, outbox.get? item.id = some row ∧ item.sameItem row = true) :
    enqueueEach items outbox = .ok outbox := by
  induction items with
  | nil => rfl
  | cons head rest ih =>
      obtain ⟨row, hrow, hsame⟩ := hthere head List.mem_cons_self
      have hcheck : (outbox.get? head.id).any head.sameItem = true := by
        rw [hrow]
        exact hsame
      unfold enqueueEach
      dsimp only
      rw [Table.insertOrIgnore_of_some hrow, if_pos hcheck]
      exact ih fun item hmem => hthere item (List.mem_cons_of_mem head hmem)

theorem exists_fresh (outbox : OutboxTable) : ∃ fresh : String, ∀ rest,
    outbox.get? (fresh ++ rest) = none := by
  let lengths := outbox.rows.map (·.id.length)
  refine ⟨String.ofList (List.replicate (lengths.sum + 1) 'x'), fun rest => ?_⟩
  cases hrow : outbox.get? (String.ofList (List.replicate (lengths.sum + 1) 'x') ++ rest) with
  | none => rfl
  | some row =>
      obtain ⟨hmem, hid⟩ := Table.get?_eq_some_iff.mp hrow
      have hle : row.id.length ≤ lengths.sum :=
        List.le_sum_of_mem (List.mem_map.mpr ⟨row, hmem, rfl⟩)
      rw [hid, String.length_append, String.length_ofList, List.length_replicate] at hle
      omega

section

variable {outbox written : OutboxTable} {envelope : DeliveryEnvelope} {fresh : String} {now : Time}
  {item : OutboxRow}

theorem get?_stored
    (hget : ∀ id, written.get? id
      = (outbox.get? id).or ((envelope.items fresh now).find? fun item => item.id = id))
    (hmem : item ∈ envelope.items fresh now) :
    written.get? item.id = some ((outbox.get? item.id).getD item) := by
  have hfound : (envelope.items fresh now).find? (fun found => found.id = item.id) = some item :=
    Table.get?_of_mem (t := ⟨envelope.items fresh now, items_nodup⟩) hmem
  rw [hget, hfound]
  cases outbox.get? item.id with
  | none => rfl
  | some row => rfl

theorem sameItem_stored (haccepts : Accepts outbox (envelope.items fresh now))
    (hmem : item ∈ envelope.items fresh now) :
    item.sameItem ((outbox.get? item.id).getD item) = true := by
  cases hrow : outbox.get? item.id with
  | none => exact sameItem_self item
  | some row => exact haccepts item hmem row hrow

theorem keepsItsItems_of_addressed (h : Addressed outbox envelope) :
    KeepsItsItems outbox envelope := by
  constructor
  · intro fresh now rows written hreturns item hmem
    rcases enqueue_returns hreturns with ⟨hnone, -⟩ | ⟨hsendable, haccepts, hget⟩
    · rw [hnone] at hmem
      cases hmem
    · obtain ⟨-, hthere⟩ := h hsendable
      refine ⟨_, get?_stored hget hmem, ?_⟩
      have hsame := of_decide_eq_true (sameItem_stored haccepts hmem)
      cases hrow : outbox.get? item.id with
      | none => exact ⟨rfl, rfl, rfl, rfl⟩
      | some row =>
          obtain ⟨hchannel, hpeer⟩ := hthere fresh now haccepts item hmem row hrow
          rw [hrow] at hsame
          exact ⟨hchannel, hpeer, hsame.2.1, hsame.2.2⟩
  · intro fresh now error written hraises
    exact enqueue_raises hraises
  · intro fresh now rows written fresh' now' hreturns
    rcases enqueue_returns hreturns with ⟨hnone, -⟩ | ⟨hsendable, haccepts, hget⟩
    · have hnone' : envelope.items fresh' now' = [] := items_eq_nil.mpr (items_eq_nil.mp hnone)
      simp [enqueue, hnone']
    · obtain ⟨hnamed, -⟩ := h hsendable
      have hthere : ∀ item' ∈ envelope.items fresh' now', ∃ row,
          written.get? item'.id = some row ∧ item'.sameItem row = true := by
        intro item' hmem'
        obtain ⟨item, hmem, hid, hbatch, hkind, hpayload, -⟩ :=
          mem_items_of_named hnamed hmem' fresh now
        refine ⟨(outbox.get? item.id).getD item, ?_, ?_⟩
        · rw [← hid]
          exact get?_stored hget hmem
        · have hsame := of_decide_eq_true (sameItem_stored haccepts hmem)
          rw [hbatch, hkind, hpayload] at hsame
          exact decide_eq_true hsame
      unfold enqueue
      dsimp only
      split
      · rfl
      split
      · rfl
      rw [enqueueEach_present hthere]

theorem named_of_again (hsendable : envelope.Sendable)
    (hagain : ∀ fresh now rows written fresh' now',
      enqueue outbox envelope fresh now = (.ok rows, written) →
        (enqueue written envelope fresh' now').2 = written) : strip envelope.batchId ≠ "" := by
  intro hblank
  have hbatch : ∀ fresh, stableBatchId envelope.batchId fresh = fresh := by
    intro fresh
    rw [stableBatchId, if_pos hblank]
  have hunused : ∀ (table : OutboxTable) (fresh : String),
      (∀ rest, table.get? (fresh ++ rest) = none) → ∀ item ∈ envelope.items fresh 0,
        table.get? item.id = none := by
    intro table fresh hfresh item hmem
    obtain ⟨-, hid, -⟩ := item_of_mem hmem
    rw [hid, hbatch, String.append_assoc]
    exact hfresh _
  have hfree : ∀ (table : OutboxTable) (fresh : String),
      (∀ rest, table.get? (fresh ++ rest) = none) → Accepts table (envelope.items fresh 0) := by
    intro table fresh hfresh item hmem row hrow
    rw [hunused table fresh hfresh item hmem] at hrow
    cases hrow
  obtain ⟨fresh, hfresh⟩ := exists_fresh outbox
  obtain ⟨rows, written, hreturns, -⟩ := enqueue_accepts hsendable (hfree outbox fresh hfresh)
  obtain ⟨fresh', hfresh'⟩ := exists_fresh written
  obtain ⟨rows', written', hreturns', hget⟩ :=
    enqueue_accepts hsendable (hfree written fresh' hfresh')
  have hsame := hagain fresh 0 rows written fresh' 0 hreturns
  rw [hreturns'] at hsame
  obtain rfl : written' = written := hsame
  obtain ⟨item, hmem⟩ := List.exists_mem_of_ne_nil (envelope.items fresh' 0) fun hnone => by
    obtain ⟨htext, hpath⟩ := items_eq_nil.mp hnone
    exact hsendable.1.elim (fun hsome => hsome htext) fun hsome => hsome hpath
  have hstored := get?_stored hget hmem
  rw [hunused _ fresh' hfresh' item hmem] at hstored
  cases hstored

theorem addressed_of_keepsItsItems (h : KeepsItsItems outbox envelope) :
    Addressed outbox envelope := by
  intro hsendable
  refine ⟨named_of_again hsendable h.again, fun fresh now haccepts item hmem row hrow => ?_⟩
  obtain ⟨rows, written, hreturns, hget⟩ := enqueue_accepts hsendable haccepts
  obtain ⟨found, hfound, hchannel, hpeer, -⟩ := h.stored fresh now rows written hreturns item hmem
  rw [get?_stored hget hmem, Option.mem_def.mp hrow] at hfound
  obtain rfl := Option.some.inj hfound
  exact ⟨hchannel, hpeer⟩

end

/-! ## Two envelopes -/

section

variable {outbox : OutboxTable} {first second : DeliveryEnvelope}

theorem sameItem_trans {item item' row : OutboxRow} (h : item.sameItem row = true)
    (h' : item'.sameItem row = true) : item'.sameItem item = true := by
  obtain ⟨hbatch, hkind, hpayload⟩ := of_decide_eq_true h
  obtain ⟨hbatch', hkind', hpayload'⟩ := of_decide_eq_true h'
  exact decide_eq_true ⟨hbatch.symm.trans hbatch', hkind.symm.trans hkind',
    hpayload.symm.trans hpayload'⟩

/-- The second call goes through after the first one exactly when each would go through
by itself and they have no item of one id with different payloads. -/
theorem accepts_after {between : OutboxTable} {fresh fresh' : String} {now now' : Time}
    (haccepts : Accepts outbox (first.items fresh now))
    (hget : ∀ id, between.get? id
      = (outbox.get? id).or ((first.items fresh now).find? fun item => item.id = id)) :
    Accepts between (second.items fresh' now') ↔ Accepts outbox (second.items fresh' now')
      ∧ ∀ item ∈ first.items fresh now, ∀ item' ∈ second.items fresh' now', item.id = item'.id →
        item'.sameItem item = true := by
  constructor
  · intro hafter
    refine ⟨fun item' hmem' row hrow => ?_, fun item hmem item' hmem' hid => ?_⟩
    · refine hafter item' hmem' row ?_
      rw [hget, Option.mem_def.mp hrow, Option.some_or]
      exact rfl
    · have hstored := get?_stored hget hmem
      rw [hid] at hstored
      exact sameItem_trans (hid ▸ sameItem_stored haccepts hmem)
        (hafter item' hmem' _ hstored)
  · rintro ⟨hsecond, hagree⟩ item' hmem' row hrow
    rw [hget, Option.mem_def, Option.or_eq_some_iff] at hrow
    rcases hrow with hrow | ⟨-, hfound⟩
    · exact hsecond item' hmem' row hrow
    · have hid : row.id = item'.id := by simpa using List.find?_some hfound
      exact hagree row (List.mem_of_find?_eq_some hfound) item' hmem' hid

theorem stayApart_iff : StayApart outbox first second ↔ CollisionFree outbox first second := by
  constructor
  · intro hapart hfirst hsecond fresh now fresh' now' haccepts haccepts' hagree hbatch
    by_contra haddress
    obtain ⟨rows, between, hreturns, hget⟩ := enqueue_accepts hfirst haccepts
    obtain ⟨rows', after, hreturns', -⟩ :=
      enqueue_accepts hsecond ((accepts_after haccepts hget).mpr ⟨haccepts', hagree⟩)
    have hsome : ∀ (envelope : DeliveryEnvelope) (fresh : String) (now : Time),
        envelope.Sendable → ∃ item, item ∈ envelope.items fresh now := by
      intro envelope fresh now hsendable
      refine List.exists_mem_of_ne_nil _ fun hnone => ?_
      obtain ⟨htext, hpath⟩ := items_eq_nil.mp hnone
      exact hsendable.1.elim (fun hsome => hsome htext) fun hsome => hsome hpath
    obtain ⟨item, hmem⟩ := hsome first fresh now hfirst
    obtain ⟨item', hmem'⟩ := hsome second fresh' now' hsecond
    refine hapart fresh now rows between fresh' now' rows' after hreturns hreturns' haddress
      item hmem item' hmem' ?_
    rw [(item_of_mem hmem).1, (item_of_mem hmem').1]
    exact hbatch
  · intro hfree fresh now rows between fresh' now' rows' after hreturns hreturns' haddress item hmem
      item' hmem' hbatch
    rcases enqueue_returns hreturns with ⟨hnone, -⟩ | ⟨hfirst, haccepts, hget⟩
    · rw [hnone] at hmem
      cases hmem
    rcases enqueue_returns hreturns' with ⟨hnone, -⟩ | ⟨hsecond, hafter, -⟩
    · rw [hnone] at hmem'
      cases hmem'
    obtain ⟨haccepts', hagree⟩ := (accepts_after haccepts hget).mp hafter
    rw [(item_of_mem hmem).1, (item_of_mem hmem').1] at hbatch
    exact haddress (hfree hfirst hsecond fresh now fresh' now' haccepts haccepts' hagree hbatch)

end

/-- **`enqueue` keeps its items and never aliases** exactly when both envelopes name their
batch, the rows that are there for their items are for their channel and peer, and the
two do not collide with each other. -/
theorem enqueue_never_aliases_iff (outbox : OutboxTable) (first second : DeliveryEnvelope) :
    (KeepsItsItems outbox first ∧ KeepsItsItems outbox second ∧ StayApart outbox first second)
      ↔ Addressed outbox first ∧ Addressed outbox second ∧ CollisionFree outbox first second := by
  rw [stayApart_iff]
  refine and_congr ⟨addressed_of_keepsItsItems, keepsItsItems_of_addressed⟩ (and_congr_left' ?_)
  exact ⟨addressed_of_keepsItsItems, keepsItsItems_of_addressed⟩

/-- A message of one batch id to this peer. -/
def messageTo (peerId : String) : DeliveryEnvelope where
  batchId := "trace"
  channel := "feishu"
  peerId := peerId
  senderId := ""
  traceId := "trace"
  runId := ""
  goalId := ""
  text := "done"
  bodyProvenance := ""
  filePath := ""
  transportContext := []
  maxAttempts := 3

/-- The message to the second peer is taken for the one to the first. -/
theorem second_peer_gets_nothing :
    ¬ ∀ (outbox : OutboxTable) (first second : DeliveryEnvelope),
      KeepsItsItems outbox first ∧ KeepsItsItems outbox second ∧ StayApart outbox first second := by
  intro hall
  obtain ⟨-, -, hapart⟩ := hall Table.empty (messageTo "alice") (messageTo "bob")
  have htext : strip "done" ≠ "" := by decide
  have hchannel : strip "feishu" ≠ "" := by decide
  have hsendable : ∀ peerId, strip peerId ≠ "" → (messageTo peerId).Sendable :=
    fun peerId hpeer => ⟨.inl htext, hchannel, hpeer⟩
  have haccepts : ∀ peerId, Accepts Table.empty ((messageTo peerId).items "" 0) := by
    intro peerId item _ row hrow
    cases hrow
  have hagree : ∀ item ∈ (messageTo "alice").items "" 0, ∀ item' ∈ (messageTo "bob").items "" 0,
      item.id = item'.id → item'.sameItem item = true := by
    decide +kernel
  have haddress := stayApart_iff.mp hapart (hsendable "alice" (by decide))
    (hsendable "bob" (by decide)) "" 0 "" 0 (haccepts "alice") (haccepts "bob") hagree rfl
  exact absurd haddress (by decide)

end Navi.Delivery
