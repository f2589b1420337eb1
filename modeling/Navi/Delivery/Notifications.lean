import Navi.Delivery.Enqueue

/-!
# Background notifications

What the Weixin service stores of the events and tasks that the daemon hands it. The
batch of a notification has the trace id of its event, or the id of its Run, for its id:
a second notification of the same Run is a second envelope for the same batch.
-/

namespace Navi.Delivery

open Navi.Base Navi.Loop

/-! ## Envelopes -/

/-- `local_source`, `home_channel` and `DEFAULT_MAX_ATTEMPTS` of a service; `digest` is the
text of a SHA-256 digest, as far as `_response_seed` takes it. -/
structure WeixinConfig where
  localSource : String
  homeChannel : String
  maxAttempts : Int
  digest : String → String

/-- `_response_seed`. -/
def responseSeed (digest : String → String) (channel peerId text path : String) : String :=
  "response-" ++ digest ("\u001f".intercalate [channel, peerId, text, path])

/-- `envelope_from_response`, of a response that is no file. -/
def envelopeFromResponse (config : WeixinConfig) (channel peerId senderId traceId text runId
    bodyProvenance : String) : DeliveryEnvelope where
  batchId := if traceId = "" then responseSeed config.digest channel peerId text "" else traceId
  channel := channel
  peerId := peerId
  senderId := senderId
  traceId := traceId
  runId := runId
  goalId := ""
  text := text
  bodyProvenance := bodyProvenance
  filePath := ""
  transportContext := []
  maxAttempts := config.maxAttempts

/-- A result of the daemon, or a Run that it has worked on. `text` is what the
notification model made of it, empty where it was skipped before or was declined;
`uuid` is a fresh one. -/
inductive Notification where
  | event (runId traceId peerId text uuid : String)
  | task (id peerId senderId text : String)

/-- `_surface_background_event` and `_surface_background_task`, up to `enqueue`. -/
def Notification.envelope (config : WeixinConfig) : Notification → Option DeliveryEnvelope
  | .event runId traceId peerId text uuid =>
      let traceId := if traceId ≠ "" then traceId else if runId ≠ "" then runId else uuid
      let peerId := if peerId ≠ "" then peerId else config.homeChannel
      if peerId = "" ∨ strip text = "" then none
      else some (envelopeFromResponse config config.localSource peerId "" traceId text runId
        "background_notification")
  | .task id peerId senderId text =>
      if peerId = "" ∨ strip text = "" then none
      else some (envelopeFromResponse config config.localSource peerId senderId id text ""
        "background_notification")

/-! ## The service -/

/-- A write of the transport: what it leaves of a row alone. -/
structure TransportWrite where
  guard : OutboxRow → Bool
  set : OutboxRow → OutboxRow
  id : ∀ row, (set row).id = row.id
  batchId : ∀ row, (set row).batchId = row.batchId
  kind : ∀ row, (set row).kind = row.kind
  payloadJson : ∀ row, (set row).payloadJson = row.payloadJson
  channel : ∀ row, (set row).channel = row.channel
  peerId : ∀ row, (set row).peerId = row.peerId

/-- A notification, another response, or a step of the transport. -/
inductive NotifyLabel where
  | notify (notification : Notification) (fresh : String) (now : Time)
  | respond (envelope : DeliveryEnvelope) (fresh : String) (now : Time)
  | transport (write : TransportWrite)

/-- A notification that was surfaced: its envelope, the items that were to be stored, and
whether `enqueue` returned. -/
structure Surfaced where
  envelope : DeliveryEnvelope
  fresh : String
  now : Time
  returned : Bool

/-- The outbox, and (a history variable) the notifications so far. -/
structure NotifyState where
  outbox : OutboxTable
  surfaced : List Surfaced

/-- What `enqueue` makes of a notification, as it is recorded. -/
def NotifyState.entry (s : NotifyState) (envelope : DeliveryEnvelope) (fresh : String)
    (now : Time) : Surfaced where
  envelope := envelope
  fresh := fresh
  now := now
  returned := (enqueue s.outbox envelope fresh now).1.isOk

@[simp] theorem entry_envelope (s : NotifyState) (envelope : DeliveryEnvelope) (fresh : String)
    (now : Time) : (s.entry envelope fresh now).envelope = envelope := rfl

@[simp] theorem entry_now (s : NotifyState) (envelope : DeliveryEnvelope) (fresh : String)
    (now : Time) : (s.entry envelope fresh now).now = now := rfl

@[simp] theorem entry_returned (s : NotifyState) (envelope : DeliveryEnvelope) (fresh : String)
    (now : Time) : (s.entry envelope fresh now).returned
      = (enqueue s.outbox envelope fresh now).1.isOk := rfl

@[simp] theorem entry_fresh (s : NotifyState) (envelope : DeliveryEnvelope) (fresh : String)
    (now : Time) : (s.entry envelope fresh now).fresh = fresh := rfl

/-- The state after a notification has been enqueued. -/
def NotifyState.surface (s : NotifyState) (envelope : DeliveryEnvelope) (fresh : String)
    (now : Time) : NotifyState where
  outbox := (enqueue s.outbox envelope fresh now).2
  surfaced := s.entry envelope fresh now :: s.surfaced

@[simp] theorem surface_outbox (s : NotifyState) (envelope : DeliveryEnvelope) (fresh : String)
    (now : Time) : (s.surface envelope fresh now).outbox
      = (enqueue s.outbox envelope fresh now).2 := rfl

/-- Notifications in any order, with everything else that writes the outbox. -/
def notifySystem (config : WeixinConfig) : System NotifyState NotifyLabel where
  step s
    | .notify notification fresh now =>
        match notification.envelope config with
        | none => some s
        | some envelope => some (s.surface envelope fresh now)
    | .respond envelope fresh now =>
        some { s with outbox := (enqueue s.outbox envelope fresh now).2 }
    | .transport write =>
        some { s with outbox := s.outbox.update write.guard write.set write.id }

/-- There is a row for the item, and it is the item's own: of its batch, with its payload,
to its channel and peer. -/
def Stored (outbox : OutboxTable) (item : OutboxRow) : Prop :=
  ∃ row, outbox.get? item.id = some row ∧ item.sameItem row = true ∧ row.Carries item

/-- Every notification is stored as its own batch: none raised, the rows of each are its
own, and two that have one batch id are for one peer, under one trace id. -/
structure NotifyState.AllStored (s : NotifyState) : Prop where
  returned : ∀ notified ∈ s.surfaced, notified.envelope.Sendable → notified.returned = true
  stored : ∀ notified ∈ s.surfaced, notified.envelope.Sendable →
    ∀ item ∈ notified.envelope.items notified.fresh notified.now, Stored s.outbox item
  own : ∀ notified ∈ s.surfaced, ∀ other ∈ s.surfaced,
    notified.envelope.Sendable → other.envelope.Sendable →
      stableBatchId notified.envelope.batchId notified.fresh
        = stableBatchId other.envelope.batchId other.fresh →
      notified.envelope.address = other.envelope.address

/-- A notification finds its batch id unused, or used for it alone: the rows that are there
under the ids of its items are its own, and the notifications before it with that batch id
were for the same peer, under the same trace id. -/
def FindsOwnBatch (config : WeixinConfig) (s : NotifyState) : NotifyLabel → Prop
  | .notify notification fresh now =>
      ∀ envelope, notification.envelope config = some envelope → envelope.Sendable →
        (∀ item ∈ envelope.items fresh now, ∀ row ∈ s.outbox.get? item.id,
          item.sameItem row = true ∧ row.Carries item)
        ∧ ∀ other ∈ s.surfaced, other.envelope.Sendable →
          stableBatchId envelope.batchId fresh
            = stableBatchId other.envelope.batchId other.fresh →
          envelope.address = other.envelope.address
  | _ => True

/-! ## What keeps the rows -/

section

variable {outbox : OutboxTable}

theorem Stored.enqueue {item : OutboxRow} (h : Stored outbox item) (envelope : DeliveryEnvelope)
    (fresh : String) (now : Time) :
    Stored (Delivery.enqueue outbox envelope fresh now).2 item := by
  obtain ⟨row, hrow, hsame, hcarries⟩ := h
  refine ⟨row, ?_, hsame, hcarries⟩
  cases hresult : Delivery.enqueue outbox envelope fresh now with
  | mk ended written =>
      cases ended with
      | error error =>
          obtain rfl := enqueue_raises hresult
          exact hrow
      | ok rows =>
          rcases enqueue_returns hresult with ⟨-, rfl⟩ | ⟨-, -, hget⟩
          · exact hrow
          · show written.get? item.id = some row
            rw [hget, hrow, Option.some_or]

theorem Stored.transport {item : OutboxRow} (h : Stored outbox item) (write : TransportWrite) :
    Stored (outbox.update write.guard write.set write.id) item := by
  obtain ⟨row, hrow, hsame, hcarries⟩ := h
  obtain ⟨hbatch, hkind, hpayload⟩ := of_decide_eq_true hsame
  obtain ⟨hchannel, hpeer, hkind', hpayload'⟩ := hcarries
  refine ⟨_, by rw [Table.get?_update, hrow, Option.map_some], ?_⟩
  split
  · refine ⟨decide_eq_true ⟨?_, ?_, ?_⟩, ?_, ?_, ?_, ?_⟩
    · exact (write.batchId row).trans hbatch
    · exact (write.kind row).trans hkind
    · exact (write.payloadJson row).trans hpayload
    · exact (write.channel row).trans hchannel
    · exact (write.peerId row).trans hpeer
    · exact (write.kind row).trans hkind
    · exact (write.payloadJson row).trans hpayload
  · exact ⟨hsame, hchannel, hpeer, hkind', hpayload'⟩

end

/-! ## One notification -/

section

variable {s : NotifyState} {envelope : DeliveryEnvelope} {fresh : String} {now : Time}

/-- A sendable envelope is stored as its own exactly when the rows that are there for it
are its own. -/
theorem enqueue_stores_iff (hsendable : envelope.Sendable) :
    ((enqueue s.outbox envelope fresh now).1.isOk = true
        ∧ ∀ item ∈ envelope.items fresh now,
          Stored (enqueue s.outbox envelope fresh now).2 item)
      ↔ ∀ item ∈ envelope.items fresh now, ∀ row ∈ s.outbox.get? item.id,
        item.sameItem row = true ∧ row.Carries item := by
  constructor
  · rintro ⟨hreturned, hstored⟩ item hmem row hrow
    cases hresult : enqueue s.outbox envelope fresh now with
    | mk ended written =>
        rw [hresult] at hreturned hstored
        cases ended with
        | error error => cases hreturned
        | ok rows =>
            rcases enqueue_returns hresult with ⟨hnone, -⟩ | ⟨-, -, hget⟩
            · rw [hnone] at hmem
              cases hmem
            · obtain ⟨found, hfound, hsame, hcarries⟩ := hstored item hmem
              have hthere := get?_stored hget hmem
              rw [Option.mem_def.mp hrow, Option.getD_some] at hthere
              obtain rfl := Option.some.inj (hthere.symm.trans hfound)
              exact ⟨hsame, hcarries⟩
  · intro hown
    have haccepts : Accepts s.outbox (envelope.items fresh now) :=
      fun item hmem row hrow => (hown item hmem row hrow).1
    obtain ⟨rows, written, hreturns, hget⟩ := enqueue_accepts hsendable haccepts
    rw [hreturns]
    refine ⟨rfl, fun item hmem => ⟨_, get?_stored hget hmem, sameItem_stored haccepts hmem, ?_⟩⟩
    cases hrow : s.outbox.get? item.id with
    | none => exact ⟨rfl, rfl, rfl, rfl⟩
    | some row => exact (hown item hmem row hrow).2

theorem mem_surface {notified : Surfaced} : notified ∈ (s.surface envelope fresh now).surfaced
    ↔ notified = s.entry envelope fresh now ∨ notified ∈ s.surfaced := List.mem_cons

theorem surface_allStored_iff (hall : s.AllStored) :
    (s.surface envelope fresh now).AllStored
      ↔ (envelope.Sendable →
        (∀ item ∈ envelope.items fresh now, ∀ row ∈ s.outbox.get? item.id,
          item.sameItem row = true ∧ row.Carries item)
        ∧ ∀ other ∈ s.surfaced, other.envelope.Sendable →
          stableBatchId envelope.batchId fresh
            = stableBatchId other.envelope.batchId other.fresh →
          envelope.address = other.envelope.address) := by
  constructor
  · intro hafter hsendable
    have hentry : s.entry envelope fresh now ∈ (s.surface envelope fresh now).surfaced :=
      mem_surface.mpr (.inl rfl)
    have hreturned := hafter.returned (s.entry envelope fresh now) hentry
    have hstored := hafter.stored (s.entry envelope fresh now) hentry
    simp only [entry_envelope, entry_returned] at hreturned
    simp only [entry_envelope, entry_fresh, entry_now, surface_outbox] at hstored
    refine ⟨(enqueue_stores_iff hsendable).mp ⟨hreturned hsendable, hstored hsendable⟩,
      fun other hmem hother hbatch => ?_⟩
    · have hown := hafter.own (s.entry envelope fresh now) hentry other
        (mem_surface.mpr (.inr hmem))
      rw [entry_envelope, entry_fresh] at hown
      exact hown hsendable hother hbatch
  · intro hfinds
    constructor
    · intro notified hmem hsendable
      rcases mem_surface.mp hmem with rfl | hold
      · rw [entry_envelope] at hsendable
        rw [entry_returned]
        exact ((enqueue_stores_iff hsendable).mpr (hfinds hsendable).1).1
      · exact hall.returned notified hold hsendable
    · intro notified hmem hsendable item hitem
      rcases mem_surface.mp hmem with rfl | hold
      · rw [entry_envelope] at hsendable
        rw [entry_envelope, entry_fresh, entry_now] at hitem
        rw [surface_outbox]
        exact ((enqueue_stores_iff hsendable).mpr (hfinds hsendable).1).2 item hitem
      · exact (hall.stored notified hold hsendable item hitem).enqueue envelope fresh now
    · intro notified hmem other hother hsendable hsendable' hbatch
      rcases mem_surface.mp hmem with rfl | hold
      · rcases mem_surface.mp hother with rfl | hold'
        · exact rfl
        · rw [entry_envelope] at hsendable
          rw [entry_envelope, entry_fresh] at hbatch
          rw [entry_envelope]
          exact (hfinds hsendable).2 other hold' hsendable' hbatch
      · rcases mem_surface.mp hother with rfl | hold'
        · rw [entry_envelope] at hsendable'
          rw [entry_envelope, entry_fresh] at hbatch
          rw [entry_envelope]
          exact ((hfinds hsendable').2 notified hold hsendable hbatch.symm).symm
        · exact hall.own notified hold other hold' hsendable hsendable' hbatch

end

theorem step_allStored_iff {config : WeixinConfig} {s s' : NotifyState} {label : NotifyLabel}
    (hall : s.AllStored) (hstep : (notifySystem config).step s label = some s') :
    s'.AllStored ↔ FindsOwnBatch config s label := by
  cases label with
  | respond envelope fresh now =>
      obtain rfl := Option.some.inj hstep
      refine iff_of_true ⟨hall.returned, fun notified hmem hsendable item hitem => ?_, hall.own⟩
        trivial
      exact (hall.stored notified hmem hsendable item hitem).enqueue envelope fresh now
  | transport write =>
      obtain rfl := Option.some.inj hstep
      refine iff_of_true ⟨hall.returned, fun notified hmem hsendable item hitem => ?_, hall.own⟩
        trivial
      exact (hall.stored notified hmem hsendable item hitem).transport write
  | notify notification fresh now =>
      cases henvelope : notification.envelope config with
      | none =>
          simp only [notifySystem, henvelope] at hstep
          obtain rfl := Option.some.inj hstep
          refine iff_of_true hall fun envelope hfound => ?_
          rw [henvelope] at hfound
          cases hfound
      | some envelope =>
          simp only [notifySystem, henvelope] at hstep
          obtain rfl := Option.some.inj hstep
          rw [surface_allStored_iff hall]
          constructor
          · intro hfinds found hfound
            obtain rfl := Option.some.inj (henvelope.symm.trans hfound)
            exact hfinds
          · intro hfinds
            exact hfinds envelope henvelope

/-! ## Whole runs -/

/-- **Background notifications are stored.** From any outbox, in every run of
notifications, other responses and steps of the transport, every notification is stored
as its own batch, if and only if each finds its batch id unused or used for it alone. -/
theorem notifications_stored_iff (config : WeixinConfig) (outbox : OutboxTable)
    (labels : List NotifyLabel) :
    (∀ n s, (notifySystem config).run ⟨outbox, []⟩ (labels.take n) = some s → s.AllStored)
      ↔ (notifySystem config).Along (FindsOwnBatch config) ⟨outbox, []⟩ labels := by
  have hstart : NotifyState.AllStored ⟨outbox, []⟩ :=
    ⟨fun _ hmem => absurd hmem List.not_mem_nil, fun _ hmem => absurd hmem List.not_mem_nil,
      fun _ hmem => absurd hmem List.not_mem_nil⟩
  refine (notifySystem config).run_good_iff (fun _ _ _ _ _ => trivial)
    (fun _ _ _ _ hall hstep => step_allStored_iff hall hstep) (fun s label hfails => ?_) trivial
    hstart labels
  cases label with
  | notify notification fresh now =>
      cases henvelope : notification.envelope config with
      | none => exact ⟨s, by simp only [notifySystem, henvelope]⟩
      | some envelope =>
          exact ⟨s.surface envelope fresh now, by simp only [notifySystem, henvelope]⟩
  | respond envelope fresh now => exact absurd trivial hfails
  | transport write => exact absurd trivial hfails

/-- A service, as far as these runs go. -/
def plainConfig : WeixinConfig := ⟨"weixin", "home", 3, id⟩

/-- A Run is reported twice: it has paused, and it has failed. -/
def twoReports : List NotifyLabel :=
  [.notify (.task "run" "peer" "owner" "paused") "" 0,
    .notify (.task "run" "peer" "owner" "failed") "" 1]

/-- The second report of a Run raises. -/
theorem second_report_raises :
    ¬ ∀ (config : WeixinConfig) (labels : List NotifyLabel) (s : NotifyState),
      (notifySystem config).run ⟨Table.empty, []⟩ labels = some s → s.AllStored := by
  intro hall
  have hrun : ((notifySystem plainConfig).run ⟨Table.empty, []⟩ twoReports).map (fun s =>
      s.surfaced.any fun notified => !notified.returned ∧ strip notified.envelope.text ≠ ""
        ∧ strip notified.envelope.channel ≠ "" ∧ strip notified.envelope.peerId ≠ "")
      = some true := by
    decide +kernel
  obtain ⟨s, hs, hfailed⟩ := Option.map_eq_some_iff.mp hrun
  obtain ⟨notified, hmem, hreport⟩ := List.any_eq_true.mp hfailed
  obtain ⟨hraised, htext, hchannel, hpeer⟩ := of_decide_eq_true hreport
  have hreturned := (hall plainConfig twoReports s hs).returned notified hmem
    ⟨.inl htext, hchannel, hpeer⟩
  rw [hreturned] at hraised
  cases hraised

end Navi.Delivery
