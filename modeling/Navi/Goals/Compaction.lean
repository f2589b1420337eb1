import Mathlib
import Navi.Base.System
import Navi.Base.JsonText
import Navi.Lifecycle.Projection

/-!
# Compaction of goal events

Events are recorded while compactions of the same events await the model. A compaction stores an
event of its own and deletes what it listed, so an event that is gone is in the text that a model
was given for an event that is still there, or for one that went the same way.
-/

namespace Navi.Compaction

open Navi.Base Navi.Lifecycle

/-! ## Events -/

/-- `GoalEvent`. -/
structure GoalEvent where
  id : String
  goalId : String
  eventType : String
  phase : Phase
  governance : Governance
  acceptance : Acceptance
  resolution : Resolution
  runId : String
  traceId : String
  evidenceJson : String
  createdAt : Time
  deriving DecidableEq

/-- How values become text: `json.dumps`, and the text of a time. -/
structure EventTexts where
  dumps : Json → String
  time : Time → String

/-- `_is_constraint_event`. -/
def GoalEvent.isConstraintEvent (event : GoalEvent) : Bool :=
  event.governance = .awaitingApproval ∨ event.resolution = .blocked ∨ event.resolution = .failed

def GoalEvent.line (texts : EventTexts) (event : GoalEvent) : String :=
  "[" ++ texts.time event.createdAt ++ "] " ++ event.eventType ++ " " ++ event.phase.text
    ++ " " ++ event.evidenceJson

/-- An event in `preserved_events`. -/
def GoalEvent.preserved (event : GoalEvent) : Json :=
  .obj [("id", .str event.id), ("event_type", .str event.eventType),
    ("phase", .str event.phase.text), ("governance", .str event.governance.text),
    ("acceptance", .str event.acceptance.text), ("resolution", .str event.resolution.text),
    ("run_id", .str event.runId), ("trace_id", .str event.traceId),
    ("evidence_json", .str event.evidenceJson), ("created_at", .float event.createdAt)]

def compactionEvidence (summary : String) (events : List GoalEvent) : Json :=
  .obj [("summary", .str summary),
    ("preserved_events", .arr ((events.filter (·.isConstraintEvent)).map (·.preserved)))]

def compactionEvent (texts : EventTexts) (goalId summary id : String) (now : Time)
    (events : List GoalEvent) : GoalEvent where
  id := id
  goalId := goalId
  eventType := "goal.compaction"
  phase := .running
  governance := .none
  acceptance := .none
  resolution := .none
  runId := ""
  traceId := ""
  evidenceJson := texts.dumps (compactionEvidence summary events)
  createdAt := now

/-! ## Runs -/

/-- A call of `compact_events` that awaits the model: the goal and the events that it listed. -/
structure Awaiting where
  goalId : String
  listed : List GoalEvent

/-- A compaction that is stored: its event, what it listed, and the lines the model was given. -/
structure Finished where
  event : GoalEvent
  summary : String
  listed : List GoalEvent
  given : List String

/-- The table `goal_events` and the calls that await the model; and, as history variables, every
event that was inserted and every compaction that was stored. -/
structure State where
  events : List GoalEvent
  awaiting : List Awaiting
  recorded : List GoalEvent
  finished : List Finished

def State.start : State := ⟨[], [], [], []⟩

def byTime (events : List GoalEvent) : List GoalEvent :=
  events.insertionSort fun a b => a.createdAt ≤ b.createdAt

/-- `list_events` without a limit. -/
def State.listEvents (s : State) (goalId : String) : List GoalEvent :=
  byTime (s.events.filter fun event => event.goalId = goalId)

/-- `deletable_ids`. -/
def deletableIds (events : List GoalEvent) : List String :=
  (events.filter fun event => !event.isConstraintEvent).map (·.id)

/-- What happens: `record_event`, `compact_events` up to its question, its transaction once the
model has answered, and a call that raises or dies while it awaits the model. An id is a new
`uuid4`. -/
inductive Label where
  | record (event : GoalEvent)
  | compact (goalId : String) (threshold : Int)
  | answer (index : Nat) (summary id : String) (now : Time)
  | stop (index : Nat)

/-- No event that was ever recorded has the id. -/
def State.New (s : State) (id : String) : Prop := id ∉ s.recorded.map (·.id)

instance (s : State) (id : String) : Decidable (s.New id) := inferInstanceAs (Decidable (_ ∉ _))

def State.store (s : State) (index : Nat) (call : Awaiting) (event : GoalEvent) (summary : String)
    (given : List String) : State where
  events := (s.events ++ [event]).filter fun stored => stored.id ∉ deletableIds call.listed
  awaiting := s.awaiting.eraseIdx index
  recorded := s.recorded ++ [event]
  finished := s.finished ++ [⟨event, summary, call.listed, given⟩]

/-- Any number of calls on one store. -/
def compactions (texts : EventTexts) : System State Label where
  step s
    | .record event =>
        if s.New event.id then
          some { s with events := s.events ++ [event], recorded := s.recorded ++ [event] }
        else none
    | .compact goalId threshold =>
        let events := byTime (s.listEvents goalId)
        if events.length ≤ threshold then some s
        else some { s with awaiting := s.awaiting ++ [⟨goalId, events⟩] }
    | .answer index summary id now =>
        match s.awaiting[index]? with
        | some call =>
            if s.New id then
              some (s.store index call
                (compactionEvent texts call.goalId summary id now call.listed) summary
                (call.listed.map (·.line texts)))
            else none
        | none => none
    | .stop index =>
        if index < s.awaiting.length then some { s with awaiting := s.awaiting.eraseIdx index }
        else none

/-! ## What is kept -/

/-- An event is stored, or a model was given its line for an event that is itself covered. -/
inductive Covered (s : State) : GoalEvent → Prop where
  | stored {event} (h : event ∈ s.events) : Covered s event
  | summarised {event finished} (hfinished : finished ∈ s.finished)
      (hlisted : event ∈ finished.listed) (later : Covered s finished.event) : Covered s event

/-- The model was given a line of every event that was listed, and the event of the compaction holds
its answer and the constraint events word for word. -/
structure Finished.Faithful (finished : Finished) (texts : EventTexts) : Prop where
  given : finished.given = finished.listed.map (·.line texts)
  evidence : finished.event.evidenceJson
    = texts.dumps (compactionEvidence finished.summary finished.listed)

/-- What holds in every state of a run. -/
structure Kept (texts : EventTexts) (s : State) : Prop where
  constraints : ∀ event ∈ s.recorded, event.isConstraintEvent = true → event ∈ s.events
  covered : ∀ event ∈ s.recorded, Covered s event
  faithful : ∀ finished ∈ s.finished, finished.Faithful texts
  nodup : s.events.Nodup

/-- What carries it: ids are not used twice, and what is stored or listed was recorded. -/
structure Inv (texts : EventTexts) (s : State) : Prop extends Kept texts s where
  ids : (s.recorded.map (·.id)).Nodup
  stored : ∀ event ∈ s.events, event ∈ s.recorded
  listed : ∀ call ∈ s.awaiting, ∀ event ∈ call.listed, event ∈ s.recorded

section

variable {texts : EventTexts} {s s' : State} {event : GoalEvent}

theorem mem_byTime {events : List GoalEvent} : event ∈ byTime events ↔ event ∈ events :=
  List.mem_insertionSort _

theorem mem_listEvents {goalId : String} :
    event ∈ s.listEvents goalId ↔ event ∈ s.events ∧ event.goalId = goalId := by
  rw [State.listEvents, mem_byTime, List.mem_filter, decide_eq_true_eq]

theorem Covered.trans (h : Covered s event) (hstored : ∀ event ∈ s.events, Covered s' event)
    (hfinished : ∀ finished ∈ s.finished, finished ∈ s'.finished) : Covered s' event := by
  induction h with
  | stored h => exact hstored _ h
  | summarised hmem hlisted _ ih => exact .summarised (hfinished _ hmem) hlisted ih

theorem ids_append (h : (s.recorded.map (·.id)).Nodup) (hnew : s.New event.id) :
    ((s.recorded ++ [event]).map (·.id)).Nodup := by
  rw [List.map_append, List.map_singleton, List.nodup_append]
  refine ⟨h, List.nodup_singleton _, ?_⟩
  intro id hid other hother
  obtain rfl := List.mem_singleton.mp hother
  rintro rfl
  exact hnew hid

theorem eq_of_id (h : (s.recorded.map (·.id)).Nodup) {other : GoalEvent}
    (hevent : event ∈ s.recorded) (hother : other ∈ s.recorded) (hid : event.id = other.id) :
    event = other :=
  List.inj_on_of_nodup_map h hevent hother hid

theorem inv_start (texts : EventTexts) : Inv texts State.start where
  constraints _ h := by cases h
  covered _ h := by cases h
  faithful _ h := by cases h
  nodup := List.nodup_nil
  ids := List.nodup_nil
  stored _ h := by cases h
  listed _ h := by cases h

theorem Inv.await (h : Inv texts s) {awaiting : List Awaiting}
    (hlisted : ∀ call ∈ awaiting, ∀ event ∈ call.listed, event ∈ s.recorded) :
    Inv texts { s with awaiting := awaiting } where
  constraints := h.constraints
  covered event hevent := (h.covered event hevent).trans (fun _ h => .stored h) fun _ h => h
  faithful := h.faithful
  nodup := h.nodup
  ids := h.ids
  stored := h.stored
  listed := hlisted

theorem Inv.nodup_append (h : Inv texts s) (hnew : s.New event.id) :
    (s.events ++ [event]).Nodup := by
  refine List.nodup_append.mpr ⟨h.nodup, List.nodup_singleton _, ?_⟩
  intro other hother new hmem
  obtain rfl := List.mem_singleton.mp hmem
  rintro rfl
  exact hnew (List.mem_map_of_mem (h.stored _ hother))

theorem Inv.record (h : Inv texts s) (hnew : s.New event.id) :
    Inv texts { s with events := s.events ++ [event], recorded := s.recorded ++ [event] } where
  constraints := List.forall_mem_append.mpr
    ⟨fun other hother hconstraint =>
        List.mem_append_left _ (h.constraints other hother hconstraint),
      fun _ hother _ => List.mem_append_right _ hother⟩
  covered := List.forall_mem_append.mpr
    ⟨fun other hother => (h.covered other hother).trans
      (fun _ h => .stored (List.mem_append_left _ h)) fun _ h => h,
      fun _ hother => .stored (List.mem_append_right _ hother)⟩
  faithful := h.faithful
  nodup := h.nodup_append hnew
  ids := ids_append h.ids hnew
  stored := List.forall_mem_append.mpr
    ⟨fun other hother => List.mem_append_left _ (h.stored other hother),
      fun _ hother => List.mem_append_right _ hother⟩
  listed call hcall other hother := List.mem_append_left _ (h.listed call hcall other hother)

theorem deleted_cases (h : Inv texts s) {call : Awaiting} (hcall : call ∈ s.awaiting)
    (hevent : event ∈ s.recorded) (hdeleted : event.id ∈ deletableIds call.listed) :
    event ∈ call.listed ∧ event.isConstraintEvent = false := by
  obtain ⟨other, hother, hid⟩ := List.mem_map.mp hdeleted
  obtain ⟨hlisted, hroutine⟩ := List.mem_filter.mp hother
  obtain rfl := eq_of_id h.ids (h.listed call hcall other hlisted) hevent hid
  exact ⟨hlisted, by simpa using hroutine⟩

theorem Inv.store (h : Inv texts s) {index : Nat} {call : Awaiting} (hcall : call ∈ s.awaiting)
    (hnew : s.New event.id) {summary : String}
    (hevidence : event.evidenceJson = texts.dumps (compactionEvidence summary call.listed)) :
    Inv texts (s.store index call event summary (call.listed.map (·.line texts))) := by
  have hkept : event ∈ (s.store index call event summary
      (call.listed.map (·.line texts))).events := by
    refine List.mem_filter.mpr ⟨List.mem_append_right _ List.mem_cons_self, ?_⟩
    refine decide_eq_true fun hdeleted => ?_
    obtain ⟨other, hother, hid⟩ := List.mem_map.mp hdeleted
    have hrecorded := h.listed call hcall other (List.mem_filter.mp hother).1
    exact hnew (hid ▸ List.mem_map_of_mem hrecorded)
  have hstored : ∀ other ∈ s.events,
      Covered (s.store index call event summary (call.listed.map (·.line texts))) other := by
    intro other hother
    by_cases hdeleted : other.id ∈ deletableIds call.listed
    · have hlisted := (deleted_cases h hcall (h.stored other hother) hdeleted).1
      have hfinished : ⟨event, summary, call.listed, call.listed.map (·.line texts)⟩
          ∈ (s.store index call event summary (call.listed.map (·.line texts))).finished :=
        List.mem_append_right _ List.mem_cons_self
      exact .summarised hfinished hlisted (.stored hkept)
    · exact .stored (List.mem_filter.mpr
        ⟨List.mem_append_left _ hother, decide_eq_true hdeleted⟩)
  refine ⟨⟨?_, ?_, ?_, ?_⟩, ?_, ?_, ?_⟩
  · refine List.forall_mem_append.mpr ⟨fun other hother hconstraint => ?_,
      List.forall_mem_singleton.mpr fun _ => hkept⟩
    -- a constraint event is in no list of deletable ones
    refine List.mem_filter.mpr ⟨List.mem_append_left _ (h.constraints other hother hconstraint), ?_⟩
    refine decide_eq_true fun hdeleted => ?_
    rw [(deleted_cases h hcall hother hdeleted).2] at hconstraint
    cases hconstraint
  · exact List.forall_mem_append.mpr ⟨fun other hother => (h.covered other hother).trans hstored
      fun _ h => List.mem_append_left _ h, List.forall_mem_singleton.mpr (.stored hkept)⟩
  · exact List.forall_mem_append.mpr ⟨h.faithful, List.forall_mem_singleton.mpr ⟨rfl, hevidence⟩⟩
  · exact (h.nodup_append hnew).filter _
  · exact ids_append h.ids hnew
  · intro other hother
    rcases List.mem_append.mp (List.mem_filter.mp hother).1 with hother | hother
    · exact List.mem_append_left _ (h.stored other hother)
    · exact List.mem_append_right _ hother
  · intro other hother listed hlisted
    exact List.mem_append_left _ (h.listed other (List.mem_of_mem_eraseIdx hother) listed hlisted)

theorem step_inv {label : Label} (h : Inv texts s)
    (hstep : (compactions texts).step s label = some s') : Inv texts s' := by
  cases label with
  | record event =>
      obtain ⟨hnew, hnext⟩ := Option.ite_none_right_eq_some.mp hstep
      obtain rfl := Option.some.inj hnext
      exact h.record hnew
  | compact goalId threshold =>
      unfold compactions at hstep
      dsimp only at hstep
      split at hstep
      next =>
        obtain rfl := Option.some.inj hstep
        exact h
      next =>
        obtain rfl := Option.some.inj hstep
        refine h.await fun call hcall event hevent => ?_
        rcases List.mem_append.mp hcall with hcall | hcall
        · exact h.listed call hcall event hevent
        · obtain rfl := List.mem_singleton.mp hcall
          exact h.stored event (mem_listEvents.mp (mem_byTime.mp hevent)).1
  | answer index summary id now =>
      unfold compactions at hstep
      dsimp only at hstep
      split at hstep
      next call hcall =>
        obtain ⟨hnew, hnext⟩ := Option.ite_none_right_eq_some.mp hstep
        obtain rfl := Option.some.inj hnext
        have hevidence : (compactionEvent texts call.goalId summary id now call.listed).evidenceJson
            = texts.dumps (compactionEvidence summary call.listed) := rfl
        exact h.store (List.mem_of_getElem? hcall) hnew hevidence
      next => cases hstep
  | stop index =>
      obtain ⟨-, hnext⟩ := Option.ite_none_right_eq_some.mp hstep
      obtain rfl := Option.some.inj hnext
      exact h.await fun call hcall => h.listed call (List.mem_of_mem_eraseIdx hcall)

/-- **Compactions lose no event.** However events are recorded while any number of compactions await
the model, answer, raise or die, every constraint event that was ever recorded is stored as it was,
and every other event is stored or its line was given to a model whose answer is in an event that is
stored, or that has itself been summarised so. -/
theorem compactions_keep (texts : EventTexts) {labels : List Label}
    (hrun : (compactions texts).run State.start labels = some s) : Kept texts s :=
  ((compactions texts).run_preserves (fun _ _ _ h hstep => step_inv h hstep) (inv_start texts)
    hrun).toKept

def plainEvent (id : String) (resolution : Resolution) (createdAt : Time) : GoalEvent :=
  ⟨id, "g", "goal.state", .running, .none, .none, resolution, "", "", "", createdAt⟩

/-- `json.dumps` with its floats as fractions, and times as such floats. -/
def plainTexts : EventTexts where
  dumps := Json.dumps Json.fractionText [' ']
  time now := Json.dumps Json.fractionText [] (.float now)

/-- Two compactions list the same events, one event is recorded before either is answered, and both
are stored. -/
def overlapping : List Label :=
  [.record (plainEvent "a" .none 1), .record (plainEvent "b" .blocked 2), .compact "g" 1,
    .compact "g" 1, .record (plainEvent "c" .none 3), .answer 0 "" "d" 4, .answer 0 "" "e" 5]

theorem compactions_keep_overlapping : ∃ s, (compactions plainTexts).run State.start overlapping
    = some s ∧ s.events.map (·.id) = ["b", "c", "d", "e"] ∧ Kept plainTexts s := by
  have hrun : ((compactions plainTexts).run State.start overlapping).map
      (fun s => s.events.map (·.id)) = some ["b", "c", "d", "e"] := by decide +kernel
  obtain ⟨s, hs, hids⟩ := Option.map_eq_some_iff.mp hrun
  exact ⟨s, hs, hids, compactions_keep plainTexts hs⟩

end

end Navi.Compaction
