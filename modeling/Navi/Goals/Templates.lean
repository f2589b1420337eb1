import Navi.Goals.Occurrences

/-!
# The life of a schedule

Operations on goals one after another: schedules and other goals are opened, updated,
cancelled, materialised when they are due, and every completed turn of a session has the
daemon look at the goals of the session. Each operation carries the time it reads.
-/

namespace Navi.Goals

open Navi.Base Navi.Lifecycle

/-- `GoalEvent`, as far as the compaction and the count of retries look at it. -/
structure GoalEvent where
  goalId : String
  eventType : String
  governance : Governance
  resolution : Resolution

/-- `_is_constraint_event`. -/
def GoalEvent.isConstraintEvent (event : GoalEvent) : Bool :=
  event.governance = .awaitingApproval ∨ event.resolution = .blocked ∨ event.resolution = .failed

/-- `record_event` with the state of a goal row. -/
def GoalRow.event (row : GoalRow) (eventType : String) : GoalEvent :=
  ⟨row.id, eventType, row.state.governance, row.state.resolution⟩

/-- The tables, and what the handlers of completed turns have still to look at; and, as
history variables, the schedules that were opened, those that were cancelled, and those
whose cron expression was found invalid. -/
structure TemplateState where
  goals : GoalRows
  events : List GoalEvent
  handlers : Nat → List String
  opened : List String
  canceled : List String
  invalid : List String

def TemplateState.start : TemplateState := ⟨Table.empty, [], fun _ => [], [], [], []⟩

/-- `list_events`. -/
def TemplateState.listEvents (s : TemplateState) (id : String) : List GoalEvent :=
  s.events.filter fun event => event.goalId = id

/-- `count_events` of the runs of a goal that were blocked or failed. -/
def TemplateState.retries (s : TemplateState) (id : String) : Nat :=
  s.events.countP fun event => event.goalId = id ∧ event.eventType = "goal.run_state"
    ∧ (event.resolution = .blocked ∨ event.resolution = .failed)

/-- `stop_condition_facts` of a goal. -/
def stopConditionFacts (goal : GoalRow) (retries : Nat) (now : Time) : Option Dict :=
  if goal.state.phase ≠ .running then none
  else if 0 < goal.timeout ∧ goal.timeout ≤ now - goal.createdAt then
    some [("reason", .str "timeout_reached"), ("age_seconds", .int (now - goal.createdAt).floor),
      ("timeout_seconds", .int goal.timeout.floor)]
  else if 0 < goal.maxRetries ∧ goal.maxRetries ≤ retries then
    some [("reason", .str "retry_ceiling_reached"), ("retry_count", .int retries),
      ("max_retries", .int goal.maxRetries)]
  else none

/-- The `update_state` of `on_turn_completed`. -/
def stoppedUpdate (facts : Dict) : StateUpdate where
  phase := some .ended
  governance := none
  acceptance := none
  resolution := some .blocked
  taskStatus := ""
  blockedReason := facts.text "reason"
  evidence := facts

/-- `compact_events`: only the events that state a constraint survive. -/
def TemplateState.compactEvents (s : TemplateState) (id : String) : TemplateState :=
  if (s.listEvents id).length ≤ 20 then s
  else { s with
    events := s.events.filter (fun event => event.goalId ≠ id ∨ event.isConstraintEvent)
      ++ [⟨id, "goal.compaction", .none, .none⟩] }

/-- What `on_turn_completed` does with one goal. -/
def TemplateState.enforceStop (s : TemplateState) (id : String) (now : Time) : TemplateState :=
  match s.goals.get? id with
  | none => s.compactEvents id
  | some goal =>
      match stopConditionFacts goal (s.retries id) now with
      | some facts => { s with
          goals := writeState s.goals (stoppedUpdate facts) goal now
          events := s.events ++ [⟨id, "goal.stop_condition", goal.state.governance, .blocked⟩] }
      | none => s.compactEvents id

/-- The goals of `on_turn_completed`: `list_scoped` with the session and the phases of
goals that are not ended. -/
def sessionGoals (goals : GoalRows) (sessionId : String) : List GoalRow :=
  (goals.rows.filter fun row => row.sessionId = sessionId ∧ row.active).insertionSort
    fun a b => b.updatedAt ≤ a.updatedAt

/-- What `due_cron_goals` asks of a goal. -/
def GoalRow.Due (row : GoalRow) (now : Time) : Prop :=
  row.cronSchedule ≠ "" ∧ row.nextRunAt ≤ now ∧ row.active = true

instance (row : GoalRow) (now : Time) : Decidable (row.Due now) :=
  inferInstanceAs (Decidable (_ ∧ _))

/-- A goal that `open_goal` has inserted. -/
def TemplateState.create (s : TemplateState) (row : GoalRow) : TemplateState :=
  { s with
    goals := s.goals.insertOrIgnore row
    events := s.events ++ [row.event "goal.created"] }

/-- A schedule that `open_goal` has inserted and registered. -/
def TemplateState.register (s : TemplateState) (request : OpenRequest) (row : GoalRow)
    (now : Time) : TemplateState :=
  { s.create row with
    goals := writeState (s.create row).goals
      (registeredUpdate request.cronSchedule row.nextRunAt) row now
    events := (s.create row).events ++ [⟨row.id, "goal.schedule_registered", .approved, .none⟩]
    opened := row.id :: s.opened }

/-- `open_goal`, with the id it draws, where nothing fails and no active schedule of the
actor is in its way. -/
def TemplateState.openGoal (cron : Cron) (s : TemplateState) (request : OpenRequest) (id : String)
    (now : Time) : Option TemplateState :=
  match s.goals.get? id with
  | some _ => none
  | none =>
      if request.loopKind = .scheduled then
        if request.cronSchedule ≠ "" ∧ cron.validates request.cronSchedule then
          (cron.next request.cronSchedule now).map fun nextRunAt =>
            s.register request (request.row id ("run:" ++ id) nextRunAt now) now
        else none
      else some (s.create (request.row id ("run:" ++ id) 0 now))

/-- `update_cron_run` after an occurrence, or `record_cron_failure` where there is none. -/
def TemplateState.advance (s : TemplateState) (goal : GoalRow) (nextRunAt : Time) (failed : Bool)
    (now : Time) : TemplateState :=
  { s with
    goals := writeCronRun s.goals goal.id nextRunAt now
    events := if failed then s.events ++ [goal.event "goal.schedule_occurrence_failed"]
      else s.events }

/-- `_compensate_open_failure` of a goal that was inserted. -/
def TemplateState.compensate (s : TemplateState) (row : GoalRow) (error : String) (now : Time) :
    TemplateState :=
  { s with
    goals := writeState s.goals (compensatedUpdate error) row now
    events := s.events ++ [⟨row.id, "goal.run_state", .none, .failed⟩] }

def occurrenceRow (s : TemplateState) (goal : GoalRow) (id : String) (verifies : Bool)
    (now : Time) : GoalRow :=
  (occurrenceRequest s.goals goal verifies now).row id ("run:" ++ id) 0 now

/-- `process_background_once` for one due goal, with the id that its occurrence draws. -/
def TemplateState.materialise (cron : Cron) (s : TemplateState) (goal : GoalRow)
    (occurrence : String) (outcome : OpenOutcome) (now : Time) : TemplateState :=
  match cron.next goal.cronSchedule now with
  | none => { s with
      goals := writeBlocked s.goals goal.nextRunAt "ValueError" "" goal now
      events := s.events ++ [⟨goal.id, "goal.schedule_invalid", goal.state.governance, .blocked⟩]
      invalid := if cron.validates goal.cronSchedule then s.invalid else goal.id :: s.invalid }
  | some nextRunAt =>
      match outcome, s.goals.get? occurrence with
      | .opened verifies, none =>
          (s.create (occurrenceRow s goal occurrence verifies now)).advance goal nextRunAt false now
      | .compensated verifies error, none =>
          let row := occurrenceRow s goal occurrence verifies now
          ((s.create row).compensate row error now).advance goal nextRunAt true now
      | _, _ => s.advance goal nextRunAt true now

/-- `update_for_run` on a row. -/
def projectRow (run : Run) (row : GoalRow) (now : Time) : GoalRow :=
  { row with toGoal := updateForRun row.toGoal run [] now }

@[simp] theorem projectRow_id (run : Run) (row : GoalRow) (now : Time) :
    (projectRow run row now).id = row.id := rfl

/-- The `update_state` of `_cancel_scheduled_goal`. -/
def canceledUpdate (reason : String) : StateUpdate where
  phase := some .ended
  governance := some .none
  acceptance := some .rejected
  resolution := some .canceled
  taskStatus := "blocked"
  blockedReason := ""
  evidence := [("reason", .str (orText reason "schedule_cancel_requested"))]

/-- One operation. Updates leave out the conflict query, which only refuses some. The
Run of a schedule has ended when it is registered, so that the Runs which are projected
are those of other goals. -/
inductive TemplateLabel where
  | openGoal (request : OpenRequest) (id : String) (now : Time)
  | updateGoal (request : RescheduleRequest) (now : Time)
  | due (id occurrence : String) (outcome : OpenOutcome) (now : Time)
  | projectRun (id : String) (run : Run) (now : Time)
  | cancelGoal (id reason : String) (now : Time)
  | turnCompleted (handler : Nat) (sessionId : String)
  | enforce (handler : Nat) (now : Time)
  | handlerFails (handler : Nat)

/-- The operations one after another. -/
def templateSystem (cron : Cron) : System TemplateState TemplateLabel where
  step s
    | .openGoal request id now => s.openGoal cron request id now
    | .updateGoal request now =>
        match s.goals.get? request.goalId with
        | none => none
        | some goal =>
            match templateUpdate cron request goal now with
            | some update =>
                if goal.active ∧ goal.cronSchedule ≠ "" ∧ cron.validates update.cronSchedule then
                  some { s with
                    goals := writeTemplate s.goals update goal now
                    events := s.events ++ [goal.event "goal.updated"] }
                else none
            | none => none
    | .due id occurrence outcome now =>
        match s.goals.get? id with
        | some goal =>
            if goal.Due now then
              some (s.materialise cron goal occurrence outcome now)
            else none
        | none => none
    | .projectRun id run now =>
        match s.goals.get? id with
        | some goal =>
            if id ∉ s.opened then some { s with
              goals := setGoal s.goals id (projectRow run · now) (projectRow_id run · now)
              events := s.events ++ [(projectRow run goal now).event "goal.run_state"] }
            else none
        | none => none
    | .cancelGoal id reason now =>
        match s.goals.get? id with
        | some goal => some { s with
            goals := writeState s.goals (canceledUpdate reason) goal now
            events := s.events ++ [⟨id, "goal.schedule_cancelled", .none, .canceled⟩]
            canceled := id :: s.canceled }
        | none => none
    | .turnCompleted handler sessionId =>
        if sessionId ≠ "" then some { s with
          handlers := Function.update s.handlers handler
            ((sessionGoals s.goals sessionId).map (·.id)) }
        else none
    | .enforce handler now =>
        match s.handlers handler with
        | id :: rest => some { s.enforceStop id now with
            handlers := Function.update s.handlers handler rest }
        | [] => none
    | .handlerFails handler => some { s with handlers := Function.update s.handlers handler [] }

/-- An opened schedule is active, unless it was cancelled or its cron expression is
invalid. -/
def TemplateState.StaysScheduled (s : TemplateState) : Prop :=
  ∀ id ∈ s.opened, ∀ row ∈ s.goals.get? id, row.active = true ∨ id ∈ s.canceled ∨ id ∈ s.invalid

/-- A schedule that was neither cancelled nor found invalid. -/
def TemplateState.Standing (s : TemplateState) (id : String) : Prop :=
  id ∈ s.opened ∧ id ∉ s.canceled ∧ id ∉ s.invalid

/-- A completed turn reaches a standing schedule only before its timeout has passed since
it was opened; and the valid cron expression of one that is due has a next time within a
year. -/
def LeavesTemplates (cron : Cron) (s : TemplateState) : TemplateLabel → Prop
  | .enforce handler now =>
      ∀ id ∈ (s.handlers handler).head?, s.Standing id →
        ∀ row ∈ s.goals.get? id, now < row.createdAt + row.timeout
  | .due id _ _ now =>
      s.Standing id → ∀ row ∈ s.goals.get? id, row.Due now →
        cron.validates row.cronSchedule → (cron.next row.cronSchedule now).isSome
  | _ => True

/-! ## One step -/

def Ends (cron : Cron) (s : TemplateState) : TemplateLabel → String → Prop
  | .enforce handler now, id =>
      (s.handlers handler).head? = some id ∧ ∀ row ∈ s.goals.get? id,
        row.state.phase = .running ∧ row.createdAt + row.timeout ≤ now
  | .due due _ _ now, id =>
      due = id ∧ ∀ row ∈ s.goals.get? id, row.Due now ∧ cron.next row.cronSchedule now = none
  | .cancelGoal canceled _ _, id => canceled = id
  | _, _ => False

/-- What a step makes of the row of a schedule, ended or not. -/
def Follows (ended : Prop) (row row' : GoalRow) : Prop :=
  row'.timeout = row.timeout ∧ (ended → row'.state.phase = .ended)
    ∧ (¬ ended → row'.state.phase = row.state.phase)

theorem Follows.same {ended : Prop} {row : GoalRow} (h : ¬ ended) : Follows ended row row :=
  ⟨rfl, fun hended => absurd hended h, fun _ => rfl⟩

/-- What holds of the rows and events of schedules. -/
structure TemplateState.Registered (s : TemplateState) : Prop where
  rows : ∀ id ∈ s.opened, ∃ row, s.goals.get? id = some row ∧ 0 < row.timeout
    ∧ (row.active = true → row.state.phase = .running)
  known : ∀ event ∈ s.events, (s.goals.get? event.goalId).isSome
  quiet : ∀ event ∈ s.events, event.goalId ∈ s.opened → event.eventType ≠ "goal.run_state"

/-- The handlers of completed turns have goals that are there. -/
def TemplateState.Handled (s : TemplateState) : Prop :=
  ∀ handler, ∀ id ∈ s.handlers handler, (s.goals.get? id).isSome

/-- What a step makes of the tables: every goal has its row still, the row of a schedule
follows, and new events are of goals that are known, of the Runs of other goals. -/
structure Continues (s s' : TemplateState) (ended : String → Prop) : Prop where
  rows : ∀ id row, s.goals.get? id = some row → ∃ row', s'.goals.get? id = some row'
    ∧ (id ∈ s.opened → Follows (ended id) row row')
  events : ∀ event ∈ s'.events, event ∈ s.events ∨ (s'.goals.get? event.goalId).isSome
    ∧ (event.eventType = "goal.run_state" → event.goalId ∉ s'.opened)
  opened : s'.opened = s.opened ∨ ∃ id row, s'.opened = id :: s.opened ∧ s.goals.get? id = none
    ∧ s'.goals.get? id = some row ∧ 0 < row.timeout ∧ row.state.phase = .running

theorem TemplateState.Registered.retries {s : TemplateState} (hs : s.Registered) {id : String}
    (hid : id ∈ s.opened) : s.retries id = 0 := by
  rw [TemplateState.retries, List.countP_eq_zero]
  intro event hevent hcounts
  obtain ⟨hgoal, htype, -⟩ := of_decide_eq_true hcounts
  exact hs.quiet event hevent (hgoal ▸ hid) htype

theorem stopConditionFacts_isSome {goal : GoalRow} {now : Time} (htimeout : 0 < goal.timeout) :
    (stopConditionFacts goal 0 now).isSome
      ↔ goal.state.phase = .running ∧ goal.createdAt + goal.timeout ≤ now := by
  have hage : goal.timeout ≤ now - goal.createdAt ↔ goal.createdAt + goal.timeout ≤ now := by
    constructor <;> intro h <;> linarith
  have hretries : ¬ (0 < goal.maxRetries ∧ goal.maxRetries ≤ (0 : Nat)) := by omega
  unfold stopConditionFacts
  rw [if_neg hretries]
  by_cases hphase : goal.state.phase = .running
  · by_cases hlate : goal.createdAt + goal.timeout ≤ now
    · rw [if_neg (not_not.mpr hphase), if_pos ⟨htimeout, hage.mpr hlate⟩]
      exact ⟨fun _ => ⟨hphase, hlate⟩, fun _ => rfl⟩
    · rw [if_neg (not_not.mpr hphase), if_neg fun h => hlate (hage.mp h.2)]
      exact ⟨fun h => absurd h (by simp), fun h => absurd h.2 hlate⟩
  · rw [if_pos hphase]
    exact ⟨fun h => absurd h (by simp), fun h => absurd h.1 hphase⟩

section

variable {s s' : TemplateState} {ended : String → Prop}

theorem Continues.isSome (h : Continues s s' ended) {id : String} (hid : (s.goals.get? id).isSome) :
    (s'.goals.get? id).isSome := by
  obtain ⟨row, hrow⟩ := Option.isSome_iff_exists.mp hid
  obtain ⟨row', hrow', -⟩ := h.rows id row hrow
  exact Option.isSome_iff_exists.mpr ⟨row', hrow'⟩

theorem Continues.registered (h : Continues s s' ended) (hs : s.Registered) : s'.Registered := by
  have hold : ∀ id ∈ s.opened, ∃ row, s'.goals.get? id = some row ∧ 0 < row.timeout
      ∧ (row.active = true → row.state.phase = .running) := by
    intro id hid
    obtain ⟨row, hrow, htimeout, hrunning⟩ := hs.rows id hid
    obtain ⟨row', hrow', hfollows⟩ := h.rows id row hrow
    obtain ⟨hsame, hends, hstays⟩ := hfollows hid
    refine ⟨row', hrow', hsame ▸ htimeout, fun hactive => ?_⟩
    by_cases hended : ended id
    · exact absurd (hends hended) (of_decide_eq_true hactive)
    · have hphase := hstays hended
      have hbefore : row.active = true := by rwa [GoalRow.active, ← hphase]
      rw [hphase]
      exact hrunning hbefore
  have hknown : ∀ event ∈ s'.events, (s'.goals.get? event.goalId).isSome := by
    intro event hevent
    rcases h.events event hevent with hbefore | ⟨hnew, -⟩
    · exact h.isSome (hs.known event hbefore)
    · exact hnew
  rcases h.opened with hsame | ⟨id, row, hcons, hfresh, hrow, htimeout, hrunning⟩
  · refine ⟨fun id hid => hold id (hsame ▸ hid), hknown, fun event hevent hopened => ?_⟩
    rcases h.events event hevent with hbefore | ⟨-, hnew⟩
    · exact hs.quiet event hbefore (hsame ▸ hopened)
    · exact fun htype => hnew htype hopened
  · refine ⟨fun other hother => ?_, hknown, fun event hevent hopened => ?_⟩
    · rcases List.mem_cons.mp (hcons ▸ hother) with rfl | hother
      · exact ⟨row, hrow, htimeout, fun _ => hrunning⟩
      · exact hold other hother
    · rcases h.events event hevent with hbefore | ⟨-, hnew⟩
      · rcases List.mem_cons.mp (hcons ▸ hopened) with hgoal | hopened
        · have hsome := hs.known event hbefore
          rw [hgoal, hfresh] at hsome
          cases hsome
        · exact hs.quiet event hbefore hopened
      · exact fun htype => hnew htype hopened

theorem Continues.lost (h : Continues s s' ended) (hs : s.Registered) {id : String}
    (hopened : id ∈ s.opened) (hended : ended id) (hcanceled : id ∉ s'.canceled)
    (hinvalid : id ∉ s'.invalid) : ¬ s'.StaysScheduled := by
  intro hgood
  obtain ⟨row, hrow, -, -⟩ := hs.rows id hopened
  obtain ⟨row', hrow', hfollows⟩ := h.rows id row hrow
  have hstill : id ∈ s'.opened := by
    rcases h.opened with hsame | ⟨new, -, hcons, -⟩
    · exact hsame ▸ hopened
    · exact hcons ▸ List.mem_cons_of_mem _ hopened
  rcases hgood id hstill row' hrow' with hactive | hbad | hbad
  · exact of_decide_eq_true hactive ((hfollows hopened).2.1 hended)
  · exact hcanceled hbad
  · exact hinvalid hbad

theorem Continues.stays (h : Continues s s' ended) (hs : s.Registered) (hgood : s.StaysScheduled)
    (hcanceled : s.canceled ⊆ s'.canceled) (hinvalid : s.invalid ⊆ s'.invalid)
    (hends : ∀ id, s.Standing id → ended id → id ∈ s'.canceled ∨ id ∈ s'.invalid) :
    s'.StaysScheduled := by
  have hold : ∀ id ∈ s.opened, ∀ row' ∈ s'.goals.get? id,
      row'.active = true ∨ id ∈ s'.canceled ∨ id ∈ s'.invalid := by
    intro id hid row' hrow'
    obtain ⟨row, hrow, -, -⟩ := hs.rows id hid
    obtain ⟨found, hfound, hfollows⟩ := h.rows id row hrow
    obtain rfl := Option.some.inj (hfound.symm.trans hrow')
    by_cases hcause : id ∈ s.canceled ∨ id ∈ s.invalid
    · exact .inr (hcause.imp (hcanceled ·) (hinvalid ·))
    · rw [not_or] at hcause
      by_cases hended : ended id
      · exact .inr (hends id ⟨hid, hcause⟩ hended)
      · have hactive := (hgood id hid row hrow).resolve_right (not_or.mpr hcause)
        rw [GoalRow.active, ← (hfollows hid).2.2 hended] at hactive
        exact .inl hactive
  rcases h.opened with hsame | ⟨new, row, hcons, hfresh, hrow, -, hrunning⟩
  · intro id hid
    exact hold id (hsame ▸ hid)
  · rw [TemplateState.StaysScheduled, hcons]
    intro id hid
    rcases List.mem_cons.mp hid with rfl | hid
    · intro row' hrow'
      obtain rfl := Option.some.inj (hrow.symm.trans hrow')
      exact .inl (by rw [GoalRow.active, hrunning]; rfl)
    · exact hold id hid

theorem Continues.of_goals_eq (hgoals : s'.goals = s.goals) (hopened : s'.opened = s.opened)
    (hevents : ∀ event ∈ s'.events, event ∈ s.events ∨ (s.goals.get? event.goalId).isSome
      ∧ event.eventType ≠ "goal.run_state")
    (hends : ∀ id row, s.goals.get? id = some row → id ∈ s.opened → ¬ ended id) :
    Continues s s' ended := by
  refine ⟨fun id row hrow => ⟨row, hgoals ▸ hrow, fun hid => .same (hends id row hrow hid)⟩,
    fun event hevent => ?_, .inl hopened⟩
  rcases hevents event hevent with hold | ⟨hknown, htype⟩
  · exact .inl hold
  · exact .inr ⟨hgoals ▸ hknown, fun h => absurd h htype⟩

theorem Continues.of_set {target : String} {set : GoalRow → GoalRow}
    (hset : ∀ row, (set row).id = row.id) {row : GoalRow} (hrow : s.goals.get? target = some row)
    (hgoals : s'.goals = setGoal s.goals target set hset) (hopened : s'.opened = s.opened)
    (hevents : ∀ event ∈ s'.events, event ∈ s.events ∨ event.goalId = target
      ∧ (event.eventType = "goal.run_state" → target ∉ s.opened))
    (hends : ∀ id row, s.goals.get? id = some row → ended id → id = target)
    (hfollows : target ∈ s.opened → Follows (ended target) row (set row)) :
    Continues s s' ended := by
  refine ⟨fun id found hfound => ?_, fun event hevent => ?_, .inl hopened⟩
  · by_cases hid : id = target
    · subst hid
      obtain rfl := Option.some.inj (hrow.symm.trans hfound)
      exact ⟨set row, hgoals ▸ get?_setGoal_self hrow, hfollows⟩
    · exact ⟨found, hgoals ▸ get?_setGoal_of_ne hid hfound,
        fun _ => .same fun hended => hid (hends id found hfound hended)⟩
  · rcases hevents event hevent with hold | ⟨hgoal, htype⟩
    · exact .inl hold
    · refine .inr ⟨?_, ?_⟩
      · rw [hgoal, hgoals, get?_setGoal_self hrow]
        rfl
      · rw [hgoal, hopened]
        exact htype

theorem create_get? {row : GoalRow} (hfresh : s.goals.get? row.id = none) :
    (s.create row).goals.get? row.id = some row := by
  show (s.goals.insertOrIgnore row).get? row.id = some row
  rw [Table.get?_insertOrIgnore, hfresh, Option.none_or, if_pos rfl]

theorem Continues.of_create {row : GoalRow} (hfresh : s.goals.get? row.id = none) :
    Continues s (s.create row) fun _ => False := by
  refine ⟨fun id found hfound => ⟨found, Table.get?_insertOrIgnore_of_some row hfound,
    fun _ => .same not_false⟩, fun event hevent => ?_, .inl rfl⟩
  rcases List.mem_append.mp hevent with hold | hnew
  · exact .inl hold
  · obtain rfl := List.mem_singleton.mp hnew
    refine .inr ⟨?_, fun htype => ?_⟩
    swap
    · exact absurd htype (show "goal.created" ≠ "goal.run_state" by decide)
    exact Option.isSome_iff_exists.mpr ⟨row, create_get? hfresh⟩

theorem Continues.trans {mid : TemplateState} (h : Continues s mid fun _ => False)
    (h' : Continues mid s' ended) (hmid : mid.opened = s.opened) (hopened : s'.opened = s.opened) :
    Continues s s' ended := by
  refine ⟨fun id row hrow => ?_, fun event hevent => ?_, .inl hopened⟩
  · obtain ⟨between, hbetween, hfirst⟩ := h.rows id row hrow
    obtain ⟨row', hrow', hsecond⟩ := h'.rows id between hbetween
    refine ⟨row', hrow', fun hid => ?_⟩
    obtain ⟨htimeout, -, hsame⟩ := hfirst hid
    obtain ⟨htimeout', hends, hstays⟩ := hsecond (hmid ▸ hid)
    exact ⟨htimeout'.trans htimeout, hends, fun hended => (hstays hended).trans (hsame not_false)⟩
  · rcases h'.events event hevent with hbetween | hnew
    · rcases h.events event hbetween with hold | ⟨hknown, htype⟩
      · exact .inl hold
      · exact .inr ⟨h'.isSome hknown, by rwa [hopened, ← hmid]⟩
    · exact .inr hnew

end

section

variable {cron : Cron} {s s' : TemplateState} {id : String} {now : Time}

theorem register_continues {request : OpenRequest} {row : GoalRow}
    (hfresh : s.goals.get? row.id = none) (htimeout : 0 < row.timeout) :
    Continues s (s.register request row now) fun _ => False := by
  have hcreated := Continues.of_create hfresh
  have hwritten : (s.register request row now).goals.get? row.id
      = some (updateState (registeredUpdate request.cronSchedule row.nextRunAt) row row now) :=
    get?_writeState_self (create_get? hfresh)
  have hknown := Option.isSome_iff_exists.mpr ⟨_, hwritten⟩
  refine ⟨fun other found hfound => ?_, fun event hevent => ?_,
    .inr ⟨row.id, _, rfl, hfresh, hwritten, htimeout, rfl⟩⟩
  · obtain ⟨row', hrow', hfollows⟩ := hcreated.rows other found hfound
    have hne : other ≠ row.id := by
      intro h
      rw [h, hfresh] at hfound
      cases hfound
    exact ⟨row', get?_writeState_of_ne hne hrow', hfollows⟩
  · rcases List.mem_append.mp hevent with hcreate | hregister
    · rcases List.mem_append.mp hcreate with hold | hcreate
      · exact .inl hold
      · obtain rfl := List.mem_singleton.mp hcreate
        exact .inr ⟨hknown, fun htype => absurd htype
          (show "goal.created" ≠ "goal.run_state" by decide)⟩
    · obtain rfl := List.mem_singleton.mp hregister
      exact .inr ⟨hknown, fun htype => absurd htype
        (show "goal.schedule_registered" ≠ "goal.run_state" by decide)⟩

theorem openGoal_continues {request : OpenRequest}
    (h : s.openGoal cron request id now = some s') : Continues s s' fun _ => False := by
  unfold TemplateState.openGoal at h
  cases hfresh : s.goals.get? id with
  | some row => simp only [hfresh] at h; cases h
  | none =>
      simp only [hfresh] at h
      split at h
      · split at h
        · obtain ⟨nextRunAt, -, rfl⟩ := Option.map_eq_some_iff.mp h
          -- `open_goal` gives every goal a positive timeout
          exact register_continues hfresh (lt_of_lt_of_le one_pos (le_max_left _ _))
        · cases h
      · obtain rfl := Option.some.inj h
        exact Continues.of_create hfresh

theorem mem_compactEvents {event : GoalEvent} (h : event ∈ (s.compactEvents id).events) :
    event ∈ s.events ∨ event = ⟨id, "goal.compaction", .none, .none⟩ := by
  unfold TemplateState.compactEvents at h
  split at h
  · exact .inl h
  · rcases List.mem_append.mp h with hkept | hsummary
    · exact .inl (List.mem_of_mem_filter hkept)
    · exact .inr (List.mem_singleton.mp hsummary)

theorem compactEvents_eq : ∃ events, s.compactEvents id = { s with events := events } := by
  unfold TemplateState.compactEvents
  split
  · exact ⟨s.events, rfl⟩
  · exact ⟨_, rfl⟩

theorem enforceStop_eq : ∃ goals events,
    s.enforceStop id now = { s with goals := goals, events := events } := by
  unfold TemplateState.enforceStop
  split
  · exact ⟨s.goals, compactEvents_eq⟩
  · split
    · exact ⟨_, _, rfl⟩
    · exact ⟨s.goals, compactEvents_eq⟩

theorem compactEvents_continues {ended : String → Prop} (hknown : (s.goals.get? id).isSome)
    (hends : ∀ id row, s.goals.get? id = some row → id ∈ s.opened → ¬ ended id) :
    Continues s (s.compactEvents id) ended := by
  obtain ⟨events, hevents⟩ := @compactEvents_eq s id
  refine .of_goals_eq (by rw [hevents]) (by rw [hevents]) (fun event hevent => ?_) hends
  rcases mem_compactEvents hevent with hold | rfl
  · exact .inl hold
  · exact .inr ⟨hknown, show "goal.compaction" ≠ "goal.run_state" by decide⟩

theorem enforceStop_continues (hs : s.Registered) (hknown : (s.goals.get? id).isSome) :
    Continues s (s.enforceStop id now) fun other => id = other ∧ ∀ row ∈ s.goals.get? other,
      row.state.phase = .running ∧ row.createdAt + row.timeout ≤ now := by
  obtain ⟨goal, hgoal⟩ := Option.isSome_iff_exists.mp hknown
  have hid : goal.id = id := (Table.get?_eq_some_iff.mp hgoal).2
  have hstops : id ∈ s.opened → ((stopConditionFacts goal (s.retries id) now).isSome
      ↔ goal.state.phase = .running ∧ goal.createdAt + goal.timeout ≤ now) := by
    intro hopened
    obtain ⟨row, hrow, htimeout, -⟩ := hs.rows id hopened
    obtain rfl := Option.some.inj (hgoal.symm.trans hrow)
    rw [hs.retries hopened]
    exact stopConditionFacts_isSome htimeout
  unfold TemplateState.enforceStop
  simp only [hgoal]
  cases hfacts : stopConditionFacts goal (s.retries id) now with
  | some facts =>
      refine .of_set (updateState_id _ goal · now) (hid ▸ hgoal) rfl rfl (fun event hevent => ?_)
        (fun other row _ hended => hended.1.symm.trans hid.symm) fun hopened => ?_
      · rcases List.mem_append.mp hevent with hold | hnew
        · exact .inl hold
        · obtain rfl := List.mem_singleton.mp hnew
          exact .inr ⟨hid.symm, fun htype => absurd htype
            (show "goal.stop_condition" ≠ "goal.run_state" by decide)⟩
      · refine ⟨rfl, fun _ => rfl, fun hended => absurd ⟨hid.symm, fun row hrow => ?_⟩ hended⟩
        have hrow : s.goals.get? goal.id = some row := hrow
        rw [hid, hgoal] at hrow
        obtain rfl := Option.some.inj hrow
        exact (hstops (hid ▸ hopened)).mp (hfacts ▸ rfl)
  | none =>
      refine compactEvents_continues hknown fun other row hrow hopened hended => ?_
      obtain ⟨rfl, hlate⟩ := hended
      have hsome := (hstops hopened).mpr (hlate goal hgoal)
      rw [hfacts] at hsome
      cases hsome

theorem advance_continues {goal row : GoalRow} {nextRunAt : Time} {failed : Bool}
    (hrow : s.goals.get? goal.id = some row) :
    Continues s (s.advance goal nextRunAt failed now) fun _ => False := by
  refine .of_set (updateCronRun_id nextRunAt · now) hrow rfl rfl (fun event hevent => ?_)
    (fun _ _ _ => False.elim) fun _ => ⟨rfl, False.elim, fun _ => rfl⟩
  cases failed with
  | false => exact .inl hevent
  | true =>
      rcases List.mem_append.mp hevent with hold | hnew
      · exact .inl hold
      · obtain rfl := List.mem_singleton.mp hnew
        exact .inr ⟨rfl, fun htype => absurd htype
          (show "goal.schedule_occurrence_failed" ≠ "goal.run_state" by decide)⟩

theorem compensate_continues {row : GoalRow} {error : String} (hnew : row.id ∉ s.opened)
    (hrow : s.goals.get? row.id = some row) :
    Continues s (s.compensate row error now) fun _ => False := by
  refine .of_set (updateState_id _ row · now) hrow rfl rfl (fun event hevent => ?_)
    (fun _ _ _ => False.elim) fun hopened => absurd hopened hnew
  rcases List.mem_append.mp hevent with hold | hevent
  · exact .inl hold
  · obtain rfl := List.mem_singleton.mp hevent
    exact .inr ⟨rfl, fun _ => hnew⟩

theorem TemplateState.Registered.fresh (hs : s.Registered) (hfresh : s.goals.get? id = none) :
    id ∉ s.opened := by
  intro hopened
  obtain ⟨row, hrow, -⟩ := hs.rows id hopened
  rw [hfresh] at hrow
  cases hrow

theorem materialise_continues {goal : GoalRow} {occurrence : String} {outcome : OpenOutcome}
    (hs : s.Registered) (hgoal : s.goals.get? goal.id = some goal) :
    Continues s (s.materialise cron goal occurrence outcome now) fun other =>
      goal.id = other ∧ cron.next goal.cronSchedule now = none := by
  unfold TemplateState.materialise
  cases hnext : cron.next goal.cronSchedule now with
  | none =>
      refine .of_set (blockInvalidCronSchedule_id goal.nextRunAt "ValueError" "" goal · now) hgoal
        rfl rfl (fun event hevent => ?_) (fun _ _ _ hended => hended.1.symm)
        fun _ => ⟨rfl, fun _ => rfl, fun hended => absurd ⟨rfl, rfl⟩ hended⟩
      rcases List.mem_append.mp hevent with hold | hnew
      · exact .inl hold
      · obtain rfl := List.mem_singleton.mp hnew
        exact .inr ⟨rfl, fun htype => absurd htype
          (show "goal.schedule_invalid" ≠ "goal.run_state" by decide)⟩
  | some nextRunAt =>
      -- with a next time nothing ends
      have hnone : ∀ other, (goal.id = other ∧ some nextRunAt = none) = False := fun other =>
        propext ⟨fun h => absurd h.2 (Option.some_ne_none _), False.elim⟩
      simp only [hnone]
      cases hfresh : s.goals.get? occurrence with
      | some row => cases outcome <;> exact advance_continues hgoal
      | none =>
          have hkept : ∀ row : GoalRow, (s.create row).goals.get? goal.id = some goal :=
            fun row => Table.get?_insertOrIgnore_of_some row hgoal
          cases outcome with
          | unopened => exact advance_continues hgoal
          | opened verifies =>
              exact (Continues.of_create hfresh).trans (advance_continues (hkept _)) rfl rfl
          | compensated verifies error =>
              have hne : goal.id ≠ occurrence := by
                rintro rfl
                rw [hfresh] at hgoal
                cases hgoal
              exact ((Continues.of_create hfresh).trans (compensate_continues (hs.fresh hfresh)
                (create_get? hfresh)) rfl rfl).trans
                (advance_continues (get?_writeState_of_ne hne (hkept _))) rfl rfl

/-- An occurrence touches the rows and the events only; a goal without a next time is
found invalid where its cron expression does not validate. -/
theorem materialise_eq {goal : GoalRow} {occurrence : String} {outcome : OpenOutcome} :
    ∃ goals events, s.materialise cron goal occurrence outcome now = { s with
      goals := goals
      events := events
      invalid :=
        if cron.next goal.cronSchedule now = none ∧ cron.validates goal.cronSchedule = false then
          goal.id :: s.invalid
        else s.invalid } := by
  unfold TemplateState.materialise
  cases cron.next goal.cronSchedule now with
  | none => cases cron.validates goal.cronSchedule <;> exact ⟨_, _, rfl⟩
  | some nextRunAt =>
      simp only [Option.some_ne_none, false_and, if_false]
      split <;> exact ⟨_, _, rfl⟩

theorem Continues.congr {s s' : TemplateState} {ended ended' : String → Prop}
    (h : Continues s s' ended)
    (hsame : ∀ id row, s.goals.get? id = some row → (ended' id ↔ ended id)) :
    Continues s s' ended' := by
  refine ⟨fun id row hrow => ?_, h.events, h.opened⟩
  rw [show ended' id = ended id from propext (hsame id row hrow)]
  exact h.rows id row hrow

theorem Continues.with_handlers {s s' : TemplateState} {ended : String → Prop}
    (h : Continues s s' ended) (handlers : Nat → List String) :
    Continues s { s' with handlers := handlers } ended :=
  ⟨h.rows, h.events, h.opened⟩

theorem step_continues {label : TemplateLabel} (hs : s.Registered) (hhandled : s.Handled)
    (h : (templateSystem cron).step s label = some s') : Continues s s' (Ends cron s label) := by
  cases label with
  | openGoal request id now => exact openGoal_continues h
  | updateGoal request now =>
      simp only [templateSystem] at h
      split at h
      · cases h
      next goal hgoal =>
        split at h
        next update _ =>
          split at h
          · obtain rfl := Option.some.inj h
            have hid := (Table.get?_eq_some_iff.mp hgoal).2
            refine .of_set (updateScheduledTemplate_id update goal · now) (hid ▸ hgoal) rfl rfl
              (fun event hevent => ?_) (fun _ _ _ => False.elim)
              fun _ => ⟨rfl, False.elim, fun _ => rfl⟩
            rcases List.mem_append.mp hevent with hold | hnew
            · exact .inl hold
            · obtain rfl := List.mem_singleton.mp hnew
              exact .inr ⟨rfl, fun htype => absurd htype
                (show "goal.updated" ≠ "goal.run_state" by decide)⟩
          · cases h
        next => cases h
  | due id occurrence outcome now =>
      simp only [templateSystem] at h
      split at h
      next goal hgoal =>
        split at h
        next hdue =>
          obtain rfl := Option.some.inj h
          obtain rfl := (Table.get?_eq_some_iff.mp hgoal).2
          refine (materialise_continues hs hgoal).congr fun other row hrow => ?_
          constructor
          · rintro ⟨rfl, hnone⟩
            exact ⟨rfl, (hnone goal hgoal).2⟩
          · rintro ⟨rfl, hnone⟩
            refine ⟨rfl, fun found hfound => ?_⟩
            obtain rfl := Option.some.inj (hgoal.symm.trans hfound)
            exact ⟨hdue, hnone⟩
        next => cases h
      next => cases h
  | projectRun id run now =>
      simp only [templateSystem] at h
      split at h
      next goal hgoal =>
        split at h
        next hnew =>
          obtain rfl := Option.some.inj h
          refine .of_set (projectRow_id run · now) hgoal rfl rfl (fun event hevent => ?_)
            (fun _ _ _ => False.elim) fun hopened => absurd hopened hnew
          rcases List.mem_append.mp hevent with hold | hevent
          · exact .inl hold
          · obtain rfl := List.mem_singleton.mp hevent
            exact .inr ⟨(Table.get?_eq_some_iff.mp hgoal).2, fun _ => hnew⟩
        next => cases h
      next => cases h
  | cancelGoal id reason now =>
      simp only [templateSystem] at h
      split at h
      next goal hgoal =>
        obtain rfl := Option.some.inj h
        have hid := (Table.get?_eq_some_iff.mp hgoal).2
        refine .of_set (updateState_id (canceledUpdate reason) goal · now) (hid ▸ hgoal) rfl rfl
          (fun event hevent => ?_) (fun other _ _ hended => hended.symm.trans hid.symm)
          fun _ => ⟨rfl, fun _ => rfl, fun hended => absurd hid.symm hended⟩
        rcases List.mem_append.mp hevent with hold | hnew
        · exact .inl hold
        · obtain rfl := List.mem_singleton.mp hnew
          exact .inr ⟨hid.symm, fun htype => absurd htype
            (show "goal.schedule_cancelled" ≠ "goal.run_state" by decide)⟩
      next => cases h
  | turnCompleted handler sessionId =>
      simp only [templateSystem] at h
      split at h
      · obtain rfl := Option.some.inj h
        exact .of_goals_eq rfl rfl (fun _ => .inl) fun _ _ _ _ => id
      · cases h
  | enforce handler now =>
      simp only [templateSystem] at h
      split at h
      next id rest hhandler =>
        obtain rfl := Option.some.inj h
        refine ((enforceStop_continues hs ?_).with_handlers _).congr fun other row hrow => ?_
        · exact hhandled handler id (hhandler ▸ List.mem_cons_self)
        · show (s.handlers handler).head? = some other ∧ _ ↔ _
          rw [hhandler, List.head?_cons, Option.some.injEq]
      next => cases h
  | handlerFails handler =>
      obtain rfl := Option.some.inj h
      exact .of_goals_eq rfl rfl (fun _ => .inl) fun _ _ _ _ => id

theorem mem_sessionGoals {goals : GoalRows} {sessionId : String} {row : GoalRow} :
    row ∈ sessionGoals goals sessionId
      ↔ row ∈ goals.rows ∧ row.sessionId = sessionId ∧ row.active = true := by
  rw [sessionGoals, List.mem_insertionSort, List.mem_filter, decide_eq_true_eq]

def handlersAfter (s : TemplateState) : TemplateLabel → Nat → List String
  | .turnCompleted handler sessionId =>
      Function.update s.handlers handler ((sessionGoals s.goals sessionId).map (·.id))
  | .enforce handler _ => Function.update s.handlers handler (s.handlers handler).tail
  | .handlerFails handler => Function.update s.handlers handler []
  | _ => s.handlers

/-- What was cancelled, after a step. -/
def canceledAfter (s : TemplateState) : TemplateLabel → List String
  | .cancelGoal id _ _ => id :: s.canceled
  | _ => s.canceled

/-- What was found invalid, after a step. -/
def invalidAfter (cron : Cron) (s : TemplateState) : TemplateLabel → List String
  | .due id _ _ now =>
      if ∀ goal ∈ s.goals.get? id, cron.next goal.cronSchedule now = none
        ∧ cron.validates goal.cronSchedule = false then id :: s.invalid else s.invalid
  | _ => s.invalid

theorem subset_canceledAfter {label : TemplateLabel} : s.canceled ⊆ canceledAfter s label := by
  cases label with
  | cancelGoal id reason now => exact List.subset_cons_self _ _
  | _ => exact List.Subset.refl _

theorem subset_invalidAfter {label : TemplateLabel} : s.invalid ⊆ invalidAfter cron s label := by
  cases label with
  | due id occurrence outcome now =>
      simp only [invalidAfter]
      split
      · exact List.subset_cons_self _ _
      · exact List.Subset.refl _
  | _ => exact List.Subset.refl _

theorem step_history {label : TemplateLabel} (h : (templateSystem cron).step s label = some s') :
    s'.handlers = handlersAfter s label ∧ s'.canceled = canceledAfter s label
      ∧ s'.invalid = invalidAfter cron s label := by
  cases label with
  | openGoal request new now =>
      simp only [templateSystem, TemplateState.openGoal] at h
      split at h
      · cases h
      · split at h
        · split at h
          · obtain ⟨nextRunAt, -, rfl⟩ := Option.map_eq_some_iff.mp h
            exact ⟨rfl, rfl, rfl⟩
          · cases h
        · obtain rfl := Option.some.inj h
          exact ⟨rfl, rfl, rfl⟩
  | updateGoal request now =>
      simp only [templateSystem] at h
      split at h
      · cases h
      · split at h
        · split at h
          · obtain rfl := Option.some.inj h
            exact ⟨rfl, rfl, rfl⟩
          · cases h
        · cases h
  | due id occurrence outcome now =>
      simp only [templateSystem] at h
      split at h
      next goal hgoal =>
        split at h
        next =>
          obtain rfl := Option.some.inj h
          obtain ⟨goals, events, heq⟩ := @materialise_eq cron s now goal occurrence outcome
          rw [heq]
          refine ⟨rfl, rfl, ?_⟩
          obtain rfl := (Table.get?_eq_some_iff.mp hgoal).2
          simp only [invalidAfter, hgoal, Option.mem_def, Option.some.injEq, forall_eq']
        next => cases h
      next => cases h
  | projectRun target run now =>
      simp only [templateSystem] at h
      split at h
      · split at h
        · obtain rfl := Option.some.inj h
          exact ⟨rfl, rfl, rfl⟩
        · cases h
      · cases h
  | cancelGoal target reason now =>
      simp only [templateSystem] at h
      split at h
      · obtain rfl := Option.some.inj h
        exact ⟨rfl, rfl, rfl⟩
      · cases h
  | turnCompleted handler sessionId =>
      simp only [templateSystem] at h
      split at h
      · obtain rfl := Option.some.inj h
        exact ⟨rfl, rfl, rfl⟩
      · cases h
  | enforce handler now =>
      simp only [templateSystem] at h
      split at h
      next id rest hhandler =>
        obtain rfl := Option.some.inj h
        obtain ⟨goals, events, heq⟩ := @enforceStop_eq s id now
        rw [heq]
        refine ⟨?_, rfl, rfl⟩
        simp only [handlersAfter, hhandler, List.tail_cons]
      next => cases h
  | handlerFails handler =>
      obtain rfl := Option.some.inj h
      exact ⟨rfl, rfl, rfl⟩

theorem handlersAfter_isSome {label : TemplateLabel} (hhandled : s.Handled) (handler : Nat) :
    ∀ id ∈ handlersAfter s label handler, (s.goals.get? id).isSome := by
  have hset : ∀ changed ids, (∀ id ∈ ids, (s.goals.get? id).isSome) →
      ∀ id ∈ Function.update s.handlers changed ids handler, (s.goals.get? id).isSome := by
    intro changed ids hids id hid
    by_cases hsame : handler = changed
    · subst hsame
      rw [Function.update_self] at hid
      exact hids id hid
    · rw [Function.update_of_ne hsame] at hid
      exact hhandled handler id hid
  cases label with
  | turnCompleted changed sessionId =>
      refine hset changed _ fun id hid => ?_
      obtain ⟨row, hrow, rfl⟩ := List.mem_map.mp hid
      exact Option.isSome_iff_exists.mpr ⟨row, Table.get?_of_mem (mem_sessionGoals.mp hrow).1⟩
  | enforce changed now =>
      exact hset changed _ fun id hid => hhandled changed id (List.mem_of_mem_tail hid)
  | handlerFails changed => exact hset changed [] fun id hid => absurd hid List.not_mem_nil
  | _ => exact hhandled handler

theorem step_registered {label : TemplateLabel} (hs : s.Registered ∧ s.Handled)
    (h : (templateSystem cron).step s label = some s') : s'.Registered ∧ s'.Handled := by
  have hcontinues := step_continues hs.1 hs.2 h
  refine ⟨hcontinues.registered hs.1, fun handler id hid => hcontinues.isSome ?_⟩
  rw [(step_history h).1] at hid
  exact handlersAfter_isSome hs.2 handler id hid

theorem step_staysScheduled_iff {label : TemplateLabel} (hs : s.Registered ∧ s.Handled)
    (hgood : s.StaysScheduled) (h : (templateSystem cron).step s label = some s') :
    s'.StaysScheduled ↔ LeavesTemplates cron s label := by
  have hcontinues := step_continues hs.1 hs.2 h
  obtain ⟨-, hcanceled, hinvalid⟩ := step_history h
  -- the standing schedule is running, as nothing has ended it
  have hrunning : ∀ id, s.Standing id → ∀ row ∈ s.goals.get? id, row.state.phase = .running := by
    intro id hid row hrow
    obtain ⟨found, hfound, -, hactive⟩ := hs.1.rows id hid.1
    obtain rfl := Option.some.inj (hfound.symm.trans hrow)
    exact hactive ((hgood id hid.1 found hfound).resolve_right (not_or.mpr hid.2))
  have hstays := hcontinues.stays hs.1 hgood (hcanceled ▸ subset_canceledAfter)
    (hinvalid ▸ subset_invalidAfter)
  cases label with
  | enforce handler now =>
      constructor
      · intro hgood' id hid hstanding row hrow
        by_contra hlate
        refine hcontinues.lost hs.1 hstanding.1 ⟨hid, fun found hfound => ?_⟩
          (hcanceled ▸ hstanding.2.1) (hinvalid ▸ hstanding.2.2) hgood'
        obtain rfl := Option.some.inj (hrow.symm.trans hfound)
        exact ⟨hrunning id hstanding row hrow, not_lt.mp hlate⟩
      · intro hmeets
        refine hstays fun id hstanding hends => ?_
        obtain ⟨row, hrow, -⟩ := hs.1.rows id hstanding.1
        have hearly := hmeets id hends.1 hstanding row hrow
        exact absurd (hends.2 row hrow).2 (not_le.mpr hearly)
  | due id occurrence outcome now =>
      constructor
      · intro hgood' hstanding row hrow hdue hvalid
        by_contra hnone
        have hnone : cron.next row.cronSchedule now = none := Option.not_isSome_iff_eq_none.mp hnone
        refine hcontinues.lost hs.1 hstanding.1 ⟨rfl, fun found hfound => ?_⟩
          (hcanceled ▸ hstanding.2.1) ?_ hgood'
        · obtain rfl := Option.some.inj (hrow.symm.trans hfound)
          exact ⟨hdue, hnone⟩
        · rw [hinvalid, invalidAfter, if_neg]
          · exact hstanding.2.2
          · intro hinvalidated
            have hrefused := (hinvalidated row hrow).2
            rw [hvalid] at hrefused
            cases hrefused
      · intro hmeets
        refine hstays fun other hstanding hends => ?_
        obtain ⟨rfl, hended⟩ := hends
        obtain ⟨row, hrow, -⟩ := hs.1.rows id hstanding.1
        obtain ⟨hdue, hnone⟩ := hended row hrow
        right
        rw [hinvalid, invalidAfter, if_pos]
        · exact List.mem_cons_self
        · intro found hfound
          obtain rfl := Option.some.inj (hrow.symm.trans hfound)
          refine ⟨hnone, ?_⟩
          by_contra hvalid
          have hsome := hmeets hstanding row hrow hdue (Bool.not_eq_false _ ▸ hvalid)
          rw [hnone] at hsome
          cases hsome
  | cancelGoal id reason now =>
      refine ⟨fun _ => trivial, fun _ => hstays fun other _ hends => .inl ?_⟩
      rw [hcanceled]
      exact hends ▸ List.mem_cons_self
  | _ => exact ⟨fun _ => trivial, fun _ => hstays fun _ _ hends => hends.elim⟩

theorem leaves_enabled {label : TemplateLabel} (h : ¬ LeavesTemplates cron s label) :
    ∃ s', (templateSystem cron).step s label = some s' := by
  cases label with
  | enforce handler now =>
      simp only [templateSystem]
      cases hhandler : s.handlers handler with
      | nil => exact absurd (fun id hid => by rw [hhandler] at hid; cases hid) h
      | cons id rest => exact ⟨_, rfl⟩
  | due id occurrence outcome now =>
      simp only [LeavesTemplates, not_forall] at h
      obtain ⟨-, row, hrow, hdue, -⟩ := h
      simp only [templateSystem, Option.mem_def.mp hrow, if_pos hdue]
      exact ⟨_, rfl⟩
  | _ => exact absurd trivial h

end

/-- **A scheduled template stays scheduled.** In every run of operations on goals: every
schedule that was opened is active, unless it was cancelled or its cron expression is
invalid, in every state; if and only if no completed turn reaches a standing schedule
once its timeout has passed since it was opened, and every valid cron expression of one
that is due has a next time within a year. -/
theorem stays_scheduled_iff (cron : Cron) (labels : List TemplateLabel) :
    (∀ n s, (templateSystem cron).run .start (labels.take n) = some s → s.StaysScheduled)
      ↔ (templateSystem cron).Along (LeavesTemplates cron) .start labels :=
  (templateSystem cron).run_good_iff (fun _ _ _ hs h => step_registered hs h)
    (fun _ _ _ hs hgood h => step_staysScheduled_iff hs hgood h) (fun _ _ h => leaves_enabled h)
    ⟨⟨fun _ h => absurd h List.not_mem_nil, fun _ h => absurd h List.not_mem_nil,
      fun _ h => absurd h List.not_mem_nil⟩, fun _ _ h => absurd h List.not_mem_nil⟩
    (fun _ h => absurd h List.not_mem_nil) labels

/-- A schedule with a timeout of two minutes for each occurrence, and a turn of its
session that is completed after two and a half. -/
def turnAfterTimeout : List TemplateLabel :=
  [.openGoal (plainRequest .scheduled "* * * * *") "template" 0, .turnCompleted 0 "session",
    .enforce 0 150]

/-- The schedule is ended for the timeout of its occurrences. -/
theorem turn_ends_template :
    ¬ ∀ (cron : Cron) (labels : List TemplateLabel) (s : TemplateState),
      (templateSystem cron).run .start labels = some s → s.StaysScheduled := by
  intro hall
  obtain ⟨s, hs, hended⟩ : ∃ s, (templateSystem everyMinute).run .start turnAfterTimeout = some s
      ∧ ((s.goals.get? "template").map (·.active) = some false
        ∧ s.opened = ["template"] ∧ s.canceled = [] ∧ s.invalid = []) :=
    ⟨_, rfl, by decide +kernel⟩
  obtain ⟨hrow, hopened, hcanceled, hinvalid⟩ := hended
  obtain ⟨row, hrow, hactive⟩ := Option.map_eq_some_iff.mp hrow
  have hstays := hall _ _ s hs "template" (by rw [hopened]; exact List.mem_cons_self) row hrow
  rw [hactive, hcanceled, hinvalid] at hstays
  rcases hstays with h | h | h
  · cases h
  · cases h
  · cases h

end Navi.Goals
