import Navi.Base.Index
import Navi.Base.System
import Navi.Goals.Rows

/-!
# Scheduled goals of one actor

`open_goal` for a scheduled goal and `update_goal`, without `allow_duplicate_schedule`,
by any number of callers. Both ask whether the actor has an active goal with the cron
expression, and write in a later transaction.
-/

namespace Navi.Goals

open Navi.Base Navi.Lifecycle

/-- The arguments of `update_goal`, stripped; an empty one leaves its column alone. -/
structure RescheduleRequest where
  goalId : String
  objective : String
  cronSchedule : String

/-- A recurring goal that is not ended. -/
def GoalRow.Scheduled (row : GoalRow) : Prop := row.active = true ∧ row.cronSchedule ≠ ""

/-- A cron expression and whose it is. -/
structure Slot where
  cronSchedule : String
  source : String
  peerId : String
  senderId : String
  deriving DecidableEq

def GoalRow.slot (row : GoalRow) : Slot :=
  ⟨row.cronSchedule, row.source, row.peerId, row.senderId⟩

def OpenRequest.slot (request : OpenRequest) : Slot :=
  ⟨request.cronSchedule, request.source, request.peerId, request.senderId⟩

/-- `ORDER BY created_at DESC LIMIT 1`. -/
def newestGoal (rows : List GoalRow) : Option GoalRow :=
  (rows.insertionSort fun a b => b.createdAt ≤ a.createdAt).head?

/-- `find_active_cron_goal`. -/
def findActiveCronGoal (goals : GoalRows) (request : OpenRequest) : Option GoalRow :=
  newestGoal (goals.rows.filter fun row =>
    row.objective = request.objective ∧ row.slot = request.slot ∧ row.active)

/-- `find_active_cron_goal_by_schedule`. -/
def findActiveCronGoalBySchedule (goals : GoalRows) (slot : Slot) (excludeGoalId : String) :
    Option GoalRow :=
  newestGoal (goals.rows.filter fun row =>
    row.slot = slot ∧ row.active ∧ (excludeGoalId ≠ "" → row.id ≠ excludeGoalId))

/-- Where a call of `open_goal` or `update_goal` is: the store call it makes next, with
what it has read. -/
inductive ScheduleCall where
  | idle
  /-- `find_active_cron_goal` -/
  | finding (request : OpenRequest)
  /-- the Run and the loop runs of the goal found -/
  | relating (request : OpenRequest) (existing : GoalRow)
  /-- the conflict query of `open_goal` -/
  | checking (request : OpenRequest)
  /-- `create`, after the Run -/
  | inserting (request : OpenRequest)
  /-- the specification and the loop run -/
  | building (id cronSchedule : String) (nextRunAt : Time)
  /-- `update_state` of `_setup_scheduled` -/
  | registering (id cronSchedule : String) (nextRunAt : Time)
  | registered (cronSchedule : String) (nextRunAt : Time) (read : GoalRow)
  /-- `update_state` of `_compensate_open_failure` -/
  | compensating (id error : String)
  | compensated (error : String) (read : GoalRow)
  /-- `get` of `update_goal`, and the loop runs of the goal -/
  | fetching (request : RescheduleRequest)
  /-- the conflict query of `update_goal` -/
  | rechecking (request : RescheduleRequest) (goal : GoalRow)
  /-- `update_scheduled_template` -/
  | rereading (update : TemplateUpdate) (id : String)
  | rewriting (update : TemplateUpdate) (read : GoalRow)

/-- The table, the goals that have a registration loop, and the callers. -/
structure ScheduleState where
  goals : GoalRows
  looped : List String
  calls : Nat → ScheduleCall

def ScheduleState.start (goals : GoalRows) (looped : List String) : ScheduleState :=
  ⟨goals, looped, fun _ => .idle⟩

def ScheduleState.become (s : ScheduleState) (call : Nat) (next : ScheduleCall) : ScheduleState :=
  { s with calls := Function.update s.calls call next }

/-- The change of a scheduled template that `update_goal` asks for: the time is kept
where the expression is. -/
def templateUpdate (cron : Cron) (request : RescheduleRequest) (goal : GoalRow) (now : Time) :
    Option TemplateUpdate :=
  let objective := orText request.objective goal.objective
  let cronSchedule := orText request.cronSchedule goal.cronSchedule
  let nextRunAt :=
    if cronSchedule = goal.cronSchedule then some goal.nextRunAt else cron.next cronSchedule now
  nextRunAt.map fun nextRunAt =>
    { objective := objective
      cronSchedule := cronSchedule
      nextRunAt := nextRunAt
      evidence := [("state_transition", .str "updated"),
        ("previous_objective", .str goal.objective), ("objective", .str objective),
        ("previous_cron_schedule", .str goal.cronSchedule),
        ("cron_schedule", .str cronSchedule), ("next_run_at", .float nextRunAt)] }

/-- The slot that `update_goal` asks about. -/
def RescheduleRequest.slot (request : RescheduleRequest) (goal : GoalRow) : Slot :=
  { goal.slot with cronSchedule := orText request.cronSchedule goal.cronSchedule }

/-- A call, its next store call (with the id it draws, and the type of the error where
what it does outside of the table fails), or another operation that ends a goal. -/
inductive ScheduleLabel where
  | openGoal (call : Nat) (request : OpenRequest)
  | updateGoal (call : Nat) (request : RescheduleRequest)
  | advance (call : Nat) (id : String) (fails : Option String) (now : Time)
  | ends (id : String) (update : StateUpdate) (now : Time)

def advance (cron : Cron) (s : ScheduleState) (call : Nat) (id : String) (fails : Option String)
    (now : Time) : Option ScheduleState :=
  match s.calls call with
  | .idle => none
  | .finding request =>
      match findActiveCronGoal s.goals request with
      | some existing => some (s.become call (.relating request existing))
      | none => some (s.become call (.checking request))
  | .relating request existing =>
      -- returned as it is where its Run (unless `fails`) and its loop run are there
      if existing.id ∈ s.looped ∧ fails = none then some (s.become call .idle)
      else some (s.become call (.checking request))
  | .checking request =>
      match findActiveCronGoalBySchedule s.goals request.slot "" with
      | some _ => some (s.become call .idle)
      | none => some (s.become call (.inserting request))
  | .inserting request =>
      match cron.next request.cronSchedule now, s.goals.get? id with
      | some nextRunAt, none => some { s.become call (.building id request.cronSchedule nextRunAt)
          with goals := s.goals.insertOrIgnore (request.row id ("run:" ++ id) nextRunAt now) }
      | _, _ => some (s.become call .idle)
  | .building id cronSchedule nextRunAt =>
      match fails with
      | some error => some (s.become call (.compensating id error))
      | none => some { s.become call (.registering id cronSchedule nextRunAt) with
          looped := id :: s.looped }
  | .registering id cronSchedule nextRunAt =>
      match s.goals.get? id with
      | some read => some (s.become call (.registered cronSchedule nextRunAt read))
      | none => some (s.become call .idle)
  | .registered cronSchedule nextRunAt read =>
      some { s.become call .idle with
        goals := writeState s.goals (registeredUpdate cronSchedule nextRunAt) read now }
  | .compensating id error =>
      match s.goals.get? id with
      | some read => some (s.become call (.compensated error read))
      | none => some (s.become call .idle)
  | .compensated error read =>
      some { s.become call .idle with
        goals := writeState s.goals (compensatedUpdate error) read now }
  | .fetching request =>
      match s.goals.get? request.goalId with
      | some goal =>
          if goal.active ∧ goal.cronSchedule ≠ "" ∧ goal.id ∈ s.looped
              ∧ cron.validates (orText request.cronSchedule goal.cronSchedule) then
            some (s.become call (.rechecking request goal))
          else some (s.become call .idle)
      | none => some (s.become call .idle)
  | .rechecking request goal =>
      match findActiveCronGoalBySchedule s.goals (request.slot goal) goal.id,
          templateUpdate cron request goal now with
      | none, some update => some (s.become call (.rereading update goal.id))
      | _, _ => some (s.become call .idle)
  | .rereading update id =>
      match s.goals.get? id with
      | some read => some (s.become call (.rewriting update read))
      | none => some (s.become call .idle)
  | .rewriting update read =>
      some { s.become call .idle with
        goals := writeTemplate s.goals update read now }

/-- Callers of `open_goal` and `update_goal`, store call by store call. -/
def scheduleSystem (cron : Cron) : System ScheduleState ScheduleLabel where
  step s
    | .openGoal call request =>
        match s.calls call with
        | .idle =>
            if request.loopKind = .scheduled ∧ request.cronSchedule ≠ ""
                ∧ cron.validates request.cronSchedule then
              some (s.become call (.finding request))
            else none
        | _ => none
    | .updateGoal call request =>
        match s.calls call with
        | .idle => some (s.become call (.fetching request))
        | _ => none
    | .advance call id fails now => advance cron s call id fails now
    | .ends id update now =>
        match s.goals.get? id with
        | some read => some { s with
            goals := writeState s.goals { update with phase := some .ended } read now }
        | none => none

/-- No two recurring goals that are not ended have the same cron expression and actor. -/
def OneSchedule (goals : GoalRows) : Prop :=
  ∀ a ∈ goals.rows, ∀ b ∈ goals.rows, a.Scheduled → b.Scheduled → a.slot = b.slot → a = b

/-- No other recurring goal that is not ended has this slot. -/
def SlotFree (goals : GoalRows) (id : String) (slot : Slot) : Prop :=
  ∀ row ∈ goals.rows, row.id ≠ id → row.Scheduled → row.slot ≠ slot

/-- What a write finds: an insert, no active goal in its slot; a template write to a
goal that is not ended, none in the slot it moves the goal to; and the registration of a
goal that was ended since it was inserted, none in the goal's slot. -/
def WritesFreeSlot (cron : Cron) (s : ScheduleState) : ScheduleLabel → Prop
  | .advance call id _ now =>
      match s.calls call with
      | .inserting request =>
          s.goals.get? id = none → (cron.next request.cronSchedule now).isSome →
            request.cronSchedule ≠ "" → SlotFree s.goals id request.slot
      | .registered _ _ read =>
          ∀ goal ∈ s.goals.get? read.id, goal.active = false → goal.cronSchedule ≠ "" →
            SlotFree s.goals read.id goal.slot
      | .rewriting update read =>
          ∀ goal ∈ s.goals.get? read.id, goal.active = true → update.cronSchedule ≠ "" →
            SlotFree s.goals read.id { goal.slot with cronSchedule := update.cronSchedule }
      | _ => True
  | _ => True

/-! ## One write -/

theorem insert_oneSchedule_iff {goals : GoalRows} {new : GoalRow} (h : OneSchedule goals)
    (hfresh : goals.get? new.id = none) :
    OneSchedule (goals.insertOrIgnore new) ↔ (new.Scheduled → SlotFree goals new.id new.slot) := by
  have hiff : OneSchedule (goals.insertOrIgnore new)
      ↔ (new.Scheduled → ∀ row ∈ goals.rows, row.Scheduled → row.slot ≠ new.slot) :=
    Table.uniqueOn_insertOrIgnore_iff h hfresh
  rw [hiff]
  constructor
  · intro hfree hnew row hrow _ hlive
    exact hfree hnew row hrow hlive
  · intro hfree hnew row hrow hlive
    refine hfree hnew row hrow ?_ hlive
    intro hid
    rw [← hid, Table.get?_of_mem hrow] at hfresh
    cases hfresh

theorem setGoal_oneSchedule_iff {goals : GoalRows} {id : String} {set : GoalRow → GoalRow}
    {hset : ∀ row, (set row).id = row.id} (h : OneSchedule goals) :
    OneSchedule (setGoal goals id set hset)
      ↔ ∀ old ∈ goals.get? id, (set old).Scheduled → SlotFree goals id (set old).slot :=
  Table.uniqueOn_update_iff h

theorem writeState_ended {goals : GoalRows} {update : StateUpdate} {read : GoalRow} {now : Time}
    (h : OneSchedule goals) (hended : update.phase = some .ended) :
    OneSchedule (writeState goals update read now) := by
  refine (setGoal_oneSchedule_iff h).mpr ?_
  intro old _ hlive
  refine absurd ?_ (of_decide_eq_true hlive.1)
  show update.phase.getD read.state.phase = .ended
  rw [hended, Option.getD_some]

theorem slotFree_of_scheduled {goals : GoalRows} {goal : GoalRow} {id : String}
    (h : OneSchedule goals) (hgoal : goals.get? id = some goal) (hlive : goal.Scheduled) :
    SlotFree goals id goal.slot := by
  obtain ⟨hmem, hid⟩ := Table.get?_eq_some_iff.mp hgoal
  intro row hrow hne hrowLive hslot
  exact hne (by rw [h row hrow goal hmem hrowLive hlive hslot, hid])

theorem registered_oneSchedule_iff {goals : GoalRows} {cronSchedule : String} {nextRunAt now : Time}
    {read : GoalRow} (h : OneSchedule goals) :
    OneSchedule (writeState goals (registeredUpdate cronSchedule nextRunAt) read now)
      ↔ ∀ goal ∈ goals.get? read.id, goal.active = false → goal.cronSchedule ≠ "" →
          SlotFree goals read.id goal.slot := by
  rw [writeState, setGoal_oneSchedule_iff h]
  constructor
  · intro hfree goal hgoal _ hcron
    exact hfree goal hgoal ⟨rfl, hcron⟩
  · intro hfree goal hgoal hlive
    cases hactive : goal.active with
    | false => exact hfree goal hgoal hactive hlive.2
    | true => exact @slotFree_of_scheduled _ goal _ h hgoal ⟨hactive, hlive.2⟩

theorem rewriting_oneSchedule_iff {goals : GoalRows} {update : TemplateUpdate} {now : Time}
    {read : GoalRow} (h : OneSchedule goals) :
    OneSchedule (writeTemplate goals update read now)
      ↔ ∀ goal ∈ goals.get? read.id, goal.active = true → update.cronSchedule ≠ "" →
          SlotFree goals read.id { goal.slot with cronSchedule := update.cronSchedule } := by
  rw [writeTemplate, setGoal_oneSchedule_iff h]
  constructor
  · intro hfree goal hgoal hactive hcron
    exact hfree goal hgoal ⟨hactive, hcron⟩
  · intro hfree goal hgoal hlive
    exact hfree goal hgoal hlive.1 hlive.2

/-! ## Runs -/

theorem advance_oneSchedule_iff {cron : Cron} {s s' : ScheduleState} {call : Nat} {id : String}
    {fails : Option String} {now : Time} (h : OneSchedule s.goals)
    (hstep : advance cron s call id fails now = some s') :
    OneSchedule s'.goals ↔ WritesFreeSlot cron s (.advance call id fails now) := by
  unfold WritesFreeSlot
  unfold advance at hstep
  cases hcall : s.calls call with
  | idle => simp only [hcall, reduceCtorEq] at hstep
  | inserting request =>
      simp only [hcall] at hstep ⊢
      split at hstep
      next nextRunAt hnext hfresh =>
        obtain rfl := Option.some.inj hstep
        show OneSchedule (s.goals.insertOrIgnore (request.row id ("run:" ++ id) nextRunAt now)) ↔ _
        rw [insert_oneSchedule_iff h hfresh]
        constructor
        · intro hfree _ _ hcron
          exact hfree ⟨rfl, hcron⟩
        · intro hfree hlive
          exact hfree hfresh (by rw [hnext]; rfl) hlive.2
      next hneither =>
        -- no time, or the id is taken: nothing is inserted
        obtain rfl := Option.some.inj hstep
        refine iff_of_true h fun hfresh hnext => ?_
        obtain ⟨nextRunAt, hnext⟩ := Option.isSome_iff_exists.mp hnext
        exact absurd hfresh (hneither nextRunAt hnext)
  | registered cronSchedule nextRunAt read =>
      simp only [hcall] at hstep ⊢
      obtain rfl := Option.some.inj hstep
      exact registered_oneSchedule_iff h
  | rewriting update read =>
      simp only [hcall] at hstep ⊢
      obtain rfl := Option.some.inj hstep
      exact rewriting_oneSchedule_iff h
  | compensated error read =>
      simp only [hcall] at hstep ⊢
      obtain rfl := Option.some.inj hstep
      exact iff_of_true (writeState_ended h rfl) trivial
  | fetching request =>
      -- what is left are the reads, which leave the table as it is
      simp only [hcall] at hstep ⊢
      refine iff_of_true ?_ trivial
      split at hstep
      · split at hstep <;> exact Option.some.inj hstep ▸ h
      · exact Option.some.inj hstep ▸ h
  | _ =>
      simp only [hcall] at hstep ⊢
      refine iff_of_true ?_ trivial
      split at hstep <;> exact Option.some.inj hstep ▸ h

theorem step_oneSchedule_iff {cron : Cron} {s s' : ScheduleState} {label : ScheduleLabel}
    (h : OneSchedule s.goals) (hstep : (scheduleSystem cron).step s label = some s') :
    OneSchedule s'.goals ↔ WritesFreeSlot cron s label := by
  cases label with
  | openGoal call request =>
      simp only [scheduleSystem] at hstep
      split at hstep
      · split at hstep
        · exact iff_of_true (Option.some.inj hstep ▸ h) trivial
        · cases hstep
      · cases hstep
  | updateGoal call request =>
      simp only [scheduleSystem] at hstep
      split at hstep
      · exact iff_of_true (Option.some.inj hstep ▸ h) trivial
      · cases hstep
  | advance call id fails now => exact advance_oneSchedule_iff h hstep
  | ends id update now =>
      simp only [scheduleSystem] at hstep
      split at hstep
      next read hread =>
        obtain rfl := Option.some.inj hstep
        exact iff_of_true (writeState_ended h rfl) trivial
      · cases hstep

theorem write_enabled {cron : Cron} {s : ScheduleState} {label : ScheduleLabel}
    (h : ¬ WritesFreeSlot cron s label) : ∃ s', (scheduleSystem cron).step s label = some s' := by
  cases label with
  | advance call id fails now =>
      show ∃ s', advance cron s call id fails now = some s'
      unfold advance
      unfold WritesFreeSlot at h
      cases hcall : s.calls call with
      | inserting request =>
          simp only
          split
          · exact ⟨_, rfl⟩
          · exact ⟨_, rfl⟩
      | registered cronSchedule nextRunAt read => exact ⟨_, rfl⟩
      | rewriting update read => exact ⟨_, rfl⟩
      | _ => exact absurd (by simp only [hcall]) h
  | _ => exact absurd trivial h

/-- **At most one active schedule per actor and cron.** In every run of `open_goal` and
`update_goal` calls, and of goals ending, from a table with at most one active schedule
per actor and cron expression, that stays so in every state, if and only if every
write finds the slot it writes to free. -/
theorem one_schedule_iff (cron : Cron) {goals : GoalRows} (hstart : OneSchedule goals)
    (looped : List String) (labels : List ScheduleLabel) :
    (∀ n s, (scheduleSystem cron).run (.start goals looped) (labels.take n) = some s →
        OneSchedule s.goals)
      ↔ (scheduleSystem cron).Along (WritesFreeSlot cron) (.start goals looped) labels :=
  @System.run_good_iff _ _ (scheduleSystem cron) (fun _ => True)
    (fun s => OneSchedule s.goals) _ (fun _ _ _ _ _ => trivial)
    (fun _ _ _ _ h hstep => step_oneSchedule_iff h hstep) (fun _ _ h => write_enabled h)
    _ trivial hstart labels

def everyMinute : Cron := ⟨fun _ => true, fun _ now => some (now + 60)⟩

/-- One caller opens a schedule; another one asks for the same time and finds it, and
moves it to another. -/
def openedOnce : List ScheduleLabel :=
  [.openGoal 0 (plainRequest .scheduled "0 9 * * *"), .advance 0 "" none 0, .advance 0 "" none 0,
    .advance 0 "goal" none 0, .advance 0 "" none 0, .advance 0 "" none 0, .advance 0 "" none 0,
    .openGoal 1 { plainRequest .scheduled "0 9 * * *" with objective := "report the weather" },
    .advance 1 "" none 1, .advance 1 "" none 1, .updateGoal 1 ⟨"goal", "", "0 10 * * *"⟩,
    .advance 1 "" none 2, .advance 1 "" none 2, .advance 1 "" none 2, .advance 1 "" none 2]

theorem openedOnce_writes :
    (scheduleSystem everyMinute).Along (WritesFreeSlot everyMinute) (.start .empty [])
      openedOnce := by
  refine System.along_cons_of_some _ trivial rfl ?_
  refine System.along_cons_of_some _ trivial rfl ?_
  refine System.along_cons_of_some _ trivial rfl ?_
  refine System.along_cons_of_some _ (fun _ _ _ row hrow => absurd hrow List.not_mem_nil) rfl ?_
  refine System.along_cons_of_some _ trivial rfl ?_
  refine System.along_cons_of_some _ trivial rfl ?_
  refine System.along_cons_of_some _ ?_ rfl ?_
  · -- the goal it registers has not been ended since it was inserted
    intro goal hgoal hended
    obtain rfl := Option.some.inj hgoal
    cases hended
  refine System.along_cons_of_some _ trivial rfl ?_
  refine System.along_cons_of_some _ trivial rfl ?_
  refine System.along_cons_of_some _ trivial rfl ?_
  refine System.along_cons_of_some _ trivial rfl ?_
  refine System.along_cons_of_some _ trivial rfl ?_
  refine System.along_cons_of_some _ trivial rfl ?_
  refine System.along_cons_of_some _ trivial rfl ?_
  refine System.along_cons_of_some _ ?_ rfl trivial
  -- and it is the only row when it is moved
  intro goal _ _ _ row hrow hne
  obtain rfl := List.mem_singleton.mp hrow
  exact absurd rfl hne

/-- It is the only one. -/
theorem opened_once_alone :
    (scheduleSystem everyMinute).Along (WritesFreeSlot everyMinute) (.start .empty []) openedOnce
      ∧ ∀ n s, (scheduleSystem everyMinute).run (.start .empty []) (openedOnce.take n) = some s →
        OneSchedule s.goals :=
  ⟨openedOnce_writes,
    (one_schedule_iff everyMinute (fun _ ha => absurd ha List.not_mem_nil) [] openedOnce).mpr
      openedOnce_writes⟩

/-- Two callers for one chat ask about the same cron expression, with different
objectives, before either inserts. -/
def openedTwice : List ScheduleLabel :=
  [.openGoal 0 (plainRequest .scheduled "0 9 * * *"),
    .openGoal 1 { plainRequest .scheduled "0 9 * * *" with objective := "report the weather" },
    .advance 0 "" none 0, .advance 0 "" none 0, .advance 1 "" none 0, .advance 1 "" none 0,
    .advance 0 "first" none 0, .advance 1 "second" none 0]

/-- Both goals are active under one cron expression. -/
theorem opened_twice_both_active :
    ¬ ∀ (cron : Cron) (goals : GoalRows), OneSchedule goals → ∀ looped labels s,
      (scheduleSystem cron).run (.start goals looped) labels = some s → OneSchedule s.goals := by
  intro hall
  obtain ⟨s, hs, first, second, hfirst, hsecond, hlive, hliveToo, hslot, hids⟩ :
      ∃ s, (scheduleSystem everyMinute).run (.start .empty []) openedTwice = some s
        ∧ ∃ first second, first ∈ s.goals.rows ∧ second ∈ s.goals.rows ∧ first.Scheduled
          ∧ second.Scheduled ∧ first.slot = second.slot ∧ first.id ≠ second.id := by
    refine ⟨_, rfl, _, _, List.mem_cons_self, List.mem_cons_of_mem _ List.mem_cons_self, ?_, ?_,
      rfl, ?_⟩
    · exact ⟨rfl, by decide⟩
    · exact ⟨rfl, by decide⟩
    · show "first" ≠ "second"
      decide
  have hempty : OneSchedule .empty := fun a ha => absurd ha List.not_mem_nil
  have hsame := hall everyMinute .empty hempty [] openedTwice s hs first hfirst second hsecond
    hlive hliveToo hslot
  exact hids (by rw [hsame])

end Navi.Goals
