import Navi.Goals.Schedules

/-!
# Occurrences of scheduled goals

`process_background_once` by any number of daemons, each of which may crash between any
two of its store calls, while schedules are updated. A daemon reads the due goals,
opens an occurrence of each and then sets its next time: three transactions with no
guard between them.
-/

namespace Navi.Goals

open Navi.Base Navi.Lifecycle

/-- `due_cron_goals`. -/
def dueCronGoals (goals : GoalRows) (now : Time) : List GoalRow :=
  (goals.rows.filter fun row =>
    row.cronSchedule ≠ "" ∧ row.nextRunAt ≤ now ∧ row.active).insertionSort
      fun a b => a.nextRunAt ≤ b.nextRunAt

/-- The `trigger_facts` of `open_scheduled_occurrence`. -/
def occurrenceFacts (goal : GoalRow) (number : Nat) (triggeredAt : Time) : Dict :=
  [("type", .str "scheduled_occurrence"), ("schedule_goal_id", .str goal.id),
    ("cron_schedule", .str goal.cronSchedule), ("scheduled_for", .float goal.nextRunAt),
    ("triggered_at", .float triggeredAt), ("occurrence_number", .int number)]

/-- The request of `open_scheduled_occurrence` for the due time of the goal as it was
read. Whether it verifies is read off the goal's specification. -/
def occurrenceRequest (goals : GoalRows) (goal : GoalRow) (verifies : Bool) (now : Time) :
    OpenRequest where
  objective := goal.objective
  workspace := goal.workspace
  loopKind := .durableGoal
  source := goal.source
  peerId := goal.peerId
  senderId := goal.senderId
  sessionId := goal.sessionId
  verifies := verifies
  timeoutSeconds := 120
  executionMode := "background"
  cronSchedule := ""
  parentGoalId := goal.id
  triggerFacts :=
    occurrenceFacts goal (goals.rowcount (fun row => row.parentGoalId = goal.id) + 1) now
  childActiveLimit := 0

/-- What becomes of an opened occurrence outside of the table: nothing fails; it fails
before the goal is inserted; or after, and is compensated. -/
inductive OpenOutcome where
  | opened (verifies : Bool)
  | unopened
  | compensated (verifies : Bool) (error : String)

/-- Whether the occurrence's goal is inserted. -/
def OpenOutcome.inserts : OpenOutcome → Bool
  | .opened _ | .compensated _ _ => true
  | .unopened => false

/-- Where a daemon is, with the time it read, the goals still due and (a history
variable) how many updates each schedule had had when they were read. -/
inductive DaemonCall where
  | idle
  /-- `next_cron_time` of the next due goal -/
  | working (now : Time) (seen : String → Nat) (due : List GoalRow)
  /-- `open_scheduled_occurrence` -/
  | opening (now : Time) (seen : String → Nat) (goal : GoalRow) (nextRunAt : Time)
      (rest : List GoalRow)
  /-- `update_cron_run` -/
  | advancing (now : Time) (seen : String → Nat) (goal : GoalRow) (nextRunAt : Time)
      (rest : List GoalRow)
  /-- `record_cron_failure`, with whether the occurrence was inserted -/
  | failing (now : Time) (seen : String → Nat) (goal : GoalRow) (nextRunAt : Time)
      (rest : List GoalRow) (opened : Bool)
  /-- `block_invalid_cron_schedule` -/
  | blocking (now : Time) (seen : String → Nat) (goal : GoalRow) (rest : List GoalRow)
  | blocked (now : Time) (seen : String → Nat) (goal read : GoalRow) (rest : List GoalRow)

/-- Whether a daemon has inserted an occurrence of a goal and has still to set the goal's
next time. -/
def DaemonCall.hasOpened : DaemonCall → String → Bool
  | .advancing _ _ goal _ _, id => goal.id = id
  | .failing _ _ goal _ _ opened, id => opened && goal.id = id
  | _, _ => false

/-- The goals whose next time a daemon has still to set. -/
def DaemonCall.held : DaemonCall → List GoalRow
  | .idle => []
  | .working _ _ due => due
  | .opening _ _ goal _ rest | .advancing _ _ goal _ rest | .failing _ _ goal _ rest _ =>
      goal :: rest
  | .blocking _ _ _ rest | .blocked _ _ _ _ rest => rest

/-- The updates that each schedule had had when a daemon read it. -/
def DaemonCall.seen : DaemonCall → String → Nat
  | .idle => fun _ => 0
  | .working _ seen _ | .opening _ seen _ _ _ | .advancing _ seen _ _ _
  | .failing _ seen _ _ _ _ | .blocking _ seen _ _ | .blocked _ seen _ _ _ => seen

/-- Where a call of `update_goal` is, once it has its goal. -/
inductive EditCall where
  | idle
  | rereading (update : TemplateUpdate) (id : String)
  | rewriting (update : TemplateUpdate) (read : GoalRow)

/-- A next time that was set after an occurrence: how many updates the schedule had had
when the daemon read it, and by then; and the time before and after. -/
structure Advance where
  seen : Nat
  found : Nat
  before : Time
  after : Time

/-- The table, the daemons and the editors; and, as history variables, the due times
for which an occurrence was inserted, the number of updates of each schedule, and the
next times set. -/
structure TickState where
  goals : GoalRows
  daemons : Nat → DaemonCall
  editors : Nat → EditCall
  materialised : List (String × Time)
  edits : String → Nat
  advances : List Advance

def TickState.start (goals : GoalRows) : TickState :=
  ⟨goals, fun _ => .idle, fun _ => .idle, [], fun _ => 0, []⟩

def TickState.become (s : TickState) (daemon : Nat) (next : DaemonCall) : TickState :=
  { s with daemons := Function.update s.daemons daemon next }

/-- The insert of an occurrence for the due time of a goal. -/
def TickState.occur (s : TickState) (goal : GoalRow) (id : String) (verifies : Bool) (now : Time) :
    TickState :=
  { s with
    goals := s.goals.insertOrIgnore
      ((occurrenceRequest s.goals goal verifies now).row id ("run:" ++ id) 0 now)
    materialised := (goal.id, goal.nextRunAt) :: s.materialised }

/-- A daemon starts, makes its next store call, or crashes; and the store calls of
`update_goal`, less the conflict query, which only refuses some updates. -/
inductive TickLabel where
  | read (daemon : Nat) (now : Time)
  | advance (daemon : Nat) (id : String) (outcome : OpenOutcome) (now : Time)
  | crash (daemon : Nat)
  | edit (editor : Nat) (request : RescheduleRequest) (now : Time)
  | reread (editor : Nat)
  | rewrite (editor : Nat) (now : Time)

/-- `open_scheduled_occurrence` by a daemon. -/
def openOccurrence (s : TickState) (daemon : Nat) (started : Time) (seen : String → Nat)
    (goal : GoalRow) (nextRunAt : Time) (rest : List GoalRow) (id : String)
    (outcome : OpenOutcome) (now : Time) : TickState :=
  match outcome, s.goals.get? id with
  | .opened verifies, none =>
      (s.occur goal id verifies now).become daemon (.advancing started seen goal nextRunAt rest)
  | .compensated verifies error, none =>
      let opened := s.occur goal id verifies now
      let request := occurrenceRequest s.goals goal verifies now
      { opened.become daemon (.failing started seen goal nextRunAt rest true) with
        goals := writeState opened.goals (compensatedUpdate error)
          (request.row id ("run:" ++ id) 0 now) now }
  | _, _ => s.become daemon (.failing started seen goal nextRunAt rest false)

/-- `update_cron_run` by a daemon. -/
def TickState.setNextRun (s : TickState) (seen : String → Nat) (goal : GoalRow)
    (nextRunAt now : Time) : TickState :=
  { s with
    goals := writeCronRun s.goals goal.id nextRunAt now
    advances := match s.goals.get? goal.id with
      | some row => ⟨seen goal.id, s.edits goal.id, row.nextRunAt, nextRunAt⟩ :: s.advances
      | none => s.advances }

def daemonStep (cron : Cron) (s : TickState) (daemon : Nat) (id : String) (outcome : OpenOutcome)
    (now : Time) : Option TickState :=
  match s.daemons daemon with
  | .idle => none
  | .working _ _ [] => some (s.become daemon .idle)
  | .working started seen (goal :: rest) =>
      match cron.next goal.cronSchedule started with
      | some nextRunAt => some (s.become daemon (.opening started seen goal nextRunAt rest))
      | none => some (s.become daemon (.blocking started seen goal rest))
  | .opening started seen goal nextRunAt rest =>
      some (openOccurrence s daemon started seen goal nextRunAt rest id outcome now)
  | .advancing started seen goal nextRunAt rest =>
      some ((s.setNextRun seen goal nextRunAt now).become daemon (.working started seen rest))
  | .failing started seen goal nextRunAt rest _ =>
      some { s.become daemon (.working started seen rest) with
        goals := writeCronRun s.goals goal.id nextRunAt now }
  | .blocking started seen goal rest =>
      match s.goals.get? goal.id with
      | some read => some (s.become daemon (.blocked started seen goal read rest))
      | none => some (s.become daemon (.working started seen rest))
  | .blocked started seen goal read rest =>
      some { s.become daemon (.working started seen rest) with
        goals := writeBlocked s.goals goal.nextRunAt "ValueError" "" read now }

/-- Daemons and updates of schedules, store call by store call. -/
def tickSystem (cron : Cron) : System TickState TickLabel where
  step s
    | .read daemon now =>
        match s.daemons daemon with
        | .idle => some (s.become daemon (.working now s.edits (dueCronGoals s.goals now)))
        | _ => none
    | .advance daemon id outcome now => daemonStep cron s daemon id outcome now
    | .crash daemon => some (s.become daemon .idle)
    | .edit editor request now =>
        match s.editors editor, s.goals.get? request.goalId with
        | .idle, some goal =>
            match templateUpdate cron request goal now with
            | some update =>
                if goal.active ∧ goal.cronSchedule ≠ "" then some { s with
                  editors := Function.update s.editors editor (.rereading update goal.id) }
                else none
            | none => none
        | _, _ => none
    | .reread editor =>
        match s.editors editor with
        | .rereading update id => (s.goals.get? id).map fun read =>
            { s with editors := Function.update s.editors editor (.rewriting update read) }
        | _ => none
    | .rewrite editor now =>
        match s.editors editor with
        | .rewriting update read => some { s with
            goals := writeTemplate s.goals update read now
            editors := Function.update s.editors editor .idle
            edits := match s.goals.get? read.id with
              | some row =>
                  if row.cronSchedule = update.cronSchedule then s.edits
                  else Function.update s.edits read.id (s.edits read.id + 1)
              | none => s.edits }
        | _ => none

/-- One occurrence for each due time, and no next time set over an update that was made
since the daemon read the schedule. -/
structure TickState.OnePerTick (s : TickState) : Prop where
  once : s.materialised.Nodup
  kept : ∀ a ∈ s.advances, a.seen ≠ a.found → a.after = a.before

/-- No store call comes between others that are meant to be one. An occurrence is inserted
while its schedule still has the due time that the daemon read, and no other daemon
stands between an occurrence of that schedule and its next time. A next time is set on
the due time that was read, and is later than it. No daemon crashes between an
occurrence and the next time. An update changes the cron expression while no daemon has
still to set the next time of the schedule, and it leaves the next time as it finds it,
or sets one that is later than the due times that have an occurrence. -/
def Undisturbed (s : TickState) : TickLabel → Prop
  | .advance daemon id outcome _ =>
      match s.daemons daemon with
      | .opening _ _ goal _ _ => s.goals.get? id = none → outcome.inserts = true →
          (∃ row, s.goals.get? goal.id = some row ∧ row.active = true
            ∧ row.nextRunAt = goal.nextRunAt)
          ∧ ∀ other, (s.daemons other).hasOpened goal.id = false
      | .advancing _ _ goal nextRunAt _ | .failing _ _ goal nextRunAt _ _ =>
          goal.nextRunAt < nextRunAt ∧ ∀ row ∈ s.goals.get? goal.id, row.active = true →
            row.nextRunAt = goal.nextRunAt
      | _ => True
  | .crash daemon => ∀ id, (s.daemons daemon).hasOpened id = false
  | .rewrite editor _ =>
      match s.editors editor with
      | .rewriting update read => ∀ row ∈ s.goals.get? read.id,
          (row.cronSchedule ≠ update.cronSchedule →
            ∀ daemon, ∀ goal ∈ (s.daemons daemon).held, goal.id ≠ read.id)
          ∧ (update.nextRunAt = row.nextRunAt
            ∨ ∀ time, (read.id, time) ∈ s.materialised → time < update.nextRunAt)
      | _ => True
  | _ => True

/-! ## What holds between the store calls -/

/-- A due time that has an occurrence: its schedule has ended, or moved on, or some
daemon is about to move it on. -/
def TickState.Accounts (s : TickState) (id : String) (time : Time) : Prop :=
  ∃ row, s.goals.get? id = some row ∧ (row.active = true → time ≤ row.nextRunAt
    ∧ (time = row.nextRunAt → ∃ daemon, (s.daemons daemon).hasOpened id = true))

/-- A daemon knows of every update of the schedules that it has still to set. -/
def TickState.Current (s : TickState) : Prop :=
  ∀ daemon, ∀ goal ∈ (s.daemons daemon).held,
    (s.daemons daemon).seen goal.id = s.edits goal.id

/-- One occurrence for each due time, and what keeps it so. -/
structure TickState.Orderly (s : TickState) : Prop extends s.OnePerTick where
  accounts : ∀ id time, (id, time) ∈ s.materialised → s.Accounts id time
  current : s.Current

section

variable {s s' : TickState} {daemon : Nat} {next : DaemonCall} {started : Time}
  {seen : String → Nat} {goal : GoalRow} {nextRunAt now : Time} {rest : List GoalRow}
  {id : String} {time : Time} {outcome : OpenOutcome} {verifies : Bool} {call : DaemonCall}

/-- A due time stays accounted for where its schedule ends, moves past it, or stays as it
is with whoever is about to move it on. -/
theorem TickState.Accounts.moves (h : s.Accounts id time)
    (hrow : ∀ row, s.goals.get? id = some row → ∃ row', s'.goals.get? id = some row'
      ∧ (row'.active = true → row.active = true
        ∧ (time < row'.nextRunAt ∨ row'.nextRunAt = row.nextRunAt)))
    (hopened : ∀ daemon, (s.daemons daemon).hasOpened id = true →
      (s'.daemons daemon).hasOpened id = true) : s'.Accounts id time := by
  obtain ⟨row, hget, haccounts⟩ := h
  obtain ⟨row', hget', hmoved⟩ := hrow row hget
  refine ⟨row', hget', fun hactive' => ?_⟩
  obtain ⟨hactive, hlater | hsame⟩ := hmoved hactive'
  · exact ⟨hlater.le, fun heq => absurd heq hlater.ne⟩
  · obtain ⟨hle, hpending⟩ := haccounts hactive
    rw [hsame]
    refine ⟨hle, fun heq => ?_⟩
    obtain ⟨other, hother⟩ := hpending heq
    exact ⟨other, hopened other hother⟩

theorem hasOpened_become (hnext : ∀ id, (s.daemons daemon).hasOpened id = true →
      next.hasOpened id = true) (other : Nat) (h : (s.daemons other).hasOpened id = true) :
    ((s.become daemon next).daemons other).hasOpened id = true := by
  show (Function.update s.daemons daemon next other).hasOpened id = true
  by_cases hother : other = daemon
  · rw [hother, Function.update_self]
    exact hnext id (hother ▸ h)
  · rwa [Function.update_of_ne hother]

theorem TickState.Current.become (h : s.Current)
    (hnext : ∀ goal ∈ next.held, next.seen goal.id = s.edits goal.id) :
    (s.become daemon next).Current := by
  intro other goal hgoal
  change goal ∈ (Function.update s.daemons daemon next other).held at hgoal
  show (Function.update s.daemons daemon next other).seen goal.id = s.edits goal.id
  by_cases hother : other = daemon
  · rw [hother, Function.update_self] at hgoal ⊢
    exact hnext goal hgoal
  · rw [Function.update_of_ne hother] at hgoal ⊢
    exact h other goal hgoal

theorem TickState.Orderly.become (h : s.Orderly) (hcall : s.daemons daemon = call)
    (hnone : ∀ id, call.hasOpened id = false)
    (hnext : ∀ goal ∈ next.held, next.seen goal.id = s.edits goal.id) :
    (s.become daemon next).Orderly := by
  refine ⟨⟨h.once, h.kept⟩, fun id time hmem => ?_, h.current.become hnext⟩
  refine (h.accounts id time hmem).moves (fun row hrow => ⟨row, hrow, fun h => ⟨h, .inr rfl⟩⟩)
    (hasOpened_become fun id hid => ?_)
  rw [hcall, hnone id] at hid
  cases hid

theorem TickState.Orderly.seen_eq (h : s.Orderly) {held : List GoalRow}
    (hcall : s.daemons daemon = call) (hseen : call.seen = seen)
    (hheld : ∀ goal ∈ held, goal ∈ call.held) :
    ∀ goal ∈ held, seen goal.id = s.edits goal.id := by
  intro goal hgoal
  have hcurrent := h.current daemon goal (by rw [hcall]; exact hheld goal hgoal)
  rwa [hcall, hseen] at hcurrent

/-! ### The insert -/

theorem occur_orderly {goals : GoalRows} (h : s.Orderly)
    (hopening : s.daemons daemon = .opening started seen goal nextRunAt rest)
    (hdue : ∃ row, s.goals.get? goal.id = some row ∧ row.active = true
      ∧ row.nextRunAt = goal.nextRunAt)
    (halone : ∀ other, (s.daemons other).hasOpened goal.id = false)
    (hgoals : ∀ id row, s.goals.get? id = some row → goals.get? id = some row)
    (hopened : next.hasOpened goal.id = true) (hheld : next.held = goal :: rest)
    (hseen : next.seen = seen) :
    { (s.occur goal id verifies now).become daemon next with goals := goals }.Orderly := by
  obtain ⟨row, hrow, hactive, htime⟩ := hdue
  have hnew : (goal.id, goal.nextRunAt) ∉ s.materialised := by
    intro hmem
    obtain ⟨found, hfound, haccounts⟩ := h.accounts _ _ hmem
    obtain rfl := Option.some.inj (hrow.symm.trans hfound)
    obtain ⟨other, hother⟩ := (haccounts hactive).2 htime.symm
    rw [halone other] at hother
    cases hother
  refine ⟨⟨List.nodup_cons.mpr ⟨hnew, h.once⟩, h.kept⟩, ?_, ?_⟩
  · intro id' time hmem
    rcases List.mem_cons.mp hmem with heq | hmem
    · obtain ⟨rfl, rfl⟩ := Prod.mk.inj heq
      refine ⟨row, hgoals _ _ hrow, fun _ => ⟨htime.ge, fun _ => ⟨daemon, ?_⟩⟩⟩
      show (Function.update s.daemons daemon next daemon).hasOpened goal.id = true
      rwa [Function.update_self]
    · refine (h.accounts id' time hmem).moves
        (fun row hrow => ⟨row, hgoals _ _ hrow, fun h => ⟨h, .inr rfl⟩⟩) (hasOpened_become ?_)
      intro id hid
      rw [hopening] at hid
      cases hid
  · refine h.current.become fun held hmem => ?_
    rw [hheld] at hmem
    rw [hseen]
    exact h.seen_eq hopening rfl (fun _ hgoal => hgoal) held hmem

theorem openOccurrence_orderly (h : s.Orderly)
    (hopening : s.daemons daemon = .opening started seen goal nextRunAt rest)
    (hundisturbed : s.goals.get? id = none → outcome.inserts = true →
      (∃ row, s.goals.get? goal.id = some row ∧ row.active = true
        ∧ row.nextRunAt = goal.nextRunAt)
      ∧ ∀ other, (s.daemons other).hasOpened goal.id = false) :
    (openOccurrence s daemon started seen goal nextRunAt rest id outcome now).Orderly := by
  have hfails : (s.become daemon (.failing started seen goal nextRunAt rest false)).Orderly := by
    exact h.become hopening (fun _ => rfl) (h.seen_eq hopening rfl fun _ hgoal => hgoal)
  unfold openOccurrence
  cases hfresh : s.goals.get? id with
  | some row => cases outcome <;> exact hfails
  | none =>
      cases outcome with
      | unopened => exact hfails
      | opened verifies =>
          obtain ⟨hdue, halone⟩ := hundisturbed hfresh rfl
          exact occur_orderly h hopening hdue halone
            (fun _ _ hrow => Table.get?_insertOrIgnore_of_some _ hrow) (decide_eq_true rfl) rfl rfl
      | compensated verifies error =>
          obtain ⟨hdue, halone⟩ := hundisturbed hfresh rfl
          refine occur_orderly h hopening hdue halone ?_ (decide_eq_true rfl) rfl rfl
          intro known row hrow
          refine get?_writeState_of_ne ?_ (Table.get?_insertOrIgnore_of_some _ hrow)
          rintro rfl
          exact nomatch hfresh.symm.trans hrow

/-! ### The next time -/

theorem writeCronRun_orderly {advances : List Advance} (h : s.Orderly)
    (hcall : s.daemons daemon = next) (hheld : next.held = goal :: rest)
    (hopened : ∀ id, next.hasOpened id = true → goal.id = id) (hseen : next.seen = seen)
    (hundisturbed : goal.nextRunAt < nextRunAt ∧ ∀ row ∈ s.goals.get? goal.id,
      row.active = true → row.nextRunAt = goal.nextRunAt)
    (hkept : ∀ a ∈ advances, a.seen ≠ a.found → a.after = a.before) :
    { s.become daemon (.working started seen rest) with
      goals := writeCronRun s.goals goal.id nextRunAt now
      advances := advances }.Orderly := by
  have hrest : ∀ other ∈ rest, seen other.id = s.edits other.id := by
    exact h.seen_eq hcall hseen fun other hother => hheld ▸ List.mem_cons_of_mem _ hother
  refine ⟨⟨h.once, hkept⟩, fun id time hmem => ?_, h.current.become hrest⟩
  have haccounts := h.accounts id time hmem
  by_cases hid : id = goal.id
  · -- the schedule moves past all its due times
    obtain rfl := hid
    obtain ⟨row, hrow, hle⟩ := haccounts
    refine ⟨updateCronRun nextRunAt row now,
      @get?_setGoal_self _ _ _ (updateCronRun_id nextRunAt · now) _ hrow, fun hactive => ?_⟩
    have hpast : time < nextRunAt :=
      ((hle hactive).1.trans (hundisturbed.2 row hrow hactive).le).trans_lt hundisturbed.1
    exact ⟨hpast.le, fun heq => absurd heq hpast.ne⟩
  · refine haccounts.moves (fun row hrow => ⟨row, ?_, fun h => ⟨h, .inr rfl⟩⟩) ?_
    · exact @get?_setGoal_of_ne _ _ _ _ (updateCronRun_id nextRunAt · now) _ hid hrow
    · intro other hother
      have hne : other ≠ daemon := by
        rintro rfl
        exact hid (hopened id (hcall ▸ hother)).symm
      show (Function.update s.daemons daemon _ other).hasOpened id = true
      rwa [Function.update_of_ne hne]

theorem setNextRun_orderly (h : s.Orderly)
    (hadvancing : s.daemons daemon = .advancing started seen goal nextRunAt rest)
    (hundisturbed : goal.nextRunAt < nextRunAt ∧ ∀ row ∈ s.goals.get? goal.id,
      row.active = true → row.nextRunAt = goal.nextRunAt) :
    ((s.setNextRun seen goal nextRunAt now).become daemon
      (.working started seen rest)).Orderly := by
  refine writeCronRun_orderly h hadvancing rfl (fun id hid => of_decide_eq_true hid) rfl
    hundisturbed ?_
  -- the daemon has seen every update, so it overwrites none
  have hcurrent : seen goal.id = s.edits goal.id :=
    h.seen_eq hadvancing rfl (fun _ hgoal => hgoal) goal List.mem_cons_self
  intro a ha hedited
  cases hrow : s.goals.get? goal.id with
  | none =>
      simp only [TickState.setNextRun, hrow] at ha
      exact h.kept a ha hedited
  | some row =>
      simp only [TickState.setNextRun, hrow, List.mem_cons] at ha
      rcases ha with rfl | ha
      · exact absurd hcurrent hedited
      · exact h.kept a ha hedited

/-! ### Updates and blocked schedules -/

theorem writeBlocked_orderly {read : GoalRow} (h : s.Orderly)
    (hcall : s.daemons daemon = .blocked started seen goal read rest) :
    { s.become daemon (.working started seen rest) with
      goals := writeBlocked s.goals goal.nextRunAt "ValueError" "" read now }.Orderly := by
  have hblocks := (blockInvalidCronSchedule_id goal.nextRunAt "ValueError" "" read · now)
  refine ⟨⟨h.once, h.kept⟩, fun id time hmem => ?_,
    h.current.become (h.seen_eq hcall rfl fun _ hgoal => hgoal)⟩
  refine (h.accounts id time hmem).moves (fun row hrow => ?_) (hasOpened_become fun id hid => ?_)
  · by_cases hid : id = read.id
    · obtain rfl := hid
      exact ⟨_, @get?_setGoal_self _ _ _ hblocks _ hrow,
        fun hactive => absurd rfl (of_decide_eq_true hactive)⟩
    · exact ⟨row, @get?_setGoal_of_ne _ _ _ _ hblocks _ hid hrow, fun h => ⟨h, .inr rfl⟩⟩
  · rw [hcall] at hid
    cases hid

theorem writeTemplate_orderly {update : TemplateUpdate} {read : GoalRow} {editors : Nat → EditCall}
    (h : s.Orderly)
    (hundisturbed : ∀ row ∈ s.goals.get? read.id, (row.cronSchedule ≠ update.cronSchedule →
        ∀ daemon, ∀ goal ∈ (s.daemons daemon).held, goal.id ≠ read.id)
      ∧ (update.nextRunAt = row.nextRunAt
        ∨ ∀ time, (read.id, time) ∈ s.materialised → time < update.nextRunAt)) :
    { s with
      goals := writeTemplate s.goals update read now
      editors := editors
      edits := match s.goals.get? read.id with
        | some row =>
            if row.cronSchedule = update.cronSchedule then s.edits
            else Function.update s.edits read.id (s.edits read.id + 1)
        | none => s.edits }.Orderly := by
  have hwrites := (updateScheduledTemplate_id update read · now)
  refine ⟨⟨h.once, h.kept⟩, fun id time hmem => ?_, fun daemon goal hgoal => ?_⟩
  · refine (h.accounts id time hmem).moves (fun row hrow => ?_) fun _ hother => hother
    by_cases hid : id = read.id
    · obtain rfl := hid
      refine ⟨_, @get?_setGoal_self _ _ _ hwrites _ hrow, fun hactive => ⟨hactive, ?_⟩⟩
      exact (hundisturbed row hrow).2.symm.imp_left fun hlater => hlater time hmem
    · exact ⟨row, @get?_setGoal_of_ne _ _ _ _ hwrites _ hid hrow, fun h => ⟨h, .inr rfl⟩⟩
  · refine (h.current daemon goal hgoal).trans ?_
    cases hrow : s.goals.get? read.id with
    | none => rfl
    | some row =>
        dsimp only
        split
        next => rfl
        next hcron =>
          exact (Function.update_of_ne ((hundisturbed row hrow).1 hcron daemon goal hgoal) _ _).symm

end

/-! ## Runs -/

theorem daemonStep_orderly {cron : Cron} {s s' : TickState} {daemon : Nat} {id : String}
    {outcome : OpenOutcome} {now : Time} (hs : s.Orderly)
    (hundisturbed : Undisturbed s (.advance daemon id outcome now))
    (h : daemonStep cron s daemon id outcome now = some s') : s'.Orderly := by
  unfold Undisturbed at hundisturbed
  unfold daemonStep at h
  cases hcall : s.daemons daemon with
  | idle => simp only [hcall, reduceCtorEq] at h
  | opening started seen goal nextRunAt rest =>
      simp only [hcall] at h hundisturbed
      obtain rfl := Option.some.inj h
      exact openOccurrence_orderly hs hcall hundisturbed
  | advancing started seen goal nextRunAt rest =>
      simp only [hcall] at h hundisturbed
      obtain rfl := Option.some.inj h
      exact setNextRun_orderly hs hcall hundisturbed
  | failing started seen goal nextRunAt rest opened =>
      simp only [hcall] at h hundisturbed
      obtain rfl := Option.some.inj h
      refine writeCronRun_orderly hs hcall rfl (fun id hid => ?_) rfl hundisturbed hs.kept
      exact of_decide_eq_true (Bool.and_eq_true _ _ ▸ hid).2
  | working started seen due =>
      -- the other store calls neither open an occurrence nor set a time after one
      cases due with
      | nil =>
          simp only [hcall] at h
          obtain rfl := Option.some.inj h
          exact hs.become hcall (fun _ => rfl) fun _ hgoal => absurd hgoal List.not_mem_nil
      | cons goal rest =>
          simp only [hcall] at h
          split at h
          · obtain rfl := Option.some.inj h
            exact hs.become hcall (fun _ => rfl) (hs.seen_eq hcall rfl fun _ hgoal => hgoal)
          · obtain rfl := Option.some.inj h
            exact hs.become hcall (fun _ => rfl)
              (hs.seen_eq hcall rfl fun _ hgoal => List.mem_cons_of_mem goal hgoal)
  | blocking started seen goal rest =>
      simp only [hcall] at h
      split at h
      · obtain rfl := Option.some.inj h
        exact hs.become hcall (fun _ => rfl) (hs.seen_eq hcall rfl fun _ hgoal => hgoal)
      · obtain rfl := Option.some.inj h
        exact hs.become hcall (fun _ => rfl) (hs.seen_eq hcall rfl fun _ hgoal => hgoal)
  | blocked started seen goal read rest =>
      simp only [hcall] at h
      obtain rfl := Option.some.inj h
      exact writeBlocked_orderly hs hcall

theorem tick_orderly {cron : Cron} {s s' : TickState} {label : TickLabel} (hs : s.Orderly)
    (hundisturbed : Undisturbed s label) (h : (tickSystem cron).step s label = some s') :
    s'.Orderly := by
  cases label with
  | read daemon now =>
      simp only [tickSystem] at h
      split at h
      next hidle =>
        obtain rfl := Option.some.inj h
        exact hs.become hidle (fun _ => rfl) fun _ _ => rfl
      next => cases h
  | advance daemon id outcome now => exact daemonStep_orderly hs hundisturbed h
  | crash daemon =>
      obtain rfl := Option.some.inj h
      exact hs.become rfl hundisturbed fun _ hgoal => absurd hgoal List.not_mem_nil
  | edit editor request now =>
      simp only [tickSystem] at h
      split at h
      · split at h
        · split at h
          · obtain rfl := Option.some.inj h
            exact ⟨⟨hs.once, hs.kept⟩, hs.accounts, hs.current⟩
          · cases h
        · cases h
      · cases h
  | reread editor =>
      simp only [tickSystem] at h
      split at h
      · obtain ⟨read, -, rfl⟩ := Option.map_eq_some_iff.mp h
        exact ⟨⟨hs.once, hs.kept⟩, hs.accounts, hs.current⟩
      · cases h
  | rewrite editor now =>
      simp only [tickSystem] at h
      unfold Undisturbed at hundisturbed
      split at h
      next update read hediting =>
        simp only [hediting] at hundisturbed
        obtain rfl := Option.some.inj h
        exact writeTemplate_orderly hs hundisturbed
      next => cases h

/-- **One occurrence per due tick.** In every undisturbed run of daemons that may crash
and of updates of schedules, from any goals: each due time of a goal has at most one
occurrence, and no update of a schedule is overwritten by a daemon that read it before. -/
theorem one_per_tick (cron : Cron) (goals : GoalRows) (labels : List TickLabel) (s : TickState)
    (hundisturbed : (tickSystem cron).Along Undisturbed (.start goals) labels)
    (hrun : (tickSystem cron).run (.start goals) labels = some s) : s.OnePerTick := by
  have hstart : (TickState.start goals).Orderly := by
    refine ⟨⟨List.nodup_nil, ?_⟩, ?_, ?_⟩
    · exact fun _ ha => absurd ha List.not_mem_nil
    · exact fun _ _ hmem => absurd hmem List.not_mem_nil
    · exact fun _ _ hgoal => absurd hgoal List.not_mem_nil
  exact ((tickSystem cron).run_preserves_along (fun _ _ _ => tick_orderly) hstart hundisturbed
    hrun).toOnePerTick

def registeredGoals : GoalRows :=
  Table.empty.insertOrIgnore
    ((plainRequest .scheduled "* * * * *").row "template" "run:template" 60 0)

/-- Two daemons read the schedule when it is due, while its objective is updated. One opens an
occurrence and sets the next time, the other dies before it has opened one; then the cron
expression is updated. -/
def secondDies : List TickLabel :=
  [.read 0 90, .read 1 90, .edit 0 ⟨"template", "water", ""⟩ 90, .reread 0,
    .advance 0 "" .unopened 90, .advance 1 "" .unopened 90, .rewrite 0 91,
    .advance 0 "first" (.opened false) 91, .crash 1, .advance 0 "" .unopened 92,
    .edit 0 ⟨"template", "", "0 * * * *"⟩ 100, .reread 0, .rewrite 0 101]

theorem one_per_tick_second_dies :
    ∃ s, (tickSystem everyMinute).run (.start registeredGoals) secondDies = some s
      ∧ s.materialised = [("template", 60)] ∧ s.OnePerTick := by
  have hends : ((tickSystem everyMinute).run (.start registeredGoals) secondDies).map
      TickState.materialised = some [("template", 60)] := by
    decide +kernel
  obtain ⟨s, hrun, hmaterialised⟩ := Option.map_eq_some_iff.mp hends
  refine ⟨s, hrun, hmaterialised, one_per_tick everyMinute registeredGoals secondDies s ?_ hrun⟩
  let sys := tickSystem everyMinute
  refine sys.along_cons_of_some trivial rfl (sys.along_cons_of_some trivial rfl ?_)
  refine sys.along_cons_of_some trivial rfl (sys.along_cons_of_some trivial rfl ?_)
  refine sys.along_cons_of_some trivial rfl (sys.along_cons_of_some trivial rfl ?_)
  refine sys.along_cons_of_some ?_ rfl ?_
  · rintro row ⟨rfl⟩
    exact ⟨fun hne => absurd rfl hne, .inl rfl⟩
  refine sys.along_cons_of_some (fun _ _ => ⟨⟨_, rfl, rfl, rfl⟩, ?_⟩) rfl ?_
  · intro other
    match other with
    | 0 | 1 | other + 2 => rfl
  refine sys.along_cons_of_some (fun _ => rfl) rfl ?_
  refine sys.along_cons_of_some ⟨by decide +kernel, ?_⟩ rfl ?_
  · rintro row ⟨rfl⟩ _
    rfl
  refine sys.along_cons_of_some trivial rfl (sys.along_cons_of_some trivial rfl ?_)
  refine sys.along_cons_of_some ?_ rfl trivial
  rintro row ⟨rfl⟩
  refine ⟨fun _ daemon goal hgoal => ?_, .inr fun time hmem => ?_⟩
  · match daemon with
    | 0 | 1 | daemon + 2 => cases hgoal
  · cases hmem with
    | head => decide +kernel
    | tail _ hmem => cases hmem

/-- Two daemons read the schedule when it is due, and both open an occurrence. -/
def twoDaemons : List TickLabel :=
  [.read 0 90, .read 1 90, .advance 0 "" .unopened 90, .advance 1 "" .unopened 90,
    .advance 0 "first" (.opened false) 90, .advance 1 "second" (.opened false) 90]

/-- One due time, two occurrences. -/
theorem two_daemons_repeat :
    ¬ ∀ (cron : Cron) (goals : GoalRows) (labels : List TickLabel) (s : TickState),
      (tickSystem cron).run (.start goals) labels = some s → s.OnePerTick := by
  intro hall
  obtain ⟨s, hs, hmaterialised⟩ :
      ∃ s, (tickSystem everyMinute).run (.start registeredGoals) twoDaemons = some s
        ∧ s.materialised = [("template", 60), ("template", 60)] := ⟨_, rfl, rfl⟩
  have honce := (hall _ _ _ s hs).once
  rw [hmaterialised, List.nodup_cons] at honce
  exact honce.1 List.mem_cons_self

end Navi.Goals
