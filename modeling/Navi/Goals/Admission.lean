import Navi.Base.Index
import Navi.Base.System
import Navi.Goals.Rows

/-!
# Admission of child goals

`open_goal` under a parent with a limit on its active children, by any number of
callers, between updates of the state of any goal and of the Run of any goal. The
children are counted and the new one is inserted in one transaction; what a refused
call leaves is its Run, which it created first and compensates.
-/

namespace Navi.Goals

open Navi.Base Navi.Lifecycle

/-- The Run that `open_goal` creates. -/
def openedRun (id : String) (now : Time) : Run :=
  { runningRun id with governance := .approved, updatedAt := now }

/-- The `update_run` of `_compensate_open_failure`. -/
def failedOpening (error : String) : RunUpdates where
  phase := some .ended
  governance := some .none
  acceptance := some .rejected
  resolution := some .failed
  planSummary := none
  resultSummary := some "loop creation failed"
  error := some ("loop_open_failed:" ++ error)
  trustRuleId := none
  autonomyLevel := none

/-- `parent_goal_id = ? AND phase IN ('pending', 'running', 'paused')`. -/
def GoalRow.activeChildOf (parent : String) (row : GoalRow) : Bool :=
  row.parentGoalId = parent ∧ row.active

/-- Whether `create` counts the children of the parent first. -/
def OpenRequest.admits (request : OpenRequest) : Bool :=
  request.parentGoalId ≠ "" ∧ 0 < request.childActiveLimit

/-- Whether `create` refuses the request. -/
def refuses (goals : GoalRows) (request : OpenRequest) : Bool :=
  request.admits
    ∧ request.childActiveLimit ≤ goals.rowcount (·.activeChildOf request.parentGoalId)

/-- Where a call of `open_goal` is; once it has its Run it holds the Run's id. -/
inductive AdmissionCall where
  | idle
  /-- `create` of the goal -/
  | creating (request : OpenRequest) (runId : String)
  /-- `update_run` of `_compensate_open_failure` -/
  | compensating (runId error : String)
  | compensated (runId error : String) (read : Run)
  | refused (runId : String)
  | opened

/-- The Run of a call that has no goal. -/
def AdmissionCall.runId? : AdmissionCall → Option String
  | .creating _ runId | .compensating runId _ | .compensated runId _ _ | .refused runId =>
      some runId
  | .idle | .opened => none

/-- The tables; the calls of `open_goal`; the updates of goals and of Runs that have
read their row; and (a history variable) the goals admitted, each with its limit. -/
structure AdmissionState where
  goals : GoalRows
  runs : Table String Run (·.id)
  calls : Nat → AdmissionCall
  goalUpdates : Nat → Option (StateUpdate × GoalRow)
  runUpdates : Nat → Option (RunUpdates × Run)
  admitted : List (String × Int)

def AdmissionState.start (goals : GoalRows) (runs : Table String Run (·.id)) : AdmissionState where
  goals := goals
  runs := runs
  calls _ := .idle
  goalUpdates _ := none
  runUpdates _ := none
  admitted := []

def AdmissionState.become (s : AdmissionState) (call : Nat) (next : AdmissionCall) :
    AdmissionState :=
  { s with calls := Function.update s.calls call next }

@[simp] theorem AdmissionState.become_self (s : AdmissionState) (call : Nat)
    (next : AdmissionCall) : (s.become call next).calls call = next := Function.update_self ..

@[simp] theorem AdmissionState.become_of_ne (s : AdmissionState) {call other : Nat}
    (next : AdmissionCall) (h : other ≠ call) :
    (s.become call next).calls other = s.calls other := Function.update_of_ne h ..

/-- `open_goal` with the id drawn for its Run; its next store call, with the id drawn for
the goal, and where it fails outside of the tables, the type of the error; and the two
halves of an `update_state` and of an `update_run`. Only the Run of a goal is updated. -/
inductive AdmissionLabel where
  | openGoal (call : Nat) (request : OpenRequest) (runId : String) (now : Time)
  | advance (call : Nat) (id : String) (nextRunAt : Except String Time) (now : Time)
  | readGoal (i : Nat) (id : String) (update : StateUpdate)
  | writeGoal (i : Nat) (now : Time)
  | readRun (i : Nat) (runId : String) (updates : RunUpdates)
  | writeRun (i : Nat) (now : Time)

/-- The transaction of `create`, after `next_cron_time`. -/
def createChild (s : AdmissionState) (call : Nat) (request : OpenRequest) (runId id : String)
    (nextRunAt : Except String Time) (now : Time) : AdmissionState :=
  match nextRunAt, s.goals.get? id with
  | .error error, _ => s.become call (.compensating runId error)
  | .ok _, some _ => s.become call (.compensating runId "IntegrityError")
  | .ok nextRunAt, none =>
      if refuses s.goals request then s.become call (.compensating runId "ChildAdmissionConflict")
      else { s.become call .opened with
        goals := s.goals.insertOrIgnore (request.row id runId nextRunAt now)
        admitted := if request.admits then (id, request.childActiveLimit) :: s.admitted
          else s.admitted }

/-- `UPDATE runs SET ... WHERE id = ?`, with the values merged into the row read. -/
def setRun (runs : Table String Run (·.id)) (read : Run) (updates : RunUpdates) (now : Time) :
    Table String Run (·.id) :=
  runs.replace (mergeRunUpdates read updates now)

/-- Calls of `open_goal` among updates of goals and Runs. -/
def admissionSystem : System AdmissionState AdmissionLabel where
  step s
    | .openGoal call request runId now =>
        match s.calls call, s.runs.get? runId with
        | .idle, none =>
            if s.goals.rows.any (·.runId = runId) then none
            else some { s.become call (.creating request runId) with
              runs := s.runs.insertOrIgnore (openedRun runId now) }
        | _, _ => none
    | .advance call id nextRunAt now =>
        match s.calls call with
        | .creating request runId => some (createChild s call request runId id nextRunAt now)
        | .compensating runId error =>
            (s.runs.get? runId).map fun read => s.become call (.compensated runId error read)
        | .compensated runId error read =>
            some { s.become call (.refused runId) with
              runs := setRun s.runs read (failedOpening error) now }
        | _ => none
    | .readGoal i id update => (s.goals.get? id).map fun read =>
        { s with goalUpdates := Function.update s.goalUpdates i (some (update, read)) }
    | .writeGoal i now => (s.goalUpdates i).map fun (update, read) =>
        { s with
          goals := writeState s.goals update read now
          goalUpdates := Function.update s.goalUpdates i none }
    | .readRun i runId updates =>
        if s.goals.rows.any (·.runId = runId) then (s.runs.get? runId).map fun read =>
          { s with runUpdates := Function.update s.runUpdates i (some (updates, read)) }
        else none
    | .writeRun i now => (s.runUpdates i).map fun (updates, read) =>
        { s with
          runs := setRun s.runs read updates now
          runUpdates := Function.update s.runUpdates i none }

/-! ## What a run is to keep -/

/-- The active children of a parent that were admitted under this limit. -/
def AdmissionState.activeAdmitted (s : AdmissionState) (parent : String) (limit : Int) : Nat :=
  s.goals.rowcount fun row => row.activeChildOf parent ∧ (row.id, limit) ∈ s.admitted

/-- Admission holds: no more active children than the limit, and of a refused creation
no goal row and no active Run. -/
structure AdmissionState.Admits (parent : String) (limit : Int) (s : AdmissionState) : Prop where
  within : (s.activeAdmitted parent limit : Int) ≤ limit
  refused : ∀ call runId, s.calls call = .refused runId →
    (∀ row ∈ s.goals.rows, row.runId ≠ runId)
      ∧ ∃ run, s.runs.get? runId = some run ∧ run.phase = .ended

/-- A write that makes an ended child active again, which was admitted under the limit,
finds fewer active ones than the limit. -/
def ReopensWithin (parent : String) (limit : Int) (s : AdmissionState) : AdmissionLabel → Prop
  | .writeGoal i _ => ∀ update read, s.goalUpdates i = some (update, read) →
      ∀ child ∈ s.goals.get? read.id, child.active = false → child.parentGoalId = parent →
        (child.id, limit) ∈ s.admitted → (update.state read.state).phase ≠ .ended →
          (s.activeAdmitted parent limit : Int) < limit
  | _ => True

/-! ## Runs without a goal -/

/-- A call that has no goal has a Run of its own, which no goal and no update of a Run
names. -/
structure AdmissionState.Held (s : AdmissionState) : Prop where
  held : ∀ call runId, (s.calls call).runId? = some runId →
    (s.runs.get? runId).isSome ∧ ∀ row ∈ s.goals.rows, row.runId ≠ runId
  apart : ∀ call other runId, (s.calls call).runId? = some runId →
    (s.calls other).runId? = some runId → call = other
  reading : ∀ call runId error read, s.calls call = .compensated runId error read →
    read.id = runId
  ended : ∀ call runId, s.calls call = .refused runId →
    ∃ run, s.runs.get? runId = some run ∧ run.phase = .ended
  writers : ∀ i updates read, s.runUpdates i = some (updates, read) →
    ∃ row ∈ s.goals.rows, row.runId = read.id
  known : ∀ id limit, (id, limit) ∈ s.admitted → (s.goals.get? id).isSome

theorem admits_iff {s : AdmissionState} {parent : String} {limit : Int} (hs : s.Held) :
    s.Admits parent limit ↔ (s.activeAdmitted parent limit : Int) ≤ limit := by
  constructor
  · intro hadmits
    exact hadmits.within
  · intro hwithin
    refine ⟨hwithin, fun call runId hcall => ⟨?_, hs.ended call runId hcall⟩⟩
    exact (hs.held call runId (by rw [hcall]; rfl)).2

theorem get?_setRun {runs : Table String Run (·.id)} {read : Run} {updates : RunUpdates}
    {now : Time} (runId : String) : (setRun runs read updates now).get? runId
      = (runs.get? runId).map fun run =>
          if read.id = runId then mergeRunUpdates read updates now else run :=
  runs.get?_replace (mergeRunUpdates read updates now) runId

theorem setRun_isSome {runs : Table String Run (·.id)} {read : Run} {updates : RunUpdates}
    {now : Time} {runId : String} :
    ((setRun runs read updates now).get? runId).isSome = (runs.get? runId).isSome := by
  rw [get?_setRun, Option.isSome_map]

theorem setRun_of_ne {runs : Table String Run (·.id)} {read : Run} {updates : RunUpdates}
    {now : Time} {runId : String} (hne : read.id ≠ runId) :
    (setRun runs read updates now).get? runId = runs.get? runId := by
  rw [get?_setRun]
  simp only [hne, if_false, Option.map_id']

theorem become_held {s : AdmissionState} {call : Nat} {next : AdmissionCall} (hs : s.Held)
    (hrun : ∀ runId, next.runId? = some runId → (s.calls call).runId? = some runId)
    (hreading : ∀ runId error read, next = .compensated runId error read → read.id = runId)
    (hended : ∀ runId, next ≠ .refused runId) : (s.become call next).Held := by
  have hback : ∀ other runId, ((s.become call next).calls other).runId? = some runId →
      (s.calls other).runId? = some runId := by
    intro other runId hother
    by_cases hsame : other = call
    · subst hsame
      rw [AdmissionState.become_self] at hother
      exact hrun runId hother
    · rwa [AdmissionState.become_of_ne s next hsame] at hother
  refine ⟨fun other runId h => hs.held other runId (hback other runId h),
    fun a b runId ha hb => hs.apart a b runId (hback a runId ha) (hback b runId hb), ?_, ?_,
    hs.writers, hs.known⟩
  · intro other runId error read hother
    by_cases hsame : other = call
    · subst hsame
      rw [AdmissionState.become_self] at hother
      exact hreading runId error read hother
    · rw [AdmissionState.become_of_ne s next hsame] at hother
      exact hs.reading other runId error read hother
  · intro other runId hother
    by_cases hsame : other = call
    · subst hsame
      rw [AdmissionState.become_self] at hother
      exact absurd hother (hended runId)
    · rw [AdmissionState.become_of_ne s next hsame] at hother
      exact hs.ended other runId hother

theorem openGoal_held {s : AdmissionState} {call : Nat} {request : OpenRequest} {runId : String}
    {now : Time} (hs : s.Held) (hfresh : s.runs.get? runId = none)
    (hunused : ∀ row ∈ s.goals.rows, row.runId ≠ runId) :
    AdmissionState.Held { s.become call (.creating request runId) with
      runs := s.runs.insertOrIgnore (openedRun runId now) } := by
  have hkept : ∀ id run, s.runs.get? id = some run →
      (s.runs.insertOrIgnore (openedRun runId now)).get? id = some run :=
    fun _ _ h => Table.get?_insertOrIgnore_of_some _ h
  -- no call held the drawn id before
  have hnone : ∀ other, (s.calls other).runId? ≠ some runId := by
    intro other hother
    have hsome := (hs.held other runId hother).1
    rw [hfresh] at hsome
    cases hsome
  have hcases : ∀ other id,
      ((s.become call (.creating request runId)).calls other).runId? = some id →
      other = call ∧ id = runId ∨ other ≠ call ∧ (s.calls other).runId? = some id := by
    intro other id hother
    by_cases hsame : other = call
    · subst hsame
      rw [AdmissionState.become_self] at hother
      exact .inl ⟨rfl, (Option.some.inj hother).symm⟩
    · rw [AdmissionState.become_of_ne s _ hsame] at hother
      exact .inr ⟨hsame, hother⟩
  refine ⟨?_, ?_, ?_, ?_, hs.writers, hs.known⟩
  · intro other id hother
    rcases hcases other id hother with ⟨-, rfl⟩ | ⟨-, hheld⟩
    · refine ⟨?_, hunused⟩
      show ((s.runs.insertOrIgnore (openedRun id now)).get? id).isSome
      rw [Table.get?_insertOrIgnore, hfresh, Option.none_or,
        if_pos (show (openedRun id now).id = id from rfl)]
      rfl
    · obtain ⟨hsome, hrows⟩ := hs.held other id hheld
      obtain ⟨run, hrun⟩ := Option.isSome_iff_exists.mp hsome
      exact ⟨Option.isSome_iff_exists.mpr ⟨run, hkept id run hrun⟩, hrows⟩
  · intro a b id ha hb
    rcases hcases a id ha with ⟨rfl, rfl⟩ | ⟨-, haHeld⟩
    · rcases hcases b id hb with ⟨rfl, -⟩ | ⟨-, hbHeld⟩
      · rfl
      · exact absurd hbHeld (hnone b)
    · rcases hcases b id hb with ⟨-, rfl⟩ | ⟨-, hbHeld⟩
      · exact absurd haHeld (hnone a)
      · exact hs.apart a b id haHeld hbHeld
  · intro other id error read hother
    by_cases hsame : other = call
    · subst hsame
      rw [AdmissionState.become_self] at hother
      cases hother
    · rw [AdmissionState.become_of_ne s _ hsame] at hother
      exact hs.reading other id error read hother
  · intro other id hother
    by_cases hsame : other = call
    · subst hsame
      rw [AdmissionState.become_self] at hother
      cases hother
    · rw [AdmissionState.become_of_ne s _ hsame] at hother
      obtain ⟨run, hrun, hended⟩ := hs.ended other id hother
      exact ⟨run, hkept id run hrun, hended⟩

theorem insert_held {s : AdmissionState} {call : Nat} {request : OpenRequest} {runId id : String}
    {nextRunAt now : Time} {admitted : List (String × Int)} (hs : s.Held)
    (hcall : (s.calls call).runId? = some runId) (hfresh : s.goals.get? id = none)
    (hadmitted : ∀ known limit, (known, limit) ∈ admitted →
      known = id ∨ (known, limit) ∈ s.admitted) :
    AdmissionState.Held { s.become call .opened with
      goals := s.goals.insertOrIgnore (request.row id runId nextRunAt now)
      admitted := admitted } := by
  have hmem : ∀ row, row ∈ (s.goals.insertOrIgnore (request.row id runId nextRunAt now)).rows
      ↔ row ∈ s.goals.rows ∨ row = request.row id runId nextRunAt now :=
    fun _ => Table.mem_insertOrIgnore hfresh
  have hmoved : (s.become call .opened).Held := become_held hs
    (fun _ h => absurd h.symm (Option.some_ne_none _)) (fun _ _ _ h => AdmissionCall.noConfusion h)
    fun _ h => AdmissionCall.noConfusion h
  refine ⟨?_, hmoved.apart, hmoved.reading, hmoved.ended, ?_, ?_⟩
  · intro other held hother
    obtain ⟨hsome, hrows⟩ := hmoved.held other held hother
    refine ⟨hsome, fun row hrow => ?_⟩
    rcases (hmem row).mp hrow with hrow | rfl
    · exact hrows row hrow
    · -- the new goal has the Run of its call, which no other call holds
      intro hsame
      have hne : other ≠ call := by
        rintro rfl
        rw [show (AdmissionState.calls _ other) = (s.become other .opened).calls other from rfl,
          AdmissionState.become_self] at hother
        cases hother
      refine hne (hs.apart other call runId ?_ hcall)
      have hheld : (s.calls other).runId? = some held := by
        rw [← AdmissionState.become_of_ne s .opened hne]
        exact hother
      rw [hheld, ← hsame]
      rfl
  · intro i updates read hread
    obtain ⟨row, hrow, hrunId⟩ := hs.writers i updates read hread
    exact ⟨row, (hmem row).mpr (.inl hrow), hrunId⟩
  · intro known limit hknown
    show ((s.goals.insertOrIgnore (request.row id runId nextRunAt now)).get? known).isSome
    rw [Table.get?_insertOrIgnore]
    rcases hadmitted known limit hknown with rfl | hold
    · rw [hfresh, Option.none_or,
        if_pos (show (request.row known runId nextRunAt now).id = known from rfl)]
      rfl
    · obtain ⟨row, hrow⟩ := Option.isSome_iff_exists.mp (hs.known known limit hold)
      rw [hrow, Option.some_or]
      rfl

theorem writeGoal_held {s : AdmissionState} {i : Nat} {update : StateUpdate} {read : GoalRow}
    {now : Time} (hs : s.Held) :
    AdmissionState.Held { s with
      goals := writeState s.goals update read now
      goalUpdates := Function.update s.goalUpdates i none } := by
  refine ⟨?_, hs.apart, hs.reading, hs.ended, ?_, ?_⟩
  · intro call runId hcall
    obtain ⟨hsome, hrows⟩ := hs.held call runId hcall
    refine ⟨hsome, fun row' hrow' => ?_⟩
    obtain ⟨row, hrow, hsame⟩ := mem_writeState hrow'
    rw [hsame]
    exact hrows row hrow
  · intro j updates read hread
    obtain ⟨row, hrow, hrunId⟩ := hs.writers j updates read hread
    obtain ⟨row', hrow', hsame⟩ := mem_writeState_of_mem hrow
    exact ⟨row', hrow', hsame.trans hrunId⟩
  · intro id limit hknown
    exact writeState_isSome.trans (hs.known id limit hknown)

theorem writeRun_held {s : AdmissionState} {i : Nat} {updates : RunUpdates} {read : Run}
    {now : Time} (hs : s.Held) (hwriter : s.runUpdates i = some (updates, read)) :
    AdmissionState.Held { s with
      runs := setRun s.runs read updates now
      runUpdates := Function.update s.runUpdates i none } := by
  obtain ⟨row, hrow, hrowRun⟩ := hs.writers i updates read hwriter
  refine ⟨?_, hs.apart, hs.reading, ?_, ?_, hs.known⟩
  · intro call runId hcall
    obtain ⟨hsome, hrows⟩ := hs.held call runId hcall
    exact ⟨setRun_isSome.trans hsome, hrows⟩
  · intro call runId hcall
    obtain ⟨run, hrun, hended⟩ := hs.ended call runId hcall
    have hne : read.id ≠ runId := by
      rw [← hrowRun]
      exact (hs.held call runId (by rw [hcall]; rfl)).2 row hrow
    exact ⟨run, (setRun_of_ne hne).trans hrun, hended⟩
  · intro j updates' read' hread
    change Function.update s.runUpdates i none j = _ at hread
    by_cases hsame : j = i
    · subst hsame
      rw [Function.update_self] at hread
      cases hread
    · rw [Function.update_of_ne hsame] at hread
      exact hs.writers j updates' read' hread

theorem compensated_held {s : AdmissionState} {call : Nat} {runId error : String} {read : Run}
    {now : Time} (hs : s.Held) (hcall : s.calls call = .compensated runId error read) :
    AdmissionState.Held { s.become call (.refused runId) with
      runs := setRun s.runs read (failedOpening error) now } := by
  have hreadId : read.id = runId := hs.reading call runId error read hcall
  have hheldBy : (s.calls call).runId? = some runId := by rw [hcall]; rfl
  have hback : ∀ other held, ((s.become call (.refused runId)).calls other).runId? = some held →
      (s.calls other).runId? = some held := by
    intro other held hother
    by_cases hsame : other = call
    · subst hsame
      rw [AdmissionState.become_self] at hother
      rw [hheldBy]
      exact hother
    · rwa [AdmissionState.become_of_ne s _ hsame] at hother
  refine ⟨?_, fun a b held ha hb => hs.apart a b held (hback a held ha) (hback b held hb), ?_, ?_,
    hs.writers, hs.known⟩
  · intro other held hother
    obtain ⟨hsome, hrows⟩ := hs.held other held (hback other held hother)
    exact ⟨setRun_isSome.trans hsome, hrows⟩
  · intro other held error' read' hother
    by_cases hsame : other = call
    · subst hsame
      rw [AdmissionState.become_self] at hother
      cases hother
    · rw [AdmissionState.become_of_ne s _ hsame] at hother
      exact hs.reading other held error' read' hother
  · intro other held hother
    by_cases hsame : other = call
    · subst hsame
      rw [AdmissionState.become_self] at hother
      obtain rfl := AdmissionCall.refused.inj hother
      obtain ⟨run, hrun⟩ := Option.isSome_iff_exists.mp (hs.held other runId hheldBy).1
      refine ⟨mergeRunUpdates read (failedOpening error) now, ?_, rfl⟩
      show (setRun s.runs read (failedOpening error) now).get? runId = _
      rw [get?_setRun, hrun, Option.map_some, if_pos hreadId]
    · rw [AdmissionState.become_of_ne s _ hsame] at hother
      obtain ⟨run, hrun, hended⟩ := hs.ended other held hother
      have hne : read.id ≠ held := by
        rintro rfl
        rw [hreadId] at hother
        exact hsame (hs.apart other call runId (by rw [hother]; rfl) hheldBy)
      exact ⟨run, (setRun_of_ne hne).trans hrun, hended⟩

theorem admission_held {s s' : AdmissionState} {label : AdmissionLabel} (hs : s.Held)
    (h : admissionSystem.step s label = some s') : s'.Held := by
  cases label with
  | openGoal call request runId now =>
      simp only [admissionSystem] at h
      split at h
      next hidle hfresh =>
        split at h
        · cases h
        next hunused =>
          obtain rfl := Option.some.inj h
          refine openGoal_held hs hfresh fun row hrow hsame => hunused ?_
          exact List.any_eq_true.mpr ⟨row, hrow, decide_eq_true hsame⟩
      · cases h
  | advance call id nextRunAt now =>
      simp only [admissionSystem] at h
      split at h
      next request runId hcall =>
        obtain rfl := Option.some.inj h
        have hheld : (s.calls call).runId? = some runId := by rw [hcall]; rfl
        have hcompensates : ∀ error, (s.become call (.compensating runId error)).Held :=
          fun error => become_held hs (fun _ hrun => hrun ▸ hheld)
            (fun _ _ _ h => AdmissionCall.noConfusion h) fun _ h => AdmissionCall.noConfusion h
        unfold createChild
        split
        · exact hcompensates _
        · exact hcompensates _
        next nextRunAt hfresh =>
          split
          · exact hcompensates _
          · refine insert_held hs hheld hfresh fun known limit hknown => ?_
            split at hknown
            · rcases List.mem_cons.mp hknown with heq | hold
              · exact .inl (Prod.mk.inj heq).1
              · exact .inr hold
            · exact .inr hknown
      next runId error hcall =>
        obtain ⟨read, hread, rfl⟩ := Option.map_eq_some_iff.mp h
        refine become_held hs (fun _ hrun => ?_) ?_ fun _ h => AdmissionCall.noConfusion h
        · rw [hcall]
          exact hrun
        · intro runId' error' read' heq
          obtain ⟨rfl, -, rfl⟩ := AdmissionCall.compensated.inj heq
          exact (Table.get?_eq_some_iff.mp hread).2
      next runId error read hcall =>
        obtain rfl := Option.some.inj h
        exact compensated_held hs hcall
      · cases h
  | readGoal i id update =>
      obtain ⟨read, hread, rfl⟩ := Option.map_eq_some_iff.mp h
      exact ⟨hs.held, hs.apart, hs.reading, hs.ended, hs.writers, hs.known⟩
  | writeGoal i now =>
      obtain ⟨⟨update, read⟩, hread, rfl⟩ := Option.map_eq_some_iff.mp h
      exact writeGoal_held hs
  | readRun i runId updates =>
      simp only [admissionSystem] at h
      split at h
      next hused =>
        obtain ⟨read, hread, rfl⟩ := Option.map_eq_some_iff.mp h
        refine ⟨hs.held, hs.apart, hs.reading, hs.ended, ?_, hs.known⟩
        intro j updates' read' hwriter
        change Function.update s.runUpdates i (some (updates, read)) j = _ at hwriter
        by_cases hsame : j = i
        · subst hsame
          rw [Function.update_self] at hwriter
          obtain ⟨-, rfl⟩ := Prod.mk.inj (Option.some.inj hwriter)
          obtain ⟨row, hrow, hrunId⟩ := List.any_eq_true.mp hused
          refine ⟨row, hrow, ?_⟩
          rw [of_decide_eq_true hrunId, (Table.get?_eq_some_iff.mp hread).2]
        · rw [Function.update_of_ne hsame] at hwriter
          exact hs.writers j updates' read' hwriter
      · cases h
  | writeRun i now =>
      obtain ⟨⟨updates, read⟩, hwriter, rfl⟩ := Option.map_eq_some_iff.mp h
      exact writeRun_held hs hwriter

/-! ## Active children -/

/-- Whether an admitted goal is counted. -/
def countedChild (admitted : List (String × Int)) (parent : String) (limit : Int)
    (row : GoalRow) : Bool :=
  row.activeChildOf parent ∧ (row.id, limit) ∈ admitted

theorem activeAdmitted_eq {s : AdmissionState} {parent : String} {limit : Int} :
    s.activeAdmitted parent limit = s.goals.rowcount (countedChild s.admitted parent limit) := rfl

theorem insert_within {s : AdmissionState} {request : OpenRequest} {runId id : String}
    {nextRunAt now : Time} {parent : String} {limit : Int} (hs : s.Held)
    (hwithin : (s.activeAdmitted parent limit : Int) ≤ limit)
    (hfresh : s.goals.get? id = none) (hroomy : refuses s.goals request = false) :
    ((s.goals.insertOrIgnore (request.row id runId nextRunAt now)).rowcount
        (countedChild (if request.admits then (id, request.childActiveLimit) :: s.admitted
          else s.admitted) parent limit) : Int) ≤ limit := by
  have hunknown : ∀ limit, (id, limit) ∉ s.admitted := by
    intro limit hknown
    have hsome := hs.known id limit hknown
    rw [hfresh] at hsome
    cases hsome
  have hold : ∀ row ∈ s.goals.rows,
      countedChild (if request.admits then (id, request.childActiveLimit) :: s.admitted
        else s.admitted) parent limit row = countedChild s.admitted parent limit row := by
    intro row hrow
    have hne : row.id ≠ id := by
      rintro rfl
      rw [Table.get?_of_mem hrow] at hfresh
      cases hfresh
    unfold countedChild
    split
    · simp [hne]
    · rfl
  rw [Table.rowcount_insertOrIgnore (show s.goals.get?
    (request.row id runId nextRunAt now).id = none from hfresh), Table.rowcount_congr hold,
    ← activeAdmitted_eq]
  cases hcounted : countedChild (if request.admits then (id, request.childActiveLimit) :: s.admitted
      else s.admitted) parent limit (request.row id runId nextRunAt now) with
  | false => simpa using hwithin
  | true =>
      -- it is counted, so it was admitted under this limit for this parent
      obtain ⟨hchild, hmem⟩ := of_decide_eq_true hcounted
      have hparent : request.parentGoalId = parent := (of_decide_eq_true hchild).1
      have hadmits : request.admits = true ∧ limit = request.childActiveLimit := by
        split at hmem
        next hadmits =>
          rcases List.mem_cons.mp hmem with heq | hknown
          · exact ⟨hadmits, (Prod.mk.inj heq).2⟩
          · exact absurd hknown (hunknown limit)
        next => exact absurd hmem (hunknown limit)
      have hbelow : (s.goals.rowcount (·.activeChildOf parent) : Int) < limit := by
        by_contra hnot
        have hfull : refuses s.goals request = true :=
          decide_eq_true ⟨hadmits.1, by rw [hparent, ← hadmits.2]; omega⟩
        rw [hroomy] at hfull
        cases hfull
      have hsome : s.activeAdmitted parent limit ≤ s.goals.rowcount (·.activeChildOf parent) :=
        Table.rowcount_mono fun row _ h => (of_decide_eq_true h).1
      simp only [if_true]
      omega

theorem writeGoal_within_iff {s : AdmissionState} {i : Nat} {update : StateUpdate} {read : GoalRow}
    {now : Time} {parent : String} {limit : Int}
    (hwithin : (s.activeAdmitted parent limit : Int) ≤ limit)
    (hread : s.goalUpdates i = some (update, read)) :
    ((writeState s.goals update read now).rowcount (countedChild s.admitted parent limit) : Int)
        ≤ limit
      ↔ ReopensWithin parent limit s (.writeGoal i now) := by
  have hcond : ReopensWithin parent limit s (.writeGoal i now)
      ↔ ∀ child ∈ s.goals.get? read.id, child.active = false → child.parentGoalId = parent →
        (child.id, limit) ∈ s.admitted → (update.state read.state).phase ≠ .ended →
          (s.activeAdmitted parent limit : Int) < limit := by
    constructor
    · intro hopens
      exact hopens update read hread
    · intro hopens update' read' hread'
      obtain ⟨rfl, rfl⟩ := Prod.mk.inj (Option.some.inj (hread.symm.trans hread'))
      exact hopens
  rw [hcond]
  rw [activeAdmitted_eq] at hwithin ⊢
  cases hold : s.goals.get? read.id with
  | none =>
      rw [writeState, setGoal, Table.update_of_none hold]
      exact iff_of_true hwithin fun child hchild => absurd hchild (Option.not_mem_none child)
  | some old =>
      have hcount := @Table.rowcount_update _ _ (fun row : GoalRow => row.id) s.goals
        (countedChild s.admitted parent limit) _ read.id (updateState update read · now)
        (updateState_id update read · now) old hold
      have hbefore : countedChild s.admitted parent limit old = true
          ↔ (old.parentGoalId = parent ∧ old.active = true) ∧ (old.id, limit) ∈ s.admitted := by
        simp only [countedChild, GoalRow.activeChildOf, decide_eq_true_eq]
      have hafter : countedChild s.admitted parent limit (updateState update read old now) = true
          ↔ (old.parentGoalId = parent ∧ (update.state read.state).phase ≠ .ended)
            ∧ (old.id, limit) ∈ s.admitted := by
        simp only [countedChild, GoalRow.activeChildOf, decide_eq_true_eq, GoalRow.active,
          updateState_parentGoalId, updateState_id]
        rfl
      rw [writeState, setGoal]
      constructor
      · intro hkept child hchild hended hparent hadmitted hphase
        obtain rfl := Option.some.inj hchild
        have hnot : ¬ countedChild s.admitted parent limit old = true := by
          intro hcounted
          rw [(hbefore.mp hcounted).1.2] at hended
          cases hended
        rw [if_neg hnot, if_pos (hafter.mpr ⟨⟨hparent, hphase⟩, hadmitted⟩)] at hcount
        omega
      · intro hopens
        by_cases hcounted : countedChild s.admitted parent limit old = true
        · -- it was counted already
          rw [if_pos hcounted] at hcount
          split at hcount <;> omega
        · rw [if_neg hcounted] at hcount
          split at hcount
          next hnew =>
            obtain ⟨⟨hparent, hphase⟩, hadmitted⟩ := hafter.mp hnew
            have hended : old.active = false := by
              cases hactive : old.active with
              | false => rfl
              | true => exact absurd (hbefore.mpr ⟨⟨hparent, hactive⟩, hadmitted⟩) hcounted
            have hroom := hopens old rfl hended hparent hadmitted hphase
            omega
          next => omega

theorem admission_within_iff {s s' : AdmissionState} {label : AdmissionLabel} {parent : String}
    {limit : Int} (hs : s.Held) (hwithin : (s.activeAdmitted parent limit : Int) ≤ limit)
    (h : admissionSystem.step s label = some s') :
    (s'.activeAdmitted parent limit : Int) ≤ limit ↔ ReopensWithin parent limit s label := by
  cases label with
  | openGoal call request runId now =>
      simp only [admissionSystem] at h
      split at h
      · split at h
        · cases h
        · obtain rfl := Option.some.inj h
          exact iff_of_true hwithin trivial
      · cases h
  | advance call id nextRunAt now =>
      refine iff_of_true ?_ trivial
      simp only [admissionSystem] at h
      split at h
      next request runId hcall =>
        obtain rfl := Option.some.inj h
        unfold createChild
        split
        · exact hwithin
        · exact hwithin
        next nextRunAt hfresh =>
          split
          · exact hwithin
          next hroomy => exact insert_within hs hwithin hfresh (Bool.eq_false_iff.mpr hroomy)
      · obtain ⟨read, -, rfl⟩ := Option.map_eq_some_iff.mp h
        exact hwithin
      · obtain rfl := Option.some.inj h
        exact hwithin
      · cases h
  | readGoal i id update =>
      obtain ⟨read, -, rfl⟩ := Option.map_eq_some_iff.mp h
      exact iff_of_true hwithin trivial
  | writeGoal i now =>
      obtain ⟨⟨update, read⟩, hread, rfl⟩ := Option.map_eq_some_iff.mp h
      exact writeGoal_within_iff hwithin hread
  | readRun i runId updates =>
      simp only [admissionSystem] at h
      split at h
      · obtain ⟨read, -, rfl⟩ := Option.map_eq_some_iff.mp h
        exact iff_of_true hwithin trivial
      · cases h
  | writeRun i now =>
      obtain ⟨⟨updates, read⟩, -, rfl⟩ := Option.map_eq_some_iff.mp h
      exact iff_of_true hwithin trivial

/-- **Child admission holds under concurrency.** For every parent and every positive
limit, and in every run from any goals and Runs: no more children admitted under the
limit are active than the limit, and a refused creation leaves no goal row and no active
Run, in every state; if and only if every write that reopens such a child finds fewer
active ones than the limit. -/
theorem admission_holds_iff (parent : String) {limit : Int} (hlimit : 0 < limit) (goals : GoalRows)
    (runs : Table String Run (·.id)) (labels : List AdmissionLabel) :
    (∀ n s, admissionSystem.run (.start goals runs) (labels.take n) = some s →
        s.Admits parent limit)
      ↔ admissionSystem.Along (ReopensWithin parent limit) (.start goals runs) labels := by
  have hheld : (AdmissionState.start goals runs).Held := by
    refine ⟨?_, ?_, ?_, ?_, ?_, ?_⟩
    · intro call runId hcall
      cases hcall
    · intro call other runId hcall
      cases hcall
    · intro call runId error read hcall
      cases hcall
    · intro call runId hcall
      cases hcall
    · intro i updates read hread
      cases hread
    · intro id limit hknown
      cases hknown
  have hnone : (AdmissionState.start goals runs).activeAdmitted parent limit = 0 := by
    rw [activeAdmitted_eq, Table.rowcount_eq_countP, List.countP_eq_zero]
    intro row _ hcounted
    exact List.not_mem_nil (of_decide_eq_true hcounted).2
  refine admissionSystem.run_good_iff (fun _ _ _ hs h => admission_held hs h) ?_ ?_ hheld
    ((admits_iff hheld).mpr (by rw [hnone]; omega)) labels
  · intro s label s' hs hadmits h
    rw [admits_iff (admission_held hs h)]
    exact admission_within_iff hs hadmits.within h
  · intro s label hfails
    cases label with
    | writeGoal i now =>
        cases hread : s.goalUpdates i with
        | some pair => exact ⟨_, by simp only [admissionSystem, hread]; rfl⟩
        | none =>
            refine absurd (fun update read h => ?_) hfails
            rw [hread] at h
            cases h
    | _ => exact absurd trivial hfails

/-- A request for a child of one parent, at most one of which is to be active. -/
def onlyChild : OpenRequest :=
  { plainRequest .durableGoal "" with parentGoalId := "parent", childActiveLimit := 1 }

/-- A child is admitted and pauses; while it is active, a second one is refused. -/
def secondRefused : List AdmissionLabel :=
  [.openGoal 0 onlyChild "run" 0, .advance 0 "child" (.ok 0) 0,
    .readGoal 0 "child" ⟨some .paused, none, none, some .none, "paused", "", []⟩,
    .openGoal 1 onlyChild "other" 1, .writeGoal 0 1,
    .advance 1 "second" (.ok 0) 1, .advance 1 "" (.ok 0) 1, .advance 1 "" (.ok 0) 1]

/-- One child is active, and the second call's Run has ended. -/
theorem second_refused_admits :
    ∃ s, admissionSystem.run (.start .empty .empty) secondRefused = some s
      ∧ s.Admits "parent" 1 ∧ s.calls 1 = .refused "other" := by
  refine ⟨_, rfl, ?_, rfl⟩
  refine (admission_holds_iff "parent" (by decide) .empty .empty secondRefused).mpr ?_ 8 _ rfl
  refine System.along_cons_of_some _ trivial rfl ?_
  refine System.along_cons_of_some _ trivial rfl ?_
  refine System.along_cons_of_some _ trivial rfl ?_
  refine System.along_cons_of_some _ trivial rfl ?_
  refine System.along_cons_of_some _ ?_ rfl ?_
  · -- the child that is written to has not ended
    intro update read hread child hchild hended
    cases hread
    cases hchild
    cases hended
  refine System.along_cons_of_some _ trivial rfl ?_
  refine System.along_cons_of_some _ trivial rfl ?_
  exact System.along_cons_of_some _ trivial rfl trivial

/-- A child ends, another is admitted, and the first is made active again, as the
resumption of its loop does. -/
def reopenedChild : List AdmissionLabel :=
  [.openGoal 0 onlyChild "run" 0, .advance 0 "child" (.ok 0) 0,
    .readGoal 0 "child" ⟨some .ended, none, none, some .blocked, "blocked", "stopped", []⟩,
    .writeGoal 0 1, .openGoal 1 onlyChild "other" 2, .advance 1 "second" (.ok 0) 2,
    .readGoal 0 "child" ⟨some .running, none, none, some .none, "in_progress", "", []⟩,
    .writeGoal 0 3]

/-- Two children are active under a limit of one. -/
theorem reopened_child_exceeds :
    ¬ ∀ (parent : String) (limit : Int), 0 < limit → ∀ goals runs labels s,
      admissionSystem.run (.start goals runs) labels = some s → s.Admits parent limit := by
  intro hall
  obtain ⟨s, hs, hcount⟩ : ∃ s, admissionSystem.run (.start .empty .empty) reopenedChild = some s
      ∧ s.activeAdmitted "parent" 1 = 2 := ⟨_, rfl, by decide +kernel⟩
  have hwithin := (hall "parent" 1 (by decide) .empty .empty reopenedChild s hs).within
  rw [hcount] at hwithin
  omega

end Navi.Goals
