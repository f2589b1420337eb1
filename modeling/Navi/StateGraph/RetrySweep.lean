import Navi.StateGraph.Resume

/-!
# The retry sweep

Which due pauses `list_retryable_pauses` returns. Its query reads the oldest
`5 * limit` paused rows and only then drops those that are not due, so rows that wait
for a user or a delivery crowd the due ones out of the window.
-/

namespace Navi.StateGraph

open Navi.Base Navi.Loop

/-! ## One listing -/

/-- The paused rows, in the order of the query. -/
def pausedByAge (rows : List LoopRunState) : List LoopRunState :=
  (rows.filter fun row => row.terminalState = some .paused).insertionSort
    fun a b => a.updatedAt ≤ b.updatedAt

def duePauses (rows : List LoopRunState) (now : Time) : List LoopRunState :=
  rows.filter fun row => row.terminalState = some .paused ∧ retryDue now row

/-- The rows the query reads for nothing. -/
def idleRows (rows : List LoopRunState) (now : Time) (limit : Nat) : List LoopRunState :=
  ((pausedByAge rows).take (limit * 5)).filter fun row => !retryDue now row

/-- The query reads every paused row, or the idle ones among those it reads leave
room for the due ones. -/
def RoomForDue (rows : List LoopRunState) (now : Time) (limit : Nat) : Prop :=
  (pausedByAge rows).length ≤ limit * 5
    ∨ (idleRows rows now limit).length + min limit (duePauses rows now).length ≤ limit * 5

/-- The listing holds due pauses, and as many as it can. -/
def ServesDue (rows : List LoopRunState) (now : Time) (limit : Nat) : Prop :=
  List.Subperm (listRetryablePauses rows now limit) (duePauses rows now)
    ∧ (listRetryablePauses rows now limit).length = min limit (duePauses rows now).length

section

variable {rows : List LoopRunState} {now : Time} {limit : Nat}

theorem mem_duePauses {row : LoopRunState} :
    row ∈ duePauses rows now
      ↔ row ∈ rows ∧ row.terminalState = some .paused ∧ retryDue now row = true := by
  simp [duePauses]

theorem due_of_pausedByAge (rows : List LoopRunState) (now : Time) :
    ((pausedByAge rows).filter (retryDue now)).Perm (duePauses rows now) := by
  have hsort := (List.perm_insertionSort (fun a b : LoopRunState => a.updatedAt ≤ b.updatedAt)
    (rows.filter fun row => row.terminalState = some .paused)).filter (retryDue now)
  have hboth : duePauses rows now
      = (rows.filter fun row => row.terminalState = some .paused).filter (retryDue now) := by
    rw [List.filter_filter]
    refine List.filter_congr fun row _ => ?_
    simp [Bool.and_comm]
  rw [hboth]
  exact hsort

theorem listRetryablePauses_eq (hlimit : 1 ≤ limit) :
    listRetryablePauses rows now limit
      = (((pausedByAge rows).take (limit * 5)).filter (retryDue now)).take limit := by
  show (((pausedByAge rows).take (limit * 5)).filter (retryDue now)).take (max 1 limit) = _
  rw [Nat.max_eq_right hlimit]

theorem listed_isPrefix (hlimit : 1 ≤ limit) :
    listRetryablePauses rows now limit <+: (pausedByAge rows).filter (retryDue now) := by
  rw [listRetryablePauses_eq hlimit]
  exact (List.take_prefix _ _).trans ((List.take_prefix _ _).filter _)

theorem listed_older {row other : LoopRunState} (hlimit : 1 ≤ limit)
    (hdue : row ∈ duePauses rows now) (hout : row ∉ listRetryablePauses rows now limit)
    (hlisted : other ∈ listRetryablePauses rows now limit) : other.updatedAt ≤ row.updatedAt := by
  have hprefix : listRetryablePauses rows now limit <+: _ := listed_isPrefix hlimit
  obtain ⟨rest, hrest⟩ := hprefix
  have hsorted : (pausedByAge rows).Pairwise fun a b => a.updatedAt ≤ b.updatedAt :=
    List.pairwise_insertionSort _ _
  have hrow : row ∈ (pausedByAge rows).filter (retryDue now) :=
    (due_of_pausedByAge rows now).mem_iff.mpr hdue
  have hpairs := hsorted.filter (retryDue now)
  rw [← hrest] at hrow hpairs
  have hleft : row ∈ rest := (List.mem_append.mp hrow).resolve_left hout
  exact (List.pairwise_append.mp hpairs).2.2 other hlisted row hleft

theorem listed_subperm (hlimit : 1 ≤ limit) :
    List.Subperm (listRetryablePauses rows now limit) (duePauses rows now) := by
  exact (listed_isPrefix hlimit).sublist.subperm.trans (due_of_pausedByAge rows now).subperm

theorem window_length (rows : List LoopRunState) (now : Time) (limit : Nat) :
    (((pausedByAge rows).take (limit * 5)).filter (retryDue now)).length
      + (idleRows rows now limit).length = min (limit * 5) (pausedByAge rows).length := by
  rw [← List.length_take]
  exact (List.length_eq_length_filter_add _).symm

theorem servesDue_iff (hlimit : 1 ≤ limit) :
    ServesDue rows now limit ↔ RoomForDue rows now limit := by
  have hdue := (due_of_pausedByAge rows now).length_eq
  have hsplit := window_length rows now limit
  have hlisted : (listRetryablePauses rows now limit).length = min limit
      (((pausedByAge rows).take (limit * 5)).filter (retryDue now)).length := by
    rw [listRetryablePauses_eq hlimit, List.length_take]
  have hwindow : (((pausedByAge rows).take (limit * 5)).filter (retryDue now)).length
      ≤ (duePauses rows now).length := by
    rw [← hdue]
    exact ((List.take_sublist _ _).filter _).length_le
  constructor
  · rintro ⟨-, hlength⟩
    unfold RoomForDue
    omega
  · intro hroom
    refine ⟨listed_subperm hlimit, ?_⟩
    by_cases hall : (pausedByAge rows).length ≤ limit * 5
    · rw [hlisted, List.take_of_length_le hall, hdue]
    · have hidle := hroom.resolve_left hall
      omega

end

/-! ## Passes of the daemon -/

/-- The limit of the daemon's listing. -/
def retryListingLimit : Nat := 10

/-- One pass: its owner, when it lists, and when it claims each loop it listed. -/
structure RetryPass where
  owner : String
  listing : Time
  claiming : String → Time

def rowsOf (cells : List LoopCell) : List LoopRunState :=
  cells.map LoopCell.run

/-- The claims of a pass, on the cells of the loops it listed. -/
def claimCandidates (cells : List LoopCell) (candidates : List LoopRunState) (pass : RetryPass) :
    List LoopCell :=
  cells.map fun cell =>
    if candidates.any fun row => row.runId = cell.run.runId then
      (claimForExecution cell pass.owner defaultLeaseSeconds (pass.claiming cell.run.runId)
        true).getD cell
    else cell

/-- What other statements of the store do to the rows, from a time on: a row they
write is stamped with its time, the others stay. -/
def Stamped (since : Time) (rows rows' : List LoopRunState) : Prop :=
  ∀ row ∈ rows', row ∈ rows ∨ since ≤ row.updatedAt

/-- The passes of daemons over one store: each lists, and then claims, with other
statements of the store before its claims and after them. -/
structure DaemonRun where
  pass : Nat → RetryPass
  cells : Nat → List LoopCell
  claimed : Nat → List LoopCell
  keyed : ∀ n, ((rowsOf (cells n)).map LoopRunState.runId).Nodup
  before : ∀ n, Stamped (pass n).listing (rowsOf (cells n)) (rowsOf (claimed n))
  after : ∀ n, Stamped (pass n).listing
    (rowsOf (claimCandidates (claimed n)
      (listRetryablePauses (rowsOf (cells n)) (pass n).listing retryListingLimit) (pass n)))
    (rowsOf (cells (n + 1)))
  claims : ∀ n id, (pass n).listing ≤ (pass n).claiming id
  forward : ∀ n, (pass n).listing ≤ (pass (n + 1)).listing

namespace DaemonRun

variable (run : DaemonRun)

def listed (n : Nat) : List LoopRunState :=
  listRetryablePauses (rowsOf (run.cells n)) (run.pass n).listing retryListingLimit

/-- The rows once the pass has claimed. -/
def swept (n : Nat) : List LoopRunState :=
  rowsOf (claimCandidates (run.claimed n) (run.listed n) (run.pass n))

/-- The pass can serve every due pause: its window has room, and no paused loop is
under the lease of another driver. -/
def Serves (n : Nat) : Prop :=
  RoomForDue (rowsOf (run.cells n)) (run.pass n).listing retryListingLimit
    ∧ ∀ cell ∈ run.claimed n, cell.run.terminalState = some .paused →
        claimable cell.run (run.pass n).owner ((run.pass n).claiming cell.run.runId) = true

/-- The pass picks the loop of this row up, or another statement moved the row
before the pass could. -/
def PickedUp (row : LoopRunState) (n : Nat) : Prop :=
  row ∉ rowsOf (run.claimed n)
    ∨ ∃ claimed ∈ run.swept n, claimed.runId = row.runId ∧ claimed.leaseOwner = (run.pass n).owner

/-- The paused rows no younger than this one. -/
def elders (row : LoopRunState) (n : Nat) : List LoopRunState :=
  (rowsOf (run.cells n)).filter fun other =>
    other.terminalState = some .paused ∧ other.updatedAt ≤ row.updatedAt

end DaemonRun

section

variable {run : DaemonRun} {row other : LoopRunState} {n : Nat}

/-- A row that is older than a pass, and there when the next one lists, was there
when this one claimed, and was not claimed. -/
theorem stays_of_older (hold : row.updatedAt < (run.pass n).listing)
    (hother : other.updatedAt ≤ row.updatedAt) (hnext : other ∈ rowsOf (run.cells (n + 1))) :
    ∃ cell ∈ run.claimed n, cell.run = other ∧
      (other ∈ run.listed n →
        claimForExecution cell (run.pass n).owner defaultLeaseSeconds
          ((run.pass n).claiming cell.run.runId) true = none) := by
  have hyounger : ∀ time, (run.pass n).listing ≤ time → ¬ time ≤ row.updatedAt := fun time htime =>
    not_le.mpr (lt_of_lt_of_le hold htime)
  have hswept : other ∈ run.swept n :=
    (run.after n other hnext).resolve_right fun h => hyounger _ h hother
  obtain ⟨after, hafter, rfl⟩ := List.mem_map.mp hswept
  obtain ⟨cell, hcell, rfl⟩ := List.mem_map.mp hafter
  split at hother
  next hcandidate =>
    cases hclaim : claimForExecution cell (run.pass n).owner defaultLeaseSeconds
        ((run.pass n).claiming cell.run.runId) true with
    | none =>
        refine ⟨cell, hcell, ?_, fun _ => hclaim⟩
        simp [hcandidate]
    | some claimed =>
        rw [hclaim] at hother
        obtain ⟨-, rfl⟩ := claimForExecution_eq_some.mp hclaim
        exact absurd hother (hyounger _ (run.claims n _))
  next hcandidate =>
    refine ⟨cell, hcell, by rw [if_neg hcandidate], fun hlisted => ?_⟩
    rw [if_neg hcandidate] at hlisted
    exact absurd (List.any_eq_true.mpr ⟨_, hlisted, decide_eq_true rfl⟩) hcandidate

theorem elders_subset (hold : row.updatedAt < (run.pass n).listing) :
    run.elders row (n + 1) ⊆ run.elders row n := by
  intro other hmem
  obtain ⟨hnext, hkept⟩ := List.mem_filter.mp hmem
  obtain ⟨hpaused, hage⟩ := of_decide_eq_true hkept
  obtain ⟨cell, hcell, rfl, -⟩ := stays_of_older hold hage hnext
  have hbefore := (run.before n _ (List.mem_map_of_mem hcell)).resolve_right fun h =>
    not_le.mpr (lt_of_lt_of_le hold h) hage
  exact List.mem_filter.mpr ⟨hbefore, hkept⟩

theorem elders_decrease (hserves : run.Serves n) (hold : row.updatedAt < (run.pass n).listing)
    (hdue : row ∈ duePauses (rowsOf (run.cells n)) (run.pass n).listing)
    (hleft : ¬ run.PickedUp row n) :
    (run.elders row (n + 1)).length < (run.elders row n).length := by
  obtain ⟨hroom, hleases⟩ := hserves
  obtain ⟨hstays, hunclaimed⟩ := not_or.mp hleft
  have hlimit : 1 ≤ retryListingLimit := by decide
  obtain ⟨hsub, hlength⟩ := (servesDue_iff hlimit).mpr hroom
  have hclaims : ∀ cell ∈ run.claimed n, cell.run ∈ run.listed n →
      ∃ after, claimForExecution cell (run.pass n).owner defaultLeaseSeconds
        ((run.pass n).claiming cell.run.runId) true = some after := by
    intro cell hcell hlisted
    have hpaused := (listRetryablePauses_spec hlisted).2.1
    exact ⟨_, claimForExecution_eq_some.mpr
      ⟨⟨decide_eq_true (.inr ⟨rfl, hpaused⟩), hleases cell hcell hpaused⟩, rfl⟩⟩
  -- the loop is not among those listed, or its claim would have picked it up
  have hout : row ∉ run.listed n := by
    intro hlisted
    obtain ⟨cell, hcell, rfl⟩ := List.mem_map.mp (not_not.mp hstays)
    obtain ⟨after, hafter⟩ := hclaims cell hcell hlisted
    have hcandidate : (run.listed n).any (fun row => row.runId = cell.run.runId) = true :=
      List.any_eq_true.mpr ⟨_, hlisted, decide_eq_true rfl⟩
    refine hunclaimed ⟨after.run, List.mem_map.mpr ⟨after, List.mem_map.mpr ⟨cell, hcell, ?_⟩, rfl⟩,
      ?_, ?_⟩
    · rw [if_pos hcandidate, hafter]
      rfl
    · obtain ⟨-, rfl⟩ := claimForExecution_eq_some.mp hafter
      rfl
    · obtain ⟨-, rfl⟩ := claimForExecution_eq_some.mp hafter
      rfl
  -- so the listing is full
  have hfull : (run.listed n).length = retryListingLimit := by
    rcases Nat.le_total (duePauses (rowsOf (run.cells n)) (run.pass n).listing).length
      retryListingLimit with hfew | hmany
    · rw [Nat.min_eq_right hfew] at hlength
      exact absurd ((hsub.perm_of_length_le hlength.ge).mem_iff.mpr hdue) hout
    · rw [Nat.min_eq_left hmany] at hlength
      exact hlength
  obtain ⟨elder, helder⟩ : ∃ elder, elder ∈ run.listed n :=
    List.exists_mem_of_length_pos (by rw [hfull]; decide)
  have hage : elder.updatedAt ≤ row.updatedAt := listed_older hlimit hdue hout helder
  obtain ⟨hrow, hpaused, -⟩ := listRetryablePauses_spec helder
  have hin : elder ∈ run.elders row n :=
    List.mem_filter.mpr ⟨hrow, decide_eq_true ⟨hpaused, hage⟩⟩
  have hgone : elder ∉ run.elders row (n + 1) := by
    intro hmem
    obtain ⟨cell, hcell, rfl, hnone⟩ := stays_of_older hold hage (List.mem_filter.mp hmem).1
    obtain ⟨after, hafter⟩ := hclaims cell hcell helder
    rw [hnone helder] at hafter
    cases hafter
  have hnodup : (elder :: run.elders row (n + 1)).Nodup :=
    List.nodup_cons.mpr ⟨hgone, ((run.keyed (n + 1)).of_map _).filter _⟩
  have hsubset : elder :: run.elders row (n + 1) ⊆ run.elders row n :=
    List.cons_subset.mpr ⟨hin, elders_subset hold⟩
  exact (hnodup.subperm hsubset).length_le

theorem due_later (hdue : row ∈ duePauses (rowsOf (run.cells n)) (run.pass n).listing)
    (hrow : row ∈ rowsOf (run.cells (n + 1))) :
    row ∈ duePauses (rowsOf (run.cells (n + 1))) (run.pass (n + 1)).listing := by
  obtain ⟨-, hpaused, hretry⟩ := mem_duePauses.mp hdue
  refine mem_duePauses.mpr ⟨hrow, hpaused, ?_⟩
  unfold retryDue at hretry ⊢
  split at hretry
  next delay hdelay =>
    exact decide_eq_true ((of_decide_eq_true hretry).trans (run.forward n))
  next => cases hretry

/-- Passes that serve the due pauses reach each of them, after as many passes as it
has elders at most. -/
theorem pickedUp_of_serves (hserves : ∀ n, run.Serves n) :
    ∀ (count n : Nat), (run.elders row n).length ≤ count →
      row.updatedAt < (run.pass n).listing →
      row ∈ duePauses (rowsOf (run.cells n)) (run.pass n).listing →
      ∃ m ≤ count, run.PickedUp row (n + m) := by
  intro count
  induction count with
  | zero =>
      intro n hcount hold hdue
      obtain ⟨hrow, hpaused, -⟩ := mem_duePauses.mp hdue
      have helder : row ∈ run.elders row n :=
        List.mem_filter.mpr ⟨hrow, decide_eq_true ⟨hpaused, le_refl _⟩⟩
      have hpos := List.length_pos_of_mem helder
      omega
  | succ count ih =>
      intro n hcount hold hdue
      by_cases hpicked : run.PickedUp row n
      · exact ⟨0, Nat.zero_le _, hpicked⟩
      · have hold' := lt_of_lt_of_le hold (run.forward n)
        by_cases hrow : row ∈ rowsOf (run.cells (n + 1))
        · have hless := elders_decrease (hserves n) hold hdue hpicked
          obtain ⟨m, hm, hlater⟩ := ih (n + 1) (by omega) hold' (due_later hdue hrow)
          exact ⟨m + 1, by omega, by rwa [show n + (m + 1) = n + 1 + m by omega]⟩
        · -- another statement moved the row before the next pass listed it
          refine ⟨1, by omega, .inl fun hclaimed => hrow ?_⟩
          exact (run.before (n + 1) row hclaimed).resolve_right (not_le.mpr hold')

end

/-- A listing serves the due pauses exactly when its window has room for them, and
daemons whose passes all can serve them pick each of them up. -/
theorem due_pauses_served_iff (rows : List LoopRunState) (now : Time) {limit : Nat}
    (hlimit : 1 ≤ limit) :
    (ServesDue rows now limit ↔ RoomForDue rows now limit)
    ∧ ∀ (run : DaemonRun) (row : LoopRunState), (∀ n, run.Serves n) →
        row ∈ duePauses (rowsOf (run.cells 0)) (run.pass 0).listing →
        row.updatedAt < (run.pass 0).listing →
        ∃ n ≤ (run.elders row 0).length, run.PickedUp row n := by
  refine ⟨servesDue_iff hlimit, ?_⟩
  intro run row hserves hdue hold
  obtain ⟨n, hn, hpicked⟩ := pickedUp_of_serves hserves _ 0 (le_refl _) hold hdue
  rw [Nat.zero_add] at hpicked
  exact ⟨n, hn, hpicked⟩

/-! ## A loop that is served, and one that starves -/

/-- A background loop that waits for the receipt of its delivery. -/
def awaitingReceipt (index : Nat) : LoopRunState where
  runId := "loop:" ++ toString index
  goalId := "goal:" ++ toString index
  node := .pause
  terminalState := some .paused
  checkpointId := ""
  attempt := 1
  evidence := [("execution_mode", .str "background"), ("action", .str "connector_outbound")]
  updatedAt := index
  version := 1
  leaseOwner := ""
  leaseExpiresAt := 0

/-- A loop whose retry pause is due at once. -/
def retryPaused : LoopRunState :=
  { awaitingReceipt 50 with
    evidence := [("retry_gate", .obj [("decision", .str "pause"), ("resume_node", .str "plan")])] }

theorem retryDue_retryPaused {now : Time} (hnow : 50 ≤ now) : retryDue now retryPaused = true := by
  have hdelay : retryDelay retryPaused = some 0 := by rfl
  have hupdated : retryPaused.updatedAt = 50 := by rfl
  simp [retryDue, hdelay, hupdated, hnow]

/-- The same loop once it has been resumed. -/
def resumedRow : LoopRunState :=
  { retryPaused with terminalState := none, updatedAt := 60 }

/-- A loop that waits, and one that is due until its owner has resumed it. -/
def servingCells (n : Nat) : List LoopCell :=
  [⟨[], awaitingReceipt 0, []⟩, ⟨[], if n = 0 then retryPaused else resumedRow, []⟩]

theorem retryDue_awaitingReceipt (now : Time) (index : Nat) :
    retryDue now (awaitingReceipt index) = false := by
  have hdelay : retryDelay (awaitingReceipt index) = none := by rfl
  simp [retryDue, hdelay]

theorem listed_servingCells {n : Nat} {now : Time} {row : LoopRunState}
    (h : row ∈ listRetryablePauses (rowsOf (servingCells n)) now retryListingLimit) :
    n = 0 ∧ row = retryPaused := by
  obtain ⟨hrow, hpaused, hdue⟩ := listRetryablePauses_spec h
  simp only [rowsOf, servingCells, List.map_cons, List.map_nil, List.mem_cons, List.not_mem_nil,
    or_false] at hrow
  rcases hrow with rfl | rfl
  · rw [retryDue_awaitingReceipt] at hdue
    cases hdue
  · cases n with
    | zero => exact ⟨rfl, rfl⟩
    | succ n => cases hpaused

theorem mem_claimCandidates {cells : List LoopCell} {candidates : List LoopRunState}
    {cell : LoopCell} (pass : RetryPass) (hcell : cell ∈ cells)
    (hother : ∀ row ∈ candidates, row.runId ≠ cell.run.runId) :
    cell ∈ claimCandidates cells candidates pass :=
  List.mem_map.mpr ⟨cell, hcell, if_neg (by simpa using hother)⟩

/-- Two loops, of which the first pass claims the due one, whose owner then resumes it. -/
def servingRun : DaemonRun where
  pass n := ⟨"daemon", 60 + 5 * n, fun _ => 60 + 5 * n⟩
  cells := servingCells
  claimed := servingCells
  keyed n := by
    have hids : (rowsOf (servingCells n)).map LoopRunState.runId = ["loop:0", "loop:50"] := by
      cases n <;> rfl
    rw [hids]
    decide
  before _ _ hrow := .inl hrow
  after n row hrow := by
    have hstays : ∀ cell ∈ servingCells n,
        (∀ row, n = 0 ∧ row = retryPaused → row.runId ≠ cell.run.runId) →
        cell.run ∈ rowsOf (claimCandidates (servingCells n)
          (listRetryablePauses (rowsOf (servingCells n)) (60 + 5 * n) retryListingLimit)
          ⟨"daemon", 60 + 5 * n, fun _ => 60 + 5 * n⟩) := fun cell hcell hother =>
      List.mem_map_of_mem (mem_claimCandidates _ hcell fun row hlisted =>
        hother row (listed_servingCells hlisted))
    obtain ⟨cell, hcell, rfl⟩ := List.mem_map.mp hrow
    simp only [servingCells, List.mem_cons, List.not_mem_nil, or_false] at hcell
    rcases hcell with rfl | rfl
    · refine .inl (hstays ⟨[], awaitingReceipt 0, []⟩ List.mem_cons_self ?_)
      rintro row ⟨-, rfl⟩
      decide +kernel
    · cases n with
      | zero => exact .inr (by simp [resumedRow])
      | succ n =>
          refine .inl (hstays ⟨[], resumedRow, []⟩ (by simp [servingCells]) ?_)
          rintro row ⟨hzero, -⟩
          cases hzero
  claims _ _ := le_refl _
  forward n := by
    push_cast
    linarith

theorem pausedByAge_length_le (rows : List LoopRunState) :
    (pausedByAge rows).length ≤ rows.length := by
  unfold pausedByAge
  rw [List.length_insertionSort]
  exact List.length_filter_le _ _

theorem servingRun_serves (n : Nat) : servingRun.Serves n := by
  have htwo : (rowsOf (servingRun.cells n)).length = 2 := rfl
  refine ⟨.inl ((pausedByAge_length_le _).trans (by rw [htwo]; decide)), fun cell hcell _ => ?_⟩
  have hmem : cell ∈ servingCells n := hcell
  simp only [servingCells, List.mem_cons, List.not_mem_nil, or_false] at hmem
  rcases hmem with rfl | rfl
  · rfl
  · cases n <;> rfl

/-- A listing of the two serves the due one, and the daemon picks it up. -/
theorem due_pause_served :
    ServesDue [awaitingReceipt 0, retryPaused] 60 1
      ∧ ∃ n, servingRun.PickedUp retryPaused n := by
  have hdue : retryPaused ∈ duePauses [awaitingReceipt 0, retryPaused] 60 :=
    mem_duePauses.mpr ⟨by simp, rfl, retryDue_retryPaused (by norm_num)⟩
  have hage : retryPaused.updatedAt < 60 := by norm_num [retryPaused, awaitingReceipt]
  have hlisting : (servingRun.pass 0).listing = 60 := by simp [servingRun]
  obtain ⟨hserves, hpicks⟩ := due_pauses_served_iff [awaitingReceipt 0, retryPaused] 60 (le_refl 1)
  obtain ⟨n, -, hpicked⟩ := hpicks servingRun retryPaused servingRun_serves
    (by rw [hlisting]; exact hdue) (by rw [hlisting]; exact hage)
  exact ⟨hserves.mpr (.inl ((pausedByAge_length_le _).trans (by decide))), n, hpicked⟩

/-- Fifty loops that wait, and a younger one that is due. -/
def crowdedRows : List LoopRunState :=
  (List.range 50).map awaitingReceipt ++ [retryPaused]

def crowdedCells : List LoopCell :=
  crowdedRows.map fun row => ⟨[], row, []⟩

theorem rowsOf_crowdedCells : rowsOf crowdedCells = crowdedRows := by
  simp [rowsOf, crowdedCells, Function.comp_def]

theorem pausedByAge_crowdedRows : pausedByAge crowdedRows = crowdedRows := by
  have hpaused : (crowdedRows.filter fun row => row.terminalState = some .paused)
      = crowdedRows := by
    refine List.filter_eq_self.mpr fun row hrow => ?_
    rcases List.mem_append.mp hrow with hwaits | hdue
    · obtain ⟨index, -, rfl⟩ := List.mem_map.mp hwaits
      rfl
    · obtain rfl := List.mem_singleton.mp hdue
      rfl
  have hsorted : crowdedRows.Pairwise fun a b => a.updatedAt ≤ b.updatedAt := by
    refine List.pairwise_append.mpr ⟨?_, List.pairwise_singleton _ _, ?_⟩
    · refine List.pairwise_map.mpr (List.pairwise_le_range.imp fun hle => ?_)
      exact Nat.cast_le.mpr hle
    · intro row hwaits other hdue
      obtain ⟨index, hindex, rfl⟩ := List.mem_map.mp hwaits
      obtain rfl := List.mem_singleton.mp hdue
      exact Nat.cast_le.mpr (List.mem_range.mp hindex).le
  unfold pausedByAge
  rw [hpaused]
  exact hsorted.insertionSort_eq

theorem listed_crowdedRows (now : Time) :
    listRetryablePauses crowdedRows now retryListingLimit = [] := by
  rw [listRetryablePauses_eq (by decide), pausedByAge_crowdedRows]
  have hwindow : crowdedRows.take (retryListingLimit * 5)
      = (List.range 50).map awaitingReceipt := by
    unfold crowdedRows
    rw [List.take_append_of_le_length (by simp [retryListingLimit])]
    exact List.take_of_length_le (by simp [retryListingLimit])
  have hidle : ((List.range 50).map awaitingReceipt).filter (retryDue now) = [] := by
    refine List.filter_eq_nil_iff.mpr fun row hrow => ?_
    obtain ⟨index, -, rfl⟩ := List.mem_map.mp hrow
    simp [retryDue_awaitingReceipt]
  rw [hwindow, hidle]
  rfl

theorem claimCandidates_nil (cells : List LoopCell) (pass : RetryPass) :
    claimCandidates cells [] pass = cells := by
  simp [claimCandidates]

/-- The daemon passes every five seconds, and nothing else happens. -/
def crowdedRun : DaemonRun where
  pass n := ⟨"daemon", 60 + 5 * n, fun _ => 60 + 5 * n⟩
  cells _ := crowdedCells
  claimed _ := crowdedCells
  keyed _ := by
    rw [rowsOf_crowdedCells]
    decide +kernel
  before _ _ hrow := .inl hrow
  after n row hrow := by
    rw [rowsOf_crowdedCells, listed_crowdedRows, claimCandidates_nil]
    exact .inl hrow
  claims _ _ := le_refl _
  forward n := by
    push_cast
    linarith

/-- The due loop is never listed: the window is full of older pauses, which no pass
moves. -/
theorem due_pause_starves :
    ¬ ServesDue crowdedRows 60 retryListingLimit
      ∧ ∀ n, retryPaused ∈ duePauses (rowsOf (crowdedRun.cells n)) (crowdedRun.pass n).listing
        ∧ ¬ crowdedRun.PickedUp retryPaused n := by
  have hmem : retryPaused ∈ crowdedRows := List.mem_append_right _ (List.mem_singleton.mpr rfl)
  have hdue : ∀ now : Time, 50 ≤ now → retryPaused ∈ duePauses crowdedRows now := fun now hnow =>
    mem_duePauses.mpr ⟨hmem, rfl, retryDue_retryPaused hnow⟩
  constructor
  · rintro ⟨-, hlength⟩
    have hpos := List.length_pos_of_mem (hdue 60 (by norm_num))
    rw [listed_crowdedRows, List.length_nil] at hlength
    have hlimit : 0 < retryListingLimit := by decide
    omega
  · intro n
    have hcells : rowsOf (crowdedRun.cells n) = crowdedRows := rowsOf_crowdedCells
    have hlisted : crowdedRun.listed n = [] := by
      unfold DaemonRun.listed
      rw [hcells]
      exact listed_crowdedRows _
    have hswept : crowdedRun.swept n = crowdedRows := by
      unfold DaemonRun.swept
      rw [hlisted, claimCandidates_nil]
      exact rowsOf_crowdedCells
    constructor
    · rw [hcells]
      refine hdue _ ?_
      show (50 : Time) ≤ 60 + 5 * (n : Time)
      have hn : (0 : Time) ≤ n := Nat.cast_nonneg n
      linarith
    · rintro (hmoved | ⟨claimed, hclaimed, -, howner⟩)
      · refine hmoved ?_
        rw [show rowsOf (crowdedRun.claimed n) = crowdedRows from rowsOf_crowdedCells]
        exact hmem
      · rw [hswept] at hclaimed
        have hfree : ∀ row ∈ crowdedRows, row.leaseOwner = "" := by decide +kernel
        rw [hfree claimed hclaimed] at howner
        exact absurd howner (show "" ≠ "daemon" by decide)

end Navi.StateGraph
