import Mathlib
import Navi.Base.Dict
import Navi.Base.Index
import Navi.Base.System

/-!
# The replay buffer

Experiences are stored until there are more than the buffer holds. Then those of least priority
are evicted, then the oldest hard negatives, and golden ones never.
-/

namespace Navi.Trace

open Navi.Base

/-- `ExperienceReplayEntry`. -/
structure ExperienceReplayEntry where
  id : String
  traceId : String
  channel : String
  prompt : String
  response : String
  reward : Rat
  priority : Rat
  safeguardTriggered : Bool
  metadata : Dict
  createdAt : Rat

namespace ExperienceReplayEntry

def golden (entry : ExperienceReplayEntry) : Bool := 8 / 10 ≤ entry.reward

def hardNegative (entry : ExperienceReplayEntry) : Bool := entry.reward ≤ -8 / 10

/-- `reward < 0.8 AND reward > -0.8`. -/
def unprotected (entry : ExperienceReplayEntry) : Bool :=
  entry.reward < 8 / 10 && -8 / 10 < entry.reward

end ExperienceReplayEntry

/-- `experience_replay_buffer`. -/
abbrev ReplayBuffer := Table String ExperienceReplayEntry (·.id)

/-- The orders of the queries, and `compute_replay_priority` of a reward. -/
structure ReplayEngine where
  replayPriority : Rat → Rat
  byPriority : List ExperienceReplayEntry → List ExperienceReplayEntry
  byPriority_perm : ∀ entries, (byPriority entries).Perm entries
  byPriority_sorted : ∀ entries, (byPriority entries).Pairwise fun a b =>
    a.priority < b.priority ∨ a.priority = b.priority ∧ a.createdAt ≤ b.createdAt
  byAge : List ExperienceReplayEntry → List ExperienceReplayEntry
  byAge_perm : ∀ entries, (byAge entries).Perm entries
  byAge_sorted : ∀ entries, (byAge entries).Pairwise fun a b => a.createdAt ≤ b.createdAt

/-! ## The calls -/

/-- The arguments of `record_experience`. -/
structure Experience where
  traceId : String
  channel : String
  prompt : String
  response : String
  reward : Rat
  priority : Option Rat
  safeguardTriggered : Bool
  metadata : Dict

/-- What `ingest_from_trace` works out of a trace that has events. -/
structure IngestedTrace where
  traceId : String
  outcome : String
  failureDomain : String
  eventCount : Nat
  evidence : Dict
  channel : String
  prompt : String
  response : String
  reward : Rat
  safeguardTriggered : Bool

def Experience.entry (engine : ReplayEngine) (experience : Experience) (id : String) (now : Rat) :
    ExperienceReplayEntry where
  id := id
  traceId := experience.traceId
  channel := if strip experience.channel = "" then "unknown" else strip experience.channel
  prompt := experience.prompt
  response := experience.response
  reward := experience.reward
  priority := experience.priority.getD (engine.replayPriority experience.reward)
  safeguardTriggered := experience.safeguardTriggered
  metadata := experience.metadata
  createdAt := now

/-- The experience of a trace that has no entry. -/
def IngestedTrace.experience (trace : IngestedTrace) : Experience where
  traceId := trace.traceId
  channel := trace.channel
  prompt := trace.prompt
  response := trace.response
  reward := trace.reward
  priority := none
  safeguardTriggered := trace.safeguardTriggered
  metadata := [("outcome", .str trace.outcome), ("failure_domain", .str trace.failureDomain),
    ("event_count", .int trace.eventCount), ("evidence", .obj trace.evidence)]

/-- The entry of a trace that has one. -/
def IngestedTrace.update (engine : ReplayEngine) (trace : IngestedTrace)
    (existing : ExperienceReplayEntry) : ExperienceReplayEntry :=
  { existing with
    reward := trace.reward
    priority := engine.replayPriority trace.reward
    safeguardTriggered := trace.safeguardTriggered
    metadata :=
      let metadata := Dict.put (Dict.put (Dict.put existing.metadata "outcome" (.str trace.outcome))
        "failure_domain" (.str trace.failureDomain)) "evidence" (.obj trace.evidence)
      match Dict.get trace.evidence "llm_judge" with
      | some judge => Dict.put metadata "llm_judge" judge
      | none => metadata }

/-- `get_by_trace`. -/
def ReplayBuffer.getByTrace (engine : ReplayEngine) (s : ReplayBuffer) (traceId : String) :
    Option ExperienceReplayEntry :=
  (engine.byAge (s.rows.filter fun entry => entry.traceId = traceId)).getLast?

/-- The unprotected entries that are deleted. -/
def ReplayBuffer.leastPriority (engine : ReplayEngine) (s : ReplayBuffer) (excess : Nat) :
    List ExperienceReplayEntry :=
  (engine.byPriority (s.rows.filter (·.unprotected))).take excess

/-- The entries that are deleted where there are too few unprotected ones. -/
def ReplayBuffer.oldest (engine : ReplayEngine) (s : ReplayBuffer) (excess : Nat) :
    List ExperienceReplayEntry :=
  (engine.byAge (s.rows.filter (·.reward < 8 / 10))).take excess

/-- `prune_buffer`. -/
def ReplayBuffer.prune (engine : ReplayEngine) (capacity : Nat) (s : ReplayBuffer) :
    ReplayBuffer :=
  let excess := s.rows.length - capacity
  if excess = 0 then s
  else
    let selected := s.leastPriority engine excess
    let left := s.deleteSelected selected
    if selected.length < excess then
      left.deleteSelected (ReplayBuffer.oldest engine left (excess - selected.length))
    else left

inductive ReplayCall where
  | recordExperience (experience : Experience) (id : String) (now : Rat)
  | ingestFromTrace (trace : IngestedTrace) (id : String) (now : Rat)
  | updatePriority (id : String) (priority : Rat)

def ReplayCall.inserts (engine : ReplayEngine) (s : ReplayBuffer) :
    ReplayCall → Option ExperienceReplayEntry
  | .recordExperience experience id now => some (experience.entry engine id now)
  | .ingestFromTrace trace id now =>
      match ReplayBuffer.getByTrace engine s trace.traceId with
      | some _ => none
      | none => some (trace.experience.entry engine id now)
  | .updatePriority _ _ => none

/-- What a call that inserts nothing writes into an entry. -/
def ReplayCall.sets (engine : ReplayEngine) (s : ReplayBuffer) (call : ReplayCall)
    (entry : ExperienceReplayEntry) : ExperienceReplayEntry :=
  match call with
  | .recordExperience _ _ _ => entry
  | .ingestFromTrace trace _ _ =>
      match ReplayBuffer.getByTrace engine s trace.traceId with
      | some existing => if entry.id = existing.id then trace.update engine entry else entry
      | none => entry
  | .updatePriority id priority =>
      if entry.id = id then { entry with priority := max (1 / 1000000) priority } else entry

theorem ReplayCall.sets_id (engine : ReplayEngine) (s : ReplayBuffer) (call : ReplayCall)
    (entry : ExperienceReplayEntry) : (call.sets engine s entry).id = entry.id := by
  cases call with
  | recordExperience => rfl
  | ingestFromTrace trace id now =>
      unfold ReplayCall.sets
      dsimp only
      split
      · split <;> rfl
      · rfl
  | updatePriority id priority =>
      unfold ReplayCall.sets
      dsimp only
      split <;> rfl

/-- The buffer before it is pruned. A new id is not one that is taken. -/
def ReplayBuffer.write (engine : ReplayEngine) (s : ReplayBuffer) (call : ReplayCall) :
    Option ReplayBuffer :=
  match call.inserts engine s with
  | some entry =>
      match s.get? entry.id with
      | some _ => none
      | none => some (s.insertOrIgnore entry)
  | none => some (s.update (fun _ => true) (call.sets engine s) (call.sets_id engine s))

def replaySystem (engine : ReplayEngine) (capacity : Nat) : System ReplayBuffer ReplayCall where
  step s call := (s.write engine call).map fun written =>
    if (call.inserts engine s).isSome then written.prune engine capacity else written

/-! ## What is claimed -/

/-- Golden entries are kept, and hard negatives go last and the oldest first. -/
structure Protects (written left : ReplayBuffer) : Prop where
  golden : ∀ entry ∈ written.rows, entry.golden = true → entry ∈ left.rows
  hardNegative : ∀ entry ∈ written.rows, entry.hardNegative = true → entry ∉ left.rows →
    ∀ other ∈ left.rows, other.unprotected = false
      ∧ (other.hardNegative = true → entry.createdAt ≤ other.createdAt)

/-- How many golden entries there are. -/
def goldenCount (s : ReplayBuffer) : Nat := s.rows.countP (·.golden)

section

variable {engine : ReplayEngine} {capacity : Nat} {s : ReplayBuffer} {entry : ExperienceReplayEntry}

theorem golden_iff_not (entry : ExperienceReplayEntry) :
    entry.golden = true ↔ ¬ entry.reward < 8 / 10 := by
  rw [ExperienceReplayEntry.golden, decide_eq_true_eq, not_lt]

theorem below_of_unprotected (h : entry.unprotected = true) : entry.reward < 8 / 10 := by
  rw [ExperienceReplayEntry.unprotected, Bool.and_eq_true, decide_eq_true_eq] at h
  exact h.1

theorem mem_of_mem_leastPriority {excess : Nat} (h : entry ∈ s.leastPriority engine excess) :
    entry ∈ s.rows ∧ entry.unprotected = true := by
  have hmem := (engine.byPriority_perm _).mem_iff.mp (List.mem_of_mem_take h)
  exact List.mem_filter.mp hmem

theorem mem_of_mem_oldest {excess : Nat} (h : entry ∈ s.oldest engine excess) :
    entry ∈ s.rows ∧ entry.reward < 8 / 10 := by
  have hmem := (engine.byAge_perm _).mem_iff.mp (List.mem_of_mem_take h)
  simpa using List.mem_filter.mp hmem

theorem leastPriority_rows (engine : ReplayEngine) (s : ReplayBuffer) (excess : Nat) :
    ∀ e ∈ s.leastPriority engine excess, e ∈ s.rows := by
  intro e he
  exact (mem_of_mem_leastPriority he).1

theorem leastPriority_below (engine : ReplayEngine) (s : ReplayBuffer) (excess : Nat) :
    ∀ e ∈ s.leastPriority engine excess, e.reward < 8 / 10 := by
  intro e he
  exact below_of_unprotected (mem_of_mem_leastPriority he).2

theorem oldest_rows (engine : ReplayEngine) (s : ReplayBuffer) (excess : Nat) :
    ∀ e ∈ s.oldest engine excess, e ∈ s.rows := by
  intro e he
  exact (mem_of_mem_oldest he).1

theorem oldest_below (engine : ReplayEngine) (s : ReplayBuffer) (excess : Nat) :
    ∀ e ∈ s.oldest engine excess, e.reward < 8 / 10 := by
  intro e he
  exact (mem_of_mem_oldest he).2

theorem nodup_rows (s : ReplayBuffer) : s.rows.Nodup := List.Nodup.of_map _ s.nodup

theorem nodup_leastPriority (excess : Nat) : (s.leastPriority engine excess).Nodup :=
  (((engine.byPriority_perm _).nodup_iff.mpr ((nodup_rows s).filter _)).sublist
    (List.take_sublist _ _))

theorem nodup_oldest (excess : Nat) : (s.oldest engine excess).Nodup :=
  (((engine.byAge_perm _).nodup_iff.mpr ((nodup_rows s).filter _)).sublist
    (List.take_sublist _ _))

theorem length_leastPriority (engine : ReplayEngine) (s : ReplayBuffer) (excess : Nat) :
    (s.leastPriority engine excess).length = min excess (s.rows.countP (·.unprotected)) := by
  rw [ReplayBuffer.leastPriority, List.length_take, (engine.byPriority_perm _).length_eq,
    List.countP_eq_length_filter]

theorem length_oldest (engine : ReplayEngine) (s : ReplayBuffer) (excess : Nat) :
    (s.oldest engine excess).length = min excess (s.rows.countP (·.reward < 8 / 10)) := by
  rw [ReplayBuffer.oldest, List.length_take, (engine.byAge_perm _).length_eq,
    List.countP_eq_length_filter]

/-! ## Pruning -/

section

variable {selected : List ExperienceReplayEntry}

theorem goldenCount_deleteSelected (hsub : ∀ e ∈ selected, e ∈ s.rows)
    (hnodup : selected.Nodup) (hbelow : ∀ e ∈ selected, e.reward < 8 / 10) :
    goldenCount (s.deleteSelected selected) = goldenCount s := by
  have hcount := Table.countP_deleteSelected hsub hnodup (·.golden)
  have hzero : selected.countP (·.golden) = 0 :=
    List.countP_eq_zero.mpr fun e he => fun hgolden =>
      (golden_iff_not e).mp hgolden (hbelow e he)
  unfold goldenCount
  omega

theorem length_deleteSelected (hsub : ∀ e ∈ selected, e ∈ s.rows) (hnodup : selected.Nodup) :
    (s.deleteSelected selected).rows.length + selected.length = s.rows.length := by
  have hcount := Table.countP_deleteSelected hsub hnodup fun _ => true
  simpa only [List.countP_true] using hcount

end

theorem goldenCount_add (s : ReplayBuffer) :
    goldenCount s + s.rows.countP (·.reward < 8 / 10) = s.rows.length := by
  have hsplit := List.length_eq_countP_add_countP (·.golden) (l := s.rows)
  have hbelow : s.rows.countP (fun e => decide ¬ e.golden = true)
      = s.rows.countP (·.reward < 8 / 10) :=
    List.countP_congr fun e _ => by simp [golden_iff_not]
  unfold goldenCount
  omega

theorem unprotected_of_short {excess : Nat}
    (hshort : (s.leastPriority engine excess).length < excess) :
    ∀ e ∈ (s.deleteSelected (s.leastPriority engine excess)).rows, e.unprotected = false := by
  have hcount := Table.countP_deleteSelected
    (leastPriority_rows engine s excess) (nodup_leastPriority excess) (·.unprotected)
  have hall : (s.leastPriority engine excess).countP (·.unprotected)
      = (s.leastPriority engine excess).length :=
    List.countP_eq_length.mpr fun e he => (mem_of_mem_leastPriority he).2
  have hlength := length_leastPriority engine s excess
  have hnone : (s.deleteSelected (s.leastPriority engine excess)).rows.countP (·.unprotected)
      = 0 := by
    omega
  intro e he
  simpa using List.countP_eq_zero.mp hnone e he

theorem prune_cases (engine : ReplayEngine) (capacity : Nat) (s : ReplayBuffer) :
    (s.rows.length ≤ capacity ∧ s.prune engine capacity = s)
      ∨ (∃ excess, excess = s.rows.length - capacity ∧ 0 < excess
          ∧ (s.leastPriority engine excess).length = excess
          ∧ s.prune engine capacity = s.deleteSelected (s.leastPriority engine excess))
      ∨ ∃ excess left, excess = s.rows.length - capacity
          ∧ (s.leastPriority engine excess).length < excess
          ∧ left = s.deleteSelected (s.leastPriority engine excess)
          ∧ s.prune engine capacity = left.deleteSelected (ReplayBuffer.oldest engine left
            (excess - (s.leastPriority engine excess).length)) := by
  unfold ReplayBuffer.prune
  dsimp only
  split
  next hnone => exact .inl ⟨by omega, rfl⟩
  next hexcess =>
    split
    next hshort => exact .inr (.inr ⟨_, _, rfl, hshort, rfl, rfl⟩)
    next hlong =>
      have hlength := length_leastPriority engine s (s.rows.length - capacity)
      exact .inr (.inl ⟨_, rfl, by omega, by omega, rfl⟩)

theorem goldenCount_leastPriority (engine : ReplayEngine) (s : ReplayBuffer) (excess : Nat) :
    goldenCount (s.deleteSelected (s.leastPriority engine excess)) = goldenCount s :=
  goldenCount_deleteSelected (leastPriority_rows engine s excess) (nodup_leastPriority excess)
    (leastPriority_below engine s excess)

theorem goldenCount_oldest (engine : ReplayEngine) (s : ReplayBuffer) (excess : Nat) :
    goldenCount (s.deleteSelected (s.oldest engine excess)) = goldenCount s :=
  goldenCount_deleteSelected (oldest_rows engine s excess) (nodup_oldest excess)
    (oldest_below engine s excess)

theorem goldenCount_prune (engine : ReplayEngine) (capacity : Nat) (s : ReplayBuffer) :
    goldenCount (s.prune engine capacity) = goldenCount s := by
  rcases prune_cases engine capacity s with ⟨-, hprune⟩ | ⟨excess, -, -, -, hprune⟩
    | ⟨excess, left, -, -, hleft, hprune⟩
  · rw [hprune]
  · rw [hprune]
    exact goldenCount_leastPriority engine s excess
  · have hfirst : goldenCount left = goldenCount s := by
      rw [hleft]
      exact goldenCount_leastPriority engine s excess
    rw [hprune, ← hfirst]
    exact goldenCount_oldest engine left _

theorem length_prune_le (engine : ReplayEngine) (capacity : Nat) (s : ReplayBuffer) :
    (s.prune engine capacity).rows.length ≤ max capacity (goldenCount s) := by
  rcases prune_cases engine capacity s with ⟨hfits, hprune⟩ | ⟨excess, hexcess, hpos, hall, hprune⟩
    | ⟨excess, left, hexcess, hshort, hleft, hprune⟩
  · rw [hprune]
    exact hfits.trans (le_max_left _ _)
  · have hlength := length_deleteSelected (leastPriority_rows engine s excess)
      (nodup_leastPriority excess)
    rw [hprune]
    omega
  · have hgolden := goldenCount_prune engine capacity s
    have hfirst := length_deleteSelected (leastPriority_rows engine s excess)
      (nodup_leastPriority excess)
    rw [← hleft] at hfirst
    have hrest := length_oldest engine left (excess - (s.leastPriority engine excess).length)
    have hsecond := length_deleteSelected (oldest_rows engine left _) (nodup_oldest
      (excess - (s.leastPriority engine excess).length))
    rw [← hprune] at hsecond
    have hsplit := goldenCount_add left
    have hleftGolden : goldenCount left = goldenCount s := by
      rw [hleft]
      exact goldenCount_leastPriority engine s excess
    omega

theorem protected_of_golden (hgolden : entry.golden = true) : entry.unprotected = false := by
  cases hunprotected : entry.unprotected with
  | false => rfl
  | true => exact absurd (below_of_unprotected hunprotected) ((golden_iff_not entry).mp hgolden)

theorem protected_of_hardNegative (hnegative : entry.hardNegative = true) :
    entry.unprotected = false := by
  unfold ExperienceReplayEntry.hardNegative at hnegative
  unfold ExperienceReplayEntry.unprotected
  rw [decide_eq_true_eq] at hnegative
  simp [hnegative]

theorem kept_of_protected (excess : Nat) (he : entry ∈ s.rows)
    (hprotected : entry.unprotected = false) :
    entry ∈ (s.deleteSelected (s.leastPriority engine excess)).rows := by
  refine (Table.mem_deleteSelected (leastPriority_rows engine s excess)).mpr ⟨he, fun hmem => ?_⟩
  rw [(mem_of_mem_leastPriority hmem).2] at hprotected
  cases hprotected

theorem protects_prune (engine : ReplayEngine) (capacity : Nat) (s : ReplayBuffer) :
    Protects s (s.prune engine capacity) := by
  rcases prune_cases engine capacity s with ⟨-, hprune⟩ | ⟨excess, -, -, -, hprune⟩
    | ⟨excess, left, -, hshort, hleft, hprune⟩
  · rw [hprune]
    exact ⟨fun e he _ => he, fun e he _ hgone => absurd he hgone⟩
  · rw [hprune]
    exact ⟨fun e he hgolden => kept_of_protected excess he (protected_of_golden hgolden),
      fun e he hnegative hgone =>
        absurd (kept_of_protected excess he (protected_of_hardNegative hnegative)) hgone⟩
  · rw [hprune]
    have holdest := oldest_rows engine left (excess - (s.leastPriority engine excess).length)
    constructor
    · intro e he hgolden
      refine (Table.mem_deleteSelected holdest).mpr ⟨?_, fun hmem => ?_⟩
      · rw [hleft]
        exact kept_of_protected excess he (protected_of_golden hgolden)
      · exact (golden_iff_not e).mp hgolden (mem_of_mem_oldest hmem).2
    · intro e he hnegative hgone other hother
      obtain ⟨hotherLeft, hotherKept⟩ := (Table.mem_deleteSelected holdest).mp hother
      have hleftMem : e ∈ left.rows := by
        rw [hleft]
        exact kept_of_protected excess he (protected_of_hardNegative hnegative)
      have hmem : e ∈ ReplayBuffer.oldest engine left
          (excess - (s.leastPriority engine excess).length) := by
        by_contra hnot
        exact hgone ((Table.mem_deleteSelected holdest).mpr ⟨hleftMem, hnot⟩)
      refine ⟨?_, fun hotherNegative => ?_⟩
      · rw [hleft] at hotherLeft
        exact unprotected_of_short hshort other hotherLeft
      · -- the other one is behind it in the order of age
        have hbelow : other.reward < 8 / 10 := by
          unfold ExperienceReplayEntry.hardNegative at hotherNegative
          rw [decide_eq_true_eq] at hotherNegative
          linarith
        have hfiltered : other ∈ left.rows.filter (·.reward < 8 / 10) :=
          List.mem_filter.mpr ⟨hotherLeft, by simpa using hbelow⟩
        have hlisted : other ∈ engine.byAge (left.rows.filter (·.reward < 8 / 10)) :=
          (engine.byAge_perm _).mem_iff.mpr hfiltered
        have hsorted := engine.byAge_sorted (left.rows.filter (·.reward < 8 / 10))
        rw [← List.take_append_drop (excess - (s.leastPriority engine excess).length)
          (engine.byAge (left.rows.filter (·.reward < 8 / 10)))] at hlisted hsorted
        rcases List.mem_append.mp hlisted with htaken | hdropped
        · exact absurd htaken hotherKept
        · exact (List.pairwise_append.mp hsorted).2.2 e hmem other hdropped

/-! ## Runs -/

section

variable {call : ReplayCall} {written s' : ReplayBuffer} {bound : Nat}

theorem step_cases (h : (replaySystem engine capacity).step s call = some s') :
    ∃ written, s.write engine call = some written
      ∧ (s' = written.prune engine capacity
        ∨ s' = written ∧ written.rows.length = s.rows.length) := by
  obtain ⟨written, hwritten, hs'⟩ := Option.map_eq_some_iff.mp h
  refine ⟨written, hwritten, ?_⟩
  cases hinserts : call.inserts engine s with
  | some entry =>
      rw [hinserts] at hs'
      exact .inl hs'.symm
  | none =>
      rw [hinserts] at hs'
      refine .inr ⟨hs'.symm, ?_⟩
      unfold ReplayBuffer.write at hwritten
      rw [hinserts] at hwritten
      obtain rfl := Option.some.inj hwritten
      exact List.length_map _

theorem step_length_le (h : (replaySystem engine capacity).step s call = some s')
    (hcapacity : capacity ≤ bound) (hgolden : goldenCount s' ≤ bound)
    (hs : s.rows.length ≤ bound) : s'.rows.length ≤ bound := by
  obtain ⟨written, -, rfl | ⟨rfl, hlength⟩⟩ := step_cases h
  · rw [goldenCount_prune] at hgolden
    exact (length_prune_le engine capacity written).trans (max_le hcapacity hgolden)
  · exact hlength.trans_le hs

theorem step_protects (h : (replaySystem engine capacity).step s call = some s')
    (hwritten : s.write engine call = some written) : Protects written s' := by
  obtain ⟨written', hwritten', hs'⟩ := step_cases h
  obtain rfl := Option.some.inj (hwritten.symm.trans hwritten')
  rcases hs' with rfl | ⟨rfl, -⟩
  · exact protects_prune engine capacity written
  · exact ⟨fun e he _ => he, fun e he _ hgone => absurd he hgone⟩

theorem run_length_le {calls : List ReplayCall}
    (hrun : (replaySystem engine capacity).run s calls = some s')
    (hcapacity : capacity ≤ bound)
    (hgolden : ∀ n reached, (replaySystem engine capacity).run s (calls.take n) = some reached →
      goldenCount reached ≤ bound)
    (hs : s.rows.length ≤ bound) : s'.rows.length ≤ bound := by
  induction calls generalizing s with
  | nil =>
      obtain rfl := Option.some.inj hrun
      exact hs
  | cons call rest ih =>
      obtain ⟨mid, hmid, hrest⟩ := Option.bind_eq_some_iff.mp hrun
      have hfirst : goldenCount mid ≤ bound :=
        hgolden 1 mid (by simpa using hmid)
      refine ih hrest (fun n reached hreached => hgolden (n + 1) reached ?_)
        (step_length_le hmid hcapacity hfirst hs)
      rw [List.take_succ_cons, System.run_cons, hmid]
      exact hreached

end

end

/-- The orders of insertion sort, and one priority for all. -/
def sortingEngine : ReplayEngine where
  replayPriority _ := 1
  byPriority entries := entries.insertionSort fun a b =>
    a.priority < b.priority ∨ a.priority = b.priority ∧ a.createdAt ≤ b.createdAt
  byPriority_perm entries := List.perm_insertionSort _ entries
  byPriority_sorted entries := by
    have : Std.Total fun a b : ExperienceReplayEntry =>
        a.priority < b.priority ∨ a.priority = b.priority ∧ a.createdAt ≤ b.createdAt := ⟨by
      intro a b
      rcases lt_trichotomy a.priority b.priority with h | h | h
      · exact .inl (.inl h)
      · exact (le_total a.createdAt b.createdAt).imp (fun hle => .inr ⟨h, hle⟩)
          fun hle => .inr ⟨h.symm, hle⟩
      · exact .inr (.inl h)⟩
    have : IsTrans ExperienceReplayEntry fun a b =>
        a.priority < b.priority ∨ a.priority = b.priority ∧ a.createdAt ≤ b.createdAt := ⟨by
      rintro a b c (h | ⟨h, hle⟩) (h' | ⟨h', hle'⟩)
      · exact .inl (h.trans h')
      · exact .inl (h' ▸ h)
      · exact .inl (h ▸ h')
      · exact .inr ⟨h.trans h', hle.trans hle'⟩⟩
    exact List.pairwise_insertionSort _ entries
  byAge entries := entries.insertionSort fun a b => a.createdAt ≤ b.createdAt
  byAge_perm entries := List.perm_insertionSort _ entries
  byAge_sorted entries := by
    have : Std.Total fun a b : ExperienceReplayEntry => a.createdAt ≤ b.createdAt :=
      ⟨fun a b => le_total _ _⟩
    have : IsTrans ExperienceReplayEntry fun a b => a.createdAt ≤ b.createdAt :=
      ⟨fun a b c h h' => h.trans h'⟩
    exact List.pairwise_insertionSort _ entries

/-- An experience of a trace with a reward. -/
def rewarded (reward : Rat) : Experience where
  traceId := "trace"
  channel := "cli"
  prompt := "prompt"
  response := "response"
  reward := reward
  priority := none
  safeguardTriggered := false
  metadata := []

def twoGolden : List ReplayCall :=
  [.recordExperience (rewarded 1) "first" 1, .recordExperience (rewarded 1) "second" 2]

theorem twoGolden_isSome :
    ((replaySystem sortingEngine 1).run Table.empty twoGolden).isSome = true := by
  decide +kernel

end Navi.Trace
