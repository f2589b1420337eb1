import Mathlib
import Navi.Memory.ParameterRollback
import Navi.SelfPlay.Cycle

/-!
# Where self-play takes a parameter

A parameter stays in a fixed interval, over any number of cycles, if and only if self-play never
promotes it or its bounds stand in the table. Without an entry the bounds move along with the
value.
-/

namespace Navi.SelfPlay

open Navi.Base Navi.Memory

/-! ## Registries whose values are within -/

/-- The stored and the cached value of a parameter, where there is one. -/
structure Within (I : Rat → Prop) (name : String) (r : Registry) : Prop where
  stored : ∀ row ∈ r.parameters.get? name, I row.value
  cached : ∀ entry ∈ r.cache.get? name, I entry.2

section

variable {I : Rat → Prop} {name : String} {r : Registry}

def DefaultWithin (I : Rat → Prop) (name : String) : Prop :=
  ∀ value ∈ systemEngine.default? name, I value

theorem within_sync (hdefault : DefaultWithin I name) (h : Within I name r) (now : Time) :
    Within I name (r.sync systemEngine now) := by
  unfold Registry.sync
  split
  · exact h
  · have hstored : ∀ row ∈ (if r.seeded then r.parameters
        else Registry.seed systemEngine r.parameters now).get? name, I row.value := by
      intro row hrow
      split at hrow
      · exact h.stored row hrow
      · rw [Registry.get?_seed] at hrow
        cases hfound : r.parameters.get? name with
        | some old =>
            rw [hfound, Option.some_or] at hrow
            obtain rfl := Option.some.inj hrow
            exact h.stored old hfound
        | none =>
            rw [hfound, Option.none_or] at hrow
            obtain ⟨entry, hentry, rfl⟩ := Option.map_eq_some_iff.mp hrow
            refine hdefault entry.2 ?_
            unfold RegistryEngine.default?
            rw [hentry]
            rfl
    refine ⟨hstored, fun entry hentry => ?_⟩
    have hload := @Registry.get?_load name (if r.seeded then r.parameters
      else Registry.seed systemEngine r.parameters now)
    rw [Option.mem_def.mp hentry] at hload
    obtain ⟨row, hrow, hvalue⟩ := Option.map_eq_some_iff.mp hload.symm
    have hsame : row.value = entry.2 := hvalue
    rw [← hsame]
    exact hstored row hrow

theorem within_cached (h : Within I name r) {fallback : Option Rat}
    (hfallback : I (fallback.getD ((systemEngine.default? name).getD 0))) :
    I (r.cached systemEngine name fallback) := by
  unfold Registry.cached
  cases hentry : r.cache.get? name with
  | none => exact hfallback
  | some entry => exact h.cached entry hentry

theorem within_write {row : Parameter} (h : Within I name r)
    (hrow : row.name = name → I row.value) : Within I name (r.write row) := by
  constructor
  · intro other hother
    have hget := (Table.get?_upsert r.parameters row name).symm.trans hother
    split at hget
    next hname =>
      obtain rfl := Option.some.inj hget
      exact hrow hname
    next => exact h.stored other hget
  · intro entry hentry
    have hget := (Table.get?_upsert r.cache (row.name, row.value) name).symm.trans hentry
    split at hget
    next hname =>
      obtain rfl := Option.some.inj hget
      exact hrow hname
    next => exact h.cached entry hget

theorem within_set (hdefault : DefaultWithin I name) (h : Within I name r) {target : String}
    {value : Rat} (hvalue : target = name → I value) (reason : String) (metadata : Dict)
    (now : Time) : Within I name (r.set systemEngine target value reason metadata now) := by
  unfold Registry.set
  split
  · exact within_write h hvalue
  · exact within_write (within_sync hdefault h now) hvalue

end

/-! ## What a promotion keeps -/

/-- `SYSTEM_DYNAMIC_PARAMETERS.get(name, 0.0)`. -/
def shippedDefault (name : String) : Rat := (systemEngine.default? name).getD 0

/-- What is promoted of a parameter that is within is within, set or smoothed. -/
def Closed (I : Rat → Prop) (name : String) : Prop :=
  isMemoryParameter name = true →
    (∀ v, I v → I (candidateUp name v) ∧ I (candidateDown name v))
      ∧ ∀ v c, I v → I c → I (roundTo 4 (4 / 5 * v + (1 - 4 / 5) * c))

section

variable {I : Rat → Prop} {name : String} {r : Registry}

def emaAlpha : String := "parameter_ema_alpha"

/-- Its shipped value is known, and it is no memory parameter. -/
def shippedEmaAlpha :
    { name : String // shippedDefault name = 4 / 5 ∧ isMemoryParameter name = false } :=
  ⟨emaAlpha, by decide +kernel⟩

theorem shippedDefault_emaAlpha : shippedDefault emaAlpha = 4 / 5 := shippedEmaAlpha.property.1

theorem emaAlpha_not_memory : isMemoryParameter emaAlpha = false := shippedEmaAlpha.property.2

theorem defaultWithin_of (h : I (shippedDefault name)) : DefaultWithin I name := by
  intro value hvalue
  unfold shippedDefault at h
  rwa [Option.mem_def.mp hvalue] at h

theorem promoted_eq_false (h : isMemoryParameter name = false) (outcome : TrialOutcome)
    (autoPromote : Bool) : outcome.promoted name autoPromote = false := by
  have hstub : [("runtime.parameter.valid" : String)].any isBehavioralEvalCase = false := by
    decide +kernel
  unfold TrialOutcome.promoted evalCasesForParameter
  simp only [h, Bool.false_eq_true, if_false, hstub, Bool.and_false, Bool.false_and]

theorem within_trial (hdefault : I (shippedDefault name)) (hclosed : Closed I name)
    (h : Within I name r) (halpha : Within (· = 4 / 5) emaAlpha r) {spec : ShadowTrialSpec}
    (hspec : ∀ b c, spec = .parameter name b c → isMemoryParameter name = true → I c)
    (outcome : TrialOutcome) (autoPromote useEma : Bool) (now : Time) (trialId : String) :
    Within I name (executeShadowTrial r spec outcome autoPromote useEma now trialId) := by
  have hdefaultWithin := defaultWithin_of hdefault
  cases spec with
  | promptLayer targetId content => exact h
  | parameter targetId baseline candidate =>
      unfold executeShadowTrial
      dsimp only
      set read := if outcome.readsThreshold targetId autoPromote then r.sync systemEngine now else r
        with hread
      have hreadWithin : Within I name read := by
        rw [hread]
        split
        · exact within_sync hdefaultWithin h now
        · exact h
      have hreadAlpha : Within (· = 4 / 5) emaAlpha read := by
        rw [hread]
        split
        · exact within_sync (defaultWithin_of shippedDefault_emaAlpha) halpha now
        · exact halpha
      split
      next hpromoted =>
        have hmemory : targetId = name → isMemoryParameter name = true := by
          rintro rfl
          by_contra hnot
          rw [promoted_eq_false (by simpa using hnot)] at hpromoted
          cases hpromoted
        have hcandidate : targetId = name → I candidate := by
          rintro rfl
          exact hspec baseline candidate rfl (hmemory rfl)
        split
        · unfold Registry.applyEma
          dsimp only
          refine within_set hdefaultWithin (within_sync hdefaultWithin hreadWithin now) ?_ _ _ now
          rintro rfl
          have hsynced := within_sync hdefaultWithin hreadWithin now
          have hcurrent : I ((read.sync systemEngine now).cached systemEngine targetId none) :=
            within_cached hsynced hdefault
          have hweight : (read.sync systemEngine now).cached systemEngine "parameter_ema_alpha"
              (some (80 / 100)) = 4 / 5 :=
            within_cached (within_sync (defaultWithin_of shippedDefault_emaAlpha) hreadAlpha now)
              (by norm_num)
          rw [Option.getD_none, hweight]
          exact (hclosed (hmemory rfl)).2 _ _ hcurrent (hcandidate rfl)
        · exact within_set hdefaultWithin hreadWithin hcandidate _ _ now
      next => exact hreadWithin

theorem alpha_trial (halpha : Within (· = 4 / 5) emaAlpha r) (spec : ShadowTrialSpec)
    (outcome : TrialOutcome) (autoPromote useEma : Bool) (now : Time) (trialId : String) :
    Within (· = 4 / 5) emaAlpha
      (executeShadowTrial r spec outcome autoPromote useEma now trialId) :=
  within_trial shippedDefault_emaAlpha
    (fun hmemory => absurd hmemory (by rw [emaAlpha_not_memory]; decide)) halpha halpha
    (fun _ _ _ hmemory => absurd hmemory (by rw [emaAlpha_not_memory]; decide)) outcome
    autoPromote useEma now trialId

theorem within_trials (hdefault : I (shippedDefault name)) (hclosed : Closed I name)
    (call : CycleCall) {specs : List ShadowTrialSpec}
    (hspecs : ∀ b c, .parameter name b c ∈ specs → isMemoryParameter name = true → I c) (n : Nat)
    (h : Within I name r) (halpha : Within (· = 4 / 5) emaAlpha r) :
    Within I name (runTrials call n r specs)
      ∧ Within (· = 4 / 5) emaAlpha (runTrials call n r specs) := by
  induction specs generalizing n r with
  | nil => exact ⟨h, halpha⟩
  | cons spec specs ih =>
      have hhead : ∀ b c, spec = .parameter name b c → isMemoryParameter name = true → I c := by
        rintro b c rfl
        exact hspecs b c List.mem_cons_self
      exact ih (fun b c hmem => hspecs b c (List.mem_cons_of_mem _ hmem)) (n + 1)
        (within_trial hdefault hclosed h halpha hhead _ _ _ _ _) (alpha_trial halpha _ _ _ _ _ _)

/-! ## What a cycle keeps -/

/-- The candidates of a parameter are within. -/
def CandidatesWithin (I : Rat → Prop) (name : String) (specs : List ShadowTrialSpec) : Prop :=
  ∀ b c, .parameter name b c ∈ specs → isMemoryParameter name = true → I c

theorem candidatesWithin_withCandidate {specs : List ShadowTrialSpec} {targetId : String}
    (current : Rat) {candidate : Rat} (h : CandidatesWithin I name specs)
    (hcandidate : targetId = name → isMemoryParameter name = true → I candidate) :
    CandidatesWithin I name (withCandidate targetId current candidate specs) := by
  unfold withCandidate
  split
  · intro b c hmem hmemory
    rcases List.mem_append.mp hmem with hold | hnew
    · exact h b c hold hmemory
    · obtain ⟨rfl, -, rfl⟩ := ShadowTrialSpec.parameter.inj (List.mem_singleton.mp hnew)
      exact hcandidate rfl hmemory
  · exact h

theorem within_perturb (hdefault : I (shippedDefault name)) (hclosed : Closed I name)
    (readAt : String → Time) (limit : Int) (targets : List String) {specs : List ShadowTrialSpec}
    (h : Within I name r) (halpha : Within (· = 4 / 5) emaAlpha r)
    (hspecs : CandidatesWithin I name specs) :
    Within I name (perturb readAt limit targets r specs).1
      ∧ Within (· = 4 / 5) emaAlpha (perturb readAt limit targets r specs).1
      ∧ CandidatesWithin I name (perturb readAt limit targets r specs).2 := by
  induction targets generalizing r specs with
  | nil => exact ⟨h, halpha, hspecs⟩
  | cons targetId targets ih =>
      unfold perturb
      split
      · exact ⟨h, halpha, hspecs⟩
      · dsimp only
        have hsynced := within_sync (defaultWithin_of hdefault) h (readAt targetId)
        have hsyncedAlpha :=
          within_sync (defaultWithin_of shippedDefault_emaAlpha) halpha (readAt targetId)
        have hcurrent : targetId = name → isMemoryParameter name = true →
            I (candidateUp targetId
                ((r.sync systemEngine (readAt targetId)).cached systemEngine targetId none))
              ∧ I (candidateDown targetId
                ((r.sync systemEngine (readAt targetId)).cached systemEngine targetId none)) := by
          rintro rfl hmemory
          exact (hclosed hmemory).1 _ (within_cached hsynced hdefault)
        have hup := candidatesWithin_withCandidate
          ((r.sync systemEngine (readAt targetId)).cached systemEngine targetId none) hspecs
          fun hname hmemory => (hcurrent hname hmemory).1
        split
        · exact ⟨hsynced, hsyncedAlpha, hup⟩
        · exact ih hsynced hsyncedAlpha (candidatesWithin_withCandidate _ hup
            fun hname hmemory => (hcurrent hname hmemory).2)

theorem mem_of_mem_sliceTo {α : Type} {n : Int} {specs : List α} {spec : α}
    (h : spec ∈ sliceTo n specs) : spec ∈ specs := by
  unfold sliceTo at h
  split at h
  · exact List.mem_of_mem_take h
  · exact List.mem_of_mem_take h

theorem within_cycle (hdefault : I (shippedDefault name)) (hclosed : Closed I name)
    (call : CycleCall) (h : Within I name r) (halpha : Within (· = 4 / 5) emaAlpha r) :
    Within I name (runAutonomousCycle r call)
      ∧ Within (· = 4 / 5) emaAlpha (runAutonomousCycle r call) := by
  have hnone : CandidatesWithin I name [] := fun _ _ hmem => (List.not_mem_nil hmem).elim
  have hperturb := within_perturb hdefault hclosed call.readAt (max 1 (call.maxTrials - 2))
    (orderedTargets call.counts) h halpha hnone
  rcases hresult : perturb call.readAt (max 1 (call.maxTrials - 2))
    (orderedTargets call.counts) r [] with ⟨read, specs⟩
  rw [hresult] at hperturb
  obtain ⟨hwithin, hweight, hspecs⟩ := hperturb
  rw [runAutonomousCycle_eq (cycleSpecs_eq hresult)]
  refine within_trials hdefault hclosed call (fun b c hmem hmemory => ?_) 0 hwithin hweight
  rcases List.mem_append.mp (mem_of_mem_sliceTo hmem) with hparameter | hprompt
  · exact hspecs b c (List.mem_of_mem_take hparameter) hmemory
  · obtain ⟨prompt, -, hspec⟩ := List.mem_map.mp hprompt
    cases hspec

/-! ## Bounds of the table -/

/-- The least value of a parameter with an entry: that of the entry, or the default. -/
def lowest (name : String) : Rat :=
  (explorationBounds? name).elim (shippedDefault name) fun bounds =>
    min (shippedDefault name) bounds.1

def highest (name : String) : Rat :=
  (explorationBounds? name).elim (shippedDefault name) fun bounds =>
    max (shippedDefault name) bounds.2.1

def InBounds (name : String) (v : Rat) : Prop := lowest name ≤ v ∧ v ≤ highest name

theorem entries_ordered : ∀ entry ∈ parameterExplorationBounds,
    entry.2.1 ≤ entry.2.2.1 ∧ 0 ≤ entry.2.2.2 ∧ OnGrid 4 entry.2.1 ∧ OnGrid 4 entry.2.2.1 := by
  have hall : (parameterExplorationBounds.all fun entry =>
      decide (entry.2.1 ≤ entry.2.2.1 ∧ 0 ≤ entry.2.2.2 ∧ OnGrid 4 entry.2.1
        ∧ OnGrid 4 entry.2.2.1)) = true := by decide +kernel
  intro entry hentry
  exact of_decide_eq_true (List.all_eq_true.mp hall entry hentry)

theorem defaults_onGrid : ∀ entry ∈ systemDynamicParameters, OnGrid 4 entry.2 := by
  have hall : (systemDynamicParameters.all fun entry => decide (OnGrid 4 entry.2)) = true := by
    decide +kernel
  intro entry hentry
  exact of_decide_eq_true (List.all_eq_true.mp hall entry hentry)

theorem shippedDefault_onGrid (name : String) : OnGrid 4 (shippedDefault name) := by
  unfold shippedDefault
  cases hdefault : systemEngine.default? name with
  | none => exact ⟨0, by norm_num⟩
  | some value =>
      obtain ⟨entry, hentry, rfl⟩ := Option.map_eq_some_iff.mp hdefault
      exact defaults_onGrid entry (List.mem_of_find?_eq_some hentry)

theorem inBounds_default (name : String) : InBounds name (shippedDefault name) := by
  unfold InBounds lowest highest
  cases explorationBounds? name with
  | none => exact ⟨le_refl _, le_refl _⟩
  | some bounds => exact ⟨min_le_left _ _, le_max_left _ _⟩

theorem mem_of_explorationBounds {bounds : Rat × Rat × Rat}
    (hbounds : explorationBounds? name = some bounds) :
    (name, bounds) ∈ parameterExplorationBounds := by
  obtain ⟨front, back, htable, -⟩ := List.lookup_eq_some_iff.mp hbounds
  rw [htable]
  exact List.mem_append_right _ List.mem_cons_self

theorem inBounds_candidates {bounds : Rat × Rat × Rat}
    (hbounds : explorationBounds? name = some bounds) {v : Rat} (h : InBounds name v) :
    InBounds name (candidateUp name v) ∧ InBounds name (candidateDown name v) := by
  obtain ⟨hordered, hstep, hleast, hgreatest⟩ :=
    entries_ordered _ (mem_of_explorationBounds hbounds)
  have hentry : getParameterBounds name v = bounds := by
    unfold getParameterBounds
    rw [hbounds]
  have hdefault := shippedDefault_onGrid name
  unfold InBounds lowest highest candidateUp candidateDown at *
  rw [hbounds] at h ⊢
  rw [hentry]
  simp only [Option.elim_some] at h ⊢
  obtain ⟨hlow, hhigh⟩ := h
  have hlowGrid := onGrid_min hdefault hleast
  have hhighGrid := onGrid_max hdefault hgreatest
  have hbelow : min (shippedDefault name) bounds.1 ≤ bounds.2.1 := (min_le_right _ _).trans hordered
  have habove : bounds.1 ≤ max (shippedDefault name) bounds.2.1 := hordered.trans (le_max_right _ _)
  constructor
  · exact ⟨le_roundTo hlowGrid (le_min hbelow (by linarith)),
      roundTo_le hhighGrid ((min_le_left _ _).trans (le_max_right _ _))⟩
  · exact ⟨le_roundTo hlowGrid ((min_le_right _ _).trans (le_max_left _ _)),
      roundTo_le hhighGrid (max_le habove (by linarith))⟩

theorem closed_of_entry (hentry : (explorationBounds? name).isSome) :
    Closed (InBounds name) name := by
  intro _
  obtain ⟨bounds, hbounds⟩ := Option.isSome_iff_exists.mp hentry
  refine ⟨fun v hv => inBounds_candidates hbounds hv, fun v c hv hc => ?_⟩
  have hdefault := shippedDefault_onGrid name
  obtain ⟨-, -, hleast, hgreatest⟩ := entries_ordered _ (mem_of_explorationBounds hbounds)
  unfold InBounds lowest highest at *
  rw [hbounds] at hv hc ⊢
  simp only [Option.elim_some] at hv hc ⊢
  obtain ⟨hvLow, hvHigh⟩ := hv
  obtain ⟨hcLow, hcHigh⟩ := hc
  exact ⟨le_roundTo (onGrid_min hdefault hleast) (by linarith),
    roundTo_le (onGrid_max hdefault hgreatest) (by linarith)⟩

theorem closed_of_not_memory (I : Rat → Prop) (h : isMemoryParameter name = false) :
    Closed I name := by
  intro hmemory
  rw [h] at hmemory
  cases hmemory

/-! ## Runs -/

/-- The stored value of a parameter and what the arenas remember of it. -/
structure Settled (I : Rat → Prop) (name : String) (s : Arenas) : Prop where
  stored : ∀ row ∈ s.parameters.get? name, I row.value
  cached : ∀ r ∈ s.arenas, ∀ entry ∈ r.cache.get? name, I entry.2

/-- A parameter has its shipped default, or was never stored. -/
def AtDefault (parameters : Table String Parameter (·.name)) (name : String) : Prop :=
  ∀ row ∈ parameters.get? name, row.value = shippedDefault name

theorem settled_start {parameters : Table String Parameter (·.name)}
    (hdefault : I (shippedDefault name)) (h : AtDefault parameters name) :
    Settled I name (.start parameters) where
  stored row hrow := by
    rw [h row hrow]
    exact hdefault
  cached := List.forall_mem_nil _

theorem settled_arena {s : Arenas} (h : Settled I name s) {arena : Nat}
    (harena : s.arena? arena = some r) : Within I name r := by
  obtain ⟨old, hold, rfl⟩ := Option.map_eq_some_iff.mp harena
  exact ⟨h.stored, h.cached old (List.mem_of_getElem? hold)⟩

theorem settled_after {s : Arenas} (h : Settled I name s) (hr : Within I name r) (arena : Nat) :
    Settled I name (s.after arena r) where
  stored := hr.stored
  cached other hother := by
    rcases List.mem_or_eq_of_mem_set hother with hold | rfl
    · exact h.cached other hold
    · exact hr.cached

theorem settled_step (hdefault : I (shippedDefault name)) (hclosed : Closed I name)
    {s s' : Arenas} {label : ArenaLabel}
    (h : Settled I name s ∧ Settled (· = 4 / 5) emaAlpha s)
    (hstep : arenaSystem.step s label = some s') :
    Settled I name s' ∧ Settled (· = 4 / 5) emaAlpha s' := by
  obtain ⟨hname, halpha⟩ := h
  cases label with
  | create =>
      obtain rfl := Option.some.inj hstep
      have hfresh : ∀ r ∈ [Registry.fresh], ∀ other, r.cache.get? other = none := by
        intro r hr other
        obtain rfl := List.mem_singleton.mp hr
        rfl
      constructor
      · refine ⟨hname.stored, fun r hr entry hentry => ?_⟩
        rcases List.mem_append.mp hr with hold | hnew
        · exact hname.cached r hold entry hentry
        · rw [hfresh r hnew] at hentry
          cases hentry
      · refine ⟨halpha.stored, fun r hr entry hentry => ?_⟩
        rcases List.mem_append.mp hr with hold | hnew
        · exact halpha.cached r hold entry hentry
        · rw [hfresh r hnew] at hentry
          cases hentry
  | cycle arena call =>
      obtain ⟨r, harena, rfl⟩ := Option.map_eq_some_iff.mp hstep
      obtain ⟨hcycle, hcycleAlpha⟩ := within_cycle hdefault hclosed call
        (settled_arena hname harena) (settled_arena halpha harena)
      exact ⟨settled_after hname hcycle arena, settled_after halpha hcycleAlpha arena⟩

theorem Settled.value {s : Arenas} (h : Settled I name s) (hdefault : I (shippedDefault name)) :
    I (s.value name) := by
  unfold Arenas.value
  cases hrow : s.parameters.get? name with
  | none => exact hdefault
  | some row => exact h.stored row hrow

/-! ## What changes a value -/

/-- Every behavioural check of the trial passed, there was a case of them, and the gate did not
block. -/
def TrialOutcome.Verified (outcome : TrialOutcome) (targetId : String) : Prop :=
  (∃ case ∈ evalCasesForParameter targetId, isBehavioralEvalCase case = true)
    ∧ (∀ case ∈ evalCasesForParameter targetId, isBehavioralEvalCase case = true →
      ∀ check ∈ outcome.checks case, check = true)
    ∧ outcome.gateBlocked = some false

theorem verified_of_promoted {outcome : TrialOutcome} {autoPromote : Bool}
    (h : outcome.promoted name autoPromote = true) : outcome.Verified name := by
  have hmemory : isMemoryParameter name = true := by
    by_contra hnot
    rw [promoted_eq_false (by simpa using hnot)] at h
    cases h
  unfold TrialOutcome.promoted at h
  simp only [Bool.and_eq_true, List.any_eq_true] at h
  obtain ⟨⟨⟨hpassed, -⟩, hbehavioural⟩, hgate⟩ := h
  refine ⟨hbehavioural, fun case hcase _ check hcheck => ?_, by simpa [hmemory] using hgate⟩
  unfold TrialOutcome.passed at hpassed
  simp only [Bool.and_eq_true, List.all_eq_true] at hpassed
  exact hpassed.2 check (List.mem_flatMap.mpr ⟨case, hcase, hcheck⟩)

theorem value_sync (r : Registry) (now : Time) (name : String) :
    (r.sync systemEngine now).value systemEngine name = r.value systemEngine name := by
  unfold Registry.sync
  split
  · rfl
  · unfold Registry.value
    dsimp only
    split
    · rfl
    · rw [Registry.get?_seed]
      cases r.parameters.get? name with
      | some row => rfl
      | none =>
          rw [Option.none_or]
          unfold RegistryEngine.default?
          cases systemEngine.defaults.find? (·.1 = name) with
          | none => rfl
          | some entry => rfl

theorem value_write (r : Registry) (row : Parameter) (name : String) :
    (r.write row).value systemEngine name
      = if row.name = name then row.value else r.value systemEngine name := by
  have hget : (r.write row).parameters.get? name = _ := Table.get?_upsert r.parameters row name
  unfold Registry.value
  rw [hget]
  split
  · rfl
  · rfl

theorem value_set_of_ne {target : String} (h : target ≠ name) (r : Registry) (value : Rat)
    (reason : String) (metadata : Dict) (now : Time) :
    (r.set systemEngine target value reason metadata now).value systemEngine name
      = r.value systemEngine name := by
  unfold Registry.set
  split
  · rw [value_write, if_neg h]
  · rw [value_write, if_neg h, value_sync]

theorem value_trial {spec : ShadowTrialSpec} {outcome : TrialOutcome} {autoPromote useEma : Bool}
    {now : Time} {trialId : String}
    (h : (executeShadowTrial r spec outcome autoPromote useEma now trialId).value systemEngine name
      ≠ r.value systemEngine name) :
    (∃ b c, spec = .parameter name b c) ∧ outcome.Verified name := by
  cases spec with
  | promptLayer targetId content => exact absurd rfl h
  | parameter targetId baseline candidate =>
      unfold executeShadowTrial at h
      dsimp only at h
      set read := if outcome.readsThreshold targetId autoPromote then r.sync systemEngine now else r
        with hread
      have hsame : read.value systemEngine name = r.value systemEngine name := by
        rw [hread]
        split
        · exact value_sync r now name
        · rfl
      rw [← hsame] at h
      split at h
      next hpromoted =>
        have htarget : targetId = name := by
          by_contra hne
          split at h
          · unfold Registry.applyEma at h
            exact h ((value_set_of_ne hne _ _ _ _ now).trans (value_sync read now name))
          · exact h (value_set_of_ne hne _ _ _ _ now)
        subst htarget
        exact ⟨⟨baseline, candidate, rfl⟩, verified_of_promoted hpromoted⟩
      next => exact absurd rfl h

theorem value_trials {call : CycleCall} {specs : List ShadowTrialSpec} {n : Nat}
    (h : (runTrials call n r specs).value systemEngine name ≠ r.value systemEngine name) :
    ∃ i spec, specs[i]? = some spec ∧ (∃ b c, spec = .parameter name b c)
      ∧ (call.outcome (n + i) spec).Verified name := by
  induction specs generalizing n r with
  | nil => exact absurd rfl h
  | cons spec specs ih =>
      by_cases hfirst : (executeShadowTrial r spec (call.outcome n spec) call.autoPromote
          call.useEma (call.trialAt n) (call.trialId n)).value systemEngine name
        = r.value systemEngine name
      · rw [← hfirst] at h
        obtain ⟨i, later, hlater, hspec, hverified⟩ := ih h
        refine ⟨i + 1, later, hlater, hspec, ?_⟩
        rwa [← Nat.add_assoc, Nat.add_right_comm]
      · obtain ⟨hspec, hverified⟩ := value_trial hfirst
        exact ⟨0, spec, rfl, hspec, hverified⟩

theorem value_perturb (readAt : String → Time) (limit : Int) (targets : List String)
    (specs : List ShadowTrialSpec) :
    (perturb readAt limit targets r specs).1.value systemEngine name
      = r.value systemEngine name := by
  induction targets generalizing r specs with
  | nil => rfl
  | cons targetId targets ih =>
      unfold perturb
      split
      · rfl
      · dsimp only
        split
        · exact value_sync r _ name
        · rw [ih, value_sync]

/-- A cycle changes a value only through a trial whose checks passed and that the gate did not
block. -/
theorem value_cycle {call : CycleCall}
    (h : (runAutonomousCycle r call).value systemEngine name ≠ r.value systemEngine name) :
    ∃ i spec, (cycleSpecs r call).2[i]? = some spec ∧ (∃ b c, spec = .parameter name b c)
      ∧ (call.outcome i spec).Verified name := by
  have hplanned : (cycleSpecs r call).1.value systemEngine name = r.value systemEngine name := by
    have hperturb := @value_perturb name r call.readAt (max 1 (call.maxTrials - 2))
      (orderedTargets call.counts) []
    rcases hresult : perturb call.readAt (max 1 (call.maxTrials - 2))
      (orderedTargets call.counts) r [] with ⟨read, specs⟩
    rw [hresult] at hperturb
    rw [cycleSpecs_eq hresult]
    exact hperturb
  rw [runAutonomousCycle_eq rfl, ← hplanned] at h
  obtain ⟨i, spec, hspec, htarget, hverified⟩ := value_trials h
  rw [Nat.zero_add] at hverified
  exact ⟨i, spec, hspec, htarget, hverified⟩

end

end Navi.SelfPlay
