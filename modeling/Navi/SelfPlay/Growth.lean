import Mathlib
import Navi.SelfPlay.Drift

/-!
# Bounded drift

The bounds of a parameter without an entry are computed from its value, so that a candidate upwards
is always a step above it. Cycles that promote this candidate each time raise a parameter of memory
beyond every bound; with an entry it stays in its bounds, and any other parameter is never promoted.
-/

namespace Navi.SelfPlay

open Navi.Base Navi.Memory

/-- A parameter that starts at its default stays in an interval, whatever the cycles are. -/
def DriftBounded (name : String) : Prop :=
  ∃ low high, ∀ parameters labels s, AtDefault parameters name → AtDefault parameters emaAlpha →
    arenaSystem.run (.start parameters) labels = some s →
      low ≤ s.value name ∧ s.value name ≤ high

/-- A step changes a parameter only through a trial of it whose checks and gate passed. -/
def ChangesOnlyVerified (name : String) : Prop :=
  ∀ (s s' : Arenas) (label : ArenaLabel), arenaSystem.step s label = some s' →
    s'.value name ≠ s.value name →
      ∃ arena call r i spec, label = .cycle arena call ∧ s.arena? arena = some r
        ∧ (cycleSpecs r call).2[i]? = some spec ∧ (∃ b c, spec = .parameter name b c)
        ∧ (call.outcome i spec).Verified name

theorem changesOnlyVerified (name : String) : ChangesOnlyVerified name := by
  intro s s' label hstep hchanged
  cases label with
  | create =>
      obtain rfl := Option.some.inj hstep
      exact absurd rfl hchanged
  | cycle arena call =>
      obtain ⟨r, harena, rfl⟩ := Option.map_eq_some_iff.mp hstep
      have hsame : s.value name = r.value systemEngine name := by
        obtain ⟨old, -, rfl⟩ := Option.map_eq_some_iff.mp harena
        rfl
      rw [hsame] at hchanged
      obtain ⟨i, spec, hspec, htarget, hverified⟩ := value_cycle hchanged
      exact ⟨arena, call, r, i, spec, rfl, harena, hspec, htarget, hverified⟩

theorem driftBounded_of_closed {name : String} {low high : Rat}
    (hdefault : low ≤ shippedDefault name ∧ shippedDefault name ≤ high)
    (hclosed : Closed (fun v => low ≤ v ∧ v ≤ high) name) : DriftBounded name := by
  refine ⟨low, high, fun parameters labels s hname halpha hrun => ?_⟩
  have hstart : Settled (fun v => low ≤ v ∧ v ≤ high) name (.start parameters)
      ∧ Settled (· = 4 / 5) emaAlpha (.start parameters) :=
    ⟨settled_start hdefault hname, settled_start shippedDefault_emaAlpha halpha⟩
  have hsettled := System.run_preserves arenaSystem
    (fun _ _ _ h hstep => settled_step hdefault hclosed h hstep) hstart hrun
  exact hsettled.1.value hdefault

/-! ## A candidate upwards -/

theorem step_le_candidateUp {name : String} {v : Rat} (hentry : explorationBounds? name = none)
    (hgrid : OnGrid 4 v) : v + 1 / 100 ≤ candidateUp name v := by
  have hhundredth : OnGrid 4 (1 / 100) := by decide +kernel
  unfold candidateUp getParameterBounds
  rw [hentry]
  dsimp only
  set step := roundTo 4 (max (1 / 100) (|v| * (1 / 10))) with hstep
  have hstepGrid : OnGrid 4 step := roundTo_onGrid _ _
  have hhundredthLe : 1 / 100 ≤ step := le_roundTo hhundredth (le_max_left _ _)
  have hsum : OnGrid 4 (v + step) := hgrid.add hstepGrid
  have hmax : v + step ≤ roundTo 4 (max (v + step) (v * 2)) := le_roundTo hsum (le_max_left _ _)
  have hup : v + step ≤ roundTo 4 (min (roundTo 4 (max (v + step) (v * 2))) (v + step)) :=
    le_roundTo hsum (le_min hmax le_rfl)
  linarith

/-! ## A cycle that promotes it -/

section

variable {name : String} {r : Registry}

theorem mem_orderedTargets (counts : String → Nat) (hname : isMemoryParameter name = true) :
    name ∈ orderedTargets counts := by
  unfold isMemoryParameter at hname
  simp only [Bool.and_eq_true] at hname
  unfold orderedTargets allDynamicParameters
  rw [List.mem_insertionSort, List.mem_dedup]
  exact List.mem_append_left _ (by simpa using hname.1.1)

theorem perturb_all (readAt : String → Time) (targets : List String) {limit : Int}
    {specs : List ShadowTrialSpec} (hconsistent : r.Consistent)
    (hlimit : specs.length + 2 * targets.length < limit) :
    (perturb readAt limit targets r specs).1.Consistent
      ∧ specs ⊆ (perturb readAt limit targets r specs).2
      ∧ (perturb readAt limit targets r specs).2.length ≤ specs.length + 2 * targets.length
      ∧ (name ∈ targets → candidateUp name (r.value systemEngine name)
            ≠ r.value systemEngine name →
          .parameter name (r.value systemEngine name)
              (candidateUp name (r.value systemEngine name))
            ∈ (perturb readAt limit targets r specs).2) := by
  induction targets generalizing r specs with
  | nil => exact ⟨hconsistent, List.Subset.refl _, le_rfl, fun h => (List.not_mem_nil h).elim⟩
  | cons targetId targets ih =>
      have hgrows : ∀ (current candidate : Rat) (old : List ShadowTrialSpec),
          old ⊆ withCandidate targetId current candidate old
            ∧ (withCandidate targetId current candidate old).length ≤ old.length + 1 := by
        intro current candidate old
        unfold withCandidate
        split
        · simp
        · simp
      obtain ⟨hseeded, hleaves⟩ := @Registry.sync_spec systemEngine r hconsistent (readAt targetId)
      set current := (r.sync systemEngine (readAt targetId)).cached systemEngine targetId none
        with hcurrent
      set up := withCandidate targetId current (candidateUp targetId current) specs with hup
      set down := withCandidate targetId current (candidateDown targetId current) up with hdown
      obtain ⟨hupSubset, hupLength⟩ := hgrows current (candidateUp targetId current) specs
      obtain ⟨hdownSubset, hdownLength⟩ := hgrows current (candidateDown targetId current) up
      rw [← hup] at hupSubset hupLength
      rw [← hdown] at hdownSubset hdownLength
      rw [List.length_cons] at hlimit
      have hperturb : perturb readAt limit (targetId :: targets) r specs
          = perturb readAt limit targets (r.sync systemEngine (readAt targetId)) down := by
        rw [perturb, if_neg (by omega)]
        dsimp only
        rw [← hcurrent, ← hup, if_neg (by omega)]
      rw [hperturb]
      obtain ⟨hdone, hsubset, hlength, hlater⟩ := @ih (r.sync systemEngine (readAt targetId)) down
        hleaves.consistent (by omega)
      rw [hleaves.value] at hlater
      refine ⟨hdone, fun _ h => hsubset (hdownSubset (hupSubset h)), ?_, fun hmem hmoves => ?_⟩
      · rw [List.length_cons]
        omega
      · rcases List.mem_cons.mp hmem with rfl | hmem
        · have hvalue : current = r.value systemEngine name := by
            rw [hcurrent, Registry.cached_eq_value hleaves.consistent hseeded, hleaves.value]
          refine hsubset (hdownSubset ?_)
          rw [hup, hvalue, withCandidate, if_pos hmoves]
          exact List.mem_append_right _ List.mem_cons_self
        · exact hlater hmem hmoves

/-- A cycle in which exactly the trials of one candidate pass. -/
def growthCall (name : String) (current : Rat) : CycleCall where
  maxTrials := 2 * (orderedTargets fun _ => 0).length + 3
  autoPromote := true
  useEma := false
  counts _ := 0
  readAt _ := 0
  prompts := []
  outcome _ spec :=
    if spec = .parameter name current (candidateUp name current) then ⟨fun _ => [true], some false⟩
    else ⟨fun _ => [], some true⟩
  trialAt _ := 0
  trialId _ := "trial"

theorem trial_of_ne {spec : ShadowTrialSpec} {current : Rat}
    (hspec : spec ≠ .parameter name current (candidateUp name current)) (n : Nat) :
    executeShadowTrial r spec ((growthCall name current).outcome n spec) true false 0 "trial"
      = r := by
  have houtcome : (growthCall name current).outcome n spec = ⟨fun _ => [], some true⟩ :=
    if_neg hspec
  rw [houtcome]
  have hpassed : ∀ cases, TrialOutcome.passed ⟨fun _ => [], some true⟩ cases = false := by
    intro cases
    unfold TrialOutcome.passed
    simp
  cases spec with
  | promptLayer targetId content => rfl
  | parameter targetId baseline candidate =>
      unfold executeShadowTrial TrialOutcome.promoted TrialOutcome.readsThreshold
      simp [hpassed]

theorem trial_of_eq (hname : isMemoryParameter name = true) (hconsistent : r.Consistent)
    (current : Rat) (n : Nat) :
    ∃ v, Registry.Sets systemEngine r
      (executeShadowTrial r (.parameter name current (candidateUp name current))
        ((growthCall name current).outcome n
          (.parameter name current (candidateUp name current))) true false 0 "trial")
      name (candidateUp name current) v := by
  have houtcome : (growthCall name current).outcome n
      (.parameter name current (candidateUp name current)) = ⟨fun _ => [true], some false⟩ :=
    if_pos rfl
  have hbehavioural : [("memory.regression.gate" : String), "runtime.parameter.valid"].any
      isBehavioralEvalCase = true := by decide +kernel
  have hpromoted : TrialOutcome.promoted ⟨fun _ => [true], some false⟩ name true = true := by
    unfold TrialOutcome.promoted TrialOutcome.passed evalCasesForParameter
    simp only [hname, if_true, hbehavioural]
    rfl
  rw [houtcome]
  unfold executeShadowTrial
  dsimp only
  rw [if_pos hpromoted, if_neg Bool.false_ne_true]
  have hnone : Dict.get [] "previous_value" = none := rfl
  split
  · obtain ⟨-, hleaves⟩ := @Registry.sync_spec systemEngine r hconsistent 0
    exact ⟨_, hleaves.trans_sets (Registry.set_sets_of_none hleaves.consistent hnone)⟩
  · exact ⟨_, Registry.set_sets_of_none hconsistent hnone⟩

theorem trials_growth (hname : isMemoryParameter name = true) (current : Rat)
    (specs : List ShadowTrialSpec) (n : Nat) (hconsistent : r.Consistent) :
    (runTrials (growthCall name current) n r specs).Consistent
      ∧ (runTrials (growthCall name current) n r specs).value systemEngine name
        = if .parameter name current (candidateUp name current) ∈ specs
          then candidateUp name current else r.value systemEngine name := by
  induction specs generalizing n r with
  | nil => exact ⟨hconsistent, (if_neg List.not_mem_nil).symm⟩
  | cons spec specs ih =>
      have hcall : runTrials (growthCall name current) n r (spec :: specs)
          = runTrials (growthCall name current) (n + 1)
              (executeShadowTrial r spec ((growthCall name current).outcome n spec) true false 0
                "trial") specs := rfl
      rw [hcall]
      by_cases hspec : spec = .parameter name current (candidateUp name current)
      · subst hspec
        obtain ⟨v, hsets⟩ := trial_of_eq hname hconsistent current n
        obtain ⟨hdone, hvalue⟩ := ih (n + 1) hsets.consistent
        refine ⟨hdone, ?_⟩
        rw [hvalue, hsets.value, if_pos rfl, ite_self, if_pos List.mem_cons_self]
      · rw [trial_of_ne hspec]
        obtain ⟨hdone, hvalue⟩ := ih (n + 1) hconsistent
        refine ⟨hdone, ?_⟩
        rw [hvalue]
        simp only [List.mem_cons, Ne.symm hspec, false_or]

theorem cycle_growth (hname : isMemoryParameter name = true) (hconsistent : r.Consistent)
    (hmoves : candidateUp name (r.value systemEngine name) ≠ r.value systemEngine name) :
    (runAutonomousCycle r (growthCall name (r.value systemEngine name))).Consistent
      ∧ (runAutonomousCycle r (growthCall name (r.value systemEngine name))).value systemEngine name
        = candidateUp name (r.value systemEngine name) := by
  set current := r.value systemEngine name with hcurrent
  have hlimit : max 1 ((growthCall name current).maxTrials - 2)
      = 2 * ((orderedTargets fun _ => 0).length : Int) + 1 := by
    show max 1 (2 * ((orderedTargets fun _ => 0).length : Int) + 3 - 2) = _
    omega
  have hplanned := @perturb_all name r (growthCall name current).readAt
    (orderedTargets fun _ => 0) (2 * ((orderedTargets fun _ => 0).length : Int) + 1) []
    hconsistent (by rw [List.length_nil]; omega)
  rcases hresult : perturb (growthCall name current).readAt
      (max 1 ((growthCall name current).maxTrials - 2))
      (orderedTargets (growthCall name current).counts) r [] with ⟨read, specs⟩
  have hcycle := runAutonomousCycle_eq (cycleSpecs_eq hresult)
  rw [← hlimit] at hplanned
  change perturb _ _ (orderedTargets fun _ => 0) _ _ = _ at hresult
  rw [hresult] at hplanned
  dsimp only at hplanned hcycle
  obtain ⟨hread, -, hlength, hmem⟩ := hplanned
  -- neither slice drops a spec
  have hspecs : sliceTo (growthCall name current).maxTrials
      (specs.take (max 1 ((growthCall name current).maxTrials - 2)).toNat ++ []) = specs := by
    rw [hlimit, List.append_nil]
    show sliceTo (2 * ((orderedTargets fun _ => 0).length : Int) + 3) _ = specs
    rw [sliceTo, if_pos (by omega), List.take_take, List.take_of_length_le]
    rw [List.length_nil] at hlength
    omega
  have hprompts : (growthCall name current).prompts = [] := rfl
  rw [hprompts, List.map_nil, hspecs] at hcycle
  rw [hcycle]
  obtain ⟨hdone, hvalue⟩ := trials_growth hname current specs 0 hread
  refine ⟨hdone, ?_⟩
  rw [hvalue, if_pos (hmem (mem_orderedTargets _ hname) hmoves)]

end

/-! ## Cycles after cycles -/

section

variable {name : String}

theorem cycles_growth (hname : isMemoryParameter name = true)
    (hentry : explorationBounds? name = none) (n : Nat) :
    ∃ labels r, arenaSystem.run (.start .empty) labels = some ⟨r.parameters, [r]⟩
      ∧ r.Consistent ∧ OnGrid 4 (r.value systemEngine name)
      ∧ shippedDefault name + n * (1 / 100) ≤ r.value systemEngine name := by
  induction n with
  | zero =>
      refine ⟨[.create], .fresh, rfl, fresh_consistent, shippedDefault_onGrid name, ?_⟩
      show shippedDefault name + (0 : Nat) * (1 / 100) ≤ shippedDefault name
      simp
  | succ n ih =>
      obtain ⟨labels, r, hrun, hconsistent, hgrid, hvalue⟩ := ih
      have hup := step_le_candidateUp hentry hgrid
      have hmoves : candidateUp name (r.value systemEngine name) ≠ r.value systemEngine name := by
        intro hsame
        linarith
      obtain ⟨hdone, hraised⟩ := cycle_growth hname hconsistent hmoves
      refine ⟨labels ++ [.cycle 0 (growthCall name (r.value systemEngine name))], _, ?_, hdone, ?_,
        ?_⟩
      · rw [System.run_append, hrun]
        rfl
      · rw [hraised]
        exact roundTo_onGrid _ _
      · rw [hraised]
        push_cast
        linarith

theorem drift_unbounded (hname : isMemoryParameter name = true)
    (hentry : explorationBounds? name = none) : ¬ DriftBounded name := by
  rintro ⟨low, high, hbounded⟩
  have habsent : ∀ other, AtDefault .empty other := by
    intro other row hrow
    cases hrow
  obtain ⟨n, hn⟩ := exists_nat_gt ((high - shippedDefault name) * 100)
  obtain ⟨labels, r, hrun, -, -, hvalue⟩ := cycles_growth hname hentry n
  have hhigh : r.value systemEngine name ≤ high :=
    (hbounded .empty labels _ (habsent name) (habsent emaAlpha) hrun).2
  linarith

/-- The drift is bounded exactly where the parameter is none of memory or has an entry. -/
theorem drift_bounded_iff (name : String) :
    (DriftBounded name ∧ ChangesOnlyVerified name)
      ↔ (isMemoryParameter name = true → (explorationBounds? name).isSome = true) := by
  constructor
  · rintro ⟨hbounded, -⟩ hname
    by_contra hentry
    exact drift_unbounded hname (by simpa using hentry) hbounded
  · intro hentry
    refine ⟨?_, changesOnlyVerified name⟩
    cases hmemory : isMemoryParameter name with
    | false =>
        exact @driftBounded_of_closed name (shippedDefault name) (shippedDefault name)
          ⟨le_rfl, le_rfl⟩ (closed_of_not_memory _ hmemory)
    | true =>
        exact driftBounded_of_closed (inBounds_default name) (closed_of_entry (hentry hmemory))

/-- The greatest boost of a memory that is often recalled has no entry. -/
theorem extra_boost_drifts : ¬ DriftBounded "tf_max_extra_boost" :=
  drift_unbounded (by decide +kernel) (by decide +kernel)

end

end Navi.SelfPlay
