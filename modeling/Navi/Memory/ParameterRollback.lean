import Mathlib
import Navi.Base.JsonText
import Navi.Memory.ParameterRegistry

/-!
# When a parameter rollback undoes the last change

The metadata of a row carries the value that a rollback restores. Every call that changes a
parameter leaves there the value that it replaced, but for a gradient step and a smoothing of
a row that carries one already: these leave what the row carries.
-/

namespace Navi.Memory

open Navi.Base

namespace Registry

def value (engine : RegistryEngine) (r : Registry) (name : String) : Rat :=
  ((r.parameters.get? name).map (·.value)).getD ((engine.default? name).getD 0)

/-- What the row carries for a rollback. -/
def previous (r : Registry) (name : String) : Option Json :=
  (r.metadata name).get "previous_value"

/-- The cache of a seeded registry has the values of the rows, and what they carry is a float. -/
structure Consistent (r : Registry) : Prop where
  cached : r.seeded = true → ∀ name,
    (r.cache.get? name).map (·.2) = (r.parameters.get? name).map (·.value)
  floats : ∀ name carried, r.previous name = some carried → ∃ x, carried = .float x

/-- Every value and what every row carries are as they were. -/
structure Leaves (engine : RegistryEngine) (r r' : Registry) : Prop where
  consistent : r'.Consistent
  value : ∀ name, r'.value engine name = r.value engine name
  previous : ∀ name, r'.previous name = r.previous name

/-- One parameter is set, and its row carries this. -/
structure Sets (engine : RegistryEngine) (r r' : Registry) (name : String) (value carried : Rat) :
    Prop where
  consistent : r'.Consistent
  value : ∀ other, r'.value engine other = if name = other then value else r.value engine other
  previous : ∀ other, r'.previous other
    = if name = other then some (.float carried) else r.previous other

/-- What a call leaves in a row that it builds from the row that was there. -/
def carriedOn (engine : RegistryEngine) (r : Registry) (name : String) : Rat :=
  match r.previous name with
  | some (.float x) => x
  | _ => r.value engine name

end Registry

namespace ParameterCall

def name : ParameterCall → String
  | .set name .. | .applyGradient name .. | .applyEma name .. | .decayTowardsDefault name ..
  | .resetToDefault name .. | .rollback name .. => name

/-- The call builds its row from the row that is there. -/
def copies : ParameterCall → Bool
  | .applyGradient .. | .applyEma .. => true
  | _ => false

/-- The call wrote a row, as what it returned says. -/
def wrote : ParameterCall → Option (Option Rat) → Bool
  | _, none => false
  | .rollback .., some restored => restored.isSome
  | _, some _ => true

/-- What the row of the call carries. -/
def carries (engine : RegistryEngine) (r : Registry) (call : ParameterCall) : Rat :=
  if call.copies then r.carriedOn engine call.name else r.value engine call.name

/-- The call builds its row from one that carries another value than the one in force. -/
def CarriesOther (engine : RegistryEngine) (r : Registry) (call : ParameterCall) : Prop :=
  call.copies = true
    ∧ ∃ x, r.previous call.name = some (.float x) ∧ x ≠ r.value engine call.name

end ParameterCall

/-- The most recent change of a parameter, with the registry before it. -/
def lastChange (engine : RegistryEngine) (name : String) :
    Registry → List ParameterCall → Option (Registry × ParameterCall)
  | _, [] => none
  | r, call :: rest =>
      let next := (registryMachine engine).step r call
      (lastChange engine name next.1 rest).or
        (if call.name = name ∧ call.wrote next.2 then some (r, call) else none)

/-- A rollback after the calls restores what was in force before the most recent change, and
before any change it leaves what is in force. -/
def RollbackUndoes (engine : RegistryEngine) (calls : List ParameterCall) (name reason : String)
    (now : Time) : Prop :=
  let r := (registryMachine engine).run .fresh calls
  (r.rollback engine name reason now).1.value engine name
    = ((lastChange engine name .fresh calls).map (·.1.value engine name)).getD
        (r.value engine name)

/-- The most recent change did not leave another value than the one it replaced. -/
def LastChangeRecorded (engine : RegistryEngine) (calls : List ParameterCall) (name : String) :
    Prop :=
  ∀ change ∈ lastChange engine name .fresh calls, ¬ change.2.CarriesOther engine change.1

namespace Registry

variable {engine : RegistryEngine} {r r' r'' : Registry} {name : String}

theorem Leaves.refl (h : r.Consistent) : Leaves engine r r := ⟨h, fun _ => rfl, fun _ => rfl⟩

theorem Leaves.trans_sets {v carried : Rat} (h : Leaves engine r r')
    (h' : Sets engine r' r'' name v carried) : Sets engine r r'' name v carried := by
  refine ⟨h'.consistent, fun other => ?_, fun other => ?_⟩
  · rw [h'.value, h.value]
  · rw [h'.previous, h.previous]

/-! ## Syncing -/

theorem get?_seed (parameters : Table String Parameter (·.name)) (now : Time) :
    (seed engine parameters now).get? name
      = (parameters.get? name).or
          ((engine.defaults.find? (·.1 = name)).map fun entry => seededParameter entry now) := by
  unfold seed
  generalize engine.defaults = defaults
  induction defaults generalizing parameters with
  | nil => simp
  | cons entry rest ih =>
      rw [List.foldl_cons, ih, Table.get?_insertOrIgnore, List.find?_cons, Option.or_assoc]
      have hname : (seededParameter entry now).name = entry.1 := rfl
      rw [hname]
      by_cases hentry : entry.1 = name
      · simp [hentry]
      · simp [hentry]

theorem get?_load (parameters : Table String Parameter (·.name)) :
    ((load parameters).get? name).map (·.2) = (parameters.get? name).map (·.value) := by
  unfold load Table.get?
  rw [List.find?_map, Option.map_map]
  rfl

theorem previous_of_get? {parameter : Parameter} (h : r.parameters.get? name = some parameter) :
    r.previous name = parameter.metadata.get "previous_value" := by
  simp [previous, metadata, h]

theorem previous_of_none (h : r.parameters.get? name = none) : r.previous name = none := by
  simp [previous, metadata, h]

theorem leaves_seed (h : r.Consistent) (now : Time) (lastLoadedAt : Time) :
    Leaves engine r ⟨seed engine r.parameters now, load (seed engine r.parameters now),
      lastLoadedAt, true⟩ := by
  have hprevious : ∀ other, Registry.previous ⟨seed engine r.parameters now,
      load (seed engine r.parameters now), lastLoadedAt, true⟩ other = r.previous other := by
    intro other
    cases hrow : r.parameters.get? other with
    | some row =>
        rw [previous_of_get? hrow, previous_of_get?]
        show (seed engine r.parameters now).get? other = some row
        rw [get?_seed, hrow, Option.some_or]
    | none =>
        rw [previous_of_none hrow]
        cases hdefault : engine.defaults.find? (·.1 = other) with
        | none =>
            refine previous_of_none ?_
            show (seed engine r.parameters now).get? other = none
            rw [get?_seed, hrow, hdefault]
            rfl
        | some entry =>
            rw [@previous_of_get? _ _ (seededParameter entry now)]
            · simp [seededParameter]
            · show (seed engine r.parameters now).get? other = _
              rw [get?_seed, hrow, hdefault]
              rfl
  refine ⟨⟨fun _ other => get?_load _, fun other carried hcarried => ?_⟩, fun other => ?_,
    hprevious⟩
  · rw [hprevious] at hcarried
    exact h.floats other carried hcarried
  · show ((Table.get? (seed engine r.parameters now) other).map (·.value)).getD _ = _
    unfold value
    rw [get?_seed]
    cases hrow : r.parameters.get? other with
    | some row => rfl
    | none =>
        unfold RegistryEngine.default?
        cases engine.defaults.find? (·.1 = other) with
        | none => rfl
        | some entry => rfl

theorem sync_spec (h : r.Consistent) (now : Time) :
    (r.sync engine now).seeded = true ∧ Leaves engine r (r.sync engine now) := by
  unfold sync
  split
  next hfresh => exact ⟨hfresh.1, Leaves.refl h⟩
  next =>
    refine ⟨rfl, ?_⟩
    by_cases hseeded : r.seeded = true
    · simp only [hseeded, if_true]
      exact ⟨⟨fun _ other => get?_load _, h.floats⟩, fun _ => rfl, fun _ => rfl⟩
    · simp only [hseeded]
      exact leaves_seed h now now

theorem cached_eq_value (h : r.Consistent) (hseeded : r.seeded = true) :
    r.cached engine name none = r.value engine name := by
  unfold cached value
  rw [h.cached hseeded]
  rfl

/-! ## Writing -/

theorem write_sets (h : r.Consistent) {row : Parameter} {carried : Rat}
    (hcarried : row.metadata.get "previous_value" = some (.float carried)) :
    Sets engine r (r.write row) row.name row.value carried := by
  have hget : ∀ other, (r.write row).parameters.get? other
      = if row.name = other then some row else r.parameters.get? other :=
    fun other => Table.get?_upsert _ _ _
  have hprevious : ∀ other, (r.write row).previous other
      = if row.name = other then some (.float carried) else r.previous other := by
    intro other
    unfold previous metadata
    rw [hget]
    split
    next => exact hcarried
    next => rfl
  refine ⟨⟨fun hseeded other => ?_, fun other found hfound => ?_⟩, fun other => ?_, hprevious⟩
  · show ((r.cache.upsert (row.name, row.value)).get? other).map (·.2) = _
    rw [Table.get?_upsert, hget]
    split
    next => rfl
    next => exact h.cached hseeded other
  · rw [hprevious] at hfound
    split at hfound
    next => exact ⟨carried, (Option.some.inj hfound).symm⟩
    next => exact h.floats other found hfound
  · unfold value
    rw [hget]
    split
    next => rfl
    next => rfl

theorem set_sets_of_none (h : r.Consistent) {metadata : Dict} {v : Rat} {reason : String}
    {now : Time} (hnone : metadata.get "previous_value" = none) :
    Sets engine r (r.set engine name v reason metadata now) name v (r.value engine name) := by
  obtain ⟨hseeded, hleaves⟩ := @sync_spec engine r h now
  unfold set
  rw [if_neg (by simp [hnone])]
  refine hleaves.trans_sets (write_sets hleaves.consistent ?_)
  rw [← hleaves.value name, ← cached_eq_value hleaves.consistent hseeded]
  simp

theorem set_sets_of_some (h : r.Consistent) {metadata : Dict} {v carried : Rat} {reason : String}
    {now : Time} (hsome : metadata.get "previous_value" = some (.float carried)) :
    Sets engine r (r.set engine name v reason metadata now) name v carried := by
  unfold set
  rw [if_pos (by simp [hsome])]
  exact write_sets h (by simp [hsome])

theorem set_sets_of_copy (h : r.Consistent) {metadata : Dict} {v : Rat} {reason : String}
    {now : Time} (hcopy : metadata.get "previous_value" = r.previous name) :
    Sets engine r (r.set engine name v reason metadata now) name v (r.carriedOn engine name) := by
  unfold carriedOn
  cases hprevious : r.previous name with
  | none =>
      rw [hprevious] at hcopy
      exact set_sets_of_none h hcopy
  | some carried =>
      obtain ⟨x, rfl⟩ := h.floats name carried hprevious
      rw [hprevious] at hcopy
      exact set_sets_of_some h hcopy

/-! ## The calls -/

theorem Leaves.carriedOn (h : Leaves engine r r') :
    r'.carriedOn engine name = r.carriedOn engine name := by
  unfold Registry.carriedOn
  rw [h.previous, h.value]

theorem resetToDefault_sets (h : r.Consistent) (reason : String) (now : Time) :
    ∃ v, Sets engine r (r.resetToDefault engine name reason now).1 name v
      (r.value engine name) := by
  have hnone : Dict.get [] "previous_value" = none := rfl
  exact ⟨_, set_sets_of_none h hnone⟩

theorem decayTowardsDefault_sets (h : r.Consistent) (factor : Rat) (reason : String)
    (now : Time) : ∃ v, Sets engine r (r.decayTowardsDefault engine name factor reason now).1
      name v (r.value engine name) := by
  obtain ⟨-, hleaves⟩ := @sync_spec engine r h now
  have hnone : Dict.get [] "previous_value" = none := rfl
  rw [← hleaves.value name]
  exact ⟨_, hleaves.trans_sets (set_sets_of_none hleaves.consistent hnone)⟩

theorem applyEma_sets (h : r.Consistent) (candidate : Rat) (alpha : Option Rat)
    (bounds : Option (Rat × Rat)) (reason : String) (now : Time) :
    ∃ v, Sets engine r (r.applyEma engine name candidate alpha bounds reason now).1
      name v (r.carriedOn engine name) := by
  obtain ⟨-, hleaves⟩ := @sync_spec engine r h now
  rw [← hleaves.carriedOn]
  exact ⟨_, hleaves.trans_sets (set_sets_of_copy hleaves.consistent (by simp [previous]))⟩

theorem applyGradient_cases (h : r.Consistent) (gradient : Rat) (learningRate beta : Option Rat)
    (bounds : Option (Rat × Rat)) (reason : String) (now : Time) :
    let done := r.applyGradient engine name gradient learningRate beta bounds reason now
    (done.2 = none ∧ Leaves engine r done.1)
      ∨ (∃ v, done.2 = some (some v)) ∧ ∃ v, Sets engine r done.1 name v
          (r.carriedOn engine name) := by
  obtain ⟨-, hleaves⟩ := @sync_spec engine r h now
  dsimp only
  unfold applyGradient
  dsimp only
  split
  next oldMomentum oldStep _ _ =>
    split
    next => exact .inl ⟨rfl, hleaves⟩
    next =>
      rw [← hleaves.carriedOn]
      exact .inr ⟨⟨_, rfl⟩, _, hleaves.trans_sets
        (set_sets_of_copy hleaves.consistent (by simp [previous]))⟩
  next => exact .inl ⟨rfl, hleaves⟩

theorem rollback_of_some (h : r.Consistent) {x : Rat}
    (hprevious : r.previous name = some (.float x)) (reason : String) (now : Time) :
    (r.rollback engine name reason now).2 = some (some x)
      ∧ Sets engine r (r.rollback engine name reason now).1 name x (r.value engine name) := by
  obtain ⟨hseeded, hleaves⟩ := @sync_spec engine r h now
  have hcarried : ((r.sync engine now).metadata name).get "previous_value" = some (.float x) := by
    rw [← hprevious, ← hleaves.previous]
    rfl
  unfold rollback
  dsimp only
  rw [hcarried]
  dsimp only
  rw [engine.toFloat_float]
  refine ⟨rfl, ?_⟩
  rw [cached_eq_value hleaves.consistent hseeded, hleaves.value]
  have hown : Dict.get [("previous_value", .float (r.value engine name))] "previous_value"
      = some (.float (r.value engine name)) := by simp
  exact hleaves.trans_sets (set_sets_of_some hleaves.consistent hown)

theorem rollback_of_none (h : r.Consistent) (hprevious : r.previous name = none) (reason : String)
    (now : Time) : (r.rollback engine name reason now).2 = some none
      ∧ Leaves engine r (r.rollback engine name reason now).1 := by
  obtain ⟨-, hleaves⟩ := @sync_spec engine r h now
  have hnone : ((r.sync engine now).metadata name).get "previous_value" = none := by
    rw [← hprevious, ← hleaves.previous]
    rfl
  unfold rollback
  dsimp only
  rw [hnone]
  exact ⟨rfl, hleaves⟩

end Registry

/-! ## Runs -/

section

variable {engine : RegistryEngine} {r : Registry} {name : String}

/-- A call sets its parameter, whose row then carries what the call leaves in it, or it wrote
nothing. -/
theorem registry_step_cases (h : r.Consistent) (call : ParameterCall) :
    let next := (registryMachine engine).step r call
    (call.wrote next.2 = false ∧ Registry.Leaves engine r next.1)
      ∨ call.wrote next.2 = true
        ∧ ∃ v, Registry.Sets engine r next.1 call.name v (call.carries engine r) := by
  cases call with
  | set name v reason now =>
      have hnone : Dict.get [] "previous_value" = none := rfl
      exact .inr ⟨rfl, v, Registry.set_sets_of_none h hnone⟩
  | applyGradient name gradient learningRate beta bounds reason now =>
      rcases @Registry.applyGradient_cases engine r name h gradient learningRate beta bounds reason
          now with ⟨hnone, hleaves⟩ | ⟨⟨v, hsome⟩, hsets⟩
      · refine .inl ⟨?_, hleaves⟩
        show ParameterCall.wrote _ (Prod.snd _) = false
        simp only [registryMachine, hnone, ParameterCall.wrote]
      · refine .inr ⟨?_, hsets⟩
        simp only [registryMachine, hsome, ParameterCall.wrote]
  | applyEma name candidate alpha bounds reason now =>
      exact .inr ⟨rfl, Registry.applyEma_sets h candidate alpha bounds reason now⟩
  | decayTowardsDefault name factor reason now =>
      exact .inr ⟨rfl, Registry.decayTowardsDefault_sets h factor reason now⟩
  | resetToDefault name reason now => exact .inr ⟨rfl, Registry.resetToDefault_sets h reason now⟩
  | rollback name reason now =>
      cases hprevious : r.previous name with
      | none =>
          obtain ⟨hnone, hleaves⟩ := @Registry.rollback_of_none engine r name h hprevious reason now
          refine .inl ⟨?_, hleaves⟩
          simp only [registryMachine, hnone, ParameterCall.wrote, Option.isSome_none]
      | some carried =>
          obtain ⟨x, rfl⟩ := h.floats name carried hprevious
          obtain ⟨hsome, hsets⟩ := @Registry.rollback_of_some engine r name h x hprevious reason now
          refine .inr ⟨?_, x, hsets⟩
          simp only [registryMachine, hsome, ParameterCall.wrote, Option.isSome_some]

theorem fresh_consistent : Registry.fresh.Consistent where
  cached h := by cases h
  floats name carried h := by
    rw [Registry.previous_of_none rfl] at h
    cases h

theorem run_consistent (h : r.Consistent) (calls : List ParameterCall) :
    ((registryMachine engine).run r calls).Consistent := by
  refine Machine.run_preserves _ (fun r call hr => ?_) h calls
  rcases @registry_step_cases engine r hr call with ⟨-, hleaves⟩ | ⟨-, v, hsets⟩
  · exact hleaves.consistent
  · exact hsets.consistent

/-- After a run the row carries what the most recent change left in it; where there was none,
what it carried before. -/
theorem run_previous (h : r.Consistent) (calls : List ParameterCall) :
    ((registryMachine engine).run r calls).previous name
        = ((lastChange engine name r calls).map fun change =>
            some (.float (change.2.carries engine change.1))).getD (r.previous name)
      ∧ ∀ change ∈ lastChange engine name r calls, change.1.Consistent
        ∧ change.2.name = name := by
  induction calls generalizing r with
  | nil =>
      refine ⟨rfl, ?_⟩
      intro change hchange
      cases hchange
  | cons call rest ih =>
      have hcases := @registry_step_cases engine r h call
      dsimp only at hcases
      have hnext : ((registryMachine engine).step r call).1.Consistent := by
        rcases hcases with ⟨-, hleaves⟩ | ⟨-, v, hsets⟩
        · exact hleaves.consistent
        · exact hsets.consistent
      obtain ⟨hrun, hbefore⟩ := ih hnext
      rw [Machine.run_cons, hrun]
      simp only [lastChange]
      cases hlater : lastChange engine name ((registryMachine engine).step r call).1 rest with
      | some change =>
          -- the most recent change is a later one
          rw [hlater] at hbefore
          exact ⟨rfl, hbefore⟩
      | none =>
          rw [Option.none_or]
          split
          next hchanges =>
            obtain ⟨hname, hwrote⟩ := hchanges
            rcases hcases with ⟨hnot, -⟩ | ⟨-, v, hsets⟩
            · rw [hnot] at hwrote
              cases hwrote
            · refine ⟨?_, ?_⟩
              · show Registry.previous _ name = some _
                rw [hsets.previous, if_pos hname]
              · rintro change hchange
                obtain rfl := Option.some.inj hchange
                exact ⟨h, hname⟩
          next hchanges =>
            refine ⟨?_, by intro change hchange; cases hchange⟩
            show Registry.previous _ name = r.previous name
            rcases hcases with ⟨-, hleaves⟩ | ⟨hwrote, v, hsets⟩
            · exact hleaves.previous name
            · rw [hsets.previous, if_neg fun hname => hchanges ⟨hname, hwrote⟩]

/-- What a call leaves in its row is the value that it replaced, unless it carries on another. -/
theorem carries_eq_value_iff (h : r.Consistent) (call : ParameterCall) :
    call.carries engine r = r.value engine call.name ↔ ¬ call.CarriesOther engine r := by
  unfold ParameterCall.carries ParameterCall.CarriesOther
  cases hcopies : call.copies with
  | false => simp
  | true =>
      simp only [if_true, true_and, Registry.carriedOn]
      cases hprevious : r.previous call.name with
      | none => simp
      | some carried =>
          obtain ⟨x, rfl⟩ := h.floats _ carried hprevious
          simp

/-- A rollback undoes the last change exactly where that change was recorded. -/
theorem rollbackUndoes_iff (engine : RegistryEngine) (calls : List ParameterCall)
    (name reason : String) (now : Time) :
    RollbackUndoes engine calls name reason now ↔ LastChangeRecorded engine calls name := by
  have hconsistent := @run_consistent engine .fresh fresh_consistent calls
  obtain ⟨hrun, hbefore⟩ := @run_previous engine .fresh name fresh_consistent calls
  unfold RollbackUndoes LastChangeRecorded
  dsimp only
  cases hchange : lastChange engine name .fresh calls with
  | none =>
      rw [hchange] at hrun
      have hnone : ((registryMachine engine).run .fresh calls).previous name = none := hrun
      obtain ⟨-, hleaves⟩ := Registry.rollback_of_none hconsistent hnone reason now
      refine ⟨?_, fun _ => hleaves.value name⟩
      intro _ change hnone
      cases hnone
  | some change =>
      rw [hchange] at hrun hbefore
      obtain ⟨hchanged, hname⟩ := hbefore change rfl
      obtain ⟨-, hsets⟩ := Registry.rollback_of_some hconsistent hrun reason now
      rw [hsets.value, if_pos rfl]
      show change.2.carries engine change.1 = change.1.value engine name ↔ _
      rw [← hname, carries_eq_value_iff hchanged]
      constructor
      · intro hnot other hother
        obtain rfl := Option.some.inj hother
        exact hnot
      · intro h
        exact h change rfl

end

/-! ## A smoothing after a change -/

def plainRegistry : RegistryEngine where
  defaults := systemDynamicParameters
  toFloat := Json.readNumber
  toFloat_float := Json.readNumber_float
  toInt := Json.readInteger
  toInt_int := Json.readInteger_int
  rounded places x := (x * 10 ^ places + 1 / 2).floor / 10 ^ places

/-- A parameter is set and then smoothed. -/
def setAndSmoothed : List ParameterCall :=
  [.set "ltp_boost_delta" (1 / 10) "tuned" 0,
    .applyEma "ltp_boost_delta" (3 / 10) (some (1 / 2)) none "ema_smoothing" 1]

/-- The rollback restores what was in force before the parameter was set. -/
theorem setAndSmoothed_rollbackUndoes_not :
    ¬ RollbackUndoes plainRegistry setAndSmoothed "ltp_boost_delta" "undo" 2
      ∧ (((registryMachine plainRegistry).run .fresh setAndSmoothed).rollback plainRegistry
          "ltp_boost_delta" "undo" 2).2 = some (some (1 / 20)) := by
  unfold RollbackUndoes
  exact ⟨by decide +kernel, by decide +kernel⟩

end Navi.Memory
