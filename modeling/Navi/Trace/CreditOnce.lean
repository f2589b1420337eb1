import Navi.Trace.Credit

/-!
# When credit is assigned once

Nothing records that a trace was credited, so that each evaluation credits again what the
trace has to credit. What that is does not change by evaluations: the events stay, the stored
items stay stored, and the retry parameter stays readable.
-/

namespace Navi.Trace

open Navi.Base Navi.Memory

/-! ## What the law says -/

/-- What the evaluations of a trace credited over a run. -/
def creditsOf (engine : CreditEngine) (s : CreditState) (calls : List EvaluateCall)
    (traceId : String) : List CreditTarget :=
  (((creditMachine engine).trace s calls).filter (·.1.traceId = traceId)).flatMap (·.2)

/-- The same confidences and the same parameters. -/
def SameValues (s s' : MemoryTables) : Prop :=
  (∀ itemId, (s'.items.get? itemId).map (·.confidence) = (s.items.get? itemId).map (·.confidence))
    ∧ ∀ name, s'.parameterValue name = s.parameterValue name

/-- No evaluation of a trace credits what one before it has credited, and an evaluation that is
not the first of its trace changes no confidence and no parameter. -/
structure CreditedOnce (engine : CreditEngine) (s : CreditState) (calls : List EvaluateCall) :
    Prop where
  once : ∀ traceId, (creditsOf engine s calls traceId).Nodup
  again : ∀ before call after, calls = before ++ call :: after →
    call.traceId ∈ before.map (·.traceId) →
    SameValues ((creditMachine engine).run s before).memory
      ((creditMachine engine).run s (before ++ [call])).memory

/-! ## What a trace has to credit -/

/-- What `float` and `int` read of the retry parameter, and zero is not raised to a negative
power. -/
def Readable (engine : CreditEngine) (beta : Rat) (metadata : Dict) : Prop :=
  ∃ momentum step, (metadata.get "momentum").elim (some 0) engine.toFloat = some momentum
    ∧ (metadata.get "step").elim (some 0) engine.toInt = some step ∧ ¬ (beta = 0 ∧ step + 1 < 0)

/-- The metadata of the retry parameter. -/
def retryMetadata (s : MemoryTables) : Dict :=
  ((s.parameters.get? retryParameter).map (·.metadata)).getD []

/-- The momentum that gradients keep. -/
def retryBeta (s : MemoryTables) : Rat := s.parameter "parameter_momentum_beta" (90 / 100)

/-- One of the planner calls of the trace names this item, and it is stored. -/
def UsesMemory (engine : CreditEngine) (s : CreditState) (traceId itemId : String) : Prop :=
  (∃ event ∈ syscallEvents engine ((s.events traceId).take eventLimit),
    itemId ∈ usedMemoryIds engine event)
    ∧ (s.memory.items.get? itemId).isSome

/-- The provider did not answer, and the retry parameter can be read. -/
def AdjustsRetry (engine : CreditEngine) (s : CreditState) (traceId : String) : Prop :=
  (evaluateTrace (s.events traceId)).1.failureDomain = .providerNoResponse
    ∧ Readable engine (retryBeta s.memory) (retryMetadata s.memory)

/-- The parameters that a failure is attributed to without a change. -/
def blamed : TraceFailureDomain → List CreditTarget
  | .loopNoProgress => [.attributed "dynamic_parameter" "loop_max_attempts_turn"]
  | .safeguardPolicy => [.attributed "dynamic_parameter" "safeguards_entropy_threshold"]
  | .capabilityFailure | .checkerBlocked | .misunderstanding | .plannerOrParser
  | .missingCompletionCheck | .providerNoResponse | .runtime | .traceMissing | .none => []

/-- The trace has this to credit: a stored item that one of its planner calls names, the retry
parameter where the provider did not answer, or a parameter that is blamed for the failure. -/
def Credits (engine : CreditEngine) (s : CreditState) (traceId : String) (target : CreditTarget) :
    Prop :=
  (s.events traceId).take eventLimit ≠ []
    ∧ (creditReward engine s.memory (evaluateTrace (s.events traceId))).isSome
    ∧ match target with
      | .memory itemId => UsesMemory engine s traceId itemId
      | .parameter name => name = retryParameter ∧ AdjustsRetry engine s traceId
      | .attributed nodeType targetId =>
          nodeType = "memory" ∧ UsesMemory engine s traceId targetId
            ∨ nodeType = "dynamic_parameter"
              ∧ (targetId = retryParameter ∧ AdjustsRetry engine s traceId
                ∨ .attributed nodeType targetId
                  ∈ blamed (evaluateTrace (s.events traceId)).1.failureDomain)

def NothingToCredit (engine : CreditEngine) (s : CreditState) (traceId : String) : Prop :=
  ∀ target, ¬ Credits engine s traceId target

section

variable {engine : CreditEngine} {s s' : CreditState} {m m' : MemoryTables} {now : Time}
  {traceId : String}

/-! ## The reward and the gradient -/

theorem creditReward_isSome (m m' : MemoryTables) (evaluated : Evaluated) :
    (creditReward engine m evaluated).isSome = (creditReward engine m' evaluated).isSome := by
  unfold creditReward
  split <;> rfl

theorem retryGradient_isSome_iff : (retryGradient engine m traceId now).isSome
    ↔ Readable engine (retryBeta m) (retryMetadata m) := by
  unfold retryGradient
  rw [Option.isSome_iff_exists]
  simp only [Option.bind_eq_bind, Option.bind_eq_some_iff]
  constructor
  · rintro ⟨_, momentum, hmomentum, step, hstep, h⟩
    refine ⟨momentum, step, hmomentum, hstep, ?_⟩
    intro hzero
    have hnone := (if_pos hzero).symm.trans h
    cases hnone
  · rintro ⟨momentum, step, hmomentum, hstep, hzero⟩
    exact ⟨_, momentum, hmomentum, step, hstep, if_neg hzero⟩

section

variable (metadata : Dict) (current momentum delta : Rat) (step : Int) (reason : String)

@[simp] theorem gradientMetadata_momentum :
    (gradientMetadata engine metadata current momentum step delta reason).get "momentum"
      = some (.float (engine.rounded 6 momentum)) := by
  unfold gradientMetadata
  dsimp only
  split <;> simp

@[simp] theorem gradientMetadata_step :
    (gradientMetadata engine metadata current momentum step delta reason).get "step"
      = some (.int step) := by
  unfold gradientMetadata
  dsimp only
  split <;> simp

end

theorem retryGradient_some {parameter : Parameter}
    (h : retryGradient engine m traceId now = some parameter) :
    parameter.name = retryParameter ∧ Readable engine (retryBeta m) parameter.metadata := by
  unfold retryGradient at h
  simp only [Option.bind_eq_bind, Option.bind_eq_some_iff] at h
  obtain ⟨momentum, -, step, -, h⟩ := h
  split at h
  · cases h
  next hzero =>
    obtain rfl := Option.some.inj h
    refine ⟨rfl, engine.rounded 6 (retryBeta m * momentum + (1 - retryBeta m) * 2), step + 1,
      ?_, ?_, ?_⟩
    · simp [engine.toFloat_float, retryBeta]
    · simp [engine.toInt_int]
    · rintro ⟨hbeta, hstep⟩
      exact hzero ⟨hbeta, by omega⟩

/-! ## What evaluations keep -/

/-- Another content of the tables with the same items stored, the same momentum factor and a
retry parameter that can be read where it could before. -/
structure SameTargets (engine : CreditEngine) (m m' : MemoryTables) : Prop where
  items : ∀ itemId, (m'.items.get? itemId).isSome = (m.items.get? itemId).isSome
  beta : retryBeta m' = retryBeta m
  readable : Readable engine (retryBeta m) (retryMetadata m')
    ↔ Readable engine (retryBeta m) (retryMetadata m)

theorem SameTargets.refl (m : MemoryTables) : SameTargets engine m m :=
  ⟨fun _ => rfl, rfl, Iff.rfl⟩

theorem SameTargets.trans {m'' : MemoryTables} (h : SameTargets engine m m')
    (h' : SameTargets engine m' m'') : SameTargets engine m m'' where
  items itemId := (h'.items itemId).trans (h.items itemId)
  beta := h'.beta.trans h.beta
  readable := by
    have hreadable := h'.readable
    rw [h.beta] at hreadable
    exact hreadable.trans h.readable

theorem systemDefault_of_mem {entry : String × Rat} (h : entry ∈ systemDynamicParameters) :
    systemDefault entry.1 = some entry.2 := by
  revert entry
  decide +kernel

theorem readable_seededParameter (beta : Rat) (entry : String × Rat) (now : Time) :
    Readable engine beta (seededParameter entry now).metadata :=
  ⟨0, 0, rfl, rfl, fun h => absurd h.2 (by omega)⟩

/-- The names and values of seeded rows are those of the system defaults, so that seeding
changes no value. -/
theorem parameterValue_seed {entry : String × Rat} (h : entry ∈ systemDynamicParameters)
    (name : String) :
    (m.setParameterIfAbsent (seededParameter entry now)).parameterValue name
      = m.parameterValue name := by
  unfold MemoryTables.parameterValue MemoryTables.setParameterIfAbsent
  rw [Table.get?_insertOrIgnore]
  cases m.parameters.get? name with
  | some parameter => rfl
  | none =>
      rw [Option.none_or, show (seededParameter entry now).name = entry.1 from rfl]
      by_cases hname : entry.1 = name
      · subst hname
        rw [if_pos rfl, systemDefault_of_mem h]
        rfl
      · rw [if_neg hname]

theorem sameTargets_seed {entry : String × Rat} (h : entry ∈ systemDynamicParameters) :
    SameTargets engine m (m.setParameterIfAbsent (seededParameter entry now)) where
  items _ := rfl
  beta := by
    unfold retryBeta MemoryTables.parameter
    rw [parameterValue_seed h]
  readable := by
    unfold retryMetadata MemoryTables.setParameterIfAbsent
    rw [Table.get?_insertOrIgnore]
    cases m.parameters.get? retryParameter with
    | some parameter => rfl
    | none =>
        -- both the metadata of no row and those of a seeded one can be read
        rw [Option.none_or]
        refine iff_of_true ?_ ⟨0, 0, rfl, rfl, fun hzero => absurd hzero.2 (by omega)⟩
        split
        · exact readable_seededParameter _ entry now
        · exact ⟨0, 0, rfl, rfl, fun hzero => absurd hzero.2 (by omega)⟩

theorem sameTargets_seeded : SameTargets engine m (seeded m now) := by
  unfold seeded
  have hkeep : ∀ entries : List (String × Rat), entries ⊆ systemDynamicParameters →
      ∀ m : MemoryTables, SameTargets engine m (entries.foldl (fun s entry =>
        s.setParameterIfAbsent (seededParameter entry now)) m) := by
    intro entries
    induction entries with
    | nil => exact fun _ m => SameTargets.refl m
    | cons entry rest ih =>
        intro hsub m
        exact (sameTargets_seed (hsub List.mem_cons_self)).trans
          (ih (fun e he => hsub (List.mem_cons_of_mem entry he)) _)
  exact hkeep systemDynamicParameters (List.Subset.refl _) m

theorem applyCreditDelta_spec (engine : CreditEngine) (m : MemoryTables) (itemId : String)
    (delta : Rat) (reason : String) (now : Time) :
    (m.items.get? itemId = none
        ∧ (applyCreditDelta engine m itemId delta reason now).toOption.getD m = m)
      ∨ ∃ current m', m.items.get? itemId = some current
        ∧ (applyCreditDelta engine m itemId delta reason now).toOption.getD m = m'
        ∧ m'.items = m.items.upsert (creditedItem engine m current delta reason now)
        ∧ m'.parameters = m.parameters := by
  unfold applyCreditDelta
  cases hitem : m.items.get? itemId with
  | none => exact .inl ⟨rfl, rfl⟩
  | some current =>
      have hstored := m.stored current (Table.get?_eq_some_iff.mp hitem).1
      obtain ⟨m', hm', hitems, hparameters⟩ := @storeItem_eq_ok m
        (creditedItem engine m current delta reason now) hstored
      refine .inr ⟨current, m', rfl, ?_, hitems, hparameters⟩
      dsimp only
      rw [hm']
      rfl

theorem sameTargets_applyCreditDelta (itemId : String) (delta : Rat) (reason : String) :
    SameTargets engine m
      ((applyCreditDelta engine m itemId delta reason now).toOption.getD m) := by
  rcases applyCreditDelta_spec engine m itemId delta reason now with ⟨-, hsame⟩
    | ⟨current, m', hcurrent, hm', hitems, hparameters⟩
  · rw [hsame]
    exact SameTargets.refl m
  · rw [hm']
    constructor
    · intro other
      rw [hitems, Table.get?_upsert]
      split
      next hid =>
        -- the row keeps the id that it was found under
        have hkey : current.id = itemId := (Table.get?_eq_some_iff.mp hcurrent).2
        have hother : other = itemId := hid.symm.trans hkey
        rw [hother, hcurrent]
        rfl
      next => rfl
    · unfold retryBeta MemoryTables.parameter MemoryTables.parameterValue
      rw [hparameters]
    · unfold retryMetadata
      rw [hparameters]

theorem retryBeta_setParameter {parameter : Parameter} (hname : parameter.name = retryParameter) :
    retryBeta (m.setParameter parameter) = retryBeta m := by
  unfold retryBeta MemoryTables.parameter MemoryTables.parameterValue MemoryTables.setParameter
  dsimp only
  rw [Table.get?_upsert, hname, if_neg (by decide)]

theorem sameTargets_setParameter {parameter : Parameter}
    (hname : parameter.name = retryParameter)
    (hafter : Readable engine (retryBeta m) parameter.metadata)
    (hbefore : Readable engine (retryBeta m) (retryMetadata m)) :
    SameTargets engine m (m.setParameter parameter) where
  items _ := rfl
  beta := retryBeta_setParameter hname
  readable := by
    refine iff_of_true ?_ hbefore
    unfold retryMetadata MemoryTables.setParameter
    dsimp only
    rw [Table.get?_upsert, if_pos hname]
    exact hafter

/-! ## What one write keeps -/

/-- The same for the whole state, whose events are never written. -/
structure SameCredits (engine : CreditEngine) (s s' : CreditState) : Prop where
  events : s'.events = s.events
  targets : SameTargets engine s.memory s'.memory

theorem SameCredits.refl (s : CreditState) : SameCredits engine s s :=
  ⟨rfl, SameTargets.refl s.memory⟩

theorem SameCredits.trans {s'' : CreditState} (h : SameCredits engine s s')
    (h' : SameCredits engine s' s'') : SameCredits engine s s'' :=
  ⟨h'.events.trans h.events, h.targets.trans h'.targets⟩

/-- A write as evaluations make them: what is seeded is a default, and what is adjusted is the
retry parameter, from metadata that can be read to others that can. -/
def CreditWrite.Proper (engine : CreditEngine) (m : MemoryTables) (now : Time) :
    CreditWrite → Prop
  | .seed parameter => ∃ entry ∈ systemDynamicParameters, parameter = seededParameter entry now
  | .adjust parameter => parameter.name = retryParameter
      ∧ Readable engine (retryBeta m) parameter.metadata
      ∧ Readable engine (retryBeta m) (retryMetadata m)
  | .record _ | .memory _ _ _ | .attributeMemory _ | .recordAttribution _ => True

theorem CreditWrite.Proper.of_sameTargets {write : CreditWrite} (h : write.Proper engine m now)
    (hsame : SameTargets engine m m') : write.Proper engine m' now := by
  cases write with
  | adjust parameter =>
      obtain ⟨hname, hafter, hbefore⟩ := h
      refine ⟨hname, ?_, ?_⟩
      · rw [hsame.beta]
        exact hafter
      · rw [hsame.beta]
        exact hsame.readable.mpr hbefore
  | seed parameter => exact h
  | record _ => trivial
  | memory _ _ _ => trivial
  | attributeMemory _ => trivial
  | recordAttribution _ => trivial

theorem sameCredits_write {write : CreditWrite} (h : write.Proper engine s.memory now) :
    SameCredits engine s (s.write engine now write) := by
  cases write with
  | record evaluation => exact ⟨rfl, SameTargets.refl _⟩
  | seed parameter =>
      obtain ⟨entry, hentry, rfl⟩ := h
      exact ⟨rfl, sameTargets_seed hentry⟩
  | memory itemId delta reason => exact ⟨rfl, sameTargets_applyCreditDelta itemId delta reason⟩
  | attributeMemory attribution =>
      simp only [CreditState.write]
      split
      · exact ⟨rfl, SameTargets.refl _⟩
      · exact SameCredits.refl s
  | adjust parameter =>
      obtain ⟨hname, hafter, hbefore⟩ := h
      exact ⟨rfl, sameTargets_setParameter hname hafter hbefore⟩
  | recordAttribution attribution => exact ⟨rfl, SameTargets.refl _⟩

theorem credit_congr (h : SameCredits engine s s') (write : CreditWrite) :
    s'.credit write = s.credit write := by
  cases write with
  | memory itemId delta reason => simp only [CreditState.credit, h.targets.items]
  | attributeMemory attribution => simp only [CreditState.credit, h.targets.items]
  | record _ => rfl
  | seed _ => rfl
  | adjust _ => rfl
  | recordAttribution _ => rfl

theorem SameValues.refl (m : MemoryTables) : SameValues m m := ⟨fun _ => rfl, fun _ => rfl⟩

theorem SameValues.trans {m'' : MemoryTables} (h : SameValues m m') (h' : SameValues m' m'') :
    SameValues m m'' :=
  ⟨fun itemId => (h'.1 itemId).trans (h.1 itemId), fun name => (h'.2 name).trans (h.2 name)⟩

theorem sameValues_write {write : CreditWrite} (h : write.Proper engine s.memory now)
    (hcredit : s.credit write = []) :
    SameValues s.memory (s.write engine now write).memory := by
  cases write with
  | record evaluation => exact SameValues.refl _
  | seed parameter =>
      obtain ⟨entry, hentry, rfl⟩ := h
      exact ⟨fun _ => rfl, parameterValue_seed hentry⟩
  | memory itemId delta reason =>
      have hnone : s.memory.items.get? itemId = none := by
        simp only [CreditState.credit] at hcredit
        rw [← Option.not_isSome_iff_eq_none]
        intro hsome
        rw [if_pos hsome] at hcredit
        cases hcredit
      simp only [CreditState.write, applyCreditDelta, hnone]
      exact SameValues.refl _
  | attributeMemory attribution =>
      simp only [CreditState.write]
      split <;> exact SameValues.refl _
  | adjust parameter => cases hcredit
  | recordAttribution attribution => exact SameValues.refl _

/-! ## What the writes of a call keep -/

theorem sameCredits_perform {writes : List CreditWrite}
    (h : ∀ write ∈ writes, write.Proper engine s.memory now) :
    SameCredits engine s (s.perform engine now writes).1
      ∧ (s.perform engine now writes).2 = writes.flatMap s.credit := by
  induction writes generalizing s with
  | nil => exact ⟨SameCredits.refl s, rfl⟩
  | cons write rest ih =>
      have hwrite := sameCredits_write (h write List.mem_cons_self)
      obtain ⟨hrest, hcredits⟩ := ih (s := s.write engine now write) fun other hother =>
        (h other (List.mem_cons_of_mem write hother)).of_sameTargets hwrite.targets
      refine ⟨hwrite.trans hrest, ?_⟩
      unfold CreditState.perform
      dsimp only
      rw [hcredits, List.flatMap_cons]
      congr 2
      exact funext (credit_congr hwrite)

theorem sameValues_perform {writes : List CreditWrite}
    (h : ∀ write ∈ writes, write.Proper engine s.memory now)
    (hcredit : ∀ write ∈ writes, s.credit write = []) :
    SameValues s.memory (s.perform engine now writes).1.memory := by
  induction writes generalizing s with
  | nil => exact SameValues.refl _
  | cons write rest ih =>
      have hwrite := h write List.mem_cons_self
      have hsame := sameCredits_write hwrite
      refine (sameValues_write hwrite (hcredit write List.mem_cons_self)).trans (ih ?_ ?_)
      · exact fun other hother =>
          (h other (List.mem_cons_of_mem write hother)).of_sameTargets hsame.targets
      · intro other hother
        rw [credit_congr hsame]
        exact hcredit other (List.mem_cons_of_mem write hother)

/-! ## What an evaluation credits -/

theorem mem_raiseDiscount_iff {discounts : Discounts} {stepDiscount : Rat} {itemId key : String} :
    ((raiseDiscount stepDiscount discounts itemId).get? key).isSome
      ↔ key = itemId ∨ (discounts.get? key).isSome := by
  unfold raiseDiscount
  rw [Table.get?_upsert]
  by_cases hkey : itemId = key
  · simp [hkey]
  · simp [hkey, Ne.symm hkey]

theorem mem_raiseDiscounts_iff {stepDiscount : Rat} {key : String} {itemIds : List String}
    {discounts : Discounts} :
    ((itemIds.foldl (raiseDiscount stepDiscount) discounts).get? key).isSome
      ↔ key ∈ itemIds ∨ (discounts.get? key).isSome := by
  induction itemIds generalizing discounts with
  | nil => simp
  | cons itemId rest ih =>
      rw [List.foldl_cons, ih, mem_raiseDiscount_iff, List.mem_cons]
      tauto

theorem mem_memoryDiscounts_iff (events : List TraceEvent) (gamma : Rat) (key : String) :
    ((memoryDiscounts engine events gamma).get? key).isSome
      ↔ ∃ event ∈ syscallEvents engine events, key ∈ usedMemoryIds engine event := by
  unfold memoryDiscounts
  dsimp only
  generalize (syscallEvents engine events).length = total
  have hsteps : ∀ (steps : List (TraceEvent × Nat)) (discounts : Discounts),
      ((steps.foldl (fun discounts step => (usedMemoryIds engine step.1).foldl
          (raiseDiscount (engine.rounded 4 (gamma ^ (total - 1 - step.2)))) discounts)
            discounts).get? key).isSome
        ↔ (∃ step ∈ steps, key ∈ usedMemoryIds engine step.1)
          ∨ (discounts.get? key).isSome := by
    intro steps
    induction steps with
    | nil => simp
    | cons step rest ih =>
        intro discounts
        rw [List.foldl_cons, ih, mem_raiseDiscounts_iff]
        simp only [List.mem_cons, exists_eq_or_imp]
        rw [or_left_comm, or_assoc]
  rw [hsteps]
  have hempty : ¬ ((Table.empty : Discounts).get? key).isSome := by
    simp [Table.empty, Table.get?]
  constructor
  · rintro (⟨step, hstep, hkey⟩ | hempty')
    · exact ⟨step.1, List.fst_mem_of_mem_zipIdx hstep, hkey⟩
    · exact absurd hempty' hempty
  · rintro ⟨event, hevent, hkey⟩
    obtain ⟨index, hindex, rfl⟩ := List.getElem_of_mem hevent
    exact .inl ⟨_, List.mk_mem_zipIdx_iff_getElem?.mpr (List.getElem?_eq_getElem hindex), hkey⟩

/-- What an evaluation credits of the memories at these discounts. -/
def storedTargets (m : MemoryTables) (discounts : List (String × Rat)) : List CreditTarget :=
  (discounts.filter fun entry => (m.items.get? entry.1).isSome).flatMap fun entry =>
    [.memory entry.1, .attributed "memory" entry.1]

/-- What an evaluation credits of the parameters. -/
def parameterTargets (engine : CreditEngine) (m : MemoryTables) (traceId : String) (now : Time)
    (domain : TraceFailureDomain) : List CreditTarget :=
  if domain = .providerNoResponse then
    if (retryGradient engine m traceId now).isSome then
      [.parameter retryParameter, .attributed "dynamic_parameter" retryParameter]
    else []
  else blamed domain

/-- What an evaluation credits, in the order of its writes. -/
def evaluationCredits (engine : CreditEngine) (s : CreditState) (traceId : String) (now : Time) :
    List CreditTarget :=
  let evaluated := evaluateTrace (s.events traceId)
  let events := (s.events traceId).take eventLimit
  let m := seeded s.memory now
  if events = [] ∨ creditReward engine m evaluated = none then []
  else
    storedTargets s.memory ((memoryDiscounts engine events
        (m.parameter "temporal_discount_factor" (85 / 100))).rows.insertionSort
          fun a b => a.1 ≤ b.1)
      ++ parameterTargets engine m traceId now evaluated.1.failureDomain

theorem mem_laterWrites {draft : TraceEvaluationDraft} {reward : Rat} {events : List TraceEvent}
    {write : CreditWrite} (h : write ∈ laterWrites traceId draft reward events) :
    ∃ attribution, write = .recordAttribution attribution := by
  unfold laterWrites wholeReward at h
  simp only [List.mem_append, List.mem_ite_nil_right, List.mem_map, List.mem_cons,
    List.not_mem_nil, or_false] at h
  rcases h with (((⟨-, rfl⟩ | ⟨-, _, -, rfl⟩) | ⟨-, rfl | rfl⟩) | ⟨-, rfl | rfl⟩) | ⟨-, _, -, rfl⟩
    <;> exact ⟨_, rfl⟩

theorem mem_retryWrites {draft : TraceEvaluationDraft} {reward : Rat} {events : List TraceEvent}
    {write : CreditWrite}
    (h : write ∈ retryWrites engine traceId draft reward m events now) :
    (∃ attribution, write = .recordAttribution attribution)
      ∨ ∃ parameter, write = .adjust parameter
        ∧ retryGradient engine m traceId now = some parameter := by
  unfold retryWrites at h
  dsimp only at h
  split at h
  · cases hgradient : retryGradient engine m traceId now with
    | none =>
        rw [hgradient] at h
        cases h
    | some parameter =>
        rw [hgradient] at h
        rcases List.mem_cons.mp h with rfl | h
        · exact .inr ⟨parameter, rfl, rfl⟩
        · rcases List.mem_cons.mp h with rfl | h
          · exact .inl ⟨_, rfl⟩
          · exact .inl (mem_laterWrites h)
  · exact .inl (mem_laterWrites h)

theorem proper_evaluateWrites {write : CreditWrite}
    (h : write ∈ evaluateWrites engine s traceId now) : write.Proper engine s.memory now := by
  unfold evaluateWrites backpropWrites at h
  dsimp only at h
  rcases List.mem_cons.mp h with rfl | h
  · trivial
  split at h
  · cases h
  rcases List.mem_append.mp h with h | h
  · obtain ⟨entry, hentry, rfl⟩ := List.mem_map.mp h
    exact ⟨entry, hentry, rfl⟩
  split at h
  · cases h
  rcases List.mem_append.mp h with h | h
  · obtain ⟨entry, -, h⟩ := List.mem_flatMap.mp h
    rcases List.mem_pair.mp h with rfl | rfl <;> trivial
  · rcases mem_retryWrites h with ⟨_, rfl⟩ | ⟨parameter, rfl, hgradient⟩
    · trivial
    · -- the gradient reads the seeded tables, which are as good as those before
      have hseeded : SameTargets engine s.memory (seeded s.memory now) := sameTargets_seeded
      obtain ⟨hname, hafter⟩ := retryGradient_some hgradient
      have hbefore := retryGradient_isSome_iff.mp (Option.isSome_iff_exists.mpr ⟨_, hgradient⟩)
      rw [hseeded.beta] at hafter hbefore
      exact ⟨hname, hafter, hseeded.readable.mp hbefore⟩

theorem flatMap_credit_memoryWrites (draft : TraceEvaluationDraft) (reward : Rat)
    (discounts : List (String × Rat)) :
    (discounts.flatMap (memoryWrites engine traceId draft reward m)).flatMap s.credit
      = storedTargets s.memory discounts := by
  induction discounts with
  | nil => rfl
  | cons entry rest ih =>
      rw [List.flatMap_cons, List.flatMap_append, ih]
      unfold storedTargets
      rw [List.filter_cons]
      split
      next hstored => simp [memoryWrites, CreditState.credit, hstored]
      next hstored => simp [memoryWrites, CreditState.credit, hstored]

theorem flatMap_credit_toolWrites (draft : TraceEvaluationDraft) (reward : Rat)
    (names : List String) :
    (names.map (wholeReward traceId draft reward "tool")).flatMap s.credit = [] := by
  rw [List.flatMap_eq_nil_iff]
  intro write hwrite
  obtain ⟨name, -, rfl⟩ := List.mem_map.mp hwrite
  rfl

theorem flatMap_credit_laterWrites (draft : TraceEvaluationDraft) (reward : Rat)
    (events : List TraceEvent) :
    (laterWrites traceId draft reward events).flatMap s.credit = blamed draft.failureDomain := by
  have htools := @flatMap_credit_toolWrites s traceId draft reward
  have hsuccess : (if draft.outcome = .success then
      (toolNames (events.filter fun event =>
        event.ok = true ∧ event.phase = "capability.result")).map
          (wholeReward traceId draft reward "tool") else []).flatMap s.credit = [] := by
    split
    · exact htools _
    · rfl
  unfold laterWrites
  dsimp only
  simp only [List.flatMap_append]
  rw [hsuccess]
  cases hdomain : draft.failureDomain <;>
    simp [wholeReward, CreditState.credit, blamed, htools]

theorem flatMap_credit_retryWrites (draft : TraceEvaluationDraft) (reward : Rat)
    (events : List TraceEvent) :
    (retryWrites engine traceId draft reward m events now).flatMap s.credit
      = parameterTargets engine m traceId now draft.failureDomain := by
  unfold retryWrites parameterTargets
  dsimp only
  by_cases hdomain : draft.failureDomain = .providerNoResponse
  · rw [if_pos hdomain, if_pos hdomain]
    cases hgradient : retryGradient engine m traceId now with
    | none => rfl
    | some parameter =>
        have hname := (retryGradient_some hgradient).1
        simp [CreditState.credit, hname, flatMap_credit_laterWrites, hdomain, blamed]
  · rw [if_neg hdomain, if_neg hdomain, flatMap_credit_laterWrites]

theorem flatMap_credit_evaluateWrites :
    (evaluateWrites engine s traceId now).flatMap s.credit
      = evaluationCredits engine s traceId now := by
  unfold evaluateWrites evaluationCredits backpropWrites
  dsimp only
  rw [List.flatMap_cons, show s.credit (.record _) = [] from rfl, List.nil_append]
  by_cases hevents : (s.events traceId).take eventLimit = []
  · rw [if_pos hevents, if_pos (.inl hevents)]
    rfl
  rw [if_neg hevents, List.flatMap_append]
  have hseeds : (seedWrites now).flatMap s.credit = [] := by
    rw [List.flatMap_eq_nil_iff]
    intro write hwrite
    obtain ⟨entry, -, rfl⟩ := List.mem_map.mp hwrite
    rfl
  rw [hseeds, List.nil_append]
  cases hreward : creditReward engine (seeded s.memory now) (evaluateTrace (s.events traceId)) with
  | none =>
      rw [if_pos (.inr rfl)]
      rfl
  | some reward =>
      rw [if_neg (by simp [hevents]), List.flatMap_append, flatMap_credit_memoryWrites,
        flatMap_credit_retryWrites]

theorem mem_storedTargets_iff {discounts : List (String × Rat)} {target : CreditTarget} :
    target ∈ storedTargets m discounts
      ↔ ∃ entry ∈ discounts, (m.items.get? entry.1).isSome
        ∧ (target = .memory entry.1 ∨ target = .attributed "memory" entry.1) := by
  unfold storedTargets
  simp only [List.mem_flatMap, List.mem_filter, List.mem_pair, and_assoc]

theorem mem_storedTargets_evaluation_iff {target : CreditTarget} (gamma : Rat) :
    target ∈ storedTargets s.memory ((memoryDiscounts engine
        ((s.events traceId).take eventLimit) gamma).rows.insertionSort fun a b => a.1 ≤ b.1)
      ↔ ∃ itemId, UsesMemory engine s traceId itemId
        ∧ (target = .memory itemId ∨ target = .attributed "memory" itemId) := by
  rw [mem_storedTargets_iff]
  constructor
  · rintro ⟨entry, hentry, hstored, htarget⟩
    rw [List.mem_insertionSort] at hentry
    refine ⟨entry.1, ⟨(mem_memoryDiscounts_iff _ gamma entry.1).mp ?_, hstored⟩, htarget⟩
    rw [Table.get?_of_mem hentry]
    rfl
  · rintro ⟨itemId, ⟨hnamed, hstored⟩, htarget⟩
    obtain ⟨entry, hentry⟩ :=
      Option.isSome_iff_exists.mp ((mem_memoryDiscounts_iff _ gamma itemId).mpr hnamed)
    obtain ⟨hmem, rfl⟩ := Table.get?_eq_some_iff.mp hentry
    exact ⟨entry, (List.mem_insertionSort _).mpr hmem, hstored, htarget⟩

theorem mem_blamed {domain : TraceFailureDomain} {target : CreditTarget}
    (h : target ∈ blamed domain) :
    domain ≠ .providerNoResponse ∧ ∃ name, target = .attributed "dynamic_parameter" name := by
  cases domain <;> simp_all [blamed]

theorem mem_parameterTargets_evaluation_iff {target : CreditTarget} :
    target ∈ parameterTargets engine (seeded s.memory now) traceId now
        (evaluateTrace (s.events traceId)).1.failureDomain
      ↔ AdjustsRetry engine s traceId ∧ (target = .parameter retryParameter
          ∨ target = .attributed "dynamic_parameter" retryParameter)
        ∨ target ∈ blamed (evaluateTrace (s.events traceId)).1.failureDomain := by
  have hseeded : SameTargets engine s.memory (seeded s.memory now) := sameTargets_seeded
  have hgradient : (retryGradient engine (seeded s.memory now) traceId now).isSome
      ↔ Readable engine (retryBeta s.memory) (retryMetadata s.memory) := by
    rw [retryGradient_isSome_iff, hseeded.beta]
    exact hseeded.readable
  unfold parameterTargets AdjustsRetry
  by_cases hdomain : (evaluateTrace (s.events traceId)).1.failureDomain = .providerNoResponse
  · have hblamed : target ∉ blamed (evaluateTrace (s.events traceId)).1.failureDomain :=
      fun h => (mem_blamed h).1 hdomain
    rw [if_pos hdomain, or_iff_left hblamed, and_iff_right hdomain, ← hgradient]
    split
    next hreadable => rw [List.mem_pair, and_iff_right hreadable]
    next hreadable => exact iff_of_false List.not_mem_nil fun h => hreadable h.1
  · rw [if_neg hdomain]
    exact ⟨.inr, fun h => h.elim (fun hadjusts => absurd hadjusts.1.1 hdomain) id⟩

theorem mem_evaluationCredits_iff {target : CreditTarget} :
    target ∈ evaluationCredits engine s traceId now ↔ Credits engine s traceId target := by
  have hreward := @creditReward_isSome engine s.memory (seeded s.memory now)
    (evaluateTrace (s.events traceId))
  unfold evaluationCredits Credits
  dsimp only
  by_cases hevents : (s.events traceId).take eventLimit = []
  · rw [if_pos (.inl hevents)]
    exact iff_of_false List.not_mem_nil fun h => h.1 hevents
  by_cases hnone : creditReward engine (seeded s.memory now)
      (evaluateTrace (s.events traceId)) = none
  · rw [if_pos (.inr hnone)]
    refine iff_of_false List.not_mem_nil fun h => ?_
    rw [hnone] at hreward
    exact Bool.noConfusion (h.2.1.symm.trans hreward)
  have hsome : (creditReward engine s.memory (evaluateTrace (s.events traceId))).isSome := by
    rw [hreward, Option.isSome_iff_ne_none]
    exact hnone
  rw [if_neg (not_or_intro hevents hnone), and_iff_right hevents, and_iff_right hsome,
    List.mem_append, mem_storedTargets_evaluation_iff, mem_parameterTargets_evaluation_iff]
  cases target with
  | memory itemId =>
      dsimp only
      constructor
      · rintro (⟨other, huses, htarget | htarget⟩ | ⟨-, htarget | htarget⟩ | hblamed)
        · obtain rfl := CreditTarget.memory.inj htarget
          exact huses
        · cases htarget
        · cases htarget
        · cases htarget
        · cases (mem_blamed hblamed).2.choose_spec
      · exact fun huses => .inl ⟨itemId, huses, .inl rfl⟩
  | parameter name =>
      dsimp only
      constructor
      · rintro (⟨other, -, htarget | htarget⟩ | ⟨hadjusts, htarget | htarget⟩ | hblamed)
        · cases htarget
        · cases htarget
        · exact ⟨CreditTarget.parameter.inj htarget, hadjusts⟩
        · cases htarget
        · cases (mem_blamed hblamed).2.choose_spec
      · rintro ⟨rfl, hadjusts⟩
        exact .inr (.inl ⟨hadjusts, .inl rfl⟩)
  | attributed nodeType targetId =>
      dsimp only
      constructor
      · rintro (⟨other, huses, htarget | htarget⟩ | ⟨hadjusts, htarget | htarget⟩ | hblamed)
        · cases htarget
        · cases htarget
          exact .inl ⟨rfl, huses⟩
        · cases htarget
        · cases htarget
          exact .inr ⟨rfl, .inl ⟨rfl, hadjusts⟩⟩
        · obtain ⟨name, htarget⟩ := (mem_blamed hblamed).2
          exact .inr ⟨(CreditTarget.attributed.inj htarget).1, .inr hblamed⟩
      · rintro (⟨rfl, huses⟩ | ⟨rfl, ⟨rfl, hadjusts⟩ | hblamed⟩)
        · exact .inl ⟨targetId, huses, .inr rfl⟩
        · exact .inr (.inl ⟨hadjusts, .inr rfl⟩)
        · exact .inr (.inr hblamed)

theorem nodup_storedTargets {discounts : List (String × Rat)}
    (h : (discounts.map Prod.fst).Nodup) : (storedTargets m discounts).Nodup := by
  unfold storedTargets
  have hfiltered := h.sublist ((List.filter_sublist
    (p := fun entry : String × Rat => (m.items.get? entry.1).isSome)).map Prod.fst)
  refine List.nodup_flatMap.mpr ⟨fun entry _ => by simp, ?_⟩
  refine (List.pairwise_map.mp hfiltered).imp fun {a b} hne => ?_
  -- both targets of an entry tell its id
  intro target ha hb
  rcases List.mem_pair.mp ha with rfl | rfl <;> simp_all

theorem nodup_parameterTargets (domain : TraceFailureDomain) :
    (parameterTargets engine m traceId now domain).Nodup := by
  unfold parameterTargets
  split
  · split
    · simp
    · exact List.nodup_nil
  · cases domain <;> simp [blamed]

theorem nodup_evaluationCredits : (evaluationCredits engine s traceId now).Nodup := by
  unfold evaluationCredits
  dsimp only
  split
  · exact List.nodup_nil
  refine List.Nodup.append (nodup_storedTargets ?_) (nodup_parameterTargets _) ?_
  · have hkeys := (memoryDiscounts engine ((s.events traceId).take eventLimit)
      ((seeded s.memory now).parameter "temporal_discount_factor" (85 / 100))).nodup
    exact ((List.perm_insertionSort (fun a b : String × Rat => a.1 ≤ b.1) _).map
      Prod.fst).nodup_iff.mpr hkeys
  · intro target hmemory hparameter
    obtain ⟨entry, -, -, htarget⟩ := mem_storedTargets_iff.mp hmemory
    rcases mem_parameterTargets_evaluation_iff.mp hparameter with ⟨-, hretry⟩ | hblamed
    · rcases htarget with rfl | rfl <;> simp at hretry
    · obtain ⟨-, name, hname⟩ := mem_blamed hblamed
      rcases htarget with rfl | rfl <;> simp at hname

/-! ## What a call credits -/

variable {call : EvaluateCall} {calls : List EvaluateCall} {target : CreditTarget}

theorem done_sublist (call : EvaluateCall) (writes : List CreditWrite) :
    (call.done writes).Sublist writes := by
  unfold EvaluateCall.done
  cases call.fails with
  | none => exact List.Sublist.refl writes
  | some count => exact List.take_sublist count writes

theorem proper_done (engine : CreditEngine) (s : CreditState) (call : EvaluateCall) :
    ∀ write ∈ call.done (evaluateWrites engine s call.traceId call.now),
      write.Proper engine s.memory call.now :=
  fun _ hwrite => proper_evaluateWrites ((done_sublist call _).subset hwrite)

theorem sameCredits_step (call : EvaluateCall) :
    SameCredits engine s ((creditMachine engine).step s call).1 :=
  (sameCredits_perform (proper_done engine s call)).1

/-- What a call credits is part of what an evaluation credits, and all of it where nothing
fails. -/
theorem step_credits (engine : CreditEngine) (s : CreditState) (call : EvaluateCall) :
    (((creditMachine engine).step s call).2).Sublist
        (evaluationCredits engine s call.traceId call.now)
      ∧ (call.fails = none → ((creditMachine engine).step s call).2
        = evaluationCredits engine s call.traceId call.now) := by
  have hcredits : ((creditMachine engine).step s call).2
      = (call.done (evaluateWrites engine s call.traceId call.now)).flatMap s.credit :=
    (sameCredits_perform (proper_done engine s call)).2
  rw [← flatMap_credit_evaluateWrites, hcredits]
  constructor
  · exact (done_sublist call _).flatMap s.credit
  · intro hfails
    unfold EvaluateCall.done
    rw [hfails]
    rfl

theorem credits_congr (h : SameCredits engine s s') :
    Credits engine s' traceId target ↔ Credits engine s traceId target := by
  have hreward := @creditReward_isSome engine s'.memory s.memory
    (evaluateTrace (s.events traceId))
  simp only [Credits, UsesMemory, AdjustsRetry, h.events, hreward, h.targets.items,
    h.targets.beta, h.targets.readable]

theorem creditsOf_cons (engine : CreditEngine) (s : CreditState) (call : EvaluateCall)
    (calls : List EvaluateCall) (traceId : String) :
    creditsOf engine s (call :: calls) traceId
      = (if call.traceId = traceId then ((creditMachine engine).step s call).2 else [])
        ++ creditsOf engine ((creditMachine engine).step s call).1 calls traceId := by
  unfold creditsOf
  rw [Machine.trace_cons, List.filter_cons]
  by_cases htrace : call.traceId = traceId
  · simp [htrace]
  · simp [htrace]

theorem mem_creditsOf (h : target ∈ creditsOf engine s calls traceId) :
    traceId ∈ calls.map (·.traceId) ∧ Credits engine s traceId target := by
  induction calls generalizing s with
  | nil => cases h
  | cons call rest ih =>
      rw [creditsOf_cons, List.mem_append] at h
      rcases h with hhere | hrest
      · split at hhere
        next htrace =>
          obtain rfl := htrace
          refine ⟨List.mem_map_of_mem List.mem_cons_self, ?_⟩
          exact mem_evaluationCredits_iff.mp ((step_credits engine s call).1.subset hhere)
        next => cases hhere
      · obtain ⟨hmem, hcredits⟩ := ih hrest
        exact ⟨List.mem_cons_of_mem _ hmem, (credits_congr (sameCredits_step call)).mp hcredits⟩

theorem nodup_creditsOf (h : (calls.map (·.traceId)).count traceId ≤ 1) :
    (creditsOf engine s calls traceId).Nodup := by
  induction calls generalizing s with
  | nil => exact List.nodup_nil
  | cons call rest ih =>
      rw [creditsOf_cons]
      rw [List.map_cons, List.count_cons] at h
      by_cases htrace : call.traceId = traceId
      · -- it is not evaluated again
        have hnot : traceId ∉ rest.map (·.traceId) := by
          rw [← List.count_eq_zero]
          rw [if_pos (by simp [htrace])] at h
          omega
        have hrest : creditsOf engine ((creditMachine engine).step s call).1 rest traceId = [] :=
          List.eq_nil_iff_forall_not_mem.mpr fun other hother => hnot (mem_creditsOf hother).1
        rw [if_pos htrace, hrest, List.append_nil]
        exact nodup_evaluationCredits.sublist (step_credits engine s call).1
      · rw [if_neg htrace, List.nil_append]
        exact ih (by omega)

theorem count_creditsOf (h : Credits engine s traceId target)
    (hplain : ∀ call ∈ calls, call.fails = none) :
    (calls.map (·.traceId)).count traceId ≤ (creditsOf engine s calls traceId).count target := by
  induction calls generalizing s with
  | nil => exact Nat.le_refl 0
  | cons call rest ih =>
      have hrest := ih ((credits_congr (sameCredits_step call)).mpr h)
        fun other hother => hplain other (List.mem_cons_of_mem call hother)
      rw [creditsOf_cons, List.map_cons, List.count_cons, List.count_append]
      by_cases htrace : call.traceId = traceId
      · have hall := (step_credits engine s call).2 (hplain call List.mem_cons_self)
        have hmem : target ∈ ((creditMachine engine).step s call).2 := by
          rw [hall, htrace]
          exact mem_evaluationCredits_iff.mpr h
        have hone := List.count_pos_iff.mpr hmem
        rw [if_pos htrace]
        split <;> omega
      · rw [if_neg htrace, if_neg (by simpa using htrace)]
        simpa using hrest

theorem sameCredits_run (calls : List EvaluateCall) :
    SameCredits engine s ((creditMachine engine).run s calls) :=
  (creditMachine engine).run_preserves (I := SameCredits engine s)
    (fun _ call h => h.trans (sameCredits_step call)) (SameCredits.refl s) calls

theorem sameValues_step (h : NothingToCredit engine s call.traceId) :
    SameValues s.memory ((creditMachine engine).step s call).1.memory := by
  refine sameValues_perform (proper_done engine s call) ?_
  intro write hwrite
  rw [List.eq_nil_iff_forall_not_mem]
  intro target htarget
  have hmem := (done_sublist call _).subset hwrite
  refine h target ((@mem_evaluationCredits_iff engine s call.now call.traceId target).mp ?_)
  rw [← flatMap_credit_evaluateWrites]
  exact List.mem_flatMap.mpr ⟨write, hmem, htarget⟩

theorem nothingToCredit_congr (h : SameCredits engine s s') :
    NothingToCredit engine s' traceId ↔ NothingToCredit engine s traceId :=
  forall_congr' fun _ => not_congr (credits_congr h)

/-- Credit is assigned once, whatever fails, where each trace is evaluated at most once or has
nothing to credit. -/
theorem creditedOnce_of (h : ∀ traceId ∈ calls.map (·.traceId),
    (calls.map (·.traceId)).count traceId ≤ 1 ∨ NothingToCredit engine s traceId) :
    CreditedOnce engine s calls where
  once traceId := by
    by_cases hmem : traceId ∈ calls.map (·.traceId)
    · rcases h traceId hmem with hcount | hnothing
      · exact nodup_creditsOf hcount
      · have hnil : creditsOf engine s calls traceId = [] :=
          List.eq_nil_iff_forall_not_mem.mpr fun target htarget =>
            hnothing target (mem_creditsOf htarget).2
        rw [hnil]
        exact List.nodup_nil
    · exact nodup_creditsOf (by rw [List.count_eq_zero.mpr hmem]; omega)
  again before call after hcalls hbefore := by
    have hcount : 1 < (calls.map (·.traceId)).count call.traceId := by
      have hpos := List.count_pos_iff.mpr hbefore
      rw [hcalls, List.map_append, List.map_cons, List.count_append, List.count_cons_self]
      omega
    have hmem : call.traceId ∈ calls.map (·.traceId) := List.count_pos_iff.mp (by omega)
    rcases h call.traceId hmem with hle | hnothing
    · omega
    · rw [Machine.run_append]
      exact sameValues_step ((nothingToCredit_congr (sameCredits_run before)).mpr hnothing)

/-- The evaluations of these traces, none of which fails. -/
def plainCalls (traceIds : List String) : List EvaluateCall :=
  traceIds.map fun traceId => ⟨traceId, 0, none⟩

theorem map_traceId_plainCalls (traceIds : List String) :
    (plainCalls traceIds).map (·.traceId) = traceIds := by
  unfold plainCalls
  rw [List.map_map]
  exact List.map_id traceIds

theorem fails_of_mem_plainCalls {traceIds : List String} (h : call ∈ plainCalls traceIds) :
    call.fails = none := by
  obtain ⟨traceId, -, rfl⟩ := List.mem_map.mp h
  rfl

theorem not_creditedOnce {traceIds : List String} (hcredits : Credits engine s traceId target)
    (hcount : 1 < traceIds.count traceId) :
    ¬ CreditedOnce engine s (plainCalls traceIds) := by
  intro h
  have htwice := @count_creditsOf engine s traceId (plainCalls traceIds) target hcredits
    fun _ => fails_of_mem_plainCalls
  rw [map_traceId_plainCalls] at htwice
  have hnodup := List.nodup_iff_count_le_one.mp (h.once traceId) target
  omega

end

/-- Credit is assigned once by the evaluations of these traces, in this order and whatever
fails on the way, if and only if every trace that is evaluated again has nothing to
credit. -/
theorem creditedOnce_iff (engine : CreditEngine) (s : CreditState) (traceIds : List String) :
    (∀ calls : List EvaluateCall, calls.map (·.traceId) = traceIds →
        CreditedOnce engine s calls)
      ↔ ∀ traceId ∈ traceIds, traceIds.count traceId ≤ 1 ∨ NothingToCredit engine s traceId := by
  constructor
  · intro h traceId hmem
    by_contra hnot
    push Not at hnot
    obtain ⟨hcount, hsome⟩ := hnot
    unfold NothingToCredit at hsome
    push Not at hsome
    obtain ⟨target, htarget⟩ := hsome
    exact not_creditedOnce htarget hcount (h _ (map_traceId_plainCalls traceIds))
  · rintro h calls rfl
    exact creditedOnce_of h

/-- An engine that reads numbers and no texts. -/
def numberEngine : CreditEngine where
  floats := Json.fractionText
  str
    | .str s => s
    | value => Json.dumps Json.fractionText [' '] value
  toFloat := Json.readNumber
  toFloat_float := Json.readNumber_float
  toInt := Json.readInteger
  toInt_int := Json.readInteger_int
  rounded places x := (x * 10 ^ places + 1 / 2).floor / 10 ^ places
  fixed := decimals

/-- A trace whose one planner call used the one item. -/
def remembered : CreditState where
  events _ :=
    [{ id := "e1", runId := "r", phase := "planner.syscall", tool := "", modelRole := ""
       ok := true, output := [("used_memory_ids", .arr [.str "m1"])], message := "" }]
  memory :=
    { items := ⟨[{ id := "m1", type := "fact", status := "active", scope := "user"
                   content := "tea, not coffee", source := "chat", confidence := 1 / 2
                   createdAt := .float 0, updatedAt := .float 0
                   lastVerifiedAt := .float 0, expiresAt := .float 0
                   metadata := [], reason := "said so", provenance := "user"
                   summary := "" }], by decide⟩
      parameters := .empty
      stored := by decide +kernel }
  evaluations := .empty
  attributions := []

/-- The confidence of the item after these evaluations. -/
def rememberedConfidence (traceIds : List String) : Option Rat :=
  (((creditMachine numberEngine).run remembered (plainCalls traceIds)).memory.items.get?
    "m1").map (·.confidence)

/-- Its second evaluation credits the item again. -/
theorem remembered_creditedOnce_not :
    ¬ CreditedOnce numberEngine remembered (plainCalls ["t", "t"])
      ∧ rememberedConfidence ["t"] = some (11 / 20)
      ∧ rememberedConfidence ["t", "t"] = some (3 / 5) := by
  refine ⟨fun h => ?_, by decide +kernel, by decide +kernel⟩
  have hnodup := h.once "t"
  revert hnodup
  decide +kernel

end Navi.Trace
