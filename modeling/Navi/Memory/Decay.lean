import Mathlib
import Navi.Memory.ConflictAudit
import Navi.Memory.LifecycleTable

/-!
# Confidence that decays

A pass lowers the confidence of items that have not been used for the grace period. By how much
depends on a stability that counts the activations of the item, and that is not kept positive.
-/

namespace Navi.Memory

open Navi.Base

section

variable (engine : LifecycleEngine) (decay : Decay)

/-- When an item was last recalled, verified, updated or created. -/
def lastUse (item : MemoryItem) : Time :=
  max (max (metadataFloat engine item.metadata "last_recalled_at") (columnTime item.lastVerifiedAt))
    (max (columnTime item.updatedAt) (columnTime item.createdAt))

/-- `MEMORY_CONFIDENCE_DECAY_TYPES`. -/
def decayTypes : List String := ["preference", "fact", "semantic"]

/-- The activations of an item, where they are a number. -/
def activations (item : MemoryItem) : Option Rat :=
  ((truthyValue item.metadata "activation_count").or
    (truthyValue item.metadata "recall_count")).elim (some 0) engine.toFloat

/-- The stability of an item with so many activations. -/
def stability (count : Rat) : Rat := 1 + decay.stabilityScale * engine.log (1 + max 0 count)

/-- The row of an item whose confidence has decayed. -/
def decayedRow (item : MemoryItem) (confidence : Rat) : MemoryItem :=
  if confidence ≤ decay.staleThreshold then
    { item with confidence := confidence, status := "stale", updatedAt := .float decay.clock }
  else { item with confidence := confidence, updatedAt := .float decay.now }

/-- The items that a pass writes, up to the first where it raises. -/
def decayReached : List MemoryItem → List MemoryItem
  | [] => []
  | item :: rest =>
      match decayedConfidence engine decay item with
      | none => []
      | some confidence =>
          if decays engine decay item then
            if engine.allows (memoryWrite item item.status confidence item.metadata) then
              item :: decayReached rest
            else []
          else decayReached rest

/-- The stability of an item is positive, or no confidence is taken away. -/
def Weakens (item : MemoryItem) : Prop :=
  decay.delta ≤ 0 ∨ ∀ count, activations engine item = some count →
    0 < stability engine decay count

/-- The hooks let an item turn stale when it is due. -/
def MayTurnStale (item : MemoryItem) : Prop :=
  ∀ confidence, decayedConfidence engine decay item = some confidence →
    confidence ≤ decay.staleThreshold →
      engine.allows (memoryWrite item "stale" (clampConfidence confidence) item.metadata) = true

/-- A pass that weakens what it writes, and whose stale items may be written. -/
def SoundPass (s : MemoryTables) (limit : Int) : Prop :=
  ∀ item ∈ decayReached engine decay (getItems engine.toListingEngine s none none none limit),
    Weakens engine decay item ∧ MayTurnStale engine decay item

/-! ## What is claimed -/

structure DecayLaw (row row' : MemoryItem) : Prop where
  falls : row'.confidence ≤ row.confidence
  nonneg : 0 ≤ row'.confidence
  le_one : row'.confidence ≤ 1
  paced : row'.confidence < row.confidence → lastUse engine row + decay.grace ≤ decay.now
  spares : row.type ∉ decayTypes ∨ row.status ≠ "active"
      ∨ decay.now < lastUse engine row + decay.grace → row' = row
  stale : row' ≠ row → (row'.status = "stale" ↔ row'.confidence ≤ decay.staleThreshold)
  frame : row' = { row with
    confidence := row'.confidence
    status := row'.status
    updatedAt := row'.updatedAt }

end

section

variable {engine : LifecycleEngine} {decay : Decay} {s : MemoryTables} {item row row' : MemoryItem}
  {confidence : Rat}

inductive DecayStep (engine : LifecycleEngine) (decay : Decay) (row : MemoryItem) :
    MemoryItem → Prop where
  | kept : DecayStep engine decay row row
  | decayed (confidence : Rat) (hdecays : decays engine decay row = true)
      (hconfidence : decayedConfidence engine decay row = some confidence)
      (hweakens : Weakens engine decay row) :
      DecayStep engine decay row (decayedRow decay row confidence)

/-! ## One item -/

theorem decays_iff : decays engine decay item = true
    ↔ item.type ∈ decayTypes ∧ item.status = "active"
      ∧ (columnTime item.expiresAt = 0 ∨ decay.now < columnTime item.expiresAt)
      ∧ decay.grace ≤ max 0 (decay.now - lastUse engine item) := by
  unfold decays
  rw [decide_eq_true_eq]
  rfl

theorem idle_of_decays (hgrace : 0 < decay.grace) (h : decays engine decay item = true) :
    lastUse engine item + decay.grace ≤ decay.now := by
  obtain ⟨-, -, -, hidle⟩ := decays_iff.mp h
  rcases le_max_iff.mp hidle with hnone | hsome
  · exact absurd hnone (not_le.mpr hgrace)
  · linarith

theorem decayedConfidence_eq_some (h : decayedConfidence engine decay item = some confidence) :
    ∃ count, activations engine item = some count ∧ stability engine decay count ≠ 0
      ∧ confidence = max 0 (clampConfidence item.confidence
        - max 0 decay.delta / stability engine decay count) := by
  unfold decayedConfidence at h
  obtain ⟨count, hcount, h⟩ := Option.bind_eq_some_iff.mp h
  dsimp only at h
  split at h
  · cases h
  next hzero => exact ⟨count, hcount, hzero, (Option.some.inj h).symm⟩

theorem decayedConfidence_bounds (h : decayedConfidence engine decay item = some confidence)
    (hweakens : Weakens engine decay item) (hnonneg : 0 ≤ item.confidence)
    (hle : item.confidence ≤ 1) : 0 ≤ confidence ∧ confidence ≤ item.confidence := by
  obtain ⟨count, hcount, -, rfl⟩ := decayedConfidence_eq_some h
  have hclamp : clampConfidence item.confidence = item.confidence := by
    rw [clampConfidence, min_eq_right hle, max_eq_right hnonneg]
  have htaken : 0 ≤ max 0 decay.delta / stability engine decay count := by
    rcases hweakens with hdelta | hstable
    · rw [max_eq_left hdelta, zero_div]
    · exact div_nonneg (le_max_left _ _) (hstable count hcount).le
  rw [hclamp]
  exact ⟨le_max_left _ _, max_le hnonneg (by linarith)⟩

theorem DecayStep.law (h : DecayStep engine decay row row') (hgrace : 0 < decay.grace)
    (hnonneg : 0 ≤ row.confidence) (hle : row.confidence ≤ 1) :
    DecayLaw engine decay row row' := by
  cases h with
  | kept =>
      exact ⟨le_rfl, hnonneg, hle, fun hlt => absurd hlt (lt_irrefl _), fun _ => rfl,
        fun hne => absurd rfl hne, rfl⟩
  | decayed confidence hdecays hconfidence hweakens =>
      obtain ⟨hpos, hfalls⟩ := decayedConfidence_bounds hconfidence hweakens hnonneg hle
      obtain ⟨htype, hactive, -, -⟩ := decays_iff.mp hdecays
      have hidle := idle_of_decays hgrace hdecays
      have hspares : row.type ∉ decayTypes ∨ row.status ≠ "active"
          ∨ decay.now < lastUse engine row + decay.grace →
            decayedRow decay row confidence = row := by
        rintro (hother | hother | hother)
        · exact absurd htype hother
        · exact absurd hactive hother
        · exact absurd hidle (not_le.mpr hother)
      by_cases hstale : confidence ≤ decay.staleThreshold
      · have hrow : decayedRow decay row confidence
            = { row with
                confidence := confidence
                status := "stale"
                updatedAt := .float decay.clock } := if_pos hstale
        rw [hrow] at hspares ⊢
        exact ⟨hfalls, hpos, hfalls.trans hle, fun _ => hidle, hspares,
          fun _ => ⟨fun _ => hstale, fun _ => rfl⟩, rfl⟩
      · have hrow : decayedRow decay row confidence
            = { row with confidence := confidence, updatedAt := .float decay.now } := if_neg hstale
        rw [hrow] at hspares ⊢
        refine ⟨hfalls, hpos, hfalls.trans hle, fun _ => hidle, hspares, fun _ => ?_, rfl⟩
        constructor
        · intro hturned
          have hturned : row.status = "stale" := hturned
          rw [hactive] at hturned
          exact absurd hturned (by decide)
        · exact fun hbelow => absurd hbelow hstale

/-! ## One pass -/

theorem get?_updateItem_row (itemId : String) (status : Option String) (confidence : Option Rat)
    (updatedAt : Time) (id : String) :
    (s.updateItem itemId status confidence updatedAt).items.get? id
      = (s.items.get? id).map fun item =>
          if item.id = itemId then
            { item with
              status := status.getD item.status
              confidence := confidence.getD item.confidence
              updatedAt := .float updatedAt }
          else item := by
  unfold MemoryTables.updateItem
  rw [Table.get?_update]
  simp only [decide_eq_true_eq]

/-- The store after the writes for one item. -/
def writeDecayed (decay : Decay) (s : MemoryTables) (item : MemoryItem) (confidence : Rat) :
    MemoryTables :=
  let lowered := s.updateItem item.id none (some confidence) decay.now
  if confidence ≤ decay.staleThreshold then
    lowered.updateItem item.id (some "stale") none decay.clock
  else lowered

theorem get?_writeDecayed (hitem : s.items.get? item.id = some item) (id : String) :
    (writeDecayed decay s item confidence).items.get? id
      = if id = item.id then some (decayedRow decay item confidence) else s.items.get? id := by
  unfold writeDecayed decayedRow
  by_cases hid : id = item.id
  · subst hid
    split <;> simp [get?_updateItem_row, hitem]
  · have hother : ∀ row, s.items.get? id = some row → row.id ≠ item.id := fun row hrow hsame =>
      hid ((Table.get?_eq_some_iff.mp hrow).2.symm.trans hsame)
    rw [if_neg hid]
    split
    · rw [get?_updateItem_row, get?_updateItem_row]
      cases hfound : s.items.get? id with
      | none => rfl
      | some row => simp [hother row hfound]
    · rw [get?_updateItem_row]
      cases hfound : s.items.get? id with
      | none => rfl
      | some row => simp [hother row hfound]

@[simp] theorem run_getItemThen (itemId : String)
    (next : Option MemoryItem → MemoryProgram engine) :
    (getItemThen engine itemId next).run s = (next (s.items.get? itemId)).run s := rfl

@[simp] theorem run_updateItemThen (itemId : String) (current : Option MemoryItem)
    (status : Option String) (confidence : Option Rat) (updatedAt : Time)
    (next : MemoryProgram engine) :
    (updateItemThen engine itemId current status confidence updatedAt next).run s
      = next.run (s.updateItem itemId status confidence updatedAt) := rfl

theorem run_setStatusThen_stale (hlower : engine.lower "stale" = "stale") {clock : Time}
    {next : MemoryProgram engine} (hrow : s.items.get? item.id = some row)
    (hactive : row.status = "active")
    (hallows : engine.allows (memoryWrite row "stale" (clampConfidence row.confidence) row.metadata)
      = true) :
    (setStatusThen engine item.id "stale" clock next).run s
      = next.run (s.updateItem item.id (some "stale") none clock) := by
  have hstrip : strip "stale" = "stale" := by decide +kernel
  have hactiveAllows : "stale" ∈ allowedTransitions "active" := by decide
  unfold setStatusThen
  rw [hstrip, hlower]
  dsimp only
  rw [if_neg (by decide), run_getItemThen, hrow]
  dsimp only
  rw [if_neg (by rw [hactive]; decide), hactive, if_neg (not_not.mpr hactiveAllows), if_pos hallows,
    run_updateItemThen]

theorem run_decayEach_cons (hlower : engine.lower "stale" = "stale") {rest : List MemoryItem}
    (hitem : s.items.get? item.id = some item)
    (hconfidence : decayedConfidence engine decay item = some confidence)
    (hdecays : decays engine decay item = true)
    (hallows : engine.allows (memoryWrite item item.status confidence item.metadata) = true)
    (hstale : MayTurnStale engine decay item) :
    (decayEach engine decay (item :: rest)).run s
      = (decayEach engine decay rest).run (writeDecayed decay s item confidence) := by
  rw [decayEach, hconfidence]
  dsimp only
  rw [if_pos hdecays, if_pos hallows, run_updateItemThen]
  unfold writeDecayed
  dsimp only
  by_cases hdue : confidence ≤ decay.staleThreshold
  · rw [if_pos hdue, if_pos hdue]
    have hrow : (s.updateItem item.id none (some confidence) decay.now).items.get? item.id
        = some { item with confidence := confidence, updatedAt := .float decay.now } := by
      simp [get?_updateItem_row, hitem]
    exact run_setStatusThen_stale hlower hrow (decays_iff.mp hdecays).2.1
      (hstale confidence hconfidence hdue)
  · rw [if_neg hdue, if_neg hdue]

theorem run_decayEach (hlower : engine.lower "stale" = "stale") {items : List MemoryItem}
    (hnodup : (items.map (·.id)).Nodup) (hitems : ∀ item ∈ items, s.items.get? item.id = some item)
    (hsound : ∀ item ∈ decayReached engine decay items,
      Weakens engine decay item ∧ MayTurnStale engine decay item) (id : String) :
    ((decayEach engine decay items).run s).items.get? id = s.items.get? id
      ∨ ∃ item ∈ items, item.id = id ∧ ∃ row', DecayStep engine decay item row'
        ∧ ((decayEach engine decay items).run s).items.get? id = some row' := by
  induction items generalizing s with
  | nil => exact .inl rfl
  | cons item rest ih =>
      rw [List.map_cons, List.nodup_cons] at hnodup
      have hitem := hitems item List.mem_cons_self
      have hlater : ∀ other ∈ rest, s.items.get? other.id = some other := fun other hother =>
        hitems other (List.mem_cons_of_mem _ hother)
      unfold decayReached at hsound
      cases hconfidence : decayedConfidence engine decay item with
      | none =>
          rw [decayEach, hconfidence]
          exact .inl rfl
      | some confidence =>
          rw [hconfidence] at hsound
          dsimp only at hsound
          by_cases hdecays : decays engine decay item = true
          · rw [if_pos hdecays] at hsound
            by_cases hallows : engine.allows
                (memoryWrite item item.status confidence item.metadata) = true
            · rw [if_pos hallows, List.forall_mem_cons] at hsound
              rw [run_decayEach_cons hlower hitem hconfidence hdecays hallows hsound.1.2]
              have hwritten : ∀ id, (writeDecayed decay s item confidence).items.get? id
                  = if id = item.id then some (decayedRow decay item confidence)
                    else s.items.get? id := get?_writeDecayed hitem
              -- the rows of the rest are still as they were listed
              have hrest : ∀ other ∈ rest, (writeDecayed decay s item confidence).items.get?
                  other.id = some other := fun other hother => by
                have hne : other.id ≠ item.id := fun hsame =>
                  hnodup.1 (hsame ▸ List.mem_map_of_mem hother)
                rw [hwritten, if_neg hne]
                exact hlater other hother
              rcases ih hnodup.2 hrest hsound.2 with hkept | ⟨other, hother, hid, hmoved⟩
              · rw [hkept, hwritten]
                by_cases hid : id = item.id
                · rw [if_pos hid]
                  exact .inr ⟨item, List.mem_cons_self, hid.symm, _,
                    .decayed confidence hdecays hconfidence hsound.1.1, rfl⟩
                · rw [if_neg hid]
                  exact .inl rfl
              · exact .inr ⟨other, List.mem_cons_of_mem _ hother, hid, hmoved⟩
            · rw [decayEach, hconfidence]
              dsimp only
              rw [if_pos hdecays, if_neg hallows]
              exact .inl rfl
          · rw [if_neg hdecays] at hsound
            rw [decayEach, hconfidence]
            dsimp only
            rw [if_neg hdecays]
            rcases ih hnodup.2 hlater hsound with hkept | ⟨other, hother, hmoved⟩
            · exact .inl hkept
            · exact .inr ⟨other, List.mem_cons_of_mem _ hother, hmoved⟩

/-- `decay_inactive_confidence` with a limit. -/
def decayPass (engine : LifecycleEngine) (s : MemoryTables) (call : Decay × Int) : MemoryTables :=
  (decayInactiveConfidence engine call.1 call.2).run s

theorem mem_items_of_mem_getItems {limit : Int}
    (h : item ∈ getItems engine.toListingEngine s none none none limit) : item ∈ s.items.rows := by
  unfold getItems at h
  rw [if_neg (by simp), sqlLimit_eq_take] at h
  exact (List.mem_filter.mp ((engine.latestFirst_perm _).mem_iff.mp (List.mem_of_mem_take h))).1

theorem nodup_getItems (limit : Int) :
    ((getItems engine.toListingEngine s none none none limit).map (·.id)).Nodup := by
  unfold getItems
  rw [if_neg (by simp), sqlLimit_eq_take]
  refine List.Nodup.sublist ((List.take_sublist _ _).map _) ?_
  exact (((engine.latestFirst_perm _).map _).nodup_iff).mpr
    (s.items.nodup.sublist (List.filter_sublist.map _))

theorem decayPass_related (hlower : engine.lower "stale" = "stale") {limit : Int}
    (hsound : SoundPass engine decay s limit) :
    Table.Related (DecayStep engine decay) s.items (decayPass engine s (decay, limit)).items := by
  intro id
  have hlisted : ∀ item ∈ getItems engine.toListingEngine s none none none limit,
      s.items.get? item.id = some item := fun item hitem =>
    Table.get?_of_mem (mem_items_of_mem_getItems hitem)
  have hpass : decayPass engine s (decay, limit) = (decayEach engine decay
      (getItems engine.toListingEngine s none none none limit)).run s := rfl
  rcases run_decayEach hlower (nodup_getItems limit) hlisted hsound id with
    hkept | ⟨item, hitem, rfl, row', hstep, hrow'⟩
  · rw [hpass, hkept]
    exact Table.Related.refl (fun _ => .kept) s.items id
  · rw [hpass, hrow', hlisted item hitem]
    exact .some hstep

/-! ## Passes one after another -/

/-- The store after the first passes. -/
def afterPasses (engine : LifecycleEngine) (s : MemoryTables) (passes : List (Decay × Int))
    (n : Nat) : MemoryTables := (passes.take n).foldl (decayPass engine) s

/-- The confidences are between zero and one. -/
def Confident (s : MemoryTables) : Prop :=
  ∀ id row, s.items.get? id = some row → 0 ≤ row.confidence ∧ row.confidence ≤ 1

/-- An item that is still active has been written since a time. -/
def RestedSince (t : Time) (id : String) (s : MemoryTables) : Prop :=
  ∀ row, s.items.get? id = some row → row.status = "active" → t ≤ columnTime row.updatedAt

/-- An item has lost confidence in a pass. -/
def LosesIn (engine : LifecycleEngine) (s : MemoryTables) (passes : List (Decay × Int))
    (id : String) (n : Nat) : Prop :=
  ∃ row row', (afterPasses engine s passes n).items.get? id = some row
    ∧ (afterPasses engine s passes (n + 1)).items.get? id = some row'
    ∧ row'.confidence < row.confidence

variable {passes : List (Decay × Int)} {n : Nat} {call : Decay × Int}

theorem afterPasses_succ (h : passes[n]? = some call) :
    afterPasses engine s passes (n + 1)
      = decayPass engine (afterPasses engine s passes n) call := by
  unfold afterPasses
  rw [List.take_add_one, h, List.foldl_append]
  rfl

/-- What is required of the passes: one grace period, at times that do not go back, and each is
sound in the store that it finds. -/
structure SoundPasses (engine : LifecycleEngine) (s : MemoryTables) (passes : List (Decay × Int))
    (grace : Rat) : Prop where
  grace : ∀ call ∈ passes, call.1.grace = grace
  monotone : passes.Pairwise fun a b => a.1.now ≤ b.1.now
  sound : ∀ n call, passes[n]? = some call →
    SoundPass engine call.1 (afterPasses engine s passes n) call.2

/-- The passes keep the items, the law holds of every item in every pass, and an item that loses
confidence twice has had the grace period between. -/
structure DecaysLawfully (engine : LifecycleEngine) (s : MemoryTables)
    (passes : List (Decay × Int)) (grace : Rat) : Prop where
  kept : ∀ n id, ((afterPasses engine s passes n).items.get? id).isSome = (s.items.get? id).isSome
  each : ∀ n call id row row', passes[n]? = some call →
    (afterPasses engine s passes n).items.get? id = some row →
      (afterPasses engine s passes (n + 1)).items.get? id = some row' →
        DecayLaw engine call.1 row row'
  spaced : ∀ j k first second id, j < k → passes[j]? = some first → passes[k]? = some second →
    LosesIn engine s passes id j → LosesIn engine s passes id k →
      first.1.now + grace ≤ second.1.now

variable {grace : Rat}

theorem afterPasses_of_none (h : passes[n]? = none) :
    afterPasses engine s passes (n + 1) = afterPasses engine s passes n := by
  unfold afterPasses
  rw [List.take_add_one, h, Option.toList_none, List.append_nil]

theorem SoundPasses.related (h : SoundPasses engine s passes grace)
    (hlower : engine.lower "stale" = "stale") (hcall : passes[n]? = some call) :
    Table.Related (DecayStep engine call.1) (afterPasses engine s passes n).items
      (afterPasses engine s passes (n + 1)).items := by
  rw [afterPasses_succ hcall]
  exact decayPass_related hlower (h.sound n call hcall)

theorem SoundPasses.law (h : SoundPasses engine s passes grace)
    (hlower : engine.lower "stale" = "stale") (hgrace : 0 < grace)
    (hconfident : Confident (afterPasses engine s passes n)) (hcall : passes[n]? = some call)
    {id : String} (hrow : (afterPasses engine s passes n).items.get? id = some row)
    (hrow' : (afterPasses engine s passes (n + 1)).items.get? id = some row') :
    DecayStep engine call.1 row row' ∧ DecayLaw engine call.1 row row' := by
  obtain ⟨found, hfound, hstep⟩ := (h.related hlower hcall).after hrow
  obtain rfl := Option.some.inj (hfound.symm.trans hrow')
  have hsame := h.grace call (List.mem_of_getElem? hcall)
  obtain ⟨hnonneg, hle⟩ := hconfident id row hrow
  exact ⟨hstep, hstep.law (hsame ▸ hgrace) hnonneg hle⟩

theorem SoundPasses.confident (h : SoundPasses engine s passes grace)
    (hlower : engine.lower "stale" = "stale") (hgrace : 0 < grace) (hs : Confident s) (n : Nat) :
    Confident (afterPasses engine s passes n) := by
  induction n with
  | zero => exact hs
  | succ n ih =>
      cases hcall : passes[n]? with
      | none => rwa [afterPasses_of_none hcall]
      | some call =>
          intro id row' hrow'
          obtain ⟨row, hrow, -⟩ := (h.related hlower hcall).before hrow'
          have hlaw := (h.law hlower hgrace ih hcall hrow hrow').2
          exact ⟨hlaw.nonneg, hlaw.le_one⟩

theorem SoundPasses.isSome (h : SoundPasses engine s passes grace)
    (hlower : engine.lower "stale" = "stale") (n : Nat) (id : String) :
    ((afterPasses engine s passes n).items.get? id).isSome = (s.items.get? id).isSome := by
  induction n with
  | zero => rfl
  | succ n ih =>
      cases hcall : passes[n]? with
      | none => rwa [afterPasses_of_none hcall]
      | some call =>
          rw [← ih]
          have hrelated := h.related hlower hcall
          cases hrow : (afterPasses engine s passes n).items.get? id with
          | some row =>
              obtain ⟨row', hrow', -⟩ := hrelated.after hrow
              rw [hrow']
              rfl
          | none =>
              cases hrow' : (afterPasses engine s passes (n + 1)).items.get? id with
              | none => rfl
              | some row' =>
                  obtain ⟨row, hfound, -⟩ := hrelated.before hrow'
                  rw [hrow] at hfound
                  cases hfound

/-! ## The pace -/

theorem DecayStep.rested (h : DecayStep engine decay row row') {t : Time} (ht : t ≤ decay.now)
    (hrow : row' = row → row.status = "active" → t ≤ columnTime row.updatedAt)
    (hactive : row'.status = "active") : t ≤ columnTime row'.updatedAt := by
  cases h with
  | kept => exact hrow rfl hactive
  | decayed confidence _ _ _ =>
      unfold decayedRow at hactive ⊢
      split
      next hstale =>
        rw [if_pos hstale] at hactive
        exact absurd hactive (by decide : "stale" ≠ "active")
      next => exact ht

theorem SoundPasses.restedSince (h : SoundPasses engine s passes grace)
    (hlower : engine.lower "stale" = "stale") {j : Nat} {first : Decay × Int} {id : String}
    (hfirst : passes[j]? = some first) (hloses : LosesIn engine s passes id j) {k : Nat}
    (hk : j < k) : RestedSince first.1.now id (afterPasses engine s passes k) := by
  induction k, hk using Nat.le_induction with
  | base =>
      obtain ⟨row, row', hrow, hrow', hlt⟩ := hloses
      intro found hfound hactive
      obtain rfl := Option.some.inj (hrow'.symm.trans hfound)
      obtain ⟨moved, hmoved, hstep⟩ := (h.related hlower hfirst).after hrow
      obtain rfl := Option.some.inj (hmoved.symm.trans hfound)
      refine hstep.rested le_rfl (fun hsame => ?_) hactive
      rw [hsame] at hlt
      exact absurd hlt (lt_irrefl _)
  | succ k hk ih =>
      cases hcall : passes[k]? with
      | none => rwa [afterPasses_of_none hcall]
      | some call =>
          intro row' hrow' hactive
          obtain ⟨row, hrow, hstep⟩ := (h.related hlower hcall).before hrow'
          have hjk : j < k := hk
          have hle : first.1.now ≤ call.1.now := by
            obtain ⟨hj, hjth⟩ := List.getElem?_eq_some_iff.mp hfirst
            obtain ⟨hklen, hkth⟩ := List.getElem?_eq_some_iff.mp hcall
            rw [← hjth, ← hkth]
            exact List.pairwise_iff_getElem.mp h.monotone j k hj hklen hjk
          exact hstep.rested hle (fun _ hwas => ih row hrow hwas) hactive

end

/-- **Decay is one-directional, paced and spares constraints** in every run of passes that weaken
what they write. -/
theorem decaysLawfully {engine : LifecycleEngine} {s : MemoryTables} {passes : List (Decay × Int)}
    {grace : Rat} (hlower : engine.lower "stale" = "stale") (hgrace : 0 < grace)
    (hs : Confident s) (h : SoundPasses engine s passes grace) :
    DecaysLawfully engine s passes grace where
  kept := h.isSome hlower
  each _ _ _ _ _ hcall hrow hrow' :=
    (h.law hlower hgrace (h.confident hlower hgrace hs _) hcall hrow hrow').2
  spaced j k first second id hjk hfirst hsecond hloses hloses' := by
    have hrested := h.restedSince hlower hfirst hloses hjk
    obtain ⟨row, row', hrow, hrow', hlt⟩ := hloses'
    obtain ⟨hstep, hlaw⟩ :=
      h.law hlower hgrace (h.confident hlower hgrace hs k) hsecond hrow hrow'
    have hactive : row.status = "active" := by
      cases hstep with
      | kept => exact absurd hlt (lt_irrefl _)
      | decayed confidence hdecays _ _ => exact (decays_iff.mp hdecays).2.1
    have hused : first.1.now ≤ lastUse engine row :=
      (hrested row hrow hactive).trans ((le_max_left _ _).trans (le_max_right _ _))
    have hidle := hlaw.paced hlt
    rw [h.grace second (List.mem_of_getElem? hsecond)] at hidle
    linarith

/-! ## A stability below zero -/

/-- A logarithm that is right at one and two. -/
def recallingLifecycle : LifecycleEngine :=
  { permittingLifecycle with log := fun x => if x = 2 then 6931471805599453 / 10 ^ 16 else 0 }

/-- A fact that was recalled once, of middling confidence, and one that was not. -/
def recalledPort : MemoryTables where
  items := ⟨[{ portFact "old" "server runs on port 8080" 1 with
    confidence := 1 / 2
    metadata := [("activation_count", .int 1)] },
    portFact "new" "server runs on port 9090" 2], by decide⟩
  parameters := .empty
  stored := by decide +kernel

/-- A pass after a day, with this scale of the stability. -/
def dailyDecay (stabilityScale : Rat) : Decay where
  now := 86400
  clock := 86400
  grace := 3600
  delta := 5 / 100
  staleThreshold := 20 / 100
  stabilityScale := stabilityScale

theorem confident_recalledPort : Confident recalledPort := by
  intro id row hrow
  have hmem := (Table.get?_eq_some_iff.mp hrow).1
  rcases List.mem_pair.mp hmem with rfl | rfl <;> decide +kernel

theorem lower_stale : recallingLifecycle.lower "stale" = "stale" := by decide +kernel

/-- The passes of two days, with the scale that is shipped. -/
def twoDays : List (Decay × Int) :=
  [(dailyDecay 1, 1000), ({ dailyDecay 1 with now := 172800, clock := 172800 }, 1000)]

/-- They are lawful. -/
theorem recalledPort_decaysLawfully :
    DecaysLawfully recallingLifecycle recalledPort twoDays 3600 := by
  refine decaysLawfully lower_stale (by norm_num) confident_recalledPort
    ⟨fun call hcall => ?_, List.pairwise_pair.mpr ?_, fun n call hcall item _ => ?_⟩
  · rcases List.mem_pair.mp hcall with rfl | rfl <;> rfl
  · show (86400 : Rat) ≤ 172800
    norm_num
  · have hscale : call.1.stabilityScale = 1 := by
      rcases List.mem_pair.mp (List.mem_of_getElem? hcall) with rfl | rfl <;> rfl
    refine ⟨.inr fun count _ => ?_, fun _ _ _ => rfl⟩
    have hlog : 0 ≤ recallingLifecycle.log (1 + max 0 count) := by
      show 0 ≤ if 1 + max 0 count = 2 then (6931471805599453 / 10 ^ 16 : Rat) else 0
      split <;> norm_num
    unfold stability
    rw [hscale]
    linarith

/-- With a scale of minus two the confidence of the fact rises. -/
theorem recalledPort_decaysLawfully_not :
    ¬ DecaysLawfully recallingLifecycle recalledPort [(dailyDecay (-2), 1000)] 3600
      ∧ ((afterPasses recallingLifecycle recalledPort [(dailyDecay (-2), 1000)] 1).items.get?
          "old").any (fun row => 1 / 2 < row.confidence) = true := by
  have hrises : ((afterPasses recallingLifecycle recalledPort
      [(dailyDecay (-2), 1000)] 1).items.get? "old").any (fun row => 1 / 2 < row.confidence)
        = true := by
    decide +kernel
  refine ⟨fun h => ?_, hrises⟩
  obtain ⟨row', hrow', hgreater⟩ := (Option.any_eq_true _ _).mp hrises
  have hlaw := h.each 0 _ "old" _ row' rfl rfl hrow'
  have hfalls : row'.confidence ≤ 1 / 2 := hlaw.falls
  exact absurd hfalls (not_le.mpr (by simpa using hgreater))

end Navi.Memory
