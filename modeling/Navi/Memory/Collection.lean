import Mathlib
import Navi.Base.Checks
import Navi.Memory.Decay

/-!
# Garbage collection

A pass lists the items that were updated last, lets those expire that are due, lists them again
and lets those decay that are idle. What it reports is what it has written.
-/

namespace Navi.Memory

open Navi.Base

/-! ## The calls with what they report -/

/-- What `expire_items` reports of an item. -/
structure ExpiredItem where
  id : String
  previousStatus : String
  status : String

/-- What `decay_inactive_confidence` reports of an item. -/
structure DecayedItem where
  id : String
  type : String
  previousConfidence : Rat
  confidence : Rat
  previousStatus : String
  status : String
  ageSeconds : Rat

/-- What `garbage_collect` reports, the counts being those of the lists. -/
structure CollectionReport where
  expiredItems : List ExpiredItem
  decayedItems : List DecayedItem
  activeCount : Nat

section

variable (engine : LifecycleEngine)

/-- `set_status`. -/
def setStatus (s : MemoryTables) (itemId status : String) (clock : Time) :
    Except String (MemoryTables × Option MemoryItem) :=
  let status := engine.lower (strip status)
  let written := s.updateItem itemId (some status) none clock
  if status ∉ memoryStatuses then .error ("Unsupported memory status: " ++ status)
  else
    match s.items.get? itemId with
    | none => .ok (written, written.items.get? itemId)
    | some current =>
        if current.status = status then .ok (written, written.items.get? itemId)
        else if status ∉ allowedTransitions current.status then
          .error ("invalid memory lifecycle transition: " ++ current.status ++ " -> " ++ status)
        else if engine.allows
            (memoryWrite current status (clampConfidence current.confidence) current.metadata) then
          .ok (written, written.items.get? itemId)
        else .error "memory write blocked"

/-- An item that has expired and whose status does not show it. -/
def MemoryItem.outlived (now : Time) (item : MemoryItem) : Bool :=
  item.expired now ∧ item.status ∉ ["archived", "revoked", "stale"]

/-- The loop of `expire_items`, with its report. -/
def expireListed (now clock : Time) :
    List MemoryItem → MemoryTables → Except String (MemoryTables × List ExpiredItem)
  | [], s => .ok (s, [])
  | item :: rest, s =>
      if item.outlived now then do
        let updated ← setStatus engine s item.id
          (if item.status = "active" then "stale" else "archived") clock
        let later ← expireListed now clock rest updated.1
        return (later.1, updated.2.toList.map (fun row => ⟨row.id, item.status, row.status⟩)
          ++ later.2)
      else expireListed now clock rest s

/-- The write of a decayed confidence, and of the status where it is due. -/
def writeDecay (decay : Decay) (s : MemoryTables) (item : MemoryItem) (confidence : Rat) :
    Except String (MemoryTables × Option MemoryItem) :=
  let lowered := s.updateItem item.id none (some confidence) decay.now
  if confidence ≤ decay.staleThreshold then setStatus engine lowered item.id "stale" decay.clock
  else .ok (lowered, lowered.items.get? item.id)

/-- The loop of `decay_inactive_confidence`, with its report. -/
def decayListed (decay : Decay) :
    List MemoryItem → MemoryTables → Except String (MemoryTables × List DecayedItem)
  | [], s => .ok (s, [])
  | item :: rest, s =>
      match decayedConfidence engine decay item with
      | none => .error "no float, or division by zero"
      | some confidence =>
          if decays engine decay item then
            if engine.allows (memoryWrite item item.status confidence item.metadata) then do
              let updated ← writeDecay engine decay s item confidence
              let later ← decayListed decay rest updated.1
              return (later.1,
                { id := item.id
                  type := item.type
                  previousConfidence := clampConfidence item.confidence
                  confidence := confidence
                  previousStatus := item.status
                  status := (updated.2.map (·.status)).getD item.status
                  ageSeconds := max 0 (decay.now - lastUse engine item) } :: later.2)
            else .error "memory write blocked"
          else decayListed decay rest s

/-- `list_items(limit=limit)`. -/
def listItems (s : MemoryTables) (limit : Int) : List MemoryItem :=
  getItems engine.toListingEngine s none none none limit

/-- `garbage_collect`, as far as it concerns the items. -/
def garbageCollect (decay : Decay) (s : MemoryTables) (limit : Int) :
    Except String (MemoryTables × CollectionReport) := do
  let expired ← expireListed engine decay.now decay.clock (listItems engine s limit) s
  let decayed ← decayListed engine decay (listItems engine expired.1 limit) expired.1
  return (decayed.1, ⟨expired.2, decayed.2,
    ((listItems engine decayed.1 limit).filter (MemoryItem.inForce decay.now)).length⟩)

end

/-! ## The programs -/

section

variable {engine : LifecycleEngine} {decay : Decay} {s s' : MemoryTables} {item : MemoryItem}
  {now clock : Time} {items : List MemoryItem}

theorem run_setStatusThen {itemId status : String} {next : MemoryProgram engine}
    {updated : MemoryTables × Option MemoryItem}
    (h : setStatus engine s itemId status clock = .ok updated) :
    (setStatusThen engine itemId status clock next).run s = next.run updated.1 := by
  unfold setStatus at h
  unfold setStatusThen
  dsimp only at h ⊢
  split at h
  · cases h
  next hstatus =>
    rw [if_neg hstatus, run_getItemThen]
    cases hfound : s.items.get? itemId with
    | none =>
        rw [hfound] at h
        obtain rfl := Except.ok.inj h
        rfl
    | some current =>
        rw [hfound] at h
        dsimp only at h ⊢
        split at h
        next hsame =>
          rw [if_pos hsame]
          obtain rfl := Except.ok.inj h
          rfl
        next hother =>
          rw [if_neg hother]
          split at h
          · cases h
          next hallowed =>
            rw [if_neg hallowed]
            split at h
            next hpasses =>
              rw [if_pos hpasses]
              obtain rfl := Except.ok.inj h
              rfl
            · cases h

theorem run_expireEach {result : MemoryTables × List ExpiredItem}
    (h : expireListed engine now clock items s = .ok result) :
    (expireEach engine now clock items).run s = result.1 := by
  induction items generalizing s result with
  | nil =>
      obtain rfl := Except.ok.inj h
      rfl
  | cons item rest ih =>
      rw [expireListed] at h
      rw [expireEach]
      by_cases hdue : item.outlived now = true
      · rw [if_pos hdue] at h
        obtain ⟨updated, hupdated, h⟩ := bind_eq_ok.mp h
        obtain ⟨later, hlater, h⟩ := bind_eq_ok.mp h
        obtain rfl := pure_eq_ok.mp h
        rw [if_pos (of_decide_eq_true hdue), run_setStatusThen hupdated]
        have hrest := ih hlater
        exact hrest
      · rw [if_neg hdue] at h
        rw [if_neg fun hyes => hdue (decide_eq_true hyes)]
        exact ih h

theorem run_decayEach_eq {result : MemoryTables × List DecayedItem}
    (h : decayListed engine decay items s = .ok result) :
    (decayEach engine decay items).run s = result.1 := by
  induction items generalizing s result with
  | nil =>
      obtain rfl := Except.ok.inj h
      rfl
  | cons item rest ih =>
      rw [decayListed] at h
      rw [decayEach]
      cases hconfidence : decayedConfidence engine decay item with
      | none =>
          rw [hconfidence] at h
          cases h
      | some confidence =>
          rw [hconfidence] at h
          dsimp only at h ⊢
          by_cases hdecays : decays engine decay item = true
          · rw [if_pos hdecays] at h ⊢
            split at h
            next hallows =>
              obtain ⟨updated, hupdated, h⟩ := bind_eq_ok.mp h
              obtain ⟨later, hlater, h⟩ := bind_eq_ok.mp h
              obtain rfl := pure_eq_ok.mp h
              rw [if_pos hallows, run_updateItemThen]
              unfold writeDecay at hupdated
              dsimp only at hupdated
              split at hupdated
              next hstale =>
                rw [if_pos hstale, run_setStatusThen hupdated]
                have hrest := ih hlater
                exact hrest
              next hstale =>
                rw [if_neg hstale]
                obtain rfl := Except.ok.inj hupdated
                have hrest := ih hlater
                exact hrest
            · cases h
          · rw [if_neg hdecays] at h ⊢
            exact ih h

theorem garbageCollect_refines {limit : Int} {report : CollectionReport}
    (h : garbageCollect engine decay s limit = .ok (s', report)) :
    s' = decayPass engine ((expireItems engine decay.now decay.clock limit).run s)
      (decay, limit) := by
  obtain ⟨expired, hexpired, h⟩ := bind_eq_ok.mp h
  obtain ⟨decayed, hdecayed, h⟩ := bind_eq_ok.mp h
  have hs' : decayed.1 = s' := congrArg Prod.fst (pure_eq_ok.mp h)
  have hfirst : (expireItems engine decay.now decay.clock limit).run s = expired.1 :=
    run_expireEach hexpired
  rw [← hs', hfirst]
  exact (run_decayEach_eq hdecayed).symm

/-! ## What a pass that reports nothing has seen -/

section

variable {limit : Int}

theorem get?_of_setStatus {itemId status : String} {updated : MemoryTables × Option MemoryItem}
    (h : setStatus engine s itemId status clock = .ok updated)
    (hitem : (s.items.get? itemId).isSome = true) : updated.2.isSome = true := by
  have hwritten : ∀ status, ((s.updateItem itemId (some status) none clock).items.get?
      itemId).isSome = true := fun status => by
    rw [get?_updateItem_row, Option.isSome_map]
    exact hitem
  unfold setStatus at h
  dsimp only at h
  split at h
  · cases h
  · split at h
    · obtain rfl := Except.ok.inj h
      exact hwritten _
    · split at h
      · obtain rfl := Except.ok.inj h
        exact hwritten _
      · split at h
        · cases h
        · split at h
          · obtain rfl := Except.ok.inj h
            exact hwritten _
          · cases h

theorem expireListed_quiet (hitems : ∀ item ∈ items, (s.items.get? item.id).isSome = true)
    {result : MemoryTables × List ExpiredItem}
    (h : expireListed engine now clock items s = .ok result) (hquiet : result.2 = []) :
    result.1 = s ∧ ∀ item ∈ items, item.outlived now = false := by
  induction items generalizing s result with
  | nil =>
      obtain rfl := Except.ok.inj h
      exact ⟨rfl, by simp⟩
  | cons item rest ih =>
      rw [expireListed] at h
      by_cases hdue : item.outlived now = true
      · rw [if_pos hdue] at h
        obtain ⟨updated, hupdated, h⟩ := bind_eq_ok.mp h
        obtain ⟨later, -, h⟩ := bind_eq_ok.mp h
        obtain rfl := pure_eq_ok.mp h
        have hsome := get?_of_setStatus hupdated (hitems item List.mem_cons_self)
        obtain ⟨row, hrow⟩ := Option.isSome_iff_exists.mp hsome
        rw [hrow] at hquiet
        cases hquiet
      · rw [if_neg hdue] at h
        obtain ⟨hsame, hrest⟩ :=
          ih (fun other hother => hitems other (List.mem_cons_of_mem _ hother)) h hquiet
        exact ⟨hsame, List.forall_mem_cons.mpr ⟨by simpa using hdue, hrest⟩⟩

theorem expireListed_of_quiet (hquiet : ∀ item ∈ items, item.outlived now = false) :
    expireListed engine now clock items s = .ok (s, []) := by
  induction items with
  | nil => rfl
  | cons item rest ih =>
      rw [List.forall_mem_cons] at hquiet
      rw [expireListed, if_neg (by simp [hquiet.1])]
      exact ih hquiet.2

/-- Nothing is reported as decayed exactly where nothing that is listed decays, and what decays
can be told of each. -/
theorem decayListed_quiet {result : MemoryTables × List DecayedItem}
    (h : decayListed engine decay items s = .ok result) (hquiet : result.2 = []) :
    result.1 = s ∧ ∀ item ∈ items, decays engine decay item = false
      ∧ (decayedConfidence engine decay item).isSome = true := by
  induction items generalizing s result with
  | nil =>
      obtain rfl := Except.ok.inj h
      exact ⟨rfl, by simp⟩
  | cons item rest ih =>
      rw [decayListed] at h
      cases hconfidence : decayedConfidence engine decay item with
      | none =>
          rw [hconfidence] at h
          cases h
      | some confidence =>
          rw [hconfidence] at h
          dsimp only at h
          by_cases hdecays : decays engine decay item = true
          · rw [if_pos hdecays] at h
            split at h
            · obtain ⟨updated, -, h⟩ := bind_eq_ok.mp h
              obtain ⟨later, -, h⟩ := bind_eq_ok.mp h
              obtain rfl := pure_eq_ok.mp h
              cases hquiet
            · cases h
          · rw [if_neg hdecays] at h
            obtain ⟨hsame, hrest⟩ := ih h hquiet
            refine ⟨hsame, List.forall_mem_cons.mpr ⟨⟨by simpa using hdecays, ?_⟩, hrest⟩⟩
            rw [hconfidence]
            rfl

theorem decayListed_of_quiet (hquiet : ∀ item ∈ items, decays engine decay item = false
      ∧ (decayedConfidence engine decay item).isSome = true) :
    decayListed engine decay items s = .ok (s, []) := by
  induction items with
  | nil => rfl
  | cons item rest ih =>
      rw [List.forall_mem_cons] at hquiet
      obtain ⟨confidence, hconfidence⟩ := Option.isSome_iff_exists.mp hquiet.1.2
      rw [decayListed, hconfidence]
      dsimp only
      rw [if_neg (by simp [hquiet.1.1])]
      exact ih hquiet.2

end

end

/-! ## What is claimed -/

section

variable (engine : LifecycleEngine) (decay : Decay) (s : MemoryTables) (limit : Int)

/-- An item has expired or has been idle, and does not show it. -/
def Due (item : MemoryItem) : Prop :=
  (0 < columnTime item.expiresAt ∧ columnTime item.expiresAt ≤ decay.now
      ∧ item.status ∉ ["archived", "revoked", "stale"])
    ∨ (item.status = "active" ∧ item.type ∈ decayTypes
      ∧ (columnTime item.expiresAt = 0 ∨ decay.now < columnTime item.expiresAt)
      ∧ decay.grace ≤ decay.now - lastUse engine item)

/-- A pass that reports nothing leaves nothing that is due. -/
def LeavesNothingDue : Prop :=
  ∀ s' report, garbageCollect engine decay s limit = .ok (s', report) →
    report.expiredItems = [] → report.decayedItems = [] →
      ∀ item ∈ s'.items.rows, ¬ Due engine decay item

/-- If anything is due, an item that a pass lists expires or decays in it, or makes it raise since
its activations are no number. -/
def DueAmongListed : Prop :=
  (∃ item ∈ s.items.rows, Due engine decay item) →
    ∃ item ∈ listItems engine s limit, item.outlived decay.now = true
      ∨ decays engine decay item = true ∨ decayedConfidence engine decay item = none

end

/-- **Collecting until nothing is reported leaves nothing that is due** exactly if what is due is
among the items that are listed. -/
theorem leavesNothingDue_iff (engine : LifecycleEngine) (decay : Decay) (s : MemoryTables)
    (limit : Int) :
    LeavesNothingDue engine decay s limit ↔ DueAmongListed engine decay s limit := by
  constructor
  · rintro h ⟨item, hitem, hdue⟩
    by_contra hnone
    push Not at hnone
    -- such a pass writes nothing and reports nothing
    have hexpire : expireListed engine decay.now decay.clock (listItems engine s limit) s
        = .ok (s, []) :=
      expireListed_of_quiet fun other hother => by simpa using (hnone other hother).1
    have hdecay : decayListed engine decay (listItems engine s limit) s = .ok (s, []) :=
      decayListed_of_quiet fun other hother =>
        ⟨by simpa using (hnone other hother).2.1,
          Option.isSome_iff_ne_none.mpr (hnone other hother).2.2⟩
    have hpass : garbageCollect engine decay s limit = .ok (s, ⟨[], [],
        ((listItems engine s limit).filter (MemoryItem.inForce decay.now)).length⟩) := by
      unfold garbageCollect
      rw [bind_of_eq_ok hexpire, bind_of_eq_ok hdecay]
      rfl
    exact h s _ hpass rfl rfl item hitem hdue
  · intro h s' report hpass hexpired hdecayed item hitem hdue
    obtain ⟨first, hfirst, hpass⟩ := bind_eq_ok.mp hpass
    obtain ⟨second, hsecond, hpass⟩ := bind_eq_ok.mp hpass
    obtain ⟨rfl, rfl⟩ := Prod.mk.inj (pure_eq_ok.mp hpass)
    have hlisted : ∀ item ∈ listItems engine s limit, (s.items.get? item.id).isSome = true :=
      fun item hitem => by
        rw [Table.get?_of_mem (mem_items_of_mem_getItems hitem)]
        rfl
    obtain ⟨hsame, hquiet⟩ := expireListed_quiet hlisted hfirst hexpired
    rw [hsame] at hsecond
    obtain ⟨hsame', hquiet'⟩ := decayListed_quiet hsecond hdecayed
    rw [hsame'] at hitem
    obtain ⟨other, hother, hcause⟩ := h ⟨item, hitem, hdue⟩
    rcases hcause with hcause | hcause | hcause
    · rw [hquiet other hother] at hcause
      cases hcause
    · rw [(hquiet' other hother).1] at hcause
      cases hcause
    · have hsome := (hquiet' other hother).2
      rw [hcause] at hsome
      cases hsome

/-- An expired fact, and a newer one without an expiry. -/
def expiredPort : MemoryTables where
  items := ⟨[{ portFact "old" "server runs on port 8080" 1 with expiresAt := .float 2 },
    portFact "new" "server runs on port 9090" 86399], by decide⟩
  parameters := .empty
  stored := by decide +kernel

/-- A pass for one item reports nothing, and the older fact has expired. -/
theorem expiredPort_leavesNothingDue_not :
    ¬ LeavesNothingDue permittingLifecycle (dailyDecay 1) expiredPort 1 := by
  intro h
  have hpass : (garbageCollect permittingLifecycle (dailyDecay 1) expiredPort 1).map
      (fun result => (result.1.items.rows, result.2.expiredItems.length,
        result.2.decayedItems.length)) = .ok (expiredPort.items.rows, 0, 0) := by
    decide +kernel
  obtain ⟨⟨s', report⟩, hresult, hparts⟩ := map_eq_ok.mp hpass
  obtain ⟨hrows, hcounts⟩ := Prod.mk.inj hparts
  obtain ⟨hexpired, hdecayed⟩ := Prod.mk.inj hcounts
  have hleft := h s' report hresult (List.length_eq_zero_iff.mp hexpired)
    (List.length_eq_zero_iff.mp hdecayed)
  dsimp only at hrows
  rw [hrows] at hleft
  exact hleft _ List.mem_cons_self (.inl (by decide +kernel))

end Navi.Memory
