import Mathlib
import Navi.Memory.ConflictLinks
import Navi.Memory.Lifecycle

/-!
# When the table of transitions is kept

The status that a call writes is one that the table allows from the status that the call read,
except where the credit of a trace turns a proposed item stale. The table is bypassed there, and
where the status was changed between what a call read and what it writes.
-/

namespace Navi.Memory

open Navi.Base

/-- The statement is the update of `set_status`. -/
def LifecycleStatement.setsStatus : LifecycleStatement → Bool
  | .updateItem _ _ status _ _ => status.isSome
  | _ => false

/-- The change of every item's status is one of the table, and what is revoked or archived is
activated by `set_status` alone. -/
def KeepsTable (engine : LifecycleEngine) (s : MemoryTables) (statement : LifecycleStatement) :
    Prop :=
  ∀ id before after, s.items.get? id = some before →
    (statement.exec engine s).1.items.get? id = some after →
    (before.status = after.status ∨ after.status ∈ allowedTransitions before.status)
      ∧ (before.status ∈ ["revoked", "archived"] → after.status = "active" →
        statement.setsStatus = true)

/-- A write finds the status that was read, and it is not a proposed item that turns stale or an
unknown status that is archived; or it finds another one, which it may change by the table, and
which it does not activate where it is revoked or archived. -/
def Undisturbed (s : MemoryTables) : LifecycleStatement → Prop
  | .updateItem itemId current (some status) _ _ =>
      ∀ row ∈ s.items.get? itemId,
        current.any (·.status = row.status) = true
          ∨ row.status = status ∨ status ∈ allowedTransitions row.status
  | .storeItem current item =>
      item.refusal = none → ∀ row ∈ s.items.get? item.id,
        if row.status = current.status then
          (item.status = "stale" → row.status ≠ "proposed")
            ∧ (item.status = "archived" → row.status ∈ memoryStatuses)
        else
          (row.status = item.status ∨ item.status ∈ allowedTransitions row.status)
            ∧ (row.status ∈ ["revoked", "archived"] → item.status ≠ "active")
  | _ => True

instance decidableUndisturbed (s : MemoryTables) (statement : LifecycleStatement) :
    Decidable (Undisturbed s statement) := by
  unfold Undisturbed
  split <;> infer_instance

/-- What every write of the calls is, given what it was built from. -/
def LifecycleStatement.Built : LifecycleStatement → Prop
  | .updateItem _ current (some status) _ _ =>
      ∀ item ∈ current, item.status = status ∨ status ∈ allowedTransitions item.status
  | .storeItem current item =>
      item.status = current.status
        ∨ current.status = "proposed" ∧ item.status = "active"
        ∨ item.status = "archived"
        ∨ current.status ∈ ["active", "proposed"] ∧ item.status = "stale"
  | _ => True

section

variable {engine : LifecycleEngine} {s : MemoryTables} {next : MemoryProgram engine}

/-! ## What the calls write -/

theorem all_updateItemThen {itemId : String} {current : Option MemoryItem}
    {status : Option String} {confidence : Option Rat} {updatedAt : Time}
    (h : (LifecycleStatement.updateItem itemId current status confidence updatedAt).Built)
    (hnext : next.All LifecycleStatement.Built) :
    (updateItemThen engine itemId current status confidence updatedAt next).All
      LifecycleStatement.Built :=
  ⟨h, fun _ => hnext⟩

theorem all_storeItemThen {current item : MemoryItem}
    (h : (LifecycleStatement.storeItem current item).Built)
    (hnext : next.All LifecycleStatement.Built) :
    (storeItemThen engine current item next).All LifecycleStatement.Built :=
  ⟨h, fun _ => hnext⟩

theorem all_setStatusThen {itemId status : String} {now : Time}
    (hnext : next.All LifecycleStatement.Built) :
    (setStatusThen engine itemId status now next).All LifecycleStatement.Built := by
  unfold setStatusThen
  dsimp only
  split
  next => trivial
  next =>
    refine ⟨trivial, fun current => ?_⟩
    cases current with
    | none => exact all_updateItemThen (fun item h => by cases h) hnext
    | some item =>
        dsimp only
        split
        next hsame =>
          refine all_updateItemThen (fun other hother => ?_) hnext
          obtain rfl := Option.some.inj hother
          exact .inl hsame
        next =>
          split
          next => trivial
          next hallowed =>
            split
            next =>
              refine all_updateItemThen (fun other hother => ?_) hnext
              obtain rfl := Option.some.inj hother
              exact .inr (not_not.mp hallowed)
            next => trivial

theorem all_expireEach (now clock : Time) (items : List MemoryItem) :
    (expireEach engine now clock items).All LifecycleStatement.Built := by
  induction items with
  | nil => trivial
  | cons item rest ih =>
      unfold expireEach
      split
      · exact all_setStatusThen ih
      · exact ih

theorem all_decayEach (decay : Decay) (items : List MemoryItem) :
    (decayEach engine decay items).All LifecycleStatement.Built := by
  induction items with
  | nil => trivial
  | cons item rest ih =>
      unfold decayEach
      split
      next => trivial
      next confidence _ =>
        split
        next =>
          split
          next =>
            refine all_updateItemThen trivial ?_
            split
            · exact all_setStatusThen ih
            · exact ih
          next => trivial
        next => exact ih

theorem status_of_mem_conflictRows {objects : Table String MemoryItem (·.id)} {a b : String}
    {verdict : Verdict} {now : Time} {write : MemoryItem × MemoryItem}
    (h : write ∈ conflictRows objects a b verdict now) : write.2.status = write.1.status := by
  have hrow : ∀ (found : Option MemoryItem) (row : MemoryItem → MemoryItem),
      write ∈ (found.map fun item => (item, row item)).toList →
      (∀ item, (row item).status = item.status) → write.2.status = write.1.status := by
    intro found row hmem hsame
    obtain ⟨item, -, rfl⟩ := Option.map_eq_some_iff.mp (Option.mem_toList.mp hmem)
    exact hsame item
  unfold conflictRows at h
  dsimp only at h
  rcases List.mem_append.mp h with hlinks | hmark
  · rcases List.mem_append.mp hlinks with hfirst | hsecond
    · exact hrow _ _ hfirst fun _ => rfl
    · exact hrow _ _ hsecond fun _ => rfl
  · split at hmark
    · cases hmark
    · split at hmark
      · exact hrow _ _ hmark fun _ => rfl
      · split at hmark
        · exact hrow _ _ hmark fun _ => rfl
        · cases hmark

theorem status_of_mem_auditRows {now : Time} {pairs : List (MemoryItem × MemoryItem)}
    {objects : Table String MemoryItem (·.id)} {write : MemoryItem × MemoryItem}
    (h : write ∈ auditRows engine.toAuditEngine now objects pairs) :
    write.2.status = write.1.status := by
  induction pairs generalizing objects with
  | nil => cases h
  | cons pair rest ih =>
      unfold auditRows at h
      split at h
      next => exact ih h
      next =>
        rcases List.mem_append.mp h with hfirst | hrest
        · exact status_of_mem_conflictRows hfirst
        · exact ih hrest

theorem all_storeEach {writes : List (MemoryItem × MemoryItem)}
    (h : ∀ write ∈ writes, write.2.status = write.1.status) :
    (storeEach engine writes).All LifecycleStatement.Built := by
  induction writes with
  | nil => trivial
  | cons write rest ih =>
      refine all_storeItemThen (.inl (h write List.mem_cons_self)) (ih fun later hlater => ?_)
      exact h later (List.mem_cons_of_mem _ hlater)

theorem all_program (call : LifecycleCall) :
    (call.program engine).All LifecycleStatement.Built := by
  cases call with
  | setStatus itemId status now => exact all_setStatusThen trivial
  | expireItems now clock limit => exact ⟨trivial, fun items => all_expireEach now clock items⟩
  | supersedeItem itemId replacementItemId reason now =>
      refine ⟨trivial, fun current => ⟨trivial, fun replacement => ?_⟩⟩
      cases current with
      | none => trivial
      | some current =>
          cases replacement with
          | none => trivial
          | some replacement =>
              dsimp only
              split
              · trivial
              · split
                · exact all_storeItemThen (.inr (.inr (.inl rfl))) trivial
                · trivial
  | recordActivation itemId reason provenance ltpBoost now =>
      refine ⟨trivial, fun current => ?_⟩
      cases current with
      | none => trivial
      | some current =>
          dsimp only
          split
          · trivial
          · split
            · refine all_storeItemThen ?_ trivial
              by_cases hproposed : current.status = "proposed"
              · exact .inr (.inl ⟨hproposed, by simp [activatedRow, hproposed]⟩)
              · exact .inl (by simp [activatedRow, hproposed])
            · trivial
  | applyCreditDelta itemId delta reason provenance staleThreshold now =>
      refine ⟨trivial, fun current => ?_⟩
      cases current with
      | none => trivial
      | some current =>
          refine all_storeItemThen ?_ trivial
          unfold LifecycleStatement.Built creditedRow
          dsimp only
          split
          next hstale => exact .inr (.inr (.inr ⟨hstale.2, rfl⟩))
          next => exact .inl rfl
  | decayInactiveConfidence decay limit => exact ⟨trivial, fun items => all_decayEach decay items⟩
  | auditSemanticConflicts limit allowedScopes threshold now =>
      exact ⟨trivial, fun items => all_storeEach fun write h => status_of_mem_auditRows h⟩

/-! ## What a write changes -/

theorem get?_updateItem (itemId : String) (status : Option String) (confidence : Option Rat)
    (updatedAt : Time) (id : String) :
    ((s.updateItem itemId status confidence updatedAt).items.get? id).map (·.status)
      = (s.items.get? id).map fun item =>
          if itemId = id then status.getD item.status else item.status := by
  unfold MemoryTables.updateItem
  rw [Table.get?_update, Option.map_map]
  cases hfound : s.items.get? id with
  | none => rfl
  | some item =>
      obtain ⟨-, hid⟩ := Table.get?_eq_some_iff.mp hfound
      simp only [Option.map_some, Function.comp_apply, hid, decide_eq_true_eq]
      by_cases hsame : id = itemId
      · simp [hsame]
      · simp [hsame, Ne.symm hsame]

theorem keepsTable_iff_of_one {statement : LifecycleStatement} {id : String} {status : String}
    (h : ∀ other before, s.items.get? other = some before →
      ∃ after, (statement.exec engine s).1.items.get? other = some after
        ∧ after.status = if id = other then status else before.status) :
    KeepsTable engine s statement
      ↔ ∀ row ∈ s.items.get? id, (row.status = status ∨ status ∈ allowedTransitions row.status)
        ∧ (row.status ∈ ["revoked", "archived"] → status = "active" →
          statement.setsStatus = true) := by
  constructor
  · intro hkeeps row hrow
    obtain ⟨after, hafter, hstatus⟩ := h id row hrow
    rw [if_pos rfl] at hstatus
    rw [← hstatus]
    exact hkeeps id row after hrow hafter
  · intro hrow other before after hbefore hafter
    obtain ⟨after', hafter', hstatus⟩ := h other before hbefore
    obtain rfl : after = after' := Option.some.inj (hafter.symm.trans hafter')
    by_cases hid : id = other
    · subst hid
      rw [if_pos rfl] at hstatus
      rw [hstatus]
      exact hrow before hbefore
    · rw [if_neg hid] at hstatus
      rw [hstatus]
      refine ⟨.inl rfl, fun hended hactive => ?_⟩
      rw [hactive] at hended
      simp at hended

theorem keepsTable_of_same {statement : LifecycleStatement}
    (h : ∀ other, ((statement.exec engine s).1.items.get? other).map (·.status)
      = (s.items.get? other).map (·.status)) : KeepsTable engine s statement := by
  intro other before after hbefore hafter
  have hstatus := h other
  rw [hbefore, hafter] at hstatus
  have hsame : after.status = before.status := Option.some.inj hstatus
  rw [hsame]
  refine ⟨.inl rfl, fun hended hactive => ?_⟩
  rw [hactive] at hended
  simp at hended

theorem archived_allowed_iff (status : String) :
    (status = "archived" ∨ "archived" ∈ allowedTransitions status) ↔ status ∈ memoryStatuses := by
  constructor
  · rintro (rfl | h)
    · decide
    · unfold allowedTransitions at h
      by_contra hnot
      simp only [memoryStatuses, List.mem_cons, List.not_mem_nil, or_false, not_or] at hnot
      obtain ⟨h1, h2, h3, h4, h5, h6, h7⟩ := hnot
      simp only [h1, h2, h3, h4, h5, h6, h7, if_false] at h
      cases h
  · intro h
    simp only [memoryStatuses, List.mem_cons, List.not_mem_nil, or_false] at h
    rcases h with rfl | rfl | rfl | rfl | rfl | rfl | rfl <;> decide

/-- A row that was built from what is found keeps the table exactly where it is undisturbed. -/
theorem built_allowed_iff {current item : MemoryItem} {found : String}
    (hbuilt : (LifecycleStatement.storeItem current item).Built)
    (hfound : found = current.status) :
    ((found = item.status ∨ item.status ∈ allowedTransitions found)
        ∧ (found ∈ ["revoked", "archived"] → item.status ≠ "active"))
      ↔ (item.status = "stale" → found ≠ "proposed")
        ∧ (item.status = "archived" → found ∈ memoryStatuses) := by
  subst hfound
  rcases hbuilt with hsame | ⟨hproposed, hactive⟩ | harchived | ⟨hlive, hstale⟩
  · rw [hsame]
    refine iff_of_true ⟨.inl rfl, fun hended hactive => ?_⟩ ⟨fun hstale hproposed => ?_, ?_⟩
    · rw [hactive] at hended
      simp at hended
    · rw [hstale] at hproposed
      exact absurd hproposed (by decide)
    · intro harchived
      rw [harchived]
      decide
  · rw [hproposed, hactive]
    decide
  · rw [harchived, archived_allowed_iff]
    simp
  · rw [hstale]
    simp only [List.mem_cons, List.not_mem_nil, or_false] at hlive
    rcases hlive with hlive | hlive
    · rw [hlive]
      decide
    · rw [hlive]
      decide

theorem keepsTable_iff (engine : LifecycleEngine) (s : MemoryTables)
    (statement : LifecycleStatement) (hbuilt : statement.Built) :
    KeepsTable engine s statement ↔ Undisturbed s statement := by
  cases statement with
  | getItem itemId => exact iff_of_true (keepsTable_of_same fun _ => rfl) trivial
  | listItems allowedScopes limit => exact iff_of_true (keepsTable_of_same fun _ => rfl) trivial
  | updateItem itemId current status confidence updatedAt =>
      cases status with
      | none =>
          refine iff_of_true (keepsTable_of_same fun other => ?_) trivial
          show ((s.updateItem itemId none confidence updatedAt).items.get? other).map (·.status) = _
          rw [get?_updateItem]
          simp
      | some status =>
          have hone : ∀ other before, s.items.get? other = some before →
              ∃ after, ((LifecycleStatement.updateItem itemId current (some status) confidence
                  updatedAt).exec engine s).1.items.get? other = some after
                ∧ after.status = if itemId = other then status else before.status := by
            intro other before hbefore
            have hget := @get?_updateItem s itemId (some status) confidence updatedAt other
            rw [hbefore] at hget
            exact Option.map_eq_some_iff.mp hget
          rw [keepsTable_iff_of_one hone]
          refine forall₂_congr fun row _ => ?_
          constructor
          · rintro ⟨hallowed, -⟩
            exact .inr hallowed
          · rintro (hread | hallowed)
            · refine ⟨?_, fun _ _ => rfl⟩
              obtain ⟨item, hitem, hsame⟩ := (Option.any_eq_true _ _).mp hread
              have hwritten := hbuilt item hitem
              rw [of_decide_eq_true hsame] at hwritten
              exact hwritten
            · exact ⟨hallowed, fun _ _ => rfl⟩
  | storeItem current item =>
      by_cases hrefusal : item.refusal = none
      · have hone : ∀ other before, s.items.get? other = some before →
            ∃ after, ((LifecycleStatement.storeItem current item).exec engine s).1.items.get? other
                = some after
              ∧ after.status = if item.id = other then item.status else before.status := by
          intro other before hbefore
          obtain ⟨s', hstored, hitems, -⟩ := @storeItem_eq_ok s item hrefusal
          have hget : ((LifecycleStatement.storeItem current item).exec engine s).1.items.get? other
              = if item.id = other then some item else s.items.get? other := by
            show ((s.storeItem item).toOption.getD s).items.get? other = _
            rw [hstored]
            show s'.items.get? other = _
            rw [hitems, Table.get?_upsert]
          rw [hget, hbefore]
          split
          · exact ⟨item, rfl, rfl⟩
          · exact ⟨before, rfl, rfl⟩
        rw [keepsTable_iff_of_one hone]
        unfold Undisturbed
        simp only [hrefusal, true_implies]
        refine forall₂_congr fun row _ => ?_
        have hset : (LifecycleStatement.storeItem current item).setsStatus = false := rfl
        rw [hset]
        simp only [Bool.false_eq_true, imp_false]
        split
        next hread => exact built_allowed_iff hbuilt hread
        next => exact Iff.rfl
      · refine iff_of_true (keepsTable_of_same fun other => ?_) fun h => absurd h hrefusal
        show (((s.storeItem item).toOption.getD s).items.get? other).map (·.status) = _
        cases hstored : s.storeItem item with
        | ok s' => exact absurd (refusal_of_storeItem hstored) hrefusal
        | error message => rfl

end

/-- Every change of a status along the run is one of the table, and what is revoked or archived
is activated by `set_status` alone. -/
def TableKept (engine : LifecycleEngine) (s : MemoryTables)
    (labels : List (PoolLabel LifecycleCall)) : Prop :=
  Pool.Along (LifecycleCall.program engine) (KeepsTable engine) ⟨s, []⟩ labels

/-- Every write along the run is undisturbed. -/
def WritesUndisturbed (engine : LifecycleEngine) (s : MemoryTables)
    (labels : List (PoolLabel LifecycleCall)) : Prop :=
  Pool.Along (LifecycleCall.program engine) Undisturbed ⟨s, []⟩ labels

instance (engine : LifecycleEngine) (s : MemoryTables) (labels : List (PoolLabel LifecycleCall)) :
    Decidable (WritesUndisturbed engine s labels) :=
  @Pool.decidableAlong _ _ _ (LifecycleCall.program engine) Undisturbed
    (fun s statement => decidableUndisturbed s statement) ⟨s, []⟩ labels

/-- The table is kept along a run exactly where its writes are undisturbed. -/
theorem tableKept_iff (engine : LifecycleEngine) (s : MemoryTables)
    (labels : List (PoolLabel LifecycleCall)) :
    TableKept engine s labels ↔ WritesUndisturbed engine s labels :=
  Pool.along_congr all_program (keepsTable_iff engine) s labels

/-! ## A credit of a proposed item, and an audit -/

def permittingLifecycle : LifecycleEngine where
  toAuditEngine := supersedingAudit
  lower := String.toLower
  allows _ := true
  toFloat := Json.readNumber
  toInt := Json.readInteger
  log _ := 0
  rounded places x := (x * 10 ^ places + 1 / 2).floor / 10 ^ places

def proposedPort : MemoryTables where
  items := ⟨[{ portFact "old" "server runs on port 8080" 1 with status := "proposed" }], by decide⟩
  parameters := .empty
  stored := by decide +kernel

/-- A trace in which the fact failed is credited. -/
def creditedFailure : List (PoolLabel LifecycleCall) :=
  [.enter (.applyCreditDelta "old" (-9 / 10) "failed" "causal_credit" (1 / 5) 2), .step 0, .step 0]

/-- A fact is revoked while an audit that has listed it waits for the model. -/
def revokedWhileAudited : List (PoolLabel LifecycleCall) :=
  [.enter (.auditSemanticConflicts 10 none (35 / 100) 3), .step 0,
    .enter (.setStatus "new" "revoked" 4), .step 1, .step 1, .step 0]

/-- The status of an item after a run. -/
def statusAfter (s : MemoryTables) (labels : List (PoolLabel LifecycleCall)) (id : String) :
    Option String :=
  ((pool (lifecycleStatements permittingLifecycle) (LifecycleCall.program
    permittingLifecycle)).run ⟨s, []⟩ labels).bind fun after =>
      (after.shared.items.get? id).map (·.status)

/-- A proposed item turns stale, and a revoked one is active again. -/
theorem tableKept_not :
    ¬ TableKept permittingLifecycle proposedPort creditedFailure
      ∧ statusAfter proposedPort creditedFailure "old" = some "stale"
      ∧ ¬ TableKept permittingLifecycle ports revokedWhileAudited
      ∧ statusAfter ports (revokedWhileAudited.take 5) "new" = some "revoked"
      ∧ statusAfter ports revokedWhileAudited "new" = some "active" := by
  have hiff : ∀ s labels, TableKept permittingLifecycle s labels
      ↔ WritesUndisturbed permittingLifecycle s labels :=
    Pool.along_congr all_program (keepsTable_iff permittingLifecycle)
  refine ⟨fun h => ?_, by decide +kernel, fun h => ?_, by decide +kernel, by decide +kernel⟩
  · have hundisturbed : WritesUndisturbed permittingLifecycle proposedPort creditedFailure :=
      (hiff _ _).mp h
    revert hundisturbed
    decide +kernel
  · have hundisturbed : WritesUndisturbed permittingLifecycle ports revokedWhileAudited :=
      (hiff _ _).mp h
    revert hundisturbed
    decide +kernel

end Navi.Memory
