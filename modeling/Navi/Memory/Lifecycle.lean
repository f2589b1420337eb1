import Mathlib
import Navi.Base.Interleaving
import Navi.Memory.ConflictAudit

/-!
# The lifecycle of memory items

Seven calls change the status of an item. One of them checks the table of transitions, and two
go through that one. The others read an item, or list items, and later write whole rows that
they build from what they read. Each call is a program of the statements that it makes of the
store, each in a transaction of its own.
-/

namespace Navi.Memory

open Navi.Base

/-- `MEMORY_STATUSES`. -/
def memoryStatuses : List String :=
  ["proposed", "accepted", "active", "contradicted", "stale", "archived", "revoked"]

/-- `_ALLOWED_TRANSITIONS`. -/
def allowedTransitions (status : String) : List String :=
  if status = "proposed" then ["accepted", "active", "revoked", "archived"]
  else if status = "accepted" then ["active", "archived", "revoked"]
  else if status = "active" then ["contradicted", "stale", "archived", "revoked"]
  else if status = "contradicted" then ["active", "archived", "revoked"]
  else if status = "stale" then ["active", "archived", "revoked"]
  else if status = "archived" then ["active", "revoked"]
  else if status = "revoked" then ["proposed", "archived"]
  else []

/-- What the hooks before a write are given. -/
structure MemoryWrite where
  type : String
  status : String
  scope : String
  source : String
  confidence : Rat
  contentChars : Nat
  metadataKeys : List String

/-- What the calls rest on besides the audit: `lower` of a text, whether the hooks let a write
pass, `float` and `int` of a value, `log` and `round(x, n)`. -/
structure LifecycleEngine extends AuditEngine where
  lower : String → String
  allows : MemoryWrite → Bool
  toFloat : Json → Option Rat
  toInt : Json → Option Int
  log : Rat → Rat
  rounded : Nat → Rat → Rat

/-! ## Statements -/

/-- `update_item` of the provider. -/
def MemoryTables.updateItem (s : MemoryTables) (itemId : String) (status : Option String)
    (confidence : Option Rat) (updatedAt : Time) : MemoryTables :=
  { s with
    items := s.items.update (·.id = itemId)
      (fun item =>
        { item with
          status := status.getD item.status
          confidence := confidence.getD item.confidence
          updatedAt := .float updatedAt }) fun _ => rfl
    stored := by
      intro item hitem
      obtain ⟨old, hold, rfl⟩ := List.mem_map.mp hitem
      split
      · exact s.stored old hold
      · exact s.stored old hold }

/-- The statements of the calls. A write names what it was built from: the item that was read
before an update, and the object that a row replaces. -/
inductive LifecycleStatement where
  | getItem (itemId : String)
  | listItems (allowedScopes : Option (Finset String)) (limit : Int)
  | updateItem (itemId : String) (current : Option MemoryItem) (status : Option String)
      (confidence : Option Rat) (updatedAt : Time)
  | storeItem (current item : MemoryItem)

def LifecycleStatement.Answer : LifecycleStatement → Type
  | .getItem _ => Option MemoryItem
  | .listItems _ _ => List MemoryItem
  | .updateItem .. => Unit
  | .storeItem .. => Unit

/-- The store after a statement, and what it answers. -/
def LifecycleStatement.exec (engine : LifecycleEngine) :
    (statement : LifecycleStatement) → MemoryTables → MemoryTables × statement.Answer
  | .getItem itemId, s => (s, s.items.get? itemId)
  | .listItems allowedScopes limit, s =>
      (s, getItems engine.toListingEngine s none none allowedScopes limit)
  | .updateItem itemId _ status confidence updatedAt, s =>
      (s.updateItem itemId status confidence updatedAt, ())
  | .storeItem _ item, s => ((s.storeItem item).toOption.getD s, ())

/-- The statements of the memory store. -/
def lifecycleStatements (engine : LifecycleEngine) : Statements MemoryTables where
  Statement := LifecycleStatement
  Answer := LifecycleStatement.Answer
  exec := LifecycleStatement.exec engine

abbrev MemoryProgram (engine : LifecycleEngine) := Program (lifecycleStatements engine)

section

variable (engine : LifecycleEngine)

/-- `self.get_item(item_id)`. -/
def getItemThen (itemId : String) (next : Option MemoryItem → MemoryProgram engine) :
    MemoryProgram engine :=
  .call (.getItem itemId) next

/-- `self.list_items(...)`. -/
def listItemsThen (allowedScopes : Option (Finset String)) (limit : Int)
    (next : List MemoryItem → MemoryProgram engine) : MemoryProgram engine :=
  .call (.listItems allowedScopes limit) next

/-- `self.provider.update_item(...)`. -/
def updateItemThen (itemId : String) (current : Option MemoryItem) (status : Option String)
    (confidence : Option Rat) (updatedAt : Time) (next : MemoryProgram engine) :
    MemoryProgram engine :=
  .call (.updateItem itemId current status confidence updatedAt) fun _ => next

/-- `self.provider.store_item(replace(current, ...))`. -/
def storeItemThen (current item : MemoryItem) (next : MemoryProgram engine) :
    MemoryProgram engine :=
  .call (.storeItem current item) fun _ => next

/-- The write of an item with another status, confidence and metadata, as the hooks see it. -/
def memoryWrite (item : MemoryItem) (status : String) (confidence : Rat) (metadata : Dict) :
    MemoryWrite where
  type := item.type
  status := status
  scope := item.scope
  source := item.source
  confidence := confidence
  contentChars := item.content.length
  metadataKeys := metadata.map (·.1)

/-- A confidence between zero and one. -/
def clampConfidence (confidence : Rat) : Rat := max 0 (min 1 confidence)

/-! ## The calls -/

/-- `set_status`, and what follows where it does not raise. -/
def setStatusThen (itemId status : String) (now : Time) (next : MemoryProgram engine) :
    MemoryProgram engine :=
  let status := engine.lower (strip status)
  if status ∉ memoryStatuses then .done
  else
    getItemThen engine itemId fun current =>
      match current with
      | none => updateItemThen engine itemId none (some status) none now next
      | some item =>
          if item.status = status then
            updateItemThen engine itemId (some item) (some status) none now next
          else if status ∉ allowedTransitions item.status then .done
          else if engine.allows
              (memoryWrite item status (clampConfidence item.confidence) item.metadata) then
            updateItemThen engine itemId (some item) (some status) none now next
          else .done

/-- An item has an expiry that has passed. -/
def MemoryItem.expired (now : Time) (item : MemoryItem) : Bool :=
  columnTime item.expiresAt ≠ 0 ∧ columnTime item.expiresAt ≤ now

/-- The loop of `expire_items`. -/
def expireEach (now clock : Time) : List MemoryItem → MemoryProgram engine
  | [] => .done
  | item :: rest =>
      if item.expired now ∧ item.status ∉ ["archived", "revoked", "stale"] then
        setStatusThen engine item.id (if item.status = "active" then "stale" else "archived") clock
          (expireEach now clock rest)
      else expireEach now clock rest

/-- `expire_items`. -/
def expireItems (now clock : Time) (limit : Int) : MemoryProgram engine :=
  listItemsThen engine none limit (expireEach engine now clock)

/-- `_metadata_id_list`. -/
def metadataIdList : Option Json → List String
  | some (.str s) => if strip s = "" then [] else [strip s]
  | some (.arr xs) => (xs.map fun x => strip (engine.str x)).filter (· ≠ "")
  | _ => []

/-- The row that `_do_supersede` stores. -/
def supersedeRow (current : MemoryItem) (replacementItemId reason : String) (now : Time) :
    MemoryItem :=
  let listed := metadataIdList engine (current.metadata.get "superseded_by")
  let supersededBy :=
    if replacementItemId ∈ listed then listed else listed ++ [replacementItemId]
  { current with
    status := "archived"
    metadata := ((current.metadata.put "superseded_by" (.arr (supersededBy.map Json.str))).put
      "supersede_reason" (.str (strip reason))).put "superseded_at" (.float now)
    updatedAt := .float now }

/-- `supersede_item`. -/
def supersedeItem (itemId replacementItemId reason : String) (now : Time) :
    MemoryProgram engine :=
  getItemThen engine itemId fun current =>
    getItemThen engine replacementItemId fun replacement =>
      match current, replacement with
      | some current, some _ =>
          let row := supersedeRow engine current replacementItemId reason now
          if strip reason = "" then .done
          else if engine.allows (memoryWrite current "archived"
              (clampConfidence current.confidence) row.metadata) then
            storeItemThen engine current row .done
          else .done
      | _, _ => .done

/-- `metadata.get(key) or ...`. -/
def truthyValue (metadata : Dict) (key : String) : Option Json :=
  (metadata.get key).filter Json.truthy

/-- `_metadata_int`. -/
def metadataInt (metadata : Dict) (key : String) : Int :=
  max 0 (((truthyValue metadata key).elim (some 0) engine.toInt).getD 0)

/-- `_metadata_float`. -/
def metadataFloat (metadata : Dict) (key : String) : Rat :=
  max 0 (((truthyValue metadata key).elim (some 0) engine.toFloat).getD 0)

/-- The row that `_do_record_activation` stores. -/
def activatedRow (current : MemoryItem) (reason provenance : String) (ltpBoost : Rat)
    (now : Time) : MemoryItem :=
  let promoted := current.status = "proposed"
  { current with
    status := if promoted then "active" else current.status
    confidence := min 1 (current.confidence + ltpBoost * if promoted then 1 else 0)
    metadata := (((current.metadata.put "last_recalled_at" (.float now)).put "recall_count"
      (.int (metadataInt engine current.metadata "recall_count" + 1))).put "activation_reason"
        (.str (strip reason))).put "activation_provenance" (.str (strip provenance))
    updatedAt := .float now }

/-- `record_activation`. -/
def recordActivation (itemId reason provenance : String) (ltpBoost : Rat) (now : Time) :
    MemoryProgram engine :=
  getItemThen engine itemId fun current =>
    match current with
    | none => .done
    | some current =>
        let row := activatedRow engine current reason provenance ltpBoost now
        if strip reason = "" ∨ strip provenance = "" then .done
        else if engine.allows (memoryWrite current row.status
            (clampConfidence row.confidence) row.metadata) then
          storeItemThen engine current row .done
        else .done

/-- The confidence that `apply_credit_delta` stores. -/
def creditedConfidence (current : MemoryItem) (delta : Rat) : Rat :=
  engine.rounded 4 (clampConfidence (current.confidence + delta))

/-- The row that `apply_credit_delta` stores. -/
def creditedRow (current : MemoryItem) (delta : Rat) (reason provenance : String)
    (staleThreshold : Rat) (now : Time) : MemoryItem :=
  let confidence := creditedConfidence engine current delta
  let isStale := confidence < staleThreshold ∧ delta < 0
  { current with
    status := if isStale ∧ current.status ∈ ["active", "proposed"] then "stale"
      else current.status
    confidence := confidence
    metadata := (((current.metadata.put "last_credit_delta" (.float (engine.rounded 4 delta))).put
      "last_credit_reason" (.str (strip reason))).put "last_credit_at" (.float now)).put
        "last_credit_provenance" (.str (strip provenance))
    updatedAt := .float now }

/-- `apply_credit_delta`. -/
def applyCreditDeltaTo (itemId : String) (delta : Rat) (reason provenance : String)
    (staleThreshold : Rat) (now : Time) : MemoryProgram engine :=
  getItemThen engine itemId fun current =>
    match current with
    | none => .done
    | some current =>
        storeItemThen engine current
          (creditedRow engine current delta reason provenance staleThreshold now) .done

/-- What `decay_inactive_confidence` is given and reads of the parameters. -/
structure Decay where
  now : Time
  clock : Time
  grace : Rat
  delta : Rat
  staleThreshold : Rat
  stabilityScale : Rat

/-- The decayed confidence of an item; none where a number is not one, or zero divides. -/
def decayedConfidence (decay : Decay) (item : MemoryItem) : Option Rat :=
  let count := (truthyValue item.metadata "activation_count").or
    (truthyValue item.metadata "recall_count")
  (count.elim (some 0) engine.toFloat).bind fun activations =>
    let stability := 1 + decay.stabilityScale * engine.log (1 + max 0 activations)
    if stability = 0 then none
    else some (max 0 (clampConfidence item.confidence - max 0 decay.delta / stability))

/-- An item has been inactive for the grace period, and may decay. -/
def decays (decay : Decay) (item : MemoryItem) : Bool :=
  let anchor := max (max (metadataFloat engine item.metadata "last_recalled_at")
    (columnTime item.lastVerifiedAt)) (max (columnTime item.updatedAt) (columnTime item.createdAt))
  item.type ∈ ["preference", "fact", "semantic"] ∧ item.status = "active"
    ∧ (columnTime item.expiresAt = 0 ∨ decay.now < columnTime item.expiresAt)
    ∧ decay.grace ≤ max 0 (decay.now - anchor)

/-- The loop of `decay_inactive_confidence`. -/
def decayEach (decay : Decay) : List MemoryItem → MemoryProgram engine
  | [] => .done
  | item :: rest =>
      match decayedConfidence engine decay item with
      | none => .done
      | some confidence =>
          if decays engine decay item then
            if engine.allows (memoryWrite item item.status confidence item.metadata) then
              updateItemThen engine item.id (some item) none (some confidence) decay.now
                (if confidence ≤ decay.staleThreshold then
                  setStatusThen engine item.id "stale" decay.clock (decayEach decay rest)
                else decayEach decay rest)
            else .done
          else decayEach decay rest

/-- `decay_inactive_confidence`. -/
def decayInactiveConfidence (decay : Decay) (limit : Int) : MemoryProgram engine :=
  listItemsThen engine none limit (decayEach engine decay)

end

/-! ## The audit -/

/-- The listed objects after one is linked to another. -/
def linkedObjects (objects : Table String MemoryItem (·.id)) (id other : String) :
    Table String MemoryItem (·.id) :=
  (objects.get? id).elim objects fun item => objects.replace (AuditState.linkedObject item other)

/-- The objects that a contradictory pair writes, each with the row that replaces it. -/
def conflictRows (objects : Table String MemoryItem (·.id)) (a b : String) (verdict : Verdict)
    (now : Time) : List (MemoryItem × MemoryItem) :=
  let first := linkedObjects objects a b
  let second := linkedObjects first b a
  let marked (id superseding : String) : List (MemoryItem × MemoryItem) :=
    ((second.get? id).map fun item => (item, AuditState.supersededRow item superseding now)).toList
  ((objects.get? a).map fun item =>
      (item, AuditState.linkedRow item b (some verdict.explanation) now)).toList
    ++ ((first.get? b).map fun item => (item, AuditState.linkedRow item a none now)).toList
    ++ if verdict.supersededId = "" then []
      else if verdict.supersededId = a then marked a b
      else if verdict.supersededId = b then marked b a
      else []

/-- The rows that the checks of the pairs write. -/
def auditRows (engine : AuditEngine) (now : Time) :
    Table String MemoryItem (·.id) → List (MemoryItem × MemoryItem) →
      List (MemoryItem × MemoryItem)
  | _, [] => []
  | objects, pair :: rest =>
      match engine.verdict pair.1 pair.2 with
      | none => auditRows engine now objects rest
      | some verdict =>
          conflictRows objects pair.1.id pair.2.id verdict now
            ++ auditRows engine now
              (linkedObjects (linkedObjects objects pair.1.id pair.2.id) pair.2.id pair.1.id) rest

/-- Rows that are stored one after the other. -/
def storeEach (engine : LifecycleEngine) : List (MemoryItem × MemoryItem) → MemoryProgram engine
  | [] => .done
  | write :: rest => storeItemThen engine write.1 write.2 (storeEach engine rest)

/-- `audit_semantic_conflicts` at a similarity threshold. -/
def auditConflicts (engine : LifecycleEngine) (limit : Int)
    (allowedScopes : Option (Finset String)) (threshold : Rat) (now : Time) :
    MemoryProgram engine :=
  listItemsThen engine allowedScopes 200 fun items =>
    storeEach engine (auditRows engine.toAuditEngine now
      (items.foldl Table.upsert .empty) (checkedPairs engine.toAuditEngine threshold limit items))

/-! ## Interleavings -/

/-- A call, with the parameters that it reads. -/
inductive LifecycleCall where
  | setStatus (itemId status : String) (now : Time)
  | expireItems (now clock : Time) (limit : Int)
  | supersedeItem (itemId replacementItemId reason : String) (now : Time)
  | recordActivation (itemId reason provenance : String) (ltpBoost : Rat) (now : Time)
  | applyCreditDelta (itemId : String) (delta : Rat) (reason provenance : String)
      (staleThreshold : Rat) (now : Time)
  | decayInactiveConfidence (decay : Decay) (limit : Int)
  | auditSemanticConflicts (limit : Int) (allowedScopes : Option (Finset String))
      (threshold : Rat) (now : Time)

def LifecycleCall.program (engine : LifecycleEngine) : LifecycleCall → MemoryProgram engine
  | .setStatus itemId status now => setStatusThen engine itemId status now .done
  | .expireItems now clock limit => Navi.Memory.expireItems engine now clock limit
  | .supersedeItem itemId replacementItemId reason now =>
      Navi.Memory.supersedeItem engine itemId replacementItemId reason now
  | .recordActivation itemId reason provenance ltpBoost now =>
      Navi.Memory.recordActivation engine itemId reason provenance ltpBoost now
  | .applyCreditDelta itemId delta reason provenance staleThreshold now =>
      applyCreditDeltaTo engine itemId delta reason provenance staleThreshold now
  | .decayInactiveConfidence decay limit => Navi.Memory.decayInactiveConfidence engine decay limit
  | .auditSemanticConflicts limit allowedScopes threshold now =>
      auditConflicts engine limit allowedScopes threshold now

end Navi.Memory
