import Mathlib
import Navi.Memory.Constraints

/-!
# The audit of conflicts

`audit_semantic_conflicts` lists the items once, asks of the most similar pairs of a scope
whether they contradict each other, and writes both items of a pair that does, and a third
time the one that is superseded. What it writes is built from the objects that were listed.
Their metadata is copied, but the list of an item that has one is appended to in place.
-/

namespace Navi.Memory

open Navi.Base

/-- `RECALLABLE_STATUSES`. -/
def recallableStatuses : List String := activeStatuses ++ ["proposed"]

/-- What the audit rests on besides the listing: the similarity of two contents, `str` of a
value, and what `json.loads` reads of the answer to a pair, none where something raised. -/
structure AuditEngine extends ListingEngine where
  similarity : String → String → Rat
  str : Json → String
  str_str : ∀ s, str (.str s) = s
  answer : MemoryItem → MemoryItem → Option Json

/-! ## The pairs -/

/-- Each element with each later one. -/
def pairsOf {α : Type} : List α → List (α × α)
  | [] => []
  | a :: rest => rest.map (fun b => (a, b)) ++ pairsOf rest

/-- `xs[:limit]`. -/
def sliceTo {α : Type} (limit : Int) (xs : List α) : List α :=
  xs.take (if limit < 0 then xs.length + limit else limit).toNat

def auditItems (engine : AuditEngine) (s : MemoryTables)
    (allowedScopes : Option (Finset String)) : List MemoryItem :=
  getItems engine.toListingEngine s none none allowedScopes 200

/-- `candidate_pairs` at a threshold, scope by scope. -/
def candidatePairs (engine : AuditEngine) (threshold : Rat) (items : List MemoryItem) :
    List (MemoryItem × MemoryItem) :=
  let recallable := items.filter fun item => item.status ∈ recallableStatuses
  (recallable.map (·.scope)).eraseDups.flatMap fun scope =>
    (pairsOf (recallable.filter fun item => item.scope = scope)).filter fun pair =>
      threshold ≤ engine.similarity pair.1.content pair.2.content

/-- The pairs of listed items that are checked. -/
def checkedPairs (engine : AuditEngine) (threshold : Rat) (limit : Int) (items : List MemoryItem) :
    List (MemoryItem × MemoryItem) :=
  if items.length < 2 then []
  else sliceTo limit ((candidatePairs engine threshold items).insertionSort fun p q =>
    engine.similarity q.1.content q.2.content ≤ engine.similarity p.1.content p.2.content)

/-- `pairs_to_check`. -/
def pairsToCheck (engine : AuditEngine) (s : MemoryTables) (limit : Int)
    (allowedScopes : Option (Finset String)) : List (MemoryItem × MemoryItem) :=
  checkedPairs engine (s.parameter "memory_conflict_similarity_threshold" (35 / 100)) limit
    (auditItems engine s allowedScopes)

/-! ## What is read of an answer -/

/-- An answer that calls a pair contradictory. -/
structure Verdict where
  relation : String
  explanation : String
  supersededId : String
  deriving DecidableEq

def AuditEngine.verdict (engine : AuditEngine) (a b : MemoryItem) : Option Verdict :=
  match engine.answer a b with
  | some (.obj data) =>
      if Dict.flag data "contradicts" then
        some
          { relation := ((Dict.get data "relation").map engine.str).getD "contradicts"
            explanation := ((Dict.get data "explanation").map engine.str).getD ""
            supersededId := ((Dict.get data "superseded_id").map engine.str).getD "" }
      else none
  | _ => none

/-- `_memory_conflict_status` of two items that are there. -/
def memoryConflictStatus (item conflictingItem : MemoryItem) : String :=
  if item.status ∈ activeStatuses then
    if conflictingItem.status ∈ activeStatuses then "unresolved" else "resolved"
  else "inactive"

/-- `MemoryConflict`. -/
structure MemoryConflict where
  item : MemoryItem
  relation : String
  conflictingItem : MemoryItem
  status : String
  reason : String

/-! ## What is written -/

/-- `_as_list`. -/
def asList : Option Json → List Json
  | some (.arr xs) => xs
  | _ => []

/-- The list with the id, appended where it is not in it. -/
def appendOnce (xs : List Json) (id : String) : List Json :=
  if .str id ∈ xs then xs else xs ++ [.str id]

/-- The metadata of a listed object, and the copy of it that is written, after the id of
another item is appended: the list of the object itself where it has one. -/
def recordLink (metadata : Dict) (other : String) : Dict × Dict :=
  let linked := metadata.put "contradicts"
    (.arr (appendOnce (asList (metadata.get "contradicts")) other))
  match metadata.get "contradicts" with
  | some (.arr _) => (linked, linked)
  | _ => (metadata, linked)

/-- The store, and the listed objects by id. -/
structure AuditState where
  memory : MemoryTables
  objects : Table String MemoryItem (·.id)

namespace AuditState

/-- `store_item` of a row that is built from a stored one, which is not refused. -/
def store (s : AuditState) (item : MemoryItem) : AuditState :=
  { s with memory := (s.memory.storeItem item).toOption.getD s.memory }

/-- The listed object after it is linked to another. -/
def linkedObject (item : MemoryItem) (other : String) : MemoryItem :=
  { item with metadata := (recordLink item.metadata other).1 }

/-- The row that is written then, with the explanation where it gets one. -/
def linkedRow (item : MemoryItem) (other : String) (explanation : Option String) (now : Time) :
    MemoryItem :=
  let metadata := (recordLink item.metadata other).2
  { item with
    metadata := explanation.elim metadata fun text =>
      metadata.put "llm_conflict_explanation" (.str text)
    updatedAt := .float now }

/-- The link of a listed object to another. -/
def link (s : AuditState) (id other : String) (explanation : Option String) (now : Time) :
    AuditState :=
  (s.objects.get? id).elim s fun item =>
    { s with objects := s.objects.replace (linkedObject item other) }.store
      (linkedRow item other explanation now)

/-- The row of an item that is superseded. -/
def supersededRow (item : MemoryItem) (superseding : String) (now : Time) : MemoryItem :=
  { item with
    metadata := item.metadata.put "superseded_by" (.str superseding)
    updatedAt := .float now }

/-- `_mark_superseded`. -/
def markSuperseded (s : AuditState) (id superseding : String) (now : Time) : AuditState :=
  (s.objects.get? id).elim s fun item => s.store (supersededRow item superseding now)

/-- `_apply_supersession`. -/
def applySupersession (s : AuditState) (a b supersededId : String) (now : Time) : AuditState :=
  if supersededId = "" then s
  else if supersededId = a then s.markSuperseded a b now
  else if supersededId = b then s.markSuperseded b a now
  else s

/-- The writes for a pair that is contradictory. -/
def recordConflict (s : AuditState) (a b : String) (verdict : Verdict) (now : Time) : AuditState :=
  ((s.link a b (some verdict.explanation) now).link b a none now).applySupersession a b
    verdict.supersededId now

end AuditState

/-- `_llm_check_contradiction`. -/
def llmCheckContradiction (engine : AuditEngine) (now : Time) (s : AuditState)
    (pair : MemoryItem × MemoryItem) : AuditState × Option MemoryConflict :=
  match engine.verdict pair.1 pair.2 with
  | none => (s, none)
  | some verdict =>
      (s.recordConflict pair.1.id pair.2.id verdict now,
        some
          { item := pair.1
            relation := verdict.relation
            conflictingItem := pair.2
            status := memoryConflictStatus pair.1 pair.2
            reason := "llm_audit: " ++ verdict.explanation })

/-- The checks of an audit, one pair after the other. -/
def checkPairs (engine : AuditEngine) (now : Time) :
    AuditState → List (MemoryItem × MemoryItem) → AuditState × List MemoryConflict
  | s, [] => (s, [])
  | s, pair :: rest =>
      let checked := llmCheckContradiction engine now s pair
      let later := checkPairs engine now checked.1 rest
      (later.1, checked.2.toList ++ later.2)

/-- `audit_semantic_conflicts`. -/
def auditSemanticConflicts (engine : AuditEngine) (s : MemoryTables) (limit : Int)
    (allowedScopes : Option (Finset String)) (now : Time) : MemoryTables × List MemoryConflict :=
  let checked := checkPairs engine now ⟨s, s.items⟩ (pairsToCheck engine s limit allowedScopes)
  (checked.1.memory, checked.2)

end Navi.Memory
