import Mathlib
import Navi.Graph.Upserts
import Navi.Memory.Lifecycle

/-!
# The semantic graph

The items of the memory store as nodes of the graph, with edges to their type, status and scope
and to the items that their metadata name. An item that is named and not seen yet is upserted as a
placeholder.
-/

namespace Navi.Memory

open Navi.Base Navi.Graph
open Navi.Evolution (GraphNode)

/-- `MEMORY_GRAPH_EDGE_RELATIONS`. -/
def memoryGraphEdgeRelations : List String :=
  ["has_memory_type", "has_memory_status", "has_memory_scope", "contradicts", "supersedes",
    "superseded_by"]

/-- `truncate_middle`. -/
def truncateMiddle (text : String) (limit : Nat) : String :=
  let chars := text.toList
  if chars.length ≤ limit then text
  else
    let headLimit := max 1 (limit / 2)
    let tailLimit := max 1 (limit - headLimit)
    let omitted : Int := chars.length - headLimit - tailLimit
    String.ofList (chars.take headLimit)
      ++ "\n... [truncated " ++ toString omitted ++ " chars from the middle] ...\n"
      ++ String.ofList (chars.drop (chars.length - tailLimit))

/-- `_memory_graph_item_data`. -/
def memoryGraphItemData (item : MemoryItem) : Dict :=
  [("memory_id", .str item.id), ("memory_type", .str item.type), ("status", .str item.status),
    ("scope", .str item.scope), ("source", .str item.source),
    ("confidence", .float item.confidence), ("created_at", item.createdAt),
    ("updated_at", item.updatedAt), ("last_verified_at", item.lastVerifiedAt),
    ("expires_at", item.expiresAt), ("metadata", .obj item.metadata),
    ("reason", .str item.reason), ("provenance", .str item.provenance),
    ("summary", .str item.summary), ("content", .str item.content),
    ("content_preview", .str (truncateMiddle item.content 240)), ("placeholder", .bool false)]

/-- What `_upsert_memory_graph_placeholder` upserts. -/
def memoryGraphPlaceholder (memoryId : String) : Dict :=
  [("memory_id", .str memoryId), ("placeholder", .bool true)]

/-- A node that an item is linked to, as it is upserted, and the data of the edge. -/
structure MemoryLink where
  relation : String
  nodeType : String
  name : String
  nodeData : Dict
  edgeData : Dict

/-- The type and the name of the node. -/
def MemoryLink.key (link : MemoryLink) : String × String := (link.nodeType, link.name)

/-- The link to an item that the metadata name. -/
def targetLink (item : MemoryItem) (relation targetId : String) : MemoryLink where
  relation := relation
  nodeType := "MemoryItem"
  name := targetId
  nodeData := memoryGraphPlaceholder targetId
  edgeData := [("memory_id", .str item.id), ("target_memory_id", .str targetId)]

/-- The links to the items that a field of the metadata names. -/
def targetLinks (engine : LifecycleEngine) (item : MemoryItem) (relation : String) :
    List MemoryLink :=
  (metadataIdList engine (item.metadata.get relation)).map (targetLink item relation)

/-- The nodes that are upserted after the item's own, in their order. -/
def memoryLinks (engine : LifecycleEngine) (item : MemoryItem) : List MemoryLink :=
  [{ relation := "has_memory_type"
     nodeType := "MemoryType"
     name := item.type
     nodeData := [("memory_type", .str item.type)]
     edgeData := [("memory_id", .str item.id), ("type", .str item.type)] },
   { relation := "has_memory_status"
     nodeType := "MemoryStatus"
     name := item.status
     nodeData := [("status", .str item.status)]
     edgeData := [("memory_id", .str item.id), ("status", .str item.status)] },
   { relation := "has_memory_scope"
     nodeType := "MemoryScope"
     name := item.scope
     nodeData := [("scope", .str item.scope)]
     edgeData := [("memory_id", .str item.id), ("scope", .str item.scope)] }]
  ++ targetLinks engine item "contradicts" ++ targetLinks engine item "supersedes"
  ++ targetLinks engine item "superseded_by"

section

variable {graphEngine : GraphEngine}

/-- The upserts of the linked nodes, with the edges to them. -/
def upsertLinks : List MemoryLink → GraphStore graphEngine →
    List EdgeEntry × GraphStore graphEngine
  | [], g => ([], g)
  | link :: links, g =>
      let node := g.upsert link.nodeType link.name link.nodeData
      let rest := upsertLinks links node.2
      ((node.1.id, link.relation, link.edgeData) :: rest.1, rest.2)

/-- What the sync tells of an item, and the edges that are counted. -/
structure SyncedItem where
  memoryId : String
  graphNodeId : String
  edges : List GraphEdge

/-- The body of the loop of `sync_semantic_graph`. -/
def syncItem (engine : LifecycleEngine) (item : MemoryItem) (g : GraphStore graphEngine) :
    Except String (SyncedItem × GraphStore graphEngine) :=
  let itemNode := g.upsert "MemoryItem" item.id (memoryGraphItemData item)
  let linked := upsertLinks (memoryLinks engine item) itemNode.2
  (linked.2.replaceEdgesForSource itemNode.1.id memoryGraphEdgeRelations linked.1).map
    fun replaced => (⟨item.id, itemNode.1.id, replaced.1⟩, replaced.2)

def syncItems (engine : LifecycleEngine) : List MemoryItem → GraphStore graphEngine →
    Except String (List SyncedItem × GraphStore graphEngine)
  | [], g => .ok ([], g)
  | item :: items, g => do
      let (synced, g) ← syncItem engine item g
      let (rest, g) ← syncItems engine items g
      return (synced :: rest, g)

/-- The facts that `sync_semantic_graph` returns, those that do not say what it was called with. -/
structure SyncFacts where
  syncedCount : Nat
  relationCounts : List (String × Nat)
  /-- The ids of the items and of their nodes, and the counts of their edges. -/
  items : List (String × String × Nat)

/-- `sync_semantic_graph`. -/
def syncSemanticGraph (engine : LifecycleEngine) (s : MemoryTables) (limit : Int)
    (g : GraphStore graphEngine) : Except String (SyncFacts × GraphStore graphEngine) :=
  let items := getItems engine.toListingEngine s none none none limit
  (syncItems engine items g).map fun (synced, g) =>
    let edges := synced.flatMap (·.edges)
    ({ syncedCount := synced.length
       relationCounts := memoryGraphEdgeRelations.map fun relation =>
         (relation, edges.countP (·.relation = relation))
       items := synced.map fun item => (item.memoryId, item.graphNodeId, item.edges.length) }, g)

end

end Navi.Memory
