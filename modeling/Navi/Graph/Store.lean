import Mathlib
import Navi.Base.Checks
import Navi.Base.Overlays
import Navi.Evolution.Files

/-!
# The graph store

Nodes are one for each type and name, edges one for each source, target and relation. Both are
upserted: the data are laid over what is there.
-/

namespace Navi.Graph

open Navi.Base
open Navi.Evolution (GraphNode)

/-- What the store rests on: ids that `uuid4` makes but once, and the clock. -/
structure GraphEngine where
  uuid : Nat → String
  uuid_injective : Function.Injective uuid
  uuid_trimmed : ∀ n, strip (uuid n) = uuid n ∧ uuid n ≠ ""
  clock : Nat → Time

/-- `UNIQUE(type, name)` of `graph_nodes`. -/
def nodeKey (node : GraphNode) : String × String := (node.type, node.name)

/-- A row of `graph_edges`. -/
structure GraphEdge where
  id : String
  sourceId : String
  targetId : String
  relation : String
  data : Dict
  createdAt : Time
  updatedAt : Time
  deriving DecidableEq

/-- `UNIQUE(source_id, target_id, relation)`. -/
def edgeKey (edge : GraphEdge) : String × String × String :=
  (edge.sourceId, edge.targetId, edge.relation)

/-- The two tables; `drawn` counts the ids that were made, `ticks` the readings of the clock. -/
structure GraphStore (engine : GraphEngine) where
  nodes : Table (String × String) GraphNode nodeKey
  edges : Table (String × String × String) GraphEdge edgeKey
  drawn : Nat
  ticks : Nat
  nodeIds : nodes.UniqueOn (fun _ => True) GraphNode.id
  edgeIds : edges.UniqueOn (fun _ => True) GraphEdge.id
  trimmed : ∀ node ∈ nodes.rows, strip node.id = node.id ∧ node.id ≠ ""
  undrawnNodes : ∀ node ∈ nodes.rows, ∀ m, drawn ≤ m → node.id ≠ engine.uuid m
  undrawnEdges : ∀ edge ∈ edges.rows, ∀ m, drawn ≤ m → edge.id ≠ engine.uuid m

/-- The `SET` of an update of a node. -/
def overwriteNode (data : Dict) (now : Time) (node : GraphNode) : GraphNode :=
  { node with data := data, updatedAt := now }

/-- The `SET` of an update of an edge. -/
def overwriteEdge (data : Dict) (now : Time) (edge : GraphEdge) : GraphEdge :=
  { edge with data := data, updatedAt := now }

theorem overwriteNode_key (data : Dict) (now : Time) (node : GraphNode) :
    nodeKey (overwriteNode data now node) = nodeKey node := rfl

theorem overwriteEdge_key (data : Dict) (now : Time) (edge : GraphEdge) :
    edgeKey (overwriteEdge data now edge) = edgeKey edge := rfl

section

variable {engine : GraphEngine}

theorem mem_update {κ ρ : Type} {key : ρ → κ} {t : Table κ ρ key} {guard : ρ → Bool}
    {set : ρ → ρ} {hset : ∀ r, key (set r) = key r} {row : ρ}
    (h : row ∈ (t.update guard set hset).rows) :
    ∃ old ∈ t.rows, row = if guard old then set old else old := by
  obtain ⟨old, hold, hrow⟩ := List.mem_map.mp h
  exact ⟨old, hold, hrow.symm⟩

theorem id_of_update {guard : GraphNode → Bool} {data : Dict} {now : Time}
    {nodes : Table (String × String) GraphNode nodeKey} {node : GraphNode}
    (h : node ∈ (nodes.update guard (overwriteNode data now) (overwriteNode_key data now)).rows) :
    ∃ old ∈ nodes.rows, nodeKey old = nodeKey node ∧ old.id = node.id := by
  obtain ⟨old, hold, rfl⟩ := mem_update h
  refine ⟨old, hold, ?_⟩
  split <;> exact ⟨rfl, rfl⟩

theorem id_of_update_edge {guard : GraphEdge → Bool} {data : Dict} {now : Time}
    {edges : Table (String × String × String) GraphEdge edgeKey} {edge : GraphEdge}
    (h : edge ∈ (edges.update guard (overwriteEdge data now) (overwriteEdge_key data now)).rows) :
    ∃ old ∈ edges.rows, edgeKey old = edgeKey edge ∧ old.id = edge.id := by
  obtain ⟨old, hold, rfl⟩ := mem_update h
  refine ⟨old, hold, ?_⟩
  split <;> exact ⟨rfl, rfl⟩

/-! ## Nodes -/

/-- `get`. -/
def GraphStore.get (g : GraphStore engine) (nodeId : String) : Option GraphNode :=
  g.nodes.rows.find? (·.id = nodeId)

/-- `get_by_name`. -/
def GraphStore.getByName (g : GraphStore engine) (nodeType name : String) : Option GraphNode :=
  g.nodes.get? (nodeType, name)

/-- The update of an `upsert`. -/
def GraphStore.updateNode (g : GraphStore engine) (nodeId : String) (data : Dict) :
    GraphStore engine :=
  { g with
    nodes := g.nodes.update (·.id = nodeId) (overwriteNode data (engine.clock g.ticks))
      (overwriteNode_key data (engine.clock g.ticks))
    ticks := g.ticks + 1
    nodeIds := g.nodeIds.of_back fun node hnode _ => by
      obtain ⟨old, hold, hkey, hid⟩ := id_of_update hnode
      exact ⟨old, hold, hkey, trivial, hid⟩
    trimmed := fun node hnode => by
      obtain ⟨old, hold, -, hid⟩ := id_of_update hnode
      exact hid ▸ g.trimmed old hold
    undrawnNodes := fun node hnode => by
      obtain ⟨old, hold, -, hid⟩ := id_of_update hnode
      exact hid ▸ g.undrawnNodes old hold }

/-- The node that an `upsert` makes. -/
def GraphStore.newNode (g : GraphStore engine) (nodeType name : String) (data : Dict) :
    GraphNode where
  id := engine.uuid g.drawn
  type := nodeType
  name := name
  data := data
  createdAt := engine.clock g.ticks
  updatedAt := engine.clock g.ticks

theorem ne_of_drawn {n m : Nat} (h : n + 1 ≤ m) : engine.uuid n ≠ engine.uuid m := fun heq => by
  have hsame := engine.uuid_injective heq
  omega

/-- The insertion of an `upsert`. -/
def GraphStore.insertNode (g : GraphStore engine) (node : GraphNode)
    (hid : node.id = engine.uuid g.drawn) (hfree : g.nodes.get? (nodeKey node) = none) :
    GraphStore engine :=
  { g with
    nodes := g.nodes.insertOrIgnore node
    drawn := g.drawn + 1
    ticks := g.ticks + 1
    nodeIds := (Table.uniqueOn_insertOrIgnore_iff g.nodeIds hfree).mpr fun _ old hold _ hsame =>
      g.undrawnNodes old hold g.drawn le_rfl (hsame.trans hid)
    trimmed := fun row hrow => by
      rcases (Table.mem_insertOrIgnore hfree).mp hrow with hold | rfl
      · exact g.trimmed row hold
      · exact hid ▸ engine.uuid_trimmed g.drawn
    undrawnNodes := fun row hrow m hm => by
      rcases (Table.mem_insertOrIgnore hfree).mp hrow with hold | rfl
      · exact g.undrawnNodes row hold m (by omega)
      · exact hid ▸ ne_of_drawn hm
    undrawnEdges := fun row hrow m hm => g.undrawnEdges row hrow m (by omega) }

/-- `upsert`. -/
def GraphStore.upsert (g : GraphStore engine) (nodeType name : String) (data : Dict) :
    GraphNode × GraphStore engine :=
  match h : g.getByName nodeType name with
  | some existing =>
      let updated := g.updateNode existing.id (existing.data.merge data)
      ((updated.get existing.id).getD existing, updated)
  | none =>
      let node := g.newNode nodeType name (Dict.merge [] data)
      (node, g.insertNode node rfl h)

/-! ## Edges -/

/-- `get_edge`. -/
def GraphStore.getEdge (g : GraphStore engine) (sourceId targetId relation : String) :
    Option GraphEdge :=
  g.edges.get? (sourceId, targetId, relation)

/-- The update of an `upsert_edge`. -/
def GraphStore.updateEdge (g : GraphStore engine) (edgeId : String) (data : Dict) :
    GraphStore engine :=
  { g with
    edges := g.edges.update (·.id = edgeId) (overwriteEdge data (engine.clock g.ticks))
      (overwriteEdge_key data (engine.clock g.ticks))
    ticks := g.ticks + 1
    edgeIds := g.edgeIds.of_back fun edge hedge _ => by
      obtain ⟨old, hold, hkey, hid⟩ := id_of_update_edge hedge
      exact ⟨old, hold, hkey, trivial, hid⟩
    undrawnEdges := fun edge hedge => by
      obtain ⟨old, hold, -, hid⟩ := id_of_update_edge hedge
      exact hid ▸ g.undrawnEdges old hold }

/-- The edge that an `upsert_edge` makes. -/
def GraphStore.newEdge (g : GraphStore engine) (sourceId targetId relation : String)
    (data : Dict) : GraphEdge where
  id := engine.uuid g.drawn
  sourceId := sourceId
  targetId := targetId
  relation := relation
  data := data
  createdAt := engine.clock g.ticks
  updatedAt := engine.clock g.ticks

/-- The insertion of an `upsert_edge`. -/
def GraphStore.insertEdge (g : GraphStore engine) (edge : GraphEdge)
    (hid : edge.id = engine.uuid g.drawn) (hfree : g.edges.get? (edgeKey edge) = none) :
    GraphStore engine :=
  { g with
    edges := g.edges.insertOrIgnore edge
    drawn := g.drawn + 1
    ticks := g.ticks + 1
    edgeIds := (Table.uniqueOn_insertOrIgnore_iff g.edgeIds hfree).mpr fun _ old hold _ hsame =>
      g.undrawnEdges old hold g.drawn le_rfl (hsame.trans hid)
    undrawnNodes := fun row hrow m hm => g.undrawnNodes row hrow m (by omega)
    undrawnEdges := fun row hrow m hm => by
      rcases (Table.mem_insertOrIgnore hfree).mp hrow with hold | rfl
      · exact g.undrawnEdges row hold m (by omega)
      · exact hid ▸ ne_of_drawn hm }

/-- The rest of `upsert_edge`, of stripped arguments. -/
def GraphStore.writeEdge (g : GraphStore engine) (sourceId targetId relation : String)
    (data : Dict) : GraphEdge × GraphStore engine :=
  match h : g.getEdge sourceId targetId relation with
  | some existing =>
      let updated := g.updateEdge existing.id (existing.data.merge data)
      ((updated.getEdge sourceId targetId relation).getD existing, updated)
  | none =>
      let edge := g.newEdge sourceId targetId relation (Dict.merge [] data)
      (edge, g.insertEdge edge rfl h)

/-- `upsert_edge`. -/
def GraphStore.upsertEdge (g : GraphStore engine) (sourceId targetId relation : String)
    (data : Dict) : Except String (GraphEdge × GraphStore engine) :=
  if strip sourceId = "" ∨ strip targetId = "" ∨ strip relation = "" then
    .error "graph edge source_id, target_id, and relation are required"
  else .ok (g.writeEdge (strip sourceId) (strip targetId) (strip relation) data)

/-- An edge to be written: its target, its relation and its data. -/
abbrev EdgeEntry := String × String × Dict

/-- The upserts of the edges of a source, in order. -/
def GraphStore.upsertEdges (sourceId : String) :
    List EdgeEntry → GraphStore engine → Except String (List GraphEdge × GraphStore engine)
  | [], g => .ok ([], g)
  | (targetId, relation, data) :: entries, g => do
      let (edge, g) ← g.upsertEdge sourceId targetId relation data
      let (edges, g) ← upsertEdges sourceId entries g
      return (edge :: edges, g)

/-- `DELETE FROM graph_edges WHERE source_id = ? AND relation IN (...)`. -/
def GraphStore.deleteEdges (g : GraphStore engine) (sourceId : String) (relations : List String) :
    GraphStore engine :=
  { g with
    edges := g.edges.delete fun edge => edge.sourceId = sourceId ∧ edge.relation ∈ relations
    edgeIds := g.edgeIds.delete
    undrawnEdges := fun row hrow => g.undrawnEdges row (Table.mem_delete.mp hrow).1 }

/-- `replace_edges_for_source`. -/
def GraphStore.replaceEdgesForSource (g : GraphStore engine) (sourceId : String)
    (relations : List String) (entries : List EdgeEntry) :
    Except String (List GraphEdge × GraphStore engine) :=
  if relations = [] then GraphStore.upsertEdges sourceId entries g
  else GraphStore.upsertEdges sourceId entries (g.deleteEdges sourceId relations)

end

end Navi.Graph
