import Mathlib
import Navi.Graph.Store

/-!
# What an upsert writes

An upsert of a node is one write of the nodes, an upsert of an edge one of the edges. What is
drawn for them are ids that the store has not seen.
-/

namespace Navi.Graph

open Navi.Base
open Navi.Evolution (GraphNode)

section

variable {engine : GraphEngine} {g g' g'' : GraphStore engine}

/-- The id was drawn between the two counts. -/
def DrawnIn (engine : GraphEngine) (first last : Nat) (id : String) : Prop :=
  ∃ m, first ≤ m ∧ m < last ∧ id = engine.uuid m

theorem DrawnIn.mono {a b c d : Nat} {id : String} (h : DrawnIn engine b c id) (hab : a ≤ b)
    (hcd : c ≤ d) : DrawnIn engine a d id := by
  obtain ⟨m, hfirst, hlast, hid⟩ := h
  exact ⟨m, by omega, by omega, hid⟩

/-- Nodes are written, and nothing else. -/
structure NodesWritten (ws : List (Write (String × String))) (g g' : GraphStore engine) :
    Prop where
  nodes : Overlaid GraphNode.id GraphNode.data (DrawnIn engine g.drawn g'.drawn) ws g.nodes g'.nodes
  edges : g'.edges = g.edges
  drawn : g.drawn ≤ g'.drawn

/-- Edges are written, and nothing else. -/
structure EdgesWritten (ws : List (Write (String × String × String))) (g g' : GraphStore engine) :
    Prop where
  edges : Overlaid GraphEdge.id GraphEdge.data (DrawnIn engine g.drawn g'.drawn) ws g.edges g'.edges
  nodes : g'.nodes = g.nodes
  drawn : g.drawn ≤ g'.drawn

theorem NodesWritten.refl (g : GraphStore engine) : NodesWritten [] g g :=
  ⟨Overlaid.refl _, rfl, le_rfl⟩

theorem EdgesWritten.refl (g : GraphStore engine) : EdgesWritten [] g g :=
  ⟨Overlaid.refl _, rfl, le_rfl⟩

theorem NodesWritten.trans {ws ws' : List (Write (String × String))} (h : NodesWritten ws g g')
    (h' : NodesWritten ws' g' g'') : NodesWritten (ws ++ ws') g g'' where
  nodes := (h.nodes.mono fun _ hid => hid.mono le_rfl h'.drawn).trans
    (h'.nodes.mono fun _ hid => hid.mono h.drawn le_rfl)
  edges := h'.edges.trans h.edges
  drawn := h.drawn.trans h'.drawn

theorem EdgesWritten.trans {ws ws' : List (Write (String × String × String))}
    (h : EdgesWritten ws g g') (h' : EdgesWritten ws' g' g'') : EdgesWritten (ws ++ ws') g g'' where
  edges := (h.edges.mono fun _ hid => hid.mono le_rfl h'.drawn).trans
    (h'.edges.mono fun _ hid => hid.mono h.drawn le_rfl)
  nodes := h'.nodes.trans h.nodes
  drawn := h.drawn.trans h'.drawn

/-! ## Nodes -/

/-- The id of the node of a type and a name. -/
def GraphStore.nodeId (g : GraphStore engine) (key : String × String) : String :=
  ((g.nodes.get? key).map (·.id)).getD ""

theorem nodeId_of_get? {key : String × String} {node : GraphNode}
    (h : g.nodes.get? key = some node) : g.nodeId key = node.id := by
  unfold GraphStore.nodeId
  rw [h]
  rfl

theorem key_of_nodeId {key key' : String × String} {node node' : GraphNode}
    (h : g.nodes.get? key = some node) (h' : g.nodes.get? key' = some node')
    (hid : node.id = node'.id) : key = key' := by
  obtain ⟨hmem, hkey⟩ := Table.get?_eq_some_iff.mp h
  obtain ⟨hmem', hkey'⟩ := Table.get?_eq_some_iff.mp h'
  have hsame : node = node' := g.nodeIds node hmem node' hmem' trivial trivial hid
  rw [← hkey, ← hkey', hsame]

theorem NodesWritten.nodeId_eq {ws : List (Write (String × String))} (h : NodesWritten ws g g')
    {key : String × String} {node : GraphNode} (hnode : g.nodes.get? key = some node) :
    g'.nodeId key = g.nodeId key := by
  obtain ⟨node', hnode', hid⟩ := h.nodes.kept key node hnode
  rw [nodeId_of_get? hnode', nodeId_of_get? hnode, hid]

theorem get?_updateNode {key : String × String} {existing : GraphNode}
    (h : g.nodes.get? key = some existing) (data : Dict) (key' : String × String) :
    (g.updateNode existing.id data).nodes.get? key'
      = if key = key' then some (overwriteNode data (engine.clock g.ticks) existing)
        else g.nodes.get? key' := by
  refine (Table.get?_update g.nodes (·.id = existing.id)
    (overwriteNode data (engine.clock g.ticks))
    (overwriteNode_key data (engine.clock g.ticks)) key').trans ?_
  by_cases hkey : key = key'
  · subst hkey
    rw [if_pos rfl, h, Option.map_some, if_pos (decide_eq_true rfl)]
  · rw [if_neg hkey]
    cases hother : g.nodes.get? key' with
    | none => rfl
    | some node =>
        have hid : node.id ≠ existing.id := fun hid => hkey (key_of_nodeId h hother hid.symm)
        rw [Option.map_some, if_neg (by simpa using hid)]

theorem upsert_spec (g : GraphStore engine) (nodeType name : String) (data : Dict) :
    NodesWritten [⟨(nodeType, name), data⟩] g (g.upsert nodeType name data).2
      ∧ (g.upsert nodeType name data).1.id
        = (g.upsert nodeType name data).2.nodeId (nodeType, name) := by
  unfold GraphStore.upsert
  split
  next existing h =>
    have hget := get?_updateNode h (existing.data.merge data)
    refine ⟨⟨Overlaid.of_update h hget rfl rfl, rfl, le_rfl⟩, ?_⟩
    show (((g.updateNode existing.id _).get existing.id).getD existing).id = _
    rw [nodeId_of_get? ((hget _).trans (if_pos rfl))]
    cases hfound : (g.updateNode existing.id (existing.data.merge data)).get existing.id with
    | none => rfl
    | some node =>
        have hid : node.id = existing.id := by simpa using List.find?_some hfound
        exact hid
  next h =>
    have hget : ∀ key', (g.nodes.insertOrIgnore
        (g.newNode nodeType name (Dict.merge [] data))).get? key'
          = if (nodeType, name) = key' then some (g.newNode nodeType name (Dict.merge [] data))
            else g.nodes.get? key' := by
      intro key'
      rw [Table.get?_insertOrIgnore]
      by_cases hkey : (nodeType, name) = key'
      · subst hkey
        rw [if_pos rfl]
        show (g.getByName nodeType name).or _ = _
        rw [h, Option.none_or]
        exact if_pos rfl
      · rw [if_neg hkey]
        show (g.nodes.get? key').or (if (nodeType, name) = key' then _ else none) = _
        rw [if_neg hkey, Option.or_none]
    refine ⟨⟨Overlaid.of_insert h hget ⟨g.drawn, le_rfl, Nat.lt_succ_self _, rfl⟩ ?_, rfl,
      Nat.le_succ _⟩, ?_⟩
    · show Dict.merge [] data = data
      simp [Dict.merge]
    · exact (nodeId_of_get? ((hget _).trans (if_pos rfl))).symm

/-! ## Edges -/

theorem get?_updateEdge {key : String × String × String} {existing : GraphEdge}
    (h : g.edges.get? key = some existing) (data : Dict) (key' : String × String × String) :
    (g.updateEdge existing.id data).edges.get? key'
      = if key = key' then some (overwriteEdge data (engine.clock g.ticks) existing)
        else g.edges.get? key' := by
  refine (Table.get?_update g.edges (·.id = existing.id)
    (overwriteEdge data (engine.clock g.ticks))
    (overwriteEdge_key data (engine.clock g.ticks)) key').trans ?_
  by_cases hkey : key = key'
  · subst hkey
    rw [if_pos rfl, h, Option.map_some, if_pos (decide_eq_true rfl)]
  · rw [if_neg hkey]
    cases hother : g.edges.get? key' with
    | none => rfl
    | some edge =>
        have hid : edge.id ≠ existing.id := by
          intro hid
          obtain ⟨hmem, hown⟩ := Table.get?_eq_some_iff.mp h
          obtain ⟨hmem', hown'⟩ := Table.get?_eq_some_iff.mp hother
          have hsame := g.edgeIds edge hmem' existing hmem trivial trivial hid
          exact hkey (by rw [← hown, ← hown', hsame])
        rw [Option.map_some, if_neg (by simpa using hid)]

theorem writeEdge_spec (g : GraphStore engine) (sourceId targetId relation : String)
    (data : Dict) :
    EdgesWritten [⟨(sourceId, targetId, relation), data⟩] g
      (g.writeEdge sourceId targetId relation data).2 := by
  unfold GraphStore.writeEdge
  split
  next existing h =>
    have hget := get?_updateEdge h (existing.data.merge data)
    exact ⟨Overlaid.of_update h hget rfl rfl, rfl, le_rfl⟩
  next h =>
    have hget : ∀ key', (g.edges.insertOrIgnore
        (g.newEdge sourceId targetId relation (Dict.merge [] data))).get? key'
          = if (sourceId, targetId, relation) = key' then
              some (g.newEdge sourceId targetId relation (Dict.merge [] data))
            else g.edges.get? key' := by
      intro key'
      rw [Table.get?_insertOrIgnore]
      by_cases hkey : (sourceId, targetId, relation) = key'
      · subst hkey
        rw [if_pos rfl]
        show (g.getEdge sourceId targetId relation).or _ = _
        rw [h, Option.none_or]
        exact if_pos rfl
      · rw [if_neg hkey]
        show (g.edges.get? key').or (if (sourceId, targetId, relation) = key' then _ else none) = _
        rw [if_neg hkey, Option.or_none]
    refine ⟨Overlaid.of_insert h hget ⟨g.drawn, le_rfl, Nat.lt_succ_self _, rfl⟩ ?_, rfl,
      Nat.le_succ _⟩
    show Dict.merge [] data = data
    simp [Dict.merge]

/-- A text that `strip` leaves as it is and that is not empty. -/
def Trimmed (s : String) : Prop := strip s = s ∧ s ≠ ""

theorem upsertEdge_spec (g : GraphStore engine) {sourceId targetId relation : String}
    (data : Dict) (hsource : Trimmed sourceId) (htarget : Trimmed targetId)
    (hrelation : Trimmed relation) :
    g.upsertEdge sourceId targetId relation data
      = .ok (g.writeEdge sourceId targetId relation data) := by
  unfold GraphStore.upsertEdge
  rw [hsource.1, htarget.1, hrelation.1, if_neg]
  rintro (hempty | hempty | hempty)
  · exact hsource.2 hempty
  · exact htarget.2 hempty
  · exact hrelation.2 hempty

/-- The write of an entry of a source. -/
def entryWrite (sourceId : String) (entry : EdgeEntry) : Write (String × String × String) :=
  ⟨(sourceId, entry.1, entry.2.1), entry.2.2⟩

theorem upsertEdges_spec {sourceId : String} (hsource : Trimmed sourceId)
    {entries : List EdgeEntry}
    (hentries : ∀ entry ∈ entries, Trimmed entry.1 ∧ Trimmed entry.2.1) (g : GraphStore engine) :
    ∃ edges g', GraphStore.upsertEdges sourceId entries g = .ok (edges, g')
      ∧ EdgesWritten (entries.map (entryWrite sourceId)) g g' := by
  induction entries generalizing g with
  | nil => exact ⟨[], g, rfl, EdgesWritten.refl g⟩
  | cons entry entries ih =>
      obtain ⟨targetId, relation, data⟩ := entry
      obtain ⟨htarget, hrelation⟩ := hentries _ List.mem_cons_self
      have hfirst := upsertEdge_spec g data hsource htarget hrelation
      obtain ⟨edges, g', hrest, hwritten⟩ :=
        ih (fun entry hentry => hentries entry (List.mem_cons_of_mem _ hentry))
          (g.writeEdge sourceId targetId relation data).2
      refine ⟨(g.writeEdge sourceId targetId relation data).1 :: edges, g', ?_,
        (writeEdge_spec g sourceId targetId relation data).trans hwritten⟩
      rw [GraphStore.upsertEdges, bind_of_eq_ok hfirst]
      exact (bind_of_eq_ok hrest).trans rfl

end

end Navi.Graph
