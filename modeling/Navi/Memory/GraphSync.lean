import Mathlib
import Navi.Base.Fields
import Navi.Memory.SemanticGraph

/-!
# What a sync writes

The nodes are written item by item, and each item's own edges are replaced by those to its links.
The edges of other nodes, and those of other relations, stay as they are.
-/

namespace Navi.Memory

open Navi.Base Navi.Graph
open Navi.Evolution (GraphNode)

section

variable {engine : LifecycleEngine} {graphEngine : GraphEngine}
  {g g' g'' : GraphStore graphEngine} {item : MemoryItem} {items items' : List MemoryItem}

def itemKey (itemId : String) : String × String := ("MemoryItem", itemId)

def linkWrite (link : MemoryLink) : Write (String × String) := ⟨link.key, link.nodeData⟩

/-- The nodes that are written for an item. -/
def nodeWrites (engine : LifecycleEngine) (item : MemoryItem) : List (Write (String × String)) :=
  ⟨itemKey item.id, memoryGraphItemData item⟩ :: (memoryLinks engine item).map linkWrite

/-! ## Links -/

/-- The field of an edge of this relation that says what it leads to. -/
def edgeField (relation : String) : String :=
  if relation = "has_memory_type" then "type"
  else if relation = "has_memory_status" then "status"
  else if relation = "has_memory_scope" then "scope"
  else "target_memory_id"

/-- A link leads to the type, the status or the scope, or to an item that the metadata name. -/
theorem mem_memoryLinks {link : MemoryLink} (h : link ∈ memoryLinks engine item) :
    (link.relation = "has_memory_type" ∧ link.key = ("MemoryType", item.type)
      ∨ link.relation = "has_memory_status" ∧ link.key = ("MemoryStatus", item.status)
      ∨ link.relation = "has_memory_scope" ∧ link.key = ("MemoryScope", item.scope)
      ∨ link.relation ∈ ["contradicts", "supersedes", "superseded_by"]
        ∧ link.key.2 ∈ metadataIdList engine (item.metadata.get link.relation)
        ∧ link.key = itemKey link.key.2 ∧ link.nodeData = memoryGraphPlaceholder link.key.2)
      ∧ link.edgeData
        = [("memory_id", .str item.id), (edgeField link.relation, .str link.key.2)] := by
  unfold memoryLinks at h
  simp only [List.mem_append, List.mem_cons, List.not_mem_nil, or_false, targetLinks,
    List.mem_map] at h
  rcases h with (((rfl | rfl | rfl) | ⟨targetId, hmem, rfl⟩) | ⟨targetId, hmem, rfl⟩)
    | ⟨targetId, hmem, rfl⟩
  · exact ⟨.inl ⟨rfl, rfl⟩, rfl⟩
  · exact ⟨.inr (.inl ⟨rfl, rfl⟩), rfl⟩
  · exact ⟨.inr (.inr (.inl ⟨rfl, rfl⟩)), rfl⟩
  · exact ⟨.inr (.inr (.inr ⟨by simp [targetLink], hmem, rfl, rfl⟩)), rfl⟩
  · exact ⟨.inr (.inr (.inr ⟨by simp [targetLink], hmem, rfl, rfl⟩)), rfl⟩
  · exact ⟨.inr (.inr (.inr ⟨by simp [targetLink], hmem, rfl, rfl⟩)), rfl⟩

theorem relation_of_link {link : MemoryLink} (h : link ∈ memoryLinks engine item) :
    link.relation ∈ memoryGraphEdgeRelations := by
  have hsub : ∀ relation ∈ ["contradicts", "supersedes", "superseded_by"],
      relation ∈ memoryGraphEdgeRelations := by decide
  rcases (mem_memoryLinks h).1 with ⟨hrel, -⟩ | ⟨hrel, -⟩ | ⟨hrel, -⟩ | ⟨hrel, -⟩
  · rw [hrel]
    decide
  · rw [hrel]
    decide
  · rw [hrel]
    decide
  · exact hsub _ hrel

theorem edgeData_of_link {link link' : MemoryLink} (h : link ∈ memoryLinks engine item)
    (h' : link' ∈ memoryLinks engine item) (hrelation : link.relation = link'.relation)
    (hkey : link.key = link'.key) : link.edgeData = link'.edgeData := by
  rw [(mem_memoryLinks h).2, (mem_memoryLinks h').2, hrelation, hkey]

theorem relations_trimmed : ∀ relation ∈ memoryGraphEdgeRelations, Trimmed relation := by
  have hall : ∀ relation ∈ memoryGraphEdgeRelations,
      strip relation = relation ∧ relation ≠ "" := by decide +kernel
  exact hall

/-! ## The nodes of an item -/

/-- The entry of a link, in a graph that has its node. -/
def linkEntry (g : GraphStore graphEngine) (link : MemoryLink) : EdgeEntry :=
  (g.nodeId link.key, link.relation, link.edgeData)

theorem upsertLinks_spec (links : List MemoryLink) (g : GraphStore graphEngine) :
    NodesWritten (links.map linkWrite) g (upsertLinks links g).2
      ∧ (upsertLinks links g).1 = links.map (linkEntry (upsertLinks links g).2) := by
  induction links generalizing g with
  | nil => exact ⟨NodesWritten.refl g, rfl⟩
  | cons link links ih =>
      obtain ⟨hfirst, hid⟩ := upsert_spec g link.nodeType link.name link.nodeData
      obtain ⟨hrest, hentries⟩ := ih (g.upsert link.nodeType link.name link.nodeData).2
      refine ⟨hfirst.trans hrest, ?_⟩
      obtain ⟨node, hnode⟩ := hfirst.nodes.wrote _ (List.mem_singleton_self _)
      have hkept := hrest.nodeId_eq hnode
      show (_, link.relation, link.edgeData) :: (upsertLinks links _).1 = _
      rw [hentries, hid, ← hkept]
      rfl

/-! ## The loop -/

/-- The graph has the nodes of an item and of its links. -/
def Reaches (engine : LifecycleEngine) (item : MemoryItem) (g : GraphStore graphEngine)
    (relation targetId : String) : Prop :=
  ∃ link ∈ memoryLinks engine item, link.relation = relation ∧ g.nodeId link.key = targetId

/-- What the sync of these items makes of a graph. -/
structure Synced (engine : LifecycleEngine) (items : List MemoryItem)
    (g g' : GraphStore graphEngine) : Prop where
  nodes : Overlaid GraphNode.id GraphNode.data (DrawnIn graphEngine g.drawn g'.drawn)
    (items.flatMap (nodeWrites engine)) g.nodes g'.nodes
  drawn : g.drawn ≤ g'.drawn
  linked : ∀ item ∈ items, ∀ relation ∈ memoryGraphEdgeRelations, ∀ targetId,
    (g'.edges.get? (g'.nodeId (itemKey item.id), targetId, relation)).isSome
      ↔ Reaches engine item g' relation targetId
  told : ∀ item ∈ items, ∀ relation ∈ memoryGraphEdgeRelations, ∀ targetId, ∀ edge,
    g'.edges.get? (g'.nodeId (itemKey item.id), targetId, relation) = some edge →
      DrawnIn graphEngine g.drawn g'.drawn edge.id
        ∧ ∀ link ∈ memoryLinks engine item, link.relation = relation →
            g'.nodeId link.key = targetId → SameFields edge.data link.edgeData
  others : ∀ sourceId targetId relation,
    (relation ∈ memoryGraphEdgeRelations → ∀ item ∈ items,
      g'.nodeId (itemKey item.id) ≠ sourceId) →
    g'.edges.get? (sourceId, targetId, relation) = g.edges.get? (sourceId, targetId, relation)

namespace Synced

theorem refl (engine : LifecycleEngine) (g : GraphStore graphEngine) : Synced engine [] g g where
  nodes := Overlaid.refl _
  drawn := le_rfl
  linked _ hitem := nomatch hitem
  told _ hitem := nomatch hitem
  others _ _ _ _ := rfl

theorem write_item (hitem : item ∈ items) :
    ⟨itemKey item.id, memoryGraphItemData item⟩ ∈ items.flatMap (nodeWrites engine) :=
  List.mem_flatMap.mpr ⟨item, hitem, List.mem_cons_self⟩

theorem write_link {link : MemoryLink} (hitem : item ∈ items)
    (hlink : link ∈ memoryLinks engine item) :
    linkWrite link ∈ items.flatMap (nodeWrites engine) :=
  List.mem_flatMap.mpr ⟨item, hitem, List.mem_cons_of_mem _ (List.mem_map_of_mem hlink)⟩

theorem node_item (h : Synced engine items g g') (hitem : item ∈ items) :
    ∃ node, g'.nodes.get? (itemKey item.id) = some node := h.nodes.wrote _ (write_item hitem)

theorem node_link (h : Synced engine items g g') {link : MemoryLink} (hitem : item ∈ items)
    (hlink : link ∈ memoryLinks engine item) : ∃ node, g'.nodes.get? link.key = some node :=
  h.nodes.wrote _ (write_link hitem hlink)

theorem nodeId_eq (h : Synced engine items g g') {key : String × String} {node : GraphNode}
    (hnode : g.nodes.get? key = some node) : g'.nodeId key = g.nodeId key := by
  obtain ⟨node', hnode', hid⟩ := h.nodes.kept key node hnode
  rw [nodeId_of_get? hnode', nodeId_of_get? hnode, hid]

theorem nodeId_ne {other : MemoryItem} {node node' : GraphNode}
    (hnode : g.nodes.get? (itemKey item.id) = some node)
    (hnode' : g.nodes.get? (itemKey other.id) = some node') (hne : item.id ≠ other.id) :
    g.nodeId (itemKey item.id) ≠ g.nodeId (itemKey other.id) := by
  rw [nodeId_of_get? hnode, nodeId_of_get? hnode']
  intro hid
  exact hne (congrArg Prod.snd (key_of_nodeId hnode hnode' hid))

theorem reaches_iff (h : Synced engine items g g') (h' : Synced engine items' g' g'')
    (hitem : item ∈ items) {relation targetId : String} :
    Reaches engine item g'' relation targetId ↔ Reaches engine item g' relation targetId := by
  refine exists_congr fun link => and_congr_right fun hlink => and_congr_right fun _ => ?_
  obtain ⟨node, hnode⟩ := h.node_link hitem hlink
  rw [h'.nodeId_eq hnode]

theorem edge_eq (h : Synced engine items g g') (h' : Synced engine items' g' g'')
    (hdisjoint : ∀ other ∈ items', item.id ≠ other.id) (hitem : item ∈ items)
    (relation targetId : String) :
    g''.edges.get? (g''.nodeId (itemKey item.id), targetId, relation)
      = g'.edges.get? (g'.nodeId (itemKey item.id), targetId, relation) := by
  obtain ⟨node, hnode⟩ := h.node_item hitem
  have hid := h'.nodeId_eq hnode
  obtain ⟨later, hlater, -⟩ := h'.nodes.kept _ _ hnode
  rw [← hid]
  refine h'.others _ _ _ fun _ other hother => ?_
  obtain ⟨otherNode, hotherNode⟩ := h'.node_item hother
  exact (nodeId_ne hlater hotherNode (hdisjoint other hother)).symm

theorem trans (h : Synced engine items g g') (h' : Synced engine items' g' g'')
    (hdisjoint : ∀ item ∈ items, ∀ other ∈ items', item.id ≠ other.id) :
    Synced engine (items ++ items') g g'' where
  nodes := by
    rw [List.flatMap_append]
    exact (h.nodes.mono fun _ hid => hid.mono le_rfl h'.drawn).trans
      (h'.nodes.mono fun _ hid => hid.mono h.drawn le_rfl)
  drawn := h.drawn.trans h'.drawn
  linked item hitem relation hrelation targetId := by
    rcases List.mem_append.mp hitem with hfirst | hsecond
    · rw [h.edge_eq h' (hdisjoint item hfirst) hfirst, h.reaches_iff h' hfirst]
      exact h.linked item hfirst relation hrelation targetId
    · exact h'.linked item hsecond relation hrelation targetId
  told item hitem relation hrelation targetId edge hedge := by
    rcases List.mem_append.mp hitem with hfirst | hsecond
    · rw [h.edge_eq h' (hdisjoint item hfirst) hfirst] at hedge
      obtain ⟨hid, hsame⟩ := h.told item hfirst relation hrelation targetId edge hedge
      refine ⟨hid.mono le_rfl h'.drawn, fun link hlink hrel htarget => ?_⟩
      obtain ⟨node, hnode⟩ := h.node_link hfirst hlink
      rw [h'.nodeId_eq hnode] at htarget
      exact hsame link hlink hrel htarget
    · obtain ⟨hid, hsame⟩ := h'.told item hsecond relation hrelation targetId edge hedge
      exact ⟨hid.mono h.drawn le_rfl, hsame⟩
  others sourceId targetId relation hothers := by
    rw [h'.others sourceId targetId relation fun hrelation item hitem =>
      hothers hrelation item (List.mem_append_right _ hitem)]
    refine h.others sourceId targetId relation fun hrelation item hitem => ?_
    obtain ⟨node, hnode⟩ := h.node_item hitem
    rw [← h'.nodeId_eq hnode]
    exact hothers hrelation item (List.mem_append_left _ hitem)

end Synced

/-! ## One item -/

theorem get?_deleteEdges (g : GraphStore graphEngine) (sourceId : String) (relations : List String)
    (key : String × String × String) :
    (g.deleteEdges sourceId relations).edges.get? key
      = if key.1 = sourceId ∧ key.2.2 ∈ relations then none else g.edges.get? key := by
  refine (Table.get?_delete g.edges
    (fun edge => edge.sourceId = sourceId ∧ edge.relation ∈ relations) key).trans ?_
  cases hold : g.edges.get? key with
  | none => simp
  | some edge =>
      obtain ⟨-, rfl⟩ := Table.get?_eq_some_iff.mp hold
      show Option.filter _ (some edge)
        = if edge.sourceId = sourceId ∧ edge.relation ∈ relations then none else some edge
      by_cases hgone : edge.sourceId = sourceId ∧ edge.relation ∈ relations
      · rw [if_pos hgone, Option.filter_some_neg (by simpa using hgone)]
      · rw [if_neg hgone, Option.filter_some_pos (by rw [decide_eq_false hgone]; rfl)]

theorem synced_of_written {nodesDone : GraphStore graphEngine} {sourceId : String}
    (hnodes : NodesWritten (nodeWrites engine item) g nodesDone)
    (hsource : nodesDone.nodeId (itemKey item.id) = sourceId)
    (hedges : EdgesWritten
      (((memoryLinks engine item).map (linkEntry nodesDone)).map (entryWrite sourceId))
      (nodesDone.deleteEdges sourceId memoryGraphEdgeRelations) g') :
    Synced engine [item] g g' := by
  have hsameNodes : g'.nodes = nodesDone.nodes := hedges.nodes
  have hnodeId : ∀ key, g'.nodeId key = nodesDone.nodeId key := fun key => by
    unfold GraphStore.nodeId
    rw [hsameNodes]
  have hdrawn : nodesDone.drawn ≤ g'.drawn := hedges.drawn
  have hgone : ∀ targetId, ∀ relation ∈ memoryGraphEdgeRelations,
      (nodesDone.deleteEdges sourceId memoryGraphEdgeRelations).edges.get?
        (sourceId, targetId, relation) = none := fun targetId relation hrelation => by
    rw [get?_deleteEdges, if_pos ⟨rfl, hrelation⟩]
  have hwrites : ∀ w ∈ ((memoryLinks engine item).map (linkEntry nodesDone)).map
      (entryWrite sourceId), ∃ link ∈ memoryLinks engine item,
        w = ⟨(sourceId, g'.nodeId link.key, link.relation), link.edgeData⟩ := by
    intro w hw
    rw [List.map_map] at hw
    obtain ⟨link, hlink, rfl⟩ := List.mem_map.mp hw
    exact ⟨link, hlink, by rw [hnodeId]; rfl⟩
  have hwritten : ∀ link ∈ memoryLinks engine item,
      (⟨(sourceId, g'.nodeId link.key, link.relation), link.edgeData⟩
        : Write (String × String × String))
        ∈ ((memoryLinks engine item).map (linkEntry nodesDone)).map (entryWrite sourceId) := by
    intro link hlink
    rw [List.map_map, hnodeId]
    exact List.mem_map_of_mem hlink
  have hlinkNode : ∀ link ∈ memoryLinks engine item,
      ∃ node, g'.nodes.get? link.key = some node := by
    intro link hlink
    rw [hsameNodes]
    exact hnodes.nodes.wrote (linkWrite link) (List.mem_cons_of_mem _ (List.mem_map_of_mem hlink))
  constructor
  case nodes =>
    rw [List.flatMap_singleton, hsameNodes]
    exact hnodes.nodes.mono fun _ hid => hid.mono le_rfl hdrawn
  case drawn => exact hnodes.drawn.trans hdrawn
  case linked =>
    intro other hother relation hrelation targetId
    obtain rfl := List.mem_singleton.mp hother
    rw [hnodeId, hsource, hedges.edges.isSome_iff, hgone targetId relation hrelation]
    constructor
    · rintro (hsome | ⟨w, hw, hkey⟩)
      · cases hsome
      · obtain ⟨link, hlink, rfl⟩ := hwrites w hw
        simp only [Prod.mk.injEq, true_and] at hkey
        exact ⟨link, hlink, hkey.2, hkey.1⟩
    · rintro ⟨link, hlink, rfl, rfl⟩
      exact .inr ⟨_, hwritten link hlink, rfl⟩
  case told =>
    intro other hother relation hrelation targetId edge hedge
    obtain rfl := List.mem_singleton.mp hother
    rw [hnodeId, hsource] at hedge
    obtain ⟨-, hid⟩ := hedges.edges.made _ edge (hgone targetId relation hrelation) hedge
    refine ⟨hid.mono hnodes.drawn le_rfl, fun link hlink hrel htarget field => ?_⟩
    subst hrel htarget
    have hfield := hedges.edges.field (sourceId, g'.nodeId link.key, link.relation) field
    unfold Table.field at hfield
    rw [hedge, hgone _ _ hrelation, Option.bind_some, Option.bind_none] at hfield
    rw [hfield]
    -- two links that write this edge lead to one node by one relation
    have hagree : ∀ w ∈ ((memoryLinks engine other).map (linkEntry nodesDone)).map
        (entryWrite sourceId), w.key = (sourceId, g'.nodeId link.key, link.relation) →
          w.data = link.edgeData := by
      intro w hw hkey
      obtain ⟨link', hlink', rfl⟩ := hwrites w hw
      simp only [Prod.mk.injEq, true_and] at hkey
      obtain ⟨node, hnode⟩ := hlinkNode link hlink
      obtain ⟨node', hnode'⟩ := hlinkNode link' hlink'
      rw [nodeId_of_get? hnode, nodeId_of_get? hnode'] at hkey
      exact edgeData_of_link hlink' hlink hkey.2 (key_of_nodeId hnode' hnode hkey.1)
    cases hsaid : Dict.get link.edgeData field with
    | none =>
        exact fieldAfter_of_silent fun w hw hkey => by rw [hagree w hw hkey, hsaid]
    | some x =>
        exact fieldAfter_eq_some (fun w hw hkey => .inr (by rw [hagree w hw hkey, hsaid]))
          ⟨_, hwritten link hlink, rfl, hsaid⟩
  case others =>
    intro source targetId relation hothers
    have hother : relation ∈ memoryGraphEdgeRelations → sourceId ≠ source := fun hrelation => by
      rw [← hsource, ← hnodeId]
      exact hothers hrelation item (List.mem_singleton_self _)
    rw [hedges.edges.frame (source, targetId, relation), get?_deleteEdges, if_neg, hnodes.edges]
    · rintro ⟨hsame, hrelation⟩
      exact hother hrelation hsame.symm
    · intro w hw hkey
      obtain ⟨link, hlink, rfl⟩ := hwrites w hw
      simp only [Prod.mk.injEq] at hkey
      exact hother (hkey.2.2 ▸ relation_of_link hlink) hkey.1

theorem syncItem_spec (engine : LifecycleEngine) (item : MemoryItem)
    (g : GraphStore graphEngine) :
    ∃ synced g', syncItem engine item g = .ok (synced, g') ∧ Synced engine [item] g g' := by
  obtain ⟨hown, hid⟩ := upsert_spec g "MemoryItem" item.id (memoryGraphItemData item)
  obtain ⟨hlinks, hentries⟩ := upsertLinks_spec (memoryLinks engine item)
    (g.upsert "MemoryItem" item.id (memoryGraphItemData item)).2
  unfold syncItem
  dsimp only
  generalize g.upsert "MemoryItem" item.id (memoryGraphItemData item) = itemNode at *
  generalize upsertLinks (memoryLinks engine item) itemNode.2 = linked at *
  have hnodes : NodesWritten (nodeWrites engine item) g linked.2 := hown.trans hlinks
  obtain ⟨node, hnode⟩ := hown.nodes.wrote _ (List.mem_singleton_self _)
  have hsource : linked.2.nodeId (itemKey item.id) = itemNode.1.id :=
    (hlinks.nodeId_eq hnode).trans hid.symm
  have htrimmed : ∀ {key : String × String} {node : GraphNode},
      linked.2.nodes.get? key = some node → Trimmed (linked.2.nodeId key) := fun hnode => by
    rw [nodeId_of_get? hnode]
    exact linked.2.trimmed _ (Table.get?_eq_some_iff.mp hnode).1
  obtain ⟨later, hlater, -⟩ := hlinks.nodes.kept _ _ hnode
  have hsourceTrimmed : Trimmed itemNode.1.id := by
    rw [← hsource]
    exact htrimmed hlater
  have hentriesTrimmed : ∀ entry ∈ linked.1, Trimmed entry.1 ∧ Trimmed entry.2.1 := by
    intro entry hentry
    rw [hentries] at hentry
    obtain ⟨link, hlink, rfl⟩ := List.mem_map.mp hentry
    obtain ⟨target, htarget⟩ := hlinks.nodes.wrote _ (List.mem_map_of_mem hlink)
    exact ⟨htrimmed htarget, relations_trimmed _ (relation_of_link hlink)⟩
  obtain ⟨edges, g', hreplaced, hedges⟩ := upsertEdges_spec hsourceTrimmed hentriesTrimmed
    (linked.2.deleteEdges itemNode.1.id memoryGraphEdgeRelations)
  rw [hentries] at hedges
  refine ⟨⟨item.id, itemNode.1.id, edges⟩, g', ?_, synced_of_written hnodes hsource hedges⟩
  rw [GraphStore.replaceEdgesForSource, if_neg (by decide), hreplaced]
  rfl

theorem syncItems_spec (engine : LifecycleEngine) {items : List MemoryItem}
    (hnodup : (items.map (·.id)).Nodup) (g : GraphStore graphEngine) :
    ∃ synced g', syncItems engine items g = .ok (synced, g') ∧ Synced engine items g g' := by
  induction items generalizing g with
  | nil => exact ⟨[], g, rfl, Synced.refl engine g⟩
  | cons item items ih =>
      obtain ⟨hnot, hrest⟩ := List.nodup_cons.mp hnodup
      obtain ⟨first, g', hfirst, hsynced⟩ := syncItem_spec engine item g
      obtain ⟨rest, g'', hothers, hsynced'⟩ := ih hrest g'
      refine ⟨first :: rest, g'', ?_, ?_⟩
      · rw [syncItems, bind_of_eq_ok hfirst]
        exact (bind_of_eq_ok hothers).trans rfl
      · refine hsynced.trans hsynced' fun own hown other hother hsame => hnot ?_
        obtain rfl := List.mem_singleton.mp hown
        exact List.mem_map.mpr ⟨other, hother, hsame.symm⟩

end

end Navi.Memory
