import Mathlib
import Navi.Memory.GraphSync
import Navi.Memory.LifecycleTable

/-!
# The graph as a mirror of the store

A sync writes an item as itself and, where another item or its own metadata name it, as a
placeholder, and the later of the two stands. What a deletion leaves in the graph is not looked for.
-/

namespace Navi.Memory

open Navi.Base Navi.Graph
open Navi.Evolution (GraphNode)

section

variable {engine : LifecycleEngine} {graphEngine : GraphEngine} {s : MemoryTables} {limit : Int}
  {g g' g'' : GraphStore graphEngine} {item : MemoryItem} {items : List MemoryItem}

/-! ## What is claimed -/

/-- The items that the metadata name. -/
def named (engine : LifecycleEngine) (item : MemoryItem) : List String :=
  ["contradicts", "supersedes", "superseded_by"].flatMap fun relation =>
    metadataIdList engine (item.metadata.get relation)

/-- The type and the name of what an item is linked to by a relation. -/
def LinkedTo (engine : LifecycleEngine) (item : MemoryItem) (relation : String)
    (key : String × String) : Prop :=
  relation = "has_memory_type" ∧ key = ("MemoryType", item.type)
    ∨ relation = "has_memory_status" ∧ key = ("MemoryStatus", item.status)
    ∨ relation = "has_memory_scope" ∧ key = ("MemoryScope", item.scope)
    ∨ relation ∈ ["contradicts", "supersedes", "superseded_by"]
      ∧ key.1 = "MemoryItem" ∧ key.2 ∈ metadataIdList engine (item.metadata.get relation)

/-- Each stored item has one node, which says what the item says and is no placeholder, and edges
to what the item is linked to; a node without an item is a placeholder without edges. -/
structure Mirrors (engine : LifecycleEngine) (s : MemoryTables) (g : GraphStore graphEngine) :
    Prop where
  node : ∀ item ∈ s.items.rows, ∃! node, node ∈ g.nodes.rows ∧ nodeKey node = itemKey item.id
  current : ∀ item ∈ s.items.rows, ∀ node ∈ g.nodes.rows, nodeKey node = itemKey item.id →
    ∀ field v, (memoryGraphItemData item).get field = some v → node.data.get field = some v
  edges : ∀ item ∈ s.items.rows, ∀ node ∈ g.nodes.rows, nodeKey node = itemKey item.id →
    ∀ relation ∈ memoryGraphEdgeRelations, ∀ targetId,
      (∃ edge ∈ g.edges.rows, edgeKey edge = (node.id, targetId, relation))
        ↔ ∃ target ∈ g.nodes.rows, target.id = targetId
            ∧ LinkedTo engine item relation (nodeKey target)
  gone : ∀ node ∈ g.nodes.rows, node.type = "MemoryItem" → s.items.get? node.name = none →
    node.data.get "placeholder" = some (.bool true)
      ∧ ∀ edge ∈ g.edges.rows, edge.sourceId = node.id → edge.relation ∉ memoryGraphEdgeRelations

/-- The node is the same, but for its times. -/
def SameNode (node node' : GraphNode) : Prop :=
  node'.id = node.id ∧ SameFields node'.data node.data

/-- The edge says the same, but for its times and the id of its row. -/
def SameEdge (edge edge' : GraphEdge) : Prop := SameFields edge'.data edge.data

/-- The edge is the same, but for its times. -/
def SameEdgeRow (edge edge' : GraphEdge) : Prop :=
  edge'.id = edge.id ∧ SameFields edge'.data edge.data

/-- The graphs have the same nodes and the same edges. -/
structure SameGraph (sameEdge : GraphEdge → GraphEdge → Prop) (g g' : GraphStore graphEngine) :
    Prop where
  nodes : g.nodes.Related SameNode g'.nodes
  edges : g.edges.Related sameEdge g'.edges

/-- No item is named by its own metadata or by those of an item that is listed after it. -/
def NamedFirst (engine : LifecycleEngine) (items : List MemoryItem) : Prop :=
  (∀ item ∈ items, item.id ∉ named engine item)
    ∧ items.Pairwise fun item later => item.id ∉ named engine later

/-- A node of the graph whose item is not stored has no memory edges, and is a placeholder already
or named by an item. -/
def GoneUnlinked (engine : LifecycleEngine) (s : MemoryTables) (g : GraphStore graphEngine) :
    Prop :=
  ∀ node ∈ g.nodes.rows, node.type = "MemoryItem" → s.items.get? node.name = none →
    (∀ edge ∈ g.edges.rows, edge.sourceId = node.id → edge.relation ∉ memoryGraphEdgeRelations)
      ∧ (node.data.get "placeholder" = some (.bool true)
        ∨ ∃ item ∈ s.items.rows, node.name ∈ named engine item)

/-! ## Links -/

theorem linkedTo_iff {relation : String} {key : String × String} :
    LinkedTo engine item relation key
      ↔ ∃ link ∈ memoryLinks engine item, link.relation = relation ∧ link.key = key := by
  constructor
  · rintro (⟨rfl, rfl⟩ | ⟨rfl, rfl⟩ | ⟨rfl, rfl⟩ | ⟨hrelation, htype, hname⟩)
    · exact ⟨_, List.mem_append_left _ (List.mem_append_left _ (List.mem_append_left _
        List.mem_cons_self)), rfl, rfl⟩
    · exact ⟨_, List.mem_append_left _ (List.mem_append_left _ (List.mem_append_left _
        (List.mem_cons_of_mem _ List.mem_cons_self))), rfl, rfl⟩
    · exact ⟨_, List.mem_append_left _ (List.mem_append_left _ (List.mem_append_left _
        (List.mem_cons_of_mem _ (List.mem_cons_of_mem _ List.mem_cons_self)))), rfl, rfl⟩
    · obtain ⟨nodeType, targetId⟩ := key
      obtain rfl : nodeType = "MemoryItem" := htype
      have hlink : targetLink item relation targetId ∈ targetLinks engine item relation :=
        List.mem_map_of_mem hname
      refine ⟨targetLink item relation targetId, ?_, rfl, rfl⟩
      simp only [List.mem_cons, List.not_mem_nil, or_false] at hrelation
      rcases hrelation with rfl | rfl | rfl
      · exact List.mem_append_left _ (List.mem_append_left _ (List.mem_append_right _ hlink))
      · exact List.mem_append_left _ (List.mem_append_right _ hlink)
      · exact List.mem_append_right _ hlink
  · rintro ⟨link, hlink, rfl, rfl⟩
    rcases (mem_memoryLinks hlink).1 with hlinked | hlinked | hlinked | ⟨hrelation, hname, hkey, -⟩
    · exact .inl hlinked
    · exact .inr (.inl hlinked)
    · exact .inr (.inr (.inl hlinked))
    · exact .inr (.inr (.inr ⟨hrelation, congrArg Prod.fst hkey, hname⟩))

theorem of_nodeWrites {id : String} {w : Write (String × String)}
    (h : w ∈ nodeWrites engine item) (hkey : w.key = itemKey id) :
    item.id = id ∧ w.data = memoryGraphItemData item
      ∨ id ∈ named engine item ∧ w.data = memoryGraphPlaceholder id := by
  rcases List.mem_cons.mp h with rfl | h
  · exact .inl ⟨congrArg Prod.snd hkey, rfl⟩
  · obtain ⟨link, hlink, rfl⟩ := List.mem_map.mp h
    have hlinkKey : link.key = itemKey id := hkey
    rcases (mem_memoryLinks hlink).1 with ⟨-, hother⟩ | ⟨-, hother⟩ | ⟨-, hother⟩
      | ⟨hrelation, hname, -, hdata⟩
    · exact absurd (congrArg Prod.fst (hlinkKey.symm.trans hother)) (by simp [itemKey])
    · exact absurd (congrArg Prod.fst (hlinkKey.symm.trans hother)) (by simp [itemKey])
    · exact absurd (congrArg Prod.fst (hlinkKey.symm.trans hother)) (by simp [itemKey])
    · rw [hlinkKey] at hname hdata
      exact .inr ⟨List.mem_flatMap.mpr ⟨_, hrelation, hname⟩, hdata⟩

theorem write_of_named {id : String} (h : id ∈ named engine item) :
    ⟨itemKey id, memoryGraphPlaceholder id⟩ ∈ (memoryLinks engine item).map linkWrite := by
  obtain ⟨relation, hrelation, hname⟩ := List.mem_flatMap.mp h
  obtain ⟨link, hlink, hrel, hkey⟩ := linkedTo_iff.mp
    (.inr (.inr (.inr ⟨hrelation, rfl, hname⟩))
      : LinkedTo engine item relation (itemKey id))
  refine List.mem_map.mpr ⟨link, hlink, ?_⟩
  rcases (mem_memoryLinks hlink).1 with ⟨-, hother⟩ | ⟨-, hother⟩ | ⟨-, hother⟩ | ⟨-, -, -, hdata⟩
  · exact absurd (congrArg Prod.fst (hkey.symm.trans hother)) (by simp [itemKey])
  · exact absurd (congrArg Prod.fst (hkey.symm.trans hother)) (by simp [itemKey])
  · exact absurd (congrArg Prod.fst (hkey.symm.trans hother)) (by simp [itemKey])
  · unfold linkWrite
    rw [hdata, hkey]
    rfl

/-! ## What a node says in the end -/

theorem placeholder_agrees {field : String} {v : Json} (hne : field ≠ "placeholder")
    (h : (memoryGraphItemData item).get field = some v) :
    (memoryGraphPlaceholder item.id).get field = none
      ∨ (memoryGraphPlaceholder item.id).get field = some v := by
  unfold memoryGraphPlaceholder
  rw [Dict.get_cons, Dict.get_cons, Dict.get_nil, if_neg (Ne.symm hne)]
  by_cases hid : "memory_id" = field
  · subst hid
    rw [if_pos rfl]
    exact .inr h
  · rw [if_neg hid]
    exact .inl rfl

theorem field_of_item (hnodup : (items.map (·.id)).Nodup) (hitem : item ∈ items) {field : String}
    {v : Json} (hne : field ≠ "placeholder")
    (h : (memoryGraphItemData item).get field = some v) (was : Option Json) :
    fieldAfter (itemKey item.id) field (items.flatMap (nodeWrites engine)) was = some v := by
  refine fieldAfter_eq_some (fun w hw hkey => ?_) ⟨_, Synced.write_item hitem, rfl, h⟩
  obtain ⟨other, hother, hw⟩ := List.mem_flatMap.mp hw
  rcases of_nodeWrites hw hkey with ⟨hid, hdata⟩ | ⟨-, hdata⟩
  · obtain rfl := List.inj_on_of_nodup_map hnodup hother hitem hid
    exact .inr (by rw [hdata, h])
  · rw [hdata]
    exact placeholder_agrees hne h

theorem placeholder_iff {before after : List MemoryItem}
    (hnodup : ((before ++ item :: after).map (·.id)).Nodup) (was : Option Json) :
    fieldAfter (itemKey item.id) "placeholder"
        ((before ++ item :: after).flatMap (nodeWrites engine)) was = some (.bool false)
      ↔ ∀ later ∈ item :: after, item.id ∉ named engine later := by
  have hothers : ∀ later ∈ after, later.id ≠ item.id := by
    rw [List.map_append, List.map_cons] at hnodup
    have hnot := (List.nodup_cons.mp (List.nodup_append.mp hnodup).2.1).1
    exact fun later hlater hid => hnot (List.mem_map.mpr ⟨later, hlater, hid⟩)
  have hplaced : ∀ w ∈ (memoryLinks engine item).map linkWrite
      ++ after.flatMap (nodeWrites engine), w.key = itemKey item.id →
        w.data = memoryGraphPlaceholder item.id
          ∧ ∃ later ∈ item :: after, item.id ∈ named engine later := by
    intro w hw hkey
    rcases List.mem_append.mp hw with hown | hlater
    · rcases of_nodeWrites (List.mem_cons_of_mem _ hown) hkey with ⟨-, hdata⟩ | ⟨hnamed, hdata⟩
      · -- a link of the item that is its own node is one by its name
        obtain ⟨link, hlink, rfl⟩ := List.mem_map.mp hown
        have hlinkKey : link.key = itemKey item.id := hkey
        rcases (mem_memoryLinks hlink).1 with ⟨-, hother⟩ | ⟨-, hother⟩ | ⟨-, hother⟩
          | ⟨hrelation, hname, -, hplace⟩
        · exact absurd (congrArg Prod.fst (hlinkKey.symm.trans hother)) (by simp [itemKey])
        · exact absurd (congrArg Prod.fst (hlinkKey.symm.trans hother)) (by simp [itemKey])
        · exact absurd (congrArg Prod.fst (hlinkKey.symm.trans hother)) (by simp [itemKey])
        · rw [hlinkKey] at hname hplace
          exact ⟨hplace, item, List.mem_cons_self,
            List.mem_flatMap.mpr ⟨_, hrelation, hname⟩⟩
      · exact ⟨hdata, item, List.mem_cons_self, hnamed⟩
    · obtain ⟨later, hmem, hw⟩ := List.mem_flatMap.mp hlater
      rcases of_nodeWrites hw hkey with ⟨hid, -⟩ | ⟨hnamed, hdata⟩
      · exact absurd hid (hothers later hmem)
      · exact ⟨hdata, later, List.mem_cons_of_mem _ hmem, hnamed⟩
  have hsplit : (before ++ item :: after).flatMap (nodeWrites engine)
      = before.flatMap (nodeWrites engine) ++ (⟨itemKey item.id, memoryGraphItemData item⟩
        :: ((memoryLinks engine item).map linkWrite ++ after.flatMap (nodeWrites engine))) := by
    rw [List.flatMap_append, List.flatMap_cons]
    rfl
  have hown : ∀ v, (if itemKey item.id = itemKey item.id then
      ((memoryGraphItemData item).get "placeholder").or v else v) = some (.bool false) :=
    fun v => if_pos rfl
  rw [hsplit, fieldAfter_append, fieldAfter, hown]
  constructor
  · intro hfalse later hlater hnamed
    have htrue : fieldAfter (itemKey item.id) "placeholder"
        ((memoryLinks engine item).map linkWrite ++ after.flatMap (nodeWrites engine))
        (some (.bool false)) = some (.bool true) := by
      refine fieldAfter_eq_some (fun w hw hkey => ?_)
        ⟨⟨itemKey item.id, memoryGraphPlaceholder item.id⟩, ?_, rfl, rfl⟩
      · rw [(hplaced w hw hkey).1]
        exact .inr rfl
      · rcases List.mem_cons.mp hlater with rfl | hlater
        · exact List.mem_append_left _ (write_of_named hnamed)
        · exact List.mem_append_right _ (List.mem_flatMap.mpr
            ⟨later, hlater, List.mem_cons_of_mem _ (write_of_named hnamed)⟩)
    rw [htrue] at hfalse
    cases hfalse
  · intro hnone
    refine fieldAfter_of_unwritten fun w hw hkey => ?_
    obtain ⟨-, later, hlater, hnamed⟩ := hplaced w hw hkey
    exact hnone later hlater hnamed

theorem placeholder_of_gone {id : String} (hgone : ∀ item ∈ items, item.id ≠ id)
    (was : Option Json) :
    fieldAfter (itemKey id) "placeholder" (items.flatMap (nodeWrites engine)) was
        = some (.bool true)
      ↔ was = some (.bool true) ∨ ∃ item ∈ items, id ∈ named engine item := by
  have hplaced : ∀ w ∈ items.flatMap (nodeWrites engine), w.key = itemKey id →
      w.data = memoryGraphPlaceholder id ∧ ∃ item ∈ items, id ∈ named engine item := by
    intro w hw hkey
    obtain ⟨item, hitem, hw⟩ := List.mem_flatMap.mp hw
    rcases of_nodeWrites hw hkey with ⟨hid, -⟩ | ⟨hnamed, hdata⟩
    · exact absurd hid (hgone item hitem)
    · exact ⟨hdata, item, hitem, hnamed⟩
  by_cases hnamed : ∃ item ∈ items, id ∈ named engine item
  · refine iff_of_true (fieldAfter_eq_some (fun w hw hkey => ?_) ?_) (.inr hnamed)
    · rw [(hplaced w hw hkey).1]
      exact .inr rfl
    · obtain ⟨item, hitem, hname⟩ := hnamed
      exact ⟨⟨itemKey id, memoryGraphPlaceholder id⟩, List.mem_flatMap.mpr
        ⟨item, hitem, List.mem_cons_of_mem _ (write_of_named hname)⟩, rfl, rfl⟩
  · rw [fieldAfter_of_unwritten fun w hw hkey => hnamed (hplaced w hw hkey).2]
    exact (or_iff_left hnamed).symm

theorem namedFirst_iff :
    NamedFirst engine items ↔ ∀ before item after, items = before ++ item :: after →
      ∀ later ∈ item :: after, item.id ∉ named engine later := by
  constructor
  · rintro ⟨hself, hpairs⟩ before item after rfl later hlater
    rcases List.mem_cons.mp hlater with rfl | hlater
    · exact hself later (List.mem_append_right _ List.mem_cons_self)
    · exact (List.pairwise_cons.mp (List.pairwise_append.mp hpairs).2.1).1 later hlater
  · intro h
    induction items with
    | nil => exact ⟨List.forall_mem_nil _, List.Pairwise.nil⟩
    | cons item items ih =>
        have hfirst := h [] item items rfl
        obtain ⟨hself, hpairs⟩ := ih fun before other after hsplit =>
          h (item :: before) other after (congrArg (item :: ·) hsplit)
        exact ⟨List.forall_mem_cons.mpr ⟨hfirst item List.mem_cons_self, hself⟩,
          List.pairwise_cons.mpr ⟨fun later hlater =>
            hfirst later (List.mem_cons_of_mem _ hlater), hpairs⟩⟩

/-! ## One sync -/

theorem mem_rows_iff {node : GraphNode} {key : String × String} :
    node ∈ g.nodes.rows ∧ nodeKey node = key ↔ g.nodes.get? key = some node :=
  Table.get?_eq_some_iff.symm

theorem field_of_synced (h : Synced engine items g g') {key : String × String} {node : GraphNode}
    (hnode : g'.nodes.get? key = some node) (field : String) :
    node.data.get field = fieldAfter key field (items.flatMap (nodeWrites engine))
      (g.nodes.field GraphNode.data key field) := by
  have hfield := h.nodes.field key field
  unfold Table.field at hfield ⊢
  rw [hnode] at hfield
  exact hfield

theorem reaches_linked_iff (h : Synced engine items g g') (hitem : item ∈ items)
    {relation targetId : String} :
    Reaches engine item g' relation targetId
      ↔ ∃ target ∈ g'.nodes.rows, target.id = targetId
          ∧ LinkedTo engine item relation (nodeKey target) := by
  constructor
  · rintro ⟨link, hlink, hrelation, rfl⟩
    obtain ⟨target, htarget⟩ := h.node_link hitem hlink
    obtain ⟨hmem, hkey⟩ := mem_rows_iff.mpr htarget
    exact ⟨target, hmem, (nodeId_of_get? htarget).symm,
      linkedTo_iff.mpr ⟨link, hlink, hrelation, hkey.symm⟩⟩
  · rintro ⟨target, hmem, rfl, hlinked⟩
    obtain ⟨link, hlink, hrelation, hkey⟩ := linkedTo_iff.mp hlinked
    exact ⟨link, hlink, hrelation, nodeId_of_get? (mem_rows_iff.mp ⟨hmem, hkey.symm⟩)⟩

theorem edges_of_gone (h : Synced engine items g g') {node : GraphNode} {name : String}
    (hnode : g'.nodes.get? (itemKey name) = some node) (hgone : ∀ item ∈ items, item.id ≠ name)
    (targetId relation : String) :
    g'.edges.get? (node.id, targetId, relation) = g.edges.get? (node.id, targetId, relation) := by
  refine h.others _ _ _ fun _ item hitem => ?_
  obtain ⟨own, hown⟩ := h.node_item hitem
  rw [nodeId_of_get? hown]
  exact fun hid => hgone item hitem (congrArg Prod.snd (key_of_nodeId hown hnode hid))

/-- No edge starts at an id that is not drawn yet. -/
def SourcesDrawn (g : GraphStore graphEngine) : Prop :=
  ∀ edge ∈ g.edges.rows, ∀ m, g.drawn ≤ m → edge.sourceId ≠ graphEngine.uuid m

theorem unlinked_iff {id : String} :
    (∀ edge ∈ g.edges.rows, edge.sourceId = id → edge.relation ∉ memoryGraphEdgeRelations)
      ↔ ∀ targetId, ∀ relation ∈ memoryGraphEdgeRelations,
          g.edges.get? (id, targetId, relation) = none := by
  constructor
  · intro h targetId relation hrelation
    cases hedge : g.edges.get? (id, targetId, relation) with
    | none => rfl
    | some edge =>
        obtain ⟨hmem, hkey⟩ := Table.get?_eq_some_iff.mp hedge
        simp only [edgeKey, Prod.mk.injEq] at hkey
        exact absurd (hkey.2.2 ▸ hrelation) (h edge hmem hkey.1)
  · rintro h edge hmem rfl hrelation
    have hnone := h edge.targetId edge.relation hrelation
    rw [show g.edges.get? (edge.sourceId, edge.targetId, edge.relation) = some edge from
      Table.get?_of_mem hmem] at hnone
    cases hnone

/-- After a sync the graph mirrors the store exactly if no item is named again after its turn, and
nothing is left of what is gone. -/
theorem mirrors_iff (hperm : items.Perm s.items.rows) (h : Synced engine items g g')
    (hsources : SourcesDrawn g) :
    Mirrors engine s g' ↔ NamedFirst engine items ∧ GoneUnlinked engine s g := by
  have hnodup : (items.map (·.id)).Nodup := (hperm.map _).nodup_iff.mpr s.items.nodup
  have hmem : ∀ {item}, item ∈ items ↔ item ∈ s.items.rows := hperm.mem_iff
  have hgone : ∀ {name}, s.items.get? name = none → ∀ item ∈ items, item.id ≠ name := by
    rintro name hnone item hitem rfl
    rw [Table.get?_of_mem (hmem.mp hitem)] at hnone
    cases hnone
  constructor
  · intro hmirror
    refine ⟨namedFirst_iff.mpr fun before item after hsplit => ?_, fun node hnode htype hnone => ?_⟩
    · subst hsplit
      have hitem : item ∈ before ++ item :: after :=
        List.mem_append_right _ List.mem_cons_self
      obtain ⟨node, hnode⟩ := h.node_item hitem
      obtain ⟨hrow, hkey⟩ := mem_rows_iff.mpr hnode
      have hplaced := hmirror.current item (hmem.mp hitem) node hrow hkey "placeholder"
        (.bool false) rfl
      rw [field_of_synced h hnode] at hplaced
      exact (placeholder_iff hnodup _).mp hplaced
    · -- the node is there after the sync, with the edges that it had
      have hget : g.nodes.get? (itemKey node.name) = some node :=
        mem_rows_iff.mp ⟨hnode, by rw [nodeKey, htype]; rfl⟩
      obtain ⟨later, hlater, hid⟩ := h.nodes.kept _ node hget
      obtain ⟨hrow, hkey⟩ := mem_rows_iff.mpr hlater
      have hname : later.name = node.name := congrArg Prod.snd hkey
      obtain ⟨hplaced, hunlinked⟩ :=
        hmirror.gone later hrow (congrArg Prod.fst hkey) (by rw [hname, hnone])
      refine ⟨unlinked_iff.mpr fun targetId relation hrelation => ?_, ?_⟩
      · have hedge := edges_of_gone h hlater (hgone hnone) targetId relation
        rw [unlinked_iff.mp hunlinked targetId relation hrelation, hid] at hedge
        exact hedge.symm
      · rw [field_of_synced h hlater, placeholder_of_gone (hgone hnone)] at hplaced
        refine hplaced.imp (fun hwas => ?_) fun ⟨item, hitem, hnamed⟩ =>
          ⟨item, hmem.mp hitem, hnamed⟩
        unfold Table.field at hwas
        rw [hget] at hwas
        exact hwas
  · rintro ⟨hfirst, hclean⟩
    constructor
    case node =>
      intro item hitem
      obtain ⟨node, hnode⟩ := h.node_item (hmem.mpr hitem)
      refine ⟨node, mem_rows_iff.mpr hnode, fun other hother => ?_⟩
      exact Option.some.inj ((mem_rows_iff.mp hother).symm.trans hnode)
    case current =>
      intro item hitem node hnode hkey field v hv
      rw [field_of_synced h (mem_rows_iff.mp ⟨hnode, hkey⟩)]
      by_cases hplaceholder : field = "placeholder"
      · subst hplaceholder
        obtain rfl : Json.bool false = v := Option.some.inj hv
        obtain ⟨before, after, hsplit⟩ := List.append_of_mem (hmem.mpr hitem)
        subst hsplit
        exact (placeholder_iff hnodup _).mpr (namedFirst_iff.mp hfirst before item after rfl)
      · exact field_of_item hnodup (hmem.mpr hitem) hplaceholder hv _
    case edges =>
      intro item hitem node hnode hkey relation hrelation targetId
      have hid := nodeId_of_get? (mem_rows_iff.mp ⟨hnode, hkey⟩)
      rw [← reaches_linked_iff h (hmem.mpr hitem),
        ← h.linked item (hmem.mpr hitem) relation hrelation targetId, hid,
        Option.isSome_iff_exists]
      exact exists_congr fun edge => Table.get?_eq_some_iff.symm
    case gone =>
      intro node hnode htype hnone
      have hget : g'.nodes.get? (itemKey node.name) = some node :=
        mem_rows_iff.mp ⟨hnode, by rw [nodeKey, htype]; rfl⟩
      rw [field_of_synced h hget, placeholder_of_gone (hgone hnone), unlinked_iff]
      cases hold : g.nodes.get? (itemKey node.name) with
      | some old =>
          obtain ⟨hrow, hkey⟩ := mem_rows_iff.mpr hold
          have hname : old.name = node.name := congrArg Prod.snd hkey
          have hid := h.nodes.id_eq hold hget
          obtain ⟨hunlinked, hplaced⟩ :=
            hclean old hrow (congrArg Prod.fst hkey) (by rw [hname, hnone])
          refine ⟨?_, fun targetId relation hrelation => ?_⟩
          · unfold Table.field
            rw [hold, hname] at *
            exact hplaced.imp_right fun ⟨item, hitem, hnamed⟩ => ⟨item, hmem.mpr hitem, hnamed⟩
          · rw [edges_of_gone h hget (hgone hnone), hid]
            exact unlinked_iff.mp hunlinked targetId relation hrelation
      | none =>
          -- the node was made for a name, with an id that no edge has seen
          obtain ⟨⟨w, hw, hkey⟩, m, hdrawn, -, hid⟩ := h.nodes.made _ node hold hget
          refine ⟨.inr ?_, fun targetId relation hrelation => ?_⟩
          · obtain ⟨item, hitem, hw⟩ := List.mem_flatMap.mp hw
            rcases of_nodeWrites hw hkey with ⟨hsame, -⟩ | ⟨hnamed, -⟩
            · exact absurd hsame (hgone hnone item hitem)
            · exact ⟨item, hitem, hnamed⟩
          · rw [edges_of_gone h hget (hgone hnone)]
            refine unlinked_iff.mp (fun edge hedge hsource => ?_) targetId relation hrelation
            exact absurd (hsource.trans hid) (hsources edge hedge m hdrawn)

/-! ## The second sync -/

theorem node_of_synced (h : Synced engine items g g') {key : String × String}
    (hnone : g'.nodes.get? key = none) : ∀ w ∈ items.flatMap (nodeWrites engine), w.key ≠ key := by
  rintro w hw rfl
  obtain ⟨node, hnode⟩ := h.nodes.wrote w hw
  rw [hnode] at hnone
  cases hnone

theorem related_nodes (h : Synced engine items g g') (h' : Synced engine items g' g'') :
    g'.nodes.Related SameNode g''.nodes := by
  intro key
  cases hnode : g'.nodes.get? key with
  | none =>
      rw [h'.nodes.frame key (node_of_synced h hnode), hnode]
      exact .none
  | some node =>
      obtain ⟨later, hlater, hid⟩ := h'.nodes.kept key node hnode
      rw [hlater]
      refine .some ⟨hid, fun field => ?_⟩
      have hwas : g'.nodes.field GraphNode.data key field = node.data.get field := by
        unfold Table.field
        rw [hnode]
        rfl
      rw [field_of_synced h' hlater, hwas, field_of_synced h hnode, fieldAfter_fieldAfter]

theorem edges_again (h : Synced engine items g g') (h' : Synced engine items g' g'')
    (key : String × String × String) :
    g''.edges.get? key = g'.edges.get? key
      ∨ ∃ edge edge', g'.edges.get? key = some edge ∧ g''.edges.get? key = some edge'
          ∧ SameFields edge'.data edge.data ∧ edge'.id ≠ edge.id := by
  obtain ⟨sourceId, targetId, relation⟩ := key
  by_cases hown : relation ∈ memoryGraphEdgeRelations ∧ ∃ item ∈ items,
      g''.nodeId (itemKey item.id) = sourceId
  · obtain ⟨hrelation, item, hitem, rfl⟩ := hown
    obtain ⟨node, hnode⟩ := h.node_item hitem
    have hid := h'.nodeId_eq hnode
    have hlinked := h.linked item hitem relation hrelation targetId
    have hlinked' := h'.linked item hitem relation hrelation targetId
    rw [h.reaches_iff h' hitem, ← hlinked, ← hid] at hlinked'
    rw [← hid] at hlinked
    cases hedge : g'.edges.get? (g''.nodeId (itemKey item.id), targetId, relation) with
    | none =>
        rw [hedge] at hlinked'
        exact .inl (Option.not_isSome_iff_eq_none.mp fun hsome => nomatch hlinked'.mp hsome)
    | some edge =>
        obtain ⟨edge', hedge'⟩ :=
          Option.isSome_iff_exists.mp (hlinked'.mpr (by rw [hedge]; rfl))
        obtain ⟨link, hlink, hrel, htarget⟩ := hlinked.mp (by rw [hedge]; rfl)
        obtain ⟨target, htargetNode⟩ := h.node_link hitem hlink
        obtain ⟨⟨m, -, hbefore, hdrawn⟩, hsame⟩ :=
          h.told item hitem relation hrelation targetId edge (hid ▸ hedge)
        obtain ⟨⟨m', hafter, -, hdrawn'⟩, hsame'⟩ :=
          h'.told item hitem relation hrelation targetId edge' hedge'
        refine .inr ⟨edge, edge', rfl, hedge', fun field => ?_, fun hids => ?_⟩
        · rw [hsame' link hlink hrel (by rw [h'.nodeId_eq htargetNode, htarget]) field,
            hsame link hlink hrel htarget field]
        · have hcounts := graphEngine.uuid_injective (hdrawn'.symm.trans (hids.trans hdrawn))
          omega
  · refine .inl (h'.others _ _ _ fun hrelation item hitem hid => ?_)
    exact hown ⟨hrelation, item, hitem, hid⟩

theorem sameGraph_again (h : Synced engine items g g') (h' : Synced engine items g' g'') :
    SameGraph SameEdge g' g'' := by
  refine ⟨related_nodes h h', fun key => ?_⟩
  rcases edges_again h h' key with hsame | ⟨edge, edge', hedge, hedge', hsame, -⟩
  · rw [hsame]
    exact Table.Related.refl (fun _ _ => rfl) g'.edges key
  · rw [hedge, hedge']
    exact .some hsame

theorem sameRows_iff (h : Synced engine items g g') (h' : Synced engine items g' g'') :
    SameGraph SameEdgeRow g' g'' ↔ items = [] := by
  constructor
  · intro hrows
    rcases items with _ | ⟨item, rest⟩
    · rfl
    · -- the edge of the first item to its type
      have hitem : item ∈ item :: rest := List.mem_cons_self
      have hlink : LinkedTo engine item "has_memory_type" ("MemoryType", item.type) :=
        .inl ⟨rfl, rfl⟩
      obtain ⟨link, hlink, hrelation, -⟩ := linkedTo_iff.mp hlink
      have hrel : "has_memory_type" ∈ memoryGraphEdgeRelations := by decide
      obtain ⟨edge, hedge⟩ := Option.isSome_iff_exists.mp
        ((h.linked item hitem _ hrel _).mpr ⟨link, hlink, hrelation, rfl⟩)
      obtain ⟨node, hnode⟩ := h.node_item hitem
      obtain ⟨edge', hedge', hid, -⟩ := hrows.edges.after hedge
      obtain ⟨⟨m, -, hbefore, hdrawn⟩, -⟩ := h.told item hitem _ hrel _ edge hedge
      rw [← h'.nodeId_eq hnode] at hedge'
      obtain ⟨⟨m', hafter, -, hdrawn'⟩, -⟩ := h'.told item hitem _ hrel _ edge' hedge'
      have hcounts := graphEngine.uuid_injective (hdrawn'.symm.trans (hid.trans hdrawn))
      omega
  · rintro rfl
    refine ⟨related_nodes h h', fun key => ?_⟩
    obtain ⟨sourceId, targetId, relation⟩ := key
    rw [h'.others sourceId targetId relation fun _ _ hitem => nomatch hitem]
    exact Table.Related.refl (fun _ => ⟨rfl, fun _ => rfl⟩) g'.edges _

/-! ## What is listed -/

theorem getItems_perm (engine : ListingEngine) {s : MemoryTables} {limit : Int}
    (hlimit : s.items.rows.length ≤ limit) :
    (getItems engine s none none none limit).Perm s.items.rows := by
  have hall : s.items.rows.filter (MemoryItem.listed none none none) = s.items.rows :=
    List.filter_eq_self.mpr fun _ _ => rfl
  have hperm := engine.latestFirst_perm s.items.rows
  unfold getItems listing sqlLimit
  rw [if_neg (by decide), hall, if_neg (by omega), List.take_of_length_le]
  · exact hperm
  · rw [hperm.length_eq]
    omega

/-- Two syncs go through. After the first the graph mirrors the store, and the second changes
nothing but times and the ids of the edge rows, exactly if no item is named by itself or by one
that is listed after it and nothing is left in the graph of items that are gone. The ids of the
edge rows stay exactly if there is no item. -/
theorem graph_mirrors_iff (engine : LifecycleEngine) (s : MemoryTables) (limit : Int)
    (hlimit : s.items.rows.length ≤ limit) (g : GraphStore graphEngine)
    (hsources : SourcesDrawn g) :
    ∃ facts g' facts' g'', syncSemanticGraph engine s limit g = .ok (facts, g')
      ∧ syncSemanticGraph engine s limit g' = .ok (facts', g'')
      ∧ (Mirrors engine s g' ∧ SameGraph SameEdge g' g''
          ↔ NamedFirst engine (getItems engine.toListingEngine s none none none limit)
            ∧ GoneUnlinked engine s g)
      ∧ (Mirrors engine s g' ∧ SameGraph SameEdgeRow g' g''
          ↔ s.items.rows = [] ∧ GoneUnlinked engine s g) := by
  have hperm := getItems_perm engine.toListingEngine hlimit
  have hnodup : ((getItems engine.toListingEngine s none none none limit).map (·.id)).Nodup :=
    (hperm.map _).nodup_iff.mpr s.items.nodup
  obtain ⟨synced, g', hfirst, h⟩ := syncItems_spec engine hnodup g
  obtain ⟨synced', g'', hsecond, h'⟩ := syncItems_spec engine hnodup g'
  have hmirrors := mirrors_iff hperm h hsources
  have hempty : getItems engine.toListingEngine s none none none limit = [] ↔ s.items.rows = [] :=
    ⟨fun hnil => List.perm_nil.mp (hnil ▸ hperm.symm),
      fun hnil => List.perm_nil.mp (hnil ▸ hperm)⟩
  refine ⟨_, g', _, g'', map_eq_ok.mpr ⟨_, hfirst, rfl⟩, map_eq_ok.mpr ⟨_, hsecond, rfl⟩, ?_, ?_⟩
  · rw [and_iff_left (sameGraph_again h h')]
    exact hmirrors
  · rw [sameRows_iff h h', hmirrors, hempty]
    constructor
    · rintro ⟨⟨-, hclean⟩, hnil⟩
      exact ⟨hnil, hclean⟩
    · rintro ⟨hnil, hclean⟩
      refine ⟨⟨?_, hclean⟩, hnil⟩
      rw [hempty.mpr hnil]
      exact ⟨List.forall_mem_nil _, List.Pairwise.nil⟩

end

/-! ## Two facts that contradict each other -/

theorem strip_replicate (n : Nat) :
    strip (String.ofList (List.replicate (n + 1) 'u')) = String.ofList (List.replicate (n + 1) 'u')
      ∧ String.ofList (List.replicate (n + 1) 'u') ≠ "" := by
  constructor
  · refine strip_eq_self fun c hc => ?_
    rw [List.eq_of_mem_replicate hc]
    rfl
  · intro hempty
    have hlist := congrArg String.toList hempty
    rw [String.toList_ofList] at hlist
    cases hlist

theorem replicate_injective :
    Function.Injective fun n : Nat => String.ofList (List.replicate (n + 1) 'u') := by
  intro n m h
  have hlength := congrArg (fun s => s.toList.length) h
  simpa using hlength

/-- Ids that grow, and a clock that stands. -/
def growingIds : GraphEngine where
  uuid n := String.ofList (List.replicate (n + 1) 'u')
  uuid_injective := replicate_injective
  uuid_trimmed := strip_replicate
  clock _ := 0

/-- A graph that nothing was synced to. -/
def emptyGraph : GraphStore growingIds where
  nodes := .empty
  edges := .empty
  drawn := 0
  ticks := 0
  nodeIds := Table.uniqueOn_empty
  edgeIds := Table.uniqueOn_empty
  trimmed _ h := nomatch h
  undrawnNodes _ h := nomatch h
  undrawnEdges _ h := nomatch h

/-- Two facts about a port, the later of which is marked as replacing the other. -/
def replacedPort : MemoryTables where
  items := ⟨[portFact "old" "server runs on port 8080" 1,
    { portFact "new" "server runs on port 9090" 2 with
      metadata := [("contradicts", .arr [.str "old"])] }], by decide⟩
  parameters := .empty
  stored := by decide +kernel

/-- Their graph mirrors them, with the link. -/
theorem replacedPort_mirrored : ∃ facts g' facts' g'',
    syncSemanticGraph permittingLifecycle replacedPort 1000 emptyGraph = .ok (facts, g')
      ∧ syncSemanticGraph permittingLifecycle replacedPort 1000 g' = .ok (facts', g'')
      ∧ Mirrors permittingLifecycle replacedPort g' ∧ SameGraph SameEdge g' g'' := by
  obtain ⟨facts, g', facts', g'', hfirst, hsecond, hiff, -⟩ :=
    graph_mirrors_iff permittingLifecycle replacedPort 1000 (by decide) emptyGraph
      (List.forall_mem_nil _)
  refine ⟨facts, g', facts', g'', hfirst, hsecond, hiff.mpr ⟨?_, List.forall_mem_nil _⟩⟩
  unfold NamedFirst
  decide +kernel

/-- Two facts about a port, each marked as contradicting the other. -/
def contradictingPorts : MemoryTables where
  items := ⟨[{ portFact "old" "server runs on port 8080" 1 with
      metadata := [("contradicts", .arr [.str "new"])] },
    { portFact "new" "server runs on port 9090" 2 with
      metadata := [("contradicts", .arr [.str "old"])] }], by decide⟩
  parameters := .empty
  stored := by decide +kernel

/-- The fact that is listed first is a placeholder in the graph. -/
theorem contradictingPorts_mirrored_not :
    (¬ ∃ facts g', syncSemanticGraph permittingLifecycle contradictingPorts 1000 emptyGraph
        = .ok (facts, g') ∧ Mirrors permittingLifecycle contradictingPorts g')
      ∧ (syncSemanticGraph permittingLifecycle contradictingPorts 1000 emptyGraph).toOption.map
          (fun synced => [synced.2.nodes.field (·.data) (itemKey "new") "placeholder",
            synced.2.nodes.field (·.data) (itemKey "old") "placeholder"])
        = some [some (.bool true), some (.bool false)] := by
  refine ⟨?_, by decide +kernel⟩
  rintro ⟨facts, g', hsync, hmirrors⟩
  have hperm := getItems_perm permittingLifecycle.toListingEngine
    (show (contradictingPorts.items.rows.length : Int) ≤ 1000 by decide)
  have hnodup : ((getItems permittingLifecycle.toListingEngine contradictingPorts none none none
      1000).map (·.id)).Nodup := (hperm.map _).nodup_iff.mpr contradictingPorts.items.nodup
  obtain ⟨synced, after, hitems, h⟩ := syncItems_spec permittingLifecycle hnodup emptyGraph
  unfold syncSemanticGraph at hsync
  obtain ⟨⟨_, _⟩, hfound, hafter⟩ := map_eq_ok.mp hsync
  obtain ⟨rfl, rfl⟩ := Prod.mk.inj (Except.ok.inj (hitems.symm.trans hfound))
  obtain rfl := (Prod.mk.inj hafter).2
  have hfirst := ((mirrors_iff hperm h (List.forall_mem_nil _)).mp hmirrors).1
  revert hfirst
  unfold NamedFirst
  decide +kernel

end Navi.Memory
