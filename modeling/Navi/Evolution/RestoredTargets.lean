import Mathlib
import Navi.Evolution.RollbackLaws
import Navi.Evolution.RollbackOrder

/-!
# Rollbacks of the adapters

What an adapter restores does not depend on what the target holds when it is rolled back. The
adapters as targets whose applies and rollbacks come in any order.
-/

namespace Navi.Evolution

open Navi.Base Navi.Base.Json Navi.Memory

section

variable {env : TargetRuntime} {first home home' left : Home}
  {targetId before after recorded : String} {now later : Time}

/-! ## Targets that are the same -/

theorem SameItem.refl (item : MemoryItem) : SameItem item item := ⟨rfl, rfl⟩

theorem SameItem.symm {item item' : MemoryItem} (h : SameItem item item') :
    SameItem item' item := by
  refine ⟨?_, h.2.symm⟩
  rw [← h.1]

theorem SameItem.trans {item item' item'' : MemoryItem} (h : SameItem item item')
    (h' : SameItem item' item'') : SameItem item item'' := by
  refine ⟨?_, h'.2.trans h.2⟩
  obtain ⟨hitem, -⟩ := h
  obtain ⟨hitem', -⟩ := h'
  rw [← hitem'] at hitem
  exact hitem

theorem SameParameter.refl (row : Parameter) : SameParameter row row := ⟨rfl, rfl, rfl⟩

theorem SameParameter.symm {row row' : Parameter} (h : SameParameter row row') :
    SameParameter row' row :=
  ⟨h.1.symm, h.2.1.symm, h.2.2.symm⟩

theorem SameParameter.trans {row row' row'' : Parameter} (h : SameParameter row row')
    (h' : SameParameter row' row'') : SameParameter row row'' :=
  ⟨h'.1.trans h.1, h'.2.1.trans h.2.1, h'.2.2.trans h.2.2⟩

theorem SameNode.refl (node : GraphNode) : SameNode node node := ⟨rfl, rfl⟩

theorem SameNode.symm {node node' : GraphNode} (h : SameNode node node') : SameNode node' node := by
  refine ⟨?_, h.2.symm⟩
  rw [← h.1]

theorem SameNode.trans {node node' node'' : GraphNode} (h : SameNode node node')
    (h' : SameNode node' node'') : SameNode node node'' := by
  refine ⟨?_, h'.2.trans h.2⟩
  obtain ⟨hnode, -⟩ := h
  obtain ⟨hnode', -⟩ := h'
  rw [← hnode'] at hnode
  exact hnode

theorem equivalence_optionRel {α : Type} {R : α → α → Prop} (hR : Equivalence R) :
    Equivalence (Option.Rel R) where
  refl
    | none => .none
    | some a => .some (hR.refl a)
  symm h := by
    cases h with
    | none => exact .none
    | some h => exact .some (hR.symm h)
  trans h h' := by
    cases h with
    | none =>
        cases h'
        exact .none
    | some h =>
        cases h' with
        | some h' => exact .some (hR.trans h h')

theorem sameItem_equivalence : Equivalence SameItem :=
  ⟨SameItem.refl, SameItem.symm, SameItem.trans⟩

theorem sameParameter_equivalence : Equivalence SameParameter :=
  ⟨SameParameter.refl, SameParameter.symm, SameParameter.trans⟩

theorem sameNode_equivalence : Equivalence SameNode :=
  ⟨SameNode.refl, SameNode.symm, SameNode.trans⟩

theorem sameTarget_equivalence (adapter : Adapter) (targetId : String) :
    Equivalence fun home home' => SameTarget home home' targetId adapter := by
  cases adapter with
  | promptLayer => exact ⟨fun _ => rfl, Eq.symm, fun h h' => h'.trans h⟩
  | skill =>
      exact ⟨fun _ _ _ => rfl, fun h name hname => (h name hname).symm,
        fun h h' name hname => (h' name hname).trans (h name hname)⟩
  | evalCase =>
      exact ⟨fun _ _ _ => rfl, fun h name hname => (h name hname).symm,
        fun h h' name hname => (h' name hname).trans (h name hname)⟩
  | memoryItem =>
      exact (equivalence_optionRel sameItem_equivalence).comap fun home : Home =>
        home.memory.items.get? targetId
  | memoryParameter =>
      exact (equivalence_optionRel sameParameter_equivalence).comap fun home : Home =>
        home.memory.parameters.get? targetId
  | graphNode => exact (equivalence_optionRel sameNode_equivalence).comap fun home : Home =>
        home.nodes.get? targetId

/-! ## Targets that are stored -/

/-- A node that is there keeps all but its data and its time. -/
def KeptNode (first : GraphNode) (node : GraphNode) : Prop :=
  { node with updatedAt := first.updatedAt, data := first.data } = first

/-- The rows that an adapter reads are as tables hold them, and its node is the first one with other
data. -/
def TargetStored (env : TargetRuntime) (targetId : String) (first home : Home) : Adapter → Prop
  | .promptLayer | .skill | .evalCase => True
  | .memoryItem => ∀ item ∈ home.memory.items.rows, (Json.obj item.metadata).distinct = true
      ∧ ∀ time ∈ Item.times item, env.realColumn time = some time
  | .memoryParameter =>
      ∀ row ∈ home.memory.parameters.rows, (Json.obj row.metadata).distinct = true
  | .graphNode => (∀ node ∈ home.nodes.rows, (Json.obj node.data).distinct = true)
      ∧ Option.Rel KeptNode (first.nodes.get? targetId) (home.nodes.get? targetId)

theorem of_applied {τ : Type} {port : TargetPort τ} {target left : τ}
    (h : port.applied target before after now = some (left, recorded)) :
    ∃ first second current, port.read target now = some (first, before)
      ∧ port.validate first after = true ∧ port.read first now = some (second, current)
      ∧ port.snapshot second current = some recorded
      ∧ port.apply second now after = some left := by
  unfold TargetPort.applied at h
  simp only [Option.bind_eq_bind, Option.bind_eq_some_iff, Option.guard_eq_some',
    Option.pure_def, Option.some.injEq, Prod.exists, Prod.mk.injEq] at h
  obtain ⟨first, _, hfirst, -, ⟨rfl, hvalid⟩, second, current, hsecond, _, -, _, hsnapshot, _,
    happly, rfl, rfl⟩ := h
  exact ⟨first, second, current, hfirst, hvalid, hsecond, hsnapshot, happly⟩

theorem ok_of_toOption {α : Type} {result : Except TargetError α} {value : α}
    (h : result.toOption = some value) : result = .ok value := by
  cases result with
  | error raised => cases h
  | ok found => rw [Option.some.inj h]

theorem ok_of_isSome {result : Except TargetError Unit} (h : result.toOption.isSome = true) :
    result = .ok () := by
  obtain ⟨_, hsome⟩ := Option.isSome_iff_exists.mp h
  exact ok_of_toOption hsome

theorem left_of_read {adapter : Adapter} (hadapter : adapter ≠ .memoryParameter) {text : String}
    (h : (adapter.read env home now targetId).toOption = some (left, text)) : left = home := by
  cases adapter with
  | promptLayer => exact left_of_map h
  | skill => exact left_of_map h
  | evalCase => exact left_of_map h
  | memoryItem => exact (congrArg Prod.fst (Option.some.inj h)).symm
  | memoryParameter => exact absurd rfl hadapter
  | graphNode => exact (congrArg Prod.fst (Option.some.inj h)).symm

theorem of_adapter_applied {adapter : Adapter} (hadapter : adapter ≠ .memoryParameter)
    (h : (adapterPort env adapter targetId).applied home before after now
      = some (left, recorded)) :
    adapter.validate env home targetId after = .ok ()
      ∧ adapter.apply env home now targetId after = .ok left
      ∧ ∃ current, (adapter.read env home now targetId).toOption = some (home, current)
        ∧ (adapterPort env adapter targetId).snapshot home current = some recorded := by
  obtain ⟨first, second, current, hfirst, hvalid, hsecond, hsnapshot, happly⟩ := of_applied h
  obtain rfl := left_of_read hadapter hfirst
  obtain rfl := left_of_read hadapter hsecond
  exact ⟨ok_of_isSome hvalid, ok_of_toOption happly, current, hsecond, hsnapshot⟩

/-! ### Items -/

theorem item_restore_stored {data : Dict} (hdata : (Json.obj data).distinct = true)
    (hstored : TargetStored env targetId first home .memoryItem)
    (h : Item.restore env home data = .ok left) :
    TargetStored env targetId first left .memoryItem := by
  obtain ⟨item, memory, hitem, -, hmemory, rfl⟩ := restore_eq_ok_iff.mp h
  obtain ⟨-, hdistinct, htimes, -⟩ := restored_ok hdata hitem
  intro other hother
  have hother : other ∈ memory.items.rows := hother
  rw [(items_of_storeItem hmemory).1] at hother
  rcases Table.mem_upsert hother with rfl | hold
  · exact ⟨hdistinct, htimes⟩
  · exact hstored other hold

theorem item_apply_stored (hstored : TargetStored env targetId first home .memoryItem)
    (h : Item.apply env home targetId after = .ok left) :
    TargetStored env targetId first left .memoryItem := by
  unfold Item.apply at h
  obtain ⟨_, -, h⟩ := bind_eq_ok.mp h
  obtain ⟨data, hdata, h⟩ := bind_eq_ok.mp h
  exact item_restore_stored (jsonObject_distinct hdata) hstored h

theorem item_rollback_stored (hstored : TargetStored env targetId first home .memoryItem)
    (h : Item.rollback env home targetId recorded = .ok left) :
    TargetStored env targetId first left .memoryItem := by
  unfold Item.rollback at h
  split at h
  · obtain rfl := Except.ok.inj h
    intro item hitem
    exact hstored item (List.mem_of_mem_filter hitem)
  · obtain ⟨data, hdata, h⟩ := bind_eq_ok.mp h
    exact item_restore_stored (jsonObject_distinct hdata) hstored h

/-! ### Parameters -/

theorem parameter_ensure_stored (hstored : TargetStored env targetId first home .memoryParameter) :
    TargetStored env targetId first (MemoryParameter.ensure env home now) .memoryParameter := by
  intro row hrow
  have hrow := Table.get?_of_mem hrow
  rw [get?_ensure_or] at hrow
  cases hfound : home.memory.parameters.get? row.name with
  | some old =>
      rw [hfound, Option.some_or] at hrow
      obtain rfl := Option.some.inj hrow
      exact hstored old (Table.get?_eq_some_iff.mp hfound).1
  | none =>
      rw [hfound, Option.none_or] at hrow
      obtain ⟨value, -, hvalue⟩ := Option.map_eq_some_iff.mp hrow
      rw [← hvalue]
      rfl

theorem parameter_set_stored {name reason : String} {value : Rat} {metadata : Dict}
    (hmetadata : (Json.obj metadata).distinct = true)
    (hstored : TargetStored env targetId first home .memoryParameter) :
    TargetStored env targetId first (MemoryParameter.set env home now name value reason metadata)
      .memoryParameter := by
  intro row hrow
  obtain ⟨set, hset, -, -, -, -, hdistinct⟩ := get?_set_some home now name value reason metadata
  rcases Table.mem_upsert hrow with rfl | hold
  · have hsame := Option.some.inj (hset.symm.trans (Table.get?_of_mem hrow))
    rw [← hsame]
    exact hdistinct hmetadata
  · exact parameter_ensure_stored hstored row hold

theorem parameter_rollback_stored (hstored : TargetStored env targetId first home .memoryParameter)
    (h : MemoryParameter.rollback env home now targetId recorded = .ok left) :
    TargetStored env targetId first left .memoryParameter := by
  unfold MemoryParameter.rollback at h
  obtain ⟨data, hdata, h⟩ := bind_eq_ok.mp h
  obtain ⟨value, -, h⟩ := bind_eq_ok.mp h
  obtain ⟨metadata, hmetadata, h⟩ := bind_eq_ok.mp h
  obtain rfl := pure_eq_ok.mp h
  refine parameter_set_stored (metadataOf_distinct ?_ hmetadata) hstored
  unfold MemoryParameter.recordedData at hdata
  split at hdata
  · obtain rfl := Except.ok.inj hdata
    rfl
  · exact jsonObject_distinct hdata

theorem parameter_apply_stored (hstored : TargetStored env targetId first home .memoryParameter)
    (h : MemoryParameter.apply env home now targetId after = .ok left) :
    TargetStored env targetId first left .memoryParameter := by
  obtain ⟨data, value, metadata, hdata, hmetadata, rfl⟩ := parameter_apply_ok h
  exact parameter_set_stored (metadataOf_distinct (jsonObject_distinct hdata) hmetadata) hstored

theorem parameter_read_left {text : String}
    (h : (Adapter.read env home now targetId .memoryParameter).toOption = some (left, text)) :
    left = MemoryParameter.ensure env home now := by
  refine (congrArg Prod.fst (Option.some.inj h)).symm.trans ?_
  unfold MemoryParameter.read
  dsimp only
  split
  · rfl
  · split
    · rfl
    · rfl

/-! ### Nodes -/

theorem node_replace_stored {data : Dict} (hdata : (Json.obj data).distinct = true)
    (hstored : TargetStored env targetId first home .graphNode) :
    TargetStored env targetId first (Node.replaceData home now targetId data) .graphNode := by
  obtain ⟨hdistinct, hkept⟩ := hstored
  refine ⟨fun other hother => ?_, ?_⟩
  · obtain ⟨old, hold, rfl⟩ := List.mem_map.mp hother
    split
    · exact hdata
    · exact hdistinct old hold
  · cases hnode : home.nodes.get? targetId with
    | none =>
        have hgone : (Node.replaceData home now targetId data).nodes.get? targetId = none := by
          unfold Node.replaceData
          rw [Table.get?_update, hnode]
          rfl
        rw [hnode] at hkept
        rwa [hgone]
    | some node =>
        rw [hnode] at hkept
        rw [get?_replaceData hnode]
        cases hfirst : first.nodes.get? targetId with
        | none =>
            rw [hfirst] at hkept
            cases hkept
        | some original =>
            rw [hfirst] at hkept
            cases hkept with
            | some hsame => exact .some hsame

theorem adapter_applied_stored {adapter : Adapter}
    (hstored : TargetStored env targetId first home adapter)
    (h : (adapterPort env adapter targetId).applied home before after now
      = some (left, recorded)) : TargetStored env targetId first left adapter := by
  obtain ⟨first, second, current, hfirst, -, hsecond, -, happly⟩ := of_applied h
  have happly := ok_of_toOption happly
  cases adapter with
  | promptLayer => trivial
  | skill => trivial
  | evalCase => trivial
  | memoryItem =>
      obtain ⟨rfl, -⟩ := Prod.mk.inj (Option.some.inj hfirst)
      obtain ⟨rfl, -⟩ := Prod.mk.inj (Option.some.inj hsecond)
      exact item_apply_stored hstored happly
  | memoryParameter =>
      obtain rfl := parameter_read_left hfirst
      obtain rfl := parameter_read_left hsecond
      exact parameter_apply_stored (parameter_ensure_stored (parameter_ensure_stored hstored))
        happly
  | graphNode =>
      obtain ⟨rfl, -⟩ := Prod.mk.inj (Option.some.inj hfirst)
      obtain ⟨rfl, -⟩ := Prod.mk.inj (Option.some.inj hsecond)
      obtain ⟨_, -, happly⟩ := bind_eq_ok.mp happly
      obtain ⟨data, hdata, happly⟩ := bind_eq_ok.mp happly
      obtain rfl := pure_eq_ok.mp happly
      exact node_replace_stored (jsonObject_distinct hdata) hstored

/-! ## What a rollback restores -/

theorem promptLayer_restores_iff (hvalid : PromptLayer.validate env targetId after = .ok ())
    (h : PromptLayer.rollbackSnapshot env left targetId
      (dumpJson env (PromptLayer.snapshotData (home.overrides targetId))) = .ok home') :
    SameTarget home home' targetId .promptLayer ↔ Restorable env home targetId .promptLayer := by
  obtain ⟨restored, hrestored, hoverride⟩ := @rollbackSnapshot_snapshotData env left targetId
    (home.overrides targetId) (overridePath_of_validate hvalid)
  obtain rfl := Except.ok.inj (hrestored.symm.trans h)
  simp only [SameTarget, Restorable]
  rw [hoverride]
  cases home.overrides targetId with
  | none => simp
  | some raw => simp [readFileText_some_iff]

theorem skill_restores_iff {name : String} (hname : safeName targetId = .ok name)
    (h : Skill.rollback left targetId (readFileText (home.skills name)) = .ok home') :
    SameTarget home home' targetId .skill ↔ Restorable env home targetId .skill := by
  unfold Skill.rollback at h
  rw [bind_of_eq_ok hname] at h
  obtain rfl := pure_eq_ok.mp h
  simp only [SameTarget, Restorable]
  rw [forall_safeName_iff hname, exists_safeName_iff hname]
  exact restoreFile_eq_iff home.skills left.skills name

theorem evalCase_restores_iff {name : String}
    (hmanaged : EvalCase.requireManaged targetId = .ok ()) (hname : safeName targetId = .ok name)
    (h : EvalCase.rollback left targetId (readFileText (home.evalCases name)) = .ok home') :
    SameTarget home home' targetId .evalCase ↔ Restorable env home targetId .evalCase := by
  unfold EvalCase.rollback at h
  rw [bind_of_eq_ok hmanaged, bind_of_eq_ok hname] at h
  obtain rfl := pure_eq_ok.mp h
  simp only [SameTarget, Restorable]
  rw [forall_safeName_iff hname, exists_safeName_iff hname]
  exact restoreFile_eq_iff home.evalCases left.evalCases name

theorem item_restores_iff {current : MemoryItem}
    (hcurrent : home.memory.items.get? targetId = some current)
    (hstored : TargetStored env targetId first home .memoryItem)
    (h : Item.rollback env left targetId (dumpJson env (Item.dict current)) = .ok home') :
    SameTarget home home' targetId .memoryItem ↔ Restorable env home targetId .memoryItem := by
  obtain ⟨hmem, hid⟩ := Table.get?_eq_some_iff.mp hcurrent
  obtain ⟨hdistinct, htimes⟩ := hstored current hmem
  obtain ⟨e, he, hsame⟩ := @jsonObject_dumpJson env _ (dict_distinct hdistinct htimes)
    "memory_item"
  obtain ⟨metadata, hagrees, hrestored⟩ := restored_of_same htimes hsame
  unfold Item.rollback at h
  rw [if_neg (dumpJson_ne_empty _), bind_of_eq_ok he] at h
  obtain ⟨item, memory, hitem, hwrite, hmemory, rfl⟩ := restore_eq_ok_iff.mp h
  obtain rfl := Except.ok.inj (hrestored.symm.trans hitem)
  rw [write_restoredOf hagrees] at hwrite
  have hget : memory.items.get? targetId = some (restoredOf current metadata) := by
    rw [(items_of_storeItem hmemory).1, Table.get?_upsert]
    exact if_pos hid
  simp only [SameTarget, Restorable, hcurrent, hget, Option.mem_some_iff, forall_eq']
  have hiff := sameItem_restoredOf_iff hagrees
  constructor
  · intro hrel
    cases hrel with
    | some hsameItem =>
        obtain ⟨hsummary, hlow, hhigh⟩ := hiff.mp hsameItem
        exact ⟨hsummary, hlow, hhigh, hwrite⟩
  · rintro ⟨hsummary, hlow, hhigh, -⟩
    exact .some (hiff.mpr ⟨hsummary, hlow, hhigh⟩)

theorem parameter_restores_iff {row : Parameter} {updatedAt : Time}
    (hrow : home.memory.parameters.get? targetId = some row)
    (hstored : TargetStored env targetId first home .memoryParameter)
    (h : MemoryParameter.rollback env left later targetId
      (dumpJson env (MemoryParameter.entry targetId row.value updatedAt row.metadata))
        = .ok home') :
    SameTarget home home' targetId .memoryParameter
      ↔ Restorable env home targetId .memoryParameter := by
  obtain ⟨hmem, hname⟩ := Table.get?_eq_some_iff.mp hrow
  obtain ⟨restored, metadata, hrolled, hunique, hagrees, hget⟩ :=
    @parameter_rollback env targetId later row updatedAt (hstored row hmem) left
  obtain rfl := Except.ok.inj (hrolled.symm.trans h)
  simp only [SameTarget, Restorable, hrow, hget, Option.mem_some_iff, exists_eq_left']
  rw [← same_put_iff hunique hagrees]
  constructor
  · intro hrel
    cases hrel with
    | some hsame => exact hsame.2.2
  · exact fun hsame => .some ⟨hname.symm, rfl, hsame⟩

theorem parameter_restores_none (hrow : home.memory.parameters.get? targetId = none)
    (h : MemoryParameter.rollback env left later targetId recorded = .ok home') :
    SameTarget home home' targetId .memoryParameter
      ↔ Restorable env home targetId .memoryParameter := by
  obtain ⟨value, metadata, hsome⟩ := parameter_rollback_some h
  simp only [SameTarget, Restorable, hrow, hsome]
  refine iff_of_false (fun hrel => ?_) (by simp)
  cases hrel

theorem KeptNode.again {original node held : GraphNode} (hnode : KeptNode original node)
    (hheld : KeptNode original held) (now : Time) (data : Dict) :
    { ({ held with data := data, updatedAt := now } : GraphNode) with
      updatedAt := node.updatedAt, data := node.data } = node := by
  unfold KeptNode at hnode hheld
  rw [← hheld] at hnode
  cases node
  cases held
  simp only [GraphNode.mk.injEq, true_and, and_true] at hnode ⊢
  obtain ⟨hid, htype, hname, hcreated⟩ := hnode
  exact ⟨hid.symm, htype.symm, hname.symm, hcreated.symm⟩

theorem node_rollback_ok {node : GraphNode} (hdistinct : (Json.obj node.data).distinct = true)
    (h : Node.rollback env left later targetId (dumpJson env node.data) = .ok home') :
    ∃ data, (Json.obj data).distinct = true ∧ Same (.obj data) (.obj node.data)
      ∧ home' = Node.replaceData left later targetId data := by
  obtain ⟨e, he, hsame⟩ := @jsonObject_dumpJson env _ hdistinct "graph_node"
  unfold Node.rollback at h
  rw [if_neg (dumpJson_ne_empty node.data), bind_of_eq_ok he] at h
  exact ⟨e, jsonObject_distinct he, hsame, (pure_eq_ok.mp h).symm⟩

theorem node_restores {node : GraphNode} (hnode : home.nodes.get? targetId = some node)
    (hstored : TargetStored env targetId first home .graphNode)
    (hleft : TargetStored env targetId first left .graphNode)
    (h : Node.rollback env left later targetId (dumpJson env node.data) = .ok home') :
    SameTarget home home' targetId .graphNode := by
  obtain ⟨hdistinct, hkept⟩ := hstored
  obtain ⟨data, -, hsame, rfl⟩ :=
    node_rollback_ok (hdistinct node (Table.get?_eq_some_iff.mp hnode).1) h
  obtain ⟨-, hheld⟩ := hleft
  rw [hnode] at hkept
  cases hfirst : first.nodes.get? targetId with
  | none =>
      rw [hfirst] at hkept
      cases hkept
  | some original =>
      rw [hfirst] at hkept hheld
      cases hkept with
      | some hkept =>
          cases hfound : left.nodes.get? targetId with
          | none =>
              rw [hfound] at hheld
              cases hheld
          | some held =>
              rw [hfound] at hheld
              cases hheld with
              | some hheld =>
                  simp only [SameTarget]
                  rw [hnode, get?_replaceData hfound]
                  exact .some ⟨KeptNode.again hkept hheld later data, hsame⟩

/-! ## The adapters -/

/-- A rollback, whatever the target holds by then, leaves a stored target, and what the candidate
was applied to if and only if that is restorable. -/
theorem adapter_restores {adapter : Adapter} {target restored : Home}
    (hstored : TargetStored env targetId first home adapter)
    (happlied : (adapterPort env adapter targetId).applied home before after now
      = some (left, recorded))
    (htarget : TargetStored env targetId first target adapter)
    (h : adapter.rollback env target later targetId recorded = .ok restored) :
    TargetStored env targetId first restored adapter
      ∧ (SameTarget home restored targetId adapter ↔ Restorable env home targetId adapter) := by
  cases adapter with
  | promptLayer =>
      obtain ⟨hvalid, -, current, -, hsnapshot⟩ :=
        of_adapter_applied (show Adapter.promptLayer ≠ .memoryParameter from nofun) happlied
      have hstate := ok_of_toOption hsnapshot
      unfold PromptLayer.snapshot at hstate
      rw [bind_of_eq_ok (overridePath_of_validate hvalid)] at hstate
      obtain rfl := pure_eq_ok.mp hstate
      exact ⟨trivial, promptLayer_restores_iff hvalid h⟩
  | skill =>
      obtain ⟨hvalid, -, current, hread, hsnapshot⟩ :=
        of_adapter_applied (show Adapter.skill ≠ .memoryParameter from nofun) happlied
      obtain ⟨name, hname⟩ := safeName_of_skill_validate hvalid
      obtain rfl := Option.some.inj hsnapshot
      obtain ⟨text, htext, hpair⟩ := map_eq_ok.mp (ok_of_toOption hread)
      obtain rfl := congrArg Prod.snd hpair
      obtain rfl := Except.ok.inj ((skill_read hname home).symm.trans htext)
      exact ⟨trivial, skill_restores_iff hname h⟩
  | evalCase =>
      obtain ⟨hvalid, -, current, hread, hsnapshot⟩ :=
        of_adapter_applied (show Adapter.evalCase ≠ .memoryParameter from nofun) happlied
      obtain rfl := Option.some.inj hsnapshot
      obtain ⟨text, htext, hpair⟩ := map_eq_ok.mp (ok_of_toOption hread)
      obtain rfl := congrArg Prod.snd hpair
      have hmanaged := requireManaged_of_validate hvalid
      obtain ⟨name, hname⟩ : ∃ name, safeName targetId = .ok name := by
        by_contra hnot
        exact evalCase_read_error hmanaged hnot home text htext
      obtain rfl := Except.ok.inj ((evalCase_read hmanaged hname home).symm.trans htext)
      exact ⟨trivial, evalCase_restores_iff hmanaged hname h⟩
  | memoryItem =>
      obtain ⟨hvalid, -, current, hread, hsnapshot⟩ :=
        of_adapter_applied (show Adapter.memoryItem ≠ .memoryParameter from nofun) happlied
      obtain rfl := Option.some.inj hsnapshot
      obtain ⟨-, item, -, hitem, -, -⟩ := item_validate_ok hvalid
      have hrecorded : Item.read env home targetId = current :=
        congrArg Prod.snd (Option.some.inj hread)
      unfold Item.read at hrecorded
      rw [hitem] at hrecorded
      obtain rfl := hrecorded
      exact ⟨item_rollback_stored htarget h, item_restores_iff hitem hstored h⟩
  | memoryParameter =>
      refine ⟨parameter_rollback_stored htarget h, ?_⟩
      obtain ⟨first, second, current, hfirst, -, hsecond, hsnapshot, -⟩ := of_applied happlied
      obtain rfl := Option.some.inj hsnapshot
      cases hrow : home.memory.parameters.get? targetId with
      | none => exact parameter_restores_none hrow h
      | some row =>
          obtain rfl := parameter_read_left hfirst
          have hread := @parameter_read_some env _ targetId now row
            (@get?_ensure env _ _ _ hrow now)
          have hpair := Option.some.inj ((congrArg Except.toOption hread).symm.trans hsecond)
          obtain rfl := congrArg Prod.snd hpair
          exact parameter_restores_iff hrow hstored h
  | graphNode =>
      obtain ⟨hvalid, -, current, hread, hsnapshot⟩ :=
        of_adapter_applied (show Adapter.graphNode ≠ .memoryParameter from nofun) happlied
      obtain rfl := Option.some.inj hsnapshot
      obtain ⟨node, -, hnode, -⟩ := node_validate_ok hvalid
      have hrecorded : Node.read env home targetId = current :=
        congrArg Prod.snd (Option.some.inj hread)
      unfold Node.read at hrecorded
      rw [hnode] at hrecorded
      obtain rfl := hrecorded
      have hdistinct := hstored.1 node (Table.get?_eq_some_iff.mp hnode).1
      refine ⟨?_, iff_of_true (node_restores hnode hstored htarget h) trivial⟩
      obtain ⟨data, hdata, -, rfl⟩ := node_rollback_ok hdistinct h
      exact node_replace_stored hdata htarget

end

/-- The adapter of a type at one of its targets, with its rollback. -/
def adapterRollbackPort (env : TargetRuntime) (adapter : Adapter) (targetId : String)
    (first : Home) : RollbackPort Home where
  toTargetPort := adapterPort env adapter targetId
  rollback target now recorded := (adapter.rollback env target now targetId recorded).toOption
  Stored home := TargetStored env targetId first home adapter
  Same home home' := SameTarget home home' targetId adapter
  Restorable home := Restorable env home targetId adapter
  same := sameTarget_equivalence adapter targetId
  stored_applied _ _ _ _ _ _ hstored happlied := adapter_applied_stored hstored happlied
  restores _ _ _ _ _ _ hstored happlied _ _ _ htarget h :=
    adapter_restores hstored happlied htarget (ok_of_toOption h)

theorem targetStored_first {env : TargetRuntime} (home : StoredHome env) (adapter : Adapter)
    (targetId : String) : TargetStored env targetId home.toHome home.toHome adapter := by
  cases adapter with
  | promptLayer => trivial
  | skill => trivial
  | evalCase => trivial
  | memoryItem => exact home.items
  | memoryParameter => exact home.parameters
  | graphNode =>
      refine ⟨home.data, ?_⟩
      cases home.nodes.get? targetId with
      | none => exact .none
      | some node => exact .some rfl

/-- For the adapter of every type, and every stored target of it: no state of a run of applies and
rollbacks holds a candidate that was rolled back, and every state in which all were is as at first,
if and only if every rollback that restores is of an event whose predecessor was not rolled back,
and a last one of a restorable target. -/
theorem adapter_rollback_order_iff (env : TargetRuntime) (adapter : Adapter) (targetId : String)
    (home : StoredHome env) (labels : List HistoryLabel) :
    (∀ n s, (historySystem (adapterRollbackPort env adapter targetId home.toHome)).run
        (.start home.toHome) (labels.take n) = some s →
      StaysRolledBack (adapterRollbackPort env adapter targetId home.toHome) home.toHome s)
      ↔ (historySystem (adapterRollbackPort env adapter targetId home.toHome)).Along
        (PredecessorHeld (adapterRollbackPort env adapter targetId home.toHome))
        (.start home.toHome) labels :=
  rollback_order_iff (adapterRollbackPort env adapter targetId home.toHome) home.toHome labels
    (targetStored_first home adapter targetId)

/-! ## A candidate that comes back -/

/-- A runtime that reads the frontmatter of one skill. -/
noncomputable def greetRuntime : TargetRuntime :=
  { plainRuntime with
    safeLoad := fun _ => some (.mapping
      [(.str "name", .str "greet"), (.str "description", .str "Greets.")]) }

def greetSkill (instructions : String) : String :=
  "---\nname: greet\ndescription: Greets.\n---\n" ++ instructions ++ "\n"

def bareHome : Home where
  overrides _ := none
  skills _ := none
  evalCases _ := none
  memory :=
    { items := .empty
      parameters := .empty
      stored := List.forall_mem_nil _ }
  nodes := .empty
  edges := []

/-- Two skills are applied one after the other and rolled back in the same order. -/
def sameOrder : List HistoryLabel :=
  [.apply "hello" "" (greetSkill "Say hello.") 1,
    .apply "bye" (greetSkill "Say hello.") (greetSkill "Say goodbye.") 2,
    .rollback "hello" 3, .rollback "bye" 4]

/-- The second rollback puts back the first candidate, which was rolled back before. -/
theorem rolled_back_skill_returns :
    ∃ s, (historySystem (adapterRollbackPort greetRuntime .skill "greet" bareHome)).run
        (.start bareHome) sameOrder = some s
      ∧ s.target.skills "greet" = some (greetSkill "Say hello.")
      ∧ ¬ StaysRolledBack (adapterRollbackPort greetRuntime .skill "greet" bareHome) bareHome
        s := by
  have hrun : ((historySystem (adapterRollbackPort greetRuntime .skill "greet" bareHome)).run
        (.start bareHome) sameOrder).map
          (fun s => (s.live, s.target.skills "greet", s.events.map fun e => (e.id, e.rolledBackAt)))
      = some (some "hello", some (greetSkill "Say hello."),
        [("bye", some 4), ("hello", some 3)]) := by
    decide +kernel
  obtain ⟨s, hs, hsees⟩ := Option.map_eq_some_iff.mp hrun
  obtain ⟨hlive, hskill, hevents⟩ : s.live = some "hello"
      ∧ s.target.skills "greet" = some (greetSkill "Say hello.")
      ∧ s.events.map (fun e => (e.id, e.rolledBackAt)) = [("bye", some 4), ("hello", some 3)] := by
    simpa only [Prod.mk.injEq] using hsees
  refine ⟨s, hs, hskill, fun hstays => ?_⟩
  have hmem : ("hello", some (3 : Time)) ∈ s.events.map fun e => (e.id, e.rolledBackAt) := by
    rw [hevents]
    exact List.mem_cons_of_mem _ List.mem_cons_self
  obtain ⟨event, hevent, hpair⟩ := List.mem_map.mp hmem
  obtain ⟨hid, hgone⟩ := Prod.mk.inj hpair
  have hback := hstays.gone event hevent (by rw [hlive, hid])
  rw [hback] at hgone
  cases hgone

end Navi.Evolution
