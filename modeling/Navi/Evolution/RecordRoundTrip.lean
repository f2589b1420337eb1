import Navi.Evolution.RoundTrip

/-!
# When rows are restored and recognised

What the adapters of rows store of a text that was written of a row, and from it when a
rollback of each adapter is exact and when an apply of each is recognised.
-/

namespace Navi.Evolution

open Navi.Base Navi.Base.Json Navi.Memory

section

variable {env : TargetRuntime} {home : Home} {targetId candidate : String}
  {started applied later : Time}

theorem jsonObject_of_dumpJson {d e : Dict} {targetType : String}
    (hd : (Json.obj d).distinct = true)
    (h : jsonObject env (dumpJson env d) targetType = .ok e) : Same (.obj e) (.obj d) := by
  obtain ⟨e', he', hsame⟩ := @jsonObject_dumpJson env _ hd targetType
  obtain rfl := Except.ok.inj (he'.symm.trans h)
  exact hsame

/-! ## Graph nodes -/

theorem node_validate_ok (h : Node.validate env home targetId candidate = .ok ()) :
    ∃ node data, home.nodes.get? targetId = some node
      ∧ jsonObject env candidate "graph_node" = .ok data := by
  unfold Node.validate at h
  obtain ⟨u, hrequire, h⟩ := bind_eq_ok.mp h
  obtain ⟨data, hdata, -⟩ := bind_eq_ok.mp h
  obtain ⟨node, hnode⟩ := Option.isSome_iff_exists.mp (require_eq_ok.mp hrequire)
  exact ⟨node, data, hnode, hdata⟩

theorem node_apply {data : Dict} (h : Node.validate env home targetId candidate = .ok ())
    (hdata : jsonObject env candidate "graph_node" = .ok data) :
    Node.apply env home applied targetId candidate
      = .ok (Node.replaceData home applied targetId data) := by
  unfold Node.apply
  rw [bind_of_eq_ok h, bind_of_eq_ok hdata]
  rfl

theorem get?_replaceData {node : GraphNode} (hnode : home.nodes.get? targetId = some node)
    (now : Time) (data : Dict) :
    (Node.replaceData home now targetId data).nodes.get? targetId
      = some { node with data := data, updatedAt := now } := by
  have hid : node.id = targetId := (Table.get?_eq_some_iff.mp hnode).2
  unfold Node.replaceData
  rw [Table.get?_update, hnode]
  simp [hid]

theorem node_rollsBack (hdistinct : ∀ node ∈ home.nodes.rows, (Json.obj node.data).distinct = true)
    (h : Node.validate env home targetId candidate = .ok ()) :
    RollsBack env .graphNode home targetId candidate started applied later := by
  obtain ⟨node, data, hnode, hdata⟩ := node_validate_ok h
  have hread : Node.read env home targetId = dumpJson env node.data := by
    unfold Node.read
    rw [hnode]
  have hattempt : attempt env home applied targetId candidate .graphNode
      = Node.replaceData home applied targetId data := by
    unfold attempt Adapter.apply
    rw [node_apply h hdata]
    rfl
  obtain ⟨e, he, hsame⟩ := @jsonObject_dumpJson env _
    (hdistinct node (Table.get?_eq_some_iff.mp hnode).1) "graph_node"
  refine ⟨home, dumpJson env node.data,
    Node.replaceData (attempt env home applied targetId candidate .graphNode) later targetId e,
    ?_, ?_, ?_⟩
  · exact congrArg (fun text => Except.ok (home, text)) hread
  · unfold Adapter.rollback Node.rollback
    rw [if_neg (dumpJson_ne_empty node.data), bind_of_eq_ok he]
    rfl
  · simp only [SameTarget]
    rw [hattempt, get?_replaceData (get?_replaceData hnode applied data), hnode]
    exact .some ⟨rfl, hsame⟩

theorem node_recognised_iff (h : Node.validate env home targetId candidate = .ok ()) :
    Recognised env .graphNode home targetId candidate started applied later
      ↔ Readable env targetId candidate applied .graphNode := by
  obtain ⟨node, data, hnode, hdata⟩ := node_validate_ok h
  have hread : Adapter.read env (Node.replaceData home applied targetId data) later targetId
      .graphNode = .ok (Node.replaceData home applied targetId data, dumpJson env data) := by
    simp only [Adapter.read, Node.read, get?_replaceData hnode]
  have hbefore : Adapter.read env home started targetId .graphNode
      = .ok (home, Node.read env home targetId) := rfl
  rw [recognised_iff hbefore (node_apply h hdata) hread]
  simp only [Readable]
  constructor
  · exact fun heq => ⟨data, jsonObject_distinct hdata, heq.symm⟩
  · rintro ⟨data', hdistinct, rfl⟩
    exact dumpJson_eq_iff.mpr (jsonObject_of_dumpJson hdistinct hdata)

/-! ## Memory parameters -/

theorem get?_ensure {row : Parameter} (h : home.memory.parameters.get? targetId = some row)
    (now : Time) :
    (MemoryParameter.ensure env home now).memory.parameters.get? targetId = some row := by
  unfold MemoryParameter.ensure
  dsimp only
  generalize home.memory = memory at h ⊢
  induction env.defaultParameters generalizing memory with
  | nil => exact h
  | cons entry rest ih =>
      rw [List.foldl_cons]
      exact ih _ (Table.get?_insertOrIgnore_of_some _ h)

theorem get?_set (home : Home) (now : Time) (name : String) (value : Rat) (reason : String)
    (metadata : Dict) (hreason : reason ≠ "") :
    (MemoryParameter.set env home now name value reason metadata).memory.parameters.get? name
      = some
        { name := name
          value := value
          updatedAt := now
          metadata := metadata.put "reason" (.str reason) } := by
  unfold MemoryParameter.set MemoryTables.setParameter
  dsimp only
  rw [Table.get?_upsert, if_pos rfl, if_neg hreason]

theorem entry_distinct (name : String) (value : Rat) (updatedAt : Time) {metadata : Dict}
    (h : (Json.obj metadata).distinct = true) :
    (Json.obj (MemoryParameter.entry name value updatedAt metadata)).distinct = true := by
  rw [distinct_obj_iff]
  constructor
  · simp [MemoryParameter.entry]
  · intro e he
    simp only [MemoryParameter.entry, List.mem_cons, List.not_mem_nil, or_false] at he
    rcases he with rfl | rfl | rfl | rfl
    · rfl
    · rfl
    · rfl
    · exact h

theorem same_entry (name : String) (value : Rat) (updatedAt : Time) {metadata metadata' : Dict}
    (h : Same (.obj metadata) (.obj metadata')) :
    Same (.obj (MemoryParameter.entry name value updatedAt metadata))
      (.obj (MemoryParameter.entry name value updatedAt metadata')) := by
  unfold Same at h ⊢
  rw [sortKeys_obj, sortKeys_obj]
  simp only [MemoryParameter.entry, sortEntries, h]

theorem fields_of_same_entry {name : String} {value default : Rat} {updatedAt : Time}
    {metadata e : Dict}
    (h : Same (.obj e) (.obj (MemoryParameter.entry name value updatedAt metadata)))
    (he : (Json.obj e).distinct = true) :
    MemoryParameter.valueOr env e default = .ok value
      ∧ (∃ metadata', MemoryParameter.metadataOf env e = .ok metadata'
        ∧ (Json.obj metadata').distinct = true ∧ Same (.obj metadata') (.obj metadata))
      ∧ e.get "reason" = none := by
  refine ⟨?_, ?_, ?_⟩
  · have hvalue : e.get "value" = some (.float value) :=
      get_of_same h (by simp [MemoryParameter.entry]) rfl
    unfold MemoryParameter.valueOr
    rw [hvalue]
    dsimp only
    rw [env.toFloat_float]
  · obtain ⟨v, hv, hsame⟩ := @Same.get _ _ h "metadata" (.obj metadata)
      (by simp [MemoryParameter.entry])
    obtain ⟨metadata', rfl⟩ := hsame.obj
    refine ⟨metadata', ?_, ((distinct_obj_iff e).mp he).2 _ (mem_of_get hv), hsame⟩
    unfold MemoryParameter.metadataOf
    rw [hv]
    dsimp only
    rw [env.toDict_obj]
  · cases hreason : e.get "reason" with
    | none => rfl
    | some w =>
        obtain ⟨v, hv, -⟩ := Same.get (Eq.symm h) hreason
        simp [MemoryParameter.entry] at hv

theorem parameter_rollback_some {home' : Home} {recorded : String}
    (h : MemoryParameter.rollback env home later targetId recorded = .ok home') :
    ∃ value metadata, home'.memory.parameters.get? targetId = some
      ⟨targetId, value, later, metadata⟩ := by
  unfold MemoryParameter.rollback at h
  obtain ⟨data, -, h⟩ := bind_eq_ok.mp h
  obtain ⟨value, -, h⟩ := bind_eq_ok.mp h
  obtain ⟨metadata, -, h⟩ := bind_eq_ok.mp h
  obtain rfl := pure_eq_ok.mp h
  exact ⟨value, _, get?_set home later targetId value _ metadata (by decide)⟩

theorem parameter_rollback {row : Parameter} {updatedAt : Time}
    (hdistinct : (Json.obj row.metadata).distinct = true) (home : Home) :
    ∃ (home' : Home) (metadata : Dict), MemoryParameter.rollback env home later targetId
        (dumpJson env (MemoryParameter.entry targetId row.value updatedAt row.metadata)) = .ok home'
      ∧ (Json.obj metadata).distinct = true ∧ Same (.obj metadata) (.obj row.metadata)
      ∧ home'.memory.parameters.get? targetId = some
        ⟨targetId, row.value, later, metadata.put "reason" (.str "evolution_rollback")⟩ := by
  obtain ⟨e, he, hsame⟩ := @jsonObject_dumpJson env _
    (entry_distinct targetId row.value updatedAt hdistinct) "memory_parameter"
  obtain ⟨hvalue, ⟨metadata, hmetadata, hunique, hagrees⟩, -⟩ := @fields_of_same_entry env
    targetId row.value (MemoryParameter.value env home targetId) updatedAt row.metadata e hsame
    (jsonObject_distinct he)
  refine ⟨MemoryParameter.set env home later targetId row.value "evolution_rollback" metadata,
    metadata, ?_, hunique, hagrees,
    get?_set home later targetId row.value "evolution_rollback" metadata (by decide)⟩
  unfold MemoryParameter.rollback MemoryParameter.recordedData
  rw [if_neg (dumpJson_ne_empty _), bind_of_eq_ok he, bind_of_eq_ok hvalue,
    bind_of_eq_ok hmetadata]
  rfl

theorem same_put_iff {d e : Dict} {key text : String}
    (he : (Json.obj e).distinct = true) (h : Same (.obj e) (.obj d)) :
    Same (.obj (e.put key (.str text))) (.obj d) ↔ d.get key = some (.str text) := by
  constructor
  · intro hput
    have hget : (e.put key (.str text)).get key = some (.str text) := by
      rw [Dict.get_put, if_pos rfl]
    exact get_of_same hput.symm hget rfl
  · intro hget
    exact (same_put he (get_of_same h hget rfl)).trans h

theorem parameter_rollbackState {row : Parameter}
    (h : home.memory.parameters.get? targetId = some row) :
    rollbackState env home started targetId .memoryParameter
      = .ok (MemoryParameter.ensure env home started,
        dumpJson env (MemoryParameter.entry targetId row.value row.updatedAt row.metadata)) := by
  have hread : MemoryParameter.read env home started targetId
      = (MemoryParameter.ensure env home started,
        dumpJson env (MemoryParameter.entry targetId row.value row.updatedAt row.metadata)) := by
    unfold MemoryParameter.read
    dsimp only
    rw [get?_ensure h started]
  exact congrArg Except.ok hread

theorem parameter_rollsBack_iff
    (hdistinct : ∀ row ∈ home.memory.parameters.rows, (Json.obj row.metadata).distinct = true) :
    RollsBack env .memoryParameter home targetId candidate started applied later
      ↔ Restorable env home targetId .memoryParameter := by
  simp only [Restorable]
  cases hrow : home.memory.parameters.get? targetId with
  | none =>
      -- the rollback leaves a row where there was none
      refine iff_of_false ?_ (by simp)
      rintro ⟨home₁, recorded, home₂, -, hrollback, hsame⟩
      obtain ⟨value, metadata, hsome⟩ := parameter_rollback_some hrollback
      simp only [SameTarget, hrow, hsome] at hsame
      cases hsame
  | some row =>
      obtain ⟨hmem, hname⟩ := Table.get?_eq_some_iff.mp hrow
      have hstate := @parameter_rollbackState env home targetId started row hrow
      obtain ⟨home₂, metadata, hrolled, hunique, hagrees, hget⟩ :=
        @parameter_rollback env targetId later row row.updatedAt (hdistinct row hmem)
          (attempt env (MemoryParameter.ensure env home started) applied targetId candidate
            .memoryParameter)
      have hiff : SameTarget home home₂ targetId .memoryParameter
          ↔ row.metadata.get "reason" = some (.str "evolution_rollback") := by
        simp only [SameTarget, hrow, hget]
        rw [← same_put_iff hunique hagrees]
        constructor
        · intro hsame
          cases hsame with
          | some hrow => exact hrow.2.2
        · exact fun hsame => .some ⟨hname.symm, rfl, hsame⟩
      simp only [Option.mem_some_iff, exists_eq_left']
      rw [← hiff]
      constructor
      · rintro ⟨home₁, recorded, home₃, hrecorded, hrollback, hsame⟩
        obtain ⟨rfl, rfl⟩ := Prod.mk.inj (Except.ok.inj (hstate.symm.trans hrecorded))
        obtain rfl := Except.ok.inj (hrolled.symm.trans hrollback)
        exact hsame
      · exact fun hsame => ⟨_, _, home₂, hstate, hrolled, hsame⟩

theorem textOr_of_none {d : Dict} {key default : String} (h : d.get key = none) :
    textOr env d key default = default := by
  simp [textOr, Dict.flag, h]

theorem parameter_apply_ok {home' : Home}
    (h : MemoryParameter.apply env home applied targetId candidate = .ok home') :
    ∃ (data : Dict) (value : Rat) (metadata : Dict),
      jsonObject env candidate "memory_parameter" = .ok data
      ∧ MemoryParameter.metadataOf env data = .ok metadata
      ∧ home' = MemoryParameter.set env home applied targetId value
        (textOr env data "reason" "evolution_apply") metadata := by
  unfold MemoryParameter.apply at h
  obtain ⟨u, -, h⟩ := bind_eq_ok.mp h
  obtain ⟨data, hdata, h⟩ := bind_eq_ok.mp h
  obtain ⟨value, -, h⟩ := bind_eq_ok.mp h
  obtain ⟨metadata, hmetadata, h⟩ := bind_eq_ok.mp h
  exact ⟨data, value, metadata, hdata, hmetadata, (pure_eq_ok.mp h).symm⟩

theorem metadataOf_distinct {data metadata : Dict} (hdata : (Json.obj data).distinct = true)
    (h : MemoryParameter.metadataOf env data = .ok metadata) :
    (Json.obj metadata).distinct = true := by
  unfold MemoryParameter.metadataOf at h
  split at h
  · obtain rfl := Except.ok.inj h
    rfl
  next value hvalue =>
    split at h
    next metadata' hmetadata =>
      obtain rfl := Except.ok.inj h
      exact env.toDict_distinct _ _ (((distinct_obj_iff data).mp hdata).2 _ (mem_of_get hvalue))
        hmetadata
    next => cases h

theorem get?_set_some (home : Home) (now : Time) (name : String) (value : Rat) (reason : String)
    (metadata : Dict) :
    ∃ row, (MemoryParameter.set env home now name value reason metadata).memory.parameters.get?
        name = some row
      ∧ row.name = name ∧ row.value = value ∧ row.updatedAt = now
      ∧ (reason ≠ "" → row.metadata = metadata.put "reason" (.str reason))
      ∧ ((Json.obj metadata).distinct = true → (Json.obj row.metadata).distinct = true) := by
  unfold MemoryParameter.set MemoryTables.setParameter
  dsimp only
  rw [Table.get?_upsert, if_pos rfl]
  refine ⟨_, rfl, rfl, rfl, rfl, fun hreason => ?_, fun hmetadata => ?_⟩
  · dsimp only
    rw [if_neg hreason]
  · refine distinct_put hmetadata ?_
    split
    · cases hget : metadata.get "reason" with
      | none => rfl
      | some v => exact ((distinct_obj_iff metadata).mp hmetadata).2 _ (mem_of_get hget)
    · rfl

theorem parameter_read_some {row : Parameter}
    (h : home.memory.parameters.get? targetId = some row) :
    Adapter.read env home later targetId .memoryParameter
      = .ok (MemoryParameter.ensure env home later,
        dumpJson env (MemoryParameter.entry targetId row.value row.updatedAt row.metadata)) :=
  @parameter_rollbackState env home targetId later row h

theorem parameter_recognised_iff (h : MemoryParameter.validate env targetId candidate = .ok ()) :
    Recognised env .memoryParameter home targetId candidate started applied later
      ↔ Readable env targetId candidate applied .memoryParameter := by
  simp only [Readable]
  constructor
  · rintro ⟨home₁, before, home₂, home₃, current, -, happly, hread, hreconcile⟩
    obtain ⟨data, value, metadata, hdata, hmetadata, rfl⟩ := parameter_apply_ok happly
    obtain ⟨row, hrow, hname, rfl, rfl, hreason, hunique⟩ := @get?_set_some env home₁ applied
      targetId value (textOr env data "reason" "evolution_apply") metadata
    rw [parameter_read_some hrow] at hread
    obtain ⟨-, rfl⟩ := Prod.mk.inj (Except.ok.inj hread)
    have hcandidate := reconcileApplying_applied_iff.mp hreconcile
    have hdistinct := jsonObject_distinct hdata
    have hrowDistinct := hunique (metadataOf_distinct hdistinct hmetadata)
    refine ⟨row.value, row.metadata, hrowDistinct, hcandidate.symm, ?_⟩
    -- what was read has no reason beside the metadata
    rw [← hcandidate] at hdata
    have hsame := jsonObject_of_dumpJson
      (entry_distinct targetId row.value row.updatedAt hrowDistinct) hdata
    have hnone := (@fields_of_same_entry env _ _ 0 _ _ data hsame hdistinct).2.2
    rw [textOr_of_none hnone] at hreason
    rw [hreason (by decide), Dict.get_put, if_pos rfl]
  · rintro ⟨value, metadata, hmetadata, rfl, hreason⟩
    obtain ⟨data, hdata, hsame⟩ := @jsonObject_dumpJson env _
      (entry_distinct targetId value applied hmetadata) "memory_parameter"
    have hdistinct := jsonObject_distinct hdata
    obtain ⟨hvalue, ⟨metadata', hread, hunique, hagrees⟩, hnone⟩ :=
      @fields_of_same_entry env _ _ 0 _ _ data hsame hdistinct
    obtain ⟨home₁, before, hbefore⟩ : ∃ home₁ before,
        Adapter.read env home started targetId .memoryParameter = .ok (home₁, before) :=
      ⟨_, _, rfl⟩
    have happly : Adapter.apply env home₁ applied targetId
        (dumpJson env (MemoryParameter.entry targetId value applied metadata)) .memoryParameter
        = .ok (MemoryParameter.set env home₁ applied targetId value "evolution_apply"
          metadata') := by
      unfold Adapter.apply MemoryParameter.apply
      rw [bind_of_eq_ok h, bind_of_eq_ok hdata, bind_of_eq_ok hvalue, bind_of_eq_ok hread,
        textOr_of_none hnone]
      rfl
    have hput : Same (.obj (metadata'.put "reason" (.str "evolution_apply"))) (.obj metadata) :=
      (same_put_iff hunique hagrees).mpr hreason
    rw [recognised_iff hbefore happly
      (parameter_read_some (get?_set home₁ applied targetId value _ metadata' (by decide)))]
    exact dumpJson_eq_iff.mpr (same_entry targetId value applied hput)

end

end Navi.Evolution
