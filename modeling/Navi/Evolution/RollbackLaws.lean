import Navi.Evolution.ItemRoundTrip

/-!
# When rollbacks are exact and applies are recognised

The adapters taken together, and an item whose rollback loses its summary.
-/

namespace Navi.Evolution

open Navi.Base Navi.Base.Json Navi.Memory

/-- For every adapter and every candidate that it validates: a rollback makes the target again
what it was if and only if the target was restorable, and after a crash an apply is recognised
if and only if the candidate is what is read of it. -/
theorem adapter_laws_iff (env : TargetRuntime) (adapter : Adapter) (home : StoredHome env)
    (targetId candidate : String) (started applied later : Time)
    (h : adapter.validate env home.toHome targetId candidate = .ok ()) :
    (RollsBack env adapter home.toHome targetId candidate started applied later
        ↔ Restorable env home.toHome targetId adapter)
      ∧ (Recognised env adapter home.toHome targetId candidate started applied later
        ↔ Readable env targetId candidate applied adapter) := by
  cases adapter with
  | promptLayer => exact ⟨promptLayer_rollsBack_iff h, promptLayer_recognised_iff h⟩
  | skill => exact ⟨skill_rollsBack_iff h, skill_recognised_iff h⟩
  | evalCase => exact ⟨evalCase_rollsBack_iff h, evalCase_recognised_iff h⟩
  | memoryItem => exact ⟨item_rollsBack_iff home.items h, item_recognised_iff h⟩
  | memoryParameter => exact ⟨parameter_rollsBack_iff home.parameters, parameter_recognised_iff h⟩
  | graphNode => exact ⟨iff_of_true (node_rollsBack home.data h) trivial, node_recognised_iff h⟩

/-! ## An item that loses its summary -/

theorem equal_self (value : Json) : Item.equal value value = true := by
  unfold Item.equal
  cases h : Item.number value <;> simp

theorem item_validate_content {env : TargetRuntime} {home : Home} {current : MemoryItem}
    {content : String} (hcurrent : home.memory.items.get? current.id = some current)
    (hgiven : current.type ≠ "" ∧ current.status ≠ "" ∧ current.scope ≠ "" ∧ content ≠ ""
      ∧ current.source ≠ "")
    (hdistinct : (Json.obj current.metadata).distinct = true)
    (htimes : ∀ time ∈ Item.times current, env.realColumn time = some time) :
    Item.validate env home current.id
      (dumpJson env (Item.dict { current with content := content })) = .ok () := by
  have htimes' : ∀ time ∈ Item.times { current with content := content },
      env.realColumn time = some time := htimes
  obtain ⟨e, he, hsame⟩ := @jsonObject_dumpJson env _
    (@dict_distinct env { current with content := content } hdistinct htimes') "memory_item"
  have hid : textOr env e "id" "" = current.id := by
    rw [textOr_of_get (get_of_same hsame rfl rfl)]
    split
    next hempty => exact hempty.symm
    next => rfl
  have hflag (key : String) {s : String} (hs : s ≠ "")
      (hkey : (Item.dict { current with content := content }).get key = some (.str s)) :
      (!e.flag key) = false := by
    rw [flag_of_get (get_of_same hsame hkey rfl)]
    simp [truthy, hs]
  have hcreated : env.realColumn current.createdAt = some current.createdAt :=
    htimes _ List.mem_cons_self
  have hkept (key : String) {value : Json} (hscalar : value.scalar = true)
      (hkey : (Item.dict { current with content := content }).get key = some value)
      (hheld : (Item.dict current).get key = some value) :
      (!Item.unchanged e current key) = false := by
    unfold Item.unchanged
    rw [get_of_same hsame hkey hscalar, hheld]
    simp [equal_self]
  obtain ⟨htype, hstatus, hscope, hcontent, hsource⟩ := hgiven
  unfold Item.validate
  rw [bind_of_eq_ok he, hcurrent]
  dsimp only
  rw [bind_of_eq_ok (@require_eq_ok _ _ _ _ ()|>.mpr hid)]
  have hmissing : ["content", "scope", "source", "status", "type"].filter (!e.flag ·) = [] := by
    simp only [List.filter_cons, hflag "content" hcontent rfl,
      hflag "scope" hscope rfl, hflag "source" hsource rfl,
      hflag "status" hstatus rfl, hflag "type" htype rfl]
    rfl
  have hchanged : Item.immutable.filter (!Item.unchanged e current ·) = [] := by
    simp only [Item.immutable, List.filter_cons, hkept "id" rfl rfl rfl,
      hkept "type" rfl rfl rfl, hkept "status" rfl rfl rfl,
      hkept "scope" rfl rfl rfl, hkept "source" rfl rfl rfl,
      hkept "created_at" (env.realColumn_scalar _ _ hcreated) rfl rfl,
      hkept "provenance" rfl rfl rfl]
    rfl
  rw [hmissing, hchanged]
  rfl

open Classical in
/-- The value that was written, with its keys in order. -/
noncomputable def plainLoads (text : String) : Option Json :=
  if h : ∃ v : Json, v.distinct = true ∧ dumps fractionText [' '] v = text then
    some (sortKeys h.choose)
  else none

theorem plainLoads_dumps {v : Json} (hv : v.distinct = true) :
    plainLoads (dumps fractionText [' '] v) = some (sortKeys v) := by
  have hexists : ∃ w : Json, w.distinct = true
      ∧ dumps fractionText [' '] w = dumps fractionText [' '] v := ⟨v, hv, rfl⟩
  rw [plainLoads, dif_pos hexists]
  exact congrArg some (dumps_eq_iff.mp hexists.choose_spec.2)

theorem plainLoads_distinct {text : String} {v : Json} (h : plainLoads text = some v) :
    v.distinct = true := by
  unfold plainLoads at h
  split at h
  next hexists =>
    obtain rfl := Option.some.inj h
    exact distinct_sortKeys hexists.choose_spec.1
  next => cases h

/-- What a REAL column gives back of a number. -/
def plainColumn : Json → Option Json
  | .float x => some (.float x)
  | .int n => some (.float n)
  | .bool b => some (.float (if b then 1 else 0))
  | .null | .str _ | .arr _ | .obj _ => none

theorem plainColumn_float {v w : Json} (h : plainColumn v = some w) : ∃ x, w = .float x := by
  cases v with
  | float x => exact ⟨x, (Option.some.inj h).symm⟩
  | int n => exact ⟨n, (Option.some.inj h).symm⟩
  | bool b => exact ⟨_, (Option.some.inj h).symm⟩
  | null | str | arr | obj => cases h

/-- A runtime without hooks and defaults, with one prompt layer. -/
noncomputable def plainRuntime : TargetRuntime where
  floats := fractionText
  loads := plainLoads
  loads_dumps _ := plainLoads_dumps
  loads_distinct _ _ := plainLoads_distinct
  str
    | .str s => s
    | value => dumps fractionText [' '] value
  str_str _ := rfl
  toFloat
    | .float x => some x
    | .int n => some n
    | _ => none
  toFloat_float _ := rfl
  toDict
    | .obj d => some d
    | _ => none
  toDict_obj _ := rfl
  toDict_distinct v d hv h := by
    cases v with
    | obj e =>
        obtain rfl := Option.some.inj h
        exact hv
    | _ => cases h
  isAlnum := Char.isAlphanum
  safeLoad _ := none
  lower := String.toLower
  realColumn := plainColumn
  realColumn_again v w h := by
    obtain ⟨x, rfl⟩ := plainColumn_float h
    rfl
  realColumn_scalar v w h := by
    obtain ⟨x, rfl⟩ := plainColumn_float h
    rfl
  refusal _ := none
  promptLayers name := if name = "instructions" then some "Be brief." else none
  defaultParameters := []

def summarised : MemoryItem where
  id := "m1"
  type := "fact"
  status := "active"
  scope := "user"
  content := "a long story"
  source := "chat"
  confidence := 1 / 2
  createdAt := .float 0
  updatedAt := .float 0
  lastVerifiedAt := .float 0
  expiresAt := .float 0
  metadata := []
  reason := "said so"
  provenance := "user"
  summary := "a story"

def summarisedHome : Home where
  overrides _ := none
  skills _ := none
  evalCases _ := none
  memory :=
    { items := ⟨[summarised], by decide⟩
      parameters := .empty
      stored := by decide +kernel }
  nodes := .empty
  edges := []

theorem summarised_stored : ∀ item ∈ summarisedHome.memory.items.rows,
    (Json.obj item.metadata).distinct = true
      ∧ ∀ time ∈ Item.times item, plainRuntime.realColumn time = some time := by
  intro item hitem
  obtain rfl := List.mem_singleton.mp hitem
  refine ⟨rfl, fun time htime => ?_⟩
  simp only [Item.times, summarised, List.mem_cons, List.not_mem_nil, or_false, or_self] at htime
  rw [htime]
  rfl

/-- The home as files and tables hold it. -/
def summarisedStored : StoredHome plainRuntime where
  toHome := summarisedHome
  items := summarised_stored
  parameters _ h := nomatch h
  data _ h := nomatch h

/-- The rollback of a change of its content is not exact. -/
theorem summarised_rollsBack_not :
    Adapter.validate plainRuntime summarisedStored.toHome "m1"
        (dumpJson plainRuntime (Item.dict { summarised with content := "a short one" })) .memoryItem
        = .ok ()
      ∧ ¬ RollsBack plainRuntime .memoryItem summarisedStored.toHome "m1"
        (dumpJson plainRuntime (Item.dict { summarised with content := "a short one" })) 1 2 3 := by
  have hvalidate : Item.validate plainRuntime summarisedHome summarised.id
      (dumpJson plainRuntime (Item.dict { summarised with content := "a short one" })) = .ok () :=
    item_validate_content rfl (by decide) rfl (summarised_stored _ List.mem_cons_self).2
  refine ⟨hvalidate, fun hrolls => ?_⟩
  have hrestorable := (item_rollsBack_iff summarised_stored hvalidate).mp hrolls
  have hsummary := (hrestorable summarised rfl).1
  revert hsummary
  decide

/-- The home, where a layer of the prompt is overridden. -/
def overriddenStored : StoredHome plainRuntime where
  toHome :=
    { summarisedHome with
      overrides := fun name => if name = "instructions" then some "Be bold.\n" else none }
  items := summarised_stored
  parameters _ h := nomatch h
  data _ h := nomatch h

/-- An override of a prompt layer without carriage returns is restored. -/
theorem override_rollsBack :
    RollsBack plainRuntime .promptLayer overriddenStored.toHome "instructions" "Be kind." 1 2 3
      ∧ Recognised plainRuntime .promptLayer overriddenStored.toHome "instructions" "Be kind." 1 2
        3 := by
  have hlaws := adapter_laws_iff plainRuntime .promptLayer overriddenStored "instructions"
    "Be kind." 1 2 3 (by decide +kernel)
  refine ⟨hlaws.1.mpr ?_, hlaws.2.mpr ?_⟩
  · intro raw hraw
    obtain rfl := Option.some.inj hraw
    show '\r' ∉ "Be bold.\n".toList
    decide
  · show '\r' ∉ "Be kind.".toList
    decide

end Navi.Evolution
