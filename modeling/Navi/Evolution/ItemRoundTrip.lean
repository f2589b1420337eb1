import Navi.Evolution.RecordRoundTrip

/-!
# When memory items are restored and recognised

`restore_item` stores what it is given without the summary, with the confidence clamped, and
only what the hooks and the store permit.
-/

namespace Navi.Evolution

open Navi.Base Navi.Base.Json Navi.Memory

section

variable {env : TargetRuntime} {home home' : Home} {targetId candidate : String}
  {started applied later : Time} {data : Dict}

/-! ## What `restore_item` stores -/

theorem clamp_nonneg (confidence : Rat) : 0 ≤ Item.clamp confidence := le_max_left _ _

theorem clamp_le_one (confidence : Rat) : Item.clamp confidence ≤ 1 :=
  max_le (by norm_num) (min_le_left _ _)

theorem clamp_eq_self_iff (confidence : Rat) :
    Item.clamp confidence = confidence ↔ 0 ≤ confidence ∧ confidence ≤ 1 := by
  constructor
  · intro h
    rw [← h]
    exact ⟨clamp_nonneg confidence, clamp_le_one confidence⟩
  · rintro ⟨hlow, hhigh⟩
    unfold Item.clamp
    rw [min_eq_right hhigh, max_eq_right hlow]

theorem clamp_clamp (confidence : Rat) :
    Item.clamp (Item.clamp confidence) = Item.clamp confidence :=
  (clamp_eq_self_iff _).mpr ⟨clamp_nonneg confidence, clamp_le_one confidence⟩

theorem textField_ok {key s : String} (h : Item.textField data key none = .ok s) :
    data.get key = some (.str s) := by
  unfold Item.textField at h
  split at h
  next t ht =>
    obtain rfl := Except.ok.inj h
    exact ht
  next hdefault => cases hdefault
  next => cases h

theorem timeField_ok {key : String} {held : Json} (h : Item.timeField env data key = .ok held) :
    env.realColumn held = some held := by
  unfold Item.timeField at h
  split at h
  next w hw =>
    obtain rfl := Except.ok.inj h
    obtain ⟨v, -, hv⟩ := Option.bind_eq_some_iff.mp hw
    exact env.realColumn_again v w hv
  next => cases h

theorem checkWrite_ok_iff {item : MemoryItem} :
    Item.checkWrite env item = .ok () ↔ env.refusal (Item.write item) = none := by
  unfold Item.checkWrite
  cases env.refusal (Item.write item) with
  | none => simp
  | some message => simp

theorem objectOrEmpty_distinct {value : Json} (h : value.distinct = true) :
    (Json.obj (Item.objectOrEmpty env value)).distinct = true := by
  unfold Item.objectOrEmpty
  split
  · exact h
  next text =>
    split
    next d hd => exact env.loads_distinct _ _ hd
    next => rfl
  all_goals rfl

/-- What is restored has no summary, a confidence within bounds and times as columns hold
them. -/
theorem restored_ok {item : MemoryItem} (hdata : (Json.obj data).distinct = true)
    (h : Item.restored env data = .ok item) :
    data.get "id" = some (.str item.id) ∧ (Json.obj item.metadata).distinct = true
      ∧ (∀ time ∈ Item.times item, env.realColumn time = some time)
      ∧ item.summary = "" ∧ 0 ≤ item.confidence ∧ item.confidence ≤ 1 := by
  unfold Item.restored at h
  obtain ⟨u, -, h⟩ := bind_eq_ok.mp h
  split at h
  next confidence hconfidence =>
    obtain ⟨id, hid, h⟩ := bind_eq_ok.mp h
    obtain ⟨type, -, h⟩ := bind_eq_ok.mp h
    obtain ⟨status, -, h⟩ := bind_eq_ok.mp h
    obtain ⟨scope, -, h⟩ := bind_eq_ok.mp h
    obtain ⟨content, -, h⟩ := bind_eq_ok.mp h
    obtain ⟨source, -, h⟩ := bind_eq_ok.mp h
    obtain ⟨createdAt, hcreated, h⟩ := bind_eq_ok.mp h
    obtain ⟨updatedAt, hupdated, h⟩ := bind_eq_ok.mp h
    obtain ⟨lastVerifiedAt, hverified, h⟩ := bind_eq_ok.mp h
    obtain ⟨expiresAt, hexpires, h⟩ := bind_eq_ok.mp h
    obtain ⟨reason, -, h⟩ := bind_eq_ok.mp h
    obtain ⟨provenance, -, h⟩ := bind_eq_ok.mp h
    obtain rfl := pure_eq_ok.mp h
    refine ⟨textField_ok hid, objectOrEmpty_distinct ?_, ?_, rfl, clamp_nonneg _, clamp_le_one _⟩
    · cases hmetadata : data.get "metadata" with
      | none => rfl
      | some value => exact ((distinct_obj_iff data).mp hdata).2 _ (mem_of_get hmetadata)
    · intro time htime
      simp only [Item.times, List.mem_cons, List.not_mem_nil, or_false] at htime
      rcases htime with rfl | rfl | rfl | rfl
      · exact timeField_ok hcreated
      · exact timeField_ok hupdated
      · exact timeField_ok hverified
      · exact timeField_ok hexpires
  next => cases h

theorem restore_eq_ok_iff : Item.restore env home data = .ok home'
    ↔ ∃ item memory, Item.restored env data = .ok item
      ∧ env.refusal (Item.write item) = none
      ∧ home.memory.storeItem item = .ok memory ∧ home' = { home with memory := memory } := by
  unfold Item.restore
  constructor
  · intro h
    obtain ⟨item, hitem, h⟩ := bind_eq_ok.mp h
    obtain ⟨u, hwrite, h⟩ := bind_eq_ok.mp h
    obtain ⟨memory, hmemory, h⟩ := bind_eq_ok.mp h
    exact ⟨item, memory, hitem, checkWrite_ok_iff.mp hwrite, mapError_eq_ok.mp hmemory,
      (pure_eq_ok.mp h).symm⟩
  · rintro ⟨item, memory, hitem, hwrite, hmemory, rfl⟩
    rw [bind_of_eq_ok hitem, bind_of_eq_ok (checkWrite_ok_iff.mpr hwrite),
      bind_of_eq_ok (mapError_eq_ok.mpr hmemory)]
    rfl

/-! ## What is restored of the text of an item -/

theorem dict_distinct {item : MemoryItem} (hmetadata : (Json.obj item.metadata).distinct = true)
    (htimes : ∀ time ∈ Item.times item, env.realColumn time = some time) :
    (Json.obj (Item.dict item)).distinct = true := by
  have hscalar (time : Json) (h : time ∈ Item.times item) : time.distinct = true := by
    have hheld := env.realColumn_scalar _ _ (htimes time h)
    cases time <;> first | rfl | cases hheld
  simp only [Item.times, List.mem_cons, List.not_mem_nil, or_false, forall_eq_or_imp,
    forall_eq] at hscalar
  obtain ⟨hcreated, hupdated, hverified, hexpires⟩ := hscalar
  rw [distinct_obj_iff]
  constructor
  · simp [Item.dict]
  · intro entry hentry
    simp only [Item.dict, List.mem_cons, List.not_mem_nil, or_false] at hentry
    rcases hentry with rfl | rfl | rfl | rfl | rfl | rfl | rfl | rfl | rfl | rfl | rfl | rfl
      | rfl | rfl | rfl
    all_goals first | assumption | rfl

/-- The item without its summary, as it is restored with other metadata. -/
def restoredOf (item : MemoryItem) (metadata : Dict) : MemoryItem :=
  { item with confidence := Item.clamp item.confidence, metadata := metadata, summary := "" }

theorem textField_of_same {item : MemoryItem} (h : Same (.obj data) (.obj (Item.dict item)))
    {key s : String} (default : Option String) (hkey : (Item.dict item).get key = some (.str s)) :
    Item.textField data key default = .ok s := by
  unfold Item.textField
  rw [get_of_same h hkey rfl]

theorem timeField_of_same {item : MemoryItem} (h : Same (.obj data) (.obj (Item.dict item)))
    {key : String} {time : Json} (hheld : env.realColumn time = some time)
    (hkey : (Item.dict item).get key = some time) : Item.timeField env data key = .ok time := by
  unfold Item.timeField
  rw [get_of_same h hkey (env.realColumn_scalar _ _ hheld), Option.bind_some, hheld]

theorem keys_of_same {item : MemoryItem} (h : Same (.obj data) (.obj (Item.dict item))) :
    (data.all fun entry => entry.1 ∈ Item.fields) = true
      ∧ ∀ field ∈ Item.fields.take 11, (data.get field).isSome := by
  constructor
  · rw [List.all_eq_true]
    intro entry hentry
    exact decide_eq_true (h.mem_keys hentry)
  · intro field hfield
    have hkey : field ∈ (Item.dict item).map Prod.fst := List.mem_of_mem_take hfield
    obtain ⟨v, hv⟩ : ∃ v, (Item.dict item).get field = some v := by
      simp only [Item.dict, List.map_cons, List.map_nil, List.mem_cons, List.not_mem_nil,
        or_false] at hkey
      rcases hkey with rfl | rfl | rfl | rfl | rfl | rfl | rfl | rfl | rfl | rfl | rfl | rfl
        | rfl | rfl | rfl
      all_goals exact ⟨_, rfl⟩
    obtain ⟨w, hw, -⟩ := h.get hv
    rw [hw]
    rfl

theorem restored_of_same {item : MemoryItem}
    (htimes : ∀ time ∈ Item.times item, env.realColumn time = some time)
    (h : Same (.obj data) (.obj (Item.dict item))) :
    ∃ metadata, Same (.obj metadata) (.obj item.metadata)
      ∧ Item.restored env data = .ok (restoredOf item metadata) := by
  simp only [Item.times, List.mem_cons, List.not_mem_nil, or_false, forall_eq_or_imp,
    forall_eq] at htimes
  obtain ⟨hcreated, hupdated, hverified, hexpires⟩ := htimes
  obtain ⟨v, hv, hsame⟩ := @Same.get _ _ h "metadata" (.obj item.metadata) rfl
  obtain ⟨metadata, rfl⟩ := hsame.obj
  have hconfidence : data.get "confidence" = some (.float item.confidence) :=
    get_of_same h rfl rfl
  refine ⟨metadata, hsame, ?_⟩
  unfold Item.restored
  rw [bind_of_eq_ok (@require_eq_ok _ _ _ _ ()|>.mpr (keys_of_same h)), hconfidence, hv]
  dsimp only [Option.getD_some, Item.number]
  rw [bind_of_eq_ok (textField_of_same h none rfl), bind_of_eq_ok (textField_of_same h none rfl),
    bind_of_eq_ok (textField_of_same h none rfl), bind_of_eq_ok (textField_of_same h none rfl),
    bind_of_eq_ok (textField_of_same h none rfl), bind_of_eq_ok (textField_of_same h none rfl),
    bind_of_eq_ok (timeField_of_same h hcreated rfl),
    bind_of_eq_ok (timeField_of_same h hupdated rfl),
    bind_of_eq_ok (timeField_of_same h hverified rfl),
    bind_of_eq_ok (timeField_of_same h hexpires rfl),
    bind_of_eq_ok (textField_of_same h _ rfl), bind_of_eq_ok (textField_of_same h _ rfl)]
  rfl

/-- What the hooks are told depends on the metadata by their keys in order, and on the confidence
within bounds. -/
theorem write_restoredOf {item : MemoryItem} {metadata : Dict}
    (h : Same (.obj metadata) (.obj item.metadata)) :
    Item.write (restoredOf item metadata) = Item.write item := by
  unfold Item.write restoredOf
  dsimp only
  rw [h.sortedKeys, clamp_clamp]

theorem restore_of_restored {item : MemoryItem} (hitem : Item.restored env data = .ok item)
    (hwrite : env.refusal (Item.write item) = none) (hrefusal : item.refusal = none) (home : Home) :
    ∃ home', Item.restore env home data = .ok home'
      ∧ home'.memory.items = home.memory.items.upsert item := by
  obtain ⟨memory, hmemory, hitems, -⟩ := storeItem_eq_ok (s := home.memory) hrefusal
  exact ⟨{ home with memory := memory },
    restore_eq_ok_iff.mpr ⟨item, memory, hitem, hwrite, hmemory, rfl⟩, hitems⟩

/-! ## The adapter -/

theorem item_validate_ok (h : Item.validate env home targetId candidate = .ok ()) :
    ∃ data current, jsonObject env candidate "memory_item" = .ok data
      ∧ home.memory.items.get? targetId = some current ∧ textOr env data "id" "" = targetId
      ∧ ∀ key ∈ Item.immutable, Item.unchanged data current key = true := by
  unfold Item.validate at h
  obtain ⟨data, hdata, h⟩ := bind_eq_ok.mp h
  split at h
  next => cases h
  next current hcurrent =>
    obtain ⟨u, hid, h⟩ := bind_eq_ok.mp h
    obtain ⟨v, -, h⟩ := bind_eq_ok.mp h
    have hchanged := require_eq_ok.mp h
    refine ⟨data, current, hdata, hcurrent, require_eq_ok.mp hid, fun key hkey => ?_⟩
    by_contra hnot
    have hmem : key ∈ Item.immutable.filter (!Item.unchanged data current ·) :=
      List.mem_filter.mpr ⟨hkey, by simpa using hnot⟩
    rw [hchanged] at hmem
    cases hmem

theorem sameItem_restoredOf_iff {item : MemoryItem} {metadata : Dict}
    (hagrees : Same (.obj metadata) (.obj item.metadata)) :
    SameItem item (restoredOf item metadata)
      ↔ item.summary = "" ∧ 0 ≤ item.confidence ∧ item.confidence ≤ 1 := by
  rw [← clamp_eq_self_iff]
  unfold SameItem restoredOf
  constructor
  · rintro ⟨hitem, -⟩
    exact ⟨(congrArg MemoryItem.summary hitem).symm, congrArg MemoryItem.confidence hitem⟩
  · rintro ⟨hsummary, hconfidence⟩
    refine ⟨?_, hagrees⟩
    dsimp only
    rw [hconfidence, ← hsummary]

theorem item_rollsBack_iff
    (hstored : ∀ item ∈ home.memory.items.rows, (Json.obj item.metadata).distinct = true
      ∧ ∀ time ∈ Item.times item, env.realColumn time = some time)
    (h : Item.validate env home targetId candidate = .ok ()) :
    RollsBack env .memoryItem home targetId candidate started applied later
      ↔ Restorable env home targetId .memoryItem := by
  obtain ⟨-, current, -, hcurrent, -, -⟩ := item_validate_ok h
  obtain ⟨hmem, hid⟩ := Table.get?_eq_some_iff.mp hcurrent
  obtain ⟨hdistinct, htimes⟩ := hstored current hmem
  have hstate : rollbackState env home started targetId .memoryItem
      = .ok (home, dumpJson env (Item.dict current)) := by
    simp only [rollbackState, Adapter.read, Item.read, hcurrent]
  obtain ⟨e, he, hsame⟩ := @jsonObject_dumpJson env _ (dict_distinct hdistinct htimes)
    "memory_item"
  obtain ⟨metadata, hagrees, hrestored⟩ := restored_of_same htimes hsame
  have hrollback (home' : Home) :
      Item.rollback env home' targetId (dumpJson env (Item.dict current))
        = Item.restore env home' e := by
    unfold Item.rollback
    rw [if_neg (dumpJson_ne_empty _)]
    exact bind_of_eq_ok he
  have hiff := sameItem_restoredOf_iff hagrees
  simp only [Restorable, hcurrent, Option.mem_some_iff, forall_eq']
  constructor
  · rintro ⟨home₁, recorded, home₂, hrecorded, hrolled, hkept⟩
    obtain ⟨rfl, rfl⟩ := Prod.mk.inj (Except.ok.inj (hstate.symm.trans hrecorded))
    obtain ⟨item, memory, hitem, hwrite, hmemory, rfl⟩ :=
      restore_eq_ok_iff.mp ((hrollback _).symm.trans hrolled)
    obtain rfl := Except.ok.inj (hrestored.symm.trans hitem)
    rw [write_restoredOf hagrees] at hwrite
    have hget : memory.items.get? targetId = some (restoredOf current metadata) := by
      rw [(items_of_storeItem hmemory).1, Table.get?_upsert]
      exact if_pos hid
    simp only [SameTarget, hcurrent, hget] at hkept
    cases hkept with
    | some hsameItem =>
        obtain ⟨hsummary, hlow, hhigh⟩ := hiff.mp hsameItem
        exact ⟨hsummary, hlow, hhigh, hwrite⟩
  · rintro ⟨hsummary, hlow, hhigh, hwrite⟩
    obtain ⟨home₂, hrolled, hitems⟩ := restore_of_restored hrestored
      ((congrArg env.refusal (write_restoredOf hagrees)).trans hwrite)
      (home.memory.stored current hmem)
      (attempt env home applied targetId candidate .memoryItem)
    refine ⟨home, _, home₂, hstate, (hrollback _).trans hrolled, ?_⟩
    simp only [SameTarget, hcurrent]
    rw [hitems, Table.get?_upsert, show (restoredOf current metadata).id = targetId from hid,
      if_pos rfl]
    exact .some (hiff.mpr ⟨hsummary, hlow, hhigh⟩)

theorem same_dict {item : MemoryItem} {metadata : Dict}
    (h : Same (.obj metadata) (.obj item.metadata)) :
    Same (.obj (Item.dict { item with metadata := metadata })) (.obj (Item.dict item)) := by
  unfold Same at h ⊢
  rw [sortKeys_obj, sortKeys_obj]
  simp only [Item.dict, sortEntries, h]

theorem equal_str {value : Json} {s : String} (h : Item.equal value (.str s) = true) :
    value = .str s := by
  unfold Item.equal at h
  cases value <;> simp_all [Item.number]

theorem item_recognised_iff (h : Item.validate env home targetId candidate = .ok ()) :
    Recognised env .memoryItem home targetId candidate started applied later
      ↔ Readable env targetId candidate applied .memoryItem := by
  obtain ⟨data, current, hdata, hcurrent, hid, hunchanged⟩ := item_validate_ok h
  have hdistinct := jsonObject_distinct hdata
  have happly : Adapter.apply env home applied targetId candidate .memoryItem
      = Item.restore env home data := by
    unfold Adapter.apply Item.apply
    rw [bind_of_eq_ok h, bind_of_eq_ok hdata]
  have hread {home' : Home} {item : MemoryItem} (hitem : item.id = targetId)
      (hitems : home'.memory.items = home.memory.items.upsert item) :
      Adapter.read env home' later targetId .memoryItem
        = .ok (home', dumpJson env (Item.dict item)) := by
    simp only [Adapter.read, Item.read, hitems, Table.get?_upsert, if_pos hitem]
  have hidOf {id : String} (hget : data.get "id" = some (.str id)) : id = targetId := by
    rw [textOr_of_get hget] at hid
    split at hid
    next hempty => rw [hempty, hid]
    next => exact hid
  simp only [Readable]
  constructor
  · rintro ⟨home₁, before, home₂, home₃, text, hbefore, happlied, htext, hreconcile⟩
    obtain ⟨rfl, -⟩ := Prod.mk.inj (Except.ok.inj hbefore)
    obtain ⟨item, memory, hitem, hwrite, hmemory, rfl⟩ :=
      restore_eq_ok_iff.mp (happly.symm.trans happlied)
    obtain ⟨hget, hmetadata, htimes, hsummary, hlow, hhigh⟩ := restored_ok hdistinct hitem
    rw [hread (hidOf hget) (items_of_storeItem hmemory).1] at htext
    obtain ⟨-, rfl⟩ := Prod.mk.inj (Except.ok.inj htext)
    have hrefusal := refusal_of_storeItem hmemory
    refine ⟨item, (reconcileApplying_applied_iff.mp hreconcile).symm, hmetadata, htimes, hsummary,
      hlow, hhigh, ?_, hwrite⟩
    intro hblank
    unfold MemoryItem.refusal at hrefusal
    rw [if_pos hblank] at hrefusal
    split at hrefusal <;> cases hrefusal
  · rintro ⟨item, rfl, hmetadata, htimes, hsummary, hlow, hhigh, hreason, hwrite⟩
    have hsame := jsonObject_of_dumpJson (dict_distinct hmetadata htimes) hdata
    obtain ⟨metadata, hagrees, hrestored⟩ := restored_of_same htimes hsame
    have hkept (key : String) {s : String} (hkey : key ∈ Item.immutable)
        (hitem : (Item.dict item).get key = some (.str s)) {s' : String}
        (hheld : (Item.dict current).get key = some (.str s')) : s = s' := by
      have hequal := hunchanged key hkey
      unfold Item.unchanged at hequal
      rw [get_of_same hsame hitem rfl, hheld] at hequal
      exact Json.str.inj (equal_str hequal)
    have hsource : item.source = current.source :=
      hkept "source" (by decide) rfl rfl
    have hprovenance : item.provenance = current.provenance :=
      hkept "provenance" (by decide) rfl rfl
    have hrefusal : (restoredOf item metadata).refusal = none := by
      have hstored := home.memory.stored current (Table.get?_eq_some_iff.mp hcurrent).1
      unfold MemoryItem.refusal restoredOf at *
      dsimp only at *
      rw [hsource, hprovenance, if_neg hreason]
      split at hstored
      · cases hstored
      next hgiven =>
        rw [if_neg hgiven]
        split at hstored
        · cases hstored
        · exact hstored
    obtain ⟨home₂, hstore, hitems⟩ := restore_of_restored hrestored
      ((congrArg env.refusal (write_restoredOf hagrees)).trans hwrite) hrefusal home
    have hitem : (restoredOf item metadata).id = targetId :=
      hidOf (get_of_same hsame rfl rfl)
    have hbefore : Adapter.read env home started targetId .memoryItem
        = .ok (home, Item.read env home targetId) := rfl
    rw [recognised_iff hbefore (happly.trans hstore) (hread hitem hitems)]
    have hsameItem : restoredOf item metadata = { item with metadata := metadata } := by
      unfold restoredOf
      rw [(clamp_eq_self_iff _).mpr ⟨hlow, hhigh⟩, ← hsummary]
    rw [hsameItem]
    exact dumpJson_eq_iff.mpr (same_dict hagrees)

end

end Navi.Evolution
