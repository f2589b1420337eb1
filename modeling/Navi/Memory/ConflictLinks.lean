import Mathlib
import Navi.Memory.ConflictAudit

/-!
# When an audit keeps every link

What an audit leaves of an item depends on the contradictory pairs that the item is in. Where
its metadata has a list of contradictions, the list is shared by all that is written, and what
is lost is what an earlier write put beside it. Where there is none, each write starts anew,
and a mark of supersession starts from metadata without a link.
-/

namespace Navi.Memory

open Navi.Base

/-! ## What is claimed -/

/-- The id is in the list of contradictions. -/
def Linked (metadata : Dict) (id : String) : Prop :=
  .str id ∈ asList (metadata.get "contradicts")

/-- The id is what supersedes, or is in the list of what does. -/
def Superseded (metadata : Dict) (id : String) : Prop :=
  metadata.get "superseded_by" = some (.str id) ∨ .str id ∈ asList (metadata.get "superseded_by")

/-- The entries of a value that names ids, a list or one id. -/
def idEntries : Option Json → List Json
  | some (.str id) => if strip id = "" then [] else [.str id]
  | value => asList value

/-- The answer names this item as superseded. -/
def Verdict.supersedes (verdict : Verdict) (id : String) : Bool :=
  verdict.supersededId ≠ "" ∧ verdict.supersededId = id

/-- The pairs that are called contradictory, in the order of the checks. -/
def contradictions (engine : AuditEngine) (pairs : List (MemoryItem × MemoryItem)) :
    List ((MemoryItem × MemoryItem) × Verdict) :=
  pairs.filterMap fun pair => (engine.verdict pair.1 pair.2).map fun verdict => (pair, verdict)

def MemoryTables.metadataOf (s : MemoryTables) (id : String) : Dict :=
  ((s.items.get? id).map (·.metadata)).getD []

/-- After the audit both items of a contradictory pair are linked to each other, every key and
every entry of the contradictions is there that was, and every supersession is recorded. -/
structure LinksKept (engine : AuditEngine) (s : MemoryTables) (limit : Int)
    (allowedScopes : Option (Finset String)) (now : Time) (after : MemoryTables) : Prop where
  linked : ∀ found ∈ contradictions engine (pairsToCheck engine s limit allowedScopes),
    Linked (after.metadataOf found.1.1.id) found.1.2.id
      ∧ Linked (after.metadataOf found.1.2.id) found.1.1.id
  keys : ∀ item ∈ s.items.rows, ∀ key, (item.metadata.get key).isSome →
    ((after.metadataOf item.id).get key).isSome
  entries : ∀ item ∈ s.items.rows, ∀ entry ∈ idEntries (item.metadata.get "contradicts"),
    entry ∈ idEntries ((after.metadataOf item.id).get "contradicts")
  superseded : ∀ found ∈ contradictions engine (pairsToCheck engine s limit allowedScopes),
    (found.2.supersedes found.1.1.id → Superseded (after.metadataOf found.1.1.id) found.1.2.id)
      ∧ (found.2.supersedes found.1.2.id → Superseded (after.metadataOf found.1.2.id) found.1.1.id)

/-! ## The pairs of an item -/

/-- A contradictory pair as one of its items sees it. -/
structure Touch where
  other : String
  explanation : Option String
  superseded : Bool
  deriving DecidableEq

/-- A pair as this item sees it, where it is in it. -/
def touchOf (id : String) (found : (MemoryItem × MemoryItem) × Verdict) : Option Touch :=
  if found.1.1.id = id then
    some ⟨found.1.2.id, some found.2.explanation, found.2.supersedes id⟩
  else if found.1.2.id = id then some ⟨found.1.1.id, none, found.2.supersedes id⟩
  else none

/-- The contradictory pairs of an item. -/
def touches (engine : AuditEngine) (pairs : List (MemoryItem × MemoryItem)) (id : String) :
    List Touch :=
  (contradictions engine pairs).filterMap (touchOf id)

/-- The metadata has a list of contradictions. -/
def hasList (metadata : Dict) : Bool :=
  match metadata.get "contradicts" with
  | some (.arr _) => true
  | _ => false

/-- Where the item has a list of contradictions, no supersession of it is reported but by the
last of its contradictory pairs or, if that reports none, by what supersedes it already. Where
it has none, all of its contradictory pairs are with one item, the last reports no supersession
of it, and it names no other contradiction. -/
def Keepable (metadata : Dict) (touches : List Touch) : Prop :=
  ∀ last ∈ touches.getLast?,
    if hasList metadata then
      ∀ touch ∈ touches, touch.superseded →
        if last.superseded then touch.other = last.other
        else Superseded metadata touch.other
    else
      last.superseded = false
        ∧ (∀ touch ∈ touches, touch.other = last.other)
        ∧ (∀ touch ∈ touches, touch.superseded → Superseded metadata touch.other)
        ∧ ∀ entry ∈ idEntries (metadata.get "contradicts"), entry = .str last.other

/-- Every item of the store is as a link of it can be kept. -/
def LinksKeepable (engine : AuditEngine) (s : MemoryTables) (limit : Int)
    (allowedScopes : Option (Finset String)) : Prop :=
  ∀ item ∈ s.items.rows,
    Keepable item.metadata (touches engine (pairsToCheck engine s limit allowedScopes) item.id)

/-! ## One item -/

/-- The metadata of the listed object of an item, and of its row. -/
structure Copies where
  object : Dict
  stored : Dict

/-- The copies after a contradictory pair. -/
def Copies.touch (copies : Copies) (touch : Touch) : Copies :=
  let linked := recordLink copies.object touch.other
  { object := linked.1
    stored :=
      if touch.superseded then linked.1.put "superseded_by" (.str touch.other)
      else touch.explanation.elim linked.2 fun text =>
        linked.2.put "llm_conflict_explanation" (.str text) }

structure ItemKept (before after : Dict) (touches : List Touch) : Prop where
  linked : ∀ touch ∈ touches, Linked after touch.other
  keys : ∀ key, (before.get key).isSome → (after.get key).isSome
  entries : ∀ entry ∈ idEntries (before.get "contradicts"),
    entry ∈ idEntries (after.get "contradicts")
  superseded : ∀ touch ∈ touches, touch.superseded → Superseded after touch.other

section

variable {metadata : Dict} {copies : Copies} {other : String} {xs : List Json}

theorem Copies.eq_of_object (h : copies.object = metadata) :
    copies = ⟨metadata, copies.stored⟩ := by
  subst h
  rfl

theorem mem_appendOnce {id : String} {x : Json} :
    x ∈ appendOnce xs id ↔ x ∈ xs ∨ x = .str id := by
  unfold appendOnce
  split
  next hmem =>
    constructor
    · exact .inl
    · rintro (hx | rfl)
      · exact hx
      · exact hmem
  next => simp

theorem hasList_iff : hasList metadata = true
    ↔ ∃ xs, metadata.get "contradicts" = some (.arr xs) := by
  unfold hasList
  split
  next xs hlist => exact ⟨fun _ => ⟨xs, hlist⟩, fun _ => rfl⟩
  next hnot =>
    constructor
    · intro h
      cases h
    · rintro ⟨xs, hxs⟩
      exact absurd hxs (hnot xs)

theorem asList_of_hasList_false (h : hasList metadata = false) :
    asList (metadata.get "contradicts") = [] := by
  unfold asList
  split
  next xs hxs =>
    have htrue := hasList_iff.mpr ⟨xs, hxs⟩
    rw [h] at htrue
    cases htrue
  next => rfl

theorem recordLink_of_list (h : metadata.get "contradicts" = some (.arr xs)) :
    recordLink metadata other
      = (metadata.put "contradicts" (.arr (appendOnce xs other)),
          metadata.put "contradicts" (.arr (appendOnce xs other))) := by
  unfold recordLink
  rw [h]
  rfl

theorem recordLink_of_not (h : hasList metadata = false) :
    recordLink metadata other = (metadata, metadata.put "contradicts" (.arr [.str other])) := by
  unfold recordLink
  rw [asList_of_hasList_false h]
  dsimp only
  split
  next xs hxs =>
    have htrue := hasList_iff.mpr ⟨xs, hxs⟩
    rw [h] at htrue
    cases htrue
  next => rfl

theorem object_foldl_of_list (h : metadata.get "contradicts" = some (.arr xs)) (stored : Dict)
    (touches : List Touch) :
    ∃ ys, ((touches.foldl Copies.touch ⟨metadata, stored⟩).object.get "contradicts"
          = some (.arr ys))
      ∧ (∀ x ∈ xs, x ∈ ys) ∧ (∀ touch ∈ touches, .str touch.other ∈ ys)
      ∧ ∀ key, key ≠ "contradicts" →
        (touches.foldl Copies.touch ⟨metadata, stored⟩).object.get key = metadata.get key := by
  induction touches generalizing metadata stored xs with
  | nil => exact ⟨xs, h, fun _ hx => hx, by simp, fun _ _ => rfl⟩
  | cons touch rest ih =>
      have hlinked : (Copies.touch ⟨metadata, stored⟩ touch).object
          = metadata.put "contradicts" (.arr (appendOnce xs touch.other)) := by
        unfold Copies.touch
        rw [recordLink_of_list h]
      obtain ⟨ys, hys, hxs, htouches, hkeys⟩ :=
        @ih (metadata.put "contradicts" (.arr (appendOnce xs touch.other)))
          (appendOnce xs touch.other) (by simp) (Copies.touch ⟨metadata, stored⟩ touch).stored
      rw [List.foldl_cons]
      rw [Copies.eq_of_object hlinked]
      refine ⟨ys, hys, fun x hx => hxs x (mem_appendOnce.mpr (.inl hx)), ?_, fun key hkey => ?_⟩
      · intro later hlater
        rcases List.mem_cons.mp hlater with rfl | hlater
        · exact hxs _ (mem_appendOnce.mpr (.inr rfl))
        · exact htouches later hlater
      · rw [hkeys key hkey, Dict.get_put, if_neg (Ne.symm hkey)]

theorem object_foldl_of_not (h : hasList metadata = false) (stored : Dict)
    (touches : List Touch) :
    (touches.foldl Copies.touch ⟨metadata, stored⟩).object = metadata := by
  induction touches generalizing stored with
  | nil => rfl
  | cons touch rest ih =>
      have hsame : (Copies.touch ⟨metadata, stored⟩ touch).object = metadata := by
        unfold Copies.touch
        rw [recordLink_of_not h]
      rw [List.foldl_cons, Copies.eq_of_object hsame, ih]

theorem stored_get_of_not_superseded {touch : Touch} (h : touch.superseded = false) {key : String}
    (hkey : key ≠ "llm_conflict_explanation") :
    (copies.touch touch).stored.get key
      = (recordLink copies.object touch.other).2.get key := by
  unfold Copies.touch
  dsimp only
  rw [h]
  cases touch.explanation with
  | none => rfl
  | some text => simp [Ne.symm hkey]

theorem stored_isSome_of_not_superseded {touch : Touch} (h : touch.superseded = false)
    {key : String} (hkey : ((recordLink copies.object touch.other).2.get key).isSome) :
    ((copies.touch touch).stored.get key).isSome := by
  by_cases hname : key = "llm_conflict_explanation"
  · subst hname
    unfold Copies.touch
    dsimp only
    rw [h]
    cases touch.explanation with
    | none => exact hkey
    | some text => simp
  · rw [stored_get_of_not_superseded h hname]
    exact hkey

end

section

variable {metadata stored : Dict} {touches : List Touch} {last : Touch} {xs : List Json}

theorem foldl_touch_snoc (copies : Copies) (touches : List Touch) (last : Touch) :
    (touches ++ [last]).foldl Copies.touch copies
      = (touches.foldl Copies.touch copies).touch last :=
  List.foldl_concat ..

theorem stored_of_list (h : metadata.get "contradicts" = some (.arr xs)) (touches : List Touch)
    (last : Touch) :
    let after := ((touches ++ [last]).foldl Copies.touch ⟨metadata, metadata⟩).stored
    (∃ ys, after.get "contradicts" = some (.arr ys) ∧ (∀ x ∈ xs, x ∈ ys)
        ∧ ∀ touch ∈ touches ++ [last], .str touch.other ∈ ys)
      ∧ (∀ key, (metadata.get key).isSome → (after.get key).isSome)
      ∧ after.get "superseded_by" = if last.superseded then some (.str last.other)
          else metadata.get "superseded_by" := by
  obtain ⟨ys, hys, hxs, htouches, hkeys⟩ := object_foldl_of_list h metadata touches
  dsimp only
  rw [foldl_touch_snoc]
  generalize touches.foldl Copies.touch ⟨metadata, metadata⟩ = copies at hys hkeys ⊢
  have hlinked := @recordLink_of_list copies.object last.other ys hys
  have hmem : ∀ touch ∈ touches ++ [last], .str touch.other ∈ appendOnce ys last.other := by
    intro touch htouch
    rcases List.mem_append.mp htouch with hearlier | hlast
    · exact mem_appendOnce.mpr (.inl (htouches touch hearlier))
    · obtain rfl := List.mem_singleton.mp hlast
      exact mem_appendOnce.mpr (.inr rfl)
  have hold : ∀ x ∈ xs, x ∈ appendOnce ys last.other :=
    fun x hx => mem_appendOnce.mpr (.inl (hxs x hx))
  have hget : ∀ key, ((copies.object.put "contradicts" (.arr (appendOnce ys last.other))).get key)
      = if "contradicts" = key then some (.arr (appendOnce ys last.other))
        else metadata.get key := by
    intro key
    rw [Dict.get_put]
    split
    next => rfl
    next hkey => exact hkeys key (Ne.symm hkey)
  have hkept : ∀ key, (metadata.get key).isSome →
      ((copies.object.put "contradicts" (.arr (appendOnce ys last.other))).get key).isSome := by
    intro key hsome
    rw [hget]
    split
    next => rfl
    next => exact hsome
  cases hsuperseded : last.superseded with
  | true =>
      have hstored : (copies.touch last).stored
          = (copies.object.put "contradicts" (.arr (appendOnce ys last.other))).put
              "superseded_by" (.str last.other) := by
        unfold Copies.touch
        rw [hsuperseded, hlinked]
        rfl
      rw [hstored]
      refine ⟨⟨_, by simp, hold, hmem⟩, ?_, by simp⟩
      intro key hsome
      rw [Dict.get_put]
      split
      next => rfl
      next => exact hkept key hsome
  | false =>
      refine ⟨⟨appendOnce ys last.other, ?_, hold, hmem⟩, ?_, ?_⟩
      · rw [stored_get_of_not_superseded hsuperseded (by decide), hlinked]
        simp
      · intro key hsome
        refine stored_isSome_of_not_superseded hsuperseded ?_
        rw [hlinked]
        exact hkept key hsome
      · rw [stored_get_of_not_superseded hsuperseded (by decide), hlinked]
        show Dict.get _ "superseded_by" = _
        rw [hget, if_neg (by decide)]
        rfl

theorem itemKept_of_list_iff (h : metadata.get "contradicts" = some (.arr xs))
    (touches : List Touch) (last : Touch) :
    ItemKept metadata ((touches ++ [last]).foldl Copies.touch ⟨metadata, metadata⟩).stored
        (touches ++ [last])
      ↔ ∀ touch ∈ touches ++ [last], touch.superseded →
          if last.superseded then touch.other = last.other
          else Superseded metadata touch.other := by
  obtain ⟨⟨ys, hys, hxs, htouches⟩, hkeys, hsuperseded⟩ := stored_of_list h touches last
  have hclaimed : ∀ touch : Touch, Superseded
        ((touches ++ [last]).foldl Copies.touch ⟨metadata, metadata⟩).stored touch.other
      ↔ if last.superseded then touch.other = last.other
        else Superseded metadata touch.other := by
    intro touch
    unfold Superseded
    rw [hsuperseded]
    split
    next =>
      constructor
      · rintro (hsame | hmem)
        · exact (Json.str.inj (Option.some.inj hsame)).symm
        · cases hmem
      · intro hsame
        exact .inl (by rw [hsame])
    next => rfl
  constructor
  · intro hkept touch htouch hmark
    exact (hclaimed touch).mp (hkept.superseded touch htouch hmark)
  · intro hall
    refine ⟨fun touch htouch => ?_, hkeys, fun entry hentry => ?_, fun touch htouch hmark =>
      (hclaimed touch).mpr (hall touch htouch hmark)⟩
    · unfold Linked
      rw [hys]
      exact htouches touch htouch
    · rw [h] at hentry
      rw [hys]
      exact hxs entry hentry

theorem itemKept_of_not_iff (h : hasList metadata = false) (touches : List Touch) (last : Touch) :
    ItemKept metadata ((touches ++ [last]).foldl Copies.touch ⟨metadata, metadata⟩).stored
        (touches ++ [last])
      ↔ last.superseded = false
        ∧ (∀ touch ∈ touches ++ [last], touch.other = last.other)
        ∧ (∀ touch ∈ touches ++ [last], touch.superseded → Superseded metadata touch.other)
        ∧ ∀ entry ∈ idEntries (metadata.get "contradicts"), entry = .str last.other := by
  have hobject := object_foldl_of_not h metadata touches
  rw [foldl_touch_snoc]
  generalize touches.foldl Copies.touch ⟨metadata, metadata⟩ = copies at hobject ⊢
  have hlinked : recordLink copies.object last.other
      = (metadata, metadata.put "contradicts" (.arr [.str last.other])) := by
    rw [hobject, recordLink_of_not h]
  have hlast : last ∈ touches ++ [last] := by simp
  cases hmark : last.superseded with
  | true =>
      -- the mark starts from metadata without a link
      refine ⟨fun hkept => ?_, by rintro ⟨hnot, -⟩; cases hnot⟩
      have hstored : (copies.touch last).stored
          = metadata.put "superseded_by" (.str last.other) := by
        unfold Copies.touch
        rw [hmark, hlinked]
        rfl
      have hlink := hkept.linked last hlast
      unfold Linked at hlink
      rw [hstored, Dict.get_put, if_neg (by decide), asList_of_hasList_false h] at hlink
      cases hlink
  | false =>
      have hcontradicts : (copies.touch last).stored.get "contradicts"
          = some (.arr [.str last.other]) := by
        rw [stored_get_of_not_superseded hmark (by decide), hlinked]
        simp
      have hsuperseded : ∀ id, Superseded (copies.touch last).stored id
          ↔ Superseded metadata id := by
        intro id
        unfold Superseded
        rw [stored_get_of_not_superseded hmark (by decide), hlinked]
        simp
      have hlinks : ∀ touch : Touch, Linked (copies.touch last).stored touch.other
          ↔ touch.other = last.other := by
        intro touch
        unfold Linked
        rw [hcontradicts]
        simp [asList]
      constructor
      · intro hkept
        refine ⟨rfl, fun touch htouch => (hlinks touch).mp (hkept.linked touch htouch),
          fun touch htouch hreported =>
            (hsuperseded _).mp (hkept.superseded touch htouch hreported), ?_⟩
        intro entry hentry
        have hthere := hkept.entries entry hentry
        rw [hcontradicts] at hthere
        exact List.mem_singleton.mp hthere
      · rintro ⟨-, hothers, hreported, hentries⟩
        refine ⟨fun touch htouch => (hlinks touch).mpr (hothers touch htouch), ?_, ?_,
          fun touch htouch hmarked => (hsuperseded _).mpr (hreported touch htouch hmarked)⟩
        · intro key hkey
          refine stored_isSome_of_not_superseded hmark ?_
          rw [hlinked]
          show (Dict.get (metadata.put _ _) key).isSome
          rw [Dict.get_put]
          split
          next => rfl
          next => exact hkey
        · intro entry hentry
          rw [hcontradicts, hentries entry hentry]
          exact List.mem_singleton_self _

theorem itemKept_iff (metadata : Dict) (touches : List Touch) :
    ItemKept metadata (touches.foldl Copies.touch ⟨metadata, metadata⟩).stored touches
      ↔ Keepable metadata touches := by
  unfold Keepable
  rcases List.eq_nil_or_concat touches with rfl | ⟨earlier, last, rfl⟩
  · constructor
    · intro _ last hlast
      cases hlast
    · intro _
      exact ⟨by simp, fun _ h => h, fun _ h => h, by simp⟩
  · rw [List.concat_eq_append, List.getLast?_concat]
    simp only [Option.mem_some_iff, forall_eq']
    cases hlist : hasList metadata with
    | true =>
        obtain ⟨xs, hxs⟩ := hasList_iff.mp hlist
        rw [if_pos rfl]
        exact itemKept_of_list_iff hxs earlier last
    | false =>
        rw [if_neg (by decide)]
        exact itemKept_of_not_iff hlist earlier last

end

/-! ## The whole audit -/

namespace AuditState

/-- Every listed object has a row, and is such as the store does not refuse. -/
structure Sound (s : AuditState) : Prop where
  unrefused : ∀ id item, s.objects.get? id = some item → item.refusal = none
  rowed : ∀ id item, s.objects.get? id = some item → ∃ row, s.memory.items.get? id = some row

/-- The metadata of the object and of the row of an item. -/
def copies (s : AuditState) (id : String) : Option Copies :=
  (s.objects.get? id).bind fun object =>
    (s.memory.items.get? id).map fun row => ⟨object.metadata, row.metadata⟩

section

variable {s : AuditState} {item : MemoryItem} {id other : String} {now : Time}

theorem store_get? (h : item.refusal = none) (k : String) :
    (s.store item).memory.items.get? k
      = if item.id = k then some item else s.memory.items.get? k := by
  obtain ⟨after, hstored, hitems, -⟩ := @storeItem_eq_ok s.memory item h
  show ((s.memory.storeItem item).toOption.getD s.memory).items.get? k = _
  rw [hstored]
  show after.items.get? k = _
  rw [hitems, Table.get?_upsert]

theorem copies_of_none (h : s.objects.get? id = none) : s.copies id = none := by
  unfold copies
  rw [h]
  rfl

theorem Sound.write {s' : AuditState} {object row : MemoryItem} (h : s.Sound)
    (hitem : s.objects.get? id = some item)
    (hobjects : ∀ k, s'.objects.get? k
      = (s.objects.get? k).map fun old => if object.id = k then object else old)
    (hrows : ∀ k, s'.memory.items.get? k
      = if row.id = k then some row else s.memory.items.get? k)
    (hobject : object.id = id ∧ object.refusal = item.refusal) (hrow : row.id = id) :
    s'.Sound ∧ ∀ k, s'.copies k
      = if id = k then some ⟨object.metadata, row.metadata⟩ else s.copies k := by
  obtain ⟨hid, hrefusal⟩ := hobject
  refine ⟨⟨fun k other hother => ?_, fun k other hother => ?_⟩, fun k => ?_⟩
  · rw [hobjects] at hother
    obtain ⟨old, hold, rfl⟩ := Option.map_eq_some_iff.mp hother
    split
    next => rw [hrefusal, h.unrefused id item hitem]
    next => exact h.unrefused k old hold
  · rw [hobjects] at hother
    obtain ⟨old, hold, -⟩ := Option.map_eq_some_iff.mp hother
    rw [hrows]
    split
    next => exact ⟨row, rfl⟩
    next => exact h.rowed k old hold
  · unfold copies
    rw [hobjects, hrows, hid, hrow]
    by_cases hk : id = k
    · subst hk
      simp [hitem]
    · simp only [hk, if_false, Option.map_id']

theorem link_spec (h : s.Sound) (explanation : Option String) :
    (s.link id other explanation now).Sound
      ∧ ∀ k, (s.link id other explanation now).copies k
        = if id = k then (s.copies k).map fun before =>
            ⟨(recordLink before.object other).1,
              explanation.elim (recordLink before.object other).2 fun text =>
                (recordLink before.object other).2.put "llm_conflict_explanation" (.str text)⟩
          else s.copies k := by
  unfold link
  cases hitem : s.objects.get? id with
  | none =>
      refine ⟨h, fun k => ?_⟩
      split
      next hk =>
        subst hk
        rw [copies_of_none hitem]
        exact copies_of_none hitem
      next => rfl
  | some item =>
      obtain ⟨-, hid⟩ := Table.get?_eq_some_iff.mp hitem
      obtain ⟨row, hrow⟩ := h.rowed id item hitem
      have hbefore : s.copies id = some ⟨item.metadata, row.metadata⟩ := by
        unfold copies
        rw [hitem, hrow]
        rfl
      have hrefusal : (linkedRow item other explanation now).refusal = none :=
        h.unrefused id item hitem
      obtain ⟨hsound, hcopies⟩ := @Sound.write s item id
        (AuditState.store { s with objects := s.objects.replace (linkedObject item other) }
          (linkedRow item other explanation now)) _ _ h hitem
        (fun k => Table.get?_replace s.objects (linkedObject item other) k)
        (fun k => store_get? hrefusal k) ⟨hid, rfl⟩ hid
      refine ⟨hsound, fun k => (hcopies k).trans ?_⟩
      by_cases hk : id = k
      · subst hk
        rw [if_pos rfl, if_pos rfl, hbefore]
        rfl
      · rw [if_neg hk, if_neg hk]

theorem markSuperseded_spec (h : s.Sound) :
    (s.markSuperseded id other now).Sound
      ∧ ∀ k, (s.markSuperseded id other now).copies k
        = if id = k then (s.copies k).map fun before =>
            ⟨before.object, before.object.put "superseded_by" (.str other)⟩
          else s.copies k := by
  unfold markSuperseded
  cases hitem : s.objects.get? id with
  | none =>
      refine ⟨h, fun k => ?_⟩
      split
      next hk =>
        subst hk
        rw [copies_of_none hitem]
        exact copies_of_none hitem
      next => rfl
  | some item =>
      obtain ⟨-, hid⟩ := Table.get?_eq_some_iff.mp hitem
      obtain ⟨row, hrow⟩ := h.rowed id item hitem
      have hbefore : s.copies id = some ⟨item.metadata, row.metadata⟩ := by
        unfold copies
        rw [hitem, hrow]
        rfl
      have hrefusal : (supersededRow item other now).refusal = none := h.unrefused id item hitem
      have hobjects : ∀ k, s.objects.get? k
          = (s.objects.get? k).map fun old => if item.id = k then item else old := by
        intro k
        cases hold : s.objects.get? k with
        | none => rfl
        | some old =>
            rw [Option.map_some, hid]
            split
            next hk =>
              subst hk
              rw [hitem] at hold
              exact hold.symm
            next => rfl
      obtain ⟨hsound, hcopies⟩ := @Sound.write s item id
        (s.store (supersededRow item other now)) _ _ h hitem hobjects
        (fun k => store_get? hrefusal k) ⟨hid, rfl⟩ hid
      refine ⟨hsound, fun k => (hcopies k).trans ?_⟩
      by_cases hk : id = k
      · subst hk
        rw [if_pos rfl, if_pos rfl, hbefore]
        rfl
      · rw [if_neg hk, if_neg hk]

end

/-- What a contradictory pair that supersedes an item leaves of it last. -/
def marked (other : String) (before : Copies) : Copies :=
  ⟨before.object, before.object.put "superseded_by" (.str other)⟩

theorem applySupersession_spec {s : AuditState} (h : s.Sound) {a b : String} (hdistinct : a ≠ b)
    (verdict : Verdict) (now : Time) :
    (s.applySupersession a b verdict.supersededId now).Sound
      ∧ ∀ k, (s.applySupersession a b verdict.supersededId now).copies k
        = if verdict.supersedes k ∧ (k = a ∨ k = b)
          then (s.copies k).map (marked (if k = a then b else a)) else s.copies k := by
  unfold applySupersession Verdict.supersedes
  simp only [decide_eq_true_eq]
  by_cases hempty : verdict.supersededId = ""
  · simp only [hempty, if_true, ne_eq, not_true_eq_false, false_and, if_false]
    exact ⟨h, fun _ => trivial⟩
  · simp only [hempty, if_false, ne_eq, not_false_eq_true, true_and]
    by_cases ha : verdict.supersededId = a
    · obtain ⟨hsound, hcopies⟩ := @markSuperseded_spec s a b now h
      simp only [ha, if_true]
      refine ⟨hsound, fun k => (hcopies k).trans ?_⟩
      by_cases hk : a = k
      · subst hk
        rw [if_pos rfl, if_pos ⟨rfl, .inl rfl⟩, if_pos rfl]
        rfl
      · simp [hk]
    · simp only [ha, if_false]
      by_cases hb : verdict.supersededId = b
      · obtain ⟨hsound, hcopies⟩ := @markSuperseded_spec s b a now h
        simp only [hb, if_true]
        refine ⟨hsound, fun k => (hcopies k).trans ?_⟩
        by_cases hk : b = k
        · subst hk
          rw [if_pos rfl, if_pos ⟨rfl, .inr rfl⟩, if_neg (Ne.symm hdistinct)]
          rfl
        · simp [hk]
      · simp only [hb, if_false]
        refine ⟨h, fun k => ?_⟩
        rw [if_neg]
        rintro ⟨hsame, rfl | rfl⟩
        · exact ha hsame
        · exact hb hsame

theorem recordConflict_spec {s : AuditState} (h : s.Sound) {pair : MemoryItem × MemoryItem}
    (hdistinct : pair.1.id ≠ pair.2.id) (verdict : Verdict) (now : Time) :
    (s.recordConflict pair.1.id pair.2.id verdict now).Sound
      ∧ ∀ k, (s.recordConflict pair.1.id pair.2.id verdict now).copies k
        = (touchOf k (pair, verdict)).elim (s.copies k) fun touch =>
            (s.copies k).map fun before => before.touch touch := by
  obtain ⟨hfirst, hcopies⟩ := @link_spec s pair.1.id pair.2.id now h (some verdict.explanation)
  obtain ⟨hsecond, hcopies'⟩ := @link_spec _ pair.2.id pair.1.id now hfirst none
  obtain ⟨hthird, hcopies''⟩ := applySupersession_spec hsecond hdistinct verdict now
  refine ⟨hthird, fun k => (hcopies'' k).trans ?_⟩
  rw [hcopies', hcopies]
  unfold touchOf
  by_cases hfirstItem : pair.1.id = k
  · subst hfirstItem
    cases hmark : verdict.supersedes pair.1.id with
    | true => simp [Ne.symm hdistinct, Copies.touch, marked, Function.comp_def]
    | false => simp [Ne.symm hdistinct, Copies.touch]
  · by_cases hsecondItem : pair.2.id = k
    · subst hsecondItem
      cases hmark : verdict.supersedes pair.2.id with
      | true => simp [hdistinct, Ne.symm hdistinct, Copies.touch, marked, Function.comp_def]
      | false => simp [hdistinct, Ne.symm hdistinct, Copies.touch]
    · simp [hfirstItem, hsecondItem, Ne.symm hfirstItem, Ne.symm hsecondItem]

/-- The checks of pairs of distinct items change the copies of each item by its contradictory
pairs, one after the other. -/
theorem checkPairs_spec (engine : AuditEngine) (now : Time) {s : AuditState} (h : s.Sound)
    {pairs : List (MemoryItem × MemoryItem)} (hdistinct : ∀ pair ∈ pairs, pair.1.id ≠ pair.2.id)
    (k : String) :
    (checkPairs engine now s pairs).1.copies k
      = (s.copies k).map fun before => (touches engine pairs k).foldl Copies.touch before := by
  induction pairs generalizing s with
  | nil =>
      show s.copies k = (s.copies k).map fun before => before
      rw [Option.map_id']
  | cons pair rest ih =>
      have hpair := hdistinct pair List.mem_cons_self
      have hrest := fun later hlater => hdistinct later (List.mem_cons_of_mem _ hlater)
      show (checkPairs engine now (llmCheckContradiction engine now s pair).1 rest).1.copies k = _
      unfold llmCheckContradiction touches contradictions
      cases hverdict : engine.verdict pair.1 pair.2 with
      | none =>
          rw [List.filterMap_cons_none (by rw [hverdict]; rfl)]
          exact ih h hrest
      | some verdict =>
          obtain ⟨hsound, hcopies⟩ := recordConflict_spec h hpair verdict now
          dsimp only
          rw [ih hsound hrest, hcopies, List.filterMap_cons_some (by rw [hverdict]; rfl)]
          cases htouch : touchOf k (pair, verdict) with
          | none =>
              rw [List.filterMap_cons_none htouch]
              rfl
          | some touch =>
              rw [List.filterMap_cons_some htouch]
              show ((s.copies k).map fun before => before.touch touch).map _ = _
              rw [Option.map_map]
              rfl

end AuditState

section

variable {engine : AuditEngine} {s : MemoryTables} {limit : Int}
  {allowedScopes : Option (Finset String)} {pair : MemoryItem × MemoryItem}

theorem mem_pairsOf {α : Type} {xs : List α} {p : α × α} (h : p ∈ pairsOf xs) :
    p.1 ∈ xs ∧ p.2 ∈ xs := by
  induction xs with
  | nil => cases h
  | cons x rest ih =>
      rcases List.mem_append.mp h with hfirst | hrest
      · obtain ⟨y, hy, rfl⟩ := List.mem_map.mp hfirst
        exact ⟨List.mem_cons_self, List.mem_cons_of_mem _ hy⟩
      · obtain ⟨h1, h2⟩ := ih hrest
        exact ⟨List.mem_cons_of_mem _ h1, List.mem_cons_of_mem _ h2⟩

theorem ne_of_mem_pairsOf {xs : List MemoryItem} (hnodup : (xs.map (·.id)).Nodup)
    (h : pair ∈ pairsOf xs) : pair.1.id ≠ pair.2.id := by
  induction xs with
  | nil => cases h
  | cons x rest ih =>
      rw [List.map_cons, List.nodup_cons] at hnodup
      rcases List.mem_append.mp h with hfirst | hrest
      · obtain ⟨y, hy, rfl⟩ := List.mem_map.mp hfirst
        intro hsame
        exact hnodup.1 (List.mem_map.mpr ⟨y, hy, hsame.symm⟩)
      · exact ih hnodup.2 hrest

theorem auditItems_spec (engine : AuditEngine) (s : MemoryTables)
    (allowedScopes : Option (Finset String)) :
    (∀ item ∈ auditItems engine s allowedScopes, item ∈ s.items.rows)
      ∧ ((auditItems engine s allowedScopes).map (·.id)).Nodup := by
  have hperm := engine.latestFirst_perm
    (s.items.rows.filter (MemoryItem.listed none none allowedScopes))
  have hnodup : ((listing engine.toListingEngine s none none allowedScopes).map (·.id)).Nodup :=
    ((hperm.map _).nodup_iff).mpr ((s.items.nodup).sublist (List.filter_sublist.map _))
  unfold auditItems getItems
  split
  · simp
  · rw [sqlLimit_eq_take]
    refine ⟨fun item hitem => ?_, hnodup.sublist ((List.take_sublist _ _).map _)⟩
    exact List.mem_of_mem_filter (hperm.mem_iff.mp (List.mem_of_mem_take hitem))

theorem pairsToCheck_spec (h : pair ∈ pairsToCheck engine s limit allowedScopes) :
    pair.1 ∈ s.items.rows ∧ pair.2 ∈ s.items.rows ∧ pair.1.id ≠ pair.2.id := by
  obtain ⟨hrows, hnodup⟩ := auditItems_spec engine s allowedScopes
  unfold pairsToCheck checkedPairs at h
  split at h
  next => cases h
  next =>
    have hcandidate := (List.perm_insertionSort _ _).mem_iff.mp (List.mem_of_mem_take h)
    obtain ⟨scope, -, hfiltered⟩ := List.mem_flatMap.mp hcandidate
    have hpair := List.mem_of_mem_filter hfiltered
    obtain ⟨hfirst, hsecond⟩ := mem_pairsOf hpair
    refine ⟨hrows _ (List.mem_of_mem_filter (List.mem_of_mem_filter hfirst)),
      hrows _ (List.mem_of_mem_filter (List.mem_of_mem_filter hsecond)),
      ne_of_mem_pairsOf ?_ hpair⟩
    exact hnodup.sublist ((List.filter_sublist.trans List.filter_sublist).map _)

theorem mem_contradictions {pairs : List (MemoryItem × MemoryItem)}
    {found : (MemoryItem × MemoryItem) × Verdict} (h : found ∈ contradictions engine pairs) :
    found.1 ∈ pairs := by
  obtain ⟨p, hp, hfound⟩ := List.mem_filterMap.mp h
  obtain ⟨verdict, -, rfl⟩ := Option.map_eq_some_iff.mp hfound
  exact hp

theorem metadataOf_audit (engine : AuditEngine) (s : MemoryTables) (limit : Int)
    (allowedScopes : Option (Finset String)) (now : Time) {item : MemoryItem}
    (hitem : item ∈ s.items.rows) :
    (auditSemanticConflicts engine s limit allowedScopes now).1.metadataOf item.id
      = ((touches engine (pairsToCheck engine s limit allowedScopes) item.id).foldl Copies.touch
          ⟨item.metadata, item.metadata⟩).stored := by
  have hget := Table.get?_of_mem hitem
  have hsound : AuditState.Sound ⟨s, s.items⟩ :=
    ⟨fun id other hother => s.stored other (Table.get?_eq_some_iff.mp hother).1,
      fun id other hother => ⟨other, hother⟩⟩
  have hbefore : AuditState.copies ⟨s, s.items⟩ item.id = some ⟨item.metadata, item.metadata⟩ := by
    unfold AuditState.copies
    dsimp only
    rw [hget]
    rfl
  have hdistinct : ∀ pair ∈ pairsToCheck engine s limit allowedScopes, pair.1.id ≠ pair.2.id :=
    fun _ hpair => (pairsToCheck_spec hpair).2.2
  have hafter := AuditState.checkPairs_spec engine now hsound hdistinct item.id
  rw [hbefore, Option.map_some] at hafter
  unfold AuditState.copies at hafter
  obtain ⟨object, -, hrow⟩ := Option.bind_eq_some_iff.mp hafter
  obtain ⟨row, hfound, hcopies⟩ := Option.map_eq_some_iff.mp hrow
  unfold MemoryTables.metadataOf auditSemanticConflicts
  dsimp only
  rw [hfound]
  exact congrArg Copies.stored hcopies

theorem linksKept_iff_items (now : Time) {after : MemoryTables} :
    LinksKept engine s limit allowedScopes now after
      ↔ ∀ item ∈ s.items.rows, ItemKept item.metadata (after.metadataOf item.id)
          (touches engine (pairsToCheck engine s limit allowedScopes) item.id) := by
  constructor
  · intro h item hitem
    refine ⟨fun touch htouch => ?_, h.keys item hitem, h.entries item hitem,
      fun touch htouch hmark => ?_⟩
    · obtain ⟨found, hfound, hseen⟩ := List.mem_filterMap.mp htouch
      unfold touchOf at hseen
      split at hseen
      next hid =>
        obtain rfl := Option.some.inj hseen
        exact hid ▸ (h.linked found hfound).1
      next =>
        split at hseen
        next hid =>
          obtain rfl := Option.some.inj hseen
          exact hid ▸ (h.linked found hfound).2
        next => cases hseen
    · obtain ⟨found, hfound, hseen⟩ := List.mem_filterMap.mp htouch
      unfold touchOf at hseen
      split at hseen
      next hid =>
        obtain rfl := Option.some.inj hseen
        exact hid ▸ (h.superseded found hfound).1 (by rw [hid]; exact hmark)
      next =>
        split at hseen
        next hid =>
          obtain rfl := Option.some.inj hseen
          exact hid ▸ (h.superseded found hfound).2 (by rw [hid]; exact hmark)
        next => cases hseen
  · intro h
    have hseen : ∀ found ∈ contradictions engine (pairsToCheck engine s limit allowedScopes),
        (∃ touch ∈ touches engine (pairsToCheck engine s limit allowedScopes) found.1.1.id,
            touch.other = found.1.2.id ∧ touch.superseded = found.2.supersedes found.1.1.id)
          ∧ ∃ touch ∈ touches engine (pairsToCheck engine s limit allowedScopes) found.1.2.id,
            touch.other = found.1.1.id
              ∧ touch.superseded = found.2.supersedes found.1.2.id := by
      intro found hfound
      have hne := (pairsToCheck_spec (mem_contradictions hfound)).2.2
      exact ⟨⟨_, List.mem_filterMap.mpr ⟨found, hfound, if_pos rfl⟩, rfl, rfl⟩,
        ⟨_, List.mem_filterMap.mpr ⟨found, hfound, (if_neg hne).trans (if_pos rfl)⟩, rfl, rfl⟩⟩
    have hrows : ∀ found ∈ contradictions engine (pairsToCheck engine s limit allowedScopes),
        found.1.1 ∈ s.items.rows ∧ found.1.2 ∈ s.items.rows := fun found hfound =>
      ⟨(pairsToCheck_spec (mem_contradictions hfound)).1,
        (pairsToCheck_spec (mem_contradictions hfound)).2.1⟩
    refine ⟨fun found hfound => ?_, fun item hitem => (h item hitem).keys,
      fun item hitem => (h item hitem).entries, fun found hfound => ?_⟩
    · obtain ⟨⟨touch, htouch, hother, -⟩, touch', htouch', hother', -⟩ := hseen found hfound
      obtain ⟨hfirst, hsecond⟩ := hrows found hfound
      exact ⟨hother ▸ (h _ hfirst).linked touch htouch,
        hother' ▸ (h _ hsecond).linked touch' htouch'⟩
    · obtain ⟨⟨touch, htouch, hother, hmark⟩, touch', htouch', hother', hmark'⟩ :=
        hseen found hfound
      obtain ⟨hfirst, hsecond⟩ := hrows found hfound
      refine ⟨fun hreported => ?_, fun hreported => ?_⟩
      · exact hother ▸ (h _ hfirst).superseded touch htouch (hmark.trans hreported)
      · exact hother' ▸ (h _ hsecond).superseded touch' htouch' (hmark'.trans hreported)

/-- An audit keeps every link exactly where the links of every item can be kept. -/
theorem linksKept_iff (engine : AuditEngine) (s : MemoryTables) (limit : Int)
    (allowedScopes : Option (Finset String)) (now : Time) :
    LinksKept engine s limit allowedScopes now
        (auditSemanticConflicts engine s limit allowedScopes now).1
      ↔ LinksKeepable engine s limit allowedScopes := by
  rw [linksKept_iff_items]
  unfold LinksKeepable
  refine forall₂_congr fun item hitem => ?_
  rw [metadataOf_audit engine s limit allowedScopes now hitem]
  exact itemKept_iff _ _

end

/-! ## A pair of which one item is superseded -/

/-- Every pair is similar and contradictory, and the item `old` is superseded. -/
def supersedingAudit : AuditEngine where
  toListingEngine := plainListing
  similarity _ _ := 3 / 4
  str
    | .str s => s
    | _ => ""
  str_str _ := rfl
  answer _ _ := some (.obj
    [("contradicts", .bool true), ("relation", .str "supersedes"),
      ("explanation", .str "the port was changed"), ("superseded_id", .str "old")])

def portFact (id content : String) (updatedAt : Time) : MemoryItem where
  id := id
  type := "fact"
  status := "active"
  scope := "global"
  content := content
  source := "chat"
  confidence := 1
  createdAt := .float 0
  updatedAt := .float updatedAt
  lastVerifiedAt := .float 0
  expiresAt := .float 0
  metadata := []
  reason := "said so"
  provenance := "user"
  summary := ""

def ports : MemoryTables where
  items := ⟨[portFact "old" "server runs on port 8080" 1,
    portFact "new" "server runs on port 9090" 2], by decide⟩
  parameters := .empty
  stored := by decide +kernel

/-- The old fact is not linked to the new one. -/
theorem ports_linksKept_not :
    ¬ LinksKept supersedingAudit ports 10 none 3
        (auditSemanticConflicts supersedingAudit ports 10 none 3).1
      ∧ (auditSemanticConflicts supersedingAudit ports 10 none 3).1.metadataOf "old"
        = [("superseded_by", .str "new")] := by
  have hafter : (auditSemanticConflicts supersedingAudit ports 10 none 3).1.metadataOf "old"
      = [("superseded_by", .str "new")] := by decide +kernel
  refine ⟨fun h => ?_, hafter⟩
  have hfound : (contradictions supersedingAudit (pairsToCheck supersedingAudit ports 10 none)).map
      (fun found => (found.1.1.id, found.1.2.id)) = [("new", "old")] := by decide +kernel
  obtain ⟨found, hmem, hids⟩ := List.mem_map.mp (hfound ▸ List.mem_singleton_self ("new", "old"))
  obtain ⟨hfirst, hsecond⟩ := Prod.mk.inj hids
  have hlink := (h.linked found hmem).2
  rw [hsecond, hafter, hfirst] at hlink
  unfold Linked at hlink
  revert hlink
  decide

end Navi.Memory
