import Navi.Trace.Blobs

/-!
# Values and their interned form

Interning leaves the keys alone, so that it does not matter whether they are put in order
before or after. What is put back is the value exactly where the value has no reference of
its own and every long text is found under its digest.
-/

namespace Navi.Trace

open Navi.Base Navi.Base.Json

variable {digest : String → String} {lookup : Json → String}

/-! ## Lists -/

theorem extractEntries_eq_map (entries : Dict) :
    extractEntries digest entries
      = entries.map fun entry => (entry.1, extractBlobs digest entry.2) := by
  induction entries with
  | nil => simp [extractEntries]
  | cons entry rest ih => simp [extractEntries, ih]

theorem putBackEntries_eq_map (entries : Dict) :
    putBackEntries lookup entries
      = entries.map fun entry => (entry.1, putBack lookup entry.2) := by
  induction entries with
  | nil => simp [putBackEntries]
  | cons entry rest ih => simp [putBackEntries, ih]

theorem referencesEntries_eq_flatMap (entries : Dict) :
    referencesEntries entries = entries.flatMap fun entry => references entry.2 := by
  induction entries with
  | nil => simp [referencesEntries]
  | cons entry rest ih => simp [referencesEntries, ih]

theorem longTextsEntries_eq_flatMap (entries : Dict) :
    longTextsEntries entries = entries.flatMap fun entry => longTexts entry.2 := by
  induction entries with
  | nil => simp [longTextsEntries]
  | cons entry rest ih => simp [longTextsEntries, ih]

/-! ## References -/

theorem reference?_eq_some {entries : Dict} {hash : Json} :
    reference? entries = some hash ↔ entries = [("$blob", hash)] := by
  match entries with
  | [] => simp [reference?]
  | [(key, value)] =>
      by_cases hkey : key = "$blob" <;> simp [reference?, hkey]
  | _ :: _ :: _ => simp [reference?]

theorem reference?_map (change : Json → Json) (entries : Dict) :
    reference? (entries.map fun entry => (entry.1, change entry.2))
      = (reference? entries).map change := by
  match entries with
  | [] => rfl
  | [(key, value)] =>
      by_cases hkey : key = "$blob" <;> simp [reference?, hkey]
  | _ :: _ :: _ => rfl

theorem reference?_sortByKey (entries : Dict) :
    reference? (sortByKey entries) = reference? entries := by
  cases h : reference? entries with
  | some hash =>
      obtain rfl := reference?_eq_some.mp h
      rfl
  | none =>
      refine Option.eq_none_iff_forall_not_mem.mpr fun hash hhash => ?_
      have hsorted := reference?_eq_some.mp hhash
      have hperm : entries.Perm [("$blob", hash)] := hsorted ▸ (sortByKey_perm entries).symm
      rw [List.perm_singleton.mp hperm] at h
      cases h

theorem reference?_sortEntries (entries : Dict) :
    reference? (sortEntries entries) = (reference? entries).map sortKeys := by
  rw [sortEntries_eq_map]
  exact reference?_map sortKeys entries

theorem references_obj_eq_nil {entries : Dict} :
    references (.obj entries) = []
      ↔ reference? entries = none ∧ ∀ entry ∈ entries, references entry.2 = [] := by
  cases h : reference? entries with
  | some hash => simp [references, h]
  | none => simp [references, h, referencesEntries_eq_flatMap]

/-! ## The order of the keys -/

theorem map_values_sortByKey (change : Json → Json) (entries : Dict) :
    ((sortByKey entries).map fun entry => (entry.1, change entry.2))
      = sortByKey (entries.map fun entry => (entry.1, change entry.2)) := by
  refine map_sortByKey ?_ entries
  intro entry
  rfl

mutual

theorem sortKeys_extractBlobs (v : Json) :
    sortKeys (extractBlobs digest v) = extractBlobs digest (sortKeys v) := by
  cases v with
  | arr items => simp only [extractBlobs, sortKeys, sortItems_extractItems items]
  | obj entries =>
      have hvalues := sortEntries_extractEntries entries
      rw [extractBlobs, sortKeys_obj, sortKeys_obj, extractBlobs, hvalues, extractEntries_eq_map,
        extractEntries_eq_map]
      exact congrArg Json.obj (map_values_sortByKey _ _).symm
  | str s =>
      by_cases hlong : 1024 < s.length
      · simp [extractBlobs, hlong, sortKeys, sortEntries]
      · simp [extractBlobs, hlong, sortKeys]
  | null | bool | int | float => simp only [extractBlobs, sortKeys]

theorem sortItems_extractItems (items : List Json) :
    sortItems (extractItems digest items) = extractItems digest (sortItems items) := by
  cases items with
  | nil => simp only [extractItems, sortItems]
  | cons item rest =>
      simp only [extractItems, sortItems, sortKeys_extractBlobs item, sortItems_extractItems rest]

theorem sortEntries_extractEntries (entries : Dict) :
    sortEntries (extractEntries digest entries) = extractEntries digest (sortEntries entries) := by
  cases entries with
  | nil => simp only [extractEntries, sortEntries]
  | cons entry rest =>
      obtain ⟨key, value⟩ := entry
      simp only [extractEntries, sortEntries, sortKeys_extractBlobs value,
        sortEntries_extractEntries rest]

end

mutual

theorem mem_longTexts_sortKeys (v : Json) (s : String) :
    s ∈ longTexts (sortKeys v) ↔ s ∈ longTexts v := by
  cases v with
  | arr items => simp only [sortKeys, longTexts, mem_longTextsItems_sortItems items s]
  | obj entries =>
      have hperm := (sortByKey_perm (sortEntries entries)).flatMap_right
        fun entry : String × Json => longTexts entry.2
      rw [sortKeys_obj, longTexts, longTexts, ← mem_longTextsEntries_sortEntries entries s,
        longTextsEntries_eq_flatMap, longTextsEntries_eq_flatMap, hperm.mem_iff]
  | null | bool | int | float | str => simp only [sortKeys]

theorem mem_longTextsItems_sortItems (items : List Json) (s : String) :
    s ∈ longTextsItems (sortItems items) ↔ s ∈ longTextsItems items := by
  cases items with
  | nil => simp only [sortItems]
  | cons item rest =>
      simp only [sortItems, longTextsItems, List.mem_append, mem_longTexts_sortKeys item s,
        mem_longTextsItems_sortItems rest s]

theorem mem_longTextsEntries_sortEntries (entries : Dict) (s : String) :
    s ∈ longTextsEntries (sortEntries entries) ↔ s ∈ longTextsEntries entries := by
  cases entries with
  | nil => simp only [sortEntries]
  | cons entry rest =>
      obtain ⟨key, value⟩ := entry
      simp only [sortEntries, longTextsEntries, List.mem_append, mem_longTexts_sortKeys value s,
        mem_longTextsEntries_sortEntries rest s]

end

mutual

theorem references_sortKeys_eq_nil (v : Json) :
    references (sortKeys v) = [] ↔ references v = [] := by
  cases v with
  | arr items =>
      simp only [sortKeys, references]
      exact referencesItems_sortItems_eq_nil items
  | obj entries =>
      have hentries := referencesEntries_sortEntries_eq_nil entries
      simp only [referencesEntries_eq_flatMap, List.flatMap_eq_nil_iff] at hentries
      rw [sortKeys_obj, references_obj_eq_nil, references_obj_eq_nil, reference?_sortByKey,
        reference?_sortEntries, Option.map_eq_none_iff, ← hentries]
      simp only [(sortByKey_perm (sortEntries entries)).mem_iff]
  | null | bool | int | float | str => simp only [sortKeys]

theorem referencesItems_sortItems_eq_nil (items : List Json) :
    referencesItems (sortItems items) = [] ↔ referencesItems items = [] := by
  cases items with
  | nil => simp only [sortItems]
  | cons item rest =>
      simp only [sortItems, referencesItems, List.append_eq_nil_iff,
        references_sortKeys_eq_nil item, referencesItems_sortItems_eq_nil rest]

theorem referencesEntries_sortEntries_eq_nil (entries : Dict) :
    referencesEntries (sortEntries entries) = [] ↔ referencesEntries entries = [] := by
  cases entries with
  | nil => simp only [sortEntries]
  | cons entry rest =>
      obtain ⟨key, value⟩ := entry
      simp only [sortEntries, referencesEntries, List.append_eq_nil_iff,
        references_sortKeys_eq_nil value, referencesEntries_sortEntries_eq_nil rest]

end

/-! ## There and back -/

mutual

theorem references_extractBlobs (v : Json) (h : references v = []) :
    references (extractBlobs digest v) = (longTexts v).map fun s => .str (digest s) := by
  cases v with
  | arr items =>
      simp only [references] at h
      simp only [extractBlobs, references, longTexts, referencesItems_extractItems items h]
  | obj entries =>
      have hnone := (references_obj_eq_nil.mp h).1
      have hkept : reference? (extractEntries digest entries) = none := by
        rw [extractEntries_eq_map, reference?_map, hnone, Option.map_none]
      simp only [references, hnone] at h
      simp only [extractBlobs, references, hkept, longTexts,
        referencesEntries_extractEntries entries h]
  | str s =>
      by_cases hlong : 1024 < s.length
      · simp [extractBlobs, longTexts, hlong, references, reference?]
      · simp [extractBlobs, longTexts, hlong, references]
  | null | bool | int | float => simp [extractBlobs, longTexts, references]

theorem referencesItems_extractItems (items : List Json) (h : referencesItems items = []) :
    referencesItems (extractItems digest items)
      = (longTextsItems items).map fun s => .str (digest s) := by
  cases items with
  | nil => simp [extractItems, longTextsItems, referencesItems]
  | cons item rest =>
      simp only [referencesItems, List.append_eq_nil_iff] at h
      simp only [extractItems, referencesItems, longTextsItems, List.map_append,
        references_extractBlobs item h.1, referencesItems_extractItems rest h.2]

theorem referencesEntries_extractEntries (entries : Dict) (h : referencesEntries entries = []) :
    referencesEntries (extractEntries digest entries)
      = (longTextsEntries entries).map fun s => .str (digest s) := by
  cases entries with
  | nil => simp [extractEntries, longTextsEntries, referencesEntries]
  | cons entry rest =>
      obtain ⟨key, value⟩ := entry
      simp only [referencesEntries, List.append_eq_nil_iff] at h
      simp only [extractEntries, referencesEntries, longTextsEntries, List.map_append,
        references_extractBlobs value h.1, referencesEntries_extractEntries rest h.2]

end

mutual

theorem putBack_of_references_nil (v : Json) (h : references v = []) : putBack lookup v = v := by
  cases v with
  | arr items =>
      rw [references] at h
      rw [putBack, putBackItems_of_references_nil items h]
  | obj entries =>
      have hnone := (references_obj_eq_nil.mp h).1
      simp only [references, hnone] at h
      simp only [putBack, hnone, putBackEntries_of_references_nil entries h]
  | null | bool | int | float | str => simp only [putBack]

theorem putBackItems_of_references_nil (items : List Json) (h : referencesItems items = []) :
    putBackItems lookup items = items := by
  cases items with
  | nil => rw [putBackItems]
  | cons item rest =>
      simp only [referencesItems, List.append_eq_nil_iff] at h
      rw [putBackItems, putBack_of_references_nil item h.1,
        putBackItems_of_references_nil rest h.2]

theorem putBackEntries_of_references_nil (entries : Dict) (h : referencesEntries entries = []) :
    putBackEntries lookup entries = entries := by
  cases entries with
  | nil => rw [putBackEntries]
  | cons entry rest =>
      obtain ⟨key, value⟩ := entry
      simp only [referencesEntries, List.append_eq_nil_iff] at h
      rw [putBackEntries, putBack_of_references_nil value h.1,
        putBackEntries_of_references_nil rest h.2]

end

/-- A value that interning and putting back keeps: it has no reference of its own, and every
long text is found under its digest. -/
def Kept (digest : String → String) (lookup : Json → String) (v : Json) : Prop :=
  references v = [] ∧ ∀ s ∈ longTexts v, lookup (.str (digest s)) = s

mutual

theorem putBack_extractBlobs (v : Json) (h : Kept digest lookup v) :
    putBack lookup (extractBlobs digest v) = v := by
  obtain ⟨hreferences, htexts⟩ := h
  cases v with
  | arr items =>
      simp only [references] at hreferences
      simp only [longTexts] at htexts
      simp only [extractBlobs, putBack, putBackItems_extractItems items hreferences htexts]
  | obj entries =>
      have hnone := (references_obj_eq_nil.mp hreferences).1
      have hkept : reference? (extractEntries digest entries) = none := by
        rw [extractEntries_eq_map, reference?_map, hnone, Option.map_none]
      simp only [references, hnone] at hreferences
      simp only [longTexts] at htexts
      simp only [extractBlobs, putBack, hkept,
        putBackEntries_extractEntries entries hreferences htexts]
  | str s =>
      by_cases hlong : 1024 < s.length
      · have hfound := htexts s (by simp [longTexts, hlong])
        simp [extractBlobs, hlong, putBack, reference?, hfound]
      · simp [extractBlobs, hlong, putBack]
  | null | bool | int | float => simp only [extractBlobs, putBack]

theorem putBackItems_extractItems (items : List Json) (hreferences : referencesItems items = [])
    (htexts : ∀ s ∈ longTextsItems items, lookup (.str (digest s)) = s) :
    putBackItems lookup (extractItems digest items) = items := by
  cases items with
  | nil => simp only [extractItems, putBackItems]
  | cons item rest =>
      simp only [referencesItems, List.append_eq_nil_iff] at hreferences
      simp only [longTextsItems, List.mem_append] at htexts
      simp only [extractItems, putBackItems,
        putBack_extractBlobs item ⟨hreferences.1, fun s hs => htexts s (.inl hs)⟩,
        putBackItems_extractItems rest hreferences.2 fun s hs => htexts s (.inr hs)]

theorem putBackEntries_extractEntries (entries : Dict)
    (hreferences : referencesEntries entries = [])
    (htexts : ∀ s ∈ longTextsEntries entries, lookup (.str (digest s)) = s) :
    putBackEntries lookup (extractEntries digest entries) = entries := by
  cases entries with
  | nil => simp only [extractEntries, putBackEntries]
  | cons entry rest =>
      obtain ⟨key, value⟩ := entry
      simp only [referencesEntries, List.append_eq_nil_iff] at hreferences
      simp only [longTextsEntries, List.mem_append] at htexts
      simp only [extractEntries, putBackEntries,
        putBack_extractBlobs value ⟨hreferences.1, fun s hs => htexts s (.inl hs)⟩,
        putBackEntries_extractEntries rest hreferences.2 fun s hs => htexts s (.inr hs)]

end

mutual

theorem kept_of_sortKeys_eq (v : Json) (hsorted : sortKeys v = v)
    (h : sortKeys (putBack lookup (extractBlobs digest v)) = v) : Kept digest lookup v := by
  cases v with
  | arr items =>
      simp only [sortKeys, Json.arr.injEq] at hsorted
      simp only [extractBlobs, putBack, sortKeys, Json.arr.injEq] at h
      have hitems := keptItems_of_sortItems_eq items hsorted h
      simpa only [Kept, references, longTexts] using hitems
  | obj entries =>
      have hvalues := sortEntries_of_sorted hsorted
      rw [sortKeys_obj, hvalues, Json.obj.injEq] at hsorted
      cases hown : reference? entries with
      | some hash =>
          have hreference : reference? (extractEntries digest entries)
              = some (extractBlobs digest hash) := by
            rw [extractEntries_eq_map, reference?_map, hown, Option.map_some]
          simp only [extractBlobs, putBack, hreference, sortKeys] at h
          cases h
      | none =>
          have hnone : reference? (extractEntries digest entries) = none := by
            rw [extractEntries_eq_map, reference?_map, hown, Option.map_none]
          simp only [extractBlobs, putBack, hnone] at h
          rw [sortKeys_obj, Json.obj.injEq] at h
          -- the keys are in order before and after, so that only the values can differ
          have horder : sortByKey (sortEntries (putBackEntries lookup
              (extractEntries digest entries)))
                = sortEntries (putBackEntries lookup (extractEntries digest entries)) := by
            have hmap : sortEntries (putBackEntries lookup (extractEntries digest entries))
                = entries.map fun entry =>
                  (entry.1, sortKeys (putBack lookup (extractBlobs digest entry.2))) := by
              rw [sortEntries_eq_map, putBackEntries_eq_map, extractEntries_eq_map, List.map_map,
                List.map_map]
              rfl
            have hkeys := map_values_sortByKey
              (fun value => sortKeys (putBack lookup (extractBlobs digest value))) entries
            rw [hmap, ← hkeys, hsorted]
          rw [horder] at h
          have hentries := keptEntries_of_sortEntries_eq entries hvalues h
          simpa only [Kept, references, hown, longTexts] using hentries
  | str s =>
      refine ⟨by simp only [references], fun text htext => ?_⟩
      by_cases hlong : 1024 < s.length
      · simp only [longTexts, hlong, if_true, List.mem_singleton] at htext
        subst htext
        simpa [extractBlobs, hlong, putBack, reference?, sortKeys] using h
      · simp [longTexts, hlong] at htext
  | null | bool | int | float => simp [Kept, references, longTexts]

theorem keptItems_of_sortItems_eq (items : List Json) (hsorted : sortItems items = items)
    (h : sortItems (putBackItems lookup (extractItems digest items)) = items) :
    referencesItems items = [] ∧ ∀ s ∈ longTextsItems items, lookup (.str (digest s)) = s := by
  cases items with
  | nil => simp [referencesItems, longTextsItems]
  | cons item rest =>
      simp only [sortItems, List.cons.injEq] at hsorted
      simp only [extractItems, putBackItems, sortItems, List.cons.injEq] at h
      obtain ⟨hitem, hitemTexts⟩ := kept_of_sortKeys_eq item hsorted.1 h.1
      obtain ⟨hrest, hrestTexts⟩ := keptItems_of_sortItems_eq rest hsorted.2 h.2
      refine ⟨by simp only [referencesItems, hitem, hrest, List.append_nil], fun s hs => ?_⟩
      simp only [longTextsItems, List.mem_append] at hs
      exact hs.elim (hitemTexts s) (hrestTexts s)

theorem keptEntries_of_sortEntries_eq (entries : Dict) (hsorted : sortEntries entries = entries)
    (h : sortEntries (putBackEntries lookup (extractEntries digest entries)) = entries) :
    referencesEntries entries = []
      ∧ ∀ s ∈ longTextsEntries entries, lookup (.str (digest s)) = s := by
  cases entries with
  | nil => simp [referencesEntries, longTextsEntries]
  | cons entry rest =>
      obtain ⟨key, value⟩ := entry
      simp only [sortEntries, List.cons.injEq, Prod.mk.injEq, true_and] at hsorted
      simp only [extractEntries, putBackEntries, sortEntries, List.cons.injEq, Prod.mk.injEq,
        true_and] at h
      obtain ⟨hvalue, hvalueTexts⟩ := kept_of_sortKeys_eq value hsorted.1 h.1
      obtain ⟨hrest, hrestTexts⟩ := keptEntries_of_sortEntries_eq rest hsorted.2 h.2
      refine ⟨by simp only [referencesEntries, hvalue, hrest, List.append_nil], fun s hs => ?_⟩
      simp only [longTextsEntries, List.mem_append] at hs
      exact hs.elim (hvalueTexts s) (hrestTexts s)

end

theorem kept_sortKeys {v : Json} : Kept digest lookup (sortKeys v) ↔ Kept digest lookup v := by
  simp only [Kept, references_sortKeys_eq_nil, mem_longTexts_sortKeys]

/-! ## Distinct keys -/

mutual

theorem extractBlobs_distinct (v : Json) (h : v.distinct = true) :
    (extractBlobs digest v).distinct = true := by
  cases v with
  | arr items =>
      simp only [distinct] at h
      simp only [extractBlobs, distinct, extractItems_distinct items h]
  | obj entries =>
      simp only [distinct, Bool.and_eq_true] at h
      have hkeys : (extractEntries digest entries).map Prod.fst = entries.map Prod.fst := by
        rw [extractEntries_eq_map, List.map_map]
        rfl
      simp only [extractBlobs, distinct, hkeys, h.1, extractEntries_distinct entries h.2,
        Bool.and_self]
  | str s =>
      by_cases hlong : 1024 < s.length
      · simp [extractBlobs, hlong, distinct, distinctEntries]
      · simp [extractBlobs, hlong, distinct]
  | null | bool | int | float => simp only [extractBlobs, distinct]

theorem extractItems_distinct (items : List Json) (h : distinctItems items = true) :
    distinctItems (extractItems digest items) = true := by
  cases items with
  | nil => simp only [extractItems, distinctItems]
  | cons item rest =>
      simp only [distinctItems, Bool.and_eq_true] at h
      simp only [extractItems, distinctItems, extractBlobs_distinct item h.1,
        extractItems_distinct rest h.2, Bool.and_self]

theorem extractEntries_distinct (entries : Dict) (h : distinctEntries entries = true) :
    distinctEntries (extractEntries digest entries) = true := by
  cases entries with
  | nil => simp only [extractEntries, distinctEntries]
  | cons entry rest =>
      obtain ⟨key, value⟩ := entry
      simp only [distinctEntries, Bool.and_eq_true] at h
      simp only [extractEntries, distinctEntries, extractBlobs_distinct value h.1,
        extractEntries_distinct rest h.2, Bool.and_self]

end

end Navi.Trace
