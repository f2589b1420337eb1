import Mathlib
import Navi.Memory.ConflictLinks

/-!
# Recall

What is recalled comes from three pools: the matches of the full-text index, the items that were
updated last, and the neighbours of these in the graph. Each pool is cut to a size before the
status and the expiry of its items are looked at.
-/

namespace Navi.Memory

open Navi.Base

/-- What recall rests on besides the listing: what the index matches and in which order of rank,
the lexical similarity of a text and a query, and the neighbours in the graph. -/
structure RecallEngine extends ListingEngine where
  indexed : String → MemoryItem → Bool
  indexed_empty : ∀ item, indexed "" item = false
  byRank : String → List MemoryItem → List MemoryItem
  byRank_perm : ∀ query rows, (byRank query rows).Perm rows
  similarity : String → String → Rat
  neighbors : List String → Int → List String

/-- The arguments of `recall`, and the time. -/
structure RecallQuery where
  query : String
  goal : String
  limit : Nat
  allowedScopes : Option (Finset String)
  now : Time

/-- `f"{query} {goal}".strip()`. -/
def RecallQuery.ftsQuery (q : RecallQuery) : String := strip (q.query ++ " " ++ q.goal)

def RecallQuery.allows (q : RecallQuery) (item : MemoryItem) : Bool :=
  q.allowedScopes.all (item.scope ∈ ·)

def RecallQuery.eligible (q : RecallQuery) (item : MemoryItem) : Bool :=
  q.allows item && item.status ∈ recallableStatuses
    && (columnTime item.expiresAt = 0 ∨ q.now < columnTime item.expiresAt)

section

variable (engine : RecallEngine) (s : MemoryTables) (q : RecallQuery)

/-- `search_fts`. -/
def searchFts (limit : Int) : List MemoryItem :=
  if q.allowedScopes = some ∅ then []
  else sqlLimit limit (engine.byRank q.ftsQuery
    (s.items.rows.filter fun item => engine.indexed q.ftsQuery item && q.allows item))

/-- The ids of the pool of the index. -/
def ftsPool : List String := (searchFts engine s q (max 1 (q.limit * 3))).map (·.id)

/-- The items that the lexical pool is taken from. -/
def lexicalListing : List MemoryItem :=
  getItems engine.toListingEngine s none none q.allowedScopes (max 200 (q.limit * 20))

/-- How alike an item and the query are. -/
def lexicalSimilarity (item : MemoryItem) : Rat := engine.similarity q.ftsQuery item.content

/-- The candidates of the lexical pool, the most similar first. -/
def lexicalCandidates (seen : List String) : List MemoryItem :=
  ((lexicalListing engine s q).filter fun item =>
    item.id ∉ seen ∧ item.status ∈ recallableStatuses
      ∧ 0 < lexicalSimilarity engine q item).mergeSort
      fun a b => 1 - lexicalSimilarity engine q a ≤ 1 - lexicalSimilarity engine q b

/-- The neighbours of what has been found. -/
def graphPool : List String :=
  let lexical := (lexicalCandidates engine s q (ftsPool engine s q)).map (·.id)
  let seeds := if ftsPool engine s q = [] then lexical.take 3 else ftsPool engine s q
  if seeds = [] then [] else engine.neighbors seeds (max 1 (q.limit * 3))

end

/-- The ids, and those of others that are not among them. -/
def addUnseen (ids others : List String) : List String :=
  others.foldl (fun seen id => if id ∈ seen then seen else seen ++ [id]) ids

section

variable (engine : RecallEngine) (s : MemoryTables) (q : RecallQuery)

/-- The candidates in the order in which they are looked at. -/
def rankedCandidates : List String :=
  let fts := addUnseen [] (ftsPool engine s q)
  addUnseen (fts ++ (lexicalCandidates engine s q fts).map (·.id)) (graphPool engine s q)

/-- `_do_recall`, as far as it concerns which items are recalled. -/
def doRecall : List MemoryItem :=
  ((rankedCandidates engine s q).filterMap fun id =>
    (s.items.get? id).filter q.eligible).take q.limit

/-- `recall`. -/
def recallItems : List MemoryItem := if q.ftsQuery = "" then [] else doRecall engine s q

/-! ## What is claimed -/

/-- The items that may be recalled and that the index matches. -/
def matchingItems : List MemoryItem :=
  s.items.rows.filter fun item => q.eligible item && engine.indexed q.ftsQuery item

/-- As many items are recalled as match, up to the limit. -/
def NotCrowdedOut : Prop :=
  min q.limit (matchingItems engine s q).length ≤ (recallItems engine s q).length

/-- An item is in one of the pools: among the first matches of the index, or among those updated
last and similar to the query, or a neighbour. -/
def Pooled (item : MemoryItem) : Prop :=
  item.id ∈ ftsPool engine s q
    ∨ item ∈ lexicalListing engine s q ∧ 0 < lexicalSimilarity engine q item
    ∨ item.id ∈ graphPool engine s q

instance (item : MemoryItem) : Decidable (Pooled engine s q item) :=
  inferInstanceAs (Decidable (_ ∨ _ ∧ _ ∨ _))

/-- The pools hold as many items that may be recalled as match, up to the limit. -/
def PoolsSuffice : Prop :=
  min q.limit (matchingItems engine s q).length
    ≤ (s.items.rows.filter fun item => q.eligible item && Pooled engine s q item).length

end

section

variable {engine : RecallEngine} {s : MemoryTables} {q : RecallQuery} {id : String}
  {ids others : List String} {item : MemoryItem}

/-! ## Candidates -/

theorem mem_addUnseen : id ∈ addUnseen ids others ↔ id ∈ ids ∨ id ∈ others := by
  unfold addUnseen
  induction others generalizing ids with
  | nil => simp
  | cons other rest ih =>
      rw [List.foldl_cons, ih]
      split
      next hseen =>
        constructor
        · rintro (h | h)
          · exact .inl h
          · exact .inr (List.mem_cons_of_mem _ h)
        · rintro (h | h)
          · exact .inl h
          · rcases List.mem_cons.mp h with rfl | h
            · exact .inl hseen
            · exact .inr h
      next => simp [or_assoc]

theorem nodup_addUnseen (h : ids.Nodup) : (addUnseen ids others).Nodup := by
  unfold addUnseen
  induction others generalizing ids with
  | nil => exact h
  | cons other rest ih =>
      rw [List.foldl_cons]
      refine ih ?_
      split
      · exact h
      next hunseen =>
        refine h.append (List.nodup_singleton _) fun found hfound hother => ?_
        rw [List.mem_singleton.mp hother] at hfound
        exact hunseen hfound

theorem mem_lexicalCandidates {seen : List String} :
    item ∈ lexicalCandidates engine s q seen ↔ item ∈ lexicalListing engine s q ∧ item.id ∉ seen
      ∧ item.status ∈ recallableStatuses ∧ 0 < lexicalSimilarity engine q item := by
  rw [lexicalCandidates, (List.mergeSort_perm _ _).mem_iff, List.mem_filter, decide_eq_true_eq]

theorem mem_rows_of_mem_lexicalListing (h : item ∈ lexicalListing engine s q) :
    item ∈ s.items.rows := by
  unfold lexicalListing getItems at h
  split at h
  · cases h
  · rw [sqlLimit_eq_take] at h
    exact (List.mem_filter.mp ((engine.latestFirst_perm _).mem_iff.mp (List.mem_of_mem_take h))).1

theorem nodup_lexicalListing : (lexicalListing engine s q).Nodup := by
  unfold lexicalListing getItems
  split
  · exact List.nodup_nil
  · rw [sqlLimit_eq_take]
    refine List.Nodup.sublist (List.take_sublist _ _) ?_
    exact (engine.latestFirst_perm _).nodup_iff.mpr ((List.Nodup.of_map _ s.items.nodup).filter _)

theorem nodup_rankedCandidates : (rankedCandidates engine s q).Nodup := by
  refine nodup_addUnseen ((nodup_addUnseen List.nodup_nil).append ?_ ?_)
  · have hnodup : (lexicalCandidates engine s q (addUnseen [] (ftsPool engine s q))).Nodup :=
      (List.mergeSort_perm _ _).nodup_iff.mpr (nodup_lexicalListing.filter _)
    refine hnodup.map_on fun a ha b hb hsame => ?_
    exact Table.eq_of_key (mem_rows_of_mem_lexicalListing (mem_lexicalCandidates.mp ha).1)
      (mem_rows_of_mem_lexicalListing (mem_lexicalCandidates.mp hb).1) hsame
  · intro id hseen hlexical
    obtain ⟨item, hitem, rfl⟩ := List.mem_map.mp hlexical
    exact (mem_lexicalCandidates.mp hitem).2.1 hseen

theorem mem_rankedCandidates_iff (hitem : item ∈ s.items.rows)
    (heligible : q.eligible item = true) :
    item.id ∈ rankedCandidates engine s q ↔ Pooled engine s q item := by
  have hrecallable : item.status ∈ recallableStatuses := by
    unfold RecallQuery.eligible at heligible
    simp only [Bool.and_eq_true, decide_eq_true_eq] at heligible
    exact heligible.1.2
  unfold rankedCandidates Pooled
  dsimp only
  rw [mem_addUnseen, List.mem_append, mem_addUnseen, List.mem_map, or_assoc]
  constructor
  · rintro ((hnone | hfts) | ⟨other, hother, hsame⟩ | hgraph)
    · cases hnone
    · exact .inl hfts
    · obtain ⟨hlisted, -, -, hsimilar⟩ := mem_lexicalCandidates.mp hother
      obtain rfl := Table.eq_of_key (mem_rows_of_mem_lexicalListing hlisted) hitem hsame
      exact .inr (.inl ⟨hlisted, hsimilar⟩)
    · exact .inr (.inr hgraph)
  · rintro (hfts | ⟨hlisted, hsimilar⟩ | hgraph)
    · exact .inl (.inr hfts)
    · by_cases hseen : item.id ∈ ftsPool engine s q
      · exact .inl (.inr hseen)
      · have hunseen : item.id ∉ addUnseen [] (ftsPool engine s q) := by
          simpa [mem_addUnseen] using hseen
        have hcandidate := mem_lexicalCandidates.mpr ⟨hlisted, hunseen, hrecallable, hsimilar⟩
        exact .inr (.inl ⟨item, hcandidate, rfl⟩)
    · exact .inr (.inr hgraph)

theorem length_eligibleCandidates :
    ((rankedCandidates engine s q).filterMap fun id =>
        (s.items.get? id).filter q.eligible).length
      = (s.items.rows.filter fun item => q.eligible item && Pooled engine s q item).length := by
  refine List.Perm.length_eq ((List.perm_ext_iff_of_nodup ?_ ?_).mpr fun item => ?_)
  · refine List.Nodup.filterMap (fun a b row ha hb => ?_) nodup_rankedCandidates
    have hkey : ∀ id, row ∈ (s.items.get? id).filter q.eligible → row.id = id := fun id h =>
      (Table.get?_eq_some_iff.mp (Option.mem_filter_iff.mp h).1).2
    exact (hkey a ha).symm.trans (hkey b hb)
  · exact (List.Nodup.of_map _ s.items.nodup).filter _
  · rw [List.mem_filterMap, List.mem_filter, Bool.and_eq_true, decide_eq_true_eq]
    constructor
    · rintro ⟨id, hid, hfound⟩
      obtain ⟨hrow, heligible⟩ := Option.mem_filter_iff.mp (Option.mem_def.mpr hfound)
      obtain ⟨hitem, rfl⟩ := Table.get?_eq_some_iff.mp hrow
      exact ⟨hitem, heligible, (mem_rankedCandidates_iff hitem heligible).mp hid⟩
    · rintro ⟨hitem, heligible, hpooled⟩
      refine ⟨item.id, (mem_rankedCandidates_iff hitem heligible).mpr hpooled, ?_⟩
      rw [Table.get?_of_mem hitem, Option.filter_some, if_pos heligible]

theorem matchingItems_of_empty (h : q.ftsQuery = "") : matchingItems engine s q = [] := by
  unfold matchingItems
  rw [h]
  simp [engine.indexed_empty]

end

/-- **Recall is not crowded out** exactly if the pools hold enough items that may be recalled. -/
theorem notCrowdedOut_iff (engine : RecallEngine) (s : MemoryTables) (q : RecallQuery) :
    NotCrowdedOut engine s q ↔ PoolsSuffice engine s q := by
  unfold NotCrowdedOut PoolsSuffice recallItems
  split
  next hempty =>
    rw [matchingItems_of_empty hempty]
    simp
  next =>
    rw [doRecall, List.length_take, length_eligibleCandidates]
    omega

/-! ## Revoked items -/

/-- An index of the items that contain the query, ranked in the order of insertion, and texts that
are alike where one contains the other. -/
def plainRecall : RecallEngine where
  toListingEngine := plainListing
  indexed query item := query ≠ "" ∧ query.toList <:+: item.content.toList
  indexed_empty _ := by simp
  byRank _ rows := rows
  byRank_perm _ rows := List.Perm.refl rows
  similarity query content := if query.toList <:+: content.toList then 1 else 0
  neighbors _ _ := []

def revokedId (n : Nat) : String := String.ofList (List.replicate n 'r')

theorem revokedId_injective : Function.Injective revokedId := by
  intro m n h
  have hlist := congrArg String.toList h
  rw [revokedId, revokedId, String.toList_ofList, String.toList_ofList] at hlist
  have hlength := congrArg List.length hlist
  rwa [List.length_replicate, List.length_replicate] at hlength

/-- Two hundred revoked facts about a port, and an older one that is active. -/
def revokedPorts : MemoryTables where
  items :=
    { rows := (List.range 200).map (fun n =>
          { portFact (revokedId n) "port 8080" (300 - n) with status := "revoked" })
        ++ [portFact "active" "port 8080" 1]
      nodup := by
        rw [List.map_append, List.map_map]
        refine ((List.nodup_range).map revokedId_injective).append (List.nodup_singleton _) ?_
        intro id hid hactive
        obtain ⟨n, -, hn⟩ := List.mem_map.mp hid
        have hsame : revokedId n = "active" := hn.trans (List.mem_singleton.mp hactive)
        have hlist : List.replicate n 'r' = "active".toList := by
          rw [← hsame, revokedId, String.toList_ofList]
        have hmem : 'a' ∈ List.replicate n 'r' := by
          rw [hlist]
          decide
        exact absurd (List.eq_of_mem_replicate hmem) (by decide) }
  parameters := .empty
  stored := by decide +kernel

/-- A query for one item about a port. -/
def portQuery : RecallQuery where
  query := "port"
  goal := ""
  limit := 1
  allowedScopes := none
  now := 400

/-- The active fact matches, and nothing is recalled. -/
theorem revokedPorts_notCrowdedOut_not :
    ¬ NotCrowdedOut plainRecall revokedPorts portQuery
      ∧ (matchingItems plainRecall revokedPorts portQuery).map (·.id) = ["active"] := by
  have hmatching : (matchingItems plainRecall revokedPorts portQuery).map (·.id) = ["active"] := by
    decide +kernel
  refine ⟨fun h => ?_, hmatching⟩
  have hone := congrArg List.length hmatching
  rw [List.length_map] at hone
  have hnone : (recallItems plainRecall revokedPorts portQuery).length = 0 := by decide +kernel
  unfold NotCrowdedOut at h
  rw [hone, hnone] at h
  exact absurd h (by decide)

end Navi.Memory
