import Mathlib
import Navi.Base.JsonText
import Navi.Base.Selection
import Navi.Memory.Items

/-!
# Durable constraints

`active_constraints` lists the constraint items of the allowed scopes, the latest first and up
to its limit, and keeps of these what is active and not expired. What is inactive counts
against the limit, so that it displaces active constraints that were updated before it.
-/

namespace Navi.Memory

open Navi.Base

/-- `ACTIVE_STATUSES`. -/
def activeStatuses : List String := ["accepted", "active"]

def columnTime : Json → Time
  | .float x => x
  | .int n => n
  | _ => 0

/-- What a listing rests on: the order in which the rows of a query by update time are given,
where rows of one time may be in any, `f"{x:.2f}"`, and `strftime` of a local time. -/
structure ListingEngine where
  latestFirst : List MemoryItem → List MemoryItem
  latestFirst_perm : ∀ rows, (latestFirst rows).Perm rows
  latestFirst_sorted : ∀ rows, (latestFirst rows).Pairwise fun a b =>
    columnTime b.updatedAt ≤ columnTime a.updatedAt
  fixed2 : Rat → String
  strftime : Time → String

/-- The clauses of `get_items`. -/
def MemoryItem.listed (memoryType status : Option String) (allowedScopes : Option (Finset String))
    (item : MemoryItem) : Bool :=
  memoryType.all (fun type => type = "" ∨ item.type = type)
    && status.all (fun status => status = "" ∨ item.status = status)
    && allowedScopes.all (item.scope ∈ ·)

section

variable (engine : ListingEngine) (s : MemoryTables)

/-- The rows that `get_items` lists, before its limit. -/
def listing (memoryType status : Option String) (allowedScopes : Option (Finset String)) :
    List MemoryItem :=
  engine.latestFirst (s.items.rows.filter (MemoryItem.listed memoryType status allowedScopes))

/-- `get_items` of the provider; without a scope that is allowed it asks nothing. -/
def getItems (memoryType status : Option String) (allowedScopes : Option (Finset String))
    (limit : Int) : List MemoryItem :=
  if allowedScopes = some ∅ then []
  else sqlLimit limit (listing engine s memoryType status allowedScopes)

/-- What `active_constraints` keeps of a listing. -/
def MemoryItem.inForce (now : Time) (item : MemoryItem) : Bool :=
  item.status ∈ activeStatuses
    ∧ (columnTime item.expiresAt = 0 ∨ now < columnTime item.expiresAt)

/-- `active_constraints`. -/
def activeConstraints (allowedScopes : Option (Finset String)) (limit : Int) (now : Time) :
    List MemoryItem :=
  (getItems engine s "constraint" none allowedScopes limit).filter (MemoryItem.inForce now)

/-- `_format_verification_date`. -/
def formatVerificationDate (ts : Time) : String :=
  if ts = 0 then "unverified" else engine.strftime ts

def constraintEntry (item : MemoryItem) : String :=
  "- [scope=" ++ item.scope ++ " confidence=" ++ engine.fixed2 item.confidence ++ " source="
    ++ item.source ++ " verified=" ++ formatVerificationDate engine (columnTime item.lastVerifiedAt)
    ++ " id=" ++ item.id ++ "] " ++ item.content

/-- `render_durable_constraints`. -/
def renderDurableConstraints (allowedScopes : Option (Finset String)) (limit : Int)
    (now : Time) : String :=
  let entries :=
    (activeConstraints engine s allowedScopes limit now).map (constraintEntry engine)
  let header := if entries = [] then []
    else ["Durable constraints (reloaded from governed memory; always in effect):"]
  "\n".intercalate (header ++ entries)

end

/-! ## What is in force -/

section

variable (engine : ListingEngine) (s : MemoryTables) (allowedScopes : Option (Finset String))
  (limit : Int) (now : Time)

/-- The constraint items of the scopes, the latest first. -/
def constraintListing : List MemoryItem := listing engine s "constraint" none allowedScopes

/-- The constraints that are in force in the scopes. -/
def constraintsInForce : List MemoryItem :=
  s.items.rows.filter fun item =>
    item.type = "constraint" ∧ allowedScopes.all (item.scope ∈ ·) ∧ item.inForce now

/-- The most recently updated of them are returned, as many as the limit asks for; where it
asks for all, the entry of each is rendered. -/
structure ConstraintsKept : Prop where
  foremost : Foremost (fun item => columnTime item.updatedAt) limit
    (constraintsInForce s allowedScopes now) (activeConstraints engine s allowedScopes limit now)
  rendered : (constraintsInForce s allowedScopes now).length ≤ limit →
    ∀ item ∈ constraintsInForce s allowedScopes now,
      (constraintEntry engine item).toList
        <:+: (renderDurableConstraints engine s allowedScopes limit now).toList

/-- Where a constraint in force is cut off by the limit, those before the cut are in force. -/
def NoneDisplaced : Prop :=
  ∀ cut ∈ cutOff limit (constraintListing engine s allowedScopes), cut.inForce now →
    ∀ item ∈ sqlLimit limit (constraintListing engine s allowedScopes), item.inForce now

instance : Decidable (NoneDisplaced engine s allowedScopes limit now) := by
  unfold NoneDisplaced
  infer_instance

end

section

variable {engine : ListingEngine} {s : MemoryTables} {allowedScopes : Option (Finset String)}
  {limit : Int} {now : Time}

theorem noneDisplaced_iff : NoneDisplaced engine s allowedScopes limit now
    ↔ (∀ item ∈ sqlLimit limit (constraintListing engine s allowedScopes), item.inForce now)
      ∨ ∀ cut ∈ cutOff limit (constraintListing engine s allowedScopes), ¬ cut.inForce now := by
  constructor
  · intro h
    by_cases hcut : ∀ cut ∈ cutOff limit (constraintListing engine s allowedScopes),
        ¬ cut.inForce now
    · exact .inr hcut
    · push Not at hcut
      obtain ⟨cut, hmem, hforce⟩ := hcut
      exact .inl (h cut hmem hforce)
  · rintro (hall | hnone)
    · exact fun _ _ _ => hall
    · exact fun cut hmem hforce => absurd hforce (hnone cut hmem)

theorem perm_constraintListing (engine : ListingEngine) (s : MemoryTables)
    (allowedScopes : Option (Finset String)) (now : Time) :
    ((constraintListing engine s allowedScopes).filter (MemoryItem.inForce now)).Perm
      (constraintsInForce s allowedScopes now) := by
  unfold constraintListing listing constraintsInForce
  refine ((engine.latestFirst_perm _).filter _).trans (List.Perm.of_eq ?_)
  rw [List.filter_filter]
  refine List.filter_congr fun item _ => ?_
  rw [Bool.eq_iff_iff]
  simp [MemoryItem.listed]
  tauto

theorem constraintListing_empty : constraintListing engine s (some ∅) = [] := by
  have hperm := engine.latestFirst_perm
    (s.items.rows.filter (MemoryItem.listed "constraint" none (some ∅)))
  have hnone : s.items.rows.filter (MemoryItem.listed "constraint" none (some ∅)) = [] := by
    rw [List.filter_eq_nil_iff]
    intro item _
    simp [MemoryItem.listed]
  rw [hnone] at hperm
  unfold constraintListing listing
  rw [hnone]
  exact hperm.eq_nil

theorem activeConstraints_eq : activeConstraints engine s allowedScopes limit now
    = (sqlLimit limit (constraintListing engine s allowedScopes)).filter
        (MemoryItem.inForce now) := by
  unfold activeConstraints getItems
  split
  next hempty =>
    rw [hempty, constraintListing_empty]
    simp [sqlLimit]
  next => rfl

theorem foremost_iff : Foremost (fun item => columnTime item.updatedAt) limit
      (constraintsInForce s allowedScopes now) (activeConstraints engine s allowedScopes limit now)
    ↔ NoneDisplaced engine s allowedScopes limit now := by
  have hsorted := engine.latestFirst_sorted
    (s.items.rows.filter (MemoryItem.listed "constraint" none allowedScopes))
  have hperm := perm_constraintListing engine s allowedScopes now
  rw [noneDisplaced_iff, activeConstraints_eq]
  refine Iff.trans ?_ (foremost_filter_iff hsorted)
  exact ⟨fun h => h.of_perm hperm.symm, fun h => h.of_perm hperm⟩

theorem infix_intercalate {separator line : String} {lines : List String} (h : line ∈ lines) :
    line.toList <:+: (separator.intercalate lines).toList := by
  rw [String.toList_intercalate]
  obtain ⟨before, rest, rfl⟩ := List.append_of_mem h
  induction before with
  | nil =>
      cases rest with
      | nil => simp
      | cons next rest =>
          rw [List.nil_append, List.map_cons, List.map_cons, List.intercalate_cons_cons]
          rw [List.append_assoc]
          exact (List.prefix_append _ _).isInfix
  | cons first before ih =>
      have hrest := ih (List.mem_append_right _ List.mem_cons_self)
      have hne : before ++ line :: rest ≠ [] := by simp
      obtain ⟨next, lines, hlines⟩ := List.exists_cons_of_ne_nil hne
      rw [List.cons_append, hlines, List.map_cons, List.map_cons, List.intercalate_cons_cons]
      rw [hlines, List.map_cons] at hrest
      exact hrest.trans (List.suffix_append _ _).isInfix

theorem rendered_of_mem {item : MemoryItem}
    (h : item ∈ activeConstraints engine s allowedScopes limit now) :
    (constraintEntry engine item).toList
      <:+: (renderDurableConstraints engine s allowedScopes limit now).toList :=
  infix_intercalate (List.mem_append_right _ (List.mem_map_of_mem h))

/-- No constraint is dropped exactly where none in force is cut off behind one that is not. -/
theorem constraintsKept_iff (engine : ListingEngine) (s : MemoryTables)
    (allowedScopes : Option (Finset String)) (limit : Int) (now : Time) :
    ConstraintsKept engine s allowedScopes limit now
      ↔ NoneDisplaced engine s allowedScopes limit now := by
  constructor
  · intro h
    exact foremost_iff.mp h.foremost
  · intro h
    have hforemost := foremost_iff.mpr h
    exact ⟨hforemost, fun hle item hitem => rendered_of_mem (hforemost.mem_of_le hle hitem)⟩

end

/-! ## Archived constraints -/

/-- Rows in the order of insertion where their times are the same. -/
def plainListing : ListingEngine where
  latestFirst rows := rows.insertionSort fun a b =>
    columnTime b.updatedAt ≤ columnTime a.updatedAt
  latestFirst_perm rows := List.perm_insertionSort _ rows
  latestFirst_sorted rows := by
    have : Std.Total fun a b : MemoryItem => columnTime b.updatedAt ≤ columnTime a.updatedAt :=
      ⟨fun a b => le_total (columnTime b.updatedAt) (columnTime a.updatedAt)⟩
    have : IsTrans MemoryItem fun a b => columnTime b.updatedAt ≤ columnTime a.updatedAt :=
      ⟨fun _ _ _ hab hbc => hbc.trans hab⟩
    exact List.pairwise_insertionSort _ rows
  fixed2 := decimals 2
  strftime _ := "1970-01-01"

def userConstraint (id status : String) (updatedAt : Time) : MemoryItem where
  id := id
  type := "constraint"
  status := status
  scope := "user"
  content := "never push to main"
  source := "chat"
  confidence := 1
  createdAt := .float 0
  updatedAt := .float updatedAt
  lastVerifiedAt := .float 0
  expiresAt := .float 0
  metadata := []
  reason := "said so"
  provenance := "user"
  summary := ""

/-- A hundred archived constraints, and one that is active and older. -/
def crowded : MemoryTables where
  items :=
    ⟨(List.range 100).map (fun n => userConstraint (toString n) "archived" (200 - n))
      ++ [userConstraint "rule" "active" 1], by decide +kernel⟩
  parameters := .empty
  stored := by decide +kernel

/-- The active one is not rendered under the default limit. -/
theorem crowded_constraintsKept_not :
    ¬ ConstraintsKept plainListing crowded (some {"user"}) 100 300
      ∧ renderDurableConstraints plainListing crowded (some {"user"}) 100 300 = ""
      ∧ (constraintsInForce crowded (some {"user"}) 300).map (·.id) = ["rule"] := by
  refine ⟨fun h => ?_, by decide +kernel, by decide +kernel⟩
  have hdisplaced := foremost_iff.mp h.foremost
  revert hdisplaced
  decide +kernel

end Navi.Memory
