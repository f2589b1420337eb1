import Navi.Base.Dict
import Navi.Base.System
import Navi.Base.Totals

/-!
# The resource ledger

`SQLiteResourceLedger`: scopes with the counters that are kept beside the grants, and
its four operations, transaction by transaction, by any number of processes.
-/

namespace Navi.Resources

open Navi.Base

/-! ## Requests, grants and rows -/

inductive ResourceDecision where
  | allow
  | pause
  | escalate
  | block
  deriving DecidableEq

structure ResourceLimits where
  tokenBudget : Int
  callBudget : Int
  costBudget : Rat
  qpsLimit : Int
  maxConcurrent : Int

structure ResourceRequest where
  kind : String
  estimatedTokens : Int
  estimatedCost : Rat
  units : Int
  idempotencyKey : String
  reserve : Bool

structure ResourceUsage where
  usedTokens : Int
  usedCalls : Int
  usedCost : Rat
  active : Int

/-- `ResourceUsage()`. -/
def ResourceUsage.zero : ResourceUsage := ⟨0, 0, 0, 0⟩

/-- `BudgetState`. -/
structure BudgetState where
  decision : ResourceDecision
  tokenBudgetRemaining : Option Int
  callBudgetRemaining : Option Int
  costBudgetRemaining : Option Rat
  reason : String
  deriving DecidableEq

structure ResourceGrant where
  decision : ResourceDecision
  reason : String
  budgetState : BudgetState
  retryAfterSeconds : Time
  grantId : String

/-- `_remaining` and `_remaining_float`. -/
def remaining {α : Type} [LinearOrder α] [Zero α] [Sub α] (limit used : α) : Option α :=
  if limit ≤ 0 then none else some (max 0 (limit - used))

/-- The `BudgetState` of a usage. -/
def budgetStateFromUsage (limits : ResourceLimits) (decision : ResourceDecision)
    (reason : String) (usage : ResourceUsage) : BudgetState where
  decision := decision
  tokenBudgetRemaining := remaining limits.tokenBudget usage.usedTokens
  callBudgetRemaining := remaining limits.callBudget usage.usedCalls
  costBudgetRemaining := remaining limits.costBudget usage.usedCost
  reason := reason

/-- `_grant_from_usage`. -/
def grantFromUsage (limits : ResourceLimits) (decision : ResourceDecision) (reason : String)
    (usage : ResourceUsage) (retryAfterSeconds : Time) (grantId : String) : ResourceGrant where
  decision := decision
  reason := reason
  budgetState := budgetStateFromUsage limits decision reason usage
  retryAfterSeconds := retryAfterSeconds
  grantId := grantId

/-- `resource_scopes`. -/
structure ScopeRow where
  scopeId : String
  limits : ResourceLimits
  usage : ResourceUsage
  updatedAt : Time

/-- `resource_grants`; `active` is the status. -/
structure GrantRow where
  id : String
  scopeId : String
  idempotencyKey : String
  kind : String
  reservedTokens : Int
  reservedCost : Rat
  units : Int
  active : Bool
  createdAt : Time
  updatedAt : Time

structure Ledger where
  scopes : Table String ScopeRow (·.scopeId)
  grants : Table String GrantRow (·.id)

def Ledger.fresh : Ledger := ⟨.empty, .empty⟩

/-! ## The statements -/

/-- The columns of a scope that `ensure_scope` updates. -/
def ScopeRow.withLimits (limits : ResourceLimits) (now : Time) (row : ScopeRow) : ScopeRow :=
  { row with limits := limits, updatedAt := now }

/-- `ensure_scope`. -/
def Ledger.ensureScope (s : Ledger) (scopeId : String) (limits : ResourceLimits) (now : Time) :
    Ledger :=
  { s with
    scopes := (s.scopes.update (·.scopeId = scopeId) (·.withLimits limits now)
      fun _ => rfl).insertOrIgnore ⟨scopeId, limits, .zero, now⟩ }

/-- `usage` and `_usage_in_transaction`. -/
def Ledger.usage (s : Ledger) (scopeId : String) : ResourceUsage :=
  ((s.scopes.get? scopeId).map (·.usage)).getD .zero

/-- `UPDATE resource_scopes SET ... WHERE scope_id = ?`, of counters. -/
def Ledger.charge (s : Ledger) (scopeId : String) (set : ResourceUsage → ResourceUsage)
    (now : Time) : Ledger :=
  { s with
    scopes := s.scopes.update (·.scopeId = scopeId)
      (fun row => { row with usage := set row.usage, updatedAt := now }) fun _ => rfl }

/-- The grants that `SELECT COUNT(*), MIN(created_at)` of `_decision` reads. -/
def Ledger.recent (s : Ledger) (scopeId : String) (now : Time) : List GrantRow :=
  s.grants.rows.filter fun row => row.scopeId = scopeId ∧ now - 1 < row.createdAt

/-- `MIN(created_at) or now`. -/
def earliest (rows : List GrantRow) (now : Time) : Time :=
  match (rows.map (·.createdAt)).min? with
  | some first => if first = 0 then now else first
  | none => now

/-- `_decision`. -/
def Ledger.decision (s : Ledger) (scopeId : String) (limits : ResourceLimits)
    (request : ResourceRequest) (usage : ResourceUsage) (now : Time) :
    ResourceDecision × String × Time :=
  if request.units < 1 then (.block, "invalid_units", 0)
  else if 0 < limits.maxConcurrent ∧ limits.maxConcurrent < usage.active + request.units then
    (.pause, "concurrency_limit", 0)
  else if 0 < limits.callBudget ∧ limits.callBudget < usage.usedCalls + request.units then
    (.escalate, "call_budget_exhausted", 0)
  else if 0 < limits.tokenBudget
      ∧ limits.tokenBudget < usage.usedTokens + request.estimatedTokens then
    (.escalate, "token_budget_exhausted", 0)
  else if 0 < limits.costBudget ∧ request.estimatedCost ≤ 0 then
    (.block, "cost_estimate_required", 0)
  else if 0 < limits.costBudget ∧ limits.costBudget < usage.usedCost + request.estimatedCost then
    (.escalate, "cost_budget_exhausted", 0)
  else if 0 < limits.qpsLimit ∧ limits.qpsLimit ≤ (s.recent scopeId now).length then
    (.pause, "rate_limited", max 0 (1 - (now - earliest (s.recent scopeId now) now)))
  else (.allow, "ok", 0)

/-- `request.idempotency_key or grant_id`. -/
def ResourceRequest.key (request : ResourceRequest) (grantId : String) : String :=
  if request.idempotencyKey = "" then grantId else request.idempotencyKey

/-- The row that a grant is inserted as. -/
def ResourceRequest.row (request : ResourceRequest) (grantId scopeId : String) (now : Time) :
    GrantRow where
  id := grantId
  scopeId := scopeId
  idempotencyKey := request.key grantId
  kind := request.kind
  reservedTokens := max 0 request.estimatedTokens
  reservedCost := max 0 request.estimatedCost
  units := request.units
  active := true
  createdAt := now
  updatedAt := now

/-- What a grant adds to the counters. -/
def ResourceRequest.charge (request : ResourceRequest) (usage : ResourceUsage) :
    ResourceUsage where
  usedTokens := usage.usedTokens + max 0 request.estimatedTokens
  usedCalls := usage.usedCalls + request.units
  usedCost := usage.usedCost + max 0 request.estimatedCost
  active := usage.active + request.units

/-- The grant of a scope under a key. -/
def Ledger.keyed (s : Ledger) (scopeId idempotencyKey : String) : Option GrantRow :=
  s.grants.rows.find? fun row => row.scopeId = scopeId ∧ row.idempotencyKey = idempotencyKey

/-- `INSERT INTO resource_grants`. -/
def Ledger.insert (s : Ledger) (row : GrantRow) : Ledger :=
  { s with grants := s.grants.insertOrIgnore row }

/-- The transaction of `reserve`, with the id drawn for the grant. One whose id is taken
is rolled back and read as a replay. -/
def Ledger.reserve (s : Ledger) (scopeId : String) (limits : ResourceLimits)
    (request : ResourceRequest) (grantId : String) (now : Time) : ResourceGrant × Ledger :=
  let usage := s.usage scopeId
  match s.keyed scopeId (request.key grantId) with
  | some existing => (grantFromUsage limits .allow "idempotent_replay" usage 0 existing.id, s)
  | none =>
      let (decision, reason, retryAfter) := s.decision scopeId limits request usage now
      if decision ≠ .allow then (grantFromUsage limits decision reason usage retryAfter "", s)
      else if (s.grants.get? grantId).isSome then
        (grantFromUsage limits .allow "idempotent_replay" usage 0 "", s)
      else
        let s' := (s.insert (request.row grantId scopeId now)).charge scopeId request.charge now
        (grantFromUsage limits .allow "ok" (s'.usage scopeId) 0 grantId, s')

/-- The row of a grant that is released. -/
def GrantRow.released (now : Time) (row : GrantRow) : GrantRow :=
  { row with active := false, updatedAt := now }

theorem GrantRow.released_id (now : Time) (row : GrantRow) : (row.released now).id = row.id := rfl

/-- `UPDATE resource_grants SET status = 'released', ... WHERE id = ?`. -/
def Ledger.markReleased (s : Ledger) (grantId : String) (now : Time) : Ledger :=
  { s with
    grants := s.grants.update (·.id = grantId) (·.released now) (GrantRow.released_id now) }

section

/-! `MAX(0, ..)` of the active count is an argument, so that it can be left out. -/

variable (clamp : Int → Int)

/-- What a release does to the counters, with the tokens and the cost that it settles. -/
def settle (row : GrantRow) (actualTokens : Option Int) (actualCost : Option Rat)
    (usage : ResourceUsage) : ResourceUsage where
  usedTokens := max 0 (usage.usedTokens
    + ((actualTokens.map (max 0 ·)).getD row.reservedTokens - row.reservedTokens))
  usedCalls := usage.usedCalls
  usedCost := max 0 (usage.usedCost
    + ((actualCost.map (max 0 ·)).getD row.reservedCost - row.reservedCost))
  active := clamp (usage.active - row.units)

/-- `release`. -/
def Ledger.release (s : Ledger) (scopeId grantId : String) (actualTokens : Option Int)
    (actualCost : Option Rat) (now : Time) : ResourceUsage × Ledger :=
  match s.grants.get? grantId with
  | none => (s.usage scopeId, s)
  | some row =>
      if grantId ≠ "" ∧ row.scopeId = scopeId ∧ row.active then
        let s' := (s.charge scopeId (settle clamp row actualTokens actualCost) now).markReleased
          grantId now
        (s'.usage scopeId, s')
      else (s.usage scopeId, s)

/-- What a bulk release does to the counters. -/
def takeOff (row : GrantRow) (usage : ResourceUsage) : ResourceUsage :=
  { usage with active := clamp (usage.active - row.units) }

/-- One round of `release_active_grants_for_scopes`. -/
def Ledger.reclaim (now : Time) (s : Ledger) (row : GrantRow) : Ledger :=
  (s.charge row.scopeId (takeOff clamp row) now).markReleased row.id now

/-- `release_active_grants_for_scopes`. -/
def Ledger.releaseActive (s : Ledger) (scopeIds : List String) (now : Time) : Ledger :=
  (s.grants.rows.filter fun row => row.active ∧ row.scopeId ≠ "" ∧ row.scopeId ∈ scopeIds).foldl
    (Ledger.reclaim clamp now) s

/-! ## The processes -/

/-- A `reserve` whose scope is ensured, and whose transaction is not begun. -/
structure Reserving where
  scopeId : String
  limits : ResourceLimits
  request : ResourceRequest
  now : Time

/-- The database and the calls of `reserve` between their two transactions. -/
structure LedgerState where
  ledger : Ledger
  calls : Nat → Option Reserving

def LedgerState.start : LedgerState := ⟨.fresh, fun _ => none⟩

/-- `ensure_scope`; `reserve`, up to its `ensure_scope` and after; `release`; and
`release_active_grants_for_scopes`. -/
inductive LedgerLabel where
  | ensureScope (scopeId : String) (limits : ResourceLimits) (now : Time)
  | beginReserve (call : Nat) (reserving : Reserving) (now : Time)
  | reserve (call : Nat) (grantId : String)
  | release (scopeId grantId : String) (actualTokens : Option Int) (actualCost : Option Rat)
      (now : Time)
  | releaseActive (scopeIds : List String) (now : Time)

/-- The ledger under its four operations. -/
def ledgerSystem : System LedgerState LedgerLabel where
  step s
    | .ensureScope scopeId limits now =>
        some { s with ledger := s.ledger.ensureScope scopeId limits now }
    | .beginReserve call reserving now =>
        match s.calls call with
        | none => some
            { ledger := s.ledger.ensureScope reserving.scopeId reserving.limits now
              calls := Function.update s.calls call (some reserving) }
        | some _ => none
    | .reserve call grantId =>
        match s.calls call with
        | some reserving => some
            { ledger := (s.ledger.reserve reserving.scopeId reserving.limits reserving.request
                grantId reserving.now).2
              calls := Function.update s.calls call none }
        | none => none
    | .release scopeId grantId actualTokens actualCost now =>
        some { s with
          ledger := (s.ledger.release clamp scopeId grantId actualTokens actualCost now).2 }
    | .releaseActive scopeIds now =>
        some { s with ledger := s.ledger.releaseActive clamp scopeIds now }

end

/-! ## Conservation -/

/-- What a grant counts for in a scope. -/
def GrantRow.unitsIn (scopeId : String) (row : GrantRow) : Int :=
  if row.scopeId = scopeId then row.units else 0

/-- What a grant counts for in a scope while it is active. -/
def GrantRow.activeIn (scopeId : String) (row : GrantRow) : Int :=
  if row.active then row.unitsIn scopeId else 0

/-- The counters of each scope are the totals of its grants, and a key has one grant. -/
structure Ledger.Conserved (s : Ledger) : Prop where
  active : ∀ scopeId scope, s.scopes.get? scopeId = some scope →
    scope.usage.active = s.grants.total (·.activeIn scopeId)
  usedCalls : ∀ scopeId scope, s.scopes.get? scopeId = some scope →
    scope.usage.usedCalls = s.grants.total (·.unitsIn scopeId)
  alone : ∀ a ∈ s.grants.rows, ∀ b ∈ s.grants.rows, a.scopeId = b.scopeId →
    a.idempotencyKey = b.idempotencyKey → a = b

/-- A conserved ledger whose grants are of scopes that are there, and positive. -/
structure Ledger.Sound (s : Ledger) : Prop extends s.Conserved where
  positive : ∀ row ∈ s.grants.rows, 1 ≤ row.units
  placed : ∀ row ∈ s.grants.rows, (s.scopes.get? row.scopeId).isSome

section

variable {s : Ledger} {scopeId k : String} {limits : ResourceLimits} {now : Time}
  {set : ResourceUsage → ResourceUsage} {row : GrantRow}

/-! ### The statements by the rows they leave -/

theorem get?_charge : (s.charge scopeId set now).scopes.get? k = (s.scopes.get? k).map fun scope =>
    if scope.scopeId = scopeId then { scope with usage := set scope.usage, updatedAt := now }
    else scope := by
  have hfound := s.scopes.get?_update (·.scopeId = scopeId)
    (fun row => { row with usage := set row.usage, updatedAt := now }) (fun _ => rfl) k
  simp only [decide_eq_true_eq] at hfound
  exact hfound

theorem charge_isSome : ((s.charge scopeId set now).scopes.get? k).isSome
    = (s.scopes.get? k).isSome := by
  rw [get?_charge, Option.isSome_map]

theorem of_get?_charge {scope' : ScopeRow}
    (h : (s.charge scopeId set now).scopes.get? k = some scope') :
    ∃ scope, s.scopes.get? k = some scope
      ∧ (k = scopeId → scope'.usage = set scope.usage)
      ∧ (k ≠ scopeId → scope' = scope) := by
  rw [get?_charge] at h
  obtain ⟨scope, hscope, rfl⟩ := Option.map_eq_some_iff.mp h
  have hid := (Table.get?_eq_some_iff.mp hscope).2
  refine ⟨scope, hscope, fun heq => ?_, fun hne => ?_⟩
  · rw [if_pos (hid.trans heq)]
  · exact if_neg fun hsame => hne (hid.symm.trans hsame)

theorem charge_congr {set' : ResourceUsage → ResourceUsage}
    (h : ∀ scope, s.scopes.get? scopeId = some scope → set scope.usage = set' scope.usage) :
    s.charge scopeId set now = s.charge scopeId set' now := by
  have hrows : ∀ scope ∈ s.scopes.rows, scope.scopeId = scopeId →
      set scope.usage = set' scope.usage := fun scope hmem hid =>
    h scope (hid ▸ Table.get?_of_mem hmem)
  simp only [Ledger.charge, Table.update, Table.updateRows, Ledger.mk.injEq, Table.mk.injEq,
    and_true]
  refine List.map_congr_left fun scope hmem => ?_
  simp only [decide_eq_true_eq]
  split
  next hid => rw [hrows scope hmem hid]
  next => rfl

theorem get?_ensureScope : (s.ensureScope scopeId limits now).scopes.get? k
    = if scopeId = k then some (((s.scopes.get? k).map (·.withLimits limits now)).getD
        ⟨scopeId, limits, .zero, now⟩)
      else s.scopes.get? k := by
  have hfound := s.scopes.get?_update (·.scopeId = scopeId) (·.withLimits limits now)
    (fun _ => rfl) k
  simp only [decide_eq_true_eq] at hfound
  simp only [Ledger.ensureScope, Table.get?_insertOrIgnore, hfound]
  cases hscope : s.scopes.get? k with
  | none => split <;> rfl
  | some scope =>
      have hid := (Table.get?_eq_some_iff.mp hscope).2
      split
      next heq => simp [hid, heq]
      next hne => simp [hid, Ne.symm hne]

/-! ### What the statements keep -/

theorem Ledger.Sound.ensureScope (hs : s.Sound) : (s.ensureScope scopeId limits now).Sound := by
  have hcases : ∀ k scope', (s.ensureScope scopeId limits now).scopes.get? k = some scope' →
      (∃ scope, s.scopes.get? k = some scope ∧ scope'.usage = scope.usage)
        ∨ s.scopes.get? k = none ∧ scope'.usage = .zero := by
    intro k scope' h
    rw [get?_ensureScope] at h
    split at h
    next heq =>
      cases hscope : s.scopes.get? k with
      | none =>
          rw [hscope] at h
          obtain rfl := Option.some.inj h
          exact .inr ⟨rfl, rfl⟩
      | some scope =>
          rw [hscope] at h
          obtain rfl := Option.some.inj h
          exact .inl ⟨scope, rfl, rfl⟩
    next => exact .inl ⟨scope', h, rfl⟩
  -- no grant counts in a scope that was not there
  have hempty : ∀ k, s.scopes.get? k = none → ∀ row ∈ s.grants.rows, row.scopeId ≠ k := by
    rintro k hnone row hmem rfl
    have hthere := hs.placed row hmem
    rw [hnone] at hthere
    cases hthere
  have hzero : ∀ k, s.scopes.get? k = none → ∀ weight : GrantRow → Int,
      (∀ row, row.scopeId ≠ k → weight row = 0) → s.grants.total weight = 0 := by
    intro k hnone weight hweight
    rw [Table.total_congr fun row hmem => hweight row (hempty k hnone row hmem)]
    simp [Table.total]
  refine ⟨⟨fun k scope' h => ?_, fun k scope' h => ?_, hs.alone⟩, hs.positive, fun row hmem => ?_⟩
  · rcases hcases k scope' h with ⟨scope, hscope, husage⟩ | ⟨hnone, husage⟩
    · rw [husage]
      exact hs.active k scope hscope
    · rw [husage]
      refine (hzero k hnone _ fun row hne => ?_).symm
      simp [GrantRow.activeIn, GrantRow.unitsIn, hne]
  · rcases hcases k scope' h with ⟨scope, hscope, husage⟩ | ⟨hnone, husage⟩
    · rw [husage]
      exact hs.usedCalls k scope hscope
    · rw [husage]
      refine (hzero k hnone _ fun row hne => ?_).symm
      simp [GrantRow.unitsIn, hne]
  · rw [get?_ensureScope]
    split
    next => rfl
    next => exact hs.placed row hmem

theorem Ledger.Sound.insert (hs : s.Sound) (hid : s.grants.get? row.id = none)
    (hkey : ∀ other ∈ s.grants.rows, other.scopeId = row.scopeId →
      other.idempotencyKey ≠ row.idempotencyKey)
    (hscope : (s.scopes.get? row.scopeId).isSome) (hunits : 1 ≤ row.units)
    (hactive : row.active = true)
    (hset : ∀ usage, (set usage).active = usage.active + row.units
      ∧ (set usage).usedCalls = usage.usedCalls + row.units) :
    ((s.insert row).charge row.scopeId set now).Sound := by
  have hrows : ∀ other, other ∈ ((s.insert row).charge row.scopeId set now).grants.rows →
      other ∈ s.grants.rows ∨ other = row := by
    intro other hmem
    have hget := Table.get?_of_mem hmem
    change (s.grants.insertOrIgnore row).get? other.id = some other at hget
    rw [Table.get?_insertOrIgnore] at hget
    cases hold : s.grants.get? other.id with
    | some found =>
        rw [hold, Option.some_or] at hget
        obtain rfl := Option.some.inj hget
        exact .inl (Table.get?_eq_some_iff.mp hold).1
    | none =>
        rw [hold, Option.none_or] at hget
        split at hget
        next => exact .inr (Option.some.inj hget).symm
        next => cases hget
  have htotal : ∀ weight : GrantRow → Int,
      ((s.insert row).charge row.scopeId set now).grants.total weight
        = s.grants.total weight + weight row := fun weight => Table.total_insertOrIgnore hid
  refine ⟨⟨fun k scope' h => ?_, fun k scope' h => ?_, fun a ha b hb hscopes hkeys => ?_⟩,
    fun other hmem => ?_, fun other hmem => ?_⟩
  · obtain ⟨scope, hfound, hsame, hother⟩ := of_get?_charge h
    rw [htotal]
    by_cases hk : k = row.scopeId
    · rw [hsame hk, (hset _).1, hs.active k scope hfound]
      simp [GrantRow.activeIn, GrantRow.unitsIn, hactive, hk]
    · rw [hother hk, hs.active k scope hfound]
      simp [GrantRow.activeIn, GrantRow.unitsIn, Ne.symm hk]
  · obtain ⟨scope, hfound, hsame, hother⟩ := of_get?_charge h
    rw [htotal]
    by_cases hk : k = row.scopeId
    · rw [hsame hk, (hset _).2, hs.usedCalls k scope hfound]
      simp [GrantRow.unitsIn, hk]
    · rw [hother hk, hs.usedCalls k scope hfound]
      simp [GrantRow.unitsIn, Ne.symm hk]
  · rcases hrows a ha with haOld | haNew <;> rcases hrows b hb with hbOld | hbNew
    · exact hs.alone a haOld b hbOld hscopes hkeys
    · subst hbNew
      exact absurd hkeys (hkey a haOld hscopes)
    · subst haNew
      exact absurd hkeys.symm (hkey b hbOld hscopes.symm)
    · exact haNew.trans hbNew.symm
  · rcases hrows other hmem with hold | rfl
    · exact hs.positive other hold
    · exact hunits
  · rw [charge_isSome]
    rcases hrows other hmem with hold | rfl
    · exact hs.placed other hold
    · exact hscope

theorem get?_markReleased {grantId id : String} : (s.markReleased grantId now).grants.get? id
    = (s.grants.get? id).map fun row =>
        if row.id = grantId then row.released now else row := by
  have hfound := s.grants.get?_update (·.id = grantId) (·.released now)
    (GrantRow.released_id now) id
  simp only [decide_eq_true_eq] at hfound
  exact hfound

theorem Ledger.Sound.discharge (hs : s.Sound) (hrow : s.grants.get? row.id = some row)
    (hactive : row.active = true)
    (hset : ∀ usage, (set usage).active = usage.active - row.units
      ∧ (set usage).usedCalls = usage.usedCalls) :
    ((s.charge row.scopeId set now).markReleased row.id now).Sound := by
  have htotal : ∀ weight : GrantRow → Int,
      ((s.charge row.scopeId set now).markReleased row.id now).grants.total weight
        = s.grants.total weight - weight row
          + weight (row.released now) :=
    fun weight => @Table.total_update _ _ _ _ weight _ _ _ (GrantRow.released_id now) _ hrow
  have hrows : ∀ other' ∈ ((s.charge row.scopeId set now).markReleased row.id now).grants.rows,
      ∃ other ∈ s.grants.rows, other'.id = other.id ∧ other'.scopeId = other.scopeId
        ∧ other'.idempotencyKey = other.idempotencyKey ∧ other'.units = other.units := by
    intro other' hmem
    obtain ⟨other, hold, rfl⟩ := List.mem_map.mp hmem
    refine ⟨other, hold, ?_⟩
    split <;> exact ⟨rfl, rfl, rfl, rfl⟩
  refine ⟨⟨fun k scope' h => ?_, fun k scope' h => ?_, fun a ha b hb hscopes hkeys => ?_⟩,
    fun other' hmem => ?_, fun other' hmem => ?_⟩
  · obtain ⟨scope, hfound, hsame, hother⟩ := of_get?_charge h
    rw [htotal]
    by_cases hk : k = row.scopeId
    · rw [hsame hk, (hset _).1, hs.active k scope hfound]
      simp [GrantRow.activeIn, GrantRow.unitsIn, GrantRow.released, hactive, hk]
    · rw [hother hk, hs.active k scope hfound]
      simp [GrantRow.activeIn, GrantRow.unitsIn, GrantRow.released, Ne.symm hk]
  · obtain ⟨scope, hfound, hsame, hother⟩ := of_get?_charge h
    rw [htotal]
    by_cases hk : k = row.scopeId
    · rw [hsame hk, (hset _).2, hs.usedCalls k scope hfound]
      exact (sub_add_cancel _ (row.unitsIn k)).symm
    · rw [hother hk, hs.usedCalls k scope hfound]
      exact (sub_add_cancel _ (row.unitsIn k)).symm
  · obtain ⟨a₀, ha₀, haId, haScope, haKey, -⟩ := hrows a ha
    obtain ⟨b₀, hb₀, hbId, hbScope, hbKey, -⟩ := hrows b hb
    have hsame : a₀ = b₀ := hs.alone a₀ ha₀ b₀ hb₀
      (haScope.symm.trans (hscopes.trans hbScope)) (haKey.symm.trans (hkeys.trans hbKey))
    exact Table.eq_of_key ha hb (haId.trans ((congrArg GrantRow.id hsame).trans hbId.symm))
  · obtain ⟨other, hold, -, -, -, hunits⟩ := hrows other' hmem
    rw [hunits]
    exact hs.positive other hold
  · obtain ⟨other, hold, -, hscope, -, -⟩ := hrows other' hmem
    rw [hscope]
    change ((s.charge row.scopeId set now).scopes.get? other.scopeId).isSome
    rw [charge_isSome]
    exact hs.placed other hold

theorem Ledger.Sound.units_le (hs : s.Sound) (hrow : row ∈ s.grants.rows)
    (hactive : row.active = true) {scope : ScopeRow}
    (hscope : s.scopes.get? row.scopeId = some scope) : row.units ≤ scope.usage.active := by
  have hnonneg : ∀ other ∈ s.grants.rows, 0 ≤ other.activeIn row.scopeId := by
    intro other hmem
    have hpositive := hs.positive other hmem
    unfold GrantRow.activeIn GrantRow.unitsIn
    split
    · split <;> omega
    · exact le_rfl
  have hle := Table.weight_le_total hnonneg hrow
  rw [← hs.active _ scope hscope] at hle
  simpa [GrantRow.activeIn, GrantRow.unitsIn, hactive] using hle

/-! ### The operations -/

theorem keyed_eq_none {idempotencyKey : String} (h : s.keyed scopeId idempotencyKey = none) :
    ∀ other ∈ s.grants.rows, other.scopeId = scopeId →
      other.idempotencyKey ≠ idempotencyKey := by
  intro other hmem hscope hkey
  have hnot := List.find?_eq_none.mp h other hmem
  exact hnot (by simp [hscope, hkey])

theorem decision_eq_allow {request : ResourceRequest} {usage : ResourceUsage}
    (h : (s.decision scopeId limits request usage now).1 = .allow) :
    1 ≤ request.units
      ∧ (0 < limits.maxConcurrent → usage.active + request.units ≤ limits.maxConcurrent)
      ∧ (0 < limits.callBudget → usage.usedCalls + request.units ≤ limits.callBudget) := by
  unfold Ledger.decision at h
  split at h
  next => cases h
  next hunits =>
    split at h
    next => cases h
    next hconcurrent =>
      split at h
      next => cases h
      next hcalls =>
        refine ⟨not_lt.mp hunits, fun hpos => ?_, fun hpos => ?_⟩
        · exact not_lt.mp fun hlt => hconcurrent ⟨hpos, hlt⟩
        · exact not_lt.mp fun hlt => hcalls ⟨hpos, hlt⟩

theorem reserve_cases (s : Ledger) (scopeId : String) (limits : ResourceLimits)
    (request : ResourceRequest) (grantId : String) (now : Time) :
    (s.reserve scopeId limits request grantId now).2 = s
      ∨ s.keyed scopeId (request.key grantId) = none ∧ s.grants.get? grantId = none
        ∧ (s.decision scopeId limits request (s.usage scopeId) now).1 = .allow
        ∧ (s.reserve scopeId limits request grantId now).2
          = (s.insert (request.row grantId scopeId now)).charge scopeId request.charge now := by
  unfold Ledger.reserve
  cases hkeyed : s.keyed scopeId (request.key grantId) with
  | some existing => exact .inl rfl
  | none =>
      dsimp only
      by_cases hallow : (s.decision scopeId limits request (s.usage scopeId) now).1 = .allow
      · rw [if_neg (not_not.mpr hallow)]
        cases hid : s.grants.get? grantId with
        | some found => exact .inl rfl
        | none => exact .inr ⟨rfl, rfl, hallow, rfl⟩
      · rw [if_pos hallow]
        exact .inl rfl

theorem Ledger.Sound.reserve {request : ResourceRequest} {grantId : String} (hs : s.Sound)
    (hscope : (s.scopes.get? scopeId).isSome) :
    (s.reserve scopeId limits request grantId now).2.Sound := by
  rcases reserve_cases s scopeId limits request grantId now with hsame | ⟨hkey, hid, hallow, heq⟩
  · rw [hsame]
    exact hs
  · rw [heq]
    exact @Ledger.Sound.insert s now request.charge (request.row grantId scopeId now) hs hid
      (keyed_eq_none hkey) hscope (decision_eq_allow hallow).1 rfl fun _ => ⟨rfl, rfl⟩

theorem Ledger.Sound.release {grantId : String} {actualTokens : Option Int}
    {actualCost : Option Rat} (hs : s.Sound) :
    (s.release id scopeId grantId actualTokens actualCost now).2.Sound := by
  unfold Ledger.release
  cases hrow : s.grants.get? grantId with
  | none => exact hs
  | some row =>
      dsimp only
      split
      next hmine =>
        obtain ⟨-, hscope, hactive⟩ := hmine
        obtain ⟨hmem, hid⟩ := Table.get?_eq_some_iff.mp hrow
        subst hid hscope
        exact hs.discharge hrow hactive fun _ => ⟨rfl, rfl⟩
      next => exact hs

theorem release_clamp {grantId : String} {actualTokens : Option Int} {actualCost : Option Rat}
    (hs : s.Sound) : s.release (max 0) scopeId grantId actualTokens actualCost now
      = s.release id scopeId grantId actualTokens actualCost now := by
  unfold Ledger.release
  cases hrow : s.grants.get? grantId with
  | none => rfl
  | some row =>
      dsimp only
      split
      next hmine =>
        obtain ⟨-, hscope, hactive⟩ := hmine
        have hsame : s.charge scopeId (settle (max 0) row actualTokens actualCost) now
            = s.charge scopeId (settle id row actualTokens actualCost) now := by
          refine charge_congr fun scope hfound => ?_
          subst hscope
          have hle := hs.units_le (Table.get?_eq_some_iff.mp hrow).1 hactive hfound
          simp only [settle, id_eq, max_eq_right (sub_nonneg.mpr hle)]
        rw [hsame]
      next => rfl

theorem Ledger.Sound.reclaimAll (clamp : Int → Int) (hclamp : ∀ n, 0 ≤ n → clamp n = n)
    {rows : List GrantRow} : ∀ {s : Ledger}, s.Sound → (rows.map (·.id)).Nodup →
      (∀ row ∈ rows, s.grants.get? row.id = some row ∧ row.active = true) →
      (rows.foldl (Ledger.reclaim clamp now) s).Sound
        ∧ rows.foldl (Ledger.reclaim clamp now) s = rows.foldl (Ledger.reclaim id now) s := by
  induction rows with
  | nil => exact fun hs _ _ => ⟨hs, rfl⟩
  | cons row rest ih =>
      intro s hs hnodup hrows
      rw [List.map_cons, List.nodup_cons] at hnodup
      obtain ⟨hrow, hactive⟩ := hrows row List.mem_cons_self
      have hsame : Ledger.reclaim clamp now s row = Ledger.reclaim id now s row := by
        unfold Ledger.reclaim
        refine congrArg (Ledger.markReleased · row.id now) (charge_congr fun scope hfound => ?_)
        have hle := hs.units_le (Table.get?_eq_some_iff.mp hrow).1 hactive hfound
        simp only [takeOff, id_eq, hclamp _ (sub_nonneg.mpr hle)]
      have hnext : (Ledger.reclaim id now s row).Sound :=
        hs.discharge hrow hactive fun _ => ⟨rfl, rfl⟩
      rw [List.foldl_cons, List.foldl_cons, hsame]
      refine ih hnext hnodup.2 fun other hmem => ?_
      obtain ⟨hother, hotherActive⟩ := hrows other (List.mem_cons_of_mem _ hmem)
      have hne : other.id ≠ row.id := fun heq =>
        hnodup.1 (heq ▸ List.mem_map_of_mem hmem)
      refine ⟨?_, hotherActive⟩
      change ((s.charge row.scopeId _ now).markReleased row.id now).grants.get? other.id = _
      rw [get?_markReleased]
      change (s.grants.get? other.id).map _ = _
      rw [hother, Option.map_some, if_neg hne]

theorem releaseActive_clamp (clamp : Int → Int) (hclamp : ∀ n, 0 ≤ n → clamp n = n)
    {scopeIds : List String} (hs : s.Sound) : (s.releaseActive clamp scopeIds now).Sound
      ∧ s.releaseActive clamp scopeIds now = s.releaseActive id scopeIds now := by
  refine Ledger.Sound.reclaimAll clamp hclamp hs ?_ fun row hmem => ?_
  · exact (List.filter_sublist.map _).nodup s.grants.nodup
  · obtain ⟨hrow, hselected⟩ := List.mem_filter.mp hmem
    exact ⟨Table.get?_of_mem hrow, (of_decide_eq_true hselected).1⟩

end

/-! ## Runs -/

/-- A sound ledger whose begun calls have their scope. -/
structure LedgerState.Sound (s : LedgerState) : Prop where
  ledger : s.ledger.Sound
  begun : ∀ call reserving, s.calls call = some reserving →
    (s.ledger.scopes.get? reserving.scopeId).isSome

theorem scope_stays {clamp : Int → Int} {s s' : LedgerState} {label : LedgerLabel} {k : String}
    (hthere : (s.ledger.scopes.get? k).isSome) (h : (ledgerSystem clamp).step s label = some s') :
    (s'.ledger.scopes.get? k).isSome := by
  have hensured : ∀ scopeId limits now,
      ((s.ledger.ensureScope scopeId limits now).scopes.get? k).isSome := by
    intro scopeId limits now
    rw [get?_ensureScope]
    split
    · rfl
    · exact hthere
  cases label with
  | ensureScope scopeId limits now =>
      obtain rfl := Option.some.inj h
      exact hensured scopeId limits now
  | beginReserve call reserving now =>
      simp only [ledgerSystem] at h
      split at h
      next =>
        obtain rfl := Option.some.inj h
        exact hensured _ _ now
      next => cases h
  | reserve call grantId =>
      simp only [ledgerSystem] at h
      split at h
      next reserving _ =>
        obtain rfl := Option.some.inj h
        rcases reserve_cases s.ledger reserving.scopeId reserving.limits reserving.request grantId
          reserving.now with hsame | ⟨-, -, -, heq⟩
        · dsimp only
          rw [hsame]
          exact hthere
        · dsimp only
          rw [heq, charge_isSome]
          exact hthere
      next => cases h
  | release scopeId grantId actualTokens actualCost now =>
      obtain rfl := Option.some.inj h
      dsimp only [Ledger.release]
      split
      next => exact hthere
      next =>
        split
        next => exact charge_isSome.trans hthere
        next => exact hthere
  | releaseActive scopeIds now =>
      obtain rfl := Option.some.inj h
      dsimp only [Ledger.releaseActive]
      generalize s.ledger.grants.rows.filter _ = rows
      generalize s.ledger = ledger at hthere
      induction rows generalizing ledger with
      | nil => exact hthere
      | cons row rest ih =>
          refine ih (Ledger.reclaim clamp now ledger row) ?_
          exact (@charge_isSome ledger row.scopeId k now (takeOff clamp row)).trans hthere

theorem step_sound {clamp : Int → Int} (hclamp : clamp = max 0 ∨ clamp = id) {s s' : LedgerState}
    {label : LedgerLabel} (hs : s.Sound) (h : (ledgerSystem clamp).step s label = some s') :
    s'.Sound ∧ (ledgerSystem id).step s label = some s' := by
  have hmeets : ∀ n : Int, 0 ≤ n → clamp n = n := by
    rcases hclamp with rfl | rfl
    · exact fun n hn => max_eq_right hn
    · exact fun _ _ => rfl
  have hbegun : ∀ call reserving, s.calls call = some reserving →
      (s'.ledger.scopes.get? reserving.scopeId).isSome := fun call reserving hcall =>
    scope_stays (hs.begun call reserving hcall) h
  cases label with
  | ensureScope scopeId limits now =>
      obtain rfl := Option.some.inj h
      exact ⟨⟨hs.ledger.ensureScope, hbegun⟩, rfl⟩
  | beginReserve call reserving now =>
      simp only [ledgerSystem] at h ⊢
      split at h
      next hidle =>
        obtain rfl := Option.some.inj h
        refine ⟨⟨hs.ledger.ensureScope, fun other found hfound => ?_⟩, rfl⟩
        by_cases hother : other = call
        · subst hother
          change Function.update s.calls other (some reserving) other = _ at hfound
          rw [Function.update_self] at hfound
          obtain rfl := Option.some.inj hfound
          change ((s.ledger.ensureScope _ _ now).scopes.get? _).isSome
          rw [get?_ensureScope, if_pos rfl]
          rfl
        · change Function.update s.calls call (some reserving) other = _ at hfound
          rw [Function.update_of_ne hother] at hfound
          exact hbegun other found hfound
      next => cases h
  | reserve call grantId =>
      simp only [ledgerSystem] at h ⊢
      split at h
      next reserving hcall =>
        obtain rfl := Option.some.inj h
        refine ⟨⟨hs.ledger.reserve (hs.begun call reserving hcall), fun other found hfound => ?_⟩,
          rfl⟩
        by_cases hother : other = call
        · subst hother
          change Function.update s.calls other none other = _ at hfound
          rw [Function.update_self] at hfound
          cases hfound
        · change Function.update s.calls call none other = _ at hfound
          rw [Function.update_of_ne hother] at hfound
          exact hbegun other found hfound
      next => cases h
  | release scopeId grantId actualTokens actualCost now =>
      obtain rfl := Option.some.inj h
      have hsame : s.ledger.release clamp scopeId grantId actualTokens actualCost now
          = s.ledger.release id scopeId grantId actualTokens actualCost now := by
        rcases hclamp with rfl | rfl
        · exact release_clamp hs.ledger
        · rfl
      simp only [ledgerSystem, hsame] at hbegun ⊢
      exact ⟨⟨hs.ledger.release, hbegun⟩, trivial⟩
  | releaseActive scopeIds now =>
      obtain rfl := Option.some.inj h
      obtain ⟨hsound, hsame⟩ := @releaseActive_clamp s.ledger now clamp hmeets scopeIds hs.ledger
      simp only [ledgerSystem, hsame] at hbegun hsound ⊢
      exact ⟨⟨hsound, hbegun⟩, trivial⟩

theorem start_sound : LedgerState.start.Sound where
  ledger :=
    { active := fun _ _ h => by cases h
      usedCalls := fun _ _ h => by cases h
      alone := fun _ h => by cases h
      positive := fun _ h => by cases h
      placed := fun _ h => by cases h }
  begun := fun _ _ h => by cases h

theorem run_sound {s s' : LedgerState} {labels : List LedgerLabel} (hs : s.Sound)
    (h : (ledgerSystem (max 0)).run s labels = some s') :
    s'.Sound ∧ (ledgerSystem id).run s labels = some s' := by
  induction labels generalizing s with
  | nil =>
      obtain rfl := Option.some.inj h
      exact ⟨hs, rfl⟩
  | cons label rest ih =>
      obtain ⟨mid, hmid, hrest⟩ := Option.bind_eq_some_iff.mp h
      obtain ⟨hmidSound, hsame⟩ := step_sound (.inl rfl) hs hmid
      obtain ⟨hsound, hrun⟩ := ih hmidSound hrest
      exact ⟨hsound, Option.bind_eq_some_iff.mpr ⟨mid, hsame, hrun⟩⟩

/-- The reservation of a call makes this grant. -/
def Creates (s s' : LedgerState) (call : Nat) (grantId : String) (reserving : Reserving) : Prop :=
  s.calls call = some reserving ∧ (ledgerSystem (max 0)).step s (.reserve call grantId) = some s'
    ∧ s.ledger.grants.get? grantId = none ∧ (s'.ledger.grants.get? grantId).isSome

theorem creates_within {s s' : LedgerState} {call : Nat} {grantId : String}
    {reserving : Reserving} (h : Creates s s' call grantId reserving) {scope : ScopeRow}
    (hscope : s'.ledger.scopes.get? reserving.scopeId = some scope) :
    (0 < reserving.limits.maxConcurrent → scope.usage.active ≤ reserving.limits.maxConcurrent)
      ∧ (0 < reserving.limits.callBudget →
        scope.usage.usedCalls ≤ reserving.limits.callBudget) := by
  obtain ⟨hcall, hstep, hnone, hsome⟩ := h
  simp only [ledgerSystem, hcall] at hstep
  obtain rfl := Option.some.inj hstep
  rcases reserve_cases s.ledger reserving.scopeId reserving.limits reserving.request grantId
    reserving.now with hsame | ⟨-, -, hallow, heq⟩
  · simp only [hsame, hnone] at hsome
    cases hsome
  · simp only [heq] at hscope
    obtain ⟨before, hbefore, hcharged, -⟩ := of_get?_charge hscope
    have husage : s.ledger.usage reserving.scopeId = before.usage := by
      change ((s.ledger.scopes.get? reserving.scopeId).map _).getD _ = _
      rw [show s.ledger.scopes.get? reserving.scopeId = some before from hbefore]
      rfl
    obtain ⟨-, hconcurrent, hcalls⟩ := decision_eq_allow hallow
    rw [husage] at hconcurrent hcalls
    rw [hcharged rfl]
    exact ⟨hconcurrent, hcalls⟩

/-- In every run, the counters of each scope are the totals of its grants, each key has one
grant, a reservation that makes a grant keeps to its limits, and the run is the same without
the clamps of the active count. -/
theorem ledger_conserved (labels : List LedgerLabel) (s : LedgerState)
    (h : (ledgerSystem (max 0)).run .start labels = some s) :
    s.ledger.Conserved
      ∧ (∀ s' call grantId reserving, Creates s s' call grantId reserving →
        ∀ scope, s'.ledger.scopes.get? reserving.scopeId = some scope →
          (0 < reserving.limits.maxConcurrent →
              scope.usage.active ≤ reserving.limits.maxConcurrent)
            ∧ (0 < reserving.limits.callBudget →
              scope.usage.usedCalls ≤ reserving.limits.callBudget))
      ∧ (ledgerSystem id).run .start labels = some s := by
  obtain ⟨hsound, hrun⟩ := run_sound start_sound h
  exact ⟨hsound.ledger.toConserved, fun _ _ _ _ hcreates _ hscope => creates_within hcreates hscope,
    hrun⟩

/-- Two grants under the limits of one scope, one of them released. -/
def twoGrants : List LedgerLabel :=
  [.beginReserve 0 ⟨"scope", ⟨0, 8, 0, 0, 2⟩, ⟨"model", 10, 0, 1, "", true⟩, 0⟩ 0,
    .reserve 0 "first",
    .beginReserve 1 ⟨"scope", ⟨0, 8, 0, 0, 2⟩, ⟨"model", 10, 0, 1, "key", true⟩, 1⟩ 1,
    .reserve 1 "second", .release "scope" "first" none none 2]

theorem ledger_conserved_released : ∃ s : LedgerState,
    (ledgerSystem (max 0)).run .start twoGrants = some s ∧ s.ledger.Conserved :=
  ⟨_, rfl, (ledger_conserved twoGrants _ rfl).1⟩

end Navi.Resources
