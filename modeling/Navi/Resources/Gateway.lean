import Navi.Resources.Ledger

/-!
# The gateway with and without a ledger

`GlobalResourceGateway` with its counters in memory, beside the same gateway on a new
ledger: two admission procedures on one sequence of requests and releases.
-/

namespace Navi.Resources

open Navi.Base

/-! ## The gateway in memory -/

/-- `GlobalResourceGateway` without a ledger: its counters and its call times. -/
structure Gateway where
  usage : ResourceUsage
  callTimes : List Time

def Gateway.fresh : Gateway := ⟨.zero, []⟩

/-- `inspect`. -/
def Gateway.inspect (limits : ResourceLimits) (g : Gateway) : BudgetState :=
  budgetStateFromUsage limits .allow "ok" g.usage

/-- `_grant`. -/
def Gateway.grant (limits : ResourceLimits) (g : Gateway) (decision : ResourceDecision)
    (reason : String) : ResourceGrant :=
  grantFromUsage limits decision reason g.usage 0 ""

/-- The pops of `_qps_retry_after`. -/
def Gateway.popped (limits : ResourceLimits) (g : Gateway) (now : Time) : Gateway :=
  if limits.qpsLimit ≤ 0 then g
  else { g with callTimes := g.callTimes.dropWhile fun time => 1 ≤ now - time }

/-- What `_qps_retry_after` returns after its pops. -/
def Gateway.retryAfter (limits : ResourceLimits) (g : Gateway) (now : Time) : Time :=
  if limits.qpsLimit ≤ 0 ∨ (g.callTimes.length : Int) < limits.qpsLimit then 0
  else match g.callTimes with
    | [] => 0
    | first :: _ => max 0 (1 - (now - first))

/-- The gateway after a request that it grants. -/
def Gateway.admitted (g : Gateway) (request : ResourceRequest) (now : Time) : Gateway :=
  ⟨request.charge g.usage, g.callTimes ++ List.replicate request.units.toNat now⟩

/-- `request`. -/
def Gateway.request (limits : ResourceLimits) (g : Gateway) (request : ResourceRequest)
    (now : Time) : ResourceGrant × Gateway :=
  if request.reserve = false then
    (⟨.allow, "admission_probe", g.inspect limits, 0, ""⟩, g)
  else if request.units < 1 then (g.grant limits .block "invalid_units", g)
  else if 0 < limits.maxConcurrent ∧ limits.maxConcurrent < g.usage.active + request.units then
    (g.grant limits .pause "concurrency_limit", g)
  else if 0 < limits.callBudget ∧ limits.callBudget < g.usage.usedCalls + request.units then
    (g.grant limits .escalate "call_budget_exhausted", g)
  else if 0 < limits.tokenBudget
      ∧ limits.tokenBudget < g.usage.usedTokens + request.estimatedTokens then
    (g.grant limits .escalate "token_budget_exhausted", g)
  else if 0 < limits.costBudget ∧ limits.costBudget < g.usage.usedCost + request.estimatedCost then
    (g.grant limits .escalate "cost_budget_exhausted", g)
  else
    let g := g.popped limits now
    if 0 < g.retryAfter limits now then
      ({ g.grant limits .pause "rate_limited" with
        retryAfterSeconds := g.retryAfter limits now }, g)
    else ((g.admitted request now).grant limits .allow "ok", g.admitted request now)

/-- `release`: what was used is not looked at. -/
def Gateway.release (limits : ResourceLimits) (g : Gateway) (units : Int) :
    BudgetState × Gateway :=
  let g := if 0 < units then { g with usage := { g.usage with
    active := max 0 (g.usage.active - units) } } else g
  (g.inspect limits, g)

/-! ## The gateway on a ledger -/

/-- `request` with a ledger; `ensure_scope` reads a clock of its own. -/
def Ledger.request (limits : ResourceLimits) (s : Ledger) (scopeId : String)
    (request : ResourceRequest) (grantId : String) (now : Time) : ResourceGrant × Ledger :=
  if request.reserve = false then
    (⟨.allow, "admission_probe", budgetStateFromUsage limits .allow "ok" (s.usage scopeId), 0, ""⟩,
      s)
  else (s.ensureScope scopeId limits now).reserve scopeId limits request grantId now

/-! ## Both -/

/-- The two gateways, the scope of the second, and the time of the last request. -/
structure GatewayPair where
  memory : Gateway
  ledger : Ledger
  scopeId : String
  clock : Time

def GatewayPair.start (scopeId : String) (clock : Time) : GatewayPair :=
  ⟨.fresh, .fresh, scopeId, clock⟩

/-- A request, with the id that the ledger draws for its grant; the release of a request
that was granted. -/
inductive GatewayLabel where
  | request (request : ResourceRequest) (grantId : String) (now : Time)
  | release (grantId : String) (actualTokens : Option Int) (actualCost : Option Rat) (now : Time)

abbrev Answer := ResourceDecision × String × BudgetState

/-- The decision, the reason and the remaining budgets of a grant. -/
def ResourceGrant.answer (grant : ResourceGrant) : Answer :=
  (grant.decision, grant.reason, grant.budgetState)

/-- The answers of both, and both afterwards. The units of a release are those of the
request. -/
def GatewayPair.answers (limits : ResourceLimits) (s : GatewayPair) :
    GatewayLabel → (Answer × Answer) × GatewayPair
  | .request request grantId now =>
      let memory := s.memory.request limits request now
      let ledger := s.ledger.request limits s.scopeId request grantId now
      ((memory.1.answer, ledger.1.answer), ⟨memory.2, ledger.2, s.scopeId, now⟩)
  | .release grantId actualTokens actualCost now =>
      let units := ((s.ledger.grants.get? grantId).map (·.units)).getD 0
      let memory := s.memory.release limits units
      let ledger := s.ledger.release (max 0) s.scopeId grantId actualTokens actualCost now
      (((.allow, "ok", memory.1), (.allow, "ok",
        budgetStateFromUsage limits .allow "ok" ledger.1)),
        ⟨memory.2, ledger.2, s.scopeId, s.clock⟩)

/-- Requests in the order of their times, each with a new id and a new key, and releases of
what was granted. -/
def GatewayPair.Enabled (s : GatewayPair) : GatewayLabel → Prop
  | .request request grantId now => s.clock ≤ now ∧ grantId ≠ ""
      ∧ s.ledger.grants.get? grantId = none
      ∧ s.ledger.keyed s.scopeId (request.key grantId) = none
  | .release grantId _ _ _ => (s.ledger.grants.get? grantId).isSome

instance (s : GatewayPair) (label : GatewayLabel) : Decidable (s.Enabled label) := by
  cases label <;> unfold GatewayPair.Enabled <;> infer_instance

def gatewaySystem (limits : ResourceLimits) : System GatewayPair GatewayLabel where
  step s label := if s.Enabled label then some (s.answers limits label).2 else none

def Agree (limits : ResourceLimits) (s : GatewayPair) (label : GatewayLabel) : Prop :=
  s.Enabled label → (s.answers limits label).1.1 = (s.answers limits label).1.2

/-! ## When they agree -/

/-- A request that the checks up to the token budget let through. -/
def Passes (limits : ResourceLimits) (usage : ResourceUsage) (request : ResourceRequest) : Prop :=
  1 ≤ request.units
    ∧ (0 < limits.maxConcurrent → usage.active + request.units ≤ limits.maxConcurrent)
    ∧ (0 < limits.callBudget → usage.usedCalls + request.units ≤ limits.callBudget)
    ∧ (0 < limits.tokenBudget → usage.usedTokens + request.estimatedTokens ≤ limits.tokenBudget)

/-- A request that gets past the token budget has a cost where there is a cost budget, and
is of one unit where there is a rate limit. A release is the first of its grant, and settles
it at what was reserved, each where it counts for a limit. -/
def Agreeable (limits : ResourceLimits) (s : GatewayPair) : GatewayLabel → Prop
  | .request request _ _ => request.reserve = true → Passes limits s.memory.usage request →
      (0 < limits.costBudget → 0 < request.estimatedCost)
        ∧ (0 < limits.qpsLimit → request.units = 1)
  | .release grantId actualTokens actualCost _ =>
      ∀ row, s.ledger.grants.get? grantId = some row →
        (0 < limits.maxConcurrent → row.active = true)
          ∧ (row.active = true →
            (0 < limits.tokenBudget → ∀ tokens ∈ actualTokens, max 0 tokens = row.reservedTokens)
              ∧ (0 < limits.costBudget → ∀ cost ∈ actualCost, max 0 cost = row.reservedCost))

instance (limits : ResourceLimits) (usage : ResourceUsage) (request : ResourceRequest) :
    Decidable (Passes limits usage request) := by
  unfold Passes
  infer_instance

instance (limits : ResourceLimits) (s : GatewayPair) :
    (label : GatewayLabel) → Decidable (Agreeable limits s label)
  | .request request _ _ => inferInstanceAs (Decidable (request.reserve = true →
      Passes limits s.memory.usage request → (0 < limits.costBudget → 0 < request.estimatedCost)
        ∧ (0 < limits.qpsLimit → request.units = 1)))
  | .release grantId actualTokens actualCost _ =>
      inferInstanceAs (Decidable (∀ row ∈ s.ledger.grants.get? grantId,
        (0 < limits.maxConcurrent → row.active = true)
          ∧ (row.active = true →
            (0 < limits.tokenBudget → ∀ tokens ∈ actualTokens, max 0 tokens = row.reservedTokens)
              ∧ (0 < limits.costBudget →
                ∀ cost ∈ actualCost, max 0 cost = row.reservedCost))))

instance (limits : ResourceLimits) (s : GatewayPair) (label : GatewayLabel) :
    Decidable (Agree limits s label) := by
  unfold Agree
  infer_instance

/-- The counters that a limit looks at are the same. -/
structure Alike (limits : ResourceLimits) (u v : ResourceUsage) : Prop where
  calls : u.usedCalls = v.usedCalls
  tokens : 0 < limits.tokenBudget → u.usedTokens = v.usedTokens
  cost : 0 < limits.costBudget → u.usedCost = v.usedCost
  active : 0 < limits.maxConcurrent → u.active = v.active

/-- The usages are alike, and every last second holds as many call times as grants. -/
structure Coupled (limits : ResourceLimits) (s : GatewayPair) : Prop where
  usage : Alike limits s.memory.usage (s.ledger.usage s.scopeId)
  tokens_nonneg : 0 ≤ (s.ledger.usage s.scopeId).usedTokens
  cost_nonneg : 0 ≤ (s.ledger.usage s.scopeId).usedCost
  rate : 0 < limits.qpsLimit → ∀ now, s.clock ≤ now →
    (s.memory.callTimes.filter fun time => now - 1 < time).length
      = (s.ledger.recent s.scopeId now).length
  ordered : s.memory.callTimes.Pairwise (· ≤ ·)
  past : ∀ time ∈ s.memory.callTimes, time ≤ s.clock
  mine : ∀ row ∈ s.ledger.grants.rows, row.scopeId = s.scopeId ∧ row.id ≠ "" ∧ 1 ≤ row.units
  placed : ∀ row ∈ s.ledger.grants.rows, (s.ledger.scopes.get? row.scopeId).isSome

section

variable {limits : ResourceLimits} {u v : ResourceUsage} {g : Gateway} {now : Time}

/-! ### Usages -/

theorem remaining_eq_of {α : Type} [LinearOrder α] [Zero α] [Sub α] {limit used used' : α}
    (h : 0 < limit → used = used') : remaining limit used = remaining limit used' := by
  unfold remaining
  split
  next => rfl
  next hpos => rw [h (not_le.mp hpos)]

theorem Alike.budgetState (h : Alike limits u v) (decision : ResourceDecision)
    (reason : String) :
    budgetStateFromUsage limits decision reason u
      = budgetStateFromUsage limits decision reason v := by
  unfold budgetStateFromUsage
  rw [remaining_eq_of h.tokens, h.calls, remaining_eq_of h.cost]

theorem Alike.charge (h : Alike limits u v) (request : ResourceRequest) :
    Alike limits (request.charge u) (request.charge v) where
  calls := congrArg (· + request.units) h.calls
  tokens hpos := congrArg (· + max 0 request.estimatedTokens) (h.tokens hpos)
  cost hpos := congrArg (· + max 0 request.estimatedCost) (h.cost hpos)
  active hpos := congrArg (· + request.units) (h.active hpos)

/-! ### The rate window -/

theorem dropWhile_eq_filter {times : List Time} (h : times.Pairwise (· ≤ ·)) :
    (times.dropWhile fun time => 1 ≤ now - time) = times.filter fun time => now - 1 < time := by
  induction times with
  | nil => rfl
  | cons time rest ih =>
      rw [List.pairwise_cons] at h
      by_cases hold : 1 ≤ now - time
      · have hnot : ¬ now - 1 < time := by linarith
        rw [List.dropWhile_cons_of_pos (by simpa using hold), ih h.2,
          List.filter_cons_of_neg (by simpa using hnot)]
      · -- what comes later is not older
        have hall : ∀ later ∈ time :: rest, now - 1 < later := by
          intro later hmem
          rcases List.mem_cons.mp hmem with rfl | hmem
          · linarith
          · linarith [h.1 later hmem]
        rw [List.dropWhile_cons_of_neg (by simpa using hold)]
        exact (List.filter_eq_self.mpr fun later hmem => decide_eq_true (hall later hmem)).symm

theorem popped_usage : (g.popped limits now).usage = g.usage := by
  unfold Gateway.popped
  split <;> rfl

theorem popped_callTimes (hpos : 0 < limits.qpsLimit) (h : g.callTimes.Pairwise (· ≤ ·)) :
    (g.popped limits now).callTimes = g.callTimes.filter fun time => now - 1 < time := by
  unfold Gateway.popped
  rw [if_neg (not_le.mpr hpos)]
  exact dropWhile_eq_filter h

theorem popped_sublist : ((g.popped limits now).callTimes).Sublist g.callTimes := by
  unfold Gateway.popped
  split
  · exact List.Sublist.refl _
  · exact List.dropWhile_sublist _

theorem retryAfter_pos_iff (h : g.callTimes.Pairwise (· ≤ ·)) :
    0 < (g.popped limits now).retryAfter limits now
      ↔ 0 < limits.qpsLimit
        ∧ limits.qpsLimit ≤ (g.callTimes.filter fun time => now - 1 < time).length := by
  unfold Gateway.retryAfter
  by_cases hpos : 0 < limits.qpsLimit
  · have htimes := @popped_callTimes limits g now hpos h
    rw [htimes]
    by_cases hfull : limits.qpsLimit ≤ (g.callTimes.filter fun time => now - 1 < time).length
    · rw [if_neg (by omega)]
      cases hkept : g.callTimes.filter fun time => now - 1 < time with
      | nil =>
          rw [hkept] at hfull
          exact absurd hfull (not_le.mpr hpos)
      | cons first rest =>
          have hfirst : first ∈ g.callTimes.filter fun time => now - 1 < time := by
            rw [hkept]
            exact List.mem_cons_self
          have hlast : now - 1 < first := of_decide_eq_true (List.mem_filter.mp hfirst).2
          rw [hkept] at hfull
          refine ⟨fun _ => ⟨hpos, hfull⟩, fun _ => lt_max_of_lt_right ?_⟩
          linarith
    · rw [if_pos (.inr (not_le.mp hfull))]
      exact ⟨fun hlt => absurd hlt (lt_irrefl _), fun hboth => absurd hboth.2 hfull⟩
  · rw [if_pos (.inl (not_lt.mp hpos))]
    exact ⟨fun hlt => absurd hlt (lt_irrefl _), fun hboth => absurd hboth.1 hpos⟩

/-! ### A request in memory, by what the ledger decides -/

variable {s : Ledger} {scopeId : String} {request : ResourceRequest}

theorem request_by_decision (hreserve : request.reserve = true) (halike : Alike limits g.usage u)
    (hordered : g.callTimes.Pairwise (· ≤ ·))
    (hrate : 0 < limits.qpsLimit → (g.callTimes.filter fun time => now - 1 < time).length
      = (s.recent scopeId now).length)
    (hcost : Passes limits g.usage request → 0 < limits.costBudget → 0 < request.estimatedCost) :
    (s.decision scopeId limits request u now = (.allow, "ok", 0)
        ∧ Passes limits g.usage request
        ∧ g.request limits request now
          = (((g.popped limits now).admitted request now).grant limits .allow "ok",
            (g.popped limits now).admitted request now))
      ∨ ∃ decision reason retryAfter, decision ≠ .allow
        ∧ s.decision scopeId limits request u now = (decision, reason, retryAfter)
        ∧ (g.request limits request now).1.answer
          = (decision, reason, budgetStateFromUsage limits decision reason g.usage)
        ∧ ((g.request limits request now).2 = g
          ∨ (g.request limits request now).2 = g.popped limits now) := by
  have hprobe : ¬ request.reserve = false := by simp [hreserve]
  unfold Gateway.request Ledger.decision
  rw [if_neg hprobe]
  by_cases hunits : request.units < 1
  · rw [if_pos hunits, if_pos hunits]
    exact .inr ⟨_, _, _, by simp, rfl, rfl, .inl rfl⟩
  rw [if_neg hunits, if_neg hunits]
  have hconcurrent : (0 < limits.maxConcurrent
        ∧ limits.maxConcurrent < g.usage.active + request.units)
      ↔ (0 < limits.maxConcurrent ∧ limits.maxConcurrent < u.active + request.units) :=
    and_congr_right fun hpos => by rw [halike.active hpos]
  by_cases hbusy : 0 < limits.maxConcurrent ∧ limits.maxConcurrent < u.active + request.units
  · rw [if_pos (hconcurrent.mpr hbusy), if_pos hbusy]
    exact .inr ⟨_, _, _, by simp, rfl, rfl, .inl rfl⟩
  rw [if_neg fun h => hbusy (hconcurrent.mp h), if_neg hbusy, halike.calls]
  by_cases hcalls : 0 < limits.callBudget ∧ limits.callBudget < u.usedCalls + request.units
  · rw [if_pos hcalls, if_pos hcalls]
    exact .inr ⟨_, _, _, by simp, rfl, rfl, .inl rfl⟩
  rw [if_neg hcalls, if_neg hcalls]
  have htokens : (0 < limits.tokenBudget
        ∧ limits.tokenBudget < g.usage.usedTokens + request.estimatedTokens)
      ↔ (0 < limits.tokenBudget
        ∧ limits.tokenBudget < u.usedTokens + request.estimatedTokens) :=
    and_congr_right fun hpos => by rw [halike.tokens hpos]
  by_cases hspent : 0 < limits.tokenBudget
      ∧ limits.tokenBudget < u.usedTokens + request.estimatedTokens
  · rw [if_pos (htokens.mpr hspent), if_pos hspent]
    exact .inr ⟨_, _, _, by simp, rfl, rfl, .inl rfl⟩
  rw [if_neg fun h => hspent (htokens.mp h), if_neg hspent]
  -- the check of the estimate is the ledger's alone
  have hpasses : Passes limits g.usage request := by
    refine ⟨not_lt.mp hunits, fun hpos => ?_, fun hpos => ?_, fun hpos => ?_⟩
    · exact not_lt.mp fun hlt => hbusy (hconcurrent.mp ⟨hpos, hlt⟩)
    · rw [halike.calls]
      exact not_lt.mp fun hlt => hcalls ⟨hpos, hlt⟩
    · exact not_lt.mp fun hlt => hspent (htokens.mp ⟨hpos, hlt⟩)
  rw [if_neg fun h : 0 < limits.costBudget ∧ request.estimatedCost ≤ 0 =>
    absurd (hcost hpasses h.1) (not_lt.mpr h.2)]
  have hcosts : (0 < limits.costBudget
        ∧ limits.costBudget < g.usage.usedCost + request.estimatedCost)
      ↔ (0 < limits.costBudget ∧ limits.costBudget < u.usedCost + request.estimatedCost) :=
    and_congr_right fun hpos => by rw [halike.cost hpos]
  by_cases hcostly : 0 < limits.costBudget
      ∧ limits.costBudget < u.usedCost + request.estimatedCost
  · rw [if_pos (hcosts.mpr hcostly), if_pos hcostly]
    exact .inr ⟨_, _, _, by simp, rfl, rfl, .inl rfl⟩
  rw [if_neg fun h => hcostly (hcosts.mp h), if_neg hcostly]
  have hwindow : 0 < (g.popped limits now).retryAfter limits now
      ↔ 0 < limits.qpsLimit ∧ limits.qpsLimit ≤ (s.recent scopeId now).length := by
    rw [retryAfter_pos_iff hordered]
    exact and_congr_right fun hpos => by rw [hrate hpos]
  by_cases hfull : 0 < limits.qpsLimit ∧ limits.qpsLimit ≤ (s.recent scopeId now).length
  · dsimp only
    rw [if_pos (hwindow.mpr hfull), if_pos hfull]
    refine .inr ⟨_, _, _, by simp, rfl, ?_, .inr rfl⟩
    simp only [ResourceGrant.answer, Gateway.grant, grantFromUsage, popped_usage]
  · dsimp only
    rw [if_neg fun h => hfull (hwindow.mp h), if_neg hfull]
    exact .inl ⟨rfl, hpasses, rfl⟩

/-! ### The counters of the ledger -/

theorem usage_ensureScope : (s.ensureScope scopeId limits now).usage scopeId = s.usage scopeId := by
  unfold Ledger.usage
  rw [get?_ensureScope, if_pos rfl]
  cases s.scopes.get? scopeId <;> rfl

theorem usage_charge {set : ResourceUsage → ResourceUsage}
    (h : (s.scopes.get? scopeId).isSome) :
    (s.charge scopeId set now).usage scopeId = set (s.usage scopeId) := by
  obtain ⟨scope, hscope⟩ := Option.isSome_iff_exists.mp h
  have hid : scope.scopeId = scopeId := (Table.get?_eq_some_iff.mp hscope).2
  unfold Ledger.usage
  rw [get?_charge, hscope, Option.map_some, if_pos hid]
  rfl

theorem reserve_of_decision {grantId : String} (hscope : (s.scopes.get? scopeId).isSome)
    (hkey : s.keyed scopeId (request.key grantId) = none)
    (hid : s.grants.get? grantId = none) {decision : ResourceDecision} {reason : String}
    {retryAfter : Time}
    (h : s.decision scopeId limits request (s.usage scopeId) now
      = (decision, reason, retryAfter)) :
    (decision ≠ .allow → s.reserve scopeId limits request grantId now
        = (grantFromUsage limits decision reason (s.usage scopeId) retryAfter "", s))
      ∧ (decision = .allow → s.reserve scopeId limits request grantId now
        = (grantFromUsage limits .allow "ok" (request.charge (s.usage scopeId)) 0 grantId,
          (s.insert (request.row grantId scopeId now)).charge scopeId request.charge now)) := by
  unfold Ledger.reserve
  simp only [hkey, h, hid]
  refine ⟨fun hrefused => if_pos hrefused, fun hallow => ?_⟩
  rw [if_neg (not_not.mpr hallow), if_neg (by simp)]
  have hthere : ((s.insert (request.row grantId scopeId now)).scopes.get? scopeId).isSome := hscope
  rw [usage_charge hthere]
  rfl

end

/-! ### The steps -/

section

variable {limits : ResourceLimits} {s : GatewayPair}

theorem Coupled.start (scopeId : String) (clock : Time) :
    Coupled limits (.start scopeId clock) where
  usage := ⟨rfl, fun _ => rfl, fun _ => rfl, fun _ => rfl⟩
  tokens_nonneg := le_rfl
  cost_nonneg := le_rfl
  rate _ _ _ := rfl
  ordered := List.Pairwise.nil
  past _ h := by cases h
  mine _ h := by cases h
  placed _ h := by cases h

theorem Coupled.refused (hs : Coupled limits s) {now : Time} (hclock : s.clock ≤ now)
    {memory : Gateway} (hmemory : memory = s.memory ∨ memory = s.memory.popped limits now) :
    Coupled limits ⟨memory, s.ledger.ensureScope s.scopeId limits now, s.scopeId, now⟩ := by
  have husage : memory.usage = s.memory.usage := by
    rcases hmemory with rfl | rfl
    · rfl
    · exact popped_usage
  have hsub : memory.callTimes.Sublist s.memory.callTimes := by
    rcases hmemory with rfl | rfl
    · exact List.Sublist.refl _
    · exact popped_sublist
  refine ⟨?_, ?_, ?_, fun hpos later hlater => ?_, hs.ordered.sublist hsub,
    fun time hmem => (hs.past time (hsub.subset hmem)).trans hclock, hs.mine, fun row hmem => ?_⟩
  · simp only [husage, usage_ensureScope]
    exact hs.usage
  · simp only [usage_ensureScope]
    exact hs.tokens_nonneg
  · simp only [usage_ensureScope]
    exact hs.cost_nonneg
  · have hsame : (memory.callTimes.filter fun time => later - 1 < time)
        = s.memory.callTimes.filter fun time => later - 1 < time := by
      rcases hmemory with rfl | rfl
      · rfl
      · rw [popped_callTimes hpos hs.ordered, List.filter_filter]
        refine List.filter_congr fun time _ => ?_
        have hnow : now ≤ later := hlater
        by_cases hin : later - 1 < time
        · have hbefore : now - 1 < time := by linarith
          simp [hin, hbefore]
        · simp [hin]
    rw [hsame]
    exact hs.rate hpos later (hclock.trans hlater)
  · rw [get?_ensureScope]
    split
    next => rfl
    next => exact hs.placed row hmem

theorem Coupled.granted (hs : Coupled limits s) {request : ResourceRequest} {grantId : String}
    (hgrant : grantId ≠ "") (hid : s.ledger.grants.get? grantId = none)
    (hscope : (s.ledger.scopes.get? s.scopeId).isSome)
    (hpositive : 1 ≤ request.units) (hunits : 0 < limits.qpsLimit → request.units = 1) :
    Coupled limits ⟨s.memory.admitted request s.clock,
      (s.ledger.insert (request.row grantId s.scopeId s.clock)).charge s.scopeId request.charge
        s.clock, s.scopeId, s.clock⟩ := by
  have hthere : ((s.ledger.insert (request.row grantId s.scopeId s.clock)).scopes.get?
      s.scopeId).isSome := hscope
  have husage : ((s.ledger.insert (request.row grantId s.scopeId s.clock)).charge s.scopeId
      request.charge s.clock).usage s.scopeId = request.charge (s.ledger.usage s.scopeId) :=
    usage_charge hthere
  have hrows : (s.ledger.grants.insertOrIgnore (request.row grantId s.scopeId s.clock)).rows
      = s.ledger.grants.rows ++ [request.row grantId s.scopeId s.clock] :=
    Table.rows_insertOrIgnore hid
  have hmine : ∀ row ∈ (s.ledger.grants.insertOrIgnore
      (request.row grantId s.scopeId s.clock)).rows,
      row.scopeId = s.scopeId ∧ row.id ≠ "" ∧ 1 ≤ row.units := by
    intro row hmem
    rw [hrows] at hmem
    rcases List.mem_append.mp hmem with hold | hnew
    · exact hs.mine row hold
    · obtain rfl := List.mem_singleton.mp hnew
      exact ⟨rfl, hgrant, hpositive⟩
  refine ⟨?_, ?_, ?_, fun hpos later hlater => ?_, ?_, fun time hmem => ?_, hmine,
    fun row hmem => ?_⟩
  · rw [husage]
    exact hs.usage.charge request
  · rw [husage]
    exact add_nonneg hs.tokens_nonneg (le_max_left _ _)
  · rw [husage]
    exact add_nonneg hs.cost_nonneg (le_max_left _ _)
  · have hbefore := hs.rate hpos later hlater
    have hone : request.units.toNat = 1 := by
      have := hunits hpos
      omega
    change ((s.memory.callTimes ++ List.replicate request.units.toNat s.clock).filter _).length
      = ((s.ledger.grants.insertOrIgnore (request.row grantId s.scopeId s.clock)).rows.filter
          _).length
    rw [hrows, hone, List.filter_append, List.filter_append, List.length_append,
      List.length_append, hbefore]
    simp [Ledger.recent, ResourceRequest.row, List.filter_cons]
    split <;> rfl
  · refine List.pairwise_append.mpr ⟨hs.ordered, List.pairwise_replicate_of_refl,
      fun time hmem time' hmem' => ?_⟩
    obtain rfl := List.eq_of_mem_replicate hmem'
    exact hs.past time hmem
  · rcases List.mem_append.mp hmem with hold | hnew
    · exact hs.past time hold
    · exact (List.eq_of_mem_replicate hnew).le
  · rw [(hmine row hmem).1, charge_isSome]
    exact hscope

theorem request_agrees (hs : Coupled limits s) {request : ResourceRequest} {grantId : String}
    {now : Time} (henabled : s.Enabled (.request request grantId now))
    (hagreeable : Agreeable limits s (.request request grantId now)) :
    (s.answers limits (.request request grantId now)).1.1
        = (s.answers limits (.request request grantId now)).1.2
      ∧ Coupled limits (s.answers limits (.request request grantId now)).2 := by
  obtain ⟨hclock, hgrant, hid, hkey⟩ := henabled
  unfold GatewayPair.answers
  dsimp only
  by_cases hprobe : request.reserve = false
  · simp only [Gateway.request, Ledger.request, hprobe, if_true]
    refine ⟨?_, hs.usage, hs.tokens_nonneg, hs.cost_nonneg, fun hpos later hlater =>
      hs.rate hpos later (hclock.trans hlater), hs.ordered,
      fun time hmem => (hs.past time hmem).trans hclock, hs.mine, hs.placed⟩
    simp only [ResourceGrant.answer, Gateway.inspect, hs.usage.budgetState]
  · have hreserve : request.reserve = true := by simpa using hprobe
    have hensured := hs.refused hclock (.inr rfl)
    have hscope : ((s.ledger.ensureScope s.scopeId limits now).scopes.get? s.scopeId).isSome := by
      rw [get?_ensureScope, if_pos rfl]
      rfl
    have husage : (s.ledger.ensureScope s.scopeId limits now).usage s.scopeId
        = s.ledger.usage s.scopeId := usage_ensureScope
    have hledger : s.ledger.request limits s.scopeId request grantId now
        = (s.ledger.ensureScope s.scopeId limits now).reserve s.scopeId limits request grantId
          now := if_neg hprobe
    rw [hledger]
    rcases @request_by_decision limits _ s.memory now (s.ledger.ensureScope s.scopeId limits now)
      s.scopeId request hreserve hs.usage hs.ordered (fun hpos => hs.rate hpos now hclock)
      (fun hpasses => (hagreeable hreserve hpasses).1)
      with ⟨hdecision, hpasses, hmemory⟩
        | ⟨decision, reason, retryAfter, hrefused, hdecision, hanswer, hmemory⟩
    · rw [← husage] at hdecision
      have hgranted := (reserve_of_decision hscope hkey hid hdecision).2 rfl
      have halike := hensured.usage.charge request
      rw [hmemory, hgranted]
      refine ⟨?_, ?_⟩
      · exact Prod.ext rfl (Prod.ext rfl (halike.budgetState .allow "ok"))
      · exact hensured.granted hgrant hid hscope hpasses.1 (hagreeable hreserve hpasses).2
    · rw [← husage] at hdecision
      have hblocked := (reserve_of_decision hscope hkey hid hdecision).1 hrefused
      rw [hblocked, hanswer]
      refine ⟨?_, hs.refused hclock hmemory⟩
      rw [husage]
      exact Prod.ext rfl (Prod.ext rfl (hs.usage.budgetState decision reason))

theorem settled_eq {α : Type} [AddGroup α] [LinearOrder α] {used reserved : α} (actual : Option α)
    (hused : 0 ≤ used) (h : ∀ amount ∈ actual, max 0 amount = reserved) :
    max 0 (used + ((actual.map (max 0 ·)).getD reserved - reserved)) = used := by
  have hsettled : (actual.map (max 0 ·)).getD reserved = reserved := by
    cases actual with
    | none => rfl
    | some amount => exact h amount rfl
  rw [hsettled, sub_self, add_zero, max_eq_right hused]

theorem recent_markReleased {s : Ledger} {scopeId grantId : String} {now later : Time} :
    ((s.markReleased grantId now).recent scopeId later).length
      = (s.recent scopeId later).length := by
  unfold Ledger.recent Ledger.markReleased Table.update Table.updateRows
  rw [List.filter_map, List.length_map]
  refine congrArg List.length (List.filter_congr fun row _ => ?_)
  simp only [Function.comp_apply]
  split <;> rfl

theorem release_agrees (hs : Coupled limits s) {grantId : String} {actualTokens : Option Int}
    {actualCost : Option Rat} {now : Time}
    (henabled : s.Enabled (.release grantId actualTokens actualCost now))
    (hagreeable : Agreeable limits s (.release grantId actualTokens actualCost now)) :
    (s.answers limits (.release grantId actualTokens actualCost now)).1.1
        = (s.answers limits (.release grantId actualTokens actualCost now)).1.2
      ∧ Coupled limits (s.answers limits (.release grantId actualTokens actualCost now)).2 := by
  obtain ⟨row, hrow⟩ := Option.isSome_iff_exists.mp henabled
  obtain ⟨hmem, rfl⟩ := Table.get?_eq_some_iff.mp hrow
  obtain ⟨hscope, hgrant, hunits⟩ := hs.mine row hmem
  obtain ⟨hfirst, hsettled⟩ := hagreeable row hrow
  have hmemory : s.memory.release limits row.units
      = (Gateway.inspect limits ⟨takeOff (max 0) row s.memory.usage, s.memory.callTimes⟩,
        ⟨takeOff (max 0) row s.memory.usage, s.memory.callTimes⟩) := by
    unfold Gateway.release
    rw [if_pos (by omega)]
    rfl
  -- it is enough that the counters of both are alike again
  have hdone : ∀ {ledger : ResourceUsage × Ledger},
      s.ledger.release (max 0) s.scopeId row.id actualTokens actualCost now = ledger →
      ledger.1 = ledger.2.usage s.scopeId → Coupled limits
        ⟨⟨takeOff (max 0) row s.memory.usage, s.memory.callTimes⟩, ledger.2, s.scopeId, s.clock⟩ →
      (s.answers limits (.release row.id actualTokens actualCost now)).1.1
          = (s.answers limits (.release row.id actualTokens actualCost now)).1.2
        ∧ Coupled limits (s.answers limits (.release row.id actualTokens actualCost now)).2 := by
    intro ledger hledger hread hcoupled
    unfold GatewayPair.answers
    simp only [hrow, Option.map_some, Option.getD_some, hmemory, hledger]
    refine ⟨Prod.ext rfl (Prod.ext rfl ?_), hcoupled⟩
    simp only [hread]
    exact hcoupled.usage.budgetState .allow "ok"
  have hleft : s.ledger.release (max 0) s.scopeId row.id actualTokens actualCost now
      = if row.active then
          ((((s.ledger.charge s.scopeId (settle (max 0) row actualTokens actualCost)
            now).markReleased row.id now).usage s.scopeId),
            (s.ledger.charge s.scopeId (settle (max 0) row actualTokens actualCost)
              now).markReleased row.id now)
        else (s.ledger.usage s.scopeId, s.ledger) := by
    unfold Ledger.release
    simp only [hrow, hscope, ne_eq, hgrant, not_false_iff, true_and]
  by_cases hactive : row.active = true
  · rw [if_pos hactive] at hleft
    obtain ⟨htokens, hcost⟩ := hsettled hactive
    have hthere : (s.ledger.scopes.get? s.scopeId).isSome := hscope ▸ hs.placed row hmem
    have husage : ((s.ledger.charge s.scopeId (settle (max 0) row actualTokens actualCost)
        now).markReleased row.id now).usage s.scopeId
        = settle (max 0) row actualTokens actualCost (s.ledger.usage s.scopeId) :=
      usage_charge hthere
    have hrows : ∀ other' ∈ ((s.ledger.charge s.scopeId (settle (max 0) row actualTokens
        actualCost) now).markReleased row.id now).grants.rows,
        ∃ other ∈ s.ledger.grants.rows, other'.id = other.id ∧ other'.scopeId = other.scopeId
          ∧ other'.units = other.units := by
      intro other' hmem'
      obtain ⟨other, hold, rfl⟩ := List.mem_map.mp hmem'
      refine ⟨other, hold, ?_⟩
      split <;> exact ⟨rfl, rfl, rfl⟩
    refine hdone hleft rfl ⟨⟨?_, fun hpos => ?_, fun hpos => ?_, fun hpos => ?_⟩, ?_, ?_,
      fun hpos later hlater => ?_, hs.ordered, hs.past, fun other' hmem' => ?_,
      fun other' hmem' => ?_⟩
    · rw [husage]
      exact hs.usage.calls
    · rw [husage]
      exact (hs.usage.tokens hpos).trans
        (settled_eq actualTokens hs.tokens_nonneg (htokens hpos)).symm
    · rw [husage]
      exact (hs.usage.cost hpos).trans
        (settled_eq actualCost hs.cost_nonneg (hcost hpos)).symm
    · rw [husage]
      exact congrArg (fun active => max 0 (active - row.units)) (hs.usage.active hpos)
    · rw [husage]
      exact le_max_left _ _
    · rw [husage]
      exact le_max_left _ _
    · exact (hs.rate hpos later hlater).trans recent_markReleased.symm
    · obtain ⟨other, hold, hid, hscopeId, hother⟩ := hrows other' hmem'
      rw [hid, hscopeId, hother]
      exact hs.mine other hold
    · obtain ⟨other, hold, -, hscopeId, -⟩ := hrows other' hmem'
      rw [hscopeId]
      change ((s.ledger.charge s.scopeId _ now).scopes.get? other.scopeId).isSome
      rw [charge_isSome]
      exact hs.placed other hold
  · rw [if_neg hactive] at hleft
    refine hdone hleft rfl ⟨⟨hs.usage.calls, hs.usage.tokens, hs.usage.cost, fun hpos =>
      absurd (hfirst hpos) hactive⟩, hs.tokens_nonneg, hs.cost_nonneg, hs.rate, hs.ordered,
      hs.past, hs.mine, hs.placed⟩

theorem step_agrees {label : GatewayLabel} (hs : Coupled limits s) (henabled : s.Enabled label)
    (hagreeable : Agreeable limits s label) :
    (s.answers limits label).1.1 = (s.answers limits label).1.2
      ∧ Coupled limits (s.answers limits label).2 := by
  cases label with
  | request request grantId now => exact request_agrees hs henabled hagreeable
  | release grantId actualTokens actualCost now => exact release_agrees hs henabled hagreeable

/-- In a run of requests and releases that are agreeable, both gateways give the same answer
at every step. -/
theorem gateways_agree (limits : ResourceLimits) (scopeId : String) (clock : Time)
    (labels : List GatewayLabel)
    (h : (gatewaySystem limits).Along (Agreeable limits) (.start scopeId clock) labels) :
    (gatewaySystem limits).Along (Agree limits) (.start scopeId clock) labels := by
  refine (gatewaySystem limits).along_of_invariant (fun s label s' hs hagreeable hstep => ?_)
    (fun s label hs hagreeable henabled => (step_agrees hs henabled hagreeable).1)
    (Coupled.start scopeId clock) h
  simp only [gatewaySystem] at hstep
  split at hstep
  next henabled =>
    obtain rfl := Option.some.inj hstep
    exact (step_agrees hs henabled hagreeable).2
  next => cases hstep

/-- A request for a unit without a cost. -/
def freeCall : ResourceRequest := ⟨"model", 10, 0, 1, "", true⟩

/-- Limits on every counter but the cost. -/
def callLimits : ResourceLimits := ⟨100, 8, 0, 1, 1⟩

/-- A call, one that finds the gateway busy, the release of the first, one within the
second and one after it. -/
def freeCalls : List GatewayLabel :=
  [.request freeCall "first" 0, .request freeCall "second" 0, .release "first" none none 0,
    .request freeCall "third" 0, .request freeCall "fourth" 1]

theorem gateways_agree_free :
    (gatewaySystem callLimits).Along (Agree callLimits) (.start "scope" 0) freeCalls :=
  gateways_agree callLimits "scope" 0 freeCalls (by decide +kernel)

/-- Under a cost budget, the gateway in memory grants a request without a cost that the
ledger refuses. -/
theorem gateways_disagree :
    ((GatewayPair.start "scope" 0).answers ⟨0, 0, 1, 0, 0⟩ (.request freeCall "first" 0)).1
        = ((.allow, "ok", ⟨.allow, none, none, some 1, "ok"⟩),
          (.block, "cost_estimate_required",
            ⟨.block, none, none, some 1, "cost_estimate_required"⟩))
      ∧ ¬ (gatewaySystem ⟨0, 0, 1, 0, 0⟩).Along (Agree ⟨0, 0, 1, 0, 0⟩) (.start "scope" 0)
        [.request freeCall "first" 0] := by
  decide +kernel

end

end Navi.Resources
