import Mathlib
import Navi.Identity.Links

/-!
# Identities merge only through confirmed links

Over any run two aliases resolve to one identity only if a chain of confirmations joins them. The
chain is of the whole history: an alias that was unlinked since may have joined the two.
-/

namespace Navi.Identity

open Navi.Base Navi.Memory

/-! ## Digests -/

section

variable {engine : IdentityEngine}

theorem digest_inj {parts parts' : List String} (hne : parts ≠ []) (hne' : parts' ≠ [])
    (hplain : ∀ part ∈ parts, nul ∉ part.toList) (hplain' : ∀ part ∈ parts', nul ∉ part.toList)
    (h : engine.digest parts = engine.digest parts') : parts = parts' := by
  have hraw := congrArg (List.splitOn nul) (engine.sha256_injective h)
  rw [List.splitOn_intercalate nul (by simpa using hplain) (by simpa using hne),
    List.splitOn_intercalate nul (by simpa using hplain') (by simpa using hne')] at hraw
  exact List.map_injective_iff.mpr (fun _ _ hsame => String.toList_inj.mp hsame) hraw

theorem Alias.ext_parts {a b : Alias} (hsource : a.source = b.source) (hpeer : a.peerId = b.peerId)
    (hsender : a.senderId = b.senderId) : a = b := by
  cases a
  cases b
  simp_all

theorem identityAliasKey_inj {a b : Alias} (hkey : identityAliasKey engine a ≠ "")
    (h : identityAliasKey engine a = identityAliasKey engine b) : a = b := by
  have hother : identityAliasKey engine b ≠ "" := by rwa [← h]
  have hparts : ∀ c : Alias, identityAliasKey engine c ≠ "" →
      identityAliasKey engine c = engine.digest ["alias", c.source, c.peerId, c.senderId] := by
    intro c hc
    unfold identityAliasKey at hc ⊢
    split at hc
    next => exact absurd rfl hc
    next hany => rw [if_neg hany]
  have hplain : ∀ c : Alias, ∀ part ∈ ["alias", c.source, c.peerId, c.senderId],
      nul ∉ part.toList := by
    intro c part hpart
    simp only [List.mem_cons, List.not_mem_nil, or_false] at hpart
    rcases hpart with rfl | rfl | rfl | rfl
    · decide
    · exact c.source_plain
    · exact c.peerId_plain
    · exact c.senderId_plain
  rw [hparts a hkey, hparts b hother] at h
  have hsame := digest_inj (by simp) (by simp) (hplain a) (hplain b) h
  simp only [List.cons.injEq, true_and, and_true] at hsame
  exact Alias.ext_parts hsame.1 hsame.2.1 hsame.2.2

theorem codeHash_inj {code code' : String} (h : codeHash engine code = codeHash engine code') :
    code = code' := by
  have hraw := engine.sha256_injective h
  simp only [List.map_cons, List.map_nil, List.intercalate, List.intersperse, List.flatten_cons,
    List.flatten_nil, List.append_nil] at hraw
  have hcode := List.append_cancel_left (List.append_cancel_left hraw)
  exact String.toList_inj.mp hcode

end

/-! ## Confirmations in a history -/

/-- A request of this alias to that one succeeded. -/
def Requests (a b : Alias) (event : IdentityEvent) : Prop :=
  ∃ ttl now requestId code expiresAt,
    event = (.requestLink a b ttl now, .requested requestId code expiresAt)

/-- A confirmation with this code succeeded. -/
def confirms (code : String) : IdentityEvent → Bool
  | (.confirmLink _ named _, .confirmed _ _) => named = code
  | _ => false

/-- What followed a request leaves it pending. -/
def LeavesPending (a b : Alias) (code : String) (later : List IdentityEvent) : Prop :=
  ∀ event ∈ later, ¬ Requests a b event ∧ confirms code event = false

/-- The second alias confirmed a request of the first one: with the code of that request, before it
expired, was superseded or was confirmed. -/
def ConfirmedLink (events : List IdentityEvent) (a b : Alias) : Prop :=
  ∃ earlier later rest ttl requestedAt requestId code expiresAt now identityId migrated,
    events = earlier ++ (.requestLink a b ttl requestedAt, .requested requestId code expiresAt)
        :: later ++ (.confirmLink b code now, .confirmed identityId migrated) :: rest
      ∧ now < expiresAt ∧ LeavesPending a b code later

/-- A chain of confirmations joins the two aliases. -/
def Joined (events : List IdentityEvent) : Alias → Alias → Prop :=
  Relation.EqvGen (ConfirmedLink events)

section

variable {engine : IdentityEngine} {events : List IdentityEvent} {a b c : Alias}

theorem ConfirmedLink.append (h : ConfirmedLink events a b) (more : List IdentityEvent) :
    ConfirmedLink (events ++ more) a b := by
  obtain ⟨earlier, later, rest, ttl, requestedAt, requestId, code, expiresAt, now, identityId,
    migrated, rfl, hlink⟩ := h
  exact ⟨earlier, later, rest ++ more, ttl, requestedAt, requestId, code, expiresAt, now,
    identityId, migrated, by simp, hlink⟩

theorem Joined.append (h : Joined events a b) (more : List IdentityEvent) :
    Joined (events ++ more) a b :=
  h.mono fun _ _ hlink => hlink.append more

/-! ## What the rows say of the history -/

/-- A row is that of a request, and it is pending only while nothing followed that ends this. -/
structure RowOf (engine : IdentityEngine) (events : List IdentityEvent) (row : LinkRequest)
    (a b : Alias) (code : String) : Prop where
  code_eq : row.codeHash = codeHash engine code
  current : row.currentAliasKey = identityAliasKey engine a
  other : row.otherAliasKey = identityAliasKey engine b
  current_ne : row.currentAliasKey ≠ ""
  other_ne : row.otherAliasKey ≠ ""
  currentScope : row.currentActorScope = actorMemoryScope engine a
  otherScope : row.otherActorScope = actorMemoryScope engine b
  pending : row.status = .pending → ∃ earlier later ttl requestedAt requestId,
    events = earlier ++ (.requestLink a b ttl requestedAt, .requested requestId code row.expiresAt)
        :: later ∧ LeavesPending a b code later

/-- What the store says of the calls so far. -/
structure Chained (engine : IdentityEngine) (events : List IdentityEvent) (s : IdentityStore) :
    Prop where
  rows : ∀ row ∈ s.requests.rows, ∃ a b code, RowOf engine events row a b code
  once : ∀ code, (events.filter (confirms code)).length ≤ 1
    ∧ (events.filter (confirms code) ≠ [] →
      ∃ row, s.requests.get? (codeHash engine code) = some row ∧ row.status = .completed)
  drawn : ∀ key identityId, IdentityStore.identityAt s.aliases key = some identityId →
    ∃ n < s.drawn, identityId = engine.uuid n
  joined : ∀ a b identityId, identityAliasKey engine a ≠ "" → identityAliasKey engine b ≠ "" →
    IdentityStore.identityAt s.aliases (identityAliasKey engine a) = some identityId →
    IdentityStore.identityAt s.aliases (identityAliasKey engine b) = some identityId →
    Joined events a b

theorem chained_start (items : Table String MemoryItem (·.id)) :
    Chained engine [] (.start items) where
  rows := List.forall_mem_nil _
  once code := ⟨Nat.zero_le _, fun h => absurd rfl h⟩
  drawn key identityId h := by cases h
  joined a b identityId _ _ h := by cases h

/-! ## What the operations do -/

theorem requestLink_cases (engine : IdentityEngine) (s : IdentityStore) (current other : Alias)
    (ttl : Rat) (now : Time) :
    (∃ message drawn, s.drawn ≤ drawn
        ∧ s.requestLink engine current other ttl now = ({ s with drawn := drawn }, .raised message))
      ∨ identityAliasKey engine current ≠ "" ∧ identityAliasKey engine other ≠ ""
        ∧ ∃ new : LinkRequest, s.requests.get? new.codeHash = none
          ∧ new.codeHash = codeHash engine (engine.token s.drawn)
          ∧ new.currentAliasKey = identityAliasKey engine current
          ∧ new.otherAliasKey = identityAliasKey engine other
          ∧ new.currentActorScope = actorMemoryScope engine current
          ∧ new.otherActorScope = actorMemoryScope engine other
          ∧ s.requestLink engine current other ttl now =
            ({ s with
                drawn := s.drawn + 1
                requests := (s.requests.update (fun row => row.status = .pending
                    ∧ row.currentAliasKey = identityAliasKey engine current
                    ∧ row.otherAliasKey = identityAliasKey engine other) (supersedeRow now)
                  (supersedeRow_codeHash now)).insertOrIgnore new },
              .requested (engine.uuid s.drawn) (engine.token s.drawn) new.expiresAt) := by
  unfold IdentityStore.requestLink
  dsimp only
  split
  · exact .inl ⟨_, s.drawn, le_rfl, rfl⟩
  next hkeys =>
    split
    · exact .inl ⟨_, s.drawn, le_rfl, rfl⟩
    · split
      · exact .inl ⟨_, s.drawn + 1, Nat.le_succ _, rfl⟩
      · split
        · exact .inl ⟨_, s.drawn + 1, Nat.le_succ _, rfl⟩
        · split
          · exact .inl ⟨_, s.drawn + 1, Nat.le_succ _, rfl⟩
          · split
            · exact .inl ⟨_, s.drawn + 1, Nat.le_succ _, rfl⟩
            next hcode =>
              obtain ⟨hcurrent, hother⟩ := not_or.mp hkeys
              exact .inr ⟨hcurrent, hother, _, by simpa using hcode, rfl, rfl, rfl, rfl, rfl, rfl⟩

theorem confirmLink_cases (engine : IdentityEngine) (s : IdentityStore) (target : Alias)
    (code : String) (now : Time) :
    (∃ message, s.confirmLink engine target code now = (s, .raised message))
      ∨ ∃ request identityId migrated, s.requests.get? (codeHash engine code) = some request
        ∧ request.status = .pending ∧ now < request.expiresAt
        ∧ identityAliasKey engine target ≠ ""
        ∧ identityAliasKey engine target = request.otherAliasKey
        ∧ (s.identitiesOf request.currentAliasKey request.otherAliasKey).length ≤ 1
        ∧ identityId = (s.identitiesOf request.currentAliasKey request.otherAliasKey).head?.getD
            (engine.uuid s.drawn)
        ∧ s.confirmLink engine target code now
          = (s.complete engine request identityId now, .confirmed identityId migrated) := by
  unfold IdentityStore.confirmLink
  dsimp only
  split
  · exact .inl ⟨_, rfl⟩
  next hkey =>
    split
    · exact .inl ⟨_, rfl⟩
    next request hrequest =>
      split
      · exact .inl ⟨_, rfl⟩
      next hpending =>
        split
        · exact .inl ⟨_, rfl⟩
        next hexpires =>
          split
          · exact .inl ⟨_, rfl⟩
          next htarget =>
            split
            · exact .inl ⟨_, rfl⟩
            next hidentities =>
              exact .inr ⟨request, _, _, hrequest, not_not.mp hpending, not_le.mp hexpires,
                (not_or.mp hkey).1, not_not.mp htarget, not_lt.mp hidentities, rfl, rfl⟩

/-! ## What a call keeps -/

theorem RowOf.append {row : LinkRequest} {code : String} {event : IdentityEvent}
    (h : RowOf engine events row a b code)
    (hevent : row.status = .pending → ¬ Requests a b event ∧ confirms code event = false) :
    RowOf engine (events ++ [event]) row a b code := by
  refine { h with pending := fun hpending => ?_ }
  obtain ⟨earlier, later, ttl, requestedAt, requestId, rfl, hleaves⟩ := h.pending hpending
  refine ⟨earlier, later ++ [event], ttl, requestedAt, requestId, by simp, ?_⟩
  intro other hother
  rcases List.mem_append.mp hother with hold | hnew
  · exact hleaves other hold
  · obtain rfl := List.mem_singleton.mp hnew
    exact hevent hpending

/-- A call that requests and confirms nothing. -/
def Quiet (event : IdentityEvent) : Prop :=
  (∀ a b, ¬ Requests a b event) ∧ ∀ code, confirms code event = false

theorem quiet_raised (call : IdentityCall) (message : String) : Quiet (call, .raised message) := by
  refine ⟨?_, ?_⟩
  · rintro a b ⟨ttl, now, requestId, code, expiresAt, hevent⟩
    cases hevent
  · intro code
    cases call with
    | requestLink | confirmLink | unlinkCurrent => rfl

theorem quiet_unlinked (target : Alias) (removed : Bool) :
    Quiet (.unlinkCurrent target, .unlinked removed) := by
  refine ⟨?_, fun _ => rfl⟩
  rintro a b ⟨ttl, now, requestId, code, expiresAt, hevent⟩
  cases hevent

theorem filter_confirms_append {code : String} {event : IdentityEvent}
    (h : confirms code event = false) :
    (events ++ [event]).filter (confirms code) = events.filter (confirms code) := by
  rw [List.filter_append, List.filter_cons_of_neg (by simp [h]), List.filter_nil, List.append_nil]

theorem chained_of_quiet {s s' : IdentityStore} {event : IdentityEvent}
    (h : Chained engine events s) (hquiet : Quiet event) (hrequests : s'.requests = s.requests)
    (hdrawn : s.drawn ≤ s'.drawn)
    (haliases : ∀ key identityId, IdentityStore.identityAt s'.aliases key = some identityId →
      IdentityStore.identityAt s.aliases key = some identityId) :
    Chained engine (events ++ [event]) s' where
  rows row hrow := by
    rw [hrequests] at hrow
    obtain ⟨a, b, code, hof⟩ := h.rows row hrow
    exact ⟨a, b, code, hof.append fun _ => ⟨hquiet.1 a b, hquiet.2 code⟩⟩
  once code := by
    rw [filter_confirms_append (hquiet.2 code), hrequests]
    exact h.once code
  drawn key identityId hkey := by
    obtain ⟨n, hn, hid⟩ := h.drawn key identityId (haliases key identityId hkey)
    exact ⟨n, hn.trans_le hdrawn, hid⟩
  joined a b identityId ha hb hida hidb :=
    (h.joined a b identityId ha hb (haliases _ _ hida) (haliases _ _ hidb)).append [event]

theorem chained_unlink {s : IdentityStore} (h : Chained engine events s) (target : Alias) :
    Chained engine (events ++ [(.unlinkCurrent target, (s.unlinkCurrent engine target).2)])
      (s.unlinkCurrent engine target).1 := by
  unfold IdentityStore.unlinkCurrent
  dsimp only
  split
  · exact chained_of_quiet h (quiet_unlinked _ _) rfl le_rfl fun _ _ hkey => hkey
  · refine chained_of_quiet h (quiet_unlinked _ _) rfl le_rfl fun key identityId hkey => ?_
    obtain ⟨row, hrow, rfl⟩ := Option.map_eq_some_iff.mp hkey
    obtain ⟨hmem, rfl⟩ := Table.get?_eq_some_iff.mp hrow
    unfold IdentityStore.identityAt
    rw [Table.get?_of_mem (Table.mem_delete.mp hmem).1]
    rfl

theorem chained_request {s : IdentityStore} (h : Chained engine events s) (current other : Alias)
    (ttl : Rat) (now : Time) :
    Chained engine
      (events ++ [(.requestLink current other ttl now,
        (s.requestLink engine current other ttl now).2)])
      (s.requestLink engine current other ttl now).1 := by
  rcases requestLink_cases engine s current other ttl now with
    ⟨message, drawn, hdrawn, hraised⟩ | ⟨hcurrent, hother, new, habsent, hcode, hcurrentKey,
      hotherKey, hcurrentScope, hotherScope, hrequested⟩
  · rw [hraised]
    exact chained_of_quiet h (quiet_raised _ _) rfl hdrawn fun _ _ hkey => hkey
  · rw [hrequested]
    set event : IdentityEvent := (.requestLink current other ttl now,
      .requested (engine.uuid s.drawn) (engine.token s.drawn) new.expiresAt) with hevent
    have hconfirms : ∀ code, confirms code event = false := fun _ => rfl
    set superseded := s.requests.update (fun row => row.status = .pending
      ∧ row.currentAliasKey = identityAliasKey engine current
      ∧ row.otherAliasKey = identityAliasKey engine other) (supersedeRow now)
      (supersedeRow_codeHash now) with hsuperseded
    have hfresh : superseded.get? new.codeHash = none := by
      rw [hsuperseded, Table.get?_update, habsent]
      rfl
    refine ⟨fun row hrow => ?_, fun code => ?_, fun key identityId hkey => ?_,
      fun a b identityId ha hb hida hidb =>
        (h.joined a b identityId ha hb hida hidb).append [event]⟩
    · dsimp only at hrow
      rw [Table.rows_insertOrIgnore hfresh] at hrow
      rcases List.mem_append.mp hrow with hold | hnew
      · obtain ⟨old, hmem, rfl⟩ := List.mem_map.mp hold
        obtain ⟨a, b, code, hof⟩ := h.rows old hmem
        by_cases hhit : old.status = .pending
            ∧ old.currentAliasKey = identityAliasKey engine current
            ∧ old.otherAliasKey = identityAliasKey engine other
        · rw [if_pos (by simpa using hhit)]
          refine ⟨a, b, code, ⟨hof.code_eq, hof.current, hof.other, hof.current_ne, hof.other_ne,
            hof.currentScope, hof.otherScope, fun hpending => ?_⟩⟩
          cases hpending
        · rw [if_neg (by simpa using hhit)]
          refine ⟨a, b, code, hof.append fun hpending => ⟨?_, hconfirms code⟩⟩
          rintro ⟨ttl', now', requestId, code', expiresAt, hsame⟩
          -- a pending row of the same aliases was superseded
          obtain ⟨rfl, rfl, -⟩ := IdentityCall.requestLink.inj (Prod.ext_iff.mp hsame).1
          exact hhit ⟨hpending, hof.current, hof.other⟩
      · obtain rfl := List.mem_singleton.mp hnew
        refine ⟨current, other, engine.token s.drawn, ⟨hcode, hcurrentKey, hotherKey, ?_, ?_,
          hcurrentScope, hotherScope, fun _ => ?_⟩⟩
        · rwa [hcurrentKey]
        · rwa [hotherKey]
        · exact ⟨events, [], ttl, now, engine.uuid s.drawn, rfl, List.forall_mem_nil _⟩
    · rw [filter_confirms_append (hconfirms code)]
      refine ⟨(h.once code).1, fun hsome => ?_⟩
      obtain ⟨row, hrow, hcompleted⟩ := (h.once code).2 hsome
      refine ⟨row, ?_, hcompleted⟩
      have hkept : superseded.get? (codeHash engine code) = some row := by
        rw [hsuperseded, Table.get?_update, hrow, Option.map_some, if_neg]
        simp [hcompleted]
      exact Table.get?_insertOrIgnore_of_some new hkept
    · obtain ⟨n, hn, hid⟩ := h.drawn key identityId hkey
      exact ⟨n, hn.trans (Nat.lt_succ_self _), hid⟩

/-! ## A confirmation -/

theorem identityAt_linkAlias (aliases : Table String AliasRow (·.aliasKey)) (new : AliasRow)
    (key : String) :
    IdentityStore.identityAt (linkAlias aliases new) key
      = if new.aliasKey = key then
          some ((IdentityStore.identityAt aliases key).getD new.identityId)
        else IdentityStore.identityAt aliases key := by
  unfold linkAlias IdentityStore.identityAt
  split
  next old hold =>
    have hkey := (Table.get?_eq_some_iff.mp hold).2
    rw [Table.get?_replace]
    by_cases hnew : new.aliasKey = key
    · subst hnew
      simp [hold, hkey]
    · have hother : ¬ old.aliasKey = key := by rwa [hkey]
      simp [hnew, hother]
  next hnone =>
    rw [Table.get?_insertOrIgnore]
    by_cases hnew : new.aliasKey = key
    · subst hnew
      simp [hnone]
    · simp [hnew]

theorem mem_identitiesOf {s : IdentityStore} {currentKey otherKey identityId : String} :
    identityId ∈ s.identitiesOf currentKey otherKey
      ↔ IdentityStore.identityAt s.aliases currentKey = some identityId
        ∨ IdentityStore.identityAt s.aliases otherKey = some identityId := by
  have hat : ∀ key, IdentityStore.identityAt s.aliases key = some identityId
      ↔ ∃ row ∈ s.aliases.rows, row.aliasKey = key ∧ row.identityId = identityId := by
    intro key
    unfold IdentityStore.identityAt
    rw [Option.map_eq_some_iff]
    constructor
    · rintro ⟨row, hrow, hid⟩
      obtain ⟨hmem, hkey⟩ := Table.get?_eq_some_iff.mp hrow
      exact ⟨row, hmem, hkey, hid⟩
    · rintro ⟨row, hmem, hkey, hid⟩
      exact ⟨row, Table.get?_eq_some_iff.mpr ⟨hmem, hkey⟩, hid⟩
  unfold IdentityStore.identitiesOf IdentityStore.rowsOf
  rw [List.mem_dedup, List.mem_map, hat, hat]
  constructor
  · rintro ⟨row, hrow, hid⟩
    obtain ⟨hmem, hkey⟩ := List.mem_filter.mp hrow
    rcases of_decide_eq_true hkey with hcurrent | hother
    · exact .inl ⟨row, hmem, hcurrent, hid⟩
    · exact .inr ⟨row, hmem, hother, hid⟩
  · rintro (⟨row, hmem, hkey, hid⟩ | ⟨row, hmem, hkey, hid⟩)
    · exact ⟨row, List.mem_filter.mpr ⟨hmem, decide_eq_true (.inl hkey)⟩, hid⟩
    · exact ⟨row, List.mem_filter.mpr ⟨hmem, decide_eq_true (.inr hkey)⟩, hid⟩

theorem identity_cases {s : IdentityStore} {currentKey otherKey : String}
    (hlength : (s.identitiesOf currentKey otherKey).length ≤ 1) :
    let identityId := (s.identitiesOf currentKey otherKey).head?.getD (engine.uuid s.drawn)
    (∀ found ∈ s.identitiesOf currentKey otherKey, found = identityId)
      ∧ (identityId ∈ s.identitiesOf currentKey otherKey ∨ identityId = engine.uuid s.drawn) := by
  dsimp only
  cases hidentities : s.identitiesOf currentKey otherKey with
  | nil => exact ⟨List.forall_mem_nil _, .inr rfl⟩
  | cons first rest =>
      rw [hidentities, List.length_cons] at hlength
      obtain rfl := List.eq_nil_of_length_eq_zero (by omega : rest.length = 0)
      exact ⟨fun found hfound => List.mem_singleton.mp hfound, .inl List.mem_cons_self⟩

/-- The aliases after a confirmation: both have the identity, and every other one is as before. -/
theorem identityAt_complete {s : IdentityStore} {request : LinkRequest} {identityId : String}
    (hsame : ∀ found ∈ s.identitiesOf request.currentAliasKey request.otherAliasKey,
      found = identityId) (now : Time) (key : String) :
    IdentityStore.identityAt (s.complete engine request identityId now).aliases key
      = if request.currentAliasKey = key ∨ request.otherAliasKey = key then some identityId
        else IdentityStore.identityAt s.aliases key := by
  have hgetD : request.currentAliasKey = key ∨ request.otherAliasKey = key →
      (IdentityStore.identityAt s.aliases key).getD identityId = identityId := by
    intro hkey
    cases hat : IdentityStore.identityAt s.aliases key with
    | none => rfl
    | some found =>
        refine hsame found (mem_identitiesOf.mpr ?_)
        rcases hkey with rfl | rfl
        · exact .inl hat
        · exact .inr hat
  unfold IdentityStore.complete
  dsimp only
  rw [identityAt_linkAlias, identityAt_linkAlias]
  by_cases hcurrent : request.currentAliasKey = key
  · simp [hcurrent, hgetD (.inl hcurrent)]
  · by_cases hother : request.otherAliasKey = key
    · simp [hcurrent, hother, hgetD (.inr hother)]
    · simp [hcurrent, hother]

theorem joined_of_complete {s : IdentityStore} {request : LinkRequest} {identityId : String}
    {now : Time} {event : IdentityEvent} (h : Chained engine events s)
    (hsame : ∀ found ∈ s.identitiesOf request.currentAliasKey request.otherAliasKey,
      found = identityId)
    (hchosen : identityId ∈ s.identitiesOf request.currentAliasKey request.otherAliasKey
      ∨ identityId = engine.uuid s.drawn)
    (hcurrent : request.currentAliasKey = identityAliasKey engine a)
    (hother : request.otherAliasKey = identityAliasKey engine b)
    (hcurrentNe : request.currentAliasKey ≠ "") (hotherNe : request.otherAliasKey ≠ "")
    (hlink : ConfirmedLink (events ++ [event]) a b) (hc : identityAliasKey engine c ≠ "")
    (hat : IdentityStore.identityAt (s.complete engine request identityId now).aliases
      (identityAliasKey engine c) = some identityId) : Joined (events ++ [event]) c a := by
  have hback : Joined (events ++ [event]) b a := .symm _ _ (.rel _ _ hlink)
  rw [hcurrent] at hcurrentNe
  rw [hother] at hotherNe
  rw [identityAt_complete hsame] at hat
  split at hat
  next hkey =>
    rw [hcurrent, hother] at hkey
    rcases hkey with hkey | hkey
    · obtain rfl := identityAliasKey_inj hcurrentNe hkey
      exact .refl _
    · obtain rfl := identityAliasKey_inj hotherNe hkey
      exact hback
  next =>
    rcases hchosen with hold | hnew
    · rw [mem_identitiesOf, hcurrent, hother] at hold
      rcases hold with hfound | hfound
      · exact (h.joined c a identityId hc hcurrentNe hat hfound).append [event]
      · exact .trans _ _ _ ((h.joined c b identityId hc hotherNe hat hfound).append [event]) hback
    · -- a new identity is nobody's yet
      obtain ⟨n, hn, hid⟩ := h.drawn _ _ hat
      have hdrawn := engine.uuid_injective (hid.symm.trans hnew)
      omega

theorem requests_complete (s : IdentityStore) (request : LinkRequest) (identityId : String)
    (now : Time) (key : String) :
    (s.complete engine request identityId now).requests.get? key
      = (s.requests.get? key).map fun row =>
          if row.requestId = request.requestId then completeRow now row else row := by
  unfold IdentityStore.complete
  dsimp only
  rw [Table.get?_update]
  simp only [decide_eq_true_eq]

theorem chained_confirm {s : IdentityStore} (h : Chained engine events s) (target : Alias)
    (code : String) (now : Time) :
    Chained engine
      (events ++ [(.confirmLink target code now, (s.confirmLink engine target code now).2)])
      (s.confirmLink engine target code now).1 := by
  rcases confirmLink_cases engine s target code now with ⟨message, hraised⟩ |
    ⟨request, identityId, migrated, hrequest, hpending, hexpires, htargetKey, htarget, hlength,
      hidentity, hconfirmed⟩
  · rw [hraised]
    exact chained_of_quiet h (quiet_raised _ _) rfl le_rfl fun _ _ hkey => hkey
  · rw [hconfirmed]
    dsimp only
    generalize hevent : ((.confirmLink target code now, .confirmed identityId migrated)
      : IdentityEvent) = event
    obtain ⟨hmem, hcode⟩ := Table.get?_eq_some_iff.mp hrequest
    obtain ⟨a, b, named, hof⟩ := h.rows request hmem
    obtain rfl := codeHash_inj (hcode.symm.trans hof.code_eq)
    obtain rfl := identityAliasKey_inj htargetKey (htarget.trans hof.other)
    obtain ⟨hsame, hchosen⟩ := @identity_cases engine s _ _ hlength
    rw [← hidentity] at hsame hchosen
    have hlink : ConfirmedLink (events ++ [event]) a target := by
      obtain ⟨earlier, later, ttl, requestedAt, requestId, hevents, hleaves⟩ :=
        hof.pending hpending
      exact ⟨earlier, later, [], ttl, requestedAt, requestId, code, request.expiresAt, now,
        identityId, migrated, by rw [hevents, hevent], hexpires, hleaves⟩
    have hnotRequest : ∀ c d, ¬ Requests c d event := by
      rintro c d ⟨ttl, now', requestId, code', expiresAt, hother⟩
      rw [← hevent] at hother
      cases hother
    have hconfirms : ∀ other, confirms other event = decide (code = other) := by
      intro other
      rw [← hevent]
      rfl
    refine ⟨fun row hrow => ?_, fun other => ?_, fun key found hkey => ?_,
      fun c d found hc hd hidc hidd => ?_⟩
    · obtain ⟨old, hold, rfl⟩ := List.mem_map.mp hrow
      obtain ⟨c, d, other, hofOld⟩ := h.rows old hold
      by_cases hhit : old.requestId = request.requestId
      · rw [if_pos (by simpa using hhit)]
        refine ⟨c, d, other, ⟨hofOld.code_eq, hofOld.current, hofOld.other, hofOld.current_ne,
          hofOld.other_ne, hofOld.currentScope, hofOld.otherScope, fun hpend => ?_⟩⟩
        cases hpend
      · rw [if_neg (by simpa using hhit)]
        refine ⟨c, d, other, hofOld.append fun _ => ⟨hnotRequest c d, ?_⟩⟩
        rw [hconfirms]
        refine decide_eq_false ?_
        rintro rfl
        -- the row of this code is the one that was completed
        have hfound := Table.get?_eq_some_iff.mpr ⟨hold, hofOld.code_eq⟩
        rw [hrequest] at hfound
        exact hhit (congrArg LinkRequest.requestId (Option.some.inj hfound)).symm
    · have hkept : ∀ row, s.requests.get? (codeHash engine other) = some row →
          row.status = .completed ∨ row.requestId = request.requestId →
          ∃ row', (s.complete engine request identityId now).requests.get? (codeHash engine other)
            = some row' ∧ row'.status = .completed := by
        intro row hrow hdone
        refine ⟨if row.requestId = request.requestId then completeRow now row else row, ?_, ?_⟩
        · rw [requests_complete, hrow]
          rfl
        · split
          · rfl
          next hmiss => exact hdone.resolve_right hmiss
      by_cases hother : code = other
      · subst hother
        have hnone : events.filter (confirms code) = [] := by
          by_contra hsome
          obtain ⟨row, hrow, hstatus⟩ := (h.once code).2 hsome
          rw [hrequest] at hrow
          obtain rfl := Option.some.inj hrow
          rw [hpending] at hstatus
          cases hstatus
        rw [List.filter_append, hnone, List.nil_append]
        exact ⟨List.length_filter_le _ _, fun _ => hkept request hrequest (.inr rfl)⟩
      · have hmiss : confirms other event = false := by
          rw [hconfirms]
          exact decide_eq_false hother
        rw [filter_confirms_append hmiss]
        refine ⟨(h.once other).1, fun hsome => ?_⟩
        obtain ⟨row, hrow, hstatus⟩ := (h.once other).2 hsome
        exact hkept row hrow (.inl hstatus)
    · rw [identityAt_complete hsame] at hkey
      have hdrawn : (∃ key', IdentityStore.identityAt s.aliases key' = some found)
          ∨ found = engine.uuid s.drawn := by
        split at hkey
        · obtain rfl := Option.some.inj hkey
          refine hchosen.imp (fun hold => ?_) id
          rcases mem_identitiesOf.mp hold with hat | hat
          · exact ⟨_, hat⟩
          · exact ⟨_, hat⟩
        · exact .inl ⟨key, hkey⟩
      rcases hdrawn with ⟨key', hat⟩ | hnew
      · obtain ⟨n, hn, hid⟩ := h.drawn key' found hat
        exact ⟨n, hn.trans (Nat.lt_succ_self _), hid⟩
      · exact ⟨s.drawn, Nat.lt_succ_self _, hnew⟩
    · by_cases hfound : found = identityId
      · subst hfound
        have hjoined : ∀ e, identityAliasKey engine e ≠ "" →
            IdentityStore.identityAt (s.complete engine request found now).aliases
              (identityAliasKey engine e) = some found → Joined (events ++ [event]) e a :=
          fun e he hat => joined_of_complete h hsame hchosen hof.current hof.other hof.current_ne
            hof.other_ne hlink he hat
        exact .trans _ _ _ (hjoined c hc hidc) (.symm _ _ (hjoined d hd hidd))
      · -- neither alias took part
        have hbefore : ∀ key, IdentityStore.identityAt
            (s.complete engine request identityId now).aliases key = some found →
              IdentityStore.identityAt s.aliases key = some found := by
          intro key hat
          rw [identityAt_complete hsame] at hat
          split at hat
          · exact absurd (Option.some.inj hat).symm hfound
          · exact hat
        exact (h.joined c d found hc hd (hbefore _ hidc) (hbefore _ hidd)).append [event]

/-! ## Runs -/

theorem chained_run (engine : IdentityEngine) (items : Table String MemoryItem (·.id))
    (calls : List IdentityCall) :
    Chained engine ((identityMachine engine).trace (.start items) calls)
      ((identityMachine engine).run (.start items) calls) := by
  induction calls using List.reverseRecOn with
  | nil => exact chained_start items
  | append_singleton calls call ih =>
      rw [Machine.trace_append, Machine.run_append]
      cases call with
      | requestLink current other ttl now => exact chained_request ih current other ttl now
      | confirmLink target code now => exact chained_confirm ih target code now
      | unlinkCurrent target => exact chained_unlink ih target

/-- A confirmation changes nothing, or it completes the request of its code and moves the memory of
both aliases to the identity that both have from then on. -/
def AllOrNothing (engine : IdentityEngine) (s : IdentityStore) (target : Alias) (code : String)
    (now : Time) : Prop :=
  (∃ message, s.confirmLink engine target code now = (s, .raised message))
    ∨ ∃ current request identityId migrated s',
        s.confirmLink engine target code now = (s', .confirmed identityId migrated)
        ∧ s.requests.get? (codeHash engine code) = some request ∧ request.status = .pending
        ∧ request.currentAliasKey = identityAliasKey engine current
        ∧ request.otherAliasKey = identityAliasKey engine target
        ∧ s'.requests.get? (codeHash engine code) = some (completeRow now request)
        ∧ s'.resolve engine current = identityId ∧ s'.resolve engine target = identityId
        ∧ s'.items.rows = s.items.rows.map fun item =>
            if item.scope = actorMemoryScope engine current
                ∨ item.scope = actorMemoryScope engine target then
              moveItem (identityMemoryScope engine identityId) now item
            else item

theorem allOrNothing {s : IdentityStore} (h : Chained engine events s) (target : Alias)
    (code : String) (now : Time) : AllOrNothing engine s target code now := by
  rcases confirmLink_cases engine s target code now with hraised |
    ⟨request, identityId, migrated, hrequest, hpending, hexpires, htargetKey, htarget, hlength,
      hidentity, hconfirmed⟩
  · exact .inl hraised
  · obtain ⟨hmem, hcode⟩ := Table.get?_eq_some_iff.mp hrequest
    obtain ⟨a, b, named, hof⟩ := h.rows request hmem
    obtain rfl := identityAliasKey_inj htargetKey (htarget.trans hof.other)
    obtain ⟨hsame, -⟩ := @identity_cases engine s _ _ hlength
    rw [← hidentity] at hsame
    have hresolve : ∀ c, identityAliasKey engine c ≠ "" →
        (request.currentAliasKey = identityAliasKey engine c
          ∨ request.otherAliasKey = identityAliasKey engine c) →
        (s.complete engine request identityId now).resolve engine c = identityId := by
      intro c hc hkey
      unfold IdentityStore.resolve
      dsimp only
      rw [if_neg hc, identityAt_complete hsame, if_pos hkey, Option.getD_some]
    refine .inr ⟨a, request, identityId, migrated, _, hconfirmed, hrequest, hpending, hof.current,
      hof.other, ?_, hresolve a ?_ (.inl hof.current), hresolve target htargetKey (.inr hof.other),
      ?_⟩
    · rw [requests_complete, hrequest, Option.map_some, if_pos rfl]
    · rw [← hof.current]
      exact hof.current_ne
    · show Table.updateRows _ _ _ = _
      unfold Table.updateRows
      rw [hof.currentScope, hof.otherScope]
      simp only [decide_eq_true_eq]

/-- Aliases resolve to one identity only through a chain of confirmed requests, no request is
completed twice, and a confirmation does all or nothing. -/
theorem identities_merge_by_confirmation (engine : IdentityEngine)
    (items : Table String MemoryItem (·.id)) (calls : List IdentityCall) :
    let events := (identityMachine engine).trace (.start items) calls
    let s := (identityMachine engine).run (.start items) calls
    (∀ a b, s.resolve engine a ≠ "" → s.resolve engine a = s.resolve engine b → Joined events a b)
      ∧ (∀ code, (events.filter (confirms code)).length ≤ 1)
      ∧ ∀ target code now, AllOrNothing engine s target code now := by
  have hchained := chained_run engine items calls
  dsimp only
  refine ⟨fun a b hresolved hsame => ?_, fun code => (hchained.once code).1,
    fun target code now => allOrNothing hchained target code now⟩
  have hfound : ∀ c, IdentityStore.resolve engine
      ((identityMachine engine).run (.start items) calls) c ≠ "" →
      identityAliasKey engine c ≠ "" ∧ IdentityStore.identityAt
        ((identityMachine engine).run (.start items) calls).aliases (identityAliasKey engine c)
          = some (IdentityStore.resolve engine
            ((identityMachine engine).run (.start items) calls) c) := by
    intro c hc
    unfold IdentityStore.resolve at hc ⊢
    dsimp only at hc ⊢
    split at hc
    next => exact absurd rfl hc
    next hkey =>
      refine ⟨hkey, ?_⟩
      cases hat : IdentityStore.identityAt
          ((identityMachine engine).run (.start items) calls).aliases
          (identityAliasKey engine c) with
      | none =>
          rw [hat] at hc
          exact absurd rfl hc
      | some identityId => rw [if_neg hkey, Option.getD_some]
  obtain ⟨ha, hida⟩ := hfound a hresolved
  obtain ⟨hb, hidb⟩ := hfound b (by rwa [← hsame])
  rw [← hsame] at hidb
  exact hchained.joined a b _ ha hb hida hidb

end

/-- Digests that are the texts themselves, and identifiers of growing length. -/
def plainIdentity : IdentityEngine where
  sha256 := String.ofList
  sha256_injective _ _ h := String.ofList_inj.mp h
  uuid n := String.ofList (List.replicate (n + 1) 'u')
  uuid_injective n m h := by
    have hlength := congrArg List.length (String.ofList_inj.mp h)
    simpa using hlength
  uuid_ne n h := by
    have hlist := congrArg String.toList h
    simp at hlist
  token n := String.ofList (List.replicate (n + 1) 't')

/-- A confirmed request of a desk for a phone. -/
example :
    let desk : Alias := ⟨"cli", "", "me", by decide, by decide, by decide⟩
    let phone : Alias := ⟨"weixin", "peer", "me", by decide, by decide, by decide⟩
    let s := (identityMachine plainIdentity).run (.start .empty)
      [.requestLink desk phone 600 0, .confirmLink phone "t" 1]
    s.resolve plainIdentity desk = "uu" ∧ s.resolve plainIdentity phone = "uu" := by
  decide +kernel

end Navi.Identity
