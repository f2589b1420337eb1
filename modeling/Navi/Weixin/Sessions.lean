import Mathlib
import Navi.Base.Dict
import Navi.Base.Index
import Navi.Base.System

/-!
# Context tokens of Weixin peers

The durable store of context tokens: one session for each account and peer, replaced by a later
observation and emptied by an invalidation. When a token is read that an invalidation had already
recalled.
-/

namespace Navi.Weixin

open Navi.Base

/-- `WeixinPeerSession`. -/
structure WeixinPeerSession where
  accountId : String
  peerId : String
  contextToken : String
  observedAt : Time
  invalidatedAt : Time
  invalidationReason : String
  deriving DecidableEq

/-- `_key`. -/
def sessionKey (accountId peerId : String) : String := accountId ++ ":" ++ peerId

/-- The sessions of `peer-sessions.json`, by their keys. -/
abbrev WeixinSessions := Table String WeixinPeerSession fun s => sessionKey s.accountId s.peerId

/-- `is_current`. -/
def WeixinPeerSession.isCurrent (session : WeixinPeerSession) (now maxAgeSeconds : Time) : Bool :=
  session.contextToken ≠ "" ∧ session.invalidatedAt < session.observedAt
    ∧ now - session.observedAt ≤ max 0 maxAgeSeconds

namespace WeixinSessions

/-- `get`. -/
def get (sessions : WeixinSessions) (accountId peerId : String) (now maxAgeSeconds : Time) :
    String :=
  match sessions.get? (sessionKey accountId peerId) with
  | none => ""
  | some session => if session.isCurrent now maxAgeSeconds then session.contextToken else ""

/-- `resolve`. -/
def resolve (sessions : WeixinSessions) (accountId peerId fallback : String)
    (now maxAgeSeconds : Time) : String :=
  match sessions.get? (sessionKey accountId peerId) with
  | none => fallback
  | some session => if session.isCurrent now maxAgeSeconds then session.contextToken else ""

/-- Whether `put` stores: nothing is empty, and what is there was observed before. -/
def Accepts (sessions : WeixinSessions) (accountId peerId contextToken : String)
    (observedAt : Time) : Prop :=
  accountId ≠ "" ∧ peerId ≠ "" ∧ strip contextToken ≠ ""
    ∧ ∀ existing ∈ sessions.get? (sessionKey accountId peerId), existing.observedAt < observedAt

instance decidableAccepts (sessions : WeixinSessions) (accountId peerId contextToken : String)
    (observedAt : Time) : Decidable (sessions.Accepts accountId peerId contextToken observedAt) :=
  inferInstanceAs (Decidable (_ ∧ _ ∧ _ ∧ _))

/-- `put`, and whether it stored. -/
def put (sessions : WeixinSessions) (accountId peerId contextToken : String) (observedAt : Time) :
    WeixinSessions × Bool :=
  if sessions.Accepts accountId peerId contextToken observedAt then
    (sessions.upsert ⟨accountId, peerId, strip contextToken, observedAt, 0, ""⟩, true)
  else (sessions, false)

/-- What `invalidate` leaves of a session. -/
def invalidated (session : WeixinPeerSession) (reason : String) (invalidatedAt : Time) :
    WeixinPeerSession :=
  { session with
    contextToken := ""
    invalidatedAt := invalidatedAt
    invalidationReason := String.ofList (reason.toList.take 200) }

/-- `invalidate`, and whether there was a session. -/
def invalidate (sessions : WeixinSessions) (accountId peerId reason : String)
    (invalidatedAt : Time) : WeixinSessions × Bool :=
  match sessions.get? (sessionKey accountId peerId) with
  | none => (sessions, false)
  | some existing => (sessions.upsert (invalidated existing reason invalidatedAt), true)

end WeixinSessions

/-! ## Runs -/

/-- The store, and the invalidations that were recorded: the key of the session and the time. -/
structure SessionRun where
  sessions : WeixinSessions
  recorded : List (String × Time)

inductive SessionCall where
  | put (accountId peerId contextToken : String) (observedAt : Time)
  | invalidate (accountId peerId reason : String) (invalidatedAt : Time)
  | get (accountId peerId : String) (now maxAgeSeconds : Time)
  | resolve (accountId peerId fallback : String) (now maxAgeSeconds : Time)

namespace SessionRun

def start : SessionRun := ⟨.empty, []⟩

def after (s : SessionRun) : SessionCall → SessionRun
  | .put accountId peerId contextToken observedAt =>
      { s with sessions := (s.sessions.put accountId peerId contextToken observedAt).1 }
  | .invalidate accountId peerId reason invalidatedAt =>
      let result := s.sessions.invalidate accountId peerId reason invalidatedAt
      { sessions := result.1
        recorded :=
          if result.2 then (sessionKey accountId peerId, invalidatedAt) :: s.recorded
          else s.recorded }
  | .get .. | .resolve .. => s

end SessionRun

/-- The calls of the store, in any order and with any times. -/
def sessionSystem : System SessionRun SessionCall where
  step s call := some (s.after call)

/-! ## What is claimed -/

/-- A read gives the token of the session, observed after every invalidation of it. -/
def ReadsFresh (s : SessionRun) (accountId peerId read : String) : Prop :=
  ∀ entry ∈ s.recorded, entry.1 = sessionKey accountId peerId → read ≠ "" →
    ∃ session ∈ s.sessions.get? (sessionKey accountId peerId),
      read = session.contextToken ∧ entry.2 < session.observedAt

/-- No `get` or `resolve`, at any time, gives a token that was observed at or before a recorded
invalidation. -/
structure NeverReused (s : SessionRun) : Prop where
  get : ∀ accountId peerId now maxAge,
    ReadsFresh s accountId peerId (s.sessions.get accountId peerId now maxAge)
  resolve : ∀ accountId peerId fallback now maxAge,
    ReadsFresh s accountId peerId (s.sessions.resolve accountId peerId fallback now maxAge)

/-- A token that is stored with a positive time was observed after every invalidation that is
recorded of its session. -/
def ObservedAfter (s : SessionRun) : SessionCall → Prop
  | .put accountId peerId contextToken observedAt =>
      s.sessions.Accepts accountId peerId contextToken observedAt → 0 < observedAt →
        ∀ entry ∈ s.recorded, entry.1 = sessionKey accountId peerId → entry.2 < observedAt
  | .invalidate .. | .get .. | .resolve .. => True

/-! ## Sessions -/

section

variable {s s' : SessionRun} {accountId peerId : String}

/-- A session that was invalidated is there. -/
def Kept (s : SessionRun) : Prop :=
  ∀ entry ∈ s.recorded, (s.sessions.get? entry.1).isSome

/-- A session gives its token at some time, if it has one. -/
def Gives (session : WeixinPeerSession) : Prop :=
  session.contextToken ≠ "" ∧ session.invalidatedAt < session.observedAt

theorem isCurrent_observedAt {session : WeixinPeerSession} :
    session.isCurrent session.observedAt 0 = true ↔ Gives session := by
  unfold WeixinPeerSession.isCurrent Gives
  simp

theorem gives_of_isCurrent {session : WeixinPeerSession} {now maxAge : Time}
    (h : session.isCurrent now maxAge = true) : Gives session := by
  unfold WeixinPeerSession.isCurrent at h
  obtain ⟨htoken, htime, -⟩ := of_decide_eq_true h
  exact ⟨htoken, htime⟩

/-- A session is not read too late if its token, where it gives one, was observed after every
invalidation. -/
def FreshSession (s : SessionRun) (session : WeixinPeerSession) : Prop :=
  Gives session → ∀ entry ∈ s.recorded, entry.1 = sessionKey session.accountId session.peerId →
    entry.2 < session.observedAt

theorem neverReused_iff (hkept : Kept s) :
    NeverReused s ↔ ∀ session ∈ s.sessions.rows, FreshSession s session := by
  constructor
  · intro h session hsession hgives entry hentry hkey
    have hfound := Table.get?_of_mem hsession
    have hread : s.sessions.get session.accountId session.peerId session.observedAt 0
        = session.contextToken := by
      unfold WeixinSessions.get
      rw [hfound]
      exact if_pos (isCurrent_observedAt.mpr hgives)
    have hfresh := h.get session.accountId session.peerId session.observedAt 0 entry hentry hkey
    rw [hread] at hfresh
    obtain ⟨other, hother, -, hlt⟩ := hfresh hgives.1
    obtain rfl := Option.some.inj (hfound.symm.trans hother)
    exact hlt
  · intro h
    have hreads : ∀ accountId peerId fallback now maxAge,
        ReadsFresh s accountId peerId
          (s.sessions.resolve accountId peerId fallback now maxAge) := by
      intro accountId peerId fallback now maxAge entry hentry hkey hread
      obtain ⟨session, hfound⟩ := Option.isSome_iff_exists.mp (hkept entry hentry)
      rw [hkey] at hfound
      unfold WeixinSessions.resolve at hread ⊢
      rw [hfound] at hread ⊢
      dsimp only at hread ⊢
      split at hread
      next hcurrent =>
        obtain ⟨hmem, hsame⟩ := Table.get?_eq_some_iff.mp hfound
        refine ⟨session, rfl, if_pos hcurrent, ?_⟩
        exact h session hmem (gives_of_isCurrent hcurrent) entry hentry (hkey.trans hsame.symm)
      next => exact absurd rfl hread
    refine ⟨fun accountId peerId now maxAge => ?_, hreads⟩
    have hsame : s.sessions.get accountId peerId now maxAge
        = s.sessions.resolve accountId peerId "" now maxAge := rfl
    rw [hsame]
    exact hreads accountId peerId "" now maxAge

/-! ## Calls -/

theorem put_of_accepts {sessions : WeixinSessions} {contextToken : String} {observedAt : Time}
    (h : sessions.Accepts accountId peerId contextToken observedAt) :
    sessions.put accountId peerId contextToken observedAt
      = (sessions.upsert ⟨accountId, peerId, strip contextToken, observedAt, 0, ""⟩, true) :=
  if_pos h

theorem put_of_not_accepts {sessions : WeixinSessions} {contextToken : String} {observedAt : Time}
    (h : ¬ sessions.Accepts accountId peerId contextToken observedAt) :
    sessions.put accountId peerId contextToken observedAt = (sessions, false) :=
  if_neg h

theorem invalidate_of_none {sessions : WeixinSessions}
    (h : sessions.get? (sessionKey accountId peerId) = none) (reason : String)
    (invalidatedAt : Time) :
    sessions.invalidate accountId peerId reason invalidatedAt = (sessions, false) := by
  unfold WeixinSessions.invalidate
  rw [h]

theorem invalidate_of_some {sessions : WeixinSessions} {existing : WeixinPeerSession}
    (h : sessions.get? (sessionKey accountId peerId) = some existing) (reason : String)
    (invalidatedAt : Time) :
    sessions.invalidate accountId peerId reason invalidatedAt
      = (sessions.upsert (WeixinSessions.invalidated existing reason invalidatedAt), true) := by
  unfold WeixinSessions.invalidate
  rw [h]

theorem of_session_step {call : SessionCall} (h : sessionSystem.step s call = some s') :
    s' = s
      ∨ (∃ accountId peerId contextToken observedAt,
          call = .put accountId peerId contextToken observedAt
          ∧ s.sessions.Accepts accountId peerId contextToken observedAt
          ∧ s' = ⟨s.sessions.upsert ⟨accountId, peerId, strip contextToken, observedAt, 0, ""⟩,
            s.recorded⟩)
      ∨ ∃ accountId peerId reason invalidatedAt existing,
          call = .invalidate accountId peerId reason invalidatedAt
          ∧ s.sessions.get? (sessionKey accountId peerId) = some existing
          ∧ s' = ⟨s.sessions.upsert (WeixinSessions.invalidated existing reason invalidatedAt),
            (sessionKey accountId peerId, invalidatedAt) :: s.recorded⟩ := by
  obtain rfl := Option.some.inj h
  cases call with
  | put accountId peerId contextToken observedAt =>
      simp only [SessionRun.after]
      by_cases haccepts : s.sessions.Accepts accountId peerId contextToken observedAt
      · rw [put_of_accepts haccepts]
        exact .inr (.inl ⟨accountId, peerId, contextToken, observedAt, rfl, haccepts, rfl⟩)
      · rw [put_of_not_accepts haccepts]
        exact .inl rfl
  | invalidate accountId peerId reason invalidatedAt =>
      simp only [SessionRun.after]
      rcases hfound : s.sessions.get? (sessionKey accountId peerId) with _ | existing
      · rw [invalidate_of_none hfound]
        exact .inl rfl
      · rw [invalidate_of_some hfound]
        exact .inr (.inr ⟨accountId, peerId, reason, invalidatedAt, existing, rfl, hfound, rfl⟩)
  | get accountId peerId now maxAge => exact .inl rfl
  | resolve accountId peerId fallback now maxAge => exact .inl rfl

theorem observedAfter_of_same {call : SessionCall} (h : sessionSystem.step s call = some s) :
    ∀ accountId peerId contextToken observedAt,
      call = .put accountId peerId contextToken observedAt →
        ¬ s.sessions.Accepts accountId peerId contextToken observedAt := by
  rintro accountId peerId contextToken observedAt rfl haccepts
  have hsame : s.sessions.upsert ⟨accountId, peerId, strip contextToken, observedAt, 0, ""⟩
      = s.sessions := by
    have hput := congrArg SessionRun.sessions (Option.some.inj h)
    simp only [SessionRun.after] at hput
    rwa [put_of_accepts haccepts] at hput
  have hfound := Table.get?_upsert s.sessions
    ⟨accountId, peerId, strip contextToken, observedAt, 0, ""⟩ (sessionKey accountId peerId)
  rw [hsame, if_pos rfl] at hfound
  exact lt_irrefl _ (haccepts.2.2.2 _ hfound)

theorem kept_start : Kept .start := List.forall_mem_nil _

theorem isSome_upsert {key : String} (new : WeixinPeerSession)
    (h : (s.sessions.get? key).isSome) : ((s.sessions.upsert new).get? key).isSome := by
  rw [Table.get?_upsert]
  split
  · rfl
  · exact h

theorem kept_step {call : SessionCall} (hkept : Kept s)
    (h : sessionSystem.step s call = some s') : Kept s' := by
  obtain rfl | ⟨accountId, peerId, contextToken, observedAt, -, -, rfl⟩
    | ⟨accountId, peerId, reason, invalidatedAt, existing, -, hfound, rfl⟩ := of_session_step h
  · exact hkept
  · exact fun entry hentry => isSome_upsert _ (hkept entry hentry)
  · intro entry hentry
    refine isSome_upsert _ ?_
    rcases List.mem_cons.mp hentry with rfl | hold
    · exact Option.isSome_iff_exists.mpr ⟨existing, hfound⟩
    · exact hkept entry hold

/-- A store in which nothing is reused stays one if and only if what the call stores was observed
after the invalidations. -/
theorem fresh_step_iff {call : SessionCall}
    (hfresh : ∀ session ∈ s.sessions.rows, FreshSession s session)
    (h : sessionSystem.step s call = some s') :
    (∀ session ∈ s'.sessions.rows, FreshSession s' session) ↔ ObservedAfter s call := by
  have hstep := of_session_step h
  obtain rfl | ⟨accountId, peerId, contextToken, observedAt, rfl, haccepts, rfl⟩
    | ⟨accountId, peerId, reason, invalidatedAt, existing, rfl, hfound, rfl⟩ := hstep
  · refine iff_of_true hfresh ?_
    cases call with
    | put accountId peerId contextToken observedAt =>
        exact fun haccepts => absurd haccepts (observedAfter_of_same h _ _ _ _ rfl)
    | invalidate accountId peerId reason invalidatedAt => trivial
    | get accountId peerId now maxAge => trivial
    | resolve accountId peerId fallback now maxAge => trivial
  · constructor
    · intro hall _ hpositive entry hentry hkey
      have hmem := (Table.get?_eq_some_iff.mp ((Table.get?_upsert s.sessions
        ⟨accountId, peerId, strip contextToken, observedAt, 0, ""⟩
        (sessionKey accountId peerId)).trans (if_pos rfl))).1
      exact hall _ hmem ⟨haccepts.2.2.1, hpositive⟩ entry hentry hkey
    · intro hafter session hsession hgives entry hentry hkey
      rcases Table.mem_upsert hsession with rfl | hold
      · exact hafter haccepts hgives.2 entry hentry hkey
      · exact hfresh session hold hgives entry hentry hkey
  · refine iff_of_true ?_ trivial
    intro session hsession hgives entry hentry hkey
    rcases Table.mem_upsert hsession with rfl | hold
    · exact absurd rfl hgives.1
    · rcases List.mem_cons.mp hentry with rfl | hrecorded
      · -- the session that was invalidated has no token any more
        obtain ⟨hmem, hsame⟩ := Table.get?_eq_some_iff.mp hfound
        have hread := Table.get?_of_mem hsession
        have hreplaced := (Table.get?_upsert s.sessions
          (WeixinSessions.invalidated existing reason invalidatedAt) _).trans
          (if_pos (hsame.trans hkey))
        obtain rfl := Option.some.inj (hreplaced.symm.trans hread)
        exact absurd rfl hgives.1
      · exact hfresh session hold hgives entry hrecorded hkey

/-- In every run of the store no read of any state gives a token that was observed at or before a
recorded invalidation, if and only if every token that is stored with a positive time was observed
after the invalidations that are recorded of its session. -/
theorem never_reused_iff (calls : List SessionCall) :
    (∀ n s, sessionSystem.run .start (calls.take n) = some s → NeverReused s)
      ↔ sessionSystem.Along ObservedAfter .start calls := by
  refine sessionSystem.run_good_iff (I := Kept) (fun _ _ _ hkept hstep => kept_step hkept hstep)
    (fun s call s' hkept hgood hstep => ?_) (fun s call _ => ⟨_, rfl⟩) kept_start ?_ calls
  · rw [neverReused_iff (kept_step hkept hstep)]
    exact fresh_step_iff ((neverReused_iff hkept).mp hgood) hstep
  · exact (neverReused_iff kept_start).mpr (List.forall_mem_nil _)

/-- A message that was received before the invalidation and is stored after it. -/
def lateMessage : List SessionCall :=
  [.put "acct" "peer" "ctx-1" 100, .invalidate "acct" "peer" "rejected" 200,
    .put "acct" "peer" "ctx-2" 150]

/-- Its token is given although it was observed before the invalidation. -/
theorem late_token_is_reused :
    ∃ s, sessionSystem.run .start lateMessage = some s
      ∧ s.sessions.get "acct" "peer" 210 86400 = "ctx-2" ∧ ¬ NeverReused s := by
  have hrun : (sessionSystem.run .start lateMessage).map (fun s =>
        (s.sessions.get "acct" "peer" 210 86400, s.sessions.get? "acct:peer", s.recorded))
      = some ("ctx-2", some ⟨"acct", "peer", "ctx-2", 150, 0, ""⟩, [("acct:peer", 200)]) := by
    decide +kernel
  obtain ⟨s, hs, hsees⟩ := Option.map_eq_some_iff.mp hrun
  obtain ⟨hread, hsession, hrecorded⟩ : s.sessions.get "acct" "peer" 210 86400 = "ctx-2"
      ∧ s.sessions.get? "acct:peer" = some ⟨"acct", "peer", "ctx-2", 150, 0, ""⟩
      ∧ s.recorded = [("acct:peer", 200)] := by
    simpa only [Prod.mk.injEq] using hsees
  refine ⟨s, hs, hread, fun hnever => ?_⟩
  have hmem : ("acct:peer", (200 : Time)) ∈ s.recorded := hrecorded ▸ List.mem_singleton_self _
  have hnonempty : s.sessions.get "acct" "peer" 210 86400 ≠ "" := by
    rw [hread]
    decide
  obtain ⟨session, hfound, -, hlt⟩ := hnever.get "acct" "peer" 210 86400 _ hmem rfl hnonempty
  have hsame : s.sessions.get? (sessionKey "acct" "peer")
      = some ⟨"acct", "peer", "ctx-2", 150, 0, ""⟩ := hsession
  obtain rfl := Option.some.inj (hsame.symm.trans hfound)
  exact absurd hlt (by norm_num)

end

end Navi.Weixin
