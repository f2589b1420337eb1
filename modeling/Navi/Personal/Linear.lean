import Mathlib
import Navi.Personal.Updates

/-!
# Updates are linear

A write succeeds only on the version that its update has read, so that every version is produced by
one update of the version before it. What an update has read is what that version still is when it
is written.
-/

namespace Navi.Personal

open Navi.Base

section

variable {engine : ResourceEngine} {s s' : ResourceStore} {call : UpdateCall}
  {row : PersonalResource} {update : PendingUpdate}

theorem of_plan (h : s.plan engine call = .ok update) :
    Expects s call update.current ∧ update.call = call ∧ ∃ adapter patched,
      adapterOf engine update.current.kind = some adapter
      ∧ adapter.normalize true call.patch = .ok patched
      ∧ adapter.normalize false (Dict.merge update.current.data patched) = .ok update.data := by
  unfold ResourceStore.plan at h
  split at h
  next => cases h
  next current hcurrent =>
    split at h
    next => cases h
    next hversion =>
      split at h
      next => cases h
      next adapter hadapter =>
        obtain ⟨patched, hpatched, h⟩ := bind_eq_ok.mp h
        obtain ⟨data, hdata, h⟩ := bind_eq_ok.mp h
        split at h
        next => cases h
        next hstatus =>
          obtain rfl := Except.ok.inj h
          exact ⟨⟨hcurrent, not_not.mp hversion, eq_true_of_ne_false hstatus⟩, rfl, adapter,
            patched, hadapter, hpatched, hdata⟩

theorem plan_of_accepted (hexpects : Expects s call row) {adapter : PersonalResourceAdapter}
    (hadapter : adapterOf engine row.kind = some adapter)
    (haccepted : Accepted adapter row.data call.patch) :
    ∃ update, s.plan engine call = .ok update := by
  obtain ⟨hget, hversion, hstatus⟩ := hexpects
  obtain ⟨patched, data, hpatched, hdata⟩ := haccepted
  unfold ResourceStore.plan
  rw [hget]
  dsimp only
  rw [if_neg (not_not.mpr hversion), hadapter]
  dsimp only
  rw [bind_of_eq_ok hpatched, bind_of_eq_ok hdata, if_neg (by rw [hstatus]; decide)]
  exact ⟨_, rfl⟩

/-! ## The invariant -/

/-- What an update has read is what its version is, as long as it is the latest. -/
structure Pending (engine : ResourceEngine) (s : ResourceStore) (update : PendingUpdate) :
    Prop where
  call : update.call.resourceId = update.current.id
    ∧ update.call.expectedVersion = update.current.version
  read : ∃ row, s.rows.get? update.current.id = some row ∧ update.current.version ≤ row.version
    ∧ (row.version = update.current.version →
      row.kind = update.current.kind ∧ row.data = update.current.data)
  normalized : ∃ adapter patched, adapterOf engine update.current.kind = some adapter
    ∧ adapter.normalize true update.call.patch = .ok patched
    ∧ adapter.normalize false (Dict.merge update.current.data patched) = .ok update.data

/-- What holds of a store at any time. -/
structure Good (engine : ResourceEngine) (s : ResourceStore) : Prop where
  continues : Throughout (Continues engine) s.log
  current : ∀ id, (s.rows.get? id).map (fun row => (row.kind, row.version, row.data))
    = latest id s.log
  stored : ∀ row ∈ s.rows.rows, ∃ adapter, adapterOf engine row.kind = some adapter
    ∧ Stored adapter row.data
  pending : ∀ update ∈ s.pending, Pending engine s update

theorem good_start : Good engine .start :=
  ⟨trivial, fun _ => rfl, List.forall_mem_nil _, List.forall_mem_nil _⟩

theorem Pending.mono (h : Pending engine s update)
    (hlater : ∀ id row, s.rows.get? id = some row → ∃ row', s'.rows.get? id = some row'
      ∧ (row' = row ∨ row.version < row'.version)) : Pending engine s' update := by
  refine ⟨h.call, ?_, h.normalized⟩
  obtain ⟨row, hrow, hle, hsame⟩ := h.read
  obtain ⟨row', hrow', hcases⟩ := hlater _ row hrow
  refine ⟨row', hrow', ?_⟩
  rcases hcases with rfl | hlt
  · exact ⟨hle, hsame⟩
  · exact ⟨by omega, fun heq => by omega⟩

/-! ## Steps -/

theorem good_create (h : Good engine s) (id kind ownerScope : String) (data : Dict) (now : Time) :
    Good engine (s.create engine id kind ownerScope data now) := by
  unfold ResourceStore.create
  split
  next => exact h
  next adapter hadapter =>
    split
    next normalized hnormalize hfresh =>
      obtain ⟨reads, hlawful⟩ := lawful_of_adapterOf hadapter
      set new : PersonalResource := ⟨id, kind, ownerScope, "active", normalized, 1, now, now⟩
        with hnew
      have hget : ∀ other, (s.rows.insertOrIgnore new).get? other
          = if id = other then some new else s.rows.get? other := by
        intro other
        rw [Table.get?_insertOrIgnore]
        by_cases hother : id = other
        · subst hother
          simp [hfresh, hnew]
        · simp [hother, hnew]
      refine ⟨⟨?_, h.continues⟩, fun other => ?_, fun row hrow => ?_, fun update hupdate => ?_⟩
      · show latest id s.log = none
        rw [← h.current, hfresh]
        rfl
      · show ((s.rows.insertOrIgnore new).get? other).map _
          = latest other (.created id kind normalized :: s.log)
        unfold latest
        rw [hget]
        split
        · rfl
        · exact h.current other
      · rcases (Table.mem_insertOrIgnore hfresh).mp hrow with hold | rfl
        · exact h.stored row hold
        · exact ⟨adapter, hadapter, stored_of_normalize hlawful hnormalize⟩
      · refine (h.pending update hupdate).mono fun other row hrow => ⟨row, ?_, .inl rfl⟩
        exact Table.get?_insertOrIgnore_of_some new hrow
    next => exact h

theorem good_write (h : Good engine s) (hpending : Pending engine s update) (now : Time) :
    Good engine (s.write update now) := by
  obtain ⟨⟨hid, hversion⟩, ⟨row, hrow, hle, hsame⟩, adapter, patched, hadapter, hpatched, hdata⟩ :=
    hpending
  unfold ResourceStore.write
  rw [hid, hrow]
  dsimp only
  split
  next htarget =>
    have htarget' := htarget
    unfold ResourceStore.isTarget at htarget'
    simp only [Bool.decide_and, Bool.and_eq_true, decide_eq_true_eq] at htarget'
    obtain ⟨-, -, hcurrent⟩ := htarget'
    have hread : row.version = update.current.version := by omega
    obtain ⟨hkind, hbase⟩ := hsame hread
    obtain ⟨hmem, hrowId⟩ := Table.get?_eq_some_iff.mp hrow
    obtain ⟨reads, hlawful⟩ := lawful_of_adapterOf hadapter
    have hget : ∀ other, (s.rows.update (ResourceStore.isTarget update) (writtenRow update now)
        (writtenRow_id update now)).get? other
          = if row.id = other then some (writtenRow update now row) else s.rows.get? other := by
      intro other
      rw [Table.get?_update]
      by_cases hother : row.id = other
      · subst hother
        rw [Table.get?_of_mem hmem, Option.map_some, if_pos htarget, if_pos rfl]
      · rw [if_neg hother]
        cases hfound : s.rows.get? other with
        | none => rfl
        | some found =>
            have hmiss : ResourceStore.isTarget update found ≠ true := by
              intro hhit
              unfold ResourceStore.isTarget at hhit
              simp only [Bool.decide_and, Bool.and_eq_true, decide_eq_true_eq] at hhit
              have hfoundId := (Table.get?_eq_some_iff.mp hfound).2
              exact hother (by rw [hrowId, ← hid, ← hhit.1, hfoundId])
            rw [Option.map_some, if_neg hmiss]
    have hlatest : latest row.id s.log = some (row.kind, row.version, row.data) := by
      rw [← h.current, Table.get?_of_mem hmem]
      rfl
    refine ⟨⟨?_, h.continues⟩, fun other => ?_, fun changed hchanged => ?_, fun p hp => ?_⟩
    · exact ⟨row.kind, row.version, row.data, adapter, patched, hlatest, rfl, by rwa [hkind],
        hpatched, by rwa [hbase]⟩
    · dsimp only
      rw [hget]
      unfold latest
      split
      next hother =>
        subst hother
        rw [hlatest]
        rfl
      · exact h.current other
    · obtain ⟨old, hold, rfl⟩ := List.mem_map.mp hchanged
      split
      next hhit =>
        have holdId : old = row := by
          unfold ResourceStore.isTarget at hhit
          simp only [Bool.decide_and, Bool.and_eq_true, decide_eq_true_eq] at hhit
          exact Table.eq_of_key hold hmem (hhit.1.trans (hid.trans hrowId.symm))
        subst holdId
        exact ⟨adapter, by rw [← hadapter, ← hkind]; rfl, stored_of_normalize hlawful hdata⟩
      next => exact h.stored old hold
    · refine (h.pending p hp).mono fun other found hfound => ?_
      rw [hget]
      split
      next hother =>
        subst hother
        rw [Table.get?_of_mem hmem] at hfound
        obtain rfl := Option.some.inj hfound
        exact ⟨_, rfl, .inr (Nat.lt_succ_self _)⟩
      next => exact ⟨found, hfound, .inl rfl⟩
  next => exact h

theorem good_step {label : ResourceLabel} (h : Good engine s)
    (hstep : (resourceSystem engine).step s label = some s') : Good engine s' := by
  cases label with
  | create id kind ownerScope data now =>
      obtain rfl := Option.some.inj hstep
      exact good_create h id kind ownerScope data now
  | read call =>
      dsimp only [resourceSystem] at hstep
      split at hstep
      next update hplan =>
        obtain rfl := Option.some.inj hstep
        refine ⟨h.continues, h.current, h.stored, fun other hother => ?_⟩
        rcases List.mem_append.mp hother with hold | hnew
        · exact (h.pending other hold).mono fun id row hrow => ⟨row, hrow, .inl rfl⟩
        · obtain rfl := List.mem_singleton.mp hnew
          obtain ⟨⟨hget, hversion, -⟩, rfl, hnormalized⟩ := of_plan hplan
          have hfound := (Option.filter_eq_some_iff.mp hget).1
          have hid := (Table.get?_eq_some_iff.mp hfound).2
          refine ⟨⟨hid.symm, hversion⟩, ⟨other.current, ?_, le_rfl, fun _ => ⟨rfl, rfl⟩⟩,
            hnormalized⟩
          show s.rows.get? other.current.id = _
          rw [hid]
          exact hfound
      next =>
        obtain rfl := Option.some.inj hstep
        exact h
  | write index now =>
      dsimp only [resourceSystem] at hstep
      split at hstep
      next => cases hstep
      next update hupdate =>
        obtain rfl := Option.some.inj hstep
        have hgood := good_write h (h.pending update (List.mem_of_getElem? hupdate)) now
        have hsamePending : (s.write update now).pending = s.pending := by
          unfold ResourceStore.write
          split
          · rfl
          · split
            · rfl
            · rfl
        refine ⟨hgood.continues, hgood.current, hgood.stored, fun other hother => ?_⟩
        have hmem := List.mem_of_mem_eraseIdx hother
        rw [← hsamePending] at hmem
        exact (hgood.pending other hmem).mono fun id row hrow => ⟨row, hrow, .inl rfl⟩

/-! ## Versions -/

theorem versionsOf_eq {log : List ResourceEvent} (h : Throughout (Continues engine) log)
    (id : String) : versionsOf id log
      = ((latest id log).map fun found => (List.range' 1 found.2.1).reverse).getD [] := by
  induction log with
  | nil => rfl
  | cons event earlier ih =>
      obtain ⟨hevent, hearlier⟩ := h
      have hbefore := ih hearlier
      cases event with
      | created other kind data =>
          unfold versionsOf latest
          split
          next hother =>
            subst hother
            have hnone : latest other earlier = none := hevent
            rw [hbefore, hnone]
            rfl
          next => exact hbefore
      | updated other version patch data =>
          unfold versionsOf latest
          split
          next hother =>
            subst hother
            obtain ⟨kind, previous, base, adapter, patched, hlatest, rfl, -⟩ := hevent
            rw [hbefore, hlatest]
            simp [List.range'_concat, Nat.add_comm]
          next => exact hbefore

theorem Good.linear (h : Good engine s) : Linear engine s where
  continues := h.continues
  current := h.current
  versions row hrow := by
    rw [versionsOf_eq h.continues, ← h.current, Table.get?_of_mem hrow]
    rfl
  fixed row hrow := by
    obtain ⟨adapter, hadapter, hstored⟩ := h.stored row hrow
    obtain ⟨reads, hlawful⟩ := lawful_of_adapterOf hadapter
    exact ⟨adapter, hadapter, hstored.fixed hlawful⟩

/-! ## Runs -/

/-- In a store that is good, an update is accepted as it should be exactly if it gives no half of
the quiet hours with which the policy is valid. -/
theorem acceptsValid_iff (h : Good engine s) (label : ResourceLabel) :
    AcceptsValid engine s label ↔ NoValidHalf engine s label := by
  unfold AcceptsValid NoValidHalf
  refine forall_congr' fun call => forall_congr' fun _ => forall_congr' fun row =>
    forall_congr' fun hexpects => ?_
  have hmem : row ∈ s.rows.rows :=
    (Table.get?_eq_some_iff.mp (Option.filter_eq_some_iff.mp hexpects.1).1).1
  obtain ⟨adapter, hadapter, hstored⟩ := h.stored row hmem
  have hvalid : ValidFor engine row.kind (laidOver row.data call.patch)
      ↔ Valid adapter (laidOver row.data call.patch) := by
    constructor
    · rintro ⟨other, hother, hvalid⟩
      rw [hadapter] at hother
      obtain rfl := Option.some.inj hother
      exact hvalid
    · exact fun hvalid => ⟨adapter, hadapter, hvalid⟩
  have hplan : (∃ update, s.plan engine call = .ok update)
      ↔ Accepted adapter row.data call.patch := by
    constructor
    · rintro ⟨update, hplan⟩
      obtain ⟨hexpects', -, other, patched, hother, hpatched, hdata⟩ := of_plan hplan
      have hsame : update.current = row :=
        Option.some.inj (hexpects'.1.symm.trans hexpects.1)
      rw [hsame] at hother hdata
      rw [hadapter] at hother
      obtain rfl := Option.some.inj hother
      exact ⟨patched, update.data, hpatched, hdata⟩
    · exact plan_of_accepted hexpects hadapter
  rw [hplan, hvalid, accepted_iff_valid hadapter hstored]
  tauto

/-- Updates are linear and keep the data valid in every run, and they are accepted exactly where
the whole is valid if and only if no patch gives half of the quiet hours of a policy with which it
is valid. -/
theorem updates_accepted_iff (engine : ResourceEngine) (labels : List ResourceLabel) :
    ((resourceSystem engine).Along (AcceptsValid engine) .start labels
        ∧ ∀ s ∈ (resourceSystem engine).run .start labels, Linear engine s)
      ↔ (resourceSystem engine).Along (NoValidHalf engine) .start labels := by
  have hkeeps : ∀ (cond : ResourceStore → ResourceLabel → Prop) s label s', Good engine s →
      cond s label → (resourceSystem engine).step s label = some s' → Good engine s' :=
    fun _ _ _ _ h _ hstep => good_step h hstep
  have hlinear : ∀ s ∈ (resourceSystem engine).run .start labels, Linear engine s := by
    intro s hs
    exact (System.run_preserves (resourceSystem engine) (fun _ _ _ h hstep => good_step h hstep)
      good_start hs).linear
  constructor
  · rintro ⟨haccepts, -⟩
    exact (resourceSystem engine).along_of_invariant (hkeeps _)
      (fun s label h haccepts => (acceptsValid_iff h label).mp haccepts) good_start haccepts
  · intro hhalf
    exact ⟨(resourceSystem engine).along_of_invariant (hkeeps _)
      (fun s label h hhalf => (acceptsValid_iff h label).mpr hhalf) good_start hhalf, hlinear⟩

end

/-! ## A patch of one quiet hour -/

/-- No dates and no zones; the digits of ASCII. -/
def plainResources : ResourceEngine where
  fromIsoFormat _ := none
  zoneKnown _ := false
  digit c := if '0'.toNat ≤ c.toNat ∧ c.toNat ≤ '9'.toNat then some (c.toNat - '0'.toNat) else none
  digit_lt c n h := by
    split at h
    next hrange =>
      obtain rfl := Option.some.inj h
      have hzero : '0'.toNat = 48 := rfl
      have hnine : '9'.toNat = 57 := rfl
      omega
    next => cases h
  digit_ascii := by decide

/-- A policy with quiet hours, and an update that moves their start. -/
def movedStart : List ResourceLabel :=
  [.create "policy" "attention_policy" "actor" [("channel", .str "weixin"),
      ("quiet_hours_start", .str "22:00"), ("quiet_hours_end", .str "08:00")] 0,
    .read ⟨"policy", ["actor"], [("quiet_hours_start", .str "23:00")], 1, ""⟩]

/-- It is refused, though the policy is valid with it. -/
theorem moved_start_is_refused :
    ¬ (resourceSystem plainResources).Along (AcceptsValid plainResources) .start movedStart := by
  intro h
  have hread := (h.2 _ rfl).1 _ rfl
  have hrow : Expects (ResourceStore.create plainResources .start "policy" "attention_policy"
      "actor" [("channel", .str "weixin"), ("quiet_hours_start", .str "22:00"),
        ("quiet_hours_end", .str "08:00")] 0)
      ⟨"policy", ["actor"], [("quiet_hours_start", .str "23:00")], 1, ""⟩
      ⟨"policy", "attention_policy", "actor", "active", [("quiet_hours_end", .str "08:00"),
        ("quiet_hours_start", .str "22:00"), ("channel", .str "weixin")], 1, 0, 0⟩ := by
    unfold Expects
    decide +kernel
  obtain ⟨update, hplan⟩ := (hread _ hrow).mpr
    ⟨attentionPolicyAdapter plainResources, rfl, _, rfl⟩
  have hrefused : (ResourceStore.plan plainResources
      (ResourceStore.create plainResources .start "policy" "attention_policy" "actor"
        [("channel", .str "weixin"), ("quiet_hours_start", .str "22:00"),
          ("quiet_hours_end", .str "08:00")] 0)
      ⟨"policy", ["actor"], [("quiet_hours_start", .str "23:00")], 1, ""⟩).toOption = none := by
    decide +kernel
  rw [hplan] at hrefused
  cases hrefused

end Navi.Personal
