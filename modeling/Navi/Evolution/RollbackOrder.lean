import Mathlib
import Navi.Base.System
import Navi.Evolution.ApplyCalls

/-!
# The order of rollbacks

A rollback restores what was recorded before its own apply, whatever was applied since. What the
target holds after a sequence of applies and rollbacks, in any order, and when no candidate that
was rolled back comes back.
-/

namespace Navi.Evolution

open Navi.Base

/-! ## Targets that are rolled back -/

/-- What `apply_proposal` does to a target, where it applies the candidate: the target that it
leaves, and what it records before. -/
def TargetPort.applied {τ : Type} (port : TargetPort τ) (target : τ) (before after : String)
    (now : Time) : Option (τ × String) := do
  let (target, current) ← port.read target now
  guard (current = before ∧ port.validate target after)
  let (target, current) ← port.read target now
  guard (current = before)
  let rollbackState ← port.snapshot target current
  let target ← port.apply target now after
  return (target, rollbackState)

/-- A target with the rollback of its adapter. A rollback leaves what was there before the apply,
if and only if that was restorable. -/
structure RollbackPort (τ : Type) extends TargetPort τ where
  rollback : τ → Time → String → Option τ
  /-- What holds of every target that is stored. -/
  Stored : τ → Prop
  /-- The two targets are the same, but for their times. -/
  Same : τ → τ → Prop
  /-- What a rollback restores exactly. -/
  Restorable : τ → Prop
  same : Equivalence Same
  stored_applied : ∀ target before after now left recorded, Stored target →
    toTargetPort.applied target before after now = some (left, recorded) → Stored left
  restores : ∀ base before after now left recorded, Stored base →
    toTargetPort.applied base before after now = some (left, recorded) →
    ∀ target later restored, Stored target → rollback target later recorded = some restored →
      Stored restored ∧ (Same base restored ↔ Restorable base)

/-! ## The runs -/

/-- An apply event: what it recorded and when it was rolled back, if it was. With it, the
target that it found and the apply whose candidate that held. -/
structure AppliedEvent (τ : Type) where
  id : String
  rollbackState : String
  rolledBackAt : Option Time
  base : τ
  previous : Option String

/-- `UPDATE evolution_events SET rolled_back_at` of one event. -/
def AppliedEvent.rolledBack {τ : Type} (eventId : String) (now : Time) (event : AppliedEvent τ) :
    AppliedEvent τ :=
  if event.id = eventId then { event with rolledBackAt := some now } else event

/-- One target, the events of its applied proposals, the newest first, and the one whose candidate
the target holds. -/
structure TargetHistory (τ : Type) where
  target : τ
  events : List (AppliedEvent τ)
  live : Option String

inductive HistoryLabel where
  /-- A proposal is applied. -/
  | apply (eventId before after : String) (now : Time)
  | rollback (eventId : String) (now : Time)

namespace TargetHistory

variable {τ : Type}

def start (target : τ) : TargetHistory τ where
  target := target
  events := []
  live := none

def event? (s : TargetHistory τ) (eventId : String) : Option (AppliedEvent τ) :=
  s.events.find? (·.id = eventId)

/-- The event under this id, where a rollback of it would restore. -/
def pending? (s : TargetHistory τ) (eventId : String) : Option (AppliedEvent τ) :=
  (s.event? eventId).filter (·.rolledBackAt = none)

def applied (s : TargetHistory τ) (eventId : String) (left : τ × String) : TargetHistory τ where
  target := left.1
  events := ⟨eventId, left.2, none, s.target, s.live⟩ :: s.events
  live := some eventId

/-- The state after a rollback that restores. -/
def restored (s : TargetHistory τ) (event : AppliedEvent τ) (now : Time) (target : τ) :
    TargetHistory τ where
  target := target
  events := s.events.map (·.rolledBack event.id now)
  live := event.previous

/-- `EvolutionEngine.rollback`: an event that is unknown or was rolled back restores nothing, and
where the adapter raises nothing is changed. -/
def rollback (port : RollbackPort τ) (s : TargetHistory τ) (eventId : String) (now : Time) :
    TargetHistory τ :=
  match s.pending? eventId with
  | none => s
  | some event => (port.rollback s.target now event.rollbackState).elim s (s.restored event now)

end TargetHistory

/-- The applies and rollbacks of one target: events have ids of their own. -/
def historySystem {τ : Type} (port : RollbackPort τ) : System (TargetHistory τ) HistoryLabel where
  step s
    | .apply eventId before after now =>
        if (s.event? eventId).isNone then
          (port.applied s.target before after now).map (s.applied eventId)
        else none
    | .rollback eventId now => some (s.rollback port eventId now)

/-! ## What is claimed -/

variable {τ : Type}

/-- The target does not hold a candidate that was rolled back, and where all were rolled back it is
what it was at first. -/
structure StaysRolledBack (port : RollbackPort τ) (first : τ) (s : TargetHistory τ) : Prop where
  gone : ∀ event ∈ s.events, s.live = some event.id → event.rolledBackAt = none
  first : (∀ event ∈ s.events, event.rolledBackAt ≠ none) → port.Same first s.target

/-- A rollback that restores is of an event whose predecessor was not rolled back and, where it is
the last one, whose target was restorable. -/
def PredecessorHeld (port : RollbackPort τ) (s : TargetHistory τ) : HistoryLabel → Prop
  | .apply .. => True
  | .rollback eventId now =>
      ∀ event ∈ s.pending? eventId, (port.rollback s.target now event.rollbackState).isSome →
        (∀ other ∈ s.events, event.previous = some other.id → other.rolledBackAt = none)
          ∧ ((∀ other ∈ s.events, other.id ≠ eventId → other.rolledBackAt ≠ none) →
            port.Restorable event.base)

/-! ## The invariant -/

/-- The events that were not rolled back stand on one another, the newest first. -/
def Stacked (port : RollbackPort τ) (first : τ) : List (AppliedEvent τ) → Prop
  | [] => True
  | event :: rest =>
      event.previous = rest.head?.map (·.id) ∧ (rest = [] → port.Same first event.base)
        ∧ Stacked port first rest

namespace TargetHistory

/-- The events that were not rolled back. -/
def standing (s : TargetHistory τ) : List (AppliedEvent τ) :=
  s.events.filter (·.rolledBackAt = none)

/-- An event that was not rolled back stands on one that was. -/
def Overtaken (s : TargetHistory τ) : Prop :=
  ∃ event ∈ s.events, event.rolledBackAt = none
    ∧ ∃ other ∈ s.events, event.previous = some other.id ∧ other.rolledBackAt ≠ none

/-- Every event has its own id, stands on an event that is known and recorded what restores its
base. Either an event was overtaken, or those that were not rolled back are a stack. -/
structure Ordered (port : RollbackPort τ) (first : τ) (s : TargetHistory τ) : Prop where
  ids : (s.events.map (·.id)).Nodup
  stored : port.Stored s.target
  held : ∀ id ∈ s.live, id ∈ s.events.map (·.id)
  known : ∀ event ∈ s.events, ∀ id ∈ event.previous, id ≠ event.id ∧ id ∈ s.events.map (·.id)
  recorded : ∀ event ∈ s.events, port.Stored event.base
    ∧ ∃ before after now left,
      port.applied event.base before after now = some (left, event.rollbackState)
  stack : s.Overtaken ∨ Stacked port first s.standing
    ∧ s.live = s.standing.head?.map (·.id)
    ∧ (s.standing = [] → port.Same first s.target)

end TargetHistory

section

variable {port : RollbackPort τ} {first : τ} {s s' : TargetHistory τ}

/-! ### Events -/

@[simp] theorem rolledBack_id (eventId : String) (now : Time) (event : AppliedEvent τ) :
    (event.rolledBack eventId now).id = event.id := by
  unfold AppliedEvent.rolledBack
  split <;> rfl

@[simp] theorem rolledBack_previous (eventId : String) (now : Time) (event : AppliedEvent τ) :
    (event.rolledBack eventId now).previous = event.previous := by
  unfold AppliedEvent.rolledBack
  split <;> rfl

@[simp] theorem rolledBack_base (eventId : String) (now : Time) (event : AppliedEvent τ) :
    (event.rolledBack eventId now).base = event.base := by
  unfold AppliedEvent.rolledBack
  split <;> rfl

@[simp] theorem rolledBack_state (eventId : String) (now : Time) (event : AppliedEvent τ) :
    (event.rolledBack eventId now).rollbackState = event.rollbackState := by
  unfold AppliedEvent.rolledBack
  split <;> rfl

theorem rolledBack_of_ne {eventId : String} {event : AppliedEvent τ} (h : event.id ≠ eventId)
    (now : Time) : event.rolledBack eventId now = event := if_neg h

theorem rolledBack_stands {eventId : String} {now : Time} {event : AppliedEvent τ} :
    (event.rolledBack eventId now).rolledBackAt = none
      ↔ event.id ≠ eventId ∧ event.rolledBackAt = none := by
  by_cases hid : event.id = eventId
  · rw [AppliedEvent.rolledBack, if_pos hid]
    exact iff_of_false nofun fun h => h.1 hid
  · rw [rolledBack_of_ne hid]
    exact (and_iff_right hid).symm

theorem of_pending {eventId : String} {event : AppliedEvent τ}
    (h : s.pending? eventId = some event) :
    event ∈ s.events ∧ event.id = eventId ∧ event.rolledBackAt = none := by
  obtain ⟨hfound, hstands⟩ := Option.filter_eq_some_iff.mp h
  exact ⟨List.mem_of_find?_eq_some hfound, by simpa using List.find?_some hfound,
    by simpa using hstands⟩

theorem not_mem_of_fresh {eventId : String} (h : (s.event? eventId).isNone = true) :
    ∀ event ∈ s.events, event.id ≠ eventId := by
  intro event hevent
  have hnone := List.find?_eq_none.mp (Option.isNone_iff_eq_none.mp h) event hevent
  simpa using hnone

theorem of_rollback {eventId : String} {now : Time} :
    (∃ event left, s.pending? eventId = some event
        ∧ port.rollback s.target now event.rollbackState = some left
        ∧ s.rollback port eventId now = s.restored event now left)
      ∨ s.rollback port eventId now = s
        ∧ ∀ event ∈ s.pending? eventId,
          (port.rollback s.target now event.rollbackState).isSome = false := by
  unfold TargetHistory.rollback
  cases hpending : s.pending? eventId with
  | none => exact .inr ⟨rfl, nofun⟩
  | some event =>
      dsimp only
      cases hleft : port.rollback s.target now event.rollbackState with
      | none =>
          refine .inr ⟨rfl, fun other hother => ?_⟩
          obtain rfl := Option.some.inj hother
          rw [hleft]
          rfl
      | some left => exact .inl ⟨event, left, rfl, hleft, rfl⟩

theorem of_history_step {label : HistoryLabel} (h : (historySystem port).step s label = some s') :
    (∃ eventId before after now left, label = .apply eventId before after now
        ∧ (∀ event ∈ s.events, event.id ≠ eventId)
        ∧ port.applied s.target before after now = some left ∧ s' = s.applied eventId left)
      ∨ ∃ eventId now, label = .rollback eventId now ∧ s' = s.rollback port eventId now := by
  cases label with
  | apply eventId before after now =>
      obtain ⟨hfresh, h⟩ := Option.ite_none_right_eq_some.mp h
      obtain ⟨left, hleft, rfl⟩ := Option.map_eq_some_iff.mp h
      exact .inl ⟨eventId, before, after, now, left, rfl, not_mem_of_fresh hfresh, hleft, rfl⟩
  | rollback eventId now =>
      exact .inr ⟨eventId, now, rfl, (Option.some.inj h).symm⟩

/-! ### Stacks -/

theorem stacked_of_append {pre events : List (AppliedEvent τ)}
    (h : Stacked port first (pre ++ events)) : Stacked port first events := by
  induction pre with
  | nil => exact h
  | cons event pre ih => exact ih h.2.2

theorem standing_restored {event : AppliedEvent τ} (now : Time) (left : τ) :
    (s.restored event now left).standing = s.standing.filter (·.id ≠ event.id) := by
  unfold TargetHistory.standing TargetHistory.restored
  dsimp only
  induction s.events with
  | nil => rfl
  | cons other rest ih =>
      rw [List.map_cons, List.filter_cons, ih, List.filter_cons]
      by_cases hid : other.id = event.id
      · have hgone : (other.rolledBack event.id now).rolledBackAt ≠ none := fun hstands =>
          (rolledBack_stands.mp hstands).1 hid
        simp only [hgone, decide_false, Bool.false_eq_true, if_false]
        split
        · rw [List.filter_cons]
          simp [hid]
        · rfl
      · rw [rolledBack_of_ne hid]
        split
        · rw [List.filter_cons]
          simp [hid]
        · rfl

theorem mem_standing {event : AppliedEvent τ} :
    event ∈ s.standing ↔ event ∈ s.events ∧ event.rolledBackAt = none := by
  unfold TargetHistory.standing
  simp

theorem filter_rest {event : AppliedEvent τ} {rest : List (AppliedEvent τ)}
    (hids : ((event :: rest).map (·.id)).Nodup) :
    (event :: rest).filter (·.id ≠ event.id) = rest := by
  rw [List.map_cons, List.nodup_cons] at hids
  rw [List.filter_cons, if_neg (by simp), List.filter_eq_self]
  intro other hother
  have hne : other.id ≠ event.id := fun heq => hids.1 (List.mem_map.mpr ⟨other, hother, heq⟩)
  simpa using hne

namespace TargetHistory

theorem Ordered.eq_of_id (h : Ordered port first s) {event other : AppliedEvent τ}
    (hevent : event ∈ s.events) (hother : other ∈ s.events) (hid : event.id = other.id) :
    event = other :=
  List.inj_on_of_nodup_map h.ids hevent hother hid

theorem Ordered.standing_ids (h : Ordered port first s) : (s.standing.map (·.id)).Nodup :=
  h.ids.sublist (List.filter_sublist.map _)

theorem Ordered.start (hstored : port.Stored first) : Ordered port first (start first) where
  ids := List.nodup_nil
  stored := hstored
  held := nofun
  known := List.forall_mem_nil _
  recorded := List.forall_mem_nil _
  stack := .inr ⟨trivial, rfl, fun _ => port.same.refl first⟩

end TargetHistory

theorem staysRolledBack_start : StaysRolledBack port first (TargetHistory.start first) where
  gone := List.forall_mem_nil _
  first _ := port.same.refl first

/-! ### Applies -/

theorem ordered_applied {eventId before after : String} {now : Time} {left : τ × String}
    (h : s.Ordered port first) (hfresh : ∀ event ∈ s.events, event.id ≠ eventId)
    (hleft : port.applied s.target before after now = some left) :
    (s.applied eventId left).Ordered port first where
  ids := by
    refine List.nodup_cons.mpr ⟨fun hmem => ?_, h.ids⟩
    obtain ⟨event, hevent, hid⟩ := List.mem_map.mp hmem
    exact hfresh event hevent hid
  stored := port.stored_applied _ _ _ _ _ _ h.stored hleft
  held id hid := by
    obtain rfl := Option.some.inj hid
    exact List.mem_cons_self
  known event hevent id hid := by
    rcases List.mem_cons.mp hevent with rfl | hold
    · have hknown := h.held id hid
      refine ⟨?_, List.mem_cons_of_mem _ hknown⟩
      rintro rfl
      obtain ⟨other, hother, hother_id⟩ := List.mem_map.mp hknown
      exact hfresh other hother hother_id
    · obtain ⟨hne, hknown⟩ := h.known event hold id hid
      exact ⟨hne, List.mem_cons_of_mem _ hknown⟩
  recorded event hevent := by
    rcases List.mem_cons.mp hevent with rfl | hold
    · exact ⟨h.stored, before, after, now, left.1, hleft⟩
    · exact h.recorded event hold
  stack := by
    rcases h.stack with ⟨event, hevent, hstands, other, hother, hprevious, hgone⟩
      | ⟨hstacked, hlive, hfirst⟩
    · exact .inl ⟨event, List.mem_cons_of_mem _ hevent, hstands, other,
        List.mem_cons_of_mem _ hother, hprevious, hgone⟩
    · have hstanding : (s.applied eventId left).standing
          = ⟨eventId, left.2, none, s.target, s.live⟩ :: s.standing :=
        List.filter_cons_of_pos (by simp)
      rw [hstanding]
      exact .inr ⟨⟨hlive, hfirst, hstacked⟩, rfl, nofun⟩

theorem staysRolledBack_applied {eventId : String} {left : τ × String}
    (hfresh : ∀ event ∈ s.events, event.id ≠ eventId) :
    StaysRolledBack port first (s.applied eventId left) where
  gone event hevent hlive := by
    rcases List.mem_cons.mp hevent with rfl | hold
    · rfl
    · exact absurd (Option.some.inj hlive).symm (hfresh event hold)
  first hall := absurd rfl (hall _ List.mem_cons_self)

/-! ### Rollbacks -/

theorem previous_ne (h : s.Ordered port first) {event other : AppliedEvent τ}
    (hevent : event ∈ s.events) (hprevious : event.previous = some other.id) :
    other.id ≠ event.id :=
  (h.known event hevent other.id hprevious).1

theorem restores_event {event : AppliedEvent τ} {now : Time} {left : τ}
    (h : s.Ordered port first) (hevent : event ∈ s.events)
    (hleft : port.rollback s.target now event.rollbackState = some left) :
    port.Stored left ∧ (port.Same event.base left ↔ port.Restorable event.base) := by
  obtain ⟨hbase, before, after, applied, reached, happlied⟩ := h.recorded event hevent
  exact port.restores _ _ _ _ _ _ hbase happlied _ _ _ h.stored hleft

theorem mem_restored {event other : AppliedEvent τ} {now : Time} {left : τ} :
    other ∈ (s.restored event now left).events
      ↔ ∃ old ∈ s.events, old.rolledBack event.id now = other :=
  List.mem_map

theorem ordered_restored {event : AppliedEvent τ} {now : Time} {left : τ}
    (h : s.Ordered port first) (hevent : event ∈ s.events)
    (hstands : event.rolledBackAt = none)
    (hleft : port.rollback s.target now event.rollbackState = some left)
    (hprevious : ∀ other ∈ s.events, event.previous = some other.id → other.rolledBackAt = none)
    (hlast : (∀ other ∈ s.events, other.id ≠ event.id → other.rolledBackAt ≠ none) →
      port.Restorable event.base) :
    (s.restored event now left).Ordered port first where
  ids := by
    have hids : (s.events.map (·.rolledBack event.id now)).map (·.id) = s.events.map (·.id) := by
      rw [List.map_map]
      exact List.map_congr_left fun old _ => rolledBack_id event.id now old
    show ((s.events.map (·.rolledBack event.id now)).map (·.id)).Nodup
    rw [hids]
    exact h.ids
  stored := (restores_event h hevent hleft).1
  held id hid := by
    obtain ⟨old, hold, rfl⟩ := List.mem_map.mp (h.known event hevent id hid).2
    exact List.mem_map.mpr ⟨_, mem_restored.mpr ⟨old, hold, rfl⟩, rolledBack_id _ _ old⟩
  known other hother id hid := by
    obtain ⟨old, hold, rfl⟩ := mem_restored.mp hother
    rw [rolledBack_previous] at hid
    rw [rolledBack_id]
    obtain ⟨hne, hknown⟩ := h.known old hold id hid
    obtain ⟨below, hbelow, rfl⟩ := List.mem_map.mp hknown
    exact ⟨hne, List.mem_map.mpr
      ⟨_, mem_restored.mpr ⟨below, hbelow, rfl⟩, rolledBack_id _ _ below⟩⟩
  recorded other hother := by
    obtain ⟨old, hold, rfl⟩ := mem_restored.mp hother
    rw [rolledBack_base, rolledBack_state]
    exact h.recorded old hold
  stack := by
    rcases h.stack with ⟨top, htop, htopStands, other, hother, htopPrevious, hgone⟩
      | ⟨hstacked, -, -⟩
    · -- an event that was overtaken is not the one that is rolled back
      have hne : top.id ≠ event.id := by
        intro hid
        obtain rfl := h.eq_of_id htop hevent hid
        exact hgone (hprevious other hother htopPrevious)
      have hotherNe : other.id ≠ event.id := by
        intro hid
        obtain rfl := h.eq_of_id hother hevent hid
        exact hgone hstands
      exact .inl ⟨top, mem_restored.mpr ⟨top, htop, rolledBack_of_ne hne now⟩, htopStands, other,
        mem_restored.mpr ⟨other, hother, rolledBack_of_ne hotherNe now⟩, htopPrevious, hgone⟩
    · obtain ⟨pre, rest, hstanding⟩ := List.append_of_mem (mem_standing.mpr ⟨hevent, hstands⟩)
      rcases List.eq_nil_or_concat pre with rfl | ⟨pre, top, rfl⟩
      · -- the newest one: the target holds again what the one below it left
        rw [List.nil_append] at hstanding
        have hids := h.standing_ids
        rw [hstanding] at hstacked hids
        obtain ⟨hbelow, hbase, hrest⟩ := hstacked
        have hleftStanding : (s.restored event now left).standing = rest := by
          rw [standing_restored, hstanding]
          exact filter_rest hids
        rw [hleftStanding]
        refine .inr ⟨hrest, hbelow, fun hnil => ?_⟩
        have hothers : ∀ other ∈ s.events, other.id ≠ event.id → other.rolledBackAt ≠ none := by
          intro other hother hne hotherStands
          have hmem := mem_standing.mpr ⟨hother, hotherStands⟩
          rw [hstanding, hnil] at hmem
          exact hne (congrArg (·.id) (List.mem_singleton.mp hmem))
        have hexact := (restores_event h hevent hleft).2.mpr (hlast hothers)
        exact port.same.trans (hbase hnil) hexact
      · -- one further down: what stood on it is overtaken
        rw [List.concat_eq_append, List.append_assoc, List.singleton_append] at hstanding
        have htop : top ∈ s.standing := by
          rw [hstanding]
          exact List.mem_append_right _ List.mem_cons_self
        obtain ⟨htopMem, htopStands⟩ := mem_standing.mp htop
        rw [hstanding] at hstacked
        have htopPrevious : top.previous = some event.id := (stacked_of_append hstacked).1
        have hne : top.id ≠ event.id := (previous_ne h htopMem htopPrevious).symm
        have hgone : (event.rolledBack event.id now).rolledBackAt ≠ none := fun hback =>
          (rolledBack_stands.mp hback).1 rfl
        exact .inl ⟨top, mem_restored.mpr ⟨top, htopMem, rolledBack_of_ne hne now⟩, htopStands,
          _, mem_restored.mpr ⟨event, hevent, rfl⟩, by rwa [rolledBack_id], hgone⟩

/-- A rollback that restores leaves a target without a candidate that was rolled back, if and only
if the predecessor was not, and a last one is exact if and only if its target was restorable. -/
theorem staysRolledBack_restored_iff {event : AppliedEvent τ} {now : Time} {left : τ}
    (h : s.Ordered port first) (hevent : event ∈ s.events)
    (hstands : event.rolledBackAt = none)
    (hleft : port.rollback s.target now event.rollbackState = some left) :
    StaysRolledBack port first (s.restored event now left)
      ↔ (∀ other ∈ s.events, event.previous = some other.id → other.rolledBackAt = none)
        ∧ ((∀ other ∈ s.events, other.id ≠ event.id → other.rolledBackAt ≠ none) →
          port.Restorable event.base) := by
  have hheld : (∀ other ∈ (s.restored event now left).events,
        event.previous = some other.id → other.rolledBackAt = none)
      ↔ ∀ other ∈ s.events, event.previous = some other.id → other.rolledBackAt = none := by
    constructor
    · intro hall other hother hprevious
      have hne := previous_ne h hevent hprevious
      have hkept := hall other (mem_restored.mpr ⟨other, hother, rolledBack_of_ne hne now⟩)
      exact hkept hprevious
    · intro hall other hother hprevious
      obtain ⟨old, hold, rfl⟩ := mem_restored.mp hother
      rw [rolledBack_id] at hprevious
      rw [rolledBack_of_ne (previous_ne h hevent hprevious)]
      exact hall old hold hprevious
  have hothers : (∀ other ∈ (s.restored event now left).events, other.rolledBackAt ≠ none)
      ↔ ∀ other ∈ s.events, other.id ≠ event.id → other.rolledBackAt ≠ none := by
    constructor
    · intro hall other hother hne
      exact hall other (mem_restored.mpr ⟨other, hother, rolledBack_of_ne hne now⟩)
    · intro hall other hother hback
      obtain ⟨old, hold, rfl⟩ := mem_restored.mp hother
      obtain ⟨hne, hback⟩ := rolledBack_stands.mp hback
      exact hall old hold hne hback
  -- a last rollback that follows the order is of the first apply
  have hexact : (∀ other ∈ s.events, event.previous = some other.id → other.rolledBackAt = none) →
      (∀ other ∈ s.events, other.id ≠ event.id → other.rolledBackAt ≠ none) →
      (port.Same first left ↔ port.Restorable event.base) := by
    intro hprevious hall
    have hrestores := (restores_event h hevent hleft).2
    have hbase : port.Same first event.base := by
      rcases h.stack with ⟨top, htop, htopStands, other, hother, htopPrevious, hgone⟩
        | ⟨hstacked, -, -⟩
      · exfalso
        have htopEvent : top.id = event.id := by
          by_contra hne
          exact hall top htop hne htopStands
        obtain rfl := h.eq_of_id htop hevent htopEvent
        exact hgone (hprevious other hother htopPrevious)
      · have hsole : ∀ other ∈ s.standing, other = event := by
          intro other hother
          obtain ⟨hmem, hback⟩ := mem_standing.mp hother
          refine h.eq_of_id hmem hevent ?_
          by_contra hne
          exact hall other hmem hne hback
        obtain ⟨pre, rest, hstanding⟩ := List.append_of_mem (mem_standing.mpr ⟨hevent, hstands⟩)
        have hids := h.standing_ids
        rw [hstanding] at hstacked hids hsole
        obtain rfl : rest = [] := by
          rw [List.eq_nil_iff_forall_not_mem]
          intro other hother
          obtain rfl := hsole other (List.mem_append_right _ (List.mem_cons_of_mem _ hother))
          rw [List.map_append, List.nodup_append] at hids
          exact (List.nodup_cons.mp hids.2.1).1 (List.mem_map_of_mem hother)
        exact (stacked_of_append hstacked).2.1 rfl
    exact ⟨fun hsame => hrestores.mp (port.same.trans (port.same.symm hbase) hsame),
      fun hback => port.same.trans hbase (hrestores.mpr hback)⟩
  constructor
  · rintro ⟨hgone, hfirst⟩
    have hprevious := hheld.mp hgone
    exact ⟨hprevious, fun hall => (hexact hprevious hall).mp (hfirst (hothers.mpr hall))⟩
  · rintro ⟨hprevious, hlast⟩
    exact ⟨hheld.mpr hprevious, fun hall =>
      (hexact hprevious (hothers.mp hall)).mpr (hlast (hothers.mp hall))⟩

/-! ### Runs -/

theorem predecessorHeld_iff {eventId : String} {now : Time} {event : AppliedEvent τ} {left : τ}
    (hpending : s.pending? eventId = some event)
    (hleft : port.rollback s.target now event.rollbackState = some left) :
    PredecessorHeld port s (.rollback eventId now)
      ↔ (∀ other ∈ s.events, event.previous = some other.id → other.rolledBackAt = none)
        ∧ ((∀ other ∈ s.events, other.id ≠ event.id → other.rolledBackAt ≠ none) →
          port.Restorable event.base) := by
  obtain ⟨-, rfl, -⟩ := of_pending hpending
  simp only [PredecessorHeld, hpending, Option.mem_some_iff, forall_eq', hleft, Option.isSome_some,
    true_imp_iff]

theorem ordered_step {label : HistoryLabel} (h : s.Ordered port first)
    (hheld : PredecessorHeld port s label) (hstep : (historySystem port).step s label = some s') :
    s'.Ordered port first := by
  obtain ⟨eventId, before, after, now, left, rfl, hfresh, hleft, rfl⟩ | ⟨eventId, now, rfl, rfl⟩
    := of_history_step hstep
  · exact ordered_applied h hfresh hleft
  · obtain ⟨event, left, hpending, hleft, hrollback⟩ | ⟨hrollback, -⟩ :=
      @of_rollback _ port s eventId now
    · obtain ⟨hevent, -, hstands⟩ := of_pending hpending
      obtain ⟨hprevious, hlast⟩ := (predecessorHeld_iff hpending hleft).mp hheld
      rw [hrollback]
      exact ordered_restored h hevent hstands hleft hprevious hlast
    · rw [hrollback]
      exact h

theorem staysRolledBack_step_iff {label : HistoryLabel} (h : s.Ordered port first)
    (hstays : StaysRolledBack port first s)
    (hstep : (historySystem port).step s label = some s') :
    StaysRolledBack port first s' ↔ PredecessorHeld port s label := by
  obtain ⟨eventId, before, after, now, left, rfl, hfresh, hleft, rfl⟩ | ⟨eventId, now, rfl, rfl⟩
    := of_history_step hstep
  · exact iff_of_true (staysRolledBack_applied hfresh) trivial
  · obtain ⟨event, left, hpending, hleft, hrollback⟩ | ⟨hrollback, hraises⟩ :=
      @of_rollback _ port s eventId now
    · obtain ⟨hevent, -, hstands⟩ := of_pending hpending
      rw [hrollback, predecessorHeld_iff hpending hleft]
      exact staysRolledBack_restored_iff h hevent hstands hleft
    · rw [hrollback]
      refine iff_of_true hstays fun event hevent hsome => ?_
      rw [hraises event hevent] at hsome
      cases hsome

theorem enabled_of_not_predecessorHeld {label : HistoryLabel}
    (h : ¬ PredecessorHeld port s label) : ∃ s', (historySystem port).step s label = some s' := by
  cases label with
  | apply eventId before after now => exact absurd trivial h
  | rollback eventId now => exact ⟨s.rollback port eventId now, rfl⟩

/-- In every run of applies and rollbacks of one target, no state holds a candidate that was rolled
back and every state in which all were is as at first, if and only if every rollback that restores
is of an event whose predecessor was not rolled back, and a last one of a restorable target. -/
theorem rollback_order_iff (port : RollbackPort τ) (first : τ) (labels : List HistoryLabel) :
    port.Stored first →
      ((∀ n s, (historySystem port).run (.start first) (labels.take n) = some s →
          StaysRolledBack port first s)
        ↔ (historySystem port).Along (PredecessorHeld port) (.start first) labels) := fun hstored =>
  (historySystem port).run_good_along_iff
    (fun _ _ _ hordered hheld hstep => ordered_step hordered hheld hstep)
    (fun _ _ _ hordered hstays hstep => staysRolledBack_step_iff hordered hstays hstep)
    (fun _ _ hfails => enabled_of_not_predecessorHeld hfails)
    (TargetHistory.Ordered.start hstored) staysRolledBack_start labels

end

end Navi.Evolution
