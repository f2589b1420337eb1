import Navi.Base.Dict
import Navi.Base.Index
import Navi.Base.System

/-!
# Workspace locks

`WorkspaceLockStore`: leases on resources that expire by themselves. What the table lists
is compared with what was granted and not given back.
-/

namespace Navi.Workspaces

open Navi.Base

/-! ## Locks -/

inductive LockMode where
  | read
  | write
  deriving DecidableEq

structure WorkspaceLock where
  ownerRunId : String
  resource : String
  mode : LockMode
  leaseExpiry : Time
  deriving DecidableEq

/-- `active`. -/
def WorkspaceLock.Active (lock : WorkspaceLock) (now : Time) : Prop := now < lock.leaseExpiry

instance (lock : WorkspaceLock) (now : Time) : Decidable (lock.Active now) :=
  inferInstanceAs (Decidable (now < lock.leaseExpiry))

/-- `conflicts_with`. -/
def WorkspaceLock.conflictsWith (lock other : WorkspaceLock) (now : Time) : Bool :=
  if ¬ lock.Active now ∨ ¬ other.Active now then false
  else if lock.resource ≠ other.resource then false
  else if lock.ownerRunId = other.ownerRunId then false
  else lock.mode = .write ∨ other.mode = .write

structure LockAcquireResult where
  acquired : Bool
  lock : WorkspaceLock
  conflicts : List WorkspaceLock

/-! ## The store -/

/-- `workspace_locks`. -/
structure LockRow where
  id : String
  lock : WorkspaceLock
  acquiredAt : Time

/-- The columns that an owner that acquires again updates. -/
def LockRow.renewed (mode : LockMode) (leaseExpiry now : Time) (row : LockRow) : LockRow :=
  { row with
    lock := { row.lock with mode := mode, leaseExpiry := leaseExpiry }
    acquiredAt := now }

structure WorkspaceLockStore where
  table : Table String LockRow (·.id)

/-- The row of an owner on a resource. -/
def LockRow.isOf (ownerRunId resource : String) (row : LockRow) : Bool :=
  row.lock.ownerRunId = ownerRunId ∧ row.lock.resource = resource

def WorkspaceLockStore.locks (s : WorkspaceLockStore) : List WorkspaceLock :=
  s.table.rows.map (·.lock)

/-- `ORDER BY resource, lease_expiry`. -/
def WorkspaceLock.listedBefore (a b : WorkspaceLock) : Bool :=
  a.resource < b.resource ∨ a.resource = b.resource ∧ a.leaseExpiry ≤ b.leaseExpiry

/-- `list_active`, of one resource or of all. -/
def WorkspaceLockStore.listActive (s : WorkspaceLockStore) (resource : String) (now : Time) :
    List WorkspaceLock :=
  (s.locks.filter fun lock =>
    lock.Active now ∧ (resource ≠ "" → lock.resource = resource)).mergeSort
      WorkspaceLock.listedBefore

/-- What `acquire` raises: a check of its arguments, or the id that it draws is taken. -/
inductive AcquireRaised where
  | valueError (text : String)
  | integrityError
  deriving DecidableEq

/-- `DELETE FROM workspace_locks WHERE lease_expiry <= ?`. -/
def WorkspaceLockStore.purge (s : WorkspaceLockStore) (now : Time) : WorkspaceLockStore :=
  ⟨s.table.delete fun row => row.lock.leaseExpiry ≤ now⟩

/-- The upsert at the end of `acquire`, with the id that is drawn. -/
def WorkspaceLockStore.upsert (s : WorkspaceLockStore) (lock : WorkspaceLock) (id : String)
    (now : Time) : Option WorkspaceLockStore :=
  if s.table.rows.any (LockRow.isOf lock.ownerRunId lock.resource) then
    some ⟨s.table.update (LockRow.isOf lock.ownerRunId lock.resource)
      (·.renewed lock.mode lock.leaseExpiry now) fun _ => rfl⟩
  else if (s.table.get? id).isSome then none
  else some ⟨s.table.insertOrIgnore ⟨id, lock, now⟩⟩

/-- `acquire`. What it raises leaves the table as it was. -/
def WorkspaceLockStore.acquire (s : WorkspaceLockStore) (ownerRunId resource : String)
    (mode : LockMode) (ttlSeconds : Time) (id : String) (now : Time) :
    Except AcquireRaised LockAcquireResult × WorkspaceLockStore :=
  if strip ownerRunId = "" then (.error (.valueError "owner_run_id is required"), s)
  else if strip resource = "" then (.error (.valueError "resource is required"), s)
  else if ttlSeconds ≤ 0 then (.error (.valueError "ttl_seconds must be positive"), s)
  else
    let lock : WorkspaceLock := ⟨ownerRunId, resource, mode, now + ttlSeconds⟩
    let conflicts := ((s.purge now).listActive resource now).filter (·.conflictsWith lock now)
    if conflicts ≠ [] then (.ok ⟨false, lock, conflicts⟩, s.purge now)
    else match (s.purge now).upsert lock id now with
      | some s' => (.ok ⟨true, lock, []⟩, s')
      | none => (.error .integrityError, s)

/-- `release`, of one resource or of all that a run holds. -/
def WorkspaceLockStore.release (s : WorkspaceLockStore) (ownerRunId resource : String) :
    Nat × WorkspaceLockStore :=
  let guard : LockRow → Bool := fun row =>
    row.lock.ownerRunId = ownerRunId ∧ (resource ≠ "" → row.lock.resource = resource)
  (s.table.rowcount guard, ⟨s.table.delete guard⟩)

/-! ## What is held -/

/-- What each run was last granted on each resource and has not given back. -/
abbrev Holdings := String → String → Option WorkspaceLock

/-- The holdings after a call of `acquire`. -/
def Holdings.granted (held : Holdings) :
    Except AcquireRaised LockAcquireResult → Holdings
  | .ok result =>
      if result.acquired then fun ownerRunId resource =>
        if result.lock.ownerRunId = ownerRunId ∧ result.lock.resource = resource then
          some result.lock
        else held ownerRunId resource
      else held
  | .error _ => held

/-- The holdings after a call of `release`. -/
def Holdings.released (held : Holdings) (ownerRunId resource : String) : Holdings :=
  fun owner held' =>
    if owner = ownerRunId ∧ (resource ≠ "" → held' = resource) then none else held owner held'

/-- The store, what was granted, and the time of the last call. -/
structure LockState where
  store : WorkspaceLockStore
  held : Holdings
  clock : Time

def LockState.start (clock : Time) : LockState := ⟨⟨.empty⟩, fun _ _ => none, clock⟩

inductive LockLabel where
  | acquire (ownerRunId resource : String) (mode : LockMode) (ttlSeconds : Time) (id : String)
      (now : Time)
  | release (ownerRunId resource : String) (now : Time)

/-- Calls of any runs, in the order of their times. -/
def lockSystem : System LockState LockLabel where
  step s
    | .acquire ownerRunId resource mode ttlSeconds id now =>
        if s.clock ≤ now then
          let call := s.store.acquire ownerRunId resource mode ttlSeconds id now
          some ⟨call.2, s.held.granted call.1, now⟩
        else none
    | .release ownerRunId resource now =>
        if s.clock ≤ now then
          some ⟨(s.store.release ownerRunId resource).2, s.held.released ownerRunId resource, now⟩
        else none

/-- Two locks of different runs on one resource are both read locks. -/
def Compatible (a b : WorkspaceLock) : Prop :=
  a.ownerRunId ≠ b.ownerRunId → a.resource = b.resource → a.mode = .read ∧ b.mode = .read

/-- All of these are compatible with each other. -/
def Exclusive (locks : List WorkspaceLock) : Prop := ∀ a ∈ locks, ∀ b ∈ locks, Compatible a b

/-- An owner has one row on a resource. -/
def WorkspaceLockStore.Single (s : WorkspaceLockStore) : Prop :=
  s.table.UniqueOn (fun _ => True) fun row => (row.lock.ownerRunId, row.lock.resource)

section

variable {s s' : WorkspaceLockStore} {lock other : WorkspaceLock} {now : Time}

/-! ### Locks that conflict -/

theorem mode_not_write {mode : LockMode} : mode ≠ .write ↔ mode = .read := by
  cases mode <;> simp

theorem Compatible.symm {a b : WorkspaceLock} (h : Compatible a b) : Compatible b a :=
  fun howner hresource => (h howner.symm hresource.symm).symm

theorem conflictsWith_eq_false (hlock : lock.Active now) (hother : other.Active now) :
    lock.conflictsWith other now = false ↔ Compatible lock other := by
  unfold WorkspaceLock.conflictsWith Compatible
  rw [if_neg (by simp [hlock, hother])]
  by_cases hresource : lock.resource = other.resource
  · rw [if_neg (not_not.mpr hresource)]
    by_cases howner : lock.ownerRunId = other.ownerRunId
    · simp [howner]
    · rw [if_neg howner]
      simp [hresource, howner, mode_not_write]
  · simp [hresource]

/-! ### The statements by the locks they leave -/

theorem mem_locks : lock ∈ s.locks ↔ ∃ row ∈ s.table.rows, row.lock = lock := List.mem_map

theorem mem_listActive {resource : String} : lock ∈ s.listActive resource now
    ↔ lock ∈ s.locks ∧ lock.Active now ∧ (resource ≠ "" → lock.resource = resource) := by
  rw [WorkspaceLockStore.listActive, List.mem_mergeSort, List.mem_filter, decide_eq_true_iff]

theorem mem_purge : lock ∈ (s.purge now).locks ↔ lock ∈ s.locks ∧ lock.Active now := by
  simp only [mem_locks, WorkspaceLockStore.purge, Table.mem_delete, decide_eq_false_iff_not,
    not_le]
  constructor
  · rintro ⟨row, ⟨hrow, hactive⟩, rfl⟩
    exact ⟨⟨row, hrow, rfl⟩, hactive⟩
  · rintro ⟨⟨row, hrow, rfl⟩, hactive⟩
    exact ⟨row, ⟨hrow, hactive⟩, rfl⟩

theorem mem_release {ownerRunId resource : String} :
    lock ∈ (s.release ownerRunId resource).2.locks
      ↔ lock ∈ s.locks
        ∧ ¬ (lock.ownerRunId = ownerRunId ∧ (resource ≠ "" → lock.resource = resource)) := by
  simp only [mem_locks, WorkspaceLockStore.release, Table.mem_delete, decide_eq_false_iff_not]
  constructor
  · rintro ⟨row, ⟨hrow, hkept⟩, rfl⟩
    exact ⟨⟨row, hrow, rfl⟩, hkept⟩
  · rintro ⟨⟨row, hrow, rfl⟩, hkept⟩
    exact ⟨row, ⟨hrow, hkept⟩, rfl⟩

theorem upsert_rows {id : String} (h : s.upsert lock id now = some s') (hs : s.Single) :
    ∃ row, row.lock = lock ∧ ∀ row', row' ∈ s'.table.rows
      ↔ row' = row
        ∨ row' ∈ s.table.rows ∧ row'.isOf lock.ownerRunId lock.resource = false := by
  unfold WorkspaceLockStore.upsert at h
  split at h
  next hany =>
    obtain rfl := Option.some.inj h
    obtain ⟨old, hold, hisOf⟩ := List.any_eq_true.mp hany
    have hmine : old.lock.ownerRunId = lock.ownerRunId ∧ old.lock.resource = lock.resource :=
      of_decide_eq_true hisOf
    refine ⟨old.renewed lock.mode lock.leaseExpiry now, ?_, fun row' => ?_⟩
    · simp only [LockRow.renewed, hmine]
    · simp only [Table.update, Table.updateRows, List.mem_map]
      constructor
      · rintro ⟨row, hrow, rfl⟩
        split
        next hsame =>
          -- the row that is renewed is the only one
          have hmark : row.lock.ownerRunId = lock.ownerRunId
              ∧ row.lock.resource = lock.resource := of_decide_eq_true hsame
          have hone : row = old := hs row hrow old hold trivial trivial
            (Prod.ext (hmark.1.trans hmine.1.symm) (hmark.2.trans hmine.2.symm))
          exact .inl (by rw [hone])
        next hdiffers => exact .inr ⟨hrow, Bool.eq_false_iff.mpr hdiffers⟩
      · rintro (rfl | ⟨hrow, hdiffers⟩)
        · exact ⟨old, hold, if_pos hisOf⟩
        · exact ⟨row', hrow, if_neg (by rw [hdiffers]; exact Bool.false_ne_true)⟩
  next hnone =>
    split at h
    next => cases h
    next hfree =>
      obtain rfl := Option.some.inj h
      have hfresh : s.table.get? id = none := by simpa using hfree
      refine ⟨⟨id, lock, now⟩, rfl, fun row' => ?_⟩
      rw [@Table.mem_insertOrIgnore _ _ _ s.table _ row' ⟨id, lock, now⟩ hfresh, or_comm]
      refine or_congr_right ⟨fun hrow => ⟨hrow, ?_⟩, And.left⟩
      exact Bool.eq_false_iff.mpr fun hisOf => hnone (List.any_eq_true.mpr ⟨row', hrow, hisOf⟩)

/-! ### The calls -/

theorem conflicts_eq_nil {resource : String} (hlock : lock.Active now)
    (hasked : lock.resource = resource) :
    ((s.purge now).listActive resource now).filter (·.conflictsWith lock now) = []
      ↔ ∀ other ∈ s.locks, other.Active now → Compatible other lock := by
  rw [List.filter_eq_nil_iff]
  constructor
  · intro h other hmem hactive howner hsame
    have hlisted : other ∈ (s.purge now).listActive resource now :=
      mem_listActive.mpr ⟨mem_purge.mpr ⟨hmem, hactive⟩, hactive, fun _ => hsame.trans hasked⟩
    exact (conflictsWith_eq_false hactive hlock).mp (Bool.eq_false_iff.mpr (h other hlisted))
      howner hsame
  · intro h other hlisted
    obtain ⟨hmem, hactive, -⟩ := mem_listActive.mp hlisted
    rw [(conflictsWith_eq_false hactive hlock).mpr (h other (mem_purge.mp hmem).1 hactive)]
    exact Bool.false_ne_true

theorem acquire_eq_ok {ownerRunId resource : String} {mode : LockMode} {ttlSeconds : Time}
    {id : String} {result : LockAcquireResult}
    (h : s.acquire ownerRunId resource mode ttlSeconds id now = (.ok result, s')) :
    result.lock = ⟨ownerRunId, resource, mode, now + ttlSeconds⟩ ∧ result.lock.Active now
      ∧ (result.acquired = true
        ↔ ∀ other ∈ s.locks, other.Active now → Compatible other result.lock)
      ∧ (result.acquired = false → s' = s.purge now)
      ∧ (result.acquired = true → (s.purge now).upsert result.lock id now = some s') := by
  unfold WorkspaceLockStore.acquire at h
  split at h
  next => cases congrArg Prod.fst h
  split at h
  next => cases congrArg Prod.fst h
  next =>
    split at h
    next => cases congrArg Prod.fst h
    next httl =>
      have hactive : (⟨ownerRunId, resource, mode, now + ttlSeconds⟩ : WorkspaceLock).Active
          now := lt_add_of_pos_right now (not_le.mp httl)
      have hfree := @conflicts_eq_nil s _ now resource hactive rfl
      dsimp only at h
      split at h
      next hconflicts =>
        obtain ⟨hresult, rfl⟩ := Prod.mk.inj h
        obtain rfl := Except.ok.inj hresult
        refine ⟨rfl, hactive, ⟨fun hfalse => ?_, fun hcompatible => ?_⟩, fun _ => rfl,
          fun hfalse => ?_⟩
        · cases hfalse
        · exact absurd (hfree.mpr hcompatible) hconflicts
        · cases hfalse
      next hnone =>
        split at h
        next upserted hupserted =>
          obtain ⟨hresult, rfl⟩ := Prod.mk.inj h
          obtain rfl := Except.ok.inj hresult
          refine ⟨rfl, hactive, ⟨fun _ => hfree.mp (not_not.mp hnone), fun _ => rfl⟩,
            fun hfalse => ?_, fun _ => hupserted⟩
          cases hfalse
        next => cases congrArg Prod.fst h

theorem acquire_eq_error {ownerRunId resource : String} {mode : LockMode} {ttlSeconds : Time}
    {id : String} {raised : AcquireRaised}
    (h : s.acquire ownerRunId resource mode ttlSeconds id now = (.error raised, s')) :
    s' = s := by
  unfold WorkspaceLockStore.acquire at h
  split at h
  next => exact (congrArg Prod.snd h).symm
  split at h
  next => exact (congrArg Prod.snd h).symm
  split at h
  next => exact (congrArg Prod.snd h).symm
  dsimp only at h
  split at h
  next => cases congrArg Prod.fst h
  split at h
  next => cases congrArg Prod.fst h
  next => exact (congrArg Prod.snd h).symm

theorem acquire_returns {ownerRunId resource : String} (mode : LockMode) {ttlSeconds : Time}
    {id : String} (howner : strip ownerRunId ≠ "") (hresource : strip resource ≠ "")
    (httl : 0 < ttlSeconds) (hfresh : s.table.get? id = none) :
    ∃ result s', s.acquire ownerRunId resource mode ttlSeconds id now = (.ok result, s') := by
  have hpurged : (s.purge now).table.get? id = none := by
    cases hfound : (s.purge now).table.get? id with
    | none => rfl
    | some row =>
        obtain ⟨hrow, rfl⟩ := Table.get?_eq_some_iff.mp hfound
        rw [Table.get?_of_mem (Table.mem_delete.mp hrow).1] at hfresh
        cases hfresh
  unfold WorkspaceLockStore.acquire
  rw [if_neg howner, if_neg hresource, if_neg (not_le.mpr httl)]
  dsimp only
  split
  next => exact ⟨_, _, rfl⟩
  next =>
    split
    next => exact ⟨_, _, rfl⟩
    next hnone =>
      unfold WorkspaceLockStore.upsert at hnone
      split at hnone
      next => cases hnone
      next => simp [hpurged] at hnone

end

/-! ## Runs -/

/-- The locks of the table are compatible, the owner of each has no other on its resource,
and those that are active are those that are held. -/
structure LockState.Sound (s : LockState) : Prop where
  exclusive : Exclusive s.store.locks
  single : s.store.Single
  held : ∀ now, s.clock ≤ now → ∀ lock : WorkspaceLock,
    lock ∈ s.store.locks ∧ lock.Active now
      ↔ s.held lock.ownerRunId lock.resource = some lock ∧ lock.Active now

theorem start_sound (clock : Time) : (LockState.start clock).Sound where
  exclusive _ h := by cases h
  single _ h := by cases h
  held _ _ _ := by
    constructor
    · rintro ⟨h, -⟩
      cases h
    · rintro ⟨h, -⟩
      cases h

section

variable {s s' : LockState} {label : LockLabel}

theorem LockState.Sound.acquire {ownerRunId resource : String} {mode : LockMode}
    {ttlSeconds : Time} {id : String} {now : Time} {result : LockAcquireResult}
    {store : WorkspaceLockStore} (hs : s.Sound) (hclock : s.clock ≤ now)
    (h : s.store.acquire ownerRunId resource mode ttlSeconds id now = (.ok result, store)) :
    LockState.Sound ⟨store, s.held.granted (.ok result), now⟩
      ∧ (result.acquired = true → ∃ row, row.lock = result.lock ∧ ∀ row',
        row' ∈ store.table.rows ∧ row'.isOf ownerRunId resource ↔ row' = row) := by
  obtain ⟨hlock, hactive, hgranted, hrefused, hupserted⟩ := acquire_eq_ok h
  have hpurged : (s.store.purge now).Single := hs.single.delete
  cases hacquired : result.acquired with
  | false =>
      obtain rfl := hrefused hacquired
      refine ⟨⟨fun a ha b hb => hs.exclusive a (mem_purge.mp ha).1 b (mem_purge.mp hb).1, hpurged,
        fun later hlater lock => ?_⟩, fun hfalse => by cases hfalse⟩
      have hbefore := hs.held later (hclock.trans hlater) lock
      have hpast : lock.Active later → lock.Active now := fun h => hlater.trans_lt h
      simp only [Holdings.granted, hacquired, Bool.false_eq_true, if_false, mem_purge]
      rw [← hbefore]
      exact ⟨fun ⟨⟨hmem, _⟩, hlate⟩ => ⟨hmem, hlate⟩,
        fun ⟨hmem, hlate⟩ => ⟨⟨hmem, hpast hlate⟩, hlate⟩⟩
  | true =>
      obtain ⟨row, hrow, hrows⟩ := upsert_rows (hupserted hacquired) hpurged
      have hcompatible := hgranted.mp hacquired
      have hisOf : row.isOf result.lock.ownerRunId result.lock.resource = true :=
        decide_eq_true (by rw [hrow]; exact ⟨rfl, rfl⟩)
      -- a lock that is left is the new one, or an active one of another owner or resource
      have hlocks : ∀ lock : WorkspaceLock, lock ∈ store.locks ↔ lock = result.lock
          ∨ (lock ∈ s.store.locks ∧ lock.Active now)
            ∧ ¬ (lock.ownerRunId = result.lock.ownerRunId
              ∧ lock.resource = result.lock.resource) := by
        intro lock
        rw [← mem_purge, mem_locks, mem_locks]
        constructor
        · rintro ⟨row', hmem, rfl⟩
          rcases (hrows row').mp hmem with rfl | ⟨hold, hother⟩
          · exact .inl hrow
          · exact .inr ⟨⟨row', hold, rfl⟩, of_decide_eq_false hother⟩
        · rintro (rfl | ⟨⟨row', hold, rfl⟩, hother⟩)
          · exact ⟨row, (hrows row).mpr (.inl rfl), hrow⟩
          · exact ⟨row', (hrows row').mpr (.inr ⟨hold, decide_eq_false hother⟩), rfl⟩
      refine ⟨⟨fun a ha b hb => ?_, fun a ha b hb _ _ hmark => ?_, fun later hlater lock => ?_⟩,
        fun _ => ⟨row, hrow, fun row' => ?_⟩⟩
      · rcases (hlocks a).mp ha with rfl | ⟨⟨haOld, haActive⟩, -⟩
        · rcases (hlocks b).mp hb with rfl | ⟨⟨hbOld, hbActive⟩, -⟩
          · exact fun howner => absurd rfl howner
          · exact (hcompatible b hbOld hbActive).symm
        · rcases (hlocks b).mp hb with rfl | ⟨⟨hbOld, -⟩, -⟩
          · exact hcompatible a haOld haActive
          · exact hs.exclusive a haOld b hbOld
      · have hnone : ∀ row' ∈ store.table.rows, (row'.lock.ownerRunId, row'.lock.resource)
            = (row.lock.ownerRunId, row.lock.resource) → row' = row := by
          intro row' hmem hsame
          rcases (hrows row').mp hmem with rfl | ⟨-, hother⟩
          · rfl
          · rw [hrow] at hsame
            exact absurd (Prod.mk.inj hsame) (of_decide_eq_false hother)
        rcases (hrows a).mp ha with rfl | ⟨haOld, -⟩
        · exact (hnone b hb hmark.symm).symm
        · rcases (hrows b).mp hb with rfl | ⟨hbOld, -⟩
          · exact hnone a ha hmark
          · exact hpurged a haOld b hbOld trivial trivial hmark
      · have hbefore := hs.held later (hclock.trans hlater) lock
        have hpast : lock.Active later → lock.Active now := fun h => hlater.trans_lt h
        simp only [Holdings.granted, hacquired, if_true, hlocks]
        by_cases hsame : result.lock.ownerRunId = lock.ownerRunId
            ∧ result.lock.resource = lock.resource
        · rw [if_pos hsame, Option.some.injEq]
          simp only [hsame, and_self, not_true, and_false, or_false, eq_comm]
        · rw [if_neg hsame]
          have hnew : lock ≠ result.lock := by
            rintro rfl
            exact hsame ⟨rfl, rfl⟩
          have hother : ¬ (lock.ownerRunId = result.lock.ownerRunId
              ∧ lock.resource = result.lock.resource) := fun h => hsame ⟨h.1.symm, h.2.symm⟩
          rw [← hbefore]
          constructor
          · rintro ⟨hleft, hlate⟩
            rcases hleft with heq | ⟨⟨hmem, -⟩, -⟩
            · exact absurd heq hnew
            · exact ⟨hmem, hlate⟩
          · rintro ⟨hmem, hlate⟩
            exact ⟨.inr ⟨⟨hmem, hpast hlate⟩, hother⟩, hlate⟩
      · rw [hrows]
        rw [hlock] at hisOf hrows
        constructor
        · rintro ⟨heq | ⟨-, hother⟩, hmine⟩
          · exact heq
          · rw [hlock] at hother
            exact absurd hmine (by rw [hother]; exact Bool.false_ne_true)
        · rintro rfl
          exact ⟨.inl rfl, hisOf⟩

theorem LockState.Sound.release {ownerRunId resource : String} {now : Time} (hs : s.Sound)
    (hclock : s.clock ≤ now) :
    LockState.Sound ⟨(s.store.release ownerRunId resource).2,
      s.held.released ownerRunId resource, now⟩ where
  exclusive a ha b hb := hs.exclusive a (mem_release.mp ha).1 b (mem_release.mp hb).1
  single := hs.single.delete
  held later hlater lock := by
    have hbefore := hs.held later (hclock.trans hlater) lock
    simp only [mem_release, Holdings.released]
    by_cases hgiven : lock.ownerRunId = ownerRunId ∧ (resource ≠ "" → lock.resource = resource)
    · rw [if_pos hgiven]
      constructor
      · rintro ⟨⟨-, hkept⟩, -⟩
        exact absurd hgiven hkept
      · rintro ⟨hnone, -⟩
        cases hnone
    · rw [if_neg hgiven, ← hbefore]
      simp only [hgiven, not_false_iff, and_true]

theorem step_sound (hs : s.Sound) (h : lockSystem.step s label = some s') : s'.Sound := by
  cases label with
  | acquire ownerRunId resource mode ttlSeconds id now =>
      simp only [lockSystem] at h
      split at h
      next hclock =>
        obtain rfl := Option.some.inj h
        cases hcall : s.store.acquire ownerRunId resource mode ttlSeconds id now with
        | mk answer store =>
            cases answer with
            | ok result => exact (hs.acquire hclock hcall).1
            | error raised =>
                obtain rfl := acquire_eq_error hcall
                exact ⟨hs.exclusive, hs.single, fun later hlater => hs.held later
                  (hclock.trans hlater)⟩
      next => cases h
  | release ownerRunId resource now =>
      simp only [lockSystem] at h
      split at h
      next hclock =>
        obtain rfl := Option.some.inj h
        exact hs.release hclock
      next => cases h

end

/-- In every run, at every time, the active locks of the table are exclusive and are those
that are held; a call of `acquire` returns, it grants exactly if the locks stay exclusive
with the new one, and what it grants is the only lock of its owner on the resource. -/
theorem locks_exclusive (clock : Time) (labels : List LockLabel) (s : LockState)
    (h : lockSystem.run (.start clock) labels = some s) :
    (∀ now, s.clock ≤ now → Exclusive (s.store.listActive "" now)
        ∧ ∀ lock : WorkspaceLock, lock ∈ s.store.listActive "" now
          ↔ s.held lock.ownerRunId lock.resource = some lock ∧ lock.Active now)
      ∧ ∀ ownerRunId resource mode ttlSeconds id now, s.clock ≤ now →
        (strip ownerRunId ≠ "" → strip resource ≠ "" → 0 < ttlSeconds →
          s.store.table.get? id = none → ∃ result store,
            s.store.acquire ownerRunId resource mode ttlSeconds id now = (.ok result, store))
        ∧ ∀ result store,
          s.store.acquire ownerRunId resource mode ttlSeconds id now = (.ok result, store) →
          result.lock = ⟨ownerRunId, resource, mode, now + ttlSeconds⟩
            ∧ (result.acquired = true
              ↔ Exclusive (result.lock :: s.store.listActive "" now))
            ∧ (result.acquired = true → ∃ row, row.lock = result.lock ∧ ∀ row',
              row' ∈ store.table.rows ∧ row'.isOf ownerRunId resource ↔ row' = row) := by
  have hs : s.Sound := lockSystem.run_preserves (fun _ _ _ => step_sound) (start_sound clock) h
  refine ⟨fun now hnow => ⟨fun a ha b hb => ?_, fun lock => ?_⟩,
    fun ownerRunId resource mode ttlSeconds id now hclock =>
      ⟨fun howner hresource httl hfresh => acquire_returns mode howner hresource httl hfresh,
        fun result store hcall => ?_⟩⟩
  · exact hs.exclusive a (mem_listActive.mp ha).1 b (mem_listActive.mp hb).1
  · rw [← hs.held now hnow, mem_listActive]
    simp
  · obtain ⟨hlock, hactive, hgranted, -, -⟩ := acquire_eq_ok hcall
    refine ⟨hlock, ?_, (hs.acquire hclock hcall).2⟩
    rw [hgranted]
    constructor
    · intro hcompatible a ha b hb
      have hlisted : ∀ other ∈ s.store.listActive "" now, Compatible other result.lock :=
        fun other hother => hcompatible other (mem_listActive.mp hother).1
          (mem_listActive.mp hother).2.1
      rcases List.mem_cons.mp ha with rfl | haListed
      · rcases List.mem_cons.mp hb with rfl | hbListed
        · exact fun howner => absurd rfl howner
        · exact (hlisted b hbListed).symm
      · rcases List.mem_cons.mp hb with rfl | hbListed
        · exact hlisted a haListed
        · exact hs.exclusive a (mem_listActive.mp haListed).1 b (mem_listActive.mp hbListed).1
    · intro hexclusive other hother hotherActive
      refine hexclusive other (List.mem_cons_of_mem _ ?_) result.lock List.mem_cons_self
      exact mem_listActive.mpr ⟨hother, hotherActive, fun h => absurd rfl h⟩

/-- Two readers, one of them refused a write lock, and the same after the other gave its
lock back. -/
def upgrade : List LockLabel :=
  [.acquire "first" "workspace" .read 10 "a" 0, .acquire "second" "workspace" .read 10 "b" 1,
    .acquire "first" "workspace" .write 10 "c" 2, .release "second" "" 3,
    .acquire "first" "workspace" .write 10 "d" 4]

theorem locks_exclusive_upgrade : ∃ s : LockState,
    lockSystem.run (.start 0) upgrade = some s
      ∧ Exclusive (s.store.listActive "" 5) :=
  ⟨_, rfl, ((locks_exclusive 0 upgrade _ rfl).1 5 (by decide +kernel)).1⟩

end Navi.Workspaces
