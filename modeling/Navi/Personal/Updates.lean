import Mathlib
import Navi.Base.History
import Navi.Base.Index
import Navi.Base.System
import Navi.Personal.Kinds

/-!
# Updates of personal resources

An update reads the resource, normalises what becomes of it and writes it back under the version
that it has read. The log has what was created and written, newest first.
-/

namespace Navi.Personal

open Navi.Base

/-- A row of `personal_resources`; its data is what `json.loads` gives back. -/
structure PersonalResource where
  id : String
  kind : String
  ownerScope : String
  status : String
  data : Dict
  version : Nat
  createdAt : Time
  updatedAt : Time
  deriving DecidableEq

structure UpdateCall where
  resourceId : String
  ownerScopes : List String
  patch : Dict
  expectedVersion : Int
  status : String
  deriving DecidableEq

/-- An update between its read and its write. -/
structure PendingUpdate where
  call : UpdateCall
  current : PersonalResource
  data : Dict
  targetStatus : String
  deriving DecidableEq

inductive ResourceEvent where
  | created (id kind : String) (data : Dict)
  | updated (id : String) (version : Nat) (patch data : Dict)
  deriving DecidableEq

/-- The table, the updates in flight and the log. -/
structure ResourceStore where
  rows : Table String PersonalResource (·.id)
  pending : List PendingUpdate
  log : List ResourceEvent

def writtenRow (update : PendingUpdate) (now : Time) (row : PersonalResource) : PersonalResource :=
  { row with
    data := update.data
    status := update.targetStatus
    version := row.version + 1
    updatedAt := now }

theorem writtenRow_id (update : PendingUpdate) (now : Time) (row : PersonalResource) :
    (writtenRow update now row).id = row.id := rfl

namespace ResourceStore

def start : ResourceStore := ⟨.empty, [], []⟩

/-- `get`. -/
def get (s : ResourceStore) (resourceId : String) (ownerScopes : List String) :
    Option PersonalResource :=
  (s.rows.get? resourceId).filter fun row => ownerScopes.contains row.ownerScope

def targetStatus (call : UpdateCall) (current : PersonalResource) : String :=
  if call.status = "" then current.status else call.status

/-- `update` up to its write. -/
def plan (engine : ResourceEngine) (s : ResourceStore) (call : UpdateCall) :
    Except String PendingUpdate :=
  match s.get call.resourceId call.ownerScopes with
  | none => .error "personal resource not found"
  | some current =>
      if call.expectedVersion ≠ current.version then
        .error ("personal resource version changed: expected " ++ toString call.expectedVersion
          ++ ", current " ++ toString current.version)
      else
        match adapterOf engine current.kind with
        | none => .error ("unsupported personal resource kind: " ++ current.kind)
        | some adapter => do
            let normalizedPatch ← adapter.normalize true call.patch
            let data ← adapter.normalize false (Dict.merge current.data normalizedPatch)
            if ["active", "completed", "deleted"].contains (targetStatus call current) = false then
              .error "personal resource status is invalid"
            else .ok ⟨call, current, data, targetStatus call current⟩

/-- The rows that the write of an update is about. -/
def isTarget (update : PendingUpdate) (row : PersonalResource) : Bool :=
  row.id = update.call.resourceId ∧ row.ownerScope = update.current.ownerScope
    ∧ (row.version : Int) = update.call.expectedVersion

/-- The write of `update`; a conflict changes nothing. -/
def write (s : ResourceStore) (update : PendingUpdate) (now : Time) : ResourceStore :=
  match s.rows.get? update.call.resourceId with
  | none => s
  | some row =>
      if isTarget update row then
        { s with
          rows := s.rows.update (isTarget update) (writtenRow update now) (writtenRow_id update now)
          log := .updated row.id (row.version + 1) update.call.patch update.data :: s.log }
      else s

/-- `create`; it changes nothing where it raises. -/
def create (engine : ResourceEngine) (s : ResourceStore) (id kind ownerScope : String)
    (data : Dict) (now : Time) : ResourceStore :=
  match adapterOf engine kind with
  | none => s
  | some adapter =>
      match adapter.normalize false data, s.rows.get? id with
      | .ok normalized, none =>
          { s with
            rows := s.rows.insertOrIgnore ⟨id, kind, ownerScope, "active", normalized, 1, now, now⟩
            log := .created id kind normalized :: s.log }
      | _, _ => s

end ResourceStore

inductive ResourceLabel where
  | create (id kind ownerScope : String) (data : Dict) (now : Time)
  | read (call : UpdateCall)
  | write (index : Nat) (now : Time)

/-- Calls of the store at their transactions. -/
def resourceSystem (engine : ResourceEngine) : System ResourceStore ResourceLabel where
  step s
    | .create id kind ownerScope data now => some (s.create engine id kind ownerScope data now)
    | .read call =>
        match s.plan engine call with
        | .ok update => some { s with pending := s.pending ++ [update] }
        | .error _ => some s
    | .write index now =>
        match s.pending[index]? with
        | none => none
        | some update =>
            some { s.write update now with pending := s.pending.eraseIdx index }

/-! ## The log -/

/-- The kind, the version and the data that a log leaves of a resource. -/
def latest (id : String) : List ResourceEvent → Option (String × Nat × Dict)
  | [] => none
  | .created other kind data :: earlier =>
      if other = id then some (kind, 1, data) else latest id earlier
  | .updated other version _ data :: earlier =>
      if other = id then (latest id earlier).map fun found => (found.1, version, data)
      else latest id earlier

/-- The versions that a log produces of a resource, newest first. -/
def versionsOf (id : String) : List ResourceEvent → List Nat
  | [] => []
  | .created other _ _ :: earlier =>
      if other = id then 1 :: versionsOf id earlier else versionsOf id earlier
  | .updated other version _ _ :: earlier =>
      if other = id then version :: versionsOf id earlier else versionsOf id earlier

/-- An event creates a resource, or takes it from its latest version to the next: the data is that
of this version with the patch laid over it. -/
def Continues (engine : ResourceEngine) (earlier : List ResourceEvent) : ResourceEvent → Prop
  | .created id _ _ => latest id earlier = none
  | .updated id version patch data =>
      ∃ kind previous base adapter patched, latest id earlier = some (kind, previous, base)
        ∧ version = previous + 1 ∧ adapterOf engine kind = some adapter
        ∧ adapter.normalize true patch = .ok patched
        ∧ adapter.normalize false (Dict.merge base patched) = .ok data

/-- Every version was produced once, from the one before it, and what is stored is valid and what
normalising makes of it. -/
structure Linear (engine : ResourceEngine) (s : ResourceStore) : Prop where
  continues : Throughout (Continues engine) s.log
  current : ∀ id, (s.rows.get? id).map (fun row => (row.kind, row.version, row.data))
    = latest id s.log
  versions : ∀ row ∈ s.rows.rows, versionsOf row.id s.log = (List.range' 1 row.version).reverse
  fixed : ∀ row ∈ s.rows.rows, ∃ adapter, adapterOf engine row.kind = some adapter
    ∧ ∃ d', adapter.normalize false row.data = .ok d' ∧ SameFields d' row.data

def ValidFor (engine : ResourceEngine) (kind : String) (data : Dict) : Prop :=
  ∃ adapter, adapterOf engine kind = some adapter ∧ Valid adapter data

/-- An update that finds its resource at the version it expects, and sets a status that there is. -/
def Expects (s : ResourceStore) (call : UpdateCall) (row : PersonalResource) : Prop :=
  s.get call.resourceId call.ownerScopes = some row ∧ call.expectedVersion = row.version
    ∧ ["active", "completed", "deleted"].contains (ResourceStore.targetStatus call row) = true

/-- It is accepted exactly where the stored data overlaid with the patch is valid. -/
def AcceptsValid (engine : ResourceEngine) (s : ResourceStore) (label : ResourceLabel) : Prop :=
  ∀ call, label = .read call → ∀ row, Expects s call row →
    ((∃ update, s.plan engine call = .ok update)
      ↔ ValidFor engine row.kind (laidOver row.data call.patch))

/-- No patch gives half of the quiet hours of a policy with which it is valid. -/
def NoValidHalf (engine : ResourceEngine) (s : ResourceStore) (label : ResourceLabel) : Prop :=
  ∀ call, label = .read call → ∀ row, Expects s call row →
    ¬ (HalfQuietHours row.kind call.patch
      ∧ ValidFor engine row.kind (laidOver row.data call.patch))

end Navi.Personal
