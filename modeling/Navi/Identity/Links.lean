import Mathlib
import Navi.Base.System
import Navi.Memory.Items

/-!
# Links between identities

An alias is linked to another one by a request of the one and a confirmation of the other, which
names the code of the request. The rows keep digests of aliases and codes. A confirmation gives
both aliases one identity and moves the memory of both into its scope.
-/

namespace Navi.Identity

open Navi.Base Navi.Memory

/-- What separates the parts of a digest. -/
def nul : Char := Char.ofNat 0

/-- An alias, by where its messages come from. -/
structure Alias where
  source : String
  peerId : String
  senderId : String
  source_plain : nul ∉ source.toList
  peerId_plain : nul ∉ peerId.toList
  senderId_plain : nul ∉ senderId.toList

/-- What the store rests on: a collision free `sha256`, identifiers that `uuid4` makes but once,
and the codes of `token_urlsafe`. -/
structure IdentityEngine where
  sha256 : List Char → String
  sha256_injective : Function.Injective sha256
  uuid : Nat → String
  uuid_injective : Function.Injective uuid
  uuid_ne : ∀ n, uuid n ≠ ""
  token : Nat → String

/-- `_digest`. -/
def IdentityEngine.digest (engine : IdentityEngine) (parts : List String) : String :=
  engine.sha256 ([nul].intercalate (parts.map String.toList))

/-- The first characters of a digest. -/
def fingerprint (digest : String) : String := String.ofList (digest.toList.take 24)

/-- `identity_alias_key`. -/
def identityAliasKey (engine : IdentityEngine) (a : Alias) : String :=
  if a.source = "" ∧ a.peerId = "" ∧ a.senderId = "" then ""
  else engine.digest ["alias", a.source, a.peerId, a.senderId]

/-- `actor_memory_scope`. -/
def actorMemoryScope (engine : IdentityEngine) (a : Alias) : String :=
  "actor:" ++ fingerprint (engine.digest [a.source, a.peerId, a.senderId])

/-- `identity_memory_scope`. -/
def identityMemoryScope (engine : IdentityEngine) (identityId : String) : String :=
  "person:" ++ fingerprint (engine.digest [identityId])

/-- The digest of a verification code. -/
def codeHash (engine : IdentityEngine) (code : String) : String :=
  engine.digest ["identity-link", code]

/-! ## Rows -/

/-- A row of `identity_aliases`. -/
structure AliasRow where
  aliasKey : String
  identityId : String
  source : String
  createdAt : Time
  updatedAt : Time
  deriving DecidableEq

inductive LinkStatus where
  | pending | superseded | completed
  deriving DecidableEq

/-- A row of `identity_link_requests`. -/
structure LinkRequest where
  requestId : String
  codeHash : String
  currentAliasKey : String
  currentSource : String
  currentActorScope : String
  otherAliasKey : String
  otherSource : String
  otherActorScope : String
  status : LinkStatus
  expiresAt : Time
  createdAt : Time
  updatedAt : Time
  deriving DecidableEq

/-- The store with the memory items beside it; `drawn` counts what was drawn of `uuid4`. -/
structure IdentityStore where
  aliases : Table String AliasRow (·.aliasKey)
  /-- `code_hash` is unique. -/
  requests : Table String LinkRequest (·.codeHash)
  items : Table String MemoryItem (·.id)
  drawn : Nat

def supersedeRow (now : Time) (row : LinkRequest) : LinkRequest :=
  { row with status := .superseded, updatedAt := now }

theorem supersedeRow_codeHash (now : Time) (row : LinkRequest) :
    (supersedeRow now row).codeHash = row.codeHash := rfl

def completeRow (now : Time) (row : LinkRequest) : LinkRequest :=
  { row with status := .completed, updatedAt := now }

theorem completeRow_codeHash (now : Time) (row : LinkRequest) :
    (completeRow now row).codeHash = row.codeHash := rfl

def moveItem (scope : String) (now : Time) (item : MemoryItem) : MemoryItem :=
  { item with scope := scope, updatedAt := .float now }

theorem moveItem_id (scope : String) (now : Time) (item : MemoryItem) :
    (moveItem scope now item).id = item.id := rfl

/-- `INSERT ... ON CONFLICT(alias_key) DO UPDATE SET updated_at`. -/
def linkAlias (aliases : Table String AliasRow (·.aliasKey)) (new : AliasRow) :
    Table String AliasRow (·.aliasKey) :=
  match aliases.get? new.aliasKey with
  | some old => aliases.replace { old with updatedAt := new.updatedAt }
  | none => aliases.insertOrIgnore new

/-! ## Operations -/

inductive IdentityReply where
  | requested (requestId code : String) (expiresAt : Time)
  | confirmed (identityId : String) (migrated : Nat)
  | unlinked (removed : Bool)
  | raised (message : String)
  deriving DecidableEq

namespace IdentityStore

def start (items : Table String MemoryItem (·.id)) : IdentityStore := ⟨.empty, .empty, items, 0⟩

/-- The identity in the row of a key. -/
def identityAt (aliases : Table String AliasRow (·.aliasKey)) (key : String) : Option String :=
  (aliases.get? key).map (·.identityId)

/-- `resolve`. -/
def resolve (engine : IdentityEngine) (s : IdentityStore) (a : Alias) : String :=
  let key := identityAliasKey engine a
  if key = "" then "" else (identityAt s.aliases key).getD ""

def rowsOf (s : IdentityStore) (currentKey otherKey : String) : List AliasRow :=
  s.aliases.rows.filter fun row => row.aliasKey = currentKey ∨ row.aliasKey = otherKey

def identitiesOf (s : IdentityStore) (currentKey otherKey : String) : List String :=
  ((s.rowsOf currentKey otherKey).map (·.identityId)).dedup

/-- `request_link`. -/
def requestLink (engine : IdentityEngine) (s : IdentityStore) (current other : Alias)
    (ttlSeconds : Rat) (now : Time) : IdentityStore × IdentityReply :=
  let currentKey := identityAliasKey engine current
  let otherKey := identityAliasKey engine other
  if currentKey = "" ∨ otherKey = "" then
    (s, .raised "both identity aliases require source, peer_id, and sender_id")
  else if currentKey = otherKey then (s, .raised "identity aliases must be different")
  else
    let requestId := engine.uuid s.drawn
    let code := engine.token s.drawn
    -- both are drawn before the transaction
    let s := { s with drawn := s.drawn + 1 }
    let identities := s.identitiesOf currentKey otherKey
    if 1 < identities.length then
      (s, .raised "identity aliases are already linked to different people")
    else if (s.rowsOf currentKey otherKey).length = 2 ∧ identities.length = 1 then
      (s, .raised "identity aliases are already linked")
    else if s.requests.rows.any (fun row => row.requestId = requestId) then
      (s, .raised "UNIQUE constraint failed: identity_link_requests.request_id")
    else if (s.requests.get? (codeHash engine code)).isSome then
      (s, .raised "UNIQUE constraint failed: identity_link_requests.code_hash")
    else
      let superseded := s.requests.update (fun row => row.status = .pending
        ∧ row.currentAliasKey = currentKey ∧ row.otherAliasKey = otherKey) (supersedeRow now)
        (supersedeRow_codeHash now)
      let expiresAt := now + max 60 ttlSeconds
      ({ s with
          requests := superseded.insertOrIgnore
            { requestId := requestId
              codeHash := codeHash engine code
              currentAliasKey := currentKey
              currentSource := current.source
              currentActorScope := actorMemoryScope engine current
              otherAliasKey := otherKey
              otherSource := other.source
              otherActorScope := actorMemoryScope engine other
              status := .pending
              expiresAt := expiresAt
              createdAt := now
              updatedAt := now } },
        .requested requestId code expiresAt)

/-- The store after a request is confirmed under this identity. -/
def complete (engine : IdentityEngine) (s : IdentityStore) (request : LinkRequest)
    (identityId : String) (now : Time) : IdentityStore :=
  { aliases := linkAlias
      (linkAlias s.aliases ⟨request.currentAliasKey, identityId, request.currentSource, now, now⟩)
      ⟨request.otherAliasKey, identityId, request.otherSource, now, now⟩
    items := s.items.update
      (fun item => item.scope = request.currentActorScope ∨ item.scope = request.otherActorScope)
      (moveItem (identityMemoryScope engine identityId) now)
      (moveItem_id (identityMemoryScope engine identityId) now)
    requests := s.requests.update (fun row => row.requestId = request.requestId) (completeRow now)
      (completeRow_codeHash now)
    drawn := s.drawn + 1 }

/-- `confirm_link`. -/
def confirmLink (engine : IdentityEngine) (s : IdentityStore) (target : Alias) (code : String)
    (now : Time) : IdentityStore × IdentityReply :=
  let aliasKey := identityAliasKey engine target
  if aliasKey = "" ∨ code = "" then
    (s, .raised "confirmation requires a channel identity and verification code")
  else
    match s.requests.get? (codeHash engine code) with
    | none => (s, .raised "identity link verification code is invalid")
    | some request =>
        if request.status ≠ .pending then
          (s, .raised "identity link request is no longer pending")
        -- the status `expired` is rolled back with the transaction
        else if request.expiresAt ≤ now then
          (s, .raised "identity link verification code has expired")
        else if aliasKey ≠ request.otherAliasKey then
          (s, .raised "identity link must be confirmed from the target channel")
        else
          let identities := s.identitiesOf request.currentAliasKey request.otherAliasKey
          if 1 < identities.length then
            (s, .raised "identity aliases are already linked to different people")
          else
            let identityId := identities.head?.getD (engine.uuid s.drawn)
            (s.complete engine request identityId now,
              .confirmed identityId (s.items.rowcount fun item =>
                item.scope = request.currentActorScope ∨ item.scope = request.otherActorScope))

/-- `unlink_current`. -/
def unlinkCurrent (engine : IdentityEngine) (s : IdentityStore) (target : Alias) :
    IdentityStore × IdentityReply :=
  let aliasKey := identityAliasKey engine target
  if aliasKey = "" then (s, .unlinked false)
  else
    ({ s with aliases := s.aliases.delete fun row => row.aliasKey = aliasKey },
      .unlinked ((s.aliases.rowcount fun row => row.aliasKey = aliasKey) = 1))

end IdentityStore

/-- A call of the store, and when it is made. -/
inductive IdentityCall where
  | requestLink (current other : Alias) (ttlSeconds : Rat) (now : Time)
  | confirmLink (target : Alias) (code : String) (now : Time)
  | unlinkCurrent (target : Alias)

/-- The calls of any aliases, each in a transaction of its own. -/
def identityMachine (engine : IdentityEngine) :
    Machine IdentityStore IdentityCall IdentityReply where
  step s
    | .requestLink current other ttlSeconds now => s.requestLink engine current other ttlSeconds now
    | .confirmLink target code now => s.confirmLink engine target code now
    | .unlinkCurrent target => s.unlinkCurrent engine target

abbrev IdentityEvent := IdentityCall × IdentityReply

end Navi.Identity
