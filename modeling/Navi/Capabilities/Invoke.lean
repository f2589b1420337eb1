import Navi.EffectJournal

/-!
# Invoking a capability

The second half of `CapabilityRegistry.invoke`: from the reservation of the effect
to the result, once the call has passed its checks, its approval and its hooks. What
the handler, the resource gateway, the audit log and a failing database do is an
answer of the world; the effect journal is the table of `Navi.EffectJournal`, which
other callers use between the statements of this one. The hook run after the call
does not raise and is left out.
-/

namespace Navi.Capabilities

open Navi.Base Navi.EffectJournal

/-- A Python exception, as far as `invoke` looks at it. An exception that is no
`Exception` (a cancellation, an interrupt) passes every `except Exception`. -/
structure PyError where
  typeName : String
  text : String
  isException : Bool

/-- `CapabilityResult`. -/
structure CapabilityResult where
  ok : Bool
  action : String
  message : String
  runId : String
  terminal : Bool
  facts : Option Dict
  provenance : String
  errorReason : String
  yieldsControl : Bool

/-- `asdict(result)`. -/
def CapabilityResult.toDict (result : CapabilityResult) : Dict :=
  [("ok", .bool result.ok), ("action", .str result.action), ("message", .str result.message),
    ("run_id", .str result.runId), ("terminal", .bool result.terminal),
    ("facts", (result.facts.map Json.obj).getD .null), ("provenance", .str result.provenance),
    ("error_reason", .str result.errorReason), ("yields_control", .bool result.yieldsControl)]

/-- `_capability_result_from_dict`. -/
def capabilityResultFromDict (value : Dict) : CapabilityResult where
  ok := value.flag "ok"
  action := if value.text "action" = "" then "error" else value.text "action"
  message := value.text "message"
  runId := value.text "run_id"
  terminal := value.flag "terminal"
  facts := some ((value.sub "facts").getD [])
  provenance := value.text "provenance"
  errorReason := value.text "error_reason"
  yieldsControl := value.flag "yields_control"

/-- `_capability_error`, for the errors of the execution: none is terminal. -/
def capabilityError (action errorReason message : String) (observationFacts : Dict) :
    CapabilityResult where
  ok := false
  action := action
  message := message
  runId := ""
  terminal := false
  facts := some (Dict.merge [("error_reason", .str errorReason)] observationFacts)
  provenance := ""
  errorReason := errorReason
  yieldsControl := false

/-- One call that `invoke` is about to execute. -/
structure Invocation where
  name : String
  /-- `isinstance(handler, ToolCapability)`: the tool gateway audits these itself. -/
  toolCapability : Bool
  callHasEffect : Bool
  loopRunId : String
  effectKey : String
  effectOwner : String
  /-- `json_schema_errors(facts, handler.spec.output_schema)`. -/
  outputSchemaErrors : Dict → List Json
  approvedApprovalId : String
  governedRunId : String

/-- `effect_journal is not None`. -/
def Invocation.journaled (call : Invocation) : Bool :=
  call.callHasEffect ∧ call.loopRunId ≠ "" ∧ call.effectKey ≠ ""

/-- The call reserves an audit entry. -/
def Invocation.audited (call : Invocation) : Bool :=
  call.callHasEffect ∧ !call.toolCapability

/-- `handler.invoke`. -/
inductive HandlerOutcome where
  | returned (result : CapabilityResult)
  | raised (error : PyError)

/-- The owner a journal call is made with. -/
def ownerOf : Call → String
  | .reserve _ _ _ owner _ _ => owner
  | .complete _ owner _ _ => owner
  | .fail _ owner _ _ => owner
  | .abandon _ owner => owner

/-- What everything around one call does. An exception is what that statement
raises, if it does. No other user of the journal has the owner of this call, which is
a fresh `uuid4`. -/
structure World (call : Invocation) where
  reservedAt : Time
  /-- `resource_grant`: the decision, its reason and `to_dict()`. -/
  decision : String
  reason : String
  grantFacts : Dict
  /-- `_reserve_action_audit`: the id of the log entry. -/
  auditReservation : Except PyError String
  handler : HandlerOutcome
  /-- Calls of the journal by others, until the handler has ended or the effect is
  abandoned. -/
  during : List Call
  failure : Option PyError
  failedAt : Time
  release : Option PyError
  auditCompletion : Option PyError
  auditFailure : Option PyError
  auditFailedAt : Time
  /-- Calls of the journal by others, until the completion. -/
  completing : List Call
  /-- `complete` raises in `json.dumps` or in the database. -/
  completion : Option PyError
  completedAt : Time
  settlement : Option PyError
  /-- Calls of the journal by others, until `invoke` has ended. -/
  afterwards : List Call
  strangers : ∀ other ∈ during ++ completing ++ afterwards, ownerOf other ≠ call.effectOwner

def effectLeaseSeconds : Time := 900

/-- The statement an exception leaves `invoke` from. -/
inductive Origin where
  | handler
  | release
  | journalFail
  | journalComplete
  | settlement
  deriving DecidableEq

/-- An exception that leaves `invoke`. -/
structure Escape where
  origin : Origin
  error : PyError

/-- The result of a call, and whether `_settle_turn_capability_approval` is called
with it. -/
structure Conclusion where
  result : CapabilityResult
  settles : Bool

/-- `_settle_turn_capability_approval` reads and writes the stores. -/
def settlementApplies (call : Invocation) (result : CapabilityResult) : Bool :=
  let loopTerminalState := (result.facts.getD []).text "loop_terminal_state"
  call.approvedApprovalId ≠ "" ∧ call.governedRunId = "" ∧ !result.yieldsControl
    ∧ loopTerminalState ≠ "paused" ∧ loopTerminalState ≠ "waiting_approval"

section

variable (call : Invocation)

/-- The error of a reservation that is busy or uncertain. -/
def effectRefused (status : String) : CapabilityResult :=
  capabilityError ("execute:" ++ call.name) ("effect_" ++ status)
    ("mutating capability effect is " ++ status)
    [("tool", .str call.name), ("effect_key", .str call.effectKey), ("effect_status", .str status)]

/-- The error of a handler that raised. -/
def crashed (error : PyError) : CapabilityResult :=
  capabilityError ("execute:" ++ call.name) "internal_error"
    ("capability " ++ call.name ++ " crashed: " ++ error.text)
    [("tool", .str call.name), ("error_type", .str error.typeName)]

def checkedOutput (result : CapabilityResult) : CapabilityResult :=
  if result.ok then
    match call.outputSchemaErrors (result.facts.getD []) with
    | [] => result
    | errors =>
        capabilityError ("execute:" ++ call.name) "schema_mismatch"
          ("capability " ++ call.name ++ " output schema mismatch")
          [("tool", .str call.name), ("schema_errors", .arr errors),
            ("result_action", .str result.action)]
  else result

/-- The error of an audit outcome that was not persisted. -/
def auditLost (auditLogId : String) (result : CapabilityResult) (error : PyError) :
    CapabilityResult :=
  capabilityError ("execute:" ++ call.name) "audit_completion_failed"
    ("capability " ++ call.name ++ " completed its effect but the audit outcome "
      ++ "could not be persisted")
    [("tool", .str call.name), ("audit_phase", .str "completion"),
      ("audit_reservation_id", .str auditLogId), ("effect_result_ok", .bool result.ok),
      ("error_type", .str error.typeName)]

/-- `effect_journal.fail`, when the call is journaled. A database that raises leaves
the table as it is. -/
def journalFail (effects : Table) (text : String) (raised : Option PyError) (now : Time) :
    Option PyError × Table :=
  if call.journaled then
    match raised with
    | some error => (some error, effects)
    | none => (none, fail effects call.effectKey call.effectOwner text now)
  else (none, effects)

variable (world : World call)

/-- The `try` around the handler, up to its `finally`. -/
def handled (effects : Table) : Except Escape CapabilityResult × Table :=
  match world.handler with
  | .returned result =>
      match world.release with
      | some error => (.error ⟨.release, error⟩, effects)
      | none => (.ok result, effects)
  | .raised error =>
      if error.isException then
        let (failure, effects) := journalFail call effects (error.typeName ++ ": " ++ error.text)
          world.failure world.failedAt
        -- what `finally` raises takes the place of what it interrupts
        match world.release, failure with
        | some error, _ => (.error ⟨.release, error⟩, effects)
        | none, some error => (.error ⟨.journalFail, error⟩, effects)
        | none, none => (.ok (crashed call error), effects)
      else
        match world.release with
        | some error => (.error ⟨.release, error⟩, effects)
        | none => (.error ⟨.handler, error⟩, effects)

/-- The completion of the journal entry. -/
def completed (effects : Table) (result : CapabilityResult) : Except Escape Conclusion × Table :=
  if call.journaled then
    match world.completion with
    | some error => (.error ⟨.journalComplete, error⟩, effects)
    | none =>
        match complete effects call.effectKey call.effectOwner result.toDict world.completedAt with
        | (.error text, effects) =>
            (.error ⟨.journalComplete, ⟨"RuntimeError", text, true⟩⟩, effects)
        | (.ok (), effects) => (.ok ⟨result, true⟩, effects)
  else (.ok ⟨result, true⟩, effects)

/-- The completion of the audit entry raised. -/
def auditFailed (effects : Table) (auditLogId : String) (result : CapabilityResult)
    (error : PyError) : Except Escape Conclusion × Table :=
  match journalFail call effects
      ("audit completion failed: " ++ error.typeName ++ ": " ++ error.text)
      world.auditFailure world.auditFailedAt with
  | (some failure, effects) => (.error ⟨.journalFail, failure⟩, effects)
  | (none, effects) => (.ok ⟨auditLost call auditLogId result error, false⟩, effects)

/-- The completion of the audit entry, and then of the journal entry. -/
def concluded (effects : Table) (auditLogId : String) (result : CapabilityResult) :
    Except Escape Conclusion × Table :=
  match world.auditCompletion with
  | some error =>
      if auditLogId ≠ "" then auditFailed call world effects auditLogId result error
      else completed call world effects result
  | none => completed call world effects result

/-- From the handler to the end of the journal. -/
def performed (effects : Table) (auditLogId : String) : Except Escape Conclusion × Table :=
  match handled call world (journal.run effects world.during) with
  | (.error escape, effects) => (.error escape, effects)
  | (.ok result, effects) =>
      concluded call world (journal.run effects world.completing) auditLogId
        (checkedOutput call result)

/-- `effect_journal.abandon`, when the call is journaled. -/
def abandoned (effects : Table) : Table :=
  let effects := journal.run effects world.during
  if call.journaled then (abandon effects call.effectKey call.effectOwner).2 else effects

def granted (effects : Table) : Except Escape Conclusion × Table :=
  if world.decision ≠ "allow" then
    (.ok ⟨capabilityError ("execute:" ++ call.name) ("resource_" ++ world.decision)
        ("resource gateway " ++ world.decision ++ ": " ++ world.reason)
        [("tool", .str call.name), ("resource_grant", .obj world.grantFacts)], false⟩,
      abandoned call world effects)
  else if call.audited then
    match world.auditReservation with
    | .ok auditLogId => performed call world effects auditLogId
    | .error error =>
        match world.release with
        | some raised => (.error ⟨.release, raised⟩, effects)
        | none =>
            (.ok ⟨capabilityError ("execute:" ++ call.name) "audit_unavailable"
                ("capability " ++ call.name ++ " was not executed because audit persistence "
                  ++ "is unavailable")
                [("tool", .str call.name), ("audit_phase", .str "reservation"),
                  ("error_type", .str error.typeName)], false⟩,
              abandoned call world effects)
  else performed call world effects ""

/-- From the reservation of the effect to the settlement of the approval. -/
def executed (effects : Table) : Except Escape Conclusion × Table :=
  if call.journaled then
    match reserve effects call.effectKey call.loopRunId call.name call.effectOwner
        effectLeaseSeconds world.reservedAt with
    | (⟨.replay, some result⟩, effects) => (.ok ⟨capabilityResultFromDict result, true⟩, effects)
    | (⟨.busy, _⟩, effects) => (.ok ⟨effectRefused call "busy", true⟩, effects)
    | (⟨.uncertain, _⟩, effects) => (.ok ⟨effectRefused call "uncertain", true⟩, effects)
    | (_, effects) => granted call world effects
  else granted call world effects

/-- The second half of `invoke`. -/
def invoke (effects : Table) : Except Escape CapabilityResult × Table :=
  match executed call world effects with
  | (.error escape, effects) => (.error escape, journal.run effects world.afterwards)
  | (.ok conclusion, effects) =>
      let effects := journal.run effects world.afterwards
      match world.settlement with
      | some error =>
          if conclusion.settles ∧ settlementApplies call conclusion.result then
            (.error ⟨.settlement, error⟩, effects)
          else (.ok conclusion.result, effects)
      | none => (.ok conclusion.result, effects)

end

end Navi.Capabilities
