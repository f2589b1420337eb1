import Mathlib
import Navi.Base.System
import Navi.Evolution.Engine
import Navi.Evolution.Ledger
import Navi.Evolution.RecordRoundTrip

/-!
# Calls that apply a proposal

`apply_proposal` by any number of calls, interleaved at each read of the target, each write of it
and each transaction of the ledger. A call that finds the proposal applying reconciles it: it
reads the target, and settles the status by what it has read.
-/

namespace Navi.Evolution

open Navi.Base Navi.Base.Json Navi.Memory

/-! ## Targets -/

/-- An adapter at one target: what its calls return, where they do not raise, and the targets that
they leave. What was read is read again from what the read left. -/
structure TargetPort (τ : Type) where
  read : τ → Time → Option (τ × String)
  snapshot : τ → String → Option String
  validate : τ → String → Bool
  apply : τ → Time → String → Option τ
  read_again : ∀ target now left text, read target now = some (left, text) →
    ∀ later, ∃ left', read left later = some (left', text)

section

variable (env : TargetRuntime)

theorem get?_ensure_or (home : Home) (now : Time) (targetId : String) :
    (MemoryParameter.ensure env home now).memory.parameters.get? targetId
      = (home.memory.parameters.get? targetId).or ((env.defaultParameters.lookup targetId).map
        fun value =>
          { name := targetId
            value := value
            updatedAt := now
            metadata := [("reason", .str "default_initialization")] }) := by
  unfold MemoryParameter.ensure
  dsimp only
  generalize home.memory = memory
  induction env.defaultParameters generalizing memory with
  | nil => rw [List.foldl_nil, List.lookup_nil, Option.map_none, Option.or_none]
  | cons entry rest ih =>
      rw [List.foldl_cons, ih]
      unfold MemoryTables.setParameterIfAbsent
      dsimp only
      rw [Table.get?_insertOrIgnore, Option.or_assoc, List.lookup_cons]
      by_cases hname : entry.1 = targetId
      · subst hname
        simp
      · have hother : (targetId == entry.1) = false := by simpa using Ne.symm hname
        rw [if_neg hname, hother, Option.none_or]

theorem parameter_read_again {home left : Home} {targetId text : String} {now : Time}
    (h : MemoryParameter.read env home now targetId = (left, text)) (later : Time) :
    (MemoryParameter.read env left later targetId).2 = text := by
  have hleft : left = MemoryParameter.ensure env home now := by
    refine (congrArg Prod.fst h).symm.trans ?_
    unfold MemoryParameter.read
    dsimp only
    split
    · rfl
    · split
      · rfl
      · rfl
  have hsame : (MemoryParameter.ensure env left later).memory.parameters.get? targetId
      = (MemoryParameter.ensure env home now).memory.parameters.get? targetId := by
    rw [get?_ensure_or, hleft, get?_ensure_or]
    cases home.memory.parameters.get? targetId with
    | some row => rfl
    | none =>
        cases env.defaultParameters.lookup targetId with
        | some value => rfl
        | none => rfl
  refine Eq.trans ?_ (congrArg Prod.snd h)
  unfold MemoryParameter.read
  dsimp only
  rw [hsame]
  split
  · rfl
  · split
    · rfl
    · rfl

theorem left_of_map {read : Except TargetError String} {home left : Home} {text : String}
    (h : (read.map fun text => (home, text)).toOption = some (left, text)) : left = home := by
  cases read with
  | error raised => exact nomatch h
  | ok found => exact (congrArg Prod.fst (Option.some.inj h)).symm

theorem adapter_read_again {adapter : Adapter} {targetId : String} {home left : Home} {now : Time}
    {text : String} (h : (adapter.read env home now targetId).toOption = some (left, text))
    (later : Time) :
    ∃ left', (adapter.read env left later targetId).toOption = some (left', text) := by
  cases adapter with
  | promptLayer => exact ⟨left, by obtain rfl := left_of_map h; exact h⟩
  | skill => exact ⟨left, by obtain rfl := left_of_map h; exact h⟩
  | evalCase => exact ⟨left, by obtain rfl := left_of_map h; exact h⟩
  | memoryItem =>
      obtain ⟨rfl, rfl⟩ := Prod.mk.inj (Option.some.inj h)
      exact ⟨home, rfl⟩
  | graphNode =>
      obtain ⟨rfl, rfl⟩ := Prod.mk.inj (Option.some.inj h)
      exact ⟨home, rfl⟩
  | memoryParameter =>
      have hread := parameter_read_again env (Option.some.inj h) later
      exact ⟨_, congrArg some (Prod.ext rfl hread)⟩

/-- The adapter of a type at one of its targets. -/
def adapterPort (adapter : Adapter) (targetId : String) : TargetPort Home where
  read home now := (adapter.read env home now targetId).toOption
  snapshot home current :=
    match adapter with
    | .promptLayer => (PromptLayer.snapshot env home targetId).toOption
    | _ => some current
  validate home candidate := (adapter.validate env home targetId candidate).toOption.isSome
  apply home now candidate := (adapter.apply env home now targetId candidate).toOption
  read_again _ _ _ _ h later := adapter_read_again env h later

end

/-! ## The calls -/

/-- Where a call of `apply_proposal` is. -/
inductive ApplyCall where
  /-- The proposal was found proposed, and may be applied. -/
  | opened
  /-- The target was read as the baseline, and the candidate is valid. -/
  | inspected
  | claimed
  /-- The target was read again. -/
  | reread (current : String)
  /-- The apply event is recorded. -/
  | recorded (eventId : String)
  /-- The adapter has applied the candidate. -/
  | written (eventId : String)
  /-- About to mark the apply as failed. -/
  | failing
  /-- The proposal was found applying. -/
  | reconciling
  /-- The target was read, to be judged. -/
  | judging (current : String)
  /-- The candidate was found applied. -/
  | accepting (eventId : String)
  /-- About to mark the apply as uncertain. -/
  | doubting
  /-- The proposal is applied, and the activation is to be started. -/
  | activating (eventId : String)
  deriving DecidableEq

structure ApplyEvent where
  id : String
  createdAt : Time
  rollbackState : String
  deriving DecidableEq

/-- One proposal, its target, its apply events, the events that have an activation, the calls that
are in progress, and how often the candidate was written. -/
structure ApplyRun (τ : Type) where
  proposal : EvolutionProposal
  target : τ
  events : List ApplyEvent
  activations : List String
  calls : List ApplyCall
  writes : Nat

/-- `ORDER BY created_at DESC LIMIT 1`. -/
def applyEventForProposal (events : List ApplyEvent) : Option ApplyEvent :=
  (events.insertionSort fun a b => b.createdAt ≤ a.createdAt).head?

/-- An update of the proposal while it is applying. -/
def whileApplying (set : EvolutionProposal → EvolutionProposal) (proposal : EvolutionProposal) :
    EvolutionProposal :=
  if proposal.status = .applying then set proposal else proposal

namespace ApplyRun

variable {τ : Type} (port : TargetPort τ)

def start (proposal : EvolutionProposal) (target : τ) : ApplyRun τ where
  proposal := { proposal with status := .proposed }
  target := target
  events := []
  activations := []
  calls := []
  writes := 0

/-- `start_activation`. -/
def startActivation (activations : List String) (eventId : String) : List String :=
  if eventId ∈ activations then activations else activations ++ [eventId]

/-- Where `_reconcile_applying` goes on, by what it has read. -/
def judged (proposal : EvolutionProposal) (event : Option ApplyEvent) (current : String) :
    ApplyCall :=
  match reconcileApplying current proposal.before proposal.after event.isSome with
  | .applied => .accepting ((event.map (·.id)).getD "")
  | .failed => .failing
  | .uncertain => .doubting

/-- The next step of a call beside the others: `now` is its time, `newId` the id of the event that
it records, and `raises` whether the adapter fails to write. A call that raises ends. -/
def advance (s : ApplyRun τ) (others : List ApplyCall) (now : Time) (newId : String)
    (raises : Bool) : ApplyCall → ApplyRun τ
  | .opened =>
      match port.read s.target now with
      | some (left, current) =>
          if current = s.proposal.before ∧ port.validate left s.proposal.after then
            { s with target := left, calls := .inspected :: others }
          else { s with target := left, calls := others }
      | none => { s with calls := others }
  | .inspected =>
      if s.proposal.status = .proposed then
        { s with proposal := s.proposal.claimed, calls := .claimed :: others }
      else { s with calls := others }
  | .claimed =>
      match port.read s.target now with
      | some (left, current) =>
          if current = s.proposal.before then
            { s with target := left, calls := .reread current :: others }
          else { s with target := left, calls := .failing :: others }
      | none => { s with calls := others }
  | .reread current =>
      match port.snapshot s.target current with
      | some rollbackState =>
          { s with
            events := s.events ++ [⟨newId, now, rollbackState⟩]
            calls := .recorded newId :: others }
      | none => { s with calls := others }
  | .recorded eventId =>
      match if raises then none else port.apply s.target now s.proposal.after with
      | some left =>
          { s with target := left, writes := s.writes + 1, calls := .written eventId :: others }
      | none => { s with calls := .failing :: others }
  | .written eventId | .accepting eventId =>
      if s.proposal.status = .applying then
        { s with
          proposal := s.proposal.markApplied eventId now
          calls := .activating eventId :: others }
      else { s with calls := others }
  | .failing =>
      { s with
        proposal := whileApplying EvolutionProposal.markApplyFailed s.proposal
        calls := others }
  | .reconciling =>
      match port.read s.target now with
      | some (left, current) => { s with target := left, calls := .judging current :: others }
      | none => { s with calls := others }
  | .judging current =>
      { s with
        calls := judged s.proposal (applyEventForProposal s.events) current :: others }
  | .doubting =>
      { s with
        proposal := whileApplying EvolutionProposal.markApplyUncertain s.proposal
        calls := others }
  | .activating eventId =>
      { s with activations := startActivation s.activations eventId, calls := others }

/-- How a new call goes on, by the status that it finds. -/
def opening (proposal : EvolutionProposal) : Option ApplyCall :=
  if proposal.status = .applied ∧ proposal.appliedEventId ≠ "" then
    some (.activating proposal.appliedEventId)
  else if proposal.status = .applying then some .reconciling
  else if assertProposalApplicable proposal = .ok () then some .opened
  else none

end ApplyRun

inductive ApplyLabel where
  /-- A new call reads the proposal. -/
  | enter
  /-- A call makes its next step. -/
  | step (index : Nat) (now : Time) (newId : String) (raises : Bool)
  /-- The process of a call dies. -/
  | crash (index : Nat)

/-- The calls of `apply_proposal` for one proposal. -/
def applySystem {τ : Type} (port : TargetPort τ) : System (ApplyRun τ) ApplyLabel where
  step s
    | .enter =>
        (ApplyRun.opening s.proposal).map fun call => { s with calls := call :: s.calls }
    | .step index now newId raises =>
        (s.calls[index]?).map (s.advance port (s.calls.eraseIdx index) now newId raises)
    | .crash index =>
        (s.calls[index]?).map fun _ => { s with calls := s.calls.eraseIdx index }

end Navi.Evolution
