import Navi.Base.System
import Navi.Workspaces.Restart

/-!
# Making a shadow and disposing of it

`create_shadow`, `merge_run` and `discard_run` of one run, step by step: a directory is
made, an entry is copied or removed, the row is written. A process dies between two
steps, or inside a file that it copies. What `create_shadow` makes of the state that is
left then depends on the row and on whether the run's directory is there.
-/

namespace Navi.Workspaces

open Navi.Base FileTree
open Navi.StateGraph (MergeStatus)

/-! ## Copies -/

/-- The part of a tree that `copytree` with `_copy_ignore` copies. -/
def copyTree (real : FileTree) : FileTree where
  node p := if inWorkspace p then real.node p else none
  paths := real.paths
  listed p hp := by
    split at hp
    next => exact real.listed p hp
    next => exact absurd rfl hp
  root := by
    have hroot : inWorkspace [] = true := rfl
    rw [if_pos hroot, real.root]
  closed p name hp := by
    split at hp
    next hin =>
      have habove : inWorkspace p = true := by
        simp only [inWorkspace, List.any_append, Bool.not_or, Bool.and_eq_true] at hin
        exact hin.1
      rw [if_pos habove, real.closed p name hp]
    next => exact absurd rfl hp

/-- A tree has at a path what a copy has. A link may lead elsewhere in a copy. -/
def SameEntry (real t : FileTree) (p : Path) : Prop :=
  (t.node p).map (Node.relink fun _ => false)
    = ((copyTree real).node p).map (Node.relink fun _ => false)

instance (real t : FileTree) (p : Path) : Decidable (SameEntry real t p) :=
  inferInstanceAs (Decidable (_ = _))

def CopyOf (real t : FileTree) : Prop := ∀ p ∈ real.paths ++ t.paths, SameEntry real t p

instance (real t : FileTree) : Decidable (CopyOf real t) :=
  inferInstanceAs (Decidable (∀ p ∈ _, _))

/-! ## The state of a run -/

/-- The directories below the run's directory. -/
inductive Side where
  | baseline
  | shadow
  | mergeBackup
  deriving DecidableEq

/-- The run's directory, below `shadow_root`. -/
abbrev Artifacts := Side → Option FileTree

/-- What the process is at, between two steps. -/
inductive Phase where
  /-- Nothing. -/
  | idle
  /-- It has died. -/
  | dead
  /-- `create_shadow` copies. -/
  | copying
  /-- Both copies are made, and the row is not. -/
  | copied
  /-- `merge_back` has returned, and the status is not set. -/
  | mergedBack (conflicted : Bool)
  /-- `_remove_shadow_artifacts`, in `discard_run` or not; whether an entry of the baseline
  or of the shadow is gone. -/
  | removing (discard touched : Bool)
  /-- `discard_run` has removed the artifacts, and the status is not set. -/
  | unrecorded
  deriving DecidableEq

/-- One run with its workspace. `work` is what its directories must have: the copies,
when both were made, with the agent's edits since. -/
structure ShadowRun where
  real : FileTree
  row : Option ShadowStatus
  root : Option Artifacts
  phase : Phase
  work : Option (FileTree × FileTree)

def Phase.resting : Phase → Bool
  | .idle | .dead => true
  | _ => false

/-- The row is terminal to `purge_terminal_artifacts`. -/
def Terminal (row : Option ShadowStatus) : Prop := row = some .merged ∨ row = some .discarded

instance (row : Option ShadowStatus) : Decidable (Terminal row) :=
  inferInstanceAs (Decidable (_ ∨ _))

/-! ## A later call -/

/-- How `create_shadow` ends when nothing stops it. -/
inductive Created where
  | existing (baseline : FileTree) (shadow : Option FileTree)
  | made (baseline shadow : FileTree)
  | fileExists
  | notADirectory

/-- `create_shadow`. -/
def createShadow (s : ShadowRun) : Created :=
  match s.root with
  | none => .made (copyTree s.real) (copyTree s.real)
  | some root =>
      if s.row = some .active then
        match root .baseline with
        | none => .notADirectory
        | some baseline => .existing baseline (root .shadow)
      else .fileExists

/-- `purge_terminal_artifacts`, as far as this run goes. -/
def purgeTerminalArtifacts (s : ShadowRun) : ShadowRun :=
  if Terminal s.row then { s with root := none } else s

/-- A later `create_shadow` returns an active shadow with its work or with complete
copies of the workspace, at the latest when the terminal artifacts are purged. -/
def Recovers (s : ShadowRun) : Prop :=
  match createShadow s with
  | .existing baseline shadow => ∃ tree, shadow = some tree ∧ s.work = some (baseline, tree)
  | .made baseline shadow => CopyOf s.real baseline ∧ CopyOf s.real shadow
  | .fileExists => ∃ baseline shadow, createShadow (purgeTerminalArtifacts s)
      = .made baseline shadow ∧ CopyOf s.real baseline ∧ CopyOf s.real shadow
  | .notADirectory => False

/-! ## The steps -/

inductive ShadowLabel where
  /-- Somebody changes the workspace. -/
  | change (real : FileTree)
  /-- The agent changes its shadow. -/
  | edit (shadow : FileTree)
  /-- `create_shadow` is called. -/
  | create
  /-- A copy starts with its directory. -/
  | makeTree (side : Side)
  /-- An entry is copied, or a part of a file. -/
  | copyEntry (side : Side) (p : Path) (part : Option Bytes)
  | insertRow
  /-- `merge_run` is called, up to its status; `merge_back` leaves this in `merge_backup`. -/
  | merge (call : Call) (backup : Option FileTree)
  | setStatus
  | discard
  | purge
  /-- An entry is removed, or one of the directories. -/
  | remove (side : Side) (p : Path)
  | removeRoot
  | setDiscarded
  /-- The process dies. -/
  | crash
  /-- The process dies in the `merge_back` of a `merge_run`, if it can call one, with this
  in the workspace and in `merge_backup`. -/
  | dieMerging (real : FileTree) (backup : Option FileTree)

def partOf (node : Node) (part : Option Bytes) : Node :=
  match node, part with
  | .file _, some bytes => .file bytes
  | node, _ => node

def copiesOf (real : FileTree) (root : Artifacts) : Option (FileTree × FileTree) :=
  match root .baseline, root .shadow with
  | some baseline, some shadow =>
      if CopyOf real baseline ∧ CopyOf real shadow then some (baseline, shadow) else none
  | _, _ => none

namespace ShadowRun

variable (s : ShadowRun)

def copiedTo (root : Artifacts) : ShadowRun :=
  { s with
    root := some root
    work := copiesOf s.real root
    phase := if (copiesOf s.real root).isSome then .copied else .copying }

/-- The removal starts, if the directory is there. -/
def startRemoval (discard : Bool) : ShadowRun :=
  { s with
    phase := if s.root.isSome then .removing discard false
      else if discard then .unrecorded else .idle }

/-- An entry is removed, or the directory of a side that has none. -/
def removeFrom (root : Artifacts) (side : Side) (p : Path) : Option Artifacts :=
  match root side with
  | none => none
  | some t =>
      if t.node p = none ∨ (∃ q ∈ t.paths, t.node q ≠ none ∧ p <+: q ∧ q ≠ p) then none
      else if hp : p ≠ [] then some (Function.update root side (some (t.eraseAll p hp)))
      else some (Function.update root side none)

/-- What `merge_back` touches. -/
def mergedTo (root : Artifacts) (real : FileTree) (backup : Option FileTree) (phase : Phase) :
    ShadowRun :=
  { s with real, root := some (Function.update root .mergeBackup backup), phase }

def step : ShadowLabel → Option ShadowRun
  | .change real => if s.phase.resting then some { s with real, phase := .idle } else none
  | .edit shadow =>
      match s.root with
      | none => none
      | some root =>
          match root .baseline with
          | none => none
          | some baseline =>
              if s.phase.resting ∧ s.row = some .active then
                some { s with
                  root := some (Function.update root .shadow (some shadow))
                  work := some (baseline, shadow)
                  phase := .idle }
              else none
  | .create =>
      if s.phase.resting then
        match s.root with
        | some _ => some { s with phase := .idle }
        | none => some { s with root := some fun _ => none, work := none, phase := .copying }
      else none
  | .makeTree side =>
      match s.phase, s.root with
      | .copying, some root =>
          if root side = none ∧ (side = .baseline
              ∨ side = .shadow ∧ ∃ t ∈ root .baseline, CopyOf s.real t) then
            some (s.copiedTo (Function.update root side (some .empty)))
          else none
      | _, _ => none
  | .copyEntry side p part =>
      match s.phase, s.root with
      | .copying, some root =>
          match root side, (copyTree s.real).node p with
          | some t, some node =>
              if hfree : t.Free p then
                some (s.copiedTo
                  (Function.update root side (some (t.put p (partOf node part) hfree))))
              else none
          | _, _ => none
      | _, _ => none
  | .insertRow =>
      if s.phase = .copied then some { s with row := some .active, phase := .idle } else none
  | .merge call backup =>
      match s.root with
      | none => none
      | some root =>
          match root .baseline, root .shadow with
          | some baseline, some shadow =>
              if s.phase.resting ∧ s.row ≠ none then
                match mergeBack call baseline shadow s.real with
                | .ok merged real =>
                    some (s.mergedTo root real backup (.mergedBack (merged.status = .conflicted)))
                | .error _ real => some (s.mergedTo root real backup .idle)
              else none
          | _, _ => none
  | .setStatus =>
      match s.phase with
      | .mergedBack true => some { s with row := some .conflicted, phase := .idle }
      | .mergedBack false => some ({ s with row := some .merged }.startRemoval false)
      | _ => none
  | .discard =>
      if s.phase.resting then
        match s.row with
        | none => some { s with phase := .idle }
        | some _ => some (s.startRemoval true)
      else none
  | .purge =>
      if s.phase.resting then
        if Terminal s.row then some (s.startRemoval false) else some { s with phase := .idle }
      else none
  | .remove side p =>
      match s.phase, s.root with
      | .removing discard touched, some root =>
          (removeFrom root side p).map fun root =>
            { s with
              root := some root
              phase := .removing discard (touched || side ≠ .mergeBackup) }
      | _, _ => none
  | .removeRoot =>
      match s.phase, s.root with
      | .removing discard _, some root =>
          if root .baseline = none ∧ root .shadow = none ∧ root .mergeBackup = none then
            some { s with
              root := none
              work := none
              phase := if discard then .unrecorded else .idle }
          else none
      | _, _ => none
  | .setDiscarded =>
      if s.phase = .unrecorded then some { s with row := some .discarded, phase := .idle } else none
  | .crash => some { s with phase := .dead }
  | .dieMerging real backup =>
      match s.root with
      | none => some { s with phase := .dead }
      | some root =>
          if s.phase.resting ∧ s.row ≠ none ∧ root .baseline ≠ none ∧ root .shadow ≠ none then
            some (s.mergedTo root real backup .dead)
          else some { s with phase := .dead }

end ShadowRun

/-- One run, with all that its process may do. -/
def shadowSystem : System ShadowRun ShadowLabel where
  step := ShadowRun.step

/-! ## What is there -/

/-- The directories have what they must have. -/
def Whole (s : ShadowRun) : Prop :=
  ∃ root baseline shadow, s.root = some root ∧ root .baseline = some baseline
    ∧ root .shadow = some shadow ∧ s.work = some (baseline, shadow)

def workOf (work : FileTree × FileTree) : Side → Option FileTree
  | .baseline => some work.1
  | .shadow => some work.2
  | .mergeBackup => none

/-- An entry is gone that the baseline or the shadow must have. -/
def Lost (s : ShadowRun) : Prop :=
  ∃ root work side t p, s.root = some root ∧ s.work = some work ∧ workOf work side = some t
    ∧ t.node p ≠ none ∧ ∀ t' ∈ root side, t'.node p = none

/-- What is known of a run at each phase. -/
def Sound (s : ShadowRun) : Prop :=
  match s.phase with
  | .idle | .dead | .mergedBack _ => s.root ≠ none → s.row = some .active → Whole s
  | .copying => s.root ≠ none ∧ s.work = none
  | .copied => Whole s
  | .removing _ touched =>
      s.root ≠ none ∧ (s.row = some .active → if touched then Lost s else Whole s)
  | .unrecorded => s.root = none

/-- Nothing of the baseline or of the shadow is missing at this phase. -/
def Phase.whole : Phase → Bool
  | .copying => false
  | .removing _ touched => !touched
  | _ => true

/-- The process may die: the run's directory is not there, or the row is terminal, or it
is active and nothing is missing. -/
def SafeCrash (s : ShadowRun) : Prop :=
  s.root = none ∨ Terminal s.row ∨ s.row = some .active ∧ s.phase.whole = true

/-- If the process dies in this step, it may. -/
def DiesSafely (s : ShadowRun) : ShadowLabel → Prop
  | .crash | .dieMerging _ _ => SafeCrash s
  | _ => True

section

variable {s s' : ShadowRun} {root : Artifacts} {side : Side} {p : Path}

theorem copyOf_copyTree (real : FileTree) : CopyOf real (copyTree real) := fun _ _ => rfl

theorem not_terminal_of_active (h : s.row = some .active) : ¬ Terminal s.row := by
  rw [h]
  rintro (hmerged | hdiscarded)
  · cases hmerged
  · cases hdiscarded

theorem createShadow_of_none (h : s.root = none) :
    createShadow s = .made (copyTree s.real) (copyTree s.real) := by
  unfold createShadow
  rw [h]

theorem createShadow_of_active (hroot : s.root = some root) (hactive : s.row = some .active) :
    createShadow s = match root .baseline with
      | none => .notADirectory
      | some baseline => .existing baseline (root .shadow) := by
  unfold createShadow
  rw [hroot]
  exact if_pos hactive

theorem createShadow_of_not_active (hroot : s.root = some root) (hrow : s.row ≠ some .active) :
    createShadow s = .fileExists := by
  unfold createShadow
  rw [hroot]
  exact if_neg hrow

theorem recovers_iff :
    Recovers s ↔ s.root = none ∨ Terminal s.row ∨ s.row = some .active ∧ Whole s := by
  unfold Recovers
  cases hroot : s.root with
  | none =>
      rw [createShadow_of_none hroot]
      exact iff_of_true ⟨copyOf_copyTree _, copyOf_copyTree _⟩ (.inl rfl)
  | some root =>
      by_cases hactive : s.row = some .active
      · rw [createShadow_of_active hroot hactive]
        have hwhole : Whole s ↔ ∃ baseline shadow, root .baseline = some baseline
            ∧ root .shadow = some shadow ∧ s.work = some (baseline, shadow) := by
          unfold Whole
          rw [hroot]
          simp
        rw [hwhole]
        cases hbaseline : root .baseline with
        | none =>
            refine iff_of_false not_false ?_
            rintro (hnone | hterminal | ⟨-, baseline, shadow, hsome, -⟩)
            · cases hnone
            · exact not_terminal_of_active hactive hterminal
            · cases hsome
        | some baseline =>
            constructor
            · rintro ⟨shadow, hshadow, hwork⟩
              exact .inr (.inr ⟨hactive, baseline, shadow, rfl, hshadow, hwork⟩)
            · rintro (hnone | hterminal | ⟨-, baseline', shadow, hsome, hshadow, hwork⟩)
              · cases hnone
              · exact absurd hterminal (not_terminal_of_active hactive)
              · cases hsome
                exact ⟨shadow, hshadow, hwork⟩
      · rw [createShadow_of_not_active hroot hactive]
        unfold purgeTerminalArtifacts
        by_cases hterminal : Terminal s.row
        · refine iff_of_true ?_ (.inr (.inl hterminal))
          rw [if_pos hterminal, createShadow_of_none rfl]
          exact ⟨_, _, rfl, copyOf_copyTree _, copyOf_copyTree _⟩
        · rw [if_neg hterminal, createShadow_of_not_active hroot hactive]
          refine iff_of_false ?_ ?_
          · rintro ⟨baseline, shadow, hmade, -⟩
            cases hmade
          · rintro (hnone | h | h)
            · cases hnone
            · exact hterminal h
            · exact hactive h.1

theorem Lost.not_whole (h : Lost s) : ¬ Whole s := by
  rintro ⟨root, baseline, shadow, hroot, hbaseline, hshadow, hwork⟩
  obtain ⟨root', work, side, t, p, hroot', hwork', hside, hp, hgone⟩ := h
  rw [hroot] at hroot'
  cases hroot'
  rw [hwork] at hwork'
  cases hwork'
  cases side with
  | baseline =>
      cases hside
      exact hp (hgone _ hbaseline)
  | shadow =>
      cases hside
      exact hp (hgone _ hshadow)
  | mergeBackup => cases hside

theorem Sound.whole_iff (h : Sound s) (hroot : s.root ≠ none) (hactive : s.row = some .active) :
    Whole s ↔ s.phase.whole = true := by
  unfold Sound at h
  cases hphase : s.phase with
  | idle =>
      rw [hphase] at h
      exact iff_of_true (h hroot hactive) rfl
  | dead =>
      rw [hphase] at h
      exact iff_of_true (h hroot hactive) rfl
  | mergedBack conflicted =>
      rw [hphase] at h
      exact iff_of_true (h hroot hactive) rfl
  | copying =>
      rw [hphase] at h
      refine iff_of_false ?_ Bool.false_ne_true
      rintro ⟨_, _, _, -, -, -, hwork⟩
      rw [h.2] at hwork
      cases hwork
  | copied =>
      rw [hphase] at h
      exact iff_of_true h rfl
  | removing discard touched =>
      rw [hphase] at h
      have hstate := h.2 hactive
      cases touched with
      | false => exact iff_of_true hstate rfl
      | true => exact iff_of_false (Lost.not_whole hstate) Bool.false_ne_true
  | unrecorded =>
      rw [hphase] at h
      exact absurd h hroot

theorem Sound.recovers_iff (h : Sound s) : Recovers s ↔ SafeCrash s := by
  rw [Navi.Workspaces.recovers_iff, SafeCrash]
  by_cases hroot : s.root = none
  · exact iff_of_true (.inl hroot) (.inl hroot)
  · refine or_congr_right (or_congr_right (and_congr_right fun hactive => ?_))
    exact h.whole_iff hroot hactive

/-! ## The steps keep what is known -/

theorem Sound.whole_of_resting (h : Sound s) (hrest : s.phase.resting = true) :
    s.root ≠ none → s.row = some .active → Whole s := by
  unfold Sound at h
  cases hphase : s.phase <;> rw [hphase] at h hrest
  case idle => exact h
  case dead => exact h
  all_goals cases hrest

theorem Whole.mergedTo (h : Whole s) (hroot : s.root = some root) (real : FileTree)
    (backup : Option FileTree) (phase : Phase) : Whole (s.mergedTo root real backup phase) := by
  obtain ⟨root', baseline, shadow, hroot', hbaseline, hshadow, hwork⟩ := h
  rw [hroot] at hroot'
  cases hroot'
  refine ⟨_, baseline, shadow, rfl, ?_, ?_, hwork⟩
  · rw [Function.update_of_ne Side.noConfusion, hbaseline]
  · rw [Function.update_of_ne Side.noConfusion, hshadow]

theorem copiesOf_eq_some {real : FileTree} {work : FileTree × FileTree}
    (h : copiesOf real root = some work) :
    root .baseline = some work.1 ∧ root .shadow = some work.2
      ∧ CopyOf real work.1 ∧ CopyOf real work.2 := by
  unfold copiesOf at h
  split at h
  next hbaseline hshadow =>
    split at h
    next hcopies =>
      cases h
      exact ⟨hbaseline, hshadow, hcopies⟩
    next => cases h
  next => cases h

theorem copiedTo_sound (root : Artifacts) : Sound (s.copiedTo root) := by
  unfold ShadowRun.copiedTo
  cases hcopies : copiesOf s.real root with
  | none => exact ⟨Option.some_ne_none _, rfl⟩
  | some work =>
      obtain ⟨hbaseline, hshadow, -⟩ := copiesOf_eq_some hcopies
      exact ⟨root, work.1, work.2, rfl, hbaseline, hshadow, rfl⟩

theorem startRemoval_sound (h : s.root ≠ none → s.row = some .active → Whole s)
    (discard : Bool) : Sound (s.startRemoval discard) := by
  obtain ⟨real, row, root, phase, work⟩ := s
  cases root with
  | none =>
      cases discard with
      | true => rfl
      | false => exact fun hsome => absurd rfl hsome
  | some root => exact ⟨Option.some_ne_none _, h (Option.some_ne_none _)⟩

theorem removeFrom_eq_some {root' : Artifacts} (h : ShadowRun.removeFrom root side p = some root') :
    ∃ t, root side = some t ∧ t.node p ≠ none ∧ (∀ t' ∈ root' side, t'.node p = none)
      ∧ (∀ t' ∈ root' side, ∀ q, t.node q = none → t'.node q = none)
      ∧ ∀ other, other ≠ side → root' other = root other := by
  unfold ShadowRun.removeFrom at h
  cases hside : root side with
  | none =>
      rw [hside] at h
      cases h
  | some t =>
      rw [hside] at h
      dsimp only at h
      split at h
      next => cases h
      next hthere =>
        refine ⟨t, rfl, fun hnone => hthere (.inl hnone), ?_⟩
        split at h
        next hp =>
          cases h
          refine ⟨?_, ?_, fun other hother => Function.update_of_ne hother _ _⟩
          · intro t' ht'
            rw [Function.update_self] at ht'
            obtain rfl := Option.some.inj ht'
            rw [node_eraseAll, if_pos List.prefix_rfl]
          · intro t' ht' q hq
            rw [Function.update_self] at ht'
            obtain rfl := Option.some.inj ht'
            rw [node_eraseAll, hq, ite_self]
        next =>
          cases h
          refine ⟨?_, ?_, fun other hother => Function.update_of_ne hother _ _⟩
          · intro t' ht'
            rw [Function.update_self] at ht'
            cases ht'
          · intro t' ht'
            rw [Function.update_self] at ht'
            cases ht'

theorem Lost.removed {root' : Artifacts} {phase : Phase} (h : Lost s) (hroot : s.root = some root)
    (hremoved : ShadowRun.removeFrom root side p = some root') :
    Lost { s with root := some root', phase } := by
  obtain ⟨root₀, work, lost, t, q, hroot₀, hwork, hlost, hq, hgone⟩ := h
  rw [hroot] at hroot₀
  cases hroot₀
  obtain ⟨t₀, hside, -, -, hkept, hothers⟩ := removeFrom_eq_some hremoved
  refine ⟨root', work, lost, t, q, rfl, hwork, hlost, hq, fun t' ht' => ?_⟩
  by_cases hsame : lost = side
  · subst hsame
    exact hkept t' ht' q (hgone t₀ hside)
  · rw [hothers lost hsame] at ht'
    exact hgone t' ht'

theorem Whole.lost {root' : Artifacts} {phase : Phase} (h : Whole s) (hroot : s.root = some root)
    (hremoved : ShadowRun.removeFrom root side p = some root') (hside : side ≠ .mergeBackup) :
    Lost { s with root := some root', phase } := by
  obtain ⟨root₀, baseline, shadow, hroot₀, hbaseline, hshadow, hwork⟩ := h
  rw [hroot] at hroot₀
  cases hroot₀
  obtain ⟨t, ht, hp, hgone, -⟩ := removeFrom_eq_some hremoved
  refine ⟨root', (baseline, shadow), side, t, p, rfl, hwork, ?_, hp, hgone⟩
  cases side with
  | baseline => exact hbaseline.symm.trans ht
  | shadow => exact hshadow.symm.trans ht
  | mergeBackup => exact absurd rfl hside

theorem Whole.removed {root' : Artifacts} {phase : Phase} (h : Whole s) (hroot : s.root = some root)
    (hremoved : ShadowRun.removeFrom root .mergeBackup p = some root') :
    Whole { s with root := some root', phase } := by
  obtain ⟨root₀, baseline, shadow, hroot₀, hbaseline, hshadow, hwork⟩ := h
  rw [hroot] at hroot₀
  cases hroot₀
  obtain ⟨-, -, -, -, -, hothers⟩ := removeFrom_eq_some hremoved
  refine ⟨root', baseline, shadow, rfl, ?_, ?_, hwork⟩
  · rw [hothers _ Side.noConfusion, hbaseline]
  · rw [hothers _ Side.noConfusion, hshadow]

theorem mergedTo_sound (h : s.row = some .active → Whole s) (hroot : s.root = some root)
    (real : FileTree) (backup : Option FileTree) {phase : Phase}
    (hphase : phase = .idle ∨ phase = .dead ∨ ∃ conflicted, phase = .mergedBack conflicted) :
    Sound (s.mergedTo root real backup phase) := by
  have hwhole : (s.mergedTo root real backup phase).root ≠ none →
      (s.mergedTo root real backup phase).row = some .active →
      Whole (s.mergedTo root real backup phase) :=
    fun _ hactive => (h hactive).mergedTo hroot real backup phase
  rcases hphase with rfl | rfl | ⟨conflicted, rfl⟩
  · exact hwhole
  · exact hwhole
  · exact hwhole

theorem dead_sound (h : Sound s) (hsafe : SafeCrash s) : Sound { s with phase := .dead } := by
  intro hroot hactive
  rcases hsafe with hnone | hterminal | ⟨-, hwhole⟩
  · exact absurd hnone hroot
  · exact absurd hterminal (not_terminal_of_active hactive)
  · exact (h.whole_iff hroot hactive).mpr hwhole

theorem step_staysSound (h : Sound s) {label : ShadowLabel} (hsafe : DiesSafely s label)
    (hstep : s.step label = some s') : Sound s' := by
  cases label with
  | change real =>
      unfold ShadowRun.step at hstep
      dsimp only at hstep
      split at hstep
      next hrest =>
        cases hstep
        exact h.whole_of_resting hrest
      next => cases hstep
  | edit shadow =>
      unfold ShadowRun.step at hstep
      dsimp only at hstep
      split at hstep
      next => cases hstep
      next root hroot =>
        split at hstep
        next => cases hstep
        next baseline hbaseline =>
          split at hstep
          next =>
            cases hstep
            intro _ _
            refine ⟨_, baseline, shadow, rfl, ?_, Function.update_self _ _ _, rfl⟩
            rw [Function.update_of_ne Side.noConfusion, hbaseline]
          next => cases hstep
  | create =>
      unfold ShadowRun.step at hstep
      dsimp only at hstep
      split at hstep
      next hrest =>
        split at hstep
        next root hroot =>
          cases hstep
          exact h.whole_of_resting hrest
        next =>
          cases hstep
          exact ⟨Option.some_ne_none _, rfl⟩
      next => cases hstep
  | makeTree side =>
      unfold ShadowRun.step at hstep
      dsimp only at hstep
      split at hstep
      next root hphase hroot =>
        split at hstep
        next =>
          cases hstep
          exact copiedTo_sound _
        next => cases hstep
      next => cases hstep
  | copyEntry side p part =>
      unfold ShadowRun.step at hstep
      dsimp only at hstep
      split at hstep
      next root hphase hroot =>
        split at hstep
        next t node ht hnode =>
          split at hstep
          next =>
            cases hstep
            exact copiedTo_sound _
          next => cases hstep
        next => cases hstep
      next => cases hstep
  | insertRow =>
      unfold ShadowRun.step at hstep
      dsimp only at hstep
      split at hstep
      next hphase =>
        cases hstep
        unfold Sound at h
        rw [hphase] at h
        exact fun _ _ => h
      next => cases hstep
  | merge call backup =>
      unfold ShadowRun.step at hstep
      dsimp only at hstep
      split at hstep
      next => cases hstep
      next root hroot =>
        split at hstep
        next baseline shadow hbaseline hshadow =>
          split at hstep
          next hcan =>
            have hwhole : s.row = some .active → Whole s :=
              h.whole_of_resting hcan.1 (by simp [hroot])
            split at hstep
            next =>
              cases hstep
              exact mergedTo_sound hwhole hroot _ _ (.inr (.inr ⟨_, rfl⟩))
            next =>
              cases hstep
              exact mergedTo_sound hwhole hroot _ _ (.inl rfl)
          next => cases hstep
        next => cases hstep
  | setStatus =>
      unfold ShadowRun.step at hstep
      dsimp only at hstep
      split at hstep
      next =>
        cases hstep
        exact fun _ hactive => by cases hactive
      next =>
        cases hstep
        exact startRemoval_sound (fun _ hactive => by cases hactive) false
      next => cases hstep
  | discard =>
      unfold ShadowRun.step at hstep
      dsimp only at hstep
      split at hstep
      next hrest =>
        split at hstep
        next =>
          cases hstep
          exact h.whole_of_resting hrest
        next =>
          cases hstep
          exact startRemoval_sound (h.whole_of_resting hrest) true
      next => cases hstep
  | purge =>
      unfold ShadowRun.step at hstep
      dsimp only at hstep
      split at hstep
      next hrest =>
        split at hstep
        next =>
          cases hstep
          exact startRemoval_sound (h.whole_of_resting hrest) false
        next =>
          cases hstep
          exact h.whole_of_resting hrest
      next => cases hstep
  | remove side p =>
      unfold ShadowRun.step at hstep
      dsimp only at hstep
      split at hstep
      next discard touched root hphase hroot =>
        obtain ⟨root', hremoved, heq⟩ := Option.map_eq_some_iff.mp hstep
        cases heq
        unfold Sound at h
        rw [hphase] at h
        refine ⟨Option.some_ne_none _, fun hactive => ?_⟩
        have hstate := h.2 hactive
        cases touched with
        | true =>
            -- what was lost before stays lost
            rw [if_pos rfl] at hstate
            exact hstate.removed hroot hremoved
        | false =>
            by_cases hside : side = .mergeBackup
            · subst hside
              exact Whole.removed hstate hroot hremoved
            · rw [if_pos (by simp [hside])]
              exact Whole.lost hstate hroot hremoved hside
      next => cases hstep
  | removeRoot =>
      unfold ShadowRun.step at hstep
      dsimp only at hstep
      split at hstep
      next discard touched root hphase hroot =>
        split at hstep
        next =>
          cases hstep
          cases discard with
          | true => rfl
          | false => exact fun hsome => absurd rfl hsome
        next => cases hstep
      next => cases hstep
  | setDiscarded =>
      unfold ShadowRun.step at hstep
      dsimp only at hstep
      split at hstep
      next =>
        cases hstep
        exact fun _ hactive => by cases hactive
      next => cases hstep
  | crash =>
      cases hstep
      exact dead_sound h hsafe
  | dieMerging real backup =>
      unfold ShadowRun.step at hstep
      dsimp only at hstep
      split at hstep
      next =>
        cases hstep
        exact dead_sound h hsafe
      next root hroot =>
        split at hstep
        next hcan =>
          cases hstep
          exact mergedTo_sound (h.whole_of_resting hcan.1 (by simp [hroot])) hroot _ _
            (.inr (.inl rfl))
        next =>
          cases hstep
          exact dead_sound h hsafe

/-! ## Every crash -/

/-- A process that has died left what a later `create_shadow` recovers. -/
def Recoverable (s : ShadowRun) : Prop := s.phase = .dead → Recovers s

theorem phase_of_step {label : ShadowLabel} (hstep : s.step label = some s')
    (hdead : s'.phase = .dead) :
    label = .crash ∨ ∃ real backup, label = .dieMerging real backup := by
  have hcopied : ∀ root, (s.copiedTo root).phase ≠ .dead := by
    intro root
    unfold ShadowRun.copiedTo
    dsimp only
    split <;> exact Phase.noConfusion
  have hremoval : ∀ (s : ShadowRun) discard, (s.startRemoval discard).phase ≠ .dead := by
    intro s discard
    unfold ShadowRun.startRemoval
    dsimp only
    split
    · exact Phase.noConfusion
    · split <;> exact Phase.noConfusion
  cases label with
  | crash => exact .inl rfl
  | dieMerging real backup => exact .inr ⟨real, backup, rfl⟩
  | remove side p =>
      unfold ShadowRun.step at hstep
      dsimp only at hstep
      split at hstep
      next =>
        obtain ⟨root', -, heq⟩ := Option.map_eq_some_iff.mp hstep
        cases heq
        cases hdead
      next => cases hstep
  | _ =>
      unfold ShadowRun.step at hstep
      dsimp only at hstep
      repeat' split at hstep
      all_goals cases hstep
      all_goals
        first
          | cases hdead
          | exact absurd hdead (hcopied _)
          | exact absurd hdead (hremoval _ _)

/-- A step leads to what can be recovered just when the process does not die in it or
may. -/
theorem step_recoverable_iff (h : Sound s) {label : ShadowLabel}
    (hstep : s.step label = some s') : Recoverable s' ↔ DiesSafely s label := by
  by_cases hdies : label = .crash ∨ ∃ real backup, label = .dieMerging real backup
  · have hcrash : Recoverable { s with phase := .dead } ↔ SafeCrash s := by
      have hsame : Recovers { s with phase := .dead } ↔ Recovers s := by
        rw [recovers_iff, recovers_iff]
        rfl
      rw [Recoverable, hsame, ← h.recovers_iff]
      exact ⟨fun hall => hall rfl, fun hrecovers _ => hrecovers⟩
    rcases hdies with rfl | ⟨real, backup, rfl⟩
    · cases hstep
      exact hcrash
    · unfold ShadowRun.step at hstep
      dsimp only at hstep
      split at hstep
      next =>
        cases hstep
        exact hcrash
      next root hroot =>
        split at hstep
        next hcan =>
          cases hstep
          have hdead : Sound (s.mergedTo root real backup .dead) :=
            mergedTo_sound (h.whole_of_resting hcan.1 (by simp [hroot])) hroot _ _ (.inr (.inl rfl))
          -- what the merge touches does not count
          have hsame : SafeCrash (s.mergedTo root real backup .dead) ↔ SafeCrash s := by
            have hwhole : s.phase.whole = true := by
              cases hphase : s.phase <;> first | rfl | (rw [hphase] at hcan; cases hcan.1)
            unfold SafeCrash
            rw [hwhole]
            refine or_congr (iff_of_false (Option.some_ne_none _) ?_) Iff.rfl
            simp [hroot]
          show Recoverable _ ↔ SafeCrash s
          rw [← hsame, ← hdead.recovers_iff]
          exact ⟨fun hall => hall rfl, fun hrecovers _ => hrecovers⟩
        next =>
          cases hstep
          exact hcrash
  · refine iff_of_true (fun hdead => absurd (phase_of_step hstep hdead) hdies) ?_
    cases label with
    | crash => exact absurd (.inl rfl) hdies
    | dieMerging real backup => exact absurd (.inr ⟨real, backup, rfl⟩) hdies
    | _ => trivial

end

/-- A run of which nothing is there but its workspace. -/
def ShadowRun.start (real : FileTree) : ShadowRun := ⟨real, none, none, .idle, none⟩

/-- A later `create_shadow` recovers a run after each of its crashes just when the process
dies only where it may. -/
theorem crashes_recoverable_iff (real : FileTree) (labels : List ShadowLabel) :
    (∀ n s, shadowSystem.run (.start real) (labels.take n) = some s → Recoverable s)
      ↔ shadowSystem.Along DiesSafely (.start real) labels := by
  refine @System.run_good_along_iff _ _ shadowSystem Sound Recoverable DiesSafely
    (fun _ _ _ hs hsafe hstep => step_staysSound hs hsafe hstep)
    (fun _ _ _ hs _ hstep => step_recoverable_iff hs hstep) (fun s label hunsafe => ?_)
    (.start real) (fun hsome => absurd rfl hsome) (fun hdead => by cases hdead) labels
  cases label with
  | crash => exact ⟨_, rfl⟩
  | dieMerging real backup =>
      show ∃ s', s.step (.dieMerging real backup) = some s'
      unfold ShadowRun.step
      dsimp only
      split
      · exact ⟨_, rfl⟩
      · split
        · exact ⟨_, rfl⟩
        · exact ⟨_, rfl⟩
  | _ => exact absurd trivial hunsafe

/-- The two copies of a directory with one file are made, and the row is written. -/
def createLabels : List ShadowLabel :=
  [.create, .makeTree .baseline, .copyEntry .baseline ["d"] none,
    .copyEntry .baseline ["d", "a"] none, .makeTree .shadow, .copyEntry .shadow ["d"] none,
    .copyEntry .shadow ["d", "a"] none, .insertRow]

/-- The row is active and the file is missing in the shadow. -/
def fileMissing (s : ShadowRun) : Bool :=
  match s.root, s.work with
  | some root, some work =>
      match root .baseline, root .shadow with
      | some _, some t => s.row = some .active ∧ s.phase = .dead ∧ t.node ["d", "a"] = none
          ∧ work.2.node ["d", "a"] ≠ none
      | _, _ => false
  | _, _ => false

/-- A `create_shadow` that dies before it writes its row leaves a directory that every
later call refuses; a `discard_run` that dies in its removal leaves an active shadow
without a file. -/
theorem died_in_create_and_in_discard :
    (∃ s, shadowSystem.run (.start directoryTree) [.create, .crash] = some s
        ∧ createShadow s = .fileExists ∧ createShadow (purgeTerminalArtifacts s) = .fileExists
        ∧ ¬ Recoverable s)
      ∧ ∃ s, shadowSystem.run (.start directoryTree)
          (createLabels ++ [.discard, .remove .shadow ["d", "a"], .crash]) = some s
        ∧ (∃ baseline t, createShadow s = .existing baseline (some t)
          ∧ t.node ["d", "a"] = none)
        ∧ ¬ Recoverable s := by
  refine ⟨⟨_, rfl, rfl, rfl, fun hrecoverable => ?_⟩, ?_⟩
  · rcases recovers_iff.mp (hrecoverable rfl) with hnone | (hmerged | hdiscarded) | ⟨hactive, -⟩
    · cases hnone
    · cases hmerged
    · cases hdiscarded
    · cases hactive
  · have hmissing : ((shadowSystem.run (.start directoryTree)
        (createLabels ++ [.discard, .remove .shadow ["d", "a"], .crash])).any fileMissing)
        = true := by
      decide +kernel
    obtain ⟨s, hrun, hmissing⟩ := Option.any_eq_true _ _ |>.mp hmissing
    refine ⟨s, hrun, ?_⟩
    unfold fileMissing at hmissing
    split at hmissing
    next root work hroot hwork =>
      split at hmissing
      next baseline t hbaseline hshadow =>
        obtain ⟨hactive, hdead, hgone, hthere⟩ := of_decide_eq_true hmissing
        refine ⟨⟨baseline, t, ?_, hgone⟩, fun hrecoverable => ?_⟩
        · rw [createShadow_of_active hroot hactive, hbaseline, hshadow]
        · have hlost : Lost s := by
            refine ⟨root, work, .shadow, work.2, ["d", "a"], hroot, hwork, rfl, hthere, ?_⟩
            intro t' ht'
            rw [hshadow] at ht'
            obtain rfl := Option.some.inj ht'
            exact hgone
          rcases recovers_iff.mp (hrecoverable hdead) with hnone | hterminal | ⟨-, hwhole⟩
          · rw [hroot] at hnone
            cases hnone
          · exact not_terminal_of_active hactive hterminal
          · exact hlost.not_whole hwhole
      next => cases hmissing
    next => cases hmissing

end Navi.Workspaces
