import Navi.Workspaces.Rollback

/-!
# Running an interrupted merge again

A `merge_run` that dies restores nothing: the row still says `active`, the baseline
and the shadow are there, and the real workspace has what the loop got to. Run again,
the merge takes a new fingerprint of that, with the links leading where they lead by
then, and finds its changed paths and its conflicts anew.
-/

namespace Navi.Workspaces

open Navi.Base FileTree
open Navi.StateGraph (MergeStatus)

/-! ## Dying, and running again -/

/-- `status` of a row of `shadow_workspaces`. -/
inductive ShadowStatus where
  | active
  | merged
  | conflicted
  | discarded
  deriving DecidableEq

/-- `merge_run` of a run that has a row, up to the removal of its artifacts: what it
returns, and the status that it sets. -/
def mergeRun (call : Call) (baseline shadow : FileTree) : Merging (Merged × ShadowStatus) := do
  let result ← mergeBack call baseline shadow
  return (result, if result.status = .conflicted then .conflicted else .merged)

/-- Where a `merge_run` dies: at an operation of the loop, or when `merge_back` has
returned and the status is not set yet. -/
inductive CrashPoint where
  | loop (point : Failure)
  | beforeStatus
  deriving DecidableEq

/-- A `merge_run` that dies, with the trees it started from. -/
structure Interruption where
  call : Call
  baseline : FileTree
  shadow : FileTree
  real : FileTree
  crash : CrashPoint

/-- The directories above its path that an operation finds made. -/
def ApplyOp.made (p : Path) : ApplyOp → List Path
  | .unlink => []
  | .mkdir dir => ancestors dir
  | .copy _ | .rename => ancestors p

/-- The directories that the path at which the merge dies has above it by then. -/
def CrashPoint.made : CrashPoint → List Path
  | .loop point => point.op.made point.path
  | .beforeStatus => []

/-- The merge dies with a temporary in the real workspace. -/
def CrashPoint.leavesTemp : CrashPoint → Bool
  | .loop point => point.op.leavesTemp
  | .beforeStatus => false

/-- The paths that the loop is done with. -/
def CrashPoint.passed (changed : List Path) : CrashPoint → List Path
  | .loop point => changed.takeWhile fun p => p ≠ point.path
  | .beforeStatus => changed

/-- What a fingerprint covers of a content. -/
def coveredAs (resolves : Path → Bytes → Bool) (p : Path) : Option Content → Option Content
  | some (.link target) => if inWorkspace p && !resolves p target then some (.link target) else none
  | content => if inWorkspace p then content else none

/-- What a path has after its verdict. -/
def Verdict.outcome {α : Type} (shadow current : α) : Verdict → α
  | .take => shadow
  | .keep | .conflict => current

/-- The merge can save and apply its changes. -/
structure Mergeable (call : Call) (baseline shadow real : FileTree) : Prop where
  saved : Savable call real fun p => covered baseline p ≠ covered shadow p
  applicable : ∀ p, verdict baseline shadow real p = .take → Applicable shadow real p

namespace Interruption

variable (i : Interruption)

/-- `agent_changed`. -/
abbrev changed : List Path := agentChanged i.call.sha256 i.baseline i.shadow i.real

/-- The real workspace that the merge leaves when it dies, if it gets there. -/
def stopped : Option FileTree :=
  match i.crash with
  | .loop point =>
      if conflictPaths i.call.sha256 i.baseline i.shadow i.real ≠ [] then none
      else match backupRealFiles i.call i.real i.changed [] i.real with
        | .error _ _ => none
        | .ok _ _ =>
            match applyChanged { i.call with fault := some point } i.shadow i.real i.changed false
              i.real with
            | .ok _ _ => none
            | .error e left => if e = .apply point then some left else none
  | .beforeStatus =>
      match mergeRun i.call i.baseline i.shadow i.real with
      | .error _ _ => none
      | .ok _ left => some left

/-- The call of the second run: it draws another name, and links may lead elsewhere. -/
def again (uuid : String) (resolves : Path → Bytes → Bool) (behind : Behind) : Call :=
  { i.call with uuid, resolves, behind }

/-- Run again, the merge reports no conflict and leaves the contents that a merge
leaves which nothing interrupts. -/
def Finishes (uuid : String) (resolves : Path → Bytes → Bool) (behind : Behind)
    (left : FileTree) : Prop :=
  ∃ whole expected, mergeRun i.call i.baseline i.shadow i.real = .ok whole expected
    ∧ ∃ result done,
      mergeRun (i.again uuid resolves behind) i.baseline i.shadow (left.relink resolves)
        = .ok result done
      ∧ result.1.status ≠ .conflicted ∧ ∀ p, done.content p = expected.content p

/-- The path has been given the shadow's content. -/
def Given (p : Path) : Prop :=
  p ∈ i.crash.passed i.changed ∧ verdict i.baseline i.shadow i.real p = .take

instance (p : Path) : Decidable (i.Given p) := inferInstanceAs (Decidable (_ ∧ _))

/-- The tree that a path has its content from when the merge dies. -/
def origin (p : Path) : FileTree := if i.Given p then i.shadow else i.real

/-- What a path has when the merge dies. -/
def contentAt (p : Path) : Option Content := (i.origin p).content p

/-- There is a directory at the path that the merge made. -/
def Made (p : Path) : Prop :=
  (∃ q, i.Given q ∧ i.shadow.node q ≠ none ∧ p ∈ ancestors q) ∨ p ∈ i.crash.made

/-- What the second run makes of a path. -/
def secondVerdict (resolves : Path → Bytes → Bool) (p : Path) : Verdict :=
  threeWay (covered i.baseline p) (covered i.shadow p) (coveredAs resolves p (i.contentAt p))

/-- What an interruption must be for the merge to be finished: no temporary is left, no
changed path is by then below a link to a directory or a directory that was made, and
a link at a changed path that by then leads to a directory, or no longer does, is the
shadow's, with the baseline or the shadow having the same there for a fingerprint. -/
structure Resumable (resolves : Path → Bytes → Bool) : Prop where
  clean : i.crash.leavesTemp = false
  merges : Mergeable i.call i.baseline i.shadow i.real
  straight : ∀ p, covered i.baseline p ≠ covered i.shadow p → ∀ q ∈ ancestors p, ∀ target,
    i.contentAt q = some (.link target) → resolves q target = false
  notMade : ∀ p, covered i.baseline p ≠ covered i.shadow p → ¬ i.Made p
  links : ∀ p, covered i.baseline p ≠ covered i.shadow p → ∀ target toDir,
    (i.origin p).node p = some (.link target toDir) → resolves p target ≠ toDir →
      i.shadow.content p = some (.link target)
        ∧ coveredAs resolves p (some (.link target)) ∈ [covered i.baseline p, covered i.shadow p]

/-- No changed path is below a link to a directory, neither when the merge starts nor in
what it leaves when it dies. -/
def Straight (resolves : Path → Bytes → Bool) (left : FileTree) : Prop :=
  ∀ p, covered i.baseline p ≠ covered i.shadow p →
    i.real.throughLink p = false ∧ i.shadow.throughLink p = false
      ∧ (left.relink resolves).throughLink p = false

end Interruption

/-! ## Where the loop stands -/

/-- The loop has given these paths the shadow's content, and made these directories
besides those above the paths. -/
structure Stands (shadow real : FileTree) (applied : Set Path) (made : List Path)
    (now : FileTree) : Prop where
  appliedTo : AppliedTo shadow real applied now
  straight : ∀ p ∈ applied, shadow.throughLink p = false
  above : ∀ p, now.node p = some .dir → real.node p = some .dir
    ∨ (∃ q ∈ applied, shadow.node q ≠ none ∧ p ∈ ancestors q) ∨ p ∈ made
  made : ∀ p ∈ made, now.node p = some .dir

section

variable {call : Call} {baseline shadow real now : FileTree} {changed : List Path}
  {applied : Set Path} {p q : Path}

theorem makeDirs_stopped (fails : Path → Bool) (error : Path → MergeError) (dirs : List Path)
    (before : FileTree) :
    Triple (fun t => t = before) (makeDirs fails error dirs) (fun _ _ => True)
      (fun e t => ∃ made dir rest, dirs = made ++ dir :: rest ∧ e = error dir
        ∧ Grown made before t
        ∧ ∀ q ∈ made, t.node q = some .dir ∨ ∃ target, t.node q = some (.link target true)) := by
  induction dirs generalizing before with
  | nil => exact Triple.pure fun _ _ => trivial
  | cons dir rest ih =>
      rintro t rfl
      rcases makeDirs_cons fails error dir rest t with
        ⟨hthere, hrun⟩ | ⟨hfree, hnone, -, hrun⟩ | ⟨-, hrun⟩
      · rw [hrun]
        have hrest := ih t t rfl
        split at hrest
        next => trivial
        next e t' _ =>
          obtain ⟨made, other, rest', rfl, he, hgrown, hdirs⟩ := hrest
          refine ⟨dir :: made, other, rest', rfl, he, hgrown.cons, ?_⟩
          have hsame : t'.node dir = t.node dir :=
            hgrown.of_some (by rcases hthere with h | ⟨_, h⟩ <;> simp [h])
          exact List.forall_mem_cons.mpr ⟨by rw [hsame]; exact hthere, hdirs⟩
      · rw [hrun]
        have hrest := ih (t.put dir .dir hfree) (t.put dir .dir hfree) rfl
        split at hrest
        next => trivial
        next e t' _ =>
          obtain ⟨made, other, rest', rfl, he, hgrown, hdirs⟩ := hrest
          refine ⟨dir :: made, other, rest', rfl, he, hgrown.of_put hnone, ?_⟩
          have hput : (t.put dir .dir hfree).node dir = some .dir := by
            rw [node_put, if_pos rfl]
          have hsame : t'.node dir = some .dir := (hgrown.of_some (by simp [hput])).trans hput
          exact List.forall_mem_cons.mpr ⟨.inl hsame, hdirs⟩
      · rw [hrun]
        exact ⟨[], dir, rest, rfl, rfl, .refl [] t, fun q hq => absurd hq List.not_mem_nil⟩

theorem ancestors_split {dir : Path} {made rest : List Path}
    (h : ancestors p = made ++ dir :: rest) : made = ancestors dir := by
  have hlength := congrArg List.length h
  rw [ancestors, List.length_map, List.length_range, List.length_append, List.length_cons]
    at hlength
  have hlt : made.length < p.length := by omega
  have hdir : p.take made.length = dir := by
    have hget := congrArg (fun dirs => dirs[made.length]?) h
    simpa [ancestors, List.getElem?_range hlt] using hget
  have hmade : (ancestors p).take made.length = made := by rw [h, List.take_left]
  rw [← hmade, ancestors, ancestors, ← List.map_take, List.take_range, Nat.min_eq_left hlt.le,
    ← hdir, List.length_take, Nat.min_eq_left hlt.le]
  refine List.map_congr_left fun n hn => ?_
  rw [List.take_take, Nat.min_eq_left (List.mem_range.mp hn).le]

/-- What an operation that leaves no temporary leaves when it fails. -/
def PathLeft (shadow now : FileTree) (p : Path) (op : ApplyOp) (t : FileTree) : Prop :=
  op = .unlink ∧ t = now
    ∨ shadow.node p ≠ none ∧ (∀ q ∈ op.made p, q ∈ ancestors p) ∧ Grown (op.made p) now t
      ∧ ∀ q ∈ op.made p, t.node q = some .dir ∨ ∃ target, t.node q = some (.link target true)

theorem copyAndReplace_dirs (call : Call) (source : Node) (p : Path) (before : FileTree) :
    Triple (fun t => t = before) (do
        copyPathOrSymlink call p source (tempPath call.uuid p)
        replace call (tempPath call.uuid p) p)
      (fun _ t => ∀ q, t.node q = some .dir → before.node q = some .dir)
      (fun e t => ∀ op, e = .apply ⟨p, op⟩ → op.leavesTemp = false →
        op = .copy none ∧ t = before) := by
  refine ((copyPathOrSymlink_spec call p source (tempPath call.uuid p) before).weaken
    (fun _ h => h) (fun _ _ h => h) ?_).bind fun _ => Triple.of_each ?_
  · rintro e t ⟨left, rfl, hleft, -⟩ op hop hleaves
    cases hop
    rcases hleft with ⟨rfl, rfl⟩ | ⟨-, bytes, rfl, -⟩
    · exact ⟨rfl, rfl⟩
    · cases hleaves
  · rintro t ⟨hnotDir, hfree, node, hnode, rfl⟩
    have hput : ∀ q, q ≠ tempPath call.uuid p → (before.put _ node hfree).node q = some .dir →
        before.node q = some .dir := by
      intro q hq hdir
      rwa [node_put, if_neg hq] at hdir
    refine (replace_spec call (tempPath call.uuid p) p _).weaken (fun _ h => h) ?_ ?_
    · rintro - t' ⟨content, hleaf, hfree', -, rfl⟩ q hdir
      rw [node_put] at hdir
      split at hdir
      next =>
        have hcontent := nodeAt_content call p content
        rw [Option.some.inj hdir] at hcontent
        cases hcontent
      next =>
        rw [node_erase] at hdir
        split at hdir
        · cases hdir
        next htemp => exact hput q htemp hdir
    · rintro e t' ⟨rfl, -, -⟩ op hop hleaves
      cases hop
      cases hleaves

theorem applyShadowFile_dirs (call : Call) (hstraight : now.throughLink p = false)
    (hshadow : shadow.throughLink p = false) :
    Triple (fun t => t = now) (applyShadowFile call shadow p)
      (fun _ t => ∀ q, t.node q = some .dir →
        now.node q = some .dir ∨ shadow.node p ≠ none ∧ q ∈ ancestors p)
      (fun e t => ∀ op, e = .apply ⟨p, op⟩ → op.leavesTemp = false →
        PathLeft shadow now p op t) := by
  rintro t rfl
  rw [applyShadowFile_run hstraight, source_of_straight hshadow]
  cases hnode : shadow.node p with
  | none =>
      have hremoval : Triple (fun t' => t' = t)
          (if (t.node p).isSome then unlink call p else pure () : Merging Unit)
          (fun _ t' => ∀ q, t'.node q = some .dir → t.node q = some .dir)
          (fun e t' => e = .apply ⟨p, .unlink⟩ ∧ t' = t) := by
        split
        · refine (unlink_spec call p t).weaken (fun _ h => h) ?_ fun e t' h => ⟨h.1, h.2.1⟩
          rintro - t' ⟨hleaf, rfl⟩ q hdir
          rw [node_erase] at hdir
          split at hdir
          · cases hdir
          · exact hdir
        · refine Triple.pure ?_
          rintro t' rfl q hdir
          exact hdir
      refine Triple.weaken hremoval (fun _ h => h) (fun _ _ hkept q hdir => ?_) ?_ t rfl
      · exact Or.inl (hkept q hdir)
      · rintro e t' ⟨rfl, rfl⟩ op hop -
        cases hop
        exact Or.inl ⟨rfl, rfl⟩
  | some node =>
      have hsome : shadow.node p ≠ none := by simp [hnode]
      have hdirs := (makeDirs_spec (fun dir => call.fault = some ⟨p, .mkdir dir⟩)
        (fun dir => .apply ⟨p, .mkdir dir⟩) (ancestors p) t).and
        (makeDirs_stopped (fun dir => call.fault = some ⟨p, .mkdir dir⟩)
          (fun dir => .apply ⟨p, .mkdir dir⟩) (ancestors p) t)
      refine (hdirs.weaken (fun _ h => h) (fun _ _ h => h.1) ?_).bind
        (fun _ => Triple.of_each ?_) t rfl
      · rintro e t' ⟨-, made, dir, rest, hsplit, rfl, hgrown, hthere⟩ op hop -
        cases hop
        refine .inr ⟨hsome, ?_⟩
        rw [ApplyOp.made, ← ancestors_split hsplit]
        exact ⟨fun q hq => hsplit ▸ List.mem_append_left _ hq, hgrown, hthere⟩
      · rintro t₁ ⟨hgrown, hthere⟩
        refine (copyAndReplace_dirs call node p t₁).weaken (fun _ h => h) ?_ ?_
        · intro _ t' hkept q hdir
          rcases hgrown q with hsame | ⟨habove, -, -⟩
          · exact .inl (hsame ▸ hkept q hdir)
          · exact .inr ⟨by simp, habove⟩
        · intro e t' hleft op hop hleaves
          obtain ⟨rfl, rfl⟩ := hleft op hop hleaves
          exact .inr ⟨hsome, fun _ hq => hq, hgrown, hthere⟩

theorem Stands.left {t : FileTree} {op : ApplyOp} (h : Stands shadow real applied [] now)
    (hstraight : now.throughLink p = false) (hleft : PathLeft shadow now p op t) :
    Stands shadow real applied (op.made p) t := by
  rcases hleft with ⟨rfl, rfl⟩ | ⟨hsome, hmade, hgrown, hthere⟩
  · exact h
  · have hwider : Grown (ancestors p) now t := fun q =>
      (hgrown q).imp_right fun hnew => ⟨hmade q hnew.1, hnew.2⟩
    refine ⟨h.appliedTo.grown hsome hwider, h.straight, fun q hdir => ?_, fun q hq => ?_⟩
    · rcases hgrown q with hsame | ⟨hmem, -, -⟩
      · rcases h.above q (hsame ▸ hdir) with hreal | hgiven | hnone
        · exact .inl hreal
        · exact .inr (.inl hgiven)
        · exact absurd hnone List.not_mem_nil
      · exact .inr (.inr hmem)
    · exact hgrown.dir_of_straight hstraight (hmade q hq) (hthere q hq)

theorem applyChanged_stands (hready : Ready call shadow real changed) {rest : List Path}
    (hrest : ∀ p ∈ rest, p ∈ changed) (hnodup : rest.Nodup)
    (happlied : ∀ q ∈ applied, q ∈ changed) (hnew : ∀ p ∈ rest, p ∉ applied)
    (hshadow : ∀ p ∈ changed, Differs call shadow real p → shadow.throughLink p = false)
    (hnow : Stands shadow real applied [] now) (before : Bool) :
    Triple (fun t => t = now) (applyChanged call shadow real rest before)
      (fun _ t => Stands shadow real (applied ∪ {p | p ∈ rest ∧ Differs call shadow real p}) [] t)
      (fun e t => ∀ point, e = .apply point → point.op.leavesTemp = false →
        ∃ done tail, rest = done ++ point.path :: tail
          ∧ Stands shadow real (applied ∪ {p | p ∈ done ∧ Differs call shadow real p})
            (point.op.made point.path) t) := by
  -- by induction on the paths to come, from the state after those before
  induction rest generalizing applied now before with
  | nil =>
      refine Triple.pure ?_
      rintro t rfl
      rwa [differing_nil]
  | cons p rest ih =>
      obtain ⟨hfresh, hnodup⟩ := List.nodup_cons.mp hnodup
      have hp := hrest p List.mem_cons_self
      have hrest' : ∀ q ∈ rest, q ∈ changed := fun q hq => hrest q (List.mem_cons_of_mem _ hq)
      rw [applyChanged]
      split
      next hsame =>
        have hnot : ¬ Differs call shadow real p := not_not.mpr hsame
        refine (ih hrest' hnodup happlied (fun q hq => hnew q (List.mem_cons_of_mem _ hq)) hnow
          before).weaken (fun _ h => h) ?_ ?_
        · intro _ t hstands
          rwa [differing_cons_of_not hnot]
        · intro e t hstopped point he hleaves
          obtain ⟨done, tail, rfl, hstands⟩ := hstopped point he hleaves
          exact ⟨p :: done, tail, rfl, by rwa [differing_cons_of_not hnot]⟩
      next hdiffers =>
        have hstraight := hnow.appliedTo.straight hready hp happlied hdiffers
        have hpath := (applyShadowFile_spec hready hp happlied (hnew p List.mem_cons_self) hdiffers
          hnow.appliedTo).and (applyShadowFile_dirs call hstraight (hshadow p hp hdiffers))
        refine (hpath.weaken (fun _ h => h) (fun _ _ h => h) ?_).bind fun _ => Triple.of_each ?_
        · rintro e t ⟨hstopped, hdirs⟩ point rfl hleaves
          obtain ⟨op, hop, -⟩ := hstopped
          cases hop
          refine ⟨[], rest, rfl, ?_⟩
          rw [differing_nil]
          exact hnow.left hstraight (hdirs op rfl hleaves)
        · rintro t ⟨⟨hthen, -⟩, hdirs⟩
          have hstands : Stands shadow real (insert p applied) [] t := by
            refine ⟨hthen, ?_, fun q hdir => ?_, fun q hq => absurd hq List.not_mem_nil⟩
            · rintro q (rfl | hq)
              · exact hshadow q hp hdiffers
              · exact hnow.straight q hq
            rcases hdirs q hdir with hdir' | ⟨hsome, habove⟩
            · rcases hnow.above q hdir' with hreal | ⟨r, hr, hgiven⟩ | hnone
              · exact .inl hreal
              · exact .inr (.inl ⟨r, .inr hr, hgiven⟩)
              · exact absurd hnone List.not_mem_nil
            · exact .inr (.inl ⟨p, .inl rfl, hsome, habove⟩)
          refine (ih hrest' hnodup ?_ ?_ hstands true).weaken (fun _ h => h) ?_ ?_
          · rintro q (rfl | hq)
            · exact hp
            · exact happlied q hq
          · rintro q hq (rfl | hmem)
            · exact hfresh hq
            · exact hnew q (List.mem_cons_of_mem _ hq) hmem
          · intro _ t' hstands'
            rwa [differing_cons hdiffers]
          · intro e t' hstopped point he hleaves
            obtain ⟨done, tail, rfl, hstands'⟩ := hstopped point he hleaves
            exact ⟨p :: done, tail, rfl, by rwa [differing_cons hdiffers]⟩

/-! ## A merge that was run -/

theorem covered_relink (t : FileTree) (resolves : Path → Bytes → Bool) (p : Path) :
    covered (t.relink resolves) p = coveredAs resolves p (t.content p) := by
  unfold covered walked
  rw [content_relink, node_relink]
  by_cases hin : inWorkspace p
  · rw [FileTree.content]
    cases t.node p with
    | none => simp [coveredAs]
    | some node =>
        cases node with
        | dir => simp [coveredAs, Node.relink, Node.content?]
        | file content => simp [coveredAs, hin, Node.relink, Node.content?]
        | link target toDir =>
            cases hlink : resolves p target <;>
              simp [coveredAs, hin, hlink, Node.relink, Node.content?]
  · cases t.content p with
    | none => simp [coveredAs, hin]
    | some content => cases content <;> simp [coveredAs, hin]

theorem throughLink_relink_iff {t : FileTree} {resolves : Path → Bytes → Bool} :
    (t.relink resolves).throughLink p = false
      ↔ ∀ q ∈ ancestors p, ∀ target, t.content q = some (.link target) →
        resolves q target = false := by
  rw [throughLink, List.any_eq_false]
  refine forall₂_congr fun q _ => ?_
  rw [node_relink, FileTree.content]
  cases t.node q with
  | none => simp
  | some node =>
      cases node with
      | dir => simp [Node.relink, Node.content?]
      | file content => simp [Node.relink, Node.content?]
      | link target toDir => simp [Node.relink, Node.content?]

theorem freshName_relink {uuid : String} {t : FileTree} (h : FreshName uuid t)
    (resolves : Path → Bytes → Bool) : FreshName uuid (t.relink resolves) :=
  fun p => node_relink_eq_none_iff.mpr (h p)

theorem mergeRun_eq (t : FileTree) :
    mergeRun call baseline shadow t = match mergeBack call baseline shadow t with
      | .ok merged done =>
          .ok (merged, if merged.status = .conflicted then .conflicted else .merged) done
      | .error e done => .error e done := by
  unfold mergeRun
  simp only [bind, EStateM.bind]
  cases mergeBack call baseline shadow t <;> rfl

theorem mergeRun_clean {result : Merged × ShadowStatus} {done : FileTree}
    (h : mergeRun call baseline shadow real = .ok result done)
    (hclean : result.1.status ≠ .conflicted) :
    conflictPaths call.sha256 baseline shadow real = []
      ∧ (∀ p ∈ agentChanged call.sha256 baseline shadow real, call.there real p ≠ some .dir)
      ∧ ∃ applied, applyChanged call shadow real (agentChanged call.sha256 baseline shadow real)
        false real = .ok applied done := by
  rw [mergeRun_eq] at h
  by_cases hconflicts : conflictPaths call.sha256 baseline shadow real = []
  · refine ⟨hconflicts, ?_⟩
    rcases backupRealFiles_spec call baseline shadow real with
      ⟨hsaved, saved, hbackup, -⟩ | ⟨-, e, hbackup⟩
    · refine ⟨hsaved.leaf, ?_⟩
      cases hrun : applyChanged call shadow real
          (agentChanged call.sha256 baseline shadow real) false real with
      | ok applied now =>
          rw [mergeBack_applied hconflicts hbackup hrun] at h
          cases h
          exact ⟨applied, rfl⟩
      | error e now =>
          rw [mergeBack_failed hconflicts hbackup hrun] at h
          split at h
          next hended => split at hended <;> cases hended
          next => cases h
    · rw [mergeBack_unsaved hconflicts hbackup] at h
      cases h
  · rw [mergeBack_conflicted hconflicts] at h
    simp only [bind, EStateM.bind] at h
    cases hwrite : writeConflicts call real shadow
        (conflictPaths call.sha256 baseline shadow real) real with
    | ok _ t =>
        rw [hwrite] at h
        cases h
        exact absurd rfl hclean
    | error e t =>
        rw [hwrite] at h
        cases h

/-- Without conflicts, and where no path that is taken leads through a link to a directory,
a run takes what the verdicts take if it can, and raises if not. -/
theorem mergeRun_took (hfault : call.fault = none) (hdigest : ToldApart call baseline shadow real)
    (hbaseline : FreshName call.uuid baseline) (hshadow : FreshName call.uuid shadow)
    (hreal : FreshName call.uuid real) (hnone : ∀ p, verdict baseline shadow real p ≠ .conflict)
    (hstraight : TakesStraight baseline shadow real) :
    Mergeable call baseline shadow real ∧ (∃ result applied done,
        mergeRun call baseline shadow real = .ok result done ∧ result.1.status ≠ .conflicted
          ∧ Took baseline shadow real applied done)
      ∨ ¬ Mergeable call baseline shadow real
        ∧ ∃ e t, mergeRun call baseline shadow real = .error e t := by
  have hconflicts := (conflictPaths_eq_nil_iff hdigest).mpr hnone
  rw [mergeRun_eq]
  rcases backupRealFiles_spec call baseline shadow real with
    ⟨hsaved, saved, hbackup, -⟩ | ⟨hunsaved, e, hbackup⟩
  · rcases applyChanged_took hfault hdigest hbaseline hshadow hreal hnone hsaved.leaf hstraight with
      ⟨applied, done, hrun, htook, hcan⟩ | ⟨⟨e, t, hrun⟩, hcannot⟩
    · refine .inl ⟨⟨(savable_changed_iff hdigest).mp hsaved, hcan⟩, ?_⟩
      rw [mergeBack_applied hconflicts hbackup hrun]
      refine ⟨_, applied, done, rfl, ?_, htook⟩
      cases applied <;> exact MergeStatus.noConfusion
    · refine .inr ⟨fun hmerges => hcannot hmerges.applicable, ?_⟩
      rw [mergeBack_failed hconflicts hbackup hrun]
      cases restoreRealFiles call saved (agentChanged call.sha256 baseline shadow real) t with
      | ok _ restored => exact ⟨e, restored, rfl⟩
      | error e' restored => exact ⟨e', restored, rfl⟩
  · refine .inr ⟨fun hmerges => hunsaved ((savable_changed_iff hdigest).mpr hmerges.saved), ?_⟩
    rw [mergeBack_unsaved hconflicts hbackup]
    exact ⟨e, real, rfl⟩

theorem Took.outcome {applied : Bool} {done : FileTree} (h : Took baseline shadow real applied done)
    (p : Path) :
    done.content p = (verdict baseline shadow real p).outcome (shadow.content p)
      (real.content p) := by
  cases hverdict : verdict baseline shadow real p with
  | take => exact h.taken p hverdict
  | keep => exact h.kept p (by simp [hverdict])
  | conflict => exact h.kept p (by simp [hverdict])

end

/-! ## The interrupted merge -/

/-- What the merge may find: its digest tells the contents apart, nothing has the names
that it draws, and no path is in conflict. -/
structure Interruption.Plain (i : Interruption) : Prop where
  faultless : i.call.fault = none
  digest : ToldApart i.call i.baseline i.shadow i.real
  names : ∀ t ∈ [i.baseline, i.shadow, i.real], FreshName i.call.uuid t
  conflictFree : conflictPaths i.call.sha256 i.baseline i.shadow i.real = []

namespace Interruption

section

variable {i : Interruption} {left : FileTree} {uuid : String}
  {resolves : Path → Bytes → Bool} {behind : Behind} {p q : Path}

theorem Plain.verdicts (h : i.Plain) : ∀ p, verdict i.baseline i.shadow i.real p ≠ .conflict :=
  (conflictPaths_eq_nil_iff h.digest).mp h.conflictFree

theorem Plain.straightAt (h : i.Plain) (hstraight : TakesStraight i.baseline i.shadow i.real)
    (p : Path) (hp : p ∈ i.changed) (hdiffers : Differs i.call i.shadow i.real p) :
    i.real.throughLink p = false ∧ i.shadow.throughLink p = false :=
  hstraight p ((differs_iff_take h.digest h.verdicts).mp ⟨hp, hdiffers⟩)

theorem Plain.readyAt (h : i.Plain) (hstraight : TakesStraight i.baseline i.shadow i.real)
    (hsaved : ∀ p ∈ i.changed, i.call.there i.real p ≠ some .dir) (fault : Option Failure) :
    Ready { i.call with fault } i.shadow i.real i.changed :=
  @ready_of_saved { i.call with fault } _ _ _ (h.names i.baseline (by simp))
    (h.names i.shadow (by simp)) (h.names i.real (by simp)) hsaved fun p hp hdiffers =>
      (h.straightAt hstraight p hp hdiffers).1

theorem Plain.ran (h : i.Plain) (hstraight : TakesStraight i.baseline i.shadow i.real) :
    Mergeable i.call i.baseline i.shadow i.real ∧ (∃ result applied done,
        mergeRun i.call i.baseline i.shadow i.real = .ok result done
          ∧ result.1.status ≠ .conflicted ∧ Took i.baseline i.shadow i.real applied done)
      ∨ ¬ Mergeable i.call i.baseline i.shadow i.real
        ∧ ∃ e t, mergeRun i.call i.baseline i.shadow i.real = .error e t :=
  mergeRun_took h.faultless h.digest (h.names i.baseline (by simp)) (h.names i.shadow (by simp))
    (h.names i.real (by simp)) h.verdicts hstraight

theorem Plain.ended (h : i.Plain) (hstraight : TakesStraight i.baseline i.shadow i.real)
    {whole : Merged × ShadowStatus} {expected : FileTree}
    (hwhole : mergeRun i.call i.baseline i.shadow i.real = .ok whole expected) :
    Mergeable i.call i.baseline i.shadow i.real ∧ whole.1.status ≠ .conflicted
      ∧ ∃ applied, Took i.baseline i.shadow i.real applied expected := by
  rcases h.ran hstraight with
    ⟨hmerges, result, applied, done, hrun, hstatus, htook⟩ | ⟨-, e, t, hrun⟩
  · rw [hwhole] at hrun
    cases hrun
    exact ⟨hmerges, hstatus, applied, htook⟩
  · rw [hwhole] at hrun
    cases hrun

theorem Plain.loop_stopped {point : Failure} (h : i.Plain) (hstopped : i.stopped = some left)
    (hcrash : i.crash = .loop point) :
    (∀ p ∈ i.changed, i.call.there i.real p ≠ some .dir)
      ∧ applyChanged { i.call with fault := some point } i.shadow i.real i.changed false i.real
        = .error (.apply point) left := by
  unfold stopped at hstopped
  rw [hcrash] at hstopped
  dsimp only at hstopped
  rw [if_neg (not_not.mpr h.conflictFree)] at hstopped
  rcases backupRealFiles_spec i.call i.baseline i.shadow i.real with
    ⟨hsaved, saved, hbackup, -⟩ | ⟨-, e, hbackup⟩
  · refine ⟨hsaved.leaf, ?_⟩
    rw [hbackup] at hstopped
    dsimp only at hstopped
    split at hstopped
    next => cases hstopped
    next e _ hrun =>
      by_cases he : e = .apply point
      · rw [if_pos he] at hstopped
        cases hstopped
        rw [hrun, he]
      · rw [if_neg he] at hstopped
        cases hstopped
  · rw [hbackup] at hstopped
    cases hstopped

theorem Plain.stands (h : i.Plain) (hstraight : TakesStraight i.baseline i.shadow i.real)
    (hstopped : i.stopped = some left) (hclean : i.crash.leavesTemp = false) :
    Stands i.shadow i.real {p | i.Given p} i.crash.made left := by
  have hstart : Stands i.shadow i.real ∅ [] i.real :=
    ⟨appliedTo_empty i.shadow i.real, fun _ hp => hp.elim, fun _ hdir => .inl hdir,
      fun _ hp => absurd hp List.not_mem_nil⟩
  have hshadow : ∀ p ∈ i.changed, Differs i.call i.shadow i.real p →
      i.shadow.throughLink p = false :=
    fun p hp hdiffers => (h.straightAt hstraight p hp hdiffers).2
  have hgiven : ∀ passed, i.crash.passed i.changed = passed → (∀ p ∈ passed, p ∈ i.changed) →
      ∅ ∪ {p | p ∈ passed ∧ Differs i.call i.shadow i.real p} = {p | i.Given p} := by
    intro passed hpassed hsub
    ext p
    simp only [Set.empty_union, Set.mem_ofPred_eq, Given, hpassed,
      ← differs_iff_take h.digest h.verdicts]
    exact ⟨fun hp => ⟨hp.1, hsub p hp.1, hp.2⟩, fun hp => ⟨hp.1, hp.2.2⟩⟩
  cases hcrash : i.crash with
  | loop point =>
      rw [hcrash] at hclean
      obtain ⟨hsaved, hrun⟩ := h.loop_stopped hstopped hcrash
      have hloop := applyChanged_stands (h.readyAt hstraight hsaved (some point)) (fun _ hp => hp)
        (agentChanged_nodup _ _ _ _) (fun _ hq => hq.elim) (fun _ _ hq => hq.elim) hshadow hstart
        false i.real rfl
      rw [hrun] at hloop
      obtain ⟨done, tail, hsplit, hstands⟩ := hloop point rfl hclean
      have hnotMem : point.path ∉ done := by
        have hnodup : i.changed.Nodup := agentChanged_nodup _ _ _ _
        rw [hsplit] at hnodup
        exact fun hmem => (List.nodup_append.mp hnodup).2.2 _ hmem _ List.mem_cons_self rfl
      have hpassed : i.crash.passed i.changed = done := by
        rw [hcrash, CrashPoint.passed, hsplit, List.takeWhile_append_of_pos]
        · simp
        · intro p hp
          exact decide_eq_true fun heq => hnotMem (heq ▸ hp)
      rw [← hgiven done hpassed fun p hp => hsplit ▸ List.mem_append_left _ hp]
      exact hstands
  | beforeStatus =>
      unfold stopped at hstopped
      rw [hcrash] at hstopped
      dsimp only at hstopped
      split at hstopped
      next => cases hstopped
      next result _ hrun =>
        cases hstopped
        obtain ⟨-, hsaved, applied, hloop⟩ := mergeRun_clean hrun (h.ended hstraight hrun).2.1
        have hspec := applyChanged_stands (h.readyAt hstraight hsaved i.call.fault) (fun _ hp => hp)
          (agentChanged_nodup _ _ _ _) (fun _ hq => hq.elim) (fun _ _ hq => hq.elim) hshadow hstart
          false i.real rfl
        rw [hloop] at hspec
        rw [← hgiven i.changed (by rw [hcrash]; rfl) fun p hp => hp]
        exact hspec

theorem content_of_stands (h : Stands i.shadow i.real {p | i.Given p} i.crash.made left) :
    left.content p = i.contentAt p := by
  unfold contentAt origin
  by_cases hgiven : i.Given p
  · rw [if_pos hgiven, h.appliedTo.content p hgiven (h.straight p hgiven)]
  · rw [if_neg hgiven, (h.appliedTo.others p hgiven).content]

theorem dir_iff_made (h : Stands i.shadow i.real {p | i.Given p} i.crash.made left)
    (hreal : i.real.node p ≠ some .dir) : left.node p = some .dir ↔ i.Made p := by
  constructor
  · intro hdir
    rcases h.above p hdir with hthere | ⟨q, hq, hgiven⟩ | hmade
    · exact absurd hthere hreal
    · exact .inl ⟨q, hq, hgiven⟩
    · exact .inr hmade
  · rintro (⟨q, hq, hsome, habove⟩ | hmade)
    · -- what was given is there, and so are the directories above it
      obtain ⟨hpre, hne⟩ := mem_ancestors.mp habove
      refine dir_of_above hpre hne fun hnone => ?_
      have hcontent := h.appliedTo.content q hq (h.straight q hq)
      rw [content_eq_none_iff.mpr (.inl hnone)] at hcontent
      rcases content_eq_none_iff.mp hcontent.symm with hmissing | hdir
      · exact hsome hmissing
      · exact h.appliedTo.shadowFile q hq hdir
    · exact h.made p hmade

theorem verdict_relink (h : Stands i.shadow i.real {p | i.Given p} i.crash.made left) :
    verdict i.baseline i.shadow (left.relink resolves) p = i.secondVerdict resolves p := by
  rw [verdict, secondVerdict, covered_relink, content_of_stands h]

theorem saved_again_iff (h : Stands i.shadow i.real {p | i.Given p} i.crash.made left)
    (hreal : i.real.node p ≠ some .dir) (hstraight : (left.relink resolves).throughLink p = false) :
    (i.again uuid resolves behind).there (left.relink resolves) p ≠ some .dir ↔ ¬ i.Made p := by
  rw [Call.there, found, hstraight, if_neg Bool.false_ne_true, ne_eq, node_relink_eq_dir_iff,
    dir_iff_made h hreal]

theorem straight_again_iff (h : Stands i.shadow i.real {p | i.Given p} i.crash.made left) :
    (left.relink resolves).throughLink p = false ↔ ∀ q ∈ ancestors p, ∀ target,
      i.contentAt q = some (.link target) → resolves q target = false := by
  rw [throughLink_relink_iff]
  simp only [content_of_stands h]

/-- Once links lead elsewhere, a fingerprint covers what it did, but at the links that
lead to a directory by then or no longer do. -/
theorem coveredAs_cases (t : FileTree) (hin : inWorkspace p = true) :
    coveredAs resolves p (t.content p) = covered t p
        ∧ (∀ target toDir, t.node p = some (.link target toDir) → resolves p target = toDir)
      ∨ ∃ target toDir, t.node p = some (.link target toDir) ∧ resolves p target ≠ toDir
        ∧ t.content p = some (.link target)
        ∧ coveredAs resolves p (t.content p) ≠ covered t p := by
  unfold covered walked
  rw [FileTree.content]
  cases t.node p with
  | none => exact .inl ⟨by simp [coveredAs], by simp⟩
  | some node =>
      cases node with
      | dir => exact .inl ⟨by simp [coveredAs, Node.content?], by simp⟩
      | file content => exact .inl ⟨by simp [coveredAs, Node.content?, hin], by simp⟩
      | link target toDir =>
          by_cases hleads : resolves p target = toDir
          · refine .inl ⟨?_, ?_⟩
            · cases toDir <;> simp [coveredAs, Node.content?, hin, hleads]
            · intro target' toDir' hnode
              cases hnode
              exact hleads
          · refine .inr ⟨target, toDir, rfl, hleads, rfl, ?_⟩
            cases toDir <;> simp_all [coveredAs, Node.content?]

theorem outcome_self {α : Type} (v : Verdict) (x : α) : v.outcome x x = x := by
  cases v <;> rfl

/-- The second verdict on a path ends where the first does just when a link there that
leads elsewhere by then is in nobody's way. -/
theorem ends_alike_iff_links (hchanged : covered i.baseline p ≠ covered i.shadow p)
    (hnone : verdict i.baseline i.shadow i.real p ≠ .conflict) :
    (i.secondVerdict resolves p ≠ .conflict
        ∧ (i.secondVerdict resolves p).outcome (i.shadow.content p) (i.contentAt p)
          = (verdict i.baseline i.shadow i.real p).outcome (i.shadow.content p) (i.real.content p))
      ↔ ∀ target toDir, (i.origin p).node p = some (.link target toDir) →
        resolves p target ≠ toDir → i.shadow.content p = some (.link target)
          ∧ coveredAs resolves p (some (.link target))
            ∈ [covered i.baseline p, covered i.shadow p] := by
  have hin : inWorkspace p = true := by
    by_contra hignored
    rw [Bool.not_eq_true] at hignored
    exact hchanged ((covered_of_ignored hignored).trans (covered_of_ignored hignored).symm)
  have htold : i.secondVerdict resolves p ≠ .conflict
      ↔ coveredAs resolves p (i.contentAt p) = covered i.baseline p
        ∨ coveredAs resolves p (i.contentAt p) = covered i.shadow p := by
    rw [secondVerdict, ne_eq, threeWay_eq_conflict_iff]
    tauto
  rcases coveredAs_cases (i.origin p) hin with
    ⟨hsame, hleads⟩ | ⟨target, toDir, hnode, hleads, hcontent, hdiffers⟩
  · refine iff_of_true ?_ fun target toDir hnode hne => absurd (hleads target toDir hnode) hne
    by_cases hgiven : i.Given p
    · -- what was given is the shadow's
      have horigin : i.origin p = i.shadow := if_pos hgiven
      have hkeep : i.secondVerdict resolves p = .keep := by
        rw [secondVerdict, contentAt, hsame, horigin]
        exact if_pos (.inr rfl)
      rw [hkeep, hgiven.2, contentAt, horigin]
      exact ⟨Verdict.noConfusion, rfl⟩
    · have horigin : i.origin p = i.real := if_neg hgiven
      have hverdict : i.secondVerdict resolves p = verdict i.baseline i.shadow i.real p := by
        rw [secondVerdict, contentAt, hsame, horigin, verdict]
      rw [hverdict, contentAt, horigin]
      exact ⟨hnone, rfl⟩
  · have hthere : i.contentAt p = some (.link target) := hcontent
    constructor
    · rintro ⟨hclear, hsettled⟩ target' toDir' hnode' -
      rw [hnode] at hnode'
      cases hnode'
      have hseen := htold.mp hclear
      refine ⟨?_, by rw [← hthere]; simpa using hseen⟩
      by_cases hgiven : i.Given p
      · rwa [contentAt, origin, if_pos hgiven] at hthere
      · -- the real workspace has the link, and its verdict is the other one now
        have horigin : i.origin p = i.real := if_neg hgiven
        rw [horigin] at hdiffers hcontent
        have hmoved : coveredAs resolves p (i.contentAt p) ≠ covered i.real p := by
          rwa [contentAt, horigin]
        by_cases hkept : covered i.real p = covered i.shadow p
        · have hbaseline := hseen.resolve_right (hkept ▸ hmoved)
          have htake : i.secondVerdict resolves p = .take :=
            threeWay_eq_take_iff.mpr ⟨hchanged, hkept ▸ hmoved, hbaseline⟩
          have hkeep : verdict i.baseline i.shadow i.real p = .keep := if_pos (.inr hkept)
          rw [htake, hkeep] at hsettled
          exact hsettled.trans hcontent
        · have htake : covered i.real p = covered i.baseline p := by
            by_contra hother
            exact hnone (threeWay_eq_conflict_iff.mpr ⟨hchanged, hother, hkept⟩)
          have hshadow := hseen.resolve_left (htake ▸ hmoved)
          have hkeep : i.secondVerdict resolves p = .keep := if_pos (.inr hshadow)
          have htakes : verdict i.baseline i.shadow i.real p = .take :=
            threeWay_eq_take_iff.mpr ⟨hchanged, hkept, htake⟩
          rw [hkeep, htakes] at hsettled
          exact hsettled.symm.trans hthere
    · intro hlinks
      obtain ⟨hshadow, hseen⟩ := hlinks target toDir hnode hleads
      refine ⟨htold.mpr (by rw [hthere]; simpa using hseen), ?_⟩
      rw [hthere, ← hshadow, outcome_self]
      by_cases hgiven : i.Given p
      · rw [hgiven.2]
        rfl
      · have hreal : i.real.content p = i.shadow.content p := by
          rw [hshadow, ← hthere, contentAt, origin, if_neg hgiven]
        rw [hreal, outcome_self]

theorem Resumable.ends_alike (h : i.Resumable resolves) (hplain : i.Plain)
    (hchanged : covered i.baseline p ≠ covered i.shadow p) :
    i.secondVerdict resolves p ≠ .conflict
      ∧ (i.secondVerdict resolves p).outcome (i.shadow.content p) (i.contentAt p)
        = (verdict i.baseline i.shadow i.real p).outcome (i.shadow.content p)
          (i.real.content p) :=
  (ends_alike_iff_links hchanged (hplain.verdicts p)).mpr (h.links p hchanged)

theorem Resumable.takesStraight (h : i.Resumable resolves) :
    TakesStraight i.baseline i.shadow i.real := fun p hp => (h.merges.applicable p hp).straight

theorem Resumable.applicable (h : i.Resumable resolves) (hplain : i.Plain)
    (hstands : Stands i.shadow i.real {p | i.Given p} i.crash.made left)
    (htake : i.secondVerdict resolves p = .take) :
    Applicable i.shadow (left.relink resolves) p := by
  obtain ⟨hchanged, -, hcovered⟩ := threeWay_eq_take_iff.mp htake
  have hstraight := (straight_again_iff hstands).mpr (h.straight p hchanged)
  -- above a path that the shadow has nothing was given
  have hclear : i.shadow.node p ≠ none → (∀ q ∈ ancestors p, i.real.content q = none) →
      ∀ q ∈ ancestors p, (left.relink resolves).content q = none := by
    intro hsome hreal q hq
    have hnot : ¬ i.Given q := hstands.appliedTo.above hsome hq
    rw [content_relink, content_of_stands hstands, contentAt, origin, if_neg hnot]
    exact hreal q hq
  by_cases hfirst : verdict i.baseline i.shadow i.real p = .take
  · obtain ⟨hstraight', hnotDir, hreal⟩ := h.merges.applicable p hfirst
    exact ⟨⟨hstraight, hstraight'.2⟩, hnotDir, fun hsome => hclear hsome (hreal hsome)⟩
  · -- a path that the first run keeps has the shadow's content already
    have hnot : ¬ i.Given p := fun hgiven => hfirst hgiven.2
    have hsettled := (h.ends_alike hplain hchanged).2
    rw [htake] at hsettled
    have hsame : i.shadow.content p = i.real.content p := by
      cases hverdict : verdict i.baseline i.shadow i.real p with
      | take => exact absurd hverdict hfirst
      | keep => rwa [hverdict] at hsettled
      | conflict => rwa [hverdict] at hsettled
    have hsome : i.shadow.content p ≠ none := by
      intro hnone
      rw [contentAt, origin, if_neg hnot, ← hsame, hnone] at hcovered
      have hshadow : covered i.shadow p = none := by
        unfold covered
        rw [hnone, ite_self]
      rw [← hcovered, hshadow] at hchanged
      exact hchanged (by simp [coveredAs])
    have hnode : i.shadow.node p ≠ none := fun hnone =>
      hsome (content_eq_none_iff.mpr (.inl hnone))
    refine ⟨⟨hstraight, throughLink_of_node hnode⟩, fun hdir => hsome (content_of_dir hdir),
      fun _ => hclear hnode fun q hq => ?_⟩
    obtain ⟨hpre, hne⟩ := mem_ancestors.mp hq
    have hthere : i.real.node p ≠ none := fun hnone =>
      hsome (hsame.trans (content_eq_none_iff.mpr (.inl hnone)))
    exact content_of_dir (dir_of_above hpre hne hthere)

theorem Straight.takes (h : i.Straight resolves left) :
    TakesStraight i.baseline i.shadow i.real := by
  intro p hp
  obtain ⟨hreal, hshadow, -⟩ := h p (threeWay_eq_take_iff.mp hp).1
  exact ⟨hreal, hshadow⟩

theorem Straight.takesAgain (h : i.Straight resolves left) :
    TakesStraight i.baseline i.shadow (left.relink resolves) := by
  intro p hp
  obtain ⟨-, hshadow, hleft⟩ := h p (threeWay_eq_take_iff.mp hp).1
  exact ⟨hleft, hshadow⟩

theorem covered_temp {t : FileTree} (h : FreshName uuid t) (p : Path) :
    covered t (tempPath uuid p) = none := by
  by_contra hne
  exact (covered_ne_none hne).2.1 (h p)

theorem not_finishes_of_temp (h : i.Plain) (hagain : ∀ t ∈ [i.baseline, i.shadow, left],
    FreshName uuid t) (hstopped : i.stopped = some left) (hstraight : i.Straight resolves left)
    (htemp : i.crash.leavesTemp = true) : ¬ i.Finishes uuid resolves behind left := by
  rintro ⟨whole, expected, hwhole, result, done, hrun, hclean, hsame⟩
  cases hcrash : i.crash with
  | beforeStatus =>
      rw [hcrash] at htemp
      cases htemp
  | loop point =>
      rw [hcrash] at htemp
      obtain ⟨hsaved, hstop⟩ := h.loop_stopped hstopped hcrash
      have hready := h.readyAt hstraight.takes hsaved (some point)
      have hloop := applyChanged_spec hready (fun _ hp => hp)
        (agentChanged_nodup _ _ _ _) (fun _ hq => hq.elim) (fun _ _ hq => hq.elim)
        (appliedTo_empty i.shadow i.real) false i.real rfl
      rw [hstop] at hloop
      obtain ⟨⟨failure, hfailure, hstoppedAt⟩, -⟩ := hloop
      cases hfailure
      have hleft : (left.content (tempPath i.call.uuid point.path)).isSome = true :=
        hstoppedAt.temp.trans htemp
      have hunchanged : covered i.baseline (tempPath i.call.uuid point.path)
          = covered i.shadow (tempPath i.call.uuid point.path) := by
        rw [covered_temp (h.names i.baseline (by simp)), covered_temp (h.names i.shadow (by simp))]
      -- a merge that nothing interrupts has nothing there
      have hexpected : expected.content (tempPath i.call.uuid point.path) = none := by
        obtain ⟨-, -, applied, htook⟩ := h.ended hstraight.takes hwhole
        rw [htook.kept _ fun htake => (threeWay_eq_take_iff.mp htake).1 hunchanged]
        exact content_eq_none_iff.mpr (.inl (h.names i.real (by simp) _))
      -- the second run goes past it
      obtain ⟨-, hsaved', applied, hloop'⟩ := mergeRun_clean hrun hclean
      have hreadyAgain := @ready_of_saved (i.again uuid resolves behind) _ _ _
        (hagain i.baseline (by simp)) (hagain i.shadow (by simp))
        (freshName_relink (hagain left (by simp)) resolves) hsaved' fun p hp _ =>
          (hstraight p (covered_of_changed hp)).2.2
      have hspec := applyChanged_spec hreadyAgain (fun _ hp => hp) (agentChanged_nodup _ _ _ _)
        (fun _ hq => hq.elim) (fun _ _ hq => hq.elim) (appliedTo_empty _ _) false _ rfl
      rw [hloop'] at hspec
      have hkept := (hspec.1.others (tempPath i.call.uuid point.path) (by
        rintro (hempty | ⟨hmem, -⟩)
        · exact hempty.elim
        · exact covered_of_changed hmem hunchanged)).content
      rw [hsame, hexpected, content_relink] at hkept
      rw [← hkept] at hleft
      cases hleft

theorem Plain.digest_again (h : i.Plain)
    (hstands : Stands i.shadow i.real {p | i.Given p} i.crash.made left) :
    ToldApart (i.again uuid resolves behind) i.baseline i.shadow (left.relink resolves) := by
  have hfrom : ∀ t ∈ [i.baseline, i.shadow, left.relink resolves], ∀ p,
      ∃ t' ∈ [i.baseline, i.shadow, i.real], t.content p = t'.content p := by
    intro t ht p
    simp only [List.mem_cons, List.not_mem_nil, or_false] at ht
    rcases ht with rfl | rfl | rfl
    · exact ⟨i.baseline, by simp, rfl⟩
    · exact ⟨i.shadow, by simp, rfl⟩
    · rw [content_relink, content_of_stands hstands, contentAt, origin]
      split
      · exact ⟨i.shadow, by simp, rfl⟩
      · exact ⟨i.real, by simp, rfl⟩
  intro t ht t' ht' p x hx y hy
  obtain ⟨u, hu, hcontent⟩ := hfrom t ht p
  obtain ⟨u', hu', hcontent'⟩ := hfrom t' ht' p
  exact h.digest u hu u' hu' p x (hcontent ▸ hx) y (hcontent' ▸ hy)

/-- Where the second run takes no path through a link to a directory, it takes what its
verdicts take if it can, and raises if not. -/
theorem Plain.ranAgain (h : i.Plain) (hagain : ∀ t ∈ [i.baseline, i.shadow, left],
    FreshName uuid t) (hstands : Stands i.shadow i.real {p | i.Given p} i.crash.made left)
    (hnone : ∀ p, verdict i.baseline i.shadow (left.relink resolves) p ≠ .conflict)
    (hstraight : TakesStraight i.baseline i.shadow (left.relink resolves)) :
    Mergeable (i.again uuid resolves behind) i.baseline i.shadow (left.relink resolves)
        ∧ (∃ result applied done,
          mergeRun (i.again uuid resolves behind) i.baseline i.shadow (left.relink resolves)
              = .ok result done
            ∧ result.1.status ≠ .conflicted
            ∧ Took i.baseline i.shadow (left.relink resolves) applied done)
      ∨ ¬ Mergeable (i.again uuid resolves behind) i.baseline i.shadow (left.relink resolves)
        ∧ ∃ e t, mergeRun (i.again uuid resolves behind) i.baseline i.shadow (left.relink resolves)
          = .error e t := by
  have hdigest : ToldApart (i.again uuid resolves behind) i.baseline i.shadow
      (left.relink resolves) := h.digest_again hstands
  exact @mergeRun_took (i.again uuid resolves behind) i.baseline i.shadow (left.relink resolves)
    h.faultless hdigest (hagain i.baseline (by simp)) (hagain i.shadow (by simp))
    (freshName_relink (hagain left (by simp)) resolves) hnone hstraight

/-- A resumable merge is finished: the second run's verdicts end where the first's do, and
nothing is in their way. -/
theorem Resumable.finishes (hresumable : i.Resumable resolves) (h : i.Plain)
    (hagain : ∀ t ∈ [i.baseline, i.shadow, left], FreshName uuid t)
    (hstopped : i.stopped = some left) : i.Finishes uuid resolves behind left := by
  have hstands := h.stands hresumable.takesStraight hstopped hresumable.clean
  have hcontent : ∀ p, (left.relink resolves).content p = i.contentAt p := fun p => by
    rw [content_relink, content_of_stands hstands]
  have hunchanged : ∀ p, covered i.baseline p = covered i.shadow p →
      (∀ current, threeWay (covered i.baseline p) (covered i.shadow p) current = .keep)
        ∧ ¬ i.Given p := by
    intro p hsame
    refine ⟨fun current => if_pos (.inl hsame), fun hgiven => ?_⟩
    exact (threeWay_eq_take_iff.mp hgiven.2).1 hsame
  have hverdicts : ∀ p, verdict i.baseline i.shadow (left.relink resolves) p ≠ .conflict := by
    intro p
    rw [verdict_relink hstands]
    by_cases hp : covered i.baseline p = covered i.shadow p
    · rw [secondVerdict, (hunchanged p hp).1]
      exact Verdict.noConfusion
    · exact (hresumable.ends_alike h hp).1
  have happlicable : ∀ p, verdict i.baseline i.shadow (left.relink resolves) p = .take →
      Applicable i.shadow (left.relink resolves) p := fun p htake =>
    hresumable.applicable h hstands (verdict_relink hstands ▸ htake)
  rcases h.ran hresumable.takesStraight with
    ⟨-, whole, applied, expected, hwhole, -, htook⟩ | ⟨hnot, -⟩
  · refine ⟨whole, expected, hwhole, ?_⟩
    rcases h.ranAgain hagain hstands hverdicts fun p hp => (happlicable p hp).straight with
      ⟨-, result, applied', done, hrun, hstatus, htook'⟩ | ⟨hnot, -⟩
    · refine ⟨result, done, hrun, hstatus, fun p => ?_⟩
      rw [htook'.outcome, htook.outcome, verdict_relink hstands, hcontent]
      by_cases hp : covered i.baseline p = covered i.shadow p
      · obtain ⟨hkeep, hnot⟩ := hunchanged p hp
        rw [secondVerdict, verdict, hkeep, hkeep, contentAt, origin, if_neg hnot]
      · exact (hresumable.ends_alike h hp).2
    · have hstraightAgain : ∀ p, covered i.baseline p ≠ covered i.shadow p →
          (left.relink resolves).throughLink p = false := fun p hp =>
        (straight_again_iff hstands).mpr (hresumable.straight p hp)
      refine absurd ⟨savable_of_straight hstraightAgain fun p hp => ?_, happlicable⟩ hnot
      have hreal := node_ne_dir_of_saved (hresumable.merges.saved.leaf p hp)
      exact (saved_again_iff hstands hreal (hstraightAgain p hp)).mpr (hresumable.notMade p hp)
  · exact absurd hresumable.merges hnot

theorem Plain.resumable (h : i.Plain) (hagain : ∀ t ∈ [i.baseline, i.shadow, left],
    FreshName uuid t) (hstopped : i.stopped = some left) (hstraight : i.Straight resolves left)
    (hfinishes : i.Finishes uuid resolves behind left) : i.Resumable resolves := by
  have hclean : i.crash.leavesTemp = false := by
    by_contra htemp
    exact not_finishes_of_temp h hagain hstopped hstraight (by simpa using htemp) hfinishes
  obtain ⟨whole, expected, hwhole, result, done, hrun, hstatus, hsame⟩ := hfinishes
  obtain ⟨hmerges, -, applied, htook⟩ := h.ended hstraight.takes hwhole
  have hstands := h.stands hstraight.takes hstopped hclean
  have hdigest : ToldApart (i.again uuid resolves behind) i.baseline i.shadow
      (left.relink resolves) := h.digest_again hstands
  have hverdicts := (conflictPaths_eq_nil_iff hdigest).mp (mergeRun_clean hrun hstatus).1
  rcases h.ranAgain hagain hstands hverdicts hstraight.takesAgain with
    ⟨hmerges', result', applied', done', hrun', -, htook'⟩ | ⟨-, e, t, hrun'⟩
  · rw [hrun] at hrun'
    cases hrun'
    have hstraightAgain : ∀ p, covered i.baseline p ≠ covered i.shadow p →
        (left.relink resolves).throughLink p = false := fun p hp => (hstraight p hp).2.2
    have hcontent : ∀ p, (left.relink resolves).content p = i.contentAt p := fun p => by
      rw [content_relink, content_of_stands hstands]
    refine ⟨hclean, hmerges, fun p hp => (straight_again_iff hstands).mp (hstraightAgain p hp),
      fun p hp => ?_, fun p hp => ?_⟩
    · exact (saved_again_iff hstands (node_ne_dir_of_saved (hmerges.saved.leaf p hp))
        (hstraightAgain p hp)).mp (hmerges'.saved.leaf p hp)
    · refine (ends_alike_iff_links hp (h.verdicts p)).mp ⟨?_, ?_⟩
      · rw [← verdict_relink hstands]
        exact hverdicts p
      · rw [← verdict_relink hstands, ← hcontent, ← htook'.outcome, hsame, htook.outcome]
  · rw [hrun] at hrun'
    cases hrun'

end

end Interruption

/-! ## Merges that die -/

/-- The edit of a file, in a merge that dies there. -/
def editInterruption (crash : CrashPoint) : Interruption :=
  ⟨plainCall, directoryTree, editedTree, directoryTree, crash⟩

def danglingTree (target : Bytes) : FileTree := .ofList [(["l"], .link target false)]

/-- A link that the shadow leads to what is a directory of the real workspace only, in a
merge that dies before the row has its status. -/
def linkInterruption : Interruption :=
  ⟨{ plainCall with resolves := fun _ target => target = [121] }, danglingTree [120],
    danglingTree [121], danglingTree [120], .beforeStatus⟩

/-- The name that a second run draws. -/
def secondUuid : String := "0c2a6f4e8b1d4f7a9e3c5d6b7a8f9012"

theorem editInterruption_plain (crash : CrashPoint) : (editInterruption crash).Plain where
  faultless := rfl
  digest := by
    show NoCollision plainCall.sha256 [directoryTree, editedTree, directoryTree]
    exact noCollision_of_paths (by decide +kernel)
  names := edited_names
  conflictFree := by
    show conflictPaths plainCall.sha256 directoryTree editedTree directoryTree = []
    decide +kernel

theorem linkInterruption_plain : linkInterruption.Plain where
  faultless := rfl
  digest := noCollision_of_paths (by decide +kernel)
  names t ht := by
    refine freshName_of_paths ?_
    revert t
    decide +kernel
  conflictFree := by decide +kernel

theorem exists_stopped (i : Interruption)
    (h : (i.stopped.any fun left => decide (∀ t ∈ [i.baseline, i.shadow, left], ∀ p ∈ t.paths,
      ∀ name ∈ p, ¬ (".navi-tmp-" ++ secondUuid).toList <:+ name.toList)) = true) :
    ∃ left, i.stopped = some left
      ∧ ∀ t ∈ [i.baseline, i.shadow, left], FreshName secondUuid t := by
  cases hstopped : i.stopped with
  | none =>
      rw [hstopped] at h
      cases h
  | some left =>
      rw [hstopped] at h
      exact ⟨left, rfl, fun t ht => freshName_of_paths (of_decide_eq_true h t ht)⟩

theorem edited_changed {p : Path} (h : covered directoryTree p ≠ covered editedTree p) :
    p = ["d", "a"] :=
  (linked_changed (mem_tree_of_changed h)).resolve_right fun hsame => h hsame.2

theorem editInterruption_resumable :
    (editInterruption (.loop ⟨["d", "a"], .copy none⟩)).Resumable fun _ _ => false where
  clean := rfl
  merges := by
    refine ⟨savable_of_straight (fun p hp => ?_) fun p hp => ?_, fun p hp => ?_⟩
    · rw [edited_changed hp]
      decide +kernel
    · rw [edited_changed hp]
      decide +kernel
    · rw [edited_changed (threeWay_eq_take_iff.mp hp).1]
      exact ⟨by decide +kernel, by decide +kernel, by decide +kernel⟩
  straight _ _ _ _ _ _ := rfl
  notMade p hp := by
    have hpassed : (CrashPoint.loop ⟨["d", "a"], .copy none⟩).passed
        (agentChanged digest directoryTree editedTree directoryTree) = [] := by decide +kernel
    rw [edited_changed hp]
    rintro (⟨q, ⟨hq, -⟩, -⟩ | hmade)
    · exact List.not_mem_nil (hpassed ▸ hq)
    · revert hmade
      decide +kernel
  links p hp target toDir hlink hleads := by
    rw [edited_changed hp] at hlink
    revert hlink
    have hnone : ∀ node ∈ ((editInterruption (.loop ⟨["d", "a"], .copy none⟩)).origin
        ["d", "a"]).node ["d", "a"], node = .file [49] := by decide +kernel
    exact fun hlink => nomatch hnone _ hlink

/-- The second run reports a conflict. -/
def reportsConflict (i : Interruption) (resolves : Path → Bytes → Bool) (left : FileTree) : Bool :=
  match mergeRun (i.again secondUuid resolves .nothing) i.baseline i.shadow
    (left.relink resolves) with
  | .ok result _ => result.1.status = .conflicted
  | .error _ _ => false

end Navi.Workspaces
