import Navi.Workspaces.Merge

/-!
# Rolling a merge back

When an operation of the loop fails, `merge_back` restores its backup and raises. The
restore goes through the changed paths in their order and through nothing else, so
the temporary of the path that failed stays where the operation left it.
-/

namespace Navi.Workspaces

open Navi.Base FileTree

/-- The links of the real workspace lead where the merge resolves them. -/
def ResolvesLinks (call : Call) (real : FileTree) : Prop :=
  ∀ p target toDir, real.node p = some (.link target toDir) → toDir = call.resolves p target

theorem ResolvesLinks.nodeAt {call : Call} {real : FileTree} (h : ResolvesLinks call real)
    {p : Path} {content : Content} (hcontent : real.content p = some content) :
    real.node p = some (Content.nodeAt call p content) := by
  cases hnode : real.node p with
  | none =>
      rw [content_eq_none_iff.mpr (.inl hnode)] at hcontent
      cases hcontent
  | some node =>
      rw [FileTree.content, hnode] at hcontent
      cases node with
      | dir => cases hcontent
      | file bytes =>
          cases hcontent
          rfl
      | link target toDir =>
          cases hcontent
          rw [h p target toDir hnode]
          rfl

/-! ## Restoring one path -/

section

variable {call : Call} {baseline shadow real now : FileTree} {changed done rest : List Path}
  {failure : Failure} {p : Path} {saved : List (Path × Content)}

theorem removePath_spec (hp : p ≠ []) :
    ∃ t, removePath p now = .ok () t ∧ ∀ q, t.node q = if p <+: q then none else now.node q := by
  -- nothing is below what is no directory
  have hbelow : now.node p ≠ some .dir → ∀ q, q ≠ p → p <+: q → now.node q = none :=
    fun hleaf q hne hpre => node_below hpre hne.symm hleaf
  rw [removePath]
  simp only [bind, EStateM.bind, get, getThe, MonadStateOf.get, EStateM.get]
  by_cases hleaf : now.node p ≠ some .dir
  · simp only [dif_pos hleaf]
    cases hnode : now.node p with
    | none =>
        refine ⟨now, rfl, fun q => ?_⟩
        split
        next hpre =>
          by_cases hq : q = p
          · rw [hq, hnode]
          · exact hbelow hleaf q hq hpre
        next => rfl
    | some node =>
        refine ⟨now.erase p hleaf, rfl, fun q => ?_⟩
        rw [node_erase]
        by_cases hq : q = p
        · rw [if_pos hq, if_pos (hq ▸ List.prefix_rfl)]
        · rw [if_neg hq]
          split
          next hpre => exact hbelow hleaf q hq hpre
          next => rfl
  · have hdir : now.node p = some .dir := not_not.mp hleaf
    refine ⟨now.eraseAll p hp, ?_, fun q => rfl⟩
    simp only [dif_neg hleaf, dif_pos hp]
    rw [hdir]
    rfl

/-- The paths that are done have what they had, and the others are as the loop left
them. -/
structure Restoring (call : Call) (shadow real stopped : FileTree) (changed : List Path)
    (failure : Failure) (done : List Path) (now : FileTree) : Prop where
  others : ∀ p, p ∉ changed → p ≠ tempPath call.uuid failure.path → SameOrMade shadow real now p
  restored : ∀ p ∈ done, now.node p = real.node p
  temp : now.content (tempPath call.uuid failure.path)
      = stopped.content (tempPath call.uuid failure.path)
    ∨ now.node (tempPath call.uuid failure.path) = none
      ∧ ∃ a ∈ changed, a ∈ ancestors failure.path

/-- The paths of the merge, and where its restore starts. -/
structure Restorable (call : Call) (shadow real : FileTree) (changed : List Path)
    (saved : List (Path × Content)) : Prop where
  ready : Ready call shadow real changed
  straight : ∀ p ∈ changed, real.throughLink p = false
  resolves : ResolvesLinks call real
  saved : ∀ p ∈ changed, saved.lookup p = real.content p
  sorted : changed.Pairwise fun p q => posix p ≤ posix q
  belowTemp : ∀ p ∈ changed, ∀ q, tempPath call.uuid q ∉ ancestors p

theorem Restorable.done_of_ancestor (h : Restorable call shadow real changed saved)
    (hsplit : changed = done ++ p :: rest) {q : Path} (hq : q ∈ changed)
    (habove : q ∈ ancestors p) : q ∈ done := by
  have hsorted := h.sorted
  rw [hsplit, List.pairwise_append] at hsorted
  obtain ⟨-, hrest, -⟩ := hsorted
  have hmem := hq
  rw [hsplit, List.mem_append, List.mem_cons] at hmem
  rcases hmem with hdone | rfl | hlater
  · exact hdone
  · exact absurd rfl (mem_ancestors.mp habove).2
  · have hle := (List.pairwise_cons.mp hrest).1 q hlater
    exact absurd hle (not_posix_le_of_ancestor (h.ready.ne_nil hq) habove)

theorem Restoring.straight {stopped : FileTree} (h : Restorable call shadow real changed saved)
    (hnow : Restoring call shadow real stopped changed failure done now)
    (hsplit : changed = done ++ p :: rest) : now.throughLink p = false := by
  have hp : p ∈ changed := by simp [hsplit]
  have hreal := h.straight p hp
  rw [throughLink, List.any_eq_false] at hreal ⊢
  intro q hq
  by_cases hchanged : q ∈ changed
  · rw [hnow.restored q (h.done_of_ancestor hsplit hchanged hq)]
    exact hreal q hq
  · have htemp : q ≠ tempPath call.uuid failure.path := by
      rintro rfl
      exact h.belowTemp p hp _ hq
    rcases hnow.others q hchanged htemp with hsame | ⟨-, hdir, -⟩
    · rw [hsame]
      exact hreal q hq
    · rw [hdir]
      exact Bool.false_ne_true

theorem Restoring.step {stopped t : FileTree} (h : Restorable call shadow real changed saved)
    (hnow : Restoring call shadow real stopped changed failure done now) (hp : p ∈ changed)
    (hpath : failure.path ∈ changed)
    (ht : ∀ q, t.node q = if q = p then real.node p else if p <+: q then none else now.node q) :
    Restoring call shadow real stopped changed failure (done ++ [p]) t := by
  have hbelow : ∀ q, p <+: q → q ≠ p → real.node q = none :=
    fun q hpre hne => node_below hpre hne.symm (h.ready.noDir p hp)
  refine ⟨fun q hq hne => ?_, fun q hq => ?_, ?_⟩
  · have hqp : q ≠ p := by
      rintro rfl
      exact hq hp
    unfold SameOrMade
    rw [ht q, if_neg hqp]
    split
    next hpre => exact .inl (hbelow q hpre hqp).symm
    next => exact hnow.others q hq hne
  · rw [ht q]
    split
    next hqp => rw [hqp]
    next hqp =>
      split
      next hpre => exact (hbelow q hpre hqp).symm
      next =>
        rcases List.mem_append.mp hq with hdone | hlast
        · exact hnow.restored q hdone
        · exact absurd (List.mem_singleton.mp hlast) hqp
  · have hne : tempPath call.uuid failure.path ≠ p := by
      rintro rfl
      exact h.ready.noTemp _ hp
    have htemp := ht (tempPath call.uuid failure.path)
    rw [if_neg hne] at htemp
    by_cases hpre : p <+: tempPath call.uuid failure.path
    · -- a path above the temporary is above the path that failed
      rw [if_pos hpre] at htemp
      refine .inr ⟨htemp, p, hp, ?_⟩
      have hparent := (List.prefix_concat_iff.mp hpre).resolve_left hne.symm
      have habove := dropLast_mem_ancestors (h.ready.ne_nil hpath)
      obtain ⟨hdrop, hshort⟩ := mem_ancestors.mp habove
      refine mem_ancestors.mpr ⟨hparent.trans hdrop, ?_⟩
      rintro rfl
      exact hshort (hdrop.eq_of_length_le hparent.length_le)
    · rw [if_neg hpre] at htemp
      unfold FileTree.content
      rw [htemp]
      exact hnow.temp

theorem restoreRealFiles_spec {stopped : FileTree} (h : Restorable call shadow real changed saved)
    (hpath : failure.path ∈ changed) (hsplit : changed = done ++ rest)
    (hnow : Restoring call shadow real stopped changed failure done now) :
    ∃ t, restoreRealFiles call saved rest now = .ok () t
      ∧ Restoring call shadow real stopped changed failure changed t := by
  -- by induction on the paths to come; those before have what they had
  induction rest generalizing done now with
  | nil =>
      rw [List.append_nil] at hsplit
      exact ⟨now, rfl, hsplit ▸ hnow⟩
  | cons p rest ih =>
      have hp : p ∈ changed := by simp [hsplit]
      have hpne := h.ready.ne_nil hp
      have hnext : changed = (done ++ [p]) ++ rest := by simp [hsplit]
      obtain ⟨t, hremoved, ht⟩ := @removePath_spec now p hpne
      rw [restoreRealFiles]
      simp only [bind, EStateM.bind, get, getThe, MonadStateOf.get, EStateM.get,
        hnow.straight h hsplit, Bool.false_eq_true, if_false, restoreFile, hremoved]
      cases hcontent : real.content p with
      | none =>
          rw [h.saved p hp, hcontent]
          have hnone : real.node p = none :=
            (content_eq_none_iff.mp hcontent).resolve_right (h.ready.noDir p hp)
          refine ih hnext (hnow.step h hp hpath fun q => ?_)
          rw [ht q]
          by_cases hq : q = p
          · rw [if_pos hq, if_pos (hq ▸ List.prefix_rfl), hnone]
          · rw [if_neg hq]
      | some content =>
          rw [h.saved p hp, hcontent]
          have hsome : real.node p ≠ none := fun hnone => by
            rw [content_eq_none_iff.mpr (.inl hnone)] at hcontent
            cases hcontent
          have hnodeAt := h.resolves.nodeAt hcontent
          have hdirs : ∀ dir ∈ ancestors p, t.node dir = some .dir := by
            intro dir hdir
            obtain ⟨hpre, hne⟩ := mem_ancestors.mp hdir
            have hreal := dir_of_above hpre hne hsome
            have hother : dir ∉ changed := fun hmem => h.ready.noDir dir hmem hreal
            have htemp : dir ≠ tempPath call.uuid failure.path := by
              rintro rfl
              rw [h.ready.realFresh] at hreal
              cases hreal
            have hnot : ¬ p <+: dir := fun hback => hne (hpre.eq_of_length_le hback.length_le)
            rw [ht dir, if_neg hnot]
            exact (hnow.others dir hother htemp).of_dir hreal
          have hfree : t.Free p := by
            refine ⟨hpne, hdirs _ (dropLast_mem_ancestors hpne), ?_⟩
            rw [ht p, if_pos List.prefix_rfl]
            exact Option.some_ne_none _ |>.symm
          simp only [EStateM.bind, makeDirs_there hdirs, EStateM.get, dif_pos hfree]
          refine ih hnext (hnow.step h hp hpath fun q => ?_)
          rw [node_put, ht q, hnodeAt]

/-! ## A merge that fails -/

/-- The temporary is removed with a changed path above it. -/
def Cleaned (changed : List Path) (failure : Failure) : Prop :=
  failure.op.leavesTemp = false ∨ ∃ a ∈ changed, a ∈ ancestors failure.path

theorem Restoring.content_iff {stopped : FileTree}
    (h : Restorable call shadow real changed saved)
    (hstopped : StoppedAt call shadow real changed failure stopped)
    (hnow : Restoring call shadow real stopped changed failure changed now) :
    (∀ p, now.content p = real.content p) ↔ Cleaned changed failure := by
  have hreal : real.content (tempPath call.uuid failure.path) = none :=
    content_eq_none_iff.mpr (.inl (h.ready.realFresh _))
  have hothers : ∀ p, p ≠ tempPath call.uuid failure.path → now.content p = real.content p := by
    intro p hne
    by_cases hp : p ∈ changed
    · rw [FileTree.content, hnow.restored p hp, FileTree.content]
    · exact (hnow.others p hp hne).content
  constructor
  · intro hall
    rcases hnow.temp with hleft | ⟨-, hcleaned⟩
    · refine .inl ?_
      rw [← hstopped.temp, ← hleft, hall, hreal]
      rfl
    · exact .inr hcleaned
  · intro hcleaned p
    by_cases hp : p = tempPath call.uuid failure.path
    · rw [hp, hreal]
      rcases hcleaned with hleaves | ⟨a, ha, habove⟩
      · rcases hnow.temp with hleft | ⟨hgone, -⟩
        · rw [hleft]
          have htemp := hstopped.temp
          rw [hleaves] at htemp
          simpa using htemp
        · exact content_eq_none_iff.mpr (.inl hgone)
      · -- the restored path is no directory, so nothing is below it
        have hfile : now.node a ≠ some .dir := by
          rw [hnow.restored a ha]
          exact h.ready.noDir a ha
        obtain ⟨hpre, hne⟩ := mem_ancestors.mp habove
        have hparent : a <+: failure.path.dropLast := by
          have hpath := List.dropLast_concat_getLast (h.ready.ne_nil hstopped.path)
          rw [← hpath] at hpre
          refine (List.prefix_concat_iff.mp hpre).resolve_left fun hwhole => ?_
          exact hne (hwhole.trans hpath)
        have htemp : a <+: tempPath call.uuid failure.path :=
          hparent.trans (List.prefix_append _ _)
        have hother : a ≠ tempPath call.uuid failure.path := by
          rintro rfl
          exact h.ready.noTemp _ ha
        exact content_eq_none_iff.mpr (.inl (node_below htemp hother hfile))
    · exact hothers p hp

theorem eq_error_of_raised {α : Type} {result : EStateM.Result MergeError FileTree α}
    {e : MergeError} (h : raised result = some e) : ∃ t, result = .error e t := by
  cases result with
  | ok a t => cases h
  | error e' t =>
      cases h
      exact ⟨t, rfl⟩

/-- The merge gets to its loop, in which no changed path is below a link to a directory of
the real workspace, and an operation of the loop fails. -/
def LoopFails (call : Call) (baseline shadow real : FileTree) (failure : Failure) : Prop :=
  conflictPaths call.sha256 baseline shadow real = []
    ∧ (∀ p ∈ agentChanged call.sha256 baseline shadow real, real.throughLink p = false)
    ∧ raised (backupRealFiles call real (agentChanged call.sha256 baseline shadow real) []
      real) = none
    ∧ raised (applyChanged call shadow real (agentChanged call.sha256 baseline shadow real)
      false real) = some (.apply failure)

instance (call : Call) (baseline shadow real : FileTree) (failure : Failure) :
    Decidable (LoopFails call baseline shadow real failure) :=
  inferInstanceAs (Decidable (_ ∧ _ ∧ _ ∧ _))

/-- A merge whose loop fails raises what failed, and the real workspace has its contents
again just when the operation left no temporary, or left it below a changed path. -/
theorem failed_merge_restores_iff (call : Call) (baseline shadow real : FileTree)
    (failure : Failure) (hnames : ∀ t ∈ [baseline, shadow, real], FreshName call.uuid t)
    (hresolves : ResolvesLinks call real) (hfails : LoopFails call baseline shadow real failure) :
    ∃ restored, mergeBack call baseline shadow real = .error (.apply failure) restored
      ∧ ((∀ p, restored.content p = real.content p)
        ↔ Cleaned (agentChanged call.sha256 baseline shadow real) failure) := by
  obtain ⟨hconflicts, hstraight, hbackedUp, hraised⟩ := hfails
  obtain ⟨stopped, hrun⟩ := eq_error_of_raised hraised
  rcases backupRealFiles_spec call baseline shadow real with
    ⟨hsaved, saved, hbackup, hlookup⟩ | ⟨-, e, hbackup⟩
  · have hready := ready_of_saved (hnames baseline (by simp)) (hnames shadow (by simp))
      (hnames real (by simp)) hsaved.leaf fun p hp _ => hstraight p hp
    have hspec := applyChanged_spec hready (fun _ hp => hp) (agentChanged_nodup _ _ _ _)
      (fun _ hq => hq.elim) (fun _ _ hq => hq.elim) (appliedTo_empty shadow real) false real rfl
    rw [hrun] at hspec
    obtain ⟨⟨failure', hfailure, hstopped⟩, -⟩ := hspec
    cases hfailure
    have hrestorable : Restorable call shadow real
        (agentChanged call.sha256 baseline shadow real) saved := by
      refine ⟨hready, hstraight, hresolves, fun p hp => ?_, agentChanged_sorted _ _ _ _, ?_⟩
      · rw [hlookup p, if_pos hp, Call.there, found, hstraight p hp, if_neg Bool.false_ne_true]
        rfl
      · intro p hp q habove
        obtain ⟨hpre, hne⟩ := mem_ancestors.mp habove
        rcases mem_tree_of_changed (covered_of_changed hp) with hnode | hnode
        · have hdir := dir_of_above hpre hne hnode
          rw [hnames baseline (by simp)] at hdir
          cases hdir
        · have hdir := dir_of_above hpre hne hnode
          rw [hnames shadow (by simp)] at hdir
          cases hdir
    have hstart : Restoring call shadow real stopped
        (agentChanged call.sha256 baseline shadow real) failure [] stopped :=
      ⟨hstopped.others, fun p hp => absurd hp List.not_mem_nil, .inl rfl⟩
    obtain ⟨restored, hrestored, hnow⟩ :=
      restoreRealFiles_spec hrestorable hstopped.path (List.nil_append _).symm hstart
    refine ⟨restored, ?_, hnow.content_iff hrestorable hstopped⟩
    rw [mergeBack_failed hconflicts hbackup hrun, hrestored]
  · rw [hbackup] at hbackedUp
    cases hbackedUp

end

/-! ## A rename that fails -/

/-- A merge whose rename of the file fails. -/
def failingCall : Call := { plainCall with fault := some ⟨["d", "a"], .rename⟩ }

theorem edited_names :
    ∀ t ∈ [directoryTree, editedTree, directoryTree], FreshName failingCall.uuid t := by
  intro t ht
  refine freshName_of_paths ?_
  revert t
  decide +kernel

theorem directoryTree_resolves : ResolvesLinks failingCall directoryTree := by
  intro p target toDir hlink
  have hlisted := directoryTree.listed p (by simp [hlink])
  have hnone : ∀ p ∈ directoryTree.paths, ∀ node ∈ directoryTree.node p,
      node.content? = none ∨ node.content? = some (.file [49]) := by decide +kernel
  rcases hnone p hlisted _ hlink with h | h <;> cases h

theorem failed_merge_restores_iff_rename :
    ∃ restored, mergeBack failingCall directoryTree editedTree directoryTree
        = .error (.apply ⟨["d", "a"], .rename⟩) restored
      ∧ ((∀ p, restored.content p = directoryTree.content p)
        ↔ Cleaned (agentChanged failingCall.sha256 directoryTree editedTree directoryTree)
          ⟨["d", "a"], .rename⟩) :=
  failed_merge_restores_iff failingCall directoryTree editedTree directoryTree
    ⟨["d", "a"], .rename⟩ edited_names directoryTree_resolves (by decide +kernel)

/-- A program raised this and left this content at the path. -/
def raisedWith (e : MergeError) (p : Path) (content : Option Content) :
    EStateM.Result MergeError FileTree Merged → Bool
  | .ok _ _ => false
  | .error e' now => decide (e' = e ∧ now.content p = content)

/-- The rename of the changed file fails: the merge raises, and the real workspace keeps
the temporary with the shadow's content. -/
theorem failed_rename_leaves_temporary :
    LoopFails failingCall directoryTree editedTree directoryTree ⟨["d", "a"], .rename⟩
      ∧ (∀ t ∈ [directoryTree, editedTree, directoryTree], FreshName failingCall.uuid t)
      ∧ ResolvesLinks failingCall directoryTree
      ∧ directoryTree.content (tempPath failingCall.uuid ["d", "a"]) = none
      ∧ ∃ left, mergeBack failingCall directoryTree editedTree directoryTree
          = .error (.apply ⟨["d", "a"], .rename⟩) left
        ∧ left.content (tempPath failingCall.uuid ["d", "a"]) = some (.file [50]) := by
  refine ⟨by decide +kernel, edited_names, directoryTree_resolves, by decide +kernel, ?_⟩
  have hleft : raisedWith (.apply ⟨["d", "a"], .rename⟩) (tempPath failingCall.uuid ["d", "a"])
      (some (.file [50])) (mergeBack failingCall directoryTree editedTree directoryTree)
      = true := by
    decide +kernel
  cases hrun : mergeBack failingCall directoryTree editedTree directoryTree with
  | ok merged now =>
      rw [hrun] at hleft
      cases hleft
  | error e left =>
      rw [hrun] at hleft
      obtain ⟨rfl, hcontent⟩ := of_decide_eq_true hleft
      exact ⟨left, rfl, hcontent⟩

end Navi.Workspaces
