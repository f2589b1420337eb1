import Navi.Workspaces.ApplyLoop

/-!
# What a merge owes

A three-way merge takes at each path what one side changed, and reports what both
sides changed differently. `merge_back` decides by fingerprints, in which a
directory and a link to a directory are nothing, and applies what it decided path by
path.
-/

namespace Navi.Workspaces

open Navi.Base FileTree
open Navi.StateGraph (MergeStatus)

/-! ## Three-way merges -/

/-- What a three-way merge does with a path of the current tree. -/
inductive Verdict where
  | keep
  | take
  | conflict
  deriving DecidableEq

/-- The verdict on what the three trees have at a path. -/
def threeWay {α : Type} [DecidableEq α] (baseline shadow current : α) : Verdict :=
  if baseline = shadow ∨ current = shadow then .keep
  else if current = baseline then .take
  else .conflict

section

variable {α : Type} [DecidableEq α] {baseline shadow current : α}

theorem threeWay_eq_conflict_iff : threeWay baseline shadow current = .conflict
    ↔ baseline ≠ shadow ∧ current ≠ baseline ∧ current ≠ shadow := by
  unfold threeWay
  split
  next h =>
    refine iff_of_false Verdict.noConfusion ?_
    rintro ⟨hb, -, hc⟩
    exact h.elim hb hc
  next h =>
    rw [not_or] at h
    split
    next h' => exact iff_of_false Verdict.noConfusion fun hall => hall.2.1 h'
    next h' => exact iff_of_true rfl ⟨h.1, h', h.2⟩

theorem threeWay_eq_take_iff : threeWay baseline shadow current = .take
    ↔ baseline ≠ shadow ∧ current ≠ shadow ∧ current = baseline := by
  unfold threeWay
  split
  next h =>
    refine iff_of_false Verdict.noConfusion ?_
    rintro ⟨hb, hc, -⟩
    exact h.elim hb hc
  next h =>
    rw [not_or] at h
    split
    next h' => exact iff_of_true rfl ⟨h.1, h.2, h'⟩
    next h' => exact iff_of_false Verdict.noConfusion fun hall => h' hall.2.2

end

/-! ## The claim and its condition -/

/-- Both sides changed the path of the workspace, and differently. -/
def Disputed (baseline shadow real : FileTree) (p : Path) : Prop :=
  inWorkspace p = true ∧ baseline.content p ≠ shadow.content p
    ∧ real.content p ≠ baseline.content p ∧ real.content p ≠ shadow.content p

/-- What the merge returned is an exact three-way merge of the contents. -/
def ExactMerge (baseline shadow real : FileTree) :
    EStateM.Result MergeError FileTree Merged → Prop
  | .error _ _ => False
  | .ok merged now =>
      if merged.status = .conflicted then
        (∀ p, now.node p = real.node p)
          ∧ ∀ p, p ∈ merged.conflicts ↔ Disputed baseline shadow real p
      else
        (∀ p, inWorkspace p = true → baseline.content p ≠ shadow.content p →
            now.content p = shadow.content p)
          ∧ (∀ p, inWorkspace p = false ∨ baseline.content p = shadow.content p →
            now.content p = real.content p)
          ∧ (merged.status = .noOp ↔ ∀ p, now.content p = real.content p)

/-- The error that a program ended with. -/
def raised {α : Type} : EStateM.Result MergeError FileTree α → Option MergeError
  | .ok _ _ => none
  | .error e _ => some e

/-- What the fingerprint of a tree covers at a path: a link to a directory is not
among the files of the walk. -/
def covered (t : FileTree) (p : Path) : Option Content := if walked t p then t.content p else none

/-- The verdict on what the fingerprints cover. -/
def verdict (baseline shadow real : FileTree) (p : Path) : Verdict :=
  threeWay (covered baseline p) (covered shadow p) (covered real p)

/-- The walks list enough of what is in conflict, no link leads to a directory in one tree
and has the text of another tree's link, and the conflicts can be read: at none of them
a directory is found. -/
structure ConflictsReadable (call : Call) (baseline shadow real : FileTree) : Prop where
  seen : ∀ p, Disputed baseline shadow real p →
    (walked baseline p = true ∨ walked shadow p = true)
      ∧ (walked real p = true ∨ walked baseline p = true)
      ∧ (walked real p = true ∨ walked shadow p = true)
  alike : ∀ p, verdict baseline shadow real p = .conflict →
    ∀ t ∈ [baseline, shadow, real], ∀ t' ∈ [baseline, shadow, real],
      walked t p = true → walked t' p = false → t.content p ≠ t'.content p
  readable : ∀ p, verdict baseline shadow real p = .conflict →
    call.there real p ≠ some .dir ∧ call.source shadow real p ≠ some .dir

/-- The paths that are taken lead through no link to a directory. -/
def TakesStraight (baseline shadow real : FileTree) : Prop :=
  ∀ p, verdict baseline shadow real p = .take →
    real.throughLink p = false ∧ shadow.throughLink p = false

/-- A change that is taken can be applied: the path leads through no link to a directory,
the shadow has no directory there, and, where it has the path, the real workspace has
nothing but directories above it. -/
structure Applicable (shadow real : FileTree) (p : Path) : Prop where
  straight : real.throughLink p = false ∧ shadow.throughLink p = false
  puttable : Puttable (shadow.node p) real p

/-- What is found at the paths can be saved: there is no directory, and nothing below what
is saved itself. -/
structure Savable (call : Call) (real : FileTree) (changed : Path → Prop) : Prop where
  leaf : ∀ p, changed p → call.there real p ≠ some .dir
  apart : ∀ p, changed p → call.there real p ≠ none → ∀ q ∈ ancestors p, changed q →
    call.there real q = none

/-- The walks list what the shadow changed where the real workspace has something else,
and a path that it left alone they list in the shadow only if they list it in the
baseline; some change that is taken is one; what is found at the changed paths can be
saved, and the changes that are taken can be applied. -/
structure ChangesApplicable (call : Call) (baseline shadow real : FileTree) : Prop where
  seen : ∀ p, inWorkspace p = true → real.content p ≠ shadow.content p →
    baseline.content p ≠ shadow.content p →
      (walked baseline p = true ∨ walked shadow p = true)
        ∧ (walked real p = true ∨ walked shadow p = true)
  alike : ∀ p, real.content p ≠ shadow.content p → baseline.content p = shadow.content p →
    walked shadow p = true → walked baseline p = true
  counted : (∃ p, verdict baseline shadow real p = .take) →
    ∃ p, verdict baseline shadow real p = .take ∧ real.content p ≠ shadow.content p
  saved : Savable call real fun p => covered baseline p ≠ covered shadow p
  applicable : ∀ p, verdict baseline shadow real p = .take → Applicable shadow real p

/-- What the three trees must be, and what must be found behind their links, for the merge
to be exact. -/
def MergesExactly (call : Call) (baseline shadow real : FileTree) : Prop :=
  ((∃ p, verdict baseline shadow real p = .conflict) →
      ConflictsReadable call baseline shadow real)
    ∧ ((∀ p, verdict baseline shadow real p ≠ .conflict) →
      ChangesApplicable call baseline shadow real)

/-- Below a link to a directory of the real workspace, the fingerprints take only what is
something else in the shadow than in the baseline: not a link that leads to a directory
in just one of them. -/
def TakesChanges (baseline shadow real : FileTree) : Prop :=
  ∀ p, verdict baseline shadow real p = .take → real.throughLink p = true →
    baseline.content p ≠ shadow.content p

/-- The digest tells apart what it has to tell apart in these trees. -/
def NoCollision (sha256 : Bytes → String) (trees : List FileTree) : Prop :=
  ∀ t ∈ trees, ∀ t' ∈ trees, ∀ p, ∀ x ∈ t.content p, ∀ y ∈ t'.content p,
    sha256 (hashedBytes x) = sha256 (hashedBytes y) → hashedBytes x = hashedBytes y

/-! ## Fingerprints -/

section

variable {call : Call} {baseline shadow real now : FileTree} {p : Path}

theorem hashedBytes_injective : Function.Injective hashedBytes := by
  -- the kinds already differ in their first letter
  have hfile : "file".toUTF8.toList = [102, 105, 108, 101] := by decide +kernel
  have hlink : "symlink".toUTF8.toList = [115, 121, 109, 108, 105, 110, 107] := by
    decide +kernel
  have hkinds : ∀ x y : Bytes, hashedBytes (.file x) ≠ hashedBytes (.link y) := by
    intro x y h
    rw [hashedBytes, hashedBytes, hfile, hlink] at h
    exact absurd (List.cons.inj h).1 (by decide)
  intro x y h
  cases x with
  | file x =>
      cases y with
      | file y =>
          have htail := List.append_cancel_left h
          rw [(List.cons.inj htail).2]
      | link y => exact absurd h (hkinds x y)
  | link x =>
      cases y with
      | file y => exact absurd h.symm (hkinds y x)
      | link y =>
          have htail := List.append_cancel_left h
          rw [(List.cons.inj htail).2]

theorem covered_ne_none {t : FileTree} (h : covered t p ≠ none) :
    inWorkspace p = true ∧ t.node p ≠ none ∧ p ∈ iterWorkspaceFiles t := by
  have hwalked : walked t p = true := by
    by_contra hnot
    exact h (if_neg hnot)
  have hparts := hwalked
  rw [walked, Bool.and_eq_true] at hparts
  have hnode : t.node p ≠ none := by
    intro hnone
    rw [hnone] at hparts
    exact Bool.false_ne_true hparts.2
  exact ⟨hparts.1, hnode, List.mem_filter.mpr ⟨t.listed p hnode, hwalked⟩⟩

theorem covered_of_ignored {t : FileTree} (h : inWorkspace p = false) : covered t p = none := by
  by_contra hne
  rw [(covered_ne_none hne).1] at h
  cases h

theorem content_ne_none_of_walked {t : FileTree} (h : walked t p = true) : t.content p ≠ none := by
  rw [walked, Bool.and_eq_true] at h
  rw [FileTree.content]
  split at h
  next hnode => simp [hnode, Node.content?]
  next hnode => simp [hnode, Node.content?]
  next => exact absurd h.2 Bool.false_ne_true

theorem covered_ne_iff {t t' : FileTree} (hne : t.content p ≠ t'.content p) :
    covered t p ≠ covered t' p ↔ walked t p = true ∨ walked t' p = true := by
  unfold covered
  by_cases h : walked t p
  · by_cases h' : walked t' p
    · simp [h, h', hne]
    · simp [h, h', content_ne_none_of_walked h]
  · by_cases h' : walked t' p
    · simp [h, h', (content_ne_none_of_walked h').symm]
    · simp [h, h']

theorem content_ne_of_covered {t t' : FileTree} (hne : covered t p ≠ covered t' p)
    (h : walked t p = true → walked t' p = false → t.content p ≠ t'.content p)
    (h' : walked t' p = true → walked t p = false → t'.content p ≠ t.content p) :
    t.content p ≠ t'.content p := by
  unfold covered at hne
  cases hw : walked t p with
  | true =>
      cases hw' : walked t' p with
      | true => simpa [hw, hw'] using hne
      | false => exact h hw hw'
  | false =>
      cases hw' : walked t' p with
      | true => exact (h' hw' hw).symm
      | false => simp [hw, hw'] at hne

theorem hashFor_eq {sha256 : Bytes → String} {t : FileTree} :
    hashFor sha256 t p = (covered t p).map fun content => sha256 (hashedBytes content) := by
  unfold hashFor covered
  split <;> rfl

theorem hashFor_eq_iff {sha256 : Bytes → String} {trees : List FileTree}
    (hdigest : NoCollision sha256 trees) {t t' : FileTree} (ht : t ∈ trees) (ht' : t' ∈ trees) :
    hashFor sha256 t p = hashFor sha256 t' p ↔ covered t p = covered t' p := by
  have hcovers : ∀ (t : FileTree) (x : Content), covered t p = some x → x ∈ t.content p := by
    intro t x hx
    unfold covered at hx
    split at hx
    · exact hx
    · cases hx
  rw [hashFor_eq, hashFor_eq]
  refine ⟨fun h => ?_, fun h => by rw [h]⟩
  cases hx : covered t p with
  | none =>
      rw [hx] at h
      exact (Option.map_eq_none_iff.mp h.symm).symm
  | some x =>
      cases hy : covered t' p with
      | none =>
          rw [hy] at h
          rw [← hx]
          exact Option.map_eq_none_iff.mp h
      | some y =>
          rw [hx, hy] at h
          have hbytes := hdigest t ht t' ht' p x (hcovers t x hx) y (hcovers t' y hy)
            (Option.some.inj h)
          rw [hashedBytes_injective hbytes]

/-! ## The paths of the merge -/

/-- The trees of a merge, whose contents the digest tells apart. -/
abbrev ToldApart (call : Call) (baseline shadow real : FileTree) : Prop :=
  NoCollision call.sha256 [baseline, shadow, real]

theorem mem_agentChanged (hdigest : ToldApart call baseline shadow real) :
    p ∈ agentChanged call.sha256 baseline shadow real ↔ covered baseline p ≠ covered shadow p := by
  unfold agentChanged
  rw [List.mem_filter, decide_eq_true_eq, ne_eq, hashFor_eq_iff hdigest (by simp) (by simp),
    and_iff_right_iff_imp]
  intro hne
  unfold candidatePaths
  rw [List.mem_insertionSort, List.mem_dedup, List.mem_append, List.mem_append]
  refine .inl ?_
  by_cases hbaseline : covered baseline p = none
  · exact .inr (covered_ne_none fun h => hne (hbaseline.trans h.symm)).2.2
  · exact .inl (covered_ne_none hbaseline).2.2

theorem covered_of_changed {sha256 : Bytes → String}
    (h : p ∈ agentChanged sha256 baseline shadow real) : covered baseline p ≠ covered shadow p := by
  intro hsame
  refine of_decide_eq_true (List.mem_filter.mp h).2 ?_
  rw [hashFor_eq, hashFor_eq, hsame]

theorem mem_conflictPaths (hdigest : ToldApart call baseline shadow real) :
    p ∈ conflictPaths call.sha256 baseline shadow real
      ↔ verdict baseline shadow real p = .conflict := by
  unfold conflictPaths verdict
  rw [List.mem_filter, mem_agentChanged hdigest, threeWay_eq_conflict_iff]
  refine and_congr_right fun hne => ?_
  have hbs : hashFor call.sha256 baseline p ≠ hashFor call.sha256 shadow p :=
    (hashFor_eq_iff hdigest (by simp) (by simp)).not.mpr hne
  have hrb : hashFor call.sha256 real p = hashFor call.sha256 baseline p
      ↔ covered real p = covered baseline p := hashFor_eq_iff hdigest (by simp) (by simp)
  have hrs : hashFor call.sha256 real p = hashFor call.sha256 shadow p
      ↔ covered real p = covered shadow p := hashFor_eq_iff hdigest (by simp) (by simp)
  rw [mergeConflicts, if_neg hbs]
  simp only [hrb, hrs]
  split
  next h => simp [h]
  next h =>
    split
    next h' => simp [h']
    next h' => simp [h, h']

theorem conflictPaths_eq_nil_iff (hdigest : ToldApart call baseline shadow real) :
    conflictPaths call.sha256 baseline shadow real = []
      ↔ ∀ p, verdict baseline shadow real p ≠ .conflict := by
  rw [List.eq_nil_iff_forall_not_mem]
  exact forall_congr' fun p => (mem_conflictPaths hdigest).not

theorem differs_iff_take (hdigest : ToldApart call baseline shadow real)
    (hnone : ∀ p, verdict baseline shadow real p ≠ .conflict) :
    p ∈ agentChanged call.sha256 baseline shadow real ∧ Differs call shadow real p
      ↔ verdict baseline shadow real p = .take := by
  unfold verdict
  rw [mem_agentChanged hdigest, threeWay_eq_take_iff]
  refine and_congr_right fun hne => ?_
  unfold Differs
  rw [ne_eq, hashFor_eq_iff hdigest (by simp) (by simp)]
  refine ⟨fun hreal => ⟨hreal, ?_⟩, fun h => h.1⟩
  by_contra hother
  exact hnone p (threeWay_eq_conflict_iff.mpr ⟨hne, hother, hreal⟩)

theorem agentChanged_nodup (sha256 : Bytes → String) (baseline shadow real : FileTree) :
    (agentChanged sha256 baseline shadow real).Nodup := by
  refine List.Nodup.filter _ ?_
  exact (List.perm_insertionSort _ _).nodup_iff.mpr (List.nodup_dedup _)

theorem mem_tree_of_changed (h : covered baseline p ≠ covered shadow p) :
    baseline.node p ≠ none ∨ shadow.node p ≠ none := by
  by_cases hbaseline : covered baseline p = none
  · exact .inr (covered_ne_none fun hnone => h (hbaseline.trans hnone.symm)).2.1
  · exact .inl (covered_ne_none hbaseline).2.1

/-! ## The order of the paths -/

theorem posix_cons_cons (name next : String) (rest : Path) :
    posix (name :: next :: rest) = name.toList ++ '/' :: posix (next :: rest) := by
  simp [posix, List.intercalate]

theorem posix_append {p rest : Path} (hp : p ≠ []) (hrest : rest ≠ []) :
    posix (p ++ rest) = posix p ++ '/' :: posix rest := by
  obtain ⟨next, rest, rfl⟩ := List.exists_cons_of_ne_nil hrest
  induction p with
  | nil => exact absurd rfl hp
  | cons name p ih =>
      cases p with
      | nil => simp [posix, List.intercalate]
      | cons name' p =>
          rw [List.cons_append, List.cons_append, posix_cons_cons, posix_cons_cons,
            ← List.cons_append, ih (List.cons_ne_nil _ _), List.append_assoc, List.cons_append]

theorem not_posix_le_of_ancestor {p q : Path} (hq : q ≠ []) (habove : q ∈ ancestors p) :
    ¬ posix p ≤ posix q := by
  obtain ⟨hpre, hne⟩ := mem_ancestors.mp habove
  obtain ⟨rest, rfl⟩ := hpre
  have hrest : rest ≠ [] := by
    rintro rfl
    exact hne (List.append_nil q).symm
  rw [posix_append hq hrest]
  have hless := List.Lex.append_left (· < ·)
    (List.Lex.nil : List.Lex (· < ·) [] ('/' :: posix rest)) (posix q)
  rw [List.append_nil] at hless
  exact not_le_of_gt ((List.lt_iff_lex_lt _ _).mpr hless)

theorem agentChanged_sorted (sha256 : Bytes → String) (baseline shadow real : FileTree) :
    (agentChanged sha256 baseline shadow real).Pairwise fun p q => posix p ≤ posix q := by
  have htotal : Std.Total (fun p q : Path => posix p ≤ posix q) :=
    ⟨fun p q => le_total (posix p) (posix q)⟩
  have htrans : IsTrans Path fun p q => posix p ≤ posix q := ⟨fun _ _ _ => le_trans⟩
  exact (List.pairwise_insertionSort _ _).filter _

theorem covered_root (t : FileTree) : covered t [] = none := by
  simp [covered, walked, t.root]

/-- A path that is above another one comes before it. -/
theorem agentChanged_ordered (sha256 : Bytes → String) (baseline shadow real : FileTree) :
    (agentChanged sha256 baseline shadow real).Pairwise fun p q => q ∉ ancestors p := by
  refine (agentChanged_sorted sha256 baseline shadow real).imp_of_mem fun _ hq hle habove => ?_
  refine not_posix_le_of_ancestor ?_ habove hle
  rintro rfl
  refine covered_of_changed hq ?_
  rw [covered_root, covered_root]

/-! ## Around the loop -/

/-- The text of a conflict can be read. -/
def Readable (call : Call) (shadow real : FileTree) (p : Path) : Prop :=
  call.there real p ≠ some .dir ∧ call.source shadow real p ≠ some .dir

theorem writeConflicts_eq_ok_iff (conflicts : List Path) (t t' : FileTree) :
    writeConflicts call real shadow conflicts t = .ok () t'
      ↔ t' = t ∧ ∀ p ∈ conflicts, Readable call shadow real p := by
  induction conflicts with
  | nil =>
      refine ⟨fun h => ?_, ?_⟩
      · cases h
        exact ⟨rfl, fun p hp => absurd hp List.not_mem_nil⟩
      · rintro ⟨rfl, -⟩
        rfl
  | cons p rest ih =>
      rw [writeConflicts, List.forall_mem_cons]
      by_cases hdir : call.there real p = some .dir ∨ call.source shadow real p = some .dir
      · rw [if_pos hdir]
        refine ⟨nofun, ?_⟩
        rintro ⟨-, ⟨hreal, hshadow⟩, -⟩
        exact absurd hdir (not_or.mpr ⟨hreal, hshadow⟩)
      · have hreadable : Readable call shadow real p := not_or.mp hdir
        rw [if_neg hdir, ih, and_iff_right hreadable]

theorem Savable.congr {changed changed' : Path → Prop} (h : ∀ p, changed p ↔ changed' p) :
    Savable call real changed ↔ Savable call real changed' := by
  rw [funext fun p => propext (h p)]

theorem savable_changed_iff (hdigest : ToldApart call baseline shadow real) :
    Savable call real (· ∈ agentChanged call.sha256 baseline shadow real)
      ↔ Savable call real fun p => covered baseline p ≠ covered shadow p :=
  Savable.congr fun _ => mem_agentChanged hdigest

/-- Nothing is found below what has no link to a directory above it and is no directory. -/
theorem savable_of_straight {changed : Path → Prop}
    (hstraight : ∀ p, changed p → real.throughLink p = false)
    (hleaf : ∀ p, changed p → call.there real p ≠ some .dir) : Savable call real changed := by
  have hthere : ∀ p, changed p → call.there real p = real.node p := fun p hp => by
    rw [Call.there, found, hstraight p hp, if_neg Bool.false_ne_true]
  refine ⟨hleaf, fun p hp hsome q habove hq => ?_⟩
  rw [hthere p hp] at hsome
  obtain ⟨hpre, hne⟩ := mem_ancestors.mp habove
  exact absurd ((hthere q hq).trans (dir_of_above hpre hne hsome)) (hleaf q hq)

theorem Savable.append {done : List Path} (hfirst : ∀ q ∈ done, p ∉ ancestors q) :
    Savable call real (· ∈ done ++ [p])
      ↔ Savable call real (· ∈ done) ∧ call.there real p ≠ some .dir
        ∧ (call.there real p ≠ none → ∀ q ∈ ancestors p, q ∈ done → call.there real q = none) := by
  have hself : p ∉ ancestors p := fun h => (mem_ancestors.mp h).2 rfl
  constructor
  · refine fun h => ⟨⟨fun q hq => h.leaf q (List.mem_append_left _ hq), fun q hq hsome q' habove
      hq' => h.apart q (List.mem_append_left _ hq) hsome q' habove (List.mem_append_left _ hq')⟩,
      h.leaf p (List.mem_append_right _ List.mem_cons_self), fun hsome q habove hq => ?_⟩
    exact h.apart p (List.mem_append_right _ List.mem_cons_self) hsome q habove
      (List.mem_append_left _ hq)
  · rintro ⟨hdone, hleaf, hapart⟩
    refine ⟨fun q hq => ?_, fun q hq hsome q' habove hq' => ?_⟩
    · rcases List.mem_append.mp hq with hmem | hmem
      · exact hdone.leaf q hmem
      · rw [List.mem_singleton.mp hmem]
        exact hleaf
    · rcases List.mem_append.mp hq with hmem | hmem
      · rcases List.mem_append.mp hq' with hmem' | hmem'
        · exact hdone.apart q hmem hsome q' habove hmem'
        · exact absurd (List.mem_singleton.mp hmem' ▸ habove) (hfirst q hmem)
      · rw [List.mem_singleton.mp hmem] at hsome habove
        rcases List.mem_append.mp hq' with hmem' | hmem'
        · exact hapart hsome q' habove hmem'
        · exact absurd (List.mem_singleton.mp hmem' ▸ habove) hself

theorem Savable.mono {changed changed' : Path → Prop} (h : Savable call real changed)
    (hsub : ∀ p, changed' p → changed p) : Savable call real changed' :=
  ⟨fun p hp => h.leaf p (hsub p hp),
    fun p hp hsome q habove hq => h.apart p (hsub p hp) hsome q habove (hsub q hq)⟩

/-- The backup goes on where it has saved what it had to. -/
theorem backupRealFiles_run (call : Call) (real t : FileTree) {done rest : List Path}
    {saved : List (Path × Content)}
    (hordered : (done ++ rest).Pairwise fun p q => q ∉ ancestors p)
    (hdone : Savable call real (· ∈ done))
    (hsaved : ∀ p, saved.lookup p
      = if p ∈ done then (call.there real p).bind Node.content? else none) :
    Savable call real (· ∈ done ++ rest)
        ∧ (∃ all, backupRealFiles call real rest saved t = .ok all t ∧ ∀ p, all.lookup p
          = if p ∈ done ++ rest then (call.there real p).bind Node.content? else none)
      ∨ ¬ Savable call real (· ∈ done ++ rest)
        ∧ ∃ e, backupRealFiles call real rest saved t = .error e t := by
  induction rest generalizing done saved with
  | nil =>
      rw [List.append_nil]
      exact .inl ⟨hdone, saved, rfl, hsaved⟩
  | cons p rest ih =>
      have hsplit : done ++ p :: rest = (done ++ [p]) ++ rest := by simp
      have hfirst : ∀ q ∈ done, p ∉ ancestors q := fun q hq =>
        (List.pairwise_append.mp hordered).2.2 q hq p List.mem_cons_self
      have hpart : Savable call real (· ∈ (done ++ [p]) ++ rest)
          → Savable call real (· ∈ done ++ [p]) := fun h =>
        h.mono fun q hq => List.mem_append_left _ hq
      rw [hsplit] at hordered ⊢
      rw [backupRealFiles]
      cases hnode : call.there real p with
      | none =>
          refine ih hordered ((Savable.append hfirst).mpr ⟨hdone, ?_, ?_⟩) fun q => ?_
          · simp [hnode]
          · exact fun hsome => absurd hnode hsome
          · rw [hsaved q]
            by_cases hq : q = p
            · simp [hq, hnode]
            · simp [hq]
      | some node =>
          cases hcontent : node.content? with
          | none =>
              refine .inr ⟨fun h => ?_, .backup p, by simp only [hcontent]; rfl⟩
              refine ((Savable.append hfirst).mp (hpart h)).2.1 ?_
              rw [hnode, Node.content?_eq_none_iff.mp hcontent]
          | some content =>
              simp only [hcontent]
              by_cases hblocked : saved.any (·.1 ∈ ancestors p) = true
              · rw [if_pos hblocked]
                refine .inr ⟨fun h => ?_, .backup p, rfl⟩
                obtain ⟨entry, hentry, habove⟩ := List.any_eq_true.mp hblocked
                have hlookup : saved.lookup entry.1 ≠ none := fun hnone => by
                  simpa using List.lookup_eq_none_iff.mp hnone entry hentry
                rw [hsaved] at hlookup
                by_cases hmem : entry.1 ∈ done
                · rw [if_pos hmem] at hlookup
                  refine hlookup ?_
                  rw [((Savable.append hfirst).mp (hpart h)).2.2 (by simp [hnode]) _
                    (of_decide_eq_true habove) hmem]
                  rfl
                · exact hlookup (if_neg hmem)
              · rw [if_neg hblocked]
                refine ih hordered ((Savable.append hfirst).mpr ⟨hdone, ?_, ?_⟩) fun q => ?_
                · rw [hnode]
                  rintro hdir
                  rw [Option.some.inj hdir] at hcontent
                  cases hcontent
                · intro _ q habove hq
                  by_contra hsome
                  -- what is found there has been saved
                  obtain ⟨other, hother⟩ := Option.ne_none_iff_exists'.mp hsome
                  have hkept : saved.lookup q ≠ none := by
                    rw [hsaved q, if_pos hq, hother]
                    intro hnone
                    refine hdone.leaf q hq ?_
                    rw [hother, Node.content?_eq_none_iff.mp hnone]
                  refine hblocked (List.any_eq_true.mpr ?_)
                  by_contra hnot
                  refine hkept (List.lookup_eq_none_iff.mpr fun entry hentry => ?_)
                  by_contra heq
                  refine hnot ⟨entry, hentry, decide_eq_true ?_⟩
                  have hkey : q = entry.1 := by simpa using heq
                  rw [← hkey]
                  exact habove
                · rw [List.lookup_append, hsaved q]
                  by_cases hq : q = p
                  · subst hq
                    by_cases hmem : q ∈ done <;> simp [hmem, hnode, hcontent]
                  · have hbeq : (q == p) = false := by simpa using hq
                    simp [hq, List.lookup_cons, hbeq]

theorem backupRealFiles_spec (call : Call) (baseline shadow real : FileTree) :
    Savable call real (· ∈ agentChanged call.sha256 baseline shadow real)
        ∧ (∃ saved, backupRealFiles call real (agentChanged call.sha256 baseline shadow real) []
            real = .ok saved real
          ∧ ∀ p, saved.lookup p = if p ∈ agentChanged call.sha256 baseline shadow real then
            (call.there real p).bind Node.content? else none)
      ∨ ¬ Savable call real (· ∈ agentChanged call.sha256 baseline shadow real)
        ∧ ∃ e, backupRealFiles call real (agentChanged call.sha256 baseline shadow real) [] real
          = .error e real := by
  have hnothing : Savable call real (· ∈ []) :=
    ⟨fun _ hp => absurd hp List.not_mem_nil, fun _ hp => absurd hp List.not_mem_nil⟩
  exact @backupRealFiles_run call real real [] (agentChanged call.sha256 baseline shadow real) []
    (agentChanged_ordered _ _ _ _) hnothing fun p => by simp

/-! ## The whole merge -/

theorem mergeBack_conflicted (hconflicts : conflictPaths call.sha256 baseline shadow real ≠ []) :
    mergeBack call baseline shadow real
      = (writeConflicts call real shadow (conflictPaths call.sha256 baseline shadow real)
          >>= fun _ => pure ⟨.conflicted, conflictPaths call.sha256 baseline shadow real⟩
            : Merging Merged) real := by
  unfold mergeBack
  simp only [bind, EStateM.bind, get, getThe, MonadStateOf.get, EStateM.get, if_pos hconflicts]

theorem mergeBack_unsaved {e : MergeError}
    (hconflicts : conflictPaths call.sha256 baseline shadow real = [])
    (hsaved : backupRealFiles call real (agentChanged call.sha256 baseline shadow real) [] real
      = .error e real) : mergeBack call baseline shadow real = .error e real := by
  unfold mergeBack
  simp only [bind, EStateM.bind, get, getThe, MonadStateOf.get, EStateM.get, hconflicts, hsaved,
    ne_eq, not_true_eq_false, if_false]

theorem mergeBack_applied {saved : List (Path × Content)} {applied : Bool}
    (hconflicts : conflictPaths call.sha256 baseline shadow real = [])
    (hsaved : backupRealFiles call real (agentChanged call.sha256 baseline shadow real) [] real
      = .ok saved real)
    (happlied : applyChanged call shadow real (agentChanged call.sha256 baseline shadow real)
      false real = .ok applied now) :
    mergeBack call baseline shadow real = .ok ⟨if applied then .clean else .noOp, []⟩ now := by
  unfold mergeBack
  simp only [bind, EStateM.bind, get, getThe, MonadStateOf.get, EStateM.get, hconflicts, hsaved,
    ne_eq, not_true_eq_false, if_false, tryCatch, tryCatchThe, MonadExceptOf.tryCatch,
    EStateM.tryCatch, happlied]
  rfl

theorem mergeBack_failed {saved : List (Path × Content)} {e : MergeError}
    (hconflicts : conflictPaths call.sha256 baseline shadow real = [])
    (hsaved : backupRealFiles call real (agentChanged call.sha256 baseline shadow real) [] real
      = .ok saved real)
    (happlied : applyChanged call shadow real (agentChanged call.sha256 baseline shadow real)
      false real = .error e now) :
    mergeBack call baseline shadow real
      = match restoreRealFiles call saved (agentChanged call.sha256 baseline shadow real) now with
        | .ok _ restored => .error e restored
        | .error e' restored => .error e' restored := by
  unfold mergeBack
  simp only [bind, EStateM.bind, get, getThe, MonadStateOf.get, EStateM.get, hconflicts, hsaved,
    ne_eq, not_true_eq_false, if_false, tryCatch, tryCatchThe, MonadExceptOf.tryCatch,
    EStateM.tryCatch, happlied, EStateM.Backtrackable.restore, EStateM.dummyRestore]
  cases restoreRealFiles call saved (agentChanged call.sha256 baseline shadow real) now <;> rfl

theorem conflicts_told_iff :
    (∀ p, verdict baseline shadow real p = .conflict ↔ Disputed baseline shadow real p)
      ↔ (∀ p, Disputed baseline shadow real p →
          (walked baseline p = true ∨ walked shadow p = true)
            ∧ (walked real p = true ∨ walked baseline p = true)
            ∧ (walked real p = true ∨ walked shadow p = true))
        ∧ ∀ p, verdict baseline shadow real p = .conflict →
          ∀ t ∈ [baseline, shadow, real], ∀ t' ∈ [baseline, shadow, real],
            walked t p = true → walked t' p = false → t.content p ≠ t'.content p := by
  constructor
  · refine fun htold => ⟨fun p hdisputed => ?_, fun p hconflict => ?_⟩
    · obtain ⟨hbs, hrb, hrs⟩ := threeWay_eq_conflict_iff.mp ((htold p).mpr hdisputed)
      exact ⟨(covered_ne_iff hdisputed.2.1).mp hbs, (covered_ne_iff hdisputed.2.2.1).mp hrb,
        (covered_ne_iff hdisputed.2.2.2).mp hrs⟩
    · obtain ⟨-, hbs, hrb, hrs⟩ := (htold p).mp hconflict
      intro t ht t' ht' hwalked hnot hsame
      have hother : t ≠ t' := by
        rintro rfl
        rw [hwalked] at hnot
        cases hnot
      simp only [List.mem_cons, List.not_mem_nil, or_false] at ht ht'
      rcases ht with rfl | rfl | rfl
      · rcases ht' with rfl | rfl | rfl
        exacts [hother rfl, hbs hsame, hrb hsame.symm]
      · rcases ht' with rfl | rfl | rfl
        exacts [hbs hsame.symm, hother rfl, hrs hsame.symm]
      · rcases ht' with rfl | rfl | rfl
        exacts [hrb hsame, hrs hsame, hother rfl]
  · rintro ⟨hseen, halike⟩ p
    refine ⟨fun hconflict => ?_, fun hdisputed => ?_⟩
    · obtain ⟨hbs, hrb, hrs⟩ := threeWay_eq_conflict_iff.mp hconflict
      have hne : ∀ t ∈ [baseline, shadow, real], ∀ t' ∈ [baseline, shadow, real],
          covered t p ≠ covered t' p → t.content p ≠ t'.content p := fun t ht t' ht' hne =>
        content_ne_of_covered hne (halike p hconflict t ht t' ht') (halike p hconflict t' ht' t ht)
      refine ⟨?_, hne _ (by simp) _ (by simp) hbs, hne _ (by simp) _ (by simp) hrb,
        hne _ (by simp) _ (by simp) hrs⟩
      by_cases hbaseline : covered baseline p = none
      · exact (covered_ne_none fun h => hbs (hbaseline.trans h.symm)).1
      · exact (covered_ne_none hbaseline).1
    · obtain ⟨hbs, hrb, hrs⟩ := hseen p hdisputed
      exact threeWay_eq_conflict_iff.mpr ⟨(covered_ne_iff hdisputed.2.1).mpr hbs,
        (covered_ne_iff hdisputed.2.2.1).mpr hrb, (covered_ne_iff hdisputed.2.2.2).mpr hrs⟩

theorem conflicted_exact_iff (hdigest : ToldApart call baseline shadow real)
    (hconflict : ∃ p, verdict baseline shadow real p = .conflict) :
    ExactMerge baseline shadow real (mergeBack call baseline shadow real)
      ↔ ConflictsReadable call baseline shadow real := by
  have hne : conflictPaths call.sha256 baseline shadow real ≠ [] := by
    rw [ne_eq, conflictPaths_eq_nil_iff hdigest]
    obtain ⟨p, hp⟩ := hconflict
    exact fun hnone => hnone p hp
  have hreads (t : FileTree) : writeConflicts call real shadow
        (conflictPaths call.sha256 baseline shadow real) real = .ok () t
      ↔ t = real ∧ ∀ p ∈ conflictPaths call.sha256 baseline shadow real,
        Readable call shadow real p := writeConflicts_eq_ok_iff _ real t
  rw [mergeBack_conflicted hne]
  simp only [bind, EStateM.bind]
  split
  next u t hrun =>
    obtain ⟨rfl, hall⟩ := (hreads t).mp hrun
    refine ⟨fun hexact => ?_, fun hreadable => ⟨fun p => rfl, fun p => ?_⟩⟩
    · obtain ⟨hseen, halike⟩ := conflicts_told_iff.mp fun p =>
        (mem_conflictPaths hdigest).symm.trans (hexact.2 p)
      exact ⟨hseen, halike, fun p hp => hall p ((mem_conflictPaths hdigest).mpr hp)⟩
    · exact (mem_conflictPaths hdigest).trans
        (conflicts_told_iff.mpr ⟨hreadable.seen, hreadable.alike⟩ p)
  next e t hrun =>
    refine ⟨False.elim, fun hreadable => ?_⟩
    have hok := (hreads real).mpr ⟨rfl, fun p hp =>
      hreadable.readable p ((mem_conflictPaths hdigest).mp hp)⟩
    rw [hok] at hrun
    cases hrun

/-- A path that is not taken keeps what it has, and one that is gets the shadow's. -/
structure Took (baseline shadow real : FileTree) (applied : Bool) (now : FileTree) : Prop where
  taken : ∀ p, verdict baseline shadow real p = .take → now.content p = shadow.content p
  kept : ∀ p, verdict baseline shadow real p ≠ .take → now.content p = real.content p
  counted : applied = true ↔ ∃ p, verdict baseline shadow real p = .take

theorem not_take_of_ignored (h : inWorkspace p = false) :
    verdict baseline shadow real p ≠ .take := by
  unfold verdict
  rw [covered_of_ignored h, covered_of_ignored h, covered_of_ignored h, ne_eq,
    threeWay_eq_take_iff]
  exact fun htake => htake.1 rfl

theorem Took.exact_iff {applied : Bool} (h : Took baseline shadow real applied now) :
    ExactMerge baseline shadow real (.ok ⟨if applied then .clean else .noOp, []⟩ now)
      ↔ (∀ p, inWorkspace p = true → real.content p ≠ shadow.content p →
          (verdict baseline shadow real p = .take ↔ baseline.content p ≠ shadow.content p))
        ∧ ((∃ p, verdict baseline shadow real p = .take) →
          ∃ p, verdict baseline shadow real p = .take ∧ real.content p ≠ shadow.content p) := by
  have hstatus : (if applied then MergeStatus.clean else .noOp) ≠ .conflicted := by
    cases applied <;> exact MergeStatus.noConfusion
  have hnoOp : (if applied then MergeStatus.clean else .noOp) = .noOp
      ↔ ¬ ∃ p, verdict baseline shadow real p = .take := by
    rw [← h.counted]
    cases applied <;> simp
  simp only [ExactMerge, if_neg hstatus, hnoOp]
  constructor
  · rintro ⟨hchanged, hothers, hsame⟩
    refine ⟨fun p hin hne => ⟨fun htake hkeeps => ?_, fun hchange => ?_⟩, fun htook => ?_⟩
    · exact hne ((hothers p (.inr hkeeps)).symm.trans (h.taken p htake))
    · by_contra hnot
      exact hne ((h.kept p hnot).symm.trans (hchanged p hin hchange))
    · have hmoved : ¬ ∀ p, now.content p = real.content p := fun hall => hsame.mpr hall htook
      obtain ⟨p, hp⟩ := not_forall.mp hmoved
      have htake : verdict baseline shadow real p = .take := by
        by_contra hnot
        exact hp (h.kept p hnot)
      exact ⟨p, htake, fun hreal => hp ((h.taken p htake).trans hreal.symm)⟩
  · rintro ⟨htold, hcounted⟩
    refine ⟨fun p hin hchange => ?_, fun p hother => ?_, fun hnot p => ?_, fun hall htook => ?_⟩
    · by_cases htake : verdict baseline shadow real p = .take
      · exact h.taken p htake
      · rw [h.kept p htake]
        by_contra hne
        exact htake ((htold p hin hne).mpr hchange)
    · by_cases htake : verdict baseline shadow real p = .take
      · rw [h.taken p htake]
        by_contra hne
        have hin : inWorkspace p = true := by
          by_contra hignored
          exact not_take_of_ignored (by simpa using hignored) htake
        have hchange := (htold p hin (Ne.symm hne)).mp htake
        rcases hother with hignored | hkeeps
        · rw [hin] at hignored
          cases hignored
        · exact hchange hkeeps
      · exact h.kept p htake
    · exact h.kept p fun htake => hnot ⟨p, htake⟩
    · obtain ⟨p, htake, hne⟩ := hcounted htook
      exact hne ((hall p).symm.trans (h.taken p htake))

/-- Without conflicts, the fingerprints tell what the shadow changed where the walks list
enough of it. -/
theorem changes_told_iff (hnone : ∀ p, verdict baseline shadow real p ≠ .conflict) :
    (∀ p, inWorkspace p = true → real.content p ≠ shadow.content p →
        (verdict baseline shadow real p = .take ↔ baseline.content p ≠ shadow.content p))
      ↔ (∀ p, inWorkspace p = true → real.content p ≠ shadow.content p →
          baseline.content p ≠ shadow.content p →
            (walked baseline p = true ∨ walked shadow p = true)
              ∧ (walked real p = true ∨ walked shadow p = true))
        ∧ ∀ p, real.content p ≠ shadow.content p → baseline.content p = shadow.content p →
          walked shadow p = true → walked baseline p = true := by
  have htake : ∀ p, verdict baseline shadow real p = .take
      ↔ covered baseline p ≠ covered shadow p ∧ covered real p ≠ covered shadow p := by
    intro p
    refine ⟨fun h => ?_, fun ⟨hbs, hrs⟩ => ?_⟩
    · obtain ⟨hbs, hrs, -⟩ := threeWay_eq_take_iff.mp h
      exact ⟨hbs, hrs⟩
    · refine threeWay_eq_take_iff.mpr ⟨hbs, hrs, ?_⟩
      by_contra hrb
      exact hnone p (threeWay_eq_conflict_iff.mpr ⟨hbs, hrb, hrs⟩)
  constructor
  · refine fun htold => ⟨fun p hin hne hchange => ?_, fun p hne hsame hwalked => ?_⟩
    · obtain ⟨hbs, hrs⟩ := (htake p).mp ((htold p hin hne).mpr hchange)
      exact ⟨(covered_ne_iff hchange).mp hbs, (covered_ne_iff hne).mp hrs⟩
    · by_contra hnot
      have hcovered : covered shadow p ≠ none := by
        rw [covered, if_pos hwalked]
        exact content_ne_none_of_walked hwalked
      have hbs : covered baseline p ≠ covered shadow p := by
        rw [covered, if_neg hnot]
        exact hcovered.symm
      have hrs := (covered_ne_iff hne).mpr (.inr hwalked)
      exact (htold p (covered_ne_none hcovered).1 hne).mp ((htake p).mpr ⟨hbs, hrs⟩) hsame
  · rintro ⟨hseen, halike⟩ p hin hne
    refine ⟨fun h hsame => ?_, fun hchange => ?_⟩
    · -- a link that leads to a directory in just one of the two would be taken
      obtain ⟨hbs, hrs⟩ := (htake p).mp h
      refine content_ne_of_covered hbs (fun hbaseline hnot => ?_) (fun hwalked hnot => ?_) hsame
      · have hreal := ((covered_ne_iff hne).mp hrs).resolve_right (by simp [hnot])
        have hrb : real.content p ≠ baseline.content p := hsame ▸ hne
        exact absurd (threeWay_eq_conflict_iff.mpr
          ⟨hbs, (covered_ne_iff hrb).mpr (.inl hreal), hrs⟩) (hnone p)
      · rw [halike p hne hsame hwalked] at hnot
        cases hnot
    · obtain ⟨hbs, hrs⟩ := hseen p hin hne hchange
      exact (htake p).mpr ⟨(covered_ne_iff hchange).mpr hbs, (covered_ne_iff hne).mpr hrs⟩

theorem node_ne_dir_of_saved (h : call.there real p ≠ some .dir) : real.node p ≠ some .dir := by
  intro hdir
  refine h ?_
  rw [Call.there, found, throughLink_of_node (by simp [hdir]), if_neg Bool.false_ne_true, hdir]

theorem ready_of_saved (hbaseline : FreshName call.uuid baseline)
    (hshadow : FreshName call.uuid shadow) (hreal : FreshName call.uuid real)
    (hsaved : ∀ p ∈ agentChanged call.sha256 baseline shadow real, call.there real p ≠ some .dir)
    (hstraight : ∀ p ∈ agentChanged call.sha256 baseline shadow real,
      Differs call shadow real p → real.throughLink p = false) :
    Ready call shadow real (agentChanged call.sha256 baseline shadow real) where
  shadowFresh := hshadow
  realFresh := hreal
  noTemp p hp := by
    rcases mem_tree_of_changed (covered_of_changed hp) with h | h
    · exact h (hbaseline p)
    · exact h (hshadow p)
  noDir p hp := node_ne_dir_of_saved (hsaved p hp)
  straight := hstraight

/-- Where the changes that are taken lead through no link to a directory, the loop of a
merge that was saved takes what the verdicts take, or meets a path that cannot be
applied. -/
theorem applyChanged_took (hfault : call.fault = none)
    (hdigest : ToldApart call baseline shadow real) (hbaseline : FreshName call.uuid baseline)
    (hshadow : FreshName call.uuid shadow) (hreal : FreshName call.uuid real)
    (hnone : ∀ p, verdict baseline shadow real p ≠ .conflict)
    (hsaved : ∀ p ∈ agentChanged call.sha256 baseline shadow real, call.there real p ≠ some .dir)
    (hstraight : TakesStraight baseline shadow real) :
    (∃ applied now, applyChanged call shadow real (agentChanged call.sha256 baseline shadow real)
        false real = .ok applied now ∧ Took baseline shadow real applied now
        ∧ ∀ p, verdict baseline shadow real p = .take → Applicable shadow real p)
      ∨ (∃ e now, applyChanged call shadow real (agentChanged call.sha256 baseline shadow real)
        false real = .error e now)
        ∧ ¬ ∀ p, verdict baseline shadow real p = .take → Applicable shadow real p := by
  have htake : ∀ p, p ∈ agentChanged call.sha256 baseline shadow real
      ∧ Differs call shadow real p ↔ verdict baseline shadow real p = .take :=
    fun p => differs_iff_take hdigest hnone
  have hready := ready_of_saved hbaseline hshadow hreal hsaved fun p hp hdiffers =>
    (hstraight p ((htake p).mp ⟨hp, hdiffers⟩)).1
  have hspec := applyChanged_spec hready (fun _ hp => hp) (agentChanged_nodup _ _ _ _)
    (fun _ hq => hq.elim) (fun _ _ hq => hq.elim) (appliedTo_empty shadow real) false real rfl
  cases hrun : applyChanged call shadow real (agentChanged call.sha256 baseline shadow real)
      false real with
  | ok applied now =>
      rw [hrun] at hspec
      obtain ⟨happlied, hcan, hcounted⟩ := hspec
      refine .inl ⟨applied, now, rfl, ⟨fun p hp => ?_, fun p hp => ?_, ?_⟩, fun p hp => ?_⟩
      · exact happlied.content p (.inr ((htake p).mpr hp)) (hstraight p hp).2
      · refine (happlied.others p ?_).content
        rintro (hempty | hmem)
        · exact hempty.elim
        · exact hp ((htake p).mp hmem)
      · rw [hcounted]
        simp only [Bool.false_eq_true, false_or]
        exact exists_congr htake
      · obtain ⟨hmem, hdiffers⟩ := (htake p).mpr hp
        exact ⟨hstraight p hp, hcan p hmem hdiffers (hstraight p hp).2⟩
  | error e now =>
      rw [hrun] at hspec
      obtain ⟨-, hwhy⟩ := hspec
      obtain ⟨p, hmem, hdiffers, hcannot⟩ := hwhy hfault
      have hp := (htake p).mp ⟨hmem, hdiffers⟩
      exact .inr ⟨⟨e, now, rfl⟩, fun hall => hcannot (hstraight p hp).2 (hall p hp).puttable⟩

/-- Where the changes that are taken lead through no link to a directory, a merge without
conflicts is exact if and only if the changes can be applied. -/
theorem straight_exact_iff (hfault : call.fault = none)
    (hdigest : ToldApart call baseline shadow real) (hbaseline : FreshName call.uuid baseline)
    (hshadow : FreshName call.uuid shadow) (hreal : FreshName call.uuid real)
    (hnone : ∀ p, verdict baseline shadow real p ≠ .conflict)
    (hstraight : TakesStraight baseline shadow real) :
    ExactMerge baseline shadow real (mergeBack call baseline shadow real)
      ↔ ChangesApplicable call baseline shadow real := by
  have hconflicts := (conflictPaths_eq_nil_iff hdigest).mpr hnone
  rcases backupRealFiles_spec call baseline shadow real with
    ⟨hsaved, saved, hbackup, -⟩ | ⟨hunsaved, e, hbackup⟩
  · rcases applyChanged_took hfault hdigest hbaseline hshadow hreal hnone hsaved.leaf hstraight with
      ⟨applied, now, hrun, htook, hcan⟩ | ⟨⟨e, now, hrun⟩, hcannot⟩
    · rw [mergeBack_applied hconflicts hbackup hrun, htook.exact_iff, changes_told_iff hnone]
      exact ⟨fun ⟨⟨hseen, halike⟩, hcounted⟩ =>
          ⟨hseen, halike, hcounted, (savable_changed_iff hdigest).mp hsaved, hcan⟩,
        fun happlicable => ⟨⟨happlicable.seen, happlicable.alike⟩, happlicable.counted⟩⟩
    · rw [mergeBack_failed hconflicts hbackup hrun]
      refine iff_of_false ?_ fun happlicable => hcannot happlicable.applicable
      split <;> exact not_false
  · rw [mergeBack_unsaved hconflicts hbackup]
    exact iff_of_false not_false fun happlicable =>
      hunsaved ((savable_changed_iff hdigest).mpr happlicable.saved)

/-! ## Through links to directories -/

/-- The directories of the real workspace are still directories, and there is still
something at its links to directories. -/
def LinksStand (real now : FileTree) : Prop :=
  (∀ p, real.node p = some .dir → now.node p = some .dir)
    ∧ ∀ p target, real.node p = some (.link target true) → now.content p ≠ none

theorem LinksStand.keeps {t : FileTree} (h : LinksStand real now) (hkeeps : Keeps now t) :
    LinksStand real t :=
  ⟨fun p hp => hkeeps.1 p (h.1 p hp), fun p target hp => hkeeps.2 p (h.2 p target hp)⟩

theorem LinksStand.of_grown {t : FileTree} {dirs : List Path} (h : LinksStand real now)
    (hgrown : Grown dirs now t) : LinksStand real t := by
  refine ⟨fun p hp => ?_, fun p target hp => ?_⟩
  · rw [hgrown.of_some (by simp [h.1 p hp])]
    exact h.1 p hp
  · have hsome : now.node p ≠ none := fun hnone =>
      h.2 p target hp (content_eq_none_iff.mpr (.inl hnone))
    rw [FileTree.content, hgrown.of_some hsome]
    exact h.2 p target hp

/-- `_apply_shadow_file` where the path leads through no link: a path that differs is none
of the directories and links. -/
theorem LinksStand.applyNode (h : LinksStand real now) (hfresh : FreshName call.uuid real)
    (hdiffers : Differs call shadow real p) {source : Option Node}
    (hmissing : source = none → shadow.node p = none) :
    Triple (fun t => t = now) (applyNode call p source) (fun _ t => LinksStand real t)
      (fun _ _ => True) := by
  rintro t rfl
  cases source with
  | none =>
      have hreal := node_of_differs hdiffers (hmissing rfl)
      have hcovered : covered real p ≠ none := by
        intro hnone
        refine hdiffers ?_
        rw [hashFor_eq, hashFor_eq, hnone, covered, FileTree.content, hmissing rfl]
        simp
      rw [Workspaces.applyNode]
      simp only [bind, EStateM.bind, get, getThe, MonadStateOf.get, EStateM.get]
      by_cases hthere : (t.node p).isSome
      · rw [if_pos hthere]
        refine (unlink_spec call p t).weaken (fun _ h => h) ?_ (fun _ _ _ => trivial) t rfl
        rintro - t' ⟨hleaf, rfl⟩
        refine ⟨fun q hq => ?_, fun q target hq => ?_⟩
        · have hne : q ≠ p := by
            rintro rfl
            exact hreal (content_of_dir hq)
          rw [node_erase, if_neg hne]
          exact h.1 q hq
        · have hne : q ≠ p := by
            rintro rfl
            exact hcovered (by simp [covered, walked, hq])
          rw [content_erase, if_neg hne]
          exact h.2 q target hq
      · rw [if_neg hthere]
        exact h
  | some node =>
      refine ((makeDirs_spec _ _ (ancestors p) t).weaken (fun _ h => h) (fun _ _ h => h)
        fun _ _ _ => trivial).bind (fun _ => Triple.of_each ?_) t rfl
      rintro t₁ ⟨hgrown, -⟩
      have h₁ := h.of_grown hgrown
      refine ((copyPathOrSymlink_spec call p node (tempPath call.uuid p) t₁).weaken (fun _ h => h)
        (fun _ _ h => h) fun _ _ _ => trivial).bind fun _ => Triple.of_each ?_
      rintro t₂ ⟨-, hfree, made, -, rfl⟩
      refine (replace_spec call (tempPath call.uuid p) p _).weaken (fun _ h => h) ?_
        fun _ _ _ => trivial
      rintro - t₃ ⟨content, hleaf, hfree', -, rfl⟩
      refine ⟨fun q hq => ?_, fun q target hq => ?_⟩
      · have hne : q ≠ tempPath call.uuid p := by
          rintro rfl
          rw [hfresh] at hq
          cases hq
        have hthere : ((t₁.put (tempPath call.uuid p) made hfree).erase _ hleaf).node q
            = some .dir := by
          rw [node_erase, if_neg hne, node_put, if_neg hne]
          exact h₁.1 q hq
        rw [node_put]
        split
        next hq' =>
          rw [hq'] at hthere
          exact absurd hthere hfree'.2.2
        next => exact hthere
      · have hne : q ≠ tempPath call.uuid p := by
          rintro rfl
          rw [hfresh] at hq
          cases hq
        rw [content_put]
        split
        next => simp
        next =>
          rw [content_erase, if_neg hne, content_put, if_neg hne]
          exact h₁.2 q target hq

theorem link_above {t : FileTree} (h : t.throughLink p = true) :
    ∃ q ∈ ancestors p, ∃ target, t.node q = some (.link target true) := by
  rw [throughLink, List.any_eq_true] at h
  obtain ⟨q, hq, hdir⟩ := h
  split at hdir
  next target toDir hnode => exact ⟨q, hq, target, hdir ▸ hnode⟩
  next => cases hdir

theorem node_of_throughLink {t : FileTree} (h : t.throughLink p = true) : t.node p = none := by
  by_contra hsome
  rw [throughLink_of_node hsome] at h
  cases h

theorem applyChanged_linksStand (hfresh : FreshName call.uuid real) (rest : List Path)
    (before : Bool) (h : LinksStand real now) :
    Triple (fun t => t = now) (applyChanged call shadow real rest before)
      (fun _ t => LinksStand real t) (fun _ _ => True) := by
  induction rest generalizing now before with
  | nil =>
      refine Triple.pure ?_
      rintro t rfl
      exact h
  | cons p rest ih =>
      rw [applyChanged]
      split
      · exact ih before h
      next hdiffers =>
        refine Triple.bind (?_ : Triple _ _ (fun _ t => LinksStand real t) _) fun _ =>
          Triple.of_each fun t ht => ih true ht
        rintro t rfl
        have hmissing : call.source shadow t p = none → shadow.node p = none := fun hsource => by
          by_contra hsome
          exact hsome ((source_of_node hsome).symm.trans hsource)
        by_cases hlink : t.throughLink p
        · -- behind a link there is nothing to remove: what the shadow has not, the real
          -- workspace has, and directories above it
          cases hsource : call.source shadow t p with
          | none =>
              have hreal : real.node p ≠ none := fun hnone =>
                node_of_differs hdiffers (hmissing hsource) (content_eq_none_iff.mpr (.inl hnone))
              obtain ⟨q, hq, target, hnode⟩ := link_above hlink
              obtain ⟨hpre, hne⟩ := mem_ancestors.mp hq
              rw [h.1 q (dir_of_above hpre hne hreal)] at hnode
              cases hnode
          | some node =>
              have hrun : applyShadowFile call shadow p t = call.behind.apply p (some node) t := by
                unfold applyShadowFile
                simp only [bind, EStateM.bind, get, getThe, MonadStateOf.get, EStateM.get, hlink,
                  if_true, hsource]
              rw [hrun]
              split
              next hok => exact h.keeps (call.behind.keeps _ _ _ _ hok)
              next => trivial
        · rw [applyShadowFile_run (by simpa using hlink)]
          exact h.applyNode hfresh hdiffers hmissing t rfl

theorem inWorkspace_above {q : Path} (hpre : q <+: p) (h : inWorkspace p = true) :
    inWorkspace q = true := by
  unfold inWorkspace at h ⊢
  simp only [Bool.not_eq_true', List.any_eq_false] at h ⊢
  exact fun name hname => h name (hpre.subset hname)

/-- While something is still at a link to a directory, there is nothing below it. -/
theorem LinksStand.content_below (h : LinksStand real now) (hlink : real.throughLink p = true) :
    now.content p = none := by
  obtain ⟨q, hq, target, hnode⟩ := link_above hlink
  obtain ⟨hpre, hne⟩ := mem_ancestors.mp hq
  have hleaf : now.node q ≠ some .dir := fun hdir => h.2 q target hnode (content_of_dir hdir)
  exact content_eq_none_iff.mpr (.inl (node_below hpre hne hleaf))

/-- Where the shadow has a link to a directory in place of a directory that the baseline and
the real workspace have, the real workspace does not get the link. -/
theorem LinksStand.link_missing (h : LinksStand real now) (hlink : shadow.throughLink p = true)
    (hbaseline : baseline.node p ≠ none) (hreal : real.node p ≠ none) :
    ∃ q, q <+: p ∧ baseline.content q ≠ shadow.content q ∧ now.content q ≠ shadow.content q := by
  obtain ⟨q, hq, target, hnode⟩ := link_above hlink
  obtain ⟨hpre, hne⟩ := mem_ancestors.mp hq
  have hlinked : shadow.content q = some (.link target) := by
    simp [FileTree.content, hnode, Node.content?]
  refine ⟨q, hpre, ?_, ?_⟩
  · rw [content_of_dir (dir_of_above hpre hne hbaseline), hlinked]
    exact (Option.some_ne_none _).symm
  · rw [content_of_dir (h.1 q (dir_of_above hpre hne hreal)), hlinked]
    exact (Option.some_ne_none _).symm

/-- A loop that took a change below a link to a directory did not do what the shadow did:
the link, or what was to become one, is still in its way. -/
theorem LinksStand.not_taken (h : LinksStand real now) (htakes : TakesChanges baseline shadow real)
    (hlink : ¬ TakesStraight baseline shadow real) :
    ¬ ∀ p, inWorkspace p = true → baseline.content p ≠ shadow.content p →
      now.content p = shadow.content p := by
  intro hchanged
  simp only [TakesStraight, not_forall] at hlink
  obtain ⟨p, htake, hthrough⟩ := hlink
  obtain ⟨hbs, hrs, -⟩ := threeWay_eq_take_iff.mp htake
  by_cases hstraight : real.throughLink p = true
  · have hreal : covered real p = none := by
      simp [covered, FileTree.content, node_of_throughLink hstraight]
    have hcovered : covered shadow p ≠ none := fun hnone => hrs (hreal.trans hnone.symm)
    have hcontent : shadow.content p ≠ none := fun hnone => hcovered (by simp [covered, hnone])
    have hsame := hchanged p (covered_ne_none hcovered).1 (htakes p htake hstraight)
    exact hcontent (hsame.symm.trans (h.content_below hstraight))
  · have hshadow : shadow.throughLink p = true := by
      by_contra hnot
      exact hthrough ⟨by simpa using hstraight, by simpa using hnot⟩
    have hcovered : covered shadow p = none := by
      simp [covered, FileTree.content, node_of_throughLink hshadow]
    obtain ⟨hin, hreal, -⟩ := covered_ne_none fun hnone => hrs (hnone.trans hcovered.symm)
    obtain ⟨-, hbaseline, -⟩ := covered_ne_none fun hnone => hbs (hnone.trans hcovered.symm)
    obtain ⟨q, hpre, hchange, hmissing⟩ := h.link_missing hshadow hbaseline hreal
    exact hmissing (hchanged q (inWorkspace_above hpre hin) hchange)

theorem not_exact_through_link (hdigest : ToldApart call baseline shadow real)
    (hreal : FreshName call.uuid real)
    (hnone : ∀ p, verdict baseline shadow real p ≠ .conflict)
    (htakes : TakesChanges baseline shadow real) (hlink : ¬ TakesStraight baseline shadow real) :
    ¬ ExactMerge baseline shadow real (mergeBack call baseline shadow real) := by
  have hconflicts := (conflictPaths_eq_nil_iff hdigest).mpr hnone
  rcases backupRealFiles_spec call baseline shadow real with
    ⟨-, saved, hbackup, -⟩ | ⟨-, e, hbackup⟩
  · have hstart : LinksStand real real :=
      ⟨fun _ hp => hp, fun _ target hp => by simp [FileTree.content, hp, Node.content?]⟩
    have hstand := @applyChanged_linksStand call shadow real real hreal
      (agentChanged call.sha256 baseline shadow real) false hstart real rfl
    cases hrun : applyChanged call shadow real (agentChanged call.sha256 baseline shadow real)
        false real with
    | ok applied now =>
        rw [hrun] at hstand
        rw [mergeBack_applied hconflicts hbackup hrun]
        have hstatus : (if applied then MergeStatus.clean else .noOp) ≠ .conflicted := by
          cases applied <;> exact MergeStatus.noConfusion
        rw [ExactMerge, if_neg hstatus]
        rintro ⟨hchanged, -, -⟩
        exact hstand.not_taken htakes hlink hchanged
    | error e now =>
        rw [mergeBack_failed hconflicts hbackup hrun]
        split <;> exact not_false
  · rw [mergeBack_unsaved hconflicts hbackup]
    exact not_false

end

/-! ## Small trees -/

theorem freshName_of_paths {uuid : String} {t : FileTree}
    (h : ∀ p ∈ t.paths, ∀ name ∈ p, ¬ (".navi-tmp-" ++ uuid).toList <:+ name.toList) :
    FreshName uuid t := by
  intro p
  by_contra hnode
  refine h _ (t.listed _ hnode) _ (List.mem_append_right _ (List.mem_singleton_self _)) ?_
  have hname : "." ++ p.getLastD "" ++ ".navi-tmp-" ++ uuid
      = ("." ++ p.getLastD "") ++ (".navi-tmp-" ++ uuid) := String.append_assoc ..
  rw [hname, String.toList_append (s := "." ++ p.getLastD "")]
  exact List.suffix_append _ _

theorem noCollision_of_paths {sha256 : Bytes → String} {trees : List FileTree}
    (h : ∀ t ∈ trees, ∀ t' ∈ trees, ∀ p ∈ t.paths, ∀ x ∈ t.content p, ∀ y ∈ t'.content p,
      sha256 (hashedBytes x) = sha256 (hashedBytes y) → hashedBytes x = hashedBytes y) :
    NoCollision sha256 trees := by
  intro t ht t' ht' p x hx
  have hlisted : p ∈ t.paths := by
    refine t.listed p fun hnode => ?_
    rw [content_eq_none_iff.mpr (.inl hnode)] at hx
    cases hx
  exact h t ht t' ht' p hlisted x hx

/-- The digests of the files with `1` and with `2`, and of the links to `x` and to `y`. -/
def digest (bytes : Bytes) : String :=
  ([(hashedBytes (.file [49]), "b04c393981ddaf576a71c8e23444451c4b5b0e86aa048dcefc9a8d88d0ca4638"),
    (hashedBytes (.file [50]), "7cf80066a5e48a9581996c388f9cdf6a11c15a5fb20ff96b47365079e897ba34"),
    (hashedBytes (.link [120]), "3e6baca9c17f76c3e05d836eb536f4be4826d6d73b8d522068ace617b099045f"),
    (hashedBytes (.link [121]),
      "435ceff14d83ffd8c57ceb7e745d86b046ab13973ac12f4703017b91391ca1c4")].lookup bytes).getD ""

def Behind.nothing : Behind where
  real _ := none
  shadow _ _ := none
  apply p _ := throw (.apply ⟨p, .copy none⟩)
  restore _ _ := pure ()
  keeps _ _ _ _ h := nomatch h

def plainCall : Call where
  sha256 := digest
  uuid := "9b1deb4d3b7d4bad9bdd2b0d7b3dcb6d"
  resolves _ _ := false
  behind := .nothing
  fault := none

def directoryTree : FileTree := .ofList [(["d"], .dir), (["d", "a"], .file [49])]

/-- A file in place of the directory. -/
def fileTree : FileTree := .ofList [(["d"], .file [50])]

def linkTree (target : Bytes) : FileTree := .ofList [(["l"], .link target true)]

theorem not_exact_of_raised {baseline shadow real : FileTree} {e : MergeError}
    {result : EStateM.Result MergeError FileTree Merged} (h : raised result = some e) :
    ¬ ExactMerge baseline shadow real result := by
  cases result with
  | ok merged now => cases h
  | error e' now => exact not_false

/-- The merge ended without a conflict, with this content at the path. -/
def endedWith (p : Path) (content : Option Content) :
    EStateM.Result MergeError FileTree Merged → Bool
  | .ok merged now => decide (merged.status ≠ .conflicted ∧ now.content p = content)
  | .error _ _ => false

theorem not_exact_of_lost {baseline shadow real : FileTree} {p : Path}
    {result : EStateM.Result MergeError FileTree Merged} (hin : inWorkspace p = true)
    (hchange : baseline.content p ≠ shadow.content p) (hlost : real.content p ≠ shadow.content p)
    (h : endedWith p (real.content p) result = true) :
    ¬ ExactMerge baseline shadow real result := by
  cases result with
  | error e now => cases h
  | ok merged now =>
      obtain ⟨hstatus, hkept⟩ := of_decide_eq_true h
      rw [ExactMerge, if_neg hstatus]
      rintro ⟨hchanged, -, -⟩
      exact hlost (hkept.symm.trans (hchanged p hin hchange))

theorem plain_names : ∀ t ∈ [directoryTree, fileTree, linkTree [120], linkTree [121]],
    FreshName plainCall.uuid t := by
  intro t ht
  refine freshName_of_paths ?_
  revert t
  decide +kernel

theorem plain_digest :
    NoCollision plainCall.sha256 [directoryTree, fileTree, linkTree [120], linkTree [121]] :=
  noCollision_of_paths (by decide +kernel)

/-- The directory with another content in its file. -/
def editedTree : FileTree := .ofList [(["d"], .dir), (["d", "a"], .file [50])]

/-- A link to another directory in place of the directory. -/
def linkedTree : FileTree := .ofList [(["d"], .link [120] true)]

/-- A merge that finds a file behind that link. -/
def linkedCall : Call :=
  { plainCall with
    resolves := fun _ target => target = [120]
    behind :=
      { Behind.nothing with
        real := fun p => if p = ["d", "a"] then some (.file [51]) else none } }

theorem linked_changed {p : Path} (h : directoryTree.node p ≠ none ∨ editedTree.node p ≠ none) :
    p = ["d", "a"] ∨ directoryTree.content p = editedTree.content p
      ∧ covered directoryTree p = covered editedTree p := by
  have hall : ∀ p ∈ directoryTree.paths ++ editedTree.paths, p = ["d", "a"]
      ∨ directoryTree.content p = editedTree.content p
        ∧ covered directoryTree p = covered editedTree p := by decide +kernel
  exact hall p (List.mem_append.mpr (h.imp (directoryTree.listed p) (editedTree.listed p)))

theorem linked_mergesExactly : MergesExactly linkedCall directoryTree editedTree linkedTree := by
  have hconflict : verdict directoryTree editedTree linkedTree ["d", "a"] = .conflict := by
    decide +kernel
  have hpath : ∀ p, verdict directoryTree editedTree linkedTree p = .conflict →
      p = ["d", "a"] := by
    intro p hp
    have hne := (threeWay_eq_conflict_iff.mp hp).1
    exact (linked_changed (mem_tree_of_changed hne)).resolve_right fun h => hne h.2
  refine ⟨fun _ => ⟨?_, ?_, ?_⟩, fun hnone => absurd hconflict (hnone _)⟩
  · rintro p ⟨-, hne, -, -⟩
    have hnode : directoryTree.node p ≠ none ∨ editedTree.node p ≠ none := by
      by_contra hneither
      rw [not_or, not_not, not_not] at hneither
      refine hne ?_
      rw [content_eq_none_iff.mpr (.inl hneither.1), content_eq_none_iff.mpr (.inl hneither.2)]
    rw [(linked_changed hnode).resolve_right fun h => hne h.1]
    decide +kernel
  · intro p hp
    rw [hpath p hp]
    decide +kernel
  · intro p hp
    rw [hpath p hp]
    decide +kernel

end Navi.Workspaces
