import Navi.Workspaces.Shadow

/-!
# The loop of a merge

What the loop that applies the changed paths does to the real workspace, in each of
its endings: the paths it went through have the shadow's content, the others what
they had, and directories were made only where the shadow has them.
-/

namespace Navi.Workspaces

open Navi.Base FileTree

/-- No path of the tree is a temporary of this name. -/
def FreshName (uuid : String) (t : FileTree) : Prop := ∀ p, t.node (tempPath uuid p) = none

/-- The fingerprints tell a path of the real workspace from the shadow's. -/
def Differs (call : Call) (shadow real : FileTree) (p : Path) : Prop :=
  hashFor call.sha256 real p ≠ hashFor call.sha256 shadow p

instance (call : Call) (shadow real : FileTree) (p : Path) :
    Decidable (Differs call shadow real p) :=
  inferInstanceAs (Decidable (_ ≠ _))

/-- What the shadow has can be put at the path: it is no directory, and nothing but
directories is above the path in the real workspace. -/
structure Puttable (source : Option Node) (real : FileTree) (p : Path) : Prop where
  notDir : source ≠ some .dir
  clear : source ≠ none → ∀ q ∈ ancestors p, real.content q = none

/-- The path has what it had, or is a directory that the shadow has too. -/
def SameOrMade (shadow real now : FileTree) (p : Path) : Prop :=
  now.node p = real.node p
    ∨ real.node p = none ∧ now.node p = some .dir ∧ shadow.node p = some .dir

/-- These paths have been gone through. -/
structure AppliedTo (shadow real : FileTree) (applied : Set Path) (now : FileTree) : Prop where
  others : ∀ p, p ∉ applied → SameOrMade shadow real now p
  content : ∀ p ∈ applied, shadow.throughLink p = false → now.content p = shadow.content p
  nowFile : ∀ p ∈ applied, now.node p ≠ some .dir
  shadowFile : ∀ p ∈ applied, shadow.node p ≠ some .dir

/-- The operation leaves the temporary behind when it fails. -/
def ApplyOp.leavesTemp : ApplyOp → Bool
  | .rename | .copy (some _) => true
  | _ => false

/-- The loop stopped at one of the paths, in the state before the backup is
restored. -/
structure StoppedAt (call : Call) (shadow real : FileTree) (changed : List Path)
    (failure : Failure) (now : FileTree) : Prop where
  path : failure.path ∈ changed
  others : ∀ p, p ∉ changed → p ≠ tempPath call.uuid failure.path → SameOrMade shadow real now p
  dirs : ∀ p ∈ changed, now.node p = some .dir → shadow.node p = some .dir
  temp : (now.content (tempPath call.uuid failure.path)).isSome = failure.op.leavesTemp
  tempFile : now.node (tempPath call.uuid failure.path) ≠ some .dir

section

variable {call : Call} {shadow real now : FileTree} {applied : Set Path} {p q : Path}

theorem SameOrMade.content (h : SameOrMade shadow real now p) : now.content p = real.content p := by
  rcases h with h | ⟨hnone, hdir, -⟩
  · unfold FileTree.content
    rw [h]
  · rw [content_of_dir hdir, content_eq_none_iff.mpr (.inl hnone)]

theorem SameOrMade.dir (h : SameOrMade shadow real now p) (hdir : now.node p = some .dir) :
    real.node p = some .dir ∨ shadow.node p = some .dir := by
  rcases h with h | ⟨-, -, hshadow⟩
  · exact .inl (h ▸ hdir)
  · exact .inr hshadow

theorem SameOrMade.of_dir (h : SameOrMade shadow real now p) (hdir : real.node p = some .dir) :
    now.node p = some .dir := by
  rcases h with h | ⟨hnone, -, -⟩
  · rw [h, hdir]
  · rw [hdir] at hnone
    cases hnone

theorem appliedTo_empty (shadow real : FileTree) : AppliedTo shadow real ∅ real where
  others _ _ := .inl rfl
  content _ hp := hp.elim
  nowFile _ hp := hp.elim
  shadowFile _ hp := hp.elim

theorem source_of_straight (h : shadow.throughLink p = false) :
    call.source shadow now p = shadow.node p := by
  rw [Call.source, found, h, if_neg Bool.false_ne_true]

theorem source_of_node (h : shadow.node p ≠ none) : call.source shadow now p = shadow.node p :=
  source_of_straight (throughLink_of_node h)

theorem AppliedTo.above (h : AppliedTo shadow real applied now) (hp : shadow.node p ≠ none)
    (hq : q ∈ ancestors p) : q ∉ applied := by
  obtain ⟨hpre, hne⟩ := mem_ancestors.mp hq
  exact fun hmem => h.shadowFile q hmem (dir_of_above hpre hne hp)

theorem AppliedTo.temp {uuid : String} (h : AppliedTo shadow real applied now)
    (hshadow : FreshName uuid shadow) (hreal : FreshName uuid real)
    (hfree : tempPath uuid p ∉ applied) : now.node (tempPath uuid p) = none := by
  rcases h.others _ hfree with hsame | ⟨-, -, hdir⟩
  · rw [hsame, hreal]
  · rw [hshadow] at hdir
    cases hdir

/-! ## Making the directories above a path -/

/-- Some of these directories were made. -/
def Grown (dirs : List Path) (before now : FileTree) : Prop :=
  ∀ p, now.node p = before.node p ∨ p ∈ dirs ∧ before.node p = none ∧ now.node p = some .dir

theorem Grown.refl (dirs : List Path) (t : FileTree) : Grown dirs t t := fun _ => .inl rfl

theorem Grown.cons {dirs : List Path} {dir : Path} {t t' : FileTree} (h : Grown dirs t t') :
    Grown (dir :: dirs) t t' := fun p => (h p).imp_right fun h' =>
  ⟨List.mem_cons_of_mem _ h'.1, h'.2⟩

theorem Grown.of_some {dirs : List Path} {t t' : FileTree} (h : Grown dirs t t')
    (hp : t.node p ≠ none) : t'.node p = t.node p := by
  rcases h p with h | ⟨-, hnone, -⟩
  · exact h
  · exact absurd hnone hp

theorem Grown.of_put {dirs : List Path} {dir : Path} {t t' : FileTree} {hfree : t.Free dir}
    (hnone : t.node dir = none) (h : Grown dirs (t.put dir .dir hfree) t') :
    Grown (dir :: dirs) t t' := by
  intro p
  have hput : (t.put dir .dir hfree).node p = _ := node_put hfree
  by_cases hp : p = dir
  · rw [if_pos hp] at hput
    rw [h.of_some (by simp [hput]), hput, hp]
    exact .inr ⟨List.mem_cons_self, hnone, rfl⟩
  · rw [if_neg hp] at hput
    rw [← hput]
    exact h.cons p

theorem makeDirs_cons (fails : Path → Bool) (error : Path → MergeError) (dir : Path)
    (rest : List Path) (t : FileTree) :
    (t.node dir = some .dir ∨ ∃ target, t.node dir = some (.link target true))
        ∧ makeDirs fails error (dir :: rest) t = makeDirs fails error rest t
      ∨ (∃ hfree : t.Free dir, t.node dir = none ∧ fails dir = false
        ∧ makeDirs fails error (dir :: rest) t = makeDirs fails error rest (t.put dir .dir hfree))
      ∨ (t.content dir ≠ none ∨ t.node dir = none ∧ (fails dir = true ∨ ¬ t.Free dir))
        ∧ makeDirs fails error (dir :: rest) t = .error (error dir) t := by
  rw [makeDirs]
  simp only [bind, EStateM.bind, get, getThe, MonadStateOf.get, EStateM.get]
  cases hnode : t.node dir with
  | none =>
      by_cases hfails : fails dir
      · refine .inr (.inr ⟨.inr ⟨rfl, .inl hfails⟩, ?_⟩)
        simp only [hfails, if_true]
        rfl
      · by_cases hfree : t.Free dir
        · refine .inr (.inl ⟨hfree, rfl, by simpa using hfails, ?_⟩)
          simp only [hfails, hfree, dite_true]
          rfl
        · refine .inr (.inr ⟨.inr ⟨rfl, .inr hfree⟩, ?_⟩)
          simp only [hfails, hfree, dite_false]
          rfl
  | some node =>
      have hcontent : t.content dir = node.content? := by rw [FileTree.content, hnode]; rfl
      cases node with
      | dir => exact .inl ⟨.inl rfl, rfl⟩
      | file content => exact .inr (.inr ⟨.inl (by simp [hcontent, Node.content?]), rfl⟩)
      | link target toDir =>
          cases toDir with
          | true => exact .inl ⟨.inr ⟨target, rfl⟩, rfl⟩
          | false => exact .inr (.inr ⟨.inl (by simp [hcontent, Node.content?]), rfl⟩)

theorem makeDirs_spec (fails : Path → Bool) (error : Path → MergeError) (dirs : List Path)
    (before : FileTree) :
    Triple (fun t => t = before) (makeDirs fails error dirs)
      (fun _ t => Grown dirs before t ∧ ∀ dir ∈ dirs, t.node dir = some .dir
        ∨ ∃ target, t.node dir = some (.link target true))
      (fun e t => Grown dirs before t ∧ ∃ dir ∈ dirs, e = error dir) := by
  induction dirs generalizing before with
  | nil =>
      refine Triple.pure ?_
      rintro t rfl
      exact ⟨.refl [] t, fun dir hdir => absurd hdir List.not_mem_nil⟩
  | cons dir rest ih =>
      rintro t rfl
      rcases makeDirs_cons fails error dir rest t with
        ⟨hthere, hrun⟩ | ⟨hfree, hnone, -, hrun⟩ | ⟨-, hrun⟩
      · rw [hrun]
        have hrest := ih t t rfl
        split at hrest
        next t' _ =>
          obtain ⟨hgrown, hdirs⟩ := hrest
          refine ⟨hgrown.cons, fun other hother => ?_⟩
          rcases List.mem_cons.mp hother with rfl | hother
          · have hsame : t'.node other = t.node other :=
              hgrown.of_some (by rcases hthere with h | ⟨_, h⟩ <;> simp [h])
            rwa [hsame]
          · exact hdirs other hother
        next e t' _ =>
          obtain ⟨hgrown, other, hother, he⟩ := hrest
          exact ⟨hgrown.cons, other, List.mem_cons_of_mem _ hother, he⟩
      · rw [hrun]
        have hrest := ih (t.put dir .dir hfree) (t.put dir .dir hfree) rfl
        split at hrest
        next t' _ =>
          obtain ⟨hgrown, hdirs⟩ := hrest
          refine ⟨hgrown.of_put hnone, fun other hother => ?_⟩
          rcases List.mem_cons.mp hother with rfl | hother
          · have hput : (t.put other .dir hfree).node other = some .dir := by
              rw [node_put, if_pos rfl]
            exact .inl ((hgrown.of_some (by simp [hput])).trans hput)
          · exact hdirs other hother
        next e t' _ =>
          obtain ⟨hgrown, other, hother, he⟩ := hrest
          exact ⟨hgrown.of_put hnone, other, List.mem_cons_of_mem _ hother, he⟩
      · rw [hrun]
        exact ⟨.refl _ t, dir, List.mem_cons_self, rfl⟩

theorem makeDirs_total {fails : Path → Bool} {error : Path → MergeError} (p : Path)
    (hfails : ∀ dir, fails dir = false) {t : FileTree}
    (hclear : ∀ q ∈ ancestors p, t.content q = none) :
    ∃ t', makeDirs fails error (ancestors p) t = .ok () t' := by
  -- by induction on how many of them are left; those before are directories
  suffices h : ∀ k n (t : FileTree), n + k = p.length →
      (∀ m < n, t.node (p.take m) = some .dir) →
      (∀ m, n ≤ m → m < p.length → t.content (p.take m) = none) →
      ∃ t', makeDirs fails error ((List.range' n k).map p.take) t = .ok () t' by
    rw [ancestors, List.range_eq_range']
    refine h p.length 0 t (Nat.zero_add _) (fun m hm => absurd hm (Nat.not_lt_zero m)) ?_
    intro m _ hm
    exact hclear _ (List.mem_map.mpr ⟨m, List.mem_range.mpr hm, rfl⟩)
  intro k
  induction k with
  | zero => exact fun n t _ _ _ => ⟨t, rfl⟩
  | succ k ih =>
      intro n t hlength hbefore hafter
      have hn : n < p.length := by omega
      rw [List.range'_succ, List.map_cons]
      rcases makeDirs_cons fails error (p.take n) ((List.range' (n + 1) k).map p.take) t with
        ⟨hthere, hrun⟩ | ⟨hfree, hnone, -, hrun⟩ | ⟨hstuck, -⟩
      · rw [hrun]
        refine ih (n + 1) t (by omega) ?_ fun m hm => hafter m (by omega)
        intro m hm
        rcases Nat.lt_succ_iff_lt_or_eq.mp hm with hm | rfl
        · exact hbefore m hm
        · rcases content_eq_none_iff.mp (hafter m le_rfl hn) with hnone | hdir
          · rcases hthere with h | ⟨_, h⟩ <;> rw [hnone] at h <;> cases h
          · exact hdir
      · rw [hrun]
        refine ih (n + 1) _ (by omega) ?_ ?_
        · intro m hm
          rw [node_put]
          split
          · rfl
          next hne =>
            rcases Nat.lt_succ_iff_lt_or_eq.mp hm with hm | rfl
            · exact hbefore m hm
            · exact absurd rfl hne
        · intro m hm hlt
          rw [content_put]
          split
          · rfl
          · exact hafter m (by omega) hlt
      · refine absurd hstuck ?_
        rintro (hcontent | ⟨hnone, hfail | hblocked⟩)
        · exact hcontent (hafter n le_rfl hn)
        · rw [hfails] at hfail
          cases hfail
        · have hpos : n ≠ 0 := by
            rintro rfl
            rw [List.take_zero, t.root] at hnone
            cases hnone
          have hparent : (p.take n).dropLast = p.take (n - 1) := by
            rw [List.dropLast_eq_take, List.take_take, List.length_take]
            congr 1
            omega
          refine hblocked ⟨?_, ?_, by simp [hnone]⟩
          · intro hnil
            rw [List.take_eq_nil_iff] at hnil
            rcases hnil with h | h
            · exact hpos h
            · rw [h] at hn
              exact absurd hn (Nat.not_lt_zero n)
          · rw [hparent]
            exact hbefore (n - 1) (by omega)

theorem makeDirs_there {fails : Path → Bool} {error : Path → MergeError} {dirs : List Path}
    (h : ∀ dir ∈ dirs, now.node dir = some .dir) : makeDirs fails error dirs now = .ok () now := by
  induction dirs with
  | nil => rfl
  | cons dir rest ih =>
      obtain ⟨hdir, hrest⟩ := List.forall_mem_cons.mp h
      rcases makeDirs_cons fails error dir rest now with
        ⟨-, hrun⟩ | ⟨-, hnone, -⟩ | ⟨hcontent | ⟨hnone, -⟩, -⟩
      · rw [hrun, ih hrest]
      · rw [hdir] at hnone
        cases hnone
      · exact absurd (content_of_dir hdir) hcontent
      · rw [hdir] at hnone
        cases hnone

/-! ## The operations on one path -/

theorem unlink_spec (call : Call) (p : Path) (before : FileTree) :
    Triple (fun t => t = before) (unlink call p)
      (fun _ t => ∃ hleaf, t = before.erase p hleaf)
      (fun e t => e = .apply ⟨p, .unlink⟩ ∧ t = before
        ∧ (call.fault = some ⟨p, .unlink⟩ ∨ before.node p = some .dir)) := by
  rintro t rfl
  have hrun : unlink call p t = (if call.fault = some ⟨p, .unlink⟩ then throw (.apply ⟨p, .unlink⟩)
      else if hleaf : t.node p ≠ some .dir then set (t.erase p hleaf)
      else throw (.apply ⟨p, .unlink⟩) : Merging Unit) t := rfl
  rw [hrun]
  by_cases hfault : call.fault = some ⟨p, .unlink⟩
  · rw [if_pos hfault]
    exact ⟨rfl, rfl, .inl hfault⟩
  · rw [if_neg hfault]
    by_cases hleaf : t.node p ≠ some .dir
    · rw [dif_pos hleaf]
      exact ⟨hleaf, rfl⟩
    · rw [dif_neg hleaf]
      exact ⟨rfl, rfl, .inr (not_not.mp hleaf)⟩

/-- A copy puts the content at the temporary; where it fails it may have put other
bytes there. -/
theorem copyPathOrSymlink_spec (call : Call) (p : Path) (source : Node) (temp : Path)
    (before : FileTree) :
    Triple (fun t => t = before) (copyPathOrSymlink call p source temp)
      (fun _ t => source ≠ .dir ∧ ∃ (hfree : before.Free temp) (node : Node),
        node.content? = source.content? ∧ t = before.put temp node hfree)
      (fun e t => ∃ left, e = .apply ⟨p, .copy left⟩
        ∧ (left = none ∧ t = before
          ∨ ∃ (hfree : before.Free temp) (bytes : Bytes), left = some bytes
            ∧ t = before.put temp (.file bytes) hfree)
        ∧ (source = .dir ∨ ¬ before.Free temp ∨ before.node temp ≠ none
          ∨ call.failingCopy p ≠ none)) := by
  rintro t rfl
  cases source with
  | dir => exact ⟨none, rfl, .inl ⟨rfl, rfl⟩, .inl rfl⟩
  | link target toDir =>
      have hrun : copyPathOrSymlink call p (.link target toDir) temp t =
          (if hfree : t.Free temp then
            if t.node temp ≠ none ∨ call.failingCopy p ≠ none then throw (.apply ⟨p, .copy none⟩)
            else set (t.put temp (.link target (call.resolves temp target)) hfree)
          else throw (.apply ⟨p, .copy none⟩) : Merging Unit) t := rfl
      rw [hrun]
      by_cases hfree : t.Free temp
      · rw [dif_pos hfree]
        by_cases hblocked : t.node temp ≠ none ∨ call.failingCopy p ≠ none
        · rw [if_pos hblocked]
          exact ⟨none, rfl, .inl ⟨rfl, rfl⟩, .inr (.inr hblocked)⟩
        · rw [if_neg hblocked]
          exact ⟨Node.noConfusion, hfree, .link target (call.resolves temp target), rfl, rfl⟩
      · rw [dif_neg hfree]
        exact ⟨none, rfl, .inl ⟨rfl, rfl⟩, .inr (.inl hfree)⟩
  | file content =>
      rw [copyPathOrSymlink]
      simp only [bind, EStateM.bind, get, getThe, MonadStateOf.get, EStateM.get]
      by_cases hfree : t.Free temp
      · rw [dif_pos hfree]
        cases hfails : call.failingCopy p with
        | none => exact ⟨Node.noConfusion, hfree, _, rfl, rfl⟩
        | some left =>
            cases left with
            | none => exact ⟨none, rfl, .inl ⟨rfl, rfl⟩, by simp⟩
            | some bytes =>
                exact ⟨some bytes, rfl, .inr ⟨hfree, bytes, rfl, rfl⟩, by simp⟩
      · rw [dif_neg hfree]
        exact ⟨none, rfl, .inl ⟨rfl, rfl⟩, .inr (.inl hfree)⟩

theorem replace_spec (call : Call) (temp p : Path) (before : FileTree) :
    Triple (fun t => t = before) (replace call temp p)
      (fun _ t => ∃ (content : Content) (hleaf : before.node temp ≠ some .dir)
        (hfree : (before.erase temp hleaf).Free p), before.content temp = some content
          ∧ t = (before.erase temp hleaf).put p (Content.nodeAt call p content) hfree)
      (fun e t => e = .apply ⟨p, .rename⟩ ∧ t = before
        ∧ (call.fault = some ⟨p, .rename⟩ ∨ before.content temp = none
          ∨ ∃ hleaf, ¬ (before.erase temp hleaf).Free p)) := by
  rintro t rfl
  rw [replace]
  simp only [bind, EStateM.bind, get, getThe, MonadStateOf.get, EStateM.get]
  by_cases hfault : call.fault = some ⟨p, .rename⟩
  · rw [if_pos hfault]
    exact ⟨rfl, rfl, .inl hfault⟩
  · rw [if_neg hfault]
    by_cases hleaf : t.node temp ≠ some .dir
    · rw [dif_pos hleaf]
      by_cases hfree : (t.erase temp hleaf).Free p
      · rw [dif_pos hfree]
        cases hcontent : t.content temp with
        | none => exact ⟨rfl, rfl, .inr (.inl rfl)⟩
        | some content => exact ⟨content, hleaf, hfree, rfl, rfl⟩
      · rw [dif_neg hfree]
        exact ⟨rfl, rfl, .inr (.inr ⟨hleaf, hfree⟩)⟩
    · rw [dif_neg hleaf]
      exact ⟨rfl, rfl, .inr (.inl (content_of_dir (not_not.mp hleaf)))⟩

/-! ## One path -/

/-- What a merge knows when its loop starts: the temporaries are free, no changed path
is a directory, since the backup was made, and none that differs leads through a link of
the real workspace. -/
structure Ready (call : Call) (shadow real : FileTree) (changed : List Path) : Prop where
  shadowFresh : FreshName call.uuid shadow
  realFresh : FreshName call.uuid real
  noTemp : ∀ p, tempPath call.uuid p ∉ changed
  noDir : ∀ p ∈ changed, real.node p ≠ some .dir
  straight : ∀ p ∈ changed, Differs call shadow real p → real.throughLink p = false

section

variable {changed : List Path} {failure : Failure}

theorem Ready.ne_nil (h : Ready call shadow real changed) (hp : p ∈ changed) : p ≠ [] := by
  rintro rfl
  exact h.noDir [] hp real.root

/-- A path that differs from the shadow's, and that the shadow has not, is a file or a
link of the real workspace. -/
theorem node_of_differs (hdiffers : Differs call shadow real p) (hshadow : shadow.node p = none) :
    real.content p ≠ none := by
  intro hcontent
  refine hdiffers ?_
  have hshadowHash : hashFor call.sha256 shadow p = none := by
    simp [hashFor, walked, hshadow]
  rw [hshadowHash, hashFor, hcontent]
  simp

theorem AppliedTo.straight (h : AppliedTo shadow real applied now)
    (hready : Ready call shadow real changed) (hp : p ∈ changed)
    (happlied : ∀ q ∈ applied, q ∈ changed) (hdiffers : Differs call shadow real p) :
    now.throughLink p = false := by
  rw [throughLink, List.any_eq_false]
  intro q hq
  obtain ⟨hpre, hne⟩ := mem_ancestors.mp hq
  cases hshadow : shadow.node p with
  | none =>
      -- the real workspace has the path, and so directories above it
      have hnode : real.node p ≠ none := fun hnone =>
        node_of_differs hdiffers hshadow (content_eq_none_iff.mpr (.inl hnone))
      have hdir := dir_of_above hpre hne hnode
      have hother : q ∉ applied := fun hmem => hready.noDir q (happlied q hmem) hdir
      rw [(h.others q hother).of_dir hdir]
      exact Bool.false_ne_true
  | some node =>
      have hother : q ∉ applied := h.above (by simp [hshadow]) hq
      have hreal := hready.straight p hp hdiffers
      rw [throughLink, List.any_eq_false] at hreal
      rcases h.others q hother with hsame | ⟨-, hdir, -⟩
      · rw [hsame]
        exact hreal q hq
      · rw [hdir]
        exact Bool.false_ne_true

theorem AppliedTo.stopped (h : AppliedTo shadow real applied now)
    (hready : Ready call shadow real changed) (hpath : failure.path ∈ changed)
    (happlied : ∀ q ∈ applied, q ∈ changed) (hleaves : failure.op.leavesTemp = false) :
    StoppedAt call shadow real changed failure now := by
  have htemp : now.node (tempPath call.uuid failure.path) = none :=
    h.temp hready.shadowFresh hready.realFresh fun hmem =>
      hready.noTemp _ (happlied _ hmem)
  refine ⟨hpath, fun q hq _ => h.others q fun hmem => hq (happlied q hmem), ?_, ?_, ?_⟩
  · intro q hq hdir
    by_cases hmem : q ∈ applied
    · exact absurd hdir (h.nowFile q hmem)
    · exact ((h.others q hmem).dir hdir).resolve_left (hready.noDir q hq)
  · rw [hleaves, content_eq_none_iff.mpr (.inl htemp)]
    rfl
  · rw [htemp]
    exact Option.some_ne_none _ |>.symm

theorem AppliedTo.grown {t : FileTree} (h : AppliedTo shadow real applied now)
    (hp : shadow.node p ≠ none) (hgrown : Grown (ancestors p) now t) :
    AppliedTo shadow real applied t := by
  have hsame : ∀ q ∈ applied, t.node q = now.node q := by
    intro q hq
    rcases hgrown q with hsame | ⟨habove, -, -⟩
    · exact hsame
    · exact absurd hq (h.above hp habove)
  refine ⟨?_, ?_, ?_, h.shadowFile⟩
  · intro q hq
    rcases hgrown q with hsame | ⟨habove, hnone, hdir⟩
    · unfold SameOrMade
      rw [hsame]
      exact h.others q hq
    · obtain ⟨hpre, hne⟩ := mem_ancestors.mp habove
      rcases h.others q hq with hreal | ⟨-, hdir', -⟩
      · exact .inr ⟨hreal ▸ hnone, hdir, dir_of_above hpre hne hp⟩
      · rw [hnone] at hdir'
        cases hdir'
  · intro q hq hstraight
    rw [← h.content q hq hstraight, FileTree.content, hsame q hq, FileTree.content]
  · intro q hq
    rw [hsame q hq]
    exact h.nowFile q hq

theorem AppliedTo.stopped_put {t : FileTree} (h : AppliedTo shadow real applied now)
    (hready : Ready call shadow real changed) (hpath : failure.path ∈ changed)
    (happlied : ∀ q ∈ applied, q ∈ changed) (hleaves : failure.op.leavesTemp = true)
    {node : Node} (hfree : now.Free (tempPath call.uuid failure.path))
    (hnode : node.content? ≠ none) (ht : t = now.put (tempPath call.uuid failure.path) node hfree) :
    StoppedAt call shadow real changed failure t := by
  subst ht
  refine ⟨hpath, ?_, ?_, ?_, ?_⟩
  · intro q hq hne
    unfold SameOrMade
    rw [node_put, if_neg hne]
    exact h.others q fun hmem => hq (happlied q hmem)
  · intro q hq hdir
    have hne : q ≠ tempPath call.uuid failure.path := by
      rintro rfl
      exact hready.noTemp _ hq
    rw [node_put, if_neg hne] at hdir
    by_cases hmem : q ∈ applied
    · exact absurd hdir (h.nowFile q hmem)
    · exact ((h.others q hmem).dir hdir).resolve_left (hready.noDir q hq)
  · rw [content_put, if_pos rfl, hleaves, Option.isSome_iff_ne_none]
    exact hnode
  · rw [node_put, if_pos rfl]
    intro hdir
    exact hnode (Node.content?_eq_none_iff.mpr (Option.some.inj hdir))

def PathApplied (shadow real : FileTree) (applied : Set Path) (p : Path) (t : FileTree) : Prop :=
  AppliedTo shadow real (insert p applied) t
    ∧ (shadow.throughLink p = false → Puttable (shadow.node p) real p)

/-- How it stops at an operation, and why. -/
def PathStopped (call : Call) (shadow real : FileTree) (changed : List Path) (p : Path)
    (e : MergeError) (t : FileTree) : Prop :=
  ∃ op, e = .apply ⟨p, op⟩ ∧ StoppedAt call shadow real changed ⟨p, op⟩ t
    ∧ (call.fault = none → shadow.throughLink p = false → ¬ Puttable (shadow.node p) real p)

theorem applyMissing_spec (hready : Ready call shadow real changed) (hp : p ∈ changed)
    (happlied : ∀ q ∈ applied, q ∈ changed) (hnew : p ∉ applied)
    (hsource : call.source shadow now p = none) (hnow : AppliedTo shadow real applied now) :
    Triple (fun t => t = now)
      (if (now.node p).isSome then unlink call p else pure () : Merging Unit)
      (fun _ t => PathApplied shadow real applied p t)
      (PathStopped call shadow real changed p) := by
  have hshadow : shadow.node p = none := by
    by_contra hsome
    exact hsome ((source_of_node hsome).symm.trans hsource)
  have hputtable : Puttable (shadow.node p) real p :=
    ⟨by simp [hshadow], fun hsome => absurd hshadow hsome⟩
  have hmissing : shadow.content p = none := content_eq_none_iff.mpr (.inl hshadow)
  have hsame := hnow.others p hnew
  have hleaf : now.node p ≠ some .dir := by
    intro hdir
    rcases hsame.dir hdir with hreal | hdir'
    · exact hready.noDir p hp hreal
    · rw [hshadow] at hdir'
      cases hdir'
  split
  · refine (unlink_spec call p now).weaken (fun _ h => h) ?_ ?_
    · rintro - t ⟨hleaf', rfl⟩
      refine ⟨⟨?_, ?_, ?_, ?_⟩, fun _ => hputtable⟩
      · intro q hq
        have hne : q ≠ p := fun h => hq (.inl h)
        unfold SameOrMade
        rw [node_erase, if_neg hne]
        exact hnow.others q fun hmem => hq (.inr hmem)
      · rintro q (rfl | hq) hstraight
        · rw [content_erase, if_pos rfl, hmissing]
        · have hne : q ≠ p := fun h => hnew (h ▸ hq)
          rw [content_erase, if_neg hne, hnow.content q hq hstraight]
      · rintro q (rfl | hq)
        · rw [node_erase, if_pos rfl]
          exact Option.some_ne_none _ |>.symm
        · have hne : q ≠ p := fun h => hnew (h ▸ hq)
          rw [node_erase, if_neg hne]
          exact hnow.nowFile q hq
      · rintro q (rfl | hq)
        · exact hputtable.notDir
        · exact hnow.shadowFile q hq
    · rintro e t ⟨rfl, rfl, hreason⟩
      refine ⟨.unlink, rfl, hnow.stopped hready hp happlied rfl, fun hfault _ => ?_⟩
      rcases hreason with h | h
      · rw [hfault] at h
        cases h
      · exact absurd h hleaf
  next hgone =>
    refine Triple.pure ?_
    rintro t rfl
    have hnone : t.node p = none := by simpa using hgone
    refine ⟨⟨fun q hq => hnow.others q fun hmem => hq (.inr hmem), ?_, ?_, ?_⟩,
      fun _ => hputtable⟩
    · rintro q (rfl | hq) hstraight
      · rw [hmissing, content_eq_none_iff.mpr (.inl hnone)]
      · exact hnow.content q hq hstraight
    · rintro q (rfl | hq)
      · exact hleaf
      · exact hnow.nowFile q hq
    · rintro q (rfl | hq)
      · exact hputtable.notDir
      · exact hnow.shadowFile q hq

theorem Grown.dir_of_straight {t : FileTree} {dirs : List Path} {q : Path}
    (hgrown : Grown dirs now t) (hstraight : now.throughLink p = false) (hq : q ∈ ancestors p)
    (hthere : t.node q = some .dir ∨ ∃ target, t.node q = some (.link target true)) :
    t.node q = some .dir := by
  rcases hthere with hdir | ⟨target, hlink⟩
  · exact hdir
  · rcases hgrown q with hsame | ⟨-, -, hdir⟩
    · rw [throughLink, List.any_eq_false] at hstraight
      have hnolink := hstraight q hq
      rw [← hsame, hlink] at hnolink
      exact absurd rfl hnolink
    · exact hdir

/-- Above a path that is applied, there are the directories that the real workspace
has or that were made. -/
theorem clear_of_grown {t : FileTree} (hnow : AppliedTo shadow real applied now)
    (hstraight : now.throughLink p = false) (hshadow : shadow.node p ≠ none)
    (hgrown : Grown (ancestors p) now t)
    (hdirs : ∀ dir ∈ ancestors p,
      t.node dir = some .dir ∨ ∃ target, t.node dir = some (.link target true)) :
    (∀ q ∈ ancestors p, t.node q = some .dir) ∧ ∀ q ∈ ancestors p, real.content q = none := by
  have hall : ∀ q ∈ ancestors p, t.node q = some .dir := fun q hq =>
    hgrown.dir_of_straight hstraight hq (hdirs q hq)
  refine ⟨hall, fun q hq => ?_⟩
  rw [← (hnow.others q (hnow.above hshadow hq)).content, content_eq_none_iff]
  rcases hgrown q with hsame | ⟨-, hnone, -⟩
  · exact .inr (hsame ▸ hall q hq)
  · exact .inl hnone

theorem tempPath_not_above (hready : Ready call shadow real changed) (hp : p ∈ changed)
    (hthere : shadow.node p ≠ none ∨ real.node p ≠ none) :
    tempPath call.uuid p ≠ p ∧ tempPath call.uuid p ∉ ancestors p := by
  refine ⟨fun h => hready.noTemp p (by rw [h]; exact hp), fun habove => ?_⟩
  obtain ⟨hpre, hne⟩ := mem_ancestors.mp habove
  rcases hthere with hshadow | hreal
  · have hdir := dir_of_above hpre hne hshadow
    rw [hready.shadowFresh] at hdir
    cases hdir
  · have hdir := dir_of_above hpre hne hreal
    rw [hready.realFresh] at hdir
    cases hdir

theorem temp_free {t : FileTree} (ht : AppliedTo shadow real applied t)
    (hready : Ready call shadow real changed) (hp : p ∈ changed)
    (happlied : ∀ q ∈ applied, q ∈ changed) (hdirs : ∀ q ∈ ancestors p, t.node q = some .dir) :
    t.Free (tempPath call.uuid p) ∧ t.node (tempPath call.uuid p) = none := by
  have hnone : t.node (tempPath call.uuid p) = none :=
    ht.temp hready.shadowFresh hready.realFresh fun hmem => hready.noTemp _ (happlied _ hmem)
  have hparent : (tempPath call.uuid p).dropLast = p.dropLast := by
    rw [tempPath, List.dropLast_concat]
  refine ⟨⟨by simp [tempPath], ?_, by simp [hnone]⟩, hnone⟩
  rw [hparent]
  exact hdirs _ (dropLast_mem_ancestors (hready.ne_nil hp))

theorem path_free {t : FileTree} {node : Node} (ht : AppliedTo shadow real applied t)
    (hready : Ready call shadow real changed) (hp : p ∈ changed) (hnew : p ∉ applied)
    (hnotDir : shadow.node p ≠ some .dir) (hthere : shadow.node p ≠ none ∨ real.node p ≠ none)
    (hdirs : ∀ q ∈ ancestors p, t.node q = some .dir)
    (hfree : t.Free (tempPath call.uuid p))
    (hleaf : (t.put (tempPath call.uuid p) node hfree).node (tempPath call.uuid p) ≠ some .dir) :
    ((t.put (tempPath call.uuid p) node hfree).erase (tempPath call.uuid p) hleaf).Free p := by
  obtain ⟨hne, habove⟩ := tempPath_not_above hready hp hthere
  have hparent := dropLast_mem_ancestors (hready.ne_nil hp)
  have hother : p.dropLast ≠ tempPath call.uuid p := fun h => habove (h ▸ hparent)
  refine ⟨hready.ne_nil hp, ?_, ?_⟩
  · rw [node_erase, if_neg hother, node_put, if_neg hother]
    exact hdirs _ hparent
  · rw [node_erase, if_neg hne.symm, node_put, if_neg hne.symm]
    intro hdir
    rcases (ht.others p hnew).dir hdir with hreal | hdir'
    · exact hready.noDir p hp hreal
    · exact hnotDir hdir'

theorem copyAndReplace_spec {t : FileTree} {source : Node}
    (hready : Ready call shadow real changed) (hp : p ∈ changed)
    (happlied : ∀ q ∈ applied, q ∈ changed) (hnew : p ∉ applied)
    (hsource : shadow.throughLink p = false → shadow.node p = some source)
    (hthere : shadow.node p ≠ none ∨ real.node p ≠ none) (ht : AppliedTo shadow real applied t)
    (hdirs : ∀ q ∈ ancestors p, t.node q = some .dir)
    (hclear : ∀ q ∈ ancestors p, real.content q = none) :
    Triple (fun t' => t' = t) (do
        copyPathOrSymlink call p source (tempPath call.uuid p)
        replace call (tempPath call.uuid p) p)
      (fun _ t' => PathApplied shadow real applied p t')
      (PathStopped call shadow real changed p) := by
  obtain ⟨hfree, hnone⟩ := temp_free ht hready hp happlied hdirs
  have htempNew : tempPath call.uuid p ∉ applied := fun hmem => hready.noTemp _ (happlied _ hmem)
  have hcopied : Triple (fun t' => t' = t) (copyPathOrSymlink call p source (tempPath call.uuid p))
      (fun _ t' => source ≠ .dir ∧ ∃ node : Node, node.content? = source.content?
        ∧ t' = t.put (tempPath call.uuid p) node hfree)
      (PathStopped call shadow real changed p) := by
    refine (copyPathOrSymlink_spec call p source (tempPath call.uuid p) t).weaken
      (fun _ h => h) ?_ ?_
    · rintro - t' ⟨hnotDir, hfree', node, hnode, rfl⟩
      exact ⟨hnotDir, node, hnode, rfl⟩
    · rintro e t' ⟨left, rfl, hleft, hreason⟩
      have hwhy : call.fault = none → shadow.throughLink p = false →
          ¬ Puttable (shadow.node p) real p := by
        rintro hfault hstraight ⟨hnotDir, -⟩
        rcases hreason with h | h | h | h
        · exact hnotDir (by rw [hsource hstraight, h])
        · exact h hfree
        · exact h hnone
        · simp [Call.failingCopy, hfault] at h
      refine ⟨.copy left, rfl, ?_, hwhy⟩
      rcases hleft with ⟨rfl, rfl⟩ | ⟨hfree', bytes, rfl, rfl⟩
      · exact ht.stopped hready hp happlied rfl
      · exact ht.stopped_put hready hp happlied rfl hfree' (by simp [Node.content?]) rfl
  refine hcopied.bind fun _ => Triple.of_each ?_
  rintro t₁ ⟨hnotDir, node, hnode, rfl⟩
  have hcontent : node.content? ≠ none := by
    rw [hnode]
    exact fun h => hnotDir (Node.content?_eq_none_iff.mp h)
  have hnotDir' : shadow.node p ≠ some .dir := by
    intro hdir
    have hfound := hsource (throughLink_of_node (by simp [hdir]))
    rw [hdir] at hfound
    exact hnotDir (Option.some.inj hfound).symm
  have hleaf : (t.put (tempPath call.uuid p) node hfree).node (tempPath call.uuid p)
      ≠ some .dir := by
    rw [node_put, if_pos rfl]
    exact fun h => hcontent (Node.content?_eq_none_iff.mpr (Option.some.inj h))
  obtain ⟨hne, -⟩ := tempPath_not_above hready hp hthere
  refine (replace_spec call (tempPath call.uuid p) p _).weaken (fun _ h => h) ?_ ?_
  · rintro - t' ⟨content, hleaf', hfree', hmoved, rfl⟩
    rw [content_put, if_pos rfl, hnode] at hmoved
    have hput : ∀ q, q ≠ p → (((t.put (tempPath call.uuid p) node hfree).erase
        (tempPath call.uuid p) hleaf').put p (Content.nodeAt call p content) hfree').node q
          = if q = tempPath call.uuid p then none else t.node q := by
      intro q hq
      rw [node_put, if_neg hq, node_erase]
      split
      · rfl
      next hother => rw [node_put, if_neg hother]
    refine ⟨⟨?_, ?_, ?_, ?_⟩, fun _ => ⟨hnotDir', fun _ => hclear⟩⟩
    · intro q hq
      have hqp : q ≠ p := fun h => hq (.inl h)
      unfold SameOrMade
      rw [hput q hqp]
      split
      next htemp =>
        rw [htemp, hready.realFresh]
        exact .inl rfl
      next => exact ht.others q fun hmem => hq (.inr hmem)
    · rintro q (rfl | hq) hstraight
      · rw [content_put, if_pos rfl, nodeAt_content, FileTree.content, hsource hstraight]
        exact hmoved.symm
      · have hqp : q ≠ p := fun h => hnew (h ▸ hq)
        have hother : q ≠ tempPath call.uuid p := fun h => htempNew (h ▸ hq)
        rw [FileTree.content, hput q hqp, if_neg hother]
        exact ht.content q hq hstraight
    · rintro q (rfl | hq)
      · rw [node_put, if_pos rfl]
        intro hdir
        have hnodeAt := nodeAt_content call q content
        rw [Option.some.inj hdir] at hnodeAt
        cases hnodeAt
      · have hqp : q ≠ p := fun h => hnew (h ▸ hq)
        have hother : q ≠ tempPath call.uuid p := fun h => htempNew (h ▸ hq)
        rw [hput q hqp, if_neg hother]
        exact ht.nowFile q hq
    · rintro q (rfl | hq)
      · exact hnotDir'
      · exact ht.shadowFile q hq
  · rintro e t' ⟨rfl, rfl, hreason⟩
    refine ⟨.rename, rfl, ht.stopped_put hready hp happlied rfl hfree hcontent rfl,
      fun hfault _ => ?_⟩
    exfalso
    rcases hreason with h | h | ⟨hleaf', h⟩
    · rw [hfault] at h
      cases h
    · rw [content_put, if_pos rfl] at h
      exact hcontent h
    · exact h (path_free ht hready hp hnew hnotDir' hthere hdirs hfree hleaf')

theorem madeDirs_spec (hready : Ready call shadow real changed) (hp : p ∈ changed)
    (happlied : ∀ q ∈ applied, q ∈ changed) (hdiffers : Differs call shadow real p)
    (hnow : AppliedTo shadow real applied now) :
    Triple (fun t => t = now)
      (makeDirs (fun dir => call.fault = some ⟨p, .mkdir dir⟩)
        (fun dir => .apply ⟨p, .mkdir dir⟩) (ancestors p))
      (fun _ t => AppliedTo shadow real applied t ∧ (∀ q ∈ ancestors p, t.node q = some .dir)
        ∧ ∀ q ∈ ancestors p, real.content q = none)
      (PathStopped call shadow real changed p) := by
  have hstraight := hnow.straight hready hp happlied hdiffers
  rintro t rfl
  by_cases hshadow : shadow.node p = none
  · -- the real workspace has the path, and so the directories above it
    have hreal : ∀ q ∈ ancestors p, real.node q = some .dir := by
      intro q hq
      obtain ⟨hpre, hne⟩ := mem_ancestors.mp hq
      exact dir_of_above hpre hne fun hnone =>
        node_of_differs hdiffers hshadow (content_eq_none_iff.mpr (.inl hnone))
    have hdirs : ∀ q ∈ ancestors p, t.node q = some .dir := by
      intro q hq
      have hother : q ∉ applied := fun hmem => hready.noDir q (happlied q hmem) (hreal q hq)
      exact (hnow.others q hother).of_dir (hreal q hq)
    rw [makeDirs_there hdirs]
    exact ⟨hnow, hdirs, fun q hq => content_of_dir (hreal q hq)⟩
  · have htotal : call.fault = none → Puttable (shadow.node p) real p →
        ∃ t', makeDirs (fun dir => call.fault = some ⟨p, .mkdir dir⟩)
          (fun dir => .apply ⟨p, .mkdir dir⟩) (ancestors p) t = .ok () t' := by
      intro hfault hputtable
      refine makeDirs_total p (by simp [hfault]) fun q hq => ?_
      rw [(hnow.others q (hnow.above hshadow hq)).content]
      exact hputtable.clear hshadow q hq
    have hended := makeDirs_spec (fun dir => call.fault = some ⟨p, .mkdir dir⟩)
      (fun dir => .apply ⟨p, .mkdir dir⟩) (ancestors p) t t rfl
    split at hended
    next t₁ _ =>
      obtain ⟨hgrown, hdirs⟩ := hended
      exact ⟨hnow.grown hshadow hgrown, clear_of_grown hnow hstraight hshadow hgrown hdirs⟩
    next e t₁ hend =>
      obtain ⟨hgrown, dir, -, rfl⟩ := hended
      refine ⟨.mkdir dir, rfl, ?_, fun hfault _ hputtable => ?_⟩
      · exact (hnow.grown hshadow hgrown).stopped hready hp happlied rfl
      · obtain ⟨t₂, hok⟩ := htotal hfault hputtable
        rw [hok] at hend
        cases hend

theorem applyShadowFile_run (hstraight : now.throughLink p = false) :
    applyShadowFile call shadow p now = applyNode call p (call.source shadow now p) now := by
  unfold applyShadowFile
  simp only [bind, EStateM.bind, get, getThe, MonadStateOf.get, EStateM.get, hstraight,
    Bool.false_eq_true, if_false]

theorem applyShadowFile_spec (hready : Ready call shadow real changed) (hp : p ∈ changed)
    (happlied : ∀ q ∈ applied, q ∈ changed) (hnew : p ∉ applied)
    (hdiffers : Differs call shadow real p) (hnow : AppliedTo shadow real applied now) :
    Triple (fun t => t = now) (applyShadowFile call shadow p)
      (fun _ t => PathApplied shadow real applied p t)
      (PathStopped call shadow real changed p) := by
  have hrun := @applyShadowFile_run call shadow _ _ (hnow.straight hready hp happlied hdiffers)
  rintro t rfl
  rw [hrun]
  cases hsource : call.source shadow t p with
  | none => exact applyMissing_spec hready hp happlied hnew hsource hnow t rfl
  | some node =>
      have hthere : shadow.node p ≠ none ∨ real.node p ≠ none := by
        by_contra hneither
        rw [not_or, not_not, not_not] at hneither
        exact node_of_differs hdiffers hneither.1 (content_eq_none_iff.mpr (.inl hneither.2))
      refine (madeDirs_spec hready hp happlied hdiffers hnow).bind
        (fun _ => Triple.of_each ?_) t rfl
      rintro t₁ ⟨happlied', hdirs, hclear⟩
      exact copyAndReplace_spec hready hp happlied hnew
        (fun hstraight => (source_of_straight hstraight).symm.trans hsource) hthere happlied'
        hdirs hclear

/-- How the loop ends: which paths it applied, and that they could be. -/
def LoopEnded (call : Call) (shadow real : FileTree) (applied : Set Path) (rest : List Path)
    (before : Bool) (result : Bool) (t : FileTree) : Prop :=
  AppliedTo shadow real (applied ∪ {p | p ∈ rest ∧ Differs call shadow real p}) t
    ∧ (∀ p ∈ rest, Differs call shadow real p → shadow.throughLink p = false →
      Puttable (shadow.node p) real p)
    ∧ (result = true ↔ before = true ∨ ∃ p ∈ rest, Differs call shadow real p)

def LoopStopped (call : Call) (shadow real : FileTree) (changed rest : List Path)
    (e : MergeError) (t : FileTree) : Prop :=
  (∃ failure, e = .apply failure ∧ StoppedAt call shadow real changed failure t)
    ∧ (call.fault = none → ∃ p ∈ rest, Differs call shadow real p
      ∧ (shadow.throughLink p = false → ¬ Puttable (shadow.node p) real p))

theorem differing_cons_of_not {rest : List Path} (hnot : ¬ Differs call shadow real p) :
    applied ∪ {q | q ∈ p :: rest ∧ Differs call shadow real q}
      = applied ∪ {q | q ∈ rest ∧ Differs call shadow real q} := by
  ext q
  simp only [Set.mem_union, Set.mem_ofPred_eq, List.mem_cons]
  refine or_congr_right ⟨?_, fun h => ⟨.inr h.1, h.2⟩⟩
  rintro ⟨rfl | hq, hdiffers⟩
  · exact absurd hdiffers hnot
  · exact ⟨hq, hdiffers⟩

theorem differing_cons {rest : List Path} (hdiffers : Differs call shadow real p) :
    applied ∪ {q | q ∈ p :: rest ∧ Differs call shadow real q}
      = insert p applied ∪ {q | q ∈ rest ∧ Differs call shadow real q} := by
  ext q
  simp only [Set.mem_union, Set.mem_ofPred_eq, List.mem_cons, Set.mem_insert_iff]
  constructor
  · rintro (hq | ⟨rfl | hq, h⟩)
    · exact .inl (.inr hq)
    · exact .inl (.inl rfl)
    · exact .inr ⟨hq, h⟩
  · rintro ((rfl | hq) | ⟨hq, h⟩)
    · exact .inr ⟨.inl rfl, hdiffers⟩
    · exact .inl hq
    · exact .inr ⟨.inr hq, h⟩

theorem differing_nil :
    applied ∪ {q | q ∈ ([] : List Path) ∧ Differs call shadow real q} = applied := by
  ext q
  simp

theorem applyChanged_spec (hready : Ready call shadow real changed) {rest : List Path}
    (hrest : ∀ p ∈ rest, p ∈ changed) (hnodup : rest.Nodup)
    (happlied : ∀ q ∈ applied, q ∈ changed) (hnew : ∀ p ∈ rest, p ∉ applied)
    (hnow : AppliedTo shadow real applied now) (before : Bool) :
    Triple (fun t => t = now) (applyChanged call shadow real rest before)
      (LoopEnded call shadow real applied rest before)
      (LoopStopped call shadow real changed rest) := by
  -- by induction on the paths to come, from the state after those before
  induction rest generalizing applied now before with
  | nil =>
      refine Triple.pure ?_
      rintro t rfl
      refine ⟨?_, fun p hp => absurd hp List.not_mem_nil, by simp⟩
      rw [differing_nil]
      exact hnow
  | cons p rest ih =>
      obtain ⟨hfresh, hnodup⟩ := List.nodup_cons.mp hnodup
      have hp := hrest p List.mem_cons_self
      have hrest' : ∀ q ∈ rest, q ∈ changed := fun q hq => hrest q (List.mem_cons_of_mem _ hq)
      rw [applyChanged]
      split
      next hsame =>
        have hnot : ¬ Differs call shadow real p := not_not.mpr hsame
        refine (ih hrest' hnodup happlied
          (fun q hq => hnew q (List.mem_cons_of_mem _ hq)) hnow before).weaken
          (fun _ h => h) ?_ ?_
        · rintro result t ⟨happlied', hcan, hresult⟩
          refine ⟨by rwa [differing_cons_of_not hnot], ?_, ?_⟩
          · intro q hq hdiffers
            rcases List.mem_cons.mp hq with rfl | hq
            · exact absurd hdiffers hnot
            · exact hcan q hq hdiffers
          · rw [hresult]
            refine or_congr_right ⟨fun ⟨q, hq, h⟩ => ⟨q, List.mem_cons_of_mem _ hq, h⟩, ?_⟩
            rintro ⟨q, hq, hdiffers⟩
            rcases List.mem_cons.mp hq with rfl | hq
            · exact absurd hdiffers hnot
            · exact ⟨q, hq, hdiffers⟩
        · rintro e t ⟨hstopped, hwhy⟩
          refine ⟨hstopped, fun hfault => ?_⟩
          obtain ⟨q, hq, h⟩ := hwhy hfault
          exact ⟨q, List.mem_cons_of_mem _ hq, h⟩
      next hdiffers =>
        have hpath := applyShadowFile_spec hready hp happlied
          (hnew p List.mem_cons_self) hdiffers hnow
        refine Triple.bind (hpath.weaken (fun _ h => h) (fun _ _ h => h) ?_) fun _ =>
          Triple.of_each ?_
        · rintro e t ⟨op, rfl, hstopped, hwhy⟩
          exact ⟨⟨⟨p, op⟩, rfl, hstopped⟩, fun hfault =>
            ⟨p, List.mem_cons_self, hdiffers, hwhy hfault⟩⟩
        · rintro t ⟨hthen, hcan⟩
          refine (ih hrest' hnodup ?_ ?_ hthen true).weaken
            (fun _ h => h) ?_ ?_
          · rintro q (rfl | hq)
            · exact hp
            · exact happlied q hq
          · rintro q hq (rfl | hmem)
            · exact hfresh hq
            · exact hnew q (List.mem_cons_of_mem _ hq) hmem
          · rintro result t' ⟨happlied', hcans, hresult⟩
            refine ⟨by rwa [differing_cons hdiffers], ?_, ?_⟩
            · intro q hq h
              rcases List.mem_cons.mp hq with rfl | hq
              · exact hcan
              · exact hcans q hq h
            · rw [hresult]
              exact iff_of_true (.inl rfl) (.inr ⟨p, List.mem_cons_self, hdiffers⟩)
          · rintro e t' ⟨hstopped, hwhy⟩
            refine ⟨hstopped, fun hfault => ?_⟩
            obtain ⟨q, hq, h⟩ := hwhy hfault
            exact ⟨q, List.mem_cons_of_mem _ hq, h⟩

end

end

end Navi.Workspaces
