import Mathlib.Data.List.Infix
import Mathlib.Data.List.Lattice

/-!
# File trees

A directory with what is below it: files, symbolic links and directories, by their
paths. Only a directory has anything below it; the tree carries that, so that an
operation asks for a proof that it may be done. A link knows whether it leads to a
directory, and is not followed: what is behind it is no part of the tree.
-/

namespace Navi.Base

/-- The components of a path, from the root of the tree. -/
abbrev Path := List String

/-- The bytes of a file or of a link. -/
abbrev Bytes := List UInt8

/-- What a path has: a file, a link with its text, or a directory. -/
inductive Node where
  | file (content : Bytes)
  | link (target : Bytes) (toDir : Bool)
  | dir
  deriving DecidableEq

/-- What can be copied from one tree to another. -/
inductive Content where
  | file (content : Bytes)
  | link (target : Bytes)
  deriving DecidableEq

/-- A link that leads where it is resolved to. -/
def Node.relink (toDir : Bytes → Bool) : Node → Node
  | .link target _ => .link target (toDir target)
  | node => node

/-- The content of a node that is not a directory. -/
def Node.content? : Node → Option Content
  | .file content => some (.file content)
  | .link target _ => some (.link target)
  | .dir => none

theorem Node.content?_eq_none_iff {node : Node} : node.content? = none ↔ node = .dir := by
  cases node <;> simp [Node.content?]

@[simp] theorem Node.content?_relink (toDir : Bytes → Bool) (node : Node) :
    (node.relink toDir).content? = node.content? := by
  cases node <;> rfl

theorem Node.relink_eq_dir_iff {toDir : Bytes → Bool} {node : Node} :
    node.relink toDir = .dir ↔ node = .dir := by
  rw [← Node.content?_eq_none_iff, Node.content?_relink, Node.content?_eq_none_iff]

/-- A file tree, with a list that has all its paths. -/
structure FileTree where
  /-- What each path has. -/
  node : Path → Option Node
  /-- The paths, and perhaps some that have nothing. -/
  paths : List Path
  listed : ∀ p, node p ≠ none → p ∈ paths
  root : node [] = some .dir
  closed : ∀ p name, node (p ++ [name]) ≠ none → node p = some .dir

namespace FileTree

variable (t : FileTree)

def content (p : Path) : Option Content := (t.node p).bind Node.content?

/-- The proper prefixes of a path, the root first. -/
def ancestors (p : Path) : List Path := (List.range p.length).map p.take

theorem mem_ancestors {p q : Path} : q ∈ ancestors p ↔ q <+: p ∧ q ≠ p := by
  simp only [ancestors, List.mem_map, List.mem_range]
  constructor
  · rintro ⟨n, hn, rfl⟩
    refine ⟨List.take_prefix n p, fun h => ?_⟩
    have hlength := congrArg List.length h
    rw [List.length_take] at hlength
    omega
  · rintro ⟨hpre, hne⟩
    refine ⟨q.length, ?_, (List.prefix_iff_eq_take.mp hpre).symm⟩
    exact lt_of_le_of_ne hpre.length_le fun h => hne (hpre.eq_of_length h)

theorem dropLast_mem_ancestors {p : Path} (hp : p ≠ []) : p.dropLast ∈ ancestors p := by
  refine mem_ancestors.mpr ⟨List.dropLast_prefix p, fun h => ?_⟩
  have hlength := congrArg List.length h
  have hpos := List.length_pos_of_ne_nil hp
  rw [List.length_dropLast] at hlength
  omega

/-- A path leads through a link to a directory. -/
def throughLink (p : Path) : Bool :=
  (ancestors p).any fun q =>
    match t.node q with
    | some (.link _ toDir) => toDir
    | _ => false

variable {t}

theorem content_eq_none_iff {p : Path} :
    t.content p = none ↔ t.node p = none ∨ t.node p = some .dir := by
  unfold content
  cases h : t.node p with
  | none => simp
  | some node => simp [Node.content?_eq_none_iff]

theorem content_of_dir {p : Path} (h : t.node p = some .dir) : t.content p = none :=
  content_eq_none_iff.mpr (.inr h)

theorem dir_of_above {p q : Path} (hpre : q <+: p) (hne : q ≠ p) (hp : t.node p ≠ none) :
    t.node q = some .dir := by
  -- by induction on what the path has after the prefix, from its end
  obtain ⟨rest, rfl⟩ := hpre
  induction rest using List.reverseRecOn with
  | nil => simp at hne
  | append_singleton rest name ih =>
      rw [← List.append_assoc] at hp
      have hparent := t.closed (q ++ rest) name hp
      cases rest with
      | nil => simpa using hparent
      | cons first rest => exact ih (by simp) (by simp [hparent])

theorem node_below {p q : Path} (hpre : q <+: p) (hne : q ≠ p) (hq : t.node q ≠ some .dir) :
    t.node p = none := by
  by_contra hp
  exact hq (dir_of_above hpre hne hp)

theorem throughLink_of_node {p : Path} (hp : t.node p ≠ none) : t.throughLink p = false := by
  rw [throughLink, List.any_eq_false]
  intro q hq
  obtain ⟨hpre, hne⟩ := mem_ancestors.mp hq
  rw [dir_of_above hpre hne hp]
  exact Bool.false_ne_true

/-! ## Operations -/

def empty : FileTree where
  node p := if p = [] then some .dir else none
  paths := [[]]
  listed p hp := by
    by_contra h
    simp at h
    simp [h] at hp
  root := rfl
  closed p name hp := by simp at hp

/-- Something may be put at a path: its parent is a directory, and it is none. -/
def Free (t : FileTree) (p : Path) : Prop :=
  p ≠ [] ∧ t.node p.dropLast = some .dir ∧ t.node p ≠ some .dir

instance (t : FileTree) (p : Path) : Decidable (t.Free p) :=
  inferInstanceAs (Decidable (_ ∧ _ ∧ _))

def put (t : FileTree) (p : Path) (node : Node) (hfree : t.Free p) : FileTree where
  node q := if q = p then some node else t.node q
  paths := p :: t.paths
  listed q hq := by
    split at hq
    next h => exact List.mem_cons.mpr (.inl h)
    next => exact List.mem_cons_of_mem _ (t.listed q hq)
  root := by rw [if_neg hfree.1.symm, t.root]
  closed q name hq := by
    obtain ⟨hp, hparent, hleaf⟩ := hfree
    split at hq
    next h =>
      have hq' : q = p.dropLast := by simp [← h]
      have hne : q ≠ p := by
        intro hqp
        simp [hqp] at h
      rw [if_neg hne, hq', hparent]
    next h =>
      have hdir := t.closed q name hq
      have hne : q ≠ p := by
        rintro rfl
        exact hleaf hdir
      rw [if_neg hne, hdir]

def erase (t : FileTree) (p : Path) (hleaf : t.node p ≠ some .dir) : FileTree where
  node q := if q = p then none else t.node q
  paths := t.paths
  listed q hq := by
    split at hq
    next => exact absurd rfl hq
    next => exact t.listed q hq
  root := by
    have hp : ([] : Path) ≠ p := by
      rintro rfl
      exact hleaf t.root
    rw [if_neg hp, t.root]
  closed q name hq := by
    split at hq
    next => exact absurd rfl hq
    next =>
      have hdir := t.closed q name hq
      have hne : q ≠ p := by
        rintro rfl
        exact hleaf hdir
      rw [if_neg hne, hdir]

/-- Remove a path with all that is below it. -/
def eraseAll (t : FileTree) (p : Path) (hp : p ≠ []) : FileTree where
  node q := if p <+: q then none else t.node q
  paths := t.paths
  listed q hq := by
    split at hq
    next => exact absurd rfl hq
    next => exact t.listed q hq
  root := by
    have hroot : ¬ p <+: [] := by simpa using hp
    rw [if_neg hroot, t.root]
  closed q name hq := by
    split at hq
    next => exact absurd rfl hq
    next h =>
      have habove : ¬ p <+: q := fun hpre => h (hpre.trans (List.prefix_append q [name]))
      rw [if_neg habove, t.closed q name hq]

/-- The same files, with links that lead elsewhere. -/
def relink (t : FileTree) (resolves : Path → Bytes → Bool) : FileTree where
  node p := (t.node p).map (Node.relink (resolves p))
  paths := t.paths
  listed p hp := t.listed p fun hnone => hp (by rw [hnone]; rfl)
  root := by rw [t.root]; rfl
  closed p name hp := by
    rw [t.closed p name fun hnone => hp (by rw [hnone]; rfl)]
    rfl

/-- The nodes of a list, put one after the other where each may be put. -/
def ofList (nodes : List (Path × Node)) : FileTree :=
  nodes.foldl (fun t entry =>
    if hfree : t.Free entry.1 then t.put entry.1 entry.2 hfree else t) empty

section

variable {p q : Path} {node : Node}

theorem node_put (hfree : t.Free p) :
    (t.put p node hfree).node q = if q = p then some node else t.node q := rfl

theorem node_erase (hleaf : t.node p ≠ some .dir) :
    (t.erase p hleaf).node q = if q = p then none else t.node q := rfl

theorem node_eraseAll (hp : p ≠ []) :
    (t.eraseAll p hp).node q = if p <+: q then none else t.node q := rfl

theorem node_relink (resolves : Path → Bytes → Bool) :
    (t.relink resolves).node q = (t.node q).map (Node.relink (resolves q)) := rfl

theorem node_relink_eq_none_iff {resolves : Path → Bytes → Bool} :
    (t.relink resolves).node q = none ↔ t.node q = none := Option.map_eq_none_iff

theorem node_relink_eq_dir_iff {resolves : Path → Bytes → Bool} :
    (t.relink resolves).node q = some .dir ↔ t.node q = some .dir := by
  rw [node_relink]
  cases t.node q with
  | none => simp
  | some node => simp [Node.relink_eq_dir_iff]

@[simp] theorem content_relink (resolves : Path → Bytes → Bool) :
    (t.relink resolves).content q = t.content q := by
  unfold content
  rw [node_relink]
  cases t.node q with
  | none => rfl
  | some node => exact Node.content?_relink _ node

theorem content_put (hfree : t.Free p) :
    (t.put p node hfree).content q = if q = p then node.content? else t.content q := by
  unfold content
  rw [node_put]
  split <;> rfl

theorem content_erase (hleaf : t.node p ≠ some .dir) :
    (t.erase p hleaf).content q = if q = p then none else t.content q := by
  unfold content
  rw [node_erase]
  split <;> rfl

end

end FileTree

end Navi.Base
