import Mathlib.Data.List.Sort
import Navi.Base.FileTree
import Navi.Base.Triple
import Navi.StateGraph.Contracts

/-!
# Merging a shadow workspace back

`fingerprint_workspace` and `ShadowWorkspaceManager.merge_back` on file trees. A
path that leads through a link to a directory leaves its tree: what the merge finds
and does behind the link is given, and which links these are is read as the merge
starts. The backup of a merge and its conflict texts are kept outside the three trees,
where there is room for them.
-/

namespace Navi.Workspaces

open Navi.Base
open Navi.StateGraph (MergeStatus)

/-! ## The fingerprint -/

/-- `_IGNORED_WORKSPACE_NAMES`. -/
def ignoredWorkspaceNames : List String :=
  [".agents", ".claude", ".coverage", ".git", ".mypy_cache", ".navi", ".opencode",
    ".pytest_cache", ".ruff_cache", ".tox", "__pycache__", "dist", "htmlcov", "node_modules",
    ".venv", "venv", "workspace_shadows", "workspace_conflicts"]

/-- `_ignored_workspace_name`. -/
def ignoredWorkspaceName (name : String) : Bool :=
  name ∈ ignoredWorkspaceNames || ".egg-info".toList.isSuffixOf name.toList

def inWorkspace (p : Path) : Bool := !p.any ignoredWorkspaceName

/-- `os.walk` lists the path among the files: a link to a directory is among the
directories, and is not walked into. -/
def walked (t : FileTree) (p : Path) : Bool :=
  inWorkspace p &&
    match t.node p with
    | some (.file _) => true
    | some (.link _ toDir) => !toDir
    | _ => false

/-- `_iter_workspace_files`. -/
def iterWorkspaceFiles (t : FileTree) : List Path := t.paths.filter (walked t)

/-- What `_hash_path` feeds the digest. -/
def hashedBytes : Content → Bytes
  | .file content => "file".toUTF8.toList ++ 0 :: content
  | .link target => "symlink".toUTF8.toList ++ 0 :: target

/-- `hash_for` of `fingerprint_workspace`. -/
def hashFor (sha256 : Bytes → String) (t : FileTree) (p : Path) : Option String :=
  if walked t p then (t.content p).map fun content => sha256 (hashedBytes content) else none

/-! ## What a merge does -/

/-- An operation of the loop that applies the changes. A copy may have made its
temporary, with some bytes in it, before it fails. -/
inductive ApplyOp where
  | unlink
  | mkdir (dir : Path)
  | copy (left : Option Bytes)
  | rename
  deriving DecidableEq

/-- An operation that fails, and the changed path it is for. -/
structure Failure where
  path : Path
  op : ApplyOp
  deriving DecidableEq

inductive MergeError where
  | conflictText (p : Path)
  | backup (p : Path)
  | apply (failure : Failure)
  | restore (p : Path)
  deriving DecidableEq

abbrev Merging := EStateM MergeError FileTree

/-- Directories stay, and where there was content there is some. -/
def Keeps (t t' : FileTree) : Prop :=
  (∀ p, t.node p = some .dir → t'.node p = some .dir)
    ∧ ∀ p, t.content p ≠ none → t'.content p ≠ none

/-- What is behind links to directories, which lead into the real workspace again or
elsewhere: what `lstat` finds there before the merge, and behind those of the shadow with
the real workspace as it is by then; what `_apply_shadow_file` does there with what the
shadow has, and the restore with what was saved. A copy that is renamed into place there
takes away no directory and no content. -/
structure Behind where
  real : Path → Option Node
  shadow : FileTree → Path → Option Node
  apply : Path → Option Node → Merging Unit
  restore : Path → Option Content → Merging Unit
  keeps : ∀ p node t t', apply p (some node) t = .ok () t' → Keeps t t'

/-- What a merge finds: the digest, the random name it gets, whether a link of the
real workspace leads to a directory, what is behind such links, and the operation that
fails, if one does. -/
structure Call where
  sha256 : Bytes → String
  uuid : String
  resolves : Path → Bytes → Bool
  behind : Behind
  fault : Option Failure

/-- A path of a tree, seen by `lstat`. -/
def found (behind : Path → Option Node) (t : FileTree) (p : Path) : Option Node :=
  if t.throughLink p then behind p else t.node p

/-- What `_apply_shadow_file` takes from the shadow. -/
def Call.source (call : Call) (shadow now : FileTree) (p : Path) : Option Node :=
  found (call.behind.shadow now) shadow p

/-- What the merge finds in the real workspace. -/
def Call.there (call : Call) (real : FileTree) (p : Path) : Option Node :=
  found call.behind.real real p

/-- `as_posix`, by its characters. -/
def posix (p : Path) : List Char := ['/'].intercalate (p.map String.toList)

/-- `_merge_conflicts`. -/
def mergeConflicts (baselineHash shadowHash currentHash : Option String) : Bool :=
  if baselineHash = shadowHash then false
  else if currentHash = baselineHash then false
  else if currentHash = shadowHash then false
  else true

/-- Content, as it is at a place of the real workspace. -/
def Content.nodeAt (call : Call) (p : Path) : Content → Node
  | .file content => .file content
  | .link target => .link target (call.resolves p target)

@[simp] theorem nodeAt_content (call : Call) (p : Path) (content : Content) :
    (Content.nodeAt call p content).content? = some content := by
  cases content <;> rfl

/-- `mkdir(parents=True, exist_ok=True)`, one directory after the other. -/
def makeDirs (fails : Path → Bool) (error : Path → MergeError) : List Path → Merging Unit
  | [] => pure ()
  | dir :: rest => do
      let real ← get
      match real.node dir with
      | some .dir | some (.link _ true) => makeDirs fails error rest
      | some _ => throw (error dir)
      | none =>
          if fails dir then throw (error dir)
          else if hfree : real.Free dir then
            set (real.put dir .dir hfree)
            makeDirs fails error rest
          else throw (error dir)

/-- The failure of this copy, if it is the one that fails. -/
def Call.failingCopy (call : Call) (p : Path) : Option (Option Bytes) :=
  match call.fault with
  | some ⟨path, .copy left⟩ => if path = p then some left else none
  | _ => none

/-- `_copy_path_or_symlink`, to the temporary of a changed path. -/
def copyPathOrSymlink (call : Call) (p : Path) (source : Node) (temp : Path) : Merging Unit := do
  let real ← get
  match source with
  | .dir => throw (.apply ⟨p, .copy none⟩)
  | .link target _ =>
      if hfree : real.Free temp then
        if real.node temp ≠ none ∨ call.failingCopy p ≠ none then throw (.apply ⟨p, .copy none⟩)
        else set (real.put temp (.link target (call.resolves temp target)) hfree)
      else throw (.apply ⟨p, .copy none⟩)
  | .file content =>
      if hfree : real.Free temp then
        match call.failingCopy p with
        | none => set (real.put temp (.file content) hfree)
        | some none => throw (.apply ⟨p, .copy none⟩)
        | some (some left) => do
            set (real.put temp (.file left) hfree)
            throw (.apply ⟨p, .copy (some left)⟩)
      else throw (.apply ⟨p, .copy none⟩)

/-- `Path.replace`. -/
def replace (call : Call) (temp p : Path) : Merging Unit := do
  let real ← get
  if call.fault = some ⟨p, .rename⟩ then throw (.apply ⟨p, .rename⟩)
  else if hleaf : real.node temp ≠ some .dir then
    if hfree : (real.erase temp hleaf).Free p then
      match real.content temp with
      | none => throw (.apply ⟨p, .rename⟩)
      | some content => set ((real.erase temp hleaf).put p (Content.nodeAt call p content) hfree)
    else throw (.apply ⟨p, .rename⟩)
  else throw (.apply ⟨p, .rename⟩)

/-- `Path.unlink`. -/
def unlink (call : Call) (p : Path) : Merging Unit := do
  let real ← get
  if call.fault = some ⟨p, .unlink⟩ then throw (.apply ⟨p, .unlink⟩)
  else if hleaf : real.node p ≠ some .dir then set (real.erase p hleaf)
  else throw (.apply ⟨p, .unlink⟩)

def tempPath (uuid : String) (p : Path) : Path :=
  p.dropLast ++ ["." ++ p.getLastD "" ++ ".navi-tmp-" ++ uuid]

/-- `_apply_shadow_file` where its path leads through no link to a directory. -/
def applyNode (call : Call) (p : Path) : Option Node → Merging Unit
  | none => do
      let real ← get
      if (real.node p).isSome then unlink call p else pure ()
  | some node => do
      makeDirs (fun dir => call.fault = some ⟨p, .mkdir dir⟩) (fun dir => .apply ⟨p, .mkdir dir⟩)
        (FileTree.ancestors p)
      copyPathOrSymlink call p node (tempPath call.uuid p)
      replace call (tempPath call.uuid p) p

/-- `_apply_shadow_file`. -/
def applyShadowFile (call : Call) (shadow : FileTree) (p : Path) : Merging Unit := do
  let real ← get
  if real.throughLink p then call.behind.apply p (call.source shadow real p)
  else applyNode call p (call.source shadow real p)

/-- The loop of `merge_back`; `current` is the real workspace of its fingerprint. -/
def applyChanged (call : Call) (shadow current : FileTree) : List Path → Bool → Merging Bool
  | [], applied => pure applied
  | p :: rest, applied =>
      if hashFor call.sha256 current p = hashFor call.sha256 shadow p then
        applyChanged call shadow current rest applied
      else do
        applyShadowFile call shadow p
        applyChanged call shadow current rest true

/-- `_backup_real_files`, with what it has saved so far. The other paths are missing.
Below a link that is saved itself nothing can be: from the backup the link leads nowhere, or
to what is to be copied. -/
def backupRealFiles (call : Call) (real : FileTree) :
    List Path → List (Path × Content) → Merging (List (Path × Content))
  | [], saved => pure saved
  | p :: rest, saved =>
      match call.there real p with
      | none => backupRealFiles call real rest saved
      | some node =>
          match node.content? with
          | none => throw (.backup p)
          | some content =>
              if saved.any (·.1 ∈ FileTree.ancestors p) then throw (.backup p)
              else backupRealFiles call real rest (saved ++ [(p, content)])

/-- `_remove_path`. -/
def removePath (p : Path) : Merging Unit := do
  let real ← get
  match real.node p with
  | none => pure ()
  | some _ =>
      if hleaf : real.node p ≠ some .dir then set (real.erase p hleaf)
      else if hp : p ≠ [] then set (real.eraseAll p hp)
      else throw (.restore p)

/-- One path of `_restore_real_files`, which leads through no link to a directory. -/
def restoreFile (call : Call) (p : Path) (saved : Option Content) : Merging Unit := do
  removePath p
  match saved with
  | none => pure ()
  | some content => do
      makeDirs (fun _ => false) .restore (FileTree.ancestors p)
      let real ← get
      if hfree : real.Free p then set (real.put p (Content.nodeAt call p content) hfree)
      else throw (.restore p)

/-- `_restore_real_files`. -/
def restoreRealFiles (call : Call) (saved : List (Path × Content)) : List Path → Merging Unit
  | [] => pure ()
  | p :: rest => do
      let real ← get
      if real.throughLink p then call.behind.restore p (saved.lookup p)
      else restoreFile call p (saved.lookup p)
      restoreRealFiles call saved rest

/-- `_write_conflicts`, as far as its reads go. -/
def writeConflicts (call : Call) (real shadow : FileTree) : List Path → Merging Unit
  | [] => pure ()
  | p :: rest =>
      if call.there real p = some .dir ∨ call.source shadow real p = some .dir then
        throw (.conflictText p)
      else writeConflicts call real shadow rest

/-- `candidate_paths`. -/
def candidatePaths (baseline shadow real : FileTree) : List Path :=
  (iterWorkspaceFiles baseline ++ iterWorkspaceFiles shadow
    ++ iterWorkspaceFiles real).dedup.insertionSort fun p q => posix p ≤ posix q

/-- `agent_changed`. -/
def agentChanged (sha256 : Bytes → String) (baseline shadow real : FileTree) : List Path :=
  (candidatePaths baseline shadow real).filter fun p =>
    hashFor sha256 baseline p ≠ hashFor sha256 shadow p

/-- `conflicts`. -/
def conflictPaths (sha256 : Bytes → String) (baseline shadow real : FileTree) : List Path :=
  (agentChanged sha256 baseline shadow real).filter fun p =>
    mergeConflicts (hashFor sha256 baseline p) (hashFor sha256 shadow p) (hashFor sha256 real p)

/-- `MergeResult`, without the place of the conflict texts. -/
structure Merged where
  status : MergeStatus
  conflicts : List Path
  deriving DecidableEq

/-- `merge_back`. -/
def mergeBack (call : Call) (baseline shadow : FileTree) : Merging Merged := do
  let real ← get
  let changed := agentChanged call.sha256 baseline shadow real
  let conflicts := conflictPaths call.sha256 baseline shadow real
  if conflicts ≠ [] then do
    writeConflicts call real shadow conflicts
    return ⟨.conflicted, conflicts⟩
  else do
    let saved ← backupRealFiles call real changed []
    let applied ← tryCatch (applyChanged call shadow real changed false) fun error => do
      restoreRealFiles call saved changed
      throw error
    return ⟨if applied then .clean else .noOp, []⟩

end Navi.Workspaces
