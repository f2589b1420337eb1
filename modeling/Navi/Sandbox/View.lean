import Mathlib
import Navi.Sandbox.Command

/-!
# What is seen in the sandbox

The mounts of a command in their order, of which the last one at or above a path is seen there. The
workspace is seen as it should be unless a later mount lies at or above it: only then may the files
at a path be others, or not be writable.
-/

namespace Navi.Sandbox

/-! ## Mounts -/

/-- A mount: where, of which directory of the host if of one, and whether it can be written to. -/
structure Mount where
  destination : Path
  source : Option Path
  writable : Bool
  deriving DecidableEq

/-- The mount that an option adds. The devices and processes of the sandbox count as not
writable, and its root, which holds no mount of its own, is left out. -/
def SandboxOption.mount : SandboxOption → Option Mount
  | .dev destination => some ⟨destination, none, false⟩
  | .tmpfs destination => some ⟨destination, none, true⟩
  | .proc destination => some ⟨destination, none, false⟩
  | .bind source destination => some ⟨destination, some source, true⟩
  | .roBind source destination => some ⟨destination, some source, false⟩
  | _ => none

def mountsOf (options : List SandboxOption) : List Mount := options.filterMap SandboxOption.mount

/-- The mount that is seen at a path. -/
def covering (mounts : List Mount) (path : Path) : Option Mount :=
  (mounts.filter fun m => inside m.destination path).getLast?

/-- The path of the host that is seen at a path. -/
def Mount.hostPath (m : Mount) (path : Path) : Option Path :=
  m.source.map fun source => source ++ path.drop m.destination.length

/-- Every path of the workspace is seen with this writability, but for read-only mounts strictly
inside it. -/
def ShowsWorkspace (mounts : List Mount) (root : Path) (writable : Bool) : Prop :=
  ∀ path, inside root path = true → ∃ m, covering mounts path = some m
    ∧ (inside root m.destination = true ∧ m.destination ≠ root ∧ m.writable = false
      ∨ m.hostPath path = some path ∧ m.writable = writable)

/-- What can be written to is in the workspace or in `/tmp`, and if it is the host's, then in the
workspace or in the home of the sandbox. -/
def ConfinesWrites (mounts : List Mount) (root : Path) (home : Option Path) : Prop :=
  ∀ path m, covering mounts path = some m → m.writable = true →
    (inside root path = true ∨ inside ["tmp"] path = true)
      ∧ ∀ hostPath ∈ m.hostPath path,
        inside root hostPath = true ∨ ∃ dir ∈ home, inside dir hostPath = true

/-- What the command line of a call is meant to do. -/
structure Respects (host : Host) (call : SandboxCall) (options : List SandboxOption) : Prop where
  workspace : ShowsWorkspace (mountsOf options) (call.root host) call.writable
  writes : ConfinesWrites (mountsOf options) (call.root host) (call.persistentHome host)
  directory : SandboxOption.chdir (call.workingDir host) ∈ options
    ∧ inside (call.root host) (call.workingDir host) = true
  network : SandboxOption.unshareNet ∈ options ↔ call.networkAllowed = false

/-! ## The condition -/

/-- What is mounted after the workspace, all of it read-only. -/
def laterBinds (host : Host) (call : SandboxCall) : List (Path × Path) :=
  overlays host call ++ (executableBind host call).toList

/-- The last of them at or above the workspace, if there is one, shows the host's own directory of
a workspace that is to be read-only. -/
def Unshadowed (host : Host) (call : SandboxCall) : Prop :=
  ∀ bind ∈ ((laterBinds host call).filter fun bind => inside bind.2 (call.root host)).getLast?,
    bind.1 = bind.2 ∧ call.writable = false

section

variable {host : Host} {call : SandboxCall} {options : List SandboxOption} {root path : Path}
  {mounts : List Mount} {m : Mount}

theorem inside_iff {root path : Path} : inside root path = true ↔ root <+: path :=
  List.isPrefixOf_iff_prefix

theorem mem_of_covering (h : covering mounts path = some m) :
    m ∈ mounts ∧ inside m.destination path = true :=
  List.mem_filter.mp (List.mem_of_getLast? h)

theorem getLast?_filter_of_imp {α : Type} {P Q : α → Bool} {l : List α} {a : α}
    (h : (l.filter P).getLast? = some a) (hQ : Q a = true) (himp : ∀ x, Q x = true → P x = true) :
    (l.filter Q).getLast? = some a := by
  obtain ⟨front, hfront⟩ := List.getLast?_eq_some_iff.mp h
  have hfilter : l.filter Q = (l.filter P).filter Q := by
    rw [List.filter_filter]
    refine List.filter_congr fun x _ => ?_
    cases hx : Q x with
    | false => simp
    | true => simp [himp x hx]
  rw [hfilter, hfront, List.filter_append, List.filter_cons_of_pos hQ, List.filter_nil,
    List.getLast?_append]
  rfl

/-! ## The mounts of a command -/

def readOnly (bind : Path × Path) : Mount := ⟨bind.2, some bind.1, false⟩

theorem mountsOf_append (options options' : List SandboxOption) :
    mountsOf (options ++ options') = mountsOf options ++ mountsOf options' :=
  List.filterMap_append

theorem mountsOf_dirs (dirs : List Path) : mountsOf (dirs.map .dir) = [] := by
  induction dirs with
  | nil => rfl
  | cons dir dirs ih => exact ih

theorem mountsOf_setenv (entries : List (String × String)) :
    mountsOf (entries.map fun entry => .setenv entry.1 entry.2) = [] := by
  induction entries with
  | nil => rfl
  | cons entry entries ih => exact ih

theorem mountsOf_makeParents (parents created : List Path) :
    mountsOf (makeParents parents created).1 = [] := mountsOf_dirs _

theorem mountsOf_overlayOptions (root : Path) (binds : List (Path × Path)) (created : List Path) :
    mountsOf (overlayOptions root binds created).1 = binds.map readOnly := by
  induction binds generalizing created with
  | nil => rfl
  | cons bind binds ih =>
      obtain ⟨source, destination⟩ := bind
      unfold overlayOptions
      dsimp only
      rw [mountsOf_append, mountsOf_makeParents, List.nil_append]
      exact congrArg (readOnly (source, destination) :: ·) (ih _)

theorem mountsOf_executableOptions (created : List Path) :
    mountsOf (executableOptions host call created)
      = (executableBind host call).toList.map readOnly := by
  unfold executableOptions
  split
  next hnone =>
    rw [hnone]
    rfl
  next source destination hsome =>
    rw [hsome, mountsOf_append]
    split
    · rw [mountsOf_makeParents]
      rfl
    · rfl

theorem mountsOf_runOptions (executable : Path) :
    mountsOf (runOptions host call executable) = [] := by
  unfold runOptions
  split
  · rfl
  · rfl

/-! ## The network -/

theorem unshareNet_not_mem_makeParents (parents created : List Path) :
    SandboxOption.unshareNet ∉ (makeParents parents created).1 := by
  intro h
  obtain ⟨dir, -, hdir⟩ := List.mem_map.mp h
  cases hdir

theorem unshareNet_not_mem_overlayOptions (root : Path) (binds : List (Path × Path))
    (created : List Path) : SandboxOption.unshareNet ∉ (overlayOptions root binds created).1 := by
  induction binds generalizing created with
  | nil => exact List.not_mem_nil
  | cons bind binds ih =>
      intro h
      unfold overlayOptions at h
      rcases List.mem_append.mp h with hparents | hrest
      · exact unshareNet_not_mem_makeParents _ _ hparents
      · rcases List.mem_cons.mp hrest with hbind | hlater
        · cases hbind
        · exact ih _ hlater

theorem unshareNet_not_mem_executableOptions (created : List Path) :
    SandboxOption.unshareNet ∉ executableOptions host call created := by
  intro h
  unfold executableOptions at h
  split at h
  next => exact List.not_mem_nil h
  next =>
    rcases List.mem_append.mp h with hparents | hbind
    · split at hparents
      · exact unshareNet_not_mem_makeParents _ _ hparents
      · cases List.mem_singleton.mp hparents
    · cases List.mem_singleton.mp hbind

theorem unshareNet_not_mem_runOptions (executable : Path) :
    SandboxOption.unshareNet ∉ runOptions host call executable := by
  intro h
  unfold runOptions at h
  split at h
  · simp at h
  · simp at h

theorem unshareNet_mem_baseOptions :
    SandboxOption.unshareNet ∈ baseOptions host call ↔ call.networkAllowed = false := by
  unfold baseOptions
  cases call.networkAllowed with
  | true =>
      cases call.hostProcessVisibility with
      | true => simp
      | false => simp
  | false => simp

/-! ## Commands -/

/-- The mounts are those of the host's own directories, that of the workspace and the later ones. -/
theorem of_command (h : bubblewrapCommand host call = .ok options) :
    inside (call.root host) (call.workingDir host) = true
      ∧ mountsOf options = mountsOf (baseOptions host call)
          ++ ⟨call.root host, some (call.root host), call.writable⟩
            :: (laterBinds host call).map readOnly
      ∧ SandboxOption.chdir (call.workingDir host) ∈ options
      ∧ (SandboxOption.unshareNet ∈ options ↔ call.networkAllowed = false) := by
  unfold bubblewrapCommand at h
  split at h
  next => cases h
  next =>
    dsimp only at h
    split at h
    next => cases h
    next hinside =>
      split at h
      next => cases h
      next value arguments _ =>
        split at h
        next => cases h
        next executable _ =>
          obtain rfl := Except.ok.inj h
          refine ⟨by simpa using hinside, ?_, ?_, ?_⟩
          · simp only [mountsOf_append, mountsOf_dirs, mountsOf_overlayOptions,
              mountsOf_executableOptions, mountsOf_setenv, mountsOf_runOptions, List.append_nil,
              laterBinds, List.map_append, List.append_assoc]
            cases call.writable with
            | true => rfl
            | false => rfl
          · refine List.mem_append_right _ ?_
            unfold runOptions
            split
            · simp
            · simp
          · have hworkspace : SandboxOption.unshareNet ∉ [if call.writable then
                SandboxOption.bind (call.root host) (call.root host)
                else .roBind (call.root host) (call.root host)] := by
              cases call.writable with
              | true => simp
              | false => simp
            simp only [List.mem_append, unshareNet_mem_baseOptions, hworkspace,
              unshareNet_not_mem_overlayOptions, unshareNet_not_mem_executableOptions,
              unshareNet_not_mem_runOptions, or_false, List.mem_map, reduceCtorEq, and_false,
              exists_false]

/-! ## What is seen -/

theorem writable_of_base (h : m ∈ mountsOf (baseOptions host call))
    (hwritable : m.writable = true) : m = ⟨["tmp"], none, true⟩
      ∨ ∃ home ∈ call.persistentHome host, m = ⟨["tmp", "navi-home"], some home, true⟩ := by
  obtain ⟨option, hoption, hm⟩ := List.mem_filterMap.mp h
  have hcases : (∃ destination, option = .tmpfs destination ∧ m = ⟨destination, none, true⟩)
      ∨ ∃ source destination, option = .bind source destination
        ∧ m = ⟨destination, some source, true⟩ := by
    cases option with
    | tmpfs destination => exact .inl ⟨destination, rfl, (Option.some.inj hm).symm⟩
    | bind source destination => exact .inr ⟨source, destination, rfl, (Option.some.inj hm).symm⟩
    | dev | proc | roBind =>
        obtain rfl := Option.some.inj hm
        cases hwritable
    | flag | dir | symlink | unshareNet | setenv | file | chdir | run => cases hm
  unfold baseOptions at hoption
  rcases hcases with ⟨destination, rfl, rfl⟩ | ⟨source, destination, rfl, rfl⟩
  · refine .inl ?_
    cases hvisible : call.hostProcessVisibility with
    | true =>
        rw [hvisible] at hoption
        simpa using hoption
    | false =>
        rw [hvisible] at hoption
        simpa using hoption
  · have hhome : call.persistentHome host = some source ∧ ["tmp", "navi-home"] = destination := by
      cases hvisible : call.hostProcessVisibility with
      | true =>
          rw [hvisible] at hoption
          simpa using hoption
      | false =>
          rw [hvisible] at hoption
          simpa using hoption
    obtain ⟨hsource, rfl⟩ := hhome
    exact .inr ⟨source, hsource, rfl⟩

def workspaceMount (root : Path) (writable : Bool) : Mount := ⟨root, some root, writable⟩

theorem covering_of_inside (front : List Mount) (writable : Bool) (later : List (Path × Path))
    (h : inside root path = true) :
    covering (front ++ workspaceMount root writable :: later.map readOnly) path
      = some (((later.filter fun bind => inside bind.2 path).getLast?.map readOnly).getD
          (workspaceMount root writable)) := by
  have hfilter : (later.map readOnly).filter (fun m => inside m.destination path)
      = (later.filter fun bind => inside bind.2 path).map readOnly := List.filter_map
  unfold covering
  rw [List.filter_append, List.filter_cons_of_pos (by exact h), hfilter, List.getLast?_append,
    List.getLast?_cons, List.getLast?_map, Option.some_or]

theorem hostPath_of_same {dir : Path} {writable : Bool} (h : inside dir path = true) :
    Mount.hostPath ⟨dir, some dir, writable⟩ path = some path := by
  obtain ⟨rest, rfl⟩ := inside_iff.mp h
  unfold Mount.hostPath
  simp

theorem showsWorkspace_iff (front : List Mount) :
    ShowsWorkspace (front ++ workspaceMount (call.root host) call.writable
        :: (laterBinds host call).map readOnly) (call.root host) call.writable
      ↔ Unshadowed host call := by
  generalize hroot : call.root host = root
  unfold Unshadowed
  rw [hroot]
  have hself : inside root root = true := inside_iff.mpr (List.prefix_refl root)
  constructor
  · intro h bind hbind
    obtain ⟨m, hm, hshown⟩ := h root hself
    rw [covering_of_inside front call.writable (laterBinds host call) hself,
      Option.mem_def.mp hbind] at hm
    obtain rfl := Option.some.inj hm
    have habove : bind.2 <+: root :=
      inside_iff.mp (List.mem_filter.mp (List.mem_of_getLast? hbind)).2
    rcases hshown with ⟨hin, hne, -⟩ | ⟨hsame, hwritable⟩
    · -- what is at or above the workspace is not strictly inside it
      exact absurd (habove.eq_of_length_le (inside_iff.mp hin).length_le) hne
    · refine ⟨?_, hwritable.symm⟩
      obtain ⟨rest, rfl⟩ := habove
      have hpath : bind.1 ++ (bind.2 ++ rest).drop bind.2.length = bind.2 ++ rest :=
        Option.some.inj hsame
      rw [List.drop_left] at hpath
      exact List.append_cancel_right hpath
  · intro h path hpath
    refine ⟨_, covering_of_inside front call.writable (laterBinds host call) hpath, ?_⟩
    cases hlast : ((laterBinds host call).filter fun bind => inside bind.2 path).getLast? with
    | none => exact .inr ⟨hostPath_of_same hpath, rfl⟩
    | some bind =>
        show inside root bind.2 = true ∧ bind.2 ≠ root ∧ false = false
          ∨ (readOnly bind).hostPath path = some path ∧ false = call.writable
        have hbind := (List.mem_filter.mp (List.mem_of_getLast? hlast)).2
        by_cases hstrict : inside root bind.2 = true ∧ bind.2 ≠ root
        · exact .inl ⟨hstrict.1, hstrict.2, rfl⟩
        · -- two ancestors of a path: this one is at or above the workspace
          have habove : inside bind.2 root = true := by
            rcases List.prefix_or_prefix_of_prefix (inside_iff.mp hbind) (inside_iff.mp hpath) with
              hle | hle
            · exact inside_iff.mpr hle
            · by_contra hnot
              refine hstrict ⟨inside_iff.mpr hle, ?_⟩
              intro heq
              rw [heq] at hnot
              exact hnot hself
          have hroots := getLast?_filter_of_imp hlast habove fun other hother =>
              inside_iff.mpr ((inside_iff.mp hother).trans (inside_iff.mp hpath))
          obtain ⟨hsame, hwritable⟩ := h bind hroots
          refine .inr ⟨?_, hwritable.symm⟩
          unfold readOnly
          rw [hsame]
          exact hostPath_of_same hbind

theorem confinesWrites (h : mountsOf options = mountsOf (baseOptions host call)
    ++ workspaceMount (call.root host) call.writable :: (laterBinds host call).map readOnly) :
    ConfinesWrites (mountsOf options) (call.root host) (call.persistentHome host) := by
  intro path m hcovering hwritable
  obtain ⟨hmem, hpath⟩ := mem_of_covering hcovering
  rw [h] at hmem
  rcases List.mem_append.mp hmem with hbase | hrest
  · rcases writable_of_base hbase hwritable with rfl | ⟨home, hhome, rfl⟩
    · exact ⟨.inr hpath, by intro hostPath hhost; cases hhost⟩
    · have htmp : ["tmp"] <+: ["tmp", "navi-home"] := ⟨["navi-home"], rfl⟩
      refine ⟨.inr (inside_iff.mpr (htmp.trans (inside_iff.mp hpath))), fun hostPath hhost => ?_⟩
      obtain rfl := Option.some.inj hhost
      exact .inr ⟨home, hhome, inside_iff.mpr (List.prefix_append _ _)⟩
  · rcases List.mem_cons.mp hrest with rfl | hlater
    · refine ⟨.inl hpath, fun hostPath hhost => ?_⟩
      obtain rfl := Option.some.inj hhost
      exact .inl (inside_iff.mpr (List.prefix_append _ _))
    · obtain ⟨bind, -, rfl⟩ := List.mem_map.mp hlater
      cases hwritable

/-- A command line does what it is meant to do exactly if no later mount shadows the workspace. -/
theorem command_respects_iff (h : bubblewrapCommand host call = .ok options) :
    Respects host call options ↔ Unshadowed host call := by
  obtain ⟨hinside, hmounts, hdirectory, hnetwork⟩ := of_command h
  constructor
  · intro hrespects
    have hworkspace := hrespects.workspace
    rw [hmounts] at hworkspace
    exact (showsWorkspace_iff _).mp hworkspace
  · intro hunshadowed
    refine ⟨?_, confinesWrites hmounts, ⟨hdirectory, hinside⟩, hnetwork⟩
    rw [hmounts]
    exact (showsWorkspace_iff _).mpr hunshadowed

end

/-! ## A project inside the prefix of its interpreter -/

/-- A host on which every path is a directory and an executable, and the interpreter is in
`/opt/conda`. -/
def condaHost : Host where
  bwrap := some "/usr/bin/bwrap"
  resolve := joinPath []
  resolveIn := joinPath
  which _ _ := none
  isExecutableFile _ := true
  isDir _ := true
  existsAt _ := false
  existsOrLink _ := false
  basePrefix := ["opt", "conda"]
  environ _ := none

/-- The interpreter is run in a project beside it, which it is to write to. -/
def condaCall : SandboxCall where
  command := ["/opt/conda/bin/python"]
  cwd := "/opt/conda/project"
  workspace := "/opt/conda/project"
  writable := true
  networkAllowed := false
  path := ""
  hostProcessVisibility := false
  environmentFd := none
  sandboxHome := none
  readOnlyBinds := []

/-- The same one with a home of its own and data that it may read. -/
def homeCall : SandboxCall :=
  { condaCall with
    sandboxHome := some "/srv/home"
    readOnlyBinds := [("/srv/data", "/opt/conda/project/data"), ("/srv/models", "/srv/models")] }

theorem home_command_respects_iff : ∃ options, bubblewrapCommand condaHost homeCall = .ok options
    ∧ (Respects condaHost homeCall options ↔ Unshadowed condaHost homeCall) :=
  ⟨_, rfl, command_respects_iff rfl⟩

/-- The prefix is mounted over the project, which then cannot be written to. -/
theorem conda_project_is_read_only : ∃ options, bubblewrapCommand condaHost condaCall = .ok options
    ∧ ¬ Respects condaHost condaCall options := by
  have hreturns : ∃ options, bubblewrapCommand condaHost condaCall = .ok options := ⟨_, rfl⟩
  obtain ⟨options, hcommand⟩ := hreturns
  refine ⟨options, hcommand, fun hrespects => ?_⟩
  have hworkspace := hrespects.workspace
  rw [(of_command hcommand).2.1] at hworkspace
  have hunshadowed := (showsWorkspace_iff _).mp hworkspace
  have hlast : (["opt", "conda"], ["opt", "conda"]) ∈ ((laterBinds condaHost condaCall).filter
      fun bind => inside bind.2 (condaCall.root condaHost)).getLast? := by decide +kernel
  cases (hunshadowed _ hlast).2

end Navi.Sandbox
