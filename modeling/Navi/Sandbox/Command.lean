import Mathlib

/-!
# The sandbox command

The options of the command line, in their order. A path is the list of its components, resolved on
the host; one path is an ancestor of another if it is a prefix of it.
-/

namespace Navi.Sandbox

abbrev Path := List String

/-- The second path is the first one or inside it. -/
def inside (root path : Path) : Bool := root.isPrefixOf path

/-- `reversed(path.parents[:-1])`. -/
def parentDirs (path : Path) : List Path :=
  (List.range (path.length - 1)).map fun n => path.take (n + 1)

structure Host where
  /-- `shutil.which("bwrap")`. -/
  bwrap : Option String
  /-- `Path(value).expanduser().resolve()`. -/
  resolve : String → Path
  /-- The same of `cwd / value`, which is `value` where that is absolute. -/
  resolveIn : Path → String → Path
  /-- `shutil.which(value, path=path)`, resolved. -/
  which : String → String → Option Path
  isExecutableFile : Path → Bool
  isDir : Path → Bool
  existsAt : Path → Bool
  /-- The path exists or is a symbolic link. -/
  existsOrLink : Path → Bool
  /-- `sys.base_prefix`, resolved. -/
  basePrefix : Path
  /-- `os.environ.get`. -/
  environ : String → Option String

/-- The options that `bwrap` is given. -/
inductive SandboxOption where
  | flag (name : String)
  | dev (destination : Path)
  | tmpfs (destination : Path)
  | proc (destination : Path)
  | dir (destination : Path)
  | bind (source destination : Path)
  | roBind (source destination : Path)
  | symlink (target : String) (link : Path)
  | unshareNet
  | setenv (key value : String)
  | file (descriptor : Nat) (destination : Path)
  | chdir (directory : Path)
  | run (command : List String)
  deriving DecidableEq

/-- `str(path)`. -/
def render (path : Path) : String := "/" ++ String.intercalate "/" path

/-- `sandbox_environment`. -/
def sandboxEnvironment (host : Host) : List (String × String) :=
  [("HOME", "/tmp/navi-home"), ("PATH", "/tmp/navi-home/.local/bin:/usr/local/bin:/usr/bin:/bin"),
    ("LANG", (host.environ "LANG").getD "C.UTF-8"), ("LC_ALL", (host.environ "LC_ALL").getD ""),
    ("TERM", (host.environ "TERM").getD "dumb"), ("TMPDIR", "/tmp"), ("GIT_PAGER", "cat"),
    ("PAGER", "cat")].filter fun entry => entry.2 ≠ ""

/-- `_resolve_executable`. -/
def resolveExecutable (host : Host) (value : String) (cwd : Path) (path : String) : Option Path :=
  if value.toList.contains '/' then
    let resolved := host.resolveIn cwd value
    if host.isExecutableFile resolved then some resolved else none
  else host.which value path

/-- The components of a path as it is written, after those of a base if it is relative. -/
def joinPath (base : Path) (value : String) : Path :=
  let parts := ((value.toList.splitOn '/').map String.ofList).filter fun part =>
    part ≠ "" && part ≠ "."
  if value.toList.head? = some '/' then parts else base ++ parts

/-- `_resolve_in_sandbox_executable`. -/
def resolveInSandboxExecutable (host : Host) (value : String) (persistentHome : Path) :
    Option Path :=
  if host.existsOrLink (joinPath (persistentHome ++ [".local", "bin"]) value) then
    some (joinPath ["tmp", "navi-home", ".local", "bin"] value)
  else none

structure SandboxCall where
  command : List String
  cwd : String
  workspace : String
  writable : Bool
  networkAllowed : Bool
  path : String
  hostProcessVisibility : Bool
  environmentFd : Option Nat
  sandboxHome : Option String
  readOnlyBinds : List (String × String)

/-- `root`. -/
def SandboxCall.root (host : Host) (call : SandboxCall) : Path := host.resolve call.workspace

/-- `working_dir`. -/
def SandboxCall.workingDir (host : Host) (call : SandboxCall) : Path := host.resolve call.cwd

/-- `persistent_home`. -/
def SandboxCall.persistentHome (host : Host) (call : SandboxCall) : Option Path :=
  call.sandboxHome.map host.resolve

/-- `executable`. -/
def SandboxCall.executable (host : Host) (call : SandboxCall) : Option Path :=
  call.command.head?.bind fun value =>
    resolveExecutable host value (call.workingDir host) call.path

/-- `in_sandbox_executable`. -/
def SandboxCall.inSandboxExecutable (host : Host) (call : SandboxCall) : Option Path :=
  if (call.executable host).isSome then none
  else call.command.head?.bind fun value => (call.persistentHome host).bind fun home =>
    resolveInSandboxExecutable host value home

/-! ## Mounts before the workspace -/

/-- The options up to the ancestors of the workspace. -/
def baseOptions (host : Host) (call : SandboxCall) : List SandboxOption :=
  ([.flag "--die-with-parent", .flag "--new-session", .flag "--clearenv", .flag "--unshare-pid",
    .dev ["dev"], .tmpfs ["tmp"], .dir ["etc"], .dir ["run"],
    .dir ["tmp", "navi-home"]] : List SandboxOption)
  ++ ((call.persistentHome host).map fun home =>
        SandboxOption.bind home ["tmp", "navi-home"]).toList
  ++ ([if call.hostProcessVisibility then .roBind ["proc"] ["proc"]
        else .proc ["proc"]] : List SandboxOption)
  ++ (if call.networkAllowed then [] else [SandboxOption.unshareNet])
  ++ (([["usr"], ["sys"]] : List Path).filter host.existsAt).map
        (fun source => SandboxOption.roBind source source)
  ++ ([.symlink "usr/bin" ["bin"], .symlink "usr/sbin" ["sbin"], .symlink "usr/lib" ["lib"],
    .symlink "usr/lib64" ["lib64"]] : List SandboxOption)
  ++ (([["etc", "ld.so.cache"], ["etc", "ssl"], ["etc", "ca-certificates"],
      ["etc", "resolv.conf"], ["etc", "hosts"], ["etc", "nsswitch.conf"], ["etc", "passwd"],
      ["etc", "group"], ["etc", "localtime"]] : List Path).filter host.existsAt).map
        (fun source => SandboxOption.roBind source source)

/-! ## Mounts after it -/

/-- A read-only bind that is not passed over, with its source and destination resolved. -/
def overlayOf (host : Host) (call : SandboxCall) (bind : String × String) : Option (Path × Path) :=
  let root := call.root host
  let source := host.resolve bind.1
  let destination := host.resolve bind.2
  if !host.isDir source || source = root || destination = root then none
  -- already visible through the workspace
  else if inside root source then none
  -- no mount point can be made inside a read-only workspace
  else if inside root destination && !call.writable then none
  else some (source, destination)

/-- The read-only binds that are mounted. -/
def overlays (host : Host) (call : SandboxCall) : List (Path × Path) :=
  call.readOnlyBinds.filterMap (overlayOf host call)

/-- The directories that are made for a destination, and all that were made. -/
def makeParents (parents created : List Path) : List SandboxOption × List Path :=
  let missing := parents.filter fun parent => !created.contains parent
  (missing.map .dir, created ++ missing)

/-- The options of the binds, and the directories that were made. -/
def overlayOptions (root : Path) : List (Path × Path) → List Path → List SandboxOption × List Path
  | [], created => ([], created)
  | (source, destination) :: binds, created =>
      let made := makeParents ((parentDirs destination).filter (· ≠ root)) created
      let rest := overlayOptions root binds made.2
      (made.1 ++ .roBind source destination :: rest.1, rest.2)

/-- The executable is neither in the workspace nor under `/usr/`. -/
def needsBind (root executable : Path) : Bool :=
  !inside root executable
    && match executable with
      | "usr" :: _ :: _ => false
      | _ => true

/-- The bind that makes the executable visible. -/
def executableBind (host : Host) (call : SandboxCall) : Option (Path × Path) :=
  match call.executable host with
  | none => none
  | some executable =>
      if needsBind (call.root host) executable then
        if inside host.basePrefix executable then some (host.basePrefix, host.basePrefix)
        else some (executable, ["run", "navi-bin"] ++ executable.getLast?.toList)
      else none

def executableOptions (host : Host) (call : SandboxCall) (created : List Path) :
    List SandboxOption :=
  match executableBind host call with
  | none => []
  | some (source, destination) =>
      (if source = host.basePrefix ∧ destination = host.basePrefix then
        (makeParents (parentDirs host.basePrefix) created).1
      else [.dir ["run", "navi-bin"]]) ++ [.roBind source destination]

/-- `sandbox_executable`. -/
def sandboxExecutable (host : Host) (call : SandboxCall) (executable : Path) : Path :=
  match executableBind host call with
  | some (source, destination) => if source = executable then destination else executable
  | none => executable

/-- What is run, with the options before it. -/
def runOptions (host : Host) (call : SandboxCall) (sandboxExecutable : Path) :
    List SandboxOption :=
  match call.environmentFd with
  | some descriptor =>
      [.file descriptor ["run", "navi-command-environment"], .chdir (call.workingDir host),
        .run (["/bin/sh", "-c", ". /run/navi-command-environment\nexec \"$@\"",
          "navi-sandbox-environment", render sandboxExecutable] ++ call.command.tail)]
  | none =>
      [.chdir (call.workingDir host), .run (render sandboxExecutable :: call.command.tail)]

/-- `bubblewrap_command`: the options, or the error. -/
def bubblewrapCommand (host : Host) (call : SandboxCall) : Except String (List SandboxOption) :=
  match host.bwrap with
  | none => .error "bubblewrap is required for process workspace isolation"
  | some _ =>
      let root := call.root host
      if !inside root (call.workingDir host) then
        .error "process cwd must stay inside the current project workspace"
      else
        match call.command with
        | [] => .error "list index out of range"
        | value :: _ =>
            match (call.inSandboxExecutable host).or (call.executable host) with
            | none => .error ("command not found: " ++ value)
            | some executable =>
                let ancestors := parentDirs root
                let overlaid := overlayOptions root (overlays host call)
                  ([["tmp"], ["tmp", "navi-home"], ["etc"], ["run"]] ++ ancestors)
                .ok (baseOptions host call ++ ancestors.map .dir
                  ++ [if call.writable then .bind root root else .roBind root root]
                  ++ overlaid.1
                  ++ executableOptions host call overlaid.2
                  ++ (sandboxEnvironment host).map (fun entry => .setenv entry.1 entry.2)
                  ++ runOptions host call (sandboxExecutable host call executable))

end Navi.Sandbox
