import Navi.Base.Checks
import Navi.Base.Dict
import Navi.Base.Precedence
import Navi.Evolution.SkillContract
import Navi.Loop.Specification
import Navi.Sandbox.Command

/-!
# The skill store

The skills of the home, of the workspace and those that are built in, as `list_skills` filters
them, and what `skills.view` reads of one. A name is taken only by a skill that is listed, so one
that a filter hides leaves its name to the next.
-/

namespace Navi.Evolution

open Navi.Base

/-! ## The files -/

/-- What is read of a file: its text, why it is no UTF-8, or what the system raises. -/
inductive SkillContent where
  | text (content : String)
  | notUtf8 (reason : String)
  | osError (error : String)
  deriving DecidableEq

/-- A `SKILL.md`, with the name of the directory that it is in. -/
structure SkillFile where
  directoryName : String
  content : SkillContent

/-- What `glob("*/SKILL.md")` finds in a directory. -/
structure SkillsDir where
  path : Sandbox.Path
  files : List SkillFile
  nodup : (files.map (·.directoryName)).Nodup

/-- `sorted(directory.glob("*/SKILL.md"))`. -/
def SkillsDir.sorted (directory : SkillsDir) : List SkillFile :=
  directory.files.mergeSort fun a b => a.directoryName ≤ b.directoryName

/-- `SkillStore`, with the directory of skills in each workspace. -/
structure SkillStore where
  skillsDir : SkillsDir
  workspaceDir : String → SkillsDir
  builtinSkillsDir : SkillsDir

/-- `_SkillLocation`, with the file that is there. -/
structure SkillLocation where
  path : Sandbox.Path
  source : String
  verified : Bool
  scope : String
  file : SkillFile

def SkillsDir.locations (directory : SkillsDir) (source : String) (verified : Bool)
    (scope : String) : List SkillLocation :=
  directory.sorted.map fun file =>
    { path := directory.path ++ [file.directoryName, "SKILL.md"]
      source := source, verified := verified, scope := scope, file := file }

def SkillStore.homeLocations (store : SkillStore) : List SkillLocation :=
  store.skillsDir.locations "local" true "global"

/-- Those in the workspace, if there is one. -/
def SkillStore.workspaceLocations (store : SkillStore) (workspace : String) :
    List SkillLocation :=
  if workspace = "" then []
  else (store.workspaceDir workspace).locations "workspace" false "workspace"

def SkillStore.builtinLocations (store : SkillStore) : List SkillLocation :=
  store.builtinSkillsDir.locations "builtin" true "builtin"

/-- `_locations`. -/
def SkillStore.locations (store : SkillStore) (workspace : String) : List SkillLocation :=
  store.homeLocations ++ store.workspaceLocations workspace ++ store.builtinLocations

/-! ## Loading -/

/-- `Skill`. -/
structure Skill where
  name : String
  description : String
  path : Sandbox.Path
  permission : String
  source : String
  tags : List String
  verified : Bool
  role : String
  version : String
  contentHash : String
  trustLevel : String
  scope : String
  evaluation : Dict

/-- What `_load` raises: what `list_skills` catches, with its text, or an `OSError`. -/
inductive LoadError where
  | invalid (reason : String)
  | osError (error : String)

/-- `str(exc)`. -/
def TargetError.reason : TargetError → String
  | .valueError message => message
  | .other error => error

section

variable (texts : SkillTexts) (sha256 : String → String)

/-- `_load`. -/
def loadSkill (location : SkillLocation) : Except LoadError Skill :=
  match location.file.content with
  | .osError error => .error (.osError error)
  | .notUtf8 reason => .error (.invalid reason)
  | .text content => do
      let contract ← (parseSkillContract texts content location.file.directoryName).mapError
        fun raised => LoadError.invalid raised.reason
      let permission ← (Loop.Specification.normalizePermission contract.permission).mapError
        fun _ => LoadError.invalid ("unsupported permission: " ++ contract.permission)
      return {
        name := contract.name
        description := contract.description
        path := location.path
        permission := permission
        source := location.source
        tags := contract.tags
        verified := location.verified
        role := contract.role
        version := contract.version
        contentHash := sha256 content
        trustLevel := if location.verified then "verified" else "unverified"
        scope := location.scope
        evaluation := contract.evaluation }

/-! ## Listing -/

/-- `PERMISSION_ORDER[normalize_permission(value)]`. -/
def permissionLevel (value : String) : Option Nat :=
  match Loop.Specification.normalizePermission value with
  | .ok permission => some (Loop.Specification.permissionOrder.idxOf permission)
  | .error _ => none

/-- `permission_allows`. -/
def permissionAllows (required ceiling : String) : Bool :=
  match permissionLevel required, permissionLevel ceiling with
  | some requiredLevel, some ceilingLevel => requiredLevel ≤ ceilingLevel
  | _, _ => false

/-- The filters of `list_skills`; without a role it is empty. -/
structure SkillFilters where
  permissionCeiling : String
  sources : Option (List String)
  role : String

/-- `(role or "").strip().lower()`. -/
def SkillFilters.requestedRole (filters : SkillFilters) : String :=
  texts.lower (strip filters.role)

/-- `SkillValidationIssue`. -/
structure SkillValidationIssue where
  path : String
  reason : String

/-- What `list_skills` has collected. -/
structure SkillListing where
  skills : List Skill := []
  seenNames : List String := []
  issues : List SkillValidationIssue := []

/-- A round of the loop of `list_skills`. -/
def SkillListing.add (filters : SkillFilters) (listing : SkillListing)
    (location : SkillLocation) : Except String SkillListing :=
  match loadSkill texts sha256 location with
  | .error (.osError error) => .error error
  | .error (.invalid reason) =>
      .ok { listing with issues := listing.issues ++ [⟨Sandbox.render location.path, reason⟩] }
  | .ok skill =>
      if skill.name ∈ listing.seenNames then .ok listing
      else if filters.requestedRole texts ≠ "" ∧ skill.role ≠ ""
          ∧ skill.role ≠ filters.requestedRole texts then .ok listing
      else if filters.sources.any fun sources => skill.source ∉ sources then .ok listing
      else if !permissionAllows skill.permission filters.permissionCeiling then .ok listing
      else .ok { listing with
        skills := listing.skills ++ [skill]
        seenNames := skill.name :: listing.seenNames }

/-- `list_skills`, with the issues that it leaves in `last_validation_issues`. -/
def listSkills (store : SkillStore) (workspace : String) (filters : SkillFilters) :
    Except String SkillListing :=
  (store.locations workspace).foldlM (SkillListing.add texts sha256 filters) {}

/-! ## Viewing -/

structure SkillHost where
  /-- `path.resolve()`. -/
  resolve : Sandbox.Path → Except String Sandbox.Path
  /-- `path.exists() and path.is_file()`. -/
  isFile : Sandbox.Path → Bool
  /-- `path.read_bytes()`. -/
  readBytes : Sandbox.Path → Except String (List UInt8)
  /-- `data.decode("utf-8", errors="replace")`. -/
  decode : List UInt8 → String

/-- The arguments of `skills.view`, as texts: those that are left out are empty. -/
structure ViewCall where
  name : String
  relativePath : String
  skillPermissionCeiling : String

/-- `ToolResult`, as the tool fills it in. -/
structure SkillToolResult where
  ok : Bool
  error : String := ""
  errorReason : String := ""
  facts : Dict := []

/-- The result, with the file that has been read for it. -/
structure Viewed where
  result : SkillToolResult
  read : Option Sandbox.Path := none

/-- `SKILL_FILE_MAX_BYTES`. -/
def skillFileMaxBytes : Nat := 200000

/-- `str(args.get("name") or "").strip().lower()`. -/
def ViewCall.wantedName (call : ViewCall) : String := texts.lower (strip call.name)

/-- `str(args.get("relative_path") or "SKILL.md").strip() or "SKILL.md"`. -/
def ViewCall.relative (call : ViewCall) : String :=
  if strip call.relativePath = "" then "SKILL.md" else strip call.relativePath

/-- The filters of the listing that a view is made from. -/
def ViewCall.filters (call : ViewCall) : SkillFilters where
  permissionCeiling :=
    if call.skillPermissionCeiling = "" then "read" else call.skillPermissionCeiling
  sources := none
  role := ""

/-- `path.parent.name`. -/
def directoryNameOf (path : Sandbox.Path) : String := (path.dropLast.getLast?).getD ""

/-- A skill that is asked for by its name or by that of its directory. -/
def ViewCall.asksFor (call : ViewCall) (skill : Skill) : Bool :=
  texts.lower skill.name = call.wantedName texts
    || texts.lower (directoryNameOf skill.path) = call.wantedName texts

/-- `str(target.relative_to(base_dir))`, of what is inside. -/
def relativeTo (target baseDir : Sandbox.Path) : String :=
  if target = baseDir then "." else "/".intercalate (target.drop baseDir.length)

/-- `_skills_view` from where the skill is found. -/
def viewSkill (host : SkillHost) (call : ViewCall) (skill : Skill) : Except String Viewed := do
  let baseDir ← host.resolve skill.path.dropLast
  let target ← host.resolve (Sandbox.joinPath baseDir call.relative)
  if !Sandbox.inside baseDir target then
    return { result := {
      ok := false, error := "relative_path must stay inside the skill directory"
      errorReason := "resource_scope_violation" } }
  if !host.isFile target then
    return { result := {
      ok := false, error := "skill file not found"
      facts := [("path", .str (Sandbox.render target))], errorReason := "not_found" } }
  let data ← host.readBytes target
  if skillFileMaxBytes < data.length then
    return {
      result := {
        ok := false, error := "skill file exceeds the complete-read safety limit"
        facts := [("name", .str skill.name), ("path", .str (Sandbox.render target)),
          ("relative_path", .str (relativeTo target baseDir)), ("size", .int data.length),
          ("max_size", .int skillFileMaxBytes), ("complete", .bool false)]
        errorReason := "resource_limit" }
      read := some target }
  return {
    result := {
      ok := true
      facts := [("name", .str skill.name), ("description", .str skill.description),
        ("permission", .str skill.permission),
        ("injectable_with_current_ceiling",
          .bool (permissionAllows skill.permission call.filters.permissionCeiling)),
        ("path", .str (Sandbox.render target)),
        ("relative_path", .str (relativeTo target baseDir)), ("size", .int data.length),
        ("complete", .bool true), ("content", .str (host.decode data))] }
    read := some target }

/-- `_skills_view`. -/
def skillsView (host : SkillHost) (store : SkillStore) (workspace : String) (call : ViewCall) :
    Except String Viewed := do
  if call.wantedName texts = "" then
    return { result := {
      ok := false, error := "name is required", errorReason := "missing_required_argument" } }
  let listing ← listSkills texts sha256 store workspace call.filters
  match listing.skills.find? (call.asksFor texts) with
  | none =>
      return { result := {
        ok := false, error := "skill not found"
        facts := [("name", .str (call.wantedName texts))], errorReason := "not_found" } }
  | some skill => viewSkill host call skill

end

end Navi.Evolution
