import Navi.Base.Checks
import Navi.Base.Dict
import Navi.Loop.Specification

/-!
# The contract of a skill

The frontmatter of a `SKILL.md` and what is required of it, as `parse_skill_contract` reads it.
-/

namespace Navi.Evolution

open Navi.Base

/-- What an adapter raises: a `ValueError` with its message, or another error by its class. -/
inductive TargetError where
  | valueError (message : String)
  | other (error : String)
  deriving DecidableEq

/-! ## Texts -/

/-- The line boundaries of `str.splitlines`. -/
def isLineBreak (c : Char) : Bool :=
  c.toNat ∈ [0x0A, 0x0B, 0x0C, 0x0D, 0x1C, 0x1D, 0x1E, 0x85, 0x2028, 0x2029]

/-- The lines of a text with their ends, `line` being what is read of the first in reverse. -/
def splitLines (line : List Char) : List Char → List (List Char)
  | [] => if line = [] then [] else [line.reverse]
  | '\r' :: '\n' :: rest => (line.reverse ++ ['\r', '\n']) :: splitLines [] rest
  | c :: rest =>
      if isLineBreak c then (line.reverse ++ [c]) :: splitLines [] rest
      else splitLines (c :: line) rest

/-- `line.rstrip("\r\n") == "---"`. -/
def isFence (line : List Char) : Bool :=
  (line.rdropWhile fun c => c = '\r' || c = '\n') = ['-', '-', '-']

/-- The lower-case letters and the digits. -/
def isNameChar (c : Char) : Bool := c.isLower || c.isDigit

/-- `SKILL_NAME_PATTERN.fullmatch(name)`. -/
def isSkillName (name : String) : Bool :=
  (name.toList.splitOn '-').all fun part => part ≠ [] && part.all isNameChar

/-- `s.split(",")` of what is not blank, stripped and in lower case. -/
def metadataTuple (lower : String → String) (value : String) : List String :=
  (((value.toList.splitOn ',').map fun item => strip (String.ofList item)).filter
    (· ≠ "")).map lower

/-! ## The frontmatter -/

/-- What `yaml.safe_load` returns, as far as the contract tells values apart. -/
inductive Yaml where
  | null
  | str (s : String)
  | mapping (entries : List (Yaml × Yaml))
  | other (truthy : Bool)

namespace Yaml

/-- The text, where the value is one. -/
def text : Yaml → Option String
  | str s => some s
  | _ => none

/-- `value or {}`, and then the entries where that is a mapping. -/
def entriesOrEmpty : Yaml → Option (List (Yaml × Yaml))
  | null | str "" | other false => some []
  | mapping entries => some entries
  | str _ | other true => none

/-- `mapping.get(key)`. -/
def get (key : String) (entries : List (Yaml × Yaml)) : Option Yaml :=
  (entries.find? fun entry => entry.1.text = some key).map Prod.snd

end Yaml

/-- `SkillContract`. -/
structure SkillContract where
  name : String
  description : String
  permission : String
  tags : List String
  role : String
  version : String
  evaluation : Dict

/-- What the contract rests on: YAML, JSON and lower case. -/
structure SkillTexts where
  safeLoad : String → Option Yaml
  loads : String → Option Json
  lower : String → String

/-- `LEGACY_NAVI_SKILL_FIELDS`. -/
def legacyNaviSkillFields : List String :=
  ["evaluation", "permission", "role", "scope", "source", "tags", "trust_level", "version"]

/-- `RUNTIME_OWNED_NAVI_METADATA`. -/
def runtimeOwnedNaviMetadata : List String := ["navi.scope", "navi.source", "navi.trust-level"]

/-- `parse_skill_contract` up to the entries of the frontmatter, with the text after it. -/
def skillFrontmatter (texts : SkillTexts) (content : String) :
    Except TargetError (List (Yaml × Yaml) × String) :=
  match splitLines [] content.toList with
  | [] => .error (.valueError "skill requires YAML frontmatter")
  | first :: rest => do
      require (isFence first) (.valueError "skill requires YAML frontmatter")
      require (rest.any isFence) (.valueError "skill frontmatter is not closed")
      let frontmatter := rest.takeWhile (!isFence ·)
      let instructions := String.ofList (rest.drop (frontmatter.length + 1)).flatten
      match texts.safeLoad (String.ofList frontmatter.flatten) with
      | none => .error (.other "YAMLError")
      | some loaded =>
          match loaded.entriesOrEmpty with
          | none => .error (.valueError "skill frontmatter must be an object")
          | some entries => return (entries, instructions)

/-- A text of the frontmatter, stripped. -/
def skillText (entries : List (Yaml × Yaml)) (key : String) : Except TargetError String :=
  match Yaml.get key entries with
  | some (.str raw) => .ok (strip raw)
  | _ => .error (.valueError ("skill " ++ key ++ " must be a string"))

/-- The entries under `metadata`, all of whose keys and values are texts. -/
def vendorMetadata (entries : List (Yaml × Yaml)) : Except TargetError (List (String × String)) :=
  match Yaml.get "metadata" entries with
  | none | some .null => .ok []
  | some (.mapping vendor) =>
      match vendor.mapM fun entry => entry.1.text.bind fun key => entry.2.text.map (key, ·) with
      | some vendor => .ok vendor
      | none => .error (.valueError "skill metadata keys and values must be strings")
  | some _ => .error (.valueError "skill metadata must be an object")

/-- `navi.evaluation`, read as an object. -/
def skillEvaluation (texts : SkillTexts) (raw : String) : Except TargetError Dict :=
  if raw = "" then .ok []
  else
    match texts.loads raw with
    | some (.obj evaluation) => .ok evaluation
    | _ => .error (.valueError "skill metadata navi.evaluation must be a JSON object")

/-- `parse_skill_contract`. -/
def parseSkillContract (texts : SkillTexts) (content directoryName : String) :
    Except TargetError SkillContract := do
  let (entries, instructions) ← skillFrontmatter texts content
  let legacy := legacyNaviSkillFields.filter fun field => (Yaml.get field entries).isSome
  require (legacy = []) (.valueError
    ("Navi skill extensions must be nested under metadata: " ++ ", ".intercalate legacy))
  let name ← skillText entries "name"
  require (name ≠ "" ∧ name.length ≤ 64 ∧ isSkillName name)
    (.valueError "skill name must be 1-64 lowercase letters, digits, or hyphen groups")
  require (name = directoryName)
    (.valueError "skill name must exactly match its parent directory")
  let description ← skillText entries "description"
  require (description ≠ "" ∧ description.length ≤ 1024)
    (.valueError "skill description must be 1-1024 characters")
  require (strip instructions ≠ "") (.valueError "skill instructions must not be empty")
  let vendor ← vendorMetadata entries
  let value (key : String) : String := (vendor.lookup key).getD ""
  let claims := runtimeOwnedNaviMetadata.filter fun key => (vendor.lookup key).isSome
  require (claims = []) (.valueError
    ("skill metadata cannot claim runtime-owned authority: " ++ ", ".intercalate claims))
  let permission ← (Loop.Specification.normalizePermission (value "navi.permission")).mapError
    fun _ => TargetError.valueError "skill metadata navi.permission is invalid"
  let evaluation ← skillEvaluation texts (value "navi.evaluation")
  return {
    name := name
    description := description
    permission := permission
    tags := metadataTuple texts.lower (value "navi.tags")
    role := texts.lower (strip (value "navi.role"))
    version := strip (if value "navi.version" = "" then "1" else value "navi.version")
    evaluation := evaluation }

end Navi.Evolution
