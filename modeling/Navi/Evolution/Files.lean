import Navi.Base.JsonText
import Navi.Evolution.SkillContract
import Navi.Memory.Items

/-!
# Targets in files

What the adapters of evolution rest on and change, and the three of them that read, check,
change and restore text files: prompt layers, skills and evaluation cases.
-/

namespace Navi.Evolution

open Navi.Base Navi.Base.Json Navi.Memory

/-- What `before_memory_write` is told. -/
structure MemoryWrite where
  type : String
  status : String
  scope : String
  source : String
  confidence : Rat
  contentChars : Nat
  metadataKeys : List String
  deriving DecidableEq

/-- What the adapters rest on: the texts of floats, `json.loads` (which reads back what
`json.dumps` wrote, in the order of the text), `str`, `float` and `dict` of a value,
`str.isalnum` of a character, YAML, what a REAL column gives back of what is bound to it, what
the hooks refuse a write with, and the tables of prompt layers and of default parameters. -/
structure TargetRuntime where
  floats : FloatText
  loads : String → Option Json
  loads_dumps : ∀ v, v.distinct = true → loads (dumps floats [' '] v) = some (sortKeys v)
  loads_distinct : ∀ text v, loads text = some v → v.distinct = true
  str : Json → String
  str_str : ∀ s, str (.str s) = s
  toFloat : Json → Option Rat
  toFloat_float : ∀ x, toFloat (.float x) = some x
  toDict : Json → Option Dict
  toDict_obj : ∀ d, toDict (.obj d) = some d
  toDict_distinct : ∀ v d, v.distinct = true → toDict v = some d → (Json.obj d).distinct = true
  isAlnum : Char → Bool
  safeLoad : String → Option Yaml
  lower : String → String
  realColumn : Json → Option Json
  realColumn_again : ∀ v w, realColumn v = some w → realColumn w = some w
  realColumn_scalar : ∀ v w, realColumn v = some w → w.scalar = true
  refusal : MemoryWrite → Option String
  promptLayers : String → Option String
  defaultParameters : List (String × Rat)

/-! ## What the adapters change -/

/-- The texts of files by name, as they are on disk. -/
abbrev Files := String → Option String

/-- `GraphNode`. -/
structure GraphNode where
  id : String
  type : String
  name : String
  data : Dict
  createdAt : Time
  updatedAt : Time
  deriving DecidableEq

/-- What the adapters of a home change; `edges` are pairs of node ids. -/
structure Home where
  overrides : Files
  skills : Files
  evalCases : Files
  memory : MemoryTables
  nodes : Table String GraphNode (·.id)
  edges : List (String × String)

/-- What a text file gives back of its line ends. -/
def universalNewlines : List Char → List Char
  | [] => []
  | '\r' :: '\n' :: rest => '\n' :: universalNewlines rest
  | '\r' :: rest => '\n' :: universalNewlines rest
  | c :: rest => c :: universalNewlines rest

/-- `_read_file_text`. -/
def readFileText (file : Option String) : String :=
  file.elim "" fun raw => String.ofList (universalNewlines raw.toList)

/-- `path.write_text`. -/
def writeText (files : Files) (name text : String) : Files := Function.update files name (some text)

/-- `path.unlink`, where the file is there. -/
def unlink (files : Files) (name : String) : Files := Function.update files name none

/-- `_safe_name`. -/
def safeName (value : String) : Except TargetError String := do
  let name := strip value
  require (name ≠ "" ∧ name ≠ "." ∧ ¬ ['.', '.'] <:+: name.toList ∧ '/' ∉ name.toList
      ∧ '\\' ∉ name.toList)
    (.valueError "evolution target_id must be a single safe name")
  return name

section

variable (env : TargetRuntime)

/-- `_json_object`. -/
def jsonObject (value targetType : String) : Except TargetError Dict :=
  match env.loads value with
  | none => .error (.valueError (targetType ++ " candidate must be valid JSON"))
  | some (.obj data) => .ok data
  | some _ => .error (.valueError (targetType ++ " candidate must be a JSON object"))

/-- `json.dumps(data, ensure_ascii=False, sort_keys=True)` of an object. -/
def dumpJson (data : Dict) : String := dumps env.floats [' '] (.obj data)

/-- `str(data.get(key) or default)`. -/
def textOr (data : Dict) (key default : String) : String :=
  if data.flag key then ((data.get key).map env.str).getD default else default

/-! ## Prompt layers -/

namespace PromptLayer

/-- `override_path`, by the name of the layer. -/
def overridePath (name : String) : Except TargetError String := do
  require (name ≠ "" ∧ name.toList.all fun part => env.isAlnum part || part = '_' || part = '-')
    (.valueError "invalid prompt layer name")
  return name

/-- `read`. -/
def read (home : Home) (targetId : String) : Except TargetError String := do
  let name ← overridePath env targetId
  match home.overrides name with
  | some raw => return readFileText (some raw)
  | none => return (env.promptLayers name).getD ""

/-- `validate`. -/
def validate (targetId candidate : String) : Except TargetError Unit := do
  let name ← overridePath env targetId
  require ((env.promptLayers name).isSome)
    (.valueError "prompt_layer target is not loaded by the runtime")
  require (strip candidate ≠ "") (.valueError "prompt_layer candidate must not be empty")

/-- `apply`. -/
def apply (home : Home) (targetId candidate : String) : Except TargetError Home := do
  validate env targetId candidate
  let name ← overridePath env targetId
  return { home with overrides := writeText home.overrides name candidate }

/-- What a snapshot says of the override. -/
def snapshotData (file : Option String) : Dict :=
  [("format", .str "prompt_layer_snapshot_v1"), ("override_exists", .bool file.isSome),
    ("override_content", .str (readFileText file))]

/-- `snapshot`. -/
def snapshot (home : Home) (targetId : String) : Except TargetError String := do
  let name ← overridePath env targetId
  return dumpJson env (snapshotData (home.overrides name))

/-- `rollback_snapshot`. -/
def rollbackSnapshot (home : Home) (targetId snapshot : String) : Except TargetError Home := do
  let data ← jsonObject env snapshot "prompt_layer snapshot"
  require (data.get "format" = some (.str "prompt_layer_snapshot_v1"))
    (.valueError "prompt_layer rollback snapshot has an unknown format")
  let name ← overridePath env targetId
  if data.flag "override_exists" then
    return { home with
      overrides := writeText home.overrides name (textOr env data "override_content" "") }
  else return { home with overrides := unlink home.overrides name }

end PromptLayer

/-! ## Skills -/

namespace Skill

/-- `read`. -/
def read (home : Home) (targetId : String) : Except TargetError String := do
  let name ← safeName targetId
  return readFileText (home.skills name)

/-- `validate`. -/
def validate (targetId candidate : String) : Except TargetError Unit := do
  let name ← safeName targetId
  match parseSkillContract ⟨env.safeLoad, env.loads, env.lower⟩ candidate name with
  | .ok _ => return ()
  | .error (.valueError message) =>
      .error (.valueError ("skill candidate is invalid: " ++ message))
  | .error raised => .error raised

/-- `apply`. -/
def apply (home : Home) (targetId candidate : String) : Except TargetError Home := do
  validate env targetId candidate
  let name ← safeName targetId
  return { home with skills := writeText home.skills name candidate }

/-- What a rollback of a file leaves: an empty text stands for no file. -/
def restoreFile (files : Files) (name before : String) : Files :=
  if before = "" then unlink files name else writeText files name before

/-- `rollback`. -/
def rollback (home : Home) (targetId before : String) : Except TargetError Home := do
  let name ← safeName targetId
  return { home with skills := restoreFile home.skills name before }

end Skill

/-! ## Evaluation cases -/

namespace EvalCase

/-- A case of `BUILTIN_EVOLUTION_EVAL_CASES`. -/
def builtinCase (id : String) (targetTypes : List String) (assertion : String) : Dict :=
  [("id", .str id), ("target_types", .arr (targetTypes.map .str)),
    ("assertions", .arr [.obj [("type", .str assertion)]])]

/-- `BUILTIN_EVOLUTION_EVAL_CASES`. -/
def builtinCases : List (String × Dict) :=
  [("runtime.text.nonempty",
      builtinCase "runtime.text.nonempty" ["prompt_layer", "skill"] "nonempty"),
    ("runtime.json.valid", builtinCase "runtime.json.valid"
      ["memory_item", "eval_case", "graph_node"] "json_valid"),
    ("runtime.parameter.valid", builtinCase "runtime.parameter.valid"
      ["memory_parameter", "dynamic_parameter", "system_parameter"] "parameter_valid"),
    ("memory.regression.gate",
      builtinCase "memory.regression.gate" ["dynamic_parameter"] "parameter_valid")]

/-- `read`. -/
def read (home : Home) (targetId : String) : Except TargetError String :=
  match builtinCases.lookup targetId with
  | some builtin => .ok (dumpJson env builtin)
  | none => do
      let name ← safeName targetId
      return readFileText (home.evalCases name)

/-- A built-in case is neither changed nor restored. -/
def requireManaged (targetId : String) : Except TargetError Unit :=
  require (builtinCases.lookup targetId = none)
    (.valueError "built-in eval cases are immutable runtime contracts")

/-- `validate`. -/
def validate (targetId candidate : String) : Except TargetError Unit := do
  requireManaged targetId
  let data ← jsonObject env candidate "eval_case"
  require (textOr env data "id" targetId = targetId)
    (.valueError "eval_case id must match target_id")
  match data.get "assertions" with
  | some (.arr (_ :: _)) => return ()
  | _ => .error (.valueError "eval_case requires non-empty assertions")

/-- `apply`. -/
def apply (home : Home) (targetId candidate : String) : Except TargetError Home := do
  validate env targetId candidate
  let name ← safeName targetId
  return { home with evalCases := writeText home.evalCases name candidate }

/-- `rollback`. -/
def rollback (home : Home) (targetId before : String) : Except TargetError Home := do
  requireManaged targetId
  let name ← safeName targetId
  return { home with evalCases := Skill.restoreFile home.evalCases name before }

end EvalCase

end

end Navi.Evolution
