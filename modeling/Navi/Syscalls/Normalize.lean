import Navi.Base.Checks
import Navi.Base.Dict
import Navi.Schema.Validator

/-!
# The arguments of a syscall

What `normalize_syscall_args` makes of the arguments that a model gave, and what
`ModelSyscallPlanner.plan` then does with its one syscall.
-/

namespace Navi.Syscalls

open Navi.Base

/-! ## Words of a command -/

/-- Where `shlex` is in a word: before one, in one, in quotes, or behind a backslash, in quotes or
not. -/
inductive LexState where
  | blank
  | word
  | quoted (quote : Char)
  | escaped (quote : Option Char)
  deriving DecidableEq

/-- `whitespace` of `shlex`. -/
def isShellSpace (c : Char) : Bool := c = ' ' || c = '\t' || c = '\r' || c = '\n'

/-- `quotes` of `shlex`. -/
def isQuote (c : Char) : Bool := c = '\'' || c = '"'

/-- The words of a command, `token` being what has been read of one in reverse, with whether it was
quoted; there are none where a quotation or an escape is not finished. -/
def shlexWords : LexState → List Char → Bool → List Char → Option (List String)
  | .blank, token, wasQuoted, [] | .word, token, wasQuoted, [] =>
      some (if token ≠ [] ∨ wasQuoted then [String.ofList token.reverse] else [])
  | .quoted _, _, _, [] | .escaped _, _, _, [] => none
  | .blank, token, wasQuoted, c :: rest | .word, token, wasQuoted, c :: rest =>
      if isShellSpace c then
        if token ≠ [] ∨ wasQuoted then
          (shlexWords .blank [] false rest).map (String.ofList token.reverse :: ·)
        else shlexWords .blank [] false rest
      else if c = '\\' then shlexWords (.escaped none) token wasQuoted rest
      else if isQuote c then shlexWords (.quoted c) token wasQuoted rest
      else shlexWords .word (c :: token) wasQuoted rest
  | .quoted quote, token, _, c :: rest =>
      if c = quote then shlexWords .word token true rest
      else if c = '\\' ∧ quote = '"' then shlexWords (.escaped (some quote)) token true rest
      else shlexWords (.quoted quote) (c :: token) true rest
  | .escaped none, token, wasQuoted, c :: rest => shlexWords .word (c :: token) wasQuoted rest
  | .escaped (some quote), token, wasQuoted, c :: rest =>
      -- in quotes only these two are escaped, and the backslash stays before another
      if c ≠ '\\' ∧ c ≠ quote then shlexWords (.quoted quote) (c :: '\\' :: token) wasQuoted rest
      else shlexWords (.quoted quote) (c :: token) wasQuoted rest

/-- `s.split()`, with what has been read of a word in reverse. -/
def spacedWords : List Char → List Char → List String
  | [], [] => []
  | token, [] => [String.ofList token.reverse]
  | token, c :: rest =>
      if isSpace c then
        if token = [] then spacedWords [] rest
        else String.ofList token.reverse :: spacedWords [] rest
      else spacedWords (c :: token) rest

/-- The words of a command that is a text: those of `shlex.split`, or else of `split`. -/
def commandWords (command : String) : List String :=
  (shlexWords .blank [] false (strip command).toList).getD
    (spacedWords [] (strip command).toList)

/-! ## Aliases -/

/-- A key of the schema, and the names that are taken for it where it is required. -/
structure AliasRule where
  canonical : String
  aliases : List String
  deriving DecidableEq

def aliasRules : List AliasRule :=
  [⟨"message", ["text"]⟩,
    ⟨"path", ["filepath", "file_path", "target_file", "filename"]⟩,
    ⟨"content", ["text", "data", "code", "file_content", "body"]⟩,
    ⟨"objective", ["task", "goal", "description"]⟩,
    ⟨"query", ["pattern", "search_term", "keyword"]⟩]

/-- `normalized[canonical] = normalized.pop(alias)`. -/
def rename (args : Dict) (canonical other : String) : Dict :=
  match args.get other with
  | some value => (args.pop other).put canonical value
  | none => args

/-- What a rule does: the first of the aliases that is there is taken. -/
def AliasRule.apply (required : List String) (args : Dict) (rule : AliasRule) : Dict :=
  if (args.get rule.canonical).isNone ∧ rule.canonical ∈ required then
    match rule.aliases.find? fun other => (args.get other).isSome with
    | some other => rename args rule.canonical other
    | none => args
  else args

def maxArguments : Nat := 128

def commandValue : Json → Json
  | .str command =>
      if strip command = "" then .str command
      else .arr (((commandWords command).map Json.str).take maxArguments)
  | .arr items => .arr (items.take maxArguments)
  | value => value

/-- The command is a text with words, or has too many arguments. -/
def rewritten : Json → Bool
  | .str command => strip command ≠ ""
  | .arr items => maxArguments < items.length
  | _ => false

/-- `cmd` is the command where there is none. -/
def takeCmd (args : Dict) : Dict :=
  if (args.get "command").isNone ∧ (args.get "cmd").isSome then rename args "command" "cmd"
  else args

/-- A command becomes a list of no more than 128 arguments. -/
def rewriteCommand (args : Dict) : Dict :=
  match args.get "command" with
  | some command =>
      if rewritten command then args.put "command" (commandValue command) else args
  | none => args

def commandRule (args : Dict) : Dict := rewriteCommand (takeCmd args)

/-- A tool's input schema, with the keys that it requires. -/
structure InputSchema where
  schema : Dict
  required : List String
  reads : schema.get "required" = some (.arr (required.map .str))
    ∨ schema.get "required" = none ∧ required = []

/-- `normalize_syscall_args`. -/
def normalizeSyscallArgs (args : Dict) (inputSchema : InputSchema) : Dict :=
  commandRule (aliasRules.foldl (AliasRule.apply inputSchema.required) args)

/-! ## Planning -/

/-- `ToolSpec`, as far as the planner reads it. -/
structure ToolSpec where
  name : String
  inputSchema : InputSchema

/-- `ModelSyscall`. -/
structure ModelSyscall where
  tool : String
  permission : String
  args : Dict
  message : String
  confidence : Rat
  reason : String
  usedMemoryIds : List String
  usedEvidenceIds : List String

section

variable (texts : Schema.SchemaTexts)

/-- `json_schema_errors(args, input_schema)`. -/
def argumentErrors (args : Dict) (inputSchema : InputSchema) : List String :=
  Schema.jsonSchemaErrors texts (.obj args) (.obj inputSchema.schema) "$"

/-- A round of the loop of `plan`. -/
def planSyscall (tools : List ToolSpec) (syscall : ModelSyscall) : Except String ModelSyscall :=
  match tools.find? fun spec => spec.name = syscall.tool with
  | none => .ok syscall
  | some spec => do
      let args := normalizeSyscallArgs syscall.args spec.inputSchema
      require (syscall.permission ∈ ["read", "network", "prepare", "write"])
        ("planner selected an unknown permission: " ++ syscall.permission)
      require (argumentErrors texts args spec.inputSchema = [])
        ("planner capability arguments schema mismatch: "
          ++ "; ".intercalate ((argumentErrors texts args spec.inputSchema).take 5))
      return { syscall with args := args }

/-- `plan`, from the syscalls that the model's answer has. -/
def plan (tools : List ToolSpec) (syscalls : List ModelSyscall) :
    Except String (List ModelSyscall) := do
  require (syscalls.length = 1)
    ("planner_must_return_exactly_one_syscall: count=" ++ toString syscalls.length)
  syscalls.mapM (planSyscall texts tools)

end

end Navi.Syscalls
