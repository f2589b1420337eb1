import Navi.Syscalls.Normalize

/-!
# What the normalization keeps

A rule for aliases moves a value to a key that is required and not there, so it does nothing to
arguments that are valid, and nothing when it is done again. The rule for commands looks at no
schema: it is the one that changes what is valid, and that drops arguments.
-/

namespace Navi.Syscalls

open Navi.Base

/-! ## Rules for aliases -/

section

variable {required : List String} {args d : Dict} {rule other : AliasRule} {key : String}
  {v : Json} {rules : List AliasRule}

theorem apply_cases (required : List String) (d : Dict) (rule : AliasRule) :
    rule.apply required d = d
      ∨ ∃ other ∈ rule.aliases, ∃ v, d.get rule.canonical = none ∧ rule.canonical ∈ required
        ∧ d.get other = some v ∧ rule.apply required d = (d.pop other).put rule.canonical v := by
  unfold AliasRule.apply
  split
  next hfires =>
    split
    next other hfound =>
      obtain ⟨v, hv⟩ := Option.isSome_iff_exists.mp
        (List.find?_some (p := fun name => (d.get name).isSome) hfound)
      refine .inr ⟨other, List.mem_of_find?_eq_some hfound, v, ?_, hfires.2, hv, ?_⟩
      · exact Option.isNone_iff_eq_none.mp hfires.1
      · rw [rename, hv]
    next => exact .inl rfl
  next => exact .inl rfl

def Settled (required : List String) (rule : AliasRule) (d : Dict) : Prop :=
  rule.canonical ∈ required →
    (d.get rule.canonical).isSome = true ∨ ∀ name ∈ rule.aliases, d.get name = none

theorem Settled.apply_eq (h : Settled required rule d) : rule.apply required d = d := by
  rcases apply_cases required d rule with hsame | ⟨name, hname, v, hnone, hrequired, hv, -⟩
  · exact hsame
  · rcases h hrequired with hsome | hall
    · rw [hnone] at hsome
      cases hsome
    · rw [hall name hname] at hv
      cases hv

theorem settled_apply (required : List String) (d : Dict) (rule : AliasRule) :
    Settled required rule (rule.apply required d) := by
  intro hrequired
  rcases apply_cases required d rule with hsame | ⟨name, -, v, -, -, -, happly⟩
  · rw [hsame]
    by_contra hnot
    rw [not_or, not_forall] at hnot
    obtain ⟨habsent, name, hname⟩ := hnot
    rw [Classical.not_imp] at hname
    have hfires : (d.get rule.canonical).isNone ∧ rule.canonical ∈ required :=
      ⟨by simpa using habsent, hrequired⟩
    -- an alias that is there would have been moved
    have hfound : (rule.aliases.find? fun name => (d.get name).isSome).isSome = true :=
      List.find?_isSome.mpr ⟨name, hname.1, Option.isSome_iff_ne_none.mpr hname.2⟩
    obtain ⟨first, hfirst⟩ := Option.isSome_iff_exists.mp hfound
    obtain ⟨v, hv⟩ := Option.isSome_iff_exists.mp
      (List.find?_some (p := fun name => (d.get name).isSome) hfirst)
    have hmoved : (rule.apply required d).get rule.canonical = some v := by
      simp only [AliasRule.apply, if_pos hfires, hfirst, rename, hv]
      simp
    rw [hsame, Option.isNone_iff_eq_none.mp hfires.1] at hmoved
    cases hmoved
  · left
    rw [happly]
    simp

theorem Settled.apply (h : Settled required rule d) (hcanonical : rule.canonical ∉ other.aliases)
    (hother : other.canonical ∉ rule.aliases) :
    Settled required rule (other.apply required d) := by
  intro hrequired
  rcases apply_cases required d other with hsame | ⟨name, hname, v, -, -, -, happly⟩
  · rw [hsame]
    exact h hrequired
  · rw [happly]
    rcases h hrequired with hsome | hall
    · left
      have hne : name ≠ rule.canonical := fun heq => hcanonical (heq ▸ hname)
      rw [Dict.get_put, Dict.get_pop, if_neg hne]
      split
      next => rfl
      next => exact hsome
    · right
      intro key hkey
      have hne : other.canonical ≠ key := fun heq => hother (heq ▸ hkey)
      rw [Dict.get_put, Dict.get_pop, if_neg hne, hall key hkey, ite_self]

theorem aliasRules_apart : ∀ rule ∈ aliasRules,
    (∀ other ∈ aliasRules, rule.canonical ∉ other.aliases)
      ∧ (rule.canonical ≠ "command" ∧ "command" ∉ rule.aliases)
      ∧ rule.canonical ≠ "cmd" ∧ "cmd" ∉ rule.aliases := by
  decide

theorem settled_foldl (hrules : rules ⊆ aliasRules) (args : Dict) :
    ∀ rule ∈ rules, Settled required rule (rules.foldl (AliasRule.apply required) args) := by
  induction rules using List.reverseRecOn with
  | nil => exact fun _ hmem => absurd hmem List.not_mem_nil
  | append_singleton before last ih =>
      have hbefore : before ⊆ aliasRules := fun rule hmem =>
        hrules (List.mem_append_left _ hmem)
      have hlast : last ∈ aliasRules := hrules (List.mem_append_right _ List.mem_cons_self)
      intro rule hmem
      rw [List.foldl_append, List.foldl_cons, List.foldl_nil]
      rcases List.mem_append.mp hmem with hmem | hmem
      · exact (ih hbefore rule hmem).apply
          ((aliasRules_apart rule (hbefore hmem)).1 last hlast)
          ((aliasRules_apart last hlast).1 rule (hbefore hmem))
      · obtain rfl := List.mem_singleton.mp hmem
        exact settled_apply required _ rule

theorem foldl_of_settled (h : ∀ rule ∈ rules, Settled required rule d) :
    rules.foldl (AliasRule.apply required) d = d := by
  induction rules with
  | nil => rfl
  | cons rule rest ih =>
      rw [List.foldl_cons, (h rule List.mem_cons_self).apply_eq]
      exact ih fun other hother => h other (List.mem_cons_of_mem _ hother)

/-! ## Where a value is found -/

/-- A value of the arguments is under its own key, or under the key of a rule that has it as an
alias, which was required and not given. -/
def FoundIn (required : List String) (args : Dict) (rules : List AliasRule) (d : Dict)
    (key : String) (v : Json) : Prop :=
  d.get key = some v
    ∨ ∃ rule ∈ rules, key ∈ rule.aliases ∧ rule.canonical ∈ required
      ∧ args.get rule.canonical = none ∧ d.get rule.canonical = some v

theorem foundIn_apply (hrules : rules ⊆ aliasRules) (hlast : rule ∈ aliasRules)
    (h : ∀ key v, args.get key = some v → FoundIn required args rules d key v)
    (hv : args.get key = some v) :
    FoundIn required args (rules ++ [rule]) (rule.apply required d) key v := by
  have hmore : ∀ {d'}, FoundIn required args rules d' key v →
      FoundIn required args (rules ++ [rule]) d' key v := by
    rintro d' (hown | ⟨first, hfirst, hrest⟩)
    · exact .inl hown
    · exact .inr ⟨first, List.mem_append_left _ hfirst, hrest⟩
  rcases apply_cases required d rule with hsame | ⟨name, hname, w, hnone, hrequired, hw, happly⟩
  · rw [hsame]
    exact hmore (h key v hv)
  · -- the key that the rule gives a value had none before
    have hfree : args.get rule.canonical = none := by
      by_contra hgiven
      obtain ⟨u, hu⟩ := Option.ne_none_iff_exists'.mp hgiven
      rcases h rule.canonical u hu with hown | ⟨first, hfirst, halias, -⟩
      · rw [hnone] at hown
        cases hown
      · exact (aliasRules_apart rule hlast).1 first (hrules hfirst) halias
    have hkept : ∀ {k : String} {u : Json}, k ≠ name → d.get k = some u →
        (rule.apply required d).get k = some u := by
      intro k u hne hk
      have hne' : rule.canonical ≠ k := by
        rintro rfl
        rw [hnone] at hk
        cases hk
      rw [happly, Dict.get_put, if_neg hne', Dict.get_pop, if_neg hne.symm]
      exact hk
    rcases h key v hv with hown | ⟨first, hfirst, halias, hreq, habsent, hmoved⟩
    · by_cases heq : key = name
      · subst heq
        obtain rfl := Option.some.inj (hown.symm.trans hw)
        refine .inr ⟨rule, List.mem_append_right _ List.mem_cons_self, hname, hrequired, hfree, ?_⟩
        rw [happly]
        simp
      · exact .inl (hkept heq hown)
    · have hne : first.canonical ≠ name := fun heq =>
        (aliasRules_apart first (hrules hfirst)).1 rule hlast (heq ▸ hname)
      exact hmore (.inr ⟨first, hfirst, halias, hreq, habsent, hkept hne hmoved⟩)

theorem foundIn_foldl (hrules : rules ⊆ aliasRules) :
    ∀ key v, args.get key = some v →
      FoundIn required args rules (rules.foldl (AliasRule.apply required) args) key v := by
  induction rules using List.reverseRecOn with
  | nil => exact fun key v hv => .inl hv
  | append_singleton before last ih =>
      have hbefore : before ⊆ aliasRules := fun rule hmem =>
        hrules (List.mem_append_left _ hmem)
      intro key v hv
      rw [List.foldl_append, List.foldl_cons, List.foldl_nil]
      exact foundIn_apply hbefore (hrules (List.mem_append_right _ List.mem_cons_self))
        (ih hbefore) hv

theorem get_foldl_of_unnamed (hcanonical : ∀ rule ∈ rules, rule.canonical ≠ key)
    (haliases : ∀ rule ∈ rules, key ∉ rule.aliases) (args : Dict) :
    (rules.foldl (AliasRule.apply required) args).get key = args.get key := by
  induction rules generalizing args with
  | nil => rfl
  | cons rule rest ih =>
      rw [List.foldl_cons, ih (fun other hother => hcanonical other (List.mem_cons_of_mem _ hother))
        fun other hother => haliases other (List.mem_cons_of_mem _ hother)]
      rcases apply_cases required args rule with hsame | ⟨name, hname, v, -, -, -, happly⟩
      · rw [hsame]
      · have hne : name ≠ key := fun heq => haliases rule List.mem_cons_self (heq ▸ hname)
        rw [happly, Dict.get_put, if_neg (hcanonical rule List.mem_cons_self), Dict.get_pop,
          if_neg hne]

/-! ## The command -/

/-- The command, under its key or under `cmd` where that is not there. -/
def givenCommand (args : Dict) : Option Json := (args.get "command").or (args.get "cmd")

/-- The arguments name their command `cmd`, or it becomes another value. -/
def rewritesCommand (args : Dict) : Bool :=
  (args.get "command").isNone && (args.get "cmd").isSome || (args.get "command").any rewritten

theorem commandValue_of_not (h : rewritten v = false) : commandValue v = v := by
  cases v with
  | str command =>
      have hblank : strip command = "" := by simpa [rewritten] using h
      rw [commandValue, if_pos hblank]
  | arr items =>
      have hshort : items.length ≤ maxArguments := by simpa [rewritten] using h
      rw [commandValue, List.take_of_length_le hshort]
  | _ => rfl

theorem rewritten_commandValue (v : Json) : rewritten (commandValue v) = false := by
  cases v with
  | str command =>
      rw [commandValue]
      by_cases hblank : strip command = ""
      · simp [rewritten, hblank]
      · simp [rewritten, hblank, List.length_take]
  | arr items => simp [rewritten, commandValue, List.length_take]
  | _ => rfl

theorem commandValue_ne (h : rewritten v = true) : commandValue v ≠ v := by
  intro heq
  have hnot := rewritten_commandValue v
  rw [heq, h] at hnot
  cases hnot

theorem get_command_rewriteCommand (d : Dict) :
    (rewriteCommand d).get "command" = (d.get "command").map commandValue := by
  unfold rewriteCommand
  cases hcommand : d.get "command" with
  | none => exact hcommand
  | some command =>
      dsimp only
      split
      next => simp
      next hnot => rw [hcommand, Option.map_some, commandValue_of_not (by simpa using hnot)]

theorem get_rewriteCommand (d : Dict) (hkey : key ≠ "command") :
    (rewriteCommand d).get key = d.get key := by
  unfold rewriteCommand
  split
  next =>
    split
    next => rw [Dict.get_put, if_neg hkey.symm]
    next => rfl
  next => rfl

theorem get_command_takeCmd (d : Dict) : (takeCmd d).get "command" = givenCommand d := by
  unfold takeCmd givenCommand
  split
  next hcmd =>
    obtain ⟨v, hv⟩ := Option.isSome_iff_exists.mp hcmd.2
    rw [Option.isNone_iff_eq_none.mp hcmd.1, Option.none_or, rename, hv]
    simp
  next hcmd =>
    cases hcommand : d.get "command" with
    | some command => rfl
    | none =>
        have hnone : d.get "cmd" = none := by
          rw [hcommand] at hcmd
          simpa using hcmd
        rw [hnone]
        rfl

theorem get_takeCmd (d : Dict) (hkey : key ≠ "command")
    (hcmd : key = "cmd" → (d.get "command").isSome = true) : (takeCmd d).get key = d.get key := by
  unfold takeCmd
  split
  next htaken =>
    obtain ⟨v, hv⟩ := Option.isSome_iff_exists.mp htaken.2
    have hne : "cmd" ≠ key := by
      rintro rfl
      have hsome := hcmd rfl
      rw [Option.isNone_iff_eq_none.mp htaken.1] at hsome
      cases hsome
    simp only [rename, hv, Dict.get_put, Dict.get_pop, if_neg hkey.symm, if_neg hne]
  next => rfl

theorem get_command_commandRule (d : Dict) :
    (commandRule d).get "command" = (givenCommand d).map commandValue := by
  rw [commandRule, get_command_rewriteCommand, get_command_takeCmd]

theorem get_commandRule (d : Dict) (hkey : key ≠ "command")
    (hcmd : key = "cmd" → (d.get "command").isSome = true) :
    (commandRule d).get key = d.get key := by
  rw [commandRule, get_rewriteCommand _ hkey, get_takeCmd d hkey hcmd]

theorem commandRule_of_not (h : rewritesCommand d = false) : commandRule d = d := by
  obtain ⟨hcmd, hcommand⟩ := Bool.or_eq_false_iff.mp h
  unfold commandRule takeCmd
  have hnot : ¬ ((d.get "command").isNone ∧ (d.get "cmd").isSome) := by
    rintro ⟨hnone, hsome⟩
    rw [hnone, hsome] at hcmd
    cases hcmd
  rw [if_neg hnot, rewriteCommand]
  cases hget : d.get "command" with
  | none => rfl
  | some command =>
      rw [hget, Option.any_some] at hcommand
      dsimp only
      rw [hcommand]
      rfl

theorem rewritesCommand_commandRule (d : Dict) : rewritesCommand (commandRule d) = false := by
  unfold rewritesCommand
  rw [get_command_commandRule, Bool.or_eq_false_iff]
  constructor
  · cases hgiven : givenCommand d with
    | some command => rfl
    | none =>
        -- without a command there was no `cmd` either
        obtain ⟨hcommand, hcmd⟩ := Option.or_eq_none_iff.mp hgiven
        have hsame : commandRule d = d :=
          commandRule_of_not (by rw [rewritesCommand, hcommand, hcmd]; rfl)
        rw [hsame, hcmd]
        rfl
  · cases givenCommand d with
    | none => rfl
    | some command => exact rewritten_commandValue command

theorem commandRule_ne (h : rewritesCommand d = true) :
    (commandRule d).get "command" ≠ d.get "command" := by
  rw [get_command_commandRule]
  intro heq
  rcases Bool.or_eq_true_iff.mp h with hcmd | hcommand
  · obtain ⟨hnone, hsome⟩ := Bool.and_eq_true_iff.mp hcmd
    obtain ⟨v, hv⟩ := Option.isSome_iff_exists.mp hsome
    rw [givenCommand, Option.isNone_iff_eq_none.mp hnone, hv] at heq
    cases heq
  · obtain ⟨command, hget, hrewritten⟩ := (Option.any_eq_true _ _).mp hcommand
    rw [givenCommand, hget, Option.some_or, Option.map_some] at heq
    exact commandValue_ne hrewritten (Option.some.inj heq)

end

/-! ## The normalization -/

section

variable (texts : Schema.SchemaTexts) (inputSchema : InputSchema) (args : Dict)

/-- The arguments are valid against the schema. -/
def Valid : Prop := argumentErrors texts args inputSchema = []

/-- What the normalization keeps of the arguments. -/
structure Conserves : Prop where
  /-- Valid arguments are left as they are, but for a command that is rewritten. -/
  unchanged : Valid texts inputSchema args → rewritesCommand args = false →
    normalizeSyscallArgs args inputSchema = args
  changed : rewritesCommand args = true →
    ∃ key, (normalizeSyscallArgs args inputSchema).get key ≠ args.get key
  /-- A call with such arguments is planned as it was given. -/
  planned : Valid texts inputSchema args → rewritesCommand args = false →
    ∀ tools spec syscall, tools.find? (fun spec => spec.name = syscall.tool) = some spec →
    spec.inputSchema = inputSchema → syscall.args = args →
    syscall.permission ∈ ["read", "network", "prepare", "write"] →
    plan texts tools [syscall] = .ok [syscall]
  idempotent : normalizeSyscallArgs (normalizeSyscallArgs args inputSchema) inputSchema
    = normalizeSyscallArgs args inputSchema
  /-- Every value but that of the command is found again. -/
  kept : ∀ key v, args.get key = some v → key ≠ "command" →
    (key = "cmd" → (args.get "command").isSome = true) →
    FoundIn inputSchema.required args aliasRules (normalizeSyscallArgs args inputSchema) key v
  /-- The command is the one that was given, as a list of at most 128 arguments. -/
  command : (normalizeSyscallArgs args inputSchema).get "command"
    = (givenCommand args).map commandValue
  allArguments : ∀ items, givenCommand args = some (.arr items) →
    items.length ≤ maxArguments →
    (normalizeSyscallArgs args inputSchema).get "command" = some (.arr items)

end

section

variable {texts : Schema.SchemaTexts} {inputSchema : InputSchema} {args : Dict}

theorem settled_of_valid (h : Valid texts inputSchema args) (rule : AliasRule) :
    Settled inputSchema.required rule args := by
  intro hrequired
  rcases inputSchema.reads with hreads | ⟨-, hnone⟩
  · exact .inl (Schema.isSome_of_required h hreads (List.mem_map.mpr ⟨_, hrequired, rfl⟩))
  · rw [hnone] at hrequired
    cases hrequired

theorem givenCommand_foldl (required : List String) (args : Dict) :
    givenCommand (aliasRules.foldl (AliasRule.apply required) args) = givenCommand args := by
  rw [givenCommand, givenCommand,
    get_foldl_of_unnamed (fun rule hrule => (aliasRules_apart rule hrule).2.1.1)
      (fun rule hrule => (aliasRules_apart rule hrule).2.1.2),
    get_foldl_of_unnamed (fun rule hrule => (aliasRules_apart rule hrule).2.2.1)
      (fun rule hrule => (aliasRules_apart rule hrule).2.2.2)]

theorem Settled.commandRule {required : List String} {rule : AliasRule} {d : Dict}
    (h : Settled required rule d) (hrule : rule ∈ aliasRules) :
    Settled required rule (commandRule d) := by
  obtain ⟨-, ⟨hcommand, hcommandAlias⟩, hcmd, hcmdAlias⟩ := aliasRules_apart rule hrule
  intro hrequired
  rcases h hrequired with hsome | hall
  · left
    rwa [get_commandRule d hcommand fun heq => absurd heq hcmd]
  · right
    intro name hname
    have hne : name ≠ "command" := fun heq => hcommandAlias (heq ▸ hname)
    have hne' : name ≠ "cmd" := fun heq => hcmdAlias (heq ▸ hname)
    rw [get_commandRule d hne fun heq => absurd heq hne']
    exact hall name hname

theorem normalize_of_valid (h : Valid texts inputSchema args) :
    normalizeSyscallArgs args inputSchema = commandRule args := by
  rw [normalizeSyscallArgs, foldl_of_settled fun rule _ => settled_of_valid h rule]

theorem normalize_idempotent (args : Dict) (inputSchema : InputSchema) :
    normalizeSyscallArgs (normalizeSyscallArgs args inputSchema) inputSchema
      = normalizeSyscallArgs args inputSchema := by
  have hsettled : ∀ rule ∈ aliasRules,
      Settled inputSchema.required rule (normalizeSyscallArgs args inputSchema) :=
    fun rule hrule => (settled_foldl (List.Subset.refl _) args rule hrule).commandRule hrule
  rw [normalizeSyscallArgs, foldl_of_settled hsettled]
  exact commandRule_of_not (rewritesCommand_commandRule _)

theorem normalize_command (args : Dict) (inputSchema : InputSchema) :
    (normalizeSyscallArgs args inputSchema).get "command"
      = (givenCommand args).map commandValue := by
  rw [normalizeSyscallArgs, get_command_commandRule, givenCommand_foldl]

theorem normalize_ne (h : rewritesCommand args = true) :
    ∃ key, (normalizeSyscallArgs args inputSchema).get key ≠ args.get key := by
  refine ⟨"command", ?_⟩
  rw [normalize_command, ← get_command_commandRule]
  exact commandRule_ne h

theorem normalize_kept {key : String} {v : Json} (hv : args.get key = some v)
    (hkey : key ≠ "command") (hcmd : key = "cmd" → (args.get "command").isSome = true) :
    FoundIn inputSchema.required args aliasRules (normalizeSyscallArgs args inputSchema) key v := by
  have hsome : key = "cmd" →
      ((aliasRules.foldl (AliasRule.apply inputSchema.required) args).get "command").isSome
        = true := by
    intro heq
    rw [get_foldl_of_unnamed (fun rule hrule => (aliasRules_apart rule hrule).2.1.1)
      (fun rule hrule => (aliasRules_apart rule hrule).2.1.2)]
    exact hcmd heq
  rcases foundIn_foldl (List.Subset.refl aliasRules) key v hv with hown
    | ⟨rule, hrule, halias, hrequired, habsent, hmoved⟩
  · left
    rw [normalizeSyscallArgs, get_commandRule _ hkey hsome]
    exact hown
  · obtain ⟨-, ⟨hcommand, -⟩, hne, -⟩ := aliasRules_apart rule hrule
    refine .inr ⟨rule, hrule, halias, hrequired, habsent, ?_⟩
    rw [normalizeSyscallArgs, get_commandRule _ hcommand fun heq => absurd heq hne]
    exact hmoved

theorem plan_of_unchanged {tools : List ToolSpec} {spec : ToolSpec} {syscall : ModelSyscall}
    (hspec : tools.find? (fun spec => spec.name = syscall.tool) = some spec)
    (hvalid : Valid texts spec.inputSchema syscall.args)
    (hsame : normalizeSyscallArgs syscall.args spec.inputSchema = syscall.args)
    (hpermission : syscall.permission ∈ ["read", "network", "prepare", "write"]) :
    plan texts tools [syscall] = .ok [syscall] := by
  have herrors : argumentErrors texts syscall.args spec.inputSchema = [] := hvalid
  have hround : planSyscall texts tools syscall = .ok syscall := by
    unfold planSyscall
    rw [hspec]
    dsimp only
    rw [hsame, bind_of_eq_ok (a := ()) (require_eq_ok.mpr hpermission),
      bind_of_eq_ok (a := ()) (require_eq_ok.mpr herrors)]
    rfl
  unfold plan
  rw [bind_of_eq_ok (a := ()) (require_eq_ok.mpr List.length_singleton), List.mapM_cons, hround]
  rfl

/-- **The normalization is conservative, but for commands.** Valid arguments are left as they are,
and the call planned as it was given, exactly where they do not name their command `cmd` and it is
neither a text with words nor a list of more than 128 arguments. For all arguments it is
idempotent, every value but the command is found under its key or that of the rule it is an alias
of, and the command is the one given, as a list of at most 128 arguments. -/
theorem normalize_conserves (texts : Schema.SchemaTexts) (inputSchema : InputSchema)
    (args : Dict) : Conserves texts inputSchema args where
  unchanged hvalid hnot := (normalize_of_valid hvalid).trans (commandRule_of_not hnot)
  changed := normalize_ne
  planned := by
    rintro hvalid hnot tools spec syscall hspec rfl rfl hpermission
    exact plan_of_unchanged hspec hvalid
      ((normalize_of_valid hvalid).trans (commandRule_of_not hnot)) hpermission
  idempotent := normalize_idempotent args inputSchema
  kept _ _ hv hkey hcmd := normalize_kept hv hkey hcmd
  command := normalize_command args inputSchema
  allArguments items hgiven hshort := by
    rw [normalize_command, hgiven, Option.map_some, commandValue, List.take_of_length_le hshort]

end

/-! ## Commands that are valid as they were given -/

/-- Texts that no schema below needs. -/
def plainSchemaTexts : Schema.SchemaTexts where
  repr _ := ""
  search _ _ := false
  floats := Json.fractionText

/-- A schema that requires one argument. -/
def oneArgument (key : String) (declared : Dict) : InputSchema where
  schema := [("type", .str "object"), ("properties", .obj [(key, .obj declared)]),
    ("required", .arr [.str key]), ("additionalProperties", .bool false)]
  required := [key]
  reads := .inl rfl

/-- A call of a tool with one argument. -/
def callOf (key : String) (value : Json) : ModelSyscall where
  tool := "tool"
  permission := "read"
  args := [(key, value)]
  message := ""
  confidence := 0
  reason := ""
  usedMemoryIds := []
  usedEvidenceIds := []

/-- A command that is declared as a text, and an argument that is declared as `cmd`, are valid, and
the call is refused; of 129 arguments, which are valid too, the last is dropped. -/
theorem validCommand_changed :
    Valid plainSchemaTexts (oneArgument "command" [("type", .str "string")])
        [("command", .str "ls -l")]
      ∧ (plan plainSchemaTexts [⟨"tool", oneArgument "command" [("type", .str "string")]⟩]
          [callOf "command" (.str "ls -l")]).toOption.isNone = true
      ∧ Valid plainSchemaTexts (oneArgument "cmd" [("type", .str "string")])
        [("cmd", .str "ls -l")]
      ∧ (plan plainSchemaTexts [⟨"tool", oneArgument "cmd" [("type", .str "string")]⟩]
          [callOf "cmd" (.str "ls -l")]).toOption.isNone = true
      ∧ Valid plainSchemaTexts (oneArgument "command" [("type", .str "array")])
        [("command", .arr (List.replicate 129 (.str "x")))]
      ∧ normalizeSyscallArgs [("command", .arr (List.replicate 129 (.str "x")))]
          (oneArgument "command" [("type", .str "array")])
        = [("command", .arr (List.replicate 128 (.str "x")))] := by
  unfold Valid
  decide +kernel

end Navi.Syscalls
