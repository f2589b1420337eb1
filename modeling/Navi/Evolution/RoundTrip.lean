import Navi.Evolution.Engine

/-!
# When the adapters restore and recognise their targets

For each adapter what its rollback makes of the state that was recorded, and what is read
after a candidate was applied; from these, when a rollback is exact and when an apply is
recognised.
-/

namespace Navi.Evolution

open Navi.Base Navi.Base.Json Navi.Memory

section

variable {env : TargetRuntime} {home home' : Home} {targetId candidate : String}
  {started applied later : Time}

/-! ## Text files -/

theorem return_not_mem_universalNewlines (text : List Char) : '\r' ∉ universalNewlines text := by
  fun_induction universalNewlines text with
  | case1 => exact List.not_mem_nil
  | case2 rest ih => exact List.not_mem_cons_of_ne_of_not_mem (by decide) ih
  | case3 rest _ ih => exact List.not_mem_cons_of_ne_of_not_mem (by decide) ih
  | case4 c rest _ hc ih => exact List.not_mem_cons_of_ne_of_not_mem (Ne.symm hc) ih

theorem universalNewlines_of_plain {text : List Char} (h : '\r' ∉ text) :
    universalNewlines text = text := by
  fun_induction universalNewlines text with
  | case1 => rfl
  | case2 rest ih => exact absurd List.mem_cons_self h
  | case3 rest _ ih => exact absurd List.mem_cons_self h
  | case4 c rest _ _ ih => rw [ih fun hmem => h (List.mem_cons_of_mem c hmem)]

theorem readFileText_some_iff (raw : String) : readFileText (some raw) = raw ↔ Plain raw := by
  unfold readFileText Plain
  constructor
  · intro h
    rw [← h, Option.elim_some, String.toList_ofList]
    exact return_not_mem_universalNewlines raw.toList
  · intro h
    rw [Option.elim_some, universalNewlines_of_plain h, String.ofList_toList]

theorem readFileText_some_eq_empty_iff (raw : String) :
    readFileText (some raw) = "" ↔ raw = "" := by
  constructor
  · intro h
    have hnil : universalNewlines raw.toList = [] := by
      have hlist := congrArg String.toList h
      rwa [readFileText, Option.elim_some, String.toList_ofList] at hlist
    rw [← String.toList_eq_nil_iff]
    cases hraw : raw.toList with
    | nil => rfl
    | cons c rest =>
        rw [hraw] at hnil
        unfold universalNewlines at hnil
        split at hnil <;> simp_all
  · rintro rfl
    rfl

theorem restoreFile_eq_iff (files files' : Files) (name : String) :
    Skill.restoreFile files' name (readFileText (files name)) name = files name
      ↔ ∀ raw ∈ files name, raw ≠ "" ∧ Plain raw := by
  unfold Skill.restoreFile
  cases hfile : files name with
  | none => simp [readFileText, unlink]
  | some raw =>
      simp only [Option.mem_def, Option.some.injEq, forall_eq']
      by_cases hempty : raw = ""
      · subst hempty
        rw [if_pos ((readFileText_some_eq_empty_iff "").mpr rfl)]
        simp [unlink]
      · rw [if_neg (mt (readFileText_some_eq_empty_iff raw).mp hempty), ← readFileText_some_iff]
        simp [writeText, hempty]

/-! ## JSON texts -/

theorem jsonObject_dumpJson {d : Dict} (h : (Json.obj d).distinct = true) (targetType : String) :
    ∃ e, jsonObject env (dumpJson env d) targetType = .ok e ∧ Same (.obj e) (.obj d) := by
  have hloads := env.loads_dumps (.obj d) h
  rw [sortKeys_obj] at hloads
  refine ⟨sortByKey (sortEntries d), ?_, ?_⟩
  · unfold jsonObject dumpJson
    rw [hloads]
  · unfold Same
    rw [← sortKeys_obj, sortKeys_sortKeys]

theorem jsonObject_distinct {text targetType : String} {d : Dict}
    (h : jsonObject env text targetType = .ok d) : (Json.obj d).distinct = true := by
  unfold jsonObject at h
  split at h
  · cases h
  next hloads =>
    obtain rfl := Except.ok.inj h
    exact env.loads_distinct _ _ hloads
  · cases h

theorem dumpJson_eq_iff {d e : Dict} :
    dumpJson env d = dumpJson env e ↔ Same (.obj d) (.obj e) :=
  dumps_eq_iff

theorem dumpJson_ne_empty (d : Dict) : dumpJson env d ≠ "" := by
  intro h
  have hchars := congrArg String.toList h
  rw [dumpJson, dumps, String.toList_ofList, sortKeys_obj] at hchars
  cases hsorted : sortByKey (sortEntries d) with
  | nil =>
      rw [hsorted] at hchars
      simp [render] at hchars
  | cons entry rest =>
      rw [hsorted] at hchars
      simp [render] at hchars

theorem get_of_same {d e : Dict} (h : Same (.obj e) (.obj d)) {key : String} {w : Json}
    (hw : d.get key = some w) (hscalar : w.scalar = true) : e.get key = some w := by
  obtain ⟨v, hv, hsame⟩ := h.get hw
  rw [hv, hsame.eq_of_scalar hscalar]

theorem flag_of_get {d : Dict} {key : String} {w : Json} (h : d.get key = some w) :
    d.flag key = w.truthy := by
  simp [Dict.flag, h]

theorem textOr_of_get {d : Dict} {key default s : String} (h : d.get key = some (.str s)) :
    textOr env d key default = if s = "" then default else s := by
  unfold textOr
  rw [flag_of_get h, h]
  by_cases hs : s = ""
  · simp [truthy, hs]
  · simp [truthy, hs, env.str_str]

/-! ## Prompt layers, skills and evaluation cases -/

theorem snapshotData_distinct (file : Option String) :
    (Json.obj (PromptLayer.snapshotData file)).distinct = true := by
  simp [PromptLayer.snapshotData, distinct, distinctEntries]

theorem rollbackSnapshot_snapshotData (file : Option String)
    (hname : PromptLayer.overridePath env targetId = .ok targetId) :
    ∃ home', PromptLayer.rollbackSnapshot env home targetId
        (dumpJson env (PromptLayer.snapshotData file)) = .ok home'
      ∧ home'.overrides targetId = file.map fun raw => readFileText (some raw) := by
  obtain ⟨e, he, hsame⟩ := @jsonObject_dumpJson env _ (snapshotData_distinct file)
    "prompt_layer snapshot"
  have hformat : e.get "format" = some (.str "prompt_layer_snapshot_v1") :=
    get_of_same hsame (by simp [PromptLayer.snapshotData]) rfl
  have hexists : e.get "override_exists" = some (.bool file.isSome) :=
    get_of_same hsame (by simp [PromptLayer.snapshotData]) rfl
  have hcontent : e.get "override_content" = some (.str (readFileText file)) :=
    get_of_same hsame (by simp [PromptLayer.snapshotData]) rfl
  unfold PromptLayer.rollbackSnapshot
  rw [bind_of_eq_ok he, bind_of_eq_ok (@require_eq_ok _ _ _ _ ()|>.mpr hformat),
    bind_of_eq_ok hname, flag_of_get hexists, textOr_of_get hcontent]
  cases file with
  | none => exact ⟨_, rfl, by simp [unlink]⟩
  | some raw =>
      refine ⟨_, rfl, ?_⟩
      by_cases hempty : readFileText (some raw) = ""
      · simp [writeText, hempty]
      · simp [writeText, hempty]

theorem overridePath_ok {name : String} (h : PromptLayer.overridePath env targetId = .ok name) :
    name = targetId := by
  unfold PromptLayer.overridePath at h
  obtain ⟨-, -, h⟩ := bind_eq_ok.mp h
  exact (pure_eq_ok.mp h).symm

theorem overridePath_of_validate (h : PromptLayer.validate env targetId candidate = .ok ()) :
    PromptLayer.overridePath env targetId = .ok targetId := by
  unfold PromptLayer.validate at h
  obtain ⟨name, hname, -⟩ := bind_eq_ok.mp h
  rw [hname, overridePath_ok hname]

theorem promptLayer_apply (h : PromptLayer.validate env targetId candidate = .ok ()) :
    PromptLayer.apply env home targetId candidate
      = .ok { home with overrides := writeText home.overrides targetId candidate } := by
  unfold PromptLayer.apply
  rw [bind_of_eq_ok h, bind_of_eq_ok (overridePath_of_validate h)]
  rfl

theorem promptLayer_read (h : PromptLayer.validate env targetId candidate = .ok ())
    (home : Home) : PromptLayer.read env home targetId
      = .ok ((home.overrides targetId).elim ((env.promptLayers targetId).getD "")
        fun raw => readFileText (some raw)) := by
  unfold PromptLayer.read
  rw [bind_of_eq_ok (overridePath_of_validate h)]
  cases home.overrides targetId <;> rfl

theorem promptLayer_rollsBack_iff (h : PromptLayer.validate env targetId candidate = .ok ()) :
    RollsBack env .promptLayer home targetId candidate started applied later
      ↔ Restorable env home targetId .promptLayer := by
  have hname := overridePath_of_validate h
  have hstate : rollbackState env home started targetId .promptLayer
      = .ok (home, dumpJson env (PromptLayer.snapshotData (home.overrides targetId))) := by
    unfold rollbackState PromptLayer.snapshot
    rw [bind_of_eq_ok (promptLayer_read h home), bind_of_eq_ok hname]
    rfl
  obtain ⟨home₂, hrolled, hoverride⟩ := @rollbackSnapshot_snapshotData env
    (attempt env home applied targetId candidate .promptLayer) targetId
    (home.overrides targetId) hname
  have hiff : (home.overrides targetId).map (fun raw => readFileText (some raw))
      = home.overrides targetId ↔ ∀ raw ∈ home.overrides targetId, Plain raw := by
    cases home.overrides targetId with
    | none => simp
    | some raw => simp [readFileText_some_iff]
  simp only [Restorable]
  rw [← hiff, ← hoverride]
  constructor
  · rintro ⟨home₁, recorded, home₃, hrecorded, hrollback, hsame⟩
    obtain ⟨rfl, rfl⟩ := Prod.mk.inj (Except.ok.inj (hstate.symm.trans hrecorded))
    obtain rfl := Except.ok.inj (hrolled.symm.trans hrollback)
    exact hsame
  · exact fun hsame => ⟨home, _, home₂, hstate, hrolled, hsame⟩

theorem reconcileApplying_applied_iff {current before after : String} :
    reconcileApplying current before after true = .applied ↔ current = after := by
  unfold reconcileApplying
  constructor
  · intro h
    split at h
    next hboth => exact hboth.1
    next =>
      split at h
      · cases h
      · cases h
  · intro h
    rw [if_pos ⟨h, rfl⟩]

theorem recognised_iff {adapter : Adapter} {home₁ home₂ home₃ : Home} {before current : String}
    (hbefore : adapter.read env home started targetId = .ok (home₁, before))
    (happly : adapter.apply env home₁ applied targetId candidate = .ok home₂)
    (hread : adapter.read env home₂ later targetId = .ok (home₃, current)) :
    Recognised env adapter home targetId candidate started applied later
      ↔ current = candidate := by
  constructor
  · rintro ⟨home₁', before', home₂', home₃', current', hbefore', happly', hread', hreconcile⟩
    obtain ⟨rfl, rfl⟩ := Prod.mk.inj (Except.ok.inj (hbefore.symm.trans hbefore'))
    obtain rfl := Except.ok.inj (happly.symm.trans happly')
    obtain ⟨rfl, rfl⟩ := Prod.mk.inj (Except.ok.inj (hread.symm.trans hread'))
    exact reconcileApplying_applied_iff.mp hreconcile
  · intro hcurrent
    exact ⟨home₁, before, home₂, home₃, current, hbefore, happly, hread,
      reconcileApplying_applied_iff.mpr hcurrent⟩

theorem promptLayer_recognised_iff (h : PromptLayer.validate env targetId candidate = .ok ()) :
    Recognised env .promptLayer home targetId candidate started applied later
      ↔ Plain candidate := by
  have hbefore : Adapter.read env home started targetId .promptLayer = .ok (home, _) :=
    congrArg (Except.map (home, ·)) (promptLayer_read h home)
  have hread : Adapter.read env
      { home with overrides := writeText home.overrides targetId candidate } later targetId
        .promptLayer
      = .ok ({ home with overrides := writeText home.overrides targetId candidate },
        readFileText (some candidate)) := by
    unfold Adapter.read
    rw [promptLayer_read h]
    simp [writeText, Except.map]
  rw [recognised_iff hbefore (promptLayer_apply h) hread, readFileText_some_iff]

theorem safeName_of_skill_validate (h : Skill.validate env targetId candidate = .ok ()) :
    ∃ name, safeName targetId = .ok name := by
  unfold Skill.validate at h
  obtain ⟨name, hname, -⟩ := bind_eq_ok.mp h
  exact ⟨name, hname⟩

theorem skill_read {name : String} (hname : safeName targetId = .ok name) (home : Home) :
    Skill.read home targetId = .ok (readFileText (home.skills name)) :=
  bind_of_eq_ok hname

theorem forall_safeName_iff {name : String} (hname : safeName targetId = .ok name)
    {P : String → Prop} : (∀ other, safeName targetId = .ok other → P other) ↔ P name := by
  rw [hname]
  exact ⟨fun h => h name rfl, fun h other hother => by rwa [← Except.ok.inj hother]⟩

theorem exists_safeName_iff {name : String} (hname : safeName targetId = .ok name)
    {P : String → Prop} : (∃ other, safeName targetId = .ok other ∧ P other) ↔ P name := by
  rw [hname]
  constructor
  · rintro ⟨other, hother, h⟩
    rwa [Except.ok.inj hother]
  · exact fun h => ⟨name, rfl, h⟩

theorem skill_rollsBack_iff (h : Skill.validate env targetId candidate = .ok ()) :
    RollsBack env .skill home targetId candidate started applied later
      ↔ Restorable env home targetId .skill := by
  obtain ⟨name, hname⟩ := safeName_of_skill_validate h
  have hstate : rollbackState env home started targetId .skill
      = .ok (home, readFileText (home.skills name)) :=
    congrArg (Except.map (home, ·)) (skill_read hname home)
  have hrolled (home' : Home) : Skill.rollback home' targetId (readFileText (home.skills name))
      = .ok { home' with
          skills := Skill.restoreFile home'.skills name (readFileText (home.skills name)) } :=
    bind_of_eq_ok hname
  simp only [Restorable]
  rw [exists_safeName_iff hname, ← restoreFile_eq_iff home.skills
    (attempt env home applied targetId candidate .skill).skills name]
  constructor
  · rintro ⟨home₁, recorded, home₃, hrecorded, hrollback, hsame⟩
    obtain ⟨rfl, rfl⟩ := Prod.mk.inj (Except.ok.inj (hstate.symm.trans hrecorded))
    obtain rfl := Except.ok.inj ((hrolled _).symm.trans hrollback)
    exact hsame name hname
  · intro hsame
    exact ⟨home, _, _, hstate, hrolled _, (forall_safeName_iff hname).mpr hsame⟩

theorem skill_recognised_iff (h : Skill.validate env targetId candidate = .ok ()) :
    Recognised env .skill home targetId candidate started applied later ↔ Plain candidate := by
  obtain ⟨name, hname⟩ := safeName_of_skill_validate h
  have hbefore : Adapter.read env home started targetId .skill = .ok (home, _) :=
    congrArg (Except.map (home, ·)) (skill_read hname home)
  have happly : Adapter.apply env home applied targetId candidate .skill
      = .ok { home with skills := writeText home.skills name candidate } := by
    unfold Adapter.apply Skill.apply
    rw [bind_of_eq_ok h, bind_of_eq_ok hname]
    rfl
  have hread : Adapter.read env { home with skills := writeText home.skills name candidate } later
      targetId .skill = .ok ({ home with skills := writeText home.skills name candidate },
        readFileText (some candidate)) := by
    unfold Adapter.read
    rw [skill_read hname]
    simp [writeText, Except.map]
  rw [recognised_iff hbefore happly hread, readFileText_some_iff]

theorem requireManaged_of_validate (h : EvalCase.validate env targetId candidate = .ok ()) :
    EvalCase.requireManaged targetId = .ok () := by
  unfold EvalCase.validate at h
  obtain ⟨u, hmanaged, -⟩ := bind_eq_ok.mp h
  exact hmanaged

theorem lookup_builtinCases_of_managed (h : EvalCase.requireManaged targetId = .ok ()) :
    EvalCase.builtinCases.lookup targetId = none :=
  require_eq_ok.mp h

theorem evalCase_read {name : String} (hmanaged : EvalCase.requireManaged targetId = .ok ())
    (hname : safeName targetId = .ok name) (home : Home) :
    EvalCase.read env home targetId = .ok (readFileText (home.evalCases name)) := by
  unfold EvalCase.read
  rw [lookup_builtinCases_of_managed hmanaged]
  exact bind_of_eq_ok hname

theorem evalCase_read_error (hmanaged : EvalCase.requireManaged targetId = .ok ())
    (hname : ¬ ∃ name, safeName targetId = .ok name) (home : Home) (text : String) :
    EvalCase.read env home targetId ≠ .ok text := by
  unfold EvalCase.read
  rw [lookup_builtinCases_of_managed hmanaged]
  intro hread
  obtain ⟨name, hsafe, -⟩ := bind_eq_ok.mp hread
  exact hname ⟨name, hsafe⟩

theorem evalCase_rollsBack_iff (h : EvalCase.validate env targetId candidate = .ok ()) :
    RollsBack env .evalCase home targetId candidate started applied later
      ↔ Restorable env home targetId .evalCase := by
  have hmanaged := requireManaged_of_validate h
  simp only [Restorable]
  by_cases hsafe : ∃ name, safeName targetId = .ok name
  · obtain ⟨name, hname⟩ := hsafe
    have hstate : rollbackState env home started targetId .evalCase
        = .ok (home, readFileText (home.evalCases name)) :=
      congrArg (Except.map (home, ·)) (evalCase_read hmanaged hname home)
    have hrolled (home' : Home) :
        EvalCase.rollback home' targetId (readFileText (home.evalCases name))
          = .ok { home' with evalCases :=
              Skill.restoreFile home'.evalCases name (readFileText (home.evalCases name)) } := by
      unfold EvalCase.rollback
      rw [bind_of_eq_ok hmanaged, bind_of_eq_ok hname]
      rfl
    rw [exists_safeName_iff hname, ← restoreFile_eq_iff home.evalCases
      (attempt env home applied targetId candidate .evalCase).evalCases name]
    constructor
    · rintro ⟨home₁, recorded, home₃, hrecorded, hrollback, hsame⟩
      obtain ⟨rfl, rfl⟩ := Prod.mk.inj (Except.ok.inj (hstate.symm.trans hrecorded))
      obtain rfl := Except.ok.inj ((hrolled _).symm.trans hrollback)
      exact hsame name hname
    · intro hsame
      exact ⟨home, _, _, hstate, hrolled _, (forall_safeName_iff hname).mpr hsame⟩
  · refine iff_of_false ?_ fun ⟨name, hname, _⟩ => hsafe ⟨name, hname⟩
    rintro ⟨home₁, recorded, home₂, hrecorded, -⟩
    obtain ⟨text, htext, -⟩ := map_eq_ok.mp hrecorded
    exact evalCase_read_error hmanaged hsafe home text htext

theorem evalCase_recognised_iff (h : EvalCase.validate env targetId candidate = .ok ()) :
    Recognised env .evalCase home targetId candidate started applied later
      ↔ Readable env targetId candidate applied .evalCase := by
  have hmanaged := requireManaged_of_validate h
  simp only [Readable]
  by_cases hsafe : ∃ name, safeName targetId = .ok name
  · rw [and_iff_right hsafe]
    obtain ⟨name, hname⟩ := hsafe
    have hbefore : Adapter.read env home started targetId .evalCase = .ok (home, _) :=
      congrArg (Except.map (home, ·)) (evalCase_read hmanaged hname home)
    have happly : Adapter.apply env home applied targetId candidate .evalCase
        = .ok { home with evalCases := writeText home.evalCases name candidate } := by
      unfold Adapter.apply EvalCase.apply
      rw [bind_of_eq_ok h, bind_of_eq_ok hname]
      rfl
    have hread : Adapter.read env
        { home with evalCases := writeText home.evalCases name candidate } later targetId .evalCase
        = .ok ({ home with evalCases := writeText home.evalCases name candidate },
          readFileText (some candidate)) := by
      unfold Adapter.read
      rw [evalCase_read hmanaged hname]
      simp [writeText, Except.map]
    rw [recognised_iff hbefore happly hread, readFileText_some_iff]
  · refine iff_of_false ?_ fun h => hsafe h.1
    rintro ⟨home₁, before, home₂, home₃, current, hbefore, -⟩
    obtain ⟨text, htext, -⟩ := map_eq_ok.mp hbefore
    exact evalCase_read_error hmanaged hsafe home text htext

end

end Navi.Evolution
