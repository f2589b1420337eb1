import Navi.Base.Precedence
import Navi.Base.Texts
import Navi.Evolution.SkillStore

/-!
# What the name of a skill denotes

Whether a stricter listing is a sublist of a laxer one, so that one name is one skill in both, and
whether `skills.view` of a listed name stays in the directory of that skill. It is so exactly where
no filter hides a skill whose name a later one then takes.
-/

namespace Navi.Evolution

open Navi.Base

section

variable (texts : SkillTexts) (sha256 : String → String) (store : SkillStore) (workspace : String)

/-! ## What is asked -/

def SkillFilters.passes (filters : SkillFilters) (skill : Skill) : Bool :=
  (filters.requestedRole texts = "" || skill.role = ""
    || skill.role = filters.requestedRole texts)
  && !(filters.sources.any fun sources => skill.source ∉ sources)
  && permissionAllows skill.permission filters.permissionCeiling

/-- The first filters are as strict as the second: a ceiling that the other one allows, some of its
sources, and its role if it has one. -/
structure Stricter (low high : SkillFilters) : Prop where
  ceiling : permissionAllows low.permissionCeiling high.permissionCeiling = true
  sources : ∀ named ∈ high.sources, ∃ fewer ∈ low.sources, fewer ⊆ named
  role : high.requestedRole texts = "" ∨ low.requestedRole texts = high.requestedRole texts

/-- The skills that some locations have. -/
def loadedFrom (locations : List SkillLocation) : List Skill :=
  locations.filterMap fun location => (loadSkill texts sha256 location).toOption

def loadedSkills : List Skill := loadedFrom texts sha256 (store.locations workspace)

def SkillsReadable : Prop :=
  ∀ location ∈ store.locations workspace, ∀ error, location.file.content ≠ .osError error

/-- A name denotes one skill in both listings, no unverified skill has taken it from one of the
home that is hidden, and a view of it from the laxer listing reads in its directory. -/
structure DenotesOneSkill (low high : SkillFilters) : Prop where
  sublist : ∀ l h, listSkills texts sha256 store workspace low = .ok l →
    listSkills texts sha256 store workspace high = .ok h → l.skills.Sublist h.skills
  samePath : ∀ l h, listSkills texts sha256 store workspace low = .ok l →
    listSkills texts sha256 store workspace high = .ok h →
    ∀ a ∈ l.skills, ∀ b ∈ h.skills, a.name = b.name → a.path = b.path
  untaken : ∀ l, listSkills texts sha256 store workspace low = .ok l →
    ∀ a ∈ loadedFrom texts sha256 store.homeLocations, low.passes texts a = false →
    ∀ b ∈ l.skills, b.verified = false → b.name ≠ a.name
  viewed : ∀ l, listSkills texts sha256 store workspace low = .ok l →
    ∀ skill ∈ l.skills, ∀ host call, call.filters = high → call.wantedName texts = skill.name →
    ∀ view target, skillsView texts sha256 host store workspace call = .ok view →
    view.read = some target →
    ∃ baseDir, host.resolve skill.path.dropLast = .ok baseDir
      ∧ Sandbox.inside baseDir target = true

/-- Wherever the stricter filters pass a skill of a name, they pass the first of that name that the
laxer ones pass, and no skill of the workspace that they pass has the name of one of the home that
they hide. -/
structure Undisplaced (low high : SkillFilters) : Prop where
  yields : Yields Skill.name (low.passes texts) (high.passes texts)
    (loadedSkills texts sha256 store workspace)
  visible : ∀ a ∈ loadedFrom texts sha256 store.homeLocations, low.passes texts a = false →
    ∀ b ∈ loadedFrom texts sha256 (store.workspaceLocations workspace),
    low.passes texts b = true → b.name ≠ a.name

end

section

variable {texts : SkillTexts} {sha256 : String → String} {store : SkillStore}
  {workspace : String} {low high filters : SkillFilters} {location : SkillLocation}
  {locations : List SkillLocation} {skill a b : Skill}

/-! ## Loading -/

theorem of_parseSkillContract {content directoryName : String} {contract : SkillContract}
    (h : parseSkillContract texts content directoryName = .ok contract) :
    contract.name = directoryName ∧ isSkillName contract.name = true := by
  unfold parseSkillContract at h
  obtain ⟨⟨entries, instructions⟩, -, h⟩ := bind_eq_ok.mp h
  obtain ⟨-, -, h⟩ := bind_eq_ok.mp h
  obtain ⟨name, -, h⟩ := bind_eq_ok.mp h
  obtain ⟨_, hname, h⟩ := bind_eq_ok.mp h
  obtain ⟨_, hdirectory, h⟩ := bind_eq_ok.mp h
  obtain ⟨_, -, h⟩ := bind_eq_ok.mp h
  obtain ⟨-, -, h⟩ := bind_eq_ok.mp h
  obtain ⟨-, -, h⟩ := bind_eq_ok.mp h
  obtain ⟨_, -, h⟩ := bind_eq_ok.mp h
  obtain ⟨-, -, h⟩ := bind_eq_ok.mp h
  obtain ⟨_, -, h⟩ := bind_eq_ok.mp h
  obtain ⟨_, -, h⟩ := bind_eq_ok.mp h
  obtain rfl := pure_eq_ok.mp h
  exact ⟨require_eq_ok.mp hdirectory, (require_eq_ok.mp hname).2.2⟩

theorem of_loadSkill (h : loadSkill texts sha256 location = .ok skill) :
    skill.name = location.file.directoryName ∧ isSkillName skill.name = true
      ∧ skill.path = location.path ∧ skill.verified = location.verified := by
  unfold loadSkill at h
  split at h
  next => cases h
  next => cases h
  next content _ =>
    obtain ⟨contract, hcontract, h⟩ := bind_eq_ok.mp h
    obtain ⟨permission, -, h⟩ := bind_eq_ok.mp h
    obtain rfl := pure_eq_ok.mp h
    obtain ⟨hname, hform⟩ := of_parseSkillContract (mapError_eq_ok.mp hcontract)
    exact ⟨hname, hform, rfl, rfl⟩

theorem loadSkill_ne_osError (h : ∀ error, location.file.content ≠ .osError error)
    (error : String) : loadSkill texts sha256 location ≠ .error (.osError error) := by
  unfold loadSkill
  split
  next raised hraised => exact absurd hraised (h raised)
  next =>
    intro heq
    cases heq
  next content _ =>
    intro heq
    -- what either check raises is caught
    rcases bind_eq_error.mp heq with hcontract | ⟨contract, -, heq⟩
    · obtain ⟨raised, -, hraised⟩ := mapError_eq_error.mp hcontract
      cases hraised
    · rcases bind_eq_error.mp heq with hpermission | ⟨permission, -, heq⟩
      · obtain ⟨raised, -, hraised⟩ := mapError_eq_error.mp hpermission
        cases hraised
      · cases heq

theorem loadSkill_osError {error : String} (h : location.file.content = .osError error) :
    loadSkill texts sha256 location = .error (.osError error) := by
  unfold loadSkill
  rw [h]

theorem mem_loadedFrom :
    skill ∈ loadedFrom texts sha256 locations
      ↔ ∃ location ∈ locations, loadSkill texts sha256 location = .ok skill := by
  unfold loadedFrom
  rw [List.mem_filterMap]
  refine exists_congr fun location => and_congr_right fun _ => ?_
  cases loadSkill texts sha256 location <;> simp [Except.toOption]

theorem loadedFrom_append {first second : List SkillLocation} :
    loadedFrom texts sha256 (first ++ second)
      = loadedFrom texts sha256 first ++ loadedFrom texts sha256 second :=
  List.filterMap_append

theorem of_mem_locations {directory : SkillsDir} {source scope : String} {verified : Bool}
    (h : skill ∈ loadedFrom texts sha256 (directory.locations source verified scope)) :
    skill.verified = verified ∧ skill.path = directory.path ++ [skill.name, "SKILL.md"]
      ∧ isSkillName skill.name = true := by
  obtain ⟨location, hmem, hload⟩ := mem_loadedFrom.mp h
  obtain ⟨file, -, rfl⟩ := List.mem_map.mp hmem
  obtain ⟨hname, hform, hpath, hverified⟩ := of_loadSkill hload
  refine ⟨hverified, ?_, hform⟩
  rw [hpath, hname]

theorem eq_of_mem_locations {directory : SkillsDir} {source scope : String} {verified : Bool}
    (ha : a ∈ loadedFrom texts sha256 (directory.locations source verified scope))
    (hb : b ∈ loadedFrom texts sha256 (directory.locations source verified scope))
    (hname : a.name = b.name) : a = b := by
  obtain ⟨locationA, hmemA, hloadA⟩ := mem_loadedFrom.mp ha
  obtain ⟨locationB, hmemB, hloadB⟩ := mem_loadedFrom.mp hb
  obtain ⟨fileA, hfileA, rfl⟩ := List.mem_map.mp hmemA
  obtain ⟨fileB, hfileB, rfl⟩ := List.mem_map.mp hmemB
  have hdirectory : fileA.directoryName = fileB.directoryName :=
    (of_loadSkill hloadA).1.symm.trans (hname.trans (of_loadSkill hloadB).1)
  have hsame : fileA = fileB :=
    List.inj_on_of_nodup_map directory.nodup ((List.mergeSort_perm _ _).mem_iff.mp hfileA)
      ((List.mergeSort_perm _ _).mem_iff.mp hfileB) hdirectory
  subst hsame
  exact Except.ok.inj (hloadA.symm.trans hloadB)

theorem loadedSkills_eq (texts : SkillTexts) (sha256 : String → String) (store : SkillStore)
    (workspace : String) :
    loadedSkills texts sha256 store workspace
      = loadedFrom texts sha256 store.homeLocations
        ++ loadedFrom texts sha256 (store.workspaceLocations workspace)
        ++ loadedFrom texts sha256 store.builtinLocations := by
  rw [loadedSkills, SkillStore.locations, loadedFrom_append, loadedFrom_append]

theorem unverified_of_mem_workspace
    (h : skill ∈ loadedFrom texts sha256 (store.workspaceLocations workspace)) :
    skill.verified = false := by
  unfold SkillStore.workspaceLocations at h
  split at h
  next => cases h
  next => exact (of_mem_locations h).1

theorem mem_workspace_of_unverified (h : skill ∈ loadedSkills texts sha256 store workspace)
    (hunverified : skill.verified = false) :
    skill ∈ loadedFrom texts sha256 (store.workspaceLocations workspace) := by
  rw [loadedSkills_eq, List.mem_append, List.mem_append] at h
  rcases h with (hhome | hworkspace) | hbuiltin
  · rw [(of_mem_locations hhome).1] at hunverified
    cases hunverified
  · exact hworkspace
  · rw [(of_mem_locations hbuiltin).1] at hunverified
    cases hunverified

theorem of_mem_loadedSkills (h : skill ∈ loadedSkills texts sha256 store workspace) :
    directoryNameOf skill.path = skill.name ∧ isSkillName skill.name = true := by
  have hpath : ∃ path : Sandbox.Path, skill.path = path ++ [skill.name, "SKILL.md"] := by
    rw [loadedSkills_eq, List.mem_append, List.mem_append] at h
    rcases h with (hhome | hworkspace) | hbuiltin
    · exact ⟨_, (of_mem_locations hhome).2.1⟩
    · unfold SkillStore.workspaceLocations at hworkspace
      split at hworkspace
      next => cases hworkspace
      next => exact ⟨_, (of_mem_locations hworkspace).2.1⟩
    · exact ⟨_, (of_mem_locations hbuiltin).2.1⟩
  obtain ⟨location, -, hload⟩ := mem_loadedFrom.mp h
  obtain ⟨path, hpath⟩ := hpath
  refine ⟨?_, (of_loadSkill hload).2.1⟩
  rw [directoryNameOf, hpath]
  simp

/-! ## Listing -/

theorem add_of_ok (h : loadSkill texts sha256 location = .ok skill) (listing : SkillListing) :
    listing.add texts sha256 filters location
      = .ok (if skill.name ∉ listing.seenNames ∧ filters.passes texts skill then
          { listing with
            skills := listing.skills ++ [skill]
            seenNames := skill.name :: listing.seenNames }
        else listing) := by
  unfold SkillListing.add
  rw [h]
  dsimp only
  split
  next hseen => rw [if_neg fun hkept => hkept.1 hseen]
  next hfree =>
    split
    next hrole =>
      rw [if_neg]
      rintro ⟨-, hpasses⟩
      simp [SkillFilters.passes, hrole] at hpasses
    next hrole =>
      split
      next hsource =>
        rw [if_neg]
        rintro ⟨-, hpasses⟩
        rw [SkillFilters.passes, hsource] at hpasses
        simp at hpasses
      next hsource =>
        split
        next hceiling =>
          rw [if_neg]
          rintro ⟨-, hpasses⟩
          simp [SkillFilters.passes] at hpasses hceiling
          rw [hceiling] at hpasses
          cases hpasses.2
        next hceiling =>
          have hpasses : filters.passes texts skill = true := by
            unfold SkillFilters.passes
            simp only [Bool.not_eq_true', Bool.not_eq_false] at hsource hceiling
            rw [hceiling]
            simp only [Bool.not_eq_true] at hsource
            rw [hsource]
            by_contra hnot
            refine hrole ⟨?_, ?_, ?_⟩ <;> intro heq <;> simp [heq] at hnot
          rw [if_pos ⟨hfree, hpasses⟩]

theorem of_foldlM_add {listing result : SkillListing}
    (h : locations.foldlM (SkillListing.add texts sha256 filters) listing = .ok result) :
    (∀ location ∈ locations, ∀ error, location.file.content ≠ .osError error)
      ∧ result.skills = listing.skills
          ++ firstNamed Skill.name (filters.passes texts) listing.seenNames
            (loadedFrom texts sha256 locations) := by
  induction locations generalizing listing with
  | nil =>
      obtain rfl := pure_eq_ok.mp h
      exact ⟨fun _ hmem => absurd hmem List.not_mem_nil, (List.append_nil _).symm⟩
  | cons location rest ih =>
      rw [List.foldlM_cons] at h
      obtain ⟨next, hadd, hrest⟩ := bind_eq_ok.mp h
      obtain ⟨hreadable, hskills⟩ := ih hrest
      have hcontent : ∀ error, location.file.content ≠ .osError error := by
        intro error hraised
        unfold SkillListing.add at hadd
        rw [loadSkill_osError hraised] at hadd
        cases hadd
      refine ⟨List.forall_mem_cons.mpr ⟨hcontent, hreadable⟩, ?_⟩
      cases hload : loadSkill texts sha256 location with
      | error raised =>
          have hnone : loadedFrom texts sha256 (location :: rest)
              = loadedFrom texts sha256 rest :=
            List.filterMap_cons_none (by rw [hload]; rfl)
          unfold SkillListing.add at hadd
          rw [hload] at hadd
          cases raised with
          | osError error => exact absurd hload (loadSkill_ne_osError hcontent error)
          | invalid reason =>
              obtain rfl := Except.ok.inj hadd
              rw [hskills, hnone]
      | ok skill =>
          have hcons : loadedFrom texts sha256 (location :: rest)
              = skill :: loadedFrom texts sha256 rest :=
            List.filterMap_cons_some (by rw [hload]; rfl)
          rw [add_of_ok hload] at hadd
          obtain rfl := Except.ok.inj hadd
          rw [hskills, hcons, firstNamed]
          split
          next => rw [List.append_assoc, List.singleton_append]
          next => rfl

theorem exists_foldlM_add
    (h : ∀ location ∈ locations, ∀ error, location.file.content ≠ .osError error)
    (listing : SkillListing) :
    ∃ result, locations.foldlM (SkillListing.add texts sha256 filters) listing = .ok result := by
  induction locations generalizing listing with
  | nil => exact ⟨listing, rfl⟩
  | cons location rest ih =>
      obtain ⟨hcontent, hrest⟩ := List.forall_mem_cons.mp h
      have hadd : ∃ next, listing.add texts sha256 filters location = .ok next := by
        cases hload : loadSkill texts sha256 location with
        | error raised =>
            cases raised with
            | osError error => exact absurd hload (loadSkill_ne_osError hcontent error)
            | invalid reason =>
                unfold SkillListing.add
                rw [hload]
                exact ⟨_, rfl⟩
        | ok skill => exact ⟨_, add_of_ok hload listing⟩
      obtain ⟨next, hnext⟩ := hadd
      rw [List.foldlM_cons, hnext]
      exact ih hrest next

theorem of_listSkills {l : SkillListing}
    (h : listSkills texts sha256 store workspace filters = .ok l) :
    SkillsReadable store workspace
      ∧ l.skills = firstNamed Skill.name (filters.passes texts) []
          (loadedSkills texts sha256 store workspace) :=
  of_foldlM_add h

theorem mem_loaded_of_listed {l : SkillListing}
    (h : listSkills texts sha256 store workspace filters = .ok l) (hskill : skill ∈ l.skills) :
    skill ∈ loadedSkills texts sha256 store workspace ∧ filters.passes texts skill = true := by
  rw [(of_listSkills h).2, mem_firstNamed] at hskill
  obtain ⟨hmem, hpasses, -⟩ := of_named hskill.2
  exact ⟨hmem, hpasses⟩

theorem exists_listSkills (h : SkillsReadable store workspace) (filters : SkillFilters) :
    ∃ l, listSkills texts sha256 store workspace filters = .ok l :=
  exists_foldlM_add h {}

theorem Stricter.passes (h : Stricter texts low high)
    (hpasses : low.passes texts skill = true) : high.passes texts skill = true := by
  unfold SkillFilters.passes at hpasses ⊢
  simp only [Bool.and_eq_true] at hpasses ⊢
  obtain ⟨⟨hrole, hsource⟩, hceiling⟩ := hpasses
  refine ⟨⟨?_, ?_⟩, ?_⟩
  · rcases h.role with hnone | hsame
    · simp [hnone]
    · rwa [← hsame]
  · cases hnamed : high.sources with
    | none => rfl
    | some named =>
        obtain ⟨fewer, hfewer, hsubset⟩ := h.sources named hnamed
        rw [hfewer] at hsource
        simp only [Option.any_some, decide_not, Bool.not_not, decide_eq_true_eq] at hsource ⊢
        exact hsubset hsource
  · have hle := h.ceiling
    unfold permissionAllows at hceiling hle ⊢
    cases hrequired : permissionLevel skill.permission with
    | none => simp [hrequired] at hceiling
    | some required =>
        cases hlow : permissionLevel low.permissionCeiling with
        | none => simp [hlow] at hle
        | some lowLevel =>
            cases hhigh : permissionLevel high.permissionCeiling with
            | none => simp [hhigh] at hle
            | some highLevel =>
                simp only [hrequired, hlow, hhigh, decide_eq_true_eq] at hceiling hle ⊢
                omega

/-! ## Viewing -/

theorem of_viewSkill {host : SkillHost} {call : ViewCall} {view : Viewed}
    {target : Sandbox.Path} (h : viewSkill host call skill = .ok view)
    (hread : view.read = some target) :
    ∃ baseDir, host.resolve skill.path.dropLast = .ok baseDir
      ∧ Sandbox.inside baseDir target = true := by
  unfold viewSkill at h
  obtain ⟨baseDir, hbase, h⟩ := bind_eq_ok.mp h
  obtain ⟨reached, -, h⟩ := bind_eq_ok.mp h
  refine ⟨baseDir, hbase, ?_⟩
  split at h
  next =>
    obtain rfl := pure_eq_ok.mp h
    cases hread
  next hinside =>
    split at h
    next =>
      obtain rfl := pure_eq_ok.mp h
      cases hread
    next =>
      obtain ⟨data, -, h⟩ := bind_eq_ok.mp h
      have hreached : view.read = some reached := by
        split at h
        next => rw [← pure_eq_ok.mp h]
        next => rw [← pure_eq_ok.mp h]
      obtain rfl := Option.some.inj (hreached.symm.trans hread)
      simpa using hinside

theorem eq_of_asksFor (hlower : ∀ s, isSkillName s = true → texts.lower s = s)
    {l : SkillListing} {call : ViewCall}
    (hlist : listSkills texts sha256 store workspace call.filters = .ok l)
    (ha : a ∈ l.skills) (hname : call.wantedName texts = a.name) (hb : b ∈ l.skills)
    (hasks : call.asksFor texts b = true) : b = a := by
  obtain ⟨hdirectory, hform⟩ := of_mem_loadedSkills (mem_loaded_of_listed hlist hb).1
  have hsame : b.name = a.name := by
    unfold ViewCall.asksFor at hasks
    rw [hdirectory, Bool.or_self, decide_eq_true_eq, hlower _ hform] at hasks
    rw [hasks, hname]
  rw [(of_listSkills hlist).2] at ha hb
  exact eq_of_mem_firstNamed hb ha hsame

theorem read_of_listed (hlower : ∀ s, isSkillName s = true → texts.lower s = s)
    {l : SkillListing} {host : SkillHost} {call : ViewCall} {view : Viewed}
    {target : Sandbox.Path}
    (hlist : listSkills texts sha256 store workspace call.filters = .ok l)
    (hskill : skill ∈ l.skills) (hname : call.wantedName texts = skill.name)
    (hview : skillsView texts sha256 host store workspace call = .ok view)
    (hread : view.read = some target) :
    ∃ baseDir, host.resolve skill.path.dropLast = .ok baseDir
      ∧ Sandbox.inside baseDir target = true := by
  unfold skillsView at hview
  split at hview
  next =>
    obtain rfl := pure_eq_ok.mp hview
    cases hread
  next =>
    obtain ⟨listing, hlisting, hview⟩ := bind_eq_ok.mp hview
    obtain rfl := Except.ok.inj (hlist.symm.trans hlisting)
    split at hview
    next =>
      obtain rfl := pure_eq_ok.mp hview
      cases hread
    next found hfound =>
      have hsame := eq_of_asksFor hlower hlist hskill hname (List.mem_of_find?_eq_some hfound)
        (List.find?_some hfound)
      subst hsame
      exact of_viewSkill hview hread

/-! ## Which names denote one skill -/

theorem untaken_iff (hreadable : SkillsReadable store workspace) :
    (∀ l, listSkills texts sha256 store workspace low = .ok l →
        ∀ a ∈ loadedFrom texts sha256 store.homeLocations, low.passes texts a = false →
        ∀ b ∈ l.skills, b.verified = false → b.name ≠ a.name)
      ↔ ∀ a ∈ loadedFrom texts sha256 store.homeLocations, low.passes texts a = false →
        ∀ b ∈ loadedFrom texts sha256 (store.workspaceLocations workspace),
        low.passes texts b = true → b.name ≠ a.name := by
  constructor
  · intro huntaken a ha hhidden b hb hpasses hname
    obtain ⟨l, hl⟩ := @exists_listSkills texts sha256 store workspace hreadable low
    have hmem : b ∈ loadedFrom texts sha256 store.homeLocations
        ++ loadedFrom texts sha256 (store.workspaceLocations workspace) :=
      List.mem_append_right _ hb
    -- the first of the name that passes is not the hidden one, so it is of the workspace
    obtain ⟨first, hfirst⟩ := @exists_named _ _ _ Skill.name _ _ _ hmem hpasses
    obtain ⟨hfirstMem, hfirstPasses, hfirstName⟩ := of_named hfirst
    have hlisted : first ∈ l.skills := by
      rw [(of_listSkills hl).2, mem_firstNamed, loadedSkills_eq, hfirstName, named,
        List.find?_append]
      refine ⟨List.not_mem_nil, ?_⟩
      rw [named] at hfirst
      rw [hfirst, Option.some_or]
    rcases List.mem_append.mp hfirstMem with hhome | hworkspace
    · have hsame := eq_of_mem_locations hhome ha (hfirstName.trans hname)
      rw [hsame, hhidden] at hfirstPasses
      cases hfirstPasses
    · exact huntaken l hl a ha hhidden first hlisted (unverified_of_mem_workspace hworkspace)
        (hfirstName.trans hname)
  · intro hvisible l hl a ha hhidden b hb hunverified
    obtain ⟨hloaded, hpasses⟩ := mem_loaded_of_listed hl hb
    exact hvisible a ha hhidden b (mem_workspace_of_unverified hloaded hunverified) hpasses

/-- **A name denotes one skill exactly where none is displaced.** For the listings under two sets of
filters, of which the first is stricter, it is so if and only if the stricter ones pass the first
skill of every name of which they pass any, and hide no skill of the home whose name they leave to
one of the workspace; or if a file cannot be read, and nothing is listed. -/
theorem skillName_denotesOne_iff (hlower : ∀ s, isSkillName s = true → texts.lower s = s)
    (sha256 : String → String) (store : SkillStore) (workspace : String)
    (hstricter : Stricter texts low high) :
    DenotesOneSkill texts sha256 store workspace low high
      ↔ (SkillsReadable store workspace → Undisplaced texts sha256 store workspace low high) := by
  constructor
  · intro h hreadable
    obtain ⟨l, hl⟩ := @exists_listSkills texts sha256 store workspace hreadable low
    obtain ⟨laxer, hlaxer⟩ := @exists_listSkills texts sha256 store workspace hreadable high
    refine ⟨?_, (untaken_iff hreadable).mp h.untaken⟩
    have hsub := h.sublist l laxer hl hlaxer
    rw [(of_listSkills hl).2, (of_listSkills hlaxer).2] at hsub
    exact (firstNamed_sublist_iff fun _ => hstricter.passes).mp hsub
  · intro h
    have hsublist : ∀ l laxer, listSkills texts sha256 store workspace low = .ok l →
        listSkills texts sha256 store workspace high = .ok laxer →
        l.skills.Sublist laxer.skills := by
      intro l laxer hl hlaxer
      have hyields := (h (of_listSkills hl).1).yields
      rw [(of_listSkills hl).2, (of_listSkills hlaxer).2]
      exact (firstNamed_sublist_iff fun _ => hstricter.passes).mpr hyields
    refine ⟨hsublist, ?_, ?_, ?_⟩
    · intro l laxer hl hlaxer a ha b hb hname
      have haLaxer := (hsublist l laxer hl hlaxer).subset ha
      rw [(of_listSkills hlaxer).2] at haLaxer hb
      rw [eq_of_mem_firstNamed haLaxer hb hname]
    · intro l hl
      have hreadable := (of_listSkills hl).1
      exact (untaken_iff hreadable).mpr (h hreadable).visible l hl
    · rintro l hl skill hskill host call rfl hname view target hview hread
      obtain ⟨laxer, hlaxer⟩ :=
        @exists_listSkills texts sha256 store workspace (of_listSkills hl).1 call.filters
      exact read_of_listed hlower hlaxer ((hsublist l laxer hl hlaxer).subset hskill) hname hview
        hread

end

/-! ## A name that is hidden, and taken -/

theorem toLower_of_isNameChar {c : Char} (h : isNameChar c = true) : c.toLower = c := by
  unfold Char.toLower
  rw [dif_neg]
  simp only [isNameChar, Char.isLower, Char.isDigit, Bool.or_eq_true, Bool.and_eq_true,
    decide_eq_true_eq] at h
  intro hupper
  have hle := UInt32.le_iff_toNat_le.mp hupper.1
  have hge := UInt32.le_iff_toNat_le.mp hupper.2
  rcases h with ⟨hlower, -⟩ | ⟨-, hdigit⟩
  · have hlower := UInt32.le_iff_toNat_le.mp hlower
    simp at hlower hle hge
    omega
  · have hdigit := UInt32.le_iff_toNat_le.mp hdigit
    simp at hdigit hle hge
    omega

/-- A lower case of texts that are ASCII, and YAML of two skill files. -/
def plainSkillTexts : SkillTexts where
  safeLoad source :=
    if source = "name: notes\ndescription: d\n" then
      some (.mapping [(.str "name", .str "notes"), (.str "description", .str "d")])
    else if source = "name: notes\ndescription: d\nmetadata:\n  navi.permission: write\n" then
      some (.mapping [(.str "name", .str "notes"), (.str "description", .str "d"),
        (.str "metadata", .mapping [(.str "navi.permission", .str "write")])])
    else none
  loads _ := none
  lower s := String.ofList (s.toList.map Char.toLower)

def oneSkill (path : Sandbox.Path) (content : String) : SkillsDir where
  path := path
  files := [{ directoryName := "notes", content := .text content }]
  nodup := List.nodup_singleton _

def noSkills (path : Sandbox.Path) : SkillsDir where
  path := path
  files := []
  nodup := List.nodup_nil

/-- A skill of the home that is for writing, and one of the workspace with its name. -/
def twoNotes : SkillStore where
  skillsDir := oneSkill ["home", "skills"]
    "---\nname: notes\ndescription: d\nmetadata:\n  navi.permission: write\n---\nTrusted.\n"
  workspaceDir workspace := oneSkill [workspace, ".navi", "skills"]
    "---\nname: notes\ndescription: d\n---\nUntrusted.\n"
  builtinSkillsDir := noSkills ["navi", "skills"]

def underCeiling (permissionCeiling : String) : SkillFilters where
  permissionCeiling := permissionCeiling
  sources := none
  role := ""

theorem plainSkillTexts_lower (s : String) (h : isSkillName s = true) :
    plainSkillTexts.lower s = s := by
  have hchars : s.toList.map Char.toLower = s.toList := by
    refine (List.map_congr_left fun c hc => ?_).trans (List.map_id _)
    have hjoin : ['-'].intercalate (s.toList.splitOn '-') = s.toList := List.intercalate_splitOn '-'
    rw [← hjoin] at hc
    rcases mem_of_mem_intercalate hc with rfl | ⟨part, hpart, hc⟩
    · rfl
    · have hparts := List.all_eq_true.mp h part hpart
      exact toLower_of_isNameChar (List.all_eq_true.mp (Bool.and_eq_true_iff.mp hparts).2 c hc)
  show String.ofList (s.toList.map Char.toLower) = s
  rw [hchars, String.ofList_toList]

theorem underCeiling_stricter : Stricter plainSkillTexts (underCeiling "read")
    (underCeiling "write") where
  ceiling := by decide +kernel
  sources named h := by cases h
  role := .inl (by decide +kernel)

/-- Under the lower ceiling the skill of the workspace is listed, under the higher one that of the
home, which is trusted. -/
theorem twoNotes_displaced :
    ¬ DenotesOneSkill plainSkillTexts id twoNotes "w" (underCeiling "read")
      (underCeiling "write") := by
  intro h
  have hlow : (listSkills plainSkillTexts id twoNotes "w" (underCeiling "read")).map
      (fun l => l.skills.map (·.path)) = .ok [["w", ".navi", "skills", "notes", "SKILL.md"]] := by
    decide +kernel
  have hhigh : (listSkills plainSkillTexts id twoNotes "w" (underCeiling "write")).map
      (fun l => l.skills.map (·.path)) = .ok [["home", "skills", "notes", "SKILL.md"]] := by
    decide +kernel
  obtain ⟨l, hl, hlPaths⟩ := map_eq_ok.mp hlow
  obtain ⟨laxer, hlaxer, hlaxerPaths⟩ := map_eq_ok.mp hhigh
  have hsub := (h.sublist l laxer hl hlaxer).map Skill.path
  rw [hlPaths, hlaxerPaths] at hsub
  revert hsub
  decide +kernel

/-- The skill of the home is hidden, and one of the workspace has its name. -/
theorem skillName_denotesOne_iff_twoNotes :
    DenotesOneSkill plainSkillTexts id twoNotes "w" (underCeiling "read") (underCeiling "write")
      ↔ (SkillsReadable twoNotes "w" →
        Undisplaced plainSkillTexts id twoNotes "w" (underCeiling "read") (underCeiling "write")) :=
  skillName_denotesOne_iff plainSkillTexts_lower id twoNotes "w" underCeiling_stricter

end Navi.Evolution
