import Mathlib
import Navi.Base.Checks
import Navi.Base.Dict

/-!
# Records cleaned field by field

A record is cleaned by rules about its fields, each of which reads one value, raises or hands on
what it makes of it. What the rules make of a record is what they make of each field on its own.
-/

namespace Navi.Base

/-- A rule about a field: what it makes of a value, and what it raises where there is none. -/
structure FieldRule where
  key : String
  absent : Option String
  check : Json → Except String Json

/-- The rule on a record; what is absent is not raised of a record that is there already. -/
def FieldRule.apply (existing : Bool) (d : Dict) (rule : FieldRule) : Except String Dict :=
  match d.get rule.key with
  | none => if existing then .ok d else rule.absent.elim (.ok d) .error
  | some v => (rule.check v).map (d.put rule.key)

def applyFields (existing : Bool) : List FieldRule → Dict → Except String Dict
  | [], d => .ok d
  | rule :: rules, d => rule.apply existing d >>= applyFields existing rules

/-- What the rules make of a value of a field. -/
def clean : List FieldRule → String → Json → Option Json
  | [], _, v => some v
  | rule :: rules, key, v =>
      if rule.key = key then (rule.check v).toOption.bind (clean rules key) else clean rules key v

/-- The rules make the second record of the first one. -/
structure Cleaned (rules : List FieldRule) (existing : Bool) (d d' : Dict) : Prop where
  absent : ∀ key, d.get key = none → d'.get key = none
  given : ∀ key v, d.get key = some v → ∃ w, clean rules key v = some w ∧ d'.get key = some w
  required : existing = false → ∀ rule ∈ rules, rule.absent ≠ none → (d.get rule.key).isSome = true

/-- Two records have the same fields. -/
def SameFields (d d' : Dict) : Prop := ∀ key, d.get key = d'.get key

section

variable {rules : List FieldRule} {existing : Bool} {d d' e : Dict}

theorem clean_cons (rule : FieldRule) (rules : List FieldRule) (key : String) (v : Json) :
    clean (rule :: rules) key v
      = if rule.key = key then (rule.check v).toOption.bind (clean rules key)
        else clean rules key v := rfl

theorem check_of_toOption {rule : FieldRule} {v w : Json}
    (h : (rule.check v).toOption = some w) : rule.check v = .ok w := by
  cases hcheck : rule.check v with
  | error message =>
      rw [hcheck] at h
      cases h
  | ok made =>
      rw [hcheck] at h
      exact congrArg Except.ok (Option.some.inj h)

theorem clean_of_unread {key : String} (h : ∀ rule ∈ rules, rule.key ≠ key) (v : Json) :
    clean rules key v = some v := by
  induction rules with
  | nil => rfl
  | cons rule rules ih =>
      rw [clean_cons, if_neg (h rule List.mem_cons_self)]
      exact ih fun other hother => h other (List.mem_cons_of_mem _ hother)

theorem clean_append (rules rules' : List FieldRule) (key : String) (v : Json) :
    clean (rules ++ rules') key v = (clean rules key v).bind (clean rules' key) := by
  induction rules generalizing v with
  | nil => rfl
  | cons rule rules ih =>
      rw [List.cons_append, clean_cons, clean_cons]
      split
      · cases rule.check v with
        | error message => rfl
        | ok w => exact ih w
      · exact ih v

theorem Cleaned.congr (h : Cleaned rules existing d d') (hd : SameFields e d)
    {e' : Dict} (hd' : SameFields e' d') : Cleaned rules existing e e' where
  absent key hkey := by
    rw [hd' key]
    exact h.absent key (by rw [← hd key]; exact hkey)
  given key v hkey := by
    rw [hd' key]
    exact h.given key v (by rw [← hd key]; exact hkey)
  required hnew rule hrule habsent := by
    rw [hd rule.key]
    exact h.required hnew rule hrule habsent

theorem Cleaned.isSome_eq (h : Cleaned rules existing d d') (key : String) :
    (d'.get key).isSome = (d.get key).isSome := by
  cases hown : d.get key with
  | none => rw [h.absent key hown]
  | some v =>
      obtain ⟨w, -, hw⟩ := h.given key v hown
      rw [hw]
      rfl

theorem Cleaned.unique (h : Cleaned rules existing d d') (h' : Cleaned rules existing d e) :
    SameFields d' e := by
  intro key
  cases hkey : d.get key with
  | none => rw [h.absent key hkey, h'.absent key hkey]
  | some v =>
      obtain ⟨w, hclean, hw⟩ := h.given key v hkey
      obtain ⟨w', hclean', hw'⟩ := h'.given key v hkey
      rw [hw, hw', ← hclean, hclean']

theorem cleaned_of_applyFields (h : applyFields existing rules d = .ok d') :
    Cleaned rules existing d d' := by
  induction rules generalizing d with
  | nil =>
      obtain rfl := Except.ok.inj h
      exact ⟨fun _ hkey => hkey, fun key v hkey => ⟨v, rfl, hkey⟩,
        fun _ rule hrule => absurd hrule List.not_mem_nil⟩
  | cons rule rules ih =>
      obtain ⟨mid, hmid, hrest⟩ := bind_eq_ok.mp h
      have hcleaned := ih hrest
      unfold FieldRule.apply at hmid
      cases hown : d.get rule.key with
      | none =>
          rw [hown] at hmid
          dsimp only at hmid
          have hsame : mid = d ∧ (existing = false → rule.absent = none) := by
            split at hmid
            next hexisting =>
              exact ⟨(Except.ok.inj hmid).symm, fun hnew => by rw [hexisting] at hnew; cases hnew⟩
            next =>
              cases habsent : rule.absent with
              | none =>
                  rw [habsent] at hmid
                  exact ⟨(Except.ok.inj hmid).symm, fun _ => rfl⟩
              | some message =>
                  rw [habsent] at hmid
                  cases hmid
          obtain ⟨rfl, habsent⟩ := hsame
          refine ⟨hcleaned.absent, fun key v hkey => ?_, fun hnew other hother hrequired => ?_⟩
          · have hother : rule.key ≠ key := by
              rintro rfl
              rw [hown] at hkey
              cases hkey
            rw [clean_cons, if_neg hother]
            exact hcleaned.given key v hkey
          · rcases List.mem_cons.mp hother with rfl | hother
            · exact absurd (habsent hnew) hrequired
            · exact hcleaned.required hnew other hother hrequired
      | some own =>
          rw [hown] at hmid
          obtain ⟨w, hw, rfl⟩ := map_eq_ok.mp hmid
          have hput : ∀ key, (d.put rule.key w).get key
              = if rule.key = key then some w else d.get key := Dict.get_put d rule.key w
          refine ⟨fun key hkey => hcleaned.absent key ?_, fun key v hkey => ?_,
            fun hnew other hother hrequired => ?_⟩
          · rw [hput, if_neg]
            · exact hkey
            · rintro rfl
              rw [hown] at hkey
              cases hkey
          · by_cases hrule : rule.key = key
            · subst hrule
              rw [hown] at hkey
              obtain rfl := Option.some.inj hkey
              rw [clean_cons, if_pos rfl, hw]
              exact hcleaned.given rule.key w (by rw [hput, if_pos rfl])
            · rw [clean_cons, if_neg hrule]
              exact hcleaned.given key v (by rw [hput, if_neg hrule, hkey])
          · rcases List.mem_cons.mp hother with rfl | hother
            · rw [hown]
              rfl
            · have hlater := hcleaned.required hnew other hother hrequired
              rw [hput] at hlater
              split at hlater
              next hsame => rw [← hsame, hown]; rfl
              next => exact hlater

theorem applyFields_of_cleaned (h : Cleaned rules existing d e) :
    ∃ d', applyFields existing rules d = .ok d' ∧ SameFields d' e := by
  induction rules generalizing d with
  | nil =>
      refine ⟨d, rfl, fun key => ?_⟩
      cases hkey : d.get key with
      | none => exact (h.absent key hkey).symm
      | some v =>
          obtain ⟨w, hclean, hw⟩ := h.given key v hkey
          rw [hw]
          exact hclean
  | cons rule rules ih =>
      unfold applyFields FieldRule.apply
      cases hown : d.get rule.key with
      | none =>
          have hstep : (if existing then (.ok d : Except String Dict)
              else rule.absent.elim (.ok d) .error) = .ok d := by
            cases hexisting : existing with
            | true => rfl
            | false =>
                have habsent : rule.absent = none := by
                  by_contra hrequired
                  have hthere := h.required hexisting rule List.mem_cons_self hrequired
                  rw [hown] at hthere
                  cases hthere
                rw [habsent]
                rfl
          dsimp only
          rw [hstep]
          refine ih ⟨h.absent, fun key v hkey => ?_, fun hnew other hother hrequired =>
            h.required hnew other (List.mem_cons_of_mem _ hother) hrequired⟩
          obtain ⟨w, hclean, hw⟩ := h.given key v hkey
          refine ⟨w, ?_, hw⟩
          rwa [clean_cons, if_neg] at hclean
          rintro rfl
          rw [hown] at hkey
          cases hkey
      | some own =>
          obtain ⟨w, hclean, hw⟩ := h.given rule.key own hown
          rw [clean_cons, if_pos rfl] at hclean
          obtain ⟨made, hmade, hrest⟩ := Option.bind_eq_some_iff.mp hclean
          dsimp only
          rw [check_of_toOption hmade]
          have hput : ∀ key, (d.put rule.key made).get key
              = if rule.key = key then some made else d.get key := Dict.get_put d rule.key made
          refine ih ⟨fun key hkey => ?_, fun key v hkey => ?_,
            fun hnew other hother hrequired => ?_⟩
          · rw [hput] at hkey
            split at hkey
            · cases hkey
            · exact h.absent key hkey
          · rw [hput] at hkey
            split at hkey
            next hsame =>
              subst hsame
              obtain rfl := Option.some.inj hkey
              exact ⟨w, hrest, hw⟩
            next hother =>
              obtain ⟨w', hclean', hw'⟩ := h.given key v hkey
              rw [clean_cons, if_neg hother] at hclean'
              exact ⟨w', hclean', hw'⟩
          · rw [hput]
            split
            · rfl
            · exact h.required hnew other (List.mem_cons_of_mem _ hother) hrequired

theorem applyFields_append (rules rules' : List FieldRule) (d : Dict) :
    applyFields existing (rules ++ rules') d
      = applyFields existing rules d >>= applyFields existing rules' := by
  induction rules generalizing d with
  | nil => rfl
  | cons rule rules ih =>
      rw [List.cons_append]
      unfold applyFields
      cases rule.apply existing d with
      | error message => rfl
      | ok mid => exact ih mid

theorem cleaned_append {rules' : List FieldRule} :
    Cleaned (rules ++ rules') existing d d'
      ↔ ∃ mid, Cleaned rules existing d mid ∧ Cleaned rules' existing mid d' := by
  constructor
  · intro h
    obtain ⟨e, hrun, hsame⟩ := applyFields_of_cleaned h
    rw [applyFields_append] at hrun
    obtain ⟨mid, hfirst, hsecond⟩ := bind_eq_ok.mp hrun
    exact ⟨mid, cleaned_of_applyFields hfirst, (cleaned_of_applyFields hsecond).congr
      (fun _ => rfl) fun key => (hsame key).symm⟩
  · rintro ⟨mid, hfirst, hsecond⟩
    refine ⟨fun key hkey => hsecond.absent key (hfirst.absent key hkey), fun key v hkey => ?_,
      fun hnew rule hrule hrequired => ?_⟩
    · obtain ⟨w, hclean, hw⟩ := hfirst.given key v hkey
      obtain ⟨w', hclean', hw'⟩ := hsecond.given key w hw
      refine ⟨w', ?_, hw'⟩
      rw [clean_append, hclean]
      exact hclean'
    · rcases List.mem_append.mp hrule with hold | hlater
      · exact hfirst.required hnew rule hold hrequired
      · have hthere := hsecond.required hnew rule hlater hrequired
        by_contra hnone
        rw [hfirst.absent rule.key (by simpa using hnone)] at hthere
        cases hthere

/-! ## Overlays -/

/-- What the rules make of a field they make of it again. -/
def Idempotent (rules : List FieldRule) : Prop :=
  ∀ key v w, clean rules key v = some w → clean rules key w = some w

theorem Cleaned.again (hidem : Idempotent rules) (h : Cleaned rules existing d d') :
    Cleaned rules existing d' d' where
  absent _ hkey := hkey
  given key v hkey := by
    cases hold : d.get key with
    | none =>
        rw [h.absent key hold] at hkey
        cases hkey
    | some old =>
        obtain ⟨w, hclean, hw⟩ := h.given key old hold
        rw [hw] at hkey
        obtain rfl := Option.some.inj hkey
        exact ⟨w, hidem key old w hclean, hw⟩
  required hnew rule hrule hrequired := by
    obtain ⟨old, hold⟩ := Option.isSome_iff_exists.mp (h.required hnew rule hrule hrequired)
    obtain ⟨w, -, hw⟩ := h.given rule.key old hold
    rw [hw]
    rfl

/-- A rule makes the same of what it made. -/
def FieldRule.Steady (rule : FieldRule) : Prop :=
  ∀ v w, rule.check v = .ok w → rule.check w = .ok w

/-- A rule hands on what it is given. -/
def FieldRule.Tests (rule : FieldRule) : Prop := ∀ v w, rule.check v = .ok w → w = v

theorem FieldRule.Tests.steady {rule : FieldRule} (h : rule.Tests) : rule.Steady := by
  intro v w hcheck
  obtain rfl := h v w hcheck
  exact hcheck

theorem clean_of_tests {key : String} (h : ∀ rule ∈ rules, rule.key = key → rule.Tests)
    {v w : Json} (hclean : clean rules key v = some w) : w = v := by
  induction rules generalizing v with
  | nil => exact (Option.some.inj hclean).symm
  | cons rule rules ih =>
      have hrest := @ih fun other hother => h other (List.mem_cons_of_mem _ hother)
      rw [clean_cons] at hclean
      split at hclean
      next hkey =>
        obtain ⟨made, hmade, hclean⟩ := Option.bind_eq_some_iff.mp hclean
        rw [hrest hclean]
        exact h rule List.mem_cons_self hkey v made (check_of_toOption hmade)
      next => exact hrest hclean

/-- A rule about a field that was seen before only tests. -/
def TestsOnceSeen : List String → List FieldRule → Prop
  | _, [] => True
  | seen, rule :: rules =>
      (rule.key ∉ seen ∨ rule.Tests) ∧ TestsOnceSeen (rule.key :: seen) rules

theorem TestsOnceSeen.tests {seen : List String} (h : TestsOnceSeen seen rules)
    {rule : FieldRule} (hrule : rule ∈ rules) (hseen : rule.key ∈ seen) : rule.Tests := by
  induction rules generalizing seen with
  | nil => exact absurd hrule List.not_mem_nil
  | cons first rules ih =>
      rcases List.mem_cons.mp hrule with rfl | hrule
      · exact h.1.resolve_left fun hnot => hnot hseen
      · exact ih h.2 hrule (List.mem_cons_of_mem _ hseen)

theorem idempotent_of_steady {seen : List String} (hsteady : ∀ rule ∈ rules, rule.Steady)
    (hseen : TestsOnceSeen seen rules) : Idempotent rules := by
  induction rules generalizing seen with
  | nil => exact fun _ _ _ _ => rfl
  | cons rule rules ih =>
      have hrest := ih (fun other hother => hsteady other (List.mem_cons_of_mem _ hother)) hseen.2
      intro key v w hclean
      rw [clean_cons] at hclean ⊢
      split at hclean
      next hkey =>
        obtain ⟨made, hmade, hclean⟩ := Option.bind_eq_some_iff.mp hclean
        have hsame : w = made := clean_of_tests (fun other hother hother' =>
          hseen.2.tests hother (by rw [hother', hkey]; exact List.mem_cons_self)) hclean
        subst hsame
        rw [if_pos hkey, hsteady rule List.mem_cons_self v w (check_of_toOption hmade)]
        exact hclean
      next hkey =>
        rw [if_neg hkey]
        exact hrest key v w hclean

theorem clean_ne_null (h : ∀ rule ∈ rules, ∀ v, rule.check v ≠ .ok .null) {key : String}
    {v : Json} (hv : v ≠ .null) : clean rules key v ≠ some .null := by
  induction rules generalizing v with
  | nil => exact fun hclean => hv (Option.some.inj hclean)
  | cons rule rules ih =>
      have hrest := @ih fun other hother => h other (List.mem_cons_of_mem _ hother)
      rw [clean_cons]
      split
      · intro hclean
        obtain ⟨made, hmade, hclean⟩ := Option.bind_eq_some_iff.mp hclean
        refine hrest (fun hnull => ?_) hclean
        rw [hnull] at hmade
        exact h rule List.mem_cons_self v (check_of_toOption hmade)
      · exact hrest hv

theorem cleaned_merge_iff {p m : Dict} (hd : Cleaned rules false d d) :
    Cleaned rules false (Dict.merge d p) m
      ↔ ∃ p', Cleaned rules true p p' ∧ SameFields m (Dict.merge d p') := by
  constructor
  · intro h
    let p' : Dict := m.filter fun entry => (p.get entry.1).isSome
    have hp' : ∀ key, Dict.get p' key = if (p.get key).isSome then m.get key else none :=
      fun key => Dict.get_filter_key m (fun key => (p.get key).isSome) key
    refine ⟨p', ⟨fun key hkey => ?_, fun key v hkey => ?_, fun hnew => by cases hnew⟩,
      fun key => ?_⟩
    · rw [hp', hkey]
      rfl
    · obtain ⟨w, hclean, hw⟩ := h.given key v (by rw [Dict.get_merge, hkey, Option.some_or])
      exact ⟨w, hclean, by rw [hp', hkey]; exact hw⟩
    · rw [Dict.get_merge, hp']
      cases hkey : p.get key with
      | some v =>
          obtain ⟨w, -, hw⟩ := h.given key v (by rw [Dict.get_merge, hkey, Option.some_or])
          rw [Option.isSome_some, if_pos rfl, hw, Option.some_or]
      | none =>
          rw [Option.isSome_none, if_neg Bool.false_ne_true, Option.none_or]
          cases hold : d.get key with
          | none => exact h.absent key (by rw [Dict.get_merge, hkey, hold]; rfl)
          | some v =>
              obtain ⟨w, hclean, hw⟩ := h.given key v (by rw [Dict.get_merge, hkey, hold]; rfl)
              obtain ⟨w', hclean', hw'⟩ := hd.given key v hold
              rw [hold] at hw'
              rw [hw, hw', ← hclean, hclean']
  · rintro ⟨p', hp', hm⟩
    refine ⟨fun key hkey => ?_, fun key v hkey => ?_, fun hnew rule hrule hrequired => ?_⟩
    · rw [Dict.get_merge, Option.or_eq_none_iff] at hkey
      rw [hm, Dict.get_merge, hp'.absent key hkey.1, hkey.2]
      rfl
    · rw [hm, Dict.get_merge]
      rw [Dict.get_merge] at hkey
      cases hown : p.get key with
      | some own =>
          rw [hown, Option.some_or] at hkey
          obtain rfl := Option.some.inj hkey
          obtain ⟨w, hclean, hw⟩ := hp'.given key own hown
          exact ⟨w, hclean, by rw [hw, Option.some_or]⟩
      | none =>
          rw [hown, Option.none_or] at hkey
          obtain ⟨w, hclean, hw⟩ := hd.given key v hkey
          exact ⟨w, hclean, by rw [hp'.absent key hown, Option.none_or, hw]⟩
    · obtain ⟨old, hold⟩ :=
        Option.isSome_iff_exists.mp (hd.required rfl rule hrule hrequired)
      rw [Dict.get_merge, hold]
      cases p.get rule.key with
      | none => rfl
      | some own => rfl

end

end Navi.Base
