import Mathlib
import Navi.Personal.Acceptance

/-!
# The kinds are lawful

What a check makes of a value it makes of it again, and of the checks across fields all but that of
the quiet hours hold of a patch where they hold of the whole.
-/

namespace Navi.Personal

open Navi.Base

section

variable {engine : ResourceEngine} {key : String}

/-! ## Checks -/

theorem textsOf_map_str (texts : List String) : textsOf (texts.map .str) = some texts := by
  induction texts with
  | nil => rfl
  | cons text texts ih =>
      rw [List.map_cons, textsOf, ih]
      rfl

theorem requiredText_steady : (requiredText key).Steady := by
  intro v w h
  simp only [requiredText] at h ⊢
  split at h
  next s =>
    split at h
    · cases h
    next hstrip =>
      obtain rfl := Except.ok.inj h
      dsimp only
      rw [strip_strip, if_neg hstrip]
  next => cases h

theorem stringList_steady : (stringList key).Steady := by
  intro v w h
  simp only [stringList] at h ⊢
  split at h
  next items =>
    split at h
    next texts _ =>
      obtain rfl := Except.ok.inj h
      dsimp only
      rw [textsOf_map_str]
      dsimp only
      have hstripped : ∀ text ∈ (texts.map strip).filter (· ≠ ""), strip text = text := by
        intro text htext
        obtain ⟨old, -, rfl⟩ := List.mem_map.mp (List.mem_filter.mp htext).1
        exact strip_strip old
      rw [List.map_congr_left hstripped, List.map_id'', List.filter_filter]
      · simp
      · exact fun _ => rfl
    next => cases h
  next => cases h

theorem validateDatetime_tests : (validateDatetime engine key).Tests := by
  intro v w h
  simp only [validateDatetime] at h
  split at h
  next =>
    split at h
    · exact (Except.ok.inj h).symm
    · cases h
  next => cases h

theorem validateTimezone_tests : (validateTimezone engine).Tests := by
  intro v w h
  simp only [validateTimezone] at h
  split at h
  next =>
    split at h
    · exact (Except.ok.inj h).symm
    · cases h
  next => cases h

theorem boundedInt_tests {minimum maximum : Int} : (boundedInt key minimum maximum).Tests := by
  intro v w h
  simp only [boundedInt] at h
  split at h
  next =>
    split at h
    · exact (Except.ok.inj h).symm
    · cases h
  next => cases h

theorem boolean_tests {kind : String} : (boolean kind key).Tests := by
  intro v w h
  simp only [boolean] at h
  split at h
  next => exact (Except.ok.inj h).symm
  next => cases h

theorem emailList_tests : (emailList key).Tests := by
  intro v w h
  simp only [emailList] at h
  split at h
  next =>
    split at h
    · exact (Except.ok.inj h).symm
    · cases h
  next => cases h

/-! ## Times of the day -/

theorem hourOf_lt {chars : List Char} {h : Nat} (hour : hourOf engine chars = some h) : h < 24 := by
  have hdigit := engine.digit_lt
  unfold hourOf at hour
  split at hour
  next c =>
    have hlt := hdigit c h hour
    omega
  next c =>
    split at hour
    next hc =>
      have hchar : ∃ n < 4, c = Nat.digitChar n := by
        rcases hc with rfl | rfl | rfl | rfl
        · exact ⟨0, by omega, rfl⟩
        · exact ⟨1, by omega, rfl⟩
        · exact ⟨2, by omega, rfl⟩
        · exact ⟨3, by omega, rfl⟩
      obtain ⟨n, hn, rfl⟩ := hchar
      rw [engine.digit_ascii n (by omega), Option.map_some] at hour
      obtain rfl := Option.some.inj hour
      omega
    · cases hour
  next c =>
    obtain ⟨n, hn, rfl⟩ := Option.map_eq_some_iff.mp hour
    have hlt := hdigit c n hn
    omega
  next c =>
    have hlt := hdigit c h hour
    omega
  next => cases hour

theorem minuteOf_lt {chars : List Char} {m : Nat} (minute : minuteOf engine chars = some m) :
    m < 60 := by
  unfold minuteOf at minute
  split at minute
  next c =>
    have hlt := engine.digit_lt c m minute
    omega
  next d c =>
    split at minute
    next hd =>
      have hchar : ∃ n < 6, d = Nat.digitChar n := by
        simp only [List.contains_eq_mem, List.mem_cons, List.not_mem_nil, or_false,
          decide_eq_true_eq] at hd
        rcases hd with rfl | rfl | rfl | rfl | rfl | rfl
        · exact ⟨0, by omega, rfl⟩
        · exact ⟨1, by omega, rfl⟩
        · exact ⟨2, by omega, rfl⟩
        · exact ⟨3, by omega, rfl⟩
        · exact ⟨4, by omega, rfl⟩
        · exact ⟨5, by omega, rfl⟩
      obtain ⟨n, hn, rfl⟩ := hchar
      rw [engine.digit_ascii n (by omega), Option.bind_some] at minute
      obtain ⟨unit, hunit, rfl⟩ := Option.map_eq_some_iff.mp minute
      have hlt := engine.digit_lt c unit hunit
      omega
    · cases minute
  next => cases minute

theorem hourOf_twoDigits {h : Nat} (hlt : h < 24) : hourOf engine (twoDigits h) = some h := by
  have hunit := engine.digit_ascii (h % 10) (Nat.mod_lt _ (by omega))
  have htens : h / 10 = 0 ∨ h / 10 = 1 ∨ h / 10 = 2 := by omega
  unfold twoDigits
  rcases htens with htens | htens | htens
  · rw [htens]
    show engine.digit (Nat.digitChar (h % 10)) = some h
    rw [hunit]
    congr 1
    omega
  · rw [htens]
    show (engine.digit (Nat.digitChar (h % 10))).map (10 + ·) = some h
    rw [hunit, Option.map_some]
    congr 1
    omega
  · rw [htens]
    have hrange : Nat.digitChar (h % 10) = '0' ∨ Nat.digitChar (h % 10) = '1'
        ∨ Nat.digitChar (h % 10) = '2' ∨ Nat.digitChar (h % 10) = '3' := by
      have hsmall : h % 10 = 0 ∨ h % 10 = 1 ∨ h % 10 = 2 ∨ h % 10 = 3 := by omega
      rcases hsmall with hsmall | hsmall | hsmall | hsmall
      all_goals rw [hsmall]; decide
    show (if _ then (engine.digit (Nat.digitChar (h % 10))).map (20 + ·) else none) = some h
    rw [if_pos hrange, hunit, Option.map_some]
    congr 1
    omega

theorem minuteOf_twoDigits {m : Nat} (hlt : m < 60) :
    minuteOf engine (twoDigits m) = some m := by
  have htens := engine.digit_ascii (m / 10) (by omega)
  have hunit := engine.digit_ascii (m % 10) (Nat.mod_lt _ (by omega))
  have hrange : ['0', '1', '2', '3', '4', '5'].contains (Nat.digitChar (m / 10)) = true := by
    have hsmall : m / 10 < 6 := by omega
    interval_cases m / 10
    all_goals decide
  unfold twoDigits minuteOf
  dsimp only
  rw [if_pos hrange, htens, Option.bind_some, hunit, Option.map_some]
  congr 1
  omega

theorem colon_not_mem_twoDigits {n : Nat} (hlt : n < 100) : ':' ∉ twoDigits n := by
  have hdigit : ∀ d < 10, Nat.digitChar d ≠ ':' := by decide
  unfold twoDigits
  intro hmem
  rcases List.mem_cons.mp hmem with htens | hmem
  · exact hdigit (n / 10) (by omega) htens.symm
  · exact hdigit (n % 10) (by omega) (List.mem_singleton.mp hmem).symm

theorem parseClock_clockText {h m : Nat} (hour : h < 24) (minute : m < 60) :
    parseClock engine (clockText (h, m)) = some (h, m) := by
  have hsplit : (twoDigits h ++ ':' :: twoDigits m).splitOn ':' = [twoDigits h, twoDigits m] := by
    have hraw := @List.splitOn_intercalate _ [twoDigits h, twoDigits m] _ _ ':'
      (by
        intro l hl
        rcases List.mem_cons.mp hl with rfl | hl
        · exact colon_not_mem_twoDigits (by omega)
        · obtain rfl := List.mem_singleton.mp hl
          exact colon_not_mem_twoDigits (by omega)) (by simp)
    simpa [List.intercalate] using hraw
  unfold parseClock clockText
  rw [String.toList_ofList, hsplit]
  dsimp only
  rw [hourOf_twoDigits hour, minuteOf_twoDigits minute]
  rfl

theorem timeOfDay_steady : (timeOfDay engine key).Steady := by
  intro v w h
  simp only [timeOfDay] at h ⊢
  split at h
  next s =>
    split at h
    next clock hclock =>
      obtain rfl := Except.ok.inj h
      have hbounds : clock.1 < 24 ∧ clock.2 < 60 := by
        unfold parseClock at hclock
        split at hclock
        next hour minute _ =>
          obtain ⟨a, ha, hclock⟩ := Option.bind_eq_some_iff.mp hclock
          obtain ⟨b, hb, rfl⟩ := Option.map_eq_some_iff.mp hclock
          exact ⟨hourOf_lt ha, minuteOf_lt hb⟩
        next => cases hclock
      dsimp only
      rw [parseClock_clockText hbounds.1 hbounds.2]
    next => cases h
  next => cases h

/-! ## Nulls -/

def NeverNull (rule : FieldRule) : Prop := ∀ v, rule.check v ≠ .ok .null

theorem neverNull_of_tests {rule : FieldRule} (h : rule.Tests) (hnull : ∃ message,
    rule.check .null = .error message) : NeverNull rule := by
  intro v hcheck
  obtain rfl := h v .null hcheck
  obtain ⟨message, hmessage⟩ := hnull
  rw [hmessage] at hcheck
  cases hcheck

theorem requiredText_neverNull : NeverNull (requiredText key) := by
  intro v h
  simp only [requiredText] at h
  split at h
  next =>
    split at h
    · cases h
    · cases h
  next => cases h

theorem stringList_neverNull : NeverNull (stringList key) := by
  intro v h
  simp only [stringList] at h
  split at h
  next =>
    split at h
    · cases h
    · cases h
  next => cases h

theorem timeOfDay_neverNull : NeverNull (timeOfDay engine key) := by
  intro v h
  simp only [timeOfDay] at h
  split at h
  next =>
    split at h
    · cases h
    · cases h
  next => cases h

/-! ## Adapters -/

/-- A rule is a check that makes something new or one that only tests. -/
structure Sound (rule : FieldRule) : Prop where
  steady : rule.Steady
  neverNull : NeverNull rule

theorem requiredText_sound : Sound (requiredText key) :=
  ⟨requiredText_steady, requiredText_neverNull⟩

theorem stringList_sound : Sound (stringList key) := ⟨stringList_steady, stringList_neverNull⟩

theorem timeOfDay_sound : Sound (timeOfDay engine key) := ⟨timeOfDay_steady, timeOfDay_neverNull⟩

theorem validateDatetime_sound : Sound (validateDatetime engine key) :=
  ⟨validateDatetime_tests.steady, neverNull_of_tests validateDatetime_tests ⟨_, rfl⟩⟩

theorem validateTimezone_sound : Sound (validateTimezone engine) :=
  ⟨validateTimezone_tests.steady, neverNull_of_tests validateTimezone_tests ⟨_, rfl⟩⟩

theorem boundedInt_sound {minimum maximum : Int} : Sound (boundedInt key minimum maximum) :=
  ⟨boundedInt_tests.steady, neverNull_of_tests boundedInt_tests ⟨_, rfl⟩⟩

theorem boolean_sound {kind : String} : Sound (boolean kind key) :=
  ⟨boolean_tests.steady, neverNull_of_tests boolean_tests ⟨_, rfl⟩⟩

theorem emailList_sound : Sound (emailList key) :=
  ⟨emailList_tests.steady, neverNull_of_tests emailList_tests ⟨_, rfl⟩⟩

theorem lawful_of {adapter : PersonalResourceAdapter} {reads : List String}
    (hsound : adapter.rules.Forall Sound) (hseen : TestsOnceSeen [] adapter.rules)
    (hacross : ∀ existing d e, (∀ key ∈ reads, Dict.get d key = e.get key) →
      adapter.across existing d = adapter.across existing e)
    (hunread : ∀ rule ∈ adapter.after, rule.key ∉ reads) : Lawful adapter reads where
  across_congr := hacross
  unread := hunread
  idempotent :=
    idempotent_of_steady
      (fun rule hrule => (List.forall_iff_forall_mem.mp hsound rule hrule).steady) hseen
  not_null _ _ hv :=
    clean_ne_null (fun rule hrule => (List.forall_iff_forall_mem.mp hsound rule hrule).neverNull) hv

theorem calendar_lawful : Lawful (calendarAdapter engine) ["starts_at", "ends_at"] := by
  refine lawful_of ?_ ?_ (fun _ d e hsame => ?_) (fun rule hrule => ?_)
  · exact ⟨requiredText_sound, requiredText_sound, validateDatetime_sound, validateDatetime_sound,
      validateTimezone_sound, stringList_sound⟩
  · exact ⟨.inl (by decide), .inl (by decide), .inr validateDatetime_tests,
      .inr validateDatetime_tests, .inr validateTimezone_tests,
      .inl (show "attendees" ∉ ["timezone", "ends_at", "starts_at", "starts_at", "title"] by
        decide),
      trivial⟩
  · show endsAfterStarts engine d = endsAfterStarts engine e
    unfold endsAfterStarts datetimeAt
    rw [hsame "starts_at" (by simp), hsame "ends_at" (by simp)]
  · obtain rfl := List.mem_singleton.mp hrule
    decide

theorem reminder_lawful : Lawful (reminderAdapter engine) [] := by
  refine lawful_of ?_ ?_ (fun _ _ _ _ => rfl) (fun rule hrule => absurd hrule List.not_mem_nil)
  · exact ⟨requiredText_sound, validateDatetime_sound, validateTimezone_sound, boundedInt_sound,
      boolean_sound⟩
  · exact ⟨.inl (by decide), .inr validateDatetime_tests, .inr validateTimezone_tests,
      .inr boundedInt_tests, .inr boolean_tests, trivial⟩

theorem contact_lawful : Lawful contactAdapter [] := by
  refine lawful_of ?_ ?_ (fun _ _ _ _ => rfl) (fun rule hrule => absurd hrule List.not_mem_nil)
  · exact ⟨requiredText_sound, stringList_sound, stringList_sound, stringList_sound,
      emailList_sound⟩
  · exact ⟨.inl (by decide), .inl (by decide), .inl (by decide), .inl (by decide),
      .inr emailList_tests, trivial⟩

theorem mailDraft_lawful : Lawful mailDraftAdapter ["to"] := by
  refine lawful_of ?_ ?_ (fun existing d e hsame => ?_) (fun rule hrule => ?_)
  · exact ⟨stringList_sound, emailList_sound, stringList_sound, emailList_sound, stringList_sound,
      emailList_sound, requiredText_sound, requiredText_sound⟩
  · exact ⟨.inl (by decide), .inr emailList_tests, .inl (by decide), .inr emailList_tests,
      .inl (by decide), .inr emailList_tests, .inl (by decide), .inl (by decide), trivial⟩
  · show hasRecipient existing d = hasRecipient existing e
    unfold hasRecipient
    rw [hsame "to" (by simp)]
  · rcases List.mem_pair.mp hrule with rfl | rfl
    · decide
    · decide

theorem attentionPolicy_lawful :
    Lawful (attentionPolicyAdapter engine) ["quiet_hours_start", "quiet_hours_end"] := by
  refine lawful_of ?_ ?_ (fun _ d e hsame => ?_) (fun rule hrule => ?_)
  · exact ⟨requiredText_sound, boolean_sound, stringList_sound, validateTimezone_sound,
      timeOfDay_sound, timeOfDay_sound, boundedInt_sound⟩
  · exact ⟨.inl (by decide), .inr boolean_tests, .inl (by decide), .inr validateTimezone_tests,
      .inl (show "quiet_hours_start" ∉ ["timezone", "categories", "enabled", "channel"] by decide),
      .inl (show "quiet_hours_end"
        ∉ ["quiet_hours_start", "timezone", "categories", "enabled", "channel"] by decide),
      .inr boundedInt_tests, trivial⟩
  · show quietHoursPaired d = quietHoursPaired e
    unfold quietHoursPaired
    rw [hsame "quiet_hours_start" (by simp), hsame "quiet_hours_end" (by simp)]
  · obtain rfl := List.mem_singleton.mp hrule
    decide

theorem lawful_of_adapterOf {kind : String} {adapter : PersonalResourceAdapter}
    (h : adapterOf engine kind = some adapter) : ∃ reads, Lawful adapter reads := by
  have hmem := List.mem_of_find?_eq_some h
  simp only [builtins, List.mem_cons, List.not_mem_nil, or_false] at hmem
  rcases hmem with rfl | rfl | rfl | rfl | rfl
  · exact ⟨_, calendar_lawful⟩
  · exact ⟨_, reminder_lawful⟩
  · exact ⟨_, contact_lawful⟩
  · exact ⟨_, mailDraft_lawful⟩
  · exact ⟨_, attentionPolicy_lawful⟩

/-! ## Acceptance by kind -/

/-- A patch of an attention policy gives one of the two quiet hours. -/
def HalfQuietHours (kind : String) (patch : Dict) : Prop :=
  kind = "attention_policy" ∧ (Dict.get (given patch) "quiet_hours_start").isSome
    ≠ (Dict.get (given patch) "quiet_hours_end").isSome

instance decidableHalfQuietHours (kind : String) (patch : Dict) :
    Decidable (HalfQuietHours kind patch) :=
  inferInstanceAs (Decidable (_ ∧ _))

theorem across_patch {kind : String} {adapter : PersonalResourceAdapter}
    (hadapter : adapterOf engine kind = some adapter) {d patch p' : Dict}
    (hp' : Cleaned adapter.rules true (given patch) p')
    (hwhole : adapter.across false (Dict.merge d p') = none) :
    adapter.across true p' = none ↔ ¬ HalfQuietHours kind patch := by
  have hkind : adapter.kind = kind := by
    unfold adapterOf at hadapter
    have hfound := List.find?_some hadapter
    exact of_decide_eq_true hfound
  have hmem := List.mem_of_find?_eq_some hadapter
  simp only [builtins, List.mem_cons, List.not_mem_nil, or_false] at hmem
  have hother : adapter.kind ≠ "attention_policy" → ¬ HalfQuietHours kind patch :=
    fun hne hhalf => hne (hkind.trans hhalf.1)
  rcases hmem with rfl | rfl | rfl | rfl | rfl
  · refine ⟨fun _ => hother (show "calendar_event" ≠ "attention_policy" by decide), fun _ => ?_⟩
    show endsAfterStarts engine p' = none
    have hends : endsAfterStarts engine (Dict.merge d p') = none := hwhole
    have hat : ∀ key dt, datetimeAt engine p' key = some dt →
        datetimeAt engine (Dict.merge d p') key = some dt := by
      intro key dt hdt
      unfold datetimeAt at hdt ⊢
      rw [Dict.get_merge]
      cases hown : p'.get key with
      | none =>
          rw [hown] at hdt
          cases hdt
      | some v =>
          rw [hown] at hdt
          exact hdt
    unfold endsAfterStarts at hends ⊢
    cases hstarts : datetimeAt engine p' "starts_at" with
    | none => rfl
    | some starts =>
        cases hends' : datetimeAt engine p' "ends_at" with
        | none => rfl
        | some ends =>
            rw [hat _ _ hstarts, hat _ _ hends'] at hends
            exact hends
  · exact ⟨fun _ => hother (show "reminder" ≠ "attention_policy" by decide), fun _ => rfl⟩
  · exact ⟨fun _ => hother (by decide), fun _ => rfl⟩
  · refine ⟨fun _ => hother (by decide), fun _ => ?_⟩
    show hasRecipient true p' = none
    exact if_neg fun h => Bool.noConfusion h.1
  · have hpaired : quietHoursPaired p' = none ↔ (p'.get "quiet_hours_start").isSome
        = (p'.get "quiet_hours_end").isSome := by
      unfold quietHoursPaired
      split
      next hne => exact ⟨nofun, fun heq => absurd heq hne⟩
      next heq => exact ⟨fun _ => not_not.mp heq, fun _ => rfl⟩
    show quietHoursPaired p' = none ↔ _
    rw [hpaired, hp'.isSome_eq, hp'.isSome_eq]
    unfold HalfQuietHours
    have hattention : kind = "attention_policy" := hkind.symm
    simp [hattention]

/-- An update is accepted exactly where the overlaid data is valid, unless its patch gives half of
the quiet hours. -/
theorem accepted_iff_valid {kind : String} {adapter : PersonalResourceAdapter}
    (hadapter : adapterOf engine kind = some adapter) {d : Dict} (hd : Stored adapter d)
    (patch : Dict) :
    Accepted adapter d patch
      ↔ Valid adapter (laidOver d patch) ∧ ¬ HalfQuietHours kind patch := by
  obtain ⟨reads, hlawful⟩ := lawful_of_adapterOf hadapter
  rw [accepted_iff hlawful hd, valid_iff hlawful hd]
  constructor
  · rintro ⟨hfields, p', hp', hacross, hwhole⟩
    exact ⟨⟨hfields, p', hp', hwhole⟩, (across_patch hadapter hp' hwhole).mp hacross⟩
  · rintro ⟨⟨hfields, p', hp', hwhole⟩, hhalf⟩
    exact ⟨hfields, p', hp', (across_patch hadapter hp' hwhole).mpr hhalf, hwhole⟩

end

end Navi.Personal
