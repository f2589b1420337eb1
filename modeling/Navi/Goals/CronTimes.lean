import Mathlib
import Navi.Base.Checks
import Navi.Base.Rounding
import Navi.Goals.Templates

/-!
# Cron expressions

The next time of an expression is looked for minute by minute, for a year. Minutes are counted in
local time from the first of January 1970.
-/

namespace Navi.Goals

open Navi.Base

/-- `int(text)`, and the offset of the zone in seconds, which does not change. -/
structure CronEngine where
  int : String → Except String Int
  offset : Int

/-! ## Fields -/

/-- `s.split()`, with the word that has been read so far. -/
def splitWords : List Char → List Char → List String
  | [], [] => []
  | word, [] => [String.ofList word.reverse]
  | [], c :: rest => if isSpace c then splitWords [] rest else splitWords [c] rest
  | word, c :: rest =>
      if isSpace c then String.ofList word.reverse :: splitWords [] rest
      else splitWords (c :: word) rest

/-- `range(first, last + 1, step)`. -/
def cronRange (first last step : Nat) : List Int :=
  (List.range ((last - first) / step + 1)).map fun n => (first + n * step : Nat)

/-- The values of a field other than `*`. -/
def fieldValues (engine : CronEngine) (first last : Nat) : List Char → Except String (List Int)
  | '*' :: '/' :: rest => do
      let step ← engine.int (String.ofList rest)
      require (0 < step) "Cron step must be greater than zero"
      return cronRange first last step.toNat
  | chars => (chars.splitOn ',').mapM fun part => engine.int (String.ofList part)

/-- `_parse_field`. -/
def parseField (engine : CronEngine) (field : String) (bounds : Nat × Nat) :
    Except String (List Int) :=
  if field = "*" then .ok (cronRange bounds.1 bounds.2 1)
  else do
    let values ← fieldValues engine bounds.1 bounds.2 field.toList
    require (∀ value ∈ values, bounds.1 ≤ value ∧ value ≤ bounds.2)
      ("Cron field value must be between " ++ toString bounds.1 ++ " and " ++ toString bounds.2
        ++ ": " ++ field)
    return values

/-- `_matches`. -/
def matchesField (engine : CronEngine) (field : String) (bounds : Nat × Nat) (value : Int) :
    Except String Bool :=
  (parseField engine field bounds).map fun values => values.contains value

def cronRanges : List (Nat × Nat) := [(0, 59), (0, 23), (1, 31), (1, 12), (0, 6)]

/-- `validate_cron`. -/
def validateCron (engine : CronEngine) (expression : String) : Except String Unit := do
  let parts := splitWords [] expression.toList
  require (parts.length = 5) "Cron expression must have 5 fields"
  (parts.zip cronRanges).forM fun part => (parseField engine part.1 part.2).map fun _ => ()

/-! ## The calendar -/

/-- The days of a month before it, in a year that is not a leap year. -/
def daysBeforeMonth : List Nat := [0, 0, 31, 59, 90, 120, 151, 181, 212, 243, 273, 304, 334]

/-- `_ord2ymd`: the year, the month and the day of an ordinal, of which the first is one. -/
def ord2ymd (ordinal : Nat) : Nat × Nat × Nat :=
  let n := ordinal - 1
  let n400 := n / 146097
  let n := n % 146097
  let n100 := n / 36524
  let n := n % 36524
  let n4 := n / 1461
  let n := n % 1461
  let n1 := n / 365
  let n := n % 365
  let year := n400 * 400 + 1 + n100 * 100 + n4 * 4 + n1
  if n1 = 4 ∨ n100 = 4 then (year - 1, 12, 31)
  else
    let leapYear := n1 = 3 ∧ (n4 ≠ 24 ∨ n100 = 3)
    let before (month : Nat) : Nat :=
      daysBeforeMonth.getD month 0 + if 2 < month ∧ leapYear then 1 else 0
    let estimate := (n + 50) / 32
    let month := if n < before estimate then estimate - 1 else estimate
    (year, month, n - before month + 1)

/-- The fields of a minute: minute, hour, day, month and weekday with Sunday as zero. -/
def minuteFields (minute : Int) : List Int :=
  let day := minute / 1440
  let date := ord2ymd (719163 + day).toNat
  [minute % 60, minute / 60 % 24, date.2.2, date.2.1, (day + 4) % 7]

/-- The last minute that a `datetime` has. -/
def lastMinute : Int := 2932896 * 1440 + 1439

/-- `datetime.timestamp`, which looks up the local time of the local time. -/
def timestamp (engine : CronEngine) (minute : Int) : Except String Int :=
  if (lastMinute + 1) * 60 ≤ minute * 60 + engine.offset then .error "year 10000 is out of range"
  else .ok (minute * 60 - engine.offset)

/-! ## The search -/

/-- `and` of the fields, which ends at the first that does not match. -/
def matchesFields (engine : CronEngine) :
    List ((String × (Nat × Nat)) × Int) → Except String Bool
  | [] => .ok true
  | ((field, bounds), value) :: rest => do
      if ← matchesField engine field bounds value then matchesFields engine rest else return false

/-- The fields, their bounds and their values at a minute. -/
def fieldsAt (fields : List String) (minute : Int) : List ((String × (Nat × Nat)) × Int) :=
  (fields.zip cronRanges).zip (minuteFields minute)

def searchMinutes (engine : CronEngine) (expression : String) (fields : List String) :
    Nat → Int → Except String Int
  | 0, _ => .error ("Cron expression has no run in the next year: " ++ expression)
  | n + 1, minute =>
      if lastMinute < minute then .error "date value out of range"
      else do
        if ← matchesFields engine (fieldsAt fields minute) then timestamp engine minute
        else searchMinutes engine expression fields n (minute + 1)

/-- The minute of `datetime.fromtimestamp`, which rounds to microseconds. -/
def baseMinute (engine : CronEngine) (now : Time) : Int :=
  (halfEven (now * 1000000) + engine.offset * 1000000) / 60000000

/-- `range(1, 366 * 24 * 60)`. -/
def horizon : Nat := 366 * 24 * 60

/-- `next_cron_time`. -/
def nextCronTime (engine : CronEngine) (expression : String) (now clock : Time) :
    Except String Time := do
  let base := baseMinute engine (if now = 0 then clock else now)
  require (base ≤ lastMinute) "year is out of range"
  let fields := splitWords [] expression.toList
  require (fields.length = 5) "values to unpack (expected 5)"
  (searchMinutes engine expression fields (horizon - 1) (base + 1)).map Int.cast

/-- `validate_cron` and `next_cron_time` as the templates use them. -/
def localCron (engine : CronEngine) : Cron where
  validates expression := (validateCron engine expression).toOption.isSome
  next expression now := (nextCronTime engine expression now now).toOption

/-! ## What is claimed -/

/-- What a field other than `*` stands for. -/
def AdmitsChars (engine : CronEngine) (first : Nat) (value : Int) : List Char → Prop
  | '*' :: '/' :: rest =>
      ∃ step, engine.int (String.ofList rest) = .ok step ∧ step ∣ value - first
  | chars => ∃ part ∈ chars.splitOn ',', engine.int (String.ofList part) = .ok value

/-- A field stands for a value of its range. -/
def Admits (engine : CronEngine) (field : String) (bounds : Nat × Nat) (value : Int) : Prop :=
  bounds.1 ≤ value ∧ value ≤ bounds.2
    ∧ (field = "*" ∨ AdmitsChars engine bounds.1 value field.toList)

/-- All fields stand for their values at a minute. -/
def MinuteMatches (engine : CronEngine) (expression : String) (minute : Int) : Prop :=
  ∀ entry ∈ fieldsAt (splitWords [] expression.toList) minute,
    Admits engine entry.1.1 entry.1.2 entry.2

/-- A minute that a `datetime` with a time stamp has. -/
def Exists (engine : CronEngine) (minute : Int) : Prop :=
  minute ≤ lastMinute ∧ minute * 60 + engine.offset < (lastMinute + 1) * 60

/-- The expression has an occurrence after a time. -/
structure Occurs (engine : CronEngine) (expression : String) (now : Time) (minute : Int) :
    Prop where
  later : now < (minute * 60 - engine.offset : Int)
  dated : Exists engine minute
  agrees : MinuteMatches engine expression minute

/-- `process_background_once` blocks the template. -/
def Blocks (cron : Cron) (s : TemplateState) (goal : GoalRow) (occurrence : String)
    (outcome : OpenOutcome) (now : Time) : Prop :=
  (s.materialise cron goal occurrence outcome now).events
    = s.events ++ [⟨goal.id, "goal.schedule_invalid", goal.state.governance, .blocked⟩]

/-- The first occurrence is returned, and where none is or a template is blocked there is none. -/
structure FindsNext (engine : CronEngine) (expression : String) (now clock : Time) : Prop where
  returns : ∀ minute, IsLeast {minute | Occurs engine expression now minute} minute →
    nextCronTime engine expression now clock = .ok (minute * 60 - engine.offset : Int)
  raises : ∀ error, nextCronTime engine expression now clock = .error error →
    ∀ minute, ¬ Occurs engine expression now minute
  blocks : ∀ (s : TemplateState) (goal : GoalRow) occurrence outcome,
    goal.cronSchedule = expression →
      Blocks (localCron engine) s goal occurrence outcome now →
        ∀ minute, ¬ Occurs engine expression now minute

/-- The first occurrence after a time, if there is one, is in a minute after the one that the time
is rounded into, and less than 366 days after it. -/
def OccursWithinYear (engine : CronEngine) (expression : String) (now : Time) : Prop :=
  ∀ minute, IsLeast {minute | Occurs engine expression now minute} minute →
    baseMinute engine now < minute ∧ minute < baseMinute engine now + horizon

section

variable {engine : CronEngine} {expression field : String} {bounds : Nat × Nat} {now clock : Time}
  {value minute : Int} {values : List Int}

/-! ## What a field stands for -/

theorem mem_cronRange_iff {first last step : Nat} (hstep : 0 < step) (hrange : first ≤ last) :
    value ∈ cronRange first last step
      ↔ first ≤ value ∧ value ≤ last ∧ (step : Int) ∣ value - first := by
  unfold cronRange
  rw [List.mem_map]
  constructor
  · rintro ⟨n, hn, rfl⟩
    have hle : n * step ≤ last - first :=
      (Nat.le_div_iff_mul_le hstep).mp (Nat.lt_succ_iff.mp (List.mem_range.mp hn))
    refine ⟨by omega, by omega, n, ?_⟩
    push_cast
    ring
  · rintro ⟨hfirst, hlast, k, hk⟩
    have hpos : (0 : Int) < step := by exact_mod_cast hstep
    have hnonneg : 0 ≤ k := by
      by_contra hneg
      have : (step : Int) * k < 0 := Int.mul_neg_of_pos_of_neg hpos (by omega)
      omega
    obtain ⟨n, rfl⟩ := Int.eq_ofNat_of_zero_le hnonneg
    refine ⟨n, List.mem_range.mpr (Nat.lt_succ_of_le ?_), ?_⟩
    · rw [Nat.le_div_iff_mul_le hstep]
      have hmul : ((n * step : Nat) : Int) = step * n := by
        push_cast
        ring
      omega
    · push_cast
      linarith

theorem mem_fieldValues_iff {chars : List Char} (hrange : bounds.1 ≤ bounds.2)
    (h : fieldValues engine bounds.1 bounds.2 chars = .ok values)
    (hvalues : ∀ value ∈ values, (bounds.1 : Int) ≤ value ∧ value ≤ bounds.2) :
    value ∈ values
      ↔ bounds.1 ≤ value ∧ value ≤ bounds.2 ∧ AdmitsChars engine bounds.1 value chars := by
  revert h
  unfold fieldValues AdmitsChars
  split
  next rest =>
    intro h
    obtain ⟨step, hstep, h⟩ := bind_eq_ok.mp h
    obtain ⟨_, hpos, h⟩ := bind_eq_ok.mp h
    obtain rfl := pure_eq_ok.mp h
    have hpos := require_eq_ok.mp hpos
    rw [mem_cronRange_iff (by omega) hrange, Int.toNat_of_nonneg hpos.le]
    refine and_congr_right fun _ => and_congr_right fun _ => ⟨fun hdvd => ⟨step, hstep, hdvd⟩, ?_⟩
    rintro ⟨step', hstep', hdvd⟩
    obtain rfl := Except.ok.inj (hstep.symm.trans hstep')
    exact hdvd
  next =>
    intro h
    rw [mem_of_mapM_eq_ok h value]
    constructor
    · intro hpart
      have hmem := (mem_of_mapM_eq_ok h value).mpr hpart
      exact ⟨(hvalues value hmem).1, (hvalues value hmem).2, hpart⟩
    · exact fun hpart => hpart.2.2

theorem mem_parseField_iff (hrange : bounds.1 ≤ bounds.2)
    (h : parseField engine field bounds = .ok values) :
    value ∈ values ↔ Admits engine field bounds value := by
  unfold parseField at h
  unfold Admits
  split at h
  next hstar =>
    obtain rfl := Except.ok.inj h
    rw [mem_cronRange_iff Nat.one_pos hrange]
    simp [hstar]
  next hstar =>
    obtain ⟨read, hread, h⟩ := bind_eq_ok.mp h
    obtain ⟨_, hbounds, h⟩ := bind_eq_ok.mp h
    obtain rfl := pure_eq_ok.mp h
    rw [mem_fieldValues_iff hrange hread (require_eq_ok.mp hbounds)]
    simp [hstar]

/-- What `validate_cron` accepts. -/
structure Accepted (engine : CronEngine) (expression : String) : Prop where
  five : (splitWords [] expression.toList).length = 5
  parses : ∀ part ∈ (splitWords [] expression.toList).zip cronRanges,
    ∃ values, parseField engine part.1 part.2 = .ok values

theorem accepted_of_validateCron (h : validateCron engine expression = .ok ()) :
    Accepted engine expression := by
  obtain ⟨_, hfive, h⟩ := bind_eq_ok.mp h
  refine ⟨require_eq_ok.mp hfive, fun part hpart => ?_⟩
  obtain ⟨values, hvalues, -⟩ := map_eq_ok.mp (forM_eq_ok h part hpart)
  exact ⟨values, hvalues⟩

theorem cronRanges_nonempty : ∀ bounds ∈ cronRanges, bounds.1 ≤ bounds.2 := by
  decide

theorem matchesFields_ok {entries : List ((String × (Nat × Nat)) × Int)}
    (hentries : ∀ entry ∈ entries, entry.1.2.1 ≤ entry.1.2.2
      ∧ ∃ values, parseField engine entry.1.1 entry.1.2 = .ok values) :
    ∃ found, matchesFields engine entries = .ok found
      ∧ (found = true ↔ ∀ entry ∈ entries, Admits engine entry.1.1 entry.1.2 entry.2) := by
  induction entries with
  | nil => exact ⟨true, rfl, by simp⟩
  | cons entry rest ih =>
      obtain ⟨⟨field, bounds⟩, value⟩ := entry
      obtain ⟨found, hfound, hiff⟩ := ih fun entry hentry =>
        hentries entry (List.mem_cons_of_mem _ hentry)
      obtain ⟨hrange, values, hvalues⟩ := hentries _ List.mem_cons_self
      have hmatch : matchesField engine field bounds value = .ok (values.contains value) := by
        unfold matchesField
        rw [hvalues]
        rfl
      have hadmits := @mem_parseField_iff engine field bounds value values hrange hvalues
      unfold matchesFields
      rw [bind_of_eq_ok hmatch]
      rcases hcontains : values.contains value with _ | _
      · refine ⟨false, rfl, ?_⟩
        have hnot : ¬ Admits engine field bounds value := by
          rw [← hadmits, ← List.contains_iff_mem, hcontains]
          simp
        simp [hnot]
      · have hyes : Admits engine field bounds value := by
          rw [← hadmits, ← List.contains_iff_mem, hcontains]
        refine ⟨found, by simpa using hfound, ?_⟩
        rw [hiff, List.forall_mem_cons]
        simp [hyes]

theorem matchesFields_fieldsAt (h : Accepted engine expression) (minute : Int) :
    ∃ found, matchesFields engine (fieldsAt (splitWords [] expression.toList) minute) = .ok found
      ∧ (found = true ↔ MinuteMatches engine expression minute) := by
  refine matchesFields_ok fun entry hentry => ?_
  have hpart := (List.of_mem_zip hentry).1
  exact ⟨cronRanges_nonempty _ (List.of_mem_zip hpart).2, h.parses _ hpart⟩

/-! ## The search -/

theorem searchMinutes_of_least (h : Accepted engine expression) {n : Nat} {start : Int}
    (hstart : start ≤ minute) (hend : minute < start + n) (hexists : Exists engine minute)
    (hmatch : MinuteMatches engine expression minute)
    (hleast : ∀ other, start ≤ other → other < minute → ¬ MinuteMatches engine expression other) :
    searchMinutes engine expression (splitWords [] expression.toList) n start
      = .ok (minute * 60 - engine.offset) := by
  induction n generalizing start with
  | zero => omega
  | succ n ih =>
      have hlast := hexists.1
      obtain ⟨found, hfound, hiff⟩ := matchesFields_fieldsAt h start
      unfold searchMinutes
      rw [if_neg (by omega), bind_of_eq_ok hfound]
      rcases hstart.eq_or_lt with rfl | hlt
      · have htimed := hexists.2
        rw [if_pos (hiff.mpr hmatch), timestamp, if_neg (by omega)]
      · rw [if_neg fun hyes => hleast start le_rfl hlt (hiff.mp hyes)]
        exact ih (by omega) (by push_cast at hend; omega)
          fun other hother hbefore => hleast other (by omega) hbefore

theorem searchMinutes_eq_ok (h : Accepted engine expression) {n : Nat} {start time : Int}
    (hsearch : searchMinutes engine expression (splitWords [] expression.toList) n start
      = .ok time) :
    ∃ minute, time = minute * 60 - engine.offset ∧ start ≤ minute ∧ minute < start + n := by
  induction n generalizing start with
  | zero => cases hsearch
  | succ n ih =>
      obtain ⟨found, hfound, -⟩ := matchesFields_fieldsAt h start
      unfold searchMinutes at hsearch
      split at hsearch
      · cases hsearch
      rw [bind_of_eq_ok hfound] at hsearch
      split at hsearch
      · unfold timestamp at hsearch
        split at hsearch
        · cases hsearch
        · exact ⟨start, (Except.ok.inj hsearch).symm, le_rfl, by push_cast; omega⟩
      · obtain ⟨minute, htime, hstart, hend⟩ := ih hsearch
        exact ⟨minute, htime, by omega, by push_cast; omega⟩

/-! ## The time it starts from -/

theorem later_of_baseMinute_lt (h : baseMinute engine now < minute) :
    now < (minute * 60 - engine.offset : Int) := by
  have hround := le_halfEven_add_half (now * 1000000)
  have hbase : halfEven (now * 1000000) + engine.offset * 1000000 + 1 ≤ minute * 60000000 := by
    unfold baseMinute at h
    omega
  have hcast : ((halfEven (now * 1000000) : Int) : Rat) + engine.offset * 1000000 + 1
      ≤ minute * 60000000 := by
    exact_mod_cast hbase
  push_cast
  linarith

theorem exists_isLeast_occurs (h : Occurs engine expression now minute) :
    ∃ first, IsLeast {minute | Occurs engine expression now minute} first := by
  have hbelow : ∀ other, Occurs engine expression now other →
      ⌊(now + engine.offset) / 60⌋ ≤ other := by
    intro other hother
    have hlater := hother.later
    push_cast at hlater
    have hle : ((⌊(now + engine.offset) / 60⌋ : Int) : Rat) ≤ (now + engine.offset) / 60 :=
      Int.floor_le _
    have hcast : ((⌊(now + engine.offset) / 60⌋ : Int) : Rat) ≤ other := by linarith
    exact_mod_cast hcast
  obtain ⟨first, hfirst, hleast⟩ := Int.exists_least_of_bdd ⟨_, hbelow⟩ ⟨minute, h⟩
  exact ⟨first, hfirst, hleast⟩

theorem nextCronTime_eq (h : Accepted engine expression) (hnow : 0 < now)
    (hbase : baseMinute engine now ≤ lastMinute) :
    nextCronTime engine expression now clock
      = (searchMinutes engine expression (splitWords [] expression.toList) (horizon - 1)
          (baseMinute engine now + 1)).map Int.cast := by
  unfold nextCronTime
  rw [if_neg hnow.ne']
  dsimp only
  rw [@bind_of_eq_ok _ _ _ _ () _ (require_eq_ok.mpr hbase),
    @bind_of_eq_ok _ _ _ _ () _ (require_eq_ok.mpr h.five)]

theorem nextCronTime_of_isLeast (h : Accepted engine expression) (hnow : 0 < now)
    (hleast : IsLeast {minute | Occurs engine expression now minute} minute)
    (hafter : baseMinute engine now < minute) (hwithin : minute < baseMinute engine now + horizon) :
    nextCronTime engine expression now clock = .ok (minute * 60 - engine.offset : Int) := by
  have hoccurs := hleast.1
  have hlast := hoccurs.dated.1
  have hhorizon : ((horizon - 1 : Nat) : Int) = horizon - 1 := rfl
  rw [nextCronTime_eq h hnow (by omega), searchMinutes_of_least h (by omega)
    (by rw [hhorizon]; omega) hoccurs.dated hoccurs.agrees]
  · rfl
  · intro other hstart hbefore hmatch
    -- an earlier match would be an earlier occurrence
    have hdated := hoccurs.dated.2
    have hother : Occurs engine expression now other :=
      ⟨later_of_baseMinute_lt (by omega), ⟨by omega, by omega⟩, hmatch⟩
    exact absurd (hleast.2 hother) (by omega)

theorem within_of_nextCronTime (h : Accepted engine expression) (hnow : 0 < now)
    (hnext : nextCronTime engine expression now clock = .ok (minute * 60 - engine.offset : Int)) :
    baseMinute engine now < minute ∧ minute < baseMinute engine now + horizon := by
  by_cases hbase : baseMinute engine now ≤ lastMinute
  · rw [nextCronTime_eq h hnow hbase] at hnext
    obtain ⟨time, htime, hcast⟩ := map_eq_ok.mp hnext
    obtain ⟨found, rfl, hstart, hend⟩ := searchMinutes_eq_ok h htime
    have hsame : found * 60 - engine.offset = minute * 60 - engine.offset := by exact_mod_cast hcast
    have hhorizon : ((horizon - 1 : Nat) : Int) = horizon - 1 := rfl
    omega
  · unfold nextCronTime at hnext
    rw [if_neg hnow.ne'] at hnext
    obtain ⟨_, hrequired, -⟩ := bind_eq_ok.mp hnext
    exact absurd (require_eq_ok.mp hrequired) hbase

theorem next_eq_none_of_blocks {s : TemplateState} {goal : GoalRow} {occurrence : String}
    {outcome : OpenOutcome} {cron : Cron} (h : Blocks cron s goal occurrence outcome now) :
    cron.next goal.cronSchedule now = none := by
  cases hnext : cron.next goal.cronSchedule now with
  | none => rfl
  | some nextRunAt =>
      unfold Blocks TemplateState.materialise at h
      rw [hnext] at h
      dsimp only at h
      split at h <;>
        simp [TemplateState.advance, TemplateState.create, TemplateState.compensate,
          GoalRow.event] at h

/-! ## When the first occurrence is found -/

theorem findsNext_iff_of_accepted (h : Accepted engine expression) (hnow : 0 < now) :
    FindsNext engine expression now clock ↔ OccursWithinYear engine expression now := by
  constructor
  · intro hfinds minute hleast
    exact within_of_nextCronTime h hnow (hfinds.returns minute hleast)
  · intro hwithin
    have hraises : ∀ clock error, nextCronTime engine expression now clock = .error error →
        ∀ minute, ¬ Occurs engine expression now minute := by
      intro clock error herror minute hoccurs
      obtain ⟨first, hleast⟩ := exists_isLeast_occurs hoccurs
      obtain ⟨hafter, hbefore⟩ := hwithin first hleast
      rw [nextCronTime_of_isLeast h hnow hleast hafter hbefore] at herror
      cases herror
    refine ⟨fun minute hleast => ?_, hraises clock, ?_⟩
    · obtain ⟨hafter, hbefore⟩ := hwithin minute hleast
      exact nextCronTime_of_isLeast h hnow hleast hafter hbefore
    · rintro s goal occurrence outcome rfl hblocks
      have hnone : (nextCronTime engine goal.cronSchedule now now).toOption = none :=
        next_eq_none_of_blocks hblocks
      cases herror : nextCronTime engine goal.cronSchedule now now with
      | error error => exact hraises now error herror
      | ok time =>
          rw [herror] at hnone
          cases hnone

end

/-- **The next time of an accepted expression is its first occurrence**, and a template is blocked
only where it has none, exactly if that occurrence is within the year. -/
theorem findsNext_iff {engine : CronEngine} {expression : String} {now : Time}
    (hvalid : validateCron engine expression = .ok ()) (hnow : 0 < now) (clock : Time) :
    FindsNext engine expression now clock ↔ OccursWithinYear engine expression now :=
  findsNext_iff_of_accepted (accepted_of_validateCron hvalid) hnow

/-- Numbers of one or two digits in a zone without offset. -/
def plainEngine : CronEngine where
  int text :=
    match text.toList with
    | [c] => if c.isDigit then .ok (c.toNat - 48) else .error "invalid literal for int()"
    | [c, d] =>
        if c.isDigit ∧ d.isDigit then .ok ((c.toNat - 48) * 10 + (d.toNat - 48))
        else .error "invalid literal for int()"
    | _ => .error "invalid literal for int()"
  offset := 0

/-- Every fifteen minutes, from the first second on. -/
theorem quarters_findsNext :
    FindsNext plainEngine "*/15 * * * *" 1 0 ↔ OccursWithinYear plainEngine "*/15 * * * *" 1 :=
  findsNext_iff (by decide +kernel) (by norm_num) 0

/-- Midnight of the first of January 2028, the start of a leap year. -/
def leapMidnight : Int := 1830297600

theorem newYear_matches_iff (minute : Int) :
    MinuteMatches plainEngine "0 0 1 1 *" minute
      ↔ minute % 1440 = 0 ∧ (ord2ymd (719163 + minute / 1440).toNat).2 = (1, 1) := by
  have hwords : splitWords [] "0 0 1 1 *".toList = ["0", "0", "1", "1", "*"] := by decide +kernel
  have hzero : List.splitOn ',' ['0'] = [['0']] := by decide
  have hone : List.splitOn ',' ['1'] = [['1']] := by decide
  have hread0 : plainEngine.int (String.ofList ['0']) = .ok 0 := by decide +kernel
  have hread1 : plainEngine.int (String.ofList ['1']) = .ok 1 := by decide +kernel
  generalize hdate : ord2ymd (719163 + minute / 1440).toNat = date
  obtain ⟨year, month, day⟩ := date
  unfold MinuteMatches fieldsAt minuteFields
  rw [hwords]
  simp only [cronRanges, Admits, AdmitsChars, hdate]
  simp [hzero, hone, hread0, hread1]
  omega

theorem newYear_exists {minute : Int} (h : minute ≤ lastMinute) : Exists plainEngine minute := by
  refine ⟨h, ?_⟩
  show minute * 60 + 0 < (lastMinute + 1) * 60
  omega

theorem leapYear_days : ∀ day ∈ List.range 365, (ord2ymd (740347 + (day + 1))).2 ≠ (1, 1) := by
  decide +kernel

theorem newYear_isLeast :
    IsLeast {minute | Occurs plainEngine "0 0 1 1 *" leapMidnight minute} (21550 * 1440) := by
  constructor
  · refine ⟨by norm_num [leapMidnight, plainEngine], newYear_exists (by decide), ?_⟩
    exact (newYear_matches_iff _).mpr (by decide +kernel)
  · intro minute hoccurs
    obtain ⟨hmidnight, hdate⟩ := (newYear_matches_iff minute).mp hoccurs.agrees
    have hlater : leapMidnight < minute * 60 - 0 := by exact_mod_cast hoccurs.later
    unfold leapMidnight at hlater
    by_contra hbefore
    -- a midnight between them is that of one of the days between them
    have hdays := leapYear_days (minute / 1440 - 21185).toNat (List.mem_range.mpr (by omega))
    rw [show 740347 + ((minute / 1440 - 21185).toNat + 1) = (719163 + minute / 1440).toNat by omega]
      at hdays
    exact hdays hdate

/-- After the first midnight of a leap year the next New Year's day is not found. -/
theorem leapMidnight_findsNext_not :
    validateCron plainEngine "0 0 1 1 *" = .ok ()
      ∧ Occurs plainEngine "0 0 1 1 *" leapMidnight (21550 * 1440)
      ∧ ¬ FindsNext plainEngine "0 0 1 1 *" leapMidnight 0 := by
  have hvalid : validateCron plainEngine "0 0 1 1 *" = .ok () := by decide +kernel
  refine ⟨hvalid, newYear_isLeast.1, fun hfinds => ?_⟩
  have hnow : (0 : Time) < leapMidnight := by norm_num [leapMidnight]
  have hwithin := (findsNext_iff_of_accepted (accepted_of_validateCron hvalid) hnow).mp hfinds _
    newYear_isLeast
  revert hwithin
  decide +kernel

end Navi.Goals
