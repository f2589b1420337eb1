import Mathlib
import Navi.Base.Fields

/-!
# The kinds of personal resources

An adapter says which fields a kind has, how each is checked and what has to hold across them. A
patch is normalised with `existing`, under which nothing is required; what it yields is laid over
the stored data, and the whole is normalised again.
-/

namespace Navi.Personal

open Navi.Base

/-- A parsed date and time: microseconds on the clock, and its offset from UTC if it has one. -/
structure DateTime where
  micros : Int
  offset : Option Int

/-- `ends <= starts`; none where the comparison raises. -/
def DateTime.le (ends starts : DateTime) : Option Bool :=
  match ends.offset, starts.offset with
  | none, none => some (ends.micros ≤ starts.micros)
  | some endsOffset, some startsOffset =>
      some (ends.micros - endsOffset ≤ starts.micros - startsOffset)
  | _, _ => none

/-- `datetime.fromisoformat`, the zones that `ZoneInfo` finds, and the value of a digit in any
script. -/
structure ResourceEngine where
  fromIsoFormat : String → Option DateTime
  zoneKnown : String → Bool
  digit : Char → Option Nat
  digit_lt : ∀ c n, digit c = some n → n < 10
  digit_ascii : ∀ n, n < 10 → digit (Nat.digitChar n) = some n

/-! ## Checks of a value -/

def textsOf : List Json → Option (List String)
  | [] => some []
  | .str s :: items => (textsOf items).map (s :: ·)
  | _ :: _ => none

/-- `_required_text`. -/
def requiredText (key : String) : FieldRule where
  key := key
  absent := some ("personal resource " ++ key ++ " is required")
  check
    | .str s =>
        if strip s = "" then .error ("personal resource " ++ key ++ " is required")
        else .ok (.str (strip s))
    | _ => .error ("personal resource " ++ key ++ " is required")

/-- `_string_list`. -/
def stringList (key : String) : FieldRule where
  key := key
  absent := none
  check
    | .arr items =>
        match textsOf items with
        | some texts => .ok (.arr (((texts.map strip).filter (· ≠ "")).map .str))
        | none => .error ("personal resource " ++ key ++ " must be a string array")
    | _ => .error ("personal resource " ++ key ++ " must be a string array")

/-- `value.replace("Z", "+00:00")`. -/
def replaceZ (s : String) : String :=
  String.ofList (s.toList.flatMap fun c => if c = 'Z' then "+00:00".toList else [c])

/-- `_validate_datetime`. -/
def validateDatetime (engine : ResourceEngine) (key : String) : FieldRule where
  key := key
  absent := none
  check
    | .str s =>
        if s = "" ∨ (engine.fromIsoFormat (replaceZ s)).isSome then .ok (.str s)
        else .error ("personal resource " ++ key ++ " must be an ISO-8601 string")
    | _ => .error ("personal resource " ++ key ++ " must be an ISO-8601 string")

/-- `_validate_timezone`. -/
def validateTimezone (engine : ResourceEngine) : FieldRule where
  key := "timezone"
  absent := none
  check
    | .str s =>
        if s = "" ∨ engine.zoneKnown s then .ok (.str s)
        else .error "personal resource timezone must be an IANA timezone"
    | _ => .error "personal resource timezone must be an IANA timezone"

/-- `%H` of `strptime`. -/
def hourOf (engine : ResourceEngine) : List Char → Option Nat
  | [c] => engine.digit c
  | ['2', c] =>
      if c = '0' ∨ c = '1' ∨ c = '2' ∨ c = '3' then (engine.digit c).map (20 + ·) else none
  | ['1', c] => (engine.digit c).map (10 + ·)
  | ['0', c] => engine.digit c
  | _ => none

/-- `%M` of `strptime`. -/
def minuteOf (engine : ResourceEngine) : List Char → Option Nat
  | [c] => engine.digit c
  | [d, c] =>
      if ['0', '1', '2', '3', '4', '5'].contains d then
        (engine.digit d).bind fun tens => (engine.digit c).map (10 * tens + ·)
      else none
  | _ => none

/-- `datetime.strptime(value, "%H:%M")`. -/
def parseClock (engine : ResourceEngine) (s : String) : Option (Nat × Nat) :=
  match s.toList.splitOn ':' with
  | [hour, minute] =>
      (hourOf engine hour).bind fun h => (minuteOf engine minute).map fun m => (h, m)
  | _ => none

def twoDigits (n : Nat) : List Char := [Nat.digitChar (n / 10), Nat.digitChar (n % 10)]

/-- `strftime("%H:%M")`. -/
def clockText (clock : Nat × Nat) : String :=
  String.ofList (twoDigits clock.1 ++ ':' :: twoDigits clock.2)

/-- `_time_of_day`. -/
def timeOfDay (engine : ResourceEngine) (key : String) : FieldRule where
  key := key
  absent := none
  check
    | .str s =>
        match parseClock engine s with
        | some clock => .ok (.str (clockText clock))
        | none => .error ("personal resource " ++ key ++ " must use HH:MM")
    | _ => .error ("personal resource " ++ key ++ " must use HH:MM")

/-- `_bounded_int`. -/
def boundedInt (key : String) (minimum maximum : Int) : FieldRule where
  key := key
  absent := none
  check
    | .int n =>
        if minimum ≤ n ∧ n ≤ maximum then .ok (.int n)
        else .error ("personal resource " ++ key ++ " must be an integer from " ++ toString minimum
          ++ " to " ++ toString maximum)
    | _ => .error ("personal resource " ++ key ++ " must be an integer from " ++ toString minimum
        ++ " to " ++ toString maximum)

/-- `isinstance(data[key], bool)`. -/
def boolean (kind key : String) : FieldRule where
  key := key
  absent := none
  check
    | .bool b => .ok (.bool b)
    | _ => .error (kind ++ " " ++ key ++ " must be boolean")

/-- A text that `[^\s@]+@[^\s@]+\.[^\s@]+` matches. -/
def isEmail (s : String) : Bool :=
  !s.toList.any isSpace
    && match s.toList.splitOn '@' with
      | [user, domain] => !user.isEmpty && (domain.drop 1).dropLast.contains '.'
      | _ => false

/-- `_email_list`. -/
def emailList (key : String) : FieldRule where
  key := key
  absent := none
  check
    | .arr items =>
        if ((textsOf items).map (·.all isEmail)).getD false then .ok (.arr items)
        else .error ("personal resource " ++ key ++ " contains an invalid email address")
    | _ => .error ("personal resource " ++ key ++ " contains an invalid email address")

/-! ## Adapters -/

/-- `PersonalResourceAdapter`: the fields, the checks of each before and after the one across
them. -/
structure PersonalResourceAdapter where
  kind : String
  fields : List String
  before : List FieldRule
  across : Bool → Dict → Option String
  after : List FieldRule

/-- `_allowed`. -/
def allowed (data : Dict) (fields : List String) : Except String Dict :=
  let unknown := ((data.map Prod.fst).filter fun key => !fields.contains key).dedup
  if unknown ≠ [] then
    .error ("unsupported resource fields: "
      ++ String.intercalate ", " (unknown.mergeSort fun a b => decide (a ≤ b)))
  else .ok (data.filter fun entry => data.get entry.1 ≠ some .null)

/-- `normalize`. -/
def PersonalResourceAdapter.normalize (adapter : PersonalResourceAdapter) (existing : Bool)
    (data : Dict) : Except String Dict := do
  let normalized ← allowed data adapter.fields
  let normalized ← applyFields existing adapter.before normalized
  match adapter.across existing normalized with
  | some message => .error message
  | none => applyFields existing adapter.after normalized

/-- What `_validate_datetime` returns. -/
def datetimeAt (engine : ResourceEngine) (d : Dict) (key : String) : Option DateTime :=
  match d.get key with
  | some (.str s) => if s = "" then none else engine.fromIsoFormat (replaceZ s)
  | _ => none

def endsAfterStarts (engine : ResourceEngine) (d : Dict) : Option String :=
  match datetimeAt engine d "starts_at", datetimeAt engine d "ends_at" with
  | some starts, some ends =>
      match ends.le starts with
      | none => some "calendar_event starts_at and ends_at must use compatible timezones"
      | some true => some "calendar_event ends_at must be after starts_at"
      | some false => none
  | _, _ => none

/-- `_CalendarAdapter`. -/
def calendarAdapter (engine : ResourceEngine) : PersonalResourceAdapter where
  kind := "calendar_event"
  fields := ["title", "starts_at", "ends_at", "timezone", "location", "notes", "attendees"]
  before := [requiredText "title", requiredText "starts_at", validateDatetime engine "starts_at",
    validateDatetime engine "ends_at", validateTimezone engine]
  across _ d := endsAfterStarts engine d
  after := [stringList "attendees"]

/-- `_ReminderAdapter`. -/
def reminderAdapter (engine : ResourceEngine) : PersonalResourceAdapter where
  kind := "reminder"
  fields := ["title", "due_at", "timezone", "notes", "recurrence", "priority", "completed"]
  before := [requiredText "title", validateDatetime engine "due_at", validateTimezone engine,
    boundedInt "priority" 0 5, boolean "reminder" "completed"]
  across _ _ := none
  after := []

/-- `_ContactAdapter`. -/
def contactAdapter : PersonalResourceAdapter where
  kind := "contact"
  fields := ["display_name", "emails", "phones", "organization", "notes", "tags"]
  before := [requiredText "display_name", stringList "emails", stringList "phones",
    stringList "tags", emailList "emails"]
  across _ _ := none
  after := []

def hasRecipient (existing : Bool) (d : Dict) : Option String :=
  if existing = false ∧ ((d.get "to").map Json.truthy).getD false = false then
    some "mail_draft to requires at least one recipient"
  else none

/-- `_MailDraftAdapter`. -/
def mailDraftAdapter : PersonalResourceAdapter where
  kind := "mail_draft"
  fields := ["to", "cc", "bcc", "subject", "body", "reply_to"]
  before := [stringList "to", emailList "to", stringList "cc", emailList "cc", stringList "bcc",
    emailList "bcc"]
  across := hasRecipient
  after := [requiredText "subject", requiredText "body"]

/-- Quiet hours have a start and an end, or neither. -/
def quietHoursPaired (d : Dict) : Option String :=
  if (d.get "quiet_hours_start").isSome ≠ (d.get "quiet_hours_end").isSome then
    some "attention_policy quiet hours require both start and end"
  else none

/-- `_AttentionPolicyAdapter`; it asks for both even of a patch. -/
def attentionPolicyAdapter (engine : ResourceEngine) : PersonalResourceAdapter where
  kind := "attention_policy"
  fields := ["channel", "enabled", "quiet_hours_start", "quiet_hours_end", "timezone",
    "minimum_priority", "categories"]
  before := [requiredText "channel", boolean "attention_policy" "enabled",
    stringList "categories", validateTimezone engine, timeOfDay engine "quiet_hours_start",
    timeOfDay engine "quiet_hours_end"]
  across _ d := quietHoursPaired d
  after := [boundedInt "minimum_priority" 0 5]

/-- `PersonalResourceAdapterRegistry`. -/
def builtins (engine : ResourceEngine) : List PersonalResourceAdapter :=
  [calendarAdapter engine, reminderAdapter engine, contactAdapter, mailDraftAdapter,
    attentionPolicyAdapter engine]

/-- `get` of the registry. -/
def adapterOf (engine : ResourceEngine) (kind : String) : Option PersonalResourceAdapter :=
  (builtins engine).find? (·.kind = kind)

end Navi.Personal
