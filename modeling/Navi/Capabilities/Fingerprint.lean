import Navi.Base.JsonText
import Navi.Capabilities.TurnApprovals

/-!
# The fingerprint of approved arguments

`canonical_approval_args_json`: the text an approval is compared by. Values that must
not be persisted are in it as an object with the HMAC of their text. The hash, the
redaction and the lower case of names are parameters.
-/

namespace Navi.Capabilities

open Navi.Base Navi.Base.Json

/-- What the canonical form is computed with. -/
structure Protection where
  /-- `hmac.new(key, payload.encode("utf-8"), sha256).hexdigest()`. -/
  hexdigest : String → String
  /-- Two payloads with one digest are one. -/
  collisionFree : Function.Injective hexdigest
  /-- `redact_personal_data`. -/
  redactPersonalData : String → String
  /-- `str.lower`. -/
  lower : String → String
  /-- `float.__repr__`. -/
  floats : FloatText

/-- `_REDACT_FIELD_NAMES`. -/
def redactFieldNames : List String :=
  ["api_key", "apikey", "approval_code", "authorization", "bearer", "client_secret", "password",
    "private_key", "secret", "session_token", "token", "verification_code"]

/-- `_PERSONAL_FIELD_NAMES`. -/
def personalFieldNames : List String :=
  ["address", "attendees", "bcc", "body", "cc", "display_name", "email", "email_address", "emails",
    "location", "notes", "other_peer_id", "other_sender_id", "peer_id", "phone", "phone_number",
    "phones", "recipients", "reply_to", "sender_id", "subject", "telephone", "title", "to"]

/-- `_APPROVAL_PRIVATE_FIELD_NAMES`. -/
def approvalPrivateFieldNames : List String :=
  ["content", "message", "objective", "prompt", "query"]

/-- `s.endswith(suffix)`. -/
def endsWith (s suffix : String) : Bool := suffix.toList.isSuffixOf s.toList

/-- `s.startswith("_")`. -/
def startsWithUnderscore (s : String) : Bool := s.toList.head? = some '_'

namespace Protection

variable (protection : Protection)

/-- `_is_secret_field_name`. -/
def isSecretFieldName (value : String) : Bool :=
  let normalized := protection.lower (strip value)
  redactFieldNames.contains normalized
    || ["_api_key", "-api-key", "_secret", "_token"].any (endsWith normalized)

/-- The value of this field is hidden, whatever it is. -/
def hidesField (fieldName : String) : Bool :=
  let normalized := protection.lower (strip fieldName)
  protection.isSecretFieldName normalized || personalFieldNames.contains normalized
    || approvalPrivateFieldNames.contains normalized

/-- `_approval_hmac`. -/
def approvalHmac (value : Json) : String := protection.hexdigest (dumps protection.floats [] value)

/-- The object that stands for a hidden value. -/
def hidden (value : Json) : Json := .obj [("$approval_hmac", .str (protection.approvalHmac value))]

mutual

/-- `_protect_approval_value`. -/
def protectApprovalValue (fieldName : String) : Json → Json
  | .obj entries =>
      if protection.hidesField fieldName then protection.hidden (.obj entries)
      else .obj (protectEntries entries)
  | .arr items =>
      if protection.hidesField fieldName then protection.hidden (.arr items)
      else .arr (protectItems items)
  | .str s =>
      if protection.hidesField fieldName then protection.hidden (.str s)
      else if protection.redactPersonalData s ≠ s then protection.hidden (.str s)
      else .str s
  | value => if protection.hidesField fieldName then protection.hidden value else value

/-- The entries of an object, each under its own name. -/
def protectEntries : List (String × Json) → List (String × Json)
  | [] => []
  | (key, value) :: rest => (key, protectApprovalValue key value) :: protectEntries rest

/-- The items of a list, under no name. -/
def protectItems : List Json → List Json
  | [] => []
  | item :: rest => protectApprovalValue "" item :: protectItems rest

end

/-- The argument is left out of the fingerprint: it is one of the three free texts, or a
runtime-derived field. -/
def leftOut (key : String) : Bool :=
  key = "thought" || key = "reasoning" || key = "rationale" || startsWithUnderscore key

/-- `filtered`. -/
def filtered (args : Dict) : Dict := args.filter fun entry => !leftOut entry.1

/-- `canonical_approval_args_json`. -/
def canonicalApprovalArgsJson (args : Dict) : String :=
  dumps protection.floats [' '] (protection.protectApprovalValue "" (.obj (filtered args)))

end Protection

/-- `prepare_capability_call`, where it succeeds. `resolution` is the addresses and the
port it found for an `http_request`; the other policies resolve nothing. -/
def prepareCapabilityCall (args : Dict) (resolution : Option (List String × Nat)) : Dict :=
  match resolution with
  | none => args
  | some (addresses, port) =>
      (args.put "_resolved_addresses" (.arr (addresses.map .str))).put "_resolved_port" (.int port)

/-- The two calls have the same value for this argument, up to the order of keys. -/
def SameArgument (a b : Dict) (key : String) : Prop :=
  (a.get key).map sortKeys = (b.get key).map sortKeys

instance (a b : Dict) (key : String) : Decidable (SameArgument a b key) :=
  inferInstanceAs (Decidable (_ = _))

/-! ## Look-alikes -/

/-- The value looks like one that stands for a hidden value. -/
def lookalike : Json → Bool
  | .obj [(key, .str _)] => key = "$approval_hmac"
  | _ => false

mutual

/-- The value holds a look-alike, outside the fields that are hidden as a whole. -/
def forged (protection : Protection) (fieldName : String) : Json → Bool
  | .obj entries =>
      !protection.hidesField fieldName
        && (lookalike (.obj entries) || forgedEntries protection entries)
  | .arr items => !protection.hidesField fieldName && forgedItems protection items
  | _ => false

def forgedEntries (protection : Protection) : List (String × Json) → Bool
  | [] => false
  | (key, value) :: rest => forged protection key value || forgedEntries protection rest

def forgedItems (protection : Protection) : List Json → Bool
  | [] => false
  | item :: rest => forged protection "" item || forgedItems protection rest

end

/-- No argument in the fingerprint holds a look-alike. -/
def Genuine (protection : Protection) (args : Dict) : Prop :=
  forgedEntries protection (Protection.filtered args) = false

/-! ## Hidden values -/

section

variable {protection : Protection}

theorem protectEntries_eq_map (entries : List (String × Json)) :
    protection.protectEntries entries
      = entries.map fun entry => (entry.1, protection.protectApprovalValue entry.1 entry.2) := by
  induction entries with
  | nil => simp [Protection.protectEntries]
  | cons entry rest ih => simp [Protection.protectEntries, ih]

theorem forgedEntries_eq_any (entries : List (String × Json)) :
    forgedEntries protection entries
      = entries.any fun entry => forged protection entry.1 entry.2 := by
  induction entries with
  | nil => simp [forgedEntries]
  | cons entry rest ih => simp [forgedEntries, ih]

theorem approvalHmac_sortKeys (v : Json) :
    protection.approvalHmac (sortKeys v) = protection.approvalHmac v :=
  congrArg protection.hexdigest (dumps_eq_iff.mpr (sortKeys_sortKeys v))

theorem hidden_inj {v w : Json} (h : protection.hidden v = protection.hidden w) :
    sortKeys v = sortKeys w := by
  have hdigest : protection.approvalHmac v = protection.approvalHmac w := by
    simpa [Protection.hidden] using h
  exact dumps_eq_iff.mp (protection.collisionFree hdigest)

theorem hidden_sortKeys (v : Json) : protection.hidden (sortKeys v) = protection.hidden v := by
  simp only [Protection.hidden, approvalHmac_sortKeys]

theorem sortKeys_hidden (v : Json) : sortKeys (protection.hidden v) = protection.hidden v := by
  simp [Protection.hidden, sortKeys, sortEntries]

theorem protect_of_hides {fieldName : String} (h : protection.hidesField fieldName = true)
    (v : Json) : protection.protectApprovalValue fieldName v = protection.hidden v := by
  cases v with
  | arr | obj | str | null | bool | int | float => simp [Protection.protectApprovalValue, h]

def plain : Json → Bool
  | .arr _ | .obj _ => false
  | _ => true

theorem protect_eq_plain {fieldName : String} {u v : Json} (hplain : plain u = true)
    (h : protection.protectApprovalValue fieldName v = u) : v = u := by
  have hnever : ∀ w, protection.hidden w ≠ u := by
    rintro w rfl
    cases hplain
  cases hhides : protection.hidesField fieldName with
  | true =>
      rw [protect_of_hides hhides] at h
      exact absurd h (hnever v)
  | false =>
      cases v with
      | str t =>
          by_cases hredacted : protection.redactPersonalData t ≠ t
          · simp only [Protection.protectApprovalValue, hhides, Bool.false_eq_true, if_false,
              hredacted, ne_eq, not_false_eq_true, if_true] at h
            exact absurd h (hnever _)
          · simpa [Protection.protectApprovalValue, hhides, hredacted] using h
      | obj entries =>
          simp only [Protection.protectApprovalValue, hhides, Bool.false_eq_true, if_false] at h
          subst h
          cases hplain
      | arr items =>
          simp only [Protection.protectApprovalValue, hhides, Bool.false_eq_true, if_false] at h
          subst h
          cases hplain
      | null | bool | int | float => simpa [Protection.protectApprovalValue, hhides] using h

theorem lookalike_of_protect {entries : List (String × Json)} {v : Json}
    (h : Json.obj (protection.protectEntries entries) = protection.hidden v) :
    lookalike (.obj entries) = true := by
  rw [protectEntries_eq_map] at h
  obtain ⟨entry, rfl, hentry⟩ := List.map_eq_singleton_iff.mp (Json.obj.inj h)
  obtain ⟨key, value⟩ := entry
  obtain ⟨rfl, hvalue⟩ := Prod.mk.inj hentry
  obtain rfl := protect_eq_plain rfl hvalue
  rfl

/-! ## The order of keys -/

mutual

theorem protect_sortKeys (fieldName : String) (v : Json) :
    protection.protectApprovalValue fieldName (sortKeys v)
      = sortKeys (protection.protectApprovalValue fieldName v) := by
  cases hhides : protection.hidesField fieldName with
  | true =>
      rw [protect_of_hides hhides, protect_of_hides hhides, hidden_sortKeys, sortKeys_hidden]
  | false =>
      cases v with
      | obj entries =>
          have hentries : protection.protectEntries (sortByKey (sortEntries entries))
              = sortByKey (protection.protectEntries (sortEntries entries)) := by
            rw [protectEntries_eq_map, protectEntries_eq_map]
            apply map_sortByKey
            intro entry
            rfl
          rw [sortKeys_obj]
          simp only [Protection.protectApprovalValue, hhides, Bool.false_eq_true, if_false]
          rw [hentries, protectEntries_sortEntries entries, sortKeys_obj]
      | arr items =>
          simp only [sortKeys, Protection.protectApprovalValue, hhides, Bool.false_eq_true,
            if_false, protectItems_sortItems items]
      | str s =>
          by_cases hredacted : protection.redactPersonalData s ≠ s
          · simp [sortKeys, Protection.protectApprovalValue, hhides, hredacted, sortKeys_hidden]
          · simp [sortKeys, Protection.protectApprovalValue, hhides, hredacted]
      | null | bool | int | float => simp [sortKeys, Protection.protectApprovalValue, hhides]

theorem protectEntries_sortEntries (entries : List (String × Json)) :
    protection.protectEntries (sortEntries entries)
      = sortEntries (protection.protectEntries entries) := by
  cases entries with
  | nil => simp only [sortEntries, Protection.protectEntries]
  | cons entry rest =>
      obtain ⟨key, value⟩ := entry
      simp only [sortEntries, Protection.protectEntries, protect_sortKeys key value,
        protectEntries_sortEntries rest]

theorem protectItems_sortItems (items : List Json) :
    protection.protectItems (sortItems items) = sortItems (protection.protectItems items) := by
  cases items with
  | nil => simp only [sortItems, Protection.protectItems]
  | cons item rest =>
      simp only [sortItems, Protection.protectItems, protect_sortKeys "" item,
        protectItems_sortItems rest]

end

theorem lookalike_iff {entries : List (String × Json)} :
    lookalike (.obj entries) = true ↔ ∃ s, entries = [("$approval_hmac", .str s)] := by
  constructor
  · intro h
    unfold lookalike at h
    split at h
    next key s hobj =>
      obtain rfl := of_decide_eq_true h
      exact ⟨s, Json.obj.inj hobj⟩
    next => cases h
  · rintro ⟨s, rfl⟩
    rfl

theorem lookalike_sortKeys (entries : List (String × Json)) :
    lookalike (sortKeys (.obj entries)) = lookalike (.obj entries) := by
  rw [sortKeys_obj, Bool.eq_iff_iff, lookalike_iff, lookalike_iff]
  constructor
  · rintro ⟨s, hs⟩
    have hperm := sortByKey_perm (sortEntries entries)
    rw [hs] at hperm
    have hsingle := List.singleton_perm.mp hperm
    rw [sortEntries_eq_map] at hsingle
    obtain ⟨entry, rfl, hentry⟩ := List.map_eq_singleton_iff.mp hsingle.symm
    obtain ⟨key, value⟩ := entry
    obtain ⟨rfl, hvalue⟩ := Prod.mk.inj hentry
    cases value with
    | str t => exact ⟨t, rfl⟩
    | null | bool | int | float | arr | obj => simp [sortKeys] at hvalue
  · rintro ⟨s, rfl⟩
    exact ⟨s, by simp [sortEntries, sortKeys, sortByKey]⟩

mutual

theorem forged_sortKeys (fieldName : String) (v : Json) :
    forged protection fieldName (sortKeys v) = forged protection fieldName v := by
  cases v with
  | obj entries =>
      have hentries : forgedEntries protection (sortByKey (sortEntries entries))
          = forgedEntries protection entries := by
        rw [← forgedEntries_sortEntries entries, forgedEntries_eq_any, forgedEntries_eq_any]
        exact (sortByKey_perm (sortEntries entries)).any_eq
      have hlookalike := lookalike_sortKeys entries
      rw [sortKeys_obj] at hlookalike ⊢
      simp only [forged, hlookalike, hentries]
  | arr items => simp only [sortKeys, forged, forgedItems_sortItems items]
  | null | bool | int | float | str => simp only [sortKeys]

theorem forgedEntries_sortEntries (entries : List (String × Json)) :
    forgedEntries protection (sortEntries entries) = forgedEntries protection entries := by
  cases entries with
  | nil => simp only [sortEntries]
  | cons entry rest =>
      obtain ⟨key, value⟩ := entry
      simp only [sortEntries, forgedEntries, forged_sortKeys key value,
        forgedEntries_sortEntries rest]

theorem forgedItems_sortItems (items : List Json) :
    forgedItems protection (sortItems items) = forgedItems protection items := by
  cases items with
  | nil => simp only [sortItems]
  | cons item rest =>
      simp only [sortItems, forgedItems, forged_sortKeys "" item, forgedItems_sortItems rest]

end

/-! ## Genuine arguments -/

mutual

theorem protect_inj (fieldName : String) (v w : Json) (hv : sortKeys v = v) (hw : sortKeys w = w)
    (hgenuine : forged protection fieldName v = false)
    (hgenuine' : forged protection fieldName w = false)
    (h : protection.protectApprovalValue fieldName v
      = protection.protectApprovalValue fieldName w) : v = w := by
  have hsame : protection.hidden v = protection.hidden w → v = w := fun hhidden => by
    rw [← hv, ← hw, hidden_inj hhidden]
  cases hhides : protection.hidesField fieldName with
  | true =>
      rw [protect_of_hides hhides, protect_of_hides hhides] at h
      exact hsame h
  | false =>
      -- an object is never taken for the stand-in of a text
      have hnever : ∀ (entries : List (String × Json)) (s : String),
          forged protection fieldName (.obj entries) = false →
          protection.protectApprovalValue fieldName (.obj entries)
            ≠ protection.protectApprovalValue fieldName (.str s) := by
        intro entries s hentries heq
        simp only [forged, hhides, Bool.not_false, Bool.true_and, Bool.or_eq_false_iff] at hentries
        simp only [Protection.protectApprovalValue, hhides, Bool.false_eq_true, if_false] at heq
        split at heq
        next => exact absurd (lookalike_of_protect heq) (by simp [hentries.1])
        next => cases heq
      cases v with
      | obj entries =>
          cases w with
          | obj entries' =>
              simp only [forged, hhides, Bool.not_false, Bool.true_and,
                Bool.or_eq_false_iff] at hgenuine hgenuine'
              simp only [Protection.protectApprovalValue, hhides, Bool.false_eq_true, if_false,
                Json.obj.injEq] at h
              rw [protectEntries_inj entries entries' (sortEntries_of_sorted hv)
                (sortEntries_of_sorted hw) hgenuine.2 hgenuine'.2 h]
          | str s => exact absurd h (hnever entries s hgenuine)
          | null | bool | int | float | arr =>
              simp [Protection.protectApprovalValue, hhides] at h
      | arr items =>
          cases w with
          | arr items' =>
              simp only [forged, hhides, Bool.not_false, Bool.true_and] at hgenuine hgenuine'
              simp only [Protection.protectApprovalValue, hhides, Bool.false_eq_true, if_false,
                Json.arr.injEq] at h
              simp only [sortKeys, Json.arr.injEq] at hv hw
              rw [protectItems_inj items items' hv hw hgenuine hgenuine' h]
          | str s =>
              simp only [Protection.protectApprovalValue, hhides, Bool.false_eq_true, if_false] at h
              split at h
              next => cases h
              next => cases h
          | null | bool | int | float | obj =>
              simp [Protection.protectApprovalValue, hhides] at h
      | str s =>
          cases w with
          | obj entries => exact absurd h.symm (hnever entries s hgenuine')
          | str t =>
              by_cases hs : protection.redactPersonalData s ≠ s
              · by_cases ht : protection.redactPersonalData t ≠ t
                · simp only [Protection.protectApprovalValue, hhides, Bool.false_eq_true, if_false,
                    hs, ht, ne_eq, not_false_eq_true, if_true] at h
                  exact hsame h
                · simp [Protection.protectApprovalValue, hhides, hs, ht, Protection.hidden] at h
              · have hleft : protection.protectApprovalValue fieldName (.str s) = .str s := by
                  simp [Protection.protectApprovalValue, hhides, hs]
                rw [hleft] at h
                exact (protect_eq_plain rfl h.symm).symm
          | null | bool | int | float | arr =>
              simp only [Protection.protectApprovalValue, hhides, Bool.false_eq_true, if_false] at h
              split at h
              next => cases h
              next => cases h
      | null | bool | int | float =>
          simp only [Protection.protectApprovalValue, hhides, Bool.false_eq_true, if_false] at h
          exact (protect_eq_plain rfl h.symm).symm

theorem protectEntries_inj (entries entries' : List (String × Json))
    (hsorted : sortEntries entries = entries) (hsorted' : sortEntries entries' = entries')
    (hgenuine : forgedEntries protection entries = false)
    (hgenuine' : forgedEntries protection entries' = false)
    (h : protection.protectEntries entries = protection.protectEntries entries') :
    entries = entries' := by
  cases entries with
  | nil =>
      cases entries' with
      | nil => rfl
      | cons entry' rest' => simp [Protection.protectEntries] at h
  | cons entry rest =>
      obtain ⟨key, value⟩ := entry
      cases entries' with
      | nil => simp [Protection.protectEntries] at h
      | cons entry' rest' =>
          obtain ⟨key', value'⟩ := entry'
          simp only [Protection.protectEntries, List.cons.injEq, Prod.mk.injEq] at h
          simp only [sortEntries, List.cons.injEq, Prod.mk.injEq, true_and] at hsorted hsorted'
          simp only [forgedEntries, Bool.or_eq_false_iff] at hgenuine hgenuine'
          obtain ⟨⟨rfl, hvalue⟩, hrest⟩ := h
          rw [protect_inj key value value' hsorted.1 hsorted'.1 hgenuine.1 hgenuine'.1 hvalue,
            protectEntries_inj rest rest' hsorted.2 hsorted'.2 hgenuine.2 hgenuine'.2 hrest]

theorem protectItems_inj (items items' : List Json)
    (hsorted : sortItems items = items) (hsorted' : sortItems items' = items')
    (hgenuine : forgedItems protection items = false)
    (hgenuine' : forgedItems protection items' = false)
    (h : protection.protectItems items = protection.protectItems items') : items = items' := by
  cases items with
  | nil =>
      cases items' with
      | nil => rfl
      | cons item' rest' => simp [Protection.protectItems] at h
  | cons item rest =>
      cases items' with
      | nil => simp [Protection.protectItems] at h
      | cons item' rest' =>
          simp only [Protection.protectItems, List.cons.injEq] at h
          simp only [sortItems, List.cons.injEq] at hsorted hsorted'
          simp only [forgedItems, Bool.or_eq_false_iff] at hgenuine hgenuine'
          rw [protect_inj "" item item' hsorted.1 hsorted'.1 hgenuine.1 hgenuine'.1 h.1,
            protectItems_inj rest rest' hsorted.2 hsorted'.2 hgenuine.2 hgenuine'.2 h.2]

end

theorem filtered_prepareCapabilityCall (args : Dict) (resolution : Option (List String × Nat)) :
    Protection.filtered (prepareCapabilityCall args resolution) = Protection.filtered args := by
  have hput : ∀ (args : Dict) (key : String) (value : Json), Protection.leftOut key = true →
      Protection.filtered (args.put key value) = Protection.filtered args := by
    intro args key value hkey
    simp only [Protection.filtered, Dict.put, Dict.pop, List.filter_cons, hkey, Bool.not_true,
      Bool.false_eq_true, if_false, List.filter_filter]
    refine List.filter_congr fun entry _ => ?_
    by_cases hentry : entry.1 = key
    · simp [hentry, hkey]
    · simp [hentry]
  cases resolution with
  | none => rfl
  | some found =>
      obtain ⟨addresses, port⟩ := found
      rw [prepareCapabilityCall, hput _ _ _ (by decide), hput _ _ _ (by decide)]

theorem sameArgument_of_canonical {a b : Dict} (ha : Genuine protection a)
    (hb : Genuine protection b)
    (h : protection.canonicalApprovalArgsJson a = protection.canonicalApprovalArgsJson b)
    {key : String} (hkey : Protection.leftOut key = false) : SameArgument a b key := by
  have hsorted := dumps_eq_iff.mp h
  rw [← protect_sortKeys, ← protect_sortKeys] at hsorted
  have hkept : sortKeys (.obj (Protection.filtered a))
      = sortKeys (.obj (Protection.filtered b)) := by
    cases hhides : protection.hidesField "" with
    | true =>
        rw [protect_of_hides hhides, protect_of_hides hhides] at hsorted
        have hinj := hidden_inj hsorted
        rwa [sortKeys_sortKeys, sortKeys_sortKeys] at hinj
    | false =>
        -- the arguments themselves are objects, so only their entries have to be genuine
        have hentries : ∀ args : Dict, Genuine protection args →
            forgedEntries protection (sortByKey (sortEntries (Protection.filtered args)))
              = false := by
          intro args hargs
          rw [forgedEntries_eq_any, (sortByKey_perm _).any_eq, ← forgedEntries_eq_any,
            forgedEntries_sortEntries]
          exact hargs
        have hordered : ∀ args : Dict,
            sortEntries (sortByKey (sortEntries (Protection.filtered args)))
              = sortByKey (sortEntries (Protection.filtered args)) := by
          intro args
          rw [sortEntries_sortByKey, sortEntries_sortEntries]
        rw [sortKeys_obj, sortKeys_obj] at hsorted ⊢
        simp only [Protection.protectApprovalValue, hhides, Bool.false_eq_true, if_false,
          Json.obj.injEq] at hsorted
        rw [protectEntries_inj _ _ (hordered a) (hordered b) (hentries a ha) (hentries b hb)
          hsorted]
  have hlookup : ∀ args : Dict,
      Dict.get (sortByKey (sortEntries (Protection.filtered args))) key
        = (args.get key).map sortKeys := by
    intro args
    rw [get_sortByKey, get_sortEntries, Protection.filtered,
      Dict.get_filter_key args (fun k => !Protection.leftOut k), hkey]
    rfl
  rw [sortKeys_obj, sortKeys_obj] at hkept
  unfold SameArgument
  rw [← hlookup a, ← hlookup b, Json.obj.inj hkept]

theorem canonicalApprovalArgsJson_ne_empty (args : Dict) :
    protection.canonicalApprovalArgsJson args ≠ "" := by
  intro h
  have hchars : render protection.floats [' '] (sortKeys (protection.protectApprovalValue ""
      (.obj (Protection.filtered args)))) = [] := String.ofList_injective h
  have hobj : ∃ entries, protection.protectApprovalValue "" (.obj (Protection.filtered args))
      = .obj entries := by
    cases hhides : protection.hidesField "" with
    | true => exact ⟨_, protect_of_hides hhides _⟩
    | false =>
        exact ⟨protection.protectEntries (Protection.filtered args), by
          simp [Protection.protectApprovalValue, hhides]⟩
  obtain ⟨entries, hentries⟩ := hobj
  rw [hentries, sortKeys_obj] at hchars
  simp [render] at hchars

end

/-- Two genuine calls with one fingerprint agree on every argument that is in it, and an
approval that a lookup finds for a call was approved for those arguments. -/
theorem fingerprint_identifies_arguments (protection : Protection) (a b : Dict)
    (resolved resolved' : Option (List String × Nat)) (ha : Genuine protection a)
    (hb : Genuine protection b) :
    (protection.canonicalApprovalArgsJson (prepareCapabilityCall a resolved)
        = protection.canonicalApprovalArgsJson (prepareCapabilityCall b resolved') →
      ∀ key, Protection.leftOut key = false → SameArgument a b key)
    ∧ ∀ (runs : List ApprovalRun) (approvals : List CapabilityApproval) (governedRunId : String)
        (request : TurnRequest) (approval : CapabilityApproval),
      request.argsJson
          = protection.canonicalApprovalArgsJson (prepareCapabilityCall b resolved') →
      approvedForCall runs approvals governedRunId request = some approval →
      approval.argsJson
          = protection.canonicalApprovalArgsJson (prepareCapabilityCall a resolved) →
      ∀ key, Protection.leftOut key = false → SameArgument a b key := by
  have hagree : protection.canonicalApprovalArgsJson (prepareCapabilityCall a resolved)
        = protection.canonicalApprovalArgsJson (prepareCapabilityCall b resolved') →
      ∀ key, Protection.leftOut key = false → SameArgument a b key := by
    intro h key hkey
    unfold Protection.canonicalApprovalArgsJson at h
    rw [filtered_prepareCapabilityCall, filtered_prepareCapabilityCall] at h
    exact sameArgument_of_canonical ha hb h hkey
  refine ⟨hagree, fun runs approvals governedRunId request approval hrequest hfound happroved => ?_⟩
  obtain ⟨-, -, hargs⟩ := approvedForCall_spec hfound
  have hmatch : approval.argsJson = request.argsJson := by
    refine hargs.resolve_left fun hempty => ?_
    rw [hrequest] at hempty
    exact canonicalApprovalArgsJson_ne_empty _ hempty
  exact hagree (by rw [← happroved, hmatch, hrequest])

/-! ## A protection, and what it confuses -/

/-- A digest in two letters: a character is a run of the first, closed by the second. -/
def letters : List Char → List Char
  | [] => []
  | c :: rest => List.replicate c.toNat 'a' ++ 'b' :: letters rest

theorem letters_injective : Function.Injective letters := by
  intro s t h
  induction s generalizing t with
  | nil =>
      cases t with
      | nil => rfl
      | cons d t => simp [letters] at h
  | cons c s ih =>
      cases t with
      | nil => simp [letters] at h
      | cons d t =>
          have hnone : ∀ n, 'b' ∉ List.replicate n 'a' := fun n hmem =>
            absurd (List.eq_of_mem_replicate hmem) (by decide)
          simp only [letters] at h
          obtain ⟨hrun, hrest⟩ := append_marker_inj (hnone _) (hnone _) h
          have hnat : c.toNat = d.toNat := by simpa using congrArg List.length hrun
          rw [Char.toNat_inj.mp hnat, ih hrest]

theorem mem_letters {s : List Char} {c : Char} (h : c ∈ letters s) : c = 'a' ∨ c = 'b' := by
  induction s with
  | nil => cases h
  | cons d s ih =>
      rcases List.mem_append.mp h with hrun | hrest
      · exact .inl (List.eq_of_mem_replicate hrun)
      · rcases List.mem_cons.mp hrest with hclose | hlater
        · exact .inr hclose
        · exact ih hlater

/-- An address that is redacted, and no other text. -/
def mail : String := "ann@example.com"

/-- The two-letter digest, on arguments whose names are in lower case and hold at most one
text to redact. -/
def plainProtection : Protection where
  hexdigest payload := String.ofList (letters payload.toList)
  collisionFree := by
    intro s t h
    exact String.toList_inj.mp (letters_injective (String.ofList_injective h))
  redactPersonalData s := if s = mail then "[REDACTED_EMAIL]" else s
  lower s := s
  floats := fractionText

theorem redact_of_ne {s : String} (h : s ≠ mail) : plainProtection.redactPersonalData s = s :=
  if_neg h

def commandArgs : Dict := [("command", .str "sync")]

/-- The same command, with one more argument, which the runtime derives nowhere. -/
def scopedArgs : Dict := [("command", .str "sync"), ("_scope", .str "all")]

def mailArgs : Dict := [("owner", .str mail)]

/-- The stand-in of that argument, as an argument. -/
def standInArgs : Dict :=
  [("owner", .obj [("$approval_hmac", .str (plainProtection.approvalHmac (.str mail)))])]

/-- The arguments of a command with options and an address to redact. -/
def optionArgs : Dict :=
  [("command", .str "sync"), ("options", .obj [("depth", .int 2), ("owner", .str mail)])]

/-- The same ones in another order, and with the model's thought. -/
def reorderedArgs : Dict :=
  [("thought", .str "look first"),
    ("options", .obj [("owner", .str mail), ("depth", .int 2)]), ("command", .str "sync")]

/-- They have one fingerprint. -/
theorem fingerprint_identifies_command :
    (plainProtection.canonicalApprovalArgsJson (prepareCapabilityCall optionArgs none)
        = plainProtection.canonicalApprovalArgsJson
            (prepareCapabilityCall reorderedArgs (some (["198.18.0.58"], 443)))
      ∧ ∀ key, Protection.leftOut key = false → SameArgument optionArgs reorderedArgs key) := by
  have hgenuine : Genuine plainProtection optionArgs := rfl
  have hgenuine' : Genuine plainProtection reorderedArgs := rfl
  have hsorted : sortKeys (.obj (Protection.filtered optionArgs))
      = sortKeys (.obj (Protection.filtered reorderedArgs)) := by decide +kernel
  have hcanonical :
      plainProtection.canonicalApprovalArgsJson (prepareCapabilityCall optionArgs none)
      = plainProtection.canonicalApprovalArgsJson
          (prepareCapabilityCall reorderedArgs (some (["198.18.0.58"], 443))) := by
    unfold Protection.canonicalApprovalArgsJson
    rw [filtered_prepareCapabilityCall, filtered_prepareCapabilityCall, dumps_eq_iff,
      ← protect_sortKeys, ← protect_sortKeys, hsorted]
  exact ⟨hcanonical, (fingerprint_identifies_arguments plainProtection optionArgs reorderedArgs none
    (some (["198.18.0.58"], 443)) hgenuine hgenuine').1 hcanonical⟩

/-- An argument named with an underscore is not in the fingerprint, and a stand-in is not
told from the text it stands for. -/
theorem fingerprint_confuses :
    (plainProtection.canonicalApprovalArgsJson commandArgs
        = plainProtection.canonicalApprovalArgsJson scopedArgs
      ∧ ¬ SameArgument commandArgs scopedArgs "_scope")
    ∧ (plainProtection.canonicalApprovalArgsJson mailArgs
        = plainProtection.canonicalApprovalArgsJson standInArgs
      ∧ ¬ SameArgument mailArgs standInArgs "owner") := by
  have hdigest : plainProtection.approvalHmac (.str mail) ≠ mail := by
    intro h
    have htext : String.ofList (letters (dumps fractionText [] (.str mail)).toList) = mail := h
    have hchars : letters (dumps fractionText [] (.str mail)).toList = mail.toList := by
      rw [← String.toList_ofList (l := letters _), htext]
    have hat : '@' ∈ letters (dumps fractionText [] (.str mail)).toList := by
      rw [hchars]
      decide
    rcases mem_letters hat with ha | hb
    · exact absurd ha (by decide)
    · exact absurd hb (by decide)
  have hfields : plainProtection.hidesField "" = false
      ∧ plainProtection.hidesField "owner" = false
      ∧ plainProtection.hidesField "$approval_hmac" = false := by
    decide +kernel
  have hmail : plainProtection.redactPersonalData mail ≠ mail := by
    simp [plainProtection, mail]
  have hkept : plainProtection.redactPersonalData (plainProtection.approvalHmac (.str mail))
      = plainProtection.approvalHmac (.str mail) := redact_of_ne hdigest
  refine ⟨⟨rfl, by decide +kernel⟩, ?_, ?_⟩
  · refine congrArg (dumps plainProtection.floats [' ']) ?_
    have hfiltered : Protection.filtered mailArgs = mailArgs
        ∧ Protection.filtered standInArgs = standInArgs := ⟨rfl, rfl⟩
    rw [hfiltered.1, hfiltered.2]
    simp [mailArgs, standInArgs, Protection.protectApprovalValue, Protection.protectEntries,
      hfields, hmail, hkept, Protection.hidden]
  · intro hsame
    simp [SameArgument, mailArgs, standInArgs, sortKeys] at hsame

end Navi.Capabilities
