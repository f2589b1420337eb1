import Mathlib
import Navi.Base.History
import Navi.Base.JsonText
import Navi.Base.System
import Navi.Capabilities.Fingerprint

/-!
# Deduplication of connector messages

The keys that the ingress boundary remembers of the messages it has checked, and what it reports:
when a message is dropped for an earlier one, and when for another one.
-/

namespace Navi.Connectors

open Navi.Base Navi.Base.Json

/-- The fields of `ConnectorMessage` that its keys are made of. -/
structure ConnectorMessage where
  messageId : String
  peerId : String
  senderId : String
  text : String
  source : String
  facts : Dict
  deriving DecidableEq

/-- `hashlib.md5(payload.encode()).hexdigest()`, as free of collisions, and the texts of floats. -/
structure ContentHash where
  hexdigest : String → String
  collisionFree : Function.Injective hexdigest
  /-- A digest has no character but hexadecimal digits. -/
  noColon : ∀ payload, ':' ∉ (hexdigest payload).toList
  floats : FloatText

/-- `is_synthetic_message_id`. -/
def isSyntheticMessageId (messageId : String) : Bool :=
  "synthetic:".toList.isPrefixOf messageId.toList

namespace ConnectorMessage

/-- `value.strip() or "unknown"`. -/
def orUnknown (value : String) : String := if strip value = "" then "unknown" else strip value

/-- The transport gave the message an id. -/
def native (message : ConnectorMessage) : Bool :=
  message.messageId ≠ "" && !isSyntheticMessageId message.messageId

/-- The payload of `content_key`. -/
def payload (message : ConnectorMessage) : Json :=
  .obj [("source", .str message.source), ("peer_id", .str message.peerId),
    ("sender_id", .str message.senderId), ("text", .str message.text),
    ("facts", .obj message.facts)]

variable (hash : ContentHash)

/-- `content_key`. -/
def contentKey (message : ConnectorMessage) : String :=
  "content:" ++ message.source ++ ":" ++ message.peerId ++ ":" ++ message.senderId ++ ":"
    ++ hash.hexdigest (dumps hash.floats [' '] message.payload)

/-- The key of a message with an id of its transport. -/
def idKey (message : ConnectorMessage) : String :=
  "id:" ++ orUnknown message.source ++ ":" ++ orUnknown message.peerId ++ ":"
    ++ orUnknown message.senderId ++ ":" ++ message.messageId

/-- `_keys`. -/
def keys (message : ConnectorMessage) : List String :=
  if message.native then [message.idKey] else [message.contentKey hash]

def key (message : ConnectorMessage) : String :=
  if message.native then message.idKey else message.contentKey hash

end ConnectorMessage

/-! ## Checks -/

/-- `ConnectorDedupResult`. -/
structure DedupResult where
  duplicate : Bool
  reason : String
  key : String
  deriving DecidableEq

/-- What `ingress-dedup.json` holds: the keys and when they expire. -/
abbrev SeenKeys := String → Option Time

/-- `_pruned`. -/
def pruned (seen : SeenKeys) (now : Time) : SeenKeys := fun key => (seen key).filter (now < ·)

/-- `seen[key] = expires_at`. -/
def remember (expiresAt : Time) (seen : SeenKeys) (key : String) : SeenKeys :=
  Function.update seen key (some expiresAt)

/-- `check`: what is remembered after it, and what it returns. -/
def check (hash : ContentHash) (ttlSeconds : Time) (seen : SeenKeys) (now : Time)
    (message : ConnectorMessage) : SeenKeys × DedupResult :=
  let keys := message.keys hash
  if keys = [] then (seen, ⟨false, "", ""⟩)
  else
    let seen := pruned seen now
    let duplicate := keys.find? fun key => (seen key).isSome
    (keys.foldl (remember (now + ttlSeconds)) seen,
      match duplicate with
      | some key =>
          ⟨true, if "id:".toList.isPrefixOf key.toList then "message_id" else "content", key⟩
      | none => ⟨false, "", ""⟩)

/-- A check that was made: when, of which message, and whether it was reported duplicate. -/
structure Checked where
  time : Time
  message : ConnectorMessage
  duplicate : Bool

/-- The file that all deduplicators share, the time, and the checks that were made, the last one
first. -/
structure Ingress where
  seen : SeenKeys
  clock : Time
  checks : List Checked

/-- A message that is checked, and the time that has passed since the check before it. -/
structure Arrival where
  elapsed : NNRat
  message : ConnectorMessage

def Ingress.start (clock : Time) : Ingress := ⟨fun _ => none, clock, []⟩

def Ingress.after (hash : ContentHash) (ttlSeconds : Time) (s : Ingress) (arrival : Arrival) :
    Ingress :=
  let now := s.clock + arrival.elapsed
  let result := check hash ttlSeconds s.seen now arrival.message
  ⟨result.1, now, ⟨now, arrival.message, result.2.duplicate⟩ :: s.checks⟩

/-- The checks of any deduplicators on one home. -/
def ingressSystem (hash : ContentHash) (ttlSeconds : Time) : System Ingress Arrival where
  step s arrival := some (s.after hash ttlSeconds arrival)

/-! ## What is claimed -/

/-- The same message again: the same source, peer, sender, but for blanks around them, and id; or
without ids the same source, peer, sender, text and facts. -/
def SameMessage (a b : ConnectorMessage) : Prop :=
  if a.native then
    b.native ∧ strip a.source = strip b.source ∧ strip a.peerId = strip b.peerId
      ∧ strip a.senderId = strip b.senderId ∧ a.messageId = b.messageId
  else
    b.native = false ∧ a.source = b.source ∧ a.peerId = b.peerId ∧ a.senderId = b.senderId
      ∧ a.text = b.text ∧ Same (.obj a.facts) (.obj b.facts)

/-- An earlier check of the message was made less than `ttlSeconds` before. The last of a chain of
repeats is such a check. -/
def Repeats (ttlSeconds : Time) (earlier : List Checked) (now : Time)
    (message : ConnectorMessage) : Prop :=
  ∃ before ∈ earlier, SameMessage message before.message ∧ now < before.time + ttlSeconds

/-- A message is reported duplicate exactly where it repeats an earlier one. -/
def ExactlyRepeats (ttlSeconds : Time) (earlier : List Checked) (last : Checked) : Prop :=
  last.duplicate = true ↔ Repeats ttlSeconds earlier last.time last.message

/-- A message with an id that repeats none has other identifiers joined than every message with an
id that was checked less than `ttlSeconds` before. -/
def JoinedApart (ttlSeconds : Time) (s : Ingress) (arrival : Arrival) : Prop :=
  arrival.message.native = true →
    ¬ Repeats ttlSeconds s.checks (s.clock + arrival.elapsed) arrival.message →
      ∀ before ∈ s.checks, before.message.native = true →
        s.clock + arrival.elapsed < before.time + ttlSeconds →
          before.message.idKey ≠ arrival.message.idKey

/-! ## Keys -/

section

variable {hash : ContentHash} {a b : ConnectorMessage}

theorem keys_eq (message : ConnectorMessage) : message.keys hash = [message.key hash] := by
  unfold ConnectorMessage.keys ConnectorMessage.key
  split <;> rfl

theorem key_of_native (h : a.native = true) : a.key hash = a.idKey := if_pos h

theorem key_of_not_native (h : a.native = false) : a.key hash = a.contentKey hash :=
  if_neg (by rw [h]; decide)

theorem idKey_ne_contentKey : a.idKey ≠ b.contentKey hash := by
  intro h
  have hchars := congrArg (fun s : String => s.toList.head?) h
  simp [ConnectorMessage.idKey, ConnectorMessage.contentKey] at hchars

theorem after_last_colon {front front' tail tail' : List Char} (htail : ':' ∉ tail)
    (htail' : ':' ∉ tail') (h : front ++ ':' :: tail = front' ++ ':' :: tail') : tail = tail' := by
  have hreverse := congrArg List.reverse h
  simp only [List.reverse_append, List.reverse_cons, List.append_assoc, List.singleton_append]
    at hreverse
  have hsame := (append_marker_inj (by simpa using htail) (by simpa using htail') hreverse).1
  exact List.reverse_injective hsame

theorem payload_same_iff : Same a.payload b.payload
    ↔ a.source = b.source ∧ a.peerId = b.peerId ∧ a.senderId = b.senderId ∧ a.text = b.text
      ∧ Same (.obj a.facts) (.obj b.facts) := by
  constructor
  · intro h
    have htext (key s s' : String) (hb : Dict.get [("source", .str b.source),
        ("peer_id", .str b.peerId), ("sender_id", .str b.senderId), ("text", .str b.text),
        ("facts", .obj b.facts)] key = some (.str s')) (ha : Dict.get [("source", .str a.source),
        ("peer_id", .str a.peerId), ("sender_id", .str a.senderId), ("text", .str a.text),
        ("facts", .obj a.facts)] key = some (.str s)) : s = s' := by
      obtain ⟨v, hv, hsame⟩ := Same.get h hb
      obtain rfl := Option.some.inj (ha.symm.trans hv)
      exact Json.str.inj (hsame.eq_of_scalar rfl)
    refine ⟨htext "source" _ _ rfl rfl, htext "peer_id" _ _ rfl rfl, htext "sender_id" _ _ rfl rfl,
      htext "text" _ _ rfl rfl, ?_⟩
    obtain ⟨v, hv, hsame⟩ := @Same.get _ _ h "facts" (.obj b.facts) rfl
    obtain rfl := Option.some.inj ((show _ = some (Json.obj a.facts) from rfl).symm.trans hv)
    exact hsame
  · rintro ⟨hsource, hpeer, hsender, htext, hfacts⟩
    unfold Same ConnectorMessage.payload at *
    rw [hsource, hpeer, hsender, htext, sortKeys_obj, sortKeys_obj]
    simp only [sortEntries, hfacts]

theorem contentKey_eq_iff : a.contentKey hash = b.contentKey hash
    ↔ a.source = b.source ∧ a.peerId = b.peerId ∧ a.senderId = b.senderId ∧ a.text = b.text
      ∧ Same (.obj a.facts) (.obj b.facts) := by
  rw [← payload_same_iff]
  constructor
  · intro h
    have hchars := congrArg String.toList h
    unfold ConnectorMessage.contentKey at hchars
    simp only [String.toList_append] at hchars
    have hdigest := after_last_colon (hash.noColon _) (hash.noColon _)
      ((List.append_assoc _ [':'] _).symm.trans (hchars.trans (List.append_assoc _ [':'] _)))
    exact dumps_eq_iff.mp (hash.collisionFree (String.toList_inj.mp hdigest))
  · intro h
    obtain ⟨hsource, hpeer, hsender, -⟩ := payload_same_iff.mp h
    unfold ConnectorMessage.contentKey
    rw [hsource, hpeer, hsender, dumps_eq_iff.mpr h]

theorem orUnknown_congr {value value' : String} (h : strip value = strip value') :
    ConnectorMessage.orUnknown value = ConnectorMessage.orUnknown value' := by
  unfold ConnectorMessage.orUnknown
  rw [h]

theorem key_of_sameMessage (h : SameMessage a b) : a.key hash = b.key hash := by
  unfold SameMessage at h
  cases ha : a.native with
  | true =>
      rw [ha, if_pos rfl] at h
      obtain ⟨hb, hsource, hpeer, hsender, hid⟩ := h
      rw [key_of_native ha, key_of_native hb]
      unfold ConnectorMessage.idKey
      rw [orUnknown_congr hsource, orUnknown_congr hpeer, orUnknown_congr hsender, hid]
  | false =>
      rw [ha, if_neg (by decide)] at h
      obtain ⟨hb, hfields⟩ := h
      rw [key_of_not_native ha, key_of_not_native hb]
      exact contentKey_eq_iff.mpr hfields

theorem sameMessage_of_key (ha : a.native = false) (h : a.key hash = b.key hash) :
    SameMessage a b := by
  rw [key_of_not_native ha] at h
  cases hb : b.native with
  | true =>
      rw [key_of_native hb] at h
      exact absurd h.symm idKey_ne_contentKey
  | false =>
      rw [key_of_not_native hb] at h
      unfold SameMessage
      rw [ha, if_neg (by decide)]
      exact ⟨hb, contentKey_eq_iff.mp h⟩

end

/-! ## What is remembered -/

section

variable {hash : ContentHash} {ttlSeconds : Time} {s s' : Ingress} {arrival : Arrival}

/-- A key is remembered at this time. -/
def Remembered (seen : SeenKeys) (now : Time) (key : String) : Prop :=
  ∃ expiresAt ∈ seen key, now < expiresAt

/-- From now on a key is remembered exactly as long as it was checked less than `ttlSeconds`
before. -/
structure Tracks (hash : ContentHash) (ttlSeconds : Time) (s : Ingress) : Prop where
  past : ∀ before ∈ s.checks, before.time ≤ s.clock
  remembers : ∀ key now, s.clock ≤ now → (Remembered s.seen now key
    ↔ ∃ before ∈ s.checks, before.message.key hash = key ∧ now < before.time + ttlSeconds)

theorem isSome_pruned {seen : SeenKeys} {now : Time} {key : String} :
    (pruned seen now key).isSome = true ↔ Remembered seen now key := by
  unfold pruned Remembered
  cases seen key with
  | none => simp
  | some expiresAt => simp

theorem check_eq (seen : SeenKeys) (now : Time) (message : ConnectorMessage) :
    (check hash ttlSeconds seen now message).1
        = Function.update (pruned seen now) (message.key hash) (some (now + ttlSeconds))
      ∧ ((check hash ttlSeconds seen now message).2.duplicate = true
        ↔ Remembered seen now (message.key hash)) := by
  rw [← isSome_pruned]
  unfold check
  rw [keys_eq]
  refine ⟨rfl, ?_⟩
  simp only [reduceCtorEq, if_false, List.find?_singleton]
  cases hseen : (pruned seen now (message.key hash)).isSome with
  | true => simp
  | false => simp

theorem tracks_start (clock : Time) : Tracks hash ttlSeconds (.start clock) where
  past := List.forall_mem_nil _
  remembers key now _ := by
    unfold Remembered Ingress.start
    simp

theorem remembered_pruned {seen : SeenKeys} {now later : Time} (hlater : now ≤ later)
    {key : String} : Remembered (pruned seen now) later key ↔ Remembered seen later key := by
  unfold Remembered pruned
  cases seen key with
  | none => simp
  | some expiresAt =>
      simp only [Option.mem_def, Option.filter_eq_some_iff, decide_eq_true_eq]
      constructor
      · rintro ⟨time, ⟨htime, -⟩, hlt⟩
        exact ⟨time, htime, hlt⟩
      · rintro ⟨time, htime, hlt⟩
        exact ⟨time, ⟨htime, hlater.trans_lt hlt⟩, hlt⟩

theorem tracks_after (h : Tracks hash ttlSeconds s) :
    Tracks hash ttlSeconds (s.after hash ttlSeconds arrival) := by
  have hlater : s.clock ≤ s.clock + arrival.elapsed := le_add_of_nonneg_right arrival.elapsed.2
  obtain ⟨hseen, -⟩ := @check_eq hash ttlSeconds s.seen (s.clock + arrival.elapsed) arrival.message
  constructor
  · intro before hbefore
    rcases List.mem_cons.mp hbefore with rfl | hold
    · exact le_refl _
    · exact (h.past before hold).trans hlater
  · intro key now hnow
    have hnow : s.clock + arrival.elapsed ≤ now := hnow
    have hchecks : (s.after hash ttlSeconds arrival).checks
        = ⟨s.clock + arrival.elapsed, arrival.message, (check hash ttlSeconds s.seen
          (s.clock + arrival.elapsed) arrival.message).2.duplicate⟩ :: s.checks := rfl
    have hafter : (s.after hash ttlSeconds arrival).seen = _ := hseen
    rw [hchecks, hafter]
    by_cases hkey : key = arrival.message.key hash
    · subst hkey
      have hself : Remembered (Function.update (pruned s.seen (s.clock + arrival.elapsed))
            (arrival.message.key hash) (some (s.clock + arrival.elapsed + ttlSeconds))) now
            (arrival.message.key hash)
          ↔ now < s.clock + arrival.elapsed + ttlSeconds := by
        unfold Remembered
        simp
      rw [hself]
      constructor
      · intro hlt
        exact ⟨_, List.mem_cons_self, rfl, hlt⟩
      · rintro ⟨before, hbefore, -, hlt⟩
        -- what was checked before expires no later
        have htime : before.time ≤ s.clock + arrival.elapsed := by
          rcases List.mem_cons.mp hbefore with rfl | hold
          · exact le_refl _
          · exact (h.past before hold).trans hlater
        linarith
    · have hother : Remembered (Function.update (pruned s.seen (s.clock + arrival.elapsed))
            (arrival.message.key hash) (some (s.clock + arrival.elapsed + ttlSeconds))) now key
          ↔ Remembered (pruned s.seen (s.clock + arrival.elapsed)) now key := by
        unfold Remembered
        rw [Function.update_of_ne hkey]
      rw [hother, remembered_pruned hnow, h.remembers key now (hlater.trans hnow)]
      constructor
      · rintro ⟨before, hbefore, hsame, hlt⟩
        exact ⟨before, List.mem_cons_of_mem _ hbefore, hsame, hlt⟩
      · rintro ⟨before, hbefore, hsame, hlt⟩
        rcases List.mem_cons.mp hbefore with rfl | hold
        · exact absurd hsame.symm hkey
        · exact ⟨before, hold, hsame, hlt⟩

/-! ## What is reported -/

/-- A check reports a duplicate if and only if a message with its key was checked less than
`ttlSeconds` before. -/
theorem duplicate_iff (h : Tracks hash ttlSeconds s) :
    (check hash ttlSeconds s.seen (s.clock + arrival.elapsed) arrival.message).2.duplicate = true
      ↔ ∃ before ∈ s.checks, before.message.key hash = arrival.message.key hash
        ∧ s.clock + arrival.elapsed < before.time + ttlSeconds := by
  rw [(check_eq s.seen _ arrival.message).2]
  exact h.remembers _ _ (le_add_of_nonneg_right arrival.elapsed.2)

theorem exactlyRepeats_iff (h : Tracks hash ttlSeconds s) :
    ExactlyRepeats ttlSeconds s.checks ⟨s.clock + arrival.elapsed, arrival.message,
        (check hash ttlSeconds s.seen (s.clock + arrival.elapsed) arrival.message).2.duplicate⟩
      ↔ JoinedApart ttlSeconds s arrival := by
  have hrepeats : Repeats ttlSeconds s.checks (s.clock + arrival.elapsed) arrival.message →
      ∃ before ∈ s.checks, before.message.key hash = arrival.message.key hash
        ∧ s.clock + arrival.elapsed < before.time + ttlSeconds := by
    rintro ⟨before, hbefore, hsame, hlt⟩
    exact ⟨before, hbefore, (key_of_sameMessage hsame).symm, hlt⟩
  unfold ExactlyRepeats
  rw [duplicate_iff h]
  constructor
  · intro hexact hnative hnot before hbefore hbeforeNative hlt hjoined
    refine hnot (hexact.mp ⟨before, hbefore, ?_, hlt⟩)
    rw [key_of_native hbeforeNative, key_of_native hnative]
    exact hjoined
  · intro hapart
    refine ⟨fun hkey => ?_, hrepeats⟩
    obtain ⟨before, hbefore, hsame, hlt⟩ := hkey
    cases hnative : arrival.message.native with
    | false => exact ⟨before, hbefore, sameMessage_of_key hnative hsame.symm, hlt⟩
    | true =>
        by_contra hnot
        have hbeforeNative : before.message.native = true := by
          by_contra hsynthetic
          rw [key_of_not_native (by simpa using hsynthetic), key_of_native hnative] at hsame
          exact idKey_ne_contentKey hsame.symm
        rw [key_of_native hbeforeNative, key_of_native hnative] at hsame
        exact hapart hnative hnot before hbefore hbeforeNative hlt hsame

/-- In every run of checks each is reported duplicate exactly where it repeats an earlier one, if
and only if every message with an id that repeats none has other identifiers joined than those
checked less than `ttlSeconds` before. -/
theorem dedup_exact_iff (hash : ContentHash) (ttlSeconds clock : Time) (arrivals : List Arrival) :
    (∀ n s, (ingressSystem hash ttlSeconds).run (.start clock) (arrivals.take n) = some s →
        Throughout (ExactlyRepeats ttlSeconds) s.checks)
      ↔ (ingressSystem hash ttlSeconds).Along (JoinedApart ttlSeconds) (.start clock) arrivals := by
  refine (ingressSystem hash ttlSeconds).run_good_iff (I := Tracks hash ttlSeconds)
    (fun s arrival s' htracks hstep => ?_) (fun s arrival s' htracks hgood hstep => ?_)
    (fun s arrival _ => ⟨_, rfl⟩) (tracks_start clock) trivial arrivals
  · obtain rfl := Option.some.inj hstep
    exact tracks_after htracks
  · obtain rfl := Option.some.inj hstep
    exact (and_iff_left hgood).trans (exactlyRepeats_iff htracks)

end

/-! ## A message that is dropped for another -/

def letterHash : ContentHash where
  hexdigest payload := String.ofList (Capabilities.letters payload.toList)
  collisionFree := Capabilities.plainProtection.collisionFree
  noColon payload hmem := by
    rw [String.toList_ofList] at hmem
    rcases Capabilities.mem_letters hmem with h | h
    · exact absurd h (by decide)
    · exact absurd h (by decide)
  floats := fractionText

/-- A message of one member of a group. -/
def groupMessage : ConnectorMessage :=
  ⟨"7", "room:1", "ann", "hello", "chat", []⟩

/-- A message of another group, whose member has the rest of the first group's name. -/
def otherMessage : ConnectorMessage :=
  ⟨"7", "room", "1:ann", "good morning", "chat", []⟩

/-- The second is reported duplicate although nothing like it was checked before. -/
theorem other_message_is_dropped :
    ∃ s, (ingressSystem letterHash 300).run (.start 0) [⟨1, groupMessage⟩, ⟨1, otherMessage⟩]
        = some s
      ∧ s.checks.map (·.duplicate) = [true, false]
      ∧ ¬ Throughout (ExactlyRepeats 300) s.checks := by
  have hdifferent : ¬ SameMessage otherMessage groupMessage := by
    intro hsame
    unfold SameMessage at hsame
    rw [if_pos (by decide)] at hsame
    have hpeer : strip "room" = strip "room:1" := hsame.2.2.1
    exact absurd hpeer (by decide +kernel)
  have hdropped : (((ingressSystem letterHash 300).run (.start 0)
        [⟨1, groupMessage⟩, ⟨1, otherMessage⟩]).map fun s => s.checks.map (·.duplicate))
      = some [true, false] := by
    decide +kernel
  obtain ⟨s, hs, hdropped⟩ := Option.map_eq_some_iff.mp hdropped
  refine ⟨s, hs, hdropped, fun hexact => ?_⟩
  obtain rfl := Option.some.inj hs
  obtain ⟨before, hbefore, hsame, -⟩ := hexact.1.mp (by simpa using (List.cons.inj hdropped).1)
  obtain rfl := List.mem_singleton.mp hbefore
  exact hdifferent hsame

end Navi.Connectors
