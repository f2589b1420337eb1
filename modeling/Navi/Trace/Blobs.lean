import Navi.Base.Index
import Navi.Base.JsonText
import Navi.Base.System

/-!
# The long texts of trace events

`add_event` moves every text of more than 1024 characters into `trace_blobs`, under its
digest, and leaves a reference in the event; `list_events` puts the texts back. What is in
use is found by a pattern on the stored texts.
-/

namespace Navi.Trace

open Navi.Base Navi.Base.Json

/-- An object as Python has it, with no key twice at any depth. -/
structure JsonObject where
  entries : Dict
  distinct : (Json.obj entries).distinct = true

def JsonObject.value (object : JsonObject) : Json := .obj object.entries

/-- The digits of `hexdigest`. -/
def hexDigits : List Char :=
  ['0', '1', '2', '3', '4', '5', '6', '7', '8', '9', 'a', 'b', 'c', 'd', 'e', 'f']

/-- What the store rests on: the texts of floats, `json.loads` (which reads back what
`json.dumps` wrote, in the order of the text), md5 in hexadecimal, and redaction. -/
structure Codec where
  floats : FloatText
  loads : String → Json
  reads : ∀ v, v.distinct = true → loads (dumps floats [' '] v) = sortKeys v
  digest : String → String
  digest_length : ∀ s, (digest s).length = 32
  digest_hex : ∀ s, ∀ c ∈ (digest s).toList, c ∈ hexDigits
  redact : JsonObject → JsonObject

/-- `json.dumps(value, ensure_ascii=False, sort_keys=True)` with its default separators. -/
def Codec.written (codec : Codec) (value : Json) : String := dumps codec.floats [' '] value

/-! ## Interning -/

section

variable (digest : String → String)

mutual

/-- The value that `_extract_blobs` returns. -/
def extractBlobs : Json → Json
  | .obj entries => .obj (extractEntries entries)
  | .arr items => .arr (extractItems items)
  | .str s => if 1024 < s.length then .obj [("$blob", .str (digest s))] else .str s
  | value => value

/-- `_extract_blobs` on each item. -/
def extractItems : List Json → List Json
  | [] => []
  | item :: rest => extractBlobs item :: extractItems rest

/-- `_extract_blobs` on the value of each entry. -/
def extractEntries : List (String × Json) → List (String × Json)
  | [] => []
  | (key, value) :: rest => (key, extractBlobs value) :: extractEntries rest

end

end

mutual

/-- The texts that `_extract_blobs` hands to `insert_blob`, in its order. -/
def longTexts : Json → List String
  | .obj entries => longTextsEntries entries
  | .arr items => longTextsItems items
  | .str s => if 1024 < s.length then [s] else []
  | _ => []

def longTextsItems : List Json → List String
  | [] => []
  | item :: rest => longTexts item ++ longTextsItems rest

/-- The long texts of each entry's value. -/
def longTextsEntries : List (String × Json) → List String
  | [] => []
  | (_, value) :: rest => longTexts value ++ longTextsEntries rest

end

/-! ## References -/

/-- `d["$blob"]` where `len(d) == 1 and "$blob" in d`. -/
def reference? : Dict → Option Json
  | [(key, hash)] => if key = "$blob" then some hash else none
  | _ => none

mutual

/-- The values that `_find_hashes` adds. -/
def references : Json → List Json
  | .obj entries =>
      match reference? entries with
      | some hash => [hash]
      | none => referencesEntries entries
  | .arr items => referencesItems items
  | _ => []

/-- `_find_hashes` on each item. -/
def referencesItems : List Json → List Json
  | [] => []
  | item :: rest => references item ++ referencesItems rest

/-- `_find_hashes` on the value of each entry. -/
def referencesEntries : List (String × Json) → List Json
  | [] => []
  | (_, value) :: rest => references value ++ referencesEntries rest

end

section

variable (lookup : Json → String)

mutual

/-- `_replace`. -/
def putBack : Json → Json
  | .obj entries =>
      match reference? entries with
      | some hash => .str (lookup hash)
      | none => .obj (putBackEntries entries)
  | .arr items => .arr (putBackItems items)
  | value => value

/-- `_replace` on each item. -/
def putBackItems : List Json → List Json
  | [] => []
  | item :: rest => putBack item :: putBackItems rest

/-- `_replace` on the value of each entry. -/
def putBackEntries : List (String × Json) → List (String × Json)
  | [] => []
  | (key, value) :: rest => (key, putBack value) :: putBackEntries rest

end

end

/-! ## The pattern -/

/-- The key of a reference, as it is written. -/
def blobMarker : List Char := [quote, '$', 'b', 'l', 'o', 'b', quote]

/-- `"([^"]+)"` at the front of a text: its group, and what follows. -/
def quotedGroup : List Char → Option (List Char × List Char)
  | [] => none
  | c :: rest =>
      match rest.dropWhile (· ≠ quote) with
      | [] => none
      | _ :: after =>
          let group := rest.takeWhile (· ≠ quote)
          if c = quote ∧ group ≠ [] then some (group, after) else none

/-- `\s*:\s*"([^"]+)"` at the front of a text: its group, and what follows. -/
def colonGroup (text : List Char) : Option (List Char × List Char) :=
  match text.dropWhile isSpace with
  | [] => none
  | c :: rest => if c = ':' then quotedGroup (rest.dropWhile isSpace) else none

/-- `"\$blob"\s*:\s*"([^"]+)"` at the front of a text: its group, and what follows. -/
def blobMatch (text : List Char) : Option (List Char × List Char) :=
  (blobMarker.isPrefixOf? text).bind colonGroup

theorem quotedGroup_length {text group after : List Char}
    (h : quotedGroup text = some (group, after)) : after.length < text.length := by
  cases text with
  | nil => cases h
  | cons c rest =>
      dsimp only [quotedGroup] at h
      split at h
      · cases h
      next first tail hdrop =>
        split at h
        · obtain ⟨-, rfl⟩ := Prod.mk.inj (Option.some.inj h)
          have hshort := (List.dropWhile_suffix (· ≠ quote) (l := rest)).length_le
          rw [hdrop, List.length_cons] at hshort
          rw [List.length_cons]
          omega
        · cases h

theorem colonGroup_length {text group after : List Char}
    (h : colonGroup text = some (group, after)) : after.length < text.length := by
  unfold colonGroup at h
  split at h
  · cases h
  next c rest hdrop =>
    split at h
    · have hgroup := quotedGroup_length h
      have hspace := (List.dropWhile_suffix isSpace (l := rest)).length_le
      have hbefore := (List.dropWhile_suffix isSpace (l := text)).length_le
      rw [hdrop, List.length_cons] at hbefore
      omega
    · cases h

theorem blobMatch_length {text group after : List Char}
    (h : blobMatch text = some (group, after)) : after.length < text.length := by
  obtain ⟨rest, hmarker, hgroup⟩ := Option.bind_eq_some_iff.mp h
  have htext : blobMarker ++ rest = text := List.isPrefixOf?_eq_some_iff_append_eq.mp hmarker
  have hshort := colonGroup_length hgroup
  rw [← htext, List.length_append]
  omega

/-- `blob_pattern.findall`. -/
def findBlobs : List Char → List String
  | [] => []
  | c :: rest =>
      match _hmatch : blobMatch (c :: rest) with
      | some (group, after) => String.ofList group :: findBlobs after
      | none => findBlobs rest
  termination_by text => text.length
  decreasing_by
    · exact blobMatch_length _hmatch
    · exact Nat.lt_succ_self _

/-! ## The store -/

/-- A row of `trace_events`, as far as blobs are concerned. -/
structure EventRow where
  id : String
  traceId : String
  runId : String
  createdAt : Time
  inputJson : String
  outputJson : String
  deriving DecidableEq

/-- A row of `trace_blobs`. -/
structure Blob where
  hash : String
  content : String
  deriving DecidableEq

abbrev Blobs := Table String Blob (·.hash)

structure TraceStore where
  events : Table String EventRow (·.id)
  blobs : Blobs

/-- An event with its data, and the id and the time that `add_event` draws for it. -/
structure GivenEvent where
  id : String
  traceId : String
  runId : String
  createdAt : Time
  input : JsonObject
  output : JsonObject

/-- `blobs_to_insert` when the texts were handed to `insert_blob`. -/
def pendingBlobs (digest : String → String) (texts : List String) : Blobs :=
  texts.foldl (fun pending text => pending.upsert ⟨digest text, text⟩) .empty

/-- `INSERT OR IGNORE` of each. -/
def insertBlobs (blobs pending : Blobs) : Blobs :=
  pending.rows.foldl (fun blobs blob => blobs.insertOrIgnore blob) blobs

/-- The texts of an event that become blobs. -/
def GivenEvent.longTexts (event : GivenEvent) : List String :=
  Trace.longTexts event.input.value ++ Trace.longTexts event.output.value

/-- The hashes that the pattern finds in a row. -/
def EventRow.foundBlobs (row : EventRow) : List String :=
  findBlobs row.inputJson.toList ++ findBlobs row.outputJson.toList

namespace TraceStore

/-- `_gc_blobs`, also `_gc_trace_blobs`. -/
def gcBlobs (s : TraceStore) : TraceStore :=
  let used := s.events.rows.flatMap EventRow.foundBlobs
  { s with blobs := s.blobs.delete fun blob => blob.hash ∉ used }

/-- `delete_traces`, of all of them without an id. -/
def deleteTraces (s : TraceStore) (traceId : String) : TraceStore :=
  if traceId = "" then ⟨.empty, .empty⟩
  else gcBlobs { s with events := s.events.delete (·.traceId = traceId) }

/-- What `_compact_one` of the retention deletes. -/
def compactRun (s : TraceStore) (runId : String) : TraceStore :=
  gcBlobs { s with events := s.events.delete (·.runId = runId) }

end TraceStore

section

variable (codec : Codec)

/-- The event with its data redacted. -/
def GivenEvent.redacted (event : GivenEvent) : GivenEvent :=
  { event with input := codec.redact event.input, output := codec.redact event.output }

/-- The row that is stored for an event. -/
def GivenEvent.stored (event : GivenEvent) : EventRow where
  id := event.id
  traceId := event.traceId
  runId := event.runId
  createdAt := event.createdAt
  inputJson := codec.written (extractBlobs codec.digest event.input.value)
  outputJson := codec.written (extractBlobs codec.digest event.output.value)

/-- The event that `add_event` returns. -/
def GivenEvent.returned (event : GivenEvent) : EventRow where
  id := event.id
  traceId := event.traceId
  runId := event.runId
  createdAt := event.createdAt
  inputJson := codec.written event.input.value
  outputJson := codec.written event.output.value

/-- The transaction of `add_event`; none where the id is taken. -/
def TraceStore.addEvent (s : TraceStore) (event : GivenEvent) : Option TraceStore :=
  match s.events.get? event.id with
  | some _ => none
  | none => some
      { events := s.events.insertOrIgnore (event.stored codec)
        blobs := insertBlobs s.blobs (pendingBlobs codec.digest event.longTexts) }

/-! ## Reading -/

/-- What `list_events` raises. -/
inductive ReadError where
  | unhashable
  | overflow
  deriving DecidableEq

/-- A value that is no member of a set. -/
def unhashable : Json → Bool
  | .arr _ | .obj _ => true
  | _ => false

/-- A value that is no parameter of a statement. -/
def unbound : Json → Bool
  | .int n => n < -2 ^ 63 ∨ 2 ^ 63 ≤ n
  | _ => false

def formatted : Json → String
  | .float x => String.ofList (codec.floats.text x)
  | value => value.text

/-- `blob_map.get(h, f"<missing blob: {h}>")`. -/
def blobContent (blobs : Blobs) (hash : Json) : String :=
  let missing := "<missing blob: " ++ formatted codec hash ++ ">"
  match hash with
  | .str h => ((blobs.get? h).map (·.content)).getD missing
  | _ => missing

/-- `'"$blob"' in e.input_json or '"$blob"' in e.output_json`. -/
def EventRow.hasBlob (row : EventRow) : Bool :=
  blobMarker <:+: row.inputJson.toList ∨ blobMarker <:+: row.outputJson.toList

/-- `json.loads` of a text that is not empty. -/
def Codec.read (text : String) : Json := if text = "" then .null else codec.loads text

def EventRow.references (row : EventRow) : List Json :=
  Trace.references (codec.read row.inputJson) ++ Trace.references (codec.read row.outputJson)

/-- `_dumps_or_empty`. -/
def dumpsOrEmpty : Json → String
  | .null => ""
  | value => codec.written value

def EventRow.resolved (blobs : Blobs) (row : EventRow) : EventRow :=
  { row with
    inputJson := dumpsOrEmpty codec (putBack (blobContent codec blobs) (codec.read row.inputJson))
    outputJson :=
      dumpsOrEmpty codec (putBack (blobContent codec blobs) (codec.read row.outputJson)) }

/-- `_resolve_events_blobs`. -/
def resolveEventsBlobs (blobs : Blobs) (rows : List EventRow) : Except ReadError (List EventRow) :=
  let hashes := (rows.filter (·.hasBlob)).flatMap (·.references codec)
  if hashes.any unhashable then .error .unhashable
  else if hashes = [] then .ok rows
  else if hashes.any unbound then .error .overflow
  else .ok (rows.map fun row => if row.hasBlob then row.resolved codec blobs else row)

/-- A page of the rows of a trace, in the order of their times. -/
def tracePage (traceId : String) (limit offset : Int) (rows : List EventRow) : List EventRow :=
  sqlPage limit offset
    ((rows.filter (·.traceId = traceId)).insertionSort fun a b => a.createdAt ≤ b.createdAt)

/-- `list_events`. -/
def TraceStore.listEvents (s : TraceStore) (traceId : String) (limit offset : Int) :
    Except ReadError (List EventRow) :=
  resolveEventsBlobs codec s.blobs (tracePage traceId limit offset s.events.rows)

/-! ## Runs -/

inductive TraceLabel where
  | add (event : GivenEvent)
  | deleteTraces (traceId : String)
  | compactRun (runId : String)

/-- The store, with the events that were recorded in it and not deleted, as they were
redacted. -/
structure Recorded where
  store : TraceStore
  given : List GivenEvent

def Recorded.start : Recorded := ⟨⟨.empty, .empty⟩, []⟩

def traceSystem : System Recorded TraceLabel where
  step s
    | .add event => (s.store.addEvent codec (event.redacted codec)).map fun store =>
        ⟨store, s.given ++ [event.redacted codec]⟩
    | .deleteTraces traceId => some
        ⟨s.store.deleteTraces traceId, s.given.filter fun event => traceId ≠ "" ∧
          event.traceId ≠ traceId⟩
    | .compactRun runId => some
        ⟨s.store.compactRun runId, s.given.filter (·.runId ≠ runId)⟩

end

end Navi.Trace
