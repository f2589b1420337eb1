import Mathlib
import Navi.Base.Checks
import Navi.Base.Dict
import Navi.Weixin.SplitText

/-!
# Server-sent events of a provider

How the two paths of a provider that speaks the OpenAI protocol read a response that is a stream of
events: `stream` line by line as they arrive, `complete` from the whole text.
-/

namespace Navi.Provider

open Navi.Base
open Navi.Weixin (lineTexts stripText)

/-! ## Lines -/

/-- `"event:"`, `"id:"`, `"retry:"` and `":"`, the fields that are read over. -/
def ignoredFields : List (List Char) :=
  [['e', 'v', 'e', 'n', 't', ':'], ['i', 'd', ':'], ['r', 'e', 't', 'r', 'y', ':'], [':']]

/-- `"data:"`. -/
def dataField : List Char := ['d', 'a', 't', 'a', ':']

/-- `"[DONE]"`. -/
def doneData : List Char := ['[', 'D', 'O', 'N', 'E', ']']

/-- `text.lstrip(" ")`. -/
def dropSpaces (text : List Char) : List Char := text.dropWhile (· = ' ')

/-- `raw_line.rstrip("\r")`. -/
def dropReturns (line : List Char) : List Char := line.rdropWhile (· = '\r')

/-- `"\n".join(data_lines)`, of the lines in reverse. -/
def joinData (dataLines : List (List Char)) : List Char := ['\n'].intercalate dataLines.reverse

/-- `_iter_sse_event_data`: what is yielded, and what is raised after that. The lines of an event
that have been read are in reverse. -/
def iterSseEventData :
    List (List Char) → List (List Char) → List (List Char) × Option String
  | dataLines, [] => (if dataLines = [] then [] else [joinData dataLines], none)
  | dataLines, rawLine :: rest =>
      let line := dropReturns rawLine
      if line = [] then
        if dataLines = [] then iterSseEventData [] rest
        else
          let later := iterSseEventData [] rest
          (joinData dataLines :: later.1, later.2)
      else if dataField.isPrefixOf line then
        iterSseEventData (dropSpaces (line.drop dataField.length) :: dataLines) rest
      else if ignoredFields.any fun field => field.isPrefixOf line then
        iterSseEventData dataLines rest
      else ([], some "Provider SSE response included an invalid field")

/-- `_sse_event_data`. -/
def sseEventData (text : List Char) : Except String (List (List Char)) :=
  let found := iterSseEventData [] (lineTexts text)
  match found.2 with
  | some raised => .error raised
  | none => .ok found.1

/-! ## Events -/

/-- `json.loads`, `none` where it raises. White space before a value says nothing. -/
structure JsonReader where
  loads : List Char → Option Json
  loads_dropSpaces : ∀ text, loads (dropSpaces text) = loads text
  loads_done : loads doneData = none

/-- `type(value).__name__`. -/
def typeName : Json → String
  | .null => "NoneType"
  | .bool _ => "bool"
  | .int _ => "int"
  | .float _ => "float"
  | .str _ => "str"
  | .arr _ => "list"
  | .obj _ => "dict"

/-- What `_openai_sse_chunk_facts` returns. -/
structure ChunkFacts where
  content : String
  finishReason : Option String
  usage : Option Dict

/-- A value, where one is given that is not `None`. -/
def given (d : Dict) (key : String) : Option Json :=
  match d.get key with
  | none | some .null => none
  | some value => some value

/-- `_openai_sse_chunk_facts` of the choice. -/
def choiceFacts (choice : Json) (usage : Option Dict) : Except String ChunkFacts :=
  match choice with
  | .obj choice =>
      match (given choice "delta").getD (.obj []) with
      | .obj delta =>
          match (given delta "content").getD (.str "") with
          | .str content =>
              match given choice "finish_reason" with
              | none => .ok ⟨content, none, usage⟩
              | some (.str reason) => .ok ⟨content, some reason, usage⟩
              | some _ => .error "Provider openai stream finish reason must be a string"
          | _ => .error "Provider openai stream content must be a string"
      | _ => .error "Provider openai stream delta must be an object"
  | _ => .error "Provider openai stream choice must be an object"

/-- `_openai_sse_chunk_facts`. -/
def openaiSseChunkFacts (chunk : Dict) : Except String ChunkFacts := do
  let choices ← match (given chunk "choices").getD (.arr []) with
    | .arr choices =>
        if 1 < choices.length then
          .error "Provider openai stream choices must contain at most one item"
        else .ok choices
    | _ => .error "Provider openai stream choices must contain at most one item"
  let usage ← match given chunk "usage" with
    | none => .ok none
    | some (.obj usage) => .ok (some usage)
    | some _ => .error "Provider openai stream usage must be an object"
  match choices with
  | [] => return ⟨"", none, usage⟩
  | choice :: _ => choiceFacts choice usage

section

variable (reader : JsonReader)

/-- `_provider_stream_event_json`. -/
def providerStreamEventJson (raw : List Char) (protocol : String) : Except String Dict :=
  match reader.loads raw with
  | none => .error ("Provider " ++ protocol ++ " stream event was not valid JSON (event_characters="
      ++ toString raw.length ++ ")")
  | some (.obj payload) => .ok payload
  | some payload => .error ("Provider " ++ protocol
      ++ " stream event JSON must be an object (json_type=" ++ typeName payload ++ ")")

def eventFacts (raw : List Char) : Except String ChunkFacts := do
  let chunk ← providerStreamEventJson reader raw "openai"
  openaiSseChunkFacts chunk

/-! ## The streaming path -/

/-- The loop of `stream`: the tokens that it yields, where it returns, from the events that are
yielded to it and what is raised after them. -/
def streamTokens (raised : Option String) : List (List Char) → Except String (List String)
  | [] => .error (raised.getD "Provider openai stream ended without a DONE event")
  | raw :: rest =>
      if raw = doneData then .ok []
      else do
        let facts ← eventFacts reader raw
        let later ← streamTokens raised rest
        return if facts.content = "" then later else facts.content :: later

/-- `stream`, from the lines of the response, with its tokens joined. -/
def stream (lines : List (List Char)) : Except String String :=
  let found := iterSseEventData [] lines
  (streamTokens reader found.2 found.1).map String.join

/-! ## The complete path -/

/-- A response, as the whole text is read of it. -/
structure Response where
  statusCode : Int
  content : List UInt8
  text : List Char

/-- What the loop of `_openai_sse_response_json` collects. -/
structure Assembled where
  contentParts : List String := []
  finishReason : Option String := none
  usage : Option Dict := none

def Assembled.add (collected : Assembled) (facts : ChunkFacts) : Assembled where
  contentParts :=
    if facts.content = "" then collected.contentParts
    else collected.contentParts ++ [facts.content]
  finishReason := facts.finishReason.or collected.finishReason
  usage := facts.usage.or collected.usage

/-- The loop of `_openai_sse_response_json`; it gives nothing where it does not come to the end
marker. -/
def assemble (collected : Assembled) : List (List Char) → Except String (Option Assembled)
  | [] => .ok none
  | raw :: rest =>
      if raw = doneData then .ok (some collected)
      else do
        let facts ← eventFacts reader raw
        assemble (collected.add facts) rest

/-- The envelope of what has been collected. -/
def Assembled.envelope (collected : Assembled) : Dict :=
  [("choices", .arr [.obj [
      ("message", .obj [("content", .str (String.join collected.contentParts))]),
      ("finish_reason", (collected.finishReason.map Json.str).getD .null)]])]
    ++ (collected.usage.map fun usage => ("usage", Json.obj usage)).toList

/-- `_openai_sse_response_json`. -/
def openaiSseResponseJson (response : Response) : Except String Dict := do
  let events ← sseEventData response.text
  if events = [] then
    .error ("Provider openai SSE response did not include data events (status_code="
      ++ toString response.statusCode ++ ", body_bytes=" ++ toString response.content.length ++ ")")
  else do
    match ← assemble reader {} events with
    | none => .error "Provider openai SSE response ended without a DONE event"
    | some collected => return collected.envelope

/-- `_int_usage`. -/
def intUsage (usage : Dict) (field : String) : Except String Int :=
  match usage.get field with
  | some (.int n) =>
      if n < 0 then
        .error ("Provider usage field " ++ field ++ " must be a non-negative integer")
      else .ok n
  | _ => .error ("Provider usage field " ++ field ++ " must be a non-negative integer")

/-- The tokens of `_openai_usage_facts`: of the prompt, of the completion and of both. -/
def openaiUsageFacts (data : Dict) : Except String (Option (Int × Int × Int)) :=
  match data.get "usage" with
  | some (.obj usage) => do
      let input ← intUsage usage "prompt_tokens"
      let output ← intUsage usage "completion_tokens"
      let total ← intUsage usage "total_tokens"
      return some (input, output, total)
  | _ => .ok none

/-- The text of a block of `_openai_content_text`. -/
def blockText : Json → Except String String
  | .obj block =>
      if Dict.text block "type" ∉ ["text", "output_text"] then
        .error "Provider response message content included a non-text block"
      else match Dict.get block "text" with
        | some (.str text) => .ok text
        | _ => .error "Provider response message text block did not include string text"
  | _ => .error "Provider response message content included a non-text block"

/-- `_openai_content_text`. -/
def openaiContentText : Json → Except String String
  | .str content => .ok content
  | .arr [] => .error
      "Provider response message content must be a non-empty string or text-block list"
  | .arr blocks => (blocks.mapM blockText).map String.join
  | _ => .error "Provider response message content must be a non-empty string or text-block list"

/-- `_extract_openai_content`; the shape of the data is part of what it raises. -/
def extractOpenaiContent (shape : Dict → String) (data : Dict) : Except String String :=
  match data.get "choices" with
  | some (.arr (choice :: _)) =>
      match choice with
      | .obj choice =>
          match Dict.get choice "message" with
          | some (.obj message) =>
              match given message "content" with
              | none => .error ("Provider response did not include message content. "
                  ++ "Response shape: " ++ shape data)
              | some content => do
                  let contentText ← openaiContentText content
                  if stripText contentText.toList = [] then
                    .error ("Provider response content is empty. Finish reason: "
                      ++ ((Dict.get choice "finish_reason").map Json.text).getD "unknown"
                      ++ ". Response shape: " ++ shape data)
                  else return contentText
          | _ => .error ("Provider response did not include a message object. Response shape: "
              ++ shape data)
      | _ => .error ("Provider response choice was not an object. Response shape: " ++ shape data)
  | _ => .error ("Provider response did not include choices. Response shape: " ++ shape data)

/-- `complete`, from the response of a configuration whose transport is `sse`. -/
def complete (shape : Dict → String) (response : Response) : Except String String := do
  let data ← openaiSseResponseJson reader response
  let _ ← openaiUsageFacts data
  extractOpenaiContent shape data

end

end Navi.Provider
