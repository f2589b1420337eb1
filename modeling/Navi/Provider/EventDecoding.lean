import Mathlib
import Navi.Base.Texts
import Navi.Provider.ServerEvents

/-!
# Events that are read back

A response that is a list of events, each in one data line, is read back by both paths exactly where
no event has one of the characters that Python takes for the end of a line.
-/

namespace Navi.Provider

open Navi.Base
open Navi.Evolution (isLineBreak splitLines)
open Navi.Weixin (lineTexts stripText)

/-! ## What is sent -/

def Unbroken (text : List Char) : Prop := ∀ c ∈ text, isLineBreak c = false

/-- An event: the text of a JSON object without a line feed or a carriage return. -/
structure SseEvent (reader : JsonReader) where
  text : List Char
  chunk : Dict
  reads : reader.loads text = some (.obj chunk)
  noLineFeed : '\n' ∉ text
  noReturn : '\r' ∉ text

/-- A comment, or another field that is no data. -/
structure IgnoredLine where
  text : List Char
  ignored : (ignoredFields.any fun field => field.isPrefixOf text) = true
  unbroken : Unbroken text

/-- An event, with the lines that are sent before its own. -/
structure Frame (reader : JsonReader) where
  ignored : List IgnoredLine
  event : SseEvent reader

def dataLine (data : List Char) : List Char := dataField ++ ' ' :: data

/-- The lines of an event, the last of them blank. -/
def Frame.lines {reader : JsonReader} (frame : Frame reader) : List (List Char) :=
  frame.ignored.map (·.text) ++ [dataLine frame.event.text, []]

/-- The lines of a response, with its end marker. -/
def sentLines {reader : JsonReader} (frames : List (Frame reader)) : List (List Char) :=
  frames.flatMap Frame.lines ++ [dataLine doneData, []]

def lineEnd (crlf : Bool) : List Char := if crlf then ['\r', '\n'] else ['\n']

def encode (crlf : Bool) (lines : List (List Char)) : List Char :=
  lines.flatMap fun line => line ++ lineEnd crlf

def utf8 (text : List Char) : List UInt8 := (String.ofList text).toByteArray.data.toList

/-- What `httpx` makes of the bytes that arrive: the text of all of them, and its lines one by one,
which are those of `str.splitlines`. -/
structure Httpx where
  decode : List UInt8 → List Char
  decode_utf8 : ∀ text, decode (utf8 text) = text
  aiterLines : List (List UInt8) → List (List Char)
  aiterLines_eq : ∀ chunks, aiterLines chunks = lineTexts (decode chunks.flatten)

section

variable {reader : JsonReader}

/-- The data of the events, as they are yielded. -/
def eventData (frames : List (Frame reader)) : List (List Char) :=
  frames.map fun frame => dropSpaces frame.event.text

/-- The facts of all events, or what the first one raises that is refused. -/
def factsOf (frames : List (Frame reader)) : Except String (List ChunkFacts) :=
  frames.mapM fun frame => openaiSseChunkFacts frame.event.chunk

/-- However the bytes arrive, the events are read back, the streamed text is that of their deltas,
and the text that the other path completes is the same. That path raises what streaming raises, and
where the text is blank or the usage is not well formed. -/
structure ReadsBack (http : Httpx) (shape : Dict → String) (crlf : Bool)
    (frames : List (Frame reader)) : Prop where
  events : ∀ chunks, chunks.flatten = utf8 (encode crlf (sentLines frames)) →
    iterSseEventData [] (http.aiterLines chunks) = (eventData frames ++ [doneData], none)
  content : ∀ chunks, chunks.flatten = utf8 (encode crlf (sentLines frames)) →
    stream reader (http.aiterLines chunks)
      = (factsOf frames).map fun facts => String.join (facts.map (·.content))
  same : ∀ chunks statusCode text, chunks.flatten = utf8 (encode crlf (sentLines frames)) →
    complete reader shape ⟨statusCode, chunks.flatten, http.decode chunks.flatten⟩ = .ok text →
    stream reader (http.aiterLines chunks) = .ok text
  completes : ∀ chunks statusCode text, chunks.flatten = utf8 (encode crlf (sentLines frames)) →
    stream reader (http.aiterLines chunks) = .ok text → stripText text.toList ≠ [] →
    (∀ facts, factsOf frames = .ok facts → ∀ fact ∈ facts, ∀ usage, fact.usage = some usage →
      ∃ tokens, openaiUsageFacts [("usage", .obj usage)] = .ok tokens) →
    complete reader shape ⟨statusCode, chunks.flatten, http.decode chunks.flatten⟩ = .ok text
  raises : ∀ chunks statusCode raised,
    chunks.flatten = utf8 (encode crlf (sentLines frames)) →
    stream reader (http.aiterLines chunks) = .error raised →
    complete reader shape ⟨statusCode, chunks.flatten, http.decode chunks.flatten⟩
      = .error raised

end

/-! ## Lines -/

section

variable {line acc rest text : List Char} {lines : List (List Char)} {c : Char} {crlf : Bool}

@[simp] theorem isLineBreak_lf : isLineBreak '\n' = true := rfl

@[simp] theorem isLineBreak_cr : isLineBreak '\r' = true := rfl

theorem splitLines_cons (h : isLineBreak c = false) (acc rest : List Char) :
    splitLines acc (c :: rest) = splitLines (c :: acc) rest := by
  rw [splitLines]
  · rw [h]
    rfl
  · rintro later rfl
    rw [isLineBreak_cr] at h
    cases h

theorem splitLines_line (h : Unbroken line) (acc rest : List Char) :
    splitLines acc (line ++ (lineEnd crlf ++ rest))
      = (acc.reverse ++ (line ++ lineEnd crlf)) :: splitLines [] rest := by
  induction line generalizing acc with
  | nil =>
      cases crlf with
      | true => rfl
      | false => rfl
  | cons c line ih =>
      rw [List.cons_append, splitLines_cons (h c List.mem_cons_self),
        ih (fun d hd => h d (List.mem_cons_of_mem _ hd))]
      simp

theorem lineEnd_breaks (crlf : Bool) : ∀ c ∈ lineEnd crlf, isLineBreak c = true := by
  cases crlf <;> simp [lineEnd]

theorem lineTexts_encode (h : ∀ line ∈ lines, Unbroken line) :
    lineTexts (encode crlf lines) = lines := by
  induction lines with
  | nil => rfl
  | cons line rest ih =>
      have hrest := ih fun other hother => h other (List.mem_cons_of_mem _ hother)
      unfold lineTexts at hrest ⊢
      rw [encode, List.flatMap_cons, List.append_assoc,
        splitLines_line (h line List.mem_cons_self), List.map_cons]
      congr 1
      exact rdropWhile_append (h line List.mem_cons_self) (lineEnd_breaks crlf)

theorem of_mem_splitLines (acc text : List Char) (hacc : Unbroken acc) :
    ∀ whole ∈ splitLines acc text, ∃ line ending, whole = line ++ ending ∧ Unbroken line
      ∧ ∀ c ∈ ending, isLineBreak c = true := by
  have hreverse : ∀ {acc : List Char}, Unbroken acc → Unbroken acc.reverse :=
    fun hacc c hc => hacc c (List.mem_reverse.mp hc)
  fun_induction splitLines acc text with
  | case1 => simp
  | case2 acc hne =>
      intro whole hwhole
      obtain rfl := List.mem_singleton.mp hwhole
      exact ⟨_, [], (List.append_nil _).symm, hreverse hacc, by simp⟩
  | case3 acc rest ih =>
      intro whole hwhole
      rcases List.mem_cons.mp hwhole with rfl | hwhole
      · exact ⟨_, _, rfl, hreverse hacc, by simp⟩
      · exact ih (fun _ hc => by cases hc) whole hwhole
  | case4 acc c rest _ hbreak ih =>
      intro whole hwhole
      rcases List.mem_cons.mp hwhole with rfl | hwhole
      · exact ⟨_, _, rfl, hreverse hacc, by simpa using hbreak⟩
      · exact ih (fun _ hc => by cases hc) whole hwhole
  | case5 acc c rest _ hbreak ih =>
      refine ih fun d hd => ?_
      rcases List.mem_cons.mp hd with rfl | hd
      · simpa using hbreak
      · exact hacc d hd

theorem unbroken_of_mem_lineTexts (h : line ∈ lineTexts text) : Unbroken line := by
  obtain ⟨whole, hwhole, rfl⟩ := List.mem_map.mp h
  obtain ⟨line, ending, rfl, hline, hending⟩ :=
    of_mem_splitLines [] text (fun _ hc => by cases hc) whole hwhole
  rw [rdropWhile_append hline hending]
  exact hline

theorem dropReturns_of_unbroken (h : Unbroken line) : dropReturns line = line := by
  have hlast : ∀ c ∈ line, (decide (c = '\r')) = false := by
    intro c hc
    rw [decide_eq_false_iff_not]
    rintro rfl
    have hbreak := h _ hc
    rw [isLineBreak_cr] at hbreak
    cases hbreak
  have hdrop := rdropWhile_append hlast fun c (hc : c ∈ []) => absurd hc List.not_mem_nil
  rwa [List.append_nil] at hdrop

/-! ## Reading -/

variable {dataLines : List (List Char)} {data : List Char}

theorem iter_ignored (ignored : IgnoredLine) :
    iterSseEventData dataLines (ignored.text :: lines) = iterSseEventData dataLines lines := by
  obtain ⟨field, hfield, hprefix⟩ := List.any_eq_true.mp ignored.ignored
  obtain ⟨value, hvalue⟩ := List.isPrefixOf_iff_prefix.mp hprefix
  have hnotData : ignored.text ≠ [] ∧ dataField.isPrefixOf ignored.text = false := by
    rw [← hvalue]
    revert hfield
    unfold ignoredFields
    simp only [List.mem_cons, List.not_mem_nil, or_false]
    rintro (rfl | rfl | rfl | rfl) <;> exact ⟨List.cons_ne_nil _ _, rfl⟩
  rw [iterSseEventData]
  dsimp only
  rw [dropReturns_of_unbroken ignored.unbroken, if_neg hnotData.1, hnotData.2, ignored.ignored]
  rfl

theorem iter_data (h : Unbroken data) :
    iterSseEventData dataLines (dataLine data :: lines)
      = iterSseEventData (dropSpaces data :: dataLines) lines := by
  have hfield : dataField.all (fun c => !isLineBreak c) = true := rfl
  have hline : Unbroken (dataLine data) := by
    intro c hc
    rcases List.mem_append.mp hc with hc | hc
    · simpa using List.all_eq_true.mp hfield c hc
    · rcases List.mem_cons.mp hc with rfl | hc
      · rfl
      · exact h c hc
  rw [iterSseEventData]
  dsimp only
  rw [dropReturns_of_unbroken hline]
  rfl

theorem iter_blank :
    iterSseEventData [data] ([] :: lines)
      = (data :: (iterSseEventData [] lines).1, (iterSseEventData [] lines).2) := by
  have hjoin : joinData [data] = data := by simp [joinData]
  have hblank : dropReturns [] = [] := rfl
  rw [iterSseEventData]
  dsimp only
  rw [hblank, if_pos rfl, if_neg (List.cons_ne_nil _ _), hjoin]

theorem iter_frame {reader : JsonReader} (frame : Frame reader)
    (h : Unbroken frame.event.text) :
    iterSseEventData [] (frame.lines ++ lines)
      = (dropSpaces frame.event.text :: (iterSseEventData [] lines).1,
        (iterSseEventData [] lines).2) := by
  have hignored : ∀ ignored : List IgnoredLine, ∀ later,
      iterSseEventData [] (ignored.map (·.text) ++ later) = iterSseEventData [] later := by
    intro ignored later
    induction ignored with
    | nil => rfl
    | cons first rest ih => rw [List.map_cons, List.cons_append, iter_ignored, ih]
  rw [Frame.lines, List.append_assoc, hignored, List.cons_append, iter_data h, List.cons_append,
    iter_blank, List.nil_append]

theorem of_mem_iter (hlines : ∀ line ∈ lines, Unbroken line)
    (hdata : ∀ line ∈ dataLines, Unbroken line) :
    ∀ text ∈ (iterSseEventData dataLines lines).1, ∀ c ∈ text, isLineBreak c = true → c = '\n' := by
  have hjoin : ∀ dataLines : List (List Char), (∀ line ∈ dataLines, Unbroken line) →
      ∀ c ∈ joinData dataLines, isLineBreak c = true → c = '\n' := by
    intro dataLines hdata c hc hbreak
    rcases mem_of_mem_intercalate hc with rfl | ⟨line, hline, hc⟩
    · rfl
    · rw [hdata line (List.mem_reverse.mp hline) c hc] at hbreak
      cases hbreak
  induction lines generalizing dataLines with
  | nil =>
      rw [iterSseEventData]
      intro text htext
      dsimp only at htext
      split at htext
      next => cases htext
      next =>
        obtain rfl := List.mem_singleton.mp htext
        exact hjoin dataLines hdata
  | cons rawLine rest ih =>
      have hrest : ∀ line ∈ rest, Unbroken line := fun line hline =>
        hlines line (List.mem_cons_of_mem _ hline)
      have hraw := hlines rawLine List.mem_cons_self
      have hempty : ∀ line ∈ ([] : List (List Char)), Unbroken line := by simp
      rw [iterSseEventData]
      dsimp only
      rw [dropReturns_of_unbroken hraw]
      split
      next =>
        split
        next => exact ih hrest hempty
        next =>
          intro text htext
          rcases List.mem_cons.mp htext with rfl | htext
          · exact hjoin dataLines hdata
          · exact ih hrest hempty text htext
      next =>
        split
        next =>
          refine ih hrest (List.forall_mem_cons.mpr ⟨fun c hc => hraw c ?_, hdata⟩)
          exact List.mem_of_mem_drop (List.dropWhile_sublist _ |>.subset hc)
        next =>
          split
          next => exact ih hrest hdata
          next =>
            intro text htext
            cases htext

end

/-! ## What is read of the events -/

section

variable {reader : JsonReader} {frames : List (Frame reader)} {collected : Assembled}

/-- No event has a character at which a line ends. -/
def OneLineEach (frames : List (Frame reader)) : Prop :=
  ∀ frame ∈ frames, Unbroken frame.event.text

theorem unbroken_done : Unbroken (dataLine doneData) := by
  have hall : (dataLine doneData).all (fun c => !isLineBreak c) = true := rfl
  intro c hc
  simpa using List.all_eq_true.mp hall c hc

theorem unbroken_dataLine {data : List Char} (h : Unbroken data) : Unbroken (dataLine data) := by
  have hfield : (dataField ++ [' ']).all (fun c => !isLineBreak c) = true := rfl
  intro c hc
  have hsplit : dataLine data = (dataField ++ [' ']) ++ data := by simp [dataLine]
  rw [hsplit] at hc
  rcases List.mem_append.mp hc with hc | hc
  · simpa using List.all_eq_true.mp hfield c hc
  · exact h c hc

theorem unbroken_sentLines (h : OneLineEach frames) :
    ∀ line ∈ sentLines frames, Unbroken line := by
  have hempty : Unbroken [] := fun _ hc => absurd hc List.not_mem_nil
  intro line hline
  rcases List.mem_append.mp hline with hline | hline
  · obtain ⟨frame, hframe, hline⟩ := List.mem_flatMap.mp hline
    rcases List.mem_append.mp hline with hline | hline
    · obtain ⟨ignored, -, rfl⟩ := List.mem_map.mp hline
      exact ignored.unbroken
    · rcases List.mem_cons.mp hline with rfl | hline
      · exact unbroken_dataLine (h frame hframe)
      · obtain rfl := List.mem_singleton.mp hline
        exact hempty
  · rcases List.mem_cons.mp hline with rfl | hline
    · exact unbroken_done
    · obtain rfl := List.mem_singleton.mp hline
      exact hempty

theorem iter_sentLines (h : OneLineEach frames) :
    iterSseEventData [] (sentLines frames) = (eventData frames ++ [doneData], none) := by
  unfold sentLines eventData
  induction frames with
  | nil => rfl
  | cons frame rest ih =>
      have hrest := ih fun other hother => h other (List.mem_cons_of_mem _ hother)
      rw [List.flatMap_cons, List.append_assoc, iter_frame frame (h frame List.mem_cons_self),
        hrest]
      rfl

theorem lines_of_sent (http : Httpx) {crlf : Bool} {chunks : List (List UInt8)}
    (hchunks : chunks.flatten = utf8 (encode crlf (sentLines frames))) :
    http.decode chunks.flatten = encode crlf (sentLines frames)
      ∧ http.aiterLines chunks = lineTexts (encode crlf (sentLines frames)) := by
  rw [http.aiterLines_eq, hchunks, http.decode_utf8]
  exact ⟨rfl, rfl⟩

theorem oneLineEach_of_iter {lines : List (List Char)} (hlines : ∀ line ∈ lines, Unbroken line)
    (h : iterSseEventData [] lines = (eventData frames ++ [doneData], none)) :
    OneLineEach frames := by
  intro frame hframe c hc
  by_contra hbreak
  rw [Bool.not_eq_false] at hbreak
  have hnotSpace : c ≠ ' ' := by
    rintro rfl
    cases hbreak
  have hdata : dropSpaces frame.event.text ∈ (iterSseEventData [] lines).1 := by
    rw [h]
    exact List.mem_append_left _ (List.mem_map.mpr ⟨frame, hframe, rfl⟩)
  have hkept : c ∈ dropSpaces frame.event.text := by
    have hsplit := List.takeWhile_append_dropWhile (p := fun c => decide (c = ' '))
      (l := frame.event.text)
    rw [← hsplit] at hc
    rcases List.mem_append.mp hc with hspace | hc
    · exact absurd (by simpa using List.mem_takeWhile_imp hspace) hnotSpace
    · exact hc
  have hnone : ∀ line ∈ ([] : List (List Char)), Unbroken line := by simp
  have hlf := of_mem_iter hlines hnone _ hdata c hkept hbreak
  subst hlf
  exact frame.event.noLineFeed hc

theorem eventFacts_event (event : SseEvent reader) :
    eventFacts reader (dropSpaces event.text) = openaiSseChunkFacts event.chunk := by
  unfold eventFacts providerStreamEventJson
  rw [reader.loads_dropSpaces, event.reads]
  rfl

theorem event_ne_done (event : SseEvent reader) : dropSpaces event.text ≠ doneData := by
  intro h
  have hreads := reader.loads_dropSpaces event.text
  rw [h, reader.loads_done, event.reads] at hreads
  cases hreads

theorem join_filter (texts : List String) :
    String.join (texts.filter (· ≠ "")) = String.join texts := by
  induction texts with
  | nil => rfl
  | cons text rest ih =>
      by_cases hempty : text = ""
      · rw [List.filter_cons_of_neg (by simpa using hempty), ih, String.join_cons, hempty,
          String.empty_append]
      · rw [List.filter_cons_of_pos (by simpa using hempty), String.join_cons, String.join_cons, ih]

theorem streamTokens_sent (raised : Option String) (frames : List (Frame reader)) :
    streamTokens reader raised (eventData frames ++ [doneData])
      = (factsOf frames).map fun facts => (facts.map (·.content)).filter (· ≠ "") := by
  unfold eventData factsOf
  induction frames with
  | nil => rfl
  | cons frame rest ih =>
      rw [List.map_cons, List.cons_append, streamTokens, if_neg (event_ne_done frame.event),
        eventFacts_event, ih, List.mapM_cons]
      cases openaiSseChunkFacts frame.event.chunk with
      | error raised => rfl
      | ok facts =>
          cases rest.mapM fun frame => openaiSseChunkFacts frame.event.chunk with
          | error raised => rfl
          | ok later =>
              by_cases hempty : facts.content = ""
              · simp [bind, Except.bind, Except.map, pure, Except.pure, hempty]
              · simp [bind, Except.bind, Except.map, pure, Except.pure, hempty]

theorem stream_sent (h : OneLineEach frames) :
    stream reader (sentLines frames)
      = (factsOf frames).map fun facts => String.join (facts.map (·.content)) := by
  unfold stream
  dsimp only
  rw [iter_sentLines h, streamTokens_sent]
  cases factsOf frames with
  | error raised => rfl
  | ok facts => exact congrArg Except.ok (join_filter _)

/-! ## What is collected -/

theorem assemble_sent (frames : List (Frame reader)) (collected : Assembled) :
    assemble reader collected (eventData frames ++ [doneData])
      = (factsOf frames).map fun facts => some (facts.foldl Assembled.add collected) := by
  unfold eventData factsOf
  induction frames generalizing collected with
  | nil => rfl
  | cons frame rest ih =>
      rw [List.map_cons, List.cons_append, assemble, if_neg (event_ne_done frame.event),
        eventFacts_event, List.mapM_cons]
      cases openaiSseChunkFacts frame.event.chunk with
      | error raised => rfl
      | ok facts =>
          have hrest := ih (collected.add facts)
          dsimp only [bind, Except.bind] at hrest ⊢
          rw [hrest]
          cases rest.mapM fun frame => openaiSseChunkFacts frame.event.chunk with
          | error raised => rfl
          | ok later => rfl

theorem contentParts_foldl (facts : List ChunkFacts) (collected : Assembled) :
    (facts.foldl Assembled.add collected).contentParts
      = collected.contentParts ++ (facts.map (·.content)).filter (· ≠ "") := by
  induction facts generalizing collected with
  | nil => simp
  | cons fact rest ih =>
      rw [List.foldl_cons, ih, Assembled.add]
      by_cases hempty : fact.content = "" <;> simp [hempty]

theorem usage_foldl {facts : List ChunkFacts} {usage : Dict}
    (h : (facts.foldl Assembled.add collected).usage = some usage) :
    collected.usage = some usage ∨ ∃ fact ∈ facts, fact.usage = some usage := by
  induction facts generalizing collected with
  | nil => exact .inl h
  | cons fact rest ih =>
      rcases ih h with hadded | ⟨other, hother, husage⟩
      · rcases Option.or_eq_some_iff.mp hadded with hfact | ⟨-, hbefore⟩
        · exact .inr ⟨fact, List.mem_cons_self, hfact⟩
        · exact .inl hbefore
      · exact .inr ⟨other, List.mem_cons_of_mem _ hother, husage⟩

theorem extract_envelope (shape : Dict → String) (collected : Assembled) {text : String} :
    extractOpenaiContent shape collected.envelope = .ok text
      ↔ text = String.join collected.contentParts ∧ stripText text.toList ≠ [] := by
  unfold extractOpenaiContent Assembled.envelope
  simp only [Dict.get_append, Dict.get_cons, if_true, Option.some_or, given, openaiContentText,
    bind, Except.bind]
  split
  next hblank =>
    constructor
    · intro h
      cases h
    · rintro ⟨rfl, hnonblank⟩
      exact absurd hblank hnonblank
  next hnonblank =>
    constructor
    · intro h
      obtain rfl := Except.ok.inj h
      exact ⟨rfl, hnonblank⟩
    · rintro ⟨rfl, -⟩
      rfl

theorem usage_envelope (collected : Assembled) :
    (collected.usage = none → openaiUsageFacts collected.envelope = .ok none)
      ∧ ∀ usage, collected.usage = some usage →
        openaiUsageFacts collected.envelope = openaiUsageFacts [("usage", .obj usage)] := by
  constructor
  · intro hnone
    simp [openaiUsageFacts, Assembled.envelope, hnone]
  · intro usage husage
    simp [openaiUsageFacts, Assembled.envelope, husage]

theorem complete_sent (shape : Dict → String) {response : Response} (h : OneLineEach frames)
    (htext : lineTexts response.text = sentLines frames) :
    complete reader shape response = factsOf frames >>= fun facts =>
      openaiUsageFacts (facts.foldl Assembled.add {}).envelope >>= fun _ =>
        extractOpenaiContent shape (facts.foldl Assembled.add {}).envelope := by
  have hevents : sseEventData response.text = .ok (eventData frames ++ [doneData]) := by
    unfold sseEventData
    dsimp only
    rw [htext, iter_sentLines h]
  have hsome : eventData frames ++ [doneData] ≠ [] := by simp
  unfold complete openaiSseResponseJson
  rw [bind_of_eq_ok hevents, if_neg hsome, assemble_sent]
  cases factsOf frames with
  | error raised => rfl
  | ok facts => rfl

theorem oneLineEach_of_readsBack {http : Httpx} {shape : Dict → String} {crlf : Bool}
    (h : ReadsBack http shape crlf frames) : OneLineEach frames := by
  have hchunks : [utf8 (encode crlf (sentLines frames))].flatten
      = utf8 (encode crlf (sentLines frames)) := List.append_nil _
  have hread := h.events _ hchunks
  rw [(lines_of_sent http hchunks).2] at hread
  exact oneLineEach_of_iter (fun line hline => unbroken_of_mem_lineTexts hline) hread

/-- **Events are read back exactly where none has a character that ends a line for Python.** In
whatever chunks the bytes arrive, the events are then yielded as they were sent, the tokens that are
streamed are their deltas, and the text that is completed is the same. -/
theorem readsBack_iff (http : Httpx) (shape : Dict → String) (crlf : Bool)
    (frames : List (Frame reader)) :
    ReadsBack http shape crlf frames ↔ OneLineEach frames := by
  constructor
  · exact oneLineEach_of_readsBack
  · intro h
    have hlines : lineTexts (encode crlf (sentLines frames)) = sentLines frames :=
      lineTexts_encode (unbroken_sentLines h)
    have hread : ∀ chunks : List (List UInt8),
        chunks.flatten = utf8 (encode crlf (sentLines frames)) →
        http.aiterLines chunks = sentLines frames
          ∧ lineTexts (http.decode chunks.flatten) = sentLines frames := by
      intro chunks hchunks
      obtain ⟨htext, hiter⟩ := lines_of_sent http hchunks
      rw [htext, hiter, hlines]
      exact ⟨rfl, rfl⟩
    refine ⟨?_, ?_, ?_, ?_, ?_⟩
    · intro chunks hchunks
      rw [(hread chunks hchunks).1, iter_sentLines h]
    · intro chunks hchunks
      rw [(hread chunks hchunks).1, stream_sent h]
    · intro chunks statusCode text hchunks hcomplete
      rw [complete_sent shape h (hread chunks hchunks).2] at hcomplete
      obtain ⟨facts, hfacts, hcomplete⟩ := bind_eq_ok.mp hcomplete
      obtain ⟨_, -, hextract⟩ := bind_eq_ok.mp hcomplete
      obtain ⟨rfl, -⟩ := (extract_envelope shape _).mp hextract
      rw [(hread chunks hchunks).1, stream_sent h, hfacts, contentParts_foldl]
      exact congrArg Except.ok (join_filter _).symm
    · intro chunks statusCode text hchunks hstream hnonblank husage
      rw [(hread chunks hchunks).1, stream_sent h] at hstream
      obtain ⟨facts, hfacts, htext⟩ := map_eq_ok.mp hstream
      have hjoined : text = String.join (facts.foldl Assembled.add {}).contentParts := by
        rw [contentParts_foldl, ← htext]
        exact (join_filter _).symm
      have htokens : ∃ tokens,
          openaiUsageFacts (facts.foldl Assembled.add {}).envelope = .ok tokens := by
        obtain ⟨hnone, hsome⟩ := usage_envelope (facts.foldl Assembled.add {})
        cases hcollected : (facts.foldl Assembled.add {}).usage with
        | none => exact ⟨none, hnone hcollected⟩
        | some usage =>
            rw [hsome usage hcollected]
            rcases usage_foldl hcollected with hbefore | ⟨fact, hfact, hgiven⟩
            · cases hbefore
            · exact husage facts hfacts fact hfact usage hgiven
      obtain ⟨tokens, htokens⟩ := htokens
      rw [complete_sent shape h (hread chunks hchunks).2, bind_of_eq_ok hfacts,
        bind_of_eq_ok htokens]
      exact (extract_envelope shape _).mpr ⟨hjoined, hnonblank⟩
    · intro chunks statusCode raised hchunks hstream
      rw [(hread chunks hchunks).1, stream_sent h] at hstream
      rw [complete_sent shape h (hread chunks hchunks).2]
      cases hfacts : factsOf frames with
      | error first =>
          rw [hfacts] at hstream
          obtain rfl := Except.error.inj
            (show Except.error first = Except.error raised from hstream)
          rfl
      | ok facts =>
          rw [hfacts] at hstream
          cases hstream

end

/-! ## An event with a line separator -/

/-- A delta of two letters that a line separator parts. -/
def separatedText : List Char :=
  "\x7b\"choices\":[\x7b\"delta\":\x7b\"content\":\"a\u2028b\"\x7d\x7d]\x7d".toList

def separatedChunk : Dict :=
  [("choices", .arr [.obj [("delta", .obj [("content", .str "a\u2028b")])]])]

theorem dropSpaces_dropSpaces (text : List Char) : dropSpaces (dropSpaces text) = dropSpaces text :=
  List.dropWhile_idempotent _ text

def separatedReader : JsonReader where
  loads text := if dropSpaces text = separatedText then some (.obj separatedChunk) else none
  loads_dropSpaces text := by rw [dropSpaces_dropSpaces]
  loads_done := by decide +kernel

def separatedEvent : SseEvent separatedReader where
  text := separatedText
  chunk := separatedChunk
  reads := by
    have hkept : dropSpaces separatedText = separatedText := by decide +kernel
    unfold separatedReader
    dsimp only
    rw [if_pos hkept]
  noLineFeed := by decide +kernel
  noReturn := by decide +kernel

def decodeUtf8 (bytes : List UInt8) : List Char :=
  (((ByteArray.mk bytes.toArray).utf8Decode?).map Array.toList).getD []

theorem decodeUtf8_utf8 (text : List Char) : decodeUtf8 (utf8 text) = text := by
  unfold decodeUtf8 utf8
  rw [Array.toArray_toList, String.toByteArray_ofList, List.utf8Decode?_utf8Encode]
  rfl

/-- A client that keeps all bytes until the last has arrived. -/
def keptHttpx : Httpx where
  decode := decodeUtf8
  decode_utf8 := decodeUtf8_utf8
  aiterLines chunks := lineTexts (decodeUtf8 chunks.flatten)
  aiterLines_eq _ := rfl

/-- The event is cut at the separator, and so it is not read back. -/
theorem separatedEvent_cut :
    ¬ ReadsBack keptHttpx (fun _ => "") false [⟨[], separatedEvent⟩] := by
  intro h
  have hseparator : '\u2028' ∈ separatedText := by decide +kernel
  have hone := oneLineEach_of_readsBack h ⟨[], separatedEvent⟩ List.mem_cons_self _ hseparator
  exact absurd hone (by decide)

end Navi.Provider
