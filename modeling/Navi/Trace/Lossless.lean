import Navi.Trace.BlobTexts

/-!
# When the listing is lossless

An event is listed as it was recorded exactly where its data has no reference of its own
and every long text is found under its digest. Deletions keep the blobs of what is left, so
that only what is recorded can break this.
-/

namespace Navi.Trace

open Navi.Base Navi.Base.Json

/-- Every page of every trace is listed as its events were recorded, and every stored
reference has its blob. -/
structure Recorded.Lossless (codec : Codec) (s : Recorded) : Prop where
  listed : ∀ traceId limit offset, s.store.listEvents codec traceId limit offset
    = .ok (tracePage traceId limit offset (s.given.map (·.returned codec)))
  present : ∀ row ∈ s.store.events.rows, ∀ hash ∈ row.references codec,
    ∃ h, hash = .str h ∧ ∃ blob, s.store.blobs.get? h = some blob

/-- What is recorded has no reference of its own, and no two long texts of it, nor one of it
and one that is stored, have one digest. -/
def RecordsPlainly (codec : Codec) (s : Recorded) : TraceLabel → Prop
  | .add event =>
      s.store.events.get? event.id = none →
        references (event.redacted codec).input.value = []
          ∧ references (event.redacted codec).output.value = []
          ∧ (∀ t ∈ (event.redacted codec).longTexts, ∀ t' ∈ (event.redacted codec).longTexts,
            codec.digest t = codec.digest t' → t = t')
          ∧ ∀ t ∈ (event.redacted codec).longTexts,
            ∀ blob ∈ s.store.blobs.get? (codec.digest t), blob.content = t
  | .deleteTraces _ => True
  | .compactRun _ => True

section

variable {codec : Codec} {blobs : Blobs} {event : GivenEvent}

/-! ## One event -/

/-- The data of an event is kept by the blobs. -/
def GivenEvent.Kept (codec : Codec) (blobs : Blobs) (event : GivenEvent) : Prop :=
  Trace.Kept codec.digest (blobContent codec blobs) event.input.value
    ∧ Trace.Kept codec.digest (blobContent codec blobs) event.output.value

theorem written_eq_iff {v w : Json} :
    codec.written v = codec.written w ↔ sortKeys v = sortKeys w := dumps_eq_iff

theorem written_sortKeys (v : Json) : codec.written (sortKeys v) = codec.written v :=
  written_eq_iff.mpr (sortKeys_sortKeys v)

theorem toList_written (v : Json) :
    (codec.written v).toList = render codec.floats [' '] (sortKeys v) :=
  String.toList_ofList

theorem written_ne_empty (d : Dict) : codec.written (.obj d) ≠ "" := by
  intro h
  have hchars := congrArg String.toList h
  rw [toList_written, sortKeys_obj, render] at hchars
  cases hchars

theorem read_written (object : JsonObject) :
    codec.read (codec.written (extractBlobs codec.digest object.value))
      = extractBlobs codec.digest (sortKeys object.value) := by
  have hobj : extractBlobs codec.digest object.value
      = .obj (extractEntries codec.digest object.entries) := by
    rw [JsonObject.value, extractBlobs]
  have hne : codec.written (extractBlobs codec.digest object.value) ≠ "" := by
    rw [hobj]
    exact written_ne_empty _
  rw [Codec.read, if_neg hne, ← sortKeys_extractBlobs]
  exact codec.reads _ (extractBlobs_distinct _ object.distinct)

theorem dumpsOrEmpty_of_ne_null {v : Json} (h : v ≠ .null) :
    dumpsOrEmpty codec v = codec.written v := by
  cases v with
  | null => exact absurd rfl h
  | bool | int | float | str | arr | obj => rfl

theorem putBack_obj_ne_null (lookup : Json → String) (d : Dict) :
    putBack lookup (.obj d) ≠ .null := by
  rw [putBack]
  split
  · exact Json.noConfusion
  · exact Json.noConfusion

theorem dumpsOrEmpty_putBack (object : JsonObject) (lookup : Json → String) :
    dumpsOrEmpty codec
        (putBack lookup (codec.read (codec.written (extractBlobs codec.digest object.value))))
      = codec.written (putBack lookup (extractBlobs codec.digest (sortKeys object.value))) := by
  rw [read_written]
  refine dumpsOrEmpty_of_ne_null ?_
  rw [JsonObject.value, sortKeys_obj, extractBlobs]
  exact putBack_obj_ne_null _ _

theorem column_eq_iff (object : JsonObject) (lookup : Json → String) :
    codec.written (putBack lookup (extractBlobs codec.digest (sortKeys object.value)))
        = codec.written object.value
      ↔ Trace.Kept codec.digest lookup object.value := by
  constructor
  · intro h
    exact kept_sortKeys.mp
      (kept_of_sortKeys_eq _ (sortKeys_sortKeys _) (written_eq_iff.mp h))
  · intro h
    rw [putBack_extractBlobs _ (kept_sortKeys.mpr h), written_sortKeys]

theorem resolved_eq_returned_iff :
    (event.stored codec).resolved codec blobs = event.returned codec
      ↔ event.Kept codec blobs := by
  simp only [EventRow.resolved, GivenEvent.stored, GivenEvent.returned, EventRow.mk.injEq,
    true_and, dumpsOrEmpty_putBack, column_eq_iff, GivenEvent.Kept]

theorem resolved_of_references_nil (h : (event.stored codec).references codec = []) :
    (event.stored codec).resolved codec blobs = event.stored codec := by
  have hcolumn : ∀ object : JsonObject, references (codec.read (codec.written
      (extractBlobs codec.digest object.value))) = [] →
      dumpsOrEmpty codec (putBack (blobContent codec blobs) (codec.read (codec.written
        (extractBlobs codec.digest object.value))))
        = codec.written (extractBlobs codec.digest object.value) := by
    intro object hnone
    rw [dumpsOrEmpty_putBack]
    rw [read_written] at hnone
    rw [putBack_of_references_nil _ hnone, ← sortKeys_extractBlobs, written_sortKeys]
  rw [EventRow.references, List.append_eq_nil_iff] at h
  simp only [EventRow.resolved, GivenEvent.stored] at h ⊢
  rw [hcolumn _ h.1, hcolumn _ h.2]

theorem references_of_not_hasBlob (h : (event.stored codec).hasBlob = false) :
    (event.stored codec).references codec = [] := by
  simp only [EventRow.hasBlob, decide_eq_false_iff_not, not_or] at h
  have hcolumn : ∀ object : JsonObject, ¬ blobMarker <:+: (codec.written
      (extractBlobs codec.digest object.value)).toList →
      references (codec.read (codec.written (extractBlobs codec.digest object.value))) = [] := by
    intro object hmarker
    rw [read_written]
    by_contra hreferences
    rw [toList_written, sortKeys_extractBlobs] at hmarker
    exact hmarker (marker_infix_render _ hreferences)
  rw [EventRow.references, List.append_eq_nil_iff]
  exact ⟨hcolumn _ h.1, hcolumn _ h.2⟩

theorem mem_references_stored (h : event.Kept codec blobs) (hash : Json) :
    hash ∈ (event.stored codec).references codec
      ↔ ∃ t ∈ event.longTexts, hash = .str (codec.digest t) := by
  have hcolumn : ∀ object : JsonObject, references object.value = [] →
      (hash ∈ references (codec.read (codec.written (extractBlobs codec.digest object.value)))
        ↔ ∃ t ∈ longTexts object.value, hash = .str (codec.digest t)) := by
    intro object hnone
    rw [read_written, references_extractBlobs _ ((references_sortKeys_eq_nil _).mpr hnone)]
    simp only [List.mem_map, mem_longTexts_sortKeys, eq_comm]
  rw [EventRow.references, List.mem_append]
  simp only [GivenEvent.stored, hcolumn _ h.1.1, hcolumn _ h.2.1, GivenEvent.longTexts,
    List.mem_append, or_and_right, exists_or]

theorem GivenEvent.Kept.lookup (h : event.Kept codec blobs) {t : String}
    (ht : t ∈ event.longTexts) : blobContent codec blobs (.str (codec.digest t)) = t := by
  rcases List.mem_append.mp ht with hinput | houtput
  · exact h.1.2 t hinput
  · exact h.2.2 t houtput

theorem kept_iff : event.Kept codec blobs ↔ references event.input.value = []
    ∧ references event.output.value = []
    ∧ ∀ t ∈ event.longTexts, blobContent codec blobs (.str (codec.digest t)) = t := by
  constructor
  · intro h
    exact ⟨h.1.1, h.2.1, fun t ht => h.lookup ht⟩
  · rintro ⟨hinput, houtput, htexts⟩
    exact ⟨⟨hinput, fun t ht => htexts t (List.mem_append_left _ ht)⟩,
      ⟨houtput, fun t ht => htexts t (List.mem_append_right _ ht)⟩⟩

mutual

theorem long_of_mem_longTexts (v : Json) (t : String) (h : t ∈ longTexts v) : 1024 < t.length := by
  cases v with
  | arr items => exact long_of_mem_longTextsItems items t (by rwa [longTexts] at h)
  | obj entries => exact long_of_mem_longTextsEntries entries t (by rwa [longTexts] at h)
  | str s =>
      rw [longTexts] at h
      split at h
      next hlong => exact List.mem_singleton.mp h ▸ hlong
      next => cases h
  | null | bool | int | float => simp [longTexts] at h

theorem long_of_mem_longTextsItems (items : List Json) (t : String)
    (h : t ∈ longTextsItems items) : 1024 < t.length := by
  cases items with
  | nil => simp [longTextsItems] at h
  | cons item rest =>
      rw [longTextsItems, List.mem_append] at h
      exact h.elim (long_of_mem_longTexts item t) (long_of_mem_longTextsItems rest t)

theorem long_of_mem_longTextsEntries (entries : Dict) (t : String)
    (h : t ∈ longTextsEntries entries) : 1024 < t.length := by
  cases entries with
  | nil => simp [longTextsEntries] at h
  | cons entry rest =>
      obtain ⟨key, value⟩ := entry
      rw [longTextsEntries, List.mem_append] at h
      exact h.elim (long_of_mem_longTexts value t) (long_of_mem_longTextsEntries rest t)

end

theorem blob_of_lookup {t : String} (hlong : 1024 < t.length)
    (h : blobContent codec blobs (.str (codec.digest t)) = t) :
    ∃ blob, blobs.get? (codec.digest t) = some blob ∧ blob.content = t := by
  cases hblob : blobs.get? (codec.digest t) with
  | some blob =>
      refine ⟨blob, rfl, ?_⟩
      simpa [blobContent, hblob] using h
  | none =>
      have hmissing : "<missing blob: " ++ codec.digest t ++ ">" = t := by
        simpa [blobContent, hblob, formatted, Json.text] using h
      have hlength := congrArg String.length hmissing
      rw [String.length_append, String.length_append, codec.digest_length] at hlength
      have hshort : ("<missing blob: ".length + 32 + ">".length) = 48 := by decide
      omega

theorem mem_longTexts_long {t : String} (h : t ∈ event.longTexts) : 1024 < t.length :=
  (List.mem_append.mp h).elim (long_of_mem_longTexts _ t) (long_of_mem_longTexts _ t)

/-! ## The listing -/

theorem resolveEventsBlobs_eq {events : List GivenEvent} {rows : List EventRow}
    (h : resolveEventsBlobs codec blobs (events.map (·.stored codec)) = .ok rows) :
    rows = events.map fun event => (event.stored codec).resolved codec blobs := by
  unfold resolveEventsBlobs at h
  dsimp only at h
  split at h
  · cases h
  split at h
  next hnone =>
    -- no reference in any row that has the marker, so none in any
    obtain rfl := Except.ok.inj h
    refine List.map_congr_left fun event hevent => ?_
    refine (resolved_of_references_nil ?_).symm
    cases hmarker : (event.stored codec).hasBlob with
    | false => exact references_of_not_hasBlob hmarker
    | true =>
        rw [List.flatMap_eq_nil_iff] at hnone
        exact hnone _ (List.mem_filter.mpr ⟨List.mem_map_of_mem hevent, hmarker⟩)
  next =>
    split at h
    · cases h
    · obtain rfl := Except.ok.inj h
      rw [List.map_map]
      refine List.map_congr_left fun event _ => ?_
      simp only [Function.comp_apply]
      split
      next => rfl
      next hmarker =>
        have hnone := references_of_not_hasBlob (eq_false_of_ne_true hmarker)
        exact (resolved_of_references_nil hnone).symm

theorem resolveEventsBlobs_of_kept {events : List GivenEvent}
    (h : ∀ event ∈ events, event.Kept codec blobs) :
    ∃ rows, resolveEventsBlobs codec blobs (events.map (·.stored codec)) = .ok rows := by
  have hstrings : ∀ hash ∈ ((events.map (·.stored codec)).filter (·.hasBlob)).flatMap
      (·.references codec), ∃ t, hash = .str (codec.digest t) := by
    intro hash hhash
    obtain ⟨row, hrow, hhash⟩ := List.mem_flatMap.mp hhash
    obtain ⟨event, hevent, rfl⟩ := List.mem_map.mp (List.mem_filter.mp hrow).1
    obtain ⟨t, -, rfl⟩ := (mem_references_stored (h event hevent) hash).mp hhash
    exact ⟨t, rfl⟩
  unfold resolveEventsBlobs
  dsimp only
  rw [if_neg]
  · split
    · exact ⟨_, rfl⟩
    · rw [if_neg]
      · exact ⟨_, rfl⟩
      · intro hany
        obtain ⟨hash, hhash, hunbound⟩ := List.any_eq_true.mp hany
        obtain ⟨t, rfl⟩ := hstrings hash hhash
        cases hunbound
  · intro hany
    obtain ⟨hash, hhash, hunhashable⟩ := List.any_eq_true.mp hany
    obtain ⟨t, rfl⟩ := hstrings hash hhash
    cases hunhashable

theorem tracePage_map {row : GivenEvent → EventRow} (htrace : ∀ e, (row e).traceId = e.traceId)
    (htime : ∀ e, (row e).createdAt = e.createdAt) (traceId : String) (limit offset : Int)
    (events : List GivenEvent) : tracePage traceId limit offset (events.map row)
      = (sqlPage limit offset ((events.filter (·.traceId = traceId)).insertionSort
        fun a b => a.createdAt ≤ b.createdAt)).map row := by
  have hfilter : (events.map row).filter (·.traceId = traceId)
      = (events.filter (·.traceId = traceId)).map row := by
    rw [List.filter_map]
    refine congrArg (List.map row) (List.filter_congr fun event _ => ?_)
    simp only [Function.comp_apply, htrace]
  have hsort : ((events.filter (·.traceId = traceId)).map row).insertionSort
      (fun a b => a.createdAt ≤ b.createdAt)
        = ((events.filter (·.traceId = traceId)).insertionSort
          fun a b => a.createdAt ≤ b.createdAt).map row := by
    refine (List.map_insertionSort _ _ row _ fun a _ b _ => ?_).symm
    rw [htime, htime]
  rw [tracePage, hfilter, hsort, map_sqlPage]

/-- The rows of the store are those of the events that were recorded. -/
def Recorded.Linked (codec : Codec) (s : Recorded) : Prop :=
  s.store.events.rows = s.given.map (·.stored codec)

variable {s s' : Recorded}

theorem listEvents_eq (hlinked : s.Linked codec) (traceId : String) (limit offset : Int) :
    s.store.listEvents codec traceId limit offset = resolveEventsBlobs codec s.store.blobs
      ((sqlPage limit offset ((s.given.filter (·.traceId = traceId)).insertionSort
        fun a b => a.createdAt ≤ b.createdAt)).map (·.stored codec)) := by
  rw [TraceStore.listEvents, hlinked, tracePage_map (fun _ => rfl) fun _ => rfl]

theorem lossless_iff (hlinked : s.Linked codec) :
    s.Lossless codec ↔ ∀ event ∈ s.given, event.Kept codec s.store.blobs := by
  constructor
  · intro h event hevent
    have hlisted := h.listed event.traceId (-1) 0
    rw [listEvents_eq hlinked, tracePage_map (fun _ => rfl) fun _ => rfl] at hlisted
    have hrows := resolveEventsBlobs_eq hlisted
    have hpage : event ∈ sqlPage (-1) 0 ((s.given.filter (·.traceId = event.traceId)).insertionSort
        fun a b => a.createdAt ≤ b.createdAt) := by
      have hsorted : event ∈ (s.given.filter (·.traceId = event.traceId)).insertionSort
          fun a b => a.createdAt ≤ b.createdAt :=
        (List.mem_insertionSort _).mpr (List.mem_filter.mpr ⟨hevent, decide_eq_true rfl⟩)
      exact hsorted
    exact resolved_eq_returned_iff.mp (List.map_inj_left.mp hrows event hpage).symm
  · intro h
    refine ⟨fun traceId limit offset => ?_, fun row hrow hash hhash => ?_⟩
    · have hpage : ∀ event ∈ sqlPage limit offset
          ((s.given.filter (·.traceId = traceId)).insertionSort
            fun a b => a.createdAt ≤ b.createdAt), event.Kept codec s.store.blobs := by
        intro event hevent
        have hsorted := (List.mem_insertionSort _).mp (mem_of_mem_sqlPage hevent)
        exact h event (List.mem_filter.mp hsorted).1
      obtain ⟨rows, hrows⟩ := resolveEventsBlobs_of_kept hpage
      rw [listEvents_eq hlinked, tracePage_map (fun _ => rfl) fun _ => rfl, hrows,
        resolveEventsBlobs_eq hrows]
      refine congrArg Except.ok (List.map_congr_left fun event hevent => ?_)
      exact resolved_eq_returned_iff.mpr (hpage event hevent)
    · rw [hlinked] at hrow
      obtain ⟨event, hevent, rfl⟩ := List.mem_map.mp hrow
      have hkept := h event hevent
      obtain ⟨t, ht, rfl⟩ := (mem_references_stored hkept hash).mp hhash
      obtain ⟨blob, hblob, -⟩ := blob_of_lookup (mem_longTexts_long ht) (hkept.lookup ht)
      exact ⟨_, rfl, blob, hblob⟩

/-! ## Insertion of blobs -/

theorem get?_pendingBlobs (digest : String → String) (texts : List String) (hash : String) :
    (∀ blob ∈ (pendingBlobs digest texts).get? hash,
        ∃ t ∈ texts, digest t = hash ∧ blob.content = t)
      ∧ ((pendingBlobs digest texts).get? hash = none → ∀ t ∈ texts, digest t ≠ hash) := by
  unfold pendingBlobs
  induction texts using List.reverseRecOn with
  | nil =>
      constructor
      · intro blob hblob
        cases hblob
      · intro _ t ht
        cases ht
  | append_singleton texts t ih =>
      rw [List.foldl_append, List.foldl_cons, List.foldl_nil, Table.get?_upsert]
      split
      next hhash =>
        refine ⟨fun blob hblob => ?_, fun hnone => by cases hnone⟩
        obtain rfl := Option.some.inj hblob
        exact ⟨t, List.mem_append_right _ (List.mem_singleton.mpr rfl), hhash, rfl⟩
      next hhash =>
        refine ⟨fun blob hblob => ?_, fun hnone t' ht' => ?_⟩
        · obtain ⟨t', ht', hrest⟩ := ih.1 blob hblob
          exact ⟨t', List.mem_append_left _ ht', hrest⟩
        · rcases List.mem_append.mp ht' with hold | hnew
          · exact ih.2 hnone t' hold
          · obtain rfl := List.mem_singleton.mp hnew
            exact hhash

theorem get?_insertBlobs (blobs pending : Blobs) (hash : String) :
    (insertBlobs blobs pending).get? hash = (blobs.get? hash).or (pending.get? hash) := by
  unfold insertBlobs Table.get?
  generalize pending.rows = rows
  induction rows generalizing blobs with
  | nil => simp
  | cons blob rows ih =>
      have hinsert := Table.get?_insertOrIgnore blobs blob hash
      unfold Table.get? at hinsert
      rw [List.foldl_cons, ih, hinsert, List.find?_cons]
      by_cases hhash : blob.hash = hash
      · simp [hhash]
      · simp [hhash]

theorem kept_insertBlobs_iff : event.Kept codec
      (insertBlobs blobs (pendingBlobs codec.digest event.longTexts))
    ↔ references event.input.value = [] ∧ references event.output.value = []
      ∧ (∀ t ∈ event.longTexts, ∀ t' ∈ event.longTexts, codec.digest t = codec.digest t' → t = t')
      ∧ ∀ t ∈ event.longTexts, ∀ blob ∈ blobs.get? (codec.digest t), blob.content = t := by
  rw [kept_iff]
  refine and_congr_right fun _ => and_congr_right fun _ => ?_
  constructor
  · intro h
    refine ⟨fun t ht t' ht' hsame => ?_, fun t ht blob hblob => ?_⟩
    · rw [← h t ht, ← h t' ht', hsame]
    · obtain ⟨blob', hblob', hcontent⟩ := blob_of_lookup (mem_longTexts_long ht) (h t ht)
      rw [get?_insertBlobs, Option.mem_def.mp hblob, Option.some_or] at hblob'
      rw [Option.some.inj hblob']
      exact hcontent
  · rintro ⟨hsame, hstored⟩ t ht
    have hpending := get?_pendingBlobs codec.digest event.longTexts (codec.digest t)
    have hfound : ∃ blob, (insertBlobs blobs (pendingBlobs codec.digest event.longTexts)).get?
        (codec.digest t) = some blob ∧ blob.content = t := by
      rw [get?_insertBlobs]
      cases hold : blobs.get? (codec.digest t) with
      | some blob => exact ⟨blob, rfl, hstored t ht blob hold⟩
      | none =>
          cases hnew : (pendingBlobs codec.digest event.longTexts).get? (codec.digest t) with
          | none => exact absurd rfl (hpending.2 hnew t ht)
          | some blob =>
              obtain ⟨t', ht', hdigest, hcontent⟩ := hpending.1 blob hnew
              exact ⟨blob, rfl, hcontent.trans (hsame t' ht' t ht hdigest)⟩
    obtain ⟨blob, hblob, hcontent⟩ := hfound
    simp [blobContent, hblob, hcontent]

theorem GivenEvent.Kept.mono {blobs' : Blobs} (h : event.Kept codec blobs)
    (hblobs : ∀ t ∈ event.longTexts, ∀ blob, blobs.get? (codec.digest t) = some blob →
      blobs'.get? (codec.digest t) = some blob) : event.Kept codec blobs' := by
  obtain ⟨hinput, houtput, htexts⟩ := kept_iff.mp h
  refine kept_iff.mpr ⟨hinput, houtput, fun t ht => ?_⟩
  obtain ⟨blob, hblob, hcontent⟩ := blob_of_lookup (mem_longTexts_long ht) (htexts t ht)
  simp [blobContent, hblobs t ht blob hblob, hcontent]

/-! ## Collection of blobs -/

theorem plainHash_digest (t : String) : PlainHash (codec.digest t) := by
  refine ⟨fun hempty => ?_, fun c hc => ?_⟩
  · have hlength := codec.digest_length t
    rw [hempty] at hlength
    exact absurd hlength (by decide)
  · have hdigits : hexDigits.all fun c => escapeChar c = [c] ∧ c ≠ quote := by decide
    simpa using List.all_eq_true.mp hdigits c (codec.digest_hex t c hc)

theorem mem_foundBlobs (h : event.Kept codec blobs) {t : String} (ht : t ∈ event.longTexts) :
    codec.digest t ∈ (event.stored codec).foundBlobs := by
  have hcolumn : ∀ object : JsonObject, references object.value = [] → t ∈ longTexts object.value →
      codec.digest t ∈ findBlobs (codec.written
        (extractBlobs codec.digest object.value)).toList := by
    intro object hnone ht
    have hreference : Json.str (codec.digest t)
        ∈ references (extractBlobs codec.digest (sortKeys object.value)) := by
      rw [references_extractBlobs _ ((references_sortKeys_eq_nil _).mpr hnone)]
      exact List.mem_map.mpr ⟨t, (mem_longTexts_sortKeys _ _).mpr ht, rfl⟩
    have hfollows : Follows [] := fun c hc => by cases hc
    have hfound := @mem_findBlobs_render codec.floats _ [] hfollows _
      (plainHash_digest t) hreference
    rwa [List.append_nil, ← sortKeys_extractBlobs, ← toList_written] at hfound
  rcases List.mem_append.mp ht with hinput | houtput
  · exact List.mem_append_left _ (hcolumn _ h.1.1 hinput)
  · exact List.mem_append_right _ (hcolumn _ h.2.1 houtput)

theorem kept_gcBlobs {store : TraceStore} {events : List GivenEvent}
    (hrows : store.events.rows = events.map (·.stored codec))
    (h : ∀ event ∈ events, event.Kept codec store.blobs) :
    ∀ event ∈ events, event.Kept codec store.gcBlobs.blobs := by
  intro event hevent
  refine (h event hevent).mono fun t ht blob hblob => ?_
  obtain ⟨hmem, hhash⟩ := Table.get?_eq_some_iff.mp hblob
  refine Table.get?_eq_some_iff.mpr ⟨Table.mem_delete.mpr ⟨hmem, ?_⟩, hhash⟩
  refine decide_eq_false (not_not_intro ?_)
  rw [hhash, hrows]
  exact List.mem_flatMap.mpr ⟨event.stored codec, List.mem_map_of_mem hevent,
    mem_foundBlobs (h event hevent) ht⟩

/-! ## Steps -/

theorem delete_rows {store : TraceStore} {events : List GivenEvent}
    (hrows : store.events.rows = events.map (·.stored codec)) {gone : EventRow → Bool}
    {left : GivenEvent → Bool} (hleft : ∀ event, left event = !gone (event.stored codec)) :
    (store.events.delete gone).rows = (events.filter left).map (·.stored codec) := by
  show store.events.rows.filter (fun row => !gone row) = _
  rw [hrows, List.filter_map]
  refine congrArg (List.map _) (List.filter_congr fun event _ => ?_)
  rw [Function.comp_apply, hleft]

theorem step_linked {label : TraceLabel} (hlinked : s.Linked codec)
    (hstep : (traceSystem codec).step s label = some s') :
    s'.Linked codec ∧ ((∀ event ∈ s.given, event.Kept codec s.store.blobs) →
      ((∀ event ∈ s'.given, event.Kept codec s'.store.blobs) ↔ RecordsPlainly codec s label)) := by
  cases label with
  | add event =>
      obtain ⟨store, hadd, rfl⟩ := Option.map_eq_some_iff.mp hstep
      unfold TraceStore.addEvent at hadd
      split at hadd
      · cases hadd
      next hfree =>
        obtain rfl := Option.some.inj hadd
        refine ⟨?_, fun hkept => ?_⟩
        · show (s.store.events.insertOrIgnore _).rows = _
          rw [Table.rows_insertOrIgnore hfree, hlinked, List.map_append]
          rfl
        · have hold : ∀ old ∈ s.given, old.Kept codec (insertBlobs s.store.blobs
              (pendingBlobs codec.digest (event.redacted codec).longTexts)) := fun old hmem =>
            (hkept old hmem).mono fun t _ blob hblob => by
              rw [get?_insertBlobs, hblob, Option.some_or]
          constructor
          · intro h _
            exact kept_insertBlobs_iff.mp
              (h _ (List.mem_append_right _ (List.mem_singleton.mpr rfl)))
          · intro h event' hevent'
            rcases List.mem_append.mp hevent' with hmem | hnew
            · exact hold event' hmem
            · obtain rfl := List.mem_singleton.mp hnew
              exact kept_insertBlobs_iff.mpr (h hfree)
  | deleteTraces traceId =>
      obtain rfl := Option.some.inj hstep
      by_cases hall : traceId = ""
      · have hnone : s.given.filter (fun event => traceId ≠ "" ∧ event.traceId ≠ traceId) = [] :=
          List.filter_eq_nil_iff.mpr fun event _ => by simp [hall]
        refine ⟨?_, fun _ => iff_of_true (fun event hevent => ?_) trivial⟩
        · show (s.store.deleteTraces traceId).events.rows = _
          dsimp only
          rw [hnone, TraceStore.deleteTraces, if_pos hall]
          rfl
        · rw [hnone] at hevent
          cases hevent
      · have hleft : ∀ event : GivenEvent, decide (traceId ≠ "" ∧ event.traceId ≠ traceId)
            = !decide ((event.stored codec).traceId = traceId) := by
          intro event
          show _ = !decide (event.traceId = traceId)
          simp [hall]
        have hrows : (s.store.events.delete (·.traceId = traceId)).rows
            = (s.given.filter (fun event => traceId ≠ "" ∧ event.traceId ≠ traceId)).map
              (·.stored codec) := delete_rows hlinked hleft
        have hstore : s.store.deleteTraces traceId
            = TraceStore.gcBlobs
              { s.store with events := s.store.events.delete (·.traceId = traceId) } :=
          if_neg hall
        refine ⟨?_, fun hkept => iff_of_true ?_ trivial⟩
        · show (s.store.deleteTraces traceId).events.rows = _
          rw [hstore]
          exact hrows
        · show ∀ event ∈ _, GivenEvent.Kept codec (s.store.deleteTraces traceId).blobs event
          rw [hstore]
          exact kept_gcBlobs hrows fun event hevent => hkept event (List.mem_filter.mp hevent).1
  | compactRun runId =>
      obtain rfl := Option.some.inj hstep
      have hleft : ∀ event : GivenEvent, decide (event.runId ≠ runId)
          = !decide ((event.stored codec).runId = runId) := by
        intro event
        show _ = !decide (event.runId = runId)
        simp
      have hrows : (s.store.events.delete (·.runId = runId)).rows
          = (s.given.filter (·.runId ≠ runId)).map (·.stored codec) := delete_rows hlinked hleft
      exact ⟨hrows, fun hkept => iff_of_true (kept_gcBlobs hrows fun event hevent =>
        hkept event (List.mem_filter.mp hevent).1) trivial⟩

theorem step_lossless_iff {label : TraceLabel} (hlinked : s.Linked codec)
    (hs : s.Lossless codec) (hstep : (traceSystem codec).step s label = some s') :
    s'.Lossless codec ↔ RecordsPlainly codec s label := by
  obtain ⟨hlinked', hkept⟩ := step_linked hlinked hstep
  rw [lossless_iff hlinked']
  exact hkept ((lossless_iff hlinked).mp hs)

theorem enabled_of_not_recordsPlainly {label : TraceLabel} (h : ¬ RecordsPlainly codec s label) :
    ∃ s', (traceSystem codec).step s label = some s' := by
  cases label with
  | add event =>
      cases hfree : s.store.events.get? event.id with
      | none =>
          dsimp only [traceSystem, TraceStore.addEvent]
          rw [show (event.redacted codec).id = event.id from rfl, hfree]
          exact ⟨_, rfl⟩
      | some row =>
          refine absurd (fun hnone => ?_) h
          rw [hfree] at hnone
          cases hnone
  | deleteTraces traceId => exact ⟨_, rfl⟩
  | compactRun runId => exact ⟨_, rfl⟩

theorem linked_start : Recorded.start.Linked codec := by
  unfold Recorded.Linked
  rfl

theorem lossless_start : Recorded.start.Lossless codec :=
  (lossless_iff linked_start).mpr fun _ hevent => by cases hevent

end

/-- **When the listing is lossless.** In every state that a sequence of recordings and
deletions goes through, every page of every trace is listed as its events were recorded and
every stored reference has its blob, if and only if every event is recorded plainly. -/
theorem listing_lossless_iff (codec : Codec) (labels : List TraceLabel) :
    (∀ n s, (traceSystem codec).run .start (labels.take n) = some s → s.Lossless codec)
      ↔ (traceSystem codec).Along (RecordsPlainly codec) .start labels :=
  (traceSystem codec).run_good_iff (fun _ _ _ hs hstep => (step_linked hs hstep).1)
    (fun _ _ _ hlinked hs hstep => step_lossless_iff hlinked hs hstep)
    (fun _ _ h => enabled_of_not_recordsPlainly h) linked_start lossless_start labels

open Classical in
/-- The value that was written, with its keys in order. -/
noncomputable def plainLoads (text : String) : Json :=
  if h : ∃ v : Json, v.distinct = true ∧ dumps fractionText [' '] v = text then
    sortKeys h.choose
  else .null

theorem plainLoads_dumps {v : Json} (hv : v.distinct = true) :
    plainLoads (dumps fractionText [' '] v) = sortKeys v := by
  have hexists : ∃ w : Json, w.distinct = true
      ∧ dumps fractionText [' '] w = dumps fractionText [' '] v := ⟨v, hv, rfl⟩
  rw [plainLoads, dif_pos hexists]
  exact dumps_eq_iff.mp hexists.choose_spec.2

/-- A codec without redaction and with one digest. -/
noncomputable def plainCodec : Codec where
  floats := fractionText
  loads := plainLoads
  reads _ := plainLoads_dumps
  digest _ := "00000000000000000000000000000000"
  digest_length _ := by decide
  digest_hex _ c hc := by
    have hzero : c = '0' := by simpa using hc
    subst hzero
    decide
  redact object := object

/-- An input that looks like a reference. -/
def noted : GivenEvent where
  id := "e1"
  traceId := "t"
  runId := "r"
  createdAt := 0
  input := ⟨[("note", .obj [("$blob", .str "x")])], by decide⟩
  output := ⟨[], by decide⟩

/-- The reference is read as one. -/
theorem noted_lossless_not : ¬ ∀ n s, (traceSystem plainCodec).run .start
    ([TraceLabel.add noted].take n) = some s → s.Lossless plainCodec := by
  intro hall
  have hstep : (traceSystem plainCodec).step .start (.add noted) ≠ none := by
    exact Option.some_ne_none _
  obtain ⟨s, hs⟩ := Option.ne_none_iff_exists'.mp hstep
  have hlossless := hall 1 s (by rw [List.take_succ_cons, System.run_cons, hs]; rfl)
  have hplain := (step_lossless_iff linked_start lossless_start hs).mp hlossless rfl
  exact absurd hplain.1 (by decide)

end Navi.Trace
