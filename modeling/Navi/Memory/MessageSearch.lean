import Navi.Memory.Messages

/-!
# When the search is isolated

A search reads the messages that the filter admits, the entries of their ids and the ranks of
these. Messages of others that leave those alone do not change its result. What the filter
admits is what belongs to the caller exactly where the caller is identified.
-/

namespace Navi.Memory

open Navi.Base

/-- The message is of the session, or of the sender in all that is given of it. -/
def Caller.Owns (caller : Caller) (message : Message) : Prop :=
  caller.sessionId ≠ "" ∧ message.sessionId = caller.sessionId
    ∨ caller.senderId ≠ "" ∧ message.senderId = caller.senderId
      ∧ (caller.source ≠ "" → message.source = caller.source)
      ∧ (caller.peerId ≠ "" → message.peerId = caller.peerId)

/-- A session or a sender is given, and a sender's source and peer are given both or not at
all. -/
def Caller.Identified (caller : Caller) : Prop :=
  (caller.sessionId ≠ "" ∨ caller.senderId ≠ "")
    ∧ (caller.senderId ≠ "" → (caller.source = "" ↔ caller.peerId = ""))

/-- The messages that the filter admits. -/
def MessageStore.own (s : MessageStore) (caller : Caller) : List Message :=
  s.messages.rows.filter caller.admits

/-- The ids of the messages that the filter admits. -/
def MessageStore.ownIds (s : MessageStore) (caller : Caller) : List String :=
  (s.own caller).map (·.messageId)

def MessageStore.ownIndex (s : MessageStore) (caller : Caller) : List IndexEntry :=
  s.index.filter (·.messageId ∈ s.ownIds caller)

/-- A statement on messages of others, under ids that no message of the caller has. -/
def OthersApart (caller : Caller) (s : MessageStore) : MessageLabel → Prop
  | .insert message => ¬ caller.Owns message ∧ message.messageId ∉ s.ownIds caller
  | .update new => ¬ caller.Owns new ∧ new.messageId ∉ s.ownIds caller
      ∧ ∀ old ∈ s.messages.get? new.rowId,
        ¬ caller.Owns old ∧ old.messageId ∉ s.ownIds caller
  | .delete rowId => ∀ old ∈ s.messages.get? rowId,
      ¬ caller.Owns old ∧ old.messageId ∉ s.ownIds caller
  | .rebuild => False

/-- The entries of the caller's ids are ranked the same in both stores. -/
def FtsEngine.SameRanks (engine : FtsEngine) (caller : Caller) (s s' : MessageStore) : Prop :=
  ∀ query, ∀ entry ∈ s.ownIndex caller,
    engine.rank query s'.index entry = engine.rank query s.index entry

section

variable {caller : Caller} {s s' : MessageStore} {message : Message}

/-! ## The filter -/

theorem admits_iff_owns (h : caller.Identified) :
    caller.admits message = true ↔ caller.Owns message := by
  obtain ⟨hgiven, hpair⟩ := h
  by_cases hsession : caller.sessionId = ""
  · have hsender : caller.senderId ≠ "" := hgiven.resolve_left fun hne => hne hsession
    by_cases hsource : caller.source = ""
    · have hpeer := (hpair hsender).mp hsource
      simp [Caller.admits, Caller.Owns, hsession, hsender, hsource, hpeer]
    · have hpeer : caller.peerId ≠ "" := fun hpeer => hsource ((hpair hsender).mpr hpeer)
      simp [Caller.admits, Caller.Owns, hsession, hsender, hsource, hpeer]
      tauto
  · by_cases hsender : caller.senderId = ""
    · simp [Caller.admits, Caller.Owns, hsession, hsender]
    · by_cases hsource : caller.source = ""
      · have hpeer := (hpair hsender).mp hsource
        simp [Caller.admits, Caller.Owns, hsession, hsender, hsource, hpeer]
      · have hpeer : caller.peerId ≠ "" := fun hpeer => hsource ((hpair hsender).mpr hpeer)
        simp [Caller.admits, Caller.Owns, hsession, hsender, hsource, hpeer]
        tauto

/-- A message of no session, source and peer, and of the sender that is given. -/
def Caller.stranger (caller : Caller) : Message :=
  ⟨1, "", "user", "hello", 0, "m1", "", "", caller.senderId, "", ""⟩

theorem stranger_admitted (h : ¬ caller.Identified) :
    caller.admits caller.stranger = true ∧ ¬ caller.Owns caller.stranger := by
  unfold Caller.Identified at h
  by_cases hsender : caller.senderId = ""
  · by_cases hsession : caller.sessionId = ""
    · simp [Caller.admits, Caller.Owns, Caller.stranger, hsender, hsession]
    · exact absurd ⟨.inl hsession, fun hne => absurd hsender hne⟩ h
  · have hpair : ¬ (caller.source = "" ↔ caller.peerId = "") := fun hiff =>
      h ⟨.inr hsender, fun _ => hiff⟩
    by_cases hsession : caller.sessionId = ""
    · by_cases hsource : caller.source = ""
      · have hpeer : caller.peerId ≠ "" := fun hpeer => hpair (by simp [hsource, hpeer])
        simp [Caller.admits, Caller.Owns, Caller.stranger, hsender, hsession, hsource, hpeer,
          Ne.symm hpeer]
      · have hpeer : caller.peerId = "" := by
          by_contra hne
          exact hpair (by simp [hsource, hne])
        simp [Caller.admits, Caller.Owns, Caller.stranger, hsender, hsession, hsource, hpeer,
          Ne.symm hsource]
    · by_cases hsource : caller.source = ""
      · have hpeer : caller.peerId ≠ "" := fun hpeer => hpair (by simp [hsource, hpeer])
        simp [Caller.admits, Caller.Owns, Caller.stranger, hsender, hsession, hsource, hpeer,
          Ne.symm hpeer, Ne.symm hsession]
      · have hpeer : caller.peerId = "" := by
          by_contra hne
          exact hpair (by simp [hsource, hne])
        simp [Caller.admits, Caller.Owns, Caller.stranger, hsender, hsession, hsource, hpeer,
          Ne.symm hsource, Ne.symm hsession]

/-! ## What a search reads -/

theorem flatMap_filter_of_nil {α β : Type} {rows : List α} {f : α → List β} {p : α → Bool}
    (h : ∀ row, p row = false → f row = []) : (rows.filter p).flatMap f = rows.flatMap f := by
  induction rows with
  | nil => rfl
  | cons row rows ih =>
      cases hp : p row with
      | true => rw [List.filter_cons_of_pos hp, List.flatMap_cons, List.flatMap_cons, ih]
      | false =>
          rw [List.filter_cons_of_neg (by simp [hp]), List.flatMap_cons, h row hp, ih,
            List.nil_append]

theorem filter_joined (s : MessageStore) (caller : Caller) (found : String → Bool) :
    ((s.joined found).filter fun row => caller.admits row.2)
      = ((s.ownIndex caller).filter fun entry => found entry.content).flatMap fun entry =>
        ((s.own caller).filter (·.messageId = entry.messageId)).map fun message =>
          (entry, message) := by
  have hrows : ∀ entry : IndexEntry,
      ((s.messages.rows.filter (·.messageId = entry.messageId)).map fun message =>
        (entry, message)).filter (fun row => caller.admits row.2)
        = ((s.own caller).filter (·.messageId = entry.messageId)).map fun message =>
          (entry, message) := by
    intro entry
    rw [List.filter_map, MessageStore.own, List.filter_filter, List.filter_filter]
    refine congrArg (List.map _) (List.filter_congr fun message _ => ?_)
    exact Bool.and_comm _ _
  unfold MessageStore.joined
  rw [List.filter_flatMap]
  simp only [hrows]
  rw [MessageStore.ownIndex, List.filter_filter]
  have hcomm : (s.index.filter fun entry => (found entry.content)
      && decide (entry.messageId ∈ s.ownIds caller))
      = (s.index.filter fun entry => found entry.content).filter
        (·.messageId ∈ s.ownIds caller) := by
    rw [List.filter_filter]
    exact List.filter_congr fun entry _ => Bool.and_comm _ _
  rw [hcomm]
  refine (flatMap_filter_of_nil fun entry hentry => ?_).symm
  -- an entry of no id of the caller's is joined to no message of the caller's
  have hnone : (s.own caller).filter (·.messageId = entry.messageId) = [] := by
    refine List.filter_eq_nil_iff.mpr fun message hmessage => ?_
    have hid := of_decide_eq_false hentry
    intro hsame
    exact hid (List.mem_map.mpr ⟨message, hmessage, of_decide_eq_true hsame⟩)
  rw [hnone, List.map_nil]

theorem search_congr {engine : FtsEngine} (hown : s'.own caller = s.own caller)
    (hindex : s'.ownIndex caller = s.ownIndex caller) (hranks : engine.SameRanks caller s s')
    (query : String) (limit : Int) : searchMessagesFts engine s' query limit caller
      = searchMessagesFts engine s query limit caller := by
  have hjoined : ∀ found, ((s'.joined found).filter fun row => caller.admits row.2)
      = (s.joined found).filter fun row => caller.admits row.2 := by
    intro found
    rw [filter_joined, filter_joined, hown, hindex]
  have hranked : ∀ query, rankedMessages engine s' query limit caller
      = rankedMessages engine s query limit caller := by
    intro query
    unfold rankedMessages
    dsimp only
    rw [hjoined]
    have hrows : (((s.joined (engine.matchesPhrase query)).filter fun row =>
          caller.admits row.2).map fun row => (engine.rank query s'.index row.1, row.2))
        = ((s.joined (engine.matchesPhrase query)).filter fun row =>
          caller.admits row.2).map fun row => (engine.rank query s.index row.1, row.2) := by
      refine List.map_congr_left fun row hrow => ?_
      rw [filter_joined] at hrow
      obtain ⟨entry, hentry, hrow⟩ := List.mem_flatMap.mp hrow
      obtain ⟨message, -, rfl⟩ := List.mem_map.mp hrow
      rw [hranks query entry (List.mem_filter.mp hentry).1]
    rw [hrows]
  have hlike : ∀ query, searchMessagesLike engine s' query limit caller
      = searchMessagesLike engine s query limit caller := by
    intro query
    have hrows : ∀ store : MessageStore, (store.messages.rows.filter fun message =>
        engine.isLike query message.content ∧ caller.admits message)
          = (store.own caller).filter fun message => engine.isLike query message.content := by
      intro store
      rw [MessageStore.own, List.filter_filter]
      refine List.filter_congr fun message _ => ?_
      rw [Bool.decide_and]
      simp
    unfold searchMessagesLike
    dsimp only
    rw [hrows, hrows, hown]
  unfold searchMessagesFts
  dsimp only
  rw [hranked, hlike]

theorem admits_of_mem_search {engine : FtsEngine} {query : String} {limit : Int}
    {found : FoundMessage} (h : found ∈ searchMessagesFts engine s query limit caller) :
    caller.admits found.message = true := by
  have hlimit : ∀ {α : Type} {row : α} {rows : List α}, row ∈ sqlLimit limit rows → row ∈ rows := by
    intro α row rows hrow
    unfold sqlLimit at hrow
    split at hrow
    · exact hrow
    · exact List.mem_of_mem_take hrow
  have hstored : ∀ message : Message, caller.admits message.stored = caller.admits message :=
    fun _ => rfl
  unfold searchMessagesFts at h
  dsimp only at h
  split at h
  · cases h
  split at h
  · unfold searchMessagesLike at h
    obtain ⟨index, hindex, rfl⟩ := List.mem_mapIdx.mp h
    rw [hstored]
    have hmem := hlimit (List.getElem_mem hindex)
    have hrow := (List.mem_insertionSort _).mp hmem
    have hboth := (List.mem_filter.mp hrow).2
    exact (of_decide_eq_true hboth).2
  · unfold rankedMessages at h
    obtain ⟨row, hrow, rfl⟩ := List.mem_map.mp h
    rw [hstored]
    have hsorted := (List.mem_insertionSort _).mp (hlimit hrow)
    obtain ⟨joined, hjoined, rfl⟩ := List.mem_map.mp hsorted
    exact (List.mem_filter.mp hjoined).2

/-! ## Statements on messages of others -/

theorem filter_unindex {index : List IndexEntry} {messageId : String} {ids : List String}
    (h : messageId ∉ ids) : (MessageStore.unindex index messageId).filter (·.messageId ∈ ids)
      = index.filter (·.messageId ∈ ids) := by
  rw [MessageStore.unindex, List.filter_filter]
  refine List.filter_congr fun entry _ => ?_
  by_cases hid : entry.messageId = messageId
  · simp [hid, h]
  · simp [hid]

theorem filter_reindexed {index : List IndexEntry} {messageId : String} {ids : List String}
    (h : messageId ∉ ids) (hnew : message.messageId ∉ ids) :
    (MessageStore.unindex index messageId ++ [message.entry]).filter (·.messageId ∈ ids)
      = index.filter (·.messageId ∈ ids) := by
  rw [List.filter_append, filter_unindex h]
  simp [Message.entry, hnew]

theorem step_own (hidentified : caller.Identified) {label : MessageLabel}
    (hothers : OthersApart caller s label) (hstep : messageSystem.step s label = some s') :
    s'.own caller = s.own caller ∧ s'.ownIndex caller = s.ownIndex caller := by
  have hnot : ∀ {m}, ¬ caller.Owns m → caller.admits m = false := fun h =>
    Bool.eq_false_iff.mpr fun hadmits => h ((admits_iff_owns hidentified).mp hadmits)
  -- the ids are those of the messages, so that it is enough to look at both by themselves
  have hboth : ∀ {store : MessageStore}, store.own caller = s.own caller →
      store.index.filter (·.messageId ∈ s.ownIds caller) = s.ownIndex caller →
      store.own caller = s.own caller ∧ store.ownIndex caller = s.ownIndex caller := by
    intro store hown hindex
    refine ⟨hown, ?_⟩
    rw [MessageStore.ownIndex, MessageStore.ownIds, hown]
    exact hindex
  cases label with
  | rebuild => exact absurd hothers id
  | insert message =>
      obtain ⟨howns, hid⟩ := hothers
      dsimp only [messageSystem, MessageStore.insert] at hstep
      split at hstep
      · cases hstep
      next hfree =>
        obtain rfl := Option.some.inj hstep
        refine hboth ?_ (filter_reindexed hid hid)
        show (s.messages.insertOrIgnore message).rows.filter caller.admits = _
        rw [Table.rows_insertOrIgnore hfree, List.filter_append]
        simp [hnot howns, MessageStore.own]
  | update new =>
      obtain ⟨howns, hid, hold⟩ := hothers
      dsimp only [messageSystem, MessageStore.update] at hstep
      split at hstep
      · cases hstep
      next old hfound =>
        obtain rfl := Option.some.inj hstep
        obtain ⟨holdOwns, holdId⟩ := hold old hfound
        obtain ⟨holdMem, holdRow⟩ := Table.get?_eq_some_iff.mp hfound
        refine hboth ?_ (filter_reindexed holdId hid)
        show (s.messages.rows.map _).filter caller.admits = _
        rw [List.filter_map, MessageStore.own]
        have hsame : ∀ message ∈ s.messages.rows,
            (caller.admits ∘ fun message : Message =>
              if decide (message.rowId = new.rowId) = true then
                if message.rowId = new.rowId then new else message
              else message) message = caller.admits message := by
          intro message hmessage
          by_cases hrow : message.rowId = new.rowId
          · have hmessageOld : message = old :=
              Table.eq_of_key hmessage holdMem (hrow.trans holdRow.symm)
            subst hmessageOld
            simp [hrow, hnot howns, hnot holdOwns]
          · simp [hrow]
        rw [List.filter_congr hsame]
        refine (List.map_congr_left fun message hmessage => ?_).trans (List.map_id _)
        obtain ⟨hmem, hadmits⟩ := List.mem_filter.mp hmessage
        have hrow : message.rowId ≠ new.rowId := by
          intro hrow
          have hmessageOld : message = old :=
            Table.eq_of_key hmem holdMem (hrow.trans holdRow.symm)
          rw [hmessageOld, hnot holdOwns] at hadmits
          cases hadmits
        simp [hrow]
  | delete rowId =>
      dsimp only [messageSystem, MessageStore.delete] at hstep
      split at hstep
      · cases hstep
      next old hfound =>
        obtain rfl := Option.some.inj hstep
        obtain ⟨holdOwns, holdId⟩ := hothers old hfound
        obtain ⟨holdMem, holdRow⟩ := Table.get?_eq_some_iff.mp hfound
        refine hboth ?_ (filter_unindex holdId)
        show (s.messages.rows.filter _).filter caller.admits = _
        rw [MessageStore.own, List.filter_filter]
        refine List.filter_congr fun message hmessage => ?_
        by_cases hrow : message.rowId = rowId
        · have hmessageOld : message = old :=
            Table.eq_of_key hmessage holdMem (hrow.trans holdRow.symm)
          subst hmessageOld
          simp [hnot holdOwns]
        · simp [hrow]

theorem run_own (hidentified : caller.Identified) {labels : List MessageLabel}
    (hothers : messageSystem.Along (OthersApart caller) s labels)
    (hrun : messageSystem.run s labels = some s') :
    s'.own caller = s.own caller ∧ s'.ownIndex caller = s.ownIndex caller := by
  refine messageSystem.run_preserves_along (I := fun store =>
    store.own caller = s.own caller ∧ store.ownIndex caller = s.ownIndex caller)
    (fun store label store' hstore hlabel hstep => ?_) ⟨rfl, rfl⟩ hothers hrun
  obtain ⟨hown, hindex⟩ := step_own hidentified hlabel hstep
  exact ⟨hown.trans hstore.1, hindex.trans hstore.2⟩

/-! ## A store with one message -/

/-- The store with this message and no index. -/
def MessageStore.single (message : Message) : MessageStore := ⟨⟨[message], by simp⟩, []⟩

/-- Everything is like everything, and nothing matches. -/
def likeEngine : FtsEngine where
  matchesPhrase _ _ := false
  rank _ _ _ := 0
  isLike _ _ := true
  formatted _ := ""

theorem search_single (h : caller.admits message = true) :
    searchMessagesFts likeEngine (.single message) "hello" (-1) caller
      = [⟨message.stored, 1, ["message_exact_like"]⟩] := by
  have hstrip : strip "hello" = "hello" := by decide +kernel
  have hranked : rankedMessages likeEngine (.single message) "hello" (-1) caller = [] := rfl
  have hlike : searchMessagesLike likeEngine (.single message) "hello" (-1) caller
      = [⟨message.stored, 1, ["message_exact_like"]⟩] := by
    simp [searchMessagesLike, MessageStore.single, likeEngine, h, sqlLimit]
  unfold searchMessagesFts
  dsimp only
  rw [hstrip, if_neg (by decide), hranked, if_pos rfl, hlike]

end

/-- **When the search is isolated.** For exactly the identified callers the following holds of
every search engine, every store and every run of statements on messages of others: where
these leave alone the ids of the caller's messages and the ranks of their entries, everything
that a search returns belongs to the caller, and it returns what it returned before. -/
theorem search_isolated_iff (caller : Caller) :
    (∀ (engine : FtsEngine) (s s' : MessageStore) (labels : List MessageLabel),
      messageSystem.Along (OthersApart caller) s labels →
      messageSystem.run s labels = some s' → engine.SameRanks caller s s' →
      ∀ query limit,
        (∀ found ∈ searchMessagesFts engine s' query limit caller, caller.Owns found.message)
          ∧ searchMessagesFts engine s' query limit caller
            = searchMessagesFts engine s query limit caller)
      ↔ caller.Identified := by
  constructor
  · intro h
    by_contra hnot
    obtain ⟨hadmits, howns⟩ := stranger_admitted hnot
    have hfound := (h likeEngine (.single caller.stranger) (.single caller.stranger) [] trivial rfl
      (fun _ _ _ => rfl) "hello" (-1)).1
    rw [search_single hadmits] at hfound
    exact howns (hfound _ (List.mem_singleton.mpr rfl))
  · intro hidentified engine s s' labels hothers hrun hranks query limit
    obtain ⟨hown, hindex⟩ := run_own hidentified hothers hrun
    refine ⟨fun found hfound => ?_, search_congr hown hindex hranks query limit⟩
    exact (admits_iff_owns hidentified).mp (admits_of_mem_search hfound)

def gardenMessage : Message :=
  ⟨1, "mine", "user", "the garden", 0, "m1", "telegram", "p1", "u1", "", ""⟩

/-- Without an identity the search returns it. -/
theorem unidentified_search_finds : searchMessagesFts likeEngine (.single gardenMessage) "hello"
    (-1) ⟨"", "", "", ""⟩ ≠ [] := by
  rw [search_single (by decide)]
  exact List.cons_ne_nil _ _

end Navi.Memory
