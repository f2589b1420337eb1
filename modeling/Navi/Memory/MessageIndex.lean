import Navi.Memory.Messages

/-!
# When the index mirrors the messages

The triggers are keyed on `message_id`, which is not the key of the table. The index finds
each message once and by its own content exactly while the entries of its id are the one
entry that is its own.
-/

namespace Navi.Memory

open Navi.Base

/-! ## The mirror -/

/-- Through the index each message is found once where its content is, and joined to its own
entry. -/
structure MessageStore.Mirrors (s : MessageStore) (found : String → Bool) : Prop where
  once : ∀ message ∈ s.messages.rows,
    (s.joined found).countP (fun row => row.2.rowId = message.rowId)
      = if found message.content then 1 else 0
  own : ∀ row ∈ s.joined found, row.1 = row.2.entry

def MessageStore.entries (s : MessageStore) (messageId : String) : List IndexEntry :=
  s.index.filter (·.messageId = messageId)

/-- The entries of each message's id are its own. -/
def MessageStore.Faithful (s : MessageStore) : Prop :=
  ∀ message ∈ s.messages.rows, s.entries message.messageId = [message.entry]

/-- Every entry has the id of some message. -/
def MessageStore.Grounded (s : MessageStore) : Prop :=
  ∀ entry ∈ s.index, ∃ message ∈ s.messages.rows, message.messageId = entry.messageId

/-- A statement that keeps messages of one id from having different contents or losing their
entry: what is inserted has the content of those that have its id, what is updated has no
other message under the ids before and after, or keeps its id and has their content, and
what is deleted has no other message under its id. -/
def KeepsApart (s : MessageStore) : MessageLabel → Prop
  | .insert message => s.messages.get? message.rowId = none → ∀ other ∈ s.messages.rows,
      other.messageId = message.messageId → other.content = message.content
  | .update new => ∀ old ∈ s.messages.get? new.rowId, ∀ other ∈ s.messages.rows,
      other.rowId ≠ new.rowId → other.messageId = old.messageId ∨ other.messageId = new.messageId →
        old.messageId = new.messageId ∧ other.content = new.content
  | .delete rowId => ∀ old ∈ s.messages.get? rowId, ∀ other ∈ s.messages.rows,
      other.messageId = old.messageId → other.rowId = rowId
  | .rebuild => True

section

variable {s s' : MessageStore} {found : String → Bool}

/-! ## The join -/

theorem mem_joined {row : IndexEntry × Message} : row ∈ s.joined found
    ↔ row.1 ∈ s.index ∧ found row.1.content = true ∧ row.2 ∈ s.messages.rows
      ∧ row.2.messageId = row.1.messageId := by
  obtain ⟨entry, message⟩ := row
  unfold MessageStore.joined
  simp only [List.mem_flatMap, List.mem_filter, List.mem_map, decide_eq_true_eq, Prod.mk.injEq]
  constructor
  · rintro ⟨e, ⟨he, hfound⟩, m, ⟨hm, hid⟩, rfl, rfl⟩
    exact ⟨he, hfound, hm, hid⟩
  · rintro ⟨he, hfound, hm, hid⟩
    exact ⟨entry, ⟨he, hfound⟩, message, ⟨hm, hid⟩, rfl, rfl⟩

theorem countP_row {message : Message} (h : message ∈ s.messages.rows) (messageId : String) :
    (s.messages.rows.filter (·.messageId = messageId)).countP (fun m => m.rowId = message.rowId)
      = if message.messageId = messageId then 1 else 0 := by
  have hcongr : (s.messages.rows.filter (·.messageId = messageId)).countP
      (fun m => decide (m.rowId = message.rowId))
        = (s.messages.rows.filter (·.messageId = messageId)).count message := by
    refine List.countP_congr fun m hm => ?_
    have hrow := (List.mem_filter.mp hm).1
    simp only [decide_eq_true_eq, beq_iff_eq]
    exact ⟨fun heq => Table.eq_of_key hrow h heq, fun heq => by rw [heq]⟩
  have hnodup : s.messages.rows.Nodup := List.Nodup.of_map _ s.messages.nodup
  rw [hcongr, List.Nodup.count (hnodup.filter _)]
  simp [h]

theorem countP_joined {message : Message} (h : message ∈ s.messages.rows) :
    (s.joined found).countP (fun row => row.2.rowId = message.rowId)
      = (s.entries message.messageId).countP fun entry => found entry.content := by
  unfold MessageStore.joined MessageStore.entries
  induction s.index with
  | nil => rfl
  | cons entry rest ih =>
      have hsplit : ∀ b : Bool, found entry.content = b →
          (((entry :: rest).filter fun e => found e.content).flatMap fun e =>
            (s.messages.rows.filter (·.messageId = e.messageId)).map fun m => (e, m)).countP
              (fun row => row.2.rowId = message.rowId)
            = (if b = true ∧ message.messageId = entry.messageId then 1 else 0)
              + ((rest.filter fun e => found e.content).flatMap fun e =>
                (s.messages.rows.filter (·.messageId = e.messageId)).map fun m =>
                  (e, m)).countP (fun row => row.2.rowId = message.rowId) := by
        intro b hb
        cases b with
        | false => simp [hb]
        | true =>
            rw [List.filter_cons_of_pos (by simpa using hb), List.flatMap_cons, List.countP_append,
              List.countP_map]
            have hrow := countP_row h entry.messageId
            simp only [Function.comp_def, true_and]
            rw [hrow]
      rw [hsplit _ rfl, ih, List.filter_cons]
      by_cases hid : entry.messageId = message.messageId
      · simp only [hid, decide_true, if_true, List.countP_cons, and_true]
        omega
      · simp [hid, Ne.symm hid]

/-- The index mirrors the messages for every query exactly where each message's entries are
its own. -/
theorem mirrors_iff_faithful : (∀ found, s.Mirrors found) ↔ s.Faithful := by
  constructor
  · intro h message hmessage
    have hall := h fun _ => true
    have hone : (s.entries message.messageId).length = 1 := by
      have hcount := hall.once message hmessage
      rw [countP_joined hmessage] at hcount
      simpa using hcount
    obtain ⟨entry, hentry⟩ := List.length_eq_one_iff.mp hone
    have hmem : entry ∈ s.entries message.messageId := by simp [hentry]
    obtain ⟨hindex, hid⟩ := List.mem_filter.mp hmem
    have hown := hall.own (entry, message)
      (mem_joined.mpr ⟨hindex, rfl, hmessage, (of_decide_eq_true hid).symm⟩)
    rw [hentry]
    exact congrArg (fun e => [e]) hown
  · intro h found
    refine ⟨fun message hmessage => ?_, fun row hrow => ?_⟩
    · rw [countP_joined hmessage, h message hmessage]
      simp [Message.entry, List.countP_singleton]
    · obtain ⟨hindex, -, hmessage, hid⟩ := mem_joined.mp hrow
      have hmem : row.1 ∈ s.entries row.2.messageId :=
        List.mem_filter.mpr ⟨hindex, decide_eq_true hid.symm⟩
      rw [h row.2 hmessage] at hmem
      exact List.mem_singleton.mp hmem

/-! ## The steps -/

theorem entries_unindex (index : List IndexEntry) (messageId id : String) :
    (MessageStore.unindex index messageId).filter (·.messageId = id)
      = if messageId = id then [] else index.filter (·.messageId = id) := by
  unfold MessageStore.unindex
  rw [List.filter_filter]
  split
  next h =>
    subst h
    refine List.filter_eq_nil_iff.mpr fun entry _ => ?_
    simp
  next h =>
    refine List.filter_congr fun entry _ => ?_
    by_cases hid : entry.messageId = id
    · simp [hid, Ne.symm h]
    · simp [hid]

theorem entries_reindexed (index : List IndexEntry) (messageId id : String) (message : Message) :
    (MessageStore.unindex index messageId ++ [message.entry]).filter (·.messageId = id)
      = (if messageId = id then [] else index.filter (·.messageId = id))
        ++ if message.messageId = id then [message.entry] else [] := by
  rw [List.filter_append, entries_unindex, List.filter_singleton]
  congr 1
  by_cases h : message.messageId = id <;> simp [Message.entry, h]

theorem mem_unindex {index : List IndexEntry} {messageId : String} {entry : IndexEntry} :
    entry ∈ MessageStore.unindex index messageId ↔ entry ∈ index ∧ entry.messageId ≠ messageId := by
  simp [MessageStore.unindex]

theorem entries_eq_nil_iff {id : String} :
    s.entries id = [] ↔ ∀ entry ∈ s.index, entry.messageId ≠ id := by
  unfold MessageStore.entries
  rw [List.filter_eq_nil_iff]
  simp only [decide_eq_true_eq, ne_eq]

theorem insert_faithful_iff (hs : s.Faithful) {message : Message}
    (hstep : s.insert message = some s') :
    s'.Faithful ↔ KeepsApart s (.insert message) := by
  unfold MessageStore.insert at hstep
  split at hstep
  · cases hstep
  next hfree =>
    obtain rfl := Option.some.inj hstep
    constructor
    · intro h _ other hother hid
      have hentries := h other ((Table.mem_insertOrIgnore hfree).mpr (Or.inl hother))
      unfold MessageStore.entries at hentries
      rw [entries_reindexed, if_pos hid.symm, if_pos hid.symm] at hentries
      have hsame : message.entry = other.entry := List.singleton_inj.mp hentries
      exact (congrArg IndexEntry.content hsame).symm
    · intro h other hother
      unfold MessageStore.entries
      rw [entries_reindexed]
      rcases (Table.mem_insertOrIgnore hfree).mp hother with hold | rfl
      · by_cases hid : message.messageId = other.messageId
        · rw [if_pos hid, if_pos hid]
          have hcontent := h hfree other hold hid.symm
          simp [Message.entry, hid, hcontent]
        · rw [if_neg hid, if_neg hid, List.append_nil]
          exact hs other hold
      · rw [if_pos rfl, if_pos rfl]
        rfl

theorem update_faithful_iff (hs : s.Faithful) (hgrounded : s.Grounded) {new : Message}
    (hstep : s.update new = some s') : s'.Faithful ↔ KeepsApart s (.update new) := by
  unfold MessageStore.update at hstep
  split at hstep
  · cases hstep
  next old hold =>
    obtain rfl := Option.some.inj hstep
    obtain ⟨holdMem, holdRow⟩ := Table.get?_eq_some_iff.mp hold
    constructor
    · intro h old' hold' other hother hne hids
      obtain rfl := Option.some.inj (hold.symm.trans hold')
      have hentries := h other ((Table.mem_replace hold).mpr (Or.inr ⟨hother, hne⟩))
      unfold MessageStore.entries at hentries
      rw [entries_reindexed] at hentries
      have hkept : s.index.filter (·.messageId = other.messageId) = [other.entry] := hs other hother
      by_cases hbefore : old.messageId = other.messageId
      · rw [if_pos hbefore, List.nil_append] at hentries
        split at hentries
        next hafter =>
          have hsame : new.entry = other.entry := List.singleton_inj.mp hentries
          exact ⟨hbefore.trans hafter.symm, (congrArg IndexEntry.content hsame).symm⟩
        next => cases hentries
      · have hafter : new.messageId = other.messageId :=
          (hids.resolve_left (Ne.symm hbefore)).symm
        rw [if_neg hbefore, if_pos hafter, hkept] at hentries
        cases hentries
    · intro h other hother
      have hapart := h old hold
      unfold MessageStore.entries
      rw [entries_reindexed]
      rcases (Table.mem_replace hold).mp hother with rfl | ⟨hother, hne⟩
      · rw [if_pos rfl]
        split
        · rfl
        next hmoved =>
          -- the id is new to the row: no entry has it, as no other message does
          have hnone : s.entries other.messageId = [] := by
            refine entries_eq_nil_iff.mpr fun entry hentry hid => ?_
            obtain ⟨message, hmessage, hground⟩ := hgrounded entry hentry
            by_cases hrow : message.rowId = other.rowId
            · have hsame : message = old :=
                Table.eq_of_key hmessage holdMem (hrow.trans holdRow.symm)
              subst hsame
              exact hmoved (hground.trans hid)
            · exact hmoved (hapart message hmessage hrow (Or.inr (hground.trans hid))).1
          show s.entries other.messageId ++ [other.entry] = [other.entry]
          rw [hnone, List.nil_append]
      · by_cases hbefore : old.messageId = other.messageId
        · obtain ⟨hids, hcontent⟩ := hapart other hother hne (Or.inl hbefore.symm)
          have hafter : new.messageId = other.messageId := hids.symm.trans hbefore
          rw [if_pos hbefore, if_pos hafter]
          simp [Message.entry, hafter, hcontent]
        · have hafter : new.messageId ≠ other.messageId := fun hid =>
            hbefore ((hapart other hother hne (Or.inr hid.symm)).1.trans hid)
          rw [if_neg hbefore, if_neg hafter, List.append_nil]
          exact hs other hother

theorem delete_faithful_iff (hs : s.Faithful) {rowId : Int} (hstep : s.delete rowId = some s') :
    s'.Faithful ↔ KeepsApart s (.delete rowId) := by
  unfold MessageStore.delete at hstep
  split at hstep
  · cases hstep
  next old hold =>
    obtain rfl := Option.some.inj hstep
    constructor
    · intro h old' hold' other hother hid
      obtain rfl := Option.some.inj (hold.symm.trans hold')
      by_contra hne
      have hentries := h other (Table.mem_delete.mpr ⟨hother, decide_eq_false hne⟩)
      unfold MessageStore.entries at hentries
      rw [entries_unindex, if_pos hid.symm] at hentries
      cases hentries
    · intro h other hother
      obtain ⟨hother, hkept⟩ := Table.mem_delete.mp hother
      unfold MessageStore.entries
      rw [entries_unindex, if_neg fun hid =>
        of_decide_eq_false hkept (h old hold other hother hid.symm)]
      exact hs other hother

theorem rebuild_faithful (hs : s.Faithful) : s.rebuild = s := by
  have hnone : (s.messages.rows.filter fun message =>
      message.messageId ∉ s.index.map (·.messageId)) = [] := by
    refine List.filter_eq_nil_iff.mpr fun message hmessage => ?_
    have hmem : message.entry ∈ s.entries message.messageId := by
      rw [hs message hmessage]
      exact List.mem_singleton.mpr rfl
    have hid : message.messageId ∈ s.index.map (·.messageId) :=
      List.mem_map.mpr ⟨message.entry, (List.mem_filter.mp hmem).1, rfl⟩
    simpa using hid
  unfold MessageStore.rebuild
  rw [hnone, List.map_nil, List.append_nil]

theorem step_faithful_iff {label : MessageLabel} (hgrounded : s.Grounded) (hs : s.Faithful)
    (hstep : messageSystem.step s label = some s') : s'.Faithful ↔ KeepsApart s label := by
  cases label with
  | insert message => exact insert_faithful_iff hs hstep
  | update new => exact update_faithful_iff hs hgrounded hstep
  | delete rowId => exact delete_faithful_iff hs hstep
  | rebuild =>
      obtain rfl := Option.some.inj hstep
      rw [rebuild_faithful hs]
      exact iff_of_true hs trivial

theorem step_grounded {label : MessageLabel} (hs : s.Grounded)
    (hstep : messageSystem.step s label = some s') : s'.Grounded := by
  cases label with
  | insert message =>
      dsimp only [messageSystem, MessageStore.insert] at hstep
      split at hstep
      · cases hstep
      next hfree =>
        obtain rfl := Option.some.inj hstep
        intro entry hentry
        rcases List.mem_append.mp hentry with hold | hnew
        · obtain ⟨other, hother, hid⟩ := hs entry (mem_unindex.mp hold).1
          exact ⟨other, (Table.mem_insertOrIgnore hfree).mpr (Or.inl hother), hid⟩
        · obtain rfl := List.mem_singleton.mp hnew
          exact ⟨message, (Table.mem_insertOrIgnore hfree).mpr (Or.inr rfl), rfl⟩
  | update new =>
      dsimp only [messageSystem, MessageStore.update] at hstep
      split at hstep
      · cases hstep
      next old hold =>
        obtain rfl := Option.some.inj hstep
        obtain ⟨holdMem, holdRow⟩ := Table.get?_eq_some_iff.mp hold
        intro entry hentry
        rcases List.mem_append.mp hentry with hkept | hnew
        · obtain ⟨hindex, hne⟩ := mem_unindex.mp hkept
          obtain ⟨other, hother, hid⟩ := hs entry hindex
          refine ⟨other, (Table.mem_replace hold).mpr (Or.inr ⟨hother, fun hrow => ?_⟩), hid⟩
          have hsame : other = old := Table.eq_of_key hother holdMem (hrow.trans holdRow.symm)
          exact hne (hsame ▸ hid).symm
        · obtain rfl := List.mem_singleton.mp hnew
          exact ⟨new, (Table.mem_replace hold).mpr (Or.inl rfl), rfl⟩
  | delete rowId =>
      dsimp only [messageSystem, MessageStore.delete] at hstep
      split at hstep
      · cases hstep
      next old hold =>
        obtain rfl := Option.some.inj hstep
        obtain ⟨holdMem, holdRow⟩ := Table.get?_eq_some_iff.mp hold
        intro entry hentry
        obtain ⟨hindex, hne⟩ := mem_unindex.mp hentry
        obtain ⟨other, hother, hid⟩ := hs entry hindex
        refine ⟨other, Table.mem_delete.mpr ⟨hother, decide_eq_false fun hrow => ?_⟩, hid⟩
        have hsame : other = old := Table.eq_of_key hother holdMem (hrow.trans holdRow.symm)
        exact hne (hsame ▸ hid).symm
  | rebuild =>
      obtain rfl := Option.some.inj hstep
      intro entry hentry
      rcases List.mem_append.mp hentry with hold | hnew
      · exact hs entry hold
      · obtain ⟨message, hmessage, rfl⟩ := List.mem_map.mp hnew
        exact ⟨message, (List.mem_filter.mp hmessage).1, rfl⟩

theorem step_enabled {label : MessageLabel} (h : ¬ KeepsApart s label) :
    ∃ s', messageSystem.step s label = some s' := by
  cases label with
  | insert message =>
      cases hfree : s.messages.get? message.rowId with
      | none =>
          dsimp only [messageSystem, MessageStore.insert]
          rw [hfree]
          exact ⟨_, rfl⟩
      | some row =>
          refine absurd (fun hnone => ?_) h
          rw [hnone] at hfree
          cases hfree
  | update new =>
      cases hold : s.messages.get? new.rowId with
      | some old =>
          dsimp only [messageSystem, MessageStore.update]
          rw [hold]
          exact ⟨_, rfl⟩
      | none =>
          refine absurd (fun old hsome => ?_) h
          rw [hold] at hsome
          cases hsome
  | delete rowId =>
      cases hold : s.messages.get? rowId with
      | some old =>
          dsimp only [messageSystem, MessageStore.delete]
          rw [hold]
          exact ⟨_, rfl⟩
      | none =>
          refine absurd (fun old hsome => ?_) h
          rw [hold] at hsome
          cases hsome
  | rebuild => exact ⟨_, rfl⟩

end

/-- **When the index mirrors the messages.** In every state that a sequence of inserts,
updates, deletes and rebuilds goes through, every query finds each message once, by its own
content and joined to its own entry, if and only if every statement keeps messages of one id
from having different contents and from losing their entry. -/
theorem index_mirrors_iff (labels : List MessageLabel) :
    (∀ n s, messageSystem.run .start (labels.take n) = some s → ∀ found, s.Mirrors found)
      ↔ messageSystem.Along KeepsApart .start labels := by
  simp only [mirrors_iff_faithful]
  exact messageSystem.run_good_iff (fun _ _ _ hs hstep => step_grounded hs hstep)
    (fun _ _ _ hgrounded hs hstep => step_faithful_iff hgrounded hs hstep)
    (fun _ _ h => step_enabled h) (fun _ h => absurd h List.not_mem_nil)
    (fun _ h => absurd h List.not_mem_nil) labels

def sessionMessage (rowId : Int) (sessionId messageId content : String) : Message :=
  ⟨rowId, sessionId, "user", content, 0, messageId, "", "", "", "", ""⟩

def sharedId : List MessageLabel :=
  [.insert (sessionMessage 1 "mine" "m1" "the garden"),
    .insert (sessionMessage 2 "yours" "m1" "the weather")]

/-- The first message is not found any more by its own content, and by that of the second. -/
theorem shared_id_mirrors_not :
    ¬ ∀ n s, messageSystem.run .start (sharedId.take n) = some s → ∀ found, s.Mirrors found := by
  intro hall
  obtain ⟨s, hs, hmem, hcount⟩ : ∃ s, messageSystem.run .start (sharedId.take 2) = some s
      ∧ sessionMessage 1 "mine" "m1" "the garden" ∈ s.messages.rows
      ∧ (s.joined (· = "the garden")).countP (fun row => row.2.rowId = 1) = 0 := by
    refine ⟨_, rfl, ?_, ?_⟩
    · decide +kernel
    · decide +kernel
  have honce := (hall 2 s hs (· = "the garden")).once _ hmem
  rw [show (sessionMessage 1 "mine" "m1" "the garden").rowId = 1 from rfl, hcount] at honce
  exact absurd honce (by decide +kernel)

end Navi.Memory
