import Navi.Base.Dict
import Navi.Base.Index
import Navi.Base.System

/-!
# Messages and their full-text index

The `messages` table, the `messages_fts` table that its triggers keep, and the search over
both. What SQLite decides (what a text matches and how it is ranked) is a parameter.
-/

namespace Navi.Memory

open Navi.Base

/-- A row of `messages`. -/
structure Message where
  rowId : Int
  sessionId : String
  role : String
  content : String
  createdAt : Time
  messageId : String
  source : String
  peerId : String
  senderId : String
  traceId : String
  runId : String
  deriving DecidableEq

/-- A row of `messages_fts`. -/
structure IndexEntry where
  messageId : String
  content : String
  deriving DecidableEq

/-- What the triggers insert for a message. -/
def Message.entry (message : Message) : IndexEntry := ⟨message.messageId, message.content⟩

/-- The two tables, the index in the order of its row ids. -/
structure MessageStore where
  messages : Table Int Message (·.rowId)
  index : List IndexEntry

namespace MessageStore

def start : MessageStore := ⟨.empty, []⟩

/-- `DELETE FROM messages_fts WHERE message_id = ?`. -/
def unindex (index : List IndexEntry) (messageId : String) : List IndexEntry :=
  index.filter (·.messageId ≠ messageId)

/-- An inserted row, with the trigger `messages_ai`. -/
def insert (s : MessageStore) (message : Message) : Option MessageStore :=
  match s.messages.get? message.rowId with
  | some _ => none
  | none => some
      { messages := s.messages.insertOrIgnore message
        index := unindex s.index message.messageId ++ [message.entry] }

/-- A row that is updated in columns other than its row id, with the trigger `messages_au`. -/
def update (s : MessageStore) (new : Message) : Option MessageStore :=
  match s.messages.get? new.rowId with
  | none => none
  | some old => some
      { messages := s.messages.replace new
        index := unindex s.index old.messageId ++ [new.entry] }

/-- A deleted row, with the trigger `messages_ad`. -/
def delete (s : MessageStore) (rowId : Int) : Option MessageStore :=
  match s.messages.get? rowId with
  | none => none
  | some old => some
      { messages := s.messages.delete (·.rowId = rowId)
        index := unindex s.index old.messageId }

/-- The rows that `_init_db` indexes: those whose id has no entry. -/
def rebuild (s : MessageStore) : MessageStore :=
  { s with
    index := s.index ++ (s.messages.rows.filter fun message =>
      message.messageId ∉ s.index.map (·.messageId)).map Message.entry }

end MessageStore

/-- The triggers run for each row, so that a statement is its rows one after another. -/
inductive MessageLabel where
  | insert (message : Message)
  | update (new : Message)
  | delete (rowId : Int)
  | rebuild

/-- The statements on `messages`, row by row. -/
def messageSystem : System MessageStore MessageLabel where
  step s
    | .insert message => s.insert message
    | .update new => s.update new
    | .delete rowId => s.delete rowId
    | .rebuild => some s.rebuild

/-! ## Search -/

/-- What SQLite decides: whether a content matches the phrase, how an entry is ranked among
all, whether a content is like the query, and `:.4f`. -/
structure FtsEngine where
  matchesPhrase : String → String → Bool
  rank : String → List IndexEntry → IndexEntry → Rat
  isLike : String → String → Bool
  formatted : Rat → String

/-- The identity that a search is made for. -/
structure Caller where
  sessionId : String
  source : String
  peerId : String
  senderId : String
  deriving DecidableEq

/-- `_message_identity_filter`: the disjunction of the clauses, or `1=1` without any. -/
def Caller.admits (caller : Caller) (message : Message) : Bool :=
  let fullSender := caller.source ≠ "" ∧ caller.peerId ≠ "" ∧ caller.senderId ≠ ""
  let clauses : List Bool :=
    (if caller.sessionId ≠ "" then [decide (message.sessionId = caller.sessionId)] else [])
      ++ (if fullSender then [decide (message.source = caller.source
          ∧ message.peerId = caller.peerId ∧ message.senderId = caller.senderId)] else [])
      ++ (if ¬ fullSender ∧ caller.senderId ≠ "" then
          [decide (message.senderId = caller.senderId)] else [])
  clauses = [] ∨ clauses.any id

/-- `StoredMessage`, a message without its row id. -/
def Message.stored (message : Message) : Message := { message with rowId := 0 }

/-- A found message with its score and the reasons for it. -/
structure FoundMessage where
  message : Message
  score : Rat
  reasons : List String
  deriving DecidableEq

/-- `messages_fts JOIN messages`, of the entries whose content is found. -/
def MessageStore.joined (s : MessageStore) (found : String → Bool) : List (IndexEntry × Message) :=
  (s.index.filter fun entry => found entry.content).flatMap fun entry =>
    (s.messages.rows.filter (·.messageId = entry.messageId)).map fun message => (entry, message)

/-- The rows of the first query of `search_messages_fts`: by rank, then the newest first. -/
def rankedMessages (engine : FtsEngine) (s : MessageStore) (query : String) (limit : Int)
    (caller : Caller) : List FoundMessage :=
  let rows := ((s.joined (engine.matchesPhrase query)).filter fun row =>
    caller.admits row.2).map fun row => (engine.rank query s.index row.1, row.2)
  (sqlLimit limit (rows.insertionSort fun a b =>
    a.1 < b.1 ∨ a.1 = b.1 ∧ b.2.createdAt ≤ a.2.createdAt)).map fun row =>
      ⟨row.2.stored, row.1, ["message_fts_rank=" ++ engine.formatted row.1]⟩

/-- `_search_messages_like`. -/
def searchMessagesLike (engine : FtsEngine) (s : MessageStore) (query : String) (limit : Int)
    (caller : Caller) : List FoundMessage :=
  let rows := (s.messages.rows.filter fun message =>
    engine.isLike query message.content ∧ caller.admits message).insertionSort
      fun a b => b.createdAt ≤ a.createdAt
  (sqlLimit limit rows).mapIdx fun index message =>
    ⟨message.stored, index + 1, ["message_exact_like"]⟩

/-- `search_messages_fts`. -/
def searchMessagesFts (engine : FtsEngine) (s : MessageStore) (query : String) (limit : Int)
    (caller : Caller) : List FoundMessage :=
  let query := strip query
  if query = "" then []
  else
    let ranked := rankedMessages engine s query limit caller
    if ranked = [] then searchMessagesLike engine s query limit caller else ranked

end Navi.Memory
