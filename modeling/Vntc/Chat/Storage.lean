import Vntc.Lib.Table

/-!
# The chat database

The tables of `chat_storage.dart` and the operations that change them. Each operation is one
transaction of SQLite, so it is one function here. The time is an argument. The files of the
attachments are left out.

A message has two keys: its id, and its sender and number in its conversation. So has the record
that is kept of a deleted message.
-/

namespace Vntc

open Lib

namespace Chat

inductive ChatConversationType
  | hall
  | direct
  | room
  deriving DecidableEq

inductive ChatMessageDirection
  | incoming
  | outgoing
  deriving DecidableEq

inductive ChatMessageContentType
  | text
  | image
  | video
  | file
  | voice
  deriving DecidableEq

inductive ChatMessageStatus
  | sending
  | sent
  | failed
  | missingAttachment
  deriving DecidableEq

structure ChatConversation where
  id : String
  type : ChatConversationType
  hallId : String
  title : String
  unreadCount : Int
  lastReadAt : Int
  lastMessageAt : Int
  updatedAt : Int
  metadataJson : String
  peerVirtualIp : Option String
  peerDisplayName : Option String
  roomId : Option String
  deriving DecidableEq

structure ChatMessageRecord where
  id : String
  conversationId : String
  hallId : String
  conversationType : ChatConversationType
  senderVirtualIp : String
  senderName : String
  senderSeq : Int
  direction : ChatMessageDirection
  contentType : ChatMessageContentType
  status : ChatMessageStatus
  text : String
  peerVirtualIp : Option String
  roomId : Option String
  attachmentId : Option String
  isSyncMessage : Bool
  isRead : Bool
  sentAt : Int
  createdAt : Int
  metadataJson : String
  deriving DecidableEq

structure ChatAttachmentRecord where
  id : String
  messageId : String
  fileName : String
  mimeType : String
  sizeBytes : Int
  relativePath : String
  durationMs : Option Int
  autoSyncEligible : Bool
  payloadAvailable : Bool
  needsManualResend : Bool
  createdAt : Int
  metadataJson : String
  deriving DecidableEq

/-- A row of `deleted_messages`. -/
structure DeletedMessage where
  messageId : String
  conversationId : String
  senderVirtualIp : String
  senderSeq : Int
  deletedAt : Int
  deriving DecidableEq

/-- `UNIQUE(conversation_id, sender_virtual_ip, sender_seq)`. -/
def ChatMessageRecord.key (m : ChatMessageRecord) : String × String × Int :=
  (m.conversationId, m.senderVirtualIp, m.senderSeq)

def DeletedMessage.key (d : DeletedMessage) : String × String × Int :=
  (d.conversationId, d.senderVirtualIp, d.senderSeq)

/-! ## Tables -/

theorem beq_or_comm {α β : Type} [BEq α] [LawfulBEq α] [BEq β] [LawfulBEq β] (a a' : α) (b b' : β) :
    (a == a' || b == b') = (a' == a || b' == b) := by
  rw [BEq.comm (a := a), BEq.comm (a := b)]

def conversationsSchema : Schema ChatConversation where
  check _ := true
  clash a b := a.id == b.id
  clash_comm a b := BEq.comm (a := a.id) (b := b.id)

def messagesSchema : Schema ChatMessageRecord where
  check _ := true
  clash a b := a.id == b.id || a.key == b.key
  clash_comm a b := beq_or_comm a.id b.id a.key b.key

def attachmentsSchema : Schema ChatAttachmentRecord where
  check _ := true
  clash a b := a.id == b.id || a.messageId == b.messageId
  clash_comm a b := beq_or_comm a.id b.id a.messageId b.messageId

def deletedMessagesSchema : Schema DeletedMessage where
  check _ := true
  clash a b := a.messageId == b.messageId || a.key == b.key
  clash_comm a b := beq_or_comm a.messageId b.messageId a.key b.key

structure ChatStorage where
  conversations : Table conversationsSchema
  messages : Table messagesSchema
  attachments : Table attachmentsSchema
  deletedMessages : Table deletedMessagesSchema

namespace ChatStorage

variable (s : ChatStorage)

/-- The database after `onCreate`. -/
def init : ChatStorage := ⟨.empty, .empty, .empty, .empty⟩

def getConversation (conversationId : String) : Option ChatConversation :=
  s.conversations.find (·.id == conversationId)

/-- The attachment that `loadMessages` gives a message. -/
def attachmentOf (m : ChatMessageRecord) : Option ChatAttachmentRecord :=
  match m.attachmentId with
  | none => none
  | some id => if id = "" then none else s.attachments.find (·.id == id)

/-- The condition of `isMessageDeleted`. -/
def marks (d : DeletedMessage) (m : ChatMessageRecord) : Bool :=
  d.messageId == m.id || d.key == m.key

def isMessageDeleted (m : ChatMessageRecord) : Bool := s.deletedMessages.rows.any (marks · m)

/-- `SELECT COUNT(*)` of the messages that are not read. -/
def unreadMessages (conversationId : String) : Nat :=
  s.messages.rows.countP fun m =>
    m.conversationId == conversationId && m.direction == .incoming && !m.isRead

/-- `SELECT MAX`, where `NULL` is read as 0. -/
def sqlMax : List Int → Int
  | [] => 0
  | t :: ts => ts.foldl max t

def latestSentAt (conversationId : String) : Int :=
  sqlMax ((s.messages.rows.filter (·.conversationId == conversationId)).map (·.sentAt))

/-- The numbers of a sender in a conversation, those of deleted messages included. -/
def senderSeqs (conversationId senderVirtualIp : String) : List Int :=
  (s.messages.rows.filter fun m => m.conversationId == conversationId &&
      m.senderVirtualIp == senderVirtualIp).map (·.senderSeq) ++
    (s.deletedMessages.rows.filter fun d => d.conversationId == conversationId &&
      d.senderVirtualIp == senderVirtualIp).map (·.senderSeq)

def nextSenderSequence (conversationId senderVirtualIp : String) : Int :=
  sqlMax (s.senderSeqs conversationId senderVirtualIp) + 1

def updateConversation (conversationId : String) (f : ChatConversation → ChatConversation)
    (hf : ∀ c, (f c).id = c.id) : ChatStorage :=
  { s with
    conversations := s.conversations.modify (·.id == conversationId) f
      (fun x y => congrArg (· == y.id) (hf x)) fun _ => rfl }

/-! ## Operations -/

def upsertConversation (conversation : ChatConversation) : ChatStorage :=
  { s with conversations := s.conversations.insertOrReplace conversation rfl }

/-- The part of `upsertMessage` after the insertions. -/
def touchConversation (m : ChatMessageRecord) (increment : Bool) : ChatStorage :=
  match s.getConversation m.conversationId with
  | none => s.upsertConversation
      { id := m.conversationId
        type := m.conversationType
        hallId := m.hallId
        title := m.conversationId
        unreadCount := if increment then 1 else 0
        lastReadAt := 0
        lastMessageAt := m.sentAt
        updatedAt := m.createdAt
        metadataJson := "\x7b\x7d"
        peerVirtualIp := m.peerVirtualIp
        peerDisplayName := none
        roomId := m.roomId }
  | some _ => s.updateConversation m.conversationId (fun c => { c with
      lastMessageAt := m.sentAt
      updatedAt := m.createdAt
      unreadCount := if increment then c.unreadCount + 1 else c.unreadCount }) fun _ => rfl

def upsertMessage (m : ChatMessageRecord) (attachment : Option ChatAttachmentRecord)
    (incrementUnread : Bool) : ChatStorage :=
  if s.isMessageDeleted m then s
  else
    let isNew := !s.messages.rows.any (·.id == m.id)
    let attachments :=
      match attachment with
      | some a => s.attachments.insertOrReplace a rfl
      | none => s.attachments
    { s with messages := s.messages.insertOrReplace m rfl, attachments }.touchConversation m
      (incrementUnread && isNew)

section Upsert

variable {s} {m : ChatMessageRecord} {attachment : Option ChatAttachmentRecord}
  {increment : Bool}

/-- Only the conversations change. -/
theorem touchConversation_frame : (s.touchConversation m increment).messages = s.messages ∧
    (s.touchConversation m increment).attachments = s.attachments ∧
    (s.touchConversation m increment).deletedMessages = s.deletedMessages := by
  unfold touchConversation
  split <;> exact ⟨rfl, rfl, rfl⟩

theorem upsertMessage_of_deleted (h : s.isMessageDeleted m = true) :
    s.upsertMessage m attachment increment = s := if_pos h

section

variable (h : s.isMessageDeleted m = false)

include h

theorem upsertMessage_of_free
    (attachment : Option ChatAttachmentRecord) (increment : Bool) :
    s.upsertMessage m attachment increment =
      { s with
        messages := s.messages.insertOrReplace m rfl
        attachments := match attachment with
          | some a => s.attachments.insertOrReplace a rfl
          | none => s.attachments }.touchConversation m
        (increment && !s.messages.rows.any (·.id == m.id)) := by
  unfold upsertMessage
  rw [if_neg (by rw [h]; exact Bool.false_ne_true)]

theorem messages_upsertMessage :
    (s.upsertMessage m attachment increment).messages = s.messages.insertOrReplace m rfl := by
  rw [upsertMessage_of_free h]
  exact touchConversation_frame.1

theorem deletedMessages_upsertMessage :
    (s.upsertMessage m attachment increment).deletedMessages = s.deletedMessages := by
  rw [upsertMessage_of_free h]
  exact touchConversation_frame.2.2

theorem attachments_upsertMessage :
    (s.upsertMessage m attachment increment).attachments =
      match attachment with
      | some a => s.attachments.insertOrReplace a rfl
      | none => s.attachments := by
  rw [upsertMessage_of_free h]
  exact touchConversation_frame.2.1

end

end Upsert

/-- The record of a deleted message. -/
def tombstone (now : Int) (m : ChatMessageRecord) : DeletedMessage :=
  ⟨m.id, m.conversationId, m.senderVirtualIp, m.senderSeq, now⟩

/-- Delete the messages with `p` and their attachments, and keep a record of each. -/
def bury (p : ChatMessageRecord → Bool) (now : Int) : ChatStorage :=
  let gone := s.messages.rows.filter p
  { s with
    deletedMessages := (gone.map (tombstone now)).foldl Table.insertOrIgnore s.deletedMessages
    attachments := s.attachments.delete fun a => gone.any (·.id == a.messageId)
    messages := s.messages.delete p }

def deleteMessage (messageId : String) (now : Int) : ChatStorage × Bool :=
  match s.messages.find (·.id == messageId) with
  | none => (s, false)
  | some m =>
    let s' := s.bury (·.id == messageId) now
    (s'.updateConversation m.conversationId (fun c => { c with
      unreadCount := s'.unreadMessages m.conversationId
      lastMessageAt := s'.latestSentAt m.conversationId
      updatedAt := now }) fun _ => rfl, true)

def clearConversationMessages (conversationId : String) (now : Int) : ChatStorage × Nat :=
  ((s.bury (·.conversationId == conversationId) now).updateConversation conversationId
    (fun c => { c with unreadCount := 0, lastMessageAt := 0, updatedAt := now }) fun _ => rfl,
    s.messages.rows.countP (·.conversationId == conversationId))

def deleteConversation (conversationId : String) (now : Int) : ChatStorage × Bool :=
  match s.getConversation conversationId with
  | none => (s, false)
  | some _ =>
    let s' := s.bury (·.conversationId == conversationId) now
    ({ s' with conversations := s'.conversations.delete (·.id == conversationId) }, true)

def markConversationRead (conversationId : String) (now : Int) : ChatStorage :=
  let s' := s.updateConversation conversationId
    (fun c => { c with unreadCount := 0, lastReadAt := now, updatedAt := now }) fun _ => rfl
  { s' with
    messages := s'.messages.modify
      (fun m => m.conversationId == conversationId && m.direction == .incoming)
      (fun m => { m with isRead := true }) (fun _ _ => rfl) fun _ => rfl }

/-! ## Merging an alias -/

def moved (target : ChatConversation) (m : ChatMessageRecord) : ChatMessageRecord :=
  { m with conversationId := target.id, hallId := target.hallId }

/-- The body of the loop: the message moves, or it goes if the target has one with its number. -/
def moveMessage (target : ChatConversation) (s : ChatStorage) (m : ChatMessageRecord) :
    ChatStorage :=
  match s.messages.updateOrIgnore (·.id == m.id) (moved target) with
  | (_, 0) => { s with
      messages := s.messages.delete (·.id == m.id)
      attachments := s.attachments.delete (·.messageId == m.id) }
  | (messages, _) => { s with messages }

/-- The conversation that stands for both. -/
def mergedConversation (source : ChatConversation) (existing : Option ChatConversation)
    (target : ChatConversation) (unread : Nat) : ChatConversation :=
  let preferred := existing.getD source
  { id := target.id
    type := target.type
    hallId := target.hallId
    title := if preferred.title.isEmpty then target.title else preferred.title
    unreadCount := unread
    lastReadAt := max source.lastReadAt ((existing.map (·.lastReadAt)).getD 0)
    lastMessageAt := max source.lastMessageAt ((existing.map (·.lastMessageAt)).getD 0)
    updatedAt := max (max source.updatedAt ((existing.map (·.updatedAt)).getD 0)) target.updatedAt
    metadataJson := preferred.metadataJson
    peerVirtualIp := target.peerVirtualIp
    peerDisplayName := target.peerDisplayName.or preferred.peerDisplayName
    roomId := target.roomId.or preferred.roomId }

def mergeConversationAlias (sourceId : String) (target : ChatConversation) : ChatStorage :=
  if sourceId = target.id then s
  else
    match s.getConversation sourceId with
    | none => s
    | some source =>
      let existing := s.getConversation target.id
      let s₁ := (s.messages.rows.filter (·.conversationId == sourceId)).foldl (moveMessage target) s
      let s₂ := { s₁ with messages := s₁.messages.delete (·.conversationId == sourceId) }
      let s₃ := s₂.upsertConversation
        (mergedConversation source existing target (s₂.unreadMessages target.id))
      { s₃ with conversations := s₃.conversations.delete (·.id == sourceId) }

end ChatStorage

end Chat

end Vntc
