import Vntc.Lib.Ipv4Text
import Vntc.Chat.Ids
import Vntc.Chat.Storage

/-!
# Messages from other devices

`_handleTransportPacket`, `_openIncomingAttachmentStream` and `_handleIncomingMessage` of
`chat_manager.dart`. A message is taken if its sender is the address of the connection. Its
conversation is computed from its type, and then it is stored. The log, the views and the bytes of
the attachments are left out; that a stream is complete is the packet `attachmentStream`.
-/

namespace Vntc

open Lib

namespace Chat

structure LocalHallNode where
  localVirtualIp : String
  legacyHallIds : List String

structure ChatRoom where
  roomId : String
  roomName : String
  locallyJoined : Bool

structure ChatHall where
  id : String
  title : String

/-- What the handler reads besides the database. -/
structure ChatManager where
  platform : Platform
  localNodes : List (String × LocalHallNode)
  rooms : List ChatRoom
  halls : List ChatHall
  /-- The tab of the direct chats is open. -/
  directTab : Bool
  selectedConversationId : Option String
  fileExists : String → Bool
  now : Int

inductive ChatPacket
  | message (m : ChatMessageRecord) (attachment : Option ChatAttachmentRecord)
  /-- A stream that is complete, and the file that it was written to. -/
  | attachmentStream (m : ChatMessageRecord) (attachment : ChatAttachmentRecord)
      (localRelativePath : String)

namespace ChatPacket

def record : ChatPacket → ChatMessageRecord
  | .message m _ => m
  | .attachmentStream m _ _ => m

def attachment : ChatPacket → Option ChatAttachmentRecord
  | .message _ attachment => attachment
  | .attachmentStream _ attachment path =>
      some { attachment with relativePath := path, payloadAvailable := true,
                             needsManualResend := false }

/-- `attachmentPayloadAvailable`. -/
def isStream : ChatPacket → Bool
  | .message _ _ => false
  | .attachmentStream _ _ _ => true

end ChatPacket

namespace ChatManager

variable (e : ChatManager)

/-- `_resolveLocalHallId`, with the node of the hall. -/
def resolveLocalHallId (hallId : String) : Option (String × LocalHallNode) :=
  let normalized := e.platform.normalizeChatHallId hallId
  (e.localNodes.find? (·.1 == normalized)).or <|
    (e.localNodes.find? (·.1 == hallId)).or <|
      (e.localNodes.find? fun n => e.platform.normalizeChatHallId n.1 == normalized).or <|
        e.localNodes.find? fun n => n.2.legacyHallIds.any fun legacy =>
          legacy == hallId || e.platform.normalizeChatHallId legacy == normalized

/-- `_canonicalizeIncomingMessage`. -/
def canonicalize (m : ChatMessageRecord) (localHallId : String) (node : LocalHallNode) :
    ChatMessageRecord :=
  let roomId := e.platform.canonicalRoomId
    (m.roomId.or (if m.conversationType = .room then some m.conversationId else none)) localHallId
  { m with
    conversationId :=
      match m.conversationType with
      | .hall => localHallId
      | .direct => e.platform.buildDirectConversationId localHallId node.localVirtualIp
          m.senderVirtualIp
      | .room => roomId.getD m.conversationId
    hallId := localHallId
    roomId }

/-- `_resolveConversationTitleForIncoming`. -/
def title (m : ChatMessageRecord) : String :=
  match m.conversationType with
  | .direct =>
    let name := e.platform.trim m.senderName
    if name = "" then m.senderVirtualIp else name
  | .room => ((e.rooms.find? (·.roomId == m.conversationId)).map (·.roomName)).getD "聊天室"
  | .hall => ((e.halls.find? (·.id == m.hallId)).map (·.title)).getD "大厅"

/-- `_validateAttachmentRelativePath` does not throw. An absolute path has an empty segment or one
with a colon. -/
def isRelativePath (relativePath : String) : Bool :=
  let value := (e.platform.trim relativePath).toList
  let segments := (value.map fun c => if c = '\\' then '/' else c).splitOn '/'
  !value.isEmpty && !value.contains (Char.ofNat 0) && segments.all fun segment =>
    !segment.isEmpty && segment != ['.'] && segment != ['.', '.'] && !segment.contains ':'

/-- The attachment as it is stored; there is none if `resolveAttachmentPath` throws. -/
def incomingAttachment (isStream : Bool) (a : ChatAttachmentRecord) : Option ChatAttachmentRecord :=
  if isStream then some { a with payloadAvailable := true, needsManualResend := false }
  else if ¬ a.autoSyncEligible then
    some { a with payloadAvailable := false, needsManualResend := true }
  else if ¬ e.isRelativePath a.relativePath then none
  else if ¬ e.fileExists a.relativePath then
    some { a with payloadAvailable := false, needsManualResend := true }
  else some a

/-- `shouldIncrementUnread`. -/
def isUnread (s : ChatStorage) (m : ChatMessageRecord) : Bool :=
  m.conversationType == .direct &&
    !(e.directTab && e.selectedConversationId == some m.conversationId) &&
    decide (((s.getConversation m.conversationId).map (·.lastReadAt)).getD 0 < m.sentAt)

/-- The message as it is stored. -/
def localMessage (s : ChatStorage) (m : ChatMessageRecord) : ChatMessageRecord :=
  { m with
    direction := .incoming
    isRead := !e.isUnread s m
    peerVirtualIp :=
      if m.conversationType = .direct then some m.senderVirtualIp else m.peerVirtualIp }

/-- The conversation of the message, which is stored before it. -/
def incomingConversation (s : ChatStorage) (m : ChatMessageRecord) : ChatConversation :=
  let existing := s.getConversation m.conversationId
  { id := m.conversationId
    type := m.conversationType
    hallId := m.hallId
    title := e.title m
    unreadCount := (existing.map (·.unreadCount)).getD 0
    lastReadAt := (existing.map (·.lastReadAt)).getD 0
    lastMessageAt := m.sentAt
    updatedAt := e.now
    metadataJson := (existing.map (·.metadataJson)).getD "\x7b\x7d"
    peerVirtualIp :=
      if m.conversationType = .direct then some m.senderVirtualIp
      else existing.bind (·.peerVirtualIp)
    peerDisplayName :=
      if m.conversationType = .direct then some m.senderName
      else existing.bind (·.peerDisplayName)
    roomId := m.roomId.or (existing.bind (·.roomId)) }

/-- The message with its local ids, if it is taken. -/
def accepts (s : ChatStorage) (m : ChatMessageRecord) : Option ChatMessageRecord :=
  match e.resolveLocalHallId m.hallId with
  | none => none
  | some (localHallId, node) =>
    let m' := e.canonicalize m localHallId node
    if s.isMessageDeleted m' then none
    else if m'.conversationType = .room ∧ ¬ e.rooms.any (fun r =>
        r.roomId == m'.roomId.getD m'.conversationId && r.locallyJoined) then none
    else some m'

/-- The store after the message is stored, before anything is marked as read. -/
def upserted (s : ChatStorage) (m : ChatMessageRecord)
    (attachment : Option ChatAttachmentRecord) : ChatStorage :=
  (s.upsertConversation (e.incomingConversation s m)).upsertMessage (e.localMessage s m) attachment
    (e.isUnread s m)

/-- The writes of a message that is taken. -/
def store (s : ChatStorage) (m : ChatMessageRecord) (attachment : Option ChatAttachmentRecord) :
    ChatStorage :=
  let s' := e.upserted s m attachment
  if ¬ e.isUnread s m ∧ m.conversationType = .direct then
    s'.markConversationRead m.conversationId e.now
  else s'

def handleIncomingMessage (s : ChatStorage) (m : ChatMessageRecord)
    (attachment : Option ChatAttachmentRecord) (isStream : Bool) : ChatStorage :=
  match e.accepts s m, attachment.mapM (e.incomingAttachment isStream) with
  | some m', some attachment' => e.store s m' attachment'
  | _, _ => s

/-- The packet is the sender's own. -/
def authentic (remoteAddress : String) (p : ChatPacket) : Bool :=
  e.platform.isChatRemoteAddressConsistent remoteAddress p.record.senderVirtualIp

/-- A packet from a connection. For a stream there is one more check when it is opened. -/
def process (remoteAddress : String) (s : ChatStorage) (p : ChatPacket) : ChatStorage :=
  if e.authentic remoteAddress p then
    if p.isStream && s.isMessageDeleted p.record then s
    else e.handleIncomingMessage s p.record p.attachment p.isStream
  else s

/-! ## What a packet changes -/

/-- The messages that come or go are of the address `a`, and the others keep their attachments. -/
structure OnlyOwn (a : String) (s s' : ChatStorage) : Prop where
  removed : ∀ r ∈ s.messages.rows, r ∉ s'.messages.rows → e.platform.Denotes r.senderVirtualIp a
  added : ∀ r ∈ s'.messages.rows, r ∉ s.messages.rows → e.platform.Denotes r.senderVirtualIp a
  attachments : ∀ r ∈ s.messages.rows, ¬ e.platform.Denotes r.senderVirtualIp a →
    s'.attachmentOf r = s.attachmentOf r

/-- The attachment takes neither the id nor the message of the one with the id `id`. -/
def LeavesAttachment (s : ChatStorage) (x : ChatAttachmentRecord) (id : String) : Prop :=
  (x.id = id → s.attachments.find (·.id == id) = some x) ∧
    (x.id ≠ id → ∀ y ∈ s.attachments.rows, y.id = id → y.messageId ≠ x.messageId)

/-- What must hold of the messages of other devices for a message that is stored. -/
structure Separate (a : String) (s : ChatStorage) (m : ChatMessageRecord)
    (attachment : Option ChatAttachmentRecord) : Prop where
  id : ∀ r ∈ s.messages.rows, r.id = m.id → e.platform.Denotes r.senderVirtualIp a
  read : e.isUnread s m = false → m.conversationType = .direct →
    ∀ r ∈ s.messages.rows, r.conversationId = m.conversationId → r.direction = .incoming →
      r.isRead = false → e.platform.Denotes r.senderVirtualIp a
  attachment : ∀ r ∈ s.messages.rows, ¬ e.platform.Denotes r.senderVirtualIp a →
    ∀ id, r.attachmentId = some id → id ≠ "" → ∀ x ∈ attachment, LeavesAttachment s x id

variable {e}

section Store

variable {a : String} {s : ChatStorage} {m : ChatMessageRecord}
  {attachment : Option ChatAttachmentRecord}

/-- The message is not refused a second time. -/
theorem accepts_eq_some {raw : ChatMessageRecord} (h : e.accepts s raw = some m) :
    s.isMessageDeleted m = false ∧ m.id = raw.id ∧ m.senderVirtualIp = raw.senderVirtualIp := by
  unfold accepts at h
  split at h
  · cases h
  · rename_i localHallId node _
    dsimp only at h
    split at h
    · cases h
    · rename_i hd
      split at h
      · cases h
      · cases h
        exact ⟨Bool.eq_false_iff.mpr hd, rfl, rfl⟩

theorem mem_upserted (hd : s.isMessageDeleted m = false) (r : ChatMessageRecord) :
    r ∈ (e.upserted s m attachment).messages.rows ↔
      (r ∈ s.messages.rows ∧ messagesSchema.clash r (e.localMessage s m) = false) ∨
        r = e.localMessage s m := by
  have hfree : (s.upsertConversation (e.incomingConversation s m)).isMessageDeleted
      (e.localMessage s m) = false := hd
  rw [upserted, ChatStorage.messages_upsertMessage hfree]
  exact Table.mem_insertOrReplace

theorem attachments_upserted (hd : s.isMessageDeleted m = false) :
    (e.upserted s m attachment).attachments =
      match attachment with
      | some x => s.attachments.insertOrReplace x rfl
      | none => s.attachments := by
  have hfree : (s.upsertConversation (e.incomingConversation s m)).isMessageDeleted
      (e.localMessage s m) = false := hd
  exact ChatStorage.attachments_upsertMessage hfree

theorem mem_markConversationRead {conversationId : String} {now : Int} (r : ChatMessageRecord) :
    r ∈ (s.markConversationRead conversationId now).messages.rows ↔
      (r ∈ s.messages.rows ∧ ¬ (r.conversationId = conversationId ∧ r.direction = .incoming)) ∨
        ∃ q ∈ s.messages.rows, q.conversationId = conversationId ∧ q.direction = .incoming ∧
          r = { q with isRead := true } := by
  show r ∈ s.messages.rows.map _ ↔ _
  rw [List.mem_map]
  constructor
  · rintro ⟨q, hq, rfl⟩
    by_cases hc : q.conversationId = conversationId ∧ q.direction = .incoming
    · rw [if_pos (by simpa using hc)]
      exact .inr ⟨q, hq, hc.1, hc.2, rfl⟩
    · rw [if_neg (by simpa using hc)]
      exact .inl ⟨hq, hc⟩
  · rintro (⟨hr, hc⟩ | ⟨q, hq, hconv, hdir, rfl⟩)
    · exact ⟨r, hr, if_neg (by simpa using hc)⟩
    · exact ⟨q, hq, if_pos (by simp [hconv, hdir])⟩

theorem attachments_store :
    (e.store s m attachment).attachments = (e.upserted s m attachment).attachments := by
  unfold store
  split <;> rfl

/-- The rows after the message is stored. -/
theorem mem_store (r : ChatMessageRecord) :
    r ∈ (e.store s m attachment).messages.rows ↔
      if e.isUnread s m = false ∧ m.conversationType = .direct then
        (r ∈ (e.upserted s m attachment).messages.rows ∧
            ¬ (r.conversationId = m.conversationId ∧ r.direction = .incoming)) ∨
          ∃ q ∈ (e.upserted s m attachment).messages.rows,
            q.conversationId = m.conversationId ∧ q.direction = .incoming ∧
              r = { q with isRead := true }
      else r ∈ (e.upserted s m attachment).messages.rows := by
  unfold store
  simp only [Bool.not_eq_true]
  split
  · exact mem_markConversationRead r
  · exact Iff.rfl

theorem localMessage_mem_store (hd : s.isMessageDeleted m = false) :
    e.localMessage s m ∈ (e.store s m attachment).messages.rows := by
  have hnew : e.localMessage s m ∈ (e.upserted s m attachment).messages.rows :=
    (mem_upserted hd _).mpr (.inr rfl)
  rw [mem_store]
  split
  · rename_i hread
    refine .inr ⟨_, hnew, rfl, rfl, ?_⟩
    simp [localMessage, hread.1]
  · exact hnew

/-- A message with a key of the new one has its id or its sender. -/
theorem Separate.denotes_of_clash (h : e.Separate a s m attachment)
    (hown : e.platform.Denotes m.senderVirtualIp a) {r : ChatMessageRecord}
    (hr : r ∈ s.messages.rows) (hclash : messagesSchema.clash r (e.localMessage s m) = true) :
    e.platform.Denotes r.senderVirtualIp a := by
  simp only [messagesSchema, Bool.or_eq_true, beq_iff_eq] at hclash
  rcases hclash with hid | hkey
  · exact h.id r hr hid
  · have hsender : r.senderVirtualIp = m.senderVirtualIp := congrArg (·.2.1) hkey
    rw [hsender]
    exact hown

/-- Which attachments stay. -/
theorem find_insertOrReplace_iff {x : ChatAttachmentRecord} {id : String} :
    (s.attachments.insertOrReplace x rfl).find (·.id == id) = s.attachments.find (·.id == id) ↔
      LeavesAttachment s x id := by
  have hkey : ∀ y z : ChatAttachmentRecord, (y.id == id) = true → (z.id == id) = true →
      attachmentsSchema.clash y z = true := by
    intro y z hy hz
    simp [attachmentsSchema, beq_iff_eq.mp hy, beq_iff_eq.mp hz]
  have hnew : x ∈ (s.attachments.insertOrReplace x rfl).rows :=
    Table.mem_insertOrReplace.mpr (.inr rfl)
  have hfound : x.id = id →
      (s.attachments.insertOrReplace x rfl).find (·.id == id) = some x := fun hx =>
    (Table.find_eq_some hkey).mpr ⟨hnew, beq_iff_eq.mpr hx⟩
  constructor
  · intro h
    refine ⟨fun hx => by rw [← h, hfound hx], fun hx y hy hyid hmsg => ?_⟩
    have hold := (Table.find_eq_some hkey).mpr ⟨hy, beq_iff_eq.mpr hyid⟩
    rw [← h] at hold
    rcases Table.mem_insertOrReplace.mp ((Table.find_eq_some hkey).mp hold).1 with ⟨-, hc⟩ | rfl
    · simp [attachmentsSchema, hmsg] at hc
    · exact hx hyid
  · rintro ⟨hsame, hother⟩
    by_cases hx : x.id = id
    · rw [hsame hx, hfound hx]
    · refine Option.ext fun y => ?_
      rw [Table.find_eq_some hkey, Table.find_eq_some hkey]
      refine and_congr_left fun hy => ?_
      have hyid : y.id = id := beq_iff_eq.mp hy
      refine Table.mem_insertOrReplace.trans ⟨?_, fun hm => .inl ⟨hm, ?_⟩⟩
      · rintro (⟨hm, -⟩ | rfl)
        · exact hm
        · exact absurd hyid hx
      · have hid : y.id ≠ x.id := fun he => hx (he.symm.trans hyid)
        simp [attachmentsSchema, hid, hother hx y hm hyid]

theorem attachmentOf_store_iff (hd : s.isMessageDeleted m = false) (r : ChatMessageRecord) :
    (e.store s m attachment).attachmentOf r = s.attachmentOf r ↔
      ∀ id, r.attachmentId = some id → id ≠ "" → ∀ x ∈ attachment, LeavesAttachment s x id := by
  unfold ChatStorage.attachmentOf
  rw [attachments_store, attachments_upserted hd]
  cases r.attachmentId with
  | none => simp
  | some id =>
    by_cases hid : id = ""
    · simp [hid]
    · cases attachment with
      | none => simp [hid]
      | some x => simpa [hid] using find_insertOrReplace_iff

/-- Storing a message of `a` leaves the others alone if they are separate. -/
theorem Separate.onlyOwn (h : e.Separate a s m attachment)
    (hown : e.platform.Denotes m.senderVirtualIp a) (hd : s.isMessageDeleted m = false) :
    e.OnlyOwn a s (e.store s m attachment) where
  removed r hr hgone := by
    by_contra hother
    have hkept : r ∈ (e.upserted s m attachment).messages.rows := by
      refine (mem_upserted hd r).mpr (.inl ⟨hr, Bool.eq_false_iff.mpr fun hclash => ?_⟩)
      exact hother (h.denotes_of_clash hown hr hclash)
    rw [mem_store] at hgone
    split at hgone
    · rename_i hread
      refine hgone ?_
      by_cases hin : r.conversationId = m.conversationId ∧ r.direction = .incoming
      · -- It is read already, so nothing changes.
        cases hri : r.isRead with
        | true =>
          refine .inr ⟨r, hkept, hin.1, hin.2, ?_⟩
          rw [← hri]
        | false => exact absurd (h.read hread.1 hread.2 r hr hin.1 hin.2 hri) hother
      · exact .inl ⟨hkept, hin⟩
    · exact hgone hkept
  added r hr hnew := by
    have hup : ∀ q ∈ (e.upserted s m attachment).messages.rows,
        q ∈ s.messages.rows ∨ q = e.localMessage s m := fun q hq =>
      ((mem_upserted hd q).mp hq).imp_left And.left
    rw [mem_store] at hr
    split at hr
    · rename_i hread
      rcases hr with ⟨hr, -⟩ | ⟨q, hq, hconv, hdir, rfl⟩
      · rcases hup r hr with hr | rfl
        · exact absurd hr hnew
        · exact hown
      · rcases hup q hq with hq | rfl
        · cases hqr : q.isRead with
          | true =>
            rw [← hqr] at hnew
            exact absurd hq hnew
          | false => exact h.read hread.1 hread.2 q hq hconv hdir hqr
        · exact hown
    · rcases hup r hr with hr | rfl
      · exact absurd hr hnew
      · exact hown
  attachments r hr hother := (attachmentOf_store_iff hd r).mpr (h.attachment r hr hother)

theorem OnlyOwn.separate (h : e.OnlyOwn a s (e.store s m attachment))
    (hown : e.platform.Denotes m.senderVirtualIp a) (hd : s.isMessageDeleted m = false) :
    e.Separate a s m attachment where
  id r hr hid := by
    by_contra hother
    have hkept : r ∈ (e.store s m attachment).messages.rows := by
      by_contra hgone
      exact hother (h.removed r hr hgone)
    -- The new message has this id, so it is the row that was kept.
    have hnew : r = e.localMessage s m :=
      (e.store s m attachment).messages.eq_of_clash hkept (localMessage_mem_store hd)
        (by simp [messagesSchema, hid, localMessage])
    rw [hnew] at hother
    exact hother hown
  read hread hdirect r hr hconv hdir hri := by
    by_contra hother
    have hkept : r ∈ (e.store s m attachment).messages.rows := by
      by_contra hgone
      exact hother (h.removed r hr hgone)
    rw [mem_store, if_pos ⟨hread, hdirect⟩] at hkept
    rcases hkept with ⟨-, hnot⟩ | ⟨q, -, -, -, rfl⟩
    · exact hnot ⟨hconv, hdir⟩
    · cases hri
  attachment r hr hother := (attachmentOf_store_iff hd r).mp (h.attachments r hr hother)

theorem deletedMessages_store : (e.store s m attachment).deletedMessages = s.deletedMessages := by
  have hup : (e.upserted s m attachment).deletedMessages = s.deletedMessages := by
    unfold upserted
    cases hd : (s.upsertConversation (e.incomingConversation s m)).isMessageDeleted
        (e.localMessage s m) with
    | true =>
      rw [ChatStorage.upsertMessage_of_deleted hd]
      rfl
    | false =>
      rw [ChatStorage.deletedMessages_upsertMessage hd]
      rfl
  unfold store
  split
  · exact hup
  · exact hup

/-- A packet changes nothing, or its message is stored. -/
theorem process_cases (remoteAddress : String) (s : ChatStorage) (p : ChatPacket) :
    e.process remoteAddress s p = s ∨ ∃ m attachment, e.accepts s p.record = some m ∧
        e.process remoteAddress s p = e.store s m attachment := by
  unfold process
  split
  · split
    · exact .inl rfl
    · unfold handleIncomingMessage
      split
      · rename_i m attachment hacc _
        exact .inr ⟨m, attachment, hacc, rfl⟩
      · exact .inl rfl
  · exact .inl rfl

end Store

/-- A packet from `a` touches only messages of `a` exactly if, when it is taken and its attachment
does not make the handler throw, no message of another device has its id, is marked as read with it
or loses its attachment to it. -/
theorem onlyOwn_iff {a : String} (ha : e.platform.tryParse a = some a)
    (htrim : e.platform.trim a = a) (hempty : e.platform.tryParse "" = none) (s : ChatStorage)
    (p : ChatPacket) :
    e.OnlyOwn a s (e.process a s p) ↔
      (e.authentic a p = true → (p.isStream && s.isMessageDeleted p.record) = false →
        ∀ m attachment, e.accepts s p.record = some m →
          p.attachment.mapM (e.incomingAttachment p.isStream) = some attachment →
            e.Separate a s m attachment) := by
  have hsame : e.OnlyOwn a s s :=
    ⟨fun r hr hn => absurd hr hn, fun r hr hn => absurd hr hn, fun _ _ _ => rfl⟩
  unfold process
  split
  · rename_i hauth
    have hown := (Platform.consistent_iff_denotes ha htrim hempty).mp hauth
    split
    · rename_i hdel
      exact iff_of_true hsame fun _ hfree => by rw [hdel] at hfree; cases hfree
    · rename_i hfree
      unfold handleIncomingMessage
      split
      · rename_i m attachment hacc hatt
        obtain ⟨hd, -, hsender⟩ := accepts_eq_some hacc
        rw [← hsender] at hown
        constructor
        · intro h _ _ m' attachment' hm' hatt'
          cases hacc.symm.trans hm'
          cases hatt.symm.trans hatt'
          exact h.separate hown hd
        · intro h
          exact (h hauth (Bool.eq_false_iff.mpr hfree) m attachment hacc hatt).onlyOwn hown hd
      · rename_i hno
        exact iff_of_true hsame fun _ _ m attachment hm hatt => absurd hatt (hno m attachment hm)
  · rename_i hauth
    exact iff_of_true hsame fun h => absurd h hauth

/-! ## A hall with two devices -/

def ipv4Platform : Platform where
  trim s := s
  toLowerCase s := s
  le a b := decide (a ≤ b)
  tryParse s := (Ipv4Addr.parse s).map Ipv4Addr.toText

/-- The device `10.0.0.1` in the hall. -/
def device : ChatManager where
  platform := ipv4Platform
  localNodes := [("hall:test", ⟨"10.0.0.1", []⟩)]
  rooms := []
  halls := []
  directTab := false
  selectedConversationId := none
  fileExists _ := false
  now := 2000

/-- A message in the hall. -/
def hallText (id senderVirtualIp : String) (direction : ChatMessageDirection) :
    ChatMessageRecord where
  id := id
  conversationId := "hall:test"
  hallId := "hall:test"
  conversationType := .hall
  senderVirtualIp := senderVirtualIp
  senderName := senderVirtualIp
  senderSeq := 1
  direction := direction
  contentType := .text
  status := .sent
  text := "hello from " ++ senderVirtualIp
  peerVirtualIp := none
  roomId := none
  attachmentId := none
  isSyncMessage := false
  isRead := true
  sentAt := 1000
  createdAt := 1000
  metadataJson := "\x7b\x7d"

/-- The device has sent one message. -/
def sentOne : ChatStorage :=
  ChatStorage.init.upsertMessage (hallText "m1" "10.0.0.1" .outgoing) none false

theorem onlyOwn_iff_fresh_id :
    device.OnlyOwn "10.0.0.2" sentOne
      (device.process "10.0.0.2" sentOne (.message (hallText "m2" "10.0.0.2" .outgoing) none)) := by
  refine (onlyOwn_iff (e := device) (by decide +kernel) rfl (by decide +kernel) sentOne
    (.message (hallText "m2" "10.0.0.2" .outgoing) none)).mpr fun _ _ m attachment hm hatt => ?_
  have hacc : device.accepts sentOne (hallText "m2" "10.0.0.2" .outgoing) =
      some (hallText "m2" "10.0.0.2" .outgoing) := by decide +kernel
  cases hm.symm.trans hacc
  cases hatt
  refine ⟨by decide +kernel, by decide +kernel, fun r _ _ id _ _ x hx => ?_⟩
  cases hx

/-- Another device sends a message with the id of the own one, which is gone then. -/
theorem own_replaced :
    sentOne.messages.rows = [hallText "m1" "10.0.0.1" .outgoing] ∧
      (device.process "10.0.0.2" sentOne
        (.message (hallText "m1" "10.0.0.2" .outgoing) none)).messages.rows.map
          (fun r => (r.id, r.senderVirtualIp, r.text)) =
        [("m1", "10.0.0.2", "hello from 10.0.0.2")] ∧
      ¬ device.OnlyOwn "10.0.0.2" sentOne (device.process "10.0.0.2" sentOne
        (.message (hallText "m1" "10.0.0.2" .outgoing) none)) := by
  refine ⟨by decide +kernel, by decide +kernel, fun h => ?_⟩
  have hown : ¬ device.platform.Denotes "10.0.0.1" "10.0.0.2" := by decide +kernel
  exact hown (h.removed (hallText "m1" "10.0.0.1" .outgoing) (by decide +kernel)
    (by decide +kernel))

end ChatManager

end Chat

end Vntc
