import Vntc.Lib.Sys
import Vntc.Chat.Tombstones
import Vntc.Chat.Sync

/-!
# What a synchronisation repairs

Two devices `a` and `b` of a hall. `b` writes to the hall, to `a` and to rooms that `a` has joined,
and any of these messages may not reach `a`. Then `a` asks for what it misses, and all packets of
the answer arrive.
-/

namespace Vntc

open Lib

namespace Chat

/-! ## Conversations of two devices -/

/-- Where a message for both devices is: in the hall, in their direct chat or in a room. -/
inductive SyncTarget
  | hall
  | direct
  | room (creatorVirtualIp roomToken : String)
  deriving DecidableEq

namespace SyncTarget

def type : SyncTarget → ChatConversationType
  | .hall => .hall
  | .direct => .direct
  | .room _ _ => .room

/-- The id of the conversation on a device. -/
def conversationId (d : Platform) (hallId localVirtualIp peerVirtualIp : String) :
    SyncTarget → String
  | .hall => hallId
  | .direct => d.buildDirectConversationId hallId localVirtualIp peerVirtualIp
  | .room creatorVirtualIp roomToken => d.buildRoomId hallId creatorVirtualIp roomToken

def IsProper (d : Platform) : SyncTarget → Prop
  | .room creatorVirtualIp roomToken => d.IsRoomName creatorVirtualIp roomToken
  | _ => True

end SyncTarget

/-- The id is one of a hall and in its normal form. -/
structure Platform.IsHallId (d : Platform) (hallId : String) : Prop where
  hall : "hall:".toList.isPrefixOf hallId.toList = true
  normal : d.normalizeChatHallId hallId = hallId

variable {d : Platform} {hallId : String}

theorem Platform.IsHallId.normalize_ne (h : d.IsHallId hallId) :
    d.normalizeChatHallId hallId ≠ "" := by
  rw [h.normal]
  rintro rfl
  have := h.hall
  simp at this

/-- The first character of the id tells the type. -/
def SyncTarget.initial : SyncTarget → Char
  | .hall => 'h'
  | .direct => 'd'
  | .room _ _ => 'r'

theorem SyncTarget.head_conversationId (h : d.IsHallId hallId) (ip peer : String) (t : SyncTarget) :
    (t.conversationId d hallId ip peer).toList.head? = some t.initial := by
  cases t with
  | hall =>
    obtain ⟨rest, hrest⟩ := List.isPrefixOf_iff_prefix.mp h.hall
    show hallId.toList.head? = _
    rw [← hrest]
    rfl
  | direct => simp [conversationId, Platform.buildDirectConversationId, initial]
  | room c t => simp [conversationId, Platform.buildRoomId, initial]

/-- A conversation has different ids on the two devices, but an id is of one conversation only. -/
theorem SyncTarget.eq_of_conversationId {hall hall' ip ip' peer peer' : String}
    (h : d.IsHallId hall) (h' : d.IsHallId hall') {t t' : SyncTarget} (ht : t.IsProper d)
    (ht' : t'.IsProper d)
    (he : t.conversationId d hall ip peer = t'.conversationId d hall' ip' peer') : t = t' := by
  have hhead : t.initial = t'.initial := by
    have := head_conversationId h ip peer t
    rw [he, head_conversationId h'] at this
    exact (Option.some.inj this).symm
  cases t <;> cases t' <;> simp only [initial, Char.reduceEq] at hhead
  · rfl
  · rfl
  · obtain ⟨rfl, rfl⟩ := ht.eq ht' he
    rfl

/-- Two devices of a hall. -/
structure SameHall where
  a : ChatManager
  b : ChatManager
  /-- The ids of the hall. -/
  aHall : String
  bHall : String
  aNode : LocalHallNode
  bNode : LocalHallNode
  /-- The addresses of their connections. -/
  aAddress : String
  bAddress : String
  /-- The creators and tokens of the rooms that `a` has joined. -/
  rooms : List (String × String)
  /-- The files of `a` for incoming streams. -/
  path : String → String
  platform_eq : b.platform = a.platform
  lawful : a.platform.Lawful
  hall_a : a.platform.IsHallId aHall
  hall_b : a.platform.IsHallId bHall
  ip_a : a.platform.normalizeChatVirtualIp aNode.localVirtualIp = aNode.localVirtualIp
  ip_b : a.platform.normalizeChatVirtualIp bNode.localVirtualIp = bNode.localVirtualIp
  resolve_a : a.resolveLocalHallId aHall = some (aHall, aNode)
  resolve_b : b.resolveLocalHallId aHall = some (bHall, bNode)
  address_a : a.platform.isChatRemoteAddressConsistent aAddress aNode.localVirtualIp = true
  address_b : a.platform.isChatRemoteAddressConsistent bAddress bNode.localVirtualIp = true
  room_name : ∀ r ∈ rooms, a.platform.IsRoomName r.1 r.2
  room_joined : ∀ r ∈ rooms, a.rooms.any (fun x =>
    x.roomId == a.platform.buildRoomId aHall r.1 r.2 && x.locallyJoined) = true

namespace SameHall

variable (h : SameHall)

def aIp : String := h.aNode.localVirtualIp

def bIp : String := h.bNode.localVirtualIp

/-- The id on `a`. -/
def aId (t : SyncTarget) : String := t.conversationId h.a.platform h.aHall h.aIp h.bIp

/-- The id on `b`. -/
def bId (t : SyncTarget) : String := t.conversationId h.a.platform h.bHall h.bIp h.aIp

def targets : List SyncTarget := .hall :: .direct :: h.rooms.map fun r => .room r.1 r.2

def joinedRoomIds : List String := h.rooms.map fun r => h.a.platform.buildRoomId h.aHall r.1 r.2

/-- The request that `a` sends. -/
def request (sa : ChatStorage) : ChatSyncRequestPayload :=
  h.a.syncRequest sa h.aHall h.aNode h.joinedRoomIds h.bIp

/-- The packets that `b` sends back. -/
def answer (sa sb : ChatStorage) : List ChatPacket :=
  h.b.answer h.path h.aAddress sb (h.request sa)

variable {h}

variable {t t' : SyncTarget} {sa : ChatStorage}

theorem proper (ht : t ∈ h.targets) : t.IsProper h.a.platform := by
  simp only [targets, List.mem_cons, List.mem_map] at ht
  rcases ht with rfl | rfl | ⟨r, hr, rfl⟩
  · trivial
  · trivial
  · exact h.room_name r hr

theorem aId_inj (ht : t ∈ h.targets) (ht' : t' ∈ h.targets) (he : h.aId t = h.aId t') : t = t' :=
  SyncTarget.eq_of_conversationId h.hall_a h.hall_a (proper ht) (proper ht') he

theorem bId_inj (ht : t ∈ h.targets) (ht' : t' ∈ h.targets) (he : h.bId t = h.bId t') : t = t' :=
  SyncTarget.eq_of_conversationId h.hall_b h.hall_b (proper ht) (proper ht') he

/-- The room of a device of the hall in the other device's hall. -/
theorem canonicalRoomId_room {r : String × String} (hr : r ∈ h.rooms) {hall : String}
    (hhall : h.a.platform.IsHallId hall) (localHallId : String) :
    h.a.platform.canonicalRoomId (some (h.a.platform.buildRoomId hall r.1 r.2)) localHallId =
      some (h.a.platform.buildRoomId localHallId r.1 r.2) :=
  h.lawful.roomIdFor_room _ hhall.normalize_ne (h.room_name r hr)

/-! ## The summary -/

theorem map_aId : h.targets.map h.aId =
    h.aHall :: h.a.platform.buildDirectConversationId h.aHall h.aIp h.bIp :: h.joinedRoomIds := by
  simp only [targets, joinedRoomIds, List.map_cons, List.map_map]
  rfl

variable (h) in
/-- The ids of the rooms on `b`, as `b` computes them. -/
def canonicalRoomIds : List String :=
  h.joinedRoomIds.filterMap fun roomId => h.a.platform.canonicalRoomId (some roomId) h.bHall

theorem canonicalRoomIds_eq :
    h.canonicalRoomIds = h.rooms.map fun r => h.a.platform.buildRoomId h.bHall r.1 r.2 := by
  rw [canonicalRoomIds, joinedRoomIds, List.filterMap_map, ← List.filterMap_eq_map]
  exact List.filterMap_congr fun r hr => canonicalRoomId_room hr h.hall_a _

theorem map_bId : h.targets.map h.bId =
    h.bHall :: h.a.platform.buildDirectConversationId h.bHall h.bIp h.aIp ::
      h.canonicalRoomIds := by
  rw [canonicalRoomIds_eq]
  simp only [targets, List.map_cons, List.map_map]
  rfl

variable (h) in
/-- The summary of `a` as `b` reads it. -/
def summary (sa : ChatStorage) : ChatSyncSummary :=
  (h.request sa).summary.canonicalizeChatSyncSummary h.a.platform h.aHall h.bHall h.bIp h.aIp
    h.joinedRoomIds h.canonicalRoomIds

/-- The id that `b` builds for the direct chat of the request is the one of `a`. -/
theorem legacy_direct :
    h.a.platform.buildLegacyDirectConversationId h.aHall h.bIp h.aIp = h.aId .direct :=
  (Platform.buildLegacyDirectConversationId_eq h.hall_a.normal h.ip_b h.ip_a).trans
    (h.lawful.buildDirectConversationId_comm _ _ _)

/-- What is merged into the entry of a conversation. -/
theorem mem_syncMerges {x : String × String}
    (hx : x ∈ ChatSyncSummary.syncMerges h.a.platform h.aHall h.bHall h.bIp h.aIp h.joinedRoomIds
      h.canonicalRoomIds) : ∃ t ∈ h.targets, x.2 = h.bId t ∧ (x.1 = h.bId t ∨ x.1 = h.aId t) := by
  simp only [ChatSyncSummary.syncMerges, legacy_direct, List.mem_append, List.mem_cons,
    List.not_mem_nil, or_false, List.mem_flatMap, List.mem_zipIdx_iff_getElem?] at hx
  rcases hx with (rfl | rfl | rfl | rfl) | ⟨⟨roomId, i⟩, hi, hx⟩
  · exact ⟨.hall, by simp [targets], rfl, .inl rfl⟩
  · exact ⟨.hall, by simp [targets], rfl, .inr rfl⟩
  · exact ⟨.direct, by simp [targets], rfl, .inl rfl⟩
  · exact ⟨.direct, by simp [targets], rfl, .inr rfl⟩
  · rw [joinedRoomIds, List.getElem?_map, Option.map_eq_some_iff] at hi
    obtain ⟨r, hr, rfl⟩ := hi
    rw [canonicalRoomIds_eq, List.getElem?_map, hr] at hx
    refine ⟨.room r.1 r.2, ?_, ?_⟩
    · simp only [targets, List.mem_cons, List.mem_map]
      exact .inr (.inr ⟨r, List.mem_of_getElem? hr, rfl⟩)
    · rcases hx with rfl | rfl
      · exact ⟨rfl, .inl rfl⟩
      · exact ⟨rfl, .inr rfl⟩

theorem merges_own (ht : t ∈ h.targets) :
    (h.aId t, h.bId t) ∈ ChatSyncSummary.syncMerges h.a.platform h.aHall h.bHall h.bIp h.aIp
      h.joinedRoomIds h.canonicalRoomIds := by
  simp only [ChatSyncSummary.syncMerges, legacy_direct, List.mem_append, List.mem_cons,
    List.not_mem_nil, or_false, List.mem_flatMap, List.mem_zipIdx_iff_getElem?]
  simp only [targets, List.mem_cons, List.mem_map] at ht
  rcases ht with rfl | rfl | ⟨r, hr, rfl⟩
  · exact .inl (.inr (.inl rfl))
  · exact .inl (.inr (.inr (.inr rfl)))
  · obtain ⟨i, hi⟩ := List.mem_iff_getElem?.mp hr
    refine .inr ⟨(h.aId (.room r.1 r.2), i), ?_, ?_⟩
    · rw [joinedRoomIds, List.getElem?_map, hi]
      rfl
    · rw [canonicalRoomIds_eq, List.getElem?_map, hi]
      exact .inr rfl

/-- What `b` takes `a` to know: the numbers that `a` has, those of deleted messages included. -/
theorem known_summary_lt (ht : t ∈ h.targets) {sender : String} {v : Int} (hv : 0 < v) :
    (h.summary sa).known (h.bId t) sender < v ↔ ∀ n ∈ sa.senderSeqs (h.aId t) sender, n < v := by
  have hrequest : ∀ {id : String}, (h.request sa).summary.known id sender < v ↔
      (id ∈ h.targets.map h.aId → ∀ n ∈ sa.senderSeqs id sender, n < v) := by
    intro id
    rw [map_aId]
    exact ChatStorage.known_buildSummary_lt hv
  rw [summary, ChatSyncSummary.canonicalizeChatSyncSummary,
    ChatSyncSummary.known_foldl_mergeEntry_lt hv]
  constructor
  · rintro ⟨-, hall⟩
    have hown := hall (h.aId t, h.bId t) (merges_own ht) rfl
    exact hrequest.mp hown (List.mem_map_of_mem ht)
  · refine fun hn => ⟨hv, fun x hx hid => ?_⟩
    obtain ⟨t', ht', hx₂, hx₁⟩ := mem_syncMerges hx
    cases bId_inj ht ht' (hid.symm.trans hx₂)
    rw [hrequest]
    intro hmem
    rcases hx₁ with he | he
    · -- The id of `b` is one of `a` only if both have the same id of the conversation.
      obtain ⟨t', ht', hta⟩ := List.mem_map.mp hmem
      cases SyncTarget.eq_of_conversationId h.hall_a h.hall_b (proper ht') (proper ht)
        (hta.trans he)
      rw [← hta]
      exact hn
    · rw [he]
      exact hn

/-! ## The answer -/

variable (h) in
/-- The message as `b` sends it. -/
def wire (sa : ChatStorage) (r : ChatMessageRecord) : ChatMessageRecord :=
  h.b.syncMessage (h.request sa) h.bHall h.bNode h.aAddress r

variable (h) in
def packet (sa sb : ChatStorage) (r : ChatMessageRecord) : ChatPacket :=
  h.b.syncPacket h.path (h.request sa) h.bHall h.bNode h.aAddress (r, sb.attachmentOf r)

theorem record_packet (sa sb : ChatStorage) (r : ChatMessageRecord) :
    (h.packet sa sb r).record = h.wire sa r := by
  unfold packet ChatManager.syncPacket
  split
  · rfl
  · split <;> rfl

theorem answer_eq (sa sb : ChatStorage) :
    h.answer sa sb = (sb.loadMissingMessages (h.targets.map h.bId).eraseDups (h.summary sa)).map
      (h.b.syncPacket h.path (h.request sa) h.bHall h.bNode h.aAddress) := by
  have hhall : (h.request sa).hallId = h.aHall := rfl
  have hip : (h.request sa).requesterVirtualIp = h.aNode.localVirtualIp := rfl
  unfold answer ChatManager.answer ChatManager.handleSyncRequest
  rw [h.platform_eq, hip, if_pos h.address_a, hhall, h.resolve_b, map_bId]
  rfl

/-- The messages of the conversations with a number that `a` is not taken to know. -/
theorem mem_answer {sb : ChatStorage} (hsize : ∀ t ∈ h.targets,
      (sb.messages.rows.filter (·.conversationId == h.bId t)).length ≤ 1000) {p : ChatPacket} :
    p ∈ h.answer sa sb ↔ ∃ t ∈ h.targets, ∃ r ∈ sb.messages.rows, r.conversationId = h.bId t ∧
      (h.summary sa).known (h.bId t) r.senderVirtualIp < r.senderSeq ∧ p = h.packet sa sb r := by
  have hsize' : ∀ id ∈ (h.targets.map h.bId).eraseDups,
      (sb.messages.rows.filter (·.conversationId == id)).length ≤ 1000 := by
    intro id hid
    obtain ⟨t, ht, rfl⟩ := List.mem_map.mp (List.mem_eraseDups.mp hid)
    exact hsize t ht
  rw [answer_eq, List.mem_map]
  constructor
  · rintro ⟨x, hx, rfl⟩
    obtain ⟨hm, hid, ha, hknown⟩ := (ChatStorage.mem_loadMissingMessages hsize').mp hx
    obtain ⟨t, ht, he⟩ := List.mem_map.mp (List.mem_eraseDups.mp hid)
    refine ⟨t, ht, x.1, hm, he.symm, ?_, ?_⟩
    · rw [he]
      exact hknown
    · rw [packet, ← ha]
  · rintro ⟨t, ht, r, hr, hid, hknown, rfl⟩
    refine ⟨(r, sb.attachmentOf r), ?_, rfl⟩
    refine (ChatStorage.mem_loadMissingMessages hsize').mpr ⟨hr, ?_, rfl, ?_⟩
    · rw [List.mem_eraseDups, hid]
      exact List.mem_map_of_mem ht
    · rw [hid]
      exact hknown

/-! ## What `a` has -/

end SameHall

/-- What is the same of a message on both devices, if its conversation has the same id. -/
def ChatMessageRecord.content (m : ChatMessageRecord) :
    String × (String × String × Int) × String :=
  (m.id, m.key, m.text)

namespace ChatStorage

variable (s : ChatStorage) (c : String × (String × String × Int) × String)

/-- A stored message has this content. -/
def Holds : Prop := ∃ m ∈ s.messages.rows, m.content = c

instance : Decidable (s.Holds c) := inferInstanceAs (Decidable (∃ _ ∈ _, _))

/-- The device has deleted the message with this id. -/
def HasDeleted (id : String) : Prop := ∃ d ∈ s.deletedMessages.rows, d.messageId = id

instance (id : String) : Decidable (s.HasDeleted id) := inferInstanceAs (Decidable (∃ _ ∈ _, _))

/-- `isMessageDeleted` of a message with this content. -/
def refuses : Bool := s.deletedMessages.rows.any fun d => d.messageId == c.1 || d.key == c.2.1

variable {s c}

theorem isMessageDeleted_eq_refuses (m : ChatMessageRecord) :
    s.isMessageDeleted m = s.refuses m.content := rfl

/-- What is stored after one more message: the others that do not have to go, and this one. -/
theorem holds_store {e : ChatManager} {m : ChatMessageRecord}
    {attachment : Option ChatAttachmentRecord} (hd : s.isMessageDeleted m = false) :
    (e.store s m attachment).Holds c ↔
      (∃ x ∈ s.messages.rows, x.content = c ∧ messagesSchema.clash x m = false) ∨
        m.content = c := by
  have hup : (e.store s m attachment).Holds c ↔ (e.upserted s m attachment).Holds c := by
    unfold Holds
    simp only [ChatManager.mem_store]
    split
    · -- Messages that are marked as read keep their content.
      constructor
      · rintro ⟨x, ⟨hx, -⟩ | ⟨q, hq, -, -, rfl⟩, hc⟩
        · exact ⟨x, hx, hc⟩
        · exact ⟨q, hq, hc⟩
      · rintro ⟨x, hx, hc⟩
        by_cases hin : x.conversationId = m.conversationId ∧ x.direction = .incoming
        · exact ⟨{ x with isRead := true }, .inr ⟨x, hx, hin.1, hin.2, rfl⟩, hc⟩
        · exact ⟨x, .inl ⟨hx, hin⟩, hc⟩
    · exact Iff.rfl
  rw [hup, Holds]
  simp only [ChatManager.mem_upserted hd]
  constructor
  · rintro ⟨x, ⟨hx, hclash⟩ | rfl, hc⟩
    · exact .inl ⟨x, hx, hc, hclash⟩
    · exact .inr hc
  · rintro (⟨x, hx, hc, hclash⟩ | hc)
    · exact ⟨x, .inl ⟨hx, hclash⟩, hc⟩
    · exact ⟨_, .inr rfl, hc⟩

end ChatStorage

namespace SameHall

variable (h : SameHall)

/-- The message as it is on `a`. -/
def copy (t : SyncTarget) (r : ChatMessageRecord) : String × (String × String × Int) × String :=
  (r.id, (h.aId t, r.senderVirtualIp, r.senderSeq), r.text)

/-- A text message that `b` itself sent to the conversation. -/
structure Own (t : SyncTarget) (r : ChatMessageRecord) : Prop where
  sender : r.senderVirtualIp = h.bIp
  conversationId : r.conversationId = h.bId t
  type : r.conversationType = t.type
  hallId : r.hallId = h.bHall
  roomId : t.type = .room → r.roomId = none ∨ r.roomId = some r.conversationId
  attachmentId : r.attachmentId = none
  senderSeq : 0 < r.senderSeq

variable {h} {sa sb s : ChatStorage} {t t' : SyncTarget} {r r' : ChatMessageRecord}

theorem wire_fields (sa : ChatStorage) (r : ChatMessageRecord) :
    (h.wire sa r).id = r.id ∧ (h.wire sa r).senderVirtualIp = r.senderVirtualIp ∧
      (h.wire sa r).senderSeq = r.senderSeq ∧ (h.wire sa r).text = r.text ∧
      (h.wire sa r).conversationType = r.conversationType := by
  unfold wire ChatManager.syncMessage
  split <;> exact ⟨rfl, rfl, rfl, rfl, rfl⟩

theorem Own.wire_hallId (hr : h.Own t r) : (h.wire sa r).hallId = h.aHall := by
  unfold wire ChatManager.syncMessage
  split
  · rename_i heq
    exact hr.hallId.trans heq.symm
  · rfl

/-- The id of a room that a message has when it arrives. -/
theorem Own.wire_roomId {c k : String} (hr : h.Own (.room c k) r) (hroom : (c, k) ∈ h.rooms)
    (sa : ChatStorage) :
    ∃ hall, h.a.platform.IsHallId hall ∧
      (h.wire sa r).roomId.or (some (h.wire sa r).conversationId) =
        some (h.a.platform.buildRoomId hall c k) := by
  have hid : r.conversationId = h.a.platform.buildRoomId h.bHall c k := hr.conversationId
  have hlegacy : ∀ {hall : String}, h.a.platform.IsHallId hall →
      h.a.platform.legacyRoomIdForHallAlias (some (h.a.platform.buildRoomId hall c k)) h.aHall =
        some (h.a.platform.buildRoomId h.aHall c k) := by
    intro hall hhall
    refine (h.lawful.roomIdFor_room _ hhall.normalize_ne (h.room_name _ hroom)).trans ?_
    rw [Platform.buildLegacyRoomId, Platform.buildRoomId, h.hall_a.normal]
  unfold wire ChatManager.syncMessage
  split
  · refine ⟨h.bHall, h.hall_b, ?_⟩
    rcases hr.roomId rfl with hn | hn <;> simp [hn, hid]
  · refine ⟨h.aHall, h.hall_a, ?_⟩
    have htype : r.conversationType = .room := hr.type
    rcases hr.roomId rfl with hn | hn
    · have hnone : h.a.platform.legacyRoomIdForHallAlias none h.aHall = none := rfl
      simp [messageForHallAlias, legacyConversationIdForHallAlias, htype, hn, hid, h.platform_eq,
        request, ChatManager.syncRequest, hnone, hlegacy h.hall_b]
    · simp [messageForHallAlias, legacyConversationIdForHallAlias, htype, hn, hid, h.platform_eq,
        request, ChatManager.syncRequest, hlegacy h.hall_b]

/-- `a` finds its own conversation for the message. -/
theorem Own.canonicalize (hr : h.Own t r) (ht : t ∈ h.targets) (sa : ChatStorage) :
    (h.a.canonicalize (h.wire sa r) h.aHall h.aNode).content = h.copy t r ∧ (t.type = .room →
        (h.a.canonicalize (h.wire sa r) h.aHall h.aNode).roomId = some (h.aId t)) := by
  obtain ⟨hid, hsender, hseq, htext, htype⟩ := wire_fields (h := h) sa r
  rw [hr.type] at htype
  have hcopy : ∀ {id : String}, id = h.aId t →
      (r.id, (id, r.senderVirtualIp, r.senderSeq), r.text) = h.copy t r := by
    rintro id rfl
    rfl
  unfold ChatMessageRecord.content ChatMessageRecord.key ChatManager.canonicalize
  rw [hid, hsender, hseq, htext, htype]
  simp only [targets, List.mem_cons, List.mem_map] at ht
  rcases ht with rfl | rfl | ⟨⟨c, k⟩, hroom, rfl⟩
  · exact ⟨hcopy rfl, nofun⟩
  · refine ⟨hcopy ?_, nofun⟩
    rw [hr.sender]
    rfl
  · obtain ⟨hall, hhall, hor⟩ := hr.wire_roomId hroom sa
    have hcan := canonicalRoomId_room hroom hhall h.aHall
    simp only [SyncTarget.type, if_true, hor, hcan, Option.getD_some]
    exact ⟨hcopy rfl, fun _ => rfl⟩

/-- `a` takes the message if it did not delete it. -/
theorem Own.accepts (hr : h.Own t r) (ht : t ∈ h.targets) (sa s : ChatStorage) :
    ∃ m, m.content = h.copy t r ∧ h.a.accepts s (h.wire sa r) =
      if s.refuses (h.copy t r) then none else some m := by
  obtain ⟨hcontent, hroomId⟩ := hr.canonicalize ht sa
  refine ⟨_, hcontent, ?_⟩
  unfold ChatManager.accepts
  rw [hr.wire_hallId, h.resolve_a]
  dsimp only
  rw [ChatStorage.isMessageDeleted_eq_refuses, hcontent]
  have hjoined : ¬ ((h.a.canonicalize (h.wire sa r) h.aHall h.aNode).conversationType = .room ∧
      ¬ h.a.rooms.any (fun x => x.roomId ==
        (h.a.canonicalize (h.wire sa r) h.aHall h.aNode).roomId.getD
          (h.a.canonicalize (h.wire sa r) h.aHall h.aNode).conversationId &&
        x.locallyJoined) = true) := by
    rintro ⟨htype, hnot⟩
    have htype' : t.type = .room := by
      rw [← hr.type, ← (wire_fields (h := h) sa r).2.2.2.2]
      exact htype
    rw [hroomId htype'] at hnot
    simp only [targets, List.mem_cons, List.mem_map] at ht
    rcases ht with rfl | rfl | ⟨x, hx, rfl⟩
    · cases htype'
    · cases htype'
    · exact hnot (h.room_joined x hx)
  rw [if_neg hjoined]

theorem Own.packet_eq (hr : h.Own t r) : h.packet sa sb r = .message (h.wire sa r) none := by
  unfold packet ChatManager.syncPacket ChatStorage.attachmentOf
  rw [hr.attachmentId]
  rfl

/-- The packet of a message of `b`. -/
theorem Own.process (hr : h.Own t r) (ht : t ∈ h.targets) (sa sb s : ChatStorage) :
    ∃ m, m.content = h.copy t r ∧ h.a.process h.bAddress s (h.packet sa sb r) =
        if s.refuses (h.copy t r) then s else h.a.store s m none := by
  obtain ⟨m, hm, hacc⟩ := hr.accepts ht sa s
  refine ⟨m, hm, ?_⟩
  have hauth : h.a.authentic h.bAddress (.message (h.wire sa r) none) = true := by
    unfold ChatManager.authentic ChatPacket.record
    rw [(wire_fields (h := h) sa r).2.1, hr.sender]
    exact h.address_b
  rw [hr.packet_eq]
  unfold ChatManager.process
  rw [if_pos hauth]
  unfold ChatManager.handleIncomingMessage ChatPacket.record
  rw [hacc]
  cases s.refuses (h.copy t r) <;> rfl

variable (h sb) in
/-- The messages of `b` in the conversations are its own texts. -/
def OwnRows : Prop :=
  ∀ r ∈ sb.messages.rows, r.senderVirtualIp = h.bIp → ∀ t ∈ h.targets,
    r.conversationId = h.bId t → h.Own t r

/-- The packet of another message does not touch the copy. -/
theorem holds_process_other (hown : h.OwnRows sb) (ht : t ∈ h.targets) (hr : h.Own t r)
    (hmem : r ∈ sb.messages.rows) (ht' : t' ∈ h.targets) (hmem' : r' ∈ sb.messages.rows)
    (hid' : r'.conversationId = h.bId t') (hne : r' ≠ r) :
    (h.a.process h.bAddress s (h.packet sa sb r')).Holds (h.copy t r) ↔ s.Holds (h.copy t r) := by
  have hids : r'.id ≠ r.id := fun he =>
    hne (sb.messages.eq_of_clash hmem' hmem (by simp [messagesSchema, he]))
  rcases ChatManager.process_cases (e := h.a) h.bAddress s (h.packet sa sb r') with
    he | ⟨m, attachment, hacc, he⟩
  · rw [he]
  · rw [he]
    rw [record_packet] at hacc
    obtain ⟨hd, hmid, hmsender⟩ := ChatManager.accepts_eq_some hacc
    obtain ⟨hwid, hwsender, hwseq, -⟩ := wire_fields (h := h) sa r'
    rw [hwid] at hmid
    rw [hwsender] at hmsender
    rw [ChatStorage.holds_store hd]
    constructor
    · rintro (⟨x, hx, hc, -⟩ | hc)
      · exact ⟨x, hx, hc⟩
      · exact absurd (hmid.symm.trans (congrArg Prod.fst hc)) hids
    · rintro ⟨x, hx, hc⟩
      refine .inl ⟨x, hx, hc, Bool.eq_false_iff.mpr fun hclash => ?_⟩
      simp only [messagesSchema, Bool.or_eq_true, beq_iff_eq] at hclash
      have hxid : x.id = r.id := congrArg Prod.fst hc
      have hxkey : x.key = (h.aId t, r.senderVirtualIp, r.senderSeq) := congrArg (·.2.1) hc
      rcases hclash with hid | hkey
      · exact hids (hmid.symm.trans (hid.symm.trans hxid))
      · -- The same number of the same sender in the same conversation.
        have hkey' : m.key = (h.aId t, r.senderVirtualIp, r.senderSeq) := hkey.symm.trans hxkey
        have hsender : r'.senderVirtualIp = h.bIp := by
          rw [← hmsender, ← hr.sender]
          exact congrArg (·.2.1) hkey'
        have hown' := hown r' hmem' hsender t' ht' hid'
        obtain ⟨m', hm', hacc'⟩ := hown'.accepts ht' sa s
        rw [hacc] at hacc'
        split at hacc'
        · cases hacc'
        · cases hacc'
          have hcopy : m.key = (h.aId t', r'.senderVirtualIp, r'.senderSeq) := congrArg (·.2.1) hm'
          rw [hkey'] at hcopy
          cases aId_inj ht ht' (congrArg Prod.fst hcopy)
          refine hne (sb.messages.eq_of_clash hmem' hmem ?_)
          have hseq : r.senderSeq = r'.senderSeq := congrArg (·.2.2) hcopy
          simp [messagesSchema, ChatMessageRecord.key, hid', hr.conversationId, hsender, hr.sender,
            hseq]

theorem deletedMessages_process (p : ChatPacket) :
    (h.a.process h.bAddress s p).deletedMessages = s.deletedMessages := by
  rcases ChatManager.process_cases (e := h.a) h.bAddress s p with he | ⟨m, attachment, -, he⟩
  · rw [he]
  · rw [he]
    exact ChatManager.deletedMessages_store

variable (h) in
/-- `b` itself has sent the message to the conversation. -/
def Sent (t : SyncTarget) (r : ChatMessageRecord) : Prop :=
  r.senderVirtualIp = h.bIp ∧ r.conversationId = h.bId t

instance : Decidable (h.Sent t r) := inferInstanceAs (Decidable (_ ∧ _))

variable (h sa sb) in
/-- `a` has all messages that `b` has sent and still stores, except those that `a` has deleted. -/
def Repaired : Prop :=
  ∀ t ∈ h.targets, ∀ r ∈ sb.messages.rows, h.Sent t r →
    sa.Holds (h.copy t r) ∨ sa.HasDeleted r.id

instance : Decidable (h.Repaired sa sb) := inferInstanceAs (Decidable (∀ _ ∈ _, ∀ _ ∈ _, _))

variable (h sa sb) in
/-- Each message that `a` misses came after all messages of `b` in its conversation that `a` has or
has deleted. -/
def LatestLost : Prop :=
  ∀ t ∈ h.targets, ∀ r ∈ sb.messages.rows, h.Sent t r →
    sa.Holds (h.copy t r) ∨ sa.HasDeleted r.id ∨
      ∀ n ∈ sa.senderSeqs (h.aId t) h.bIp, n < r.senderSeq

instance : Decidable (h.LatestLost sa sb) := inferInstanceAs (Decidable (∀ _ ∈ _, ∀ _ ∈ _, _))

/-- What one packet of the answer does for a message of `b`. -/
theorem holds_process_iff (hown : h.OwnRows sb) (ht : t ∈ h.targets) (hr : h.Own t r)
    (hmem : r ∈ sb.messages.rows) (ht' : t' ∈ h.targets) (hmem' : r' ∈ sb.messages.rows)
    (hid' : r'.conversationId = h.bId t') :
    (h.a.process h.bAddress s (h.packet sa sb r')).Holds (h.copy t r) ↔
      s.Holds (h.copy t r) ∨ r' = r ∧ s.refuses (h.copy t r) = false := by
  by_cases hne : r' = r
  · subst hne
    obtain ⟨m, hm, he⟩ := hr.process ht sa sb s
    rw [he]
    cases hf : s.refuses (h.copy t r') with
    | true => simp
    | false =>
      have hd : s.isMessageDeleted m = false := by
        rw [ChatStorage.isMessageDeleted_eq_refuses, hm, hf]
      rw [if_neg Bool.false_ne_true, ChatStorage.holds_store hd]
      exact iff_of_true (.inr hm) (.inr ⟨rfl, rfl⟩)
  · rw [holds_process_other hown ht hr hmem ht' hmem' hid' hne]
    simp [hne]

variable {packets : List ChatPacket}

/-- What all packets of the answer do for a message of `b`, in any order. -/
theorem holds_synced (hown : h.OwnRows sb) (hsize : ∀ t ∈ h.targets,
      (sb.messages.rows.filter (·.conversationId == h.bId t)).length ≤ 1000)
    (hp : packets.Perm (h.answer sa sb)) (ht : t ∈ h.targets)
    (hr : h.Own t r) (hmem : r ∈ sb.messages.rows) :
    (packets.foldl (h.a.process h.bAddress) sa).Holds (h.copy t r) ↔ sa.Holds (h.copy t r) ∨
        sa.refuses (h.copy t r) = false ∧ ∀ n ∈ sa.senderSeqs (h.aId t) h.bIp, n < r.senderSeq := by
  have hpacket : ∀ {p}, p ∈ packets ↔ ∃ t ∈ h.targets, ∃ r ∈ sb.messages.rows,
      r.conversationId = h.bId t ∧
        (h.summary sa).known (h.bId t) r.senderVirtualIp < r.senderSeq ∧
          p = h.packet sa sb r := by
    intro p
    rw [hp.mem_iff]
    exact mem_answer hsize
  have hinj : ∀ r' ∈ sb.messages.rows, h.packet sa sb r' = h.packet sa sb r → r' = r := by
    intro r' hmem' he
    have hid := congrArg (fun p => p.record.id) he
    simp only [record_packet, (wire_fields (h := h) sa _).1] at hid
    exact sb.messages.eq_of_clash hmem' hmem (by simp [messagesSchema, hid])
  have hstep : ∀ s : ChatStorage, s.deletedMessages = sa.deletedMessages → ∀ p ∈ packets,
      (h.a.process h.bAddress s p).deletedMessages = sa.deletedMessages ∧
        ((h.a.process h.bAddress s p).Holds (h.copy t r) ↔
          s.Holds (h.copy t r) ∨
            p = h.packet sa sb r ∧ sa.refuses (h.copy t r) = false) := by
    intro s hs p hpm
    obtain ⟨t', ht', r', hmem', hid', -, rfl⟩ := hpacket.mp hpm
    refine ⟨(deletedMessages_process _).trans hs, ?_⟩
    have hrefuses : s.refuses (h.copy t r) = sa.refuses (h.copy t r) := by
      rw [ChatStorage.refuses, ChatStorage.refuses, hs]
    rw [holds_process_iff hown ht hr hmem ht' hmem' hid', hrefuses]
    have hiff : r' = r ↔ h.packet sa sb r' = h.packet sa sb r :=
      ⟨fun he => by rw [he], hinj r' hmem'⟩
    rw [hiff]
  have hfold := Sys.foldl_iff (I := fun s : ChatStorage => s.deletedMessages = sa.deletedMessages)
    (Q := fun s : ChatStorage => s.Holds (h.copy t r)) hstep rfl
  refine hfold.trans (or_congr_right ⟨?_, ?_⟩)
  · rintro ⟨p, hpm, rfl, hf⟩
    obtain ⟨t', ht', r', hmem', hid', hknown, he⟩ := hpacket.mp hpm
    cases hinj r' hmem' he.symm
    cases bId_inj ht ht' (hr.conversationId.symm.trans hid')
    rw [hr.sender, known_summary_lt ht hr.senderSeq] at hknown
    exact ⟨hf, hknown⟩
  · rintro ⟨hf, hlatest⟩
    refine ⟨_, hpacket.mpr ⟨t, ht, r, hmem, hr.conversationId, ?_, rfl⟩, rfl, hf⟩
    rw [hr.sender, known_summary_lt ht hr.senderSeq]
    exact hlatest

/-- A message above all numbers that `a` knows is refused only if `a` has deleted it. -/
theorem refuses_of_latest (hr : h.Own t r)
    (hlatest : ∀ n ∈ sa.senderSeqs (h.aId t) h.bIp, n < r.senderSeq)
    (hkept : ¬ sa.HasDeleted r.id) : sa.refuses (h.copy t r) = false := by
  refine List.any_eq_false.mpr fun d hd hmark => ?_
  simp only [copy, Bool.or_eq_true, beq_iff_eq] at hmark
  rcases hmark with hid | hkey
  · exact hkept ⟨d, hd, hid⟩
  · have hseq : d.senderSeq = r.senderSeq := congrArg (·.2.2) hkey
    have hn : d.senderSeq ∈ sa.senderSeqs (h.aId t) h.bIp := by
      refine List.mem_append_right _ (List.mem_map.mpr ⟨d, List.mem_filter.mpr ⟨hd, ?_⟩, rfl⟩)
      have hconv : d.conversationId = h.aId t := congrArg Prod.fst hkey
      have hsender : d.senderVirtualIp = r.senderVirtualIp := congrArg (·.2.1) hkey
      simp [hconv, hsender, hr.sender]
    have := hlatest _ hn
    omega

/-- `a` has all messages of `b` afterwards exactly if each message that it missed came after all
those that it had. -/
theorem repaired_iff_latestLost (hown : h.OwnRows sb) (hsize : ∀ t ∈ h.targets,
      (sb.messages.rows.filter (·.conversationId == h.bId t)).length ≤ 1000)
    (hp : packets.Perm (h.answer sa sb)) :
    h.Repaired (packets.foldl (h.a.process h.bAddress) sa) sb ↔ h.LatestLost sa sb := by
  have hdeleted : ∀ id, (packets.foldl (h.a.process h.bAddress) sa).HasDeleted id ↔
      sa.HasDeleted id := by
    intro id
    have he : (packets.foldl (h.a.process h.bAddress) sa).deletedMessages = sa.deletedMessages :=
      List.foldlRecOn (motive := fun s : ChatStorage => s.deletedMessages = sa.deletedMessages)
        packets _ rfl fun s hs p _ => (deletedMessages_process p).trans hs
    rw [ChatStorage.HasDeleted, he]
    rfl
  refine forall_congr' fun t => forall_congr' fun ht => forall_congr' fun r =>
    forall_congr' fun hmem => forall_congr' fun hsent => ?_
  have hr := hown r hmem hsent.1 t ht hsent.2
  rw [hdeleted, holds_synced hown hsize hp ht hr hmem]
  constructor
  · rintro ((hh | ⟨-, hlatest⟩) | hd)
    · exact .inl hh
    · exact .inr (.inr hlatest)
    · exact .inr (.inl hd)
  · rintro (hh | hd | hlatest)
    · exact .inl (.inl hh)
    · exact .inr hd
    · by_cases hd : sa.HasDeleted r.id
      · exact .inr hd
      · exact .inl (.inr ⟨refuses_of_latest hr hlatest hd, hlatest⟩)

end SameHall

end Chat

end Vntc
