import Mathlib.Data.List.Sort
import Vntc.Chat.Incoming

/-!
# Asking another device for missing messages

A device that comes back sends a `sync_request` with a summary: the highest number of each sender in
each conversation. The other device answers with the messages that have higher numbers
(`buildSummaryForConversations` and `loadMissingMessages` of `chat_storage.dart`,
`canonicalizeChatSyncSummary` and `_handleSyncRequest` of `chat_manager.dart`).

A summary is used only to ask whether what it knows is below a number, so the lemmas say this of
each way to make one.
-/

namespace Vntc

open Lib

namespace Chat

/-- The numbers of the senders, for each conversation of the summary. -/
structure ChatSyncSummary where
  senders : String → Option (String → Option Int)

structure ChatSyncRequestPayload where
  hallId : String
  requesterVirtualIp : String
  joinedRoomIds : List String
  summary : ChatSyncSummary

/-! ## Summaries -/

namespace ChatSyncSummary

def empty : ChatSyncSummary := ⟨fun _ => none⟩

/-- The number that `loadMissingMessages` compares with. -/
def known (x : ChatSyncSummary) (conversationId senderVirtualIp : String) : Int :=
  ((x.senders conversationId).bind fun numbers => numbers senderVirtualIp).getD 0

/-- The entry of a sender after another one was merged into it. -/
def newer : Option Int → Option Int → Option Int
  | known, none => known
  | none, some n => some n
  | some k, some n => if k < n then some n else some k

def mergeEntry (remote normalized : ChatSyncSummary) (sourceId targetId : String) :
    ChatSyncSummary :=
  match remote.senders sourceId with
  | none => normalized
  | some source => ⟨fun id =>
      if id = targetId then
        some fun sender =>
          newer ((normalized.senders targetId).bind fun target => target sender) (source sender)
      else normalized.senders id⟩

/-- The calls of `mergeEntry`, with their sources and targets. -/
def syncMerges (d : Platform) (incomingHallId localHallId localVirtualIp remoteVirtualIp : String)
    (incomingRoomIds canonicalRoomIds : List String) : List (String × String) :=
  let canonicalDirectId := d.buildDirectConversationId localHallId localVirtualIp remoteVirtualIp
  [(localHallId, localHallId), (incomingHallId, localHallId),
    (canonicalDirectId, canonicalDirectId),
    (d.buildLegacyDirectConversationId incomingHallId localVirtualIp remoteVirtualIp,
      canonicalDirectId)] ++
    incomingRoomIds.zipIdx.flatMap fun x =>
      let canonicalRoomId := canonicalRoomIds[x.2]?.getD x.1
      [(canonicalRoomId, canonicalRoomId), (x.1, canonicalRoomId)]

def canonicalizeChatSyncSummary (remote : ChatSyncSummary) (d : Platform)
    (incomingHallId localHallId localVirtualIp remoteVirtualIp : String)
    (incomingRoomIds canonicalRoomIds : List String) : ChatSyncSummary :=
  (syncMerges d incomingHallId localHallId localVirtualIp remoteVirtualIp incomingRoomIds
    canonicalRoomIds).foldl (fun normalized x => mergeEntry remote normalized x.1 x.2) empty

variable {remote x : ChatSyncSummary} {sourceId targetId id sender : String} {v : Int}

theorem newer_lt (hv : 0 < v) (a b : Option Int) :
    (newer a b).getD 0 < v ↔ a.getD 0 < v ∧ b.getD 0 < v := by
  cases a <;> cases b <;> simp only [newer, Option.getD_none, Option.getD_some]
  · exact ⟨fun h => ⟨h, h⟩, And.left⟩
  · exact ⟨fun h => ⟨hv, h⟩, And.right⟩
  · exact ⟨fun h => ⟨h, hv⟩, And.left⟩
  · split <;> rw [Option.getD_some] <;> omega

theorem known_mergeEntry_lt (hv : 0 < v) :
    (mergeEntry remote x sourceId targetId).known id sender < v ↔
      x.known id sender < v ∧ (targetId = id → remote.known sourceId sender < v) := by
  unfold mergeEntry
  cases hs : remote.senders sourceId with
  | none =>
    have hzero : remote.known sourceId sender = 0 := by
      rw [known, hs]
      rfl
    rw [hzero]
    exact ⟨fun h => ⟨h, fun _ => hv⟩, And.left⟩
  | some source =>
    have hsource : remote.known sourceId sender = (source sender).getD 0 := by
      rw [known, hs]
      rfl
    by_cases hid : targetId = id
    · subst hid
      simp only [known, if_true, Option.bind_some, forall_const]
      rw [newer_lt hv, hs, Option.bind_some]
    · simp only [known, Ne.symm hid, if_false, hid, false_imp_iff, and_true]

/-- The merged summary knows what the merged entries know. -/
theorem known_foldl_mergeEntry_lt (hv : 0 < v) (merges : List (String × String)) :
    (merges.foldl (fun y m => mergeEntry remote y m.1 m.2) x).known id sender < v ↔
      x.known id sender < v ∧ ∀ m ∈ merges, m.2 = id → remote.known m.1 sender < v := by
  induction merges generalizing x with
  | nil => simp
  | cons m merges ih =>
    rw [List.foldl_cons, ih, known_mergeEntry_lt hv, List.forall_mem_cons, and_assoc]

end ChatSyncSummary

/-! ## The database -/

namespace ChatStorage

variable (s : ChatStorage)

/-- `ORDER BY sent_at ASC, created_at ASC`. -/
def earlier (m m' : ChatMessageRecord) : Prop :=
  m.sentAt < m'.sentAt ∨ m.sentAt = m'.sentAt ∧ m.createdAt ≤ m'.createdAt

instance : DecidableRel earlier := fun _ _ => inferInstanceAs (Decidable (_ ∨ _))

def loadMessages (conversationId : String) (limit : Nat) :
    List (ChatMessageRecord × Option ChatAttachmentRecord) :=
  (((s.messages.rows.filter (·.conversationId == conversationId)).insertionSort earlier).take
    limit).map fun m => (m, s.attachmentOf m)

def buildSummaryForConversations (conversationIds : List String) : ChatSyncSummary :=
  ⟨fun id =>
    if conversationIds.contains id then
      some fun sender =>
        match s.senderSeqs id sender with
        | [] => none
        | n :: ns => some (sqlMax (n :: ns))
    else none⟩

def loadMissingMessages (conversationIds : List String) (remoteSummary : ChatSyncSummary) :
    List (ChatMessageRecord × Option ChatAttachmentRecord) :=
  conversationIds.flatMap fun id =>
    (s.loadMessages id 1000).filter fun x =>
      decide (remoteSummary.known id x.1.senderVirtualIp < x.1.senderSeq)

variable {s}

variable {v : Int} {conversationIds : List String}
  {x : ChatMessageRecord × Option ChatAttachmentRecord}

theorem sqlMax_cons_lt {n : Int} {ns : List Int} : sqlMax (n :: ns) < v ↔ ∀ k ∈ n :: ns, k < v := by
  show ns.foldl max n < v ↔ _
  induction ns generalizing n with
  | nil => simp
  | cons k ns ih =>
    rw [List.foldl_cons, ih]
    simp only [List.forall_mem_cons, max_lt_iff, and_assoc]

/-- What the summary of a database knows. -/
theorem known_buildSummary_lt {id sender : String} (hv : 0 < v) :
    (s.buildSummaryForConversations conversationIds).known id sender < v ↔
      (id ∈ conversationIds → ∀ n ∈ s.senderSeqs id sender, n < v) := by
  unfold ChatSyncSummary.known buildSummaryForConversations
  dsimp only
  by_cases hid : id ∈ conversationIds
  · rw [if_pos (List.contains_iff_mem.mpr hid), Option.bind_some]
    simp only [hid, forall_const]
    cases s.senderSeqs id sender with
    | nil => simpa using hv
    | cons n ns => exact sqlMax_cons_lt
  · rw [if_neg (by simpa using hid)]
    simpa [hid] using hv

theorem mem_loadMessages {conversationId : String} {limit : Nat}
    (hsize : (s.messages.rows.filter (·.conversationId == conversationId)).length ≤ limit) :
    x ∈ s.loadMessages conversationId limit ↔
      x.1 ∈ s.messages.rows ∧ x.1.conversationId = conversationId ∧ x.2 = s.attachmentOf x.1 := by
  unfold loadMessages
  rw [List.take_of_length_le (by rwa [List.length_insertionSort]), List.mem_map]
  simp only [List.mem_insertionSort, List.mem_filter, beq_iff_eq]
  constructor
  · rintro ⟨m, ⟨hm, hc⟩, rfl⟩
    exact ⟨hm, hc, rfl⟩
  · rintro ⟨hm, hc, ha⟩
    exact ⟨x.1, ⟨hm, hc⟩, Prod.ext rfl ha.symm⟩

/-- Which messages are missing, in conversations that are not longer than the limit. -/
theorem mem_loadMissingMessages {summary : ChatSyncSummary} (hsize : ∀ id ∈ conversationIds,
      (s.messages.rows.filter (·.conversationId == id)).length ≤ 1000) :
    x ∈ s.loadMissingMessages conversationIds summary ↔
      x.1 ∈ s.messages.rows ∧ x.1.conversationId ∈ conversationIds ∧ x.2 = s.attachmentOf x.1 ∧
        summary.known x.1.conversationId x.1.senderVirtualIp < x.1.senderSeq := by
  unfold loadMissingMessages
  rw [List.mem_flatMap]
  constructor
  · rintro ⟨id, hid, hx⟩
    obtain ⟨hx, hknown⟩ := List.mem_filter.mp hx
    obtain ⟨hm, rfl, ha⟩ := (mem_loadMessages (hsize id hid)).mp hx
    exact ⟨hm, hid, ha, of_decide_eq_true hknown⟩
  · rintro ⟨hm, hid, ha, hknown⟩
    refine ⟨_, hid, List.mem_filter.mpr ⟨?_, decide_eq_true hknown⟩⟩
    exact (mem_loadMessages (hsize _ hid)).mpr ⟨hm, rfl, ha⟩

end ChatStorage

/-! ## The request and its answer -/

/-- `_legacyConversationIdForHallAlias`. -/
def legacyConversationIdForHallAlias (d : Platform) (conversationId : String)
    (type : ChatConversationType) (aliasHallId : String) (node : LocalHallNode) (targetIp : String)
    (roomId : Option String) : String :=
  match type with
  | .hall => aliasHallId
  | .direct => d.buildLegacyDirectConversationId aliasHallId node.localVirtualIp targetIp
  | .room =>
      (d.legacyRoomIdForHallAlias (some (roomId.getD conversationId)) aliasHallId).getD
        conversationId

/-- `_messageForHallAlias`. -/
def messageForHallAlias (d : Platform) (m : ChatMessageRecord) (aliasHallId : String)
    (node : LocalHallNode) (targetIp : String) : ChatMessageRecord :=
  let roomId := d.legacyRoomIdForHallAlias m.roomId aliasHallId
  { m with
    conversationId := legacyConversationIdForHallAlias d m.conversationId m.conversationType
      aliasHallId node targetIp roomId
    hallId := aliasHallId
    roomId }

namespace ChatManager

variable (e : ChatManager)

/-- The `sync_request` that `_syncKnownPeers` sends to a device of the hall. -/
def syncRequest (s : ChatStorage) (hallId : String) (node : LocalHallNode)
    (joinedRoomIds : List String) (peerVirtualIp : String) : ChatSyncRequestPayload where
  hallId := hallId
  requesterVirtualIp := node.localVirtualIp
  joinedRoomIds := joinedRoomIds
  summary := s.buildSummaryForConversations (hallId ::
    e.platform.buildDirectConversationId hallId node.localVirtualIp peerVirtualIp :: joinedRoomIds)

/-- The message of an answer, under the hall of the request. -/
def syncMessage (p : ChatSyncRequestPayload) (localHallId : String) (node : LocalHallNode)
    (remoteIp : String) (m : ChatMessageRecord) : ChatMessageRecord :=
  if p.hallId = localHallId then { m with status := .sent }
  else messageForHallAlias e.platform { m with status := .sent } p.hallId node remoteIp

/-- A packet of an answer as it arrives, where `path` is the file that a stream is written to. -/
def syncPacket (path : String → String) (p : ChatSyncRequestPayload) (localHallId : String)
    (node : LocalHallNode) (remoteIp : String)
    (x : ChatMessageRecord × Option ChatAttachmentRecord) : ChatPacket :=
  let m := e.syncMessage p localHallId node remoteIp x.1
  match x.2 with
  | none => .message m none
  | some a =>
    if a.autoSyncEligible && a.payloadAvailable && e.fileExists a.relativePath then
      .attachmentStream m a (path m.id)
    else .message m (some { a with payloadAvailable := false, needsManualResend := true })

/-- `_handleSyncRequest`: the packets that are sent. -/
def handleSyncRequest (path : String → String) (s : ChatStorage) (p : ChatSyncRequestPayload)
    (remoteIp : String) : List ChatPacket :=
  match e.resolveLocalHallId p.hallId with
  | none => []
  | some (localHallId, node) =>
    let canonicalRoomIds := p.joinedRoomIds.filterMap fun roomId =>
      e.platform.canonicalRoomId (some roomId) localHallId
    let conversationIds := (localHallId :: e.platform.buildDirectConversationId localHallId
      node.localVirtualIp p.requesterVirtualIp :: canonicalRoomIds).eraseDups
    (s.loadMissingMessages conversationIds (p.summary.canonicalizeChatSyncSummary e.platform
      p.hallId localHallId node.localVirtualIp p.requesterVirtualIp p.joinedRoomIds
      canonicalRoomIds)).map (e.syncPacket path p localHallId node remoteIp)

/-- A `sync_request` from a connection. -/
def answer (path : String → String) (remoteAddress : String) (s : ChatStorage)
    (p : ChatSyncRequestPayload) : List ChatPacket :=
  if e.platform.isChatRemoteAddressConsistent remoteAddress p.requesterVirtualIp then
    e.handleSyncRequest path s p remoteAddress
  else []

end ChatManager

end Chat

end Vntc
