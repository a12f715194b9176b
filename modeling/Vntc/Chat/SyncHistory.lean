import Vntc.Lib.Sys
import Vntc.Chat.Tombstones
import Vntc.Chat.Resync

/-!
# Histories before a synchronisation

What the two devices did before `a` asks for the messages of `b` that it misses. `b` sends texts
with `sendText`: it reads a number, stores the message, sends it, and stores it again with its
status. A message that is sent may arrive at any time or never. Both devices also get messages of
others and delete messages, and earlier synchronisations may have lost packets.
-/

namespace Vntc

open Lib

namespace Chat

structure SyncState where
  a : ChatStorage
  b : ChatStorage
  /-- What `b` has read of `nextSenderSequence` and not used: conversation, sender and number. -/
  numbers : List (String × String × Int)
  /-- The messages that `b` has sent. -/
  sent : List ChatMessageRecord

/-- The manager `e` of an operation is that of the device at this time. -/
inductive SyncOp
  /-- `nextSenderSequence`. -/
  | number (conversation : ChatConversation)
  /-- The first `upsertMessage`. -/
  | store (conversation : ChatConversation) (id senderName text : String) (senderSeq now : Int)
  /-- A message of `b` reaches `a`. -/
  | deliver (e : ChatManager) (i : Nat)
  /-- The second `upsertMessage`, with the status. -/
  | finish (i : Nat) (status : ChatMessageStatus)
  /-- `b` gets a packet of another device. -/
  | receiveB (e : ChatManager) (remoteAddress : String) (p : ChatPacket)
  | deleteB (op : ChatStorage.ChatOp)
  | readB (conversationId : String) (now : Int)
  | receiveA (e : ChatManager) (remoteAddress : String) (p : ChatPacket)
  | sendA (m : ChatMessageRecord)
  | deleteA (op : ChatStorage.ChatOp)
  | readA (conversationId : String) (now : Int)
  /-- A synchronisation of which only these packets of the answer arrive. -/
  | resync (e : ChatManager) (arrived : List Nat)

/-- The message of `sendText`. -/
def textMessage (conversation : ChatConversation) (id senderVirtualIp senderName text : String)
    (senderSeq now : Int) : ChatMessageRecord where
  id := id
  conversationId := conversation.id
  hallId := conversation.hallId
  conversationType := conversation.type
  senderVirtualIp := senderVirtualIp
  senderName := senderName
  senderSeq := senderSeq
  direction := .outgoing
  contentType := .text
  status := .sending
  text := text
  peerVirtualIp := conversation.peerVirtualIp
  roomId := conversation.roomId
  attachmentId := none
  isSyncMessage := false
  isRead := true
  sentAt := now
  createdAt := now
  metadataJson := "\x7b\x7d"

namespace SameHall

variable (h : SameHall)

/-- The address of `b` in the hall of a conversation, if it is online there. -/
def senderOf (conversation : ChatConversation) : Option String :=
  (h.b.localNodes.find? (·.1 == conversation.hallId)).map (·.2.localVirtualIp)

/-- A conversation of `b` with the id of one of both devices is this one. -/
def Fits (conversation : ChatConversation) : Prop :=
  ∀ t ∈ h.targets, conversation.id = h.bId t →
    conversation.type = t.type ∧ conversation.hallId = h.bHall ∧
      (t.type = .room →
        conversation.roomId = none ∨ conversation.roomId = some conversation.id)

instance (conversation : ChatConversation) : Decidable (h.Fits conversation) :=
  inferInstanceAs (Decidable (∀ _ ∈ _, _))

end SameHall

namespace SyncState

variable (h : SameHall) (s : SyncState)

def apply : SyncOp → SyncState
  | .number conversation =>
    match h.senderOf conversation with
    | none => s
    | some ip => { s with
        numbers := (conversation.id, ip, s.b.nextSenderSequence conversation.id ip) :: s.numbers }
  | .store conversation id senderName text senderSeq now =>
    match h.senderOf conversation with
    | none => s
    | some ip =>
      if s.numbers.contains (conversation.id, ip, senderSeq) = true ∧ h.Fits conversation then
        let m := textMessage conversation id ip senderName text senderSeq now
        { s with
          b := s.b.upsertMessage m none false
          numbers := s.numbers.erase (conversation.id, ip, senderSeq)
          sent := m :: s.sent }
      else s
  | .deliver e i =>
    match s.sent[i]? with
    | none => s
    | some m => { s with
        a := e.process h.bAddress s.a (.message { m with status := .sent } none) }
  | .finish i status =>
    match s.sent[i]? with
    | none => s
    | some m => { s with b := s.b.upsertMessage { m with status } none false }
  | .receiveB e remoteAddress p =>
    if p.record.senderVirtualIp = h.bIp then s
    else { s with b := e.process remoteAddress s.b p }
  | .deleteB op => if op.deletes then { s with b := s.b.apply op } else s
  | .readB conversationId now => { s with b := s.b.markConversationRead conversationId now }
  | .receiveA e remoteAddress p => { s with a := e.process remoteAddress s.a p }
  | .sendA m => { s with a := s.a.upsertMessage m none false }
  | .deleteA op => if op.deletes then { s with a := s.a.apply op } else s
  | .readA conversationId now => { s with a := s.a.markConversationRead conversationId now }
  | .resync e arrived => { s with
      a := (arrived.filterMap fun i => (h.answer s.a s.b)[i]?).foldl (e.process h.bAddress) s.a }

/-- At first `b` has sent nothing. -/
def sys : Sys SyncState SyncOp :=
  .ofFun (fun s => (∀ r ∈ s.b.messages.rows, r.senderVirtualIp ≠ h.bIp) ∧
    (∀ d ∈ s.b.deletedMessages.rows, d.senderVirtualIp ≠ h.bIp) ∧ s.numbers = [] ∧ s.sent = [])
    (apply h)

end SyncState

/-! ## Rows of a store -/

namespace ChatStorage

variable {s : ChatStorage} {P : ChatMessageRecord → Prop} {D : DeletedMessage → Prop}

theorem forall_upsertMessage (hs : ∀ r ∈ s.messages.rows, P r) {m : ChatMessageRecord} (hm : P m)
    (attachment : Option ChatAttachmentRecord) (increment : Bool) :
    ∀ r ∈ (s.upsertMessage m attachment increment).messages.rows, P r := by
  rcases upsertMessage_cases (s := s) m attachment increment with he | ⟨-, he, -⟩
  · rw [he]
    exact hs
  · rw [he]
    intro r hr
    rcases Table.mem_insertOrReplace.mp hr with ⟨hr, -⟩ | rfl
    · exact hs r hr
    · exact hm

theorem deletedMessages_upsert (m : ChatMessageRecord) (attachment : Option ChatAttachmentRecord)
    (increment : Bool) :
    (s.upsertMessage m attachment increment).deletedMessages = s.deletedMessages := by
  rcases upsertMessage_cases (s := s) m attachment increment with he | ⟨-, -, he⟩
  · rw [he]
  · exact he

theorem forall_deletes {op : ChatOp} (hop : op.deletes = true) (hs : ∀ r ∈ s.messages.rows, P r) :
    ∀ r ∈ (s.apply op).messages.rows, P r := by
  rcases deletes_cases (s := s) hop with ⟨he, -⟩ | ⟨p, now, he, -⟩
  · rw [he]
    exact hs
  · rw [he]
    exact fun r hr => hs r (Table.mem_delete.mp hr).1

/-- The records after a deletion are old ones and those of messages. -/
theorem forall_deleted_deletes {op : ChatOp} (hop : op.deletes = true)
    (hs : ∀ d ∈ s.deletedMessages.rows, D d)
    (hm : ∀ r ∈ s.messages.rows, ∀ now, D (tombstone now r)) :
    ∀ d ∈ (s.apply op).deletedMessages.rows, D d := by
  rcases deletes_cases (s := s) hop with ⟨-, he⟩ | ⟨p, now, -, he⟩
  · rw [he]
    exact hs
  · rw [he]
    intro d hd
    rcases Table.mem_foldl_insertOrIgnore hd with hd | hd
    · exact hs d hd
    · obtain ⟨r, hr, rfl⟩ := List.mem_map.mp hd
      exact hm r (List.mem_filter.mp hr).1 now

theorem forall_markConversationRead (hs : ∀ r ∈ s.messages.rows, P r)
    (hread : ∀ r, P r → P { r with isRead := true }) (conversationId : String) (now : Int) :
    ∀ r ∈ (s.markConversationRead conversationId now).messages.rows, P r := by
  intro r hr
  rcases (ChatManager.mem_markConversationRead r).mp hr with ⟨hr, -⟩ | ⟨q, hq, -, -, rfl⟩
  · exact hs r hr
  · exact hread q (hs q hq)

theorem forall_process {e : ChatManager} {remoteAddress : String} {p : ChatPacket}
    (hs : ∀ r ∈ s.messages.rows, P r) (hread : ∀ r, P r → P { r with isRead := true })
    (hnew : ∀ m, m.senderVirtualIp = p.record.senderVirtualIp → P m) :
    ∀ r ∈ (e.process remoteAddress s p).messages.rows, P r := by
  rcases ChatManager.process_cases (e := e) remoteAddress s p with
    he | ⟨m, attachment, hacc, he⟩
  · rw [he]
    exact hs
  · rw [he]
    obtain ⟨hd, -, hsender⟩ := ChatManager.accepts_eq_some hacc
    have hup : ∀ r ∈ (e.upserted s m attachment).messages.rows, P r := by
      intro r hr
      rcases (ChatManager.mem_upserted hd r).mp hr with ⟨hr, -⟩ | rfl
      · exact hs r hr
      · exact hnew _ hsender
    unfold ChatManager.store
    split
    · exact forall_markConversationRead hup hread _ _
    · exact hup

end ChatStorage

/-! ## What `b` has sent -/

namespace SameHall

variable (h : SameHall)

/-- A message with the address of `b` has a number, and is one of `b` in its conversation. -/
def Good (m : ChatMessageRecord) : Prop :=
  m.senderVirtualIp = h.bIp → 0 < m.senderSeq ∧
    ∀ t ∈ h.targets, m.conversationId = h.bId t → h.Own t m

variable {h} {m : ChatMessageRecord}

theorem Good.read (hm : h.Good m) : h.Good { m with isRead := true } := by
  intro hsender
  obtain ⟨hseq, hown⟩ := hm hsender
  refine ⟨hseq, fun t ht hid => ?_⟩
  exact { hown t ht hid with }

theorem Good.status (hm : h.Good m) (status : ChatMessageStatus) : h.Good { m with status } := by
  intro hsender
  obtain ⟨hseq, hown⟩ := hm hsender
  refine ⟨hseq, fun t ht hid => ?_⟩
  exact { hown t ht hid with }

theorem Fits.good {conversation : ChatConversation} (hc : h.Fits conversation)
    {id ip senderName text : String} {senderSeq now : Int} (hseq : ip = h.bIp → 0 < senderSeq) :
    h.Good (textMessage conversation id ip senderName text senderSeq now) := by
  refine fun hsender => ⟨hseq hsender, fun t ht hid => ?_⟩
  obtain ⟨htype, hhall, hroom⟩ := hc t ht hid
  exact ⟨hsender, hid, htype, hhall, hroom, rfl, hseq hsender⟩

end SameHall

namespace SyncState

variable {h : SameHall} {s : SyncState}

/-- All messages that `b` has or had are its texts, with numbers. -/
structure Inv (h : SameHall) (s : SyncState) : Prop where
  rows : ∀ r ∈ s.b.messages.rows, h.Good r
  deleted : ∀ d ∈ s.b.deletedMessages.rows, d.senderVirtualIp = h.bIp → 0 < d.senderSeq
  sent : ∀ m ∈ s.sent, h.Good m
  numbers : ∀ k ∈ s.numbers, k.2.1 = h.bIp → 0 < k.2.2

/-- The next number of `b`. -/
theorem Inv.nextSenderSequence_pos (hs : Inv h s) (conversationId : String) :
    0 < s.b.nextSenderSequence conversationId h.bIp := by
  have hpos : ∀ n ∈ s.b.senderSeqs conversationId h.bIp, 0 < n := by
    intro n hn
    rcases List.mem_append.mp hn with hn | hn
    · obtain ⟨r, hr, rfl⟩ := List.mem_map.mp hn
      obtain ⟨hr, hk⟩ := List.mem_filter.mp hr
      simp only [Bool.and_eq_true, beq_iff_eq] at hk
      exact (hs.rows r hr hk.2).1
    · obtain ⟨d, hd, rfl⟩ := List.mem_map.mp hn
      obtain ⟨hd, hk⟩ := List.mem_filter.mp hd
      simp only [Bool.and_eq_true, beq_iff_eq] at hk
      exact hs.deleted d hd hk.2
  unfold ChatStorage.nextSenderSequence
  cases hseqs : s.b.senderSeqs conversationId h.bIp with
  | nil => exact Int.zero_lt_one
  | cons n ns =>
    rw [hseqs] at hpos
    have hn : 0 < n := hpos n List.mem_cons_self
    have hmax : ¬ ChatStorage.sqlMax (n :: ns) < n := by
      intro hlt
      exact absurd (ChatStorage.sqlMax_cons_lt.mp hlt n List.mem_cons_self) (lt_irrefl n)
    omega

/-- An operation of `b` that writes messages of `b` only if they are good. -/
theorem Inv.of_rows (hs : Inv h s) {b : ChatStorage} (hrows : ∀ r ∈ b.messages.rows, h.Good r)
    (hdeleted : b.deletedMessages = s.b.deletedMessages) : Inv h { s with b } where
  rows := hrows
  deleted d hd := hs.deleted d (by rwa [hdeleted] at hd)
  sent := hs.sent
  numbers := hs.numbers

/-- What `a` does is of no concern. -/
theorem Inv.of_a (hs : Inv h s) (a : ChatStorage) : Inv h { s with a } := { hs with }

theorem Inv.apply (hs : Inv h s) (op : SyncOp) : Inv h (s.apply h op) := by
  cases op with
  | number conversation =>
    simp only [SyncState.apply]
    split
    · exact hs
    · rename_i ip hip
      refine { hs with numbers := fun k hk hsender => ?_ }
      rcases List.mem_cons.mp hk with rfl | hk
      · have hb : ip = h.bIp := hsender
        subst hb
        exact hs.nextSenderSequence_pos _
      · exact hs.numbers k hk hsender
  | store conversation id senderName text senderSeq now =>
    simp only [SyncState.apply]
    split
    · exact hs
    · rename_i ip hip
      split
      · rename_i hc
        have hmem := List.contains_iff_mem.mp hc.1
        have hgood : h.Good (textMessage conversation id ip senderName text senderSeq now) :=
          hc.2.good (hs.numbers _ hmem)
        have hb := hs.of_rows (ChatStorage.forall_upsertMessage hs.rows hgood none false)
          (ChatStorage.deletedMessages_upsert _ _ _)
        refine { hb with sent := fun m hm => ?_, numbers := fun k hk => ?_ }
        · rcases List.mem_cons.mp hm with rfl | hm
          · exact hgood
          · exact hs.sent m hm
        · exact hs.numbers k (List.mem_of_mem_erase hk)
      · exact hs
  | deliver e i =>
    simp only [SyncState.apply]
    split
    · exact hs
    · exact hs.of_a _
  | finish i status =>
    simp only [SyncState.apply]
    split
    · exact hs
    · rename_i m hm
      have hgood := (hs.sent m (List.mem_of_getElem? hm)).status status
      exact hs.of_rows (ChatStorage.forall_upsertMessage hs.rows hgood _ _)
        (ChatStorage.deletedMessages_upsert _ _ _)
  | receiveB e remoteAddress p =>
    simp only [SyncState.apply]
    split
    · exact hs
    · rename_i hother
      refine hs.of_rows ?_ ?_
      · refine ChatStorage.forall_process hs.rows (fun r hr => hr.read) fun m hm hsender => ?_
        exact absurd (hm.symm.trans hsender) hother
      · rcases ChatManager.process_cases (e := e) remoteAddress s.b p with he | ⟨m, a, -, he⟩
        · rw [he]
        · rw [he]
          exact ChatManager.deletedMessages_store
  | deleteB op =>
    simp only [SyncState.apply]
    split
    · rename_i hop
      refine { hs with rows := ?_, deleted := ?_ }
      · exact ChatStorage.forall_deletes hop hs.rows
      · refine ChatStorage.forall_deleted_deletes hop hs.deleted fun r hr now hsender => ?_
        exact (hs.rows r hr hsender).1
    · exact hs
  | readB conversationId now =>
    exact hs.of_rows (ChatStorage.forall_markConversationRead hs.rows (fun r hr => hr.read) _ _) rfl
  | receiveA | sendA | readA | resync => exact hs.of_a _
  | deleteA op =>
    simp only [SyncState.apply]
    split
    · exact hs.of_a _
    · exact hs

theorem inv_of_reach (hr : (sys h).Reach s) : Inv h s := by
  refine hr.invariant (I := Inv h) ?_ ?_
  · rintro s ⟨hrows, hdeleted, hnumbers, hsent⟩
    refine ⟨fun r hr hsender => absurd hsender (hrows r hr),
      fun d hd hsender => absurd hsender (hdeleted d hd), ?_, ?_⟩
    · rw [hsent]
      exact fun m hm => absurd hm List.not_mem_nil
    · rw [hnumbers]
      exact fun k hk => absurd hk List.not_mem_nil
  · rintro s op s' hs rfl
    exact hs.apply op

/-- After every history with conversations of at most 1000 messages, and whatever the order in which
the packets of the answer arrive: `a` has all messages that `b` sent and still stores, except those
that `a` deleted, exactly if each message that `a` missed came after all those of `b` that it had in
the conversation. -/
theorem repaired_iff (hr : (sys h).Reach s)
    (hsize : ∀ t ∈ h.targets,
      (s.b.messages.rows.filter (·.conversationId == h.bId t)).length ≤ 1000)
    {packets : List ChatPacket} (hp : packets.Perm (h.answer s.a s.b)) :
    h.Repaired (packets.foldl (h.a.process h.bAddress) s.a) s.b ↔ h.LatestLost s.a s.b := by
  have hown : h.OwnRows s.b := fun r hmem hsender t ht hid =>
    ((inv_of_reach hr).rows r hmem hsender).2 t ht hid
  exact SameHall.repaired_iff_latestLost hown hsize hp

/-! ## Two messages to the hall -/

theorem lawful_ipv4Platform : ChatManager.ipv4Platform.Lawful where
  le_total x y := by
    simp only [ChatManager.ipv4Platform, decide_eq_true_eq]
    exact String.le_total x y
  le_antisymm x y hxy hyx := by
    simp only [ChatManager.ipv4Platform, decide_eq_true_eq] at hxy hyx
    exact String.le_antisymm hxy hyx
  trim_room _ _ _ _ := rfl

/-- The devices `10.0.0.1` and `10.0.0.2` in the hall, with a room of the second one. -/
def twoDevices : SameHall where
  a := { ChatManager.device with rooms := [⟨"room:hall:test:10.0.0.2:r1", "r1", true⟩] }
  b := { ChatManager.device with localNodes := [("hall:test", ⟨"10.0.0.2", []⟩)] }
  aHall := "hall:test"
  bHall := "hall:test"
  aNode := ⟨"10.0.0.1", []⟩
  bNode := ⟨"10.0.0.2", []⟩
  aAddress := "10.0.0.1"
  bAddress := "10.0.0.2"
  rooms := [("10.0.0.2", "r1")]
  path id := id
  platform_eq := rfl
  lawful := lawful_ipv4Platform
  hall_a := ⟨by decide +kernel, by decide +kernel⟩
  hall_b := ⟨by decide +kernel, by decide +kernel⟩
  ip_a := by decide +kernel
  ip_b := by decide +kernel
  resolve_a := by rfl
  resolve_b := by rfl
  address_a := by decide +kernel
  address_b := by decide +kernel
  room_name := by
    intro r hr
    cases List.mem_singleton.mp hr
    exact ⟨by decide +kernel, by decide +kernel, by decide +kernel, by decide +kernel,
      by decide +kernel⟩
  room_joined := by decide +kernel

/-- The hall on `b`. -/
def hallConversation : ChatConversation where
  id := "hall:test"
  type := .hall
  hallId := "hall:test"
  title := "test"
  unreadCount := 0
  lastReadAt := 0
  lastMessageAt := 0
  updatedAt := 0
  metadataJson := "\x7b\x7d"
  peerVirtualIp := none
  peerDisplayName := none
  roomId := none

def newHall : SyncState := ⟨.init, .init, [], []⟩

theorem init_newHall : (sys twoDevices).init newHall :=
  ⟨fun _ hr => absurd hr List.not_mem_nil, fun _ hd => absurd hd List.not_mem_nil, rfl, rfl⟩

/-- `b` sends two messages. -/
def sendTwo : List SyncOp :=
  [.number hallConversation, .store hallConversation "m1" "b" "first" 1 1000,
    .number hallConversation, .store hallConversation "m2" "b" "second" 2 1001]

/-- Only the first message arrives. -/
def secondLost : SyncState :=
  (sendTwo ++ [SyncOp.deliver twoDevices.a 1]).foldl (apply twoDevices) newHall

/-- Only the second message arrives. -/
def firstLost : SyncState :=
  (sendTwo ++ [SyncOp.deliver twoDevices.a 0]).foldl (apply twoDevices) newHall

theorem repaired_iff_secondLost :
    twoDevices.Repaired ((twoDevices.answer secondLost.a secondLost.b).foldl
      (twoDevices.a.process twoDevices.bAddress) secondLost.a) secondLost.b :=
  (repaired_iff (Sys.Reach.foldl (Sys.Reach.init init_newHall) _) (by decide +kernel)
    (List.Perm.refl _)).mpr (by decide +kernel)

/-- The summary of `a` has the number of the second message, and `b` sends nothing. -/
theorem gap_stays :
    (sys twoDevices).Reach firstLost ∧
      firstLost.b.messages.rows.map (·.id) = ["m1", "m2"] ∧
      firstLost.a.messages.rows.map (·.id) = ["m2"] ∧
      firstLost.a.deletedMessages.rows = [] ∧
      twoDevices.answer firstLost.a firstLost.b = [] ∧
      ¬ twoDevices.Repaired ((twoDevices.answer firstLost.a firstLost.b).foldl
        (twoDevices.a.process twoDevices.bAddress) firstLost.a) firstLost.b :=
  ⟨Sys.Reach.foldl (Sys.Reach.init init_newHall) _, by decide +kernel, by decide +kernel,
    by decide +kernel, List.length_eq_zero_iff.mp (by decide +kernel), by decide +kernel⟩

end SyncState

end Chat

end Vntc
