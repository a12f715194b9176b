import Vntc.Lib.Sys
import Vntc.Chat.Storage

/-!
# Deleted messages stay deleted

A deleted message leaves a record with its id and its number. A message that has one of the two is
not stored again. The record itself is inserted with `OR IGNORE`, so it is lost if another record
has its number already.
-/

namespace Vntc

open Lib

namespace Chat

namespace ChatStorage

inductive ChatOp
  | upsertMessage (m : ChatMessageRecord) (attachment : Option ChatAttachmentRecord)
      (incrementUnread : Bool)
  | deleteMessage (messageId : String) (now : Int)
  | clearConversationMessages (conversationId : String) (now : Int)
  | deleteConversation (conversationId : String) (now : Int)
  | upsertConversation (conversation : ChatConversation)
  | mergeConversationAlias (sourceId : String) (target : ChatConversation)

def ChatOp.deletes : ChatOp → Bool
  | .deleteMessage _ _ | .clearConversationMessages _ _ | .deleteConversation _ _ => true
  | _ => false

variable (s : ChatStorage)

def apply : ChatOp → ChatStorage
  | .upsertMessage m attachment incrementUnread => s.upsertMessage m attachment incrementUnread
  | .deleteMessage messageId now => (s.deleteMessage messageId now).1
  | .clearConversationMessages conversationId now =>
      (s.clearConversationMessages conversationId now).1
  | .deleteConversation conversationId now => (s.deleteConversation conversationId now).1
  | .upsertConversation conversation => s.upsertConversation conversation
  | .mergeConversationAlias sourceId target => s.mergeConversationAlias sourceId target

/-- The runs start without records: in a new database, or in one of version 1. -/
def sys : Sys ChatStorage ChatOp := .ofFun (fun s => s.deletedMessages.rows = []) apply

/-- No stored message has the id or the number of a record. -/
def Avoids : Prop := ∀ m ∈ s.messages.rows, s.isMessageDeleted m = false

/-- An alias that is merged has no message whose number is recorded in the target. -/
def Careful : ChatOp → Prop
  | .mergeConversationAlias sourceId target =>
      sourceId = target.id ∨ s.getConversation sourceId = none ∨
        ∀ m ∈ s.messages.rows, m.conversationId = sourceId →
          ∀ d ∈ s.deletedMessages.rows, d.key ≠ (moved target m).key
  | _ => True

instance : ∀ op, Decidable (s.Careful op)
  | .mergeConversationAlias _ _ => inferInstanceAs (Decidable (_ ∨ _ ∨ ∀ _ ∈ _, _))
  | .upsertMessage _ _ _ | .deleteMessage _ _ | .clearConversationMessages _ _
  | .deleteConversation _ _ | .upsertConversation _ => inferInstanceAs (Decidable True)

variable {s}

variable {m : ChatMessageRecord} {op : ChatOp} {target : ChatConversation} {sourceId : String}

theorem isMessageDeleted_eq_false :
    s.isMessageDeleted m = false ↔ ∀ d ∈ s.deletedMessages.rows, marks d m = false := by
  simp [isMessageDeleted, List.any_eq_false]

/-! ## What each operation does to the two tables -/

theorem upsertMessage_cases (m : ChatMessageRecord) (attachment : Option ChatAttachmentRecord)
    (incrementUnread : Bool) :
    s.upsertMessage m attachment incrementUnread = s ∨ s.isMessageDeleted m = false ∧
        (s.upsertMessage m attachment incrementUnread).messages = s.messages.insertOrReplace m rfl ∧
        (s.upsertMessage m attachment incrementUnread).deletedMessages = s.deletedMessages := by
  cases hd : s.isMessageDeleted m with
  | true => exact .inl (upsertMessage_of_deleted hd)
  | false => exact .inr ⟨rfl, messages_upsertMessage hd, deletedMessages_upsertMessage hd⟩

/-- Every deletion buries some messages and leaves the other two tables of messages alone. -/
theorem deletes_cases (h : op.deletes = true) :
    (s.apply op).messages = s.messages ∧ (s.apply op).deletedMessages = s.deletedMessages ∨
      ∃ p now, (s.apply op).messages = (s.bury p now).messages ∧
        (s.apply op).deletedMessages = (s.bury p now).deletedMessages := by
  cases op with
  | deleteMessage messageId now =>
    simp only [apply, deleteMessage]
    split
    · exact .inl ⟨rfl, rfl⟩
    · exact .inr ⟨_, now, rfl, rfl⟩
  | clearConversationMessages conversationId now => exact .inr ⟨_, now, rfl, rfl⟩
  | deleteConversation conversationId now =>
    simp only [apply, deleteConversation]
    split
    · exact .inl ⟨rfl, rfl⟩
    · exact .inr ⟨_, now, rfl, rfl⟩
  | upsertMessage | upsertConversation | mergeConversationAlias => cases h

/-- The number of a deleted message is free: all records are inserted. -/
theorem Avoids.bury_rows (h : s.Avoids) (p : ChatMessageRecord → Bool) (now : Int) :
    (s.bury p now).deletedMessages.rows =
      s.deletedMessages.rows ++ (s.messages.rows.filter p).map (tombstone now) := by
  refine Table.foldl_insertOrIgnore ⟨fun _ _ => rfl, List.pairwise_append.mpr ⟨?_, ?_, ?_⟩⟩
  · exact s.deletedMessages.valid.2
  · -- Two messages with different keys have records with different keys.
    exact List.pairwise_map.mpr (s.messages.valid.2.filter p)
  · intro d hd e he
    obtain ⟨m, hm, rfl⟩ := List.mem_map.mp he
    exact isMessageDeleted_eq_false.mp (h m (List.mem_filter.mp hm).1) d hd

theorem Avoids.bury (h : s.Avoids) (p : ChatMessageRecord → Bool) (now : Int) :
    (s.bury p now).Avoids := by
  intro m hm
  obtain ⟨hm, hpm⟩ := Table.mem_delete.mp hm
  refine isMessageDeleted_eq_false.mpr fun d hd => ?_
  rw [h.bury_rows, List.mem_append, List.mem_map] at hd
  rcases hd with hd | ⟨x, hx, rfl⟩
  · exact isMessageDeleted_eq_false.mp (h m hm) d hd
  · -- A message that stays has no key of one that goes.
    obtain ⟨hx, hpx⟩ := List.mem_filter.mp hx
    refine Bool.eq_false_iff.mpr fun hclash => ?_
    have hxm : x = m := s.messages.eq_of_clash hx hm hclash
    rw [hxm, hpm] at hpx
    cases hpx

/-! ## Merging -/

theorem deletedMessages_moveMessage :
    (moveMessage target s m).deletedMessages = s.deletedMessages := by
  unfold moveMessage
  split <;> rfl

theorem mem_moveMessage {x : ChatMessageRecord} (h : x ∈ (moveMessage target s m).messages.rows) :
    x ∈ s.messages.rows ∨ ∃ y ∈ s.messages.rows, y.id = m.id ∧ x = moved target y := by
  unfold moveMessage at h
  split at h
  · exact .inl (Table.mem_delete.mp h).1
  · rename_i messages n hn heq
    have hx : x ∈ (s.messages.updateOrIgnore (·.id == m.id) (moved target)).1.rows := by
      rw [heq]
      exact h
    rcases Table.mem_updateOrIgnore hx with hx | ⟨y, hy, hid, rfl⟩
    · exact .inl hx
    · exact .inr ⟨y, hy, beq_iff_eq.mp hid, rfl⟩

/-- The messages of `s'` are those of `s`, some of the source now in the target. -/
structure Moves (sourceId : String) (target : ChatConversation) (s s' : ChatStorage) : Prop where
  deleted : s'.deletedMessages = s.deletedMessages
  messages : ∀ x ∈ s'.messages.rows, x ∈ s.messages.rows ∨
    ∃ y ∈ s.messages.rows, y.conversationId = sourceId ∧ x = moved target y

theorem eq_of_id {x y : ChatMessageRecord} (hx : x ∈ s.messages.rows) (hy : y ∈ s.messages.rows)
    (h : x.id = y.id) : x = y :=
  s.messages.eq_of_clash hx hy (by simp [messagesSchema, h])

theorem Moves.moveMessage {s' : ChatStorage}
    (h : Moves sourceId target s s') (hm : m ∈ s.messages.rows)
    (hs : m.conversationId = sourceId) : Moves sourceId target s (moveMessage target s' m) where
  deleted := deletedMessages_moveMessage.trans h.deleted
  messages x hx := by
    rcases mem_moveMessage hx with hx | ⟨y, hy, hid, rfl⟩
    · exact h.messages x hx
    · -- The row with this id is the message itself, moved already or not.
      refine .inr ⟨m, hm, hs, ?_⟩
      rcases h.messages y hy with hy | ⟨z, hz, -, rfl⟩
      · rw [eq_of_id hy hm hid]
      · rw [eq_of_id hz hm hid]
        rfl

theorem Moves.foldl {s' : ChatStorage} (h : Moves sourceId target s s') {l : List ChatMessageRecord}
    (hl : ∀ m ∈ l, m ∈ s.messages.rows ∧ m.conversationId = sourceId) :
    Moves sourceId target s (l.foldl (ChatStorage.moveMessage target) s') := by
  induction l generalizing s' with
  | nil => exact h
  | cons m l ih =>
    obtain ⟨hm, hs⟩ := hl m List.mem_cons_self
    exact ih (h.moveMessage hm hs) fun x hx => hl x (List.mem_cons_of_mem m hx)

theorem mergeConversationAlias_cases (sourceId : String) (target : ChatConversation) :
    s.mergeConversationAlias sourceId target = s ∨
      sourceId ≠ target.id ∧ s.getConversation sourceId ≠ none ∧
        Moves sourceId target s (s.mergeConversationAlias sourceId target) := by
  unfold mergeConversationAlias
  split
  · exact .inl rfl
  · rename_i hne
    split
    · exact .inl rfl
    · rename_i source hsource
      have hself : Moves sourceId target s s := ⟨rfl, fun x hx => .inl hx⟩
      have hmoves := hself.foldl (l := s.messages.rows.filter (·.conversationId == sourceId))
        fun m hm => ⟨(List.mem_filter.mp hm).1, beq_iff_eq.mp (List.mem_filter.mp hm).2⟩
      refine .inr ⟨hne, by rw [hsource]; exact Option.some_ne_none source, hmoves.deleted, ?_⟩
      exact fun x hx => hmoves.messages x (Table.mem_delete.mp hx).1

/-! ## Runs -/

/-- Records stay. -/
theorem deletedMessages_subset (h : s.Avoids) (op : ChatOp) :
    s.deletedMessages.rows ⊆ (s.apply op).deletedMessages.rows := by
  cases hop : op.deletes with
  | true =>
    rcases deletes_cases (s := s) hop with ⟨-, hd⟩ | ⟨p, now, -, hd⟩
    · rw [hd]
      exact fun x hx => hx
    · rw [hd, h.bury_rows]
      exact List.subset_append_left _ _
  | false =>
    cases op with
    | upsertMessage m attachment incrementUnread =>
      rcases upsertMessage_cases (s := s) m attachment incrementUnread with he | ⟨-, -, hd⟩
      · exact fun x hx => by rw [apply, he]; exact hx
      · exact fun x hx => by rw [apply, hd]; exact hx
    | upsertConversation => exact fun x hx => hx
    | mergeConversationAlias sourceId target =>
      rcases mergeConversationAlias_cases (s := s) sourceId target with he | ⟨-, -, hm⟩
      · exact fun x hx => by rw [apply, he]; exact hx
      · exact fun x hx => by rw [apply, hm.deleted]; exact hx
    | deleteMessage | clearConversationMessages | deleteConversation => cases hop

theorem Avoids.upsertMessage (h : s.Avoids) (m : ChatMessageRecord)
    (attachment : Option ChatAttachmentRecord) (incrementUnread : Bool) :
    (s.upsertMessage m attachment incrementUnread).Avoids := by
  rcases upsertMessage_cases (s := s) m attachment incrementUnread with he | ⟨hfree, hm, hd⟩
  · rw [he]
    exact h
  · intro x hx
    rw [isMessageDeleted, hd]
    rw [hm] at hx
    rcases Table.mem_insertOrReplace.mp hx with ⟨hx, -⟩ | rfl
    · exact h x hx
    · exact hfree

theorem Avoids.mergeConversationAlias (h : s.Avoids)
    (hc : s.Careful (.mergeConversationAlias sourceId target)) :
    (s.mergeConversationAlias sourceId target).Avoids := by
  rcases mergeConversationAlias_cases (s := s) sourceId target with he | ⟨hne, hsource, hm⟩
  · rw [he]
    exact h
  · intro x hx
    rw [isMessageDeleted, hm.deleted]
    rcases hm.messages x hx with hx | ⟨y, hy, hys, rfl⟩
    · exact h x hx
    · -- The id was free before, and the new number is.
      refine isMessageDeleted_eq_false.mpr fun d hd => ?_
      rcases hc with hid | hnone | hfree
      · exact absurd hid hne
      · exact absurd hnone hsource
      · have hold := isMessageDeleted_eq_false.mp (h y hy) d hd
        simp only [marks, Bool.or_eq_false_iff, beq_eq_false_iff_ne] at hold ⊢
        exact ⟨hold.1, hfree y hy hys d hd⟩

theorem Avoids.apply (h : s.Avoids) (hc : s.Careful op) : (s.apply op).Avoids := by
  cases hop : op.deletes with
  | true =>
    rcases deletes_cases (s := s) hop with ⟨hm, hd⟩ | ⟨p, now, hm, hd⟩
    · intro m
      rw [hm, isMessageDeleted, hd]
      exact h m
    · intro m
      rw [hm, isMessageDeleted, hd]
      exact h.bury p now m
  | false =>
    cases op with
    | upsertMessage => exact h.upsertMessage _ _ _
    | upsertConversation => exact h
    | mergeConversationAlias => exact h.mergeConversationAlias hc
    | deleteMessage | clearConversationMessages | deleteConversation => cases hop

theorem avoids_of_reach (h : sys.ReachWith Careful s) : s.Avoids := by
  refine h.invariant (I := Avoids) ?_ ?_
  · intro s hs m _
    rw [isMessageDeleted, show s.deletedMessages.rows = [] from hs]
    rfl
  · rintro s op s' hs hc rfl
    exact hs.apply hc

/-- There is a record of the message. -/
def Recorded (s : ChatStorage) (id : String) : Prop :=
  ∃ d ∈ s.deletedMessages.rows, d.messageId = id

theorem Avoids.not_stored (h : s.Avoids) {id : String} (hr : s.Recorded id) :
    ∀ m ∈ s.messages.rows, m.id ≠ id := by
  obtain ⟨d, hd, rfl⟩ := hr
  intro m hm hid
  have hfree := isMessageDeleted_eq_false.mp (h m hm) d hd
  simp [marks, hid] at hfree

/-- A deletion leaves a record of each message that it removes. -/
theorem Avoids.recorded (h : s.Avoids) (hop : op.deletes = true) (hm : m ∈ s.messages.rows)
    (hgone : ∀ x ∈ (s.apply op).messages.rows, x.id ≠ m.id) : (s.apply op).Recorded m.id := by
  rcases deletes_cases (s := s) hop with ⟨hsame, -⟩ | ⟨p, now, hmsg, hd⟩
  · rw [hsame] at hgone
    exact absurd rfl (hgone m hm)
  · have hp : p m = true := by
      by_contra hp
      rw [hmsg] at hgone
      exact hgone m (Table.mem_delete.mpr ⟨hm, Bool.eq_false_iff.mpr hp⟩) rfl
    refine ⟨tombstone now m, ?_, rfl⟩
    rw [hd, h.bury_rows]
    exact List.mem_append_right _ (List.mem_map_of_mem (List.mem_filter.mpr ⟨hm, hp⟩))

theorem Recorded.foldl {id : String} (hr : s.Recorded id) (h : s.Avoids) {ops : List ChatOp}
    (hc : Sys.Meets Careful ChatStorage.apply s ops) :
    (ops.foldl ChatStorage.apply s).Recorded id ∧ (ops.foldl ChatStorage.apply s).Avoids := by
  induction ops generalizing s with
  | nil => exact ⟨hr, h⟩
  | cons op ops ih =>
    obtain ⟨d, hd, hid⟩ := hr
    exact ih ⟨d, deletedMessages_subset h op hd, hid⟩ (h.apply hc.1) hc.2

/-- In runs of careful operations no stored message has the id or the number of a record, and a
message that a deletion removed is not stored again, whatever operations follow. -/
theorem deleted_for_good (h : sys.ReachWith Careful s) :
    (∀ m ∈ s.messages.rows, ∀ d ∈ s.deletedMessages.rows, d.messageId ≠ m.id ∧ d.key ≠ m.key) ∧
      ∀ op, op.deletes = true → ∀ m ∈ s.messages.rows,
        (∀ x ∈ (s.apply op).messages.rows, x.id ≠ m.id) →
        ∀ ops, Sys.Meets Careful apply (s.apply op) ops →
          ∀ x ∈ (ops.foldl apply (s.apply op)).messages.rows, x.id ≠ m.id := by
  have havoids := avoids_of_reach h
  constructor
  · intro m hm d hd
    simpa [marks] using isMessageDeleted_eq_false.mp (havoids m hm) d hd
  · intro op hop m hm hgone ops hops
    have hc : s.Careful op := by
      cases op with
      | mergeConversationAlias => cases hop
      | _ => trivial
    obtain ⟨hr, ha⟩ := (havoids.recorded hop hm hgone).foldl (havoids.apply hc) hops
    exact ha.not_stored hr

/-! ## A direct chat with an alias -/

def directChat (id : String) : ChatConversation where
  id := id
  type := .direct
  hallId := "hall:test"
  title := "B"
  unreadCount := 0
  lastReadAt := 0
  lastMessageAt := 0
  updatedAt := 0
  metadataJson := "\x7b\x7d"
  peerVirtualIp := some "10.0.0.2"
  peerDisplayName := none
  roomId := none

def textFrom (id conversationId : String) (senderSeq : Int) : ChatMessageRecord where
  id := id
  conversationId := conversationId
  hallId := "hall:test"
  conversationType := .direct
  senderVirtualIp := "10.0.0.2"
  senderName := "B"
  senderSeq := senderSeq
  direction := .incoming
  contentType := .text
  status := .sent
  text := id
  peerVirtualIp := some "10.0.0.2"
  roomId := none
  attachmentId := none
  isSyncMessage := false
  isRead := false
  sentAt := 1000
  createdAt := 1000
  metadataJson := "\x7b\x7d"

theorem init_sys : sys.init init := rfl

/-- A message is deleted, and an alias with a message of another number is merged. -/
def mergedBeside : List ChatOp :=
  [.upsertMessage (textFrom "m1" "dm:new" 1) none true, .deleteMessage "m1" 2000,
    .upsertMessage (textFrom "m2" "dm:old" 2) none true,
    .mergeConversationAlias "dm:old" (directChat "dm:new")]

theorem deleted_for_good_mergedBeside :
    ((mergedBeside.foldl apply init).messages.rows.map (·.key)) = [("dm:new", "10.0.0.2", 2)] ∧
      ∀ x ∈ ([ChatOp.upsertMessage (textFrom "m2" "dm:old" 2) none true].foldl apply
        ((mergedBeside.foldl apply init).apply
          (.clearConversationMessages "dm:new" 3000))).messages.rows, x.id ≠ "m2" := by
  have hreach : sys.ReachWith Careful (mergedBeside.foldl apply init) :=
    Sys.ReachWith.foldl (Sys.ReachWith.init (S := sys) (C := Careful) init_sys) (by decide +kernel)
  refine ⟨by decide +kernel, ?_⟩
  exact (deleted_for_good hreach).2 (.clearConversationMessages "dm:new" 3000) rfl
    (moved (directChat "dm:new") (textFrom "m2" "dm:old" 2)) (by decide +kernel)
    (by decide +kernel) _ (by decide +kernel)

/-- The alias has a message with the number of the deleted one. -/
def mergedOver : List ChatOp :=
  [.upsertMessage (textFrom "m1" "dm:new" 1) none true, .deleteMessage "m1" 2000,
    .upsertMessage (textFrom "m2" "dm:old" 1) none true,
    .mergeConversationAlias "dm:old" (directChat "dm:new")]

/-- After the merge a stored message has the number of a record. It is deleted, and an
`upsertMessage` stores it again. -/
theorem merged_over_record :
    sys.Reach (mergedOver.foldl apply init) ∧
      ((mergedOver.foldl apply init).messages.rows.map (·.key)) = [("dm:new", "10.0.0.2", 1)] ∧
      ((mergedOver.foldl apply init).deletedMessages.rows.map (·.key)) =
        [("dm:new", "10.0.0.2", 1)] ∧
      ((mergedOver.foldl apply init).apply (.deleteMessage "m2" 3000)).messages.rows = [] ∧
      (((mergedOver.foldl apply init).apply (.deleteMessage "m2" 3000)).apply
        (.upsertMessage (textFrom "m2" "dm:old" 1) none true)).messages.rows.map (·.id) = ["m2"] :=
  ⟨Sys.Reach.foldl (Sys.Reach.init (S := sys) init_sys) _, by decide +kernel, by decide +kernel,
    by decide +kernel, by decide +kernel⟩

end ChatStorage

end Chat

end Vntc
