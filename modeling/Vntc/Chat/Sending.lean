import Mathlib.Data.List.Nodup
import Vntc.Chat.Tombstones

/-!
# Sending messages

`sendText` and `sendAttachment` of `chat_manager.dart`. A send reads its number from the store,
stores the message in a later step, and stores it again with its status when it was transferred.
Between these steps other sends take theirs, and the user deletes messages. Each call of the storage
is one step.
-/

namespace Vntc

open Lib

namespace Chat

/-- How far a send is, with its number. -/
inductive SendPhase
  | started
  | numbered (senderSeq : Int)
  | stored (senderSeq : Int)
  | finished (senderSeq : Int)
  deriving DecidableEq

/-- A call of `sendText` or `sendAttachment`; the number of `draft` is not known yet. -/
structure Send where
  draft : ChatMessageRecord
  attachment : Option ChatAttachmentRecord
  phase : SendPhase

structure SendState where
  storage : ChatStorage
  sends : List Send
  locallyDeletedMessageIds : List String
  /-- The messages that the user deleted or cleared. -/
  userDeleted : List String

/-- The message of a send with its number. -/
def sendMessage (draft : ChatMessageRecord) (senderSeq : Int) (status : ChatMessageStatus) :
    ChatMessageRecord :=
  { draft with senderSeq, status }

inductive SendOp
  | send (draft : ChatMessageRecord) (attachment : Option ChatAttachmentRecord)
  /-- `nextSenderSequence`. -/
  | number (id : String)
  /-- The first `upsertMessage`. -/
  | store (id : String)
  /-- The transfer ended, and the second `upsertMessage`. -/
  | finish (id : String) (status : ChatMessageStatus)
  /-- The id is added to `_locallyDeletedMessageIds`. -/
  | markDeleted (id : String)
  /-- One of the deletions of the storage. -/
  | delete (op : ChatStorage.ChatOp)

namespace SendState

variable (s : SendState)

def find (id : String) : Option Send := s.sends.find? (·.draft.id == id)

/-- The send with this id goes on. -/
def advance (id : String) (phase : SendPhase) : List Send :=
  s.sends.map fun t => if t.draft.id = id then { t with phase } else t

/-- The ids are pairwise distinct. -/
def isFresh (id : String) : Bool :=
  !s.sends.any (·.draft.id == id) && !s.storage.messages.rows.any (·.id == id) &&
    !s.storage.deletedMessages.rows.any (·.messageId == id)

/-- The ids that an operation removes. -/
def removedIds (storage : ChatStorage) : List String :=
  (s.storage.messages.rows.map (·.id)).filter fun id => !storage.messages.rows.any (·.id == id)

def apply : SendOp → SendState
  | .send draft attachment =>
    if s.isFresh draft.id then { s with sends := ⟨draft, attachment, .started⟩ :: s.sends } else s
  | .number id =>
    match s.find id with
    | some ⟨draft, _, .started⟩ => { s with
        sends := s.advance id (.numbered
          (s.storage.nextSenderSequence draft.conversationId draft.senderVirtualIp)) }
    | _ => s
  | .store id =>
    match s.find id with
    | some ⟨draft, attachment, .numbered n⟩ => { s with
        storage := s.storage.upsertMessage (sendMessage draft n .sending) attachment false
        sends := s.advance id (.stored n) }
    | _ => s
  | .finish id status =>
    match s.find id with
    | some ⟨draft, attachment, .stored n⟩ => { s with
        storage :=
          if s.locallyDeletedMessageIds.contains id then s.storage
          else s.storage.upsertMessage (sendMessage draft n status) attachment false
        locallyDeletedMessageIds := s.locallyDeletedMessageIds.filter (· != id)
        sends := s.advance id (.finished n) }
    | _ => s
  | .markDeleted id => { s with locallyDeletedMessageIds := id :: s.locallyDeletedMessageIds }
  | .delete op =>
    if op.deletes then { s with
      storage := s.storage.apply op
      userDeleted := s.removedIds (s.storage.apply op) ++ s.userDeleted }
    else s

/-- No send runs at first, and no stored message has the id or the number of a deleted one. -/
def sys : Sys SendState SendOp :=
  .ofFun (fun s => s.storage.Avoids ∧ s.sends = [] ∧ s.userDeleted = []) apply

/-- Two sends take their numbers from the same sequence. -/
def SameSequence (t u : Send) : Prop :=
  t.draft.conversationId = u.draft.conversationId ∧
    t.draft.senderVirtualIp = u.draft.senderVirtualIp

instance (t u : Send) : Decidable (SameSequence t u) := inferInstanceAs (Decidable (_ ∧ _))

/-- The send has read a number and has not stored its message. -/
def isNumbered (t : Send) : Bool :=
  match t.phase with
  | .numbered _ => true
  | _ => false

/-- A number is read when no other send of the sequence still has to store its own. -/
def Careful : SendOp → Prop
  | .number id => ∀ t ∈ s.sends, t.draft.id = id → ∀ u ∈ s.sends, isNumbered u = true →
      ¬ SameSequence t u
  | _ => True

instance : ∀ op, Decidable (s.Careful op)
  | .number _ => inferInstanceAs (Decidable (∀ _ ∈ _, _))
  | .send _ _ | .store _ | .finish _ _ | .markDeleted _ | .delete _ =>
      inferInstanceAs (Decidable True)

end SendState

/-! ## The keys of a store -/

namespace ChatStorage

variable {s : ChatStorage}

/-- A stored or a deleted message has the key. -/
def HasKey (s : ChatStorage) (k : String × String × Int) : Prop :=
  (∃ m ∈ s.messages.rows, m.key = k) ∨ ∃ d ∈ s.deletedMessages.rows, d.key = k

/-- No stored or deleted message has the id. -/
def FreshId (s : ChatStorage) (id : String) : Prop :=
  (∀ m ∈ s.messages.rows, m.id ≠ id) ∧ ∀ d ∈ s.deletedMessages.rows, d.messageId ≠ id

theorem le_foldl_max (l : List Int) (a : Int) : a ≤ l.foldl max a ∧ ∀ x ∈ l, x ≤ l.foldl max a := by
  induction l generalizing a with
  | nil => simp
  | cons b l ih =>
    obtain ⟨hab, hl⟩ := ih (max a b)
    refine ⟨Int.le_trans (Int.le_max_left a b) hab, fun x hx => ?_⟩
    rcases List.mem_cons.mp hx with rfl | hx
    · exact Int.le_trans (Int.le_max_right a x) hab
    · exact hl x hx

theorem le_sqlMax {l : List Int} {x : Int} (hx : x ∈ l) : x ≤ sqlMax l := by
  cases l with
  | nil => cases hx
  | cons a l =>
    rcases List.mem_cons.mp hx with rfl | hx
    · exact (le_foldl_max l x).1
    · exact (le_foldl_max l a).2 x hx

/-- A new number is above all numbers of its sequence. -/
theorem lt_nextSenderSequence {c v : String} {x : Int} (h : s.HasKey (c, v, x)) :
    x < s.nextSenderSequence c v := by
  refine Int.lt_add_one_iff.mpr (le_sqlMax (List.mem_append.mpr ?_))
  rcases h with ⟨m, hm, hk⟩ | ⟨d, hd, hk⟩
  · simp only [ChatMessageRecord.key, Prod.mk.injEq] at hk
    refine .inl (List.mem_map.mpr ⟨m, List.mem_filter.mpr ⟨hm, ?_⟩, hk.2.2⟩)
    simp [hk.1, hk.2.1]
  · simp only [DeletedMessage.key, Prod.mk.injEq] at hk
    refine .inr (List.mem_map.mpr ⟨d, List.mem_filter.mpr ⟨hd, ?_⟩, hk.2.2⟩)
    simp [hk.1, hk.2.1]

/-- A message with a new id and a new key is not refused and replaces nothing. -/
theorem mem_upsertMessage_fresh {m : ChatMessageRecord} (hid : s.FreshId m.id)
    (hkey : ¬ s.HasKey m.key) (attachment : Option ChatAttachmentRecord) (increment : Bool) :
    (s.upsertMessage m attachment increment).deletedMessages = s.deletedMessages ∧
      ∀ r, r ∈ (s.upsertMessage m attachment increment).messages.rows ↔
        r ∈ s.messages.rows ∨ r = m := by
  have hfree : s.isMessageDeleted m = false := by
    refine isMessageDeleted_eq_false.mpr fun d hd => ?_
    simp only [marks, Bool.or_eq_false_iff, beq_eq_false_iff_ne]
    exact ⟨hid.2 d hd, fun hk => hkey (.inr ⟨d, hd, hk⟩)⟩
  refine ⟨deletedMessages_upsertMessage hfree, fun r => ?_⟩
  rw [messages_upsertMessage hfree]
  refine Table.mem_insertOrReplace.trans (or_congr_left ⟨And.left, fun hr => ⟨hr, ?_⟩⟩)
  simp only [messagesSchema, Bool.or_eq_false_iff, beq_eq_false_iff_ne]
  exact ⟨hid.1 r hr, fun hk => hkey (.inl ⟨r, hr, hk⟩)⟩

/-- A message that is stored already is replaced by itself with other data. -/
theorem mem_upsertMessage_again {m r₀ : ChatMessageRecord} (h : s.Avoids)
    (hr₀ : r₀ ∈ s.messages.rows) (hid : r₀.id = m.id) (hkey : r₀.key = m.key)
    (attachment : Option ChatAttachmentRecord) (increment : Bool) :
    (s.upsertMessage m attachment increment).deletedMessages = s.deletedMessages ∧
      ∀ r, r ∈ (s.upsertMessage m attachment increment).messages.rows ↔
        (r ∈ s.messages.rows ∧ r ≠ r₀) ∨ r = m := by
  have hfree : s.isMessageDeleted m = false := by
    have := h r₀ hr₀
    rwa [isMessageDeleted, show (marks · r₀) = (marks · m) by funext d; simp [marks, hid, hkey]]
      at this
  refine ⟨deletedMessages_upsertMessage hfree, fun r => ?_⟩
  rw [messages_upsertMessage hfree]
  refine Table.mem_insertOrReplace.trans (or_congr_left (and_congr_right fun hr => ?_))
  have hclash : messagesSchema.clash r m = messagesSchema.clash r r₀ := by
    simp [messagesSchema, hid, hkey]
  rw [hclash]
  constructor
  · rintro hc rfl
    simp [messagesSchema] at hc
  · intro hne
    exact Bool.eq_false_iff.mpr fun hc => hne (s.messages.eq_of_clash hr hr₀ hc)

/-- A deletion: what stays was there, and a new record is of a message that was there. -/
theorem Avoids.deletes_frame (h : s.Avoids) {op : ChatOp} (hop : op.deletes = true) :
    (∀ m ∈ (s.apply op).messages.rows, m ∈ s.messages.rows) ∧
      ∀ d ∈ (s.apply op).deletedMessages.rows, d ∈ s.deletedMessages.rows ∨
        ∃ m ∈ s.messages.rows, d.messageId = m.id ∧ d.key = m.key := by
  rcases deletes_cases (s := s) hop with ⟨hm, hd⟩ | ⟨p, now, hm, hd⟩
  · rw [hm, hd]
    exact ⟨fun _ hr => hr, fun _ hr => .inl hr⟩
  · rw [hm, hd, h.bury_rows]
    refine ⟨fun m hr => (Table.mem_delete.mp hr).1, fun d hr => ?_⟩
    rcases List.mem_append.mp hr with hr | hr
    · exact .inl hr
    · obtain ⟨m, hmem, rfl⟩ := List.mem_map.mp hr
      exact .inr ⟨m, (List.mem_filter.mp hmem).1, rfl, rfl⟩

end ChatStorage

/-! ## The invariant -/

namespace SendState

variable {s : SendState}

/-- The message of the send is stored, unless the user deleted it. -/
def Kept (s : SendState) (t : Send) (n : Int) : Prop :=
  t.draft.id ∈ s.userDeleted ∨ ∃ m ∈ s.storage.messages.rows, m.id = t.draft.id ∧
    m.key = (t.draft.conversationId, t.draft.senderVirtualIp, n) ∧ m.text = t.draft.text

/-- The number is above all numbers of its sequence. -/
def Above (s : SendState) (t : Send) (n : Int) : Prop :=
  ∀ x, s.storage.HasKey (t.draft.conversationId, t.draft.senderVirtualIp, x) → x < n

/-- What holds of a send in each phase. -/
def Ok (s : SendState) (t : Send) : SendPhase → Prop
  | .started => s.storage.FreshId t.draft.id
  | .numbered n => s.storage.FreshId t.draft.id ∧ s.Above t n
  | .stored n => s.Kept t n
  | .finished n => s.Kept t n

structure Inv (s : SendState) : Prop where
  avoids : s.storage.Avoids
  recorded : ∀ id ∈ s.userDeleted, s.storage.Recorded id
  ids : (s.sends.map (·.draft.id)).Nodup
  ok : ∀ t ∈ s.sends, s.Ok t t.phase
  /-- At most one send of a sequence has read a number that it did not store. -/
  alone : ∀ t ∈ s.sends, ∀ u ∈ s.sends, isNumbered t = true → isNumbered u = true →
    SameSequence t u → t = u

variable {t : Send} {id : String} {phase : SendPhase}

/-- What a send needs of a change of the store. -/
theorem Ok.frame {s' : SendState} (h : s.Ok t t.phase)
    (hfresh : s.storage.FreshId t.draft.id → s'.storage.FreshId t.draft.id)
    (habove : isNumbered t = true →
      ∀ x, s'.storage.HasKey (t.draft.conversationId, t.draft.senderVirtualIp, x) →
        s.storage.HasKey (t.draft.conversationId, t.draft.senderVirtualIp, x))
    (hkept : ∀ n, s.Kept t n → s'.Kept t n) : s'.Ok t t.phase := by
  cases hp : t.phase with
  | started => rw [hp] at h; exact hfresh h
  | numbered n =>
    rw [hp] at h
    exact ⟨hfresh h.1, fun x hx => h.2 x (habove (by rw [isNumbered, hp]) x hx)⟩
  | stored n | finished n => rw [hp] at h; exact hkept n h

theorem find_eq_some (h : s.find id = some t) : t ∈ s.sends ∧ t.draft.id = id := by
  have hid := List.find?_some (p := fun u : Send => u.draft.id == id) h
  exact ⟨List.mem_of_find?_eq_some h, beq_iff_eq.mp hid⟩

theorem Inv.eq_of_id (h : s.Inv) {u : Send} (ht : t ∈ s.sends) (hu : u ∈ s.sends)
    (hid : t.draft.id = u.draft.id) : t = u :=
  List.inj_on_of_nodup_map h.ids ht hu hid

theorem ids_advance : (s.advance id phase).map (·.draft.id) = s.sends.map (·.draft.id) := by
  rw [advance, List.map_map]
  refine List.map_congr_left fun t _ => ?_
  simp only [Function.comp]
  split <;> rfl

/-- A send after one of them went on: the one itself, or another as before. -/
theorem Inv.mem_advance (h : s.Inv)
    (ht : t ∈ s.sends) (hid : t.draft.id = id) {u : Send} (hu : u ∈ s.advance id phase) :
    u = { t with phase } ∨ (u ∈ s.sends ∧ u.draft.id ≠ id) := by
  obtain ⟨v, hv, rfl⟩ := List.mem_map.mp hu
  split
  · rename_i hvid
    rw [h.eq_of_id hv ht (hvid.trans hid.symm)]
    exact .inl rfl
  · rename_i hvid
    exact .inr ⟨hv, hvid⟩

/-- One send goes on: what has to hold of it and of the others. -/
theorem Inv.advance (h : s.Inv) (ht : t ∈ s.sends)
    (hid : t.draft.id = id) {s' : SendState} (hsends : s'.sends = s.advance id phase)
    (havoids : s'.storage.Avoids) (hrec : ∀ x ∈ s'.userDeleted, s'.storage.Recorded x)
    (hself : s'.Ok { t with phase } phase)
    (hothers : ∀ u ∈ s.sends, u.draft.id ≠ id → s'.Ok u u.phase)
    (halone : isNumbered { t with phase } = true → ∀ u ∈ s.sends, u.draft.id ≠ id →
      isNumbered u = true → ¬ SameSequence t u) : s'.Inv where
  avoids := havoids
  recorded := hrec
  ids := by
    rw [hsends, ids_advance]
    exact h.ids
  ok u hu := by
    rw [hsends] at hu
    rcases h.mem_advance ht hid hu with rfl | ⟨hu, hne⟩
    · exact hself
    · exact hothers u hu hne
  alone u hu v hv hun hvn hsame := by
    rw [hsends] at hu hv
    rcases h.mem_advance ht hid hu with rfl | ⟨hu, hune⟩ <;>
      rcases h.mem_advance ht hid hv with rfl | ⟨hv, hvne⟩
    · rfl
    · exact absurd hsame (halone hun v hv hvne hvn)
    · exact absurd ⟨hsame.1.symm, hsame.2.symm⟩ (halone hvn u hu hune hun)
    · exact h.alone u hu v hv hun hvn hsame

/-! ## Steps -/

theorem Inv.send (h : s.Inv) (draft : ChatMessageRecord)
    (attachment : Option ChatAttachmentRecord) : (s.apply (.send draft attachment)).Inv := by
  simp only [apply]
  split
  · rename_i hfresh
    simp only [isFresh, Bool.and_eq_true, Bool.not_eq_true', List.any_eq_false,
      beq_iff_eq] at hfresh
    obtain ⟨⟨hs, hm⟩, hd⟩ := hfresh
    refine ⟨h.avoids, h.recorded, ?_, ?_, ?_⟩
    · refine List.nodup_cons.mpr ⟨fun hmem => ?_, h.ids⟩
      obtain ⟨t, ht, hid⟩ := List.mem_map.mp hmem
      exact hs t ht hid
    · intro t ht
      rcases List.mem_cons.mp ht with rfl | ht
      · exact ⟨hm, hd⟩
      · exact h.ok t ht
    · intro t ht u hu htn hun hsame
      rcases List.mem_cons.mp ht with rfl | ht
      · cases htn
      · rcases List.mem_cons.mp hu with rfl | hu
        · cases hun
        · exact h.alone t ht u hu htn hun hsame
  · exact h

theorem Inv.number (h : s.Inv) (hc : s.Careful (.number id)) : (s.apply (.number id)).Inv := by
  simp only [apply]
  split
  · rename_i draft attachment hfind
    obtain ⟨ht, hid⟩ := find_eq_some hfind
    refine h.advance ht hid rfl h.avoids h.recorded ?_ (fun u hu _ => h.ok u hu) ?_
    · exact ⟨h.ok _ ht, fun x hx => ChatStorage.lt_nextSenderSequence hx⟩
    · exact fun _ u hu _ hun => hc _ ht hid u hu hun
  · exact h

theorem Inv.store (h : s.Inv) (id : String) : (s.apply (.store id)).Inv := by
  simp only [apply]
  split
  · rename_i draft attachment n hfind
    obtain ⟨ht, hid⟩ := find_eq_some hfind
    obtain ⟨hfresh, habove⟩ := h.ok _ ht
    have hkey : ¬ s.storage.HasKey (sendMessage draft n .sending).key := fun hk =>
      absurd (habove n hk) (Int.lt_irrefl n)
    obtain ⟨hdel, hmem⟩ := ChatStorage.mem_upsertMessage_fresh
      (m := sendMessage draft n .sending) hfresh hkey attachment false
    refine h.advance ht hid rfl (h.avoids.upsertMessage _ _ _) (fun x hx => ?_) ?_ ?_ ?_
    · obtain ⟨d, hd, hdx⟩ := h.recorded x hx
      exact ⟨d, by rw [hdel]; exact hd, hdx⟩
    · exact .inr ⟨_, (hmem _).mpr (.inr rfl), rfl, rfl, rfl⟩
    · intro u hu hune
      refine Ok.frame (h.ok u hu) ?_ ?_ ?_
      · rintro ⟨hm, hd⟩
        refine ⟨fun r hr => ?_, by rw [hdel]; exact hd⟩
        rcases (hmem r).mp hr with hr | rfl
        · exact hm r hr
        · exact fun he => hune (he.symm.trans hid)
      · -- The new message is of another sequence.
        intro hun x hx
        rcases hx with ⟨r, hr, hrk⟩ | ⟨d, hd, hdk⟩
        · rcases (hmem r).mp hr with hr | rfl
          · exact .inl ⟨r, hr, hrk⟩
          · simp only [ChatMessageRecord.key, sendMessage, Prod.mk.injEq] at hrk
            have hsame := h.alone _ ht u hu rfl hun ⟨hrk.1, hrk.2.1⟩
            exact absurd (by rw [← hsame]; exact hid) hune
        · rw [hdel] at hd
          exact .inr ⟨d, hd, hdk⟩
      · rintro k (hud | ⟨m, hm, hm'⟩)
        · exact .inl hud
        · exact .inr ⟨m, (hmem m).mpr (.inl hm), hm'⟩
    · exact fun hn => by cases hn
  · exact h

/-- The second `upsertMessage` changes only the message of the send itself. -/
theorem Inv.upsert_again (h : s.Inv) {draft : ChatMessageRecord}
    {attachment : Option ChatAttachmentRecord} {n : Int}
    (ht : (⟨draft, attachment, .stored n⟩ : Send) ∈ s.sends) (status : ChatMessageStatus)
    (s' : SendState)
    (hs' : s'.storage = s.storage.upsertMessage (sendMessage draft n status) attachment false)
    (hdeleted : s'.userDeleted = s.userDeleted) :
    (∀ x ∈ s'.userDeleted, s'.storage.Recorded x) ∧ s'.Kept ⟨draft, attachment, .finished n⟩ n ∧
      ∀ u ∈ s.sends, u.draft.id ≠ draft.id → s'.Ok u u.phase := by
  have hkept : s.Kept ⟨draft, attachment, .stored n⟩ n := h.ok _ ht
  by_cases hud : draft.id ∈ s.userDeleted
  · -- It was deleted, so nothing is stored.
    have hsame : s'.storage = s.storage := by
      rw [hs']
      obtain ⟨d, hd, hdid⟩ := h.recorded _ hud
      refine ChatStorage.upsertMessage_of_deleted ?_
      exact List.any_eq_true.mpr ⟨d, hd, by simp [ChatStorage.marks, hdid, sendMessage]⟩
    refine ⟨fun x hx => ?_, .inl (by rw [hdeleted]; exact hud), fun u hu _ => ?_⟩
    · rw [hsame]
      exact h.recorded x (hdeleted ▸ hx)
    · refine Ok.frame (h.ok u hu) (by rw [hsame]; exact id) (fun _ x => by rw [hsame]; exact id) ?_
      intro k hk
      rw [Kept, hsame, hdeleted]
      exact hk
  · obtain ⟨r₀, hr₀, hrid, hrkey, -⟩ := hkept.resolve_left hud
    obtain ⟨hdel, hmem⟩ := ChatStorage.mem_upsertMessage_again
      (m := sendMessage draft n status) h.avoids hr₀ hrid hrkey attachment false
    rw [← hs'] at hdel hmem
    refine ⟨fun x hx => ?_, .inr ⟨_, (hmem _).mpr (.inr rfl), rfl, rfl, rfl⟩, fun u hu hune => ?_⟩
    · obtain ⟨d, hd, hdx⟩ := h.recorded x (hdeleted ▸ hx)
      exact ⟨d, by rw [hdel]; exact hd, hdx⟩
    · refine Ok.frame (h.ok u hu) ?_ ?_ ?_
      · rintro ⟨hm, hd⟩
        refine ⟨fun r hr => ?_, by rw [hdel]; exact hd⟩
        rcases (hmem r).mp hr with ⟨hr, -⟩ | rfl
        · exact hm r hr
        · exact fun he => hune he.symm
      · intro _ x hx
        rcases hx with ⟨r, hr, hrk⟩ | ⟨d, hd, hdk⟩
        · rcases (hmem r).mp hr with ⟨hr, -⟩ | rfl
          · exact .inl ⟨r, hr, hrk⟩
          · exact .inl ⟨r₀, hr₀, hrkey.trans hrk⟩
        · rw [hdel] at hd
          exact .inr ⟨d, hd, hdk⟩
      · rintro k (hk | ⟨m, hm, hmid, hm'⟩)
        · exact .inl (by rw [hdeleted]; exact hk)
        · refine .inr ⟨m, (hmem m).mpr (.inl ⟨hm, ?_⟩), hmid, hm'⟩
          rintro rfl
          exact hune (hmid.symm.trans hrid)

theorem Inv.finish (h : s.Inv) (id : String) (status : ChatMessageStatus) :
    (s.apply (.finish id status)).Inv := by
  simp only [apply]
  split
  · rename_i draft attachment n hfind
    obtain ⟨ht, hid⟩ := find_eq_some hfind
    have hid : draft.id = id := hid
    split
    · refine h.advance ht hid rfl h.avoids h.recorded (h.ok _ ht) (fun u hu _ => h.ok u hu) ?_
      exact fun hn => by cases hn
    · obtain ⟨hrec, hself, hothers⟩ := h.upsert_again ht status
        { s with
          storage := s.storage.upsertMessage (sendMessage draft n status) attachment false
          locallyDeletedMessageIds := s.locallyDeletedMessageIds.filter (· != id)
          sends := s.advance id (.finished n) } rfl rfl
      refine h.advance ht hid rfl (h.avoids.upsertMessage _ _ _) hrec hself ?_ ?_
      · exact fun u hu hune => hothers u hu (hid ▸ hune)
      · exact fun hn => by cases hn
  · exact h

theorem Inv.delete (h : s.Inv) (op : ChatStorage.ChatOp) : (s.apply (.delete op)).Inv := by
  simp only [apply]
  split
  · rename_i hop
    have hc : s.storage.Careful op := by
      cases op with
      | mergeConversationAlias => cases hop
      | _ => trivial
    obtain ⟨hrows, hrecs⟩ := h.avoids.deletes_frame hop
    -- A message that is not there any more was deleted by the user.
    have hgone : ∀ m ∈ s.storage.messages.rows, m ∉ (s.storage.apply op).messages.rows →
        m.id ∈ s.removedIds (s.storage.apply op) := by
      intro m hm hnot
      refine List.mem_filter.mpr ⟨List.mem_map_of_mem hm, ?_⟩
      simp only [Bool.not_eq_true', List.any_eq_false, beq_iff_eq]
      intro x hx hid
      exact hnot (ChatStorage.eq_of_id (hrows x hx) hm hid ▸ hx)
    refine ⟨h.avoids.apply hc, fun x hx => ?_, h.ids, fun t ht => ?_, h.alone⟩
    · rcases List.mem_append.mp hx with hx | hx
      · obtain ⟨hmem, hno⟩ := List.mem_filter.mp hx
        obtain ⟨m, hm, rfl⟩ := List.mem_map.mp hmem
        refine h.avoids.recorded hop hm ?_
        simpa [List.any_eq_false] using hno
      · obtain ⟨d, hd, hdx⟩ := h.recorded x hx
        exact ⟨d, ChatStorage.deletedMessages_subset h.avoids op hd, hdx⟩
    · refine Ok.frame (h.ok t ht) ?_ ?_ ?_
      · rintro ⟨hm, hd⟩
        refine ⟨fun r hr => hm r (hrows r hr), fun d hr => ?_⟩
        rcases hrecs d hr with hr | ⟨m, hmem, hid, -⟩
        · exact hd d hr
        · rw [hid]
          exact hm m hmem
      · intro _ x hx
        rcases hx with ⟨r, hr, hrk⟩ | ⟨d, hd, hdk⟩
        · exact .inl ⟨r, hrows r hr, hrk⟩
        · rcases hrecs d hd with hd | ⟨m, hm, -, hk⟩
          · exact .inr ⟨d, hd, hdk⟩
          · exact .inl ⟨m, hm, hk.symm.trans hdk⟩
      · rintro k (hud | ⟨m, hm, hmid, hm'⟩)
        · exact .inl (List.mem_append_right _ hud)
        · by_cases hstay : m ∈ (s.storage.apply op).messages.rows
          · exact .inr ⟨m, hstay, hmid, hm'⟩
          · exact .inl (List.mem_append_left _ (hmid ▸ hgone m hm hstay))
  · exact h

theorem Inv.apply (h : s.Inv) {op : SendOp} (hc : s.Careful op) : (s.apply op).Inv := by
  cases op with
  | send draft attachment => exact h.send draft attachment
  | number id => exact h.number hc
  | store id => exact h.store id
  | finish id status => exact h.finish id status
  | markDeleted id => exact ⟨h.avoids, h.recorded, h.ids, h.ok, h.alone⟩
  | delete op => exact h.delete op

theorem inv_of_reach (h : sys.ReachWith Careful s) : s.Inv := by
  refine h.invariant (I := Inv) ?_ ?_
  · rintro s ⟨havoids, hsends, hdeleted⟩
    refine ⟨havoids, ?_, ?_, ?_, ?_⟩
    · simp [hdeleted]
    all_goals simp [hsends]
  · rintro s op s' hs hc rfl
    exact hs.apply hc

/-- The first `upsertMessage` of the send is done. -/
def isStored (t : Send) : Bool :=
  match t.phase with
  | .stored _ | .finished _ => true
  | _ => false

/-- In careful runs every message that was stored and that the user did not delete is stored with
its text, and no two messages of a sender in a conversation have the same number. -/
theorem sent_kept (h : sys.ReachWith Careful s) :
    (∀ t ∈ s.sends, isStored t = true → t.draft.id ∉ s.userDeleted →
        ∃ m ∈ s.storage.messages.rows, m.id = t.draft.id ∧ m.text = t.draft.text) ∧
      ∀ m ∈ s.storage.messages.rows, ∀ m' ∈ s.storage.messages.rows,
        m.conversationId = m'.conversationId → m.senderVirtualIp = m'.senderVirtualIp →
          m.senderSeq = m'.senderSeq → m = m' := by
  constructor
  · intro t ht hstored hud
    have hkept : ∃ n, s.Kept t n := by
      have hok := (inv_of_reach h).ok t ht
      cases hp : t.phase with
      | started | numbered n => rw [isStored, hp] at hstored; cases hstored
      | stored n | finished n => rw [hp] at hok; exact ⟨n, hok⟩
    obtain ⟨n, hkept⟩ := hkept
    obtain ⟨m, hm, hid, -, htext⟩ := hkept.resolve_left hud
    exact ⟨m, hm, hid, htext⟩
  · intro m hm m' hm' hc hv hn
    refine s.storage.messages.eq_of_clash hm hm' ?_
    simp [messagesSchema, ChatMessageRecord.key, hc, hv, hn]

/-! ## Two sends in one hall -/

def start : SendState := ⟨.init, [], [], []⟩

theorem init_start : sys.init start := ⟨fun _ hm => (by cases hm), rfl, rfl⟩

/-- A text to the hall before it has a number. -/
def draftText (id text : String) : ChatMessageRecord where
  id := id
  conversationId := "hall:test"
  hallId := "hall:test"
  conversationType := .hall
  senderVirtualIp := "10.0.0.1"
  senderName := "A"
  senderSeq := 0
  direction := .outgoing
  contentType := .text
  status := .sending
  text := text
  peerVirtualIp := none
  roomId := none
  attachmentId := none
  isSyncMessage := false
  isRead := true
  sentAt := 1000
  createdAt := 1000
  metadataJson := "\x7b\x7d"

/-- The second send reads its number when the first one is stored. -/
def oneByOne : List SendOp :=
  [.send (draftText "m1" "first") none, .send (draftText "m2" "second") none, .number "m1",
    .store "m1", .number "m2", .store "m2", .finish "m1" .sent, .finish "m2" .sent]

theorem sent_kept_oneByOne :
    ∃ m ∈ (oneByOne.foldl apply start).storage.messages.rows, m.id = "m1" ∧ m.text = "first" := by
  have hreach : sys.ReachWith Careful (oneByOne.foldl apply start) :=
    Sys.ReachWith.foldl (Sys.ReachWith.init (S := sys) (C := Careful) init_start)
      (by decide +kernel)
  exact (sent_kept hreach).1 ⟨draftText "m1" "first", none, .finished 1⟩
    (List.mem_cons_of_mem _ List.mem_cons_self) rfl (by decide +kernel)

/-- Both sends read their numbers before one of them is stored. -/
def bothNumbered : List SendOp :=
  [.send (draftText "m1" "first") none, .send (draftText "m2" "second") none, .number "m1",
    .number "m2", .store "m1", .store "m2"]

/-- Both messages were stored and the user deleted nothing, and only one is there. -/
theorem same_number :
    sys.Reach (bothNumbered.foldl apply start) ∧
      (bothNumbered.foldl apply start).sends.map (fun t => (t.draft.id, t.phase)) =
        [("m2", .stored 1), ("m1", .stored 1)] ∧
      (bothNumbered.foldl apply start).userDeleted = [] ∧
      (bothNumbered.foldl apply start).storage.messages.rows.map (fun m => (m.id, m.text)) =
        [("m2", "second")] :=
  ⟨Sys.Reach.foldl (Sys.Reach.init (S := sys) init_start) _, by decide +kernel, by decide +kernel,
    by decide +kernel⟩

end SendState

end Chat

end Vntc
