import Vntc.Chat.Sync
import Vntc.Chat.Unread

/-!
# The newest message of a conversation

`upsertMessage` gives the conversation the date of the message that it stores, whatever else is
stored, and `deleteMessage` that of the newest one that is left. `loadMessages` of
`chat_storage.dart` sorts the messages from the oldest on and takes the first ones.
-/

namespace Vntc

open Lib

namespace Chat

namespace ChatStorage

section Definitions

variable (s : ChatStorage) (c : String)

def messagesOf : List ChatMessageRecord := s.messages.rows.filter (·.conversationId == c)

def dateOf : Option Int := (s.getConversation c).map (·.lastMessageAt)

/-- The date of a conversation with the messages, which exists if there are any. -/
def IsDate (l : List ChatMessageRecord) : Option Int → Prop
  | none => l = []
  | some t => t = sqlMax (l.map (·.sentAt))

def Dated : Prop := IsDate (s.messagesOf c) (s.dateOf c)

/-- The chat of a conversation as a user expects it. -/
structure ShowsNewest (limit : Nat) : Prop where
  dated : s.Dated c
  recent : (s.loadMessages c limit).map (·.1) =
    ((s.messagesOf c).insertionSort earlier).drop ((s.messagesOf c).length - limit)

/-- The runs start with conversations that have their dates. -/
def dateSys : Sys ChatStorage ChatOp := .ofFun (fun s => ∀ c, s.Dated c) apply

/-- A message is stored in its own conversation, after the messages that stay there. -/
def InOrder : ChatOp → Prop
  | .upsertMessage m _ _ => s.isMessageDeleted m = false → ∀ r ∈ s.messages.rows,
      (r.id = m.id → r.conversationId = m.conversationId) ∧
      (r.conversationId = m.conversationId → messagesSchema.clash r m = false → r.sentAt ≤ m.sentAt)
  | .deleteMessage _ _ | .clearConversationMessages _ _ => True
  | _ => False

end Definitions

variable {s : ChatStorage} {c id : String} {m : ChatMessageRecord} {now : Int}

theorem sqlMax_eq {l : List Int} {t : Int} (ht : t ∈ l) (hle : ∀ x ∈ l, x ≤ t) : sqlMax l = t := by
  cases l with
  | nil => cases ht
  | cons n ns =>
    have hlt : sqlMax (n :: ns) < t + 1 := sqlMax_cons_lt.mpr fun x hx => by
      have := hle x hx
      omega
    have hnot : ¬ sqlMax (n :: ns) < t := fun h => absurd (sqlMax_cons_lt.mp h t ht) (by omega)
    omega

theorem dateOf_touchConversation {increment : Bool} : (s.touchConversation m increment).dateOf c =
    if c = m.conversationId then some m.sentAt else s.dateOf c := by
  unfold touchConversation
  cases hm : s.getConversation m.conversationId with
  | none =>
    rw [dateOf, getConversation_upsertConversation]
    by_cases hc : c = m.conversationId <;> simp [hc, eq_comm, dateOf]
  | some x =>
    rw [dateOf, map_updateConversation]
    by_cases hc : c = m.conversationId <;> simp [hc, hm, dateOf]

/-- Messages of one conversation are deleted, and it gets the date of those that are left. -/
theorem dated_bury {p : ChatMessageRecord → Bool} {f : ChatConversation → ChatConversation}
    (hp : ∀ m ∈ s.messages.rows, p m = true → m.conversationId = id) (hf : ∀ c, (f c).id = c.id)
    (ht : ∀ x, (f x).lastMessageAt = (s.bury p now).latestSentAt id) (h : s.Dated c) :
    ((s.bury p now).updateConversation id f hf).Dated c := by
  have hrows : ((s.bury p now).updateConversation id f hf).messagesOf c =
      (s.messagesOf c).filter (!p ·) := List.filter_comm ..
  have hget : (s.bury p now).getConversation c = s.getConversation c := rfl
  rw [Dated, dateOf, map_updateConversation, hget]
  by_cases hc : c = id
  · subst hc
    rw [if_pos rfl]
    cases hx : s.getConversation c with
    | some x => exact ht x
    | none =>
      have hnil : s.messagesOf c = [] := by simpa [Dated, dateOf, hx, IsDate] using h
      rw [hrows, hnil]
      rfl
  · have hall : (s.messagesOf c).filter (!p ·) = s.messagesOf c := by
      refine List.filter_eq_self.mpr fun m hm => ?_
      obtain ⟨hm, hmc⟩ := List.mem_filter.mp hm
      have := hp m hm
      grind
    rw [if_neg hc, hrows, hall]
    exact h

theorem dated_clearConversationMessages (h : s.Dated c) :
    (s.clearConversationMessages id now).1.Dated c := by
  refine dated_bury (fun m _ hm => beq_iff_eq.mp hm) (by exact fun _ => rfl) (fun _ => ?_) h
  have hnil : (s.bury (·.conversationId == id) now).messagesOf id = [] :=
    List.filter_eq_nil_iff.mpr fun m hm => by simpa using (Table.mem_delete.mp hm).2
  exact (congrArg (fun l => sqlMax (l.map ChatMessageRecord.sentAt)) hnil).symm

theorem dated_deleteMessage (h : s.Dated c) : (s.deleteMessage id now).1.Dated c := by
  unfold deleteMessage
  split
  · exact h
  · rename_i m hfind
    have hmid := List.find?_some (p := fun x : ChatMessageRecord => x.id == id) hfind
    refine dated_bury (fun x hx hxid => ?_) (by exact fun _ => rfl) (fun _ => rfl) h
    rw [eq_of_id hx (List.mem_of_find?_eq_some hfind)
      ((beq_iff_eq.mp hxid).trans (beq_iff_eq.mp hmid).symm)]

theorem dated_upsertMessage {attachment : Option ChatAttachmentRecord} {increment : Bool}
    (hin : s.InOrder (.upsertMessage m attachment increment)) (h : s.Dated c) :
    (s.upsertMessage m attachment increment).Dated c := by
  cases hdel : s.isMessageDeleted m with
  | true => rwa [upsertMessage_of_deleted hdel]
  | false =>
    have hin := hin hdel
    have hrows : (s.upsertMessage m attachment increment).messagesOf c =
        (s.messagesOf c).filter (!messagesSchema.clash · m) ++
          if m.conversationId = c then [m] else [] := by
      rw [messagesOf, messages_upsertMessage hdel]
      exact (List.filter_append ..).trans (by
        simp [messagesOf, List.filter_singleton, cond_eq_ite, Bool.and_comm])
    rw [Dated, hrows, upsertMessage_of_free hdel, dateOf_touchConversation]
    by_cases hc : c = m.conversationId
    · subst hc
      rw [if_pos rfl, if_pos rfl]
      refine (sqlMax_eq (by simp) fun t ht => ?_).symm
      simp only [List.map_append, List.mem_append, List.mem_map, List.mem_filter, messagesOf] at ht
      grind
    · -- What makes room for the message is of its own conversation.
      have hall : (s.messagesOf c).filter (!messagesSchema.clash · m) = s.messagesOf c := by
        refine List.filter_eq_self.mpr fun r hr => ?_
        obtain ⟨hr, hrc⟩ := List.mem_filter.mp hr
        have := (hin r hr).1
        simp only [messagesSchema, ChatMessageRecord.key]
        grind
      rw [if_neg hc, if_neg (Ne.symm hc), hall, List.append_nil]
      exact h

theorem dated_of_reachWith (h : dateSys.ReachWith InOrder s) : ∀ c, s.Dated c := by
  refine h.invariant_of (fun _ h0 => h0) fun s op hi hin c => ?_
  cases op with
  | upsertMessage m attachment increment => exact dated_upsertMessage hin (hi c)
  | deleteMessage id now => exact dated_deleteMessage (hi c)
  | clearConversationMessages id now => exact dated_clearConversationMessages (hi c)
  | _ => cases hin

/-- **The newest message.** With messages that are stored in order, each conversation that is not
longer than the limit has the date of its newest message and shows the newest ones. -/
theorem newest_visible (h : dateSys.ReachWith InOrder s) {limit : Nat}
    (hsize : (s.messagesOf c).length ≤ limit) : s.ShowsNewest c limit where
  dated := dated_of_reachWith h c
  recent := by
    rw [Nat.sub_eq_zero_of_le hsize, List.drop_zero, loadMessages, List.take_of_length_le (by
      rwa [List.length_insertionSort]), List.map_map]
    exact List.map_id _

/-- Two messages are stored, with these dates. -/
def storedAt (first second : Int) : List ChatOp :=
  [.upsertMessage { textFrom "m1" "dm" 1 with sentAt := first } none true,
    .upsertMessage { textFrom "m2" "dm" 2 with sentAt := second } none true]

def chatAt (first second : Int) : ChatStorage := (storedAt first second).foldl apply init

theorem init_dateSys : dateSys.init init := fun _ => rfl

theorem newest_visible_two : (chatAt 1000 2000).dateOf "dm" = some 2000 ∧
    (chatAt 1000 2000).ShowsNewest "dm" 2 := by
  have hin : Sys.Meets InOrder apply init (storedAt 1000 2000) :=
    ⟨fun _ _ => nofun, fun _ => by decide +kernel, trivial⟩
  exact ⟨by decide +kernel,
    newest_visible (Sys.ReachWith.foldl (.init init_dateSys) hin) (by decide +kernel)⟩

/-- One message over the limit hides the newest one, and a late message sets the date back. -/
theorem newest_hidden :
    dateSys.Reach (chatAt 1000 2000) ∧ ¬ (chatAt 1000 2000).ShowsNewest "dm" 1 ∧
      dateSys.Reach (chatAt 2000 1000) ∧ ¬ (chatAt 2000 1000).ShowsNewest "dm" 2 := by
  refine ⟨Sys.Reach.foldl (.init init_dateSys) _, fun h => ?_,
    Sys.Reach.foldl (.init init_dateSys) _, fun h => ?_⟩
  · exact absurd (congrArg (List.map ChatMessageRecord.id) h.recent) (by decide +kernel)
  · have hdate : (chatAt 2000 1000).dateOf "dm" = some 1000 := by decide +kernel
    have h := h.dated
    rw [Dated, hdate] at h
    exact absurd (show (1000 : Int) = sqlMax _ from h) (by decide +kernel)

end ChatStorage

end Chat

end Vntc
