import Mathlib.Algebra.BigOperators.Group.List.Basic
import Vntc.Lib.Sys
import Vntc.Chat.Tombstones
import Vntc.Chat.Incoming

/-!
# The number of unread messages

A conversation has a counter of its unread messages. The handler of an incoming message reads the
conversation, writes the whole row back later, and counts the message when it stores it; a message
that is read at once marks the conversation in one more step. The other operations count the rows
again. Each call of the storage is one step, and the steps of different handlers mix.
-/

namespace Vntc

open Lib

namespace Chat

/-! ## Counters and rows -/

namespace ChatStorage

variable (s : ChatStorage)

def loadPrivateUnreadTotal : Int :=
  ((s.conversations.rows.filter (·.type == .direct)).map (·.unreadCount)).sum

/-- The counter of a conversation. -/
def unreadOf (conversationId : String) : Int :=
  ((s.getConversation conversationId).map (·.unreadCount)).getD 0

/-- The message counts for the conversation. -/
def isUnreadIn (conversationId : String) (m : ChatMessageRecord) : Bool :=
  m.conversationId == conversationId && m.direction == .incoming && !m.isRead

/-- The counter of the conversation is the number of its unread messages. -/
def Exact (conversationId : String) : Prop :=
  s.unreadOf conversationId = s.unreadMessages conversationId

variable {s} {s' : ChatStorage} {c : String}

theorem Exact.of_same (h : s.Exact c) (hu : s'.unreadOf c = s.unreadOf c)
    (hm : s'.unreadMessages c = s.unreadMessages c) : s'.Exact c := by
  rw [Exact, hu, hm]
  exact h

theorem conversation_clash (id : String) (x y : ChatConversation) (hx : (x.id == id) = true)
    (hy : (y.id == id) = true) : conversationsSchema.clash x y = true := by
  simp [conversationsSchema, beq_iff_eq.mp hx, beq_iff_eq.mp hy]

theorem getConversation_upsertConversation (conversation : ChatConversation) :
    (s.upsertConversation conversation).getConversation c =
      if conversation.id = c then some conversation else s.getConversation c := by
  refine (Table.find_insertOrReplace (h := rfl) (conversation_clash c) fun hr x hx => ?_).trans ?_
  · have hne : conversation.id ≠ c := by simpa using hr
    have hxc : x.id = c := beq_iff_eq.mp hx
    simp only [conversationsSchema, beq_eq_false_iff_ne, hxc]
    exact hne.symm
  · simp only [beq_iff_eq]
    rfl

variable {f : ChatConversation → ChatConversation} {id : String} {now : Int} {m : ChatMessageRecord}
  {target : ChatConversation}

theorem getConversation_updateConversation (hf : ∀ c, (f c).id = c.id) :
    (s.updateConversation id f hf).getConversation c =
      (s.getConversation c).map fun x => if x.id = id then f x else x := by
  have hclash : ∀ x y, conversationsSchema.clash (f x) y = conversationsSchema.clash x y :=
    fun x y => congrArg (· == y.id) (hf x)
  refine (Table.find_modify hclash (fun _ => rfl) fun x => by rw [hf]).trans ?_
  simp only [beq_iff_eq]
  rfl

theorem id_of_getConversation {x : ChatConversation} (h : s.getConversation c = some x) :
    x.id = c :=
  beq_iff_eq.mp (List.find?_some (p := fun y : ChatConversation => y.id == c) h)

/-- A field of a conversation after an update of one conversation. -/
theorem map_updateConversation {β : Type} {g : ChatConversation → β} (hf : ∀ c, (f c).id = c.id) :
    ((s.updateConversation id f hf).getConversation c).map g =
      if c = id then (s.getConversation c).map fun x => g (f x) else (s.getConversation c).map g := by
  rw [getConversation_updateConversation]
  cases hx : s.getConversation c with
  | none => simp
  | some x =>
    simp only [Option.map_some, id_of_getConversation hx]
    split <;> rfl

/-- The counter after an update of one conversation. -/
theorem unreadOf_updateConversation (hf : ∀ c, (f c).id = c.id) :
    (s.updateConversation id f hf).unreadOf c =
      if c = id then ((s.getConversation c).map fun x => (f x).unreadCount).getD 0
      else s.unreadOf c := by
  unfold unreadOf
  rw [map_updateConversation]
  split <;> rfl

theorem unreadOf_reset (hf : ∀ c, (f c).id = c.id) (h0 : ∀ c, (f c).unreadCount = 0) :
    (s.updateConversation id f hf).unreadOf c = if c = id then 0 else s.unreadOf c := by
  rw [unreadOf_updateConversation]
  simp only [h0]
  cases s.getConversation c <;> rfl

theorem getConversation_delete :
    getConversation { s with conversations := s.conversations.delete (·.id == id) } c =
      if c = id then none else s.getConversation c := by
  refine Option.ext fun x => ?_
  refine (Table.find_eq_some (conversation_clash c)).trans ?_
  rw [Table.mem_delete]
  by_cases hc : c = id
  · subst hc
    simp only [if_true, reduceCtorEq, iff_false]
    rintro ⟨⟨-, hno⟩, hyes⟩
    rw [hyes] at hno
    cases hno
  · rw [if_neg hc]
    refine Iff.trans ?_ (Table.find_eq_some (conversation_clash c)).symm
    refine and_congr_left fun hx => and_iff_left ?_
    rw [beq_iff_eq.mp hx]
    exact beq_false_of_ne hc

/-! ## What the operations do to them -/

theorem exact_markConversationRead (h : c = id ∨ s.Exact c) :
    (s.markConversationRead id now).Exact c := by
  have hu : (s.markConversationRead id now).unreadOf c = if c = id then 0 else s.unreadOf c := by
    show (s.updateConversation id (fun c => { c with
      unreadCount := 0, lastReadAt := now, updatedAt := now }) fun _ => rfl).unreadOf c = _
    exact unreadOf_reset _ fun _ => rfl
  have hm : (s.markConversationRead id now).unreadMessages c =
      if c = id then 0 else s.unreadMessages c := by
    unfold markConversationRead unreadMessages Table.modify
    rw [List.countP_map]
    split
    · rename_i hc
      refine List.countP_eq_zero.mpr fun m _ => ?_
      simp only [Function.comp]
      split <;> simp_all
    · rename_i hc
      refine List.countP_congr fun m _ => ?_
      simp only [Function.comp]
      split
      · rename_i hmark
        simp only [Bool.and_eq_true, beq_iff_eq] at hmark
        simp [hmark.1, Ne.symm hc]
      · rfl
  by_cases hc : c = id
  · rw [Exact, hu, hm, if_pos hc, if_pos hc]
    rfl
  · rw [if_neg hc] at hu hm
    exact (h.resolve_left hc).of_same hu hm

/-- Deleting messages of other conversations. -/
theorem unreadMessages_delete_other {p : ChatMessageRecord → Bool}
    (h : ∀ m ∈ s.messages.rows, p m = true → m.conversationId ≠ c) :
    unreadMessages { s with messages := s.messages.delete p } c = s.unreadMessages c := by
  unfold unreadMessages Table.delete
  rw [List.countP_filter]
  refine List.countP_congr fun m hm => ?_
  cases hp : p m with
  | false => simp
  | true => simp [h m hm hp]

theorem unreadMessages_delete_all :
    unreadMessages { s with messages := s.messages.delete (·.conversationId == id) } id = 0 := by
  unfold unreadMessages Table.delete
  rw [List.countP_filter]
  refine List.countP_eq_zero.mpr fun m _ => ?_
  simp only [Bool.and_eq_true, beq_iff_eq, Bool.not_eq_true', beq_eq_false_iff_ne]
  rintro ⟨⟨⟨hc, -⟩, -⟩, hne⟩
  exact hne hc

theorem exact_clearConversationMessages (h : s.Exact c) :
    (s.clearConversationMessages id now).1.Exact c := by
  have hu : (s.clearConversationMessages id now).1.unreadOf c =
      if c = id then 0 else s.unreadOf c := by
    show ((s.bury (·.conversationId == id) now).updateConversation id (fun c => { c with
      unreadCount := 0, lastMessageAt := 0, updatedAt := now }) fun _ => rfl).unreadOf c = _
    exact unreadOf_reset _ fun _ => rfl
  by_cases hc : c = id
  · subst hc
    have hm : (s.clearConversationMessages c now).1.unreadMessages c = 0 :=
      unreadMessages_delete_all
    rw [Exact, hu, hm, if_pos rfl]
    rfl
  · rw [if_neg hc] at hu
    refine h.of_same hu (unreadMessages_delete_other (s := s) fun m _ hm => ?_)
    rw [beq_iff_eq.mp hm]
    exact Ne.symm hc

theorem exact_deleteMessage (h : s.Exact c) : (s.deleteMessage id now).1.Exact c := by
  unfold deleteMessage
  split
  · exact h
  · rename_i m hfind
    have hmid := List.find?_some (p := fun x : ChatMessageRecord => x.id == id) hfind
    have hm : m ∈ s.messages.rows := List.mem_of_find?_eq_some hfind
    by_cases hc : c = m.conversationId
    · subst hc
      rw [Exact, unreadOf_updateConversation, if_pos rfl]
      cases hconv : (s.bury (·.id == id) now).getConversation m.conversationId with
      | some x => rfl
      | none =>
        -- Without a conversation there was nothing to count.
        have hzero : s.unreadMessages m.conversationId = 0 := by
          have hnone : s.getConversation m.conversationId = none := hconv
          rw [Exact, unreadOf, hnone, Option.map_none, Option.getD_none] at h
          omega
        have hle : (s.bury (·.id == id) now).unreadMessages m.conversationId ≤
            s.unreadMessages m.conversationId := List.filter_sublist.countP_le
        have hzero' : (s.bury (·.id == id) now).unreadMessages m.conversationId = 0 := by omega
        exact (congrArg Nat.cast hzero').symm
    · refine h.of_same ?_ (unreadMessages_delete_other (s := s) fun x hx hxid => ?_)
      · rw [unreadOf_updateConversation, if_neg hc]
        rfl
      · have hxm : x = m := eq_of_id hx hm ((beq_iff_eq.mp hxid).trans (beq_iff_eq.mp hmid).symm)
        rw [hxm]
        exact Ne.symm hc

theorem conversations_moveMessage : (moveMessage target s m).conversations = s.conversations := by
  unfold moveMessage
  split <;> rfl

theorem unreadMessages_moveMessage (hc : target.id ≠ c)
    (h : ∀ x ∈ s.messages.rows, x.id = m.id → x.conversationId ≠ c) :
    (moveMessage target s m).unreadMessages c = s.unreadMessages c := by
  unfold moveMessage
  split
  · exact unreadMessages_delete_other (s := s) fun x hx hid => h x hx (beq_iff_eq.mp hid)
  · rename_i messages n hn heq
    have hrows := Table.updateOrIgnore_rows (t := s.messages) (p := fun x => x.id == m.id)
      (f := moved target)
    rw [heq] at hrows
    rcases hrows with hrows | hrows
    · exact congrArg _ hrows
    · refine (congrArg _ hrows).trans ?_
      rw [List.countP_map]
      refine List.countP_congr fun x hx => ?_
      simp only [Function.comp]
      split
      · rename_i hid
        simp [moved, hc, h x hx (beq_iff_eq.mp hid)]
      · rfl

variable {sourceId : String} {attachment : Option ChatAttachmentRecord}

/-- The loop of a merge leaves the other conversations alone. -/
theorem foldl_moveMessage_other (hs : sourceId ≠ c)
    (ht : target.id ≠ c) (h : Moves sourceId target s s')
    (hconv : s'.conversations = s.conversations)
    (hcount : s'.unreadMessages c = s.unreadMessages c) {l : List ChatMessageRecord}
    (hl : ∀ m ∈ l, m ∈ s.messages.rows ∧ m.conversationId = sourceId) :
    (l.foldl (moveMessage target) s').conversations = s.conversations ∧
      (l.foldl (moveMessage target) s').unreadMessages c = s.unreadMessages c := by
  induction l generalizing s' with
  | nil => exact ⟨hconv, hcount⟩
  | cons m l ih =>
    obtain ⟨hm, hms⟩ := hl m List.mem_cons_self
    refine ih (h.moveMessage hm hms) (conversations_moveMessage.trans hconv) ?_ fun x hx =>
      hl x (List.mem_cons_of_mem m hx)
    rw [unreadMessages_moveMessage ht fun x hx hid => ?_, hcount]
    -- The row with this id is in the source, or in the target already.
    rcases h.messages x hx with hx | ⟨y, -, -, rfl⟩
    · rw [eq_of_id hx hm hid, hms]
      exact hs
    · exact ht

theorem exact_mergeConversationAlias (h : s.Exact c)
    : (s.mergeConversationAlias sourceId target).Exact c := by
  unfold mergeConversationAlias
  split
  · exact h
  · rename_i hne
    split
    · exact h
    · rename_i source hsource
      generalize hs₁ : (s.messages.rows.filter (·.conversationId == sourceId)).foldl
        (moveMessage target) s = s₁
      rw [Exact, unreadOf, getConversation_delete]
      by_cases hcs : c = sourceId
      · subst hcs
        rw [if_pos rfl]
        exact (congrArg Nat.cast (unreadMessages_delete_all (s := s₁))).symm
      · rw [if_neg hcs, getConversation_upsertConversation]
        rw [show (mergedConversation source _ target _).id = target.id from rfl]
        by_cases hct : target.id = c
        · subst hct
          rw [if_pos rfl]
          rfl
        · rw [if_neg hct]
          obtain ⟨hconv, hcount⟩ := foldl_moveMessage_other (Ne.symm hcs) hct
            (⟨rfl, fun x hx => .inl hx⟩ : Moves sourceId target s s) rfl rfl
            (l := s.messages.rows.filter (·.conversationId == sourceId))
            fun m hm => ⟨(List.mem_filter.mp hm).1, beq_iff_eq.mp (List.mem_filter.mp hm).2⟩
          rw [hs₁] at hconv hcount
          have hother : unreadMessages
              { s₁ with messages := s₁.messages.delete (·.conversationId == sourceId) } c =
              s₁.unreadMessages c := by
            refine unreadMessages_delete_other fun m _ hm => ?_
            rw [beq_iff_eq.mp hm]
            exact Ne.symm hcs
          have hu : s₁.getConversation c = s.getConversation c := by
            rw [getConversation, hconv]
            rfl
          exact (congrArg (fun x => (Option.map ChatConversation.unreadCount x).getD 0) hu).trans
            (h.trans (congrArg Nat.cast (hother.trans hcount)).symm)

/-! ## Storing a message -/

/-- The counter sees what a message does that is stored: if it is counted, it takes the place of no
unread message, or of itself while it was unread here; if not, of no unread message elsewhere. -/
def Sees (s : ChatStorage) (m : ChatMessageRecord) (increment : Bool) : Prop :=
  if increment then
    (∀ r ∈ s.messages.rows, messagesSchema.clash r m = true → r.direction = .incoming →
        r.isRead = false → r.id = m.id) ∧
      ∀ r ∈ s.messages.rows, r.id = m.id → isUnreadIn m.conversationId r = true
  else
    ∀ r ∈ s.messages.rows, messagesSchema.clash r m = true → r.direction = .incoming →
      r.isRead = false → r.conversationId = m.conversationId

instance (m : ChatMessageRecord) (increment : Bool) : Decidable (s.Sees m increment) :=
  inferInstanceAs (Decidable (ite _ _ _))

theorem unreadOf_touchConversation {increment : Bool} :
    (s.touchConversation m increment).unreadOf c =
      s.unreadOf c + if c = m.conversationId ∧ increment = true then 1 else 0 := by
  unfold touchConversation
  cases hm : s.getConversation m.conversationId with
  | none =>
    rw [unreadOf, getConversation_upsertConversation]
    by_cases hc : m.conversationId = c
    · subst hc
      simp [unreadOf, hm]
    · simp [hc, Ne.symm hc, unreadOf]
  | some x =>
    rw [unreadOf_updateConversation]
    by_cases hc : c = m.conversationId
    · subst hc
      cases increment <;> simp [unreadOf, hm]
    · simp [hc]

/-- The unread messages that make room for a message. -/
def displaced (s : ChatStorage) (c : String) (m : ChatMessageRecord) : Nat :=
  s.messages.rows.countP fun r => isUnreadIn c r && messagesSchema.clash r m

theorem unreadMessages_upsertMessage (hfree : s.isMessageDeleted m = false)
    (attachment : Option ChatAttachmentRecord) (increment : Bool) (c : String) :
    (s.upsertMessage m attachment increment).unreadMessages c + s.displaced c m =
      s.unreadMessages c + if isUnreadIn c m then 1 else 0 := by
  unfold unreadMessages
  rw [messages_upsertMessage hfree]
  exact Table.countP_insertOrReplace (isUnreadIn c)

theorem unreadOf_upsertMessage (hfree : s.isMessageDeleted m = false)
    (attachment : Option ChatAttachmentRecord) (increment : Bool) (c : String) :
    (s.upsertMessage m attachment increment).unreadOf c = s.unreadOf c +
      if c = m.conversationId ∧ (increment && !s.messages.rows.any (·.id == m.id)) = true
      then 1 else 0 := by
  rw [upsertMessage_of_free hfree, unreadOf_touchConversation]
  rfl

theorem displaced_eq_zero
    (h : ∀ r ∈ s.messages.rows, messagesSchema.clash r m = true → r.direction = .incoming →
      r.isRead = false → r.conversationId ≠ c) : s.displaced c m = 0 := by
  refine List.countP_eq_zero.mpr fun r hr hcount => ?_
  simp only [isUnreadIn, Bool.and_eq_true, beq_iff_eq, Bool.not_eq_true'] at hcount
  obtain ⟨⟨⟨hrc, hdir⟩, hread⟩, hclash⟩ := hcount
  exact h r hr hclash hdir hread hrc

/-- A message that is stored already is displaced by itself alone. -/
theorem displaced_eq_one {r₀ : ChatMessageRecord} (hr₀ : r₀ ∈ s.messages.rows)
    (hid : r₀.id = m.id) (h : s.Sees m true) : s.displaced m.conversationId m = 1 := by
  obtain ⟨hother, hself⟩ := h
  have hcongr : s.displaced m.conversationId m = s.messages.rows.countP (·.id == m.id) := by
    refine List.countP_congr fun r hr => ?_
    simp only [Bool.and_eq_true, beq_iff_eq]
    constructor
    · rintro ⟨hu, hclash⟩
      simp only [isUnreadIn, Bool.and_eq_true, beq_iff_eq, Bool.not_eq_true'] at hu
      exact hother r hr hclash hu.1.2 hu.2
    · intro hrid
      exact ⟨hself r hr hrid, by simp [messagesSchema, hrid]⟩
  have hkey : ∀ x y : ChatMessageRecord, (x.id == m.id) = true → (y.id == m.id) = true →
      messagesSchema.clash x y = true := by
    intro x y hx hy
    simp [messagesSchema, beq_iff_eq.mp hx, beq_iff_eq.mp hy]
  have hfind : s.messages.find (·.id == m.id) = some r₀ :=
    (Table.find_eq_some hkey).mpr ⟨hr₀, beq_iff_eq.mpr hid⟩
  rw [hcongr, List.countP_eq_length_filter, Table.filter_eq_find hkey, hfind]
  rfl

/-- A counted message, new or again. -/
theorem exact_upsertMessage (hfree : s.isMessageDeleted m = false)
    (hm : isUnreadIn m.conversationId m = true)
    (hsees : s.Sees m true) (h : s.Exact c) : (s.upsertMessage m attachment true).Exact c := by
  have hu := unreadOf_upsertMessage hfree attachment true c
  have hcount := unreadMessages_upsertMessage hfree attachment true c
  simp only [isUnreadIn, Bool.and_eq_true, beq_iff_eq, Bool.not_eq_true'] at hm
  have hmc : isUnreadIn c m = decide (c = m.conversationId) := by
    rw [Bool.eq_iff_iff]
    simp only [isUnreadIn, hm.1.2, hm.2, Bool.and_eq_true, beq_iff_eq, Bool.not_false, and_true,
      decide_eq_true_eq]
    exact eq_comm
  rw [Exact] at h ⊢
  by_cases hex : ∃ r₀ ∈ s.messages.rows, r₀.id = m.id
  · obtain ⟨r₀, hr₀, hid⟩ := hex
    have hany : s.messages.rows.any (·.id == m.id) = true :=
      List.any_eq_true.mpr ⟨r₀, hr₀, beq_iff_eq.mpr hid⟩
    simp only [hany, Bool.not_true, Bool.and_false, Bool.false_eq_true, and_false, if_false] at hu
    by_cases hc : c = m.conversationId
    · subst hc
      rw [displaced_eq_one hr₀ hid hsees, hmc] at hcount
      simp only [decide_true, if_true] at hcount
      omega
    · have hzero : s.displaced c m = 0 := by
        refine displaced_eq_zero fun r hr hclash hdir hread hrc => ?_
        -- What is displaced is the message itself, which is in another conversation.
        have hrm := hsees.2 r hr (hsees.1 r hr hclash hdir hread)
        simp only [isUnreadIn, Bool.and_eq_true, beq_iff_eq] at hrm
        exact hc (hrc.symm.trans hrm.1.1)
      rw [hzero, hmc] at hcount
      simp only [hc, decide_false, Bool.false_eq_true, if_false] at hcount
      omega
  · have hany : s.messages.rows.any (·.id == m.id) = false := by
      refine List.any_eq_false.mpr fun r hr hid => hex ⟨r, hr, beq_iff_eq.mp hid⟩
    have hzero : s.displaced c m = 0 :=
      displaced_eq_zero fun r hr hclash hdir hread _ =>
        hex ⟨r, hr, hsees.1 r hr hclash hdir hread⟩
    rw [hzero, hmc] at hcount
    simp only [hany, Bool.not_false, Bool.and_true, and_true] at hu
    by_cases hc : c = m.conversationId
    · simp only [hc, decide_true, if_true] at hu hcount h ⊢
      omega
    · simp only [hc, decide_false, Bool.false_eq_true, if_false] at hu hcount
      omega

/-- A message that is read at once, seen from the other conversations. -/
theorem exact_upsertMessage_other (hfree : s.isMessageDeleted m = false)
    (hsees : s.Sees m false) (hc : c ≠ m.conversationId) (h : s.Exact c) :
    (s.upsertMessage m attachment false).Exact c := by
  have hu := unreadOf_upsertMessage hfree attachment false c
  have hcount := unreadMessages_upsertMessage hfree attachment false c
  have hzero : s.displaced c m = 0 :=
    displaced_eq_zero fun r hr hclash hdir hread hrc =>
      hc (hrc.symm.trans (hsees r hr hclash hdir hread))
  have hmc : isUnreadIn c m = false := by
    simp [isUnreadIn, Ne.symm hc]
  rw [hzero, hmc] at hcount
  simp only [Bool.false_eq_true, if_false] at hcount
  simp only [hc, false_and, if_false] at hu
  rw [Exact] at h ⊢
  omega

end ChatStorage

/-! ## Handlers -/

/-- How far the handler of a message is. `read` has what it read: the manager and the database. -/
inductive ReceivePhase
  | arrived
  | checked
  | read (e : ChatManager) (seen : ChatStorage)
  | written (e : ChatManager) (seen : ChatStorage)
  | marking
  | done

def ReceivePhase.isDone : ReceivePhase → Bool
  | .done => true
  | _ => false

/-- The handler of a message with its local ids. -/
structure Receive where
  m : ChatMessageRecord
  attachment : Option ChatAttachmentRecord
  phase : ReceivePhase

structure ReceiveState where
  storage : ChatStorage
  receives : List Receive

inductive ReceiveOp
  | arrive (m : ChatMessageRecord) (attachment : Option ChatAttachmentRecord)
  /-- `isMessageDeleted`. -/
  | check (i : Nat)
  /-- `getConversation`. -/
  | read (i : Nat) (e : ChatManager)
  /-- `upsertConversation`. -/
  | write (i : Nat)
  /-- `upsertMessage`. -/
  | store (i : Nat)
  /-- `markConversationRead` at the end of a handler. -/
  | mark (i : Nat) (now : Int)
  | markConversationRead (conversationId : String) (now : Int)
  | deleteMessage (messageId : String) (now : Int)
  | clearConversationMessages (conversationId : String) (now : Int)
  | mergeConversationAlias (sourceId : String) (target : ChatConversation)

namespace ReceiveState

variable (s : ReceiveState)

def setPhase (i : Nat) (t : Receive) (phase : ReceivePhase) : List Receive :=
  s.receives.set i { t with phase }

def apply : ReceiveOp → ReceiveState
  | .arrive m attachment =>
    if m.conversationType = .direct then
      { s with receives := ⟨m, attachment, .arrived⟩ :: s.receives }
    else s
  | .check i =>
    match s.receives[i]? with
    | some ⟨m, a, .arrived⟩ => { s with
        receives := s.setPhase i ⟨m, a, .arrived⟩
          (if s.storage.isMessageDeleted m then .done else .checked) }
    | _ => s
  | .read i e =>
    match s.receives[i]? with
    | some ⟨m, a, .checked⟩ => { s with
        receives := s.setPhase i ⟨m, a, .checked⟩ (.read e s.storage) }
    | _ => s
  | .write i =>
    match s.receives[i]? with
    | some ⟨m, a, .read e seen⟩ => {
        storage := s.storage.upsertConversation (e.incomingConversation seen m)
        receives := s.setPhase i ⟨m, a, .read e seen⟩ (.written e seen) }
    | _ => s
  | .store i =>
    match s.receives[i]? with
    | some ⟨m, a, .written e seen⟩ => {
        storage := s.storage.upsertMessage (e.localMessage seen m) a (e.isUnread seen m)
        receives := s.setPhase i ⟨m, a, .written e seen⟩
          (if e.isUnread seen m then .done else .marking) }
    | _ => s
  | .mark i now =>
    match s.receives[i]? with
    | some ⟨m, a, .marking⟩ => {
        storage := s.storage.markConversationRead m.conversationId now
        receives := s.setPhase i ⟨m, a, .marking⟩ .done }
    | _ => s
  | .markConversationRead conversationId now =>
    { s with storage := s.storage.markConversationRead conversationId now }
  | .deleteMessage messageId now => { s with storage := (s.storage.deleteMessage messageId now).1 }
  | .clearConversationMessages conversationId now =>
    { s with storage := (s.storage.clearConversationMessages conversationId now).1 }
  | .mergeConversationAlias sourceId target =>
    { s with storage := s.storage.mergeConversationAlias sourceId target }

/-- At first the counters are exact and no handler runs. -/
def sys : Sys ReceiveState ReceiveOp :=
  .ofFun (fun s => (∀ c, s.storage.Exact c) ∧ s.receives = []) apply

/-- What the handler needs for its next step: the counter of the conversation that it writes back
is the one that it read, and the counter sees what the message does that it stores. -/
def CarefulStep : Receive → Prop
  | ⟨m, _, .read _ seen⟩ =>
      s.storage.unreadOf m.conversationId = seen.unreadOf m.conversationId
  | ⟨m, _, .written e seen⟩ => s.storage.isMessageDeleted (e.localMessage seen m) = true ∨
      s.storage.Sees (e.localMessage seen m) (e.isUnread seen m)
  | _ => True

instance : ∀ t, Decidable (s.CarefulStep t)
  | ⟨_, _, .read _ _⟩ => inferInstanceAs (Decidable (_ = _))
  | ⟨_, _, .written _ _⟩ => inferInstanceAs (Decidable (_ ∨ _))
  | ⟨_, _, .arrived⟩ | ⟨_, _, .checked⟩ | ⟨_, _, .marking⟩ | ⟨_, _, .done⟩ =>
      inferInstanceAs (Decidable True)

def Careful : ReceiveOp → Prop
  | .write i | .store i => ∀ t ∈ s.receives[i]?, s.CarefulStep t
  | _ => True

instance : ∀ op, Decidable (s.Careful op)
  | .write _ | .store _ => inferInstanceAs (Decidable (∀ _ ∈ _, _))
  | .arrive _ _ | .check _ | .read _ _ | .mark _ _ | .markConversationRead _ _
  | .deleteMessage _ _ | .clearConversationMessages _ _ | .mergeConversationAlias _ _ =>
      inferInstanceAs (Decidable True)

/-- No handler runs. -/
def Quiescent : Prop := ∀ t ∈ s.receives, t.phase.isDone = true

instance : Decidable s.Quiescent := inferInstanceAs (Decidable (∀ _ ∈ _, _))

variable {s}

variable {e : ChatManager} {m : ChatMessageRecord} {c : String}

/-- The steps of one handler without others are `ChatManager.store`. -/
theorem sequential {a : Option ChatAttachmentRecord} {storage : ChatStorage}
    (hdirect : m.conversationType = .direct) (hfree : storage.isMessageDeleted m = false) :
    ([ReceiveOp.arrive m a, .check 0, .read 0 e, .write 0, .store 0, .mark 0 e.now].foldl apply
      ⟨storage, []⟩).storage = e.store storage m a := by
  cases hu : e.isUnread storage m <;>
    simp [apply, setPhase, hdirect, hfree, hu, ChatManager.store, ChatManager.upserted]

/-! ## The invariant -/

/-- Each counter is exact, or a handler still has to mark its conversation. -/
def Inv (s : ReceiveState) : Prop :=
  ∀ c, s.storage.Exact c ∨ ∃ t ∈ s.receives, t.phase = .marking ∧ t.m.conversationId = c

variable {i : Nat} {t : Receive}

/-- The other handlers stay when one goes on. -/
theorem mem_setPhase {u : Receive} {phase : ReceivePhase}
    (ht : s.receives[i]? = some t) (hu : u ∈ s.receives) (hne : u ≠ t) :
    u ∈ s.setPhase i t phase := by
  obtain ⟨j, hj⟩ := List.mem_iff_getElem?.mp hu
  have hij : i ≠ j := by
    rintro rfl
    exact hne (Option.some.inj (hj.symm.trans ht))
  refine List.mem_iff_getElem?.mpr ⟨j, ?_⟩
  rw [setPhase, List.getElem?_set_ne hij]
  exact hj

/-- A handler that does not have to mark goes on: what holds of one conversation. -/
theorem Inv.go_at (h : s.Inv) (ht : s.receives[i]? = some t)
    (hphase : t.phase ≠ .marking) (phase : ReceivePhase) {storage : ChatStorage}
    (hexact : s.storage.Exact c → storage.Exact c) :
    storage.Exact c ∨ ∃ u ∈ s.setPhase i t phase, u.phase = .marking ∧ u.m.conversationId = c := by
  rcases h c with hc | ⟨u, hu, hmark, huc⟩
  · exact .inl (hexact hc)
  · refine .inr ⟨u, mem_setPhase ht hu ?_, hmark, huc⟩
    rintro rfl
    exact hphase hmark

theorem Inv.go (h : s.Inv) (ht : s.receives[i]? = some t)
    (hphase : t.phase ≠ .marking) (phase : ReceivePhase) {storage : ChatStorage}
    (hexact : ∀ c, s.storage.Exact c → storage.Exact c) : Inv ⟨storage, s.setPhase i t phase⟩ :=
  fun c => h.go_at ht hphase phase (hexact c)

theorem Inv.storage (h : s.Inv) {storage : ChatStorage}
    (hexact : ∀ c, s.storage.Exact c → storage.Exact c) : Inv { s with storage } :=
  fun c => (h c).imp_left (hexact c)

/-- The conversation is written back with the counter that it has. -/
theorem exact_write {storage seen : ChatStorage}
    (hsame : storage.unreadOf m.conversationId = seen.unreadOf m.conversationId)
    (h : storage.Exact c) :
    (storage.upsertConversation (e.incomingConversation seen m)).Exact c := by
  refine h.of_same ?_ rfl
  rw [ChatStorage.unreadOf, ChatStorage.getConversation_upsertConversation]
  by_cases hc : (e.incomingConversation seen m).id = c
  · rw [if_pos hc]
    have hmc : m.conversationId = c := hc
    rw [← hmc, hsame]
    rfl
  · rw [if_neg hc]
    rfl

theorem Inv.store (h : s.Inv) (hc : s.Careful (.store i)) : (s.apply (.store i)).Inv := by
  simp only [ReceiveState.apply]
  split
  · rename_i m a e seen ht
    have hcase : s.CarefulStep ⟨m, a, .written e seen⟩ := hc _ ht
    cases hdel : s.storage.isMessageDeleted (e.localMessage seen m) with
    | true =>
      -- It was deleted in between, and nothing is stored.
      rw [ChatStorage.upsertMessage_of_deleted hdel]
      exact h.go ht (by simp) _ fun c hx => hx
    | false =>
      have hsees := hcase.resolve_left (by rw [hdel]; exact Bool.false_ne_true)
      cases hu : e.isUnread seen m with
      | true =>
        rw [hu] at hsees
        refine h.go ht (by simp) _ fun c hx => ?_
        refine ChatStorage.exact_upsertMessage hdel ?_ hsees hx
        simp [ChatStorage.isUnreadIn, ChatManager.localMessage, hu]
      | false =>
        rw [hu] at hsees
        intro c
        by_cases hcm : c = m.conversationId
        · -- The conversation is marked in the next step.
          subst hcm
          obtain ⟨hi, -⟩ := List.getElem?_eq_some_iff.mp ht
          refine .inr ⟨⟨m, a, .marking⟩, ?_, rfl, rfl⟩
          exact List.mem_iff_getElem?.mpr ⟨i, by simp [setPhase, hi]⟩
        · exact h.go_at ht (by simp) .marking fun hx =>
            ChatStorage.exact_upsertMessage_other hdel hsees hcm hx
  · exact h

theorem Inv.mark (h : s.Inv) (i : Nat) (now : Int) : (s.apply (.mark i now)).Inv := by
  simp only [ReceiveState.apply]
  split
  · rename_i m a ht
    intro c
    by_cases hc : c = m.conversationId
    · exact .inl (ChatStorage.exact_markConversationRead (.inl hc))
    · rcases h c with hx | ⟨u, hu, hmark, huc⟩
      · exact .inl (ChatStorage.exact_markConversationRead (.inr hx))
      · refine .inr ⟨u, mem_setPhase ht hu ?_, hmark, huc⟩
        rintro rfl
        exact hc huc.symm
  · exact h

theorem Inv.apply (h : s.Inv) {op : ReceiveOp} (hc : s.Careful op) : (s.apply op).Inv := by
  cases op with
  | arrive m a =>
    simp only [ReceiveState.apply]
    split
    · exact fun c => (h c).imp_right fun ⟨u, hu, hmark⟩ => ⟨u, List.mem_cons_of_mem _ hu, hmark⟩
    · exact h
  | check i | read i e =>
    simp only [ReceiveState.apply]
    split
    · rename_i m a ht
      exact h.go ht (by simp) _ fun c hx => hx
    · exact h
  | write i =>
    simp only [ReceiveState.apply]
    split
    · rename_i m a e seen ht
      exact h.go ht (by simp) _ fun c hx => exact_write (hc _ ht) hx
    · exact h
  | store i => exact h.store hc
  | mark i now => exact h.mark i now
  | markConversationRead =>
    exact h.storage fun c hx => ChatStorage.exact_markConversationRead (.inr hx)
  | deleteMessage => exact h.storage fun c hx => ChatStorage.exact_deleteMessage hx
  | clearConversationMessages =>
    exact h.storage fun c hx => ChatStorage.exact_clearConversationMessages hx
  | mergeConversationAlias =>
    exact h.storage fun c hx => ChatStorage.exact_mergeConversationAlias hx

theorem inv_of_reach (h : sys.ReachWith Careful s) : s.Inv := by
  refine h.invariant (I := Inv) ?_ ?_
  · rintro s ⟨hexact, -⟩ c
    exact .inl (hexact c)
  · rintro s op s' hs hc rfl
    exact hs.apply hc

/-- In careful runs, when no handler runs, the counter of each direct conversation is the number of
its unread messages, and the total is the number over all direct conversations. -/
theorem unread_exact (h : sys.ReachWith Careful s) (hq : s.Quiescent) :
    (∀ x ∈ s.storage.conversations.rows, x.type = .direct →
        x.unreadCount = s.storage.unreadMessages x.id) ∧
      s.storage.loadPrivateUnreadTotal =
        ((s.storage.conversations.rows.filter (·.type == .direct)).map
          fun x => (s.storage.unreadMessages x.id : Int)).sum := by
  have hall : ∀ x ∈ s.storage.conversations.rows,
      x.unreadCount = s.storage.unreadMessages x.id := by
    intro x hx
    have hfind : s.storage.getConversation x.id = some x :=
      (Table.find_eq_some (ChatStorage.conversation_clash x.id)).mpr ⟨hx, beq_self_eq_true _⟩
    rcases inv_of_reach h x.id with hexact | ⟨t, ht, hmark, -⟩
    · rw [ChatStorage.Exact, ChatStorage.unreadOf, hfind] at hexact
      exact hexact
    · have hdone := hq t ht
      rw [hmark] at hdone
      cases hdone
  refine ⟨fun x hx _ => hall x hx, congrArg List.sum (List.map_congr_left fun x hx => ?_)⟩
  exact hall x (List.mem_filter.mp hx).1

/-! ## Two messages of one chat -/

def start : ReceiveState := ⟨.init, []⟩

theorem init_start : sys.init start := ⟨fun _ => rfl, rfl⟩

/-- The handler of the first message ends before that of the second reads. -/
def oneAfterOther : List ReceiveOp :=
  [.arrive (ChatStorage.textFrom "m1" "dm" 1) none, .check 0, .read 0 ChatManager.device, .write 0,
    .store 0, .arrive (ChatStorage.textFrom "m2" "dm" 2) none, .check 0,
    .read 0 ChatManager.device, .write 0, .store 0]

theorem unread_exact_oneAfterOther :
    (oneAfterOther.foldl apply start).storage.unreadMessages "dm" = 2 ∧
      ∀ x ∈ (oneAfterOther.foldl apply start).storage.conversations.rows, x.type = .direct →
        x.unreadCount = (oneAfterOther.foldl apply start).storage.unreadMessages x.id := by
  have hreach : sys.ReachWith Careful (oneAfterOther.foldl apply start) :=
    Sys.ReachWith.foldl (Sys.ReachWith.init (S := sys) (C := Careful) init_start)
      (by decide +kernel)
  exact ⟨by decide +kernel, (unread_exact hreach (by decide +kernel)).1⟩

/-- Both handlers read the conversation, and the second writes it back after the first counted. -/
def together : List ReceiveOp :=
  [.arrive (ChatStorage.textFrom "m1" "dm" 1) none, .arrive (ChatStorage.textFrom "m2" "dm" 2) none,
    .check 0, .check 1, .read 0 ChatManager.device, .read 1 ChatManager.device, .write 0, .store 0,
    .write 1, .store 1]

/-- Two unread messages, and the counter and the total are one. -/
theorem written_back :
    sys.Reach (together.foldl apply start) ∧ (together.foldl apply start).Quiescent ∧
      (together.foldl apply start).storage.unreadMessages "dm" = 2 ∧
      (together.foldl apply start).storage.conversations.rows.map
          (fun x => (x.id, x.type, x.unreadCount)) = [("dm", .direct, 1)] ∧
      (together.foldl apply start).storage.loadPrivateUnreadTotal = 1 :=
  ⟨Sys.Reach.foldl (Sys.Reach.init (S := sys) init_start) _, by decide +kernel, by decide +kernel,
    by decide +kernel, by decide +kernel⟩

end ReceiveState

end Chat

end Vntc
