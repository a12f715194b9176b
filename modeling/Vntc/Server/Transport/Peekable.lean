import Vntc.Lib.AsyncRead

/-!
# Telling protocols apart by their first bytes

A TLS connection of a server carries frames or a WebSocket. The server reads the first four bytes
(`PeekableStream::peek` of `server/tcp_websocket.rs`) and gives the handler of the protocol a stream
that starts with them again (`PeekableStreamWrapper`).

The first poll of that stream takes the four bytes out of the wrapper before it knows whether there
is room for them, and before it knows whether the poll will be ready.
-/

namespace Vntc

open Lib

/-- The stream after `peek`. -/
structure PeekableStreamWrapper (σ : Type) where
  stream : σ
  peeked : Option (BitVec 32)
  deriving DecidableEq

namespace PeekableStreamWrapper

section
variable {σ : Type} (poll : σ → Nat → σ × PollRead)

def pollRead (w : PeekableStreamWrapper σ) (room : Nat) : PeekableStreamWrapper σ × PollRead :=
  match w.peeked with
  | some peeked =>
    if room < 4 then (⟨w.stream, none⟩, .failed .tooSmall)
    else
      let r := poll w.stream (room - 4)
      (⟨r.1, none⟩, r.2.after (Bytes.ofU32 peeked))
  | none =>
    let r := poll w.stream room
    (⟨r.1, none⟩, r.2)

/-- After the first poll the wrapper is the stream. -/
theorem polls_none (s : σ) (rooms : List Nat) :
    polls (pollRead poll) ⟨s, none⟩ rooms =
      (⟨(polls poll s rooms).1, none⟩, (polls poll s rooms).2) := by
  induction rooms generalizing s with
  | nil => rfl
  | cons room rooms ih =>
    simp only [polls, pollRead]
    rw [ih]

end

/-- `peek`: the stream is read with `read_u32`. -/
def peek (bytes : Bytes) (answers : List Answer) : Option (PeekableStreamWrapper Script) :=
  match Script.readExact 4 bytes [] answers with
  | .done word s => some ⟨s, some (word.readU32 0)⟩
  | _ => none

/-- The bytes that are still to be read. -/
def remaining (w : PeekableStreamWrapper Script) : Bytes :=
  (w.peeked.map Bytes.ofU32).getD [] ++ w.stream.rest

/-- No read fails on its own, and as long as the stream does not fail, what was read and what is
still to be read are the stream. -/
def Transparent (bytes : Bytes) (r : PeekableStreamWrapper Script × List PollRead) : Prop :=
  .failed .tooSmall ∉ r.2 ∧
    (.failed .inner ∉ r.2 → PollRead.delivered r.2 ++ r.1.remaining = bytes)

/-- The first read has room for the four bytes, and the stream is ready then (or fails later). -/
def FirstReady (s : Script) (rooms : List Nat) : Prop :=
  ∀ room ∈ rooms.head?, 4 ≤ room ∧
    (s.answers.head?.getD .pending = .pending → .fail ∈ s.answers.take rooms.length)

theorem remaining_peek {bytes : Bytes} {answers : List Answer} {w : PeekableStreamWrapper Script}
    (h : peek bytes answers = some w) : w.peeked.isSome = true ∧ w.remaining = bytes := by
  unfold peek at h
  split at h
  · rename_i word s hd
    cases h
    obtain ⟨hl, he⟩ := Script.readExact_done (Nat.zero_le _) hd
    refine ⟨rfl, ?_⟩
    rw [remaining, Option.map_some, Option.getD_some, Bytes.ofU32_readU32 hl]
    exact he
  · cases h

/-- The bytes of the first poll and those that are left, by the answer of the stream. -/
theorem first_bytes (s : Script) (word : Bytes) (hw : word ≠ []) (room : Nat) :
    ((s.pollRead room).2.after word).bytes ++ (s.pollRead room).1.rest = word ++ s.rest ↔
      ∃ b, (s.pollRead room).2 = .ready b := by
  have hb := s.pollRead_bytes room
  cases hr : (s.pollRead room).2 with
  | ready b =>
    rw [hr] at hb
    refine ⟨fun _ => ⟨b, rfl⟩, fun _ => ?_⟩
    show (word ++ b) ++ _ = _
    rw [List.append_assoc, ← hb]
    rfl
  | pending | failed =>
    rw [hr] at hb
    have hb : (s.pollRead room).1.rest = s.rest := hb
    refine ⟨fun he => ?_, fun ⟨b, he⟩ => (by cases he)⟩
    -- The word is missing.
    have he : s.rest = word ++ s.rest := by rw [← hb]; exact he.trans (by rw [hb])
    exact absurd (List.append_left_eq_self.mp he.symm) hw

/-- The polls of a wrapper with a word, when the first has room for it. -/
theorem polls_some (s : Script) (word : BitVec 32) {room : Nat} (h : 4 ≤ room) (rooms : List Nat) :
    polls (pollRead Script.pollRead) ⟨s, some word⟩ (room :: rooms) =
      (⟨(polls Script.pollRead (s.pollRead (room - 4)).1 rooms).1, none⟩,
        (s.pollRead (room - 4)).2.after (Bytes.ofU32 word) ::
          (polls Script.pollRead (s.pollRead (room - 4)).1 rooms).2) := by
  simp only [polls, pollRead, if_neg (Nat.not_lt.mpr h), polls_none]

/-- Without an error, the reads lose nothing if the first one is ready. -/
theorem transparent_of_room (s : Script) (word : BitVec 32) {room : Nat} (h : 4 ≤ room)
    (rooms : List Nat) :
    Transparent (Bytes.ofU32 word ++ s.rest)
        (polls (pollRead Script.pollRead) ⟨s, some word⟩ (room :: rooms)) ↔
      (.fail ∉ s.answers.take (rooms.length + 1) → ∃ b, (s.pollRead (room - 4)).2 = .ready b) := by
  have hsmall : .failed .tooSmall ∉ (polls (pollRead Script.pollRead) ⟨s, some word⟩
      (room :: rooms)).2 := by
    rw [polls_some s word h]
    intro hm
    rcases List.mem_cons.mp hm with hm | hm
    · cases (Script.pollRead_failed.mp (PollRead.after_eq_failed.mp hm.symm)).1
    · exact Script.tooSmall_notMem_polls _ _ hm
  have hinner : .failed .inner ∈ (polls (pollRead Script.pollRead) ⟨s, some word⟩
      (room :: rooms)).2 ↔ .fail ∈ s.answers.take (rooms.length + 1) := by
    rw [polls_some s word h, List.mem_cons, eq_comm, PollRead.after_eq_failed]
    refine Iff.trans ?_ (s.inner_mem_polls ((room - 4) :: rooms))
    simp only [polls, List.mem_cons]
    rw [eq_comm]
  have hbytes : PollRead.delivered (polls (pollRead Script.pollRead) ⟨s, some word⟩
        (room :: rooms)).2 ++ (polls (pollRead Script.pollRead) ⟨s, some word⟩
        (room :: rooms)).1.remaining =
      ((s.pollRead (room - 4)).2.after (Bytes.ofU32 word)).bytes ++
        (s.pollRead (room - 4)).1.rest := by
    rw [polls_some s word h, PollRead.delivered, List.flatMap_cons, List.append_assoc]
    exact congrArg _ (Script.delivered_polls _ rooms)
  have hw : Bytes.ofU32 word ≠ [] := List.cons_ne_nil _ _
  unfold Transparent
  rw [hbytes, first_bytes s _ hw, hinner]
  exact and_iff_right hsmall

/-- The reads lose nothing exactly if the first one has room and is ready. -/
theorem transparent_of_peeked (s : Script) (word : BitVec 32) (rooms : List Nat) :
    Transparent (Bytes.ofU32 word ++ s.rest)
        (polls (pollRead Script.pollRead) ⟨s, some word⟩ rooms) ↔ FirstReady s rooms := by
  cases rooms with
  | nil => exact ⟨fun _ room hr => (by cases hr), fun _ => ⟨List.not_mem_nil, fun _ => rfl⟩⟩
  | cons room rooms =>
    by_cases hroom : room < 4
    · refine iff_of_false (fun h => h.1 ?_) fun h => ?_
      · simp only [polls, pollRead, if_pos hroom]
        exact List.mem_cons_self
      · exact absurd (h room rfl).1 (Nat.not_le.mpr hroom)
    have hroom := Nat.not_lt.mp hroom
    rw [transparent_of_room s word hroom]
    constructor
    · intro h room' hr
      cases hr
      refine ⟨hroom, fun hp => ?_⟩
      by_contra hf
      obtain ⟨b, hb⟩ := h hf
      rw [Script.pollRead_pending.mpr hp] at hb
      cases hb
    · intro h hf
      cases hr : (s.pollRead (room - 4)).2 with
      | ready b => exact ⟨b, rfl⟩
      | pending => exact absurd ((h room rfl).2 (Script.pollRead_pending.mp hr)) hf
      | failed e =>
        refine absurd ?_ hf
        obtain ⟨answers, ha⟩ := List.head?_eq_some_iff.mp (Script.pollRead_failed.mp hr).2
        rw [ha, List.take_succ_cons]
        exact List.mem_cons_self

/-- After `peek`, the reads get the stream in order and lose nothing, and do not fail on their own,
exactly if the first one has room for four bytes and the stream is ready for it. -/
theorem transparent_iff (bytes : Bytes) (answers : List Answer) (w : PeekableStreamWrapper Script)
    (hp : peek bytes answers = some w) (rooms : List Nat) :
    Transparent bytes (polls (pollRead Script.pollRead) w rooms) ↔ FirstReady w.stream rooms := by
  obtain ⟨hs, hb⟩ := remaining_peek hp
  obtain ⟨s, peeked⟩ := w
  obtain ⟨word, rfl⟩ := Option.isSome_iff_exists.mp hs
  rw [← hb]
  exact transparent_of_peeked s word rooms

/-- The first bytes of a client's frame, which come in two pieces, the first of four bytes. -/
def lengthFirst : Script := ⟨[0, 0, 0, 2, 7, 8], [.ready 3, .pending, .ready 99]⟩

/-- The whole frame in one piece. -/
def oneRecord : Script := ⟨[0, 0, 0, 2, 7, 8], [.ready 99, .ready 99]⟩

theorem transparent_oneRecord :
    PollRead.delivered (polls (pollRead Script.pollRead)
        ⟨⟨[7, 8], [.ready 99]⟩, some 2⟩ [8192]).2 = [0, 0, 0, 2, 7, 8] ∧
      Transparent oneRecord.rest (polls (pollRead Script.pollRead)
        ⟨⟨[7, 8], [.ready 99]⟩, some 2⟩ [8192]) :=
  ⟨by decide, (transparent_iff oneRecord.rest oneRecord.answers _ (by decide) [8192]).mpr
    fun room hr => (by cases hr; decide)⟩

/-- The first read of the handler finds no more bytes yet; the next one gets those after the
word. -/
theorem peeked_word_lost :
    peek lengthFirst.rest lengthFirst.answers = some ⟨⟨[7, 8], [.pending, .ready 99]⟩, some 2⟩ ∧
      (polls (pollRead Script.pollRead) ⟨⟨[7, 8], [.pending, .ready 99]⟩, some 2⟩
        [8192, 8192]).2 = [.pending, .ready [7, 8]] ∧
      ¬ Transparent lengthFirst.rest (polls (pollRead Script.pollRead)
        ⟨⟨[7, 8], [.pending, .ready 99]⟩, some 2⟩ [8192, 8192]) := by
  refine ⟨by decide, by decide, fun h => ?_⟩
  have hd := h.2 (by decide)
  revert hd
  decide

end PeekableStreamWrapper

end Vntc
