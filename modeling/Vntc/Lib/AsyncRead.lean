import Vntc.Lib.Bytes

/-!
# Streams that are polled

A reader polls a stream with room for a number of bytes and gets some of them, or nothing yet, or an
error. A stream of which only the bytes are known answers in any way: `Script` has the bytes that
are left and an answer for each poll to come.
-/

namespace Lib

/-- How a read fails. -/
inductive IoError
  /-- The stream failed. -/
  | inner
  | unexpectedEof
  | tooSmall
  deriving DecidableEq

/-- The answer to a poll, as the reader sees it. -/
inductive PollRead
  | pending
  | ready (bytes : Bytes)
  | failed (e : IoError)
  deriving DecidableEq

namespace PollRead

/-- What a poll gives. -/
def bytes : PollRead → Bytes
  | .ready b => b
  | _ => []

/-- The buffer has `b` already. The reader looks at it only if the poll is ready. -/
def after (b : Bytes) : PollRead → PollRead
  | .ready b' => .ready (b ++ b')
  | r => r

theorem after_eq_failed {b : Bytes} {r : PollRead} {e : IoError} :
    r.after b = .failed e ↔ r = .failed e := by
  cases r <;> simp [after]

/-- The bytes that a reader gets from a sequence of polls. -/
def delivered (rs : List PollRead) : Bytes := rs.flatMap bytes

end PollRead

/-- How a stream answers a poll. -/
inductive Answer
  | pending
  /-- Up to `n + 1` of the bytes that are left. -/
  | ready (n : Nat)
  | fail
  deriving DecidableEq

/-- A stream that answers by a script, and never again after it. -/
structure Script where
  rest : Bytes
  answers : List Answer
  deriving DecidableEq

namespace Script

/-- A poll. -/
def pollRead (s : Script) (room : Nat) : Script × PollRead :=
  match s.answers with
  | [] => (s, .pending)
  | .pending :: answers => (⟨s.rest, answers⟩, .pending)
  | .fail :: answers => (⟨s.rest, answers⟩, .failed .inner)
  | .ready n :: answers =>
    (⟨s.rest.drop (min (n + 1) room), answers⟩, .ready (s.rest.take (min (n + 1) room)))

/-- A poll delivers the next bytes. -/
theorem pollRead_bytes (s : Script) (room : Nat) :
    (s.pollRead room).2.bytes ++ (s.pollRead room).1.rest = s.rest := by
  obtain ⟨rest, answers⟩ := s
  match answers with
  | [] | .pending :: _ | .fail :: _ => rfl
  | .ready n :: answers => exact List.take_append_drop _ _

theorem pollRead_pending {s : Script} {room : Nat} :
    (s.pollRead room).2 = .pending ↔ s.answers.head?.getD .pending = .pending := by
  obtain ⟨rest, answers⟩ := s
  match answers with
  | [] | .pending :: _ | .fail :: _ | .ready _ :: _ => simp [pollRead]

/-- A poll fails if the script says so, and in no other way. -/
theorem pollRead_failed {s : Script} {room : Nat} {e : IoError} :
    (s.pollRead room).2 = .failed e ↔ e = .inner ∧ s.answers.head? = some .fail := by
  obtain ⟨rest, answers⟩ := s
  match answers with
  | [] | .pending :: _ | .fail :: _ | .ready _ :: _ => simp [pollRead, eq_comm]

theorem pollRead_answers (s : Script) (room : Nat) :
    (s.pollRead room).1.answers = s.answers.tail := by
  obtain ⟨rest, answers⟩ := s
  match answers with
  | [] | .pending :: _ | .fail :: _ | .ready _ :: _ => rfl

/-- The result of polls for a number of bytes. -/
inductive Exact
  | waiting
  | failed (e : IoError)
  | done (bytes : Bytes) (s : Script)
  deriving DecidableEq

/-- Polls until `n` bytes are there, `got` among them. -/
def readExact (n : Nat) (rest got : Bytes) : List Answer → Exact
  | [] => .waiting
  | .pending :: answers => readExact n rest got answers
  | .fail :: _ => .failed .inner
  | .ready k :: answers =>
    let size := min (k + 1) (n - got.length)
    let got' := got ++ rest.take size
    if rest.take size = [] then .failed .unexpectedEof
    else if n ≤ got'.length then .done got' ⟨rest.drop size, answers⟩
    else readExact n (rest.drop size) got' answers

/-- The bytes that were asked for are the first ones. -/
theorem readExact_done {n : Nat} {rest got bytes : Bytes} {answers : List Answer} {s : Script}
    (hg : got.length ≤ n) (h : readExact n rest got answers = .done bytes s) :
    bytes.length = n ∧ bytes ++ s.rest = got ++ rest := by
  induction answers generalizing rest got with
  | nil => cases h
  | cons a answers ih =>
    cases a with
    | pending => exact ih hg h
    | fail => cases h
    | ready k =>
      have hl : (got ++ rest.take (min (k + 1) (n - got.length))).length ≤ n := by
        rw [List.length_append, List.length_take]
        omega
      simp only [readExact] at h
      split at h
      · cases h
      split at h
      · rename_i hn
        cases h
        exact ⟨by omega, by rw [List.append_assoc, List.take_append_drop]⟩
      · have := ih hl h
        rwa [List.append_assoc, List.take_append_drop] at this

end Script

/-! ## Sequences of polls -/

/-- Polls of a stream with the given room each. -/
def polls {σ : Type} (poll : σ → Nat → σ × PollRead) (s : σ) : List Nat → σ × List PollRead
  | [] => (s, [])
  | room :: rooms =>
    let r := poll s room
    let rs := polls poll r.1 rooms
    (rs.1, r.2 :: rs.2)

namespace Script

/-- Polls deliver the next bytes in order. -/
theorem delivered_polls (s : Script) (rooms : List Nat) :
    PollRead.delivered (polls pollRead s rooms).2 ++ (polls pollRead s rooms).1.rest = s.rest := by
  induction rooms generalizing s with
  | nil => rfl
  | cons room rooms ih =>
    simp only [polls, PollRead.delivered, List.flatMap_cons, List.append_assoc]
    rw [← pollRead_bytes s room]
    exact congrArg _ (ih _)

theorem tooSmall_notMem_polls (s : Script) (rooms : List Nat) :
    .failed .tooSmall ∉ (polls pollRead s rooms).2 := by
  induction rooms generalizing s with
  | nil => exact List.not_mem_nil
  | cons room rooms ih =>
    intro h
    rcases List.mem_cons.mp h with h | h
    · cases (pollRead_failed.mp h.symm).1
    · exact ih _ h

/-- Polls fail if the script says so in time. -/
theorem inner_mem_polls (s : Script) (rooms : List Nat) :
    .failed .inner ∈ (polls pollRead s rooms).2 ↔ .fail ∈ s.answers.take rooms.length := by
  induction rooms generalizing s with
  | nil => simp [polls]
  | cons room rooms ih =>
    simp only [polls, List.mem_cons, ih, pollRead_answers, List.length_cons]
    rw [eq_comm, pollRead_failed]
    cases s.answers with
    | nil => simp
    | cons a answers => simp [eq_comm]

end Script

end Lib
