import Mathlib.Data.List.DropRight

/-!
# The window of packet loss

The app counts lost probes over a window of the last samples (`packet_loss_sample.dart`). A failure
enters the window only after enough failures in a row, so that one lost probe is no loss, and a
probe without a result changes nothing.
-/

namespace Vntc

/-- The last samples, and the failures in a row. -/
structure PacketLossWindow where
  maxSamples : Nat
  consecutiveFailureThreshold : Nat
  samples : List Bool
  consecutiveFailures : Nat

namespace PacketLossWindow

variable (w : PacketLossWindow)

/-- A window without samples. -/
def new (maxSamples consecutiveFailureThreshold : Nat) : PacketLossWindow :=
  ⟨maxSamples, consecutiveFailureThreshold, [], 0⟩

/-- `_append`. -/
def append (sample : Bool) : PacketLossWindow :=
  let samples := w.samples ++ [sample]
  { w with samples := if w.maxSamples < samples.length then samples.tail else samples }

/-- A sample, and what it counts as. -/
def record : Option Bool → PacketLossWindow × Option Bool
  | none => (w, none)
  | some true => (append { w with consecutiveFailures := 0 } true, some true)
  | some false =>
    let w := { w with consecutiveFailures := w.consecutiveFailures + 1 }
    if w.consecutiveFailures < w.consecutiveFailureThreshold then (w, none)
    else (w.append false, some false)

/-- The losses of `lossRate`. -/
def failed : Nat := (w.samples.filter (!·)).length

/-- A history of samples. -/
def recordAll (history : List (Option Bool)) : PacketLossWindow :=
  history.foldl (fun w sample => (w.record sample).1) w

/-! ## What the history adds -/

/-- The failures since the last success. -/
def failures (past : List (Option Bool)) : Nat :=
  (past.reverse.takeWhile (· != some true)).count (some false)

/-- The sample of a probe after `past`: a failure counts from the `threshold`-th since the last
success on. -/
def counted (threshold : Nat) (past : List (Option Bool)) : Option Bool → List Bool
  | none => []
  | some true => [true]
  | some false => if threshold ≤ failures past + 1 then [false] else []

/-- What the samples of a history count as. -/
def filtered (threshold : Nat) (past : List (Option Bool)) : List (Option Bool) → List Bool
  | [] => []
  | sample :: history =>
    counted threshold past sample ++ filtered threshold (past ++ [sample]) history

/-- The window after the probes `past`, which have added the samples `kept`. -/
structure Follows (past : List (Option Bool)) (kept : List Bool) : Prop where
  samples : w.samples = kept.rtake w.maxSamples
  run : w.consecutiveFailures = failures past

variable {w} {past : List (Option Bool)} {kept : List Bool}

theorem append_rtake (l : List Bool) (n : Nat) (b : Bool) :
    (if n < (l.rtake n ++ [b]).length then (l.rtake n ++ [b]).tail else l.rtake n ++ [b]) =
      (l ++ [b]).rtake n := by
  have hd : l.rtake n ++ [b] = (l ++ [b]).drop (l.length - n) :=
    (List.drop_append_of_le_length (Nat.sub_le _ _)).symm
  rw [hd, List.rtake, List.length_drop, List.length_append, List.length_singleton]
  split
  · rw [List.tail_drop]
    congr 1
    omega
  · congr 1
    omega

theorem Follows.record (h : w.Follows past kept) (sample : Option Bool) :
    (w.record sample).1.Follows (past ++ [sample])
      (kept ++ counted w.consecutiveFailureThreshold past sample) := by
  have happend (b : Bool) : (w.append b).samples = (kept ++ [b]).rtake w.maxSamples := by
    rw [← append_rtake, ← h.samples]
    rfl
  cases sample with
  | none =>
    refine ⟨?_, ?_⟩
    · simpa [counted, PacketLossWindow.record] using h.samples
    · simpa [failures, PacketLossWindow.record] using h.run
  | some b =>
    cases b with
    | true => exact ⟨happend true, by simp [failures, PacketLossWindow.record, append]⟩
    | false =>
      have hrun : failures (past ++ [some false]) = w.consecutiveFailures + 1 := by
        simp [failures, h.run]
      simp only [PacketLossWindow.record, counted, ← h.run]
      by_cases ht : w.consecutiveFailures + 1 < w.consecutiveFailureThreshold
      · rw [if_pos ht, if_neg (by omega), List.append_nil]
        exact ⟨h.samples, hrun.symm⟩
      · rw [if_neg ht, if_pos (by omega)]
        exact ⟨happend false, hrun.symm⟩

theorem config_record (w : PacketLossWindow) (sample : Option Bool) :
    (w.record sample).1.maxSamples = w.maxSamples ∧
      (w.record sample).1.consecutiveFailureThreshold = w.consecutiveFailureThreshold := by
  unfold record
  split
  · exact ⟨rfl, rfl⟩
  · exact ⟨rfl, rfl⟩
  · dsimp only
    split <;> exact ⟨rfl, rfl⟩

theorem Follows.recordAll (h : w.Follows past kept) (history : List (Option Bool)) :
    (w.recordAll history).samples =
      (kept ++ filtered w.consecutiveFailureThreshold past history).rtake w.maxSamples := by
  induction history generalizing w past kept with
  | nil => rw [filtered, List.append_nil]; exact h.samples
  | cons sample history ih =>
    have hstep := ih (h.record sample)
    obtain ⟨hmax, hthreshold⟩ := config_record w sample
    rw [hmax, hthreshold, List.append_assoc] at hstep
    exact hstep

/-- **The window is the end of the filtered history**, and its losses are those of that end. -/
theorem samples_eq_filtered (maxSamples threshold : Nat) (history : List (Option Bool)) :
    ((new maxSamples threshold).recordAll history).samples =
        (filtered threshold [] history).rtake maxSamples ∧
      ((new maxSamples threshold).recordAll history).failed =
        ((filtered threshold [] history).rtake maxSamples).count false := by
  have hnew : (new maxSamples threshold).Follows [] [] := ⟨by simp [new], rfl⟩
  have hsamples := hnew.recordAll history
  refine ⟨hsamples, ?_⟩
  rw [failed, hsamples, List.count_eq_length_filter]
  congr 2
  funext b
  cases b <;> rfl

end PacketLossWindow

end Vntc
