import Mathlib.Data.List.Sort
import Mathlib.Data.List.Nodup

/-!
# Ranked lists

A list with one entry for each key, in the order of a cost, and with at most `k` entries. A new entry
takes the place of the one with its key; if there is none and the list is full, the entry with the
highest cost goes, which may be the new one.
-/

namespace Lib

namespace Ranked

variable {α κ : Type} [DecidableEq κ] (key : α → κ) (cost : α → Nat) (k : Nat)

/-- Replace the first value with the key of `a`, or add `a` at the end. -/
def enter (a : α) : List α → List α
  | [] => [a]
  | x :: l => if key x = key a then a :: l else x :: enter a l

/-- In the order of the cost; values of the same cost keep their order. -/
def sort (l : List α) : List α := l.insertionSort fun x y => cost x ≤ cost y

/-- Enter a value, sort, cut off. -/
def put (a : α) (l : List α) : List α := (sort cost (enter key a l)).take k

variable {key cost k} {a x : α} {l : List α}

theorem mem_enter_self : a ∈ enter key a l := by
  induction l with
  | nil => exact List.mem_cons_self
  | cons x l ih =>
    unfold enter
    split
    · exact List.mem_cons_self
    · exact List.mem_cons_of_mem x ih

theorem mem_of_mem_enter (h : x ∈ enter key a l) : x = a ∨ x ∈ l := by
  induction l with
  | nil => simpa [enter] using h
  | cons y l ih =>
    unfold enter at h
    split at h
    · rcases List.mem_cons.mp h with rfl | h
      · exact .inl rfl
      · exact .inr (List.mem_cons_of_mem y h)
    · rcases List.mem_cons.mp h with rfl | h
      · exact .inr List.mem_cons_self
      · exact (ih h).imp id (List.mem_cons_of_mem y)

/-- The keys are those before, and the new one at the end if it was not there. -/
theorem map_key_enter : (enter key a l).map key =
    if key a ∈ l.map key then l.map key else l.map key ++ [key a] := by
  induction l with
  | nil => simp [enter]
  | cons x l ih =>
    unfold enter
    by_cases hx : key x = key a
    · simp [hx]
    · rw [if_neg hx, List.map_cons, ih]
      by_cases hm : key a ∈ l.map key
      · simp only [List.map_cons, List.mem_cons, hm, or_true, if_true]
      · simp only [List.map_cons, List.mem_cons, hm, Ne.symm hx, or_false, if_false,
          List.cons_append]

theorem nodup_enter (h : (l.map key).Nodup) : ((enter key a l).map key).Nodup := by
  rw [map_key_enter]
  split
  · exact h
  · rename_i hm
    exact List.nodup_append'.mpr ⟨h, List.nodup_singleton _, by simpa using hm⟩

theorem perm_sort : (sort cost l).Perm l := List.perm_insertionSort _ l

theorem mem_enter_of_mem_put (h : x ∈ put key cost k a l) : x ∈ enter key a l :=
  perm_sort.mem_iff.mp (List.mem_of_mem_take h)

theorem length_put_le : (put key cost k a l).length ≤ k := List.length_take_le _ _

theorem length_put : (put key cost k a l).length = min k (enter key a l).length := by
  rw [put, List.length_take, perm_sort.length_eq]

theorem put_ne_nil (hk : 0 < k) : put key cost k a l ≠ [] := by
  have hpos : 0 < (enter key a l).length := List.length_pos_of_mem mem_enter_self
  have hlen : (put key cost k a l).length = min k (enter key a l).length := length_put
  intro h
  rw [h, List.length_nil] at hlen
  omega

theorem nodup_put (h : (l.map key).Nodup) : ((put key cost k a l).map key).Nodup := by
  have hp : ((sort cost (enter key a l)).map key).Nodup :=
    (perm_sort.map key).nodup_iff.mpr (nodup_enter h)
  exact hp.sublist ((List.take_sublist k _).map key)

end Ranked

end Lib
