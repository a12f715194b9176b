import Mathlib.Combinatorics.SimpleGraph.Metric
import Mathlib.Data.Fintype.Card
import Mathlib.Data.List.Nodup
import Vntc.Lib.Sys

/-!
# Flooding a graph

The nodes of a graph with directed links pass messages on. A node passes a message on at most once,
over any of its links. So a link carries a message at most once (`Inv.sent`), and the copies of a
message are at most as many as there are links (`Inv.length_sent_le`), however the nodes take turns.

Whom a message reaches is a question about the graph alone: if every node that has the message and is
near enough to its origin gives it to all its neighbours, the message gets to all nodes up to that
distance (`reached_of_dist_le`).
-/

namespace Lib

/-- Which nodes passed which messages on, and which links carried them. -/
@[ext] structure Flood (V L I : Type) where
  passed : List (V × I)
  sent : List (L × I)

namespace Flood

variable {V L I : Type} {src : L → V}

/-- The node `v` passes the message `i` on over `links`. -/
def pass (s : Flood V L I) (v : V) (i : I) (links : List L) : Flood V L I where
  passed := (v, i) :: s.passed
  sent := links.map (fun l => (l, i)) ++ s.sent

/-- The runs in which each node passes each message on at most once. -/
def sys (src : L → V) : Sys (Flood V L I) (V × I × List L) where
  init s := s = ⟨[], []⟩
  step s a s' := (a.1, a.2.1) ∉ s.passed ∧ a.2.2.Nodup ∧ (∀ l ∈ a.2.2, src l = a.1) ∧
    s' = s.pass a.1 a.2.1 a.2.2

/-- What a link carried, its node passed on. -/
structure Inv (src : L → V) (s : Flood V L I) : Prop where
  passed : s.passed.Nodup
  sent : s.sent.Nodup
  source : ∀ e ∈ s.sent, (src e.1, e.2) ∈ s.passed

theorem Inv.pass {s : Flood V L I} (h : Inv src s) {v : V} {i : I} {links : List L}
    (hv : (v, i) ∉ s.passed) (hn : links.Nodup) (hl : ∀ l ∈ links, src l = v) :
    Inv src (s.pass v i links) := by
  refine ⟨List.nodup_cons.mpr ⟨hv, h.passed⟩, ?_, ?_⟩
  · refine List.nodup_append'.mpr ⟨hn.map fun a b e => congrArg Prod.fst e, h.sent, ?_⟩
    intro e he hs
    obtain ⟨l, hm, rfl⟩ := List.mem_map.mp he
    have := h.source _ hs
    rw [hl l hm] at this
    exact hv this
  · intro e he
    rcases List.mem_append.mp he with he | he
    · obtain ⟨l, hm, rfl⟩ := List.mem_map.mp he
      rw [hl l hm]
      exact List.mem_cons_self
    · exact List.mem_cons_of_mem _ (h.source e he)

theorem inv_of_reach {s : Flood V L I} (h : (sys src).Reach s) : Inv src s := by
  refine Sys.Reach.invariant (fun s hs => ?_) (fun s a s' hi hst => ?_) h
  · obtain rfl := hs
    exact ⟨List.nodup_nil, List.nodup_nil, nofun⟩
  · obtain ⟨hv, hn, hl, rfl⟩ := hst
    exact hi.pass hv hn hl

/-- The copies of a message are at most as many as the links. -/
theorem Inv.length_sent_le [Fintype L] [DecidableEq I] {s : Flood V L I} (h : Inv src s) (i : I) :
    (s.sent.filter fun e => e.2 = i).length ≤ Fintype.card L := by
  have hn : ((s.sent.filter fun e => e.2 = i).map Prod.fst).Nodup := by
    refine (h.sent.filter _).map_on fun a ha b hb e => Prod.ext e ?_
    have hai := (List.mem_filter.mp ha).2
    have hbi := (List.mem_filter.mp hb).2
    rw [decide_eq_true_eq] at hai hbi
    rw [hai, hbi]
  rw [← List.length_map (f := Prod.fst)]
  exact hn.length_le_card

/-! ## Whom a message reaches -/

section Reach

variable {G : SimpleGraph V} {o : V} {n : Nat} (reached : V → Prop)

/-- Along a walk to the origin, by induction on the walk: the node before the last is nearer. -/
theorem reached_of_walk (ho : reached o)
    (hs : ∀ u v, reached u → G.Adj u v → G.dist o u < n → reached v) {v : V} (p : G.Walk v o)
    (hp : p.length ≤ n) : reached v := by
  induction p with
  | nil => exact ho
  | cons hadj p ih =>
    rw [SimpleGraph.Walk.length_cons] at hp
    have hd := SimpleGraph.dist_le p.reverse
    rw [SimpleGraph.Walk.length_reverse] at hd
    exact hs _ _ (ih ho hs (by omega)) hadj.symm (by omega)

theorem reached_of_dist_le (hG : G.Connected) (ho : reached o)
    (hs : ∀ u v, reached u → G.Adj u v → G.dist o u < n → reached v) {v : V}
    (hv : G.dist o v ≤ n) : reached v := by
  obtain ⟨p, hp⟩ := hG.exists_walk_length_eq_dist v o
  rw [SimpleGraph.dist_comm] at hv
  exact reached_of_walk reached ho hs p (hp ▸ hv)

end Reach

end Flood

end Lib
