import Mathlib.Data.List.Pairwise

/-!
# Tables with uniqueness rules, and transactions

A table is a list of rows that keeps the rules of its schema: a check of each row, and keys that no
two rows share. A statement that would break a rule has no result. A transaction is a computation
that may fail; if it fails, the state is the one before.
-/

namespace Lib

/-! ## Transactions -/

section Transaction

variable {σ ε α : Type}

/-- The computation runs on a copy of the state, and the copy is kept if it succeeds. -/
def transaction (t : σ → Except ε (α × σ)) (s : σ) : Except ε α × σ :=
  match t s with
  | .ok (a, s') => (.ok a, s')
  | .error e => (.error e, s)

variable {s s' : σ} {t : σ → Except ε (α × σ)}

theorem transaction_ok {a : α} : transaction t s = (.ok a, s') ↔ t s = .ok (a, s') := by
  unfold transaction
  split <;> rename_i h <;> simp [h]

theorem transaction_error {e : ε} : transaction t s = (.error e, s') ↔ t s = .error e ∧ s' = s := by
  unfold transaction
  split <;> rename_i h <;> simp [h, eq_comm]

end Transaction

/-! ## Tables -/

/-- The rules of a table: a check of each row, and which two rows it cannot have together. -/
structure Schema (ρ : Type) where
  check : ρ → Bool
  clash : ρ → ρ → Bool
  clash_comm : ∀ r r', clash r r' = clash r' r

variable {ρ : Type} {S : Schema ρ}

/-- All rows pass the check, and no two clash. -/
def Schema.Valid (S : Schema ρ) (rows : List ρ) : Prop :=
  (∀ r ∈ rows, S.check r = true) ∧ rows.Pairwise fun r r' => S.clash r r' = false

instance (rows : List ρ) : Decidable (S.Valid rows) := inferInstanceAs (Decidable (_ ∧ _))

/-- A table that keeps to its schema. -/
structure Table (S : Schema ρ) where
  rows : List ρ
  valid : S.Valid rows

namespace Table

/-- A table without rows. -/
def empty : Table S := ⟨[], by simp [Schema.Valid]⟩

/-- A table of one row. -/
def single (r : ρ) (h : S.check r = true) : Table S where
  rows := [r]
  valid := ⟨fun x hx => by rw [List.mem_singleton.mp hx]; exact h, List.pairwise_singleton _ _⟩

/-- The table with the rows, if they are valid. -/
def ofRows? (rows : List ρ) : Option (Table S) :=
  if h : S.Valid rows then some ⟨rows, h⟩ else none

variable (t : Table S)

/-- A new row, unless it is refused. -/
def insert (r : ρ) : Option (Table S) := ofRows? (t.rows ++ [r])

/-- `DELETE WHERE`. -/
def delete (p : ρ → Bool) : Table S where
  rows := t.rows.filter fun r => !p r
  valid := ⟨fun r hr => t.valid.1 r (List.mem_filter.mp hr).1, t.valid.2.filter _⟩

/-- Overwrite the rows with `p` by `r`. -/
def replace (p : ρ → Bool) (r : ρ) : Option (Table S) :=
  ofRows? (t.rows.map fun x => if p x then r else x)

/-- Change the rows with `p` by `f`. -/
def update (p : ρ → Bool) (f : ρ → ρ) : Option (Table S) :=
  ofRows? (t.rows.map fun x => if p x then f x else x)

/-- Overwrite the row with the key of `r`, which `p` tells, or insert `r`. -/
def put (p : ρ → Bool) (r : ρ) : Option (Table S) :=
  if t.rows.any p then t.replace p r else t.insert r

/-- The first row that meets `p`. -/
def find (p : ρ → Bool) : Option ρ := t.rows.find? p

/-- Insert the rows one after the other. -/
def insertAll : List ρ → Option (Table S) := List.foldlM insert t

variable {t} {t' : Table S} {p : ρ → Bool} {r r' : ρ}

@[ext] theorem ext (h : t.rows = t'.rows) : t = t' := by
  cases t; cases t'; cases h; rfl

variable {rows l : List ρ} {f : ρ → ρ}

theorem ofRows?_eq_some : (ofRows? rows : Option (Table S)) = some t ↔ t.rows = rows := by
  unfold ofRows?
  split
  · rename_i h
    rw [Option.some_inj]
    exact ⟨fun e => by rw [← e], fun e => ext e.symm⟩
  · rename_i h
    exact ⟨nofun, fun e => (h (e ▸ t.valid)).elim⟩

theorem ofRows?_isSome : (ofRows? rows : Option (Table S)).isSome ↔ S.Valid rows := by
  unfold ofRows?
  split <;> rename_i h <;> simp [h]

theorem insert_eq_some : t.insert r = some t' ↔ t'.rows = t.rows ++ [r] := ofRows?_eq_some

theorem mem_delete : r ∈ (t.delete p).rows ↔ r ∈ t.rows ∧ p r = false := by
  simp [delete, List.mem_filter]

/-- Two rows with a common key are the same row. -/
theorem eq_of_clash (hr : r ∈ t.rows) (hr' : r' ∈ t.rows) (h : S.clash r r' = true) : r = r' := by
  have : Std.Symm fun r r' => S.clash r r' = false :=
    ⟨fun a b hab => by rw [S.clash_comm, hab]⟩
  by_contra hne
  rw [t.valid.2.forall hr hr' hne] at h
  cases h

/-- A table with a key has no row twice. -/
theorem rows_nodup (hS : ∀ r, S.clash r r = true) : t.rows.Nodup :=
  t.valid.2.imp fun {a b} hab e => by
    rw [e, hS] at hab
    cases hab

/-- Looking a row up by a key. -/
theorem find_eq_some (hp : ∀ x y, p x = true → p y = true → S.clash x y = true) :
    t.find p = some r ↔ r ∈ t.rows ∧ p r = true := by
  constructor
  · intro h
    exact ⟨List.mem_of_find?_eq_some h, List.find?_some h⟩
  · rintro ⟨hr, hpr⟩
    cases h : t.find p with
    | none => exact absurd hpr (List.find?_eq_none.mp h r hr)
    | some r' =>
      have hpr' := List.find?_some h
      rw [t.eq_of_clash (List.mem_of_find?_eq_some h) hr (hp r' r hpr' hpr)]

theorem find_eq_none : t.find p = none ↔ ∀ x ∈ t.rows, p x = false := by
  unfold find
  simp [List.find?_eq_none]

/-- At most one row has a key. -/
theorem filter_eq_find (hp : ∀ x y, p x = true → p y = true → S.clash x y = true) :
    t.rows.filter p = (t.find p).toList := by
  have hl := t.valid.2
  unfold find
  generalize t.rows = l at hl
  induction l with
  | nil => rfl
  | cons a l ih =>
    obtain ⟨ha, hl⟩ := List.pairwise_cons.mp hl
    cases hpa : p a with
    | false =>
      rw [List.filter_cons_of_neg (by simp [hpa]), List.find?_cons_of_neg (by simp [hpa]), ih hl]
    | true =>
      rw [List.filter_cons_of_pos hpa, List.find?_cons_of_pos hpa]
      have hnil : l.filter p = [] := by
        refine List.filter_eq_nil_iff.mpr fun b hb hpb => ?_
        have hab := ha b hb
        rw [hp a b hpa hpb] at hab
        cases hab
      rw [hnil]
      rfl

theorem mem_replace (h : t.replace p r = some t') (x : ρ) :
    x ∈ t'.rows ↔ (x ∈ t.rows ∧ p x = false) ∨ (x = r ∧ ∃ y ∈ t.rows, p y = true) := by
  rw [ofRows?_eq_some.mp h, List.mem_map]
  constructor
  · rintro ⟨y, hy, rfl⟩
    cases hp : p y with
    | true => exact .inr ⟨rfl, y, hy, hp⟩
    | false => exact .inl ⟨hy, hp⟩
  · rintro (⟨hx, hp⟩ | ⟨rfl, y, hy, hp⟩)
    · exact ⟨x, hx, by simp [hp]⟩
    · exact ⟨y, hy, by simp [hp]⟩

theorem update_eq_some : t.update p f = some t' ↔
    t'.rows = t.rows.map fun x => if p x then f x else x := ofRows?_eq_some

/-- An update that leaves the keys alone fails only if a new row fails its check. -/
theorem update_isSome (hf : ∀ x y, S.clash (f x) y = S.clash x y) :
    (t.update p f).isSome ↔ ∀ x ∈ t.rows, p x = true → S.check (f x) = true := by
  have hf' : ∀ x y, S.clash x (f y) = S.clash x y := fun x y => by
    rw [S.clash_comm, hf, S.clash_comm]
  have hv := t.valid
  unfold update
  rw [ofRows?_isSome, Schema.Valid, List.pairwise_map]
  constructor
  · rintro ⟨hc, -⟩ x hx hpx
    have := hc _ (List.mem_map.mpr ⟨x, hx, rfl⟩)
    rwa [if_pos hpx] at this
  · intro hc
    refine ⟨fun y hy => ?_, hv.2.imp fun {x y} hxy => ?_⟩
    · obtain ⟨x, hx, rfl⟩ := List.mem_map.mp hy
      split
      · rename_i hpx; exact hc x hx hpx
      · exact hv.1 x hx
    · split <;> split <;> simp only [hf, hf', hxy]

/-- The rows after a `put`. -/
theorem mem_put (h : t.put p r = some t') (x : ρ) :
    x ∈ t'.rows ↔ (x ∈ t.rows ∧ p x = false) ∨ x = r := by
  unfold put at h
  split at h
  · rename_i hany
    obtain ⟨y, hy, hpy⟩ := List.any_eq_true.mp hany
    rw [mem_replace h]
    exact or_congr_right ⟨And.left, fun e => ⟨e, y, hy, hpy⟩⟩
  · rename_i hany
    rw [insert_eq_some.mp h, List.mem_append, List.mem_singleton]
    have hnone : ∀ y ∈ t.rows, p y = false := by simpa using hany
    exact or_congr_left ⟨fun hx => ⟨hx, hnone x hx⟩, And.left⟩

theorem insert_isSome : (t.insert r).isSome ↔
    S.check r = true ∧ ∀ x ∈ t.rows, S.clash x r = false := by
  unfold insert
  rw [ofRows?_isSome, Schema.Valid, List.pairwise_append]
  have hv := t.valid
  constructor
  · rintro ⟨hc, -, -, hx⟩
    exact ⟨hc r (by simp), fun x hm => hx x hm r (by simp)⟩
  · rintro ⟨hc, hx⟩
    refine ⟨fun x hm => ?_, hv.2, List.pairwise_singleton _ _, fun x hm y hy => ?_⟩
    · rcases List.mem_append.mp hm with hm | hm
      · exact hv.1 x hm
      · rwa [List.mem_singleton.mp hm]
    · rw [List.mem_singleton.mp hy]
      exact hx x hm

/-- The rows up to one of them are valid as a part of the rows. -/
theorem valid_upTo {l' : List ρ} (h : S.Valid (l ++ r :: l')) : S.Valid (l ++ [r]) := by
  have hsub : (l ++ [r]).Sublist (l ++ r :: l') :=
    List.Sublist.append_left (List.singleton_sublist.mpr List.mem_cons_self) _
  exact ⟨fun x hx => h.1 x (hsub.subset hx), h.2.sublist hsub⟩

theorem insertAll_eq_some : t.insertAll l = some t' ↔ t'.rows = t.rows ++ l := by
  induction l generalizing t with
  | nil => simp [insertAll, Table.ext_iff, eq_comm]
  | cons r l ih =>
    have hcons : t.insertAll (r :: l) = (t.insert r).bind (·.insertAll l) := rfl
    rw [hcons, Option.bind_eq_some_iff]
    constructor
    · rintro ⟨t₁, h₁, h⟩
      rw [ih.mp h, insert_eq_some.mp h₁, List.append_assoc, List.singleton_append]
    · intro h
      have hv : S.Valid (t.rows ++ [r]) := valid_upTo (h ▸ t'.valid)
      exact ⟨⟨_, hv⟩, insert_eq_some.mpr rfl, ih.mpr (by rw [h, List.append_assoc]; rfl)⟩

theorem insertAll_isSome : (t.insertAll l).isSome ↔ S.Valid (t.rows ++ l) := by
  constructor
  · intro h
    obtain ⟨t', h'⟩ := Option.isSome_iff_exists.mp h
    rw [← insertAll_eq_some.mp h']
    exact t'.valid
  · intro h
    exact Option.isSome_iff_exists.mpr ⟨⟨_, h⟩, insertAll_eq_some.mpr rfl⟩

/-- A `put` fails only if the row fails its check or has a key of another row. -/
theorem put_isSome (hp : ∀ x y, p x = true → p y = true → S.clash x y = true)
    (hr : S.check r = true) (hc : ∀ x ∈ t.rows, p x = false → S.clash x r = false) :
    (t.put p r).isSome := by
  have hv := t.valid
  unfold put
  split
  · refine ofRows?_isSome.mpr ⟨fun x hx => ?_, List.pairwise_map.mpr ?_⟩
    · obtain ⟨y, hy, rfl⟩ := List.mem_map.mp hx
      split
      · exact hr
      · exact hv.1 y hy
    · refine hv.2.imp_of_mem fun {a b} ha hb hab => ?_
      -- At most one of the two rows has the key.
      cases hpa : p a <;> cases hpb : p b
      · exact hab
      · exact hc a ha hpa
      · exact (S.clash_comm r b).trans (hc b hb hpb)
      · rw [hp a b hpa hpb] at hab
        cases hab
  · rename_i hany
    have hnone : ∀ y ∈ t.rows, p y = false := by simpa using hany
    exact insert_isSome.mpr ⟨hr, fun x hx => hc x hx (hnone x hx)⟩

theorem put_isSome_iff (hp : ∀ x y, p x = true → p y = true → S.clash x y = true)
    (hpr : p r = true) :
    (t.put p r).isSome ↔ S.check r = true ∧ ∀ x ∈ t.rows, p x = false → S.clash x r = false := by
  refine ⟨fun h => ?_, fun ⟨hr, hc⟩ => put_isSome hp hr hc⟩
  obtain ⟨t', ht⟩ := Option.isSome_iff_exists.mp h
  have hr : r ∈ t'.rows := (mem_put ht r).mpr (.inr rfl)
  refine ⟨t'.valid.1 r hr, fun x hx hpx => Bool.eq_false_iff.mpr fun hclash => ?_⟩
  have := t'.eq_of_clash ((mem_put ht x).mpr (.inl ⟨hx, hpx⟩)) hr hclash
  rw [this, hpr] at hpx
  cases hpx

/-! ## Conflict clauses -/

section Conflict

theorem valid_insertOrReplace (t : Table S) (r : ρ) (h : S.check r = true) :
    S.Valid (t.rows.filter (fun x => !S.clash x r) ++ [r]) := by
  refine ⟨fun x hx => ?_, List.pairwise_append.mpr ⟨t.valid.2.filter _, ?_, fun x hx y hy => ?_⟩⟩
  · rcases List.mem_append.mp hx with hx | hx
    · exact t.valid.1 x (List.mem_filter.mp hx).1
    · rwa [List.mem_singleton.mp hx]
  · exact List.pairwise_singleton _ _
  · rw [List.mem_singleton.mp hy]
    simpa using (List.mem_filter.mp hx).2

/-- `INSERT OR REPLACE`: the rows that cannot stay beside `r` go. -/
def insertOrReplace (t : Table S) (r : ρ) (h : S.check r = true) : Table S :=
  ⟨t.rows.filter (fun x => !S.clash x r) ++ [r], t.valid_insertOrReplace r h⟩

/-- `INSERT OR IGNORE`. -/
def insertOrIgnore (t : Table S) (r : ρ) : Table S := (t.insert r).getD t

/-- `UPDATE OR IGNORE` of at most one row, with the number of rows that changed. -/
def updateOrIgnore (t : Table S) (p : ρ → Bool) (f : ρ → ρ) : Table S × Nat :=
  match t.update p f with
  | some t' => (t', t.rows.countP p)
  | none => (t, 0)

theorem valid_modify (t : Table S) (p : ρ → Bool) (f : ρ → ρ)
    (hf : ∀ x y, S.clash (f x) y = S.clash x y) (hc : ∀ x, S.check (f x) = S.check x) :
    S.Valid (t.rows.map fun x => if p x then f x else x) := by
  refine ofRows?_isSome.mp ((update_isSome hf).mpr fun x hx _ => ?_)
  rw [hc]
  exact t.valid.1 x hx

/-- An update that leaves the keys alone. -/
def modify (t : Table S) (p : ρ → Bool) (f : ρ → ρ) (hf : ∀ x y, S.clash (f x) y = S.clash x y)
    (hc : ∀ x, S.check (f x) = S.check x) : Table S :=
  ⟨t.rows.map fun x => if p x then f x else x, t.valid_modify p f hf hc⟩

variable {h : S.check r = true} {x : ρ} {l : List ρ} {f : ρ → ρ}

theorem mem_insertOrReplace :
    x ∈ (t.insertOrReplace r h).rows ↔ (x ∈ t.rows ∧ S.clash x r = false) ∨ x = r := by
  simp [insertOrReplace, List.mem_filter]

/-- Rows that clash with nothing are all inserted. -/
theorem foldl_insertOrIgnore (h : S.Valid (t.rows ++ l)) :
    (l.foldl insertOrIgnore t).rows = t.rows ++ l := by
  induction l generalizing t with
  | nil => simp
  | cons r l ih =>
    have hv : S.Valid (t.rows ++ [r]) := valid_upTo h
    have hsome : t.insert r = some ⟨t.rows ++ [r], hv⟩ := insert_eq_some.mpr rfl
    have hins : t.insertOrIgnore r = ⟨t.rows ++ [r], hv⟩ := by
      rw [insertOrIgnore, hsome, Option.getD_some]
    rw [List.foldl_cons, hins, ih (by rwa [List.append_assoc]), List.append_assoc]
    rfl

theorem mem_foldl_insertOrIgnore
    (hx : x ∈ (l.foldl insertOrIgnore t).rows) : x ∈ t.rows ∨ x ∈ l := by
  induction l generalizing t with
  | nil => exact .inl hx
  | cons r l ih =>
    rcases ih hx with hx | hx
    · unfold insertOrIgnore at hx
      cases h : t.insert r with
      | none =>
        rw [h] at hx
        exact .inl hx
      | some t' =>
        rw [h, Option.getD_some, insert_eq_some.mp h] at hx
        exact (List.mem_append.mp hx).imp_right fun hx => by simp [List.mem_singleton.mp hx]
    · exact .inr (List.mem_cons_of_mem r hx)

theorem updateOrIgnore_rows : (t.updateOrIgnore p f).1.rows = t.rows ∨
    (t.updateOrIgnore p f).1.rows = t.rows.map fun x => if p x then f x else x := by
  unfold updateOrIgnore
  split
  · rename_i t' ht
    exact .inr (update_eq_some.mp ht)
  · exact .inl rfl

/-- A row after an update, changed or as before. -/
theorem mem_updateOrIgnore (h : x ∈ (t.updateOrIgnore p f).1.rows) :
    x ∈ t.rows ∨ ∃ y ∈ t.rows, p y = true ∧ x = f y := by
  rcases updateOrIgnore_rows (t := t) (p := p) (f := f) with he | he
  · rw [he] at h
    exact .inl h
  · rw [he, List.mem_map] at h
    obtain ⟨y, hy, rfl⟩ := h
    cases hp : p y with
    | true => exact .inr ⟨y, hy, hp, by simp⟩
    | false => exact .inl (by simpa using hy)

/-- The number of rows with `q` after a replacement: those that go are subtracted. -/
theorem countP_insertOrReplace (q : ρ → Bool) :
    (t.insertOrReplace r h).rows.countP q + t.rows.countP (fun x => q x && S.clash x r) =
      t.rows.countP q + if q r then 1 else 0 := by
  unfold insertOrReplace
  rw [List.countP_append, List.countP_singleton, List.countP_filter]
  have hsplit : t.rows.countP q = t.rows.countP (fun x => q x && !S.clash x r) +
      t.rows.countP (fun x => q x && S.clash x r) := by
    induction t.rows with
    | nil => rfl
    | cons x l ih =>
      simp only [List.countP_cons, ih]
      cases q x <;> cases S.clash x r <;> simp <;> omega
  omega

/-- Looking up by a key that the table is unique in. -/
theorem find_insertOrReplace (hp : ∀ x y, p x = true → p y = true → S.clash x y = true)
    (hkeep : p r = false → ∀ x, p x = true → S.clash x r = false) :
    (t.insertOrReplace r h).find p = if p r then some r else t.find p := by
  refine Option.ext fun x => ?_
  rw [find_eq_some hp, mem_insertOrReplace]
  cases hr : p r with
  | true =>
    simp only [if_true, Option.some.injEq]
    constructor
    · rintro ⟨⟨-, hc⟩ | rfl, hx⟩
      · rw [hp x r hx hr] at hc
        cases hc
      · rfl
    · rintro rfl
      exact ⟨.inr rfl, hr⟩
  | false =>
    simp only [Bool.false_eq_true, if_false]
    rw [find_eq_some hp]
    constructor
    · rintro ⟨⟨hx, -⟩ | rfl, hpx⟩
      · exact ⟨hx, hpx⟩
      · rw [hr] at hpx
        cases hpx
    · rintro ⟨hx, hpx⟩
      exact ⟨.inl ⟨hx, hkeep hr x hpx⟩, hpx⟩

/-- Looking up by what an update leaves alone. -/
theorem find_modify {q : ρ → Bool} (hf : ∀ x y, S.clash (f x) y = S.clash x y)
    (hc : ∀ x, S.check (f x) = S.check x) (hp : ∀ x, p (f x) = p x) :
    (t.modify q f hf hc).find p = (t.find p).map fun x => if q x then f x else x := by
  unfold modify find
  rw [List.find?_map]
  congr 2
  funext x
  simp only [Function.comp]
  split <;> simp only [hp]

end Conflict

end Table

end Lib
