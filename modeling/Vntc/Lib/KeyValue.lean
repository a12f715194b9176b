import Mathlib.Data.List.Basic

/-!
# Lines of keys and values

A list of entries written as one text, a line `key=value` for each. The text can be read in one way if
no key has a `=` and no value ends its line early.
-/

namespace Lib

namespace KeyValue

/-- The first separator of a list is at one place. -/
theorem cut_inj {α : Type} {a : α} {x y z w : List α} (hx : a ∉ x) (hy : a ∉ y)
    (h : x ++ a :: z = y ++ a :: w) : x = y ∧ z = w := by
  induction x generalizing y with
  | nil =>
    cases y with
    | nil => exact ⟨rfl, (List.cons.inj h).2⟩
    | cons c y => exact absurd ((List.cons.inj h).1 ▸ List.mem_cons_self) hy
  | cons b x ih =>
    cases y with
    | nil => exact absurd ((List.cons.inj h).1 ▸ List.mem_cons_self) hx
    | cons c y =>
      obtain ⟨hbc, hrest⟩ := List.cons.inj h
      obtain ⟨hxy, hzw⟩ := ih (fun hm => hx (List.mem_cons_of_mem _ hm))
        (fun hm => hy (List.mem_cons_of_mem _ hm)) hrest
      exact ⟨by rw [hbc, hxy], hzw⟩

/-- A line. -/
def entry (e : String × String) : String := e.1 ++ "=" ++ e.2 ++ "\n"

/-- The text of a list of entries. -/
def text : List (String × String) → String
  | [] => ""
  | e :: es => entry e ++ text es

/-- The key ends at the `=`, and the value at the end of the line. -/
structure Plain (e : String × String) : Prop where
  key : '=' ∉ e.1.toList
  value : '\n' ∉ e.2.toList

theorem toList_entry (e : String × String) :
    (entry e).toList = e.1.toList ++ '=' :: (e.2.toList ++ ['\n']) := by
  simp [entry, String.toList_append]

/-- A text that begins with an entry gives the entry and the rest. -/
theorem entry_append_inj {e e' : String × String} {t t' : String} (he : Plain e) (he' : Plain e')
    (h : entry e ++ t = entry e' ++ t') : e = e' ∧ t = t' := by
  have hl : e.1.toList ++ '=' :: (e.2.toList ++ '\n' :: t.toList) =
      e'.1.toList ++ '=' :: (e'.2.toList ++ '\n' :: t'.toList) := by
    simpa [String.toList_append, toList_entry] using congrArg String.toList h
  obtain ⟨hkey, hrest⟩ := cut_inj he.key he'.key hl
  obtain ⟨hvalue, ht⟩ := cut_inj he.value he'.value hrest
  exact ⟨Prod.ext (String.toList_inj.mp hkey) (String.toList_inj.mp hvalue), String.toList_inj.mp ht⟩

/-- An entry is not the empty text. -/
theorem entry_append_ne_empty (e : String × String) (t : String) : entry e ++ t ≠ "" := by
  intro h
  have hl := congrArg String.toList h
  rw [String.toList_append, toList_entry] at hl
  simp at hl

/-- The text gives the entries. -/
theorem text_inj {es es' : List (String × String)} (hes : ∀ e ∈ es, Plain e)
    (hes' : ∀ e ∈ es', Plain e) (h : text es = text es') : es = es' := by
  induction es generalizing es' with
  | nil =>
    cases es' with
    | nil => rfl
    | cons e' es' => exact absurd h.symm (entry_append_ne_empty e' _)
  | cons e es ih =>
    cases es' with
    | nil => exact absurd h (entry_append_ne_empty e _)
    | cons e' es' =>
      obtain ⟨hee, hrest⟩ := entry_append_inj (hes e List.mem_cons_self)
        (hes' e' List.mem_cons_self) h
      rw [hee, ih (fun x hx => hes x (List.mem_cons_of_mem _ hx))
        (fun x hx => hes' x (List.mem_cons_of_mem _ hx)) hrest]

end KeyValue

end Lib
