import Mathlib

/-!
# Lists in key order and their windows

A database node answers an ordered query with a window of its children: the
children from a key on (`fromKey`), cut after a number of them. Over a list in
strictly increasing key order a window that starts at the key of a child starts
with that child, and everything behind the first entry lies strictly behind the key.
-/

set_option autoImplicit false

namespace FinanciaApp.Library

universe u v

variable {α : Type u} {κ : Type v} [LinearOrder κ] (key : α → κ)

/-- Strictly increasing keys, hence distinct ones. -/
def OrderedByKey (xs : List α) : Prop := xs.Pairwise fun x y => key x < key y

/-- The entries from the given key on, that key included. -/
def fromKey (start : κ) (xs : List α) : List α := xs.filter fun x => start ≤ key x

instance (xs : List α) : Decidable (OrderedByKey key xs) :=
  inferInstanceAs (Decidable (List.Pairwise _ _))

variable {key} {xs ys : List α} {start : κ}

theorem OrderedByKey.sublist (h : OrderedByKey key xs) (sub : ys.Sublist xs) :
    OrderedByKey key ys := List.Pairwise.sublist sub h

theorem OrderedByKey.nodup (h : OrderedByKey key xs) : (xs.map key).Nodup :=
  List.pairwise_map.mpr (List.Pairwise.imp (fun lt => ne_of_lt lt) h)

theorem OrderedByKey.eq_of_key_eq (h : OrderedByKey key xs) {x y : α} (hx : x ∈ xs)
    (hy : y ∈ xs) (same : key x = key y) : x = y :=
  List.inj_on_of_nodup_map h.nodup hx hy same

/-- Two ordered lists, the second strictly behind `bound` and the first not. -/
theorem OrderedByKey.append {bound : κ} (hx : OrderedByKey key xs) (hy : OrderedByKey key ys)
    (before : ∀ x ∈ xs, key x ≤ bound) (behind : ∀ y ∈ ys, bound < key y) :
    OrderedByKey key (xs ++ ys) :=
  List.pairwise_append.mpr
    ⟨hx, hy, fun x hxs y hys => lt_of_le_of_lt (before x hxs) (behind y hys)⟩

theorem le_of_mem_fromKey {x : α} (h : x ∈ fromKey key start xs) : start ≤ key x := by
  simpa [fromKey] using (List.mem_filter.mp h).2

theorem fromKey_sublist : (fromKey key start xs).Sublist xs := List.filter_sublist

/-- Everything behind the first entry lies strictly behind a lower bound of the entries. -/
theorem OrderedByKey.lt_of_mem_tail (h : OrderedByKey key xs) (lower : ∀ x ∈ xs, start ≤ key x)
    {x : α} (hx : x ∈ xs.tail) : start < key x := by
  cases xs with
  | nil => cases hx
  | cons first rest =>
    have head : start ≤ key first := lower first List.mem_cons_self
    exact lt_of_le_of_lt head ((List.pairwise_cons.mp h).1 x hx)

theorem OrderedByKey.le_last (h : OrderedByKey key xs) {last : α}
    (found : xs.getLast? = some last) {x : α} (hx : x ∈ xs) : key x ≤ key last := by
  obtain ⟨front, rfl⟩ := List.getLast?_eq_some_iff.mp found
  rcases List.mem_append.mp hx with inFront | isLast
  · exact le_of_lt ((List.pairwise_append.mp h).2.2 x inFront last List.mem_cons_self)
  · rw [List.mem_singleton.mp isLast]

/-- A window that starts at the key of an entry starts with that entry. -/
theorem fromKey_append_cons {front back : List α} {x : α}
    (h : OrderedByKey key (front ++ x :: back)) :
    fromKey key (key x) (front ++ x :: back) = x :: back := by
  obtain ⟨-, tail, across⟩ := List.pairwise_append.mp h
  have dropped : front.filter (fun y => key x ≤ key y) = [] := by
    refine List.filter_eq_nil_iff.mpr fun y hy => ?_
    simpa using across y hy x List.mem_cons_self
  have kept : back.filter (fun y => key x ≤ key y) = back := by
    refine List.filter_eq_self.mpr fun y hy => ?_
    simpa using le_of_lt ((List.pairwise_cons.mp tail).1 y hy)
  rw [fromKey, List.filter_append, dropped, List.nil_append,
    List.filter_cons_of_pos (by simp), kept]

/-- The entry with the starting key, where there is one, opens the window. -/
theorem fromKey_eq_cons (h : OrderedByKey key xs) {x : α} (hx : x ∈ xs) :
    ∃ back, fromKey key (key x) xs = x :: back := by
  obtain ⟨front, back, rfl⟩ := List.append_of_mem hx
  exact ⟨back, fromKey_append_cons h⟩

end FinanciaApp.Library
