import DepLock.Proofs.Tree.Shape
import DepLock.Json.Value
import DepLock.Table
import Mathlib.Data.String.Basic

/-!
# Sorted keyed lists

Trees, tables and written objects keep a map as a list of entries sorted by key, each
key once, and all three insert with the same one-pass insertion (`insertKeyed`, written
out again as `Json.insertSorted` and `Table.insertEntry`). This file gives that
representation its theory:

* `KeysSorted` (the order every `Table` carries): the keys strictly increase, which is
  what a list holding a map looks like; insertion keeps it (`KeysSorted.insertKeyed`);
* inserting the entries of a sorted list one after another rebuilds the list
  (`foldl_insertKeyed_of_sorted`), and inserting entries with distinct keys keeps the
  value of each (`lookupKeyed_foldl_insertKeyed`);
* two sorted lists with the same look-ups are equal (`eq_of_lookupKeyed_eq`).

Reading a written map back is then settled by look-ups alone.
-/

set_option autoImplicit false

namespace DepLock

section Keyed

variable {α : Type}

/-- The empty list holds a map. -/
@[simp] theorem keysSorted_nil : KeysSorted ([] : List (String × α)) := List.Pairwise.nil

/-- A list headed by `e` is sorted when `e`'s key is below every later key and the rest is
sorted. -/
theorem keysSorted_cons {e : String × α} {es : List (String × α)} :
    KeysSorted (e :: es) ↔ (∀ e' ∈ es, e.1 < e'.1) ∧ KeysSorted es :=
  List.pairwise_cons

/-- Nothing is found in the empty list. -/
@[simp] theorem lookupKeyed_nil (k : String) : lookupKeyed k ([] : List (String × α)) = none := rfl

/-- A look-up finds the first entry when its key is the one asked for, and searches the rest
otherwise. -/
theorem lookupKeyed_cons (k k' : String) (v : α) (es : List (String × α)) :
    lookupKeyed k ((k', v) :: es) = if k' = k then some v else lookupKeyed k es := by
  by_cases h : k' = k <;> simp [lookupKeyed, h]

/-- A key that no entry has is looked up in vain. -/
theorem lookupKeyed_eq_none {k : String} {es : List (String × α)} (h : ∀ e ∈ es, e.1 ≠ k) :
    lookupKeyed k es = none := by
  induction es with
  | nil => rfl
  | cons e rest ih =>
    obtain ⟨k', v⟩ := e
    rw [lookupKeyed_cons, if_neg (h _ List.mem_cons_self)]
    exact ih fun e he => h e (List.mem_cons_of_mem _ he)

/-- A look-up in two lists joined finds the first list's value, or else the second's. -/
theorem lookupKeyed_append (k : String) (es es' : List (String × α)) :
    lookupKeyed k (es ++ es') = (lookupKeyed k es).or (lookupKeyed k es') := by
  induction es with
  | nil => simp
  | cons e rest ih =>
    obtain ⟨k', v⟩ := e
    by_cases h : k' = k <;> simp [lookupKeyed_cons, h, ih]

/-- Look-ups see through a map of the values. -/
theorem lookupKeyed_map {β : Type} (f : α → β) (k : String) (es : List (String × α)) :
    lookupKeyed k (es.map fun e => (e.1, f e.2)) = (lookupKeyed k es).map f := by
  induction es with
  | nil => rfl
  | cons e rest ih =>
    obtain ⟨k', v⟩ := e
    by_cases h : k' = k <;> simp [lookupKeyed_cons, h, ih]

/-- Insertion keeps a list sorted. -/
theorem KeysSorted.insertKeyed {k : String} {v : α} {es : List (String × α)}
    (h : KeysSorted es) : KeysSorted (insertKeyed k v es) := by
  rw [← Table.insertEntry_eq_insertKeyed]
  exact Table.insertEntry_sorted h

/-- A key above every key of the list is inserted at the end. -/
theorem insertKeyed_of_lt {k : String} {v : α} {es : List (String × α)}
    (h : ∀ e ∈ es, e.1 < k) : insertKeyed k v es = es ++ [(k, v)] := by
  induction es with
  | nil => rfl
  | cons e rest ih =>
    obtain ⟨k', v'⟩ := e
    have hlt : k' < k := h _ List.mem_cons_self
    have hne : ¬(k == k') = true := by simpa using ne_of_gt hlt
    simp only [DepLock.insertKeyed, if_neg (not_lt.mpr hlt.le), if_neg hne, List.cons_append,
      ih fun e he => h e (List.mem_cons_of_mem _ he)]

/-- Inserting the entries of a sorted list, in order, after a sorted prefix of smaller
keys rebuilds the whole list. -/
theorem foldl_insertKeyed_of_sorted (acc es : List (String × α)) (h : KeysSorted (acc ++ es)) :
    es.foldl (fun acc e => insertKeyed e.1 e.2 acc) acc = acc ++ es := by
  induction es generalizing acc with
  | nil => simp
  | cons e rest ih =>
    have below : ∀ e' ∈ acc, e'.1 < e.1 :=
      fun e' he' => (List.pairwise_append.mp h).2.2 e' he' e List.mem_cons_self
    rw [List.foldl_cons, insertKeyed_of_lt below, ih (acc ++ [e]) (by simpa using h)]
    simp

/-- Inserting entries with distinct keys one after another keeps the value of each. -/
theorem lookupKeyed_foldl_insertKeyed (k : String) (acc es : List (String × α))
    (h : (es.map Prod.fst).Nodup) :
    lookupKeyed k (es.foldl (fun acc e => insertKeyed e.1 e.2 acc) acc) =
      (lookupKeyed k es).or (lookupKeyed k acc) := by
  induction es generalizing acc with
  | nil => simp
  | cons e rest ih =>
    obtain ⟨k', v⟩ := e
    simp only [List.map_cons, List.nodup_cons] at h
    rw [List.foldl_cons, ih _ h.2, lookupKeyed_cons]
    by_cases hk : k' = k
    · subst hk
      have absent : lookupKeyed k' rest = none :=
        lookupKeyed_eq_none fun e he hek => h.1 (hek ▸ List.mem_map_of_mem he)
      simp [absent, lookupKeyed_insertKeyed_self]
    · simp [hk, lookupKeyed_insertKeyed_of_ne (Ne.symm hk)]

/-- Inserting entries one after another into a sorted list keeps it sorted. -/
theorem KeysSorted.foldl_insertKeyed {acc : List (String × α)} (h : KeysSorted acc)
    (es : List (String × α)) :
    KeysSorted (es.foldl (fun acc e => DepLock.insertKeyed e.1 e.2 acc) acc) := by
  induction es generalizing acc with
  | nil => exact h
  | cons e rest ih => exact ih h.insertKeyed

/-- An entry after insertions is one inserted or one that was there. -/
theorem mem_foldl_insertKeyed {acc es : List (String × α)} {e : String × α}
    (h : e ∈ es.foldl (fun acc e => insertKeyed e.1 e.2 acc) acc) : e ∈ es ∨ e ∈ acc := by
  induction es generalizing acc with
  | nil => exact .inr h
  | cons e' rest ih =>
    rcases ih h with h | h
    · exact .inl (List.mem_cons_of_mem _ h)
    · rcases mem_insertKeyed h with rfl | h
      · exact .inl List.mem_cons_self
      · exact .inr h

/-- The keys of a sorted list are distinct. -/
theorem KeysSorted.nodup {es : List (String × α)} (h : KeysSorted es) : (es.map Prod.fst).Nodup :=
  List.Pairwise.map _ (fun _ _ hab => ne_of_lt hab) h

/-- In a list with distinct keys, an entry's key finds that entry's value. -/
theorem lookupKeyed_of_mem {es : List (String × α)} {e : String × α} (h : (es.map Prod.fst).Nodup)
    (he : e ∈ es) : lookupKeyed e.1 es = some e.2 := by
  induction es with
  | nil => cases he
  | cons e' rest ih =>
    obtain ⟨k', v'⟩ := e'
    simp only [List.map_cons, List.nodup_cons] at h
    rcases List.mem_cons.mp he with rfl | he
    · simp [lookupKeyed_cons]
    · have hne : k' ≠ e.1 := fun hk => h.1 (hk ▸ List.mem_map_of_mem he)
      rw [lookupKeyed_cons, if_neg hne]
      exact ih h.2 he

/-- A sorted list's keys lie above a key smaller than its first. -/
theorem KeysSorted.lookupKeyed_eq_none_of_lt {k : String} {e : String × α}
    {es : List (String × α)} (h : KeysSorted (e :: es)) (hk : k ≤ e.1) : lookupKeyed k es = none :=
  lookupKeyed_eq_none fun e' he' hek =>
    absurd (hek ▸ (keysSorted_cons.mp h).1 e' he') (not_lt.mpr hk)

/-- Two sorted lists with the same look-ups are the same list. -/
theorem eq_of_lookupKeyed_eq {es es' : List (String × α)} (h : KeysSorted es) (h' : KeysSorted es')
    (same : ∀ k, lookupKeyed k es = lookupKeyed k es') : es = es' := by
  induction es generalizing es' with
  | nil =>
    cases es' with
    | nil => rfl
    | cons e rest =>
      obtain ⟨k, v⟩ := e
      have := same k
      simp [lookupKeyed_cons] at this
  | cons e rest ih =>
    cases es' with
    | nil =>
      obtain ⟨k, v⟩ := e
      have := same k
      simp [lookupKeyed_cons] at this
    | cons e' rest' =>
      obtain ⟨k, v⟩ := e
      obtain ⟨k', v'⟩ := e'
      -- the smaller first key is found in its own list only, so the first keys agree
      have hkk : k = k' := by
        rcases lt_trichotomy k k' with hlt | heq | hgt
        · have := same k
          rw [lookupKeyed_cons, lookupKeyed_cons, if_pos rfl, if_neg (ne_of_gt hlt),
            h'.lookupKeyed_eq_none_of_lt hlt.le] at this
          cases this
        · exact heq
        · have := same k'
          rw [lookupKeyed_cons, lookupKeyed_cons, if_pos rfl, if_neg (ne_of_gt hgt),
            h.lookupKeyed_eq_none_of_lt hgt.le] at this
          cases this
      subst hkk
      have hv : v = v' := by simpa [lookupKeyed_cons] using same k
      subst hv
      congr 1
      refine ih (keysSorted_cons.mp h).2 (keysSorted_cons.mp h').2 fun j => ?_
      by_cases hj : j = k
      · subst hj
        rw [h.lookupKeyed_eq_none_of_lt le_rfl, h'.lookupKeyed_eq_none_of_lt le_rfl]
      · simpa [lookupKeyed_cons, Ne.symm hj] using same j

/-- The step of a fold over groups that inserts, under a group's name, the value `sel`
gives the group, when it gives one. -/
def insertGroup (sel : Group → Option α) (acc : List (String × α)) (g : Group) :
    List (String × α) :=
  match sel g with
  | none => acc
  | some x => insertKeyed g.name x acc

/-- After a fold over groups, a key finds the value of its group when the fold passed that
group, and its old value otherwise. -/
theorem lookupKeyed_foldl_insertGroup (sel : Group → Option α) (gs : List Group)
    (acc : List (String × α)) (k : String) :
    lookupKeyed k (gs.foldl (insertGroup sel) acc) =
      if k ∈ gs.map Group.name then (sel ⟨k⟩).or (lookupKeyed k acc) else lookupKeyed k acc := by
  induction gs generalizing acc with
  | nil => simp
  | cons g rest ih =>
    rw [List.foldl_cons, ih]
    have step : lookupKeyed k (insertGroup sel acc g) =
        if k = g.name then (sel ⟨k⟩).or (lookupKeyed k acc) else lookupKeyed k acc := by
      by_cases hk : k = g.name
      · -- the group passed is the group named `k`
        obtain rfl : g = ⟨k⟩ := by rw [hk]
        unfold insertGroup
        cases sel ⟨k⟩ with
        | none => simp
        | some x => simp [lookupKeyed_insertKeyed_self]
      · unfold insertGroup
        cases sel g with
        | none => simp [hk]
        | some x => simp [hk, lookupKeyed_insertKeyed_of_ne hk]
    rw [step]
    by_cases hk : k = g.name <;> by_cases hr : k ∈ rest.map Group.name <;>
      simp [hk, hr, ← Option.or_assoc]

/-- Inserting a group keeps a list sorted. -/
theorem insertGroup_sorted (sel : Group → Option α) {acc : List (String × α)}
    (h : KeysSorted acc) (g : Group) : KeysSorted (insertGroup sel acc g) := by
  unfold insertGroup
  split
  · exact h
  · exact h.insertKeyed

/-- Inserting groups one after another keeps a list sorted. -/
theorem KeysSorted.foldl_insertGroup (sel : Group → Option α) (gs : List Group)
    {acc : List (String × α)} (h : KeysSorted acc) : KeysSorted (gs.foldl (insertGroup sel) acc) := by
  induction gs generalizing acc with
  | nil => exact h
  | cons g rest ih => exact ih (insertGroup_sorted sel h g)

end Keyed

/-- Written objects insert members as trees insert entries. -/
theorem Json.insertSorted_eq_insertKeyed (k : String) (v : Json.Value)
    (es : List (String × Json.Value)) : Json.insertSorted k v es = insertKeyed k v es := by
  induction es with
  | nil => rfl
  | cons e rest ih =>
    obtain ⟨k', v'⟩ := e
    simp only [Json.insertSorted, insertKeyed, ih]

/-- A table's look-up is the keyed look-up in its entries. -/
theorem Table.get?_eq_lookupKeyed {α : Type} (t : Table α) (k : String) :
    t.get? k = lookupKeyed k t.entries := rfl

end DepLock
