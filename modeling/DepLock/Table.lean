/-!
# Tables

A table maps text keys to values. It is a list of entries sorted by key, each key once,
and it carries the proof of that order (`Table.sorted`): every way of building a table
keeps it, so two tables with the same look-ups are the same list and listing the keys
gives them in byte order, with no further hypothesis.
-/

set_option autoImplicit false

namespace DepLock

/-- The keys of an entry list strictly increase: the list holds a map, in key order. -/
def KeysSorted {α : Type} (es : List (String × α)) : Prop :=
  es.Pairwise fun a b => a.1 < b.1

/-- Changing the values keeps the keys, so it keeps a list sorted. -/
theorem KeysSorted.map_values {α β : Type} {es : List (String × α)} (h : KeysSorted es)
    (f : α → β) : KeysSorted (es.map fun e => (e.1, f e.2)) :=
  List.Pairwise.map _ (fun _ _ hab => hab) h

/-- A table from text keys to values, sorted by key, each key once. -/
structure Table (α : Type) where
  entries : List (String × α)
  sorted : KeysSorted entries
deriving Repr

namespace Table

variable {α : Type}

/-- The empty table. -/
def empty : Table α := ⟨[], List.Pairwise.nil⟩

instance : Inhabited (Table α) := ⟨empty⟩

/-- Inserts into a sorted entry list, replacing an equal key. -/
def insertEntry (k : String) (v : α) : List (String × α) → List (String × α)
  | [] => [(k, v)]
  | (k', v') :: rest =>
    if k < k' then (k, v) :: (k', v') :: rest
    else if k == k' then (k, v) :: rest
    else (k', v') :: insertEntry k v rest

/-- An inserted list holds the new entry and entries of the old list. -/
theorem mem_insertEntry {k : String} {v : α} {es : List (String × α)} {e : String × α}
    (h : e ∈ insertEntry k v es) : e = (k, v) ∨ e ∈ es := by
  induction es with
  | nil => simpa [insertEntry] using h
  | cons e' rest ih =>
    simp only [insertEntry] at h
    split at h
    · simpa using h
    split at h
    · exact (List.mem_cons.mp h).imp_right (List.mem_cons_of_mem _)
    rcases List.mem_cons.mp h with rfl | h
    · exact .inr List.mem_cons_self
    · exact (ih h).imp_right (List.mem_cons_of_mem _)

/-- Insertion keeps a list sorted. -/
theorem insertEntry_sorted {k : String} {v : α} {es : List (String × α)} (h : KeysSorted es) :
    KeysSorted (insertEntry k v es) := by
  induction es with
  | nil => exact List.pairwise_singleton _ _
  | cons e rest ih =>
    obtain ⟨k', v'⟩ := e
    obtain ⟨above, sorted⟩ := List.pairwise_cons.mp h
    simp only [insertEntry]
    by_cases hlt : k < k'
    · -- the new key goes first, below `k'` and so below everything after it
      rw [if_pos hlt]
      refine List.Pairwise.cons (fun e he => ?_) h
      rcases List.mem_cons.mp he with rfl | he
      · exact hlt
      · exact String.lt_trans hlt (above e he)
    rw [if_neg hlt]
    by_cases heq : k = k'
    · subst heq
      rw [if_pos (beq_self_eq_true k)]
      exact List.Pairwise.cons above sorted
    · -- the new key goes further in, above `k'`
      rw [if_neg (by simpa using heq)]
      have hgt : k' < k := Std.lt_of_le_of_ne (String.not_lt.mp hlt) (Ne.symm heq)
      refine List.Pairwise.cons (fun e he => ?_) (ih sorted)
      rcases mem_insertEntry he with rfl | he
      · exact hgt
      · exact above e he

/-- The table with `k` mapped to `v`. -/
def insert (t : Table α) (k : String) (v : α) : Table α :=
  ⟨insertEntry k v t.entries, insertEntry_sorted t.sorted⟩

/-- The table without `k`. -/
def erase (t : Table α) (k : String) : Table α :=
  ⟨t.entries.filter fun e => e.1 != k, t.sorted.filter _⟩

/-- The value at `k`. -/
def get? (t : Table α) (k : String) : Option α :=
  (t.entries.find? fun e => e.1 == k).map (·.2)

/-- Whether `k` has a value. -/
def contains (t : Table α) (k : String) : Bool := (t.get? k).isSome

/-- The keys, in byte order. -/
def keys (t : Table α) : List String := t.entries.map (·.1)

/-- The number of entries. -/
def size (t : Table α) : Nat := t.entries.length

/-- Whether the table has no entries. -/
def isEmpty (t : Table α) : Bool := t.entries.isEmpty

/-- The table of a list of entries, a later entry replacing an earlier one of the same key. -/
def ofList (es : List (String × α)) : Table α :=
  es.foldl (fun t e => t.insert e.1 e.2) empty

/-- Applies `f` to every value. -/
def map {β : Type} (f : α → β) (t : Table α) : Table β :=
  ⟨t.entries.map fun e => (e.1, f e.2), t.sorted.map_values f⟩

/-- The empty table has no entries. -/
@[simp] theorem empty_entries : (empty : Table α).entries = [] := rfl

/-- Inserting into a table inserts into its entry list. -/
@[simp] theorem insert_entries (t : Table α) (k : String) (v : α) :
    (t.insert k v).entries = insertEntry k v t.entries := rfl

/-- Erasing a key filters its entry out of the list. -/
@[simp] theorem erase_entries (t : Table α) (k : String) :
    (t.erase k).entries = t.entries.filter fun e => e.1 != k := rfl

/-- Mapping a table maps the value of each entry and keeps the keys. -/
@[simp] theorem map_entries {β : Type} (f : α → β) (t : Table α) :
    (t.map f).entries = t.entries.map fun e => (e.1, f e.2) := rfl

/-- Tables with the same entries are the same table. -/
theorem ext_entries {t t' : Table α} (h : t.entries = t'.entries) : t = t' := by
  cases t
  cases t'
  cases h
  rfl

end Table

end DepLock
