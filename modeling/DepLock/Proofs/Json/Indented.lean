import DepLock.Proofs.Json.RoundTrip
import DepLock.Proofs.Semver.Order
import DepLock.Json.Decode
/-!
# Indented documents with integers read back

`writeIndented` puts each item and member on its own line, which the reader skips as
blanks, and a lock's counters are written as integer literals. This module shows that
a value whose numbers are all integer literals (`Integral`) reads back from its
indented text (`readDocument_writeIndented`), and that such a literal reads back as its
integer (`wholeLiteral_toString`, `readInt_toString`).

An integer literal ends where a character that could continue it is absent, so a value's
text is read back before any text that does not start with a digit, a point or an
exponent (`NumberEnd`).
-/

set_option autoImplicit false

namespace DepLock.Json

open DepLock.Semver

/-! ## Decimal digits -/

/-- Every character of a number's decimal digits is a digit. -/
theorem isDigit_of_mem_toDigits {m : Nat} {c : Char} (h : c ∈ Nat.toDigits 10 m) :
    c.isDigit = true :=
  Nat.isDigit_of_mem_toDigits (by decide) (by decide) h

/-- The digits of a positive number do not start with zero. -/
theorem toDigits_head_ne_zero (m : Nat) (hm : 0 < m) :
    ∃ d ds, Nat.toDigits 10 m = d :: ds ∧ d ≠ '0' := by
  rw [Nat.toDigits_eq_if (by decide)]
  split
  · rename_i small
    refine ⟨_, [], rfl, fun h => ?_⟩
    have code := congrArg Char.toNat h
    rw [Nat.toNat_digitChar_of_lt_ten small] at code
    have zero : '0'.toNat = 48 := rfl
    omega
  · obtain ⟨d, ds, hds, hd⟩ := toDigits_head_ne_zero (m / 10) (by omega)
    exact ⟨d, ds ++ [Nat.digitChar (m % 10)], by rw [hds, List.cons_append], hd⟩
termination_by m
decreasing_by omega

/-- Decimal digits, most significant first, spell the number. -/
theorem foldl_toDigits (m : Nat) :
    (Nat.toDigits 10 m).foldl (fun n c => n * 10 + (c.toNat - '0'.toNat)) 0 = m := by
  have zero : '0'.toNat = 48 := rfl
  rw [Nat.toDigits_eq_if (by decide)]
  split
  · rename_i small
    simp [Nat.toNat_digitChar_of_lt_ten small, zero]
  · rw [List.foldl_append, foldl_toDigits (m / 10), List.foldl_cons, List.foldl_nil,
      Nat.toNat_digitChar_of_lt_ten (Nat.mod_lt _ (by decide)), zero]
    omega
termination_by m
decreasing_by omega

/-- A text of decimal digits reads as the number they spell. -/
theorem toNat!_ofList {ds : List Char} (hne : ds ≠ []) (h : ∀ c ∈ ds, c.isDigit = true) :
    (String.ofList ds).toNat! = ds.foldl (fun n c => n * 10 + (c.toNat - '0'.toNat)) 0 := by
  -- the check reads every character as a digit and ends after the last one
  have scan : ∀ (cs : List Char) (b : Bool), (∀ c ∈ cs, c.isDigit = true) →
      (forIn (m := Id) cs (none, b) fun c s =>
          if c = '_' then
            if (!s.2) = true then pure (ForInStep.done (some false, s.2))
            else pure (ForInStep.yield (none, false))
          else if c.isDigit = true then pure (ForInStep.yield (none, true))
          else pure (ForInStep.done (some false, s.2))) = ((none : Option Bool), cs.isEmpty && b || !cs.isEmpty) := by
    intro cs
    induction cs with
    | nil =>
      intro b _
      simp only [List.forIn_nil, List.isEmpty_nil, Bool.true_and, Bool.not_true, Bool.or_false]
      rfl
    | cons c cs ih =>
      intro b hcs
      have digit := hcs c List.mem_cons_self
      have under : c ≠ '_' := fun h => by rw [h] at digit; exact absurd digit (by decide)
      simp only [List.forIn_cons, under, if_false, digit, if_true, pure_bind]
      rw [ih true fun x hx => hcs x (List.mem_cons_of_mem _ hx)]
      simp
  have skip : ∀ (cs : List Char) (acc : Nat), (∀ c ∈ cs, c.isDigit = true) →
      cs.foldl (fun n c => if c = '_' then n else n * 10 + (c.toNat - '0'.toNat)) acc =
        cs.foldl (fun n c => n * 10 + (c.toNat - '0'.toNat)) acc := by
    intro cs
    induction cs with
    | nil => intro acc _; rfl
    | cons c cs ih =>
      intro acc hcs
      have digit := hcs c List.mem_cons_self
      have under : c ≠ '_' := fun h => by rw [h] at digit; exact absurd digit (by decide)
      simp only [List.foldl_cons, under, if_false]
      exact ih _ fun x hx => hcs x (List.mem_cons_of_mem _ hx)
  have nat : (String.ofList ds).toSlice.isNat = true := by
    simp only [String.Slice.isNat, String.Slice.forIn_eq_forIn_toList, String.copy_toSlice,
      String.toList_ofList]
    rw [scan ds false h]
    cases ds with
    | nil => exact absurd rfl hne
    | cons c cs => rfl
  simp only [String.toNat!, String.Slice.toNat!, nat, if_true, String.Slice.foldl_eq_foldl_toList,
    String.copy_toSlice, String.toList_ofList]
  exact skip ds 0 h

/-! ## Integer literals -/

/-- Reading a number's decimal digits gives the number back. -/
theorem toNat!_toDigits (m : Nat) : (String.ofList (Nat.toDigits 10 m)).toNat! = m :=
  (toNat!_ofList Nat.toDigits_ne_nil fun _ => isDigit_of_mem_toDigits).trans (foldl_toDigits m)

/-- A number's decimal digits are all digits. -/
theorem all_isDigit_toDigits (m : Nat) : (Nat.toDigits 10 m).all Char.isDigit = true :=
  List.all_eq_true.mpr fun _ => isDigit_of_mem_toDigits

/-- The characters of an integer's literal: a minus sign for a negative one, then the
decimal digits of its size. -/
theorem toString_int_toList (i : Int) :
    (toString i).toList = (if i < 0 then ['-'] else []) ++ Nat.toDigits 10 i.natAbs := by
  cases i with
  | ofNat m => simp [toString, Int.repr, Nat.repr]
  | negSucc m =>
    simp [toString, Int.repr, Nat.repr, Int.negSucc_lt_zero]

/-- An integer's literal starts with a minus sign or a digit. -/
theorem toString_int_cons (i : Int) :
    ∃ c t, (toString i).toList = c :: t ∧ (c = '-' ∨ c.isDigit = true) := by
  rw [toString_int_toList]
  split
  · exact ⟨'-', _, rfl, .inl rfl⟩
  · obtain ⟨c, t, h⟩ := List.exists_cons_of_ne_nil (Nat.toDigits_ne_nil (n := i.natAbs) (b := 10))
    exact ⟨c, t, by rw [List.nil_append, h],
      .inr (isDigit_of_mem_toDigits (by rw [h]; exact List.mem_cons_self))⟩

/-- An integer's literal is a whole literal of that integer. -/
theorem wholeLiteral_toString (i : Int) : wholeLiteral? (toString i) = some i := by
  cases i with
  | ofNat m =>
    obtain ⟨d, ds, hds⟩ := List.exists_cons_of_ne_nil (Nat.toDigits_ne_nil (n := m) (b := 10))
    have digits : (toString (Int.ofNat m)).toList = d :: ds := by
      have nonneg : ¬ Int.ofNat m < 0 := Int.not_lt.mpr (Int.natCast_nonneg m)
      rw [toString_int_toList, if_neg nonneg, List.nil_append]
      exact hds
    have minus : d ≠ '-' := fun h => by
      have digit := isDigit_of_mem_toDigits (m := m) (c := d) (by rw [hds]; exact List.mem_cons_self)
      rw [h] at digit
      exact absurd digit (by decide)
    unfold wholeLiteral?
    rw [digits]
    split
    · rename_i heq
      exact absurd (List.cons.inj heq).1 minus
    · rw [← hds, all_isDigit_toDigits, toNat!_toDigits]
      simp [Nat.toDigits_ne_nil]
  | negSucc m =>
    have digits : (toString (Int.negSucc m)).toList = '-' :: Nat.toDigits 10 (m + 1) := by
      rw [toString_int_toList, if_pos (Int.negSucc_lt_zero m)]
      rfl
    unfold wholeLiteral?
    rw [digits]
    simp [all_isDigit_toDigits, toNat!_toDigits, Nat.toDigits_ne_nil, Int.negSucc_eq]

/-- A 64-bit integer field reads back from its literal. -/
theorem readInt_toString {i : Int} (hi : -(Int.pow 2 63) ≤ i ∧ i < Int.pow 2 63) (wanted : String)
    (path : List String) : readInt wanted path (.number (toString i)) = .ok (some i) := by
  simp only [readInt, wholeLiteral_toString, if_pos hi]

/-- Whether a number literal is the literal of an integer. -/
def isIntLiteral (lit : String) : Bool :=
  match wholeLiteral? lit with
  | some i => toString i == lit
  | none => false

/-- The text of an integer is the literal of an integer. -/
theorem isIntLiteral_toString (i : Int) : isIntLiteral (toString i) = true := by
  unfold isIntLiteral
  rw [wholeLiteral_toString]
  exact beq_self_eq_true _

/-- A literal is the literal of an integer exactly when it is the text of some integer. -/
theorem isIntLiteral_iff {lit : String} : isIntLiteral lit = true ↔ ∃ i : Int, toString i = lit := by
  constructor
  · intro h
    unfold isIntLiteral at h
    split at h
    · exact ⟨_, beq_iff_eq.mp h⟩
    · contradiction
  · rintro ⟨i, rfl⟩
    exact isIntLiteral_toString i

mutual
/-- Whether every number in a value is the literal of an integer. -/
def integral : Value → Bool
  | .number lit => isIntLiteral lit
  | .array items => itemsIntegral items
  | .object ms => membersIntegral ms
  | _ => true
/-- Whether every number in items is the literal of an integer. -/
def itemsIntegral : List Value → Bool
  | [] => true
  | v :: rest => integral v && itemsIntegral rest
/-- Whether every number in members is the literal of an integer. -/
def membersIntegral : List (String × Value) → Bool
  | [] => true
  | (_, v) :: rest => integral v && membersIntegral rest
end

mutual
/-- A value with no number has only integer numbers. -/
theorem integral_of_numberFree : ∀ v : Value, numberFree v = true → integral v = true
  | .null, _ => rfl
  | .bool _, _ => rfl
  | .number _, h => by simp [numberFree] at h
  | .string _, _ => rfl
  | .array items, h => by
    simpa [integral] using itemsIntegral_of_numberFree items (by simpa [numberFree] using h)
  | .object ms, h => by
    simpa [integral] using membersIntegral_of_numberFree ms (by simpa [numberFree] using h)

/-- Items with no number have only integer numbers. -/
theorem itemsIntegral_of_numberFree : ∀ items : List Value,
    itemsNumberFree items = true → itemsIntegral items = true
  | [], _ => rfl
  | v :: rest, h => by
    obtain ⟨hv, hr⟩ := Bool.and_eq_true_iff.mp h
    simp only [itemsIntegral, integral_of_numberFree v hv, itemsIntegral_of_numberFree rest hr,
      Bool.and_self]

/-- Members with no number have only integer numbers. -/
theorem membersIntegral_of_numberFree : ∀ ms : List (String × Value),
    membersNumberFree ms = true → membersIntegral ms = true
  | [], _ => rfl
  | (_, v) :: rest, h => by
    obtain ⟨hv, hr⟩ := Bool.and_eq_true_iff.mp h
    simp only [membersIntegral, integral_of_numberFree v hv, membersIntegral_of_numberFree rest hr,
      Bool.and_self]
end

/-- Two member lists joined have integer numbers when each has. -/
theorem membersIntegral_append (ms ns : List (String × Value)) :
    membersIntegral (ms ++ ns) = (membersIntegral ms && membersIntegral ns) := by
  induction ms with
  | nil => simp [membersIntegral]
  | cons m ms ih => simp [membersIntegral, ih, Bool.and_assoc]

/-! ## Reading a number -/

/-- Where a number literal ends: what follows does not start with a digit, a point or
an exponent. -/
def NumberEnd (rest : List Char) : Prop :=
  ∀ c ∈ rest.head?, c.isDigit = false ∧ c ≠ '.' ∧ c ≠ 'e' ∧ c ≠ 'E'

/-- A character that is neither a digit, a point nor an exponent ends a number literal. -/
theorem numberEnd_cons {c : Char} (h : c.isDigit = false ∧ c ≠ '.' ∧ c ≠ 'e' ∧ c ≠ 'E')
    (t : List Char) : NumberEnd (c :: t) := by
  intro x hx
  cases hx
  exact h

/-- Blanks end a number. -/
theorem numberEnd_of_blanks {bs : List Char} (h : ∀ c ∈ bs, isDocBlank c = true) : NumberEnd bs := by
  intro c hc
  have blank := h c (List.mem_of_mem_head? hc)
  simp only [isDocBlank, Bool.or_eq_true, beq_iff_eq] at blank
  rcases blank with ((rfl | rfl) | rfl) | rfl <;> decide

/-- Spanning digits takes exactly the digits in front of a number's end. -/
theorem spanDigits_append {ds rest : List Char} (hd : ∀ c ∈ ds, c.isDigit = true)
    (hr : NumberEnd rest) : spanDigits (ds ++ rest) = (ds, rest) := by
  have stop : rest.takeWhile Char.isDigit = [] ∧ rest.dropWhile Char.isDigit = rest := by
    cases rest with
    | nil => exact ⟨rfl, rfl⟩
    | cons c more =>
      have h := (hr c rfl).1
      exact ⟨List.takeWhile_cons_of_neg (by simp [h]), List.dropWhile_cons_of_neg (by simp [h])⟩
  simp only [spanDigits, List.takeWhile_append_of_pos hd, List.dropWhile_append_of_pos hd,
    stop.1, stop.2, List.append_nil]

/-- A lone zero in front of a number's end reads as the literal 0. -/
theorem readNumber_zero {rest : List Char} (hr : NumberEnd rest) :
    readNumber ('0' :: rest) = .ok ("0", rest) := by
  cases rest with
  | nil => rfl
  | cons c t =>
    obtain ⟨-, point, e1, e2⟩ := hr c rfl
    simp [readNumber, point, e1, e2]
    rfl

/-- A literal with a sign or none, whose digits do not start with zero, is read up to
where it ends. -/
theorem readNumber_lead {sign : List Char} (hsign : sign = [] ∨ sign = ['-']) {d : Char}
    {ds rest : List Char} (hd : d.isDigit = true) (hzero : d ≠ '0') (hds : ∀ c ∈ ds, c.isDigit = true)
    (hr : NumberEnd rest) :
    readNumber (sign ++ d :: ds ++ rest) = .ok (String.ofList (sign ++ d :: ds), rest) := by
  have minus : d ≠ '-' := by rintro rfl; exact absurd hd (by decide)
  have span := @spanDigits_append (d :: ds) rest (List.forall_mem_cons.mpr ⟨hd, hds⟩) hr
  rcases hsign with rfl | rfl
  all_goals
    cases rest with
    | nil =>
      simp only [List.append_nil] at span
      simp [readNumber, minus, hd, span]
      rfl
    | cons c t =>
      obtain ⟨-, point, e1, e2⟩ := hr c rfl
      simp only [List.cons_append] at span
      simp [readNumber, minus, hd, span, point, e1, e2]
      rfl

/-- An integer's literal is read as itself, up to where it ends. -/
theorem readNumber_toString (i : Int) {rest : List Char} (hr : NumberEnd rest) :
    readNumber ((toString i).toList ++ rest) = .ok (toString i, rest) := by
  by_cases zero : i = 0
  · subst zero
    exact readNumber_zero hr
  · obtain ⟨d, ds, hds, hd⟩ := toDigits_head_ne_zero i.natAbs (Int.natAbs_pos.mpr zero)
    have text : (toString i).toList = (if i < 0 then ['-'] else []) ++ d :: ds := by
      rw [toString_int_toList, hds]
    have lead := @readNumber_lead (if i < 0 then ['-'] else []) (by split <;> simp) d ds rest
      (isDigit_of_mem_toDigits (by rw [hds]; exact List.mem_cons_self)) hd
      (fun c hc => isDigit_of_mem_toDigits (by rw [hds]; exact List.mem_cons_of_mem _ hc)) hr
    rw [← text, String.ofList_toList] at lead
    exact lead

/-- A digit is no blank and opens no string, array or object. -/
theorem digit_ne {c : Char} (h : c.isDigit = true) :
    isDocBlank c = false ∧ c ≠ '{' ∧ c ≠ '[' ∧ c ≠ '"' ∧ c ≠ ']' := by
  refine ⟨?_, ?_, ?_, ?_, ?_⟩
  · cases hb : isDocBlank c with
    | false => rfl
    | true =>
      simp only [isDocBlank, Bool.or_eq_true, beq_iff_eq] at hb
      rcases hb with ((rfl | rfl) | rfl) | rfl <;> exact absurd h (by decide)
  all_goals rintro rfl; exact absurd h (by decide)

/-- An integer's literal is read as a number, up to where it ends. -/
theorem readValue_toString (i : Int) (n : Nat) {rest : List Char} (hr : NumberEnd rest) :
    readValue (n + 1) ((toString i).toList ++ rest) = .ok (.number (toString i), rest) := by
  obtain ⟨c, t, text, hc⟩ := toString_int_cons i
  have number := readNumber_toString i hr
  rw [text, List.cons_append] at number
  rw [text, List.cons_append]
  rcases hc with rfl | hc
  · simp [readValue, skipDocBlanks, isDocBlank, number, Except.map]
  · obtain ⟨blank, brace, bracket, quote, -⟩ := digit_ne hc
    simp [readValue, skipDocBlanks_cons blank, brace, bracket, quote, hc, number, Except.map]

/-! ## Blanks between tokens -/

/-- Skipping blanks passes over a run of blanks. -/
theorem skipDocBlanks_blanks {bs : List Char} (h : ∀ c ∈ bs, isDocBlank c = true) (cs : List Char) :
    skipDocBlanks (bs ++ cs) = skipDocBlanks cs :=
  List.dropWhile_append_of_pos h

/-- A line break and its indent are blanks. -/
theorem newline_blank {ind : List Char} (h : ∀ c ∈ ind, isDocBlank c = true) (d : Nat) :
    ∀ c ∈ newline ind d, isDocBlank c = true := by
  simp only [newline, List.mem_cons, List.mem_flatten, List.mem_replicate]
  rintro c (rfl | ⟨l, ⟨-, rfl⟩, hc⟩)
  · rfl
  · exact h c hc

/-- The line break and indentation that the indented writer puts after a value end a number
literal. -/
theorem numberEnd_newline (ind : List Char) (d : Nat) (rest : List Char) :
    NumberEnd (newline ind d ++ rest) :=
  numberEnd_cons (by decide) _

/-- Reading a value passes over the blanks in front of it. -/
theorem readValue_blanks {bs : List Char} (h : ∀ c ∈ bs, isDocBlank c = true) (n : Nat)
    (cs : List Char) : readValue (n + 1) (bs ++ cs) = readValue (n + 1) cs := by
  rw [readValue, readValue, skipDocBlanks_blanks h]

/-! ## Indented text -/

section Indented

variable {ind : List Char}

/-- The indented text of a value whose numbers are integer literals starts with a
character that is not a blank and not a closing bracket. -/
theorem writeIndentedValue_eq_cons {v : Value} (hv : integral v = true) (d : Nat) :
    ∃ c t, writeIndentedValue ind d v = c :: t ∧ isDocBlank c = false ∧ c ≠ ']' := by
  match v, hv with
  | .null, _ => exact ⟨_, _, rfl, rfl, by decide⟩
  | .bool true, _ => exact ⟨_, _, rfl, rfl, by decide⟩
  | .bool false, _ => exact ⟨_, _, rfl, rfl, by decide⟩
  | .string s, _ => exact ⟨_, _, rfl, rfl, by decide⟩
  | .number lit, hv =>
    obtain ⟨i, rfl⟩ := isIntLiteral_iff.mp hv
    obtain ⟨c, t, text, hc⟩ := toString_int_cons i
    refine ⟨c, t, text, ?_⟩
    rcases hc with rfl | hc
    · decide
    · exact ⟨(digit_ne hc).1, (digit_ne hc).2.2.2.2⟩
  | .array [], _ => exact ⟨_, _, rfl, rfl, by decide⟩
  | .array (a :: as), _ =>
    exact ⟨'[', writeIndentedItems ind (d + 1) (a :: as) ++ newline ind d ++ [']'],
      by simp [writeIndentedValue], rfl, by decide⟩
  | .object [], _ => exact ⟨_, _, rfl, rfl, by decide⟩
  | .object (m :: ms), _ =>
    exact ⟨'{', writeIndentedMembers ind (d + 1) (m :: ms) ++ newline ind d ++ ['}'],
      by simp [writeIndentedValue], rfl, by decide⟩

/-- Items start with a line break and the text of the first one. -/
theorem writeIndentedItems_cons (v : Value) (vs : List Value) (d : Nat) :
    ∃ later, writeIndentedItems ind d (v :: vs) = newline ind d ++ writeIndentedValue ind d v ++ later := by
  cases vs with
  | nil => exact ⟨[], by simp [writeIndentedItems]⟩
  | cons w ws => exact ⟨',' :: writeIndentedItems ind d (w :: ws), by simp [writeIndentedItems]⟩

/-- Members start with a line break and the opening quote of the first key. -/
theorem writeIndentedMembers_cons (k : String) (v : Value) (more : List (String × Value)) (d : Nat) :
    ∃ body, writeIndentedMembers ind d ((k, v) :: more) = newline ind d ++ '"' :: body := by
  cases more with
  | nil =>
    exact ⟨k.toList.flatMap escapeChar ++ '"' :: ':' :: ' ' :: writeIndentedValue ind d v,
      by simp [writeIndentedMembers, writeString]⟩
  | cons m ms =>
    exact ⟨k.toList.flatMap escapeChar ++ '"' :: ':' :: ' ' :: (writeIndentedValue ind d v ++
      ',' :: writeIndentedMembers ind d (m :: ms)), by simp [writeIndentedMembers, writeString]⟩

/-- Reading an indented array passes over the line break before its first item. -/
theorem readArray_items (hind : ∀ c ∈ ind, isDocBlank c = true) {v : Value} (hv : integral v = true)
    (vs : List Value) (d m : Nat) (tail : List Char) :
    readArray (m + 1) (writeIndentedItems ind d (v :: vs) ++ tail) =
      readElements m [] (writeIndentedItems ind d (v :: vs) ++ tail) := by
  obtain ⟨later, items⟩ := @writeIndentedItems_cons ind v vs d
  obtain ⟨c, t, text, blank, close⟩ := @writeIndentedValue_eq_cons ind _ hv d
  rw [items, text]
  simp [readArray, skipDocBlanks_blanks (newline_blank hind d), skipDocBlanks_cons blank, close]

/-- Reading an indented object passes over the line break before its first member. -/
theorem readObject_members (hind : ∀ c ∈ ind, isDocBlank c = true) {ms : List (String × Value)}
    {d : Nat} {body : List Char} (h : writeIndentedMembers ind d ms = newline ind d ++ '"' :: body)
    (m : Nat) (tail : List Char) :
    readObject (m + 1) (writeIndentedMembers ind d ms ++ tail) = readMembers m [] (body ++ tail) := by
  rw [h, List.append_assoc, List.cons_append]
  simp only [readObject]
  rw [skipDocBlanks_blanks (newline_blank hind d)]
  simp [skipDocBlanks, isDocBlank]

mutual
/-- A value whose numbers are integer literals reads back from its indented text, up to
where a number would end. -/
theorem readValue_writeIndented (hind : ∀ c ∈ ind, isDocBlank c = true) :
    ∀ (v : Value) (d n : Nat) (rest : List Char), integral v = true → readCost v ≤ n →
      NumberEnd rest → readValue n (writeIndentedValue ind d v ++ rest) = .ok (v, rest)
  | v, _, 0, _, _, hcost, _ => absurd hcost (by have := one_le_readCost v; omega)
  | .null, _, n + 1, rest, _, hcost, _ => readValue_writeValue .null (n + 1) rest rfl hcost
  | .bool b, _, n + 1, rest, _, hcost, _ => readValue_writeValue (.bool b) (n + 1) rest rfl hcost
  | .string s, _, n + 1, rest, _, hcost, _ =>
    readValue_writeValue (.string s) (n + 1) rest rfl hcost
  | .number lit, _, n + 1, rest, hv, _, hr => by
    obtain ⟨i, rfl⟩ := isIntLiteral_iff.mp hv
    exact readValue_toString i n hr
  | .array [], _, n + 1, rest, _, hcost, _ => by
    obtain ⟨m, rfl⟩ : ∃ m, n = m + 1 := ⟨n - 1, by simp only [readCost, itemsCost] at hcost; omega⟩
    simp [writeIndentedValue, readValue_array, readArray, skipDocBlanks, isDocBlank]
  | .array (v :: vs), d, n + 1, rest, hv, hcost, _ => by
    obtain ⟨m, rfl⟩ : ∃ m, n = m + 1 := ⟨n - 1, by simp only [readCost] at hcost; omega⟩
    have hv' : integral v = true := (Bool.and_eq_true_iff.mp (hv : itemsIntegral (v :: vs) = true)).1
    have elements := readElements_writeIndented hind (v :: vs) (d + 1) d m [] rest (by simp) hv
      (by have : 2 + itemsCost (v :: vs) ≤ m + 1 + 1 := hcost; omega)
    rw [show writeIndentedValue ind d (.array (v :: vs)) ++ rest =
        '[' :: (writeIndentedItems ind (d + 1) (v :: vs) ++ (newline ind d ++ ']' :: rest)) by
      simp [writeIndentedValue], readValue_array, readArray_items hind hv', ← List.append_assoc,
      elements]
    simp
  | .object [], _, n + 1, rest, _, hcost, _ => by
    obtain ⟨m, rfl⟩ : ∃ m, n = m + 1 := ⟨n - 1, by simp only [readCost, membersCost] at hcost; omega⟩
    simp [writeIndentedValue, readValue_object, readObject, skipDocBlanks, isDocBlank]
  | .object ((k, v) :: more), d, n + 1, rest, hv, hcost, _ => by
    obtain ⟨m, rfl⟩ : ∃ m, n = m + 1 := ⟨n - 1, by simp only [readCost] at hcost; omega⟩
    obtain ⟨body, hbody⟩ := @writeIndentedMembers_cons ind k v more (d + 1)
    have members := readMembers_writeIndented hind ((k, v) :: more) (d + 1) d m [] body rest hbody hv
      (by have : 2 + membersCost ((k, v) :: more) ≤ m + 1 + 1 := hcost; omega)
    rw [show writeIndentedValue ind d (.object ((k, v) :: more)) ++ rest =
        '{' :: (writeIndentedMembers ind (d + 1) ((k, v) :: more) ++ (newline ind d ++ '}' :: rest)) by
      simp [writeIndentedValue], readValue_object, readObject_members hind hbody, ← List.append_assoc,
      members]
    simp

/-- Items whose numbers are integer literals read back, each from its own line, up to
the closing bracket. -/
theorem readElements_writeIndented (hind : ∀ c ∈ ind, isDocBlank c = true) :
    ∀ (items : List Value) (e d n : Nat) (acc : List Value) (rest : List Char), items ≠ [] →
      itemsIntegral items = true → itemsCost items ≤ n →
      readElements n acc (writeIndentedItems ind e items ++ newline ind d ++ ']' :: rest) =
        .ok (.array (acc.reverse ++ items), rest)
  | [], _, _, _, _, _, hne, _, _ => absurd rfl hne
  | _ :: _, _, _, 0, _, _, _, _, hcost => by simp [itemsCost] at hcost
  | [v], e, d, n + 1, acc, rest, _, hv, hcost => by
    have hv : integral v = true := (Bool.and_eq_true_iff.mp hv).1
    have hcost : 1 + readCost v + 0 ≤ n + 1 := hcost
    simp only [writeIndentedItems, List.append_assoc, readElements]
    obtain ⟨m, rfl⟩ : ∃ m, n = m + 1 := ⟨n - 1, by have := one_le_readCost v; omega⟩
    have value := readValue_writeIndented hind v e (m + 1) (newline ind d ++ ']' :: rest) hv (by omega)
      (numberEnd_newline ind d _)
    rw [readValue_blanks (newline_blank hind e), value]
    simp only [bind, Except.bind]
    rw [skipDocBlanks_blanks (newline_blank hind d), skipDocBlanks_cons (by decide)]
    simp
  | v :: w :: ws, e, d, n + 1, acc, rest, _, hv, hcost => by
    obtain ⟨hv, hws⟩ := Bool.and_eq_true_iff.mp hv
    have hcost : 1 + readCost v + itemsCost (w :: ws) ≤ n + 1 := hcost
    simp only [writeIndentedItems, List.append_assoc, List.cons_append, readElements]
    obtain ⟨m, rfl⟩ : ∃ m, n = m + 1 := ⟨n - 1, by have := one_le_readCost v; omega⟩
    have value := readValue_writeIndented hind v e (m + 1)
      (',' :: (writeIndentedItems ind e (w :: ws) ++ newline ind d ++ ']' :: rest)) hv (by omega)
      (numberEnd_cons (by decide) _)
    have later := readElements_writeIndented hind (w :: ws) e d (m + 1) (v :: acc) rest (by simp) hws
      (by have := one_le_readCost v; omega)
    simp only [List.append_assoc] at value later
    rw [readValue_blanks (newline_blank hind e), value]
    simp only [bind, Except.bind]
    rw [skipDocBlanks_cons (by decide)]
    simp [later]

/-- Members whose numbers are integer literals read back, each from its own line, after
the opening quote of the first key. -/
theorem readMembers_writeIndented (hind : ∀ c ∈ ind, isDocBlank c = true) :
    ∀ (ms : List (String × Value)) (e d n : Nat) (acc : List (String × Value)) (body rest : List Char),
      writeIndentedMembers ind e ms = newline ind e ++ '"' :: body → membersIntegral ms = true →
      membersCost ms ≤ n →
      readMembers n acc (body ++ newline ind d ++ '}' :: rest) = .ok (.object (acc.reverse ++ ms), rest)
  | [], _, _, _, _, _, _, hbody, _, _ => by simp [writeIndentedMembers, newline] at hbody
  | _ :: _, _, _, 0, _, _, _, _, _, hcost => by simp [membersCost] at hcost
  | [(k, v)], e, d, n + 1, acc, body, rest, hbody, hv, hcost => by
    have hv : integral v = true := (Bool.and_eq_true_iff.mp hv).1
    have hcost : 1 + readCost v + 0 ≤ n + 1 := hcost
    simp only [writeIndentedMembers, writeString, List.append_assoc, List.cons_append,
      List.append_cancel_left_eq, List.cons.injEq, true_and] at hbody
    subst hbody
    simp only [List.append_assoc, List.cons_append, readMembers, readStringBody_escaped,
      List.nil_append]
    obtain ⟨m, rfl⟩ : ∃ m, n = m + 1 := ⟨n - 1, by have := one_le_readCost v; omega⟩
    have value := readValue_writeIndented hind v e (m + 1) (newline ind d ++ '}' :: rest) hv (by omega)
      (numberEnd_newline ind d _)
    have space := @readValue_blanks [' '] (List.all_eq_true.mp (by decide)) m
      (writeIndentedValue ind e v ++ newline ind d ++ '}' :: rest)
    simp only [List.append_assoc, List.singleton_append] at space
    simp only [bind, Except.bind]
    rw [skipDocBlanks_cons (by decide)]
    simp only
    rw [space, value]
    simp only
    rw [skipDocBlanks_blanks (newline_blank hind d), skipDocBlanks_cons (by decide)]
    simp
  | (k, v) :: (k', v') :: fs, e, d, n + 1, acc, body, rest, hbody, hv, hcost => by
    obtain ⟨hv, hfs⟩ := Bool.and_eq_true_iff.mp hv
    have hcost : 1 + readCost v + membersCost ((k', v') :: fs) ≤ n + 1 := hcost
    simp only [writeIndentedMembers, writeString, List.append_assoc, List.cons_append,
      List.append_cancel_left_eq, List.cons.injEq, true_and] at hbody
    subst hbody
    simp only [List.append_assoc, List.cons_append, readMembers, readStringBody_escaped,
      List.nil_append]
    obtain ⟨m, rfl⟩ : ∃ m, n = m + 1 := ⟨n - 1, by have := one_le_readCost v; omega⟩
    obtain ⟨body', hbody'⟩ := @writeIndentedMembers_cons ind k' v' fs e
    have value := readValue_writeIndented hind v e (m + 1)
      (',' :: (writeIndentedMembers ind e ((k', v') :: fs) ++ newline ind d ++ '}' :: rest)) hv
      (by omega) (numberEnd_cons (by decide) _)
    have later := readMembers_writeIndented hind ((k', v') :: fs) e d (m + 1) ((k, v) :: acc) body'
      rest hbody' hfs (by have := one_le_readCost v; omega)
    have space := @readValue_blanks [' '] (List.all_eq_true.mp (by decide)) m
      (writeIndentedValue ind e v ++ ',' :: (writeIndentedMembers ind e ((k', v') :: fs) ++
        newline ind d ++ '}' :: rest))
    simp only [List.append_assoc, List.singleton_append] at value later space
    simp only [bind, Except.bind]
    rw [skipDocBlanks_cons (by decide)]
    simp only
    rw [space, value]
    simp only
    rw [skipDocBlanks_cons (by decide)]
    simp only
    rw [hbody', List.append_assoc, List.cons_append, skipDocBlanks_blanks (newline_blank hind e),
      skipDocBlanks_cons (by decide)]
    simp [later]
end

mutual
/-- The indented text of a value whose numbers are integer literals is long enough to
pay for reading it. -/
theorem readCost_le_indented : ∀ (v : Value) (d : Nat), integral v = true →
    readCost v ≤ (writeIndentedValue ind d v).length
  | .null, _, _ => by simp [readCost, writeIndentedValue, writeValue]
  | .bool true, _, _ => by simp [readCost, writeIndentedValue, writeValue]
  | .bool false, _, _ => by simp [readCost, writeIndentedValue, writeValue]
  | .string s, _, _ => by
    simp only [readCost, writeIndentedValue, writeValue, writeString, List.length_cons]
    omega
  | .number lit, _, hv => by
    obtain ⟨i, rfl⟩ := isIntLiteral_iff.mp hv
    obtain ⟨c, t, text, -⟩ := toString_int_cons i
    show 1 ≤ (toString i).toList.length
    rw [text, List.length_cons]
    omega
  | .array [], _, _ => by simp [readCost, itemsCost, writeIndentedValue]
  | .array (v :: vs), d, hv => by
    have := itemsCost_le_indented (v :: vs) (d + 1) hv
    simp only [readCost]
    simp [writeIndentedValue]
    omega
  | .object [], _, _ => by simp [readCost, membersCost, writeIndentedValue]
  | .object (m :: ms), d, hv => by
    have := membersCost_le_indented (m :: ms) (d + 1) hv
    simp only [readCost]
    simp [writeIndentedValue]
    omega

/-- The fuel that reading indented items takes is at most the length of their text. -/
theorem itemsCost_le_indented : ∀ (items : List Value) (d : Nat), itemsIntegral items = true →
    itemsCost items ≤ (writeIndentedItems ind d items).length
  | [], _, _ => by simp [itemsCost]
  | [v], d, hv => by
    have := readCost_le_indented v d (Bool.and_eq_true_iff.mp hv).1
    simp only [itemsCost, writeIndentedItems, newline, List.length_append, List.length_cons]
    omega
  | v :: w :: ws, d, hv => by
    obtain ⟨hv, hws⟩ := Bool.and_eq_true_iff.mp hv
    have := readCost_le_indented v d hv
    have := itemsCost_le_indented (w :: ws) d hws
    have : itemsCost (v :: w :: ws) = 1 + readCost v + itemsCost (w :: ws) := rfl
    simp only [writeIndentedItems, newline, List.length_append, List.length_cons]
    omega

/-- The fuel that reading indented members takes is at most the length of their text. -/
theorem membersCost_le_indented : ∀ (ms : List (String × Value)) (d : Nat),
    membersIntegral ms = true → membersCost ms ≤ (writeIndentedMembers ind d ms).length
  | [], _, _ => by simp [membersCost]
  | [(k, v)], d, hv => by
    have := readCost_le_indented v d (Bool.and_eq_true_iff.mp hv).1
    simp only [membersCost, writeIndentedMembers, writeString, newline, List.length_append,
      List.length_cons]
    omega
  | (k, v) :: m :: ms, d, hv => by
    obtain ⟨hv, hms⟩ := Bool.and_eq_true_iff.mp hv
    have := readCost_le_indented v d hv
    have := membersCost_le_indented (m :: ms) d hms
    have : membersCost ((k, v) :: m :: ms) = 1 + readCost v + membersCost (m :: ms) := rfl
    simp only [writeIndentedMembers, writeString, newline, List.length_append, List.length_cons]
    omega
end

end Indented

/-- A value whose numbers are integer literals reads back from its indented text,
whatever blanks follow it. -/
theorem readDocument_writeIndented {indent : String} (hind : ∀ c ∈ indent.toList, isDocBlank c = true)
    {v : Value} (hv : integral v = true) {tail : String} (htail : ∀ c ∈ tail.toList, isDocBlank c = true) :
    readDocument (writeIndented indent v ++ tail) = .ok v := by
  have cost := @readCost_le_indented indent.toList v 0 hv
  have read := readValue_writeIndented hind v 0
    (fuelFor (writeIndentedValue indent.toList 0 v ++ tail.toList)) tail.toList hv
    (by simp only [fuelFor, List.length_append]; omega) (numberEnd_of_blanks htail)
  have after : skipDocBlanks tail.toList = [] := by
    rw [← List.append_nil tail.toList, skipDocBlanks_blanks htail]
    rfl
  simp [readDocument, writeIndented, String.toList_append, String.toList_ofList, read, after, bind,
    Except.bind, pure, Except.pure]

end DepLock.Json
