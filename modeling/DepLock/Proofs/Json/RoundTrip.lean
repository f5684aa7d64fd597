import DepLock.Json.Read
import DepLock.Json.Write

/-!
# Reading what was written

A value without numbers reads back from its compact text as itself (`readDocument_write`,
`readFirst_write`). Numbers are left out because a literal is written as it is held,
and a held literal need not be one the grammar accepts.

The proof follows the two sides piece by piece:

* a character's escape reads back as one code unit (`go_escapeChar`): the letter escapes
  and the character itself as that character, the `\u` escapes as its code. Joining
  units that come from characters gives the characters back (`joinUnits_map_escapedUnit`),
  because no escaped code is a surrogate; so a written string reads back as itself
  (`readStringBody_escaped`);
* a value, an object's members and an array's items read back by one recursion over the
  value (`readValue_writeValue`, `readMembers_writeMembers`, `readElements_writeItems`),
  given fuel at least `readCost`, which the written text always provides
  (`readCost_le_length`).
-/

set_option autoImplicit false

/-- The bytes of a byte array listed by `toList` are its data. -/
theorem ByteArray.toList_loop_eq_drop (bs : ByteArray) (i : Nat) (r : List UInt8) :
    ByteArray.toList.loop bs i r = r.reverse ++ bs.data.toList.drop i := by
  fun_induction ByteArray.toList.loop bs i r with
  | case1 i r h ih =>
    have hi : i < bs.data.toList.length := by simpa using h
    rw [ih, List.drop_eq_getElem_cons (l := bs.data.toList) hi]
    simp [ByteArray.get!, h]
  | case2 i r h =>
    rw [List.drop_eq_nil_of_le (by simpa using Nat.le_of_not_lt h)]
    simp

namespace DepLock.Json

/-! ## Escapes of four hex digits -/

/-- The bytes of a text are the encodings of its characters. -/
theorem toUTF8_toList_ofList (l : List Char) :
    (String.ofList l).toUTF8.toList = l.flatMap String.utf8EncodeChar := by
  simp [String.toByteArray_ofList, List.utf8Encode, ByteArray.toList,
    ByteArray.toList_loop_eq_drop]

/-- A hex digit is an ASCII character. -/
theorem lt_128_of_hexValue {c : Char} (h : (hexValue c).isSome) : c.toNat < 128 := by
  refine Nat.lt_of_not_le fun hc => ?_
  have above : ∀ d : Char, d.toNat < 128 → ¬ c ≤ d := by
    intro d hd
    rw [Char.le_def, UInt32.le_iff_toNat_le]
    change ¬ c.toNat ≤ d.toNat
    omega
  simp [hexValue, above '9' (by decide), above 'f' (by decide), above 'F' (by decide)] at h

/-- An ASCII character is encoded as its own byte, and that byte names it again. -/
theorem toUTF8_toList_of_ascii {ds : List Char} (h : ∀ c ∈ ds, c.toNat < 128) :
    (String.ofList ds).toUTF8.toList = ds.map Char.toUInt8 := by
  rw [toUTF8_toList_ofList]
  induction ds with
  | nil => rfl
  | cons c rest ih =>
    have single : String.utf8EncodeChar c = [c.toUInt8] := by
      apply String.utf8EncodeChar_eq_singleton
      rw [Char.utf8Size_eq_one_iff, UInt32.le_iff_toNat_le]
      exact Nat.lt_succ_iff.mp (h c List.mem_cons_self)
    rw [List.flatMap_cons, single, ih fun d hd => h d (List.mem_cons_of_mem _ hd)]
    rfl

/-- An ASCII character survives the round trip through its byte. -/
theorem ofNat_toUInt8 {c : Char} (h : c.toNat < 128) : Char.ofNat c.toUInt8.toNat = c := by
  have : c.toUInt8.toNat = c.toNat := by
    rw [← Char.toUInt8_val, UInt32.toNat_toUInt8]
    exact Nat.mod_eq_of_lt (by change c.toNat < 256; omega)
  rw [this, Char.ofNat_toNat]

/-- The number that hex digits spell, most significant first. -/
def hexNumber (ds : List Char) : Nat :=
  ds.foldl (fun acc c => 16 * acc + (hexValue c).getD 0) 0

/-- Four hex digits after `\u` read as the number they spell. -/
theorem readHex4_hex (ds rest : List Char) (hlen : ds.length = 4)
    (hhex : ∀ c ∈ ds, (hexValue c).isSome) :
    readHex4 (ds ++ rest) = .ok (hexNumber ds, rest) := by
  have ascii : ∀ c ∈ ds, c.toNat < 128 := fun c hc => lt_128_of_hexValue (hhex c hc)
  have back : ∀ c ∈ ds, Char.ofNat c.toUInt8.toNat = c := fun c hc => ofNat_toUInt8 (ascii c hc)
  have allHex : (ds.map Char.toUInt8).all isHexByte = true := by
    simp only [List.all_map, List.all_eq_true, Function.comp_apply, isHexByte]
    intro c hc
    rw [back c hc]
    exact hhex c hc
  simp only [readHex4, List.take_left' hlen, List.drop_left' hlen, toUTF8_toList_of_ascii ascii,
    List.length_map, hlen, List.take_of_length_le (show (ds.map Char.toUInt8).length ≤ 4 by
      simp [hlen]), allHex]
  -- the bytes decode to the digits, so folding over either spells the same number
  have decoded : (ds.map Char.toUInt8).map (fun b => Char.ofNat b.toNat) = ds := by
    rw [List.map_map]
    exact (List.map_congr_left back).trans (List.map_id ds)
  simp only [Nat.lt_irrefl, if_false, if_true, hexNumber]
  conv => rhs; rw [← decoded, List.foldl_map]

/-- Four hex digits read as the number they spell. -/
theorem readHex4_digits {a b c d : Char} (rest : List Char)
    (h : (hexValue a).isSome ∧ (hexValue b).isSome ∧ (hexValue c).isSome ∧ (hexValue d).isSome) :
    readHex4 (a :: b :: c :: d :: rest) = .ok (hexNumber [a, b, c, d], rest) :=
  readHex4_hex [a, b, c, d] rest rfl (by simpa using h)

/-- The four hex digits of a control character's escape spell its code. -/
theorem hexPadded_control : ∀ n < 0x20, (Text.hexPadded 4 n).length = 4 ∧
    (∀ c ∈ Text.hexPadded 4 n, (hexValue c).isSome) ∧ hexNumber (Text.hexPadded 4 n) = n := by
  -- the digit check is decided as a Bool: the instance for a bounded quantifier over a list
  -- depends on what is imported, and some unfold too deep
  have decided : ∀ n < 0x20, (Text.hexPadded 4 n).length = 4 ∧
      (Text.hexPadded 4 n).all (fun c => (hexValue c).isSome) ∧
      hexNumber (Text.hexPadded 4 n) = n := by
    decide
  intro n hn
  obtain ⟨hlen, hall, hval⟩ := decided n hn
  exact ⟨hlen, List.all_eq_true.mp hall, hval⟩

/-! ## Strings -/

/-- The unit that reading the escape of a character gives: its code when it is written as
a `\u` escape, and the character itself otherwise. -/
def escapedUnit (c : Char) : EscapedUnit :=
  match escapeChar c with
  | '\\' :: 'u' :: _ => .code c.toNat
  | _ => .char c

/-- Reading the escape of a character takes one step of fuel and records its unit. -/
theorem go_escapeChar (fuel : Nat) (acc : List EscapedUnit) (c : Char) (rest : List Char) :
    readStringBody.go (fuel + 1) acc (escapeChar c ++ rest) =
      readStringBody.go fuel (escapedUnit c :: acc) rest := by
  unfold escapedUnit escapeChar
  split
  case h_13 x h1 h2 h3 h4 h5 h6 h7 h8 h9 h10 h11 h12 =>
    -- a character without an escape of its own: a control character or itself
    split
    · rename_i hc
      obtain ⟨hlen, hhex, hval⟩ := hexPadded_control c.toNat hc
      simp [readStringBody.go, readHex4_hex _ _ hlen hhex, hval]
    · rename_i hc
      have hq : (c == '"') = false := by simpa using h1
      have hb : (c == '\\') = false := by simpa using h2
      simp [readStringBody.go, hq, hb, hc]
  all_goals simp [readStringBody.go, readHex4_digits, hexNumber, hexValue]

/-- Every character is written as at least one character. -/
theorem escapeChar_ne_nil (c : Char) : escapeChar c ≠ [] := by
  unfold escapeChar
  split
  case h_13 => split <;> simp
  all_goals simp

/-- Only characters below the surrogates are written as `\u` escapes. -/
theorem lt_of_escapeChar_eq {c : Char} {ds : List Char} (h : escapeChar c = '\\' :: 'u' :: ds) :
    c.toNat < 0xD800 := by
  revert h
  unfold escapeChar
  split
  case h_13 x h1 h2 h3 h4 h5 h6 h7 h8 h9 h10 h11 h12 =>
    split
    · intro _
      omega
    · intro h
      simp at h
  all_goals simp

/-- An escaped unit is the character itself or a code below the surrogates. -/
theorem escapedUnit_cases (c : Char) :
    escapedUnit c = .char c ∨ (escapedUnit c = .code c.toNat ∧ c.toNat < 0xD800) := by
  unfold escapedUnit
  split
  · rename_i ds h
    exact .inr ⟨rfl, lt_of_escapeChar_eq h⟩
  · exact .inl rfl

/-- An escaped unit below the surrogates is the character of its code. -/
theorem joinUnits_code_cons {n : Nat} (h : n < 0xD800) (us : List EscapedUnit) :
    joinUnits (.code n :: us) = Char.ofNat n :: joinUnits us := by
  have low : ¬ 0xD800 ≤ n := by omega
  match us with
  | [] => simp [joinUnits, low]
  | .char _ :: _ => simp [joinUnits, low]
  | .code _ :: _ => simp [joinUnits, low]

/-- Units that come from characters join to those characters. -/
theorem joinUnits_map_escapedUnit (s : List Char) : joinUnits (s.map escapedUnit) = s := by
  induction s with
  | nil => rfl
  | cons c rest ih =>
    rw [List.map_cons]
    rcases escapedUnit_cases c with h | ⟨h, hlt⟩
    · rw [h, joinUnits, ih]
    · rw [h, joinUnits_code_cons hlt, ih, Char.ofNat_toNat]

/-- Reading escaped characters up to the closing quote, with fuel to spare. -/
theorem go_escaped (s : List Char) (fuel : Nat) (acc : List EscapedUnit) (rest : List Char)
    (h : s.length < fuel) :
    readStringBody.go fuel acc (s.flatMap escapeChar ++ '"' :: rest) =
      .ok (String.ofList (joinUnits (acc.reverse ++ s.map escapedUnit)), rest) := by
  induction s generalizing fuel acc with
  | nil =>
    obtain ⟨fuel, rfl⟩ : ∃ f, fuel = f + 1 := ⟨fuel - 1, by simp at h; omega⟩
    simp [readStringBody.go]
  | cons c s ih =>
    obtain ⟨fuel, rfl⟩ : ∃ f, fuel = f + 1 := ⟨fuel - 1, by simp at h; omega⟩
    rw [List.flatMap_cons, List.append_assoc, go_escapeChar,
      ih fuel _ (by simp at h; omega)]
    simp

/-- Escaping a text does not shorten it. -/
theorem length_le_flatMap_escapeChar (s : List Char) : s.length ≤ (s.flatMap escapeChar).length := by
  induction s with
  | nil => simp
  | cons c s ih =>
    have := List.length_pos_iff.mpr (escapeChar_ne_nil c)
    simp only [List.flatMap_cons, List.length_append, List.length_cons]
    omega

/-- A written string reads back as itself. -/
theorem readStringBody_escaped (s : String) (rest : List Char) :
    readStringBody (s.toList.flatMap escapeChar ++ '"' :: rest) = .ok (s, rest) := by
  have fuel := length_le_flatMap_escapeChar s.toList
  rw [readStringBody, go_escaped _ _ _ _ (by simp only [List.length_append, List.length_cons]; omega)]
  simp [joinUnits_map_escapedUnit]

/-! ## Values -/

mutual
/-- Whether a value holds no number anywhere. -/
def numberFree : Value → Bool
  | .number _ => false
  | .array items => itemsNumberFree items
  | .object ms => membersNumberFree ms
  | _ => true
/-- Whether items hold no number. -/
def itemsNumberFree : List Value → Bool
  | [] => true
  | v :: rest => numberFree v && itemsNumberFree rest
/-- Whether members hold no number. -/
def membersNumberFree : List (String × Value) → Bool
  | [] => true
  | (_, v) :: rest => numberFree v && membersNumberFree rest
end

mutual
/-- The fuel that reading a value takes: one step per value, per array or object and
per item or member. -/
def readCost : Value → Nat
  | .array items => 2 + itemsCost items
  | .object ms => 2 + membersCost ms
  | _ => 1
/-- The fuel that reading items takes. -/
def itemsCost : List Value → Nat
  | [] => 0
  | v :: rest => 1 + readCost v + itemsCost rest
/-- The fuel that reading members takes. -/
def membersCost : List (String × Value) → Nat
  | [] => 0
  | (_, v) :: rest => 1 + readCost v + membersCost rest
end

/-- Reading any value takes at least one step of fuel. -/
theorem one_le_readCost (v : Value) : 1 ≤ readCost v := by
  cases v <;> simp [readCost] <;> omega

/-- Skipping blanks stops at a character that is not blank. -/
theorem skipDocBlanks_cons {c : Char} (h : isDocBlank c = false) (cs : List Char) :
    skipDocBlanks (c :: cs) = c :: cs := by
  simp [skipDocBlanks, h]

/-- Written members start with the quote of the first key. -/
theorem writeMembers_eq_cons {ms : List (String × Value)} (h : ms ≠ []) :
    writeMembers ms = '"' :: (writeMembers ms).tail := by
  match ms, h with
  | [(k, v)], _ => simp [writeMembers, writeString]
  | (k, v) :: _ :: _, _ => simp [writeMembers, writeString]

/-- The text of a value without numbers starts with a character that is not a blank and
not a closing bracket. -/
theorem writeValue_eq_cons {v : Value} (h : numberFree v = true) :
    ∃ c t, writeValue v = c :: t ∧ isDocBlank c = false ∧ c ≠ ']' := by
  match v, h with
  | .null, _ => exact ⟨_, _, rfl, rfl, by decide⟩
  | .bool true, _ => exact ⟨_, _, rfl, rfl, by decide⟩
  | .bool false, _ => exact ⟨_, _, rfl, rfl, by decide⟩
  | .string s, _ => exact ⟨_, _, rfl, rfl, by decide⟩
  | .array items, _ => exact ⟨_, _, rfl, rfl, by decide⟩
  | .object ms, _ => exact ⟨_, _, rfl, rfl, by decide⟩

/-- A value that starts with a bracket is read as an array. -/
theorem readValue_array (n : Nat) (body : List Char) :
    readValue (n + 1) ('[' :: body) = readArray n body := by
  simp [readValue, skipDocBlanks, isDocBlank]

/-- A value that starts with a brace is read as an object. -/
theorem readValue_object (n : Nat) (body : List Char) :
    readValue (n + 1) ('{' :: body) = readObject n body := by
  simp [readValue, skipDocBlanks, isDocBlank]

/-- An array whose first item starts right after the bracket is read item by item. -/
theorem readArray_cons {c : Char} (hblank : isDocBlank c = false) (hclose : c ≠ ']') (m : Nat)
    (cs : List Char) : readArray (m + 1) (c :: cs) = readElements m [] (c :: cs) := by
  simp [readArray, skipDocBlanks_cons hblank, hclose]

/-- An object whose first key starts right after the brace is read member by member. -/
theorem readObject_quote (m : Nat) (cs : List Char) :
    readObject (m + 1) ('"' :: cs) = readMembers m [] cs := by
  simp [readObject, skipDocBlanks, isDocBlank]

mutual
/-- A value without numbers reads back from its text, whatever follows it. -/
theorem readValue_writeValue : ∀ (v : Value) (n : Nat) (rest : List Char),
    numberFree v = true → readCost v ≤ n → readValue n (writeValue v ++ rest) = .ok (v, rest)
  | v, 0, _, _, hcost => absurd hcost (by have := one_le_readCost v; omega)
  | .null, _ + 1, rest, _, _ => by
    simp [writeValue, readValue, skipDocBlanks, isDocBlank, readWord, Except.map]
  | .bool true, _ + 1, rest, _, _ => by
    simp [writeValue, readValue, skipDocBlanks, isDocBlank, readWord, Except.map]
  | .bool false, _ + 1, rest, _, _ => by
    simp [writeValue, readValue, skipDocBlanks, isDocBlank, readWord, Except.map]
  | .number _, _ + 1, _, hfree, _ => by simp [numberFree] at hfree
  | .string s, _ + 1, rest, _, _ => by
    simp [writeValue, writeString, readValue, skipDocBlanks, isDocBlank, readStringBody_escaped,
      Except.map]
  | .array items, n + 1, rest, hfree, hcost => by
    obtain ⟨m, rfl⟩ : ∃ m, n = m + 1 := ⟨n - 1, by simp only [readCost] at hcost; omega⟩
    rw [show writeValue (.array items) ++ rest = '[' :: (writeItems items ++ ']' :: rest) by
      simp [writeValue], readValue_array]
    match items, hfree, hcost with
    | [], _, _ => simp [writeItems, readArray, skipDocBlanks, isDocBlank]
    | v :: vs, hfree, hcost =>
      obtain ⟨c, t, hwrite, hblank, hclose⟩ := writeValue_eq_cons (v := v)
        (Bool.and_eq_true_iff.mp (hfree : itemsNumberFree (v :: vs) = true)).1
      have head : writeItems (v :: vs) = c :: (writeItems (v :: vs)).tail := by
        cases vs <;> simp [writeItems, hwrite]
      have elements := readElements_writeItems (v :: vs) m [] rest (by simp) hfree
        (by have : 2 + itemsCost (v :: vs) ≤ m + 1 + 1 := hcost; omega)
      rw [head, List.cons_append, readArray_cons hblank hclose, ← List.cons_append, ← head,
        elements]
      simp
  | .object ms, n + 1, rest, hfree, hcost => by
    obtain ⟨m, rfl⟩ : ∃ m, n = m + 1 := ⟨n - 1, by simp only [readCost] at hcost; omega⟩
    rw [show writeValue (.object ms) ++ rest = '{' :: (writeMembers ms ++ '}' :: rest) by
      simp [writeValue], readValue_object]
    match ms, hfree, hcost with
    | [], _, _ => simp [writeMembers, readObject, skipDocBlanks, isDocBlank]
    | e :: es, hfree, hcost =>
      have members := readMembers_writeMembers (e :: es) m [] rest (by simp) hfree
        (by have : 2 + membersCost (e :: es) ≤ m + 1 + 1 := hcost; omega)
      rw [writeMembers_eq_cons (List.cons_ne_nil e es), List.cons_append, readObject_quote, members]
      simp

/-- Members without numbers read back after the opening quote of the first key. -/
theorem readMembers_writeMembers : ∀ (ms : List (String × Value)) (n : Nat)
    (acc : List (String × Value)) (rest : List Char), ms ≠ [] → membersNumberFree ms = true →
    membersCost ms ≤ n →
    readMembers n acc ((writeMembers ms).tail ++ '}' :: rest) = .ok (.object (acc.reverse ++ ms), rest)
  | [], _, _, _, hne, _, _ => absurd rfl hne
  | _ :: _, 0, _, _, _, _, hcost => by simp [membersCost] at hcost
  | [(k, v)], n + 1, acc, rest, _, hfree, hcost => by
    have hv : numberFree v = true := (Bool.and_eq_true_iff.mp hfree).1
    have hcost : 1 + readCost v + 0 ≤ n + 1 := hcost
    have value := readValue_writeValue v n ('}' :: rest) hv (by omega)
    simp [writeMembers, writeString, readMembers, readStringBody_escaped, skipDocBlanks,
      isDocBlank, value, bind, Except.bind]
  | (k, v) :: e :: es, n + 1, acc, rest, _, hfree, hcost => by
    obtain ⟨hv, hes⟩ := Bool.and_eq_true_iff.mp hfree
    have hcost : 1 + readCost v + membersCost (e :: es) ≤ n + 1 := hcost
    have value := readValue_writeValue v n (',' :: (writeMembers (e :: es) ++ '}' :: rest))
      hv (by omega)
    have later := readMembers_writeMembers (e :: es) n ((k, v) :: acc) rest (by simp) hes
      (by have := one_le_readCost v; omega)
    simp only [writeMembers, writeString, List.tail_cons, List.append_assoc, List.cons_append,
      readMembers, readStringBody_escaped]
    -- the next member starts with the quote of its key
    rw [writeMembers_eq_cons (List.cons_ne_nil e es), List.cons_append] at value ⊢
    simp [skipDocBlanks, isDocBlank, value, later, bind, Except.bind]

/-- Items without numbers read back, up to the closing bracket. -/
theorem readElements_writeItems : ∀ (items : List Value) (n : Nat) (acc : List Value)
    (rest : List Char), items ≠ [] → itemsNumberFree items = true → itemsCost items ≤ n →
    readElements n acc (writeItems items ++ ']' :: rest) = .ok (.array (acc.reverse ++ items), rest)
  | [], _, _, _, hne, _, _ => absurd rfl hne
  | _ :: _, 0, _, _, _, _, hcost => by simp [itemsCost] at hcost
  | [v], n + 1, acc, rest, _, hfree, hcost => by
    have hv : numberFree v = true := (Bool.and_eq_true_iff.mp hfree).1
    have hcost : 1 + readCost v + 0 ≤ n + 1 := hcost
    have value := readValue_writeValue v n (']' :: rest) hv (by omega)
    simp [writeItems, readElements, value, skipDocBlanks, isDocBlank, bind, Except.bind]
  | v :: w :: ws, n + 1, acc, rest, _, hfree, hcost => by
    obtain ⟨hv, hws⟩ := Bool.and_eq_true_iff.mp hfree
    have hcost : 1 + readCost v + itemsCost (w :: ws) ≤ n + 1 := hcost
    have value := readValue_writeValue v n (',' :: (writeItems (w :: ws) ++ ']' :: rest))
      hv (by omega)
    have later := readElements_writeItems (w :: ws) n (v :: acc) rest (by simp) hws
      (by have := one_le_readCost v; omega)
    simp only [writeItems, List.append_assoc, List.cons_append, readElements]
    simp [value, skipDocBlanks, isDocBlank, later, bind, Except.bind]
end

mutual
/-- The text of a value without numbers gives enough fuel to read it twice over. -/
theorem readCost_le_length : ∀ v : Value, numberFree v = true →
    readCost v ≤ 2 * (writeValue v).length
  | .null, _ => by simp [readCost, writeValue]
  | .bool true, _ => by simp [readCost, writeValue]
  | .bool false, _ => by simp [readCost, writeValue]
  | .number _, hfree => by simp [numberFree] at hfree
  | .string s, _ => by simp only [readCost, writeValue, writeString, List.length_cons]; omega
  | .array items, hfree => by
    have := itemsCost_le_length items hfree
    simp only [readCost, writeValue, List.length_cons, List.length_append]
    omega
  | .object ms, hfree => by
    have := membersCost_le_length ms hfree
    simp only [readCost, writeValue, List.length_cons, List.length_append]
    omega

/-- The fuel that reading written items takes is bounded by twice the length of their text. -/
theorem itemsCost_le_length : ∀ items : List Value, itemsNumberFree items = true →
    itemsCost items ≤ 2 * (writeItems items).length + 2
  | [], _ => by simp [itemsCost]
  | [v], hfree => by
    have := readCost_le_length v (Bool.and_eq_true_iff.mp hfree).1
    simp only [itemsCost, writeItems]
    omega
  | v :: w :: ws, hfree => by
    obtain ⟨hv, hws⟩ := Bool.and_eq_true_iff.mp hfree
    have := readCost_le_length v hv
    have := itemsCost_le_length (w :: ws) hws
    have : itemsCost (v :: w :: ws) = 1 + readCost v + itemsCost (w :: ws) := rfl
    simp only [writeItems, List.length_append, List.length_cons]
    omega

/-- The fuel that reading written members takes is bounded by twice the length of their
text. -/
theorem membersCost_le_length : ∀ ms : List (String × Value), membersNumberFree ms = true →
    membersCost ms ≤ 2 * (writeMembers ms).length + 2
  | [], _ => by simp [membersCost]
  | [(k, v)], hfree => by
    have := readCost_le_length v (Bool.and_eq_true_iff.mp hfree).1
    simp only [membersCost, writeMembers, writeString, List.length_append, List.length_cons]
    omega
  | (k, v) :: e :: es, hfree => by
    obtain ⟨hv, hes⟩ := Bool.and_eq_true_iff.mp hfree
    have := readCost_le_length v hv
    have := membersCost_le_length (e :: es) hes
    have : membersCost ((k, v) :: e :: es) = 1 + readCost v + membersCost (e :: es) := rfl
    simp only [writeMembers, writeString, List.length_append, List.length_cons]
    omega
end

/-- A whole text written from a value without numbers reads back as that value. -/
theorem readDocument_write {v : Value} (h : numberFree v = true) : readDocument (write v) = .ok v := by
  have read := readValue_writeValue v (fuelFor (writeValue v)) [] h
    (by have := readCost_le_length v h; simp only [fuelFor]; omega)
  simp only [List.append_nil] at read
  simp [readDocument, write, String.toList_ofList, read, skipDocBlanks, bind, Except.bind, pure,
    Except.pure]

/-- The first value of a text written from a value without numbers is that value. -/
theorem readFirst_write {v : Value} (h : numberFree v = true) : readFirst (write v) = .ok v := by
  have read := readValue_writeValue v (fuelFor (writeValue v)) [] h
    (by have := readCost_le_length v h; simp only [fuelFor]; omega)
  simp only [List.append_nil] at read
  obtain ⟨c, t, hwrite, hblank, -⟩ := writeValue_eq_cons h
  have nonblank : (skipDocBlanks (writeValue v)).isEmpty = false := by
    rw [hwrite, skipDocBlanks_cons hblank]
    rfl
  simp [readFirst, write, String.toList_ofList, nonblank, read]

end DepLock.Json
