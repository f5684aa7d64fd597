import DepLock.Lock.Store
import DepLock.Proofs.Json.Indented
import DepLock.Proofs.Time.Text
import DepLock.Proofs.Tree.Document
/-!
# A lock store keeps every saved lock and the latest one

A `LockStore` writes a saved lock, indented, to its history file and to the current
file. This module shows what a run of saves, loads and reads of the current lock does
(`lock_store_keeps_saved_and_latest`):

* a lock whose time has an RFC 3339 text, whose tree is held as maps hold it and whose
  counters are 64-bit integers (`Lock.Storable`) reads back from the text it is saved as
  (`Lock.Storable.parse_saved`);
* history paths differ from the current path and from each other (`historyPath_inj`);
* along a run, the history file of an identifier holds the last lock saved under it,
  and the current file the last lock saved at all (`Holds`, `holds_run`);
* an identifier that the UUID library refuses fails `save` and `load` with
  `INVALID_INPUT`, and the store stays as it was;
* with a library that accepts only the standard spellings of a UUID (`Uuid.Standard`), no
  accepted identifier holds a slash, so every history file lies directly in the history
  directory.

These hold whatever the library, which the store takes as a parameter. The library the
tool runs with accepts a UUID between any two extra characters, not only braces, so an
identifier it accepts may start or end with `/` (`Uuid.slash_at_ends`), and its history
file then lies outside the history directory.
-/

set_option autoImplicit false

namespace DepLock

open DepLock.Json

/-! ## Identifiers -/

namespace Uuid

/-- Every position of the hyphenated form holds a hyphen or a hex digit, never a slash. -/
theorem isHyphenated_ne_slash {bs : List UInt8} (h : isHyphenated bs = true) {i : Nat}
    (hi : i < 36) : bs[i]? ≠ some 47 := by
  -- each position is a hyphen, the first digit of a pair or the second one
  have cover : ∀ i < 36, i ∈ hyphens ∨ i ∈ pairStarts ∨ (1 ≤ i ∧ i - 1 ∈ pairStarts) := by decide
  have hex : isHexByte 47 = false := by decide
  simp only [isHyphenated, Bool.and_eq_true, List.all_eq_true] at h
  obtain ⟨hy, pairs⟩ := h
  intro slash
  rcases cover i hi with mem | mem | ⟨one, mem⟩
  · have hyphen := hy i mem
    rw [slash] at hyphen
    exact absurd hyphen (by decide)
  · have first := (pairs i mem).1
    rw [slash] at first
    simp [hex] at first
  · have second := (pairs (i - 1) mem).2
    rw [Nat.sub_add_cancel one, slash] at second
    simp [hex] at second

/-- The bytes of a character list holding `/` hold the byte 47. -/
theorem slash_mem_toUTF8 {s : String} (h : '/' ∈ s.toList) : (47 : UInt8) ∈ s.toUTF8.toList := by
  rw [← String.ofList_toList (s := s), toUTF8_toList_ofList]
  exact List.mem_flatMap.mpr ⟨'/', h, by decide⟩

/-- An ASCII text is its characters as bytes. -/
theorem toUTF8_ascii {s : String} (h : s.toList.all (fun c => c.toNat < 128) = true) :
    s.toUTF8.toList = s.toList.map Char.toUInt8 := by
  have ascii : ∀ c ∈ s.toList, c.toNat < 128 := fun c mem =>
    of_decide_eq_true (List.all_eq_true.mp h c mem)
  rw [← toUTF8_toList_of_ascii ascii, String.ofList_toList]

/-- The bytes of the URN prefix of a UUID. -/
theorem urn_bytes : "urn:uuid:".toUTF8.toList = [117, 114, 110, 58, 117, 117, 105, 100, 58] := by
  rw [toUTF8_ascii (by decide)]
  rfl

/-- The spellings `check` accepts: the hyphenated form, the same between two extra bytes
of any value, the same after `urn:uuid:` in any case, or 32 hex digits. -/
theorem check_eq_ok {id : String} (ok : check id = .ok ()) :
    (id.toUTF8.toList.length = 36 ∧ isHyphenated id.toUTF8.toList = true) ∨
    (id.toUTF8.toList.length = 38 ∧ isHyphenated (id.toUTF8.toList.drop 1) = true) ∨
    (id.toUTF8.toList.length = 45 ∧ lowerBytes (id.toUTF8.toList.take 9) = "urn:uuid:".toUTF8.toList ∧
      isHyphenated (id.toUTF8.toList.drop 9) = true) ∨
    (id.toUTF8.toList.length = 32 ∧ id.toUTF8.toList.all isHexByte = true) := by
  simp only [check] at ok
  split at ok
  · rename_i len
    split at ok
    · rename_i hy
      exact .inl ⟨len, hy⟩
    · contradiction
  · rename_i len
    split at ok
    · rename_i urn
      split at ok
      · rename_i hy
        exact .inr (.inr (.inl ⟨len, beq_iff_eq.mp urn, hy⟩))
      · contradiction
    · contradiction
  · rename_i len
    split at ok
    · rename_i hy
      exact .inr (.inl ⟨len, hy⟩)
    · contradiction
  · rename_i len
    split at ok
    · rename_i hex
      exact .inr (.inr (.inr ⟨len, hex⟩))
    · contradiction
  · contradiction

/-- The bytes a hyphenated form covers, from byte `k` on, hold no slash. -/
theorem ne_slash_of_hyphenated_drop {bs : List UInt8} {k j : Nat} (hy : isHyphenated (bs.drop k) = true)
    (lo : k ≤ j) (hi : j < k + 36) : bs[j]? ≠ some 47 := by
  intro slash
  have shifted : (bs.drop k)[j - k]? = some 47 := by
    rw [List.getElem?_drop, Nat.add_sub_cancel' lo, slash]
  exact isHyphenated_ne_slash hy (by omega) shifted

/-- The `urn:uuid:` prefix, in any case, holds no slash. -/
theorem ne_slash_of_urn {bs : List UInt8} {j : Nat}
    (urn : lowerBytes (bs.take 9) = "urn:uuid:".toUTF8.toList) (early : j < 9) : bs[j]? ≠ some 47 := by
  intro slash
  have lowered := congrArg (fun bs => bs[j]?) urn
  simp only [lowerBytes, List.getElem?_map, List.getElem?_take, early, if_true, slash,
    Option.map_some, urn_bytes] at lowered
  exact absurd (List.mem_of_getElem? lowered.symm) (by decide)

/-- An accepted identifier holds a slash only in the form between two extra characters,
and only as one of them: as its first or its last byte. -/
theorem slash_at_ends {id : String} (ok : check id = .ok ()) (slash : '/' ∈ id.toList) :
    id.toUTF8.toList.length = 38 ∧
      (id.toUTF8.toList[0]? = some 47 ∨ id.toUTF8.toList[37]? = some 47) := by
  obtain ⟨j, hj⟩ := List.mem_iff_getElem?.mp (slash_mem_toUTF8 slash)
  have bound : j < id.toUTF8.toList.length := (List.getElem?_eq_some_iff.mp hj).1
  rcases check_eq_ok ok with ⟨len, hy⟩ | ⟨len, hy⟩ | ⟨len, urn, hy⟩ | ⟨len, hex⟩
  · exact absurd hj (ne_slash_of_hyphenated_drop (k := 0) (by simpa using hy) (Nat.zero_le _) (by omega))
  · refine ⟨len, ?_⟩
    -- the hyphenated form covers bytes 1 to 36, so the slash is byte 0 or byte 37
    by_cases ends : j = 0 ∨ j = 37
    · rcases ends with rfl | rfl
      · exact .inl hj
      · exact .inr hj
    · exact absurd hj (ne_slash_of_hyphenated_drop hy (by omega) (by omega))
  · by_cases early : j < 9
    · exact absurd hj (ne_slash_of_urn urn early)
    · exact absurd hj (ne_slash_of_hyphenated_drop hy (by omega) (by omega))
  · exact absurd (List.all_eq_true.mp hex 47 (List.mem_of_getElem? hj)) (by decide)

/-- The standard spellings of a UUID, as bytes: the hyphenated form, the same between
braces, the same after `urn:uuid:` in any case, and 32 hex digits. -/
def StandardBytes (bs : List UInt8) : Prop :=
  (bs.length = 36 ∧ isHyphenated bs = true) ∨
    (bs.length = 38 ∧ bs.head? = some 123 ∧ bs.getLast? = some 125 ∧ isHyphenated (bs.drop 1) = true) ∨
    (bs.length = 45 ∧ lowerBytes (bs.take 9) = "urn:uuid:".toUTF8.toList ∧
      isHyphenated (bs.drop 9) = true) ∨
    (bs.length = 32 ∧ bs.all isHexByte = true)

/-- Whether a text is a standard spelling of a UUID. -/
def Standard (id : String) : Prop := StandardBytes id.toUTF8.toList

/-- Whether a UUID library accepts only standard spellings. -/
def Library.AcceptsOnlyStandard (lib : Library) : Prop :=
  ∀ id, lib.parse id = .ok () → Standard id

/-- No standard spelling holds a slash. -/
theorem slash_free_of_standard {id : String} (h : Standard id) : '/' ∉ id.toList := by
  intro slash
  obtain ⟨j, hj⟩ := List.mem_iff_getElem?.mp (slash_mem_toUTF8 slash)
  have bound : j < id.toUTF8.toList.length := (List.getElem?_eq_some_iff.mp hj).1
  rcases h with ⟨len, hy⟩ | ⟨len, first, last, hy⟩ | ⟨len, urn, hy⟩ | ⟨len, hex⟩
  · exact ne_slash_of_hyphenated_drop (k := 0) (by simpa using hy) (Nat.zero_le _) (by omega) hj
  · -- the braces stand at bytes 0 and 37, the hyphenated form between them
    by_cases ends : j = 0 ∨ j = 37
    · rcases ends with rfl | rfl
      · rw [List.head?_eq_getElem?, hj] at first
        cases first
      · rw [List.getLast?_eq_getElem?, len, hj] at last
        cases last
    · exact ne_slash_of_hyphenated_drop hy (by omega) (by omega) hj
  · by_cases early : j < 9
    · exact ne_slash_of_urn urn early hj
    · exact ne_slash_of_hyphenated_drop hy (by omega) (by omega) hj
  · exact absurd (List.all_eq_true.mp hex 47 (List.mem_of_getElem? hj)) (by decide)

/-- A library that reads the 38-byte spelling only between braces, and otherwise as
`check` does. -/
def braced : Library :=
  ⟨fun id =>
    if id.toUTF8.toList.length == 38 &&
        !(id.toUTF8.toList.head? == some 123 && id.toUTF8.toList.getLast? == some 125) then
      .error "invalid UUID format"
    else check id⟩

/-- A library that takes the 38-byte spelling only between braces accepts only standard
spellings. -/
theorem braced_acceptsOnlyStandard : braced.AcceptsOnlyStandard := by
  intro id ok
  simp only [braced] at ok
  split at ok
  · contradiction
  · rename_i ends
    rcases check_eq_ok ok with ⟨len, hy⟩ | ⟨len, hy⟩ | ⟨len, urn, hy⟩ | ⟨len, hex⟩
    · exact .inl ⟨len, hy⟩
    · -- a 38-byte spelling passed the test of its braces
      simp only [len, beq_self_eq_true, Bool.true_and, Bool.not_eq_true', Bool.not_eq_false,
        Bool.and_eq_true, beq_iff_eq] at ends
      exact .inr (.inl ⟨len, ends.1, ends.2, hy⟩)
    · exact .inr (.inr (.inl ⟨len, urn, hy⟩))
    · exact .inr (.inr (.inr ⟨len, hex⟩))

end Uuid

/-! ## Saved text -/

namespace Lock

/-- A lock that reads back from what is saved: its time has an RFC 3339 text, its tree
is held as maps hold it, and its counters are 64-bit integers. -/
structure Storable (l : Lock) : Prop where
  createdAt : l.createdAt.Valid
  tree : l.tree.Canonical
  formatVersion : -(Int.pow 2 63) ≤ l.formatVersion ∧ l.formatVersion < Int.pow 2 63
  nodes : -(Int.pow 2 63) ≤ l.nodes ∧ l.nodes < Int.pow 2 63

/-- A time with an RFC 3339 text can be written. -/
theorem checkWritable_of_valid {t : Timestamp} (h : t.Valid) : t.checkWritable = .ok () := by
  have offset := h.offset.2
  simp only [Timestamp.checkWritable]
  rw [if_neg (by omega)]

/-- A time with an RFC 3339 text reads back from that text. -/
theorem readTime_text {t : Timestamp} (h : t.Valid) (old : Timestamp) :
    readTime old (.string t.text) = .ok t := by
  simp only [readTime, Timestamp.parse_text h, Except.mapError]

/-- A string value reads as its text. -/
theorem readString_string (path : List String) (s : String) :
    readString path (.string s) = .ok (some s) := rfl

/-- A storable lock's document has integer numbers only, and reads back as the lock:
each member is read by the field of its name, and an empty name or version, left out,
stays empty. -/
theorem Storable.ofValue_toValue {l : Lock} (h : l.Storable) :
    ∃ v, l.toValue = .ok v ∧ integral v = true ∧ Lock.ofValue v = .ok l := by
  have fid : fieldFor fields "id" = some "id" := rfl
  have fversion : fieldFor fields "lockfileVersion" = some "lockfileVersion" := rfl
  have fname : fieldFor fields "name" = some "name" := rfl
  have fversionText : fieldFor fields "version" = some "version" := rfl
  have fcreated : fieldFor fields "createdAt" = some "createdAt" := rfl
  have fnodes : fieldFor fields "nodes" = some "nodes" := rfl
  have ftree : fieldFor fields "tree" = some "tree" := rfl
  have tree := integral_of_numberFree _ h.tree.numberFree
  rw [toValue, checkWritable_of_valid h.createdAt]
  refine ⟨_, rfl, ?_, ?_⟩
  · cases l.name.isEmpty <;> cases l.version.isEmpty <;>
      simp only [integral, membersIntegral, membersIntegral_append, isIntLiteral_toString, tree,
        Bool.false_eq_true, if_true, if_false, List.append_nil, Bool.and_self]
  · obtain ⟨id, formatVersion, name, version, createdAt, nodes, t⟩ := l
    -- a name or version left out is the empty text the reading starts from
    have leftOut : ∀ s : String, s = "" ∨ s.isEmpty = false := fun s => by
      cases h : s.isEmpty with
      | false => exact .inr rfl
      | true => exact .inl (String.isEmpty_iff.mp h)
    have none : ("" : String).isEmpty = true := rfl
    rcases leftOut name with hn | hn <;> rcases leftOut version with hv | hv <;>
      simp only [Lock.ofValue, Lock.read, readRecord, none, Bool.false_eq_true,
        List.foldlM_cons, List.foldlM_nil, List.nil_append, List.cons_append, if_true, if_false,
        hn, hv, fid, fversion, fname, fversionText, fcreated, fnodes, ftree, readString_string,
        readInt_toString h.formatVersion, readInt_toString h.nodes, readTime_text h.createdAt,
        h.tree.readTree, bind, Except.bind, pure, Except.pure, Option.getD_some] <;>
      rfl

/-- A storable lock is saved as a text that reads back as the lock. -/
theorem Storable.parse_saved {l : Lock} (h : l.Storable) :
    ∃ text, l.toIndentedText = .ok text ∧ Lock.parse (text ++ "\n") = .ok l := by
  obtain ⟨v, written, hv, read⟩ := h.ofValue_toValue
  refine ⟨writeIndented "  " v, by simp [toIndentedText, written, Except.map], ?_⟩
  rw [parse, readDocument_writeIndented (List.all_eq_true.mp (by decide)) hv
    (List.all_eq_true.mp (by decide))]
  simp [read, Except.mapError]

end Lock

/-! ## Files -/

namespace LockStore

/-- A file of the store reads as the text last written to it. -/
theorem read?_write_self (s : LockStore) (path text : String) :
    (s.write path text).read? path = some text := by
  simp [write, read?]

/-- Writing a file of the store leaves every other file as it was. -/
theorem read?_write_of_ne (s : LockStore) {path other : String} (h : other ≠ path) (text : String) :
    (s.write path text).read? other = s.read? other := by
  have skip : (path == other) = false := beq_false_of_ne (Ne.symm h)
  -- among the files not at `path`, the one at `other` is the one at `other`
  have kept : (s.files.filter (·.1 != path)).find? (·.1 == other) = s.files.find? (·.1 == other) := by
    rw [List.find?_filter]
    congr 1
    funext a
    by_cases ha : a.1 = other <;> simp [ha, h]
  simp only [write, read?, List.find?_cons, skip, kept]

/-- The file of a saved lock is never the file of the latest lock. -/
theorem historyPath_ne_currentPath (s : LockStore) (id : String) :
    s.historyPath id ≠ s.currentPath := by
  intro h
  have chars := congrArg String.toList h
  have history : "/.ziplock/".toList = '/' :: '.' :: "ziplock/".toList := rfl
  have current : "/ziplock.json".toList = '/' :: 'z' :: "iplock.json".toList := rfl
  simp only [historyPath, currentPath, String.toList_append, history, current, List.append_assoc,
    List.cons_append, List.append_cancel_left_eq, List.cons.injEq] at chars
  exact absurd chars.2.1 (by decide)

/-- Different identifiers have different history files. -/
theorem historyPath_inj {s : LockStore} {a b : String} (h : s.historyPath a = s.historyPath b) :
    a = b := by
  have chars := congrArg String.toList h
  simp only [historyPath, String.toList_append, List.append_assoc, List.append_cancel_left_eq] at chars
  exact String.toList_inj.mp (List.append_cancel_right chars)

/-- Two stores in the same directory keep a lock in the same file. -/
theorem historyPath_of_dir {s s' : LockStore} (h : s'.dir = s.dir) (id : String) :
    s'.historyPath id = s.historyPath id := by
  simp only [historyPath, h]

/-- Two stores in the same directory keep the latest lock in the same file. -/
theorem currentPath_of_dir {s s' : LockStore} (h : s'.dir = s.dir) : s'.currentPath = s.currentPath := by
  simp only [currentPath, h]

/-! ## Saving and loading -/

section Library

variable (uuid : Uuid.Library)

/-- An id that the library reads passes the id check. -/
theorem checkId_ok {id : String} (ok : uuid.parse id = .ok ()) : checkId uuid id = .ok () := by
  simp [checkId, ok, Except.mapError]

/-- An identifier that the library refuses fails the check with `INVALID_INPUT`. -/
theorem checkId_error {id : String} (bad : (uuid.parse id).toBool = false) :
    ∃ e, checkId uuid id = .error e ∧ e.code? = some .invalidInput := by
  cases hc : uuid.parse id with
  | ok u => rw [hc] at bad; contradiction
  | error msg =>
    exact ⟨.wrap .invalidInput (.plain msg) ("lock id " ++ Text.quote id),
      by simp [checkId, hc, Except.mapError], rfl⟩

/-- A save that succeeds writes the same text to the history file of the lock's identifier
and to the current file. -/
theorem save_files {s s' : LockStore} {l : Lock} (h : s.save uuid l = .ok s') :
    ∃ text, s' = (s.write (s.historyPath l.id) text).write s.currentPath text := by
  unfold save at h
  cases hc : checkId uuid l.id with
  | error e => simp [hc, bind, Except.bind] at h
  | ok u =>
    cases ht : l.toIndentedText with
    | error e => simp [hc, ht, bind, Except.bind, Except.mapError] at h
    | ok text =>
      simp [hc, ht, bind, Except.bind, Except.mapError, pure, Except.pure] at h
      exact ⟨text ++ "\n", h.symm⟩

/-- Saving a lock keeps the store's directory. -/
theorem dir_save {s s' : LockStore} {l : Lock} (h : s.save uuid l = .ok s') : s'.dir = s.dir := by
  obtain ⟨text, rfl⟩ := save_files uuid h
  rfl

/-- A save that succeeds leaves every file but its two as it was. -/
theorem read?_save_of_ne {s s' : LockStore} {l : Lock} (h : s.save uuid l = .ok s') {path : String}
    (history : path ≠ s.historyPath l.id) (current : path ≠ s.currentPath) :
    s'.read? path = s.read? path := by
  obtain ⟨text, rfl⟩ := save_files uuid h
  rw [read?_write_of_ne _ current, read?_write_of_ne _ history]

/-- A storable lock under a UUID is saved as a text that reads back as the lock. -/
theorem save_ok {l : Lock} (h : l.Storable) (ok : uuid.parse l.id = .ok ()) (s : LockStore) :
    ∃ text, Lock.parse text = .ok l ∧
      s.save uuid l = .ok ((s.write (s.historyPath l.id) text).write s.currentPath text) := by
  obtain ⟨text, written, read⟩ := h.parse_saved
  exact ⟨text ++ "\n", read, by simp [save, checkId_ok uuid ok, written, Except.mapError, bind,
    Except.bind, pure, Except.pure]⟩

/-- Saving a lock whose id the library refuses fails with INVALID_INPUT. -/
theorem save_error {l : Lock} (bad : (uuid.parse l.id).toBool = false) (s : LockStore) :
    ∃ e, s.save uuid l = .error e ∧ e.code? = some .invalidInput := by
  obtain ⟨e, failed, code⟩ := checkId_error uuid bad
  exact ⟨e, by simp [save, failed, bind, Except.bind], code⟩

/-- Loading an id that the library refuses fails with INVALID_INPUT. -/
theorem load_error {id : String} (bad : (uuid.parse id).toBool = false) (s : LockStore) :
    ∃ e, s.load uuid id = .error e ∧ e.code? = some .invalidInput := by
  obtain ⟨e, failed, code⟩ := checkId_error uuid bad
  exact ⟨e, by simp [load, failed, bind, Except.bind], code⟩

end Library

/-! ## Runs -/

/-- A call on a store. -/
inductive Call where
  | save (l : Lock)
  | load (id : String)
  | current

namespace Call

/-- The store after a call: a save that succeeds writes its two files, and nothing else
changes the store. -/
def apply (uuid : Uuid.Library) (s : LockStore) : Call → LockStore
  | save l =>
    match s.save uuid l with
    | .ok s' => s'
    | .error _ => s
  | load _ | current => s

/-- The lock last saved under an identifier, after a call. -/
def lastSaved (id : String) (last : Option Lock) : Call → Option Lock
  | save l => if l.id = id then some l else last
  | load _ | current => last

/-- The lock last saved under a UUID, after a call. -/
def latest (uuid : Uuid.Library) (last : Option Lock) : Call → Option Lock
  | save l => if (uuid.parse l.id).toBool then some l else last
  | load _ | current => last

/-- A call keeps the store's directory. -/
theorem dir_apply (uuid : Uuid.Library) (s : LockStore) (c : Call) : (c.apply uuid s).dir = s.dir := by
  cases c with
  | save l =>
    simp only [apply]
    split
    · rename_i s' saved
      exact dir_save uuid saved
    · rfl
  | load _ => rfl
  | current => rfl

end Call

/-- The store after a run of calls. -/
def run (uuid : Uuid.Library) (s : LockStore) (calls : List Call) : LockStore :=
  calls.foldl (Call.apply uuid) s

/-- A run of calls keeps the store's directory. -/
theorem dir_run (uuid : Uuid.Library) (s : LockStore) (calls : List Call) :
    (s.run uuid calls).dir = s.dir := by
  induction calls generalizing s with
  | nil => rfl
  | cons c rest ih => exact (ih (c.apply uuid s)).trans (Call.dir_apply uuid s c)

/-- What a store holds at a path: no file, or a text that reads back as the lock. -/
def Holds (s : LockStore) (path : String) : Option Lock → Prop
  | none => s.read? path = none
  | some l => ∃ text, s.read? path = some text ∧ Lock.parse text = .ok l

/-- What a path holds is kept by any change that leaves the path's file as it was. -/
theorem Holds.frame {s s' : LockStore} {path : String} {o : Option Lock} (h : Holds s path o)
    (same : s'.read? path = s.read? path) : Holds s' path o := by
  match o, h with
  | none, h => exact same.trans h
  | some _, ⟨text, file, read⟩ => exact ⟨text, same.trans file, read⟩

section Library

variable (uuid : Uuid.Library)

/-- A call keeps the history file of an accepted identifier holding the lock last saved
under it: a save under it writes it, and a save under another identifier writes other
files. -/
theorem Holds.apply_history {s : LockStore} {id : String} {o : Option Lock}
    (ok : uuid.parse id = .ok ()) (h : Holds s (s.historyPath id) o) (c : Call)
    (storable : ∀ l, c = .save l → l.Storable) :
    Holds (c.apply uuid s) (s.historyPath id) (c.lastSaved id o) := by
  cases c with
  | load _ => exact h
  | current => exact h
  | save l =>
    simp only [Call.apply, Call.lastSaved]
    by_cases own : l.id = id
    · subst own
      obtain ⟨text, read, saved⟩ := save_ok uuid (storable l rfl) ok s
      rw [saved, if_pos rfl]
      refine ⟨text, ?_, read⟩
      rw [read?_write_of_ne _ (historyPath_ne_currentPath s l.id), read?_write_self]
    · rw [if_neg own]
      apply h.frame
      split
      · rename_i s' saved
        exact read?_save_of_ne uuid saved (fun same => own (historyPath_inj same).symm)
          (historyPath_ne_currentPath s id)
      · rfl

/-- A call keeps the current file holding the lock last saved under an accepted
identifier: such a save succeeds and writes it, and a save under another identifier
fails. -/
theorem Holds.apply_current {s : LockStore} {o : Option Lock} (h : Holds s s.currentPath o)
    (c : Call) (storable : ∀ l, c = .save l → l.Storable) :
    Holds (c.apply uuid s) s.currentPath (c.latest uuid o) := by
  cases c with
  | load _ => exact h
  | current => exact h
  | save l =>
    simp only [Call.apply, Call.latest]
    cases hc : uuid.parse l.id with
    | ok u =>
      obtain ⟨text, read, saved⟩ := save_ok uuid (storable l rfl) hc s
      rw [saved]
      exact ⟨text, read?_write_self _ _ _, read⟩
    | error msg =>
      obtain ⟨e, failed, -⟩ := save_error uuid (by rw [hc]; rfl) s
      rw [failed]
      exact h

/-- What a store holds at a path that calls do not move, kept by each call, is kept by a
run. -/
theorem holds_run {path : LockStore → String}
    (stable : ∀ s (c : Call), path (c.apply uuid s) = path s)
    {next : Option Lock → Call → Option Lock}
    (step : ∀ s o (c : Call), Holds s (path s) o → (∀ l, c = .save l → l.Storable) →
      Holds (c.apply uuid s) (path s) (next o c)) :
    ∀ (calls : List Call) (s : LockStore) (o : Option Lock), Holds s (path s) o →
      (∀ l, Call.save l ∈ calls → l.Storable) → Holds (s.run uuid calls) (path s) (calls.foldl next o)
  | [], _, _, h, _ => h
  | c :: rest, s, o, h, storable => by
    have first := step s o c h fun l e => storable l (e ▸ List.mem_cons_self)
    rw [← stable s c] at first ⊢
    exact holds_run stable step rest (c.apply uuid s) _ first fun l m =>
      storable l (List.mem_cons_of_mem _ m)

/-- `load` of an accepted identifier returns the lock its history file holds, or
`NOT_FOUND`. -/
theorem load_of_holds {s : LockStore} {id : String} {o : Option Lock} (ok : uuid.parse id = .ok ()) :
    Holds s (s.historyPath id) o →
      match o with
      | some l => s.load uuid id = .ok l
      | none => ∃ e, s.load uuid id = .error e ∧ e.code? = some .notFound := by
  intro h
  match o, h with
  | none, (h : s.read? _ = none) =>
    exact ⟨.make .notFound ("lock " ++ id ++ " not found"),
      by simp [load, checkId_ok uuid ok, h, bind, Except.bind], rfl⟩
  | some l, ⟨text, file, read⟩ =>
    simp [load, checkId_ok uuid ok, file, decodeAt, read, Except.mapError, bind, Except.bind]

end Library

/-- `current` returns the lock the current file holds, or `FILE_NOT_FOUND`. -/
theorem current_of_holds {s : LockStore} {o : Option Lock} :
    Holds s s.currentPath o →
      match o with
      | some l => s.current = .ok l
      | none => ∃ e, s.current = .error e ∧ e.code? = some .fileNotFound := by
  intro h
  match o, h with
  | none, (h : s.read? _ = none) =>
    exact ⟨.wrap .fileNotFound (.plain ("open " ++ s.currentPath ++ ": no such file or directory"))
      s.currentPath, by simp [current, h], rfl⟩
  | some l, ⟨text, file, read⟩ => simp [current, file, decodeAt, read, Except.mapError]

/-- The history file of an identifier without a slash lies directly in the history
directory. -/
theorem historyPath_child (s : LockStore) {id : String} (h : '/' ∉ id.toList) :
    s.historyPath id = s.dir ++ "/.ziplock/" ++ (id ++ ".json") ∧ '/' ∉ (id ++ ".json").toList := by
  refine ⟨by simp only [historyPath, String.append_assoc], ?_⟩
  simp only [String.toList_append, List.mem_append, not_or]
  exact ⟨h, by decide⟩

end LockStore

/-! ## The store along a run -/

/-- A store used through `save`, `load` and `current`, from an empty directory, with any
UUID library, keeps every saved lock and the latest one, provided every lock saved is
storable. `load` of an identifier the library accepts returns the lock last saved under
it, or fails with `NOT_FOUND`; `current` returns the lock last saved under an accepted
identifier, or fails with `FILE_NOT_FOUND`. An identifier the library refuses fails `save`
and `load` with `INVALID_INPUT`, and such a save leaves the store as it was. When the
library accepts only the standard spellings of a UUID, the history file of every accepted
identifier lies directly in the history directory. -/
theorem lock_store_keeps_saved_and_latest (uuid : Uuid.Library) (dir : String)
    (calls : List LockStore.Call) (storable : ∀ l, LockStore.Call.save l ∈ calls → l.Storable) :
    (∀ id, uuid.parse id = .ok () →
      match calls.foldl (LockStore.Call.lastSaved id) none with
      | some l => ((⟨dir, []⟩ : LockStore).run uuid calls).load uuid id = .ok l
      | none => ∃ e, ((⟨dir, []⟩ : LockStore).run uuid calls).load uuid id = .error e ∧
          e.code? = some .notFound) ∧
    (match calls.foldl (LockStore.Call.latest uuid) none with
      | some l => ((⟨dir, []⟩ : LockStore).run uuid calls).current = .ok l
      | none => ∃ e, ((⟨dir, []⟩ : LockStore).run uuid calls).current = .error e ∧
          e.code? = some .fileNotFound) ∧
    (∀ (s : LockStore) (id : String), (uuid.parse id).toBool = false →
      (∃ e, s.load uuid id = .error e ∧ e.code? = some .invalidInput) ∧
      ∀ l : Lock, l.id = id →
        (∃ e, s.save uuid l = .error e ∧ e.code? = some .invalidInput) ∧
          LockStore.Call.apply uuid s (.save l) = s) ∧
    (uuid.AcceptsOnlyStandard → ∀ (s : LockStore) (id : String), uuid.parse id = .ok () →
      s.historyPath id = s.dir ++ "/.ziplock/" ++ (id ++ ".json") ∧ '/' ∉ (id ++ ".json").toList) := by
  refine ⟨fun id ok => ?_, ?_, fun s id bad => ⟨LockStore.load_error uuid bad s, fun l own => ?_⟩,
    fun standard s id ok => s.historyPath_child (Uuid.slash_free_of_standard (standard id ok))⟩
  · have held := @LockStore.holds_run uuid (fun s => s.historyPath id)
      (fun s c => LockStore.historyPath_of_dir (LockStore.Call.dir_apply uuid s c) id)
      (LockStore.Call.lastSaved id) (fun s o c h st => h.apply_history uuid ok c st) calls ⟨dir, []⟩ none
      rfl storable
    rw [← LockStore.historyPath_of_dir (LockStore.dir_run uuid _ calls)] at held
    exact LockStore.load_of_holds uuid ok held
  · have held := @LockStore.holds_run uuid (fun s => s.currentPath)
      (fun s c => LockStore.currentPath_of_dir (LockStore.Call.dir_apply uuid s c))
      (LockStore.Call.latest uuid) (fun s o c h st => h.apply_current uuid c st) calls ⟨dir, []⟩ none
      rfl storable
    rw [← LockStore.currentPath_of_dir (LockStore.dir_run uuid _ calls)] at held
    exact LockStore.current_of_holds held
  · subst own
    obtain ⟨e, failed, code⟩ := LockStore.save_error uuid bad s
    exact ⟨⟨e, failed, code⟩, by simp only [LockStore.Call.apply, failed]⟩

/-- With a library that reads braces, a lock saved under a UUID loads back, and its
history file lies in the history directory. -/
theorem lock_store_saved_sample :
    ((⟨"locks", []⟩ : LockStore).run Uuid.braced
        [.save { id := "6ba7b810-9dad-11d1-80b4-00c04fd430c8", formatVersion := 1 }]).load Uuid.braced
      "6ba7b810-9dad-11d1-80b4-00c04fd430c8" =
      .ok { id := "6ba7b810-9dad-11d1-80b4-00c04fd430c8", formatVersion := 1 } ∧
    (⟨"locks", []⟩ : LockStore).historyPath "6ba7b810-9dad-11d1-80b4-00c04fd430c8" =
      "locks" ++ "/.ziplock/" ++ ("6ba7b810-9dad-11d1-80b4-00c04fd430c8" ++ ".json") := by
  have len : ("6ba7b810-9dad-11d1-80b4-00c04fd430c8".toList.map Char.toUInt8).length = 36 := by
    decide
  have hy : Uuid.isHyphenated ("6ba7b810-9dad-11d1-80b4-00c04fd430c8".toList.map Char.toUInt8) =
      true := by
    decide
  have ok : Uuid.braced.parse "6ba7b810-9dad-11d1-80b4-00c04fd430c8" = .ok () := by
    have bytes := Uuid.toUTF8_ascii (s := "6ba7b810-9dad-11d1-80b4-00c04fd430c8") (by decide)
    simp only [Uuid.braced, Uuid.check, bytes, len, hy, if_true]
    rfl
  have storable : Lock.Storable { id := "6ba7b810-9dad-11d1-80b4-00c04fd430c8", formatVersion := 1 } :=
    ⟨Timestamp.zero_valid, ⟨keysSorted_nil, fun _ _ h => absurd h List.not_mem_nil,
      fun _ _ h => absurd h List.not_mem_nil⟩, by decide, by decide⟩
  have kept := lock_store_keeps_saved_and_latest Uuid.braced "locks"
    [.save { id := "6ba7b810-9dad-11d1-80b4-00c04fd430c8", formatVersion := 1 }]
    (by simpa using storable)
  refine ⟨by simpa [LockStore.Call.lastSaved] using kept.1 _ ok, ?_⟩
  exact (kept.2.2.2 Uuid.braced_acceptsOnlyStandard ⟨"locks", []⟩ _ ok).1

end DepLock
