import DepLock.Cache.File
import DepLock.Proofs.Time.Text
import DepLock.Proofs.Text.Base64
/-!
# A file store is a map with expiry

A file store keeps one file per key, at a path named by the key's digest, holding the
bytes in base64 and the expiry as RFC 3339 text. This module shows that, used only
through `get`, `set` and `delete` with a clock that does not run back, it behaves as a
map whose entries expire (`file_cache_map_with_expiry`):

* the text `set` writes reads back as the same bytes and expiry (`ofText_written`), the
  bytes whatever they are and the expiry as an instant (`expired_written`);
* digests are hex, so different digests give different paths and one key's file is
  never another's (`pathOf_inj`);
* `get` misses when a key's entry does not read or has expired, and then removes it;
  `delete` of an absent key changes nothing;
* along a run of calls, each key's file is the one its last write left, or is gone once
  that write has expired (`Tracks`, `tracks_run`).
-/

set_option autoImplicit false

namespace DepLock.Cache

open DepLock.Json

/-! ## Entries -/

/-- The expiry `set` gives an entry: the zero time when the lifetime is not positive. -/
def expiryAfter (now ttl : Int) : Timestamp :=
  if ttl > 0 then Timestamp.ofUnixNanos (now + ttl) else Timestamp.zero

/-- The text `set` writes at instant `now` for bytes `data` with lifetime `ttl`. -/
def writtenText (now : Int) (data : List UInt8) (ttl : Int) : String :=
  write (Entry.toValue ⟨data, expiryAfter now ttl⟩)

/-- Instants a file store writes: from 1970 on, with an expiry, if any, before the end of
year 9999, the last instant an RFC 3339 year can hold. -/
def Writable (now ttl : Int) : Prop := 0 ≤ now ∧ (0 < ttl → now + ttl < 253402300800000000000)

/-- The expiry of a writable entry is a time that has an RFC 3339 text. -/
theorem expiryAfter_valid {now ttl : Int} (h : Writable now ttl) : (expiryAfter now ttl).Valid := by
  unfold expiryAfter
  split
  · exact Timestamp.ofUnixNanos_valid (by have := h.1; omega) (h.2 (by omega))
  · exact Timestamp.zero_valid

/-- An entry's document reads back as the entry, whatever its bytes, when its expiry is a
valid timestamp. -/
theorem ofText_write {data : List UInt8} {e : Timestamp} (he : e.Valid) :
    Entry.ofText (write (Entry.toValue ⟨data, e⟩)) = some ⟨data, e⟩ := by
  have doc : readDocument (write (Entry.toValue ⟨data, e⟩)) = .ok (Entry.toValue ⟨data, e⟩) :=
    readDocument_write (by simp [Entry.toValue, numberFree, membersNumberFree])
  rw [Entry.ofText, doc]
  simp [readEntry, readRecord, Entry.toValue, fieldFor, Text.base64Decode_encode,
    Timestamp.parse_text he, List.foldlM, bind, Except.bind, pure, Except.pure]

/-- The text written for an entry reads back as that entry with its expiry. -/
theorem ofText_written {now ttl : Int} (h : Writable now ttl) (data : List UInt8) :
    Entry.ofText (writtenText now data ttl) = some ⟨data, expiryAfter now ttl⟩ :=
  ofText_write (expiryAfter_valid h)

/-- A written entry has expired at `t` exactly when it has a lifetime and `t` is past
the instant of its write plus the lifetime. -/
theorem expired_written {now ttl : Int} (h : Writable now ttl) (data : List UInt8) (t : Int) :
    (Entry.mk data (expiryAfter now ttl)).expired t = true ↔ 0 < ttl ∧ now + ttl < t := by
  by_cases live : 0 < ttl
  · have start : 0 ≤ now + ttl := by have := h.1; omega
    simp only [Entry.expired, expiryAfter, if_pos live, Timestamp.isZero_ofUnixNanos start,
      Timestamp.toUnixNanos_ofUnixNanos start, Bool.not_false, Bool.true_and, decide_eq_true_eq]
    omega
  · simp [Entry.expired, expiryAfter, live, Timestamp.isZero_zero]

/-! ## Paths -/

/-- A hex digit, as `Digest.wordHex` writes it, is not a slash. -/
theorem hexDigit_ne_slash {d : Nat} (h : d < 16) :
    (if d < 10 then Char.ofNat (48 + d) else Char.ofNat (87 + d)) ≠ '/' := by
  have table : (List.range 16).all (fun d =>
      (if d < 10 then Char.ofNat (48 + d) else Char.ofNat (87 + d)) != '/') = true := by decide
  simpa using List.all_eq_true.mp table d (List.mem_range.mpr h)

/-- A hex digest holds no slash, so it names one file in one directory. -/
theorem slash_not_mem_digest (s : String) : '/' ∉ (digest s).toList := by
  simp only [digest, Digest.sha256Text, Digest.sha256Hex, String.toList_join, List.mem_flatMap,
    List.mem_map, not_exists, not_and]
  rintro _ ⟨w, -, rfl⟩ hmem
  simp only [Digest.wordHex, String.toList_ofList, List.mem_map] at hmem
  obtain ⟨i, -, hi⟩ := hmem
  exact hexDigit_ne_slash (Nat.mod_lt _ (by decide)) hi

/-- Splitting at the first occurrence of a separator is unique. -/
theorem append_cons_inj {a : Char} :
    ∀ {l₁ l₂ r₁ r₂ : List Char}, a ∉ l₁ → a ∉ l₂ → l₁ ++ a :: r₁ = l₂ ++ a :: r₂ →
      l₁ = l₂ ∧ r₁ = r₂
  | [], [], _, _, _, _, h => ⟨rfl, List.cons.inj h |>.2⟩
  | [], b :: l₂, _, _, _, h₂, h => absurd (List.cons.inj h).1 (fun hb => h₂ (hb ▸ List.mem_cons_self))
  | b :: l₁, [], _, _, h₁, _, h => absurd (List.cons.inj h).1.symm (fun hb => h₁ (hb ▸ List.mem_cons_self))
  | b :: l₁, c :: l₂, _, _, h₁, h₂, h => by
    obtain ⟨hbc, h⟩ := List.cons.inj h
    obtain ⟨hl, hr⟩ := append_cons_inj (fun m => h₁ (List.mem_cons_of_mem _ m))
      (fun m => h₂ (List.mem_cons_of_mem _ m)) h
    exact ⟨hbc ▸ hl ▸ rfl, hr⟩

/-- Keys with the same path have the same digest. -/
theorem pathOf_inj {c : FileCache} {k k' : String} (h : c.pathOf k = c.pathOf k') :
    digest k = digest k' := by
  have chars := congrArg String.toList h
  simp only [FileCache.pathOf, FileCache.hashOf, String.toList_append, String.toList_ofList,
    List.append_assoc] at chars
  have slash : "/".toList = ['/'] := rfl
  have shard := List.append_cancel_left chars
  simp only [slash, List.singleton_append, List.cons.injEq, true_and] at shard
  have first : ∀ s, '/' ∉ (digest s).toList.take 2 := fun s m =>
    slash_not_mem_digest s (List.mem_of_mem_take m)
  obtain ⟨head, tail⟩ := append_cons_inj (first k) (first k') shard
  apply String.toList_inj.mp
  rw [← List.take_append_drop 2 (digest k).toList, ← List.take_append_drop 2 (digest k').toList,
    head, List.append_cancel_right tail]

/-! ## Files -/

namespace FileCache

variable (c : FileCache)

/-- Among the files not at `p`, none is at `p`. -/
theorem find?_filter_self (p : String) (files : List (String × String)) :
    (files.filter (·.1 != p)).find? (·.1 == p) = none :=
  List.find?_eq_none.mpr fun a ha => by simpa using (List.mem_filter.mp ha).2

/-- Among the files not at `p`, the one at `q ≠ p` is the one at `q`. -/
theorem find?_filter_of_ne {p q : String} (h : q ≠ p) (files : List (String × String)) :
    (files.filter (·.1 != p)).find? (·.1 == q) = files.find? (·.1 == q) := by
  rw [List.find?_filter]
  congr 1
  funext a
  by_cases ha : a.1 = q <;> simp [ha, h]

/-- A file reads as the text last written to it. -/
theorem read?_writeFile_self (p text : String) : (c.writeFile p text).read? p = some text := by
  simp only [read?, writeFile, remove, List.find?_append, find?_filter_self, Option.none_or]
  simp

/-- Writing a file leaves every other file as it was. -/
theorem read?_writeFile_of_ne {p q : String} (h : q ≠ p) (text : String) :
    (c.writeFile p text).read? q = c.read? q := by
  simp [read?, writeFile, remove, List.find?_append, find?_filter_of_ne h, Ne.symm h]

/-- A removed file reads as nothing. -/
theorem read?_remove_self (p : String) : (c.remove p).read? p = none := by
  simp only [read?, remove, find?_filter_self, Option.map_none]

/-- Removing a file leaves every other file as it was. -/
theorem read?_remove_of_ne {p q : String} (h : q ≠ p) : (c.remove p).read? q = c.read? q := by
  simp only [read?, remove, find?_filter_of_ne h]

/-- Removing a path that holds no file changes nothing. -/
theorem remove_of_read?_eq_none {p : String} (h : c.read? p = none) : c.remove p = c := by
  simp only [read?, Option.map_eq_none_iff, List.find?_eq_none, beq_iff_eq] at h
  simp only [remove]
  congr
  exact List.filter_eq_self.mpr fun a ha => by simpa using h a ha

/-! ## Keys -/

variable {c}

/-- Two caches in the same directory put a key in the same file. -/
theorem pathOf_of_dir {c' : FileCache} (h : c'.dir = c.dir) (k : String) :
    c'.pathOf k = c.pathOf k := by
  simp only [pathOf, h]

/-- Keys of different digests have different paths. -/
theorem pathOf_ne {k k' : String} (h : digest k ≠ digest k') : c.pathOf k' ≠ c.pathOf k :=
  fun same => h (pathOf_inj same).symm

/-- `get` either leaves the store as it is or removes the file at the key's path. -/
theorem get_fst (now : Int) (k : String) :
    (c.get now k).1 = c ∨ (c.get now k).1 = c.remove (c.pathOf k) := by
  dsimp only [get]
  split
  · exact .inl rfl
  · split
    · exact .inr rfl
    · split
      · exact .inr rfl
      · exact .inl rfl

/-- What `get` returns: the bytes of the entry at the key's path, if it reads and is live. -/
theorem get_snd (now : Int) (k : String) :
    (c.get now k).2 = ((c.read? (c.pathOf k)).bind Entry.ofText).bind
      fun e => if e.expired now then none else some e.data := by
  dsimp only [get]
  cases c.read? (c.pathOf k) with
  | none => rfl
  | some text =>
    dsimp only [Option.bind]
    cases Entry.ofText text with
    | none => rfl
    | some e => by_cases ex : e.expired now = true <;> simp [ex]

/-- Reading a key keeps the cache's directory. -/
theorem dir_get (now : Int) (k : String) : (c.get now k).1.dir = c.dir := by
  rcases get_fst now k with h | h <;> rw [h]
  rfl

/-- Reading a key touches no file but the key's own. -/
theorem read?_get_of_ne {now : Int} {k p : String} (h : p ≠ c.pathOf k) :
    (c.get now k).1.read? p = c.read? p := by
  rcases get_fst now k with same | removed
  · rw [same]
  · rw [removed, read?_remove_of_ne c h]

/-- A `get` that misses leaves no file at the key's path: an entry that does not read or
has expired is removed. -/
theorem read?_get_of_miss {now : Int} {k : String} (h : (c.get now k).2 = none) :
    (c.get now k).1.read? (c.pathOf k) = none := by
  revert h
  dsimp only [get]
  cases hread : c.read? (c.pathOf k) with
  | none => intro _; exact hread
  | some text =>
    dsimp only
    cases Entry.ofText text with
    | none => intro _; exact read?_remove_self c _
    | some e =>
      by_cases ex : e.expired now = true
      · intro _
        simp only [ex, if_true]
        exact read?_remove_self c _
      · simp [ex]

/-- A key with no file misses and leaves the cache as it was. -/
theorem get_of_read?_eq_none {now : Int} {k : String} (h : c.read? (c.pathOf k) = none) :
    c.get now k = (c, none) := by
  simp [get, h]

/-- `get` of a written entry: a miss that removes it once it has expired, else its bytes. -/
theorem get_of_written {now s ttl : Int} {k : String} {d : List UInt8}
    (h : c.read? (c.pathOf k) = some (writtenText s d ttl)) (hw : Writable s ttl) :
    c.get now k = if 0 < ttl ∧ s + ttl < now then (c.remove (c.pathOf k), none) else (c, some d) := by
  have expiry := expired_written hw d now
  simp only [get, h, ofText_written hw]
  by_cases ex : 0 < ttl ∧ s + ttl < now
  · rw [if_pos (expiry.mpr ex), if_pos ex]
  · rw [if_neg (mt expiry.mp ex), if_neg ex]

/-- Storing a key writes the entry's text to the key's file. -/
theorem set_eq (now : Int) (k : String) (d : List UInt8) (ttl : Int) :
    c.set now k d ttl = c.writeFile (c.pathOf k) (writtenText now d ttl) := rfl

/-- Writing one key does not change what `get` returns for a key of another digest. -/
theorem get_set_of_digest_ne {now t ttl : Int} {k k' : String} {d : List UInt8}
    (h : digest k ≠ digest k') : ((c.set now k d ttl).get t k').2 = (c.get t k').2 := by
  have path : (c.set now k d ttl).pathOf k' = c.pathOf k' := pathOf_of_dir rfl k'
  rw [get_snd, get_snd, path, set_eq, read?_writeFile_of_ne c (pathOf_ne h)]

/-- A key reads back the bytes `set` wrote under it, until they expire. -/
theorem get_set_self {now t ttl : Int} {k : String} {d : List UInt8} (hw : Writable now ttl) :
    (c.set now k d ttl).get t k =
      if 0 < ttl ∧ now + ttl < t then
        ((c.set now k d ttl).remove ((c.set now k d ttl).pathOf k), none)
      else (c.set now k d ttl, some d) := by
  have path : (c.set now k d ttl).pathOf k = c.pathOf k := pathOf_of_dir rfl k
  refine get_of_written ?_ hw
  rw [path, set_eq, read?_writeFile_self]

/-- Deleting a key that has no file changes nothing. -/
theorem delete_of_read?_eq_none {k : String} (h : c.read? (c.pathOf k) = none) : c.delete k = c :=
  remove_of_read?_eq_none c h

/-! ## Runs of calls -/

/-- A call on a file store, with the instant it is made at. -/
inductive Call where
  /-- Reads a key. -/
  | get (now : Int) (key : String)
  /-- Writes a key with a lifetime. -/
  | set (now : Int) (key : String) (data : List UInt8) (ttl : Int)
  /-- Removes a key. -/
  | delete (key : String)
deriving Repr

namespace Call

/-- The key a call is about. -/
def key : Call → String
  | get _ k | set _ k _ _ | delete k => k

/-- The store after a call. -/
def apply (c : FileCache) : Call → FileCache
  | get now k => (c.get now k).1
  | set now k d ttl => c.set now k d ttl
  | delete k => c.delete k

/-- The clock after a call, from clock `t`: the call's instant when it reads the clock. -/
def clock (t : Int) : Call → Int
  | get now _ | set now _ _ _ => now
  | delete _ => t

/-- The last write to key `k` that no delete of `k` followed, after a call: its instant,
bytes and lifetime. -/
def lastWrite (k : String) (w : Option (Int × List UInt8 × Int)) :
    Call → Option (Int × List UInt8 × Int)
  | get _ _ => w
  | set now k' d ttl => if k' = k then some (now, d, ttl) else w
  | delete k' => if k' = k then none else w

/-- A call made no earlier than clock `t`, writing only instants the store can write. -/
def Timely (t : Int) : Call → Prop
  | get now _ => t ≤ now
  | set now _ _ ttl => t ≤ now ∧ Writable now ttl
  | delete _ => True

/-- A timely call does not move the clock back. -/
theorem le_clock {t : Int} {call : Call} (h : call.Timely t) : t ≤ call.clock t := by
  cases call with
  | get now k => exact h
  | set now k d ttl => exact h.1
  | delete k => exact Int.le_refl t

/-- A call keeps the cache's directory. -/
theorem dir_apply (c : FileCache) (call : Call) : (call.apply c).dir = c.dir := by
  cases call with
  | get now k => exact dir_get now k
  | set now k d ttl => rfl
  | delete k => rfl

end Call

/-- The store after a run of calls. -/
def run (c : FileCache) (calls : List Call) : FileCache := calls.foldl Call.apply c

/-- Whether every call of a run is timely at the clock the calls before it leave. -/
def Chronological : Int → List Call → Prop
  | _, [] => True
  | t, call :: rest => call.Timely t ∧ Chronological (call.clock t) rest

/-- Two runs joined are chronological when the first is and the second is from the clock the
first ends at. -/
theorem chronological_append {t : Int} :
    ∀ {xs ys : List Call}, Chronological t (xs ++ ys) ↔
      Chronological t xs ∧ Chronological (xs.foldl Call.clock t) ys
  | [], _ => by simp [Chronological]
  | call :: xs, ys => by
    simp only [List.cons_append, Chronological, List.foldl_cons, chronological_append, and_assoc]

/-! ## The file of a key along a run -/

/-- What the file at `path` holds at clock `t`, given the last write `w` to its key that no
delete followed: nothing when there is none, else the text of that write, or nothing once
the write has expired before `t`. -/
def Tracks (c : FileCache) (path : String) (t : Int) : Option (Int × List UInt8 × Int) → Prop
  | none => c.read? path = none
  | some (s, d, ttl) => Writable s ttl ∧
      (c.read? path = some (writtenText s d ttl) ∨ (c.read? path = none ∧ 0 < ttl ∧ s + ttl < t))

/-- What the file of a key holds stays tracked as the clock moves on. -/
theorem Tracks.mono {path : String} {t t' : Int} {w : Option (Int × List UInt8 × Int)}
    (h : Tracks c path t w) (le : t ≤ t') : Tracks c path t' w := by
  match w, h with
  | none, h => exact h
  | some (s, d, ttl), ⟨hw, h⟩ =>
    exact ⟨hw, h.imp_right fun ⟨gone, live, past⟩ => ⟨gone, live, by omega⟩⟩

/-- A store with the same file at the path tracks the write alike. -/
theorem Tracks.frame {c' : FileCache} {path : String} {t : Int}
    {w : Option (Int × List UInt8 × Int)} (h : Tracks c path t w)
    (same : c'.read? path = c.read? path) : Tracks c' path t w := by
  match w, h with
  | none, h => exact same.trans h
  | some (s, d, ttl), ⟨hw, h⟩ => exact ⟨hw, by rw [same]; exact h⟩

/-- One call keeps a key's file tracked: the file follows a call on the key, and a call on
a key of another digest leaves it as it is. -/
theorem Tracks.apply {t : Int} {k : String} {w : Option (Int × List UInt8 × Int)} {call : Call}
    (h : Tracks c (c.pathOf k) t w) (timely : call.Timely t)
    (apart : call.key ≠ k → digest call.key ≠ digest k) :
    Tracks (call.apply c) (c.pathOf k) (call.clock t) (call.lastWrite k w) := by
  have later := Call.le_clock timely
  by_cases own : call.key = k
  · cases call with
    | get now k' =>
      simp only [Call.key] at own
      subst own
      simp only [Call.clock, Call.apply, Call.lastWrite] at later ⊢
      match w, h with
      | none, h => rw [get_of_read?_eq_none h]; exact h
      | some (s, d, ttl), ⟨hw, .inl written⟩ =>
        refine ⟨hw, ?_⟩
        rw [get_of_written written hw]
        split
        · exact .inr ⟨read?_remove_self c _, by omega⟩
        · exact .inl written
      | some (s, d, ttl), ⟨hw, .inr ⟨gone, live, past⟩⟩ =>
        rw [get_of_read?_eq_none gone]
        exact ⟨hw, .inr ⟨gone, live, by omega⟩⟩
    | set now k' d ttl =>
      simp only [Call.key] at own
      subst own
      simp only [Call.apply, Call.lastWrite, if_true, Tracks, set_eq]
      exact ⟨timely.2, .inl (read?_writeFile_self c _ _)⟩
    | delete k' =>
      simp only [Call.key] at own
      subst own
      simp only [Call.apply, Call.lastWrite, if_true, Tracks, delete]
      exact read?_remove_self c _
  · -- another key: its path differs, so the key's file and last write stay
    have path := pathOf_ne (c := c) (apart own)
    have kept : call.lastWrite k w = w := by
      cases call <;> simp_all [Call.lastWrite, Call.key]
    rw [kept]
    refine (h.mono later).frame ?_
    cases call with
    | get now k' => exact read?_get_of_ne path
    | set now k' d ttl => exact read?_writeFile_of_ne c path _
    | delete k' => exact read?_remove_of_ne c path

/-- A run of calls keeps the cache's directory. -/
theorem dir_run : ∀ (c : FileCache) (calls : List Call), (c.run calls).dir = c.dir
  | _, [] => rfl
  | c, call :: rest => (dir_run (call.apply c) rest).trans (Call.dir_apply c call)

/-- Along a chronological run in which no other key shares its digest, a key's file stays
tracked: the run's induction carries `Tracks` from call to call by `Tracks.apply`. -/
theorem tracks_run {k : String} :
    ∀ {calls : List Call} {c : FileCache} {t : Int} {w : Option (Int × List UInt8 × Int)},
      Tracks c (c.pathOf k) t w → Chronological t calls →
      (∀ call ∈ calls, call.key ≠ k → digest call.key ≠ digest k) →
      Tracks (c.run calls) (c.pathOf k) (calls.foldl Call.clock t)
        (calls.foldl (Call.lastWrite k) w)
  | [], _, _, _, h, _, _ => h
  | call :: rest, c, _, _, h, ⟨timely, chrono⟩, apart => by
    have step := h.apply timely (apart call List.mem_cons_self)
    rw [← pathOf_of_dir (Call.dir_apply c call)] at step
    have later := tracks_run step chrono fun call' m => apart call' (List.mem_cons_of_mem _ m)
    rwa [pathOf_of_dir (Call.dir_apply c call)] at later

/-- `get` of a tracked key, at a clock no earlier than the tracking one, returns the bytes of
its last write exactly while that write lives. -/
theorem get_of_tracks {T t : Int} {k : String} {w : Option (Int × List UInt8 × Int)}
    (h : Tracks c (c.pathOf k) T w) (le : T ≤ t) (d : List UInt8) :
    (c.get t k).2 = some d ↔ ∃ s ttl, w = some (s, d, ttl) ∧ (ttl ≤ 0 ∨ t ≤ s + ttl) := by
  match w, h with
  | none, h => simp [get_of_read?_eq_none h]
  | some (s, d', ttl), ⟨hw, .inl written⟩ =>
    rw [get_of_written written hw]
    split
    · simp only [Option.some.injEq, Prod.mk.injEq, reduceCtorEq, false_iff, not_exists, not_and]
      omega
    · simp only [Option.some.injEq, Prod.mk.injEq]
      constructor
      · rintro rfl
        exact ⟨s, ttl, ⟨rfl, rfl, rfl⟩, by omega⟩
      · rintro ⟨_, _, ⟨rfl, rfl, rfl⟩, -⟩
        rfl
  | some (s, d', ttl), ⟨hw, .inr ⟨gone, live, past⟩⟩ =>
    rw [get_of_read?_eq_none gone]
    simp only [Option.some.injEq, Prod.mk.injEq, reduceCtorEq, false_iff, not_exists, not_and]
    omega

end FileCache

/-- A file store used only through `get`, `set` and `delete`, with a clock that does not
run back and expiries before year 10000, is a map with expiry. From an empty directory,
`get` of a key returns exactly the bytes of the key's last write that no delete followed,
while that write has no lifetime or its lifetime has not passed, provided no other key of
the run shares the key's digest. A miss leaves no file at the key's path; deleting a key
without a file changes nothing; writing a key never changes what `get` returns for a key
of another digest. -/
theorem file_cache_map_with_expiry :
    (∀ (dir : String) (calls : List FileCache.Call) (t : Int) (k : String) (d : List UInt8),
      FileCache.Chronological 0 (calls ++ [.get t k]) →
      (∀ k₁ ∈ k :: calls.map FileCache.Call.key, ∀ k₂ ∈ k :: calls.map FileCache.Call.key,
        digest k₁ = digest k₂ → k₁ = k₂) →
      ((((⟨dir, []⟩ : FileCache).run calls).get t k).2 = some d ↔
        ∃ s ttl, calls.foldl (FileCache.Call.lastWrite k) none = some (s, d, ttl) ∧
          (ttl ≤ 0 ∨ t ≤ s + ttl))) ∧
    (∀ (c : FileCache) (t : Int) (k : String),
      (c.get t k).2 = none → (c.get t k).1.read? (c.pathOf k) = none) ∧
    (∀ (c : FileCache) (k : String), c.read? (c.pathOf k) = none → c.delete k = c) ∧
    (∀ (c : FileCache) (now t ttl : Int) (k k' : String) (d : List UInt8),
      digest k ≠ digest k' → ((c.set now k d ttl).get t k').2 = (c.get t k').2) := by
  refine ⟨fun dir calls t k d chrono injective => ?_, fun c t k => FileCache.read?_get_of_miss,
    fun c k => FileCache.delete_of_read?_eq_none, fun c now t ttl k k' d =>
      FileCache.get_set_of_digest_ne⟩
  obtain ⟨chrono, last, -⟩ := FileCache.chronological_append.mp chrono
  have apart : ∀ call ∈ calls, call.key ≠ k → digest call.key ≠ digest k :=
    fun call m other same => other (injective _ (List.mem_cons_of_mem _ (List.mem_map_of_mem m))
      _ List.mem_cons_self same)
  have tracked := FileCache.tracks_run (k := k) (c := ⟨dir, []⟩) (w := none) rfl chrono apart
  rw [← FileCache.pathOf_of_dir (FileCache.dir_run _ calls)] at tracked
  exact FileCache.get_of_tracks tracked last d

/-- A key written without a lifetime at instant 1 and overwritten at instant 2 with bytes that
are not UTF-8 and a lifetime of 3: at instant 5 the new bytes are read back, and at instant 6
the entry has expired, the first write, which had no lifetime, being gone with it. -/
theorem file_cache_map_with_expiry_sample :
    let calls : List FileCache.Call := [.set 1 "k" [1] 0, .set 2 "k" [255, 0] 3]
    (((⟨"cache", []⟩ : FileCache).run calls).get 5 "k").2 = some [255, 0] ∧
      (((⟨"cache", []⟩ : FileCache).run calls).get 6 "k").2 = none := by
  intro calls
  have keys : ∀ k₁ ∈ "k" :: calls.map FileCache.Call.key, ∀ k₂ ∈ "k" :: calls.map FileCache.Call.key,
      digest k₁ = digest k₂ → k₁ = k₂ := by
    simp [calls, FileCache.Call.key]
  have chrono : ∀ t, 2 ≤ t → FileCache.Chronological 0 (calls ++ [.get t "k"]) := by
    intro t late
    simp [calls, FileCache.Chronological, FileCache.Call.Timely, FileCache.Call.clock, Writable]
    omega
  -- the overwrite is the last write to the key
  have last : calls.foldl (FileCache.Call.lastWrite "k") none = some (2, [255, 0], 3) := by
    simp [calls, FileCache.Call.lastWrite]
  refine ⟨(file_cache_map_with_expiry.1 "cache" calls 5 "k" [255, 0] (chrono 5 (by decide))
    keys).mpr ⟨2, 3, last, .inr (by decide)⟩, ?_⟩
  refine Option.eq_none_iff_forall_ne_some.mpr fun d found => ?_
  obtain ⟨s, ttl, written, alive⟩ :=
    (file_cache_map_with_expiry.1 "cache" calls 6 "k" d (chrono 6 (by decide)) keys).mp found
  rw [last] at written
  cases written
  omega

end DepLock.Cache
