import DepLock.Proofs.Manifest.Reading
/-!
# A written manifest reads back as itself

`Manifest.Storable` is what a manifest needs for its text to read back as the same
manifest, beyond the key order its tables carry: only the three known groups; dependency
names that pass `checkPackageName`; and every specifier the one its text reads as. Every manifest that is read from a text is storable (`Manifest.parse_storable`), and a
storable manifest reads back from its text (`Manifest.Storable.parse_toText`), so writing
after reading is idempotent.

The written document is an object whose members are put in key order, so it is read back
through look-ups: its `name` and `version` members stand only when not empty, no group is
called `name` or `version`, and each group's object holds the texts of its specifiers.
-/

set_option autoImplicit false

namespace DepLock

open DepLock.Json

/-- A manifest whose text reads back as itself: only known groups, names that pass the
check, and each specifier the one its text reads as. -/
structure Manifest.Storable (m : Manifest) : Prop where
  known : ∀ e ∈ m.deps.entries, e.1 ∈ knownGroupNames
  names : ∀ e ∈ m.deps.entries, ∀ x ∈ e.2.entries, checkPackageName x.1 = .ok ()
  specs : ∀ e ∈ m.deps.entries, ∀ x ∈ e.2.entries, Specifier.ofRaw x.2.raw = x.2

/-- A specifier keeps the text it was read from. -/
theorem Specifier.raw_ofRaw (s : String) : (Specifier.ofRaw s).raw = s := by
  unfold Specifier.ofRaw
  split_ifs <;> rfl

/-- A group's name is a known group name exactly when the group is known. -/
theorem Group.name_mem_knownGroupNames_iff (g : Group) : g.name ∈ knownGroupNames ↔ g ∈ Group.known :=
  List.mem_map_of_injective Group.name_injective

/-- Two manifests that agree on their head and on every group are equal. -/
theorem Manifest.eq_of_group? {m m' : Manifest} (name : m.name = m'.name)
    (version : m.version = m'.version) (groups : ∀ g, m.group? g = m'.group? g) : m = m' := by
  obtain ⟨n, v, ⟨es, sorted⟩⟩ := m
  obtain ⟨n', v', ⟨es', sorted'⟩⟩ := m'
  have same : es = es' := eq_of_lookupKeyed_eq sorted sorted' fun k => groups ⟨k⟩
  dsimp only at name version
  subst name version same
  rfl

/-! ## The written document -/

/-- The object a group is written as: each name with its specifier's text. -/
def groupObject (t : Table Specifier) : Value :=
  sortedObject (t.entries.map fun x => (x.1, .string x.2.raw))

/-- The members of a manifest's document before they are put in key order. -/
def manifestMembers (m : Manifest) : List (String × Value) :=
  ((if m.name.isEmpty then [] else [("name", .string m.name)]) ++
    (if m.version.isEmpty then [] else [("version", .string m.version)])) ++
  m.deps.entries.map fun e => (e.1, groupObject e.2)

/-- A manifest is written as the object of its members in key order. -/
theorem toValue_eq_sortedObject (m : Manifest) : m.toValue = sortedObject (manifestMembers m) := rfl

/-- The table of an object written from sorted members is those members. -/
theorem objectTable_sortedObject_entries {ms : List (String × Value)} (h : KeysSorted ms) :
    (objectTable (sortedObject ms)).entries = ms := by
  rw [objectTable_entries, sortedObject_eq_memberTable, Value.members, memberTable_of_sorted h,
    memberTable_of_sorted h]

/-- The table of an object written from members with distinct names finds each name's value. -/
theorem objectTable_sortedObject_get? {ms : List (String × Value)} (h : (ms.map Prod.fst).Nodup)
    (k : String) : (objectTable (sortedObject ms)).get? k = lookupKeyed k ms := by
  rw [Table.get?_eq_lookupKeyed, objectTable_entries, sortedObject_eq_memberTable, Value.members,
    memberTable_of_sorted (memberTable_sorted ms), lookupKeyed_memberTable h]

/-- A group is written as the object of its names and specifier texts, in key order. -/
theorem groupObject_eq_object (t : Table Specifier) :
    groupObject t = .object (t.entries.map fun x => (x.1, .string x.2.raw)) := by
  rw [groupObject, sortedObject_eq_memberTable,
    memberTable_of_sorted (t.sorted.map_values fun s => Value.string s.raw)]

/-- The table of a group's object holds the group's names with their specifier texts. -/
theorem objectTable_groupObject_entries (t : Table Specifier) :
    (objectTable (groupObject t)).entries = t.entries.map fun x => (x.1, .string x.2.raw) :=
  objectTable_sortedObject_entries (t.sorted.map_values fun s => Value.string s.raw)

/-- A text member read from a table that holds it, or lacks it when empty, is that text. -/
theorem textMember_eq_of_get? {t : Table Value} {k s : String}
    (h : t.get? k = if s.isEmpty then none else some (.string s)) : textMember t k = s := by
  unfold textMember
  rw [h]
  by_cases hs : s = ""
  · subst hs
    simp
  · rw [if_neg (by simp [String.isEmpty_eq_false_iff.mpr hs])]

/-- No group is called name. -/
theorem name_not_mem_knownGroupNames : "name" ∉ knownGroupNames := by decide

/-- No group is called version. -/
theorem version_not_mem_knownGroupNames : "version" ∉ knownGroupNames := by decide

section Members

variable {m : Manifest} (h : m.Storable)
include h

/-- The members of a storable manifest's document have distinct names. -/
theorem Manifest.Storable.nodup_members : ((manifestMembers m).map Prod.fst).Nodup := by
  have groups : ((m.deps.entries.map fun e => (e.1, groupObject e.2)).map Prod.fst).Nodup := by
    rw [List.map_map]
    exact m.deps.sorted.nodup
  have apart : ∀ k ∈ (m.deps.entries.map fun e => (e.1, groupObject e.2)).map Prod.fst,
      k ∈ knownGroupNames := by
    simp only [List.map_map, List.mem_map, Function.comp_apply]
    rintro k ⟨e, he, rfl⟩
    exact h.known e he
  unfold manifestMembers
  rw [List.map_append, List.nodup_append]
  refine ⟨?_, groups, fun a ha b hb hab => ?_⟩
  · split <;> split <;> simp
  · subst hab
    have := apart a hb
    split at ha <;> split at ha <;> simp at ha <;>
      rcases ha with rfl | rfl <;> simp_all [name_not_mem_knownGroupNames, version_not_mem_knownGroupNames]

omit h in
/-- A known group's member of a manifest's document is the object of that group. -/
theorem Manifest.lookupKeyed_members_group {k : String} (hk : k ∈ knownGroupNames) :
    lookupKeyed k (manifestMembers m) = (m.deps.get? k).map groupObject := by
  have name : k ≠ "name" := fun e => name_not_mem_knownGroupNames (e ▸ hk)
  have version : k ≠ "version" := fun e => version_not_mem_knownGroupNames (e ▸ hk)
  unfold manifestMembers
  rw [lookupKeyed_append, lookupKeyed_append, lookupKeyed_map, Table.get?_eq_lookupKeyed]
  split <;> split <;> simp [lookupKeyed_cons, Ne.symm name, Ne.symm version]

/-- The groups of a storable manifest give no member other than a known group. -/
theorem Manifest.Storable.lookupKeyed_members_head (k : String) (hk : k ∉ knownGroupNames) :
    lookupKeyed k (m.deps.entries.map fun e => (e.1, groupObject e.2)) = none :=
  lookupKeyed_eq_none fun e he hek => by
    obtain ⟨e', he', rfl⟩ := List.mem_map.mp he
    exact hk (hek ▸ h.known e' he')

/-- A member of a storable manifest's document that is not a group is its name or version. -/
theorem Manifest.Storable.get?_toValue_head {k : String} (hk : k ∉ knownGroupNames) :
    (objectTable m.toValue).get? k =
      lookupKeyed k ((if m.name.isEmpty then [] else [("name", .string m.name)]) ++
        (if m.version.isEmpty then [] else [("version", .string m.version)])) := by
  rw [toValue_eq_sortedObject, objectTable_sortedObject_get? h.nodup_members, manifestMembers,
    lookupKeyed_append _ _ (m.deps.entries.map _), h.lookupKeyed_members_head k hk, Option.or_none]

/-- A known group of a storable manifest's document is the object of that group. -/
theorem Manifest.Storable.get?_toValue_group {g : Group} (hg : g ∈ Group.known) :
    (objectTable m.toValue).get? g.name = (m.deps.get? g.name).map groupObject := by
  rw [toValue_eq_sortedObject, objectTable_sortedObject_get? h.nodup_members,
    Manifest.lookupKeyed_members_group ((Group.name_mem_knownGroupNames_iff g).mpr hg)]

/-- The name member of a storable manifest's document reads as its name. -/
theorem Manifest.Storable.textMember_name :
    textMember (objectTable m.toValue) "name" = m.name := by
  apply textMember_eq_of_get?
  rw [h.get?_toValue_head name_not_mem_knownGroupNames]
  split <;> split <;> simp [lookupKeyed_cons]

/-- The version member of a storable manifest's document reads as its version. -/
theorem Manifest.Storable.textMember_version :
    textMember (objectTable m.toValue) "version" = m.version := by
  apply textMember_eq_of_get?
  rw [h.get?_toValue_head version_not_mem_knownGroupNames]
  split <;> split <;> simp [lookupKeyed_cons]

/-- The object of a group of a storable manifest is read back as the group's table. -/
theorem Manifest.Storable.groupTable?_toValue {g : Group} (hg : g ∈ Group.known) :
    groupTable? (objectTable m.toValue) g = m.group? g := by
  rw [groupTable?, h.get?_toValue_group hg, Manifest.group?]
  cases hl : m.deps.get? g.name with
  | none => rfl
  | some t =>
    have he := mem_of_lookupKeyed hl
    rw [Option.map_some, groupObject_eq_object]
    dsimp only
    rw [← groupObject_eq_object]
    apply congrArg some
    apply Table.ext_entries
    -- each text of the group's object reads as the specifier it was written from
    rw [Table.map_entries, objectTable_groupObject_entries, List.map_map]
    conv => rhs; rw [← List.map_id t.entries]
    apply List.map_congr_left
    intro x hx
    simp [stringText, h.specs _ he x hx]

/-- The document of a storable manifest is one that a manifest is read from. -/
theorem Manifest.Storable.document : ManifestDocument m.toValue := by
  refine ⟨.inr ⟨_, rfl⟩, fun g hg => ?_⟩
  rw [h.get?_toValue_group hg]
  cases hl : m.deps.get? g.name with
  | none => trivial
  | some t =>
    have he := mem_of_lookupKeyed hl
    rw [Option.map_some, groupObject_eq_object]
    intro x hx
    rw [← groupObject_eq_object, objectTable_groupObject_entries] at hx
    obtain ⟨y, hy, rfl⟩ := List.mem_map.mp hx
    exact ⟨⟨_, rfl⟩, h.names _ he y hy⟩

omit h in
/-- A manifest's document holds no number. -/
theorem Manifest.numberFree_toValue : numberFree m.toValue = true := by
  rw [toValue_eq_sortedObject]
  apply numberFree_sortedObject
  intro x hx
  unfold manifestMembers at hx
  rcases List.mem_append.mp hx with hx | hx
  · split at hx <;> split at hx <;> simp at hx <;> rcases hx with rfl | rfl <;> rfl
  · obtain ⟨e, -, rfl⟩ := List.mem_map.mp hx
    apply numberFree_sortedObject
    intro y hy
    obtain ⟨z, -, rfl⟩ := List.mem_map.mp hy
    rfl

/-- A storable manifest reads back from its text. -/
theorem Manifest.Storable.parse_toText : Manifest.parse m.toText = .ok m := by
  have read : readFirst m.toText = .ok m.toValue := readFirst_write Manifest.numberFree_toValue
  have shape : m.toValue = .null ∨ ∃ ms, m.toValue = .object ms := by
    rw [toValue_eq_sortedObject, sortedObject_eq_memberTable]
    exact .inr ⟨_, rfl⟩
  have parsed := (Manifest.parse_eq_ok_iff _ _).mpr
    ⟨_, read, shape, (ofValue_eq_ok_iff _ _).mpr ⟨h.document.2, rfl⟩⟩
  obtain ⟨name, version, groups⟩ := Manifest.parse_content parsed read
  rw [parsed]
  apply congrArg Except.ok
  apply Manifest.eq_of_group? (name.trans h.textMember_name) (version.trans h.textMember_version)
  intro g
  rw [groups g]
  split
  · exact h.groupTable?_toValue ‹_›
  · -- a group that is not known is not in the manifest
    rename_i hg
    rw [Manifest.group?, Table.get?_eq_lookupKeyed]
    symm
    apply lookupKeyed_eq_none
    intro e he hek
    exact hg ((Group.name_mem_knownGroupNames_iff g).mp (hek ▸ h.known e he))

end Members

/-- Every manifest read from a text is storable. -/
theorem Manifest.parse_storable {d : String} {m : Manifest} (h : Manifest.parse d = .ok m) :
    m.Storable := by
  obtain ⟨v, hv, -, read⟩ := (Manifest.parse_eq_ok_iff d m).mp h
  have accepted := ((ofValue_eq_ok_iff v m).mp read).1
  obtain ⟨-, -, groups⟩ := Manifest.parse_content h hv
  -- an entry of the manifest's groups is the table its document declares for a known group
  have entry : ∀ e ∈ m.deps.entries, (⟨e.1⟩ : Group) ∈ Group.known ∧
      groupTable? (objectTable v) ⟨e.1⟩ = some e.2 := by
    intro e he
    have found : m.group? ⟨e.1⟩ = some e.2 := by
      rw [Manifest.group?, Table.get?_eq_lookupKeyed]
      exact lookupKeyed_of_mem m.deps.sorted.nodup he
    rw [groups] at found
    split at found
    · exact ⟨‹_›, found⟩
    · cases found
  have declared : ∀ e ∈ m.deps.entries, ∃ ms, (objectTable v).get? e.1 = some (.object ms) ∧
      GroupAccepted (some (.object ms)) ∧
      e.2 = (objectTable (.object ms)).map fun x => Specifier.ofRaw (stringText x) := by
    intro e he
    obtain ⟨known, table⟩ := entry e he
    have hacc := accepted _ known
    unfold groupTable? at table
    split at table
    · rename_i ms hget
      simp only [Option.some.injEq] at table
      exact ⟨ms, hget, hget ▸ hacc, table.symm⟩
    · cases table
  refine ⟨fun e he => ?_, fun e he x hx => ?_, fun e he x hx => ?_⟩
  · exact (Group.name_mem_knownGroupNames_iff ⟨e.1⟩).mpr (entry e he).1
  · obtain ⟨ms, -, all, htable⟩ := declared e he
    rw [htable] at hx
    obtain ⟨y, hy, rfl⟩ := List.mem_map.mp hx
    exact (all y hy).2
  · obtain ⟨ms, -, -, htable⟩ := declared e he
    rw [htable] at hx
    obtain ⟨y, -, rfl⟩ := List.mem_map.mp hx
    simp only
    rw [Specifier.raw_ofRaw]

/-- A manifest that is storable reads back from its text as itself. Every manifest read
from a text is storable, so writing what was read and reading it again gives the same
text. -/
theorem Manifest.toText_round_trip :
    (∀ m : Manifest, m.Storable → Manifest.parse m.toText = .ok m) ∧
    (∀ d m, Manifest.parse d = .ok m →
      m.Storable ∧ (Manifest.parse m.toText).map Manifest.toText = .ok m.toText) := by
  refine ⟨fun m h => h.parse_toText, fun d m h => ?_⟩
  have storable := Manifest.parse_storable h
  refine ⟨storable, ?_⟩
  rw [storable.parse_toText]
  rfl

end DepLock
