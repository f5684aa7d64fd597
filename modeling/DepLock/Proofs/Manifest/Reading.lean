import DepLock.Proofs.Tree.Document
import DepLock.Manifest.Document
/-!
# What a manifest is read from

`Manifest.parse` reads the first value of a text and looks at nothing after it. It takes
that value when it is `null` or an object whose known groups are each absent, `null`, or
an object of texts under names that pass `checkPackageName` (`ManifestDocument`). The
manifest has then the texts of the object's `name` and `version` members, and exactly the
known groups that are objects, each mapping its names to the specifiers of their texts
(`groupTable?`). Every failure is `INVALID_MANIFEST`, of one of three shapes
(`ManifestRefusal`), none of which holds a signal of a remote service.

`Manifest.parse_first_value` states the three together. The reading works through a loop
over the known groups, which is a fold (`ofValue_eq_foldlM`) whose step succeeds exactly on
an accepted group (`groupStep_eq_ok_iff`); a fold of that kind succeeds exactly when every
step does (`foldlM_eq_ok_iff`).
-/

set_option autoImplicit false

namespace DepLock

open DepLock.Json

/-! ## Loops and folds that may fail -/

section Folds

variable {ε α β : Type}

/-- A fold whose step succeeds exactly on good elements, each time with the pure step's
result, succeeds exactly when every element is good, and ends where the pure fold ends. -/
theorem foldlM_eq_ok_iff {f : β → α → Except ε β} {next : β → α → β} {good : α → Prop}
    (ok : ∀ acc x, good x → f acc x = .ok (next acc x))
    (bad : ∀ acc x r, f acc x = .ok r → good x) (xs : List α) (acc r : β) :
    xs.foldlM f acc = .ok r ↔ (∀ x ∈ xs, good x) ∧ r = xs.foldl next acc := by
  induction xs generalizing acc with
  | nil =>
    simp only [List.foldlM_nil, List.not_mem_nil, false_imp_iff, implies_true, List.foldl_nil,
      true_and, pure, Except.pure, Except.ok.injEq]
    exact eq_comm
  | cons x rest ih =>
    rw [List.foldlM_cons, List.forall_mem_cons, List.foldl_cons]
    constructor
    · intro h
      cases hx : f acc x with
      | error e =>
        rw [hx] at h
        cases h
      | ok mid =>
        have gx := bad acc x mid hx
        rw [ok acc x gx] at hx
        cases hx
        rw [ok acc x gx] at h
        obtain ⟨all, rfl⟩ := (ih (next acc x)).mp h
        exact ⟨⟨gx, all⟩, rfl⟩
    · rintro ⟨⟨gx, all⟩, rfl⟩
      rw [ok acc x gx]
      exact (ih (next acc x)).mpr ⟨all, rfl⟩

/-- Every error of a fold is the error of one of its steps. -/
theorem foldlM_error_of_step {f : β → α → Except ε β} {P : ε → Prop}
    (h : ∀ acc x e, f acc x = .error e → P e) (xs : List α) (acc : β) {e : ε}
    (he : xs.foldlM f acc = .error e) : P e := by
  induction xs generalizing acc with
  | nil => cases he
  | cons x rest ih =>
    rw [List.foldlM_cons] at he
    cases hx : f acc x with
    | error e' =>
      rw [hx] at he
      cases he
      exact h acc x _ hx
    | ok mid =>
      rw [hx] at he
      exact ih mid he

end Folds

/-! ## Tables of documents -/

/-- Inserting into a table one element after another inserts into its entries the same way. -/
theorem Table.foldl_insert_entries {α β : Type} (xs : List β) (key : β → String) (val : β → α)
    (t : Table α) :
    (xs.foldl (fun t x => t.insert (key x) (val x)) t).entries =
      (xs.map fun x => (key x, val x)).foldl (fun acc e => insertKeyed e.1 e.2 acc) t.entries := by
  induction xs generalizing t with
  | nil => rfl
  | cons x rest ih =>
    rw [List.foldl_cons, ih]
    simp [Table.insert, Table.insertEntry_eq_insertKeyed]

/-- The table of an object is its members in key order, the last of equal names winning. -/
theorem objectTable_entries (v : Value) : (objectTable v).entries = memberTable v.members := by
  rw [objectTable, Table.ofList, Table.foldl_insert_entries v.members Prod.fst Prod.snd,
    memberTable_eq_foldl]
  simp [Table.empty]

/-! ## What a document declares -/

/-- The text of a string value, and the empty text of any other. -/
def stringText : Value → String
  | .string s => s
  | _ => ""

/-- The text of a member, when it is a string, and the empty text otherwise. -/
def textMember (t : Table Value) (k : String) : String :=
  match t.get? k with
  | some (.string s) => s
  | _ => ""

/-- The table a document declares for a group: when the group's member is an object, the
specifier of the text under each of its names, the last of equal names winning. -/
def groupTable? (t : Table Value) (g : Group) : Option (Table Specifier) :=
  match t.get? g.name with
  | some (.object ms) => some ((objectTable (.object ms)).map fun v => Specifier.ofRaw (stringText v))
  | _ => none

/-- A member that a known group may have: none, `null`, or an object whose members, the
last of equal names winning, are texts under names that pass `checkPackageName`. -/
def GroupAccepted : Option Value → Prop
  | none => True
  | some .null => True
  | some (.object ms) => ∀ e ∈ (objectTable (.object ms)).entries,
      (∃ s, e.2 = .string s) ∧ checkPackageName e.1 = .ok ()
  | some _ => False

/-- A document a manifest is read from: `null`, or an object whose known groups are all
accepted. -/
def ManifestDocument (v : Value) : Prop :=
  (v = .null ∨ ∃ ms, v = .object ms) ∧ ∀ g ∈ Group.known, GroupAccepted ((objectTable v).get? g.name)

/-! ## Reading a group -/

/-- A group reads exactly when its value is an accepted object, and then as the specifiers
of its texts. -/
theorem readGroup_eq_ok_iff (g : Group) (v : Value) (table : Table Specifier) :
    readGroup g v = .ok table ↔ (∃ ms, v = .object ms) ∧ GroupAccepted (some v) ∧
      table = (objectTable v).map fun v => Specifier.ofRaw (stringText v) := by
  cases v
  case object ms =>
    unfold readGroup
    -- each member inserts the specifier of its text, so the table is the object's, mapped
    rw [@foldlM_eq_ok_iff _ _ _ _ (fun acc e => acc.insert e.1 (Specifier.ofRaw (stringText e.2)))
      (fun e => (∃ s, e.2 = .string s) ∧ checkPackageName e.1 = .ok ())]
    · have sorted := ((objectTable (.object ms)).map fun v => Specifier.ofRaw (stringText v)).sorted
      have built : ((objectTable (.object ms)).entries.foldl
          (fun acc e => acc.insert e.1 (Specifier.ofRaw (stringText e.2))) Table.empty).entries =
          ((objectTable (.object ms)).map fun v => Specifier.ofRaw (stringText v)).entries := by
        simp only [Table.foldl_insert_entries, Table.empty]
        rw [foldl_insertKeyed_of_sorted [] _ (by rw [List.nil_append]; exact sorted), List.nil_append]
        rfl
      constructor
      · rintro ⟨all, rfl⟩
        exact ⟨⟨ms, rfl⟩, all, Table.ext_entries built⟩
      · rintro ⟨-, all, rfl⟩
        exact ⟨all, (Table.ext_entries built).symm⟩
    · rintro acc ⟨name, _⟩ ⟨⟨s, rfl⟩, hname⟩
      simp [hname, stringText, pure, Except.pure]
    · rintro acc ⟨name, spec⟩ r h
      cases spec
      case string s =>
        cases hname : checkPackageName name with
        | ok u => exact ⟨⟨s, rfl⟩, rfl⟩
        | error e => simp [hname] at h
      all_goals cases h
  all_goals simp [readGroup, GroupAccepted]

/-- The refusals of reading a manifest: one of the reader's own, one around a dependency name
that `checkPackageName` refuses, or one around the reason the text holds no object. -/
def ManifestRefusal (e : Error) : Prop :=
  (∃ m, e = .make .invalidManifest m) ∨
    (∃ m m', e = .wrap .invalidManifest (.make .invalidPackage m') m) ∨
    ∃ msg, e = .wrap .invalidManifest (.plain msg) "manifest is not a JSON object"

/-- Every refusal of a manifest is coded INVALID_MANIFEST. -/
theorem ManifestRefusal.code_eq {e : Error} (h : ManifestRefusal e) :
    e.code? = some .invalidManifest := by
  rcases h with ⟨m, rfl⟩ | ⟨m, m', rfl⟩ | ⟨msg, rfl⟩ <;> rfl

/-- A refusal of reading holds no rate-limit signal. -/
theorem ManifestRefusal.rateLimit_eq {e : Error} (h : ManifestRefusal e) : e.rateLimit? = none := by
  rcases h with ⟨m, rfl⟩ | ⟨m, m', rfl⟩ | ⟨msg, rfl⟩ <;> rfl

/-- A refused package name fails with INVALID_PACKAGE. -/
theorem checkPackageName_error {name : String} {e : Error} (h : checkPackageName name = .error e) :
    ∃ m, e = .make .invalidPackage m := by
  unfold checkPackageName at h
  split at h
  · cases h
    exact ⟨_, rfl⟩
  split at h
  · cases h
    exact ⟨_, rfl⟩
  split at h
  · cases h
    exact ⟨_, rfl⟩
  split at h
  · cases h
    exact ⟨_, rfl⟩
  · cases h

/-- Every failure to read a group is a refusal of the manifest. -/
theorem readGroup_error_refusal {g : Group} {v : Value} {e : Error} (h : readGroup g v = .error e) :
    ManifestRefusal e := by
  cases v
  case object ms =>
    dsimp only [readGroup] at h
    refine foldlM_error_of_step (P := ManifestRefusal) (fun acc x e he => ?_) _ _ h
    obtain ⟨name, spec⟩ := x
    cases spec
    case string s =>
      cases hname : checkPackageName name with
      | ok u => simp [hname, pure, Except.pure] at he
      | error c =>
        simp only [hname] at he
        cases he
        obtain ⟨m', rfl⟩ := checkPackageName_error hname
        exact .inr (.inl ⟨_, _, rfl⟩)
    all_goals
      cases he
      exact .inl ⟨_, rfl⟩
  all_goals
    cases h
    exact .inl ⟨_, rfl⟩

/-! ## Reading the groups of a document -/

/-- What reading a document does for one known group. -/
def groupStep (t : Table Value) (m : Manifest) (g : Group) : Except Error Manifest :=
  match t.get? g.name with
  | none => pure m
  | some .null => pure m
  | some v => do
    let group ← readGroup g v
    pure { m with deps := m.deps.insert g.name group }

/-- What reading a document leaves for one accepted group: the table it declares, if any. -/
def groupNext (t : Table Value) (m : Manifest) (g : Group) : Manifest :=
  { m with deps :=
      match groupTable? t g with
      | none => m.deps
      | some table => m.deps.insert g.name table }

/-- Reading a manifest from its document reads the known groups one after another into the
manifest of its name and version. -/
theorem ofValue_eq_foldlM (doc : Value) :
    Manifest.ofValue doc = Group.known.foldlM (groupStep (objectTable doc))
      (Manifest.new (textMember (objectTable doc) "name") (textMember (objectTable doc) "version")) := by
  unfold Manifest.ofValue
  simp only [bind_pure]
  refine forIn_eq_foldlM _ _ _ (fun g _ m => ?_) _
  unfold groupStep
  rcases (objectTable doc).get? g.name with _ | v
  · rfl
  · cases v
    case object ms =>
      dsimp only
      cases readGroup g (.object ms) <;> rfl
    all_goals rfl

/-- Reading one group succeeds exactly when the group is accepted, and then adds the table
it declares. -/
theorem groupStep_eq_ok_iff (t : Table Value) (m r : Manifest) (g : Group) :
    groupStep t m g = .ok r ↔ GroupAccepted (t.get? g.name) ∧ r = groupNext t m g := by
  unfold groupStep groupNext groupTable?
  rcases t.get? g.name with _ | v
  · simp only [GroupAccepted, pure, Except.pure, Except.ok.injEq, true_and]
    exact eq_comm
  · cases v
    case null =>
      simp only [GroupAccepted, pure, Except.pure, Except.ok.injEq, true_and]
      exact eq_comm
    case object ms =>
      cases hread : readGroup g (.object ms) with
      | error e =>
        -- the group is refused, since reading it fails
        have refused : ¬ GroupAccepted (some (.object ms)) := fun all => by
          have := (readGroup_eq_ok_iff g _ _).mpr ⟨⟨ms, rfl⟩, all, rfl⟩
          rw [hread] at this
          cases this
        simp [hread, bind, Except.bind, refused]
      | ok table =>
        obtain ⟨-, all, rfl⟩ := (readGroup_eq_ok_iff g _ table).mp hread
        simp [hread, bind, Except.bind, pure, Except.pure, all, eq_comm]
    all_goals simp [readGroup, GroupAccepted, bind, Except.bind]

/-- A document reads as a manifest exactly when every known group is accepted, and the
manifest is its head with the tables of those groups. -/
theorem ofValue_eq_ok_iff (doc : Value) (m : Manifest) :
    Manifest.ofValue doc = .ok m ↔
      (∀ g ∈ Group.known, GroupAccepted ((objectTable doc).get? g.name)) ∧
      m = Group.known.foldl (groupNext (objectTable doc))
        (Manifest.new (textMember (objectTable doc) "name") (textMember (objectTable doc) "version")) := by
  rw [ofValue_eq_foldlM]
  exact foldlM_eq_ok_iff (fun acc g hg => (groupStep_eq_ok_iff _ acc _ g).mpr ⟨hg, rfl⟩)
    (fun acc g r h => ((groupStep_eq_ok_iff _ acc r g).mp h).1) _ _ _

/-- Every failure to read a manifest from its document is a refusal. -/
theorem ofValue_error_refusal {doc : Value} {e : Error} (h : Manifest.ofValue doc = .error e) :
    ManifestRefusal e := by
  rw [ofValue_eq_foldlM] at h
  refine foldlM_error_of_step (P := ManifestRefusal) (fun m g e he => ?_) _ _ h
  unfold groupStep at he
  split at he
  · cases he
  · cases he
  · cases hread : readGroup g _ with
    | error c =>
      rw [hread] at he
      cases he
      exact readGroup_error_refusal hread
    | ok table =>
      rw [hread] at he
      cases he

/-- The name and version of a manifest survive the reading of its groups. -/
theorem foldl_groupNext_head (t : Table Value) (gs : List Group) (m : Manifest) :
    (gs.foldl (groupNext t) m).name = m.name ∧ (gs.foldl (groupNext t) m).version = m.version := by
  induction gs generalizing m with
  | nil => exact ⟨rfl, rfl⟩
  | cons g rest ih => exact ih (groupNext t m g)

/-- Reading one accepted group inserts the table it declares into the groups. -/
theorem groupNext_deps (t : Table Value) (m : Manifest) (g : Group) :
    (groupNext t m g).deps.entries = insertGroup (groupTable? t) m.deps.entries g := by
  unfold groupNext insertGroup
  cases groupTable? t g with
  | none => rfl
  | some table => exact Table.insertEntry_eq_insertKeyed _ _ _

/-- Reading accepted groups one after another inserts the tables they declare into the
groups. -/
theorem foldl_groupNext_deps (t : Table Value) (gs : List Group) (m : Manifest) :
    (gs.foldl (groupNext t) m).deps.entries = gs.foldl (insertGroup (groupTable? t)) m.deps.entries := by
  induction gs generalizing m with
  | nil => rfl
  | cons g rest ih => rw [List.foldl_cons, List.foldl_cons, ih, groupNext_deps]

/-- Groups are told apart by their names. -/
theorem Group.name_injective : Function.Injective Group.name := by
  rintro ⟨a⟩ ⟨b⟩ h
  cases h
  rfl

/-- After reading the groups `gs`, a group has the table the document declares for it when
it is among them, and its old table otherwise. -/
theorem group?_foldl_groupNext (t : Table Value) (gs : List Group) (m : Manifest) (g : Group) :
    (gs.foldl (groupNext t) m).group? g =
      if g ∈ gs then (groupTable? t g).or (m.group? g) else m.group? g := by
  simp only [Manifest.group?, Table.get?_eq_lookupKeyed, foldl_groupNext_deps,
    lookupKeyed_foldl_insertGroup, List.mem_map_of_injective Group.name_injective]

/-! ## Reading texts -/

/-- A text reads as a manifest exactly when its first value is null or an object that reads
as the manifest. -/
theorem Manifest.parse_eq_ok_iff (d : String) (m : Manifest) :
    Manifest.parse d = .ok m ↔
      ∃ v, readFirst d = .ok v ∧ (v = .null ∨ ∃ ms, v = .object ms) ∧ Manifest.ofValue v = .ok m := by
  unfold Manifest.parse
  cases hv : readFirst d with
  | error e => simp
  | ok v =>
    cases v
    case null => simp
    case object ms => simp
    all_goals simp

/-- Every refusal of reading a text is one of the three kinds of `ManifestRefusal`. -/
theorem Manifest.parse_error_refusal {d : String} {e : Error} (h : Manifest.parse d = .error e) :
    ManifestRefusal e := by
  unfold Manifest.parse at h
  split at h
  · cases h
    exact .inr (.inr ⟨_, rfl⟩)
  · exact ofValue_error_refusal h
  · exact ofValue_error_refusal h
  · cases h
    exact .inr (.inr ⟨_, rfl⟩)

/-- Every failure to read a manifest is coded INVALID_MANIFEST. -/
theorem Manifest.parse_error_code {d : String} {e : Error} (h : Manifest.parse d = .error e) :
    e.code? = some .invalidManifest :=
  (Manifest.parse_error_refusal h).code_eq

/-- The manifest read from a text: its head from the document's members, and a group
exactly for each known group the document declares. -/
theorem Manifest.parse_content {d : String} {m : Manifest} {v : Value}
    (h : Manifest.parse d = .ok m) (hv : readFirst d = .ok v) :
    m.name = textMember (objectTable v) "name" ∧ m.version = textMember (objectTable v) "version" ∧
      ∀ g, m.group? g = if g ∈ Group.known then groupTable? (objectTable v) g else none := by
  obtain ⟨v', hv', -, read⟩ := (Manifest.parse_eq_ok_iff d m).mp h
  rw [hv] at hv'
  cases hv'
  obtain ⟨-, rfl⟩ := (ofValue_eq_ok_iff v _).mp read
  obtain ⟨name, version⟩ := foldl_groupNext_head (objectTable v) Group.known
    (Manifest.new (textMember (objectTable v) "name") (textMember (objectTable v) "version"))
  refine ⟨name, version, fun g => ?_⟩
  rw [group?_foldl_groupNext]
  split <;> simp [Manifest.new, Manifest.group?, Table.get?, Table.empty]

/-- Reading a manifest takes the first value of the text and looks at nothing after it.
It succeeds exactly when that value is `null` or an object whose known groups are each
absent, `null`, or an object of texts under names that pass the check; the manifest then
holds the `name` and `version` texts and exactly the known groups that are objects, each
with the specifiers of its texts. Every failure is `INVALID_MANIFEST`. -/
theorem Manifest.parse_first_value (d : String) :
    ((∃ m, Manifest.parse d = .ok m) ↔ ∃ v, readFirst d = .ok v ∧ ManifestDocument v) ∧
    (∀ m v, Manifest.parse d = .ok m → readFirst d = .ok v →
      m.name = textMember (objectTable v) "name" ∧ m.version = textMember (objectTable v) "version" ∧
      ∀ g, m.group? g = if g ∈ Group.known then groupTable? (objectTable v) g else none) ∧
    (∀ e, Manifest.parse d = .error e → e.code? = some .invalidManifest) := by
  refine ⟨⟨?_, ?_⟩, fun m v h hv => ?_, fun e h => Manifest.parse_error_code h⟩
  · rintro ⟨m, h⟩
    obtain ⟨v, hv, shape, read⟩ := (Manifest.parse_eq_ok_iff d m).mp h
    exact ⟨v, hv, shape, ((ofValue_eq_ok_iff v m).mp read).1⟩
  · rintro ⟨v, hv, shape, accepted⟩
    exact ⟨_, (Manifest.parse_eq_ok_iff d _).mpr ⟨v, hv, shape, (ofValue_eq_ok_iff v _).mpr ⟨accepted, rfl⟩⟩⟩
  · exact Manifest.parse_content h hv

end DepLock
