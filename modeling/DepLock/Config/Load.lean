import DepLock.Config.Basic
import DepLock.Toml.Read
import DepLock.Json.Decode
/-!
# Loading settings

`Config.load` reads a configuration document over the built-in settings, applies the
environment, and validates the result.

Reading walks the document's top table in the order keys were defined. A key names a
section, matched exactly or else ignoring case; a section must be a table, and each of
its keys names a setting in the same way. Text settings take strings, the depth limit
takes integers and the development switch takes booleans. The cache lifetime takes
any plain value written as text (an integer as decimal digits, a float with six
decimals, a date-time in RFC 3339) and reads that text as a duration.

Every key that named a section or a setting is *decoded*. A document with keys left
over (defined keys that were not decoded, in the order they were defined) is refused
and the failure lists them.
-/

set_option autoImplicit false

namespace DepLock.Config

open DepLock.Toml

/-- The start of a failure's text at a key: its line when the key has one. -/
def keyPrefix (doc : Document) (path : List String) : String :=
  let k := keyText path
  let line := ((doc.keys.find? (·.1 == k)).map (·.2.line)).getD 0
  if path.isEmpty then "toml: "
  else if line > 0 then "toml: line " ++ toString line ++ " (last key " ++ Text.quote k ++ "): "
  else "toml: (last key " ++ Text.quote k ++ "): "

/-- The failure of a value whose kind the setting cannot take. -/
def mismatchText (doc : Document) (path : List String) (wanted : String) (v : Value) : String :=
  keyPrefix doc path ++ "incompatible types: TOML value has type " ++ v.typeName ++
    "; destination has type " ++ wanted

/-- The text a plain value gives where text is wanted: a string as it is, a boolean
and an integer as written, a float with six decimals, a date-time in RFC 3339. A
date-time whose offset has 24 hours or more has no such text and fails. -/
def textOf : Value → Option (Except String String)
  | .string s => some (.ok s)
  | .integer n => some (.ok (toString n))
  | .float d => some (.ok (d.fixed 6))
  | .bool b => some (.ok (if b then "true" else "false"))
  | .datetime t =>
    some ((t.checkWritable.mapError ("Time.MarshalText: " ++ ·)).map fun () => t.text)
  | _ => none

/-- How a setting is read: from its key path and value, the change it makes and the
keys it decoded below it. -/
abbrev FieldReader (σ : Type) := List String → Value → Except String ((σ → σ) × List String)

/-- The reader for a key among named readers: the one named exactly, else the first
whose name equals the key ignoring case. -/
def readerFor {σ : Type} (fields : List (String × FieldReader σ)) (k : String) : Option (FieldReader σ) :=
  match fields.find? (·.1 == k) with
  | some (_, r) => some r
  | none => (fields.find? (Json.sameNameFolded ·.1 k)).map (·.2)

/-- Reads the entries of a table with named readers, in order; gives the combined
change and the keys decoded. -/
def readEntries {σ : Type} (fields : List (String × FieldReader σ)) (path : List String)
    (entries : List (String × Value)) : Except String ((σ → σ) × List String) :=
  entries.foldlM (fun (acc : (σ → σ) × List String) (k, v) =>
    match readerFor fields k with
    | none => pure acc
    | some r => do
      let (change, marks) ← r (path ++ [k]) v
      pure (change ∘ acc.1, acc.2 ++ [keyText (path ++ [k])] ++ marks)) (id, [])

/-- A text setting. -/
def textField {σ : Type} (doc : Document) (set : σ → String → σ) : FieldReader σ := fun path v =>
  match v with
  | .string s => .ok ((set · s), [])
  | other => .error (mismatchText doc path "string" other)

/-- An integer setting. -/
def intField {σ : Type} (doc : Document) (set : σ → Int → σ) : FieldReader σ := fun path v =>
  match v with
  | .integer n => .ok ((set · n), [])
  | other => .error (mismatchText doc path "integer" other)

/-- A boolean setting. -/
def boolField {σ : Type} (doc : Document) (set : σ → Bool → σ) : FieldReader σ := fun path v =>
  match v with
  | .bool b => .ok ((set · b), [])
  | other => .error (mismatchText doc path "boolean" other)

/-- A duration setting, read from the text of a plain value. -/
def durationField {σ : Type} (doc : Document) (set : σ → Duration → σ) : FieldReader σ := fun path v =>
  match textOf v with
  | some (.error m) => .error m
  | some (.ok text) =>
    match Duration.parse text with
    | .ok d => .ok ((set · d), [])
    | .error m =>
      let k := keyText path
      let line := ((doc.keys.find? (·.1 == k)).map (·.2.line)).getD 0
      .error ("toml: line " ++ toString line ++ " (last key " ++ Text.quote k ++ "): " ++ m)
  | none => .error (mismatchText doc path "primitive (string-like)" v)

/-- A section: a table whose keys are read by `fields`; `typeName` names it in the
failure for a value that is not a table. -/
def sectionField {τ : Type} (doc : Document) (typeName : String) (fields : List (String × FieldReader τ))
    (set : Settings → (τ → τ) → Settings) : FieldReader Settings := fun path v =>
  match v with
  | .table entries => do
    let (change, marks) ← readEntries fields path entries
    pure ((set · change), marks)
  | other => .error (keyPrefix doc path ++ "type mismatch for " ++ typeName ++
      ": expected table but found " ++ other.typeName)

/-- The sections and their settings. -/
def sections (doc : Document) : List (String × FieldReader Settings) :=
  [("registry", sectionField doc "config.RegistryConfig"
      [("url", textField doc fun (r : RegistrySettings) s => { r with url := s })]
      fun c f => { c with registry := f c.registry }),
   ("github", sectionField doc "config.GitHubConfig"
      [("api_url", textField doc fun (g : HostSettings) s => { g with apiUrl := s }),
       ("token", textField doc fun (g : HostSettings) s => { g with token := s })]
      fun c f => { c with github := f c.github }),
   ("cache", sectionField doc "config.CacheConfig"
      [("backend", textField doc fun (k : CacheSettings) s => { k with backend := s }),
       ("dir", textField doc fun (k : CacheSettings) s => { k with dir := s }),
       ("ttl", durationField doc fun (k : CacheSettings) d => { k with ttl := d }),
       ("redis_url", textField doc fun (k : CacheSettings) s => { k with redisUrl := s })]
      fun c f => { c with cache := f c.cache }),
   ("lock", sectionField doc "config.LockConfig"
      [("store", textField doc fun (l : LockSettings) s => { l with store := s }),
       ("dir", textField doc fun (l : LockSettings) s => { l with dir := s }),
       ("mongo_uri", textField doc fun (l : LockSettings) s => { l with mongoUri := s }),
       ("mongo_database", textField doc fun (l : LockSettings) s => { l with mongoDatabase := s }),
       ("mongo_collection", textField doc fun (l : LockSettings) s => { l with mongoCollection := s })]
      fun c f => { c with lock := f c.lock }),
   ("resolve", sectionField doc "config.ResolveConfig"
      [("max_depth", intField doc fun (r : ResolveSettings) n => { r with maxDepth := n }),
       ("omit_dev", boolField doc fun (r : ResolveSettings) b => { r with omitDev := b })]
      fun c f => { c with resolve := f c.resolve }),
   ("server", sectionField doc "config.ServerConfig"
      [("addr", textField doc fun (s : ServerSettings) a => { s with addr := a })]
      fun c f => { c with server := f c.server })]

/-- Reads a document over settings: the settings and the keys left over. -/
def Settings.decode (c : Settings) (doc : Document) : Except String (Settings × List String) := do
  let (change, marks) ← readEntries (sections doc) [] doc.root
  let leftOver := (doc.ordered.map keyText).filter (!marks.contains ·)
  pure (change c, leftOver)

/-- Reads the configuration file at `path` over settings; `content` is the file's
text, none when there is no such file. -/
def Settings.readFile (c : Settings) (path : String) (content : Option String) : Except Error Settings :=
  match content with
  | none =>
    .error (.wrap .fileNotFound (.plain ("open " ++ path ++ ": no such file or directory"))
      ("config " ++ path))
  | some text =>
    match Toml.read text with
    | .error f => .error (.wrap .invalidConfig (.plain f.text) ("parse " ++ path))
    | .ok doc =>
      match c.decode doc with
      | .error m => .error (.wrap .invalidConfig (.plain m) ("parse " ++ path))
      | .ok (c, []) => .ok c
      | .ok (_, keys) =>
        .error (.make .invalidConfig (path ++ ": unknown keys " ++ ", ".intercalate keys))

/-- Loads settings: the built-in ones, the configuration file over them, then the
environment; the result is validated. -/
def load (path : String) (content : Option String) (getenv : String → String) : Except Error Settings := do
  let c ← Settings.defaults.readFile path content
  let c := c.applyEnv getenv
  c.validate
  pure c

end DepLock.Config
