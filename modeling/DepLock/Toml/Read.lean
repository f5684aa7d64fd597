import DepLock.Toml.Scalar
import DepLock.Toml.Token
/-!
# Reading configuration documents

`Toml.read` reads a document into a table, keeping for every key the line of its value
and the order keys were defined in (`Document`). It reads the tokens of the document
(`tokenize`) one by one: a table header makes its table current, a key/value pair
defines a key of the current table, a comment is skipped. A failure names the line,
the key being read (the current table and, inside a key's value, the key), and what
went wrong; when the tokens end at a fault, the failure is that fault, met in turn
after the tokens before it.

Tables are made as follows. A header `[a.b]` or a dotted key `a.b = v` creates the
missing tables on its way as *implicit* tables; an implicit table may later be defined
explicitly, once. A key may be defined once, except that a key whose value is an array
is replaced when defined again. An array-of-tables header `[[a]]` appends a new table
to the array at `a`, and keys are then defined in the last table of that array.

Inline tables `{ ... }` are defined like headers: their pairs are defined in the
document's tables under the key as they are read, so a pair that clashes fails there.
-/

set_option autoImplicit false

namespace DepLock.Toml

open DepLock.Text

/-- A failure to read a document. -/
structure Failure where
  line : Nat
  lastKey : String
  message : String
deriving Repr

/-- The text of a failure. -/
def Failure.text (f : Failure) : String :=
  if f.lastKey.isEmpty then "toml: line " ++ toString f.line ++ ": " ++ f.message
  else "toml: line " ++ toString f.line ++ " (last key " ++ quote f.lastKey ++ "): " ++ f.message

/-- What is kept of a key: the line of its value or header, and whether its value is an
array. -/
structure KeyInfo where
  line : Nat
  isArray : Bool
deriving Repr

/-- A read document: its top table, what is known of each key (by key text), and the
keys in the order they were defined. -/
structure Document where
  root : List (String × Value)
  keys : List (String × KeyInfo)
  ordered : List (List String)
deriving Repr

/-- A table of a document. -/
abbrev Table := List (String × Value)

/-- The state of reading: the tables so far, the keys of implicit tables, what is known
of each key, the keys in order, the current table and key, the line of the last key or
header read, and the tokens left with the fault that ended them. -/
structure State where
  root : Table := []
  implicit : List String := []
  keys : List (String × KeyInfo) := []
  ordered : List (List String) := []
  context : List String := []
  currentKey : String := ""
  keyLine : Nat := 0
  rest : List Token := []
  stop : Option Stop := none

/-- Reading: each step may fail. -/
abbrev ReadM := StateT State (Except Failure)

/-- The key being read, as failures name it: the current table, then the key as it
is. -/
def State.current (st : State) : String :=
  if st.currentKey.isEmpty then keyText st.context
  else if st.context.isEmpty then st.currentKey
  else keyText st.context ++ "." ++ st.currentKey

/-- Whether a key holds an array value. -/
def State.isArrayKey (st : State) (path : List String) : Bool :=
  ((st.keys.find? (·.1 == keyText path)).map (·.2.isArray)).getD false

/-- Fails at a line, naming the key being read. -/
def failAt {α : Type} (line : Nat) (message : String) : ReadM α := do
  let st ← get
  throw ⟨line, st.current, message⟩

/-- Fails at the line of the last key or header read. -/
def failAtKey {α : Type} (message : String) : ReadM α := do
  failAt (← get).keyLine message

/-- The next token; when none is left, the fault that ended them. -/
def nextToken : ReadM Token := do
  let st ← get
  match st.rest with
  | t :: more =>
    set { st with rest := more }
    pure t
  | [] =>
    match st.stop with
    | some s => failAt s.line s.message
    | none => failAtKey "unexpected EOF"

/-- The next token, the first of a key or header: failures about keys name its line. -/
def nextKeyToken : ReadM Token := do
  let t ← nextToken
  modify fun st => { st with keyLine := t.line }
  pure t

/-- Records the line and kind of a key of the current table, or of the current table
itself for the empty key. -/
def setKind (key : String) (isArray : Bool) (line : Nat) : ReadM Unit := modify fun st =>
  let path := if key.isEmpty then st.context else st.context ++ [key]
  let k := keyText (if path.isEmpty then [""] else path)
  { st with keys := (k, ⟨line, isArray⟩) :: st.keys.filter (·.1 != k) }

/-- Marks a table as implicit. -/
def addImplicit (path : List String) : ReadM Unit :=
  modify fun st => { st with implicit := keyText path :: st.implicit }

/-! ## Tables -/

/-- The table a value opens: a table, or the last table of an array of tables. -/
def subTable? : Value → Option Table
  | .table t => some t
  | .tables ts => ts.getLast?
  | _ => none

/-- A value with the table it opens replaced. -/
def withSubTable (old : Value) (t : Table) : Value :=
  match old with
  | .tables ts => .tables (ts.dropLast ++ [t])
  | _ => .table t

/-- Applies `f` to the table at a path; a step that opens no table fails with the path
up to it. -/
def updateAt {α : Type} (f : Table → Except (List String) (Table × α)) :
    List String → List String → Table → Except (List String) (Table × α)
  | [], _, t => f t
  | k :: rest, seen, t =>
    match lookup k t with
    | some v =>
      match subTable? v with
      | some sub => do
        let (sub', a) ← updateAt f rest (seen ++ [k]) sub
        pure (upsert k (withSubTable v sub') t, a)
      | none => .error (seen ++ [k])
    | none => .error (seen ++ [k])

/-- Creates the tables on a path that are missing; gives the paths created. A step
that opens no table fails with the path up to it. -/
def createTables : List String → List String → Table → Except (List String) (Table × List (List String))
  | [], _, t => .ok (t, [])
  | k :: rest, seen, t =>
    let path := seen ++ [k]
    let (v, made) := match lookup k t with
      | some v => (v, [])
      | none => (Value.table [], [path])
    match subTable? v with
    | some sub => do
      let (sub', more) ← createTables rest path sub
      pure (upsert k (withSubTable v sub') t, made ++ more)
    | none => .error path

/-- Defines a key of the current table. A key already there may be defined again only
when it holds an array (the value is replaced) or is an implicit table (the table is
kept and is no longer implicit). -/
def setValue (key : String) (v : Value) : ReadM Unit := do
  let st ← get
  let path := st.context ++ [key]
  let replace := st.isArrayKey path
  let keep := st.implicit.contains (keyText path)
  let place (t : Table) : Except (List String) (Table × Bool) :=
    match lookup key t with
    | some _ =>
      if replace then .ok (upsert key v t, true)
      else if keep then .ok (t, true)
      else .error path
    | none => .ok (t ++ [(key, v)], false)
  match updateAt place st.context [] st.root with
  | .error p => failAtKey ("Key '" ++ keyText p ++ "' has already been defined.")
  | .ok (root, existed) =>
    set { st with root, implicit := if existed then st.implicit.filter (· != keyText path) else st.implicit }

/-- Makes a table, or a new table at the end of an array of tables, the current table;
the tables on its way are created as implicit tables. -/
def openTable (key : List String) (array : Bool) : ReadM Unit := do
  let st ← get
  let parents := key.dropLast
  let last := key.getLast?.getD ""
  match createTables parents [] st.root with
  | .error p => failAtKey ("Key '" ++ keyText p ++ "' was already created as a hash.")
  | .ok (root, made) =>
    set { st with root, implicit := made.map keyText ++ st.implicit, context := parents }
    if array then
      let st ← get
      let append (t : Table) : Except (List String) (Table × Unit) :=
        match lookup last t with
        | none => .ok (upsert last (.tables [[]]) t, ())
        | some (.tables ts) => .ok (upsert last (.tables (ts ++ [[]])) t, ())
        | some _ => .error key
      match updateAt append parents [] st.root with
      | .ok (root, ()) => set { st with root }
      | .error _ =>
        failAtKey ("Key '" ++ keyText key ++ "' was already created and cannot be used as an array.")
    else setValue last (.table [])
    modify fun st => { st with context := key }

/-- Makes the table of a dotted key's prefix current, as an implicit table. -/
def openImplicit (path : List String) : ReadM Unit := do
  addImplicit path
  openTable path false

/-- Sets a key under a path of an inline table being built; none when the path runs
into a value that is not a table. -/
def insertPath (parents : List String) (k : String) (v : Value) (t : Table) : Option Table :=
  match parents with
  | [] => some (upsert k v t)
  | p :: rest =>
    match lookup p t with
    | none => (insertPath rest k v []).map fun sub => t ++ [(p, .table sub)]
    | some (.table sub) => (insertPath rest k v sub).map fun sub' => upsert p (.table sub') t
    | some _ => none

/-! ## Values -/

/-- The text of a string token, escapes decoded; none for other tokens. -/
def stringOf (t : Token) : ReadM (Option String) :=
  let decoded (r : Except String String) : ReadM (Option String) :=
    match r with
    | .ok s => pure (some s)
    | .error m => failAt t.line m
  match t.kind with
  | .string | .rawString => pure (some t.text)
  | .escapedString => decoded (readBasic t.text)
  | .multilineString => decoded (readMultilineBasic t.text)
  | .rawMultilineString => pure (some (readMultilineLiteral t.text))
  | _ => pure none

/-- A part of a key or table name. -/
def keyPartOf (t : Token) : ReadM String :=
  if t.kind == .text then pure t.text
  else do
    match ← stringOf t with
    | some s => pure s
    | none => failAt t.line "Unexpected key type"

/-- Reads the parts of a key or table name, from its first token to the token of kind
`stop`. -/
def readKey (stop : TokenKind) : Nat → Token → ReadM (List String)
  | 0, _ => failAtKey "unexpected EOF"
  | fuel + 1, t =>
    if t.kind == stop then pure []
    else do
      let part ← keyPartOf t
      let more ← readKey stop fuel (← nextToken)
      pure (part :: more)

/-- A scalar value read from a token's text, or the failure at the token's line. -/
def scalar {α : Type} (t : Token) (r : Except String α) (wrap : α → Value) : ReadM (Value × Bool) :=
  match r with
  | .ok a => pure (wrap a, false)
  | .error m => failAt t.line m

mutual

/-- Reads the value that starts with a token; gives it and whether it is an array.
`inArray` tells that it is an element of an array. -/
def readValue : Nat → Token → Bool → ReadM (Value × Bool)
  | 0, _, _ => failAtKey "unexpected EOF"
  | fuel + 1, t, inArray =>
    match t.kind with
    | .integer => scalar t (readInteger t.text) .integer
    | .float => scalar t (readFloat t.text) .float
    | .bool => pure (.bool (t.text == "true"), false)
    | .datetime => scalar t (readDateTime t.text) .datetime
    | .arrayStart => do
      setKind (← get).currentKey true t.line
      let items ← readArray fuel []
      pure (.array items, true)
    | .inlineTableStart => do
      let entries ← readInline fuel inArray
      pure (.table entries, false)
    | _ => do
      match ← stringOf t with
      | some s => pure (.string s, false)
      | none => failAt t.line "Unexpected value type"

/-- Reads the elements of an array up to its end. -/
def readArray : Nat → List Value → ReadM (List Value)
  | 0, _ => failAtKey "unexpected EOF"
  | fuel + 1, acc => do
    let t ← nextToken
    if t.kind == .arrayEnd then pure acc.reverse
    else if t.kind == .commentStart then
      let _ ← nextToken
      readArray fuel acc
    else
      let (v, _) ← readValue fuel t true
      readArray fuel (v :: acc)

/-- Reads an inline table: opens it as the table of the current key (a new table of an
array of tables inside an array), reads its pairs, and restores the current table. -/
def readInline : Nat → Bool → ReadM Table
  | 0, _ => failAtKey "unexpected EOF"
  | fuel + 1, inArray => do
    let st ← get
    let outerContext := st.context
    let outerKey := st.currentKey
    let context := st.context ++ [st.currentKey]
    set { st with context, currentKey := "" }
    addImplicit context
    openTable context inArray
    let entries ← readPairs fuel []
    modify fun st => { st with context := outerContext, currentKey := outerKey }
    pure entries

/-- Reads the pairs of an inline table up to its end, onto the table built so far. -/
def readPairs : Nat → Table → ReadM Table
  | 0, _ => failAtKey "unexpected EOF"
  | fuel + 1, acc => do
    let t ← nextToken
    if t.kind == .inlineTableEnd then pure acc
    else if t.kind == .commentStart then
      let _ ← nextToken
      readPairs fuel acc
    else
      let prev := (← get).context
      let key ← readKey .keyEnd fuel (← nextKeyToken)
      let last := key.getLast?.getD ""
      modify fun st => { st with currentKey := last }
      for part in key.dropLast do
        openImplicit ((← get).context ++ [part])
      modify fun st => { st with ordered := st.ordered ++ [st.context ++ [last]] }
      let (v, isArray) ← readValue fuel (← nextToken) false
      setValue last v
      setKind last isArray t.line
      let acc ← match insertPath key.dropLast last v acc with
        | some acc => pure acc
        | none => failAtKey (quote (keyText (← get).context) ++ " is not a table")
      modify fun st => { st with context := prev }
      readPairs fuel acc

end

/-! ## Documents -/

/-- Reads a top-level item that starts with a token: a comment, a table header, an
array-of-tables header or a key/value pair. -/
def readItem (fuel : Nat) (t : Token) : ReadM Unit :=
  match t.kind with
  | .commentStart => do
    let _ ← nextToken
  | .tableStart | .arrayTableStart => do
    let array := t.kind == .arrayTableStart
    let key ← readKey (if array then .arrayTableEnd else .tableEnd) fuel (← nextKeyToken)
    openTable key array
    setKind "" false t.line
    modify fun st => { st with ordered := st.ordered ++ [key] }
  | .keyStart => do
    let outer := (← get).context
    let key ← readKey .keyEnd fuel (← nextKeyToken)
    let last := key.getLast?.getD ""
    modify fun st => { st with currentKey := last }
    for part in key.dropLast do
      openImplicit ((← get).context ++ [part])
    modify fun st => { st with ordered := st.ordered ++ [st.context ++ [last]] }
    let vt ← nextToken
    let (v, isArray) ← readValue fuel vt false
    setValue last v
    setKind last isArray vt.line
    modify fun st => { st with context := outer, currentKey := "" }
  | _ => failAt t.line "Unexpected token"

/-- Reads the top-level items, at most `count` of them; `fuel` bounds the reading of
each. -/
def readItems (fuel : Nat) : Nat → ReadM Unit
  | 0 => pure ()
  | count + 1 => do
    let st ← get
    match st.rest, st.stop with
    | [], none => pure ()
    | [], some s => failAt s.line s.message
    | _, _ =>
      readItem fuel (← nextToken)
      readItems fuel count

/-- Reads a configuration document. A leading byte order mark is skipped; a NUL byte
among the first six bytes is refused, as the mark of a document in UTF-16. -/
def read (text : String) : Except Failure Document :=
  let cs := match text.toList with
    | '\uFEFF' :: rest => rest
    | cs => cs
  if ((String.ofList cs).toUTF8.toList.take 6).contains 0 then
    .error ⟨1, "", "files cannot contain NULL bytes; probably using UTF-16; TOML files must be UTF-8"⟩
  else
    let found := tokenize (String.ofList cs)
    let n := found.tokens.length
    match (readItems (2 * n + 4) (n + 1)).run { rest := found.tokens, stop := found.stop } with
    | .ok ((), st) => .ok ⟨st.root, st.keys, st.ordered⟩
    | .error f => .error f

end DepLock.Toml
