import DepLock.Json.Value
import DepLock.Table
/-!
# Typed reading of document values

Reading a document into a typed record fails on the first value, in document order,
whose kind the record cannot hold. The failure (`Mismatch`) names the kind found, the
type wanted and the member names leading to the value; `Mismatch.message` writes it
the way the decoder of record types reports it, with the type wanted for a value at
the root and the dotted path below the root type's name for a value inside it.

A type that reads itself (a tree node, a time) fails with its own message, which is
passed on unchanged (`DecodeError.custom`).

`null` leaves a scalar as it was and empties a map; members of an object that no
field is named after are skipped, and a member name matches a field name without
regard to letter case when no field has exactly that name.
-/

set_option autoImplicit false

namespace DepLock.Json

/-- A value of a kind that the record cannot hold at that place. -/
structure Mismatch where
  found : String
  wanted : String
  path : List String
deriving Repr, DecidableEq

/-- The message of a mismatch, given the short name of the root type. -/
def Mismatch.message (rootName : String) (m : Mismatch) : String :=
  "json: cannot unmarshal " ++ m.found ++ " into Go " ++
    (if m.path.isEmpty then "value of type " ++ m.wanted
     else "struct field " ++ rootName ++ "." ++ ".".intercalate m.path ++ " of type " ++ m.wanted)

/-- Why a value could not be read: a kind that cannot be held, or the message of a
type that reads itself. -/
inductive DecodeError where
  | mismatch (m : Mismatch)
  | custom (message : String)
deriving Repr, DecidableEq

/-- The message of a reading failure, given the short name of the root type. -/
def DecodeError.message (rootName : String) : DecodeError → String
  | .mismatch m => m.message rootName
  | .custom msg => msg

/-- A reader of typed values: it is given the path of the value and the value. -/
abbrev Reader (α : Type) := List String → Value → Except DecodeError α

/-- Fails on a value of a kind that cannot be held. -/
def mismatch {α : Type} (wanted : String) (path : List String) (v : Value) : Except DecodeError α :=
  .error (.mismatch ⟨v.kindName, wanted, path⟩)

/-- Reads a string; `null` reads as nothing. -/
def readString : Reader (Option String) := fun path v =>
  match v with
  | .null => .ok none
  | .string s => .ok (some s)
  | _ => mismatch "string" path v

/-- The digits of a literal that is a whole number without fraction or exponent, with
its sign. -/
def wholeLiteral? (lit : String) : Option Int :=
  match lit.toList with
  | '-' :: ds => if !ds.isEmpty && ds.all Char.isDigit then some (-(String.ofList ds).toNat!) else none
  | ds => if !ds.isEmpty && ds.all Char.isDigit then some (String.ofList ds).toNat! else none

/-- Reads a 64-bit signed integer; a number that is not one is reported with its
literal. `null` reads as nothing. -/
def readInt (wanted : String) : Reader (Option Int) := fun path v =>
  match v with
  | .null => .ok none
  | .number lit =>
    match wholeLiteral? lit with
    | some n =>
      if -(Int.pow 2 63) ≤ n ∧ n < Int.pow 2 63 then .ok (some n)
      else .error (.mismatch ⟨"number " ++ lit, wanted, path⟩)
    | none => .error (.mismatch ⟨"number " ++ lit, wanted, path⟩)
  | _ => mismatch wanted path v

/-- Reads a map from names to values: `null` is the absent map, each member is read at
its own path (a `null` member reads as `zero`), and the last of equal names wins. -/
def readTable {α : Type} (wanted : String) (zero : α) (elem : Reader α) :
    Reader (Option (Table α)) := fun path v =>
  match v with
  | .null => .ok none
  | .object ms =>
    ms.foldlM (fun (acc : Option (Table α)) (k, x) => do
      let a ← match x with
        | .null => pure zero
        | _ => elem (path ++ [k]) x
      pure (some ((acc.getD Table.empty).insert k a))) (some Table.empty)
  | _ => mismatch wanted path v

/-- Letters of one case-insensitive class: ASCII letters by case, the long s with `s`
and the Kelvin sign with `k`. -/
def foldLetter (c : Char) : Char :=
  if c == '\u017F' then 's'
  else if c == '\u212A' then 'k'
  else c.toLower

/-- Whether two names are equal without regard to letter case. -/
def sameNameFolded (a b : String) : Bool :=
  a.length == b.length && (a.toList.zip b.toList).all fun (x, y) => foldLetter x == foldLetter y

/-- The field a member name selects: the field of exactly that name, else the first
field equal to it without regard to case. -/
def fieldFor (fields : List String) (key : String) : Option String :=
  if fields.contains key then some key else fields.find? (sameNameFolded key)

/-- Reads a record from an object field by field, in document order; `null` leaves
the record as it starts. -/
def readRecord {σ : Type} (wanted : String) (fields : List String) (init : σ)
    (step : σ → String → List String → Value → Except DecodeError σ) : Reader σ := fun path v =>
  match v with
  | .null => .ok init
  | .object ms =>
    ms.foldlM (fun s (k, x) =>
      match fieldFor fields k with
      | some f => step s f (path ++ [k]) x
      | none => .ok s) init
  | _ => mismatch wanted path v

end DepLock.Json
