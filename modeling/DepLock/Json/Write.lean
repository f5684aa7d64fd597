import DepLock.Json.Value
import DepLock.Text.Quoted
/-!
# Writing documents

The exact text a value is written as.

* A string is written between double quotes. The quote and the backslash are escaped
  by a backslash; backspace, form feed, line feed, carriage return and tab by their
  letter escapes; other characters below the space as `\u00hh`. So that the text can be
  embedded in markup, `<`, `>` and `&` are written as `\u` escapes, and so are the
  line and paragraph separators `U+2028` and `U+2029`. Hex digits are lower case.
* A number is written as its literal.
* Arrays and objects are written without blanks (`write`), or one item to a line with
  an indent per level (`writeIndented`); an empty array or object stays `[]` or `{}`.
-/

set_option autoImplicit false

namespace DepLock.Json

/-- The escape of one character inside a written string. -/
def escapeChar (c : Char) : List Char :=
  match c with
  | '"' => ['\\', '"']
  | '\\' => ['\\', '\\']
  | '\x08' => ['\\', 'b']
  | '\x0c' => ['\\', 'f']
  | '\n' => ['\\', 'n']
  | '\r' => ['\\', 'r']
  | '\t' => ['\\', 't']
  | '<' => "\\u003c".toList
  | '>' => "\\u003e".toList
  | '&' => "\\u0026".toList
  | '\u2028' => "\\u2028".toList
  | '\u2029' => "\\u2029".toList
  | _ => if c.toNat < 0x20 then '\\' :: 'u' :: Text.hexPadded 4 c.toNat else [c]

/-- A string as written: quotes and escapes. -/
def writeString (s : String) : List Char :=
  '"' :: (s.toList.flatMap escapeChar ++ ['"'])

mutual
/-- The compact text of a value. -/
def writeValue : Value → List Char
  | .null => "null".toList
  | .bool true => "true".toList
  | .bool false => "false".toList
  | .number n => n.toList
  | .string s => writeString s
  | .array items => '[' :: writeItems items ++ [']']
  | .object ms => '{' :: writeMembers ms ++ ['}']

/-- Array items, separated by commas. -/
def writeItems : List Value → List Char
  | [] => []
  | [v] => writeValue v
  | v :: rest => writeValue v ++ ',' :: writeItems rest

/-- Object members, separated by commas. -/
def writeMembers : List (String × Value) → List Char
  | [] => []
  | [(k, v)] => writeString k ++ ':' :: writeValue v
  | (k, v) :: rest => writeString k ++ ':' :: writeValue v ++ ',' :: writeMembers rest
end

/-- The compact text of a value. -/
def write (v : Value) : String := String.ofList (writeValue v)

/-- A line break followed by `depth` copies of the indent. -/
def newline (indent : List Char) (depth : Nat) : List Char :=
  '\n' :: (List.replicate depth indent).flatten

mutual
/-- The indented text of a value at a nesting depth. -/
def writeIndentedValue (indent : List Char) (depth : Nat) : Value → List Char
  | .array [] => ['[', ']']
  | .object [] => ['{', '}']
  | .array items =>
    '[' :: writeIndentedItems indent (depth + 1) items ++ newline indent depth ++ [']']
  | .object ms =>
    '{' :: writeIndentedMembers indent (depth + 1) ms ++ newline indent depth ++ ['}']
  | v => writeValue v

/-- Array items, each on its own line. -/
def writeIndentedItems (indent : List Char) (depth : Nat) : List Value → List Char
  | [] => []
  | [v] => newline indent depth ++ writeIndentedValue indent depth v
  | v :: rest =>
    newline indent depth ++ writeIndentedValue indent depth v ++ ',' ::
      writeIndentedItems indent depth rest

/-- Object members, each on its own line. -/
def writeIndentedMembers (indent : List Char) (depth : Nat) : List (String × Value) → List Char
  | [] => []
  | [(k, v)] => newline indent depth ++ writeString k ++ ':' :: ' ' :: writeIndentedValue indent depth v
  | (k, v) :: rest =>
    newline indent depth ++ writeString k ++ ':' :: ' ' :: writeIndentedValue indent depth v ++
      ',' :: writeIndentedMembers indent depth rest
end

/-- The text of a value with one item to a line and `indent` per level. -/
def writeIndented (indent : String) (v : Value) : String :=
  String.ofList (writeIndentedValue indent.toList 0 v)

end DepLock.Json
