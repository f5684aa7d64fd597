import DepLock.Text.Quoted
import DepLock.Text.Letter
import DepLock.Text.Blank
/-!
# Tokens of configuration documents

The first stage of reading a configuration document:

    text ──tokenize──▶ tokens (List Token) ──read──▶ Document

`tokenize` cuts a document into tokens (`Token`): table headers, key parts, values
and comments, each with its text and the line it ends on. It stops at the first fault
with a line and a message (`Stop`); the tokens before the fault are kept, since the
reader still acts on them.

The tokenizer is a machine over the characters with a current `Mode` and a stack of
modes to return to: a value, a comment or a key part is scanned in its own mode, which
then returns to the mode that asked for it. Every character read is checked first: a
control character other than tab, line feed and carriage return, or a carriage return
that does not stand before a line feed, stops the machine there. Values are scanned to
a first approximation (a number is any run of number characters, a word any run of
letters); the reader checks them.

Lines are counted by line feeds read. A fault found at the end of the input after a
line break, or at a line break that ends a value, names the line before.
-/

set_option autoImplicit false

namespace DepLock.Toml

open DepLock.Text

/-- The kinds of tokens. -/
inductive TokenKind where
  /-- A bare key part, or the text of a comment. -/
  | text
  /-- A basic string without escapes. -/
  | string
  /-- A basic string with escapes. -/
  | escapedString
  | rawString
  | multilineString
  | rawMultilineString
  | bool
  | integer
  | float
  | datetime
  | arrayStart
  | arrayEnd
  | tableStart
  | tableEnd
  | arrayTableStart
  | arrayTableEnd
  | keyStart
  | keyEnd
  | commentStart
  | inlineTableStart
  | inlineTableEnd
deriving Repr, DecidableEq, Inhabited

/-- A token: its kind, the text it covers (a string's text without its quotes), and the
line the tokenizer was on when it ended. -/
structure Token where
  kind : TokenKind
  text : String
  line : Nat
deriving Repr, Inhabited

/-- Where tokenizing stopped at a fault: the line and the message. -/
structure Stop where
  line : Nat
  message : String
deriving Repr

/-- The tokens of a text, and the fault that ended them, if any. -/
structure Tokens where
  tokens : List Token
  stop : Option Stop
deriving Repr

/-- What the tokenizer is scanning. -/
inductive Mode where
  | top
  | topEnd
  | tableStart
  | tableEnd
  | arrayTableEnd
  | tableNameStart
  | tableNameEnd
  | bareName
  | quotedName
  | keyStart
  | keyNameStart
  | keyEnd
  | value
  | arrayValue
  | arrayValueEnd
  | arrayEnd
  | inlineTableValue
  | inlineTableValueEnd
  | inlineTableEnd
  | string
  | multilineString
  | rawString
  | multilineRawString
  | multilineStringEscape
  | stringEscape
  | shortUnicodeEscape
  | longUnicodeEscape
  | numberOrDateStart
  | numberOrDate
  | datetime
  | hexInteger
  | octalInteger
  | binaryInteger
  | decimalNumber
  | decimalNumberStart
  | baseNumberOrDate
  | float
  | bool
  | commentStart
  | comment
deriving Repr, DecidableEq, Inhabited

/-- The tokenizer's state: the input, where the current token starts, the position, the
line, whether the end was just read, whether the string being scanned has an escape,
the modes to return to, and the tokens so far. -/
structure Scanner where
  input : Array Char
  start : Nat := 0
  pos : Nat := 0
  line : Nat := 1
  atEnd : Bool := false
  escaped : Bool := false
  stack : List Mode := []
  tokens : Array Token := #[]

/-- Scanning: a step may stop at a fault, keeping the state it reached. -/
abbrev ScanM := ExceptT Stop (StateM Scanner)

/-- A control character that no document may hold: below the space other than tab, line
feed and carriage return, and delete. -/
def isForbiddenControl (c : Char) : Bool :=
  (c.toNat ≤ 0x1F && c != '\t' && c != '\n' && c != '\r') || c.toNat == 0x7F

/-- The message for a control character. -/
def controlMessage (c : Char) : String :=
  "TOML files cannot contain control characters: '0x" ++ String.ofList (hexPadded 2 c.toNat) ++ "'"

/-- Blanks within a line. -/
def isBlankChar (c : Char) : Bool := c == ' ' || c == '\t'

/-- Line breaks. -/
def isBreakChar (c : Char) : Bool := c == '\n' || c == '\r'

/-- A character of a bare key. -/
def isBareChar (c : Char) : Bool :=
  ('a' ≤ c && c ≤ 'z') || ('A' ≤ c && c ≤ 'Z') || ('0' ≤ c && c ≤ '9') || c == '_' || c == '-'

/-- Hex digits. -/
def isHexChar (c : Char) : Bool :=
  ('0' ≤ c && c ≤ '9') || ('a' ≤ c && c ≤ 'f') || ('A' ≤ c && c ≤ 'F')

/-- Whether an optional character satisfies a test; the end satisfies none. -/
def holds (p : Char → Bool) : Option Char → Bool
  | some c => p c
  | none => false

/-- A character as messages quote it; the end is the zero character. -/
def runeText (r : Option Char) : String := quoteRune (r.getD '\x00')

/-- A character as messages show it between single quotes, unescaped; the end is
"end of file". -/
def plainRuneText : Option Char → String
  | some c => "'" ++ c.toString ++ "'"
  | none => "end of file"

namespace Scanner

/-- Reads the next character, or the end. A forbidden control character stops. -/
def next : ScanM (Option Char) := do
  let sc ← get
  match sc.input[sc.pos]? with
  | none =>
    set { sc with atEnd := true }
    pure none
  | some c =>
    let line := if c == '\n' then sc.line + 1 else sc.line
    let lone := c == '\r' && sc.input[sc.pos + 1]? != some '\n'
    if isForbiddenControl c || lone then
      set { sc with line }
      throw ⟨line, controlMessage c⟩
    else
      set { sc with pos := sc.pos + 1, line }
      pure (some c)

/-- Steps back over the character just read; after the end, forgets the end. -/
def backup : ScanM Unit := modify fun sc =>
  if sc.atEnd then { sc with atEnd := false }
  else
    let pos := sc.pos - 1
    let line := if sc.input[pos]? == some '\n' then sc.line - 1 else sc.line
    { sc with pos, line }

/-- The next character, left unread. -/
def peek : ScanM (Option Char) := do
  let r ← next
  backup
  pure r

/-- Reads the next character if it is `c`. -/
def accept (c : Char) : ScanM Bool := do
  let r ← next
  if r == some c then pure true
  else
    backup
    pure false

/-- Drops what was read since the current token started. -/
def ignore : ScanM Unit := modify fun sc => { sc with start := sc.pos }

/-- The text read since the current token started. -/
def current : ScanM String := do
  let sc ← get
  pure (String.ofList (sc.input.extract sc.start sc.pos).toList)

/-- Ends the current token with a kind. -/
def emitText (kind : TokenKind) (text : String) : ScanM Unit := modify fun sc =>
  { sc with tokens := sc.tokens.push ⟨kind, text, sc.line⟩, start := sc.pos }

/-- Ends the current token with a kind and its text. -/
def emit (kind : TokenKind) : ScanM Unit := do
  emitText kind (← current)

/-- Saves a mode to return to. -/
def push (m : Mode) : ScanM Unit := modify fun sc => { sc with stack := m :: sc.stack }

/-- The mode to return to. -/
def pop : ScanM (Option Mode) := do
  let sc ← get
  match sc.stack with
  | m :: rest =>
    set { sc with stack := rest }
    pure (some m)
  | [] => throw ⟨sc.line, "BUG in lexer: no states to pop"⟩

/-- Stops with a message at the current line; at the end of the input right after a line
feed, at the line before. -/
def fail {α : Type} (msg : String) : ScanM α := do
  let sc ← get
  let line := if sc.atEnd && sc.pos ≥ 1 && sc.input[sc.pos - 1]? == some '\n' then sc.line - 1
    else sc.line
  throw ⟨line, msg⟩

/-- Stops with a message at the line before the current one. -/
def failBefore {α : Type} (msg : String) : ScanM α := do
  let sc ← get
  throw ⟨sc.line - 1, msg⟩

/-- Stops with a message at the current line, or at the line before after the end. -/
def failRead {α : Type} (msg : String) : ScanM α := do
  let sc ← get
  throw ⟨if sc.atEnd then sc.line - 1 else sc.line, msg⟩

/-- Skips blanks within a line and drops them. -/
def skipBlanks : ScanM Unit := do
  let sc ← get
  go (sc.input.size - sc.pos + 1)
where
  /-- Skips at most `n` blanks. -/
  go : Nat → ScanM Unit
    | 0 => pure ()
    | n + 1 => do
      let r ← next
      if holds isBlankChar r then go n
      else
        backup
        ignore

/-- Reads `count` hex digits of an escape; a character that is not one stops with the
text of the string so far. -/
def hexDigits (count : Nat) (name letter : String) : ScanM Unit := do
  for _ in List.range count do
    let r ← next
    if !holds isHexChar r then
      fail ("expected " ++ name ++ " hexadecimal digits after '\\" ++ letter ++ "', but got " ++
        quote (← current) ++ " instead")

/-- Reads a run of letters and gives it. -/
def letters : ScanM String := do
  let sc ← get
  go (sc.input.size - sc.pos + 1) []
where
  /-- Reads at most `n` letters onto `acc` (reversed). -/
  go : Nat → List Char → ScanM String
    | 0, acc => pure (String.ofList acc.reverse)
    | n + 1, acc => do
      match ← next with
      | some c =>
        if isLetter c then go n (c :: acc)
        else
          backup
          pure (String.ofList acc.reverse)
      | none =>
        backup
        pure (String.ofList acc.reverse)

/-- One step in a mode: the mode to go on in, or none at the end of the document. -/
def step : Mode → ScanM (Option Mode)
  | .top => do
    let r ← next
    match r with
    | none =>
      let sc ← get
      if sc.pos > sc.start then fail "unexpected EOF" else pure none
    | some c =>
      if isBlankChar c || isBreakChar c then
        ignore
        pure (some .top)
      else if c == '#' then
        push .top
        pure (some .commentStart)
      else if c == '[' then pure (some .tableStart)
      else
        backup
        push .topEnd
        pure (some .keyStart)
  | .topEnd => do
    let r ← next
    match r with
    | none => pure none
    | some c =>
      if c == '#' then
        push .top
        pure (some .commentStart)
      else if isBlankChar c then pure (some .topEnd)
      else if isBreakChar c then
        ignore
        pure (some .top)
      else fail ("expected a top-level item to end with a newline, comment, or EOF, but got " ++
        quoteRune c ++ " instead")
  | .tableStart => do
    if (← peek) == some '[' then
      let _ ← next
      emit .arrayTableStart
      push .arrayTableEnd
    else
      emit .tableStart
      push .tableEnd
    pure (some .tableNameStart)
  | .tableEnd => do
    emit .tableEnd
    pure (some .topEnd)
  | .arrayTableEnd => do
    let r ← next
    if r != some ']' then
      fail ("expected end of table array name delimiter ']', but got " ++ runeText r ++ " instead")
    emit .arrayTableEnd
    pure (some .topEnd)
  | .tableNameStart => do
    skipBlanks
    let r ← peek
    if r == some ']' || r == none then fail "unexpected end of table name (table names cannot be empty)"
    else if r == some '.' then fail "unexpected table separator (table names cannot be empty)"
    else if r == some '"' || r == some '\'' then
      ignore
      push .tableNameEnd
      pure (some .quotedName)
    else
      push .tableNameEnd
      pure (some .bareName)
  | .tableNameEnd => do
    skipBlanks
    let r ← next
    if holds isBlankChar r then pure (some .tableNameEnd)
    else if r == some '.' then
      ignore
      pure (some .tableNameStart)
    else if r == some ']' then pop
    else fail ("expected '.' or ']' to end table name, but got " ++ runeText r ++ " instead")
  | .bareName => do
    let r ← next
    if holds isBareChar r then pure (some .bareName)
    else
      backup
      emit .text
      pop
  | .quotedName => do
    let r ← next
    match r with
    | none => fail "unexpected EOF; expected value"
    | some c =>
      if isBlankChar c then
        ignore
        pure (some .value)
      else if c == '"' then
        ignore
        pure (some .string)
      else if c == '\'' then
        ignore
        pure (some .rawString)
      else fail ("expected value but found " ++ quoteRune c ++ " instead")
  | .keyStart => do
    skipBlanks
    let r ← peek
    if r == some '=' || r == none then fail "unexpected '=': key name appears blank"
    else if r == some '.' then fail "unexpected '.': keys cannot start with a '.'"
    else
      if r == some '"' || r == some '\'' then ignore
      emit .keyStart
      pure (some .keyNameStart)
  | .keyNameStart => do
    skipBlanks
    let r ← peek
    if r == some '"' || r == some '\'' then
      ignore
      push .keyEnd
      pure (some .quotedName)
    else if r == some '=' || r == none then fail "unexpected '='"
    else if r == some '.' then fail "unexpected '.'"
    else
      push .keyEnd
      pure (some .bareName)
  | .keyEnd => do
    skipBlanks
    let r ← next
    match r with
    | none => fail "unexpected EOF; expected key separator '='"
    | some c =>
      if isBlankChar c then
        ignore
        pure (some .keyEnd)
      else if c == '.' then
        ignore
        pure (some .keyNameStart)
      else if c == '=' then
        emit .keyEnd
        ignore
        pure (some .value)
      else if c == '\n' then
        failBefore ("expected '.' or '=', but got " ++ quoteRune c ++ " instead")
      else fail ("expected '.' or '=', but got " ++ quoteRune c ++ " instead")
  | .value => do
    let r ← next
    match r with
    | none => fail "unexpected EOF; expected value"
    | some c =>
      if isBlankChar c then
        ignore
        pure (some .value)
      else if c.isDigit then
        backup
        pure (some .numberOrDateStart)
      else if c == '[' then
        ignore
        emit .arrayStart
        pure (some .arrayValue)
      else if c == '{' then
        ignore
        emit .inlineTableStart
        pure (some .inlineTableValue)
      else if c == '"' then
        if ← accept '"' then
          if ← accept '"' then
            ignore
            return some .multilineString
          backup
        ignore
        pure (some .string)
      else if c == '\'' then
        if ← accept '\'' then
          if ← accept '\'' then
            ignore
            return some .multilineRawString
          backup
        ignore
        pure (some .rawString)
      else if c == '.' then fail "floats must start with a digit, not '.'"
      else if c == '+' || c == '-' then pure (some .decimalNumberStart)
      else
        -- `inf` and `nan` after an `i` or an `n`, read as far as they match
        let word ← if c == 'i' || c == 'n' then do
            let n1 ← accept 'n'
            let full ← if n1 then accept 'f' else pure false
            if full then pure true
            else
              let a1 ← accept 'a'
              if a1 then accept 'n' else pure false
          else pure false
        if word then
          emit .float
          pop
        else if isLetter c then
          backup
          pure (some .bool)
        else if c == '\n' then failBefore ("expected value but found " ++ quoteRune c ++ " instead")
        else fail ("expected value but found " ++ quoteRune c ++ " instead")
  | .arrayValue => do
    let r ← next
    if holds isBlankChar r || holds isBreakChar r then
      ignore
      pure (some .arrayValue)
    else if r == some '#' then
      push .arrayValue
      pure (some .commentStart)
    else if r == some ',' then fail "unexpected comma"
    else if r == some ']' then pure (some .arrayEnd)
    else
      backup
      push .arrayValueEnd
      pure (some .value)
  | .arrayValueEnd => do
    let r ← next
    if holds isBlankChar r || holds isBreakChar r then
      ignore
      pure (some .arrayValueEnd)
    else if r == some '#' then
      push .arrayValueEnd
      pure (some .commentStart)
    else if r == some ',' then
      ignore
      pure (some .arrayValue)
    else if r == some ']' then pure (some .arrayEnd)
    else fail ("expected a comma (',') or array terminator (']'), but got " ++ plainRuneText r)
  | .arrayEnd => do
    ignore
    emit .arrayEnd
    pop
  | .inlineTableValue => do
    let r ← next
    if holds isBlankChar r then
      ignore
      pure (some .inlineTableValue)
    else if holds isBreakChar r then failBefore "newlines not allowed within inline tables"
    else if r == some '#' then
      push .inlineTableValue
      pure (some .commentStart)
    else if r == some ',' then fail "unexpected comma"
    else if r == some '}' then pure (some .inlineTableEnd)
    else
      backup
      push .inlineTableValueEnd
      pure (some .keyStart)
  | .inlineTableValueEnd => do
    let r ← next
    if holds isBlankChar r then
      ignore
      pure (some .inlineTableValueEnd)
    else if holds isBreakChar r then failBefore "newlines not allowed within inline tables"
    else if r == some '#' then
      push .inlineTableValueEnd
      pure (some .commentStart)
    else if r == some ',' then
      ignore
      skipBlanks
      if (← peek) == some '}' then fail "trailing comma not allowed in inline tables"
      pure (some .inlineTableValue)
    else if r == some '}' then pure (some .inlineTableEnd)
    else fail ("expected a comma or an inline table terminator '\x7d', but got " ++ plainRuneText r ++
      " instead")
  | .inlineTableEnd => do
    ignore
    emit .inlineTableEnd
    pop
  | .string => do
    let r ← next
    match r with
    | none => fail "unexpected EOF; expected '\"'"
    | some c =>
      if isBreakChar c then failBefore "strings cannot contain newlines"
      else if c == '\\' then
        push .string
        pure (some .stringEscape)
      else if c == '"' then
        backup
        let sc ← get
        if sc.escaped then
          set { sc with escaped := false }
          emit .escapedString
        else emit .string
        let _ ← next
        ignore
        pop
      else pure (some .string)
  | .multilineString => do
    let r ← next
    match r with
    | none => fail "unexpected EOF; expected '\"\"\"'"
    | some c =>
      if c == '\\' then pure (some .multilineStringEscape)
      else if c == '"' then
        if ← accept '"' then
          if ← accept '"' then
            if (← peek) == some '"' then
              let text ← current
              if text.endsWith "\"\"\"\"\"" && !text.endsWith "\\\"\"\"\"\"" then
                fail "unexpected '\"\"\"\"\"\"'"
              backup
              backup
              return some .multilineString
            backup
            backup
            backup
            modify fun sc => { sc with escaped := false }
            emit .multilineString
            let _ ← next
            let _ ← next
            let _ ← next
            ignore
            return (← pop)
          backup
        pure (some .multilineString)
      else pure (some .multilineString)
  | .rawString => do
    let r ← next
    match r with
    | none => fail "unexpected EOF; expected \"'\""
    | some c =>
      if isBreakChar c then failBefore "strings cannot contain newlines"
      else if c == '\'' then
        backup
        emit .rawString
        let _ ← next
        ignore
        pop
      else pure (some .rawString)
  | .multilineRawString => do
    let r ← next
    match r with
    | none => fail "unexpected EOF; expected \"'''\""
    | some c =>
      if c == '\'' then
        if ← accept '\'' then
          if ← accept '\'' then
            if (← peek) == some '\'' then
              if (← current).endsWith "'''''" then fail "unexpected \"''''''\""
              backup
              backup
              return some .multilineRawString
            backup
            backup
            backup
            emit .rawMultilineString
            let _ ← next
            let _ ← next
            let _ ← next
            ignore
            return (← pop)
          backup
        pure (some .multilineRawString)
      else pure (some .multilineRawString)
  | .multilineStringEscape => do
    if holds isBreakChar (← next) then pure (some .multilineString)
    else
      backup
      push .multilineString
      pure (some .stringEscape)
  | .stringEscape => do
    modify fun sc => { sc with escaped := true }
    let r ← next
    match r with
    | some c =>
      if "btnfr\"\\ \t".toList.contains c then pop
      else if c == 'u' then pure (some .shortUnicodeEscape)
      else if c == 'U' then pure (some .longUnicodeEscape)
      else failRead ("invalid escape in string '\\" ++ c.toString ++ "'")
    | none => failRead "invalid escape in string '\\\x00'"
  | .shortUnicodeEscape => do
    hexDigits 4 "four" "u"
    pop
  | .longUnicodeEscape => do
    hexDigits 8 "eight" "U"
    pop
  | .numberOrDateStart => do
    let r ← next
    if r == some '0' then pure (some .baseNumberOrDate)
    else if holds Char.isDigit r then pure (some .numberOrDate)
    else fail ("expected a digit but got " ++ runeText r)
  | .numberOrDate => do
    let r ← next
    if holds Char.isDigit r then pure (some .numberOrDate)
    else if r == some '-' || r == some ':' then pure (some .datetime)
    else if r == some '_' then pure (some .decimalNumber)
    else if r == some '.' || r == some 'e' || r == some 'E' then pure (some .float)
    else
      backup
      emit .integer
      pop
  | .datetime => do
    let r ← next
    if holds (fun c => c.isDigit || "-:Tt .Zz+".toList.contains c) r then pure (some .datetime)
    else
      backup
      emitText .datetime (trimBlank (← current))
      pop
  | .hexInteger => do
    let r ← next
    if holds (fun c => isHexChar c || c == '_') r then pure (some .hexInteger)
    else
      backup
      emit .integer
      pop
  | .octalInteger => do
    let r ← next
    if holds (fun c => ('0' ≤ c && c ≤ '7') || c == '_') r then pure (some .octalInteger)
    else
      backup
      emit .integer
      pop
  | .binaryInteger => do
    let r ← next
    if holds (fun c => c == '0' || c == '1' || c == '_') r then pure (some .binaryInteger)
    else
      backup
      emit .integer
      pop
  | .decimalNumber => do
    let r ← next
    if holds Char.isDigit r then pure (some .decimalNumber)
    else if r == some '.' || r == some 'e' || r == some 'E' then pure (some .float)
    else if r == some '_' then pure (some .decimalNumber)
    else
      backup
      emit .integer
      pop
  | .decimalNumberStart => do
    let r ← next
    if r == some 'i' then
      if !(← accept 'n') then fail ("invalid float: '" ++ (← current) ++ "'")
      if !(← accept 'f') then fail ("invalid float: '" ++ (← current) ++ "'")
      emit .float
      pop
    else if r == some 'n' then
      if !(← accept 'a') then fail ("invalid float: '" ++ (← current) ++ "'")
      if !(← accept 'n') then fail ("invalid float: '" ++ (← current) ++ "'")
      emit .float
      pop
    else if r == some '.' then fail "floats must start with a digit, not '.'"
    else
      if r == some '0' then
        let p ← peek
        if p == some 'b' || p == some 'o' || p == some 'x' then
          fail ("cannot use sign with non-decimal numbers: '" ++ (← current) ++ (p.getD 'x').toString ++ "'")
      if holds Char.isDigit r then pure (some .decimalNumber)
      else fail ("expected a digit but got " ++ runeText r)
  | .baseNumberOrDate => do
    let r ← next
    let baseCheck (ok : Char → Bool) (name : String) (then_ : Mode) : ScanM (Option Mode) := do
      let p ← peek
      if !holds ok p then
        fail ("not " ++ name ++ " number: '" ++ (← current) ++ (p.getD '\x00').toString ++ "'")
      pure (some then_)
    if holds Char.isDigit r then pure (some .numberOrDate)
    else if r == some '_' then pure (some .decimalNumber)
    else if r == some '.' || r == some 'e' || r == some 'E' then pure (some .float)
    else if r == some 'b' then baseCheck (fun c => c == '0' || c == '1') "a binary" .binaryInteger
    else if r == some 'o' then baseCheck (fun c => '0' ≤ c && c ≤ '7') "an octal" .octalInteger
    else if r == some 'x' then baseCheck isHexChar "a hexadecimal" .hexInteger
    else
      backup
      emit .integer
      pop
  | .float => do
    let r ← next
    if holds (fun c => c.isDigit || "_.-+eE".toList.contains c) r then pure (some .float)
    else
      backup
      emit .float
      pop
  | .bool => do
    let word ← letters
    if word == "true" || word == "false" then
      emit .bool
      pop
    else fail ("expected value but found " ++ quote word ++ " instead")
  | .commentStart => do
    ignore
    emit .commentStart
    pure (some .comment)
  | .comment => do
    let r ← next
    if r == none || holds isBreakChar r then
      backup
      emit .text
      pop
    else pure (some .comment)

/-- Runs steps from a mode until the document ends, for at most `fuel` steps. -/
def run : Nat → Mode → ScanM Unit
  | 0, _ => fail "unexpected EOF"
  | fuel + 1, m => do
    match ← step m with
    | some m' => run fuel m'
    | none => pure ()

end Scanner

/-- The tokens of a text, and the fault that ended them. Every step reads a character or
is one of a few steps between two reads, so sixteen steps per character suffice. -/
def tokenize (text : String) : Tokens :=
  let input := text.toList.toArray
  let (r, sc) := (Scanner.run (16 * (input.size + 4)) .top).run { input }
  ⟨sc.tokens.toList, match r with
    | .ok () => none
    | .error s => some s⟩

end DepLock.Toml
