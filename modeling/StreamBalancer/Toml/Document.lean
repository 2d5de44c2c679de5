import StreamBalancer.Toml.Scalar

/-!
# StreamBalancer.Toml.Document

Reading a TOML 1.0 document.  A document is a sequence of lines, each of them
empty, an assignment or a header, with an optional comment at the end.

1. A leading byte order mark is skipped, and the line end `\r\n` is read as `\n`;
   any other carriage return is an error.
2. Keys are bare, quoted or dotted, and stand on the line of their value.
3. Strings are basic or literal, on one line or on several.  In several lines the
   first line end is dropped, and a backslash at the end of a line joins it to
   the next text.
4. Arrays may span lines and end in a comma; inline tables may do neither.
5. Containers nest at most 79 deep, and a dotted key has at most 79 parts.

Every loop is bounded by the number of characters left.
-/

namespace StreamBalancer.Toml

/-- A step that reads from the front of the text left. -/
abbrev Reader := StateT (List Char) Option

/-- Greatest nesting of containers, and of a dotted key. -/
def depthLimit : Nat := 79

namespace Reader

/-! ## Characters -/

/-- The next character, which stays. -/
def peek? : Reader (Option Char) := fun cs => some (cs.head?, cs)

/-- Take the next character. -/
def next : Reader Char := fun cs =>
  match cs with
  | [] => none
  | c :: rest => some (c, rest)

/-- Take an expected character. -/
def expect (c : Char) : Reader Unit := do
  let d ← next
  if c = d then pure () else failure

/-- Take a character if it is the next one, and tell whether it was. -/
def take? (c : Char) : Reader Bool := do
  if (← peek?) = some c then
    let _ ← next
    pure true
  else pure false

/-- Take characters while they have a property. -/
def takeWhile (p : Char → Bool) : Reader (List Char) := fun cs =>
  some (cs.takeWhile p, cs.dropWhile p)

/-- Whether a character can stand in a comment or, quotes apart, in a string. -/
def isPlain (c : Char) : Bool := c = '\t' || (' ' ≤ c && c ≠ '\x7f')

/-- Skip blanks within a line. -/
def skipBlanks : Reader Unit := do
  let _ ← takeWhile fun c => c = ' ' || c = '\t'

/-- Skip a comment, if there is one. -/
def skipComment : Reader Unit := do
  if ← take? '#' then
    let _ ← takeWhile isPlain

/-- Skip what may follow at the end of a line, and its end. -/
def endLine : Reader Unit := do
  skipBlanks
  skipComment
  if (← peek?).isSome then expect '\n'

/-- Repeat a step at most so many times, while it says so. -/
def repeatAtMost (step : Reader Bool) : Nat → Reader Unit
  | 0 => failure
  | n + 1 => do
    if ← step then repeatAtMost step n

/-- Repeat a step that takes a character each time it says to go on. -/
def repeatWhile (step : Reader Bool) : Reader Unit := fun cs =>
  repeatAtMost step (cs.length + 1) cs

/-- Skip blanks, comments and line ends. -/
def skipLines : Reader Unit :=
  repeatWhile do
    skipBlanks
    skipComment
    take? '\n'

/-! ## Strings -/

/-- The character with a code point of so many hexadecimal digits. -/
def codePoint (digits : Nat) : Reader (List Char) := fun cs =>
  let front := cs.take digits
  if front.length = digits ∧ front.all fun c => (hexDigit? c).isSome then
    let n := ofDigits 16 front
    if n.isValidChar then some ([Char.ofNat n], cs.drop digits) else none
  else none

/-- What an escape stands for, after the backslash. -/
def escape : Reader (List Char) := do
  match ← next with
  | 'b' => pure ['\x08']
  | 't' => pure ['\t']
  | 'n' => pure ['\n']
  | 'f' => pure ['\x0c']
  | 'r' => pure ['\r']
  | '"' => pure ['"']
  | '\\' => pure ['\\']
  | 'u' => codePoint 4
  | 'U' => codePoint 8
  | _ => failure

/-- A basic string on one line, after its opening quote. -/
def basicLine : Nat → Reader (List Char)
  | 0 => failure
  | n + 1 => do
    let plain ← takeWhile fun c => isPlain c && c ≠ '"' && c ≠ '\\'
    match ← next with
    | '"' => pure plain
    | '\\' =>
      let special ← escape
      let rest ← basicLine n
      pure (plain ++ special ++ rest)
    | _ => failure

/-- A literal string on one line, after its opening quote. -/
def literalLine : Reader (List Char) := do
  let plain ← takeWhile fun c => isPlain c && c ≠ '\''
  expect '\''
  pure plain

/-- After a run of `n` quotes inside a string of several lines: the quotes that
belong to the text, the number of quotes left over, and whether the string ends. -/
def quoteRun (n : Nat) : Nat × Nat × Bool :=
  if n < 3 then (n, 0, false) else (min (n - 3) 2, n - 3 - min (n - 3) 2, true)

/-- Give characters back to the front of the text. -/
def putBack (cs : List Char) : Reader Unit := fun rest => some ((), cs ++ rest)

/-- A string of several lines, after its opening quotes.  `escapes` says whether
a backslash is special. -/
def manyLines (quote : Char) (escapes : Bool) : Nat → Reader (List Char)
  | 0 => failure
  | n + 1 => do
    let plain ← takeWhile fun c =>
      (isPlain c || c = '\n') && c ≠ quote && !(escapes && c = '\\')
    let quotes ← takeWhile (· = quote)
    if quotes.isEmpty then
      expect '\\'
      if (← peek?).any (fun c => c = ' ' || c = '\t' || c = '\n') then
        skipBlanks
        expect '\n'
        let _ ← takeWhile fun c => c = ' ' || c = '\t' || c = '\n'
        let rest ← manyLines quote escapes n
        pure (plain ++ rest)
      else
        let special ← escape
        let rest ← manyLines quote escapes n
        pure (plain ++ special ++ rest)
    else
      match quoteRun quotes.length with
      | (kept, left, ends) =>
        putBack (List.replicate left quote)
        let text := plain ++ List.replicate kept quote
        if ends then pure text
        else
          let rest ← manyLines quote escapes n
          pure (text ++ rest)

/-- A string on one line, after its opening quote. -/
def oneLine (quote : Char) : Reader (List Char) := fun cs =>
  (if quote = '"' then basicLine (cs.length + 1) else literalLine) cs

/-- The rest of a string of several lines, after its opening quotes. -/
def severalLines (quote : Char) : Reader (List Char) := do
  let _ ← take? '\n'
  fun cs => manyLines quote (quote = '"') (cs.length + 1) cs

/-- A string, after its first quote. -/
def string (quote : Char) : Reader String := do
  if ← take? quote then
    if ← take? quote then return String.ofList (← severalLines quote)
    else return ""
  else return String.ofList (← oneLine quote)

/-! ## Keys -/

/-- Whether a bare key can contain a character. -/
def isBareKeyChar (c : Char) : Bool := c.isAlphanum || c = '_' || c = '-'

/-- One part of a key. -/
def keyPart : Reader String := do
  match ← peek? with
  | some '"' => do
    let _ ← next
    return String.ofList (← oneLine '"')
  | some '\'' => do
    let _ ← next
    return String.ofList (← oneLine '\'')
  | _ => do
    let part ← takeWhile isBareKeyChar
    if part.isEmpty then failure else return String.ofList part

/-- The parts of a dotted key, at most so many. -/
def keyParts : Nat → Reader (List String)
  | 0 => failure
  | n + 1 => do
    skipBlanks
    let part ← keyPart
    skipBlanks
    if ← take? '.' then return part :: (← keyParts n) else return [part]

/-- A key: the parts before the last one, and the last one. -/
def key : Reader (List String × String) := do
  let parts ← keyParts depthLimit
  match parts.getLast? with
  | some last => pure (parts.dropLast, last)
  | none => failure

/-! ## Values -/

/-- An assignment within a table, added to its entries. -/
def assignment (value : Reader Value) : Reader (List String × String × Value) := do
  let (path, last) ← key
  expect '='
  skipBlanks
  let v ← value
  skipBlanks
  pure (path, last, v)

/-- The entries of an array up to its closing bracket, at most so many. -/
def arrayItems (value : Reader Value) : Nat → Reader (List Value)
  | 0 => failure
  | n + 1 => do
    skipLines
    if ← take? ']' then return []
    let item ← value
    skipLines
    if ← take? ',' then return item :: (← arrayItems value n)
    expect ']'
    return [item]

/-- The entries of an inline table up to its closing brace, at most so many;
`es` are those before. -/
def tableEntries (value : Reader Value) : Nat → Entries → Reader Entries
  | 0, _ => failure
  | n + 1, es => do
    let (path, last, v) ← assignment value
    match es.assign path last v with
    | none => failure
    | some es =>
      if ← take? ',' then tableEntries value n es
      else
        expect '\x7d'
        return es

/-- An inline table, after its opening brace. -/
def inlineTable (value : Reader Value) : Reader Value := do
  skipBlanks
  if ← take? '\x7d' then return .table .closed []
  else return .table .closed (← fun cs => tableEntries value (cs.length + 1) [] cs)

/-- An array, after its opening bracket. -/
def array (value : Reader Value) : Reader Value := do
  return .array false (← fun cs => arrayItems value (cs.length + 1) cs)

/-- A value in which containers nest at most so deep. -/
def value : Nat → Reader Value
  | 0 => do
    match ← peek? with
    | some '"' => return .string (← next >>= string)
    | some '\'' => return .string (← next >>= string)
    | _ => fun cs => (scalar? (word cs).1).map (·, (word cs).2)
  | depth + 1 => do
    match ← peek? with
    | some '[' => next *> array (value depth)
    | some '\x7b' => next *> inlineTable (value depth)
    | _ => value 0

/-! ## Lines -/

/-- A document that is being read. -/
structure Draft where
  /-- The entries so far. -/
  entries : Entries := []
  /-- The table of the latest header. -/
  header : List String := []
deriving Inhabited

/-- A header, after its first bracket. -/
def header (d : Draft) : Reader Draft := do
  let doubled ← take? '['
  let (parents, last) ← key
  expect ']'
  if doubled then expect ']'
  endLine
  match (if doubled then d.entries.openItem else d.entries.openTable) parents last with
  | some entries => pure { entries, header := parents ++ [last] }
  | none => failure

/-- One line. -/
def line (d : Draft) : Reader Draft := do
  skipBlanks
  match ← peek? with
  | some '[' => next *> header d
  | some '#' | some '\n' | none => do
    endLine
    pure d
  | some _ => do
    let (path, last, v) ← assignment (value depthLimit)
    endLine
    match d.entries.assignUnder d.header path last v with
    | some entries => pure { d with entries }
    | none => failure

/-- Lines up to the end of the text, at most so many. -/
def lines : Nat → Draft → Reader Draft
  | 0, _ => failure
  | n + 1, d => do
    if (← peek?).isNone then pure d else lines n (← line d)

end Reader

/-- Read the line end `\r\n` as `\n`. -/
def normalizeLines : List Char → List Char
  | '\r' :: '\n' :: rest => '\n' :: normalizeLines rest
  | c :: rest => c :: normalizeLines rest
  | [] => []

/-- The entries of a document, or `none` if it is not well-formed. -/
def read? (text : String) : Option Entries :=
  let cs := match text.toList with
    | '\ufeff' :: rest => rest
    | cs => cs
  let cs := normalizeLines cs
  (Reader.lines (cs.length + 1) {} cs).map fun (d, _) => d.entries

end StreamBalancer.Toml
