import Vigil.Toml.Literal

/-!
# Lines of a document

A document is a list of statements: key/value pairs and headers.

* `maxNesting`: how deep values and keys may go;
* `keyPath`: a dotted key;
* `value`: a value, where arrays and inline tables hold values in turn;
* `Statement`, `statements?`: the statements of a text.

Readers that note places take the size of the whole text: the place of what is left is the size
less the size of what is left.
-/

namespace Vigil.Toml

open Vigil.Text

/-- How many arrays and inline tables may stand inside each other, and how many parts a key may
have. -/
def maxNesting : Nat := 79

/-- The size of characters in bytes. -/
def byteCount (cs : List Char) : Nat := cs.foldl (fun n c => n + c.utf8Size) 0

/-- The place in a text of the given size. -/
def place (size : Nat) : Scan Nat := do return size - byteCount (← Scan.rest)

/-- What a reader takes, with its place. -/
def located {α : Type} (size : Nat) (p : Scan α) : Scan (α × Span) := do
  let start ← place size
  let a ← p
  let stop ← place size
  return (a, ⟨start, stop⟩)

/-! ## Keys -/

/-- The characters of names without quotes. -/
def isBare (c : Char) : Bool :=
  ('A' ≤ c && c ≤ 'Z') || ('a' ≤ c && c ≤ 'z') || isDigit c || c == '-' || c == '_'

/-- A name, with or without quotes. -/
def name : Scan String := do
  match ← Scan.peek? with
  | some '"' => basicText
  | some '\'' => literalText
  | _ => return String.ofList (← Scan.takeWhile₁ isBare)

/-- A name with its place, and the blanks around it. -/
def keyPart (size : Nat) : Scan Key := do
  blanks
  let (text, span) ← located size name
  blanks
  return ⟨text, span⟩

/-- The parts of a dotted key: those before the last, and the last. -/
def keyPath (size : Nat) : Scan (List Key × Key) := do
  let parts ← Scan.sepBy₁ (keyPart size) (Scan.char '.')
  match parts.getLast? with
  | some last => if parts.length ≤ maxNesting then return (parts.dropLast, last) else failure
  | none => failure

/-! ## Values -/

/-- The items of an array behind its bracket; a comma may follow the last one. -/
def arrayItems (item : Scan Node) : Scan (List Node) := do
  let entry : Scan Node := do
    filler
    let node ← item
    filler
    return node
  let items ← Scan.optional do
    let items ← Scan.sepBy₁ entry (Scan.char ',')
    let _ ← Scan.optional (Scan.char ',')
    return items
  filler
  Scan.char ']'
  return items.getD []

/-- The pairs of an inline table behind its brace, all on one line. -/
def inlineTable (size : Nat) (item : Scan Node) : Scan Table := do
  let pair : Scan ((List Key × Key) × Node) := do
    let key ← keyPath size
    Scan.char '='
    blanks
    let node ← item
    blanks
    return (key, node)
  let pairs ← Scan.optional (Scan.sepBy₁ pair (Scan.char ','))
  blanks
  Scan.char '}'
  let start := Table.empty .inline none
  (pairs.getD []).foldlM (fun t p => (t.define p.1.1 p.1.2 p.2 : Option Table)) start

/-- A value with at most the given number of arrays and inline tables inside each other. -/
def value (size : Nat) : Nat → Scan Node
  | 0 => do
    let (v, span) ← located size scalar
    return .leaf span v
  | depth + 1 => do
    match ← Scan.peek? with
    | some '[' =>
      let (items, span) ← located size do Scan.char '['; arrayItems (value size depth)
      return .array span items
    | some '{' =>
      let (t, span) ← located size do Scan.char '{'; inlineTable size (value size depth)
      return { t with span := some span }.node
    | _ =>
      let (v, span) ← located size scalar
      return .leaf span v

/-! ## Statements -/

/-- What a line of a document says: a value under a dotted key, the header of a table, or the header
of one more table in an array of tables. -/
inductive Statement where
  | pair (path : List Key) (key : Key) (value : Node)
  | table (path : List Key) (key : Key) (span : Span)
  | element (path : List Key) (key : Key) (span : Span)

/-- A header and the end of its line. -/
def header (size : Nat) : Scan Statement := do
  if ← Scan.looksAt (Scan.chars ['[', '[']) then
    let ((path, key), span) ← located size do
      Scan.chars ['[', '[']
      let key ← keyPath size
      Scan.chars [']', ']']
      return key
    trailing
    return .element path key span
  else
    let ((path, key), span) ← located size do
      Scan.char '['
      let key ← keyPath size
      Scan.char ']'
      return key
    trailing
    return .table path key span

/-- A key with its value and the end of their line. -/
def pair (size : Nat) : Scan Statement := do
  let (path, key) ← keyPath size
  Scan.char '='
  blanks
  let node ← value size maxNesting
  trailing
  return .pair path key node

/-- One line: a statement, or nothing but blanks and a comment. -/
def line (size : Nat) : Scan (Option Statement) := do
  let found ← match ← Scan.peek? with
    | some '#' => do comment; lineEnd; pure none
    | some '\n' => do newline; pure none
    | some '\r' => do newline; pure none
    | some '[' => some <$> header size
    | _ => some <$> pair size
  blanks
  return found

/-- The mark that may stand before a text to show its encoding. -/
def byteOrderMark : Char := '\uFEFF'

/-- The statements of a text, if all of it is well formed. -/
def statements? (text : List Char) : Option (List Statement) :=
  let size := byteCount text
  let document : Scan (List Statement) := do
    let _ ← Scan.optional (Scan.char byteOrderMark)
    blanks
    return (← Scan.many (line size)).filterMap id
  Scan.whole? document text

end Vigil.Toml
