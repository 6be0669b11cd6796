import SearchRequest.Document.Node
import SearchRequest.Text.Quoted
import SearchRequest.Yaml.Plain

/-!
# Writing YAML

A written value becomes a block of lines.  The items of a list stand under their key without being
indented; a named case is written as a tag before its body, and a body that is itself a named case
has no place for its tag.

* `Yaml.Style`, `Yaml.styleOf` — how a text is written: plainly where it is read back as the same
  text, else in quotes, or on lines of its own.
* `Yaml.Block` — a value laid out: what stands on the line at hand, and the lines below.
* `Yaml.Block.ofNode?` — the block of a written value.
* `Node.yaml?` — the text of a written value.
-/

namespace SearchRequest.Yaml

/-! ## Scalars -/

/-- How a text is written. -/
inductive Style where
  /-- As it is. -/
  | plain
  /-- Between apostrophes. -/
  | single
  /-- Between quotation marks, with escapes. -/
  | double
  /-- On lines of its own. -/
  | literal
  deriving DecidableEq, Repr

/-- Whether a character may stand in a text that has no escapes. -/
def isPrintable (c : Char) : Bool :=
  let n := c.toNat
  n == 0x0A || (0x20 ≤ n && n ≤ 0x7E) || (0xA0 ≤ n && n ≤ 0xD7FF) ||
    (0xE000 ≤ n && n ≤ 0xFFFD && n != 0xFEFF) || 0x10000 ≤ n

/-- The characters that have a meaning of their own at the start of a plain scalar. -/
def indicators : List Char := [',', '[', ']', '\x7b', '\x7d', '#', '&', '*', '!', '|', '>', '\'', '"',
  '%', '@', '\x60']

/-- Whether white space, or the end, is what comes next. -/
def blankNext : List Char → Bool
  | [] => true
  | c :: _ => c = ' ' || c = '\t' || c = '\n' || c = '\r'

/-- Whether a plain scalar cannot start in this way. -/
def badStart : List Char → Bool
  | [] => false
  | c :: rest =>
    indicators.contains c || ((c = '-' || c = '?' || c = ':') && blankNext rest) ||
      "---".toList.isPrefixOf (c :: rest) || "...".toList.isPrefixOf (c :: rest)

/-- Whether the text holds the end of a key, or the start of a comment, after its first
character. -/
def breaksPlain : List Char → Bool
  | a :: b :: rest =>
    (b = ':' && blankNext rest) || (b = '#' && blankNext [a]) || breaksPlain (b :: rest)
  | _ => false

/-- Whether a space stands right before the end of a line. -/
def spaceBeforeBreak : List Char → Bool
  | ' ' :: '\n' :: _ => true
  | _ :: rest => spaceBeforeBreak rest
  | [] => false

/-- How a text is written, as a key or as a value. -/
def styleOf (isKey : Bool) (cs : List Char) : Style :=
  if !cs.all isPrintable || spaceBeforeBreak cs then .double
  else if cs.contains '\n' then
    if isKey || cs.getLast? = some ' ' then .double else .literal
  else if staysText cs && !badStart cs && !breaksPlain cs && cs.head? != some ' ' &&
      cs.getLast? != some ' ' then .plain
  else .single

/-- A hexadecimal digit in upper case. -/
def upperHex (d : Nat) : Char := (Text.hexDigit d).toUpper

/-- The last digits of a number in base sixteen, so many of them. -/
def hexPadded : Nat → Nat → List Char
  | 0, _ => []
  | width + 1, n => hexPadded width (n / 16) ++ [upperHex (n % 16)]

/-- The escapes of one letter. -/
def letterEscapes : List (Char × Char) := [('\x00', '0'), ('\x07', 'a'), ('\x08', 'b'), ('\t', 't'),
  ('\n', 'n'), ('\x0b', 'v'), ('\x0c', 'f'), ('\r', 'r'), ('\x1b', 'e'), ('"', '"'), ('\\', '\\'),
  ('\x85', 'N'), ('\u2028', 'L'), ('\u2029', 'P')]

/-- A character between quotation marks. -/
def doubleChar (c : Char) : List Char :=
  match letterEscapes.lookup c with
  | some letter => ['\\', letter]
  | none =>
    if isPrintable c then [c]
    else if c.toNat ≤ 0xFF then '\\' :: 'x' :: hexPadded 2 c.toNat
    else '\\' :: 'u' :: hexPadded 4 c.toNat

/-- A character between apostrophes. -/
def singleChar (c : Char) : List Char := if c = '\'' then ['\'', '\''] else [c]

/-- A text on the line at hand. -/
def quotedText : Style → List Char → List Char
  | .single, cs => '\'' :: (cs.flatMap singleChar ++ ['\''])
  | .double, cs => '"' :: (cs.flatMap doubleChar ++ ['"'])
  | _, cs => cs

/-- A key. -/
def keyText (key : String) : List Char := quotedText (styleOf true key.toList) key.toList

/-! ## Blocks -/

/-- A line: how far it is indented, and its text. -/
structure Row where
  /-- How far it is indented. -/
  indent : Nat
  /-- Its text. -/
  text : List Char
  deriving DecidableEq, Repr

/-- A line that is indented further. -/
def Row.shift (by_ : Nat) (r : Row) : Row := if r.text.isEmpty then r else { r with indent := r.indent + by_ }

/-- A value laid out. -/
structure Block where
  /-- What stands on the line at hand. -/
  head : List Char
  /-- The lines below. -/
  rows : List Row := []
  /-- How much further than a key the lines below it are indented. -/
  step : Nat := 0
  deriving DecidableEq, Repr

namespace Block

/-- The lines of a text: what stands between its line ends. -/
def splitLines : List Char → List (List Char)
  | [] => [[]]
  | c :: rest =>
    if c = '\n' then [] :: splitLines rest
    else
      match splitLines rest with
      | line :: lines => (c :: line) :: lines
      | [] => [[c]]

/-- The mark of a text on lines of its own: how far it is indented, where its first character does
not show it, and which line ends it keeps. -/
def literalMark (cs : List Char) : List Char :=
  let indentation := if cs.head? = some ' ' || cs.head? = some '\n' then ['2'] else []
  let ending := match cs.reverse with
    | '\n' :: '\n' :: _ => ['+']
    | ['\n'] => ['+']
    | '\n' :: _ => []
    | _ => ['-']
  '|' :: (indentation ++ ending)

/-- A text. -/
def ofText (s : String) : Block :=
  let cs := s.toList
  match styleOf false cs with
  | .literal =>
    let lines := splitLines cs
    let shown := if cs.getLast? = some '\n' then lines.dropLast else lines
    { head := literalMark cs, rows := shown.map fun line => ⟨0, line⟩, step := 2 }
  | style => { head := quotedText style cs }

/-- A number: the infinities and the result that is not a number have words of their own. -/
def ofNumber : Number → Block
  | .float (.infinite negative) => { head := (if negative then "-.inf" else ".inf").toList }
  | .float .nan => { head := ".nan".toList }
  | n => { head := n.text .yaml }

/-- The lines of an entry: its key, and the block of its value. -/
def entryRows (key : String) (b : Block) : List Row :=
  let gap := if b.head.isEmpty then [] else ' ' :: b.head
  ⟨0, keyText key ++ ':' :: gap⟩ :: b.rows.map (Row.shift b.step)

/-- The lines of an item. -/
def itemRows (b : Block) : List Row :=
  match b.head, b.rows with
  | [], first :: rest => ⟨0, '-' :: ' ' :: first.text⟩ :: rest.map (Row.shift 2)
  | head, rows => ⟨0, '-' :: ' ' :: head⟩ :: rows.map (Row.shift 2)

/-- A block under a tag. -/
def tagged (name : String) (b : Block) : Block :=
  let gap := if b.head.isEmpty then [] else ' ' :: b.head
  { b with head := '!' :: (name.toList ++ gap) }

mutual
/-- The block of a written value, unless a named case stands directly in another one. -/
def ofNode? : Node → Option Block
  | .null => some { head := "null".toList }
  | .bool b => some { head := (if b then "true" else "false").toList }
  | .number n => some (ofNumber n)
  | .string s => some (ofText s)
  | .list [] => some { head := ['[', ']'] }
  | .list (n :: rest) => do
    let rows ← rowsOfItems? (n :: rest)
    some { head := [], rows := rows }
  | .record [] => some { head := ['\x7b', '\x7d'] }
  | .record (e :: rest) => do
    let rows ← rowsOfEntries? (e :: rest)
    some { head := [], rows := rows, step := 2 }
  | .named name body =>
    match body with
    | .named _ _ => none
    | body => (ofNode? body).map (tagged name)
/-- The lines of items. -/
def rowsOfItems? : List Node → Option (List Row)
  | [] => some []
  | n :: rest => do
    let b ← ofNode? n
    let rows ← rowsOfItems? rest
    some (itemRows b ++ rows)
/-- The lines of entries. -/
def rowsOfEntries? : List (String × Node) → Option (List Row)
  | [] => some []
  | (key, n) :: rest => do
    let b ← ofNode? n
    let rows ← rowsOfEntries? rest
    some (entryRows key b ++ rows)
end

/-- All lines of a block. -/
def allRows (b : Block) : List Row :=
  if b.head.isEmpty then b.rows else ⟨0, b.head⟩ :: b.rows.map (Row.shift b.step)

end Block

/-- A line with its end. -/
def Row.chars (r : Row) : List Char := List.replicate r.indent ' ' ++ r.text ++ ['\n']

end SearchRequest.Yaml

namespace SearchRequest

/-- The YAML text of a written value, unless a named case stands directly in another one. -/
def Node.yaml? (n : Node) : Option String :=
  (Yaml.Block.ofNode? n).map fun b => String.ofList (b.allRows.flatMap Yaml.Row.chars)

end SearchRequest
