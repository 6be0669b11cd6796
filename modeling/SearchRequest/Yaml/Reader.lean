import SearchRequest.Yaml.Line
import SearchRequest.Yaml.Plain

/-!
# Reading YAML

The documents read are written in blocks: mappings and lists by indentation, plain and quoted
scalars, and collections in brackets.  What follows a dash counts as a line of its own, indented
as far as it stands; so a block is always a list of lines, the first of which decides what the
block is.

* `Yaml.quotedScalar?` — a scalar in quotes.
* `Yaml.bracketed?` — a collection in brackets.
* `Yaml.key?` — the key at the start of a line.
* `Yaml.block` — a block of lines.
* `Json.ofYaml?` — the value of a whole text.
-/

namespace SearchRequest.Yaml

/-- Characters without the separators at their start. -/
def skipSeparators (cs : List Char) : List Char := cs.dropWhile isSeparator

/-- Characters without white space at their start. -/
def skipWhite (cs : List Char) : List Char := cs.dropWhile fun c => isSeparator c || c = '\n'

/-! ## Quoted scalars -/

/-- The rest of a scalar between apostrophes, and what follows it. -/
def afterApostrophe? : List Char → Option (List Char × List Char)
  | [] => none
  | '\'' :: '\'' :: rest => (afterApostrophe? rest).map fun (cs, r) => ('\'' :: cs, r)
  | c :: rest =>
    if c = '\'' then some ([], rest)
    else (afterApostrophe? rest).map fun (cs, r) => (c :: cs, r)

/-- The escapes of one letter. -/
def letterMeanings : List (Char × Char) := [('0', '\x00'), ('a', '\x07'), ('b', '\x08'), ('t', '\t'),
  ('\t', '\t'), ('n', '\n'), ('v', '\x0b'), ('f', '\x0c'), ('r', '\r'), ('e', '\x1b'), (' ', ' '),
  ('"', '"'), ('/', '/'), ('\\', '\\'), ('N', '\x85'), ('_', '\xa0'), ('L', '\u2028'),
  ('P', '\u2029')]

/-- How many digits follow the letter of an escape by number. -/
def escapeWidth? : Char → Option Nat
  | 'x' => some 2
  | 'u' => some 4
  | 'U' => some 8
  | _ => none

/-- The character with a number, if there is one. -/
def charOf? (n : Nat) : Option Char := if Nat.isValidChar n then some (Char.ofNat n) else none

/-- The rest of a scalar between quotation marks, and what follows it. -/
def afterQuote? : Nat → List Char → Option (List Char × List Char)
  | 0, _ => none
  | _ + 1, [] => none
  | _ + 1, '"' :: rest => some ([], rest)
  | fuel + 1, '\\' :: c :: rest =>
    match escapeWidth? c, letterMeanings.lookup c with
    | some width, _ => do
      if rest.length < width then none
      let d ← (magnitude? 16 (rest.take width)).bind charOf?
      let (cs, r) ← afterQuote? fuel (rest.drop width)
      some (d :: cs, r)
    | none, some d => (afterQuote? fuel rest).map fun (cs, r) => (d :: cs, r)
    | none, none => none
  | fuel + 1, c :: rest =>
    if c = '\\' then none else (afterQuote? fuel rest).map fun (cs, r) => (c :: cs, r)

/-- A scalar in quotes, and what follows it. -/
def quotedScalar? : List Char → Option (List Char × List Char)
  | '\'' :: rest => afterApostrophe? rest
  | '"' :: rest => afterQuote? (rest.length + 1) rest
  | _ => none

/-- Whether a text starts with a quote. -/
def startsQuoted (cs : List Char) : Bool := cs.head? = some '"' || cs.head? = some '\''

/-! ## Plain scalars -/

/-- Whether white space, or the end, comes next. -/
def whiteNext (cs : List Char) : Bool :=
  match cs with
  | [] => true
  | c :: _ => isSeparator c || c = '\n'

/-- Whether a plain scalar can start in this way. -/
def startsPlain : List Char → Bool
  | [] => false
  | c :: rest =>
    if c = '-' || c = '?' || c = ':' then !whiteNext rest
    else !([',', '[', ']', '\x7b', '\x7d', '#', '&', '*', '!', '|', '>', '\'', '"', '%', '@',
      '\x60'].contains c)

/-- The text before the colon that ends a key, and what follows the colon. -/
def splitAtColon : List Char → Option (List Char × List Char)
  | [] => none
  | c :: rest =>
    if c = ':' && whiteNext rest then some ([], rest)
    else (splitAtColon rest).map fun (cs, r) => (c :: cs, r)

/-! ## Collections in brackets -/

/-- Whether a character ends a plain scalar in brackets. -/
def isFlowMark (c : Char) : Bool := [',', '[', ']', '\x7b', '\x7d'].contains c

/-- The characters of a plain scalar in brackets, and what follows them. -/
def flowPlain : List Char → List Char × List Char
  | [] => ([], [])
  | c :: rest =>
    if isFlowMark c || (c = ':' && (whiteNext rest || rest.head?.any isFlowMark)) then ([], c :: rest)
    else
      let (cs, r) := flowPlain rest
      (c :: cs, r)

/-- A scalar in brackets: its characters, whether it is quoted, and what follows it. -/
def flowScalar? (cs : List Char) : Option (List Char × Bool × List Char) :=
  if startsQuoted cs then (quotedScalar? cs).map fun (s, r) => (s, true, r)
  else if startsPlain cs then
    let (s, r) := flowPlain cs
    let s := (s.reverse.dropWhile fun c => isSeparator c || c = '\n').reverse
    if hasComment s then none else some (s, false, r)
  else none

/-- The value of a scalar. -/
def scalarValue? (s : List Char) (isQuoted : Bool) : Option Json :=
  if isQuoted then some (.string (String.ofList s)) else plainValue? s

mutual
/-- A value in brackets, and what follows it. -/
def bracketed? : Nat → List Char → Option (Json × List Char)
  | 0, _ => none
  | fuel + 1, cs =>
    match skipWhite cs with
    | '[' :: rest => (flowItems? fuel rest).map fun (js, r) => (.array js, r)
    | '\x7b' :: rest => (flowEntries? fuel rest).map fun (es, r) => (.object es, r)
    | cs => do
      let (s, isQuoted, r) ← flowScalar? cs
      let j ← scalarValue? s isQuoted
      some (j, r)
/-- The items up to the closing bracket. -/
def flowItems? : Nat → List Char → Option (List Json × List Char)
  | 0, _ => none
  | fuel + 1, cs =>
    match skipWhite cs with
    | ']' :: rest => some ([], rest)
    | cs => do
      let (j, r) ← bracketed? fuel cs
      match skipWhite r with
      | ',' :: rest => (flowItems? fuel rest).map fun (js, r) => (j :: js, r)
      | ']' :: rest => some ([j], rest)
      | _ => none
/-- The entries up to the closing brace. -/
def flowEntries? : Nat → List Char → Option (List (String × Json) × List Char)
  | 0, _ => none
  | fuel + 1, cs =>
    match skipWhite cs with
    | '\x7d' :: rest => some ([], rest)
    | cs => do
      let (key, _, r) ← flowScalar? cs
      let (j, r) ← match skipWhite r with
        | ':' :: rest =>
          match skipWhite rest with
          | ',' :: _ => some (Json.null, rest)
          | '\x7d' :: _ => some (Json.null, rest)
          | _ => bracketed? fuel rest
        | rest => some (Json.null, rest)
      let entry := (String.ofList key, j)
      match skipWhite r with
      | ',' :: rest => (flowEntries? fuel rest).map fun (es, r) => (entry :: es, r)
      | '\x7d' :: rest => some ([entry], rest)
      | _ => none
end

/-! ## Values on a line -/

/-- Whether nothing but a comment is left. -/
def isDone (cs : List Char) : Bool :=
  match cs with
  | [] => true
  | c :: _ => isSeparator c && (dropComment cs).isEmpty

/-- The value that stands on a line and goes on in the lines after it. -/
def lineValue? (text : List Char) (more : List Line) : Option Json :=
  if more.any fun l => l.gap = .comment then none
  else if startsQuoted text then do
    let (s, r) ← quotedScalar? (folded text more)
    if isDone r then some (.string (String.ofList s)) else none
  else if text.head? = some '[' || text.head? = some '\x7b' then do
    let cs := folded text more
    let (j, r) ← bracketed? (2 * cs.length + 2) cs
    if isDone r then some j else none
  else if !startsPlain text then none
  else
    let pieces := text :: more.map Line.text
    if pieces.dropLast.any hasComment then none
    else
      let cs := dropComment (folded text more)
      if (splitAtColon cs).isSome then none else plainValue? cs

/-! ## Blocks -/

/-- What follows the dash of an item, if there is one: how far it stands from the dash, and its
text. -/
def afterDash? : List Char → Option (Nat × List Char)
  | '-' :: rest =>
    if whiteNext rest then
      let text := skipSeparators rest
      some (rest.length - text.length + 1, if text.head? = some '#' then [] else text)
    else none
  | _ => none

/-- The key at the start of a line, and what follows its colon, if there is one. -/
def key? (text : List Char) : Option (String × List Char) :=
  let finish (key rest : List Char) : Option (String × List Char) :=
    let rest := skipSeparators rest
    some (String.ofList key, if rest.head? = some '#' then [] else rest)
  if startsQuoted text then do
    let (key, r) ← quotedScalar? text
    match skipSeparators r with
    | ':' :: rest => if whiteNext rest then finish key rest else none
    | _ => none
  else do
    let (key, rest) ← splitAtColon text
    if hasComment key then none
    else if key.isEmpty || startsPlain text then finish (dropSeparatorsAtEnd key) rest
    else none

/-- The lines that are indented at least so far. -/
def deeper (least : Nat) (lines : List Line) : List Line :=
  lines.takeWhile fun l => least ≤ l.indent

mutual
/-- The block that starts with the first line, and the lines after it; a value on a line goes on
as long as lines are indented at least so far. -/
def block : Nat → Nat → List Line → Option (Json × List Line)
  | 0, _, _ => none
  | _ + 1, _, [] => none
  | fuel + 1, least, line :: rest =>
    if (afterDash? line.text).isSome then
      (items fuel line.indent (line :: rest)).map fun (js, r) => (.array js, r)
    else if (key? line.text).isSome then
      (entries fuel line.indent (line :: rest)).map fun (es, r) => (.object es, r)
    else
      let more := deeper least rest
      (lineValue? line.text more).map fun j => (j, rest.drop more.length)
termination_by structural fuel => fuel
/-- The items of a list whose dashes are indented so far. -/
def items : Nat → Nat → List Line → Option (List Json × List Line)
  | 0, _, _ => none
  | _ + 1, _, [] => some ([], [])
  | fuel + 1, indent, line :: rest =>
    if line.indent ≠ indent then some ([], line :: rest)
    else
      match afterDash? line.text with
      | none => some ([], line :: rest)
      | some (_, []) => do
        let (j, r) ← below fuel (indent + 1) rest
        let (js, r) ← items fuel indent r
        some (j :: js, r)
      | some (offset, text) => do
        let (j, r) ← block fuel (indent + 1) (⟨line.gap, indent + offset, text⟩ :: rest)
        let (js, r) ← items fuel indent r
        some (j :: js, r)
termination_by structural fuel => fuel
/-- The entries of a mapping whose keys are indented so far. -/
def entries : Nat → Nat → List Line → Option (List (String × Json) × List Line)
  | 0, _, _ => none
  | _ + 1, _, [] => some ([], [])
  | fuel + 1, indent, line :: rest =>
    if line.indent < indent then some ([], line :: rest)
    else if indent < line.indent || (afterDash? line.text).isSome then none
    else
      match key? line.text with
      | none => none
      | some (key, []) => do
        let (j, r) ← match rest with
          | next :: _ =>
            if next.indent = indent && (afterDash? next.text).isSome then
              (items fuel indent rest).map fun (js, r) => (Json.array js, r)
            else below fuel (indent + 1) rest
          | [] => some (.null, [])
        let (es, r) ← entries fuel indent r
        some ((key, j) :: es, r)
      | some (key, text) => do
        let more := deeper (indent + 1) rest
        let j ← lineValue? text more
        let (es, r) ← entries fuel indent (rest.drop more.length)
        some ((key, j) :: es, r)
termination_by structural fuel => fuel
/-- The block below a dash or a key, or `null` when no line is indented so far. -/
def below : Nat → Nat → List Line → Option (Json × List Line)
  | 0, _, _ => none
  | _ + 1, _, [] => some (.null, [])
  | fuel + 1, least, line :: rest =>
    if least ≤ line.indent then block fuel least (line :: rest) else some (.null, line :: rest)
termination_by structural fuel => fuel
end

/-- How many collections may be nested in one another. -/
def nestingLimit : Nat := 128

end SearchRequest.Yaml

namespace SearchRequest

/-- The value of a YAML text with one document; an empty text stands for `null`. -/
def Json.ofYaml? (text : String) : Option Json := do
  let lines ← Yaml.Line.ofText? text
  let (j, rest) ← match lines with
    | [] => some (.null, [])
    | lines => Yaml.block (4 * text.length + 4) 0 lines
  if rest.isEmpty && j.depth ≤ Yaml.nestingLimit then some j else none

end SearchRequest
