/-!
# The lines of a YAML text

* `Yaml.Line` — a line with something on it, its indentation, and what stands between it and the
  line before.
* `Yaml.Line.ofText?` — the lines of a text.
* `Yaml.dropComment` — a line without the comment at its end.
* `Yaml.folded` — lines joined to one text.
-/

namespace SearchRequest.Yaml

/-- What stands between a line and the one before. -/
inductive Gap where
  /-- So many empty lines. -/
  | empty (count : Nat)
  /-- A comment. -/
  | comment
  deriving DecidableEq, Repr

/-- A line with something on it. -/
structure Line where
  /-- What stands before it. -/
  gap : Gap
  /-- How far it is indented. -/
  indent : Nat
  /-- Its text, without the indentation and without blanks at its end. -/
  text : List Char
  deriving DecidableEq, Repr

/-- A space or a tab. -/
def isSeparator (c : Char) : Bool := c = ' ' || c = '\t'

/-- Characters without the separators at their end. -/
def dropSeparatorsAtEnd (cs : List Char) : List Char :=
  (cs.reverse.dropWhile isSeparator).reverse

/-- A text without a comment: a mark at the start, or after a separator, and what follows it. -/
def dropCommentAfter (separated : Bool) : List Char → List Char
  | [] => []
  | c :: rest =>
    if c = '#' && separated then [] else c :: dropCommentAfter (isSeparator c) rest

/-- A text without the comment at its end. -/
def dropComment (cs : List Char) : List Char := dropSeparatorsAtEnd (dropCommentAfter true cs)

/-- Whether a text ends with a comment. -/
def hasComment (cs : List Char) : Bool := dropCommentAfter true cs != cs

namespace Line

/-- The characters of each line. -/
def cut : List Char → List (List Char)
  | [] => [[]]
  | '\r' :: '\n' :: rest => [] :: cut rest
  | c :: rest =>
    if c = '\n' || c = '\r' then [] :: cut rest
    else
      match cut rest with
      | line :: lines => (c :: line) :: lines
      | [] => [[c]]

/-- Whether a character may stand in a text. -/
def isAllowed (c : Char) : Bool :=
  let n := c.toNat
  n == 0x09 || n == 0x0A || n == 0x0D || (0x20 ≤ n && n ≤ 0x7E) || n == 0x85 ||
    (0xA0 ≤ n && n ≤ 0xFFFD) || 0x10000 ≤ n

/-- The lines with something on them, the first of which comes after a gap.  A tab does not
indent. -/
def ofRaw? (gap : Gap) : List (List Char) → Option (List Line)
  | [] => some []
  | raw :: rest =>
    let indent := (raw.takeWhile (· == ' ')).length
    let text := dropSeparatorsAtEnd (raw.drop indent)
    if (raw.drop indent).head? = some '\t' then none
    else if text.isEmpty then
      ofRaw? (match gap with
        | .empty n => .empty (n + 1)
        | .comment => .comment) rest
    else if text.head? = some '#' then ofRaw? .comment rest
    else (ofRaw? (.empty 0) rest).map (⟨gap, indent, text⟩ :: ·)

/-- What follows a marker at the start of a line, if the line starts with it. -/
def afterMarker? (marker : String) (l : Line) : Option (List Char) :=
  if l.indent = 0 && marker.toList.isPrefixOf l.text &&
      (l.text.drop marker.length).head?.all isSeparator then
    some (dropComment (l.text.drop marker.length))
  else none

/-- Whether a line holds a marker and nothing else. -/
def isMarker (marker : String) (l : Line) : Bool := l.afterMarker? marker = some []

/-- The lines between the markers of a text with one document. -/
def ofText? (text : String) : Option (List Line) := do
  let cs := match text.toList with
    | '\ufeff' :: rest => rest
    | cs => cs
  if !cs.all isAllowed then none
  let lines ← ofRaw? (.empty 0) (cut cs)
  let lines := match lines with
    | first :: rest => if first.isMarker "---" then rest else first :: rest
    | [] => []
  let lines := match lines.reverse with
    | last :: rest => if last.isMarker "..." then rest.reverse else lines
    | [] => []
  if lines.any fun l => (l.afterMarker? "---").isSome || (l.afterMarker? "...").isSome then none
  else some lines

end Line

/-- What stands for the end of a line when the next one is joined to it: a space, or the line
ends of the empty lines between them. -/
def joint : Gap → List Char
  | .empty 0 => [' ']
  | .empty n => List.replicate n '\n'
  | .comment => ['\n']

/-- A text and the lines that continue it, as one text. -/
def folded (text : List Char) (more : List Line) : List Char :=
  text ++ more.flatMap fun l => joint l.gap ++ l.text

end SearchRequest.Yaml
