import SearchRequest.Json.Basic
import SearchRequest.Text.Quoted

/-!
# Writing JSON

* `Json.compact` — the text without blanks.
* `Json.pretty` — the text with each item and entry on a line of its own, two spaces deeper than
  what holds it.

A number that is not finite has no JSON text and is written `null`.  A string escapes quotation
marks, backslashes and the controls below the space, and nothing else.
-/

namespace SearchRequest.Json

/-! ## Strings and numbers -/

/-- How a character is written in a string. -/
def escapedChar (c : Char) : List Char :=
  if c = '"' then ['\\', '"']
  else if c = '\\' then ['\\', '\\']
  else if c = '\n' then ['\\', 'n']
  else if c = '\r' then ['\\', 'r']
  else if c = '\t' then ['\\', 't']
  else if c = '\x08' then ['\\', 'b']
  else if c = '\x0c' then ['\\', 'f']
  else if c.toNat < 0x20 then
    ['\\', 'u', '0', '0', Text.hexDigit (c.toNat / 16), Text.hexDigit (c.toNat % 16)]
  else [c]

/-- A string in quotation marks. -/
def stringChars (s : String) : List Char := '"' :: (s.toList.flatMap escapedChar ++ ['"'])

/-- A number, or `null` when it is not finite. -/
def numberChars (n : Number) : List Char :=
  if n.isFinite then n.text .json else "null".toList

/-- A truth value. -/
def boolChars (b : Bool) : List Char := if b then "true".toList else "false".toList

/-! ## Compact text -/

mutual
/-- The text without blanks. -/
def compactChars : Json → List Char
  | .null => "null".toList
  | .bool b => boolChars b
  | .number n => numberChars n
  | .string s => stringChars s
  | .array [] => ['[', ']']
  | .array (j :: rest) => '[' :: (compactChars j ++ compactItems rest)
  | .object [] => ['\x7b', '\x7d']
  | .object ((k, j) :: rest) =>
    '\x7b' :: (stringChars k ++ ':' :: (compactChars j ++ compactEntries rest))
/-- The items after the first one, each after a comma, and the closing bracket. -/
def compactItems : List Json → List Char
  | [] => [']']
  | j :: rest => ',' :: (compactChars j ++ compactItems rest)
/-- The entries after the first one, each after a comma, and the closing brace. -/
def compactEntries : List (String × Json) → List Char
  | [] => ['\x7d']
  | (k, j) :: rest => ',' :: (stringChars k ++ ':' :: (compactChars j ++ compactEntries rest))
end

/-- The text without blanks. -/
def compact (j : Json) : String := String.ofList (compactChars j)

/-! ## Text on several lines -/

/-- A new line with the blanks of a nesting level. -/
def newLine (level : Nat) : List Char := '\n' :: List.replicate (2 * level) ' '

mutual
/-- The text on several lines, for a value at a nesting level. -/
def prettyChars (level : Nat) : Json → List Char
  | .null => "null".toList
  | .bool b => boolChars b
  | .number n => numberChars n
  | .string s => stringChars s
  | .array [] => ['[', ']']
  | .array (j :: rest) =>
    '[' :: (newLine (level + 1) ++ prettyChars (level + 1) j ++ prettyItems level rest)
  | .object [] => ['\x7b', '\x7d']
  | .object ((k, j) :: rest) =>
    '\x7b' :: (newLine (level + 1) ++ stringChars k ++ ':' :: ' ' ::
      (prettyChars (level + 1) j ++ prettyEntries level rest))
/-- The items after the first one and the closing bracket. -/
def prettyItems (level : Nat) : List Json → List Char
  | [] => newLine level ++ [']']
  | j :: rest =>
    ',' :: (newLine (level + 1) ++ prettyChars (level + 1) j ++ prettyItems level rest)
/-- The entries after the first one and the closing brace. -/
def prettyEntries (level : Nat) : List (String × Json) → List Char
  | [] => newLine level ++ ['\x7d']
  | (k, j) :: rest =>
    ',' :: (newLine (level + 1) ++ stringChars k ++ ':' :: ' ' ::
      (prettyChars (level + 1) j ++ prettyEntries level rest))
end

/-- The text with each item and entry on a line of its own. -/
def pretty (j : Json) : String := String.ofList (prettyChars 0 j)

end SearchRequest.Json
