import SearchRequest.Text.Quoted

/-!
# Values described for error messages

* `Described` — a value as an error message shows it: named records, tuples, lists and maps.
* `Described.text` — the description on one line.
-/

namespace SearchRequest

/-- A value as an error message shows it. -/
inductive Described where
  /-- A word or a number. -/
  | word (text : String)
  /-- A text in quotation marks. -/
  | quoted (text : String)
  /-- A name with parts in parentheses. -/
  | tuple (name : String) (parts : List Described)
  /-- A name with named parts in braces. -/
  | record (name : String) (fields : List (String × Described))
  /-- Parts in brackets. -/
  | list (items : List Described)
  /-- Parts with quoted keys, in braces. -/
  | map (entries : List (String × Described))
  /-- A label before a description. -/
  | labelled (label : String) (body : Described)

namespace Described

mutual
/-- The characters of the description. -/
def chars : Described → List Char
  | .word text => text.toList
  | .quoted text => Text.quoted text
  | .tuple name [] => name.toList
  | .tuple name (p :: rest) => name.toList ++ '(' :: (chars p ++ charsOfItems rest ++ [')'])
  | .record name [] => name.toList
  | .record name ((k, p) :: rest) =>
    name.toList ++ ' ' :: '\x7b' :: ' ' :: (k.toList ++ ':' :: ' ' ::
      (chars p ++ charsOfFields rest ++ [' ', '\x7d']))
  | .list [] => ['[', ']']
  | .list (p :: rest) => '[' :: (chars p ++ charsOfItems rest ++ [']'])
  | .map [] => ['\x7b', '\x7d']
  | .map ((k, p) :: rest) =>
    '\x7b' :: (Text.quoted k ++ ':' :: ' ' :: (chars p ++ charsOfEntries rest ++ ['\x7d']))
  | .labelled label body => label.toList ++ ' ' :: chars body
/-- The parts after the first one, each after a comma. -/
def charsOfItems : List Described → List Char
  | [] => []
  | p :: rest => ',' :: ' ' :: (chars p ++ charsOfItems rest)
/-- The named parts after the first one, each after a comma. -/
def charsOfFields : List (String × Described) → List Char
  | [] => []
  | (k, p) :: rest => ',' :: ' ' :: (k.toList ++ ':' :: ' ' :: (chars p ++ charsOfFields rest))
/-- The entries after the first one, each after a comma. -/
def charsOfEntries : List (String × Described) → List Char
  | [] => []
  | (k, p) :: rest => ',' :: ' ' :: (Text.quoted k ++ ':' :: ' ' :: (chars p ++ charsOfEntries rest))
end

/-- The description on one line. -/
def text (d : Described) : String := String.ofList (chars d)

/-- A value that may be absent. -/
def option {α : Type} (describe : α → Described) : Option α → Described
  | none => .word "None"
  | some a => .tuple "Some" [describe a]

/-- A truth value. -/
def bool (b : Bool) : Described := .word (if b then "true" else "false")

/-- Several values. -/
def listOf {α : Type} (describe : α → Described) (as : List α) : Described :=
  .list (as.map describe)

/-- Several texts. -/
def texts (ss : List String) : Described := listOf .quoted ss

end Described

end SearchRequest
