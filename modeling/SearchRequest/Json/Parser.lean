import SearchRequest.Json.Draft
import SearchRequest.Number.FloatReader

/-!
# Reading JSON text

* `Reading.ofText` — what a text holds: the draft, and whether more than blanks follows it.
* `nestingLimit` — how many arrays and objects may be nested in one another.

How a decimal becomes a number is left to a `FloatReader`.

A step takes the characters that are left and gives what it found together with the characters
after it, or with `none` where the text broke off or went wrong, so that nothing can follow.
-/

namespace SearchRequest.Json.Parser

/-- What a step found, and the characters after it if the text can be read on. -/
abbrev Step (α : Type) := α × Option (List Char)

/-- How many arrays and objects may be nested in one another. -/
def nestingLimit : Nat := 127

/-! ## Blanks -/

/-- The blanks that may stand between the parts of a text. -/
def isBlank (c : Char) : Bool := c = ' ' || c = '\n' || c = '\t' || c = '\r'

/-- The characters after the blanks at the start. -/
def skipBlanks (cs : List Char) : List Char := cs.dropWhile isBlank

/-! ## Leaves with faults -/

/-- A leaf that is not JSON. -/
def malformed : Draft := .flawed ⟨.malformed, some .malformed, .malformed⟩

/-- The place of a value at the end of the text. -/
def missing : Draft := .flawed ⟨.truncated, some .truncated, .truncated⟩

/-! ## Literals -/

/-- The rest of the literal for `value`, of which the characters in the first list are still to
come. -/
def literal (value : Draft) : List Char → List Char → Step Draft
  | [], cs => (value, some cs)
  | _ :: _, [] => (.flawed ⟨.truncated, some .truncated, .malformed⟩, none)
  | w :: ws, c :: cs => if w = c then literal value ws cs else (malformed, none)

/-! ## Numbers -/

/-- A number that stops before its digits: a text that ends here is truncated for one who wants
the number, and malformed for one who skips it. -/
def stopped : List Char → Step Draft
  | [] => (.flawed ⟨.truncated, some .malformed, .malformed⟩, none)
  | _ :: _ => (malformed, none)

/-- A floating-point number; one beyond the finite range can be skipped but not taken. -/
def floating (x : Binary64) (rest : List Char) : Step Draft :=
  match x with
  | .finite s k => (.number (.float (.finite s k)), some rest)
  | _ => (.flawed ⟨.malformed, none, .malformed⟩, some rest)

section Numbers

variable (ρ : FloatReader)

/-- The number with a fraction or an exponent. -/
def fractional (negative : Bool) (whole fraction : List Char) (power : Int) (rest : List Char) :
    Step Draft :=
  floating (ρ.read negative whole fraction power) rest

/-- The integer; minus zero and an integer beyond 64 bits are floating-point numbers. -/
def integral (negative : Bool) (digits : List Char) (rest : List Char) : Step Draft :=
  let n := Decimal.value digits
  if negative && n = 0 then (.number (.float (Binary64.zero true)), some rest)
  else if n < 18446744073709551616 then
    match Number.ofInt (if negative then -(n : Int) else n) with
    | .float x => floating x rest
    | n => (.number n, some rest)
  else fractional ρ negative digits [] 0 rest

/-- The exponent after its letter, for a number with the given digits before and after the
point. -/
def exponent (negative : Bool) (whole fraction : List Char) (cs : List Char) : Step Draft :=
  let (down, ds) := match cs with
    | '-' :: r => (true, r)
    | '+' :: r => (false, r)
    | r => (false, r)
  let power := ds.takeWhile Char.isDigit
  if power.isEmpty then stopped ds
  else
    fractional ρ negative whole fraction
      (if down then -(Decimal.value power : Int) else Decimal.value power)
      (ds.dropWhile Char.isDigit)

/-- What follows the whole digits of a number. -/
def afterWhole (negative : Bool) (whole : List Char) : List Char → Step Draft
  | '.' :: cs =>
    let fraction := cs.takeWhile Char.isDigit
    let rest := cs.dropWhile Char.isDigit
    if fraction.isEmpty then stopped rest
    else
      match rest with
      | 'e' :: r => exponent ρ negative whole fraction r
      | 'E' :: r => exponent ρ negative whole fraction r
      | _ => fractional ρ negative whole fraction 0 rest
  | 'e' :: cs => exponent ρ negative whole [] cs
  | 'E' :: cs => exponent ρ negative whole [] cs
  | cs => integral ρ negative whole cs

/-- A number after its sign.  A zero at the start stands alone. -/
def number (negative : Bool) (cs : List Char) : Step Draft :=
  let whole := cs.takeWhile Char.isDigit
  let rest := cs.dropWhile Char.isDigit
  match whole with
  | [] => stopped rest
  | '0' :: _ :: _ => (malformed, none)
  | _ => afterWhole ρ negative whole rest

end Numbers

/-! ## Strings -/

/-- A piece of a string: a character, or a 16-bit unit given by its number. -/
inductive Piece where
  /-- A character. -/
  | char (c : Char)
  /-- A 16-bit unit. -/
  | unit (n : Nat)

/-- The value of a hexadecimal digit. -/
def hexValue? (c : Char) : Option Nat :=
  if '0' ≤ c && c ≤ '9' then some (c.toNat - 48)
  else if 'a' ≤ c && c ≤ 'f' then some (c.toNat - 87)
  else if 'A' ≤ c && c ≤ 'F' then some (c.toNat - 55)
  else none

/-- The number that four hexadecimal digits denote. -/
def hexValue4? (a b c d : Char) : Option Nat := do
  let a ← hexValue? a
  let b ← hexValue? b
  let c ← hexValue? c
  let d ← hexValue? d
  some (4096 * a + 256 * b + 16 * c + d)

/-- The character that a backslash and another character stand for. -/
def simpleEscape? (c : Char) : Option Char :=
  if c = '"' || c = '\\' || c = '/' then some c
  else if c = 'b' then some '\x08'
  else if c = 'f' then some '\x0c'
  else if c = 'n' then some '\n'
  else if c = 'r' then some '\r'
  else if c = 't' then some '\t'
  else none

/-- How many bytes characters take. -/
def byteCount (cs : List Char) : Nat := cs.foldl (fun n c => n + c.utf8Size) 0

/-- The pieces of a string after its opening quotation mark: how they end, and the characters
after the closing mark. -/
def pieces : List Char → List Piece × Ending × List Char
  | [] => ([], .broken .truncated, [])
  | '"' :: rest => ([], .closed, rest)
  | '\\' :: 'u' :: rest =>
    match rest with
    | a :: b :: c :: d :: r =>
      match hexValue4? a b c d with
      | some n =>
        let (ps, ending, after) := pieces r
        (.unit n :: ps, ending, after)
      | none => ([], .broken .malformed, [])
    | few => ([], .broken (if byteCount few < 4 then .truncated else .malformed), [])
  | '\\' :: c :: rest =>
    match simpleEscape? c with
    | some e =>
      let (ps, ending, after) := pieces rest
      (.char e :: ps, ending, after)
    | none => ([], .broken .malformed, [])
  | ['\\'] => ([], .broken .truncated, [])
  | c :: rest =>
    if c.toNat < 0x20 then ([], .broken .malformed, [])
    else
      let (ps, ending, after) := pieces rest
      (.char c :: ps, ending, after)

/-- Whether a 16-bit unit is the first half of a pair. -/
def isHighHalf (n : Nat) : Bool := 0xD800 ≤ n && n ≤ 0xDBFF

/-- Whether a 16-bit unit is the second half of a pair. -/
def isLowHalf (n : Nat) : Bool := 0xDC00 ≤ n && n ≤ 0xDFFF

/-- The characters that pieces stand for, or the fault of a half that stands alone.  A first half
at the very end meets the fault that ends the string, if there is one. -/
def assemble (ending : Ending) : List Piece → Except Fault (List Char)
  | [] => .ok []
  | .char c :: rest => do
    let cs ← assemble ending rest
    .ok (c :: cs)
  | .unit n :: rest =>
    if isLowHalf n then .error .malformed
    else if isHighHalf n then
      match rest with
      | [] => .error (ending.fault?.getD .malformed)
      | .unit m :: rest' =>
        if isLowHalf m then do
          let cs ← assemble ending rest'
          .ok (Char.ofNat (0x10000 + (n - 0xD800) * 0x400 + (m - 0xDC00)) :: cs)
        else .error .malformed
      | _ => .error .malformed
    else do
      let cs ← assemble ending rest
      .ok (Char.ofNat n :: cs)

/-- A string after its opening quotation mark. -/
def string (cs : List Char) : Step Draft :=
  let (ps, ending, after) := pieces cs
  match ending, assemble ending ps with
  | .closed, .ok text => (.string (String.ofList text), some after)
  | .closed, .error f => (.flawed ⟨f, none, f⟩, some after)
  | .broken e, .ok _ => (.flawed ⟨e, some e, e⟩, none)
  | .broken e, .error f => (.flawed ⟨f, some e, f⟩, none)

/-! ## Values -/

section Values

variable (ρ : FloatReader)

/-- A leaf: a literal, a number, or what cannot be one. -/
def leaf : List Char → Step Draft
  | [] => (missing, none)
  | '"' :: cs => string cs
  | 't' :: cs => literal (.bool true) ['r', 'u', 'e'] cs
  | 'f' :: cs => literal (.bool false) ['a', 'l', 's', 'e'] cs
  | 'n' :: cs => literal .null ['u', 'l', 'l'] cs
  | '-' :: cs => number ρ true cs
  | c :: cs => if c.isDigit then number ρ false (c :: cs) else (malformed, none)

/-- A stray leaf or bracket where a key is due. -/
def stray : List Char → Draft
  | '[' :: _ => .array [] .closed
  | '\x7b' :: _ => .object [] .closed
  | cs =>
    match leaf ρ cs with
    | (.flawed flaw, _) => .flawed ⟨.malformed, some .malformed, flaw.wanted⟩
    | (d, _) => d

/-- An array or object that is nested too deeply to be taken. -/
def tooDeep (d : Draft) : Draft := .flawed ⟨.malformed, d.skipFault, .malformed⟩

mutual
/-- A value, with `room` for that many arrays and objects nested in one another. -/
def value : Nat → Nat → List Char → Step Draft
  | 0, _, _ => (malformed, none)
  | fuel + 1, room, cs =>
    match skipBlanks cs with
    | '[' :: r =>
      let (items, ending, rest) := firstItem fuel (room - 1) r
      let d := Draft.array items ending
      (if room = 0 then tooDeep d else d, rest)
    | '\x7b' :: r =>
      let (entries, ending, rest) := firstEntry fuel (room - 1) r
      let d := Draft.object entries ending
      (if room = 0 then tooDeep d else d, rest)
    | r => leaf ρ r
termination_by structural fuel => fuel
/-- The items of an array after its opening bracket. -/
def firstItem : Nat → Nat → List Char → List Draft × Ending × Option (List Char)
  | 0, _, _ => ([], .broken .malformed, none)
  | fuel + 1, room, cs =>
    match skipBlanks cs with
    | [] => ([], .broken .truncated, none)
    | ']' :: rest => ([], .closed, some rest)
    | r => item fuel room r
termination_by structural fuel => fuel
/-- An item, and those after it. -/
def item : Nat → Nat → List Char → List Draft × Ending × Option (List Char)
  | 0, _, _ => ([], .broken .malformed, none)
  | fuel + 1, room, cs =>
    match value fuel room cs with
    | (d, none) => ([d], .broken .malformed, none)
    | (d, some r) =>
      match skipBlanks r with
      | [] => ([d], .broken .truncated, none)
      | ']' :: rest => ([d], .closed, some rest)
      | ',' :: r' =>
        let (ds, ending, rest) := item fuel room r'
        (d :: ds, ending, rest)
      | _ => ([d], .broken .malformed, none)
termination_by structural fuel => fuel
/-- The entries of an object after its opening brace. -/
def firstEntry : Nat → Nat → List Char → List (Draft × Draft) × Ending × Option (List Char)
  | 0, _, _ => ([], .broken .malformed, none)
  | fuel + 1, room, cs =>
    match skipBlanks cs with
    | [] => ([], .broken .truncated, none)
    | '\x7d' :: rest => ([], .closed, some rest)
    | r => entry fuel room r
termination_by structural fuel => fuel
/-- An entry, and those after it. -/
def entry : Nat → Nat → List Char → List (Draft × Draft) × Ending × Option (List Char)
  | 0, _, _ => ([], .broken .malformed, none)
  | fuel + 1, room, cs =>
    match skipBlanks cs with
    | [] => ([(missing, missing)], .broken .truncated, none)
    | '"' :: q =>
      match string q with
      | (k, none) => ([(k, malformed)], .broken .malformed, none)
      | (k, some r) =>
        match skipBlanks r with
        | [] => ([(k, missing)], .broken .truncated, none)
        | ':' :: r' =>
          match value fuel room r' with
          | (d, none) => ([(k, d)], .broken .malformed, none)
          | (d, some r'') =>
            match skipBlanks r'' with
            | [] => ([(k, d)], .broken .truncated, none)
            | '\x7d' :: rest => ([(k, d)], .closed, some rest)
            | ',' :: r''' =>
              let (es, ending, rest) := entry fuel room r'''
              ((k, d) :: es, ending, rest)
            | _ => ([(k, d)], .broken .malformed, none)
        | _ => ([(k, malformed)], .broken .malformed, none)
    | r => ([(stray ρ r, malformed)], .broken .malformed, none)
termination_by structural fuel => fuel
end

end Values

end Json.Parser

/-- A text as it was read. -/
structure Reading where
  /-- What the text holds. -/
  root : Draft
  /-- Whether more than blanks follows. -/
  trailing : Bool

/-- What a text holds. -/
def Reading.ofText (ρ : FloatReader) (text : String) : Reading :=
  let cs := text.toList
  match Json.Parser.value ρ (3 * cs.length + 3) Json.Parser.nestingLimit cs with
  | (d, none) => ⟨d, false⟩
  | (d, some rest) => ⟨d, !(Json.Parser.skipBlanks rest).isEmpty⟩

end SearchRequest
