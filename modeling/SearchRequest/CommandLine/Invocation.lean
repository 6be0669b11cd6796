/-!
# The words of a command line

* `OutputFormat` — the formats in which a request is printed.
* `Invocation` — what a command line asks for.
* `Stop` — why a command line is not run.
* `Invocation.ofWords` — what the words of a command line ask for.
-/

namespace SearchRequest

/-- The formats in which a request is printed. -/
inductive OutputFormat where
  /-- JSON. -/
  | json
  /-- YAML. -/
  | yaml
  deriving DecidableEq, Repr

/-- What a command line asks for. -/
structure Invocation where
  /-- The file of the request; the standard input when there is none. -/
  input : Option String := none
  /-- The file of the options. -/
  options : Option String := none
  /-- The first result. -/
  start : Option UInt64 := none
  /-- How many results. -/
  length : Option UInt64 := none
  /-- The format of the output, if one is named. -/
  format : Option OutputFormat := none
  /-- Whether JSON is printed without blanks. -/
  compact : Bool := false
  /-- How much is logged. -/
  verbosity : Nat := 0
  deriving DecidableEq, Repr

/-- Why a command line is not run. -/
inductive Stop where
  /-- The words make no sense. -/
  | senseless
  /-- They ask for help. -/
  | help
  /-- They ask for the version. -/
  | version
  deriving DecidableEq, Repr

namespace Invocation

/-- The number that a word spells: digits, with a plus sign or none. -/
def number? (word : String) : Option UInt64 :=
  let ds := match word.toList with
    | '+' :: ds => ds
    | ds => ds
  if ds.isEmpty || !ds.all Char.isDigit then none
  else
    let n := ds.foldl (fun n c => 10 * n + (c.toNat - 48)) 0
    if n < 18446744073709551616 then some (UInt64.ofNat n) else none

/-- A value for a field that has none yet. -/
def once {α : Type} (field value : Option α) : Except Stop (Option α) :=
  match field, value with
  | none, some a => .ok (some a)
  | _, _ => .error .senseless

/-- The name of a file, which may not be empty. -/
def fileName? (word : String) : Option String := if word = "" then none else some word

/-- The format with a name. -/
def format? : String → Option OutputFormat
  | "json" => some .json
  | "yaml" => some .yaml
  | _ => none

/-- The invocation with a file of the request. -/
def addInput (inv : Invocation) (word : String) : Except Stop Invocation :=
  (once inv.input (fileName? word)).map fun f => { inv with input := f }

/-- The invocation with the value of a named option. -/
def addValue? (inv : Invocation) (name : String) : Option (String → Except Stop Invocation) :=
  match name with
  | "options" => some fun word =>
    (once inv.options (fileName? word)).map fun f => { inv with options := f }
  | "start" => some fun word =>
    (once inv.start (number? word)).map fun n => { inv with start := n }
  | "length" => some fun word =>
    (once inv.length (number? word)).map fun n => { inv with length := n }
  | "format" => some fun word =>
    (once inv.format (format? word)).map fun f => { inv with format := f }
  | _ => none

/-- The invocation with a switch. -/
def addSwitch (inv : Invocation) (name : String) : Except Stop Invocation :=
  match name with
  | "compact" => if inv.compact then .error .senseless else .ok { inv with compact := true }
  | "verbose" => .ok { inv with verbosity := inv.verbosity + 1 }
  | "help" => .error .help
  | "version" => .error .version
  | _ => .error .senseless

/-- The name of the switch that a letter stands for. -/
def switchOfLetter : Char → String
  | 'v' => "verbose"
  | 'h' => "help"
  | 'V' => "version"
  | _ => ""

/-- The invocation with switches of one letter. -/
def addLetters (inv : Invocation) (letters : List Char) : Except Stop Invocation :=
  letters.foldlM (fun inv c => inv.addSwitch (switchOfLetter c)) inv

/-- What a word is, before anything is known of the words after it. -/
inductive Word where
  /-- The end of the options. -/
  | endOfOptions
  /-- An option, with a value if one is joined to it. -/
  | option (name : String) (value : Option String)
  /-- Switches of one letter. -/
  | letters (cs : List Char)
  /-- Anything else. -/
  | plain (word : String)

/-- What a word is. -/
def Word.of (word : String) : Word :=
  match word.toList with
  | ['-', '-'] => .endOfOptions
  | '-' :: '-' :: cs =>
    match cs.dropWhile (· != '=') with
    | [] => .option (String.ofList cs) none
    | _ :: value => .option (String.ofList (cs.takeWhile (· != '='))) (some (String.ofList value))
  | '-' :: c :: cs => .letters (c :: cs)
  | _ => .plain word

/-- Reads words one after the other; a pending option takes the next one as its value. -/
def addWords : Invocation → Option (String → Except Stop Invocation) → List String →
    Except Stop Invocation
  | inv, none, [] => .ok inv
  | _, some _, [] => .error .senseless
  | _, some take, word :: rest =>
    match Word.of word with
    | .plain value => do
      let inv ← take value
      addWords inv none rest
    | _ => .error .senseless
  | inv, none, word :: rest =>
    match Word.of word with
    | .endOfOptions => rest.foldlM addInput inv
    | .plain word => do
      let inv ← inv.addInput word
      addWords inv none rest
    | .letters cs => do
      let inv ← inv.addLetters cs
      addWords inv none rest
    | .option name value =>
      match inv.addValue? name, value with
      | some take, some value => do
        let inv ← take value
        addWords inv none rest
      | some take, none => addWords inv (some take) rest
      | none, none => do
        let inv ← inv.addSwitch name
        addWords inv none rest
      | none, some _ => .error .senseless

/-- What the words of a command line ask for. -/
def ofWords (words : List String) : Except Stop Invocation := addWords {} none words

end Invocation

end SearchRequest
