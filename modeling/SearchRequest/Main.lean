import SearchRequest.CommandLine.Run
import SearchRequest.Yaml.Reader

/-!
# The command line

Reads a search request from a file or from the standard input, checks it, and prints it in its
normal form; options and a page can be put into it on the way.
-/

open SearchRequest

/-- The text of a file, if it can be read. -/
def textOfFile (file : String) : IO (Option String) := do
  try
    let text ← IO.FS.readFile file
    return some text
  catch _ => return none

/-- The rest of a stream. -/
partial def restOfStream (input : IO.FS.Stream) (text : String) : IO String := do
  let line ← input.getLine
  if line.isEmpty then return text else restOfStream input (text ++ line)

/-- The text of the request. -/
def textOfInput : Option String → IO (Option String)
  | some file => textOfFile file
  | none => do return some (← restOfStream (← IO.getStdin) "")

/-- The text of the options, if a file of options is named. -/
def textOfOptions : Option String → IO (Option String)
  | some file => textOfFile file
  | none => return none

/-- What is printed for someone who asks for help. -/
def helpText : String :=
  "Checks and normalizes a search request\n\n" ++
  "  [INPUT]            the request (the standard input when omitted)\n" ++
  "  --options FILE     options to put into it\n" ++
  "  --start START      the first result; 0 returns no results\n" ++
  "  --length LENGTH    how many results\n" ++
  "  --format FORMAT    json or yaml\n" ++
  "  --compact          print JSON without blanks\n" ++
  "  -v, --verbose      log more\n" ++
  "  -h, --help         print this\n" ++
  "  -V, --version      print the version"

/-- How the command line reads its sources. -/
def sourceReader : SourceReader := ⟨.quick, Json.ofYaml?⟩

/-- Runs the command line with the given words. -/
def main (words : List String) : IO UInt32 := do
  match Invocation.ofWords words with
  | .error .senseless =>
    IO.eprintln "error: the command line makes no sense"
    return 2
  | .error .help =>
    IO.println helpText
    return 0
  | .error .version =>
    IO.println "mlq 0.1.0"
    return 0
  | .ok inv =>
    let input ← textOfInput inv.input
    let options ← textOfOptions inv.options
    match inv.run sourceReader input options with
    | .ok output =>
      IO.print output
      return 0
    | .error failure =>
      IO.eprintln ("error: " ++ failure.message)
      return 1
