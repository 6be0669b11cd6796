import SearchRequest.Document.Scalar

/-!
# Functions of installed libraries

A custom constraint, facet or snippet is computed by a function of a library that is installed on
the server.  A library is known by its file name; its namespace is the file name without the
extension.

* `LibraryFunction` — the reference to a function.
* `libraryName?` — a file name without a recognised extension.
* `LibraryRoot.function?` — the reference to a function of a library file.
-/

namespace SearchRequest

/-- The reference to a function of an installed library. -/
structure LibraryFunction where
  /-- The function to call. -/
  apply : String
  /-- The namespace of the library. -/
  ns : String
  /-- The location of the library. -/
  location : String
  deriving BEq, DecidableEq, Repr

namespace LibraryFunction

/-- A reference as it is written. -/
def node (f : LibraryFunction) : Node :=
  .record [("apply", .string f.apply), ("ns", .string f.ns), ("at", .string f.location)]

/-- A reference, read. -/
def decoder : Decoder LibraryFunction :=
  Fields.record (mk <$> Fields.required "apply" Decoder.string <*>
    Fields.required "ns" Decoder.string <*> Fields.required "at" Decoder.string)

end LibraryFunction

/-- Where a library is installed. -/
inductive LibraryRoot where
  /-- Among the libraries for constraints and facets. -/
  | query
  /-- Among the libraries for snippets. -/
  | snippet
  deriving DecidableEq, Repr

/-- The extensions of library files. -/
def libraryExtensions : List String := ["xqy", "sjs", "js"]

/-- What stands before and after the last dot of a name. -/
def splitAtLastDot (cs : List Char) : Option (List Char × List Char) :=
  let reversed := cs.reverse
  match reversed.dropWhile (· != '.') with
  | [] => none
  | _ :: before => some (before.reverse, (reversed.takeWhile (· != '.')).reverse)

/-- A file name without its extension, if that is one of a library and something stands
before it. -/
def libraryName? (file : String) : Option String :=
  match splitAtLastDot file.toList with
  | some (name, extension) =>
    if !name.isEmpty && libraryExtensions.contains (String.ofList extension) then
      some (String.ofList name)
    else none
  | none => none

namespace LibraryRoot

/-- The name of the root in namespaces and locations. -/
def segment : LibraryRoot → String
  | .query => "query"
  | .snippet => "snippet"

/-- The reference to a function of a library file. -/
def function? (root : LibraryRoot) (apply file : String) : Option LibraryFunction :=
  (libraryName? file).map fun name =>
    { apply := apply
      ns := "http://marklogic.com/" ++ root.segment ++ "/custom/" ++ name
      location := "/ext/marklogic/" ++ root.segment ++ "/custom/" ++ file }

end LibraryRoot

end SearchRequest
