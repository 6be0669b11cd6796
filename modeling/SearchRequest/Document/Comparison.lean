import SearchRequest.Document.Scalar
import SearchRequest.Text.Blank

/-!
# Comparisons and datatypes

* `RangeOperator` — the six comparisons, their tokens and their written names.
* `Datatype` — the datatype of an index, with a collation for strings.
* `knownDatatype?` — the datatypes that a bare text can name.
-/

namespace SearchRequest

/-- A comparison with the values of an index. -/
inductive RangeOperator where
  /-- Less than. -/
  | lt
  /-- Less than or equal. -/
  | le
  /-- Greater than. -/
  | gt
  /-- Greater than or equal. -/
  | ge
  /-- Equal. -/
  | eq
  /-- Not equal. -/
  | ne
  deriving DecidableEq, Repr

namespace RangeOperator

/-- The written name of a comparison. -/
def name : RangeOperator → String
  | .lt => "LT"
  | .le => "LE"
  | .gt => "GT"
  | .ge => "GE"
  | .eq => "EQ"
  | .ne => "NE"

/-- All comparisons. -/
def all : List RangeOperator := [.lt, .le, .gt, .ge, .eq, .ne]

/-- The token that an author writes for a comparison. -/
def token : RangeOperator → String
  | .lt => "<"
  | .le => "<="
  | .gt => ">"
  | .ge => ">="
  | .eq => "="
  | .ne => "!="

/-- The comparison that a text is the token of, white space around it being ignored. -/
def ofToken? (text : String) : Option RangeOperator :=
  all.find? fun o => o.token = Text.trim text

/-- A comparison as it is written. -/
def node (o : RangeOperator) : Node := .string o.name

/-- A comparison, read. -/
def decoder : Decoder RangeOperator := Decoder.oneOfNames (all.map fun o => (o.name, o))

end RangeOperator

/-- The datatypes that a bare text can name. -/
def datatypeNames : List String := [
  "xs:anyURI", "xs:date", "xs:dateTime", "xs:dayTimeDuration", "xs:decimal", "xs:double",
  "xs:float", "xs:gDay", "xs:gMonth", "xs:gMonthDay", "xs:gYear", "xs:gYearMonth", "xs:int",
  "xs:long", "xs:string", "xs:time", "xs:unsignedInt", "xs:unsignedLong",
  "xs:yearMonthDuration"]

/-- The datatype that a text names, white space around it being ignored. -/
def knownDatatype? (text : String) : Option String :=
  datatypeNames.find? fun n => n = Text.trim text

/-- Whether a text starts with the mark of a datatype name. -/
def isDatatypeLike (text : String) : Bool := "xs:".toList.isPrefixOf text.toList

/-- A datatype name with its mark. -/
def qualifyDatatype (name : String) : String :=
  if isDatatypeLike name then name else "xs:" ++ name

/-- The datatype of an index. -/
structure Datatype where
  /-- The name, with its mark. -/
  name : String
  /-- The collation of a string datatype. -/
  collation : Option String
  deriving BEq, DecidableEq, Repr

/-- Documents, or their properties. -/
inductive FragmentScope where
  /-- Only documents match. -/
  | documents
  /-- Only properties match. -/
  | properties
  deriving DecidableEq, Repr

namespace FragmentScope

/-- The name of a scope. -/
def name : FragmentScope → String
  | .documents => "documents"
  | .properties => "properties"

/-- Both scopes. -/
def all : List FragmentScope := [.documents, .properties]

/-- The scope with a name. -/
def ofName? (text : String) : Option FragmentScope := all.find? fun s => s.name = text

/-- A scope as it is written. -/
def node (s : FragmentScope) : Node := .string s.name

/-- A scope, read. -/
def decoder : Decoder FragmentScope := Decoder.oneOfNames (all.map fun s => (s.name, s))

end FragmentScope

end SearchRequest
