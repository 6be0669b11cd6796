import SearchRequest.Document.Scalar
import SearchRequest.Text.Quoted

/-!
# Names of indexes

A query names the index it reads: a JSON property, an XML element or attribute, a field, or a
path.  In a document the name is not a value of its own; its fields stand among those of the
record that uses it.

* `QName`, `PathIndex`, `IndexedName` — the names.
* `IndexedName.kind`, `IndexedName.defaultName` — what kind a name is, and the constraint name
  that can be derived from it.
* `IndexFields` — the fields of a name in a document, with `IndexFields.of`,
  `IndexFields.container` and `IndexFields.indexedName`.
-/

namespace SearchRequest

/-- An XML name. -/
structure QName where
  /-- The namespace. -/
  ns : Option String
  /-- The local name. -/
  name : String
  deriving BEq, DecidableEq, Repr

/-- A path with the namespace prefixes it uses. -/
structure PathIndex where
  /-- The path. -/
  path : String
  /-- The namespace of each prefix. -/
  namespaces : StringMap
  deriving BEq, DecidableEq

/-- The name of an index. -/
inductive IndexedName where
  /-- A JSON property. -/
  | jsonProperty (name : String)
  /-- An XML element, or an attribute of one. -/
  | element (name : QName) (attributeName : Option QName)
  /-- A field. -/
  | field (name : String)
  /-- A path. -/
  | path (path : PathIndex)
  deriving BEq, DecidableEq

namespace QName

/-- A name without a namespace. -/
def plain (name : String) : QName := ⟨none, name⟩

/-- A name in a namespace. -/
def namespaced (ns name : String) : QName := ⟨some ns, name⟩

/-- An XML name as it is written. -/
def node (q : QName) : Node :=
  .record (Node.optional "ns" .string q.ns ++ Node.member "name" (.string q.name))

/-- An XML name, read. -/
def decoder : Decoder QName :=
  Fields.record (mk <$> Fields.optional "ns" Decoder.string <*>
    Fields.required "name" Decoder.string)

end QName

namespace PathIndex

/-- Namespaces as they are written: the empty string stands for none. -/
def namespacesNode (m : StringMap) : Node :=
  if m.entries.isEmpty then .string "" else Node.stringMap m.entries

/-- Namespaces, read: a map, or the empty string. -/
def namespacesDecoder : Decoder StringMap := fun _ d => do
  match ← Decoder.settled d with
  | .string s =>
    if s = "" then .ok StringMap.empty
    else .error (.refused ("path index namespaces must be an object, got " ++
      String.ofList (Text.quoted s)))
  | j => Decoder.stringMap .held j.draft

/-- A path as it is written. -/
def node (p : PathIndex) : Node :=
  .record (Node.member "text" (.string p.path) ++
    Node.member "namespaces" (namespacesNode p.namespaces))

/-- A path, read. -/
def decoder : Decoder PathIndex :=
  Fields.record (mk <$> Fields.required "text" Decoder.string <*>
    Fields.required "namespaces" namespacesDecoder)

end PathIndex

namespace IndexedName

/-- What kind of index a name stands for. -/
def kind : IndexedName → String
  | .jsonProperty _ => "json-property"
  | .element _ (some _) => "element, attribute"
  | .element _ none => "element"
  | .field _ => "field"
  | .path _ => "path-index"

/-- The constraint name that can be derived from a name: that of a property, of a field or of an
element.  Attributes and paths have none. -/
def defaultName : IndexedName → Option String
  | .jsonProperty name => some name
  | .field name => some name
  | .element name none => some name.name
  | _ => none

end IndexedName

/-! ## The fields of a name -/

/-- The fields of an index name among those of a record. -/
structure IndexFields where
  /-- A JSON property. -/
  jsonProperty : Option String := none
  /-- An XML element. -/
  element : Option QName := none
  /-- An attribute of the element. -/
  attributeName : Option QName := none
  /-- A field. -/
  field : Option String := none
  /-- A path. -/
  pathIndex : Option PathIndex := none
  deriving BEq, DecidableEq

namespace IndexFields

/-- The fields of a name. -/
def of : IndexedName → IndexFields
  | .jsonProperty name => { jsonProperty := some name }
  | .element name attr => { element := some name, attributeName := attr }
  | .field name => { field := some name }
  | .path path => { pathIndex := some path }

/-- The fields of a name that can hold other nodes.  A field or a path cannot, and contributes
none. -/
def container : IndexedName → IndexFields
  | .field _ => {}
  | .path _ => {}
  | name => of name

/-- The name that fields stand for: the first of property, element, field and path that is
there. -/
def indexedName (f : IndexFields) : Option IndexedName :=
  match f.jsonProperty, f.element, f.field with
  | some name, _, _ => some (.jsonProperty name)
  | none, some element, _ => some (.element element f.attributeName)
  | none, none, some name => some (.field name)
  | none, none, none => f.pathIndex.map .path

/-- Whether no field is there. -/
def isEmpty (f : IndexFields) : Bool :=
  f.jsonProperty.isNone && f.element.isNone && f.attributeName.isNone && f.field.isNone &&
    f.pathIndex.isNone

/-- The entries of the fields, as they are written among others. -/
def entries (f : IndexFields) : List (String × Node) :=
  Node.optional "json-property" .string f.jsonProperty ++
    Node.optional "element" QName.node f.element ++
    Node.optional "attribute" QName.node f.attributeName ++
    Node.optional "field" .string f.field ++
    Node.optional "path-index" PathIndex.node f.pathIndex

/-- The fields as a record of their own. -/
def node (f : IndexFields) : Node := .record f.entries

/-- The fields. -/
def fields : Fields IndexFields :=
  mk <$> Fields.optional "json-property" Decoder.string <*>
    Fields.optional "element" QName.decoder <*>
    Fields.optional "attribute" QName.decoder <*>
    Fields.optional "field" Decoder.string <*>
    Fields.optional "path-index" PathIndex.decoder

/-- The fields, read as a record of their own. -/
def decoder : Decoder IndexFields := fields.record

/-- The fields, read among other entries. -/
def within (entries : List (String × Json)) : Except ReadError IndexFields :=
  fields.within entries

end IndexFields

end SearchRequest
