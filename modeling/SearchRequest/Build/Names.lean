import SearchRequest.Build.Error

/-!
# Building the names of indexes

* `Build.qname`, `Build.element`, `Build.attributeName` — XML names, in their several spellings.
* `Build.property`, `Build.field`, `Build.path` — the other names.
* `Argument.asIndex` — an argument that names an index; a text names a property.
* `IndexedName.requireName` — the constraint name that an index offers.
-/

namespace SearchRequest

/-- A name from its arguments: a local name, or a namespace and a local name. -/
def QName.ofArguments (combinator : String) (args : List Argument) : Build QName :=
  match Argument.spliceSole args with
  | [] => .error (.arity combinator "no name")
  | [name] => do
    let name ← name.asText combinator
    .ok (QName.plain name)
  | [ns, name] => do
    let ns ← ns.asText combinator
    let name ← name.asText combinator
    .ok (QName.namespaced ns name)
  | _ => .error (.arity combinator "too many arguments")

namespace Argument

/-- An argument that is an XML name, or a text or list that makes one. -/
def asQName (combinator : String) : Argument → Build QName
  | .qname q => .ok q
  | .list parts => QName.ofArguments combinator parts
  | a => QName.ofArguments combinator [a]

/-- An argument that names an index; a text names a property. -/
def asIndex (combinator : String) : Argument → Build IndexedName
  | .text name => .ok (.jsonProperty name)
  | .index i => .ok i
  | a => refuse combinator a

end Argument

/-- The constraint name that an index offers. -/
def IndexedName.requireName (i : IndexedName) : Build String :=
  match i.defaultName with
  | some name => .ok name
  | none => .error (.missingConstraintName i.kind)

namespace Build

/-- An XML name from a local name, or from a namespace and a local name. -/
def qname (args : List Argument) : Build QName := QName.ofArguments "qname" args

/-- A JSON property. -/
def property (name : String) : IndexedName := .jsonProperty name

/-- A field. -/
def field (name : String) : IndexedName := .field name

/-- A path with the namespaces of its prefixes; the last one of a prefix counts. -/
def path (text : String) (namespaces : List (String × String)) : IndexedName :=
  .path ⟨text, StringMap.ofList namespaces⟩

/-- An XML element, from a name in any spelling or from a namespace and a local name. -/
def element (args : List Argument) : Build IndexedName := do
  let name ← match Argument.spliceSole args with
    | [] => .error (.arity "element" "missing element")
    | [name] => name.asQName "element"
    | [ns, name] => do
      let ns ← ns.asText "element"
      let name ← name.asText "element"
      .ok (QName.namespaced ns name)
    | args =>
      .error (.arity "element" ("takes a namespace and a name, got " ++
        String.ofList (Decimal.digits args.length) ++ " arguments"))
  .ok (.element name none)

/-- A namespace and a local name as two texts. -/
def nameOfTexts (ns name : Argument) : Build QName := do
  let ns ← ns.asText "attribute"
  let name ← name.asText "attribute"
  .ok (QName.namespaced ns name)

/-- The names of an element and of an attribute, from three arguments: whichever of the first and
the last is a name, the other two make the other name. -/
def attributeOfThree : Argument → Argument → Argument → Build (QName × QName)
  | .qname element, second, third => do
    let attr ← nameOfTexts second third
    .ok (element, attr)
  | first, second, .qname attr => do
    let element ← nameOfTexts first second
    .ok (element, attr)
  | .list parts, second, third => do
    let element ← QName.ofArguments "attribute" parts
    let attr ← nameOfTexts second third
    .ok (element, attr)
  | first, second, third => do
    let element ← nameOfTexts first second
    let attr ← third.asQName "attribute"
    .ok (element, attr)

/-- An attribute of an XML element, from two names in any spelling, or with one or both of them
spread over two arguments.  Arguments after the fourth are not looked at. -/
def attributeName (args : List Argument) : Build IndexedName := do
  let (element, attr) ← match Argument.spliceSole args with
    | [] => .error (.arity "attribute" "missing element and attribute")
    | [_] => .error (.arity "attribute" "missing attribute")
    | [element, attr] => do
      let element ← element.asQName "attribute"
      let attr ← attr.asQName "attribute"
      .ok (element, attr)
    | [first, second, third] => attributeOfThree first second third
    | elementNs :: element :: attrNs :: attr :: _ => do
      let element ← nameOfTexts elementNs element
      let attr ← nameOfTexts attrNs attr
      .ok (element, attr)
  .ok (.element element (some attr))

end Build

end SearchRequest
