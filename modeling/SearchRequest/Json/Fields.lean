import SearchRequest.Json.Decoder

/-!
# Reading records

A record is written as an object or, where all its fields are its own, as an array of its fields
in order.  The fields of an object may come in any order; a key that is no field is skipped; a
field that comes twice is an error when it comes again; and a field that is missing is noticed
only at the end.  What counts is the error that the text shows first, so each field reports its
error with the position of its entry.

* `Fields α` — the fields of a record, and how to make an `α` of them.
* `Fields.required`, `Fields.optional`, `Fields.defaulted` — one field.
* `Fields.record` — the decoder of a record.
* `Fields.withOpenPart` — the decoder of a record whose other entries belong to a part of it.
-/

namespace SearchRequest

/-- What the fields are taken from. -/
inductive Cells where
  /-- From the entries of an object. -/
  | named (entries : List (Draft × Draft)) (ending : Ending)
  /-- From the items of an array. -/
  | placed (items : List Draft) (ending : Ending)

/-- A value, or an error with the position at which the text shows it. -/
abbrev Found (α : Type) := Except (Nat × ReadError) α

/-- The fields of a record, and how to make an `α` of them. -/
structure Fields (α : Type) where
  /-- The names of the fields in order. -/
  names : List String
  /-- Takes the fields, the first of which has the given place in the record. -/
  take : Origin → Nat → Cells → Found α

namespace Found

variable {α β : Type}

/-- Both values, or the error that the text shows first. -/
def both (f : Found (α → β)) (a : Found α) : Found β :=
  match f, a with
  | .ok f, .ok a => .ok (f a)
  | .error e, .ok _ => .error e
  | .ok _, .error e => .error e
  | .error e, .error e' => .error (if e'.1 < e.1 then e' else e)

/-- A value, unless the text shows an error, or shows another one before. -/
def orEarlier (a : Found α) : Option (Nat × ReadError) → Found α
  | none => a
  | some e => both (.error e) a

end Found

namespace Cells

/-- The first entry with a name, with its position. -/
def entryNamed (name : String) : Nat → List (Draft × Draft) → Option (Nat × Draft)
  | _, [] => none
  | i, (k, d) :: rest =>
    match k with
    | .string s => if s = name then some (i, d) else entryNamed name (i + 1) rest
    | _ => entryNamed name (i + 1) rest

/-- The cell of a field, with its position. -/
def cell (name : String) (place : Nat) : Cells → Option (Nat × Draft)
  | .named entries _ => entryNamed name 0 entries
  | .placed items _ => items[place]?.map fun d => (place, d)

/-- The error of an array that breaks off before a field. -/
def brokenOff? : Cells → Option (Nat × ReadError)
  | .named _ _ => none
  | .placed items ending => ending.fault?.map fun f => (items.length, ReadError.ofFault f)

/-- The error of a field that is missing: in an object it is noticed after the ending, in an array
at the place of the field. -/
def missing (place : Nat) : Cells → Nat × ReadError
  | .named entries _ => (entries.length + 1, .mismatch)
  | .placed _ _ => (place, .mismatch)

end Cells

namespace Fields

variable {α β : Type}

instance : Functor Fields where
  map f r := ⟨r.names, fun o place cells => (r.take o place cells).map f⟩

/-- Fields followed by more fields. -/
def followedBy (r : Fields (α → β)) (s : Fields α) : Fields β where
  names := r.names ++ s.names
  take o place cells :=
    Found.both (r.take o place cells) (s.take o (place + r.names.length) cells)

instance : Seq Fields where
  seq r s := followedBy r (s ())

/-- A field; `absent` is what its absence stands for, if it may be absent. -/
def field (name : String) (decoder : Decoder α) (absent : Option α) : Fields α where
  names := [name]
  take o place cells :=
    match cells.cell name place with
    | some (i, d) => (decoder o d).mapError fun e => (i, e)
    | none =>
      match cells.brokenOff?, absent with
      | some e, _ => .error e
      | none, some a => .ok a
      | none, none => .error (cells.missing place)

/-- A field that must be there. -/
def required (name : String) (decoder : Decoder α) : Fields α := field name decoder none

/-- A field that may be absent or `null`. -/
def optional (name : String) (decoder : Decoder α) : Fields (Option α) :=
  field name (Decoder.optional decoder) (some none)

/-- A field that may be absent, with a decoder that has its own way with `null`. -/
def defaulted (name : String) (decoder : Decoder α) (absent : α) : Fields α :=
  field name decoder (some absent)

/-- The first error of an entry as such, from position `i` on: a key that is none, a field that
has been seen before, or an entry that is no field and cannot be passed over. -/
def strayError (names : List String) (passOver : Draft → Option ReadError) :
    List String → Nat → List (Draft × Draft) → Option (Nat × ReadError)
  | _, _, [] => none
  | seen, i, (k, d) :: rest =>
    match k.key with
    | .error f => some (i, ReadError.ofFault f)
    | .ok s =>
      if names.contains s then
        if seen.contains s then some (i, .mismatch)
        else strayError names passOver (s :: seen) (i + 1) rest
      else
        match passOver d with
        | some e => some (i, e)
        | none => strayError names passOver seen (i + 1) rest

/-- The fields taken from an object, entries that are no field being passed over. -/
def takeNamed (fields : Fields α) (passOver : Draft → Option ReadError) (o : Origin)
    (entries : List (Draft × Draft)) (ending : Ending) : Found α :=
  let atEnd := ending.fault?.map fun f => (entries.length, ReadError.ofFault f)
  Found.orEarlier (Found.orEarlier (fields.take o 0 (.named entries ending)) atEnd)
    (strayError fields.names passOver [] 0 entries)

/-- A record with the given fields. -/
def record (fields : Fields α) : Decoder α
  | o, .object entries ending =>
    (takeNamed fields (fun d => d.skipFault.map ReadError.ofFault) o entries ending).mapError
      fun e => e.2
  | o, .array items ending => do
    let a ← (fields.take o 0 (.placed items ending)).mapError fun e => e.2
    if fields.names.length < items.length then .error (Decoder.leftover o)
    else
      match ending with
      | .closed => .ok a
      | .broken f => .error (ReadError.ofFault f)
  | _, d => .error (Decoder.mismatchOf d)

/-- The entries that are no fields, as trees. -/
def openEntries (names : List String) :
    List (Draft × Draft) → Except ReadError (List (String × Json))
  | [] => .ok []
  | (k, d) :: rest => do
    let name ← k.key.mapError ReadError.ofFault
    if names.contains name then openEntries names rest
    else do
      let j ← Decoder.settled d
      let js ← openEntries names rest
      .ok ((name, j) :: js)

/-- A record some part of which is made of the entries that are none of its fields.  They are held
as they are met, and the part is read after all fields.  Such a record is always an object. -/
def withOpenPart (fields : Fields α) (part : List (String × Json) → Except ReadError β) :
    Decoder (α × β)
  | o, .object entries ending => do
    let holdError (d : Draft) := match Decoder.settled d with
      | .ok _ => none
      | .error e => some e
    let a ← (takeNamed fields holdError o entries ending).mapError fun e => e.2
    let rest ← openEntries fields.names entries
    let b ← part rest
    .ok (a, b)
  | _, d => .error (Decoder.mismatchOf d)

/-- A part that is itself a record, among entries that may belong to others. -/
def within (fields : Fields α) (entries : List (String × Json)) : Except ReadError α :=
  fields.record .buffered (Json.object entries).draft

end Fields

/-- A part that is one of several named cases: the first entry that names one, among entries that
may belong to others. -/
def Decoder.caseWithin {α : Type} (cases : List (String × Decoder α)) :
    List (String × Json) → Except ReadError α
  | [] => .error .mismatch
  | (name, j) :: rest =>
    match Decoder.caseNamed? name cases with
    | some decoder => decoder .buffered j.draft
    | none => Decoder.caseWithin cases rest

end SearchRequest
