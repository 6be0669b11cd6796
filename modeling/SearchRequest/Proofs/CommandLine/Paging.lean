import Mathlib
import SearchRequest.CommandLine.Run
import SearchRequest.Proofs.Build.Pages
import SearchRequest.Proofs.Build.Splicing
import SearchRequest.Proofs.Document.Written
import SearchRequest.Yaml.Reader

/-!
# The page that a command line lays over a request

A command line that names the first result or the length of the page prints the request with a page
of its own.  The clause that held the old page held the shape of the results too, and that shape is
gone with it.

* `Invocation.unpaged`, `Invocation.request`, `Invocation.output` — the command line without its
  page, the request that is printed, and the text of it.
* `SliceClause.Shapeless` — a page that says nothing about the shape of the results.
* `SameButPage` — two documents with the same members, apart from those of the page.
* `Yaml.Block.isSome_ofNode?_slice` — a page always has a YAML form.
* `Invocation.run_paged` — what is printed with the page, and how the document differs.
-/

namespace SearchRequest

/-- A page that says nothing about the shape of the results. -/
def SliceClause.Shapeless (s : SliceClause) : Prop :=
  s.snippet = none ∧ s.extract = none ∧ s.transform = none

/-! ## YAML of pages -/

namespace Yaml.Block

theorem isSome_rowsOfEntries?_iff (es : List (String × Node)) :
    (rowsOfEntries? es).isSome ↔ ∀ e ∈ es, (ofNode? e.2).isSome := by
  induction es with
  | nil => simp [rowsOfEntries?]
  | cons e rest ih =>
    obtain ⟨key, n⟩ := e
    rw [List.forall_mem_cons, ← ih, rowsOfEntries?]
    cases ofNode? n <;> cases rowsOfEntries? rest <;> simp

theorem isSome_rowsOfItems?_iff (ns : List Node) :
    (rowsOfItems? ns).isSome ↔ ∀ n ∈ ns, (ofNode? n).isSome := by
  induction ns with
  | nil => simp [rowsOfItems?]
  | cons n rest ih =>
    rw [List.forall_mem_cons, ← ih, rowsOfItems?]
    cases ofNode? n <;> cases rowsOfItems? rest <;> simp

theorem isSome_ofNode?_record_iff (es : List (String × Node)) :
    (ofNode? (.record es)).isSome ↔ ∀ e ∈ es, (ofNode? e.2).isSome := by
  cases es with
  | nil => simp [ofNode?]
  | cons e rest =>
    rw [← isSome_rowsOfEntries?_iff, ofNode?]
    cases rowsOfEntries? (e :: rest) <;> simp

theorem isSome_ofNode?_list_iff (ns : List Node) :
    (ofNode? (.list ns)).isSome ↔ ∀ n ∈ ns, (ofNode? n).isSome := by
  cases ns with
  | nil => simp [ofNode?]
  | cons n rest =>
    rw [← isSome_rowsOfItems?_iff, ofNode?]
    cases rowsOfItems? (n :: rest) <;> simp

mutual
/-- A JSON tree has no named cases, and so it has a YAML form. -/
theorem isSome_ofNode?_node : ∀ j : Json, (ofNode? j.node).isSome
  | .null => rfl
  | .bool _ => rfl
  | .number _ => rfl
  | .string _ => rfl
  | .array items => (isSome_ofNode?_list_iff _).2 (isSome_ofNode?_nodesOfItems items)
  | .object entries => (isSome_ofNode?_record_iff _).2 (isSome_ofNode?_nodesOfEntries entries)
theorem isSome_ofNode?_nodesOfItems :
    ∀ (js : List Json), ∀ n ∈ Json.nodesOfItems js, (ofNode? n).isSome
  | [] => nofun
  | j :: rest =>
    List.forall_mem_cons.2 ⟨isSome_ofNode?_node j, isSome_ofNode?_nodesOfItems rest⟩
theorem isSome_ofNode?_nodesOfEntries :
    ∀ (es : List (String × Json)), ∀ e ∈ Json.nodesOfEntries es, (ofNode? e.2).isSome
  | [] => nofun
  | (_, j) :: rest =>
    List.forall_mem_cons.2 ⟨isSome_ofNode?_node j, isSome_ofNode?_nodesOfEntries rest⟩
end

/-- An optional field has a YAML form if each of its values has one. -/
theorem isSome_ofNode?_optional {α : Type} {name : String} {write : α → Node} {v : Option α}
    (h : ∀ a ∈ v, (ofNode? (write a)).isSome) :
    ∀ e ∈ Node.optional name write v, (ofNode? e.2).isSome := by
  cases v with
  | none => nofun
  | some a => simpa [Node.optional] using h a rfl

theorem isSome_ofNode?_string (s : String) : (ofNode? (.string s)).isSome := rfl

theorem isSome_ofNode?_strings (ss : List String) : (ofNode? (Node.strings ss)).isSome := by
  rw [Node.strings, Node.listOf, isSome_ofNode?_list_iff, List.forall_mem_map]
  exact fun s _ => isSome_ofNode?_string s

theorem isSome_ofNode?_snippet (s : Snippet) : (ofNode? s.node).isSome := by
  rw [Snippet.node, isSome_ofNode?_record_iff]
  simp only [List.forall_mem_append]
  exact ⟨⟨⟨List.forall_mem_singleton.2 (isSome_ofNode?_string _),
    isSome_ofNode?_optional fun a _ => isSome_ofNode?_string a⟩,
    isSome_ofNode?_optional fun a _ => isSome_ofNode?_string a⟩,
    isSome_ofNode?_nodesOfEntries s.options.entries⟩

theorem isSome_ofNode?_extract (e : Extract) : (ofNode? e.node).isSome := by
  rw [Extract.node, isSome_ofNode?_record_iff]
  simp only [List.forall_mem_append]
  refine ⟨⟨List.forall_mem_singleton.2 (isSome_ofNode?_strings e.paths),
    isSome_ofNode?_optional fun m _ => ?_⟩,
    isSome_ofNode?_optional fun a _ => isSome_ofNode?_string _⟩
  rw [Node.stringMap, isSome_ofNode?_record_iff, List.forall_mem_map]
  exact fun _ _ => isSome_ofNode?_string _

theorem isSome_ofNode?_transform (t : Transform) : (ofNode? t.node).isSome := by
  obtain ⟨name, params⟩ := t
  rw [Transform.node, isSome_ofNode?_list_iff, List.forall_mem_cons]
  refine ⟨isSome_ofNode?_string name, ?_⟩
  cases params with
  | none => nofun
  | some m => exact List.forall_mem_singleton.2 (isSome_ofNode?_node (.object m.entries))

theorem isSome_ofNode?_slice (s : SliceClause) : (ofNode? s.node).isSome := by
  rw [SliceClause.node, isSome_ofNode?_record_iff]
  simp only [List.forall_mem_append]
  exact ⟨⟨⟨⟨isSome_ofNode?_optional fun _ _ => rfl,
    isSome_ofNode?_optional fun _ _ => rfl⟩,
    isSome_ofNode?_optional fun a _ => isSome_ofNode?_snippet a⟩,
    isSome_ofNode?_optional fun a _ => isSome_ofNode?_extract a⟩,
    isSome_ofNode?_optional fun a _ => isSome_ofNode?_transform a⟩

end Yaml.Block

/-! ## Documents that differ in the page only -/

/-- The members of an object. -/
def Json.members : Json → List (String × Json)
  | .object entries => entries
  | _ => []

/-- The members of a record. -/
def Node.members : Node → List (String × Node)
  | .record entries => entries
  | _ => []

section SameButPage

variable {α β : Type} {members : α → List (String × α)} {form : Node → α}

/-- The members of what stands under a key. -/
def membersUnder (members : α → List (String × α)) (key : String) (es : List (String × α)) :
    List (String × α) :=
  es.flatMap fun e => if e.1 = key then members e.2 else []

/-- The members under other keys. -/
def membersBeside (keys : List String) (es : List (String × α)) : List (String × α) :=
  es.filter fun e => !keys.contains e.1

/-- Two documents have the same members, apart from those of the page in the slice clause. -/
structure SameButPage (members : α → List (String × α)) (d d' : α) : Prop where
  /-- The other clauses are the same. -/
  clauses : membersBeside ["sliceClause"] (members d) = membersBeside ["sliceClause"] (members d')
  /-- So are the other members of the slice clause. -/
  shapes :
    membersBeside ["page-start", "page-length"]
        (membersUnder members "sliceClause" (members d)) =
      membersBeside ["page-start", "page-length"]
        (membersUnder members "sliceClause" (members d'))

/-- The written members of a record in a form. -/
def Node.formed (form : Node → α) (es : List (String × Node)) : List (String × α) :=
  es.map fun e => (e.1, form e.2)

/-- A form of written values in which a record has the members that are written. -/
def Node.IsForm (members : α → List (String × α)) (form : Node → α) : Prop :=
  ∀ es, members (form (.record es)) = Node.formed form es

theorem Node.isForm_id : Node.IsForm Node.members id := fun es => by simp [members, formed]

theorem Node.isForm_toJson : Node.IsForm Json.members toJson := Node.entriesToJson_eq_map

theorem formed_append (es fs : List (String × Node)) :
    Node.formed form (es ++ fs) = Node.formed form es ++ Node.formed form fs :=
  List.map_append

theorem membersUnder_append (key : String) (es fs : List (String × α)) :
    membersUnder members key (es ++ fs) =
      membersUnder members key es ++ membersUnder members key fs :=
  List.flatMap_append

theorem membersBeside_append (keys : List String) (es fs : List (String × α)) :
    membersBeside keys (es ++ fs) = membersBeside keys es ++ membersBeside keys fs :=
  List.filter_append es fs

section Optional

variable {name key : String} {keys : List String} {write : β → Node}

theorem membersUnder_optional (h : name ≠ key) (v : Option β) :
    membersUnder members key (Node.formed form (Node.optional name write v)) = [] := by
  cases v with
  | none => rfl
  | some b => simp [membersUnder, Node.formed, Node.optional, h]

theorem membersUnder_optional_self (v : Option β) :
    membersUnder members name (Node.formed form (Node.optional name write v)) =
      v.elim [] fun b => members (form (write b)) := by
  cases v <;> simp [membersUnder, Node.formed, Node.optional]

theorem membersBeside_optional (h : name ∉ keys) (v : Option β) :
    membersBeside keys (Node.formed form (Node.optional name write v)) =
      Node.formed form (Node.optional name write v) := by
  cases v with
  | none => rfl
  | some b => simp [membersBeside, Node.formed, Node.optional, h]

theorem membersBeside_optional_of_mem (h : name ∈ keys) (v : Option β) :
    membersBeside keys (Node.formed form (Node.optional name write v)) = [] := by
  cases v with
  | none => rfl
  | some b => simp [membersBeside, Node.formed, Node.optional, h]

theorem formed_optional_eq_nil_iff (v : Option β) :
    Node.formed form (Node.optional name write v) = [] ↔ v = none := by
  cases v <;> simp [Node.formed, Node.optional]

end Optional

/-- The members of a page that do not say where it starts and how long it is. -/
theorem SliceClause.membersBeside_page (h : Node.IsForm members form) (s : SliceClause) :
    membersBeside ["page-start", "page-length"] (members (form s.node)) =
      Node.formed form (Node.optional "transform-results" Snippet.node s.snippet) ++
        Node.formed form (Node.optional "extract-document-data" Extract.node s.extract) ++
        Node.formed form (Node.optional "document-transform" Transform.node s.transform) := by
  rw [node, h]
  simp (disch := decide) only [formed_append, membersBeside_append, membersBeside_optional,
    membersBeside_optional_of_mem, List.nil_append]

theorem SliceClause.membersBeside_page_eq_nil_iff (h : Node.IsForm members form)
    (s : SliceClause) :
    membersBeside ["page-start", "page-length"] (members (form s.node)) = [] ↔ s.Shapeless := by
  rw [s.membersBeside_page h]
  simp only [List.append_eq_nil_iff, formed_optional_eq_nil_iff, and_assoc, Shapeless]

/-- The members of the slice clause of a request. -/
theorem Request.membersUnder_slice (h : Node.IsForm members form) (r : Request) :
    membersUnder members "sliceClause" (members (form r.node)) =
      r.slice.elim [] fun s => members (form s.node) := by
  rw [node, h]
  simp (disch := decide) only [formed_append, membersUnder_append, membersUnder_optional,
    membersUnder_optional_self, List.nil_append, List.append_nil]

/-- The clauses beside the page do not depend on the page. -/
theorem Request.membersBeside_slice (h : Node.IsForm members form) (r : Request)
    (slice : Option SliceClause) :
    membersBeside ["sliceClause"] (members (form { r with slice }.node)) =
      membersBeside ["sliceClause"] (members (form r.node)) := by
  simp (disch := decide) only [node, h _, formed_append, membersBeside_append,
    membersBeside_optional_of_mem]

/-- A request whose page is replaced by one without shapes has the same document, apart from the
page, exactly if the old page had no shapes either. -/
theorem Request.sameButPage_iff (h : Node.IsForm members form) (r : Request)
    {clause : SliceClause} (hclause : clause.Shapeless) :
    SameButPage members (form r.node) (form { r with slice := some clause }.node) ↔
      ∀ s ∈ r.slice, s.Shapeless := by
  have hnew : membersBeside ["page-start", "page-length"] (membersUnder members "sliceClause"
      (members (form { r with slice := some clause }.node))) = [] := by
    rw [membersUnder_slice h]
    exact (clause.membersBeside_page_eq_nil_iff h).2 hclause
  have hold : membersBeside ["page-start", "page-length"] (membersUnder members "sliceClause"
      (members (form r.node))) = [] ↔ ∀ s ∈ r.slice, s.Shapeless := by
    rw [membersUnder_slice h]
    cases r.slice with
    | none =>
      refine iff_of_true rfl fun s hs => ?_
      cases hs
    | some s => simpa using s.membersBeside_page_eq_nil_iff h
  constructor
  · rintro ⟨-, hshapes⟩
    exact hold.1 (hshapes.trans hnew)
  · intro hshapeless
    exact ⟨(r.membersBeside_slice h (some clause)).symm, (hold.2 hshapeless).trans hnew.symm⟩

end SameButPage

/-! ## Printing -/

theorem Number.toUInt64?_ofUInt64 (n : UInt64) : (ofUInt64 n).toUInt64? = some n := by
  rw [ofUInt64]
  obtain ⟨k, hk, hint⟩ | ⟨k, hk, hnat, -⟩ := ofInt_natCast n.toNat_lt
  · rw [hk, toUInt64?, hint, if_pos (Int.natCast_nonneg _), Int.toNat_natCast, UInt64.ofNat_toNat]
  · rw [hk, toUInt64?, UInt64.toNat_inj.1 hnat]

namespace Request

/-- Setting a page leaves the YAML form of a request there, or missing. -/
theorem isSome_yaml?_setSlice (r : Request) (slice : Option SliceClause) :
    { r with slice }.node.yaml?.isSome = r.node.yaml?.isSome := by
  have hslice : ∀ slice, (∀ e ∈ Node.optional "sliceClause" SliceClause.node slice,
      (Yaml.Block.ofNode? e.2).isSome) ↔ True := fun slice => iff_true_intro <|
    Yaml.Block.isSome_ofNode?_optional fun s _ => Yaml.Block.isSome_ofNode?_slice s
  rw [Bool.eq_iff_iff, Node.yaml?, Node.yaml?, Option.isSome_map, Option.isSome_map, node, node,
    Yaml.Block.isSome_ofNode?_record_iff, Yaml.Block.isSome_ofNode?_record_iff]
  simp only [List.forall_mem_append, hslice]

/-- A request with another page cannot be printed for the same reasons as the request. -/
theorem printed_setSlice_eq_error_iff (r : Request) (slice : Option SliceClause)
    (format : OutputFormat) (compact : Bool) (e : Failure) :
    { r with slice }.printed format compact = .error e ↔ r.printed format compact = .error e := by
  cases format with
  | json => simp [printed]
  | yaml =>
    have h := r.isSome_yaml?_setSlice slice
    cases hnew : { r with slice }.node.yaml? <;> cases hold : r.node.yaml? <;>
      simp_all [printed]

end Request

/-! ## Pages of numbers -/

section Counts

open Argument

/-- A number of results as an argument. -/
def Argument.ofCount (k : UInt64) : Argument := .number (Number.ofUInt64 k)

theorem Argument.count?_ofCount (k : UInt64) : count? (ofCount k) = some k :=
  Number.toUInt64?_ofUInt64 k

theorem countAt_counts (ks : List UInt64) (i : Nat) : countAt (ks.map ofCount) i = ks[i]? := by
  rw [countAt, List.getElem?_map]
  cases ks[i]? with
  | none => rfl
  | some k => rw [Option.map_some, Option.bind_some, count?_ofCount]

theorem pageFit_counts {ks : List UInt64} (h : ks.length ≤ 2) : PageFit (ks.map ofCount) := by
  intro i a ha
  rw [List.getElem?_map] at ha
  obtain ⟨k, hk, rfl⟩ := Option.map_eq_some_iff.1 ha
  have hi := (List.getElem?_eq_some_iff.1 hk).1
  exact .inr ⟨by omega, by rw [count?_ofCount]; rfl⟩

/-- A page that is made of numbers says nothing about shapes. -/
theorem shapeless_counts (ks : List UInt64) :
    (Build.SliceParts.of (ks.map ofCount)).result.Shapeless := by
  have hsnippets : (ks.map ofCount).filterMap snippet? = [] := by simp [ofCount, snippet?]
  have hextracts : (ks.map ofCount).filterMap extract? = [] := by simp [ofCount, extract?]
  have htransforms : (ks.map ofCount).filterMap transform? = [] := by simp [ofCount, transform?]
  simp only [Build.SliceParts.result, Build.SliceParts.of, hsnippets, hextracts, htransforms]
  split
  · exact ⟨rfl, rfl, rfl⟩
  · split <;> exact ⟨rfl, rfl, rfl⟩
  · exact ⟨rfl, rfl, rfl⟩

theorem setSlice_counts {ks : List UInt64} (h : ks.length ≤ 2) (r : Request) :
    r.setSlice (ks.map ofCount) =
      .ok { r with slice := some (Build.SliceParts.of (ks.map ofCount)).result } := by
  have hunlisted : spliceSole (ks.map ofCount) = ks.map ofCount :=
    Unlisted.spliceSole_eq fun items => by simp [ofCount]
  rw [Request.setSlice_eq_ok_iff, hunlisted]
  exact ⟨pageFit_counts h, rfl⟩

/-- The arguments of a page that a command line asks for. -/
theorem pageArguments_eq {start length : Option UInt64} (h : start.isSome ∨ length.isSome) :
    pageArguments start length = some ((start.getD 1 :: length.toList).map ofCount) := by
  cases start <;> cases length <;> first | rfl | simp at h

end Counts

/-- A command line that says something about the page replaces it by one that says nothing about
shapes, and leaves the other clauses as they are. -/
theorem Request.exists_withPage {start length : Option UInt64}
    (h : start.isSome ∨ length.isSome) :
    ∃ clause : SliceClause, clause.Pages (some (start.getD 1)) length ∧ clause.Shapeless ∧
      ∀ r : Request, r.withPage start length = .ok { r with slice := some clause } := by
  have hshort : (start.getD 1 :: length.toList).length ≤ 2 := by cases length <;> simp
  have hsecond : (start.getD 1 :: length.toList)[1]? = length := by cases length <;> rfl
  have hpages := Build.SliceParts.result_pages
    ((start.getD 1 :: length.toList).map Argument.ofCount)
  rw [countAt_counts, countAt_counts, hsecond] at hpages
  refine ⟨_, hpages, shapeless_counts _, fun r => ?_⟩
  simp only [withPage, pageArguments_eq h, setSlice_counts hshort r]
  rfl

/-! ## Command lines -/

/-- The request of a JSON text whose keys are sorted already. -/
theorem Request.ofSource_of_reading {ρ : SourceReader} {t : String} {d : Draft} (m : ValueMap)
    (r : Request) (hreading : Reading.ofText ρ.floats t = ⟨d, false⟩)
    (hvalue : Decoder.value .text d = .ok m.toValue) (htext : m.toValue.tree.compact = t)
    (hread : decoder .text d = .ok r) : ofSource ρ t = .ok r.copy := by
  have hobject : ValueMap.ofSource ρ t = .ok m := by
    rw [ValueMap.ofSource, Value.ofSource, Decoder.readText, hreading]
    simp only [hvalue]
    rfl
  have hsorted : ofSorted ρ m = .ok r.copy := by
    rw [ofSorted, htext, ofText, Decoder.readText, hreading]
    simp only [hread]
    rfl
  rw [ofSource, hobject]
  exact hsorted

namespace Invocation

/-- The command line without what it says about the page. -/
def unpaged (inv : Invocation) : Invocation := { inv with start := none, length := none }

/-- The request that is printed. -/
def request (ρ : SourceReader) (inv : Invocation) (input options : Option String) :
    Except Failure Request := do
  match input with
  | none => .error (.unreadable (inv.input.getD "stdin"))
  | some text => do
    let r ← Request.ofSource ρ text
    let r ← match inv.options with
      | some file => r.withOptionsFrom ρ file options
      | none => .ok r
    r.withPage inv.start inv.length

/-- What is printed for a request. -/
def output (inv : Invocation) (r : Request) : Except Failure String := do
  let text ← r.printed (inv.format.getD .json) inv.compact
  .ok (text ++ "\n")

variable {ρ : SourceReader} {inv : Invocation}

theorem run_eq (inv : Invocation) (input options : Option String) :
    inv.run ρ input options = inv.request ρ input options >>= inv.output := by
  cases input with
  | none => rfl
  | some text =>
    simp only [run, request, bind_assoc]
    refine bind_congr fun r => ?_
    cases inv.options with
    | none => rfl
    | some file =>
      simp only [bind_assoc]
      exact bind_congr fun r => bind_congr fun r => rfl

/-- Without options, the request is the one of the source with the page. -/
theorem request_of_source {t : String} {r : Request} (hoptions : inv.options = none)
    (hsource : Request.ofSource ρ t = .ok r) {options : Option String} :
    inv.request ρ (some t) options = r.withPage inv.start inv.length := by
  rw [request]
  simp only [hsource, hoptions]
  rfl

/-- The page comes last. -/
theorem request_eq (inv : Invocation) (input options : Option String) :
    inv.request ρ input options =
      inv.unpaged.request ρ input options >>= fun r => r.withPage inv.start inv.length := by
  cases input with
  | none => rfl
  | some text =>
    simp only [request, unpaged, bind_assoc]
    refine bind_congr fun r => ?_
    cases inv.options with
    | none => rfl
    | some file =>
      simp only [bind_assoc]
      exact bind_congr fun r => rfl

theorem output_eq_error_iff (inv : Invocation) (r : Request) (e : Failure) :
    inv.output r = .error e ↔ r.printed (inv.format.getD .json) inv.compact = .error e := by
  rw [output]
  cases r.printed (inv.format.getD .json) inv.compact with
  | error e' => exact Iff.rfl
  | ok text => exact iff_of_false nofun nofun

/-- A command line that says something about the page fails as it does without; else it prints the
request with a page of its own.  The old page is gone with all that it says, so that the document is
the same, apart from the page, exactly if the old page said nothing about the shape of the
results.  It does not matter how decimals and YAML texts are read. -/
theorem run_paged (ρ : SourceReader) (inv : Invocation)
    (hpage : inv.start.isSome ∨ inv.length.isSome) :
    ∃ clause : SliceClause,
      clause.Pages (some (inv.start.getD 1)) inv.length ∧ clause.Shapeless ∧
      ∀ input options,
        (∀ e, inv.run ρ input options = .error e ↔ inv.unpaged.run ρ input options = .error e) ∧
        ∀ r, inv.unpaged.request ρ input options = .ok r →
          let r' : Request := { r with slice := some clause }
          inv.unpaged.run ρ input options = inv.output r ∧
          inv.run ρ input options = inv.output r' ∧
          (SameButPage Json.members r.json r'.json ↔ ∀ s ∈ r.slice, s.Shapeless) ∧
          (SameButPage Node.members r.node r'.node ↔ ∀ s ∈ r.slice, s.Shapeless) := by
  obtain ⟨clause, hpages, hshapeless, hset⟩ := Request.exists_withPage hpage
  refine ⟨clause, hpages, hshapeless, fun input options => ?_⟩
  cases hloaded : inv.unpaged.request ρ input options with
  | error e =>
    have hold : inv.unpaged.run ρ input options = .error e := by
      rw [run_eq, hloaded]
      rfl
    have hnew : inv.run ρ input options = .error e := by
      rw [run_eq, request_eq, hloaded]
      rfl
    exact ⟨fun _ => Eq.congr_left (hnew.trans hold.symm), fun _ h => nomatch h⟩
  | ok r =>
    have hold : inv.unpaged.run ρ input options = inv.output r := by
      rw [run_eq, hloaded]
      rfl
    have hnew : inv.run ρ input options = inv.output { r with slice := some clause } := by
      have hrequest : inv.request ρ input options = .ok { r with slice := some clause } := by
        rw [request_eq, hloaded]
        exact hset r
      rw [run_eq, hrequest]
      rfl
    constructor
    · intro e
      have hsame : inv.output { r with slice := some clause } = .error e ↔
          inv.output r = .error e := by
        rw [output_eq_error_iff, output_eq_error_iff]
        exact r.printed_setSlice_eq_error_iff (some clause) _ _ e
      exact (Eq.congr_left hnew).trans (hsame.trans (Eq.congr_left hold).symm)
    · rintro r ⟨⟩
      exact ⟨hold, hnew, r.sameButPage_iff Node.isForm_toJson hshapeless,
        r.sameButPage_iff Node.isForm_id hshapeless⟩

/-- A length alone counts from the first result; the old page starts later and says nothing about
shapes. -/
theorem run_paged_of_length :
    let ρ : SourceReader := ⟨.quick, Json.ofYaml?⟩
    let inv : Invocation := { length := some 25, compact := true }
    let input := some "\x7b\"sliceClause\":\x7b\"page-start\":3\x7d\x7d"
    ∃ clause : SliceClause,
      clause.Pages (some 1) (some 25) ∧
        inv.run ρ input none = inv.output { slice := some clause } ∧
        SameButPage Json.members (Request.json { slice := some { pageStart := some 3 } })
          (Request.json { slice := some clause }) := by
  intro ρ inv input
  let old : Request := { slice := some { pageStart := some 3 } }
  have hreading : Reading.ofText .quick "\x7b\"sliceClause\":\x7b\"page-start\":3\x7d\x7d" =
      ⟨.object [(.string "sliceClause",
        .object [(.string "page-start", .number (.signed 3))] .closed)] .closed, false⟩ := by cbv
  let entries := [("sliceClause", Json.object [("page-start", .number (.signed 3))])]
  have htext : (Json.object entries).compact =
      "\x7b\"sliceClause\":\x7b\"page-start\":3\x7d\x7d" := by cbv
  have hsource : Request.ofSource ρ "\x7b\"sliceClause\":\x7b\"page-start\":3\x7d\x7d" = .ok old :=
    Request.ofSource_of_reading (.ofJsonEntries entries) old hreading rfl htext rfl
  have hloaded : inv.unpaged.request ρ input none = .ok old := request_of_source rfl hsource
  obtain ⟨clause, hpages, -, hrun⟩ := run_paged ρ inv (.inr rfl)
  obtain ⟨-, hrun, hsame, -⟩ := (hrun input none).2 old hloaded
  refine ⟨clause, hpages, hrun, hsame.2 ?_⟩
  rintro s ⟨⟩
  exact ⟨rfl, rfl, rfl⟩

/-- Another first result takes the summary of the results away with the old page. -/
theorem not_kept_summary :
    let ρ : SourceReader := ⟨.quick, Json.ofYaml?⟩
    let inv : Invocation := { start := some 2, compact := true }
    let input := some
      "\x7b\"sliceClause\":\x7b\"transform-results\":\x7b\"apply\":\"snippet\"\x7d\x7d\x7d"
    ∃ r r' : Request,
      inv.unpaged.request ρ input none = .ok r ∧ inv.request ρ input none = .ok r' ∧
        inv.unpaged.run ρ input none = .ok (input.getD "" ++ "\n") ∧
        inv.run ρ input none = .ok "\x7b\"sliceClause\":\x7b\"page-start\":2\x7d\x7d\n" ∧
        ¬SameButPage Json.members r.json r'.json := by
  intro ρ inv input
  let old : Request := { slice := some { snippet := some { apply := "snippet" } } }
  let new : SliceClause := { pageStart := some 2 }
  have hreading : Reading.ofText .quick
      "\x7b\"sliceClause\":\x7b\"transform-results\":\x7b\"apply\":\"snippet\"\x7d\x7d\x7d" =
      ⟨.object [(.string "sliceClause", .object [(.string "transform-results",
        .object [(.string "apply", .string "snippet")] .closed)] .closed)] .closed, false⟩ := by
    cbv
  have hsource : Request.ofSource ρ
      "\x7b\"sliceClause\":\x7b\"transform-results\":\x7b\"apply\":\"snippet\"\x7d\x7d\x7d" =
        .ok old :=
    Request.ofSource_of_reading (.ofJsonEntries old.json.members) old hreading rfl (by cbv) rfl
  have hpaged : old.withPage (some 2) none = .ok { old with slice := some new } := by cbv
  have hold : inv.unpaged.request ρ input none = .ok old := request_of_source rfl hsource
  have hnew : inv.request ρ input none = .ok { old with slice := some new } :=
    (request_of_source rfl hsource).trans hpaged
  refine ⟨old, { old with slice := some new }, hold, hnew, ?_, ?_, fun hsame => ?_⟩
  · rw [run_eq, hold]
    show Except.ok (old.text ++ "\n") = _
    cbv
  · rw [run_eq, hnew]
    show Except.ok (Request.text { old with slice := some new } ++ "\n") = _
    cbv
  · have hshapeless := (old.sameButPage_iff Node.isForm_toJson ⟨rfl, rfl, rfl⟩).1 hsame _ rfl
    cases hshapeless.1

end Invocation

end SearchRequest
