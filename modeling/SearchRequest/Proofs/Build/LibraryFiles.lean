import SearchRequest.Build.SearchTexts
import SearchRequest.Proofs.Build.Identification
import SearchRequest.Proofs.Build.SnippetRestoration

/-!
# The file names of libraries

A file name stands for a library if it is a name followed by one of three extensions.  Constraints,
facets and snippets take their functions from such files.

* `LibraryFile` — the grammar: a file name consists of the name of a library and an extension.
* `libraryName?_eq_some_iff` — splitting at the last dot accepts exactly the grammar.
* `LibraryRoot.reference` — the reference to a function of a file with a name.
* `Build.TakesLibrary` — a call accepts a file exactly if the grammar does, and gives what is made
  of references to its functions.
* `Build.ParseFunctionRest` — what is accepted after the file of a constraint.
* `Snippet.ofFunction` — the snippet that a function of a library makes.
* `Build.libraryFiles_agree` — the functions that are given a file name all do so.
-/

namespace SearchRequest

open Argument

/-! ## The grammar -/

/-- A file name is the name of a library with an extension. -/
structure LibraryFile (name file : String) : Prop where
  /-- There is a name. -/
  ne_empty : name ≠ ""
  /-- An extension follows it. -/
  spelt : file = name ++ ".xqy" ∨ file = name ++ ".sjs" ∨ file = name ++ ".js"

theorem splitAtLastDot_append {name extension : List Char} (h : '.' ∉ extension) :
    splitAtLastDot (name ++ '.' :: extension) = some (name, extension) := by
  have hall : ∀ c ∈ extension.reverse, (c != '.') = true := by
    intro c hc
    have hne : c ≠ '.' := fun heq => h (heq ▸ List.mem_reverse.1 hc)
    simpa using hne
  have hreverse : (name ++ '.' :: extension).reverse =
      extension.reverse ++ '.' :: name.reverse := by simp
  have hdrop : (extension.reverse ++ '.' :: name.reverse).dropWhile (· != '.') =
      '.' :: name.reverse := by
    rw [List.dropWhile_append_of_pos hall]
    rfl
  have htake : (extension.reverse ++ '.' :: name.reverse).takeWhile (· != '.') =
      extension.reverse := by
    rw [List.takeWhile_append_of_pos hall]
    simp
  simp only [splitAtLastDot, hreverse, hdrop, htake, List.reverse_reverse]

/-- Splitting at the last dot undoes joining with a dot, if the second part has none. -/
theorem splitAtLastDot_eq_some_iff {cs name extension : List Char} :
    splitAtLastDot cs = some (name, extension) ↔
      cs = name ++ '.' :: extension ∧ '.' ∉ extension := by
  constructor
  · intro h
    simp only [splitAtLastDot] at h
    split at h
    · cases h
    · next c before hdrop =>
      obtain ⟨rfl, rfl⟩ := Prod.mk.inj (Option.some.inj h)
      have hdot : c = '.' := by
        have hhead := List.head?_dropWhile_not (· != '.') cs.reverse
        rw [hdrop] at hhead
        simpa using hhead
      constructor
      · have hsplit := List.takeWhile_append_dropWhile (p := (· != '.')) (l := cs.reverse)
        rw [hdrop, hdot] at hsplit
        calc cs = (cs.reverse.takeWhile (· != '.') ++ '.' :: before).reverse := by
              rw [hsplit, List.reverse_reverse]
          _ = _ := by simp
      · intro hmem
        have htrue := List.mem_takeWhile_imp (List.mem_reverse.1 hmem)
        simp at htrue
  · rintro ⟨rfl, hdot⟩
    exact splitAtLastDot_append hdot

theorem mem_libraryExtensions_iff {e : String} :
    e ∈ libraryExtensions ↔ e = "xqy" ∨ e = "sjs" ∨ e = "js" := by
  simp [libraryExtensions]

/-- The extensions of libraries have no dot. -/
theorem dot_notMem_of_mem_libraryExtensions {e : String} (h : e ∈ libraryExtensions) :
    '.' ∉ e.toList := by
  rcases mem_libraryExtensions_iff.1 h with rfl | rfl | rfl <;> decide

/-- A file name as a name, a dot and an extension. -/
theorem libraryFile_iff {name file : String} :
    LibraryFile name file ↔
      name ≠ "" ∧ ∃ e ∈ libraryExtensions, file.toList = name.toList ++ '.' :: e.toList := by
  have hspelt : ∀ e : String, file = name ++ String.ofList ('.' :: e.toList) ↔
      file.toList = name.toList ++ '.' :: e.toList := by
    intro e
    rw [← String.toList_inj, String.toList_append, String.toList_ofList]
  constructor
  · rintro ⟨hne, h | h | h⟩
    · exact ⟨hne, "xqy", by decide, (hspelt "xqy").1 h⟩
    · exact ⟨hne, "sjs", by decide, (hspelt "sjs").1 h⟩
    · exact ⟨hne, "js", by decide, (hspelt "js").1 h⟩
  · rintro ⟨hne, e, he, h⟩
    rcases mem_libraryExtensions_iff.1 he with rfl | rfl | rfl
    · exact ⟨hne, .inl ((hspelt "xqy").2 h)⟩
    · exact ⟨hne, .inr (.inl ((hspelt "sjs").2 h))⟩
    · exact ⟨hne, .inr (.inr ((hspelt "js").2 h))⟩

/-- Splitting at the last dot accepts exactly the grammar. -/
theorem libraryName?_eq_some_iff {file name : String} :
    libraryName? file = some name ↔ LibraryFile name file := by
  rw [libraryFile_iff]
  constructor
  · intro h
    unfold libraryName? at h
    split at h
    · next cs extension hsplit =>
      obtain ⟨hfile, -⟩ := splitAtLastDot_eq_some_iff.1 hsplit
      split at h
      · next hok =>
        obtain ⟨hne, hext⟩ := Bool.and_eq_true_iff.1 hok
        obtain rfl := Option.some.inj h
        refine ⟨?_, String.ofList extension, by simpa using hext, ?_⟩
        · intro hempty
          have hnil : cs = [] := by simpa using congrArg String.toList hempty
          simp [hnil] at hne
        · simpa using hfile
      · cases h
    · cases h
  · rintro ⟨hne, e, he, hfile⟩
    have hsplit : splitAtLastDot file.toList = some (name.toList, e.toList) :=
      splitAtLastDot_eq_some_iff.2 ⟨hfile, dot_notMem_of_mem_libraryExtensions he⟩
    have hname : name.toList ≠ [] := by simpa using hne
    simp [libraryName?, hsplit, hname, he]

theorem libraryName?_eq_none_iff {file : String} :
    libraryName? file = none ↔ ∀ name, ¬LibraryFile name file := by
  simp only [Option.eq_none_iff_forall_ne_some, ne_eq, libraryName?_eq_some_iff]

/-- A file name is that of one library at most. -/
theorem LibraryFile.unique {name name' file : String} (h : LibraryFile name file)
    (h' : LibraryFile name' file) : name = name' :=
  Option.some.inj ((libraryName?_eq_some_iff.2 h).symm.trans (libraryName?_eq_some_iff.2 h'))

/-! ## References -/

/-- The reference to a function of a library file: the namespace ends in the name of the library,
and the location in that of the file. -/
def LibraryRoot.reference (root : LibraryRoot) (apply name file : String) : LibraryFunction where
  apply := apply
  ns := "http://marklogic.com/" ++ root.segment ++ "/custom/" ++ name
  location := "/ext/marklogic/" ++ root.segment ++ "/custom/" ++ file

namespace Build

section TakesLibrary

variable {α β : Type} {call : Build α} {root : LibraryRoot} {file : String}
  {make : (String → LibraryFunction) → α}

/-- A call that is given a file makes something of references to functions of the file if it is one
of a library, and fails if it is not. -/
structure TakesLibrary (call : Build α) (root : LibraryRoot) (file : String)
    (make : (String → LibraryFunction) → α) : Prop where
  /-- The file of a library is accepted. -/
  accepted : ∀ name, LibraryFile name file →
    call = .ok (make fun apply => root.reference apply name file)
  /-- Any other file is refused. -/
  refused : (∀ name, ¬LibraryFile name file) → call = .error (.missingExtension file)

theorem TakesLibrary.map (h : TakesLibrary call root file make) (g : α → β) :
    TakesLibrary (call.map g) root file fun f => g (make f) where
  accepted name hname := by rw [h.accepted name hname, Except.map]
  refused hnone := by rw [h.refused hnone, Except.map]

/-- Calls that are given the same file are accepted or refused together. -/
theorem TakesLibrary.isOk_eq {call' : Build β} {root' : LibraryRoot}
    {make' : (String → LibraryFunction) → β} (h : TakesLibrary call root file make)
    (h' : TakesLibrary call' root' file make') : call.isOk = call'.isOk := by
  by_cases hname : ∃ name, LibraryFile name file
  · obtain ⟨name, hname⟩ := hname
    rw [h.accepted name hname, h'.accepted name hname]
    rfl
  · have hnone := not_exists.1 hname
    rw [h.refused hnone, h'.refused hnone]
    rfl

theorem libraryName_eq_ok_iff {name : String} :
    libraryName file = .ok name ↔ LibraryFile name file := by
  rw [← libraryName?_eq_some_iff, libraryName]
  split
  · next h => simp [h]
  · next h => simp [h]

theorem libraryName_eq_error (h : ∀ name, ¬LibraryFile name file) :
    libraryName file = .error (.missingExtension file) := by
  rw [libraryName, libraryName?_eq_none_iff.2 h]

theorem libraryFunction_takes (root : LibraryRoot) (apply file : String) :
    TakesLibrary (libraryFunction root apply file) root file fun f => f apply where
  accepted name hname := by
    rw [libraryFunction, LibraryRoot.function?, libraryName?_eq_some_iff.2 hname]
    rfl
  refused hnone := by
    rw [libraryFunction, LibraryRoot.function?, libraryName?_eq_none_iff.2 hnone]
    rfl

end TakesLibrary

/-! ## Facets and constraints -/

theorem calculateFunction_takes (file : String) :
    TakesLibrary (calculateFunction file) .query file
      fun f => ⟨f "start-facet", f "finish-facet"⟩ where
  accepted name hname := by
    rw [calculateFunction, (libraryFunction_takes .query "start-facet" file).accepted name hname,
      (libraryFunction_takes .query "finish-facet" file).accepted name hname]
    rfl
  refused hnone := by
    rw [calculateFunction, (libraryFunction_takes .query "start-facet" file).refused hnone]
    rfl

/-- A run over arguments begins with a step. -/
theorem foldlM_cons_ok {P : Type} {add : P → Argument → Build P} {p p' : P} {a : Argument}
    {rest : List Argument} (h : (a :: rest).foldlM add p = .ok p') :
    ∃ q, add p a = .ok q ∧ rest.foldlM add q = .ok p' := by
  rw [List.foldlM_cons] at h
  exact bind_eq_ok h

/-- What `parseFunction` may be given after a file: the name of the constraint, with or without
options, in either order. -/
inductive ParseFunctionRest : List Argument → String → Option (List String) → Prop
  /-- The name only. -/
  | name (n) : ParseFunctionRest [.bind n] n none
  /-- The name, and then options. -/
  | nameFirst (n os) : ParseFunctionRest [.bind n, .termOptions os] n (some os)
  /-- Options, and then the name. -/
  | optionsFirst (n os) : ParseFunctionRest [.termOptions os, .bind n] n (some os)

/-- The name and the options are accepted once. -/
theorem parseFunctionParts_add_cases {a : Argument} {p p' : ParseFunctionParts}
    (h : p.add a = .ok p') :
    (∃ n, a = .bind n ∧ p.name = none ∧ p' = { p with name := n }) ∨
      ∃ os, a = .termOptions os ∧ p.options = none ∧ p' = { p with options := some os } := by
  unfold ParseFunctionParts.add at h
  split at h
  · next n =>
    split at h
    · next hname => exact .inl ⟨n, rfl, by simpa using hname, (Except.ok.inj h).symm⟩
    · cases h
  · next os =>
    split at h
    · next hoptions => exact .inr ⟨os, rfl, by simpa using hoptions, (Except.ok.inj h).symm⟩
    · cases h
  · cases h

/-- Where there are a name and options, no other argument is accepted. -/
theorem eq_nil_of_parseFunctionParts {rest : List Argument} {n : String} {os : List String}
    {p : ParseFunctionParts} (h : rest.foldlM ParseFunctionParts.add ⟨n, os⟩ = .ok p) :
    rest = [] := by
  cases rest with
  | nil => rfl
  | cons a rest =>
    obtain ⟨q, hq, -⟩ := foldlM_cons_ok h
    obtain ⟨_, -, hnone, -⟩ | ⟨_, -, hnone, -⟩ := parseFunctionParts_add_cases hq <;> cases hnone

/-- After the name, only options are accepted. -/
theorem parseFunctionRest_of_named {rest : List Argument} {n name : String}
    {options : Option (List String)}
    (h : rest.foldlM ParseFunctionParts.add ⟨some n, none⟩ = .ok ⟨some name, options⟩) :
    ParseFunctionRest (.bind n :: rest) name options := by
  cases rest with
  | nil =>
    cases h
    exact .name _
  | cons a rest =>
    obtain ⟨q, hq, hrest⟩ := foldlM_cons_ok h
    obtain ⟨_, -, hnone, -⟩ | ⟨os, rfl, -, rfl⟩ := parseFunctionParts_add_cases hq
    · cases hnone
    · obtain rfl := eq_nil_of_parseFunctionParts hrest
      cases hrest
      exact .nameFirst _ _

/-- After options, only the name is accepted, and it is needed. -/
theorem parseFunctionRest_of_options {rest : List Argument} {os : List String} {name : String}
    {options : Option (List String)}
    (h : rest.foldlM ParseFunctionParts.add ⟨none, some os⟩ = .ok ⟨some name, options⟩) :
    ParseFunctionRest (.termOptions os :: rest) name options := by
  cases rest with
  | nil => cases h
  | cons a rest =>
    obtain ⟨q, hq, hrest⟩ := foldlM_cons_ok h
    obtain ⟨n, rfl, -, rfl⟩ | ⟨_, -, hnone, -⟩ := parseFunctionParts_add_cases hq
    · obtain rfl := eq_nil_of_parseFunctionParts hrest
      cases hrest
      exact .optionsFirst _ _
    · cases hnone

theorem foldlM_parseFunctionParts_iff {rest : List Argument} {name : String}
    {options : Option (List String)} :
    rest.foldlM ParseFunctionParts.add {} = .ok ⟨some name, options⟩ ↔
      ParseFunctionRest rest name options := by
  constructor
  · intro h
    cases rest with
    | nil => cases h
    | cons a rest =>
      obtain ⟨q, hq, hrest⟩ := foldlM_cons_ok h
      obtain ⟨n, rfl, -, rfl⟩ | ⟨os, rfl, -, rfl⟩ := parseFunctionParts_add_cases hq
      · exact parseFunctionRest_of_named hrest
      · exact parseFunctionRest_of_options hrest
  · rintro (_ | _ | _) <;> rfl

/-- Before a name and options, a text is taken for the file of a library. -/
theorem parseFunction_takes {args rest : List Argument} {file name : String}
    {options : Option (List String)} (hargs : spliceSole args = .text file :: rest)
    (h : ParseFunctionRest rest name options) :
    TakesLibrary (parseFunction args) .query file
      fun f => .constraint ⟨name, .custom ⟨f "parse", false, options⟩⟩ := by
  have hcall : parseFunction args = (libraryFunction .query "parse" file).map
      fun f => .constraint ⟨name, .custom ⟨f, false, options⟩⟩ := by
    have hrest := foldlM_parseFunctionParts_iff.2 h
    match rest, hargs, hrest with
    | second :: rest, hargs, hrest =>
      simp only [parseFunction, hargs, asText, Bind.bind, Except.bind, hrest]
      cases libraryFunction .query "parse" file <;> rfl
  rw [hcall]
  exact (libraryFunction_takes .query "parse" file).map _

/-- Nothing else is accepted. -/
theorem parseFunctionRest_of_ok {args : List Argument} {q : Query}
    (h : parseFunction args = .ok q) :
    ∃ file rest name options, spliceSole args = .text file :: rest ∧
      ParseFunctionRest rest name options := by
  unfold parseFunction at h
  split at h
  · next first second rest hargs =>
    obtain ⟨file, hfile, h⟩ := bind_eq_ok h
    obtain ⟨⟨name, options⟩, hp, h⟩ := bind_eq_ok h
    match name, h, hp with
    | some name, _, hp =>
      exact ⟨file, second :: rest, name, options, by rw [hargs, asText_eq_ok hfile],
        foldlM_parseFunctionParts_iff.1 hp⟩
  · cases h

end Build

/-! ## Snippets -/

/-- An argument is an object. -/
def Argument.IsObject (a : Argument) : Prop := ∃ v m, a = .json v ∧ v.object? = some m

namespace Snippet

/-- The texts that an argument gives under a key. -/
def textsUnder (key : String) : Argument → List String
  | .json v =>
    match v.object? with
    | some m => m.toList.flatMap fun e => if e.1 = key then e.2.tree.string?.toList else []
    | none => []
  | _ => []

/-- The last text that arguments give under a key. -/
def lastText? (key : String) (args : List Argument) : Option String :=
  (args.flatMap (textsUnder key)).getLast?

theorem mem_ownFields_names {k : String} :
    k ∈ ownFields.names ↔ k = "apply" ∨ k = "ns" ∨ k = "at" := by
  have hlist : ownFields.names = ["apply", "ns", "at"] := rfl
  simp [hlist]

/-- The field of a snippet that is written under a key. -/
def own? (s : Snippet) : String → Option String
  | "apply" => some s.apply
  | "ns" => s.ns
  | "at" => s.location
  | _ => none

/-- The snippet with a function of a library. -/
def withFunction (s : Snippet) (f : LibraryFunction) : Snippet :=
  { s with apply := f.apply, ns := some f.ns, location := some f.location }

/-- The snippet that a function makes: texts after its file come in place of its parts. -/
def ofFunction (f : LibraryFunction) (after : List Argument) (options : ValueMap) : Snippet where
  apply := (lastText? "apply" after).getD f.apply
  ns := some ((lastText? "ns" after).getD f.ns)
  location := some ((lastText? "at" after).getD f.location)
  options := options

theorem own?_ofFunction {k : String} (hk : k ∈ ownFields.names) (s : Snippet)
    (f : LibraryFunction) (after : List Argument) (options : ValueMap) :
    (ofFunction f after options).own? k = (lastText? k after).or ((s.withFunction f).own? k) := by
  have hnames : k = "apply" ∨ k = "ns" ∨ k = "at" := mem_ownFields_names.1 hk
  rcases hnames with rfl | rfl | rfl
  · show some ((lastText? "apply" after).getD f.apply) = _
    cases lastText? "apply" after <;> rfl
  · show some ((lastText? "ns" after).getD f.ns) = _
    cases lastText? "ns" after <;> rfl
  · show some ((lastText? "at" after).getD f.location) = _
    cases lastText? "at" after <;> rfl

/-- A snippet consists of its own fields and the options. -/
theorem ext_own {s t : Snippet} (hown : ∀ k ∈ ownFields.names, s.own? k = t.own? k)
    (hoptions : s.options.entries = t.options.entries) : s = t := by
  obtain ⟨apply, ns, location, ⟨entries, _⟩⟩ := s
  obtain ⟨apply', ns', location', ⟨entries', _⟩⟩ := t
  have happly : some apply = some apply' := hown "apply" (by decide)
  have hns : ns = ns' := hown "ns" (by decide)
  have hlocation : location = location' := hown "at" (by decide)
  obtain rfl := Option.some.inj happly
  obtain rfl : entries = entries' := hoptions
  rw [hns, hlocation]

end Snippet

namespace Build

/-- A name that is built in is not that of a library file. -/
theorem builtinSnippeter?_of_libraryFile {name file : String} (h : LibraryFile name file) :
    builtinSnippeter? file = none := by
  have hnone : ∀ s ∈ ["empty", "metadata", "snippet"], libraryName? s = none := by
    decide
  have hsome := libraryName?_eq_some_iff.2 h
  unfold builtinSnippeter?
  split
  · rw [hnone "empty" (by simp)] at hsome
    cases hsome
  · rw [hnone "metadata" (by simp)] at hsome
    cases hsome
  · rw [hnone "snippet" (by simp)] at hsome
    cases hsome
  · rfl

/-- Where each step sets a field to the last of some values, all steps together set it to the last
of all. -/
theorem foldl_last {σ ε β : Type} {step : σ → ε → σ} {given : ε → List β} (field : σ → Option β)
    (h : ∀ s e, field (step s e) = (given e).getLast?.or (field s)) (es : List ε) (s : σ) :
    field (es.foldl step s) = (es.flatMap given).getLast?.or (field s) := by
  induction es generalizing s with
  | nil => rfl
  | cons e rest ih =>
    rw [List.foldl_cons, ih, h, List.flatMap_cons, List.getLast?_append, Option.or_assoc]

/-- A text under the key of a field sets the field. -/
theorem addOption_own? {k : String} (hk : k ∈ Snippet.ownFields.names) (s : Snippet) (key : String)
    (v : Value) :
    (SnippetParts.addOption s key v).own? k =
      (if key = k then v.tree.string?.toList else []).getLast?.or (s.own? k) := by
  have hnames : k = "apply" ∨ k = "ns" ∨ k = "at" := Snippet.mem_ownFields_names.1 hk
  unfold SnippetParts.addOption
  split
  · next text htext => rcases hnames with rfl | rfl | rfl <;> simp [Snippet.own?, htext]
  · next text htext => rcases hnames with rfl | rfl | rfl <;> simp [Snippet.own?, htext]
  · next text htext => rcases hnames with rfl | rfl | rfl <;> simp [Snippet.own?, htext]
  · next key _ _ happly hns hat =>
    have hgiven : (if key = k then v.tree.string?.toList else []) = [] := by
      split
      · next hkey =>
        cases htext : v.tree.string? with
        | none => rfl
        | some text => rcases hnames with rfl | rfl | rfl <;> simp_all
      · rfl
    rw [hgiven]
    rcases hnames with rfl | rfl | rfl <;> rfl

theorem add_object {v : Value} {m : ValueMap} (h : v.object? = some m) (p : SnippetParts) :
    p.add (.json v) =
      .ok { p with snippet := m.toList.foldl (fun s (key, v) => SnippetParts.addOption s key v)
                                p.snippet } := by
  simp only [SnippetParts.add, h]

/-- An argument that is accepted is an object, or the first name. -/
theorem add_cases {a : Argument} {p p' : SnippetParts} (h : p.add a = .ok p') :
    a.IsObject ∧ p'.named = p.named ∨ p.named = false ∧ p'.named = true := by
  unfold SnippetParts.add at h
  split at h
  · split at h
    · cases h
    · next hnamed =>
      obtain ⟨s, -, h⟩ := bind_eq_ok h
      cases h
      exact .inr ⟨by simpa using hnamed, rfl⟩
  · next v =>
    split at h
    · next m hobject =>
      cases h
      exact .inl ⟨⟨v, m, rfl, hobject⟩, rfl⟩
    · cases h
  · cases h

/-- Once there is a name there always is one. -/
theorem foldlM_add_named {args : List Argument} {p p' : SnippetParts}
    (h : args.foldlM SnippetParts.add p = .ok p') (hnamed : p.named = true) :
    p'.named = true := by
  induction args generalizing p with
  | nil =>
    cases h
    exact hnamed
  | cons a rest ih =>
    obtain ⟨q, hq, hrest⟩ := foldlM_cons_ok h
    obtain ⟨-, hsame⟩ | ⟨-, hq⟩ := add_cases hq
    · exact ih hrest (hsame.trans hnamed)
    · exact ih hrest hq

/-- Without another name, arguments are accepted only if they are objects. -/
theorem isObject_of_foldlM_add {args : List Argument} {p p' : SnippetParts}
    (h : args.foldlM SnippetParts.add p = .ok p') (hnamed : p'.named = p.named) :
    ∀ a ∈ args, a.IsObject := by
  induction args generalizing p with
  | nil => exact nofun
  | cons a rest ih =>
    obtain ⟨q, hq, hrest⟩ := foldlM_cons_ok h
    obtain ⟨ha, hsame⟩ | ⟨hp, hq⟩ := add_cases hq
    · exact List.forall_mem_cons.2 ⟨ha, ih hrest (hnamed.trans hsame.symm)⟩
    · rw [hp, foldlM_add_named hrest hq] at hnamed
      cases hnamed

/-- Objects are accepted, and the texts that they give set fields. -/
theorem foldlM_add_objects {args : List Argument} (h : ∀ a ∈ args, a.IsObject) (p : SnippetParts) :
    ∃ s, args.foldlM SnippetParts.add p = .ok ⟨s, p.named⟩ ∧ ∀ k ∈ Snippet.ownFields.names,
      s.own? k = (Snippet.lastText? k args).or (p.snippet.own? k) := by
  induction args generalizing p with
  | nil => exact ⟨p.snippet, rfl, fun k _ => rfl⟩
  | cons a rest ih =>
    obtain ⟨⟨v, m, rfl, hobject⟩, hrest⟩ := List.forall_mem_cons.1 h
    obtain ⟨s, hs, hown⟩ := ih hrest _
    rw [List.foldlM_cons, add_object hobject]
    refine ⟨s, hs, fun k hk => ?_⟩
    have hfields := foldl_last (Snippet.own? · k) (fun s e => addOption_own? hk s e.1 e.2)
      m.toList p.snippet
    rw [hown k hk, hfields, Snippet.lastText?, Snippet.lastText?, List.flatMap_cons,
      List.getLast?_append, Option.or_assoc, Snippet.textsUnder, hobject]

theorem setName_takes (s : Snippet) {file : String} (h : builtinSnippeter? file = none) :
    TakesLibrary (SnippetParts.setName s file) .snippet file
      fun f => s.withFunction (f "snippet") := by
  have hset : SnippetParts.setName s file =
      (libraryFunction .snippet "snippet" file).map s.withFunction := by
    rw [SnippetParts.setName, h]
    cases libraryFunction .snippet "snippet" file <;> rfl
  rw [hset]
  exact (libraryFunction_takes .snippet "snippet" file).map s.withFunction

/-- A call of `snippet` with a name between other arguments. -/
theorem snippet_of_name {args before after : List Argument} {file : String} {q : Snippet}
    (hargs : spliceSole args = before ++ .text file :: after)
    (hq : before.foldlM SnippetParts.add {} = .ok ⟨q, false⟩) :
    snippet args = (SnippetParts.setName q file).bind fun t =>
      (after.foldlM SnippetParts.add ⟨t, true⟩).map SnippetParts.snippet := by
  rw [snippet, hargs, List.foldlM_append, hq]
  simp only [Bind.bind, Except.bind, List.foldlM_cons, SnippetParts.add, Bool.false_eq_true,
    if_false]
  cases SnippetParts.setName q file with
  | error e => rfl
  | ok t => cases after.foldlM SnippetParts.add ⟨t, true⟩ <;> rfl

/-- Between objects, a name that is not built in is taken for the file of a library. -/
theorem snippet_takes {args before after : List Argument} {file : String}
    (hargs : spliceSole args = before ++ .text file :: after)
    (hobjects : ∀ a ∈ before ++ after, a.IsObject) (hfile : builtinSnippeter? file = none) :
    ∃ options : ValueMap,
      options.entries = Json.sortEntries ((before ++ after).flatMap Snippet.optionsOf) ∧
      TakesLibrary (snippet args) .snippet file
        fun f => Snippet.ofFunction (f "snippet") after options := by
  obtain ⟨hbefore, hafter⟩ := List.forall_mem_append.1 hobjects
  obtain ⟨q, hq, -⟩ := foldlM_add_objects hbefore {}
  -- The options are those that the objects would give without the name.
  obtain ⟨s, hs, -⟩ := foldlM_add_objects hobjects {}
  have hcall := snippet_of_name hargs hq
  have hset := setName_takes q hfile
  refine ⟨s.options, foldlM_add_options hs, fun name hname => ?_, fun hnone => ?_⟩
  · obtain ⟨t, ht, hown⟩ := foldlM_add_objects hafter
      ⟨q.withFunction (LibraryRoot.snippet.reference "snippet" name file), true⟩
    rw [hset.accepted name hname, Except.bind, ht] at hcall
    refine hcall.trans (congrArg Except.ok (Snippet.ext_own (fun k hk => ?_) ?_))
    · exact (hown k hk).trans (Snippet.own?_ofFunction hk ..).symm
    · show t.options.entries = s.options.entries
      have hgiven : (before ++ .text file :: after).flatMap Snippet.optionsOf =
          (before ++ after).flatMap Snippet.optionsOf := by
        rw [List.flatMap_append, List.flatMap_append, List.flatMap_cons]
        rfl
      rw [snippet_options hcall, hargs, hgiven]
      exact (foldlM_add_options hs).symm
  · rw [hcall, hset.refused hnone]
    rfl

/-- A name is accepted between objects only. -/
theorem isObject_of_snippet {args before after : List Argument} {file : String} {s : Snippet}
    (h : snippet args = .ok s) (hargs : spliceSole args = before ++ .text file :: after) :
    ∀ a ∈ before ++ after, a.IsObject := by
  rw [snippet, hargs, List.foldlM_append] at h
  obtain ⟨p, hp, -⟩ := bind_eq_ok h
  obtain ⟨q, hq, hp⟩ := bind_eq_ok hp
  obtain ⟨n, hn, hafter⟩ := foldlM_cons_ok hp
  obtain ⟨⟨v, m, hv, -⟩, -⟩ | ⟨hnone, hnamed⟩ := add_cases hn
  · cases hv
  · exact List.forall_mem_append.2 ⟨isObject_of_foldlM_add hq hnone,
      isObject_of_foldlM_add hafter ((foldlM_add_named hafter hnamed).trans hnamed.symm)⟩

/-! ## Agreement -/

/-- A file name is accepted exactly if it is a name with one of the extensions of libraries, and
the error has the file name.  A facet, a constraint and a snippet whose name is not built in are
accepted for the same file names, and refer to functions of the library. -/
theorem libraryFiles_agree (file : String) :
    (∀ name, libraryName file = .ok name ↔ LibraryFile name file) ∧
    (∀ name name', LibraryFile name file → LibraryFile name' file → name = name') ∧
    ((∀ name, ¬LibraryFile name file) → libraryName file = .error (.missingExtension file)) ∧
    TakesLibrary (calculateFunction file) .query file
      (fun f => ⟨f "start-facet", f "finish-facet"⟩) ∧
    (∀ args rest name options, spliceSole args = .text file :: rest →
      ParseFunctionRest rest name options →
      TakesLibrary (parseFunction args) .query file
        (fun f => .constraint ⟨name, .custom ⟨f "parse", false, options⟩⟩) ∧
      (parseFunction args).isOk = (calculateFunction file).isOk) ∧
    (∀ args q, parseFunction args = .ok q → ∃ first rest name options,
      spliceSole args = .text first :: rest ∧ ParseFunctionRest rest name options) ∧
    (∀ name, LibraryFile name file → builtinSnippeter? file = none) ∧
    (∀ args before after, spliceSole args = before ++ .text file :: after →
      (∀ a ∈ before ++ after, a.IsObject) → builtinSnippeter? file = none →
      (∃ options : ValueMap,
        options.entries = Json.sortEntries ((before ++ after).flatMap Snippet.optionsOf) ∧
        TakesLibrary (snippet args) .snippet file
          fun f => Snippet.ofFunction (f "snippet") after options) ∧
      (snippet args).isOk = (calculateFunction file).isOk) ∧
    (∀ args before after s, spliceSole args = before ++ .text file :: after →
      snippet args = .ok s → ∀ a ∈ before ++ after, a.IsObject) := by
  have hfacet := calculateFunction_takes file
  refine ⟨fun name => libraryName_eq_ok_iff, fun name name' h h' => h.unique h',
    libraryName_eq_error, hfacet, fun args rest name options hargs hrest => ?_,
    fun args q h => parseFunctionRest_of_ok h, fun name h => builtinSnippeter?_of_libraryFile h,
    fun args before after hargs hobjects hfile => ?_,
    fun args before after s hargs h => isObject_of_snippet h hargs⟩
  · have htakes := parseFunction_takes hargs hrest
    exact ⟨htakes, htakes.isOk_eq hfacet⟩
  · obtain ⟨options, hoptions, htakes⟩ := snippet_takes hargs hobjects hfile
    exact ⟨⟨options, hoptions, htakes⟩, htakes.isOk_eq hfacet⟩

/-- A library whose name has a dot, for a facet, a constraint and a snippet with options. -/
theorem libraryFiles_agree_dotted :
    let options := Value.ofJson (.object [("max-matches", .number (.signed 2))])
    LibraryFile "wide.band" "wide.band.sjs" ∧
    libraryName "wide.band.sjs" = .ok "wide.band" ∧
    libraryName "wide.band" = .error (.missingExtension "wide.band") ∧
    parseFunction [.text "wide.band.sjs", .termOptions ["stemmed"], .bind "size"] =
      .ok (.constraint ⟨"size", .custom
        ⟨⟨"parse", "http://marklogic.com/query/custom/wide.band",
          "/ext/marklogic/query/custom/wide.band.sjs"⟩, false, some ["stemmed"]⟩⟩) ∧
    (snippet [.text "wide.band.sjs", .json options]).isOk = true := by
  intro options
  have hgrammar : LibraryFile "wide.band" "wide.band.sjs" := ⟨by decide, .inr (.inl rfl)⟩
  obtain ⟨hname, -, -, hfacet, hparse, -, hbuiltin, hsnippet, -⟩ :=
    libraryFiles_agree "wide.band.sjs"
  obtain ⟨-, -, hrefused, -⟩ := libraryFiles_agree "wide.band"
  have hnone : ∀ name, ¬LibraryFile name "wide.band" :=
    libraryName?_eq_none_iff.1 (by decide)
  obtain ⟨htakes, -⟩ := hparse [.text "wide.band.sjs", .termOptions ["stemmed"], .bind "size"]
    [.termOptions ["stemmed"], .bind "size"] "size" (some ["stemmed"]) rfl (.optionsFirst _ _)
  obtain ⟨-, hsame⟩ := hsnippet [.text "wide.band.sjs", .json options] [] [.json options] rfl
    (by simpa [options] using ⟨options, _, rfl, rfl⟩) (hbuiltin _ hgrammar)
  refine ⟨hgrammar, (hname _).2 hgrammar, hrefused hnone, htakes.accepted _ hgrammar, ?_⟩
  rw [hsame, hfacet.accepted _ hgrammar]
  rfl

end Build

end SearchRequest
