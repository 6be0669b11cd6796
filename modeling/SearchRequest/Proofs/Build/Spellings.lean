import Mathlib.Data.List.Forall2
import SearchRequest.Proofs.Build.Identification
import SearchRequest.Proofs.Build.Splicing
import SearchRequest.Proofs.Document.Names

/-!
# Spellings of attributes and of paths

An attribute of an XML element has two names, each of which may be one argument or be spread over
two.  A path with namespaces may be the name of an index, or a list of its text and an object.

* `Argument.SpellAttribute` — the arguments that spell the two names of an attribute.
* `Argument.asQName_eq_ok_iff`, `Build.nameOfTexts_eq_ok_iff`, `Build.attributeOfThree_eq_ok_iff` —
  names that are read are the names that are spelt.
* `Build.attributeName_spelt` — the same attribute from every spelling, and from nothing else but
  four texts with more arguments after them.
* `Build.pathOfParts_of_texts` — the path in a list of its text and its namespaces.
* `Build.geoPath_spellings` — both spellings of a path are as good, unless there is nothing else.
-/

namespace SearchRequest

open Argument

/-! ## Attributes -/

/-- Arguments spell the names of an element and of an attribute of it, each by one argument or by
two texts, its namespace and its local name. -/
inductive Argument.SpellAttribute : List Argument → QName → QName → Prop where
  /-- One argument for each name. -/
  | apart {a b : Argument} {element attr : QName} (helement : a.Spells element)
      (hattr : b.Spells attr) : SpellAttribute [a, b] element attr
  /-- One argument for the element, which is no text, and two for the attribute. -/
  | attributeSpread {a : Argument} {element : QName} (helement : a.Spells element)
      (ha : ∀ s, a ≠ .text s) (ns s : String) :
      SpellAttribute [a, .text ns, .text s] element (.namespaced ns s)
  /-- Two arguments for the element, and one for the attribute. -/
  | elementSpread (ns s : String) {a : Argument} {attr : QName} (hattr : a.Spells attr) :
      SpellAttribute [.text ns, .text s, a] (.namespaced ns s) attr
  /-- Two arguments for each. -/
  | bothSpread (elementNs element attrNs attr : String) :
      SpellAttribute [.text elementNs, .text element, .text attrNs, .text attr]
        (.namespaced elementNs element) (.namespaced attrNs attr)

theorem Argument.SpellAttribute.length_le {args : List Argument} {element attr : QName}
    (h : SpellAttribute args element attr) : 2 ≤ args.length ∧ args.length ≤ 4 := by
  cases h <;> simp

/-- A name is read from what spells it. -/
theorem Argument.asQName_eq_ok_iff {combinator : String} {a : Argument} {q : QName} :
    a.asQName combinator = .ok q ↔ a.Spells q := by
  refine ⟨spells_of_asQName, fun h => ?_⟩
  cases h with
  | name q => rfl
  | text s => rfl
  | plain h =>
    rw [asQName, QName.ofArguments, h]
    rfl
  | namespaced h =>
    rw [asQName, QName.ofArguments, h]
    rfl

namespace Build

theorem nameOfTexts_eq_ok_iff {a b : Argument} {q : QName} :
    nameOfTexts a b = .ok q ↔ ∃ ns s, a = .text ns ∧ b = .text s ∧ q = .namespaced ns s := by
  constructor
  · intro h
    obtain ⟨ns, hns, h⟩ := bind_eq_ok h
    obtain ⟨s, hs, h⟩ := bind_eq_ok h
    cases h
    exact ⟨ns, s, asText_eq_ok hns, asText_eq_ok hs, rfl⟩
  · rintro ⟨ns, s, rfl, rfl, rfl⟩
    rfl

/-- Three arguments are read as the spelling that they are. -/
theorem attributeOfThree_eq_ok_iff {first second third : Argument} {element attr : QName} :
    attributeOfThree first second third = .ok (element, attr) ↔
      SpellAttribute [first, second, third] element attr := by
  constructor
  · intro h
    unfold attributeOfThree at h
    split at h
    · obtain ⟨q, hq, h⟩ := bind_eq_ok h
      obtain ⟨ns, s, rfl, rfl, rfl⟩ := nameOfTexts_eq_ok_iff.1 hq
      cases h
      exact .attributeSpread (.name _) nofun ns s
    · obtain ⟨q, hq, h⟩ := bind_eq_ok h
      obtain ⟨ns, s, rfl, rfl, rfl⟩ := nameOfTexts_eq_ok_iff.1 hq
      cases h
      exact .elementSpread ns s (.name _)
    · rename_i parts _
      obtain ⟨q, hq, h⟩ := bind_eq_ok h
      obtain ⟨q', hq', h⟩ := bind_eq_ok h
      obtain ⟨ns, s, rfl, rfl, rfl⟩ := nameOfTexts_eq_ok_iff.1 hq'
      cases h
      exact .attributeSpread (spells_of_asQName (a := .list parts) hq) nofun ns s
    · obtain ⟨q, hq, h⟩ := bind_eq_ok h
      obtain ⟨q', hq', h⟩ := bind_eq_ok h
      obtain ⟨ns, s, rfl, rfl, rfl⟩ := nameOfTexts_eq_ok_iff.1 hq
      cases h
      exact .elementSpread ns s (spells_of_asQName hq')
  · intro h
    cases h with
    | attributeSpread helement hfirst ns s =>
      have hread := (@asQName_eq_ok_iff "attribute" first element).2 helement
      cases first with
      | qname q =>
        cases helement
        rfl
      | list parts =>
        rw [asQName] at hread
        rw [attributeOfThree, hread]
        · rfl
        · exact nofun
      | text s => exact absurd rfl (hfirst s)
      | _ => cases helement
    | elementSpread ns s hattr =>
      have hread := (@asQName_eq_ok_iff "attribute" third attr).2 hattr
      cases third with
      | qname q =>
        cases hattr
        rfl
      | text _ | list _ => exact congrArg (· >>= fun q => .ok (QName.namespaced ns s, q)) hread
      | _ => cases hattr

/-- An attribute has the two names that its arguments spell, the first four of them if there are
more. -/
theorem attributeName_eq_ok_iff {args : List Argument} {i : IndexedName} :
    attributeName args = .ok i ↔ ∃ element attr,
      SpellAttribute ((spliceSole args).take 4) element attr ∧
        i = .element element (some attr) := by
  -- one case for each number of arguments, as they are read
  match hargs : spliceSole args with
  | [] =>
    rw [attributeName, hargs]
    constructor
    · intro h
      cases h
    · rintro ⟨_, _, hspelt, -⟩
      cases hspelt
  | [a] =>
    rw [attributeName, hargs]
    constructor
    · intro h
      cases h
    · rintro ⟨_, _, hspelt, -⟩
      cases hspelt
  | [a, b] =>
    simp only [attributeName, hargs, bind_eq_ok_iff, asQName_eq_ok_iff]
    constructor
    · rintro ⟨element, helement, attr, hattr, _, hpair, h⟩
      cases hpair
      cases h
      exact ⟨element, attr, .apart helement hattr, rfl⟩
    · rintro ⟨element, attr, hspelt, rfl⟩
      cases hspelt with
      | apart helement hattr => exact ⟨element, helement, attr, hattr, _, rfl, rfl⟩
  | [a, b, c] =>
    simp only [attributeName, hargs, bind_eq_ok_iff]
    constructor
    · rintro ⟨⟨element, attr⟩, hpair, h⟩
      cases h
      exact ⟨element, attr, attributeOfThree_eq_ok_iff.1 hpair, rfl⟩
    · rintro ⟨element, attr, hspelt, rfl⟩
      exact ⟨_, attributeOfThree_eq_ok_iff.2 hspelt, rfl⟩
  | a :: b :: c :: d :: more =>
    simp only [attributeName, hargs, bind_eq_ok_iff, nameOfTexts_eq_ok_iff]
    constructor
    · rintro ⟨_, ⟨elementNs, element, rfl, rfl, rfl⟩, _, ⟨attrNs, attr, rfl, rfl, rfl⟩, _, hpair, h⟩
      cases hpair
      cases h
      exact ⟨_, _, .bothSpread elementNs element attrNs attr, rfl⟩
    · rintro ⟨element, attr, hspelt, rfl⟩
      cases hspelt with
      | bothSpread elementNs element attrNs attr =>
        exact ⟨_, ⟨elementNs, element, rfl, rfl, rfl⟩, _, ⟨attrNs, attr, rfl, rfl, rfl⟩, _, rfl, rfl⟩

/-- What comes after four arguments is not looked at. -/
theorem attributeName_take_four {args : List Argument} (h : 4 < (spliceSole args).length) :
    attributeName args = attributeName ((spliceSole args).take 4) := by
  match hargs : spliceSole args, h with
  | a :: b :: c :: d :: more, _ =>
    have hfour : spliceSole [a, b, c, d] = [a, b, c, d] := spliceSole_of_ne nofun
    rw [List.take_succ_cons, List.take_succ_cons, List.take_succ_cons, List.take_succ_cons,
      List.take_zero, attributeName, attributeName, hargs, hfour]

theorem attributeName_of_few {args : List Argument} (h : (spliceSole args).length < 2) :
    ∃ text, attributeName args = .error (.arity "attribute" text) := by
  match hargs : spliceSole args, h with
  | [], _ | [_], _ =>
    rw [attributeName, hargs]
    exact ⟨_, rfl⟩

theorem element_of_many {args : List Argument} (h : 2 < (spliceSole args).length) :
    ∃ text, element args = .error (.arity "element" text) := by
  match hargs : spliceSole args, h with
  | _ :: _ :: _ :: _, _ =>
    rw [element, hargs]
    exact ⟨_, rfl⟩

/-- Arguments that spell an element and an attribute give the attribute with these two names,
however they are spelt.  Nothing else is accepted but four texts with more arguments after them,
which are not looked at; and fewer than two arguments are too few, as more than two are too many for
an element. -/
theorem attributeName_spelt (args : List Argument) :
    let items := spliceSole args
    (∀ element attr, SpellAttribute items element attr →
      attributeName args = .ok (.element element (some attr))) ∧
    (∀ i, attributeName args = .ok i ↔ ∃ element attr,
      SpellAttribute (items.take 4) element attr ∧ i = .element element (some attr)) ∧
    (4 < items.length → (∀ element attr, ¬SpellAttribute items element attr) ∧
      attributeName args = attributeName (items.take 4)) ∧
    (items.length < 2 → ∃ text, attributeName args = .error (.arity "attribute" text)) ∧
    (2 < items.length → ∃ text, element args = .error (.arity "element" text)) := by
  intro items
  refine ⟨fun element attr hspelt => ?_, fun i => attributeName_eq_ok_iff, fun hmany => ⟨?_, ?_⟩,
    attributeName_of_few, element_of_many⟩
  · have htake : items.take 4 = items := List.take_of_length_le hspelt.length_le.2
    exact attributeName_eq_ok_iff.2 ⟨element, attr, htake.symm ▸ hspelt, rfl⟩
  · intro element attr hspelt
    have hlength := hspelt.length_le.2
    omega
  · exact attributeName_take_four hmany

/-- An attribute whose element is a name, the same in four texts, and with a number after them. -/
theorem attributeName_spelt_name_first :
    let item := QName.namespaced "http://e" "item"
    let currency := QName.namespaced "http://a" "currency"
    let texts := [.text "http://e", .text "item", .text "http://a", .text "currency"]
    attributeName [.qname item, .text "http://a", .text "currency"] =
        .ok (.element item (some currency)) ∧
      attributeName texts = .ok (.element item (some currency)) ∧
      attributeName (texts ++ [.number (.ofInt 5)]) = attributeName texts ∧
      (∃ text, attributeName [.text "item"] = .error (.arity "attribute" text)) ∧
      ∃ text, element texts = .error (.arity "element" text) := by
  intro item currency texts
  obtain ⟨hname, -⟩ := attributeName_spelt [.qname item, .text "http://a", .text "currency"]
  obtain ⟨htexts, -, -, -, helement⟩ := attributeName_spelt texts
  obtain ⟨-, -, hmany, -⟩ := attributeName_spelt (texts ++ [.number (.ofInt 5)])
  obtain ⟨-, -, -, hfew, -⟩ := attributeName_spelt [.text "item"]
  exact ⟨hname _ _ (.attributeSpread (.name item) nofun _ _), htexts _ _ (.bothSpread _ _ _ _),
    (hmany (by decide)).2, hfew (by decide), helement (by decide)⟩

/-- A fifth argument is not refused but left out. -/
theorem not_refused_fifth_argument :
    let texts := [.text "http://e", .text "item", .text "http://a", .text "currency"]
    ∃ i, attributeName (texts ++ [.number (.ofInt 5)]) = .ok i ∧ attributeName texts = .ok i ∧
      ∀ element attr, ¬SpellAttribute (texts ++ [.number (.ofInt 5)]) element attr := by
  intro texts
  refine ⟨_, rfl, rfl, fun element attr hspelt => ?_⟩
  exact absurd hspelt.length_le.2 (by decide)

end Build

/-! ## Paths -/

/-- The object that binds prefixes to namespaces, the last one of each prefix. -/
def Argument.ofNamespaces (namespaces : List (String × String)) : Argument :=
  .json (Value.ofJson (.object (namespaces.map StringMap.textEntry)))

theorem ValueMap.map_toList (m : ValueMap) : m.toList.map (Prod.map id Value.tree) = m.entries := by
  rw [ValueMap.toList, List.map_map]
  exact List.attach_map_subtype_val m.entries

namespace Build

/-- The namespaces in an object of texts are the texts. -/
theorem namespacesOf_of_texts (combinator : String) {m : ValueMap}
    {namespaces : List (String × String)} (h : m.entries = namespaces.map StringMap.textEntry) :
    namespacesOf combinator m = .ok (StringMap.ofList namespaces) := by
  have htexts : List.Forall₂ (fun e n => Prod.map id Value.tree e = StringMap.textEntry n)
      m.toList namespaces := by
    rw [← m.map_toList, ← List.forall₂_eq_eq_eq] at h
    simpa using h
  rw [namespacesOf, mapM_of_forall₂ (htexts.imp fun e n he => ?_)]
  · rfl
  · obtain ⟨key, v⟩ := e
    obtain ⟨rfl, htree⟩ := Prod.mk.inj he
    dsimp only
    rw [htree]
    rfl

/-- The path in a list of its text and its namespaces has both. -/
theorem pathOfParts_of_texts (combinator text : String) (namespaces : List (String × String)) :
    pathOfParts combinator [.text text, .ofNamespaces namespaces] =
      .ok ⟨text, StringMap.ofList namespaces⟩ := by
  let object := ValueMap.ofJsonEntries (namespaces.map StringMap.textEntry)
  have hentries : object.entries = (Json.sortEntries namespaces).map StringMap.textEntry := by
    change Json.sortEntries (Json.canonicalEntries (namespaces.map StringMap.textEntry)) = _
    rw [Json.canonicalEntries_eq_map, List.map_map]
    exact Json.sortEntries_map Json.string namespaces
  have hsorted : StringMap.ofList (Json.sortEntries namespaces) = StringMap.ofList namespaces := by
    have hincreasing := Json.increasing_sortEntries namespaces
    simp only [StringMap.ofList, Json.sortEntries_of_increasing hincreasing]
  have hread : namespacesOf combinator object = .ok (StringMap.ofList namespaces) := by
    rw [namespacesOf_of_texts combinator hentries, hsorted]
  exact congrArg (· >>= fun m => Except.ok (PathIndex.mk text m)) hread

/-- A list of a text and its namespaces is as good as the path that they name, whatever comes after
it.  If nothing does, the list is spread and its namespaces are refused, where the path declares its
index. -/
theorem geoPath_spellings (text : String) (namespaces : List (String × String))
    (tail : List Argument) :
    let spelt := Argument.list [.text text, .ofNamespaces namespaces]
    let named := Argument.index (path text namespaces)
    (geoPath (spelt :: tail) = geoPath (named :: tail) ↔ tail ≠ []) ∧
      geoPath [spelt] = refuse "geo_path" (.ofNamespaces namespaces) ∧
      geoPath [named] =
        .ok (.index (.geo .path { pathIndex := some ⟨text, StringMap.ofList namespaces⟩ })) := by
  intro spelt named
  have hspelt : geoPath [spelt] = refuse "geo_path" (.ofNamespaces namespaces) := rfl
  have hnamed : geoPath [named] =
      .ok (.index (.geo .path { pathIndex := some ⟨text, StringMap.ofList namespaces⟩ })) := rfl
  refine ⟨⟨?_, ?_⟩, hspelt, hnamed⟩
  · rintro h rfl
    rw [hspelt, hnamed] at h
    cases h
  · intro htail
    have hsplice : ∀ first, spliceSole (first :: tail) = first :: tail := fun first =>
      spliceSole_of_ne fun items h => htail (List.cons.inj h).2
    simp only [geoPath, hsplice, spelt, named, pathOfParts_of_texts]
    rfl

/-- A path with its namespaces is refused as a list on its own, and declared as a name. -/
theorem not_declared_sole_list :
    let namespaces := [("ex", "http://example.com")]
    geoPath [.list [.text "/ex:pos", .ofNamespaces namespaces]] =
        refuse "geo_path" (.ofNamespaces namespaces) ∧
      ∃ d, geoPath [.index (path "/ex:pos" namespaces)] = .ok (.index d) := by
  intro namespaces
  exact ⟨rfl, _, rfl⟩

end Build

end SearchRequest
