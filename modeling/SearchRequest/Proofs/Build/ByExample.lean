import SearchRequest.Proofs.Build.BucketRestoration
import SearchRequest.Proofs.Build.Splicing

/-!
# Examples of the documents to match

An example is a JSON value, and it is kept as it was given: by itself, under its key, from an
argument, from what was written for an example, and from the document of a request.

* `Value.HasMember` — an object has a member.
* `Argument.asValue_ofJson` — a JSON value is the same as an argument.
* `Argument.Faithful`, `Build.byExample_faithful` — the numbers of an example are numbers that JSON
  has.
* `Build.byExample_ofJson`, `Build.byExample_map_ofJson`, `Build.byExample_serialized` — examples of
  one value, of several, and of what was written for an example.
* `Request.setWhere_of_member`, `Request.read_example` — the criteria that an example makes.
* `Build.byExample_verbatim` — all of them keep the example, if the reader reads its numbers back.
-/

namespace SearchRequest

/-! ## Members -/

/-- A value is an object, and has a member. -/
def Value.HasMember (v : Value) (key : String) (w : Value) : Prop :=
  ∃ entries, v.tree = .object entries ∧ (key, w.tree) ∈ entries

section Members

variable {v w : Value} {key : String}

theorem ValueMap.get?_eq_some_iff {m : ValueMap} :
    m.get? key = some w ↔ (key, w.tree) ∈ m.entries := by
  obtain ⟨tree, hcanonical⟩ := w
  rw [← Json.lookup_eq_some_iff m.canonical.1.nodup_keys, get?]
  split
  · rename_i j h
    simp [h]
  · rename_i h
    simp [h]

theorem Value.example?_eq_some_iff :
    v.object?.bind ValueMap.example? = some w ↔ v.HasMember exampleKey w := by
  obtain ⟨tree, hcanonical⟩ := v
  cases tree with
  | object entries =>
    refine ValueMap.get?_eq_some_iff.trans ?_
    simp [HasMember]
  | _ => simp [Value.object?, HasMember]

theorem Value.HasMember.faithful (h : v.HasMember key w) (hv : v.tree.Faithful) :
    w.tree.Faithful := by
  obtain ⟨entries, htree, hmem⟩ := h
  rw [htree] at hv
  exact Json.faithfulEntries_iff.1 hv _ hmem

theorem Value.faithful_number (n : Number) : (Value.number n).tree.Faithful := by
  rw [Value.number]
  split
  · rename_i h
    exact Number.faithful_held h
  · trivial

theorem Value.faithful_array {vs : List Value} (h : ∀ v ∈ vs, v.tree.Faithful) :
    (Value.array vs).tree.Faithful :=
  Json.faithfulItems_iff.2 fun _ hj => by
    obtain ⟨v, hv, rfl⟩ := List.mem_map.1 hj
    exact h v hv

end Members

/-! ## Values as arguments -/

namespace Argument

mutual
/-- The JSON values that an argument holds have only numbers that JSON has. -/
def Faithful : Argument → Prop
  | .json v => v.tree.Faithful
  | .byExample v => v.tree.Faithful
  | .list items => FaithfulItems items
  | _ => True
/-- The JSON values that the arguments hold have only numbers that JSON has. -/
def FaithfulItems : List Argument → Prop
  | [] => True
  | a :: rest => Faithful a ∧ FaithfulItems rest
end

variable {v w : Value} {combinator : String}

/-- The argument that a JSON value stands for is that value again. -/
theorem asValue_ofJson (h : v.tree.Faithful) : (ofJson v).asValue combinator = .ok v := by
  obtain ⟨tree, hcanonical⟩ := v
  cases tree with
  | number n =>
    have hn : n.Faithful := h
    simp [ofJson, Scalar.ofJson?, ofScalar, asValue, Value.number, hn.isFinite,
      Number.held_eq_self hn]
  | _ => simp [ofJson, Scalar.ofJson?, ofScalar, asValue, Value.null, Value.bool, Value.string]

theorem asValues_map_ofJson {vs : List Value} (h : ∀ v ∈ vs, v.tree.Faithful) :
    asValues combinator (vs.map ofJson) = .ok vs := by
  induction vs with
  | nil => simp [asValues]
  | cons v rest ih =>
    obtain ⟨hv, hrest⟩ := List.forall_mem_cons.1 h
    rw [List.map_cons, asValues, asValue_ofJson hv, ih hrest]
    rfl

theorem ofJson_of_member {key : String} (h : v.HasMember key w) : ofJson v = .json v := by
  obtain ⟨entries, htree, -⟩ := h
  rw [ofJson, htree]
  rfl

mutual
/-- An argument that is read as JSON has only numbers that JSON has. -/
theorem asValue_faithful : ∀ {a : Argument} {v : Value}, a.Faithful →
    a.asValue combinator = .ok v → v.tree.Faithful
  | a, v, h, hv => by
    cases a with
    | json w =>
      cases hv
      exact h
    | number n =>
      cases hv
      exact Value.faithful_number n
    | list items =>
      obtain ⟨vs, hvs, rfl⟩ := map_eq_ok hv
      exact Value.faithful_array (asValues_faithful h hvs)
    | null | text | bool | instant =>
      cases hv
      trivial
    | _ => cases hv
theorem asValues_faithful : ∀ {items : List Argument} {vs : List Value}, FaithfulItems items →
    asValues combinator items = .ok vs → ∀ v ∈ vs, v.tree.Faithful
  | [], vs, _, hvs => by
    cases hvs
    exact nofun
  | a :: rest, vs, h, hvs => by
    obtain ⟨v, hv, hvs⟩ := bind_eq_ok hvs
    obtain ⟨vs, hrest, hvs⟩ := bind_eq_ok hvs
    cases hvs
    exact List.forall_mem_cons.2 ⟨asValue_faithful h.1 hv, asValues_faithful h.2 hrest⟩
end

theorem faithfulItems_spliceSole {args : List Argument} (h : FaithfulItems args) :
    FaithfulItems (spliceSole args) := by
  unfold spliceSole
  split
  · exact h.1
  · exact h

end Argument

open Argument

/-! ## Examples -/

namespace Build

variable {v w q : Value} {args : List Argument}

theorem byExample_faithful (h : FaithfulItems args) (hq : byExample args = .ok q) :
    q.tree.Faithful := by
  replace h := faithfulItems_spliceSole h
  unfold byExample at hq
  split at hq
  · rename_i v hargs
    rw [hargs] at h
    cases hq
    exact h.1
  · rename_i v hargs
    rw [hargs] at h
    cases hq
    cases hmember : v.object?.bind ValueMap.example? with
    | none => exact h.1
    | some w => exact (Value.example?_eq_some_iff.1 hmember).faithful h.1
  · rename_i a _ _ hargs
    rw [hargs] at h
    exact asValue_faithful h.1 hq
  · obtain ⟨vs, hvs, rfl⟩ := map_eq_ok hq
    exact Value.faithful_array (asValues_faithful h hvs)

/-- An object with an example under its key stands for the example. -/
theorem byExample_of_member (h : v.HasMember exampleKey w) : byExample [.json v] = .ok w := by
  simp only [byExample, spliceSole, Value.example?_eq_some_iff.2 h, Option.getD_some]

theorem byExample_ofJson (hv : v.tree.Faithful) (h : ∀ w, ¬v.HasMember exampleKey w) :
    byExample [ofJson v] = .ok v := by
  have hmember : v.object?.bind ValueMap.example? = none :=
    Option.eq_none_iff_forall_ne_some.2 fun w hw => h w (Value.example?_eq_some_iff.1 hw)
  have hvalue : (ofJson v).asValue "by_example" = .ok v := asValue_ofJson hv
  obtain ⟨tree, hcanonical⟩ := v
  cases tree with
  | array items => rfl
  | object entries =>
    change Except.ok ((Value.object? _ |>.bind ValueMap.example?).getD _) = _
    rw [hmember, Option.getD_none]
  | _ => exact hvalue

theorem byExample_of_several (a b : Argument) (rest : List Argument) :
    byExample (a :: b :: rest) = (asValues "by_example" (a :: b :: rest)).map Value.array := by
  simp [byExample, spliceSole]

theorem byExample_map_ofJson {vs : List Value} (h : ∀ v ∈ vs, v.tree.Faithful)
    (hlength : vs.length ≠ 1) : byExample (vs.map ofJson) = .ok (.array vs) := by
  have hvalues : asValues "by_example" (vs.map ofJson) = .ok vs := asValues_map_ofJson h
  match vs, hlength with
  | [], _ => rfl
  | [v], hlength => exact absurd rfl hlength
  | v :: w :: rest, _ =>
    rw [List.map_cons, List.map_cons] at hvalues ⊢
    rw [byExample_of_several, hvalues]
    rfl

theorem toJson_exampleNode (hq : q.tree.Faithful) :
    (exampleNode q).toJson = .object [(exampleKey, q.tree)] := by
  have htree : q.tree.node.toJson = q.tree := Node.toJson_node (Json.faithful_node hq)
  rw [← congrArg (fun j => Json.object [(exampleKey, j)]) htree]
  rfl

theorem hasMember_serialized (hq : q.tree.Faithful) :
    (Value.ofJson (exampleNode q).toJson).HasMember exampleKey q := by
  refine ⟨[(exampleKey, q.tree)], ?_, List.mem_singleton_self _⟩
  rw [toJson_exampleNode hq, Value.ofJson]
  simp only [Json.canonical, Json.canonicalEntries, Json.canonical_of_canonical q.canonical]
  rfl

end Build

namespace Request

variable {v w : Value}

/-- The request whose only criteria are an example. -/
def ofExample (w : Value) : Request :=
  { whereClause := some (.byExample w), queryType := some .byExample, queryFormat := some .json }

/-- The document of a request whose only criteria are an example. -/
def exampleDocument (w : Value) : Json :=
  .object [("whereClause", .object [(exampleKey, w.tree)])]

theorem setWhere_of_member (r : Request) (h : v.HasMember exampleKey w) :
    r.setWhere [.json v] = r.setWhere [.byExample w] := by
  simp only [setWhere, Build.whereClause, spliceSole, Build.soleExample?,
    Value.example?_eq_some_iff.2 h]

theorem floats_exampleDocument : (exampleDocument w).floats = w.tree.floats := by
  simp only [exampleDocument, Json.floats, Json.floatsOfEntries, List.append_nil]

/-- An example whose floating-point numbers are read back is read from the document of a request if
it is not nested too deeply there. -/
theorem read_example {ρ : FloatReader} (hw : w.tree.Faithful)
    (hfloats : ρ.RestoresAll w.tree.floats) :
    OkWhen (w.tree.depth + 2 ≤ Json.Parser.nestingLimit) (read ρ (exampleDocument w).compact)
      (ofExample w) := by
  let r : Request := { whereClause := some (.byExample w) }
  have hnode : r.node.Faithful := ⟨⟨Json.faithful_node hw, trivial⟩, trivial⟩
  have hjson : r.json = exampleDocument w := by
    have hclause : r.json = .object [("whereClause", (exampleNode w).toJson)] := rfl
    rw [hclause, Build.toJson_exampleNode hw, exampleDocument]
  have hrestorable : r.Restorable := ⟨by rintro _ ⟨⟩, by rintro _ ⟨⟩⟩
  have hdepth : (exampleDocument w).depth = w.tree.depth + 2 := by
    simp [exampleDocument, Json.depth, Json.depthOfEntries]
  rw [← floats_exampleDocument, ← hjson] at hfloats
  rw [← hdepth, ← hjson]
  exact (ofText_text hrestorable hnode hfloats).mapError _

end Request

namespace Build

/-- A JSON value is an example as it is, or the value under the key of examples if it is an object
that has one, and several values are the array of them.  An example stays the same when it is given
again, as it is or as it was written.  An object with an example makes the same criteria as the
example, and as the document with the example, if that is not nested too deeply and the reader reads
the floating-point numbers of the example back. -/
theorem byExample_verbatim :
    (∀ (v : Value) (combinator : String), v.tree.Faithful →
      (ofJson v).asValue combinator = .ok v) ∧
    (∀ v w : Value, v.HasMember exampleKey w → byExample [ofJson v] = .ok w) ∧
    (∀ v : Value, v.tree.Faithful → (∀ w, ¬v.HasMember exampleKey w) →
      byExample [ofJson v] = .ok v) ∧
    (∀ vs : List Value, (∀ v ∈ vs, v.tree.Faithful) → 2 ≤ vs.length →
      byExample (vs.map ofJson) = .ok (.array vs) ∧
        byExample [.list (vs.map ofJson)] = .ok (.array vs)) ∧
    (∀ args q, FaithfulItems args → byExample args = .ok q →
      byExample [.byExample q] = .ok q ∧
        byExample [.json (.ofJson (exampleNode q).toJson)] = .ok q) ∧
    ∀ v w : Value, v.tree.Faithful → v.HasMember exampleKey w →
      (∀ r : Request, (byExample [ofJson v] >>= fun q => r.setWhere [.byExample q]) =
        r.setWhere [ofJson v]) ∧
      Request.empty.setWhere [ofJson v] = .ok (.ofExample w) ∧
      ∀ ρ : FloatReader, ρ.RestoresAll w.tree.floats →
        OkWhen (w.tree.depth + 2 ≤ Json.Parser.nestingLimit)
          (Request.read ρ (Request.exampleDocument w).compact) (.ofExample w) := by
  refine ⟨fun v combinator => asValue_ofJson, fun v w h => ?_, fun v => byExample_ofJson,
    fun vs h htwo => ?_, fun args q h hq => ⟨rfl, ?_⟩, fun v w hv h => ⟨fun r => ?_, ?_, ?_⟩⟩
  · rw [ofJson_of_member h, byExample_of_member h]
  · have hseveral := byExample_map_ofJson h (by omega)
    refine ⟨hseveral, ?_⟩
    rw [← hseveral]
    exact ListFunction.byExample.call_list_eq (by rw [List.length_map]; omega)
  · exact byExample_of_member (hasMember_serialized (byExample_faithful h hq))
  · rw [ofJson_of_member h, byExample_of_member h, r.setWhere_of_member h]
    rfl
  · rw [ofJson_of_member h, Request.setWhere_of_member _ h]
    rfl
  · exact fun ρ => Request.read_example (h.faithful hv)

/-- An example with two keys, by itself and under the key of examples. -/
theorem byExample_verbatim_ishmael :
    let half : Binary64 := .finite false ⟨1022 * 2 ^ 52, by decide⟩
    let w : Value :=
      .ofJson (.object [("name", .string "Ishmael"), ("share", .number (.float half))])
    let v : Value := .ofJson (.object [("$query", w.tree)])
    (v.tree.Faithful ∧ w.tree.Faithful ∧ v.HasMember exampleKey w ∧
        (∀ x, ¬w.HasMember exampleKey x) ∧ w.tree.depth + 2 ≤ Json.Parser.nestingLimit) ∧
      byExample [ofJson v] = .ok w ∧ byExample [ofJson w] = .ok w ∧
      byExample [ofJson w, ofJson v] = .ok (.array [w, v]) ∧
      byExample [.json (.ofJson (exampleNode w).toJson)] = .ok w ∧
      Request.empty.setWhere [ofJson v] = .ok (.ofExample w) ∧
      Request.read .quick (Request.exampleDocument w).compact = .ok (.ofExample w) := by
  intro half w v
  have hw : w.tree.Faithful := ⟨trivial, Number.faithful_float rfl, trivial⟩
  have hv : v.tree.Faithful := ⟨hw, trivial⟩
  have hmember : v.HasMember exampleKey w := ⟨_, rfl, List.mem_singleton_self _⟩
  have hplain : ∀ x, ¬w.HasMember exampleKey x := by
    rintro x ⟨entries, hentries, hmem⟩
    have htree : w.tree =
        .object [("name", .string "Ishmael"), ("share", .number (.float half))] := rfl
    obtain rfl := Json.object.inj (htree.symm.trans hentries)
    simp [exampleKey] at hmem
  have hdepth : w.tree.depth + 2 ≤ Json.Parser.nestingLimit := by decide
  obtain ⟨-, hunder, halone, hseveral, hagain, hcriteria⟩ := byExample_verbatim
  obtain ⟨-, hset, hread⟩ := hcriteria v w hv hmember
  have hhalf : w.tree.floats = [half] := rfl
  have hfloats : FloatReader.quick.RestoresAll w.tree.floats :=
    hhalf ▸ FloatReader.restoresAll_quick_half
  refine ⟨⟨hv, hw, hmember, hplain, hdepth⟩, hunder v w hmember, halone w hw hplain,
    (hseveral [w, v] ?_ (by decide)).1, (hagain [ofJson w] w ⟨hw, trivial⟩ rfl).2, hset,
    (hread .quick hfloats).1 hdepth⟩
  exact List.forall_mem_cons.2 ⟨hw, List.forall_mem_singleton.2 hv⟩

/-- The quick reader takes the text of a number for the number next to it.  The document of an
example with that number is read as another request than the example makes. -/
theorem not_ofExample_read :
    let w : Value := .ofJson
      (.object [("a", .number (.float (.ofDecimal false 31245270191439438 (-15))))])
    let v : Value := .ofJson (.object [("$query", w.tree)])
    (v.HasMember exampleKey w ∧ w.tree.depth + 2 ≤ Json.Parser.nestingLimit) ∧
      byExample [ofJson v] = .ok w ∧ Request.empty.setWhere [ofJson v] = .ok (.ofExample w) ∧
      Request.read .quick (Request.exampleDocument w).compact ≠ .ok (.ofExample w) := by
  intro w v
  refine ⟨⟨⟨_, rfl, List.mem_singleton_self _⟩, by decide⟩, rfl, rfl, fun h => ?_⟩
  have htexts : ((Request.read .quick (Request.exampleDocument w).compact).map
      Request.text).toOption ≠ some (Request.ofExample w).text := by decide +kernel
  rw [h] at htexts
  exact htexts rfl

end Build

end SearchRequest
