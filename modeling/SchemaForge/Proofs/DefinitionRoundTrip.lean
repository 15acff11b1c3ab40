import SchemaForge.Proofs.DecodedNumbers

/-!
# Round trip of definitions through JSON

Decoding what a definition is encoded as gives the definition back, as long as its numbers are
finite: a node is put together from the attributes that were written for it. All numbers of decoded
definitions are finite, so a decoded definition is kept by every further round trip.
-/

namespace SchemaForge

namespace Definition

/-! ### Attributes of a leaf -/

def boundsAttributes (least greatest : String) (b : Bounds) : Attributes :=
  single least (b.least.map .size) ++ single greatest (b.greatest.map .size)

/-- The attributes that a leaf is written with. -/
def leafAttributes : Leaf → Attributes
  | .plain _ => []
  | .string pattern length =>
    single "pattern" (pattern.map .text) ++ boundsAttributes "minLength" "maxLength" length
  | .number rules =>
    single "minimum" (rules.minimum.map .real) ++ single "maximum" (rules.maximum.map .real) ++
      single "exclusiveMinimum" (rules.exclusiveMinimum.map .flag) ++
      single "exclusiveMaximum" (rules.exclusiveMaximum.map .flag) ++
      single "multipleOf" (rules.multipleOf.map .real)
  | .literal value => [("value", .literal value)]
  | .enumeration values => [("values", .literals values)]
  | .email domain => [("mode", .mode domain.mode), ("domain", .texts domain.entries)]
  | .nanoid length alphabet =>
    single "length" (length.map .size) ++ single "alphabet" (alphabet.map .text)
  | .url rules =>
    single "protocol" (rules.protocol.map .textFilter) ++
      single "domain" (rules.domain.map .textFilter) ++
      single "port" (rules.port.map .portFilter) ++ single "path" (rules.path.map .textFilter)
  | .color format => [("mode", .mode format.mode), ("format", .formats format.entries)]
  | .binary _ bytes => boundsAttributes "minLength" "maxLength" bytes
  | .hash algorithm => [("algorithm", .text algorithm)]
  | .address _ range => [("mode", .mode range.mode), ("range", .texts range.entries)]
  | .time precision => single "precision" (precision.map .precision)
  | .datetime offset zoneless precision =>
    single "offset" (offset.map .flag) ++ single "local" (zoneless.map .flag) ++
      single "precision" (precision.map .precision)

section Leaves

variable {k : Kind} {name : String}

lemma Decodes.bounds {least greatest : String} (b : Bounds) (hl : shapeOf k least = some .size)
    (hg : shapeOf k greatest = some .size) :
    Decodes k (boundsFields least greatest b) (boundsAttributes least greatest b) :=
  (Decodes.optional b.least hl rfl fun n _ => decodePlain_size n).append
    (.optional b.greatest hg rfl fun n _ => decodePlain_size n)

/-- A filter whose parts stand in the node itself. -/
lemma Decodes.inlineFilter {α : Type} {f : α → Json} {shape : Shape} {wrap : List α → Attribute}
    (x : Filter α) (hm : shapeOf k "mode" = some .mode) (hs : shapeOf k name = some shape)
    (hp : shape.isPlain = true)
    (hx : decodePlain shape (.arr (x.entries.map f)) = .ok (wrap x.entries)) :
    Decodes k (inlineFilterFields name f x) [("mode", .mode x.mode), (name, wrap x.entries)] := by
  have hmode : decodePlain .mode (.str x.mode.name) = .ok (.mode x.mode) := by
    rw [decodePlain, decodeMode_name]
    rfl
  exact (Decodes.plain hm rfl hmode).append (.plain hs hp hx)

theorem decodes_leafFields {l : Leaf} (hl : ∀ x ∈ l.numbers, x.isFinite = true) :
    Decodes l.kind (leafFields l) (leafAttributes l) := by
  cases l with
  | plain p => exact .nil
  | string pattern length =>
    exact (Decodes.optional pattern rfl rfl fun _ _ => rfl).append (.bounds length rfl rfl)
  | number rules =>
    simp only [Leaf.numbers, List.mem_append, Option.mem_toList] at hl
    apply Decodes.append
    · apply Decodes.append
      · apply Decodes.append
        · apply Decodes.append
          · exact .optional _ rfl rfl fun x hx => decodePlain_real (hl x (.inl (.inl hx)))
          · exact .optional _ rfl rfl fun x hx => decodePlain_real (hl x (.inl (.inr hx)))
        · exact .optional _ rfl rfl fun _ _ => rfl
      · exact .optional _ rfl rfl fun _ _ => rfl
    · exact .optional _ rfl rfl fun x hx => decodePlain_real (hl x (.inr hx))
  | literal value => exact .plain rfl rfl (decodePlain_literal hl)
  | enumeration values => exact .plain rfl rfl (decodePlain_literals hl)
  | email domain => exact .inlineFilter domain rfl rfl rfl (decodePlain_texts _)
  | nanoid length alphabet =>
    apply Decodes.append
    · exact .optional length rfl rfl fun n _ => decodePlain_size n
    · exact .optional alphabet rfl rfl fun _ _ => rfl
  | url rules =>
    apply Decodes.append
    · apply Decodes.append
      · apply Decodes.append
        · exact .optional rules.protocol rfl rfl fun x _ => decodePlain_textFilter x
        · exact .optional rules.domain rfl rfl fun x _ => decodePlain_textFilter x
      · exact .optional rules.port rfl rfl fun x _ => decodePlain_portFilter x
    · exact .optional rules.path rfl rfl fun x _ => decodePlain_textFilter x
  | color format => exact .inlineFilter format rfl rfl rfl (decodePlain_formats _)
  | binary encoding bytes => cases encoding <;> exact .bounds bytes rfl rfl
  | hash algorithm => exact .plain rfl rfl rfl
  | address kind range => cases kind <;> exact .inlineFilter range rfl rfl rfl (decodePlain_texts _)
  | time precision => exact .optional precision rfl rfl fun p _ => decodePlain_precision p
  | datetime offset zoneless precision =>
    apply Decodes.append
    · exact (Decodes.optional offset rfl rfl fun _ _ => rfl).append
        (.optional zoneless rfl rfl fun _ _ => rfl)
    · exact .optional precision rfl rfl fun p _ => decodePlain_precision p

end Leaves

/-! ### Putting a node together -/

def examplesAttributes (examples : List Json) : Attributes :=
  single "examples" (if examples.isEmpty then none else some (.examples examples))

/-- The attributes that a node is written with. -/
def attributes : Definition → Attributes
  | leaf l ex => leafAttributes l ++ examplesAttributes ex
  | array item size ex =>
    ("itemType", .definition item) ::
      (boundsAttributes "minItems" "maxItems" size ++ examplesAttributes ex)
  | object properties required additional ex =>
    ("properties", .properties properties) :: ("required", .texts required) ::
      (single "additionalProperties" (additional.map .flag) ++ examplesAttributes ex)
  | tuple items ex => ("items", .definitions items) :: examplesAttributes ex
  | group _ members ex => ("types", .definitions members) :: examplesAttributes ex
  | ref name ex => ("ref", .text name) :: examplesAttributes ex

section Lookup

variable {as : Attributes} {name : String}

@[simp] lemma lookup_single_append (n : String) (a : Option Attribute) (as : Attributes)
    (name : String) :
    (single n a ++ as).lookup name =
      if name = n then a.or (as.lookup name) else as.lookup name := by
  cases a with
  | none => simp [single]
  | some a =>
    by_cases h : name = n
    · simp [single, h]
    · have hne : (name == n) = false := beq_eq_false_iff_ne.mpr h
      simp [single, List.lookup_cons, hne, h]

@[simp] lemma lookup_examplesAttributes (ex : List Json) (name : String) :
    (examplesAttributes ex).lookup name =
      if name = "examples" ∧ ex ≠ [] then some (.examples ex) else none := by
  rw [examplesAttributes, ← List.append_nil (single _ _), lookup_single_append]
  cases ex <;> by_cases h : name = "examples" <;> simp [h]

namespace Attributes

lemma text?_of_lookup {x : Option String} (h : as.lookup name = x.map .text) :
    as.text? name = x := by
  cases x <;> simp [text?, h]

lemma size?_of_lookup {x : Option UInt64} (h : as.lookup name = x.map .size) :
    as.size? name = x := by
  cases x <;> simp [size?, h]

lemma real?_of_lookup {x : Option Binary64} (h : as.lookup name = x.map .real) :
    as.real? name = x := by
  cases x <;> simp [real?, h]

lemma flag?_of_lookup {x : Option Bool} (h : as.lookup name = x.map .flag) :
    as.flag? name = x := by
  cases x <;> simp [flag?, h]

lemma precision?_of_lookup {x : Option Int32} (h : as.lookup name = x.map .precision) :
    as.precision? name = x := by
  cases x <;> simp [precision?, h]

lemma textFilter?_of_lookup {x : Option (Filter String)}
    (h : as.lookup name = x.map .textFilter) : as.textFilter? name = x := by
  cases x <;> simp [textFilter?, h]

lemma portFilter?_of_lookup {x : Option (Filter UInt16)}
    (h : as.lookup name = x.map .portFilter) : as.portFilter? name = x := by
  cases x <;> simp [portFilter?, h]

lemma bounds_of_lookup {least greatest : String} {b : Bounds}
    (hl : as.lookup least = b.least.map .size) (hg : as.lookup greatest = b.greatest.map .size) :
    as.bounds least greatest = b := by
  rw [bounds, size?_of_lookup hl, size?_of_lookup hg]

lemma examples_of_lookup {ex : List Json}
    (h : as.lookup "examples" = (examplesAttributes ex).lookup "examples") : as.examples = ex := by
  cases ex <;> simp [examples, h]

end Attributes

end Lookup

lemma assembleLeaf_attributes (l : Leaf) (ex : List Json) :
    assembleLeaf (leafAttributes l ++ examplesAttributes ex) l.kind = .ok l := by
  cases l with
  | plain p => cases p <;> rfl
  | string pattern length =>
    rw [Leaf.kind, assembleLeaf, Attributes.text?_of_lookup (x := pattern),
      Attributes.bounds_of_lookup (b := length)]
    all_goals simp [leafAttributes, boundsAttributes]
  | number rules =>
    rw [Leaf.kind, assembleLeaf, Attributes.real?_of_lookup (x := rules.minimum),
      Attributes.real?_of_lookup (x := rules.maximum),
      Attributes.flag?_of_lookup (x := rules.exclusiveMinimum),
      Attributes.flag?_of_lookup (x := rules.exclusiveMaximum),
      Attributes.real?_of_lookup (x := rules.multipleOf)]
    all_goals simp [leafAttributes]
  | literal value => rfl
  | enumeration values => rfl
  | email domain => rfl
  | nanoid length alphabet =>
    rw [Leaf.kind, assembleLeaf, Attributes.size?_of_lookup (x := length),
      Attributes.text?_of_lookup (x := alphabet)]
    all_goals simp [leafAttributes]
  | url rules =>
    rw [Leaf.kind, assembleLeaf, Attributes.textFilter?_of_lookup (x := rules.protocol),
      Attributes.textFilter?_of_lookup (x := rules.domain),
      Attributes.portFilter?_of_lookup (x := rules.port),
      Attributes.textFilter?_of_lookup (x := rules.path)]
    all_goals simp [leafAttributes]
  | color format => rfl
  | binary encoding bytes =>
    cases encoding <;>
      (rw [Leaf.kind, Encoding.kind, assembleLeaf, Attributes.bounds_of_lookup (b := bytes)] <;>
        simp [leafAttributes, boundsAttributes])
  | hash algorithm => rfl
  | address kind range => cases kind <;> rfl
  | time precision =>
    rw [Leaf.kind, assembleLeaf, Attributes.precision?_of_lookup (x := precision)]
    simp [leafAttributes]
  | datetime offset zoneless precision =>
    rw [Leaf.kind, assembleLeaf, Attributes.flag?_of_lookup (x := offset),
      Attributes.flag?_of_lookup (x := zoneless),
      Attributes.precision?_of_lookup (x := precision)]
    all_goals simp [leafAttributes]

lemma assemble_of_isLeaf {k : Kind} {as : Attributes} {l : Leaf} (h : assembleLeaf as k = .ok l) :
    assemble k as = .ok (.leaf l as.examples) := by
  rw [assemble, h]
  · rfl
  all_goals
    rintro rfl
    cases h

def ownExamples : Definition → List Json
  | leaf _ ex | array _ _ ex | object _ _ _ ex | tuple _ ex | group _ _ ex | ref _ ex => ex

lemma examples_attributes (d : Definition) : d.attributes.examples = d.ownExamples := by
  apply Attributes.examples_of_lookup
  cases d with
  | leaf l ex =>
    cases l <;> simp [attributes, leafAttributes, boundsAttributes, ownExamples, List.lookup_cons]
  | _ => simp [attributes, boundsAttributes, ownExamples, List.lookup_cons]

theorem assemble_attributes (d : Definition) : assemble d.kind d.attributes = .ok d := by
  have hexamples := examples_attributes d
  cases d with
  | leaf l ex =>
    have hleaf := assemble_of_isLeaf (assembleLeaf_attributes l ex)
    rw [kind, attributes, hleaf]
    exact congrArg (fun ex => Except.ok (leaf l ex)) hexamples
  | array item size ex =>
    have hsize : (attributes (array item size ex)).bounds "minItems" "maxItems" = size := by
      apply Attributes.bounds_of_lookup <;> simp [attributes, boundsAttributes, List.lookup_cons]
    rw [kind, assemble, hexamples, hsize]
    rfl
  | object properties required additional ex =>
    have hadditional : (attributes (object properties required additional ex)).flag?
        "additionalProperties" = additional := by
      apply Attributes.flag?_of_lookup
      simp [attributes, List.lookup_cons]
    rw [kind, assemble, hexamples, hadditional]
    rfl
  | tuple items ex =>
    rw [kind, assemble, hexamples]
    rfl
  | group g members ex =>
    cases g <;> (rw [kind, Grouping.kind, assemble, hexamples]; rfl)
  | ref name ex =>
    rw [kind, assemble, hexamples]
    rfl

/-! ### Round trip -/

lemma listToJson_eq_map (ds : List Definition) : listToJson ds = ds.map toJson := by
  induction ds with
  | nil => rfl
  | cons d ds ih => rw [listToJson, ih, List.map_cons]

lemma propertiesToJson_eq_map (ps : List (String × Definition)) :
    propertiesToJson ps = ps.map fun p => (p.1, toJson p.2) := by
  induction ps with
  | nil => rfl
  | cons p ps ih => rw [propertiesToJson, ih, List.map_cons]

lemma decodeItems_map {ds : List Definition} (h : ∀ d ∈ ds, decode d.toJson = .ok d) :
    decodeItems (ds.map toJson) = .ok ds := by
  rw [decodeItems_eq_mapM]
  exact mapM_map_eq_ok h

lemma decodeProperties_map {ps : List (String × Definition)}
    (h : ∀ p ∈ ps, decode p.2.toJson = .ok p.2) :
    decodeProperties (ps.map fun p => (p.1, toJson p.2)) = .ok ps := by
  rw [decodeProperties_eq_mapM]
  apply mapM_map_eq_ok
  intro p hp
  rw [h p hp]
  rfl

/-- The fields that a node is written with, apart from its tag. -/
def jsonFields : Definition → List (String × Json)
  | leaf l ex => leafFields l ++ examplesFields ex
  | array item size ex =>
    ("itemType", toJson item) :: (boundsFields "minItems" "maxItems" size ++ examplesFields ex)
  | object properties required additional ex =>
    ("properties", .obj (properties.map fun p => (p.1, toJson p.2))) ::
      ("required", textsJson required) ::
        (optionalField "additionalProperties" .bool additional ++ examplesFields ex)
  | tuple items ex => ("items", .arr (items.map toJson)) :: examplesFields ex
  | group _ members ex => ("types", .arr (members.map toJson)) :: examplesFields ex
  | ref name ex => ("ref", .str name) :: examplesFields ex

lemma toJson_eq (d : Definition) : d.toJson = .obj (tagField d.kind :: d.jsonFields) := by
  cases d with
  | object properties required additional ex =>
    rw [toJson, propertiesToJson_eq_map]
    rfl
  | tuple items ex | group g items ex =>
    rw [toJson, listToJson_eq_map]
    rfl
  | leaf l ex | array item size ex | ref name ex =>
    rw [toJson]
    rfl

lemma kindOf?_tagField (k : Kind) (fields : List (String × Json)) :
    kindOf? (tagField k :: fields) = some k := by
  rw [kindOf?, tagField, Entries.get?, if_pos rfl]
  exact Kind.ofTag?_tag k

lemma shapeOf_examples (k : Kind) : shapeOf k "examples" = some .examples := by
  cases k <;> rfl

lemma shapeOf_type (k : Kind) : shapeOf k "type" = none := by
  cases k <;> rfl

lemma decodes_examplesFields (k : Kind) (ex : List Json) :
    Decodes k (examplesFields ex) (examplesAttributes ex) := by
  cases ex with
  | nil => exact .nil
  | cons v vs => exact .plain (shapeOf_examples k) rfl (decodePlain_examples (v :: vs))

lemma decodeAttribute_definitions {ds : List Definition} (h : ∀ d ∈ ds, decode d.toJson = .ok d) :
    decodeAttribute .definitions (.arr (ds.map toJson)) = .ok (.definitions ds) := by
  rw [decodeAttribute, decodeItems_map h]
  rfl

theorem decodes_jsonFields {d : Definition} (hd : d.NumbersFinite)
    (hparts : ∀ p ∈ d.parts, decode p.toJson = .ok p) :
    Decodes d.kind d.jsonFields d.attributes := by
  have hexamples := decodes_examplesFields d.kind
  cases d with
  | leaf l ex =>
    exact (decodes_leafFields (hd l (List.mem_singleton.mpr rfl))).append (hexamples ex)
  | array item size ex =>
    have hitem : decodeAttribute .definition item.toJson = .ok (.definition item) := by
      rw [decodeAttribute, hparts item (List.mem_singleton.mpr rfl)]
      rfl
    exact .declared rfl hitem ((Decodes.bounds size rfl rfl).append (hexamples ex))
  | object properties required additional ex =>
    have hproperties : decodeAttribute .properties
        (.obj (properties.map fun p => (p.1, toJson p.2))) = .ok (.properties properties) := by
      rw [decodeAttribute, decodeProperties_map fun p hp => hparts p.2 (List.mem_map_of_mem hp)]
      rfl
    refine .declared rfl hproperties (.declared rfl (decodePlain_texts required) ?_)
    exact (Decodes.optional additional rfl rfl fun _ _ => rfl).append (hexamples ex)
  | tuple items ex => exact .declared rfl (decodeAttribute_definitions hparts) (hexamples ex)
  | group g members ex =>
    cases g <;> exact .declared rfl (decodeAttribute_definitions hparts) (hexamples ex)
  | ref name ex =>
    have hname : decodeAttribute .text (.str name) = .ok (.text name) := rfl
    exact .declared rfl hname (hexamples ex)

lemma decode_toJson_of_parts {d : Definition} (hd : d.NumbersFinite)
    (hparts : ∀ p ∈ d.parts, decode p.toJson = .ok p) : decode d.toJson = .ok d := by
  have hfields : decodeFields d.kind (tagField d.kind :: d.jsonFields) = .ok d.attributes :=
    decodes_iff.mp (.undeclared (shapeOf_type d.kind) (decodes_jsonFields hd hparts))
  rw [toJson_eq, decode, kindOf?_tagField]
  dsimp only
  rw [hfields]
  exact assemble_attributes d

theorem decode_toJson {d : Definition} (hd : d.NumbersFinite) : decode d.toJson = .ok d := by
  induction d using partsInduction with
  | leaf l ex => exact decode_toJson_of_parts hd nofun
  | composite d _ ih => exact decode_toJson_of_parts hd fun p hp => ih p hp (hd.of_mem_parts hp)
  | ref name ex => exact decode_toJson_of_parts hd nofun

lemma readKind_toJson (path : List Step) (d : Definition) :
    readKind path d.toJson = .ok d.kind := by
  rw [toJson_eq, readKind, Json.field?, tagField, Entries.get?, if_pos rfl]
  dsimp only [Option.bind_some, Json.text?]
  rw [Kind.ofTag?_tag]

lemma checkElements_map (path : List Step) (field : String) {ds : List Definition}
    (h : ∀ d ∈ ds, ∀ path, checkTags path d.toJson = .ok d.kind) (index : Nat) :
    checkElements path field index (ds.map toJson) = .ok () := by
  induction ds generalizing index with
  | nil => rfl
  | cons d ds ih =>
    obtain ⟨hd, hds⟩ := List.forall_mem_cons.mp h
    rw [List.map_cons, checkElements, hd]
    exact ih hds (index + 1)

lemma checkProperties_map (path : List Step) {ps : List (String × Definition)}
    (h : ∀ p ∈ ps, ∀ path, checkTags path p.2.toJson = .ok p.2.kind) :
    checkProperties path (ps.map fun p => (p.1, toJson p.2)) = .ok () := by
  induction ps with
  | nil => rfl
  | cons p ps ih =>
    obtain ⟨hp, hps⟩ := List.forall_mem_cons.mp h
    rw [List.map_cons, checkProperties, hp]
    exact ih hps

lemma partsOf_leaf (l : Leaf) : partsOf l.kind = .none := by
  cases l with
  | plain p => cases p <;> rfl
  | binary encoding bytes => cases encoding <;> rfl
  | address kind range => cases kind <;> rfl
  | _ => rfl

/-- The field that holds the parts is the first one behind the tag. -/
lemma checkFields_toJson (path : List Step) {d : Definition}
    (hparts : ∀ p ∈ d.parts, ∀ path, checkTags path p.toJson = .ok p.kind) :
    checkFields path (partsOf d.kind) (tagField d.kind :: d.jsonFields) = .ok () := by
  cases d with
  | leaf l ex => rw [kind, partsOf_leaf, tagField, checkFields]
  | array item size ex =>
    have hitem := hparts item (List.mem_singleton.mpr rfl) (path ++ [.item])
    simp [kind, partsOf, tagField, jsonFields, checkFields, hitem]
  | object properties required additional ex =>
    have hproperties := checkProperties_map path fun p hp => hparts p.2 (List.mem_map_of_mem hp)
    simpa [kind, partsOf, tagField, jsonFields, checkFields] using hproperties
  | tuple items ex =>
    have hitems := checkElements_map path "items" hparts 0
    simpa [kind, partsOf, tagField, jsonFields, checkFields, parts] using hitems
  | group g members ex =>
    have hgroup : partsOf g.kind = .elements "types" := by cases g <;> rfl
    have hmembers := checkElements_map path "types" hparts 0
    simpa [kind, hgroup, tagField, jsonFields, checkFields, parts] using hmembers
  | ref name ex => simp [kind, partsOf, checkFields]

lemma checkTags_toJson_of_parts (path : List Step) {d : Definition}
    (hparts : ∀ p ∈ d.parts, ∀ path, checkTags path p.toJson = .ok p.kind) :
    checkTags path d.toJson = .ok d.kind := by
  have hkind := readKind_toJson path d
  have hfields := checkFields_toJson path hparts
  rw [toJson_eq] at hkind ⊢
  rw [checkTags, hkind]
  dsimp only [bind, Except.bind]
  rw [hfields]
  rfl

theorem checkTags_toJson (path : List Step) (d : Definition) :
    checkTags path d.toJson = .ok d.kind := by
  induction d using partsInduction generalizing path with
  | leaf l ex => exact checkTags_toJson_of_parts path nofun
  | composite d _ ih => exact checkTags_toJson_of_parts path fun p hp path => ih p hp path
  | ref name ex => exact checkTags_toJson_of_parts path nofun

/-- Decoding undoes encoding. -/
theorem ofJson_toJson {d : Definition} (hd : d.NumbersFinite) : ofJson d.toJson = .ok d := by
  rw [ofJson, checkTags_toJson, decode_toJson hd]
  rfl

/-- Encoding and decoding keeps every definition whose numbers are finite: all kinds and depths,
the order of properties and members, examples, and whether an attribute is present. It therefore
keeps every definition that was decoded from a JSON value, and from a text. -/
theorem encoding_decodes_back :
    (∀ d : Definition, d.NumbersFinite → ofJson d.toJson = .ok d) ∧
      (∀ (v : Json) (d : Definition), v.numbersInRange = true → ofJson v = .ok d →
        ofJson d.toJson = .ok d) ∧
      ∀ (text : String) (d : Definition), ofText text = .ok d → ofJson d.toJson = .ok d := by
  refine ⟨fun d => ofJson_toJson, ?values, ?texts⟩
  case values => exact fun v d hv hd => ofJson_toJson (numbersFinite_of_ofJson hv hd)
  case texts =>
    intro text d hd
    unfold ofText at hd
    split at hd
    case h_1 v hv =>
      have hrange : v.numbersInRange = true := Json.numbersInRange_of_readWithin hv
      exact ofJson_toJson (numbersFinite_of_ofJson hrange hd)
    case h_2 => cases hd

/-- Filters that constrain nothing, a negative zero and a property named like the tag, then a value
with an integer and a `null`, and a text with numbers, which are not written as they were read. -/
theorem encoding_decodes_back_on_hostile_input :
    let d := Definition.object
      [("type", .leaf (.url { port := some ⟨.none, []⟩, path := some ⟨.deny, []⟩ }) [.null]),
        ("a", .group .oneOf [.ref "" [], .leaf (.literal (.number ⟨0x8000000000000000⟩)) []] [])]
      ["b", "b"] none [.int 1, .obj [("type", .str "x")]]
    let v := Json.obj [("minimum", .int 1), ("maximum", .null), ("type", .str "number")]
    let e := Definition.leaf (.number { minimum := some (.ofInt 1) }) []
    let text := "\x7b\"minimum\": -0, \"maximum\": 1e3, \"type\": \"number\"\x7d"
    d.NumbersFinite ∧ ofJson d.toJson = .ok d ∧ v.numbersInRange = true ∧ ofJson v = .ok e ∧
      ofJson e.toJson = .ok e ∧ ∃ f, ofText text = .ok f ∧ ofJson f.toJson = .ok f := by
  intro d v e text
  obtain ⟨hvalues, hdecoded, htexts⟩ := encoding_decodes_back
  have hd : d.NumbersFinite := by decide
  have hv : v.numbersInRange = true := by decide
  have he : ofJson v = .ok e := rfl
  have hok : (ofText text).isOk = true := by decide +kernel
  refine ⟨hd, hvalues d hd, hv, he, hdecoded v e hv he, ?_⟩
  cases hf : ofText text with
  | error failure =>
    rw [hf] at hok
    cases hok
  | ok f => exact ⟨f, rfl, htexts text f hf⟩

end Definition

end SchemaForge
