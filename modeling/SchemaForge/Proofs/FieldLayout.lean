import Mathlib.Logic.Relation
import SchemaForge.Proofs.ReferenceGraph
import SchemaForge.Proofs.TagWalk

/-!
# The layout of a definition

Two JSON values have the same content if one is made from the other by reordering the fields of
nodes and of filters, and by adding or removing fields that nothing declares, at any depth. They
describe the same definition, or both none: then the first bad tag is the same, or both have a
faulty attribute below the same kind. Which fault is found first does depend on the order.
-/

namespace SchemaForge

namespace Entries

variable {α : Type} {xs ys before after : Entries α} {name other : String}

lemma nodup_keys_perm (hkeys : (keys xs).Nodup) (h : xs.Perm ys) : (keys ys).Nodup :=
  (h.map Prod.fst).nodup_iff.mp hkeys

lemma get?_perm (hkeys : (keys xs).Nodup) (h : xs.Perm ys) (name : String) :
    get? name xs = get? name ys := by
  apply Option.ext
  intro value
  constructor
  · intro hx
    exact get?_of_mem (nodup_keys_perm hkeys h) (h.mem_iff.mp (mem_of_get? hx))
  · intro hy
    exact get?_of_mem hkeys (h.mem_iff.mpr (mem_of_get? hy))

lemma get?_eq_none (h : name ∉ keys xs) : get? name xs = none := by
  cases hget : get? name xs with
  | none => rfl
  | some value => exact absurd (List.mem_map.mpr ⟨_, mem_of_get? hget, rfl⟩) h

lemma get?_append_cons (h : other ≠ name) (value : α) :
    get? name (before ++ (other, value) :: after) = get? name (before ++ after) := by
  induction before with
  | nil => rw [List.nil_append, List.nil_append, get?, if_neg h]
  | cons x before ih => rw [List.cons_append, List.cons_append, get?, get?, ih]

end Entries

namespace Definition

/-! ### Values with the same content -/

/-- The shape that a node declares for its fields of a name. -/
def fieldShape? (fields : List (String × Json)) (name : String) : Option Shape :=
  (kindOf? fields).bind fun k => shapeOf k name

/-- One change to the layout of a filter. -/
inductive FilterRelayout : List (String × Json) → List (String × Json) → Prop
  | reorder {fields fields' : List (String × Json)} (hkeys : (Entries.keys fields).Nodup)
      (h : fields.Perm fields') : FilterRelayout fields fields'
  | extend {before after : List (String × Json)} {name : String} (value : Json)
      (hmode : name ≠ "mode") (hentries : name ≠ "value") :
      FilterRelayout (before ++ after) (before ++ (name, value) :: after)

/-- One change to the layout of a node, or of a node or filter below it. The keys of an object are
distinct; only the reordering needs it. -/
inductive Relayout : Json → Json → Prop
  | reorder {fields fields' : List (String × Json)} (hkeys : (Entries.keys fields).Nodup)
      (h : fields.Perm fields') : Relayout (.obj fields) (.obj fields')
  | extend {before after : List (String × Json)} {name : String} (value : Json)
      (htag : name ≠ "type") (hshape : fieldShape? (before ++ after) name = none) :
      Relayout (.obj (before ++ after)) (.obj (before ++ (name, value) :: after))
  | item {before after : List (String × Json)} {name : String} {v v' : Json}
      (hshape : fieldShape? (before ++ (name, v) :: after) name = some .definition)
      (h : Relayout v v') :
      Relayout (.obj (before ++ (name, v) :: after)) (.obj (before ++ (name, v') :: after))
  | element {before after : List (String × Json)} {name : String} {vs ws : List Json} {v v' : Json}
      (hshape : fieldShape? (before ++ (name, .arr (vs ++ v :: ws)) :: after) name =
        some .definitions)
      (h : Relayout v v') :
      Relayout (.obj (before ++ (name, .arr (vs ++ v :: ws)) :: after))
        (.obj (before ++ (name, .arr (vs ++ v' :: ws)) :: after))
  | property {before after : List (String × Json)} {name property : String}
      {ps qs : List (String × Json)} {v v' : Json}
      (hshape : fieldShape? (before ++ (name, .obj (ps ++ (property, v) :: qs)) :: after) name =
        some .properties)
      (h : Relayout v v') :
      Relayout (.obj (before ++ (name, .obj (ps ++ (property, v) :: qs)) :: after))
        (.obj (before ++ (name, .obj (ps ++ (property, v') :: qs)) :: after))
  | filter {before after fields fields' : List (String × Json)} {name : String} {shape : Shape}
      (hshape : fieldShape? (before ++ (name, .obj fields) :: after) name = some shape)
      (hfilter : shape = .textFilter ∨ shape = .portFilter) (h : FilterRelayout fields fields') :
      Relayout (.obj (before ++ (name, .obj fields) :: after))
        (.obj (before ++ (name, .obj fields') :: after))

/-- The values differ in layout only. -/
def SameContent : Json → Json → Prop := Relation.EqvGen Relayout

/-- The values have the same result in the check of the tags, and decode to the same definition,
if to any. -/
structure SameReading (v v' : Json) : Prop where
  tags : ∀ path, checkTags path v = checkTags path v'
  result : (decode v).toOption = (decode v').toOption

/-! ### Results without their faults -/

section Results

variable {ε α β : Type}

lemma toOption_bind (x : Except ε α) (f : α → Except ε β) :
    (x >>= f).toOption = x.toOption.bind fun a => (f a).toOption := by
  cases x <;> rfl

lemma toOption_map (x : Except ε α) (f : α → β) : (x.map f).toOption = x.toOption.map f := by
  cases x <;> rfl

lemma toOption_eq_some_iff {x : Except ε α} {a : α} : x.toOption = some a ↔ x = .ok a := by
  cases x with
  | error e => exact ⟨nofun, nofun⟩
  | ok b => exact ⟨fun h => congrArg Except.ok (Option.some.inj h), fun h => by cases h; rfl⟩

lemma toOption_mapM_append_cons {f : α → Except ε β} {a a' : α}
    (h : (f a).toOption = (f a').toOption) (xs ys : List α) :
    ((xs ++ a :: ys).mapM f).toOption = ((xs ++ a' :: ys).mapM f).toOption := by
  induction xs with
  | nil => rw [List.nil_append, List.nil_append, List.mapM_cons, List.mapM_cons, toOption_bind,
      toOption_bind, h]
  | cons x xs ih =>
    rw [List.cons_append, List.cons_append, List.mapM_cons, List.mapM_cons, toOption_bind,
      toOption_bind]
    simp only [toOption_bind, ih]

lemma eq_of_error?_eq {x y : Except ε Unit} (h : error? x = error? y) : x = y := by
  cases x with
  | error e =>
    cases y with
    | error e' => exact congrArg Except.error (Option.some.inj h)
    | ok _ => cases h
  | ok _ =>
    cases y with
    | error e' => cases h
    | ok _ => rfl

end Results

/-! ### Filters -/

section Filters

variable {α : Type} (f : Json → Except Fault α)

lemma decodeFilterFields_extend {before after : List (String × Json)} {name : String} (value : Json)
    (hmode : name ≠ "mode") (hentries : name ≠ "value") (acc : Filter α) :
    decodeFilterFields f (before ++ (name, value) :: after) acc =
      decodeFilterFields f (before ++ after) acc := by
  induction before generalizing acc with
  | nil => rw [List.nil_append, List.nil_append, decodeFilterFields, if_neg hmode, if_neg hentries]
  | cons x before ih => simp only [List.cons_append, decodeFilterFields, ih]

/-- A filter with distinct keys is what its two fields say. -/
lemma toOption_decodeFilterFields {fields : List (String × Json)}
    (hkeys : (Entries.keys fields).Nodup) (acc : Filter α) :
    (decodeFilterFields f fields acc).toOption =
      ((Entries.get? "mode" fields).elim (.ok acc.mode) decodeMode).toOption.bind fun mode =>
        ((Entries.get? "value" fields).elim (.ok acc.entries) (decodeList f)).toOption.map
          fun entries => { mode, entries } := by
  induction fields generalizing acc with
  | nil => rfl
  | cons x fields ih =>
    obtain ⟨name, v⟩ := x
    obtain ⟨hname, hrest⟩ := List.nodup_cons.mp hkeys
    have hnone : Entries.get? name fields = none := Entries.get?_eq_none hname
    rw [decodeFilterFields]
    by_cases hmode : name = "mode"
    · subst hmode
      simp only [if_true, toOption_bind, ih hrest, hnone, Entries.get?, Option.elim]
      rfl
    · by_cases hentries : name = "value"
      · subst hentries
        simp only [if_neg hmode, if_true, toOption_bind, ih hrest, hnone, Entries.get?,
          Option.elim_none, Option.elim_some]
        -- The entries are read before the mode, which matters for the fault only.
        cases (decodeList f v).toOption with
        | none => exact (Option.bind_fun_none _).symm
        | some entries => rfl
      · simp only [if_neg hmode, if_neg hentries, ih hrest, Entries.get?]

lemma toOption_decodeFilter_of_relayout {fields fields' : List (String × Json)}
    (h : FilterRelayout fields fields') :
    (decodeFilter f (.obj fields)).toOption = (decodeFilter f (.obj fields')).toOption := by
  rw [decodeFilter, decodeFilter]
  cases h with
  | reorder hkeys h =>
    rw [toOption_decodeFilterFields f hkeys,
      toOption_decodeFilterFields f (Entries.nodup_keys_perm hkeys h),
      Entries.get?_perm hkeys h, Entries.get?_perm hkeys h]
  | extend value hmode hentries => rw [decodeFilterFields_extend f value hmode hentries]

end Filters

/-! ### Fields of a node -/

/-- The parts that a field of the shape holds. -/
def Shape.parts (shape : Shape) (field : String) : Parts :=
  match shape with
  | .definition => .item field
  | .definitions => .elements field
  | .properties => .properties field
  | _ => .none

lemma exists_shape_of_parts {k : Kind} {field : String} (h : (partsOf k).field? = some field) :
    ∃ shape, shapeOf k field = some shape ∧ partsOf k = shape.parts field := by
  cases k with
  | array | object | tuple | anyOf | allOf | oneOf =>
    cases h
    exact ⟨_, rfl, rfl⟩
  | _ => cases h

section Fields

variable {k : Kind} {name : String} {shape : Shape} {as bs : Attributes}
  {fields fields' before after : List (String × Json)}

lemma decodeFields_of_undeclared (hs : shapeOf k name = none) (value : Json) :
    decodeFields k ((name, value) :: fields) = decodeFields k fields := by
  rw [decodeFields, hs]

lemma decodeFields_extend (hs : shapeOf k name = none) (value : Json) :
    decodeFields k (before ++ (name, value) :: after) = decodeFields k (before ++ after) := by
  induction before with
  | nil => exact decodeFields_of_undeclared hs value
  | cons x before ih =>
    obtain ⟨other, w⟩ := x
    rw [List.cons_append, List.cons_append]
    cases hother : shapeOf k other with
    | none => rw [decodeFields_of_undeclared hother, decodeFields_of_undeclared hother, ih]
    | some shape => rw [decodeFields_of_declared hother, decodeFields_of_declared hother, ih]

lemma toOption_decodeFields_replace (hs : shapeOf k name = some shape) {v v' : Json}
    (h : (decodeAttribute shape v).toOption = (decodeAttribute shape v').toOption) :
    (decodeFields k (before ++ (name, v) :: after)).toOption =
      (decodeFields k (before ++ (name, v') :: after)).toOption := by
  induction before with
  | nil =>
    rw [List.nil_append, List.nil_append, decodeFields_of_declared hs, decodeFields_of_declared hs,
      toOption_bind, toOption_bind, h]
  | cons x before ih =>
    obtain ⟨other, w⟩ := x
    rw [List.cons_append, List.cons_append]
    cases hother : shapeOf k other with
    | none => rw [decodeFields_of_undeclared hother, decodeFields_of_undeclared hother, ih]
    | some shape' =>
      simp only [decodeFields_of_declared hother, toOption_bind, toOption_map, ih]

lemma exists_decodes_iff :
    (∃ as, Decodes k fields as) ↔
      ∀ f ∈ fields, ∀ shape, shapeOf k f.1 = some shape →
        ∃ a, decodeAttribute shape f.2 = .ok a := by
  induction fields with
  | nil => exact ⟨fun _ => nofun, fun _ => ⟨[], .nil⟩⟩
  | cons f fields ih =>
    obtain ⟨name, v⟩ := f
    rw [List.forall_mem_cons, ← ih]
    constructor
    · rintro ⟨as, h⟩
      cases h with
      | undeclared hs h =>
        refine ⟨fun shape hshape => ?_, _, h⟩
        rw [hs] at hshape
        cases hshape
      | declared hs hv h =>
        refine ⟨fun shape hshape => ?_, _, h⟩
        rw [hs] at hshape
        cases hshape
        exact ⟨_, hv⟩
    · rintro ⟨hfirst, as, h⟩
      cases hs : shapeOf k name with
      | none => exact ⟨as, .undeclared hs h⟩
      | some shape =>
        obtain ⟨a, hv⟩ := hfirst shape hs
        exact ⟨_, .declared hs hv h⟩

lemma Decodes.lookup_of_undeclared (h : Decodes k fields as) (hs : shapeOf k name = none) :
    as.lookup name = none := by
  induction h with
  | nil => rfl
  | undeclared _ _ ih => exact ih
  | @declared other _ _ _ _ _ hother _ _ ih =>
    have hne : name ≠ other := by
      rintro rfl
      rw [hs] at hother
      cases hother
    rw [List.lookup_cons, beq_false_of_ne hne]
    exact ih

lemma Decodes.lookup_eq (h : Decodes k fields as) (h' : Decodes k fields' bs)
    (hget : ∀ name, Entries.get? name fields = Entries.get? name fields') (name : String) :
    as.lookup name = bs.lookup name := by
  cases hs : shapeOf k name with
  | none => rw [h.lookup_of_undeclared hs, h'.lookup_of_undeclared hs]
  | some shape =>
    have hfields := h.lookup hs
    rw [hget] at hfields
    rcases hfields with ⟨hv, ha⟩ | ⟨v, a, hv, hread, ha⟩ <;>
      rcases h'.lookup hs with ⟨hw, hb⟩ | ⟨w, b, hw, hread', hb⟩
    · rw [ha, hb]
    · rw [hv] at hw
      cases hw
    · rw [hv] at hw
      cases hw
    · rw [hv] at hw
      cases hw
      rw [hread] at hread'
      cases hread'
      rw [ha, hb]

/-- A node is assembled from what its attributes are looked up as. -/
lemma assemble_congr (h : ∀ name, as.lookup name = bs.lookup name) :
    assemble k as = assemble k bs := by
  cases k <;>
    simp only [assemble, assembleLeaf, Attributes.text?, Attributes.size?, Attributes.real?,
      Attributes.flag?, Attributes.precision?, Attributes.literal?, Attributes.literals,
      Attributes.texts, Attributes.mode, Attributes.formats, Attributes.textFilter?,
      Attributes.portFilter?, Attributes.definition?, Attributes.definitions,
      Attributes.properties, Attributes.examples, Attributes.bounds, h]

/-- The order of the fields of a node does not matter for what it decodes to. -/
lemma decode_fields_of_perm {d : Definition} (hkeys : (Entries.keys fields).Nodup)
    (h : fields.Perm fields') (hd : decodeFields k fields >>= assemble k = .ok d) :
    decodeFields k fields' >>= assemble k = .ok d := by
  obtain ⟨as, has, hd⟩ := exists_of_bind_eq_ok hd
  have has : Decodes k fields as := decodes_iff.mpr has
  have hdecode := exists_decodes_iff.mp ⟨as, has⟩
  obtain ⟨bs, hbs⟩ := exists_decodes_iff.mpr fun f hf => hdecode f (h.mem_iff.mpr hf)
  have hlookup := hbs.lookup_eq has fun name => (Entries.get?_perm hkeys h name).symm
  rw [decodes_iff.mp hbs]
  exact (assemble_congr hlookup).trans hd

end Fields

/-! ### The check of the tags -/

section Tags

variable {path : List Step} {parts : Parts} {name : String}
  {fields fields' before after : List (String × Json)}

lemma checkFields_congr
    (h : ∀ field, parts.field? = some field →
      Entries.get? field fields = Entries.get? field fields') :
    checkFields path parts fields = checkFields path parts fields' := by
  apply eq_of_error?_eq
  rw [error?_checkFields_parts, error?_checkFields_parts]
  cases hfield : parts.field? with
  | none => rfl
  | some field => rw [Option.bind_some, Option.bind_some, h field hfield]

lemma checkFields_replace {v v' : Json}
    (h : parts.field? = some name →
      (parts.places v).findSome? (placeError? path) =
        (parts.places v').findSome? (placeError? path)) :
    checkFields path parts (before ++ (name, v) :: after) =
      checkFields path parts (before ++ (name, v') :: after) := by
  apply eq_of_error?_eq
  induction before with
  | nil =>
    rw [List.nil_append, List.nil_append]
    by_cases hname : parts.field? = some name
    · rw [error?_checkFields_cons_self path parts hname,
        error?_checkFields_cons_self path parts hname, h hname]
    · rw [checkFields_cons_of_ne path parts hname, checkFields_cons_of_ne path parts hname]
  | cons x before ih =>
    obtain ⟨other, w⟩ := x
    rw [List.cons_append, List.cons_append]
    by_cases hother : parts.field? = some other
    · rw [error?_checkFields_cons_self path parts hother,
        error?_checkFields_cons_self path parts hother]
    · rw [checkFields_cons_of_ne path parts hother, checkFields_cons_of_ne path parts hother, ih]

lemma findSome?_elements_append_cons {v v' : Json} (h : SameReading v v') (field : String)
    (vs ws : List Json) :
    (Step.elements field 0 (vs ++ v :: ws)).findSome? (placeError? path) =
      (Step.elements field 0 (vs ++ v' :: ws)).findSome? (placeError? path) := by
  simp only [Step.elements, List.zipIdx_append, List.zipIdx_cons, List.map_append, List.map_cons,
    List.findSome?_append, findSome?_cons_eq_or, placeError?, h.tags]

lemma findSome?_properties_append_cons {v v' : Json} (h : SameReading v v') (property : String)
    (ps qs : List (String × Json)) :
    (Step.properties (ps ++ (property, v) :: qs)).findSome? (placeError? path) =
      (Step.properties (ps ++ (property, v') :: qs)).findSome? (placeError? path) := by
  simp only [Step.properties, List.map_append, List.map_cons, List.findSome?_append,
    findSome?_cons_eq_or, placeError?, h.tags]

end Tags

/-! ### Changes of the layout -/

section Relayout

variable {name : String} {shape : Shape} {v v' : Json}
  {fields fields' before after : List (String × Json)}

/-- Nodes are read alike if their tags are the same and, for the kind that these name, the fields
are checked and decoded alike. -/
lemma sameReading_obj (htag : Entries.get? "type" fields = Entries.get? "type" fields')
    (hcheck : ∀ k, kindOf? fields = some k → ∀ path,
      checkFields path (partsOf k) fields = checkFields path (partsOf k) fields')
    (hdecode : ∀ k, kindOf? fields = some k →
      (decodeFields k fields >>= assemble k).toOption =
        (decodeFields k fields' >>= assemble k).toOption) :
    SameReading (.obj fields) (.obj fields') where
  tags := by
    intro path
    have hread : readKind path (.obj fields) = readKind path (.obj fields') := by
      rw [readKind, readKind, Json.field?, Json.field?, htag]
    rw [checkTags, checkTags, ← hread]
    cases hk : readKind path (.obj fields) with
    | error e => rfl
    | ok k =>
      have hfields := hcheck k (kind_of_readKind hk) path
      exact congrArg (· >>= fun _ => pure k) hfields
  result := by
    have hkind : kindOf? fields = kindOf? fields' := by rw [kindOf?, kindOf?, htag]
    rw [decode, decode, ← hkind]
    cases hk : kindOf? fields with
    | none => rfl
    | some k => exact hdecode k hk

lemma sameReading_of_perm (hkeys : (Entries.keys fields).Nodup) (h : fields.Perm fields') :
    SameReading (.obj fields) (.obj fields') := by
  have hkeys' := Entries.nodup_keys_perm hkeys h
  apply sameReading_obj (Entries.get?_perm hkeys h "type")
  · intro k _ path
    exact checkFields_congr fun field _ => Entries.get?_perm hkeys h field
  · intro k _
    apply Option.ext
    intro d
    rw [toOption_eq_some_iff, toOption_eq_some_iff]
    exact ⟨decode_fields_of_perm hkeys h, decode_fields_of_perm hkeys' h.symm⟩

lemma sameReading_extend (value : Json) (htag : name ≠ "type")
    (hshape : fieldShape? (before ++ after) name = none) :
    SameReading (.obj (before ++ after)) (.obj (before ++ (name, value) :: after)) := by
  have hundeclared : ∀ k, kindOf? (before ++ after) = some k → shapeOf k name = none := by
    intro k hk
    rwa [fieldShape?, hk] at hshape
  apply sameReading_obj (Entries.get?_append_cons htag value).symm
  · intro k hk path
    apply checkFields_congr
    intro field hfield
    -- The field that holds the parts is declared.
    have hne : name ≠ field := by
      rintro rfl
      obtain ⟨shape, hs, -⟩ := exists_shape_of_parts hfield
      rw [hundeclared k hk] at hs
      cases hs
    exact (Entries.get?_append_cons hne value).symm
  · intro k hk
    rw [decodeFields_extend (hundeclared k hk)]

/-- A declared field may be replaced by one with the same parts and the same attribute. -/
lemma sameReading_replace
    (hshape : fieldShape? (before ++ (name, v) :: after) name = some shape)
    (hplaces : ∀ path, ((shape.parts name).places v).findSome? (placeError? path) =
      ((shape.parts name).places v').findSome? (placeError? path))
    (hdecode : (decodeAttribute shape v).toOption = (decodeAttribute shape v').toOption) :
    SameReading (.obj (before ++ (name, v) :: after)) (.obj (before ++ (name, v') :: after)) := by
  obtain ⟨k, hkind, hs⟩ := Option.bind_eq_some_iff.mp hshape
  have htag : name ≠ "type" := by
    rintro rfl
    rw [shapeOf_type] at hs
    cases hs
  apply sameReading_obj
  · rw [Entries.get?_append_cons htag, Entries.get?_append_cons htag]
  · intro k' hk path
    rw [hkind] at hk
    cases hk
    apply checkFields_replace
    intro hfield
    obtain ⟨shape', hs', hparts⟩ := exists_shape_of_parts hfield
    rw [hs] at hs'
    cases hs'
    rw [hparts]
    exact hplaces path
  · intro k' hk
    rw [hkind] at hk
    cases hk
    rw [toOption_bind, toOption_bind, toOption_decodeFields_replace hs hdecode]

/-- A change of the layout changes neither the result of the check of the tags nor the
definition. -/
theorem Relayout.sameReading (h : Relayout v v') : SameReading v v' := by
  induction h with
  | reorder hkeys h => exact sameReading_of_perm hkeys h
  | extend value htag hshape => exact sameReading_extend value htag hshape
  | @item _ _ _ v v' hshape _ ih =>
    apply sameReading_replace hshape
    · intro path
      simp only [Shape.parts, Parts.places, findSome?_cons_eq_or, placeError?, ih.tags]
    · rw [decodeAttribute, decodeAttribute, toOption_map, toOption_map, ih.result]
  | @element _ _ name vs ws v v' hshape _ ih =>
    apply sameReading_replace hshape
    · intro path
      exact findSome?_elements_append_cons ih name vs ws
    · rw [decodeAttribute, decodeAttribute, toOption_map, toOption_map, decodeItems_eq_mapM,
        decodeItems_eq_mapM, toOption_mapM_append_cons ih.result]
  | @property _ _ _ property ps qs v v' hshape _ ih =>
    apply sameReading_replace hshape
    · intro path
      exact findSome?_properties_append_cons ih property ps qs
    · rw [decodeAttribute, decodeAttribute, toOption_map, toOption_map, decodeProperties_eq_mapM,
        decodeProperties_eq_mapM]
      apply congrArg
      apply toOption_mapM_append_cons
      rw [toOption_map, toOption_map, ih.result]
  | filter hshape hfilter h =>
    rcases hfilter with rfl | rfl
    all_goals
      refine sameReading_replace hshape (fun _ => rfl) ?_
      simp only [decodeAttribute, decodePlain, decodeOptional, toOption_map,
        toOption_decodeFilter_of_relayout _ h]

theorem SameContent.sameReading (h : SameContent v v') : SameReading v v' := by
  induction h with
  | rel v v' h => exact h.sameReading
  | refl v => exact ⟨fun _ => rfl, rfl⟩
  | symm v v' _ ih => exact ⟨fun path => (ih.tags path).symm, ih.result.symm⟩
  | trans u v w _ _ ih ih' =>
    exact ⟨fun path => (ih.tags path).trans (ih'.tags path), ih.result.trans ih'.result⟩

end Relayout

/-- Values with the same content describe the same definition, if any; the tag that is missing or
unknown is the same, and so is the kind of a node whose attributes are at fault. -/
theorem ofJson_ignores_layout {v v' : Json} (h : SameContent v v') :
    (∀ d, ofJson v = .ok d ↔ ofJson v' = .ok d) ∧
    (∀ path, ofJson v = .error (.missingKind path) ↔ ofJson v' = .error (.missingKind path)) ∧
    (∀ tag, ofJson v = .error (.unknownKind tag) ↔ ofJson v' = .error (.unknownKind tag)) ∧
    ∀ root, (∃ fault, ofJson v = .error (.malformed root fault)) ↔
      ∃ fault, ofJson v' = .error (.malformed root fault) := by
  obtain ⟨htags, hresult⟩ := h.sameReading
  rw [ofJson, ofJson, htags []]
  cases checkTags [] v' with
  | error e => exact ⟨fun _ => Iff.rfl, fun _ => Iff.rfl, fun _ => Iff.rfl, fun _ => Iff.rfl⟩
  | ok root =>
    cases hv : decode v with
    | ok d =>
      rw [hv] at hresult
      rw [toOption_eq_some_iff.mp hresult.symm]
      exact ⟨fun _ => Iff.rfl, fun _ => Iff.rfl, fun _ => Iff.rfl, fun _ => Iff.rfl⟩
    | error fault =>
      cases hv' : decode v' with
      | ok d =>
        rw [hv, hv'] at hresult
        cases hresult
      | error fault' =>
        refine ⟨?_, ?_, ?_, ?faults⟩
        case faults =>
          intro root'
          constructor
          · rintro ⟨_, h⟩
            cases h
            exact ⟨fault', rfl⟩
          · rintro ⟨_, h⟩
            cases h
            exact ⟨fault, rfl⟩
        all_goals
          intro _
          constructor <;> intro h <;> cases h

/-- A list of addresses whose nodes and filter are turned around and have additional fields, among
them one that only objects declare; and a text with two faults, of which the other one comes
first. -/
theorem ofJson_ignores_layout_of_nested :
    (let filter : List (String × Json) := [("mode", .str "allow"), ("value", .arr [.str "https"])];
      let filter' : List (String × Json) :=
        [("value", .arr [.str "https"]), ("since", .int 2), ("mode", .str "allow")];
      let v : Json := .obj [("type", .str "array"), ("minItems", .int 1),
        ("itemType", .obj [("type", .str "url"), ("protocol", .obj filter)])];
      let v' : Json := .obj [("itemType", .obj [("protocol", .obj filter'), ("type", .str "url")]),
        ("properties", .null), ("minItems", .int 1), ("type", .str "array")];
      SameContent v v' ∧ ∃ d, ofJson v = .ok d ∧ ofJson v' = .ok d) ∧
    (let v : Json :=
        .obj [("type", .str "string"), ("pattern", .int 1), ("minLength", .int (-1))];
      let v' : Json :=
        .obj [("minLength", .int (-1)), ("pattern", .int 1), ("type", .str "string")];
      SameContent v v' ∧
        ofJson v = .error (.malformed .string (.wrongType (.int 1) .text)) ∧
        ofJson v' = .error (.malformed .string (.outOfRange (-1) .size)) ∧
        ∃ fault, ofJson v' = .error (.malformed .string fault)) := by
  constructor
  · intro filter filter' v v'
    let list (item : Json) : List (String × Json) :=
      [("type", .str "array"), ("minItems", .int 1), ("itemType", item)]
    have hitem : ∀ {w w' : Json}, Relayout w w' → SameContent (.obj (list w)) (.obj (list w')) :=
      fun h => .rel _ _ (@Relayout.item [("type", .str "array"), ("minItems", .int 1)] [] "itemType"
        _ _ rfl h)
    have hfilter : ∀ {fs fs' : List (String × Json)}, FilterRelayout fs fs' →
        Relayout (.obj [("type", .str "url"), ("protocol", .obj fs)])
          (.obj [("type", .str "url"), ("protocol", .obj fs')]) :=
      fun h => @Relayout.filter [("type", .str "url")] [] _ _ "protocol" _ rfl (.inl rfl) h
    have hsame : SameContent v v' := by
      refine .trans _ _ _ (hitem (hfilter (.reorder (by decide) filter.reverse_perm.symm))) ?_
      refine .trans _ _ _ (hitem (hfilter (@FilterRelayout.extend [("value", .arr [.str "https"])]
        [("mode", .str "allow")] "since" (.int 2) (by decide) (by decide)))) ?_
      refine .trans _ _ _ (hitem (.reorder (by decide) (List.reverse_perm _).symm)) ?_
      refine .trans _ _ _ (.rel _ _ (@Relayout.extend [("type", .str "array"), ("minItems", .int 1)]
        [_] "properties" .null (by decide) rfl)) ?_
      exact .rel _ _ (.reorder (by decide) (List.reverse_perm _).symm)
    have hd : ofJson v = .ok (.array (.leaf (.url { protocol := some ⟨.allow, ["https"]⟩ }) [])
      ⟨some 1, none⟩ []) := rfl
    exact ⟨hsame, _, hd, ((ofJson_ignores_layout hsame).1 _).mp hd⟩
  · intro v v'
    have hsame : SameContent v v' := .rel _ _ (.reorder (by decide) (List.reverse_perm _).symm)
    have hfault : ofJson v = .error (.malformed .string (.wrongType (.int 1) .text)) := rfl
    exact ⟨hsame, hfault, rfl, ((ofJson_ignores_layout hsame).2.2.2 .string).mp ⟨_, hfault⟩⟩

end Definition

end SchemaForge
