import Mathlib.Data.List.Forall2
import SchemaForge.Proofs.DefinitionRoundTrip

/-!
# The first bad tag

The places of a JSON value where definitions are expected form a tree, which is walked in
pre-order. The first node on the walk whose tag is missing or unknown decides the error. If there
is none, the value describes a definition, node for node the same tree, or one of its attributes
has a fault.
-/

namespace SchemaForge

/-! ### Trees with named steps -/

/-- How the values of a type branch into smaller ones. -/
structure Branching (α : Type) [SizeOf α] where
  below : α → List (Step × α)
  sizeOf_lt : ∀ a, ∀ p ∈ below a, sizeOf p.2 < sizeOf a

namespace Branching

variable {α β : Type} [SizeOf α] [SizeOf β]

/-- The nodes of a tree in pre-order, each with its path. -/
def walk (t : Branching α) (path : List Step) (a : α) : List (List Step × α) :=
  (path, a) :: (t.below a).attach.flatMap fun p => t.walk (path ++ [p.1.1]) p.1.2
termination_by sizeOf a
decreasing_by exact t.sizeOf_lt a p.1 p.2

lemma walk_eq (t : Branching α) (path : List Step) (a : α) :
    t.walk path a = (path, a) :: (t.below a).flatMap fun p => t.walk (path ++ [p.1]) p.2 := by
  rw [walk, List.flatMap_subtype (g := fun p => t.walk (path ++ [p.1]) p.2) fun _ _ => rfl,
    List.unattach_attach]

/-- Trees whose related nodes branch alike have related walks. -/
theorem forall₂_walk {t : Branching α} {u : Branching β} {R : α → β → Prop}
    (h : ∀ a b, R a b → List.Forall₂ (fun p q => p.1 = q.1 ∧ R p.2 q.2) (t.below a) (u.below b))
    (path : List Step) {a : α} {b : β} (hab : R a b) :
    List.Forall₂ (fun p q => p.1 = q.1 ∧ R p.2 q.2) (t.walk path a) (u.walk path b) := by
  have hbelow : ∀ {ps : List (Step × α)} {qs : List (Step × β)},
      (∀ p ∈ ps, sizeOf p.2 < sizeOf a) →
      List.Forall₂ (fun p q => p.1 = q.1 ∧ R p.2 q.2) ps qs →
      List.Forall₂ (fun p q => p.1 = q.1 ∧ R p.2 q.2)
        (ps.flatMap fun p => t.walk (path ++ [p.1]) p.2)
        (qs.flatMap fun q => u.walk (path ++ [q.1]) q.2) := by
    intro ps qs hlt hpq
    induction hpq with
    | nil => exact .nil
    | cons hfirst _ ih =>
      obtain ⟨hsize, hsizes⟩ := List.forall_mem_cons.mp hlt
      rw [List.flatMap_cons, List.flatMap_cons, hfirst.1]
      exact List.rel_append (forall₂_walk h _ hfirst.2) (ih hsizes)
  rw [walk_eq, walk_eq]
  exact .cons ⟨rfl, hab⟩ (hbelow (t.sizeOf_lt a) (h a b hab))
termination_by sizeOf a

end Branching

/-! ### Places of definitions -/

/-- The elements of the list in a field, with the steps to them. -/
def Step.elements {α : Type} (field : String) (index : Nat) (xs : List α) : List (Step × α) :=
  (xs.zipIdx index).map fun p => (.element field p.2, p.1)

def Step.properties {α : Type} (ps : List (String × α)) : List (Step × α) :=
  ps.map fun p => (.property p.1, p.2)

namespace Json

/-- The text in the `type` field. -/
def tag? (v : Json) : Option String := (v.field? "type").bind text?

/-- The elements of a list; other values have none. -/
def items : Json → List Json
  | arr items => items
  | _ => []

/-- The fields of an object; other values have none. -/
def fields : Json → List (String × Json)
  | obj fields => fields
  | _ => []

/-- The places below a node where its tag expects definitions. Fields of a wrong shape have none,
and neither has a node without a known tag. -/
def places (v : Json) : List (Step × Json) :=
  match v.tag?.bind Kind.ofTag? with
  | some .array => (v.field? "itemType").toList.flatMap fun w => [(.item, w)]
  | some .object => (v.field? "properties").toList.flatMap fun w => Step.properties w.fields
  | some .tuple => (v.field? "items").toList.flatMap fun w => Step.elements "items" 0 w.items
  | some .anyOf | some .allOf | some .oneOf =>
    (v.field? "types").toList.flatMap fun w => Step.elements "types" 0 w.items
  | _ => []

lemma sizeOf_lt_of_mem_fields {v : Json} {f : String × Json} (h : f ∈ v.fields) :
    sizeOf f.2 < sizeOf v := by
  cases v with
  | obj fields => exact sizeOf_lt_obj h
  | null | bool _ | int _ | real _ | str _ | arr _ => cases h

lemma sizeOf_lt_of_mem_items {v w : Json} (h : w ∈ v.items) : sizeOf w < sizeOf v := by
  cases v with
  | arr items => exact sizeOf_lt_arr h
  | null | bool _ | int _ | real _ | str _ | obj _ => cases h

lemma sizeOf_lt_of_field? {v w : Json} {name : String} (h : v.field? name = some w) :
    sizeOf w < sizeOf v := by
  cases v with
  | obj fields => exact sizeOf_lt_obj (Entries.mem_of_get? h)
  | null | bool _ | int _ | real _ | str _ | arr _ => cases h

end Json

lemma Step.mem_elements {α : Type} {field : String} {index : Nat} {xs : List α} {p : Step × α}
    (h : p ∈ Step.elements field index xs) : p.2 ∈ xs := by
  obtain ⟨q, hq, rfl⟩ := List.mem_map.mp h
  exact List.fst_mem_of_mem_zipIdx hq

lemma Step.mem_properties {α : Type} {ps : List (String × α)} {p : Step × α}
    (h : p ∈ Step.properties ps) : ∃ q ∈ ps, q.2 = p.2 := by
  obtain ⟨q, hq, rfl⟩ := List.mem_map.mp h
  exact ⟨q, hq, rfl⟩

namespace Json

lemma sizeOf_lt_of_mem_places (v : Json) : ∀ p ∈ v.places, sizeOf p.2 < sizeOf v := by
  have hbelow : ∀ {name : String} {f : Json → List (Step × Json)} {p : Step × Json},
      (∀ w, p ∈ f w → sizeOf p.2 ≤ sizeOf w) → p ∈ (v.field? name).toList.flatMap f →
      sizeOf p.2 < sizeOf v := by
    intro name f p hf hp
    obtain ⟨w, hw, hp⟩ := List.mem_flatMap.mp hp
    have hfield := sizeOf_lt_of_field? (Option.mem_toList.mp hw)
    have hplace := hf w hp
    omega
  have helements : ∀ {field : String} {p : Step × Json} (w : Json),
      p ∈ Step.elements field 0 w.items → sizeOf p.2 ≤ sizeOf w := by
    intro field p w hp
    exact (sizeOf_lt_of_mem_items (Step.mem_elements hp)).le
  intro p hp
  unfold places at hp
  split at hp
  case h_1 =>
    apply hbelow (fun w hw => ?_) hp
    rw [List.mem_singleton.mp hw]
  case h_2 =>
    apply hbelow (fun w hw => ?_) hp
    obtain ⟨q, hq, hqp⟩ := Step.mem_properties hw
    rw [← hqp]
    exact (sizeOf_lt_of_mem_fields hq).le
  case h_7 => cases hp
  all_goals exact hbelow helements hp

/-- A JSON value as a tree of definitions. -/
def tree : Branching Json := ⟨places, sizeOf_lt_of_mem_places⟩

end Json

namespace Definition

/-- The parts of a node, with the steps to them. -/
def steps : Definition → List (Step × Definition)
  | leaf _ _ | ref _ _ => []
  | array item _ _ => [(.item, item)]
  | object properties _ _ _ => Step.properties properties
  | tuple items _ => Step.elements "items" 0 items
  | group _ members _ => Step.elements "types" 0 members

lemma mem_parts_of_mem_steps {d : Definition} {p : Step × Definition} (h : p ∈ d.steps) :
    p.2 ∈ d.parts := by
  cases d with
  | leaf _ _ | ref _ _ => cases h
  | array item _ _ =>
    rw [List.mem_singleton.mp h]
    exact List.mem_singleton_self item
  | object properties _ _ _ =>
    obtain ⟨q, hq, hqp⟩ := Step.mem_properties h
    exact List.mem_map.mpr ⟨q, hq, hqp⟩
  | tuple _ _ | group _ _ _ => exact Step.mem_elements h

def tree : Branching Definition :=
  ⟨steps, fun _ _ h => sizeOf_lt_of_mem_parts (mem_parts_of_mem_steps h)⟩

/-! ### The check of the tags -/

/-- What is wrong with the tag of a node at a path. -/
def badTag? (node : List Step × Json) : Option DefinitionError :=
  match node.2.tag? with
  | none => some (.missingKind node.1)
  | some tag => if tag ∈ Kind.all.map Kind.tag then none else some (.unknownKind tag)

/-- The error of a result. -/
def error? {ε α : Type} : Except ε α → Option ε
  | .error e => some e
  | .ok _ => none

lemma error?_bind {ε α β : Type} (x : Except ε α) (f : α → Except ε β) (y : Option ε)
    (h : ∀ a, x = .ok a → error? (f a) = y) : error? (x >>= f) = (error? x).or y := by
  cases x with
  | error e => rfl
  | ok a => exact h a rfl

lemma findSome?_cons_eq_or {α β : Type} (f : α → Option β) (a : α) (as : List α) :
    (a :: as).findSome? f = (f a).or (as.findSome? f) := by
  rw [List.findSome?_cons]
  cases f a <;> rfl

lemma findSome?_congr_mem {α β : Type} {f g : α → Option β} {as : List α}
    (h : ∀ a ∈ as, f a = g a) : as.findSome? f = as.findSome? g := by
  induction as with
  | nil => rfl
  | cons a as ih =>
    obtain ⟨ha, has⟩ := List.forall_mem_cons.mp h
    rw [findSome?_cons_eq_or, findSome?_cons_eq_or, ha, ih has]

lemma findSome?_flatMap {α β γ : Type} (f : β → Option γ) (g : α → List β) (as : List α) :
    (as.flatMap g).findSome? f = as.findSome? fun a => (g a).findSome? f := by
  induction as with
  | nil => rfl
  | cons a as ih => rw [List.flatMap_cons, List.findSome?_append, ih, findSome?_cons_eq_or]

lemma ofTag?_eq_none_iff {tag : String} :
    Kind.ofTag? tag = none ↔ tag ∉ Kind.all.map Kind.tag := by
  simp [Kind.ofTag?, List.find?_eq_none]

lemma tag_of_ofTag? {tag : String} {k : Kind} (h : Kind.ofTag? tag = some k) : k.tag = tag :=
  beq_iff_eq.mp (List.find?_some (p := fun k : Kind => k.tag == tag) h)

lemma error?_readKind (path : List Step) (v : Json) :
    error? (readKind path v) = badTag? (path, v) := by
  rw [readKind, ← Json.tag?, badTag?]
  cases v.tag? with
  | none => rfl
  | some tag =>
    cases h : Kind.ofTag? tag with
    | none => simp only [h, error?, if_neg (ofTag?_eq_none_iff.mp h)]
    | some k =>
      have hmem : tag ∈ Kind.all.map Kind.tag := by
        by_contra hmem
        rw [ofTag?_eq_none_iff.mpr hmem] at h
        cases h
      simp only [h, error?, if_pos hmem]

lemma kind_of_readKind {path : List Step} {v : Json} {k : Kind} (h : readKind path v = .ok k) :
    v.tag?.bind Kind.ofTag? = some k := by
  unfold readKind at h
  split at h
  case h_1 => cases h
  case h_2 tag htag =>
    split at h
    case h_1 => cases h
    case h_2 k' hk =>
      cases h
      rw [Json.tag?, htag]
      exact hk

section Check

variable (path : List Step) (field : String)

/-- The error that the tags at and below a place give. -/
def placeError? (p : Step × Json) : Option DefinitionError :=
  error? (checkTags (path ++ [p.1]) p.2)

lemma error?_checkProperties (ps : List (String × Json)) :
    error? (checkProperties path ps) = (Step.properties ps).findSome? (placeError? path) := by
  induction ps with
  | nil => rfl
  | cons p ps ih =>
    have hcons : Step.properties (p :: ps) = (.property p.1, p.2) :: Step.properties ps := rfl
    rw [checkProperties, error?_bind _ _ _ fun _ _ => ih, hcons, findSome?_cons_eq_or]
    rfl

lemma error?_checkElements (index : Nat) (vs : List Json) :
    error? (checkElements path field index vs) =
      (Step.elements field index vs).findSome? (placeError? path) := by
  induction vs generalizing index with
  | nil => rfl
  | cons v vs ih =>
    have hcons : Step.elements field index (v :: vs) =
        (.element field index, v) :: Step.elements field (index + 1) vs := rfl
    rw [checkElements, error?_bind _ _ _ fun _ _ => ih (index + 1), hcons, findSome?_cons_eq_or]
    rfl

/-- The field that holds the parts. -/
def Parts.field? : Parts → Option String
  | .none => Option.none
  | .item field | .properties field | .elements field => some field

/-- The places in the value of that field. -/
def Parts.places : Parts → Json → List (Step × Json)
  | .none, _ => []
  | .item _, v => [(.item, v)]
  | .properties _, v => Step.properties v.fields
  | .elements field, v => Step.elements field 0 v.items

lemma error?_checkFields_cons_self (parts : Parts) {name : String} (h : parts.field? = some name)
    (v : Json) (fields : List (String × Json)) :
    error? (checkFields path parts ((name, v) :: fields)) =
      (parts.places v).findSome? (placeError? path) := by
  cases parts with
  | none => cases h
  | item field =>
    cases h
    rw [checkFields, if_pos rfl, error?_bind _ _ none fun _ _ => rfl, Parts.places,
      findSome?_cons_eq_or]
    rfl
  | properties field =>
    cases h
    cases v with
    | obj properties =>
      rw [checkFields, if_pos rfl]
      exact error?_checkProperties path properties
    | null | bool _ | int _ | real _ | str _ | arr _ => simp [checkFields, Parts.places,
      Json.fields, Step.properties, error?]
  | elements field =>
    cases h
    cases v with
    | arr items =>
      rw [checkFields, if_pos rfl]
      exact error?_checkElements path name 0 items
    | null | bool _ | int _ | real _ | str _ | obj _ => simp [checkFields, Parts.places,
      Json.items, Step.elements, error?]

lemma checkFields_cons_of_ne (parts : Parts) {name : String} (h : parts.field? ≠ some name)
    (v : Json) (fields : List (String × Json)) :
    checkFields path parts ((name, v) :: fields) = checkFields path parts fields := by
  cases parts with
  | none => cases fields <;> simp [checkFields]
  | _ field =>
    have hne : name ≠ field := fun he => h (congrArg some he.symm)
    cases v <;> simp [checkFields, hne]

lemma error?_checkFields_parts (parts : Parts) (fields : List (String × Json)) :
    error? (checkFields path parts fields) =
      ((parts.field?.bind fun name => Entries.get? name fields).toList.flatMap
        parts.places).findSome? (placeError? path) := by
  induction fields with
  | nil => cases parts <;> rfl
  | cons f fields ih =>
    obtain ⟨name, v⟩ := f
    by_cases h : parts.field? = some name
    · rw [error?_checkFields_cons_self path parts h, h, Option.bind_some, Entries.get?, if_pos rfl,
        Option.toList_some, List.flatMap_singleton]
    · rw [checkFields_cons_of_ne path parts h, ih]
      cases hfield : parts.field? with
      | none => rfl
      | some field =>
        have hne : name ≠ field := fun he => h (he ▸ hfield)
        rw [Option.bind_some, Option.bind_some, Entries.get?, if_neg hne]

end Check

lemma places_of_kind {k : Kind} {fields : List (String × Json)}
    (hk : (Json.obj fields).tag?.bind Kind.ofTag? = some k) :
    (Json.obj fields).places =
      ((partsOf k).field?.bind fun name => Entries.get? name fields).toList.flatMap
        (partsOf k).places := by
  rw [Json.places, hk]
  cases k <;> rfl

/-- The check fails with what is wrong at the first node of the walk that has a bad tag. -/
theorem error?_checkTags (path : List Step) (v : Json) :
    error? (checkTags path v) = (Json.tree.walk path v).findSome? badTag? := by
  have hplaces : v.places.findSome? (placeError? path) =
      (v.places.flatMap fun p => Json.tree.walk (path ++ [p.1]) p.2).findSome? badTag? := by
    rw [findSome?_flatMap]
    apply findSome?_congr_mem
    intro p hp
    have hlt := Json.sizeOf_lt_of_mem_places v p hp
    exact error?_checkTags (path ++ [p.1]) p.2
  rw [Branching.walk_eq, findSome?_cons_eq_or, ← error?_readKind]
  cases v with
  | obj fields =>
    rw [checkTags]
    apply error?_bind
    intro k hk
    rw [error?_bind _ _ none fun _ _ => rfl, Option.or_none, error?_checkFields_parts,
      ← places_of_kind (kind_of_readKind hk)]
    exact hplaces
  | null | bool _ | int _ | real _ | str _ | arr _ => rfl
termination_by sizeOf v

lemma kind_of_checkTags {path : List Step} {v : Json} {k : Kind} (h : checkTags path v = .ok k) :
    v.tag?.bind Kind.ofTag? = some k := by
  cases v with
  | obj fields =>
    rw [checkTags] at h
    obtain ⟨k', hk, h⟩ := exists_of_bind_eq_ok h
    obtain ⟨_, -, h⟩ := exists_of_bind_eq_ok h
    cases h
    exact kind_of_readKind hk
  | null | bool _ | int _ | real _ | str _ | arr _ => exact kind_of_readKind h

/-! ### The shape of a decoded definition -/

lemma forall₂_of_mapM {α β : Type} {read : β → Except Fault α} {ws : List β} {xs : List α}
    (h : ws.mapM read = .ok xs) : List.Forall₂ (fun w x => read w = .ok x) ws xs := by
  induction ws generalizing xs with
  | nil =>
    cases h
    exact .nil
  | cons w ws ih =>
    rw [List.mapM_cons] at h
    obtain ⟨y, hw, h⟩ := exists_of_bind_eq_ok h
    obtain ⟨ys, hrest, h⟩ := exists_of_bind_eq_ok h
    cases h
    exact .cons hw (ih hrest)

/-- The value at a place decodes to the part at the same step. -/
def DecodesAt (p : Step × Json) (q : Step × Definition) : Prop :=
  p.1 = q.1 ∧ decode p.2 = .ok q.2

lemma decodesAt_elements {items : List Json} {ds : List Definition} (field : String) (index : Nat)
    (h : List.Forall₂ (fun w d => decode w = .ok d) items ds) :
    List.Forall₂ DecodesAt (Step.elements field index items) (Step.elements field index ds) := by
  induction h generalizing index with
  | nil => exact .nil
  | cons hw _ ih => exact .cons ⟨rfl, hw⟩ (ih (index + 1))

section Lookup

variable {k : Kind} {name : String} {shape : Shape} {fields : List (String × Json)}
  {as : Attributes}

/-- A declared attribute is the one that the first field of its name decodes to. -/
lemma Decodes.lookup (h : Decodes k fields as) (hs : shapeOf k name = some shape) :
    (Entries.get? name fields = none ∧ as.lookup name = none) ∨
      ∃ v a, Entries.get? name fields = some v ∧ decodeAttribute shape v = .ok a ∧
        as.lookup name = some a := by
  induction h with
  | nil => exact .inl ⟨rfl, rfl⟩
  | @undeclared other v fields as hother _ ih =>
    have hne : other ≠ name := by
      rintro rfl
      rw [hs] at hother
      cases hother
    rwa [Entries.get?, if_neg hne]
  | @declared other shape' v a fields as hother hv _ ih =>
    by_cases he : other = name
    · subst he
      rw [hs] at hother
      cases hother
      exact .inr ⟨v, a, by rw [Entries.get?, if_pos rfl], hv, List.lookup_cons_self⟩
    · rw [Entries.get?, if_neg he, List.lookup_cons, beq_false_of_ne (Ne.symm he)]
      exact ih

lemma Decodes.decodesAt_item {d : Definition} (h : Decodes k fields as)
    (hs : shapeOf k name = some .definition) (hd : as.definition? name = some d) :
    List.Forall₂ DecodesAt
      ((Entries.get? name fields).toList.flatMap fun w => [(Step.item, w)]) [(.item, d)] := by
  unfold Attributes.definition? at hd
  rcases h.lookup hs with ⟨-, hnone⟩ | ⟨v, a, hget, hv, hlookup⟩
  · rw [hnone] at hd
    cases hd
  · obtain ⟨e, he, rfl⟩ := exists_of_map_eq_ok hv
    rw [hlookup] at hd
    cases hd
    rw [hget]
    exact .cons ⟨rfl, he⟩ .nil

lemma Decodes.decodesAt_definitions (h : Decodes k fields as)
    (hs : shapeOf k name = some .definitions) :
    List.Forall₂ DecodesAt
      ((Entries.get? name fields).toList.flatMap fun w => Step.elements name 0 w.items)
      (Step.elements name 0 (as.definitions name)) := by
  unfold Attributes.definitions
  rcases h.lookup hs with ⟨hget, hlookup⟩ | ⟨v, a, hget, hv, hlookup⟩
  · rw [hget, hlookup]
    exact .nil
  · rw [hget, hlookup]
    cases v with
    | arr items =>
      obtain ⟨ds, hds, rfl⟩ := exists_of_map_eq_ok hv
      rw [decodeItems_eq_mapM] at hds
      rw [Option.toList_some, List.flatMap_singleton]
      exact decodesAt_elements name 0 (forall₂_of_mapM hds)
    | null | bool _ | int _ | real _ | str _ | obj _ => cases hv

lemma Decodes.decodesAt_properties (h : Decodes k fields as)
    (hs : shapeOf k name = some .properties) :
    List.Forall₂ DecodesAt
      ((Entries.get? name fields).toList.flatMap fun w => Step.properties w.fields)
      (Step.properties (as.properties name)) := by
  unfold Attributes.properties
  rcases h.lookup hs with ⟨hget, hlookup⟩ | ⟨v, a, hget, hv, hlookup⟩
  · rw [hget, hlookup]
    exact .nil
  · rw [hget, hlookup]
    cases v with
    | obj properties =>
      obtain ⟨ps, hps, rfl⟩ := exists_of_map_eq_ok hv
      rw [decodeProperties_eq_mapM] at hps
      rw [Option.toList_some, List.flatMap_singleton]
      apply List.forall₂_map_left_iff.mpr
      apply List.forall₂_map_right_iff.mpr
      apply (forall₂_of_mapM hps).imp
      intro f p hread
      obtain ⟨d, hd, rfl⟩ := exists_of_map_eq_ok hread
      exact ⟨rfl, hd⟩
    | null | bool _ | int _ | real _ | str _ | arr _ => cases hv

lemma kind_of_assembleLeaf {l : Leaf} (h : assembleLeaf as k = .ok l) : l.kind = k := by
  cases k with
  | literal | hash =>
    obtain ⟨_, -, rfl⟩ := exists_of_map_eq_ok h
    rfl
  | array | object | tuple | anyOf | allOf | oneOf | ref => cases h
  | _ =>
    cases h
    rfl

/-- A node has the kind that it is assembled for, and its parts come from the places of that
kind. -/
lemma Decodes.of_assemble {d : Definition} (has : Decodes k fields as)
    (hk : (Json.obj fields).tag?.bind Kind.ofTag? = some k) (h : assemble k as = .ok d) :
    d.kind = k ∧ List.Forall₂ DecodesAt (Json.obj fields).places d.steps := by
  rw [Json.places, hk]
  unfold assemble at h
  split at h
  case h_1 =>
    obtain ⟨item, hitem, hd⟩ := exists_of_bind_eq_ok h
    cases hd
    exact ⟨rfl, has.decodesAt_item rfl (eq_some_of_required hitem)⟩
  case h_2 =>
    cases h
    exact ⟨rfl, has.decodesAt_properties rfl⟩
  case h_3 | h_4 | h_5 | h_6 =>
    cases h
    exact ⟨rfl, has.decodesAt_definitions rfl⟩
  case h_7 =>
    obtain ⟨name, -, hd⟩ := exists_of_bind_eq_ok h
    cases hd
    exact ⟨rfl, .nil⟩
  case h_8 =>
    obtain ⟨l, hl, hd⟩ := exists_of_bind_eq_ok h
    cases hd
    have hkind := kind_of_assembleLeaf hl
    refine ⟨hkind, ?_⟩
    have hplaces := places_of_kind hk
    rw [← hkind, partsOf_leaf] at hplaces
    rw [Json.places, hk] at hplaces
    rw [hplaces]
    exact .nil

end Lookup

lemma decodesAt_places {v : Json} {d : Definition} (h : decode v = .ok d) :
    List.Forall₂ DecodesAt v.places d.steps := by
  obtain ⟨fields, k, as, rfl, hk, has, hd⟩ := exists_of_decode h
  exact (has.of_assemble hk hd).2

lemma tag?_of_decode {v : Json} {d : Definition} (h : decode v = .ok d) :
    v.tag? = some d.kind.tag := by
  obtain ⟨fields, k, as, rfl, hk, has, hd⟩ := exists_of_decode h
  obtain ⟨tag, htag, hkind⟩ := Option.bind_eq_some_iff.mp hk
  rw [(has.of_assemble hk hd).1, tag_of_ofTag? hkind]
  exact htag

/-- The first node on the walk with a bad tag decides the error. Without one the value is a
definition, or an attribute has a fault that is reported with the kind of the root; and a
definition has the nodes of the walk, each with the kind that its tag names. -/
theorem ofJson_reports_first_bad_tag (v : Json) :
    (∀ e, (Json.tree.walk [] v).findSome? badTag? = some e → ofJson v = .error e) ∧
    ((Json.tree.walk [] v).findSome? badTag? = none →
      (∃ d, ofJson v = .ok d) ∨
        ∃ root fault, v.tag? = some root.tag ∧ ofJson v = .error (.malformed root fault)) ∧
    ∀ d, ofJson v = .ok d →
      List.Forall₂ (fun p q => p.1 = q.1 ∧ p.2.tag? = some q.2.kind.tag)
        (Json.tree.walk [] v) (tree.walk [] d) := by
  rw [← error?_checkTags]
  refine ⟨?bad, ?good, ?shape⟩
  case bad =>
    intro e he
    cases hcheck : checkTags [] v with
    | error e' =>
      rw [hcheck] at he
      cases he
      rw [ofJson, hcheck]
      rfl
    | ok k =>
      rw [hcheck] at he
      cases he
  case good =>
    intro hnone
    cases hcheck : checkTags [] v with
    | error e =>
      rw [hcheck] at hnone
      cases hnone
    | ok root =>
      obtain ⟨tag, htag, hroot⟩ := Option.bind_eq_some_iff.mp (kind_of_checkTags hcheck)
      rw [← tag_of_ofTag? hroot] at htag
      rw [ofJson, hcheck]
      cases decode v with
      | ok d => exact .inl ⟨d, rfl⟩
      | error fault => exact .inr ⟨root, fault, htag, rfl⟩
  case shape =>
    intro d hd
    have hwalk := Branching.forall₂_walk (t := Json.tree) (u := tree)
      (R := fun v d => decode v = .ok d) (fun _ _ h => decodesAt_places h) [] (decode_of_ofJson hd)
    apply hwalk.imp
    rintro p q ⟨hpath, hdecode⟩
    exact ⟨hpath, tag?_of_decode hdecode⟩

/-- An unknown tag that stands before a missing one, a missing tag with its path, and a definition
with four nodes. -/
theorem ofJson_reports_first_bad_tag_of_nested :
    (let unknown : Json := .obj [("type", .str "object"), ("properties", .obj
        [("tags", .obj [("type", .str "array"), ("itemType", .obj [("type", .str "set")])]),
          ("rest", .null)])];
      (Json.tree.walk [] unknown).findSome? badTag? = some (.unknownKind "set") ∧
        ofJson unknown = .error (.unknownKind "set")) ∧
    (let missing : Json := .obj [("type", .str "anyOf"), ("types", .arr
        [.obj [("type", .str "string")], .obj [("minLength", .int 1)]])];
      (Json.tree.walk [] missing).findSome? badTag? = some (.missingKind [.element "types" 1]) ∧
        ofJson missing = .error (.missingKind [.element "types" 1]) ∧
        pathText [.element "types" 1] = "/types/1") ∧
    (let nested : Json := .obj [("type", .str "array"), ("itemType", .obj
        [("type", .str "tuple"), ("items", .arr
          [.obj [("type", .str "string")], .obj [("type", .str "null")]])])];
      ∃ d, ofJson nested = .ok d ∧
        (tree.walk [] d).map Prod.fst =
          [[], [.item], [.item, .element "items" 0], [.item, .element "items" 1]] ∧
        List.Forall₂ (fun p q => p.1 = q.1 ∧ p.2.tag? = some q.2.kind.tag)
          (Json.tree.walk [] nested) (tree.walk [] d)) := by
  refine ⟨?_, ?_, ?_⟩
  · intro unknown
    have hbad : (Json.tree.walk [] unknown).findSome? badTag? = some (.unknownKind "set") := by
      rw [← error?_checkTags]
      rfl
    exact ⟨hbad, (ofJson_reports_first_bad_tag unknown).1 _ hbad⟩
  · intro missing
    have hbad : (Json.tree.walk [] missing).findSome? badTag? =
        some (.missingKind [.element "types" 1]) := by
      rw [← error?_checkTags]
      rfl
    exact ⟨hbad, (ofJson_reports_first_bad_tag missing).1 _ hbad, by decide +kernel⟩
  · intro nested
    have hd : ofJson nested = .ok (.array (.tuple [.leaf (.string none ⟨none, none⟩) [],
        .leaf (.plain .null) []] []) ⟨none, none⟩ []) := rfl
    exact ⟨_, hd, by decide +kernel, (ofJson_reports_first_bad_tag nested).2.2 _ hd⟩

end Definition

end SchemaForge
