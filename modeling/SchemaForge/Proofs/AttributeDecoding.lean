import SchemaForge.Definition.Decode
import SchemaForge.Definition.Encode
import SchemaForge.Proofs.DefinitionTree

/-!
# Decoding of attributes

The fields of a node are decoded one after the other, so what fields decode to is put together
piece by piece. The value that is written for an attribute decodes to that attribute, where numbers
have to be finite.
-/

namespace SchemaForge

/-! ### Sizes of JSON values -/

lemma Json.sizeOf_lt_arr {items : List Json} {w : Json} (h : w ∈ items) :
    sizeOf w < sizeOf (arr items) := by
  have hlt := List.sizeOf_lt_of_mem h
  rw [arr.sizeOf_spec]
  omega

lemma Json.sizeOf_lt_obj {fields : List (String × Json)} {f : String × Json} (h : f ∈ fields) :
    sizeOf f.2 < sizeOf (obj fields) := by
  have hlt := List.sizeOf_lt_of_mem h
  rw [Prod.mk.sizeOf_spec] at hlt
  rw [obj.sizeOf_spec]
  omega

namespace Definition

/-! ### Results and lists of results -/

lemma exists_of_map_eq_ok {α β ε : Type} {f : α → β} {x : Except ε α} {b : β}
    (h : x.map f = .ok b) : ∃ a, x = .ok a ∧ f a = b := by
  cases x with
  | error e => cases h
  | ok a =>
    cases h
    exact ⟨a, rfl, rfl⟩

lemma exists_of_bind_eq_ok {α β ε : Type} {f : α → Except ε β} {x : Except ε α} {b : β}
    (h : x >>= f = .ok b) : ∃ a, x = .ok a ∧ f a = .ok b := by
  cases x with
  | error e => cases h
  | ok a => exact ⟨a, rfl, h⟩

lemma mapM_map_eq_ok {α β : Type} {f : α → β} {read : β → Except Fault α} {xs : List α}
    (h : ∀ x ∈ xs, read (f x) = .ok x) : (xs.map f).mapM read = .ok xs := by
  induction xs with
  | nil => rfl
  | cons x xs ih =>
    obtain ⟨hx, hxs⟩ := List.forall_mem_cons.mp h
    rw [List.map_cons, List.mapM_cons, hx, ih hxs]
    rfl

lemma exists_of_mapM {α β : Type} {read : β → Except Fault α} {items : List β} {xs : List α}
    (h : items.mapM read = .ok xs) : ∀ x ∈ xs, ∃ w ∈ items, read w = .ok x := by
  induction items generalizing xs with
  | nil =>
    cases h
    exact nofun
  | cons w items ih =>
    rw [List.mapM_cons] at h
    obtain ⟨y, hw, h⟩ := exists_of_bind_eq_ok h
    obtain ⟨ys, hrest, h⟩ := exists_of_bind_eq_ok h
    cases h
    intro x hx
    rcases List.mem_cons.mp hx with rfl | hx
    · exact ⟨w, List.mem_cons_self, hw⟩
    · obtain ⟨w', hmem, hw'⟩ := ih hrest x hx
      exact ⟨w', List.mem_cons_of_mem _ hmem, hw'⟩

/-! ### Fields piece by piece -/

lemma decodeItems_eq_mapM (items : List Json) : decodeItems items = items.mapM decode := by
  induction items with
  | nil => rfl
  | cons v items ih =>
    rw [decodeItems, ih, List.mapM_cons]

lemma decodeProperties_eq_mapM (fields : List (String × Json)) :
    decodeProperties fields = fields.mapM fun f => (decode f.2).map fun d => (f.1, d) := by
  induction fields with
  | nil => rfl
  | cons f fields ih =>
    rw [decodeProperties, ih, List.mapM_cons]
    cases decode f.2 <;> rfl

/-- Decode one attribute. -/
def decodeAttribute (shape : Shape) (v : Json) : Except Fault Attribute :=
  match shape, v with
  | .definition, v => (decode v).map .definition
  | .definitions, .arr items => (decodeItems items).map .definitions
  | .properties, .obj fields => (decodeProperties fields).map .properties
  | shape, v => decodePlain shape v

/-- The fields of a node decode to attributes, one for each declared field. -/
inductive Decodes (k : Kind) : List (String × Json) → Attributes → Prop
  | nil : Decodes k [] []
  | undeclared {name : String} {v : Json} {fields : List (String × Json)} {as : Attributes}
      (hs : shapeOf k name = none) (h : Decodes k fields as) : Decodes k ((name, v) :: fields) as
  | declared {name : String} {shape : Shape} {v : Json} {a : Attribute}
      {fields : List (String × Json)} {as : Attributes} (hs : shapeOf k name = some shape)
      (hv : decodeAttribute shape v = .ok a) (h : Decodes k fields as) :
      Decodes k ((name, v) :: fields) ((name, a) :: as)

/-- The attribute of a name, if it is present. -/
def single (name : String) (a : Option Attribute) : Attributes :=
  (a.map fun a => (name, a)).toList

/-- Attributes of the shape contain no definitions. -/
def Shape.isPlain : Shape → Bool
  | .definition | .definitions | .properties => false
  | _ => true

section Fields

variable {k : Kind} {name : String} {shape : Shape} {v : Json} {a : Attribute}
  {fields others : List (String × Json)} {as bs : Attributes}

lemma decodeFields_of_declared (hs : shapeOf k name = some shape) :
    decodeFields k ((name, v) :: fields) = decodeAttribute shape v >>= fun a =>
      (decodeFields k fields).map fun as => (name, a) :: as := by
  rw [decodeFields, hs]
  cases shape with
  | definitions | properties => cases v <;> rfl
  | _ => rfl

theorem decodes_iff : Decodes k fields as ↔ decodeFields k fields = .ok as := by
  constructor
  · intro h
    induction h with
    | nil => rfl
    | undeclared hs _ ih => rw [decodeFields, hs, ih]
    | declared hs hv _ ih =>
      rw [decodeFields_of_declared hs, hv, ih]
      rfl
  · induction fields generalizing as with
    | nil =>
      intro h
      cases h
      exact .nil
    | cons f fields ih =>
      obtain ⟨name, v⟩ := f
      intro h
      cases hs : shapeOf k name with
      | none =>
        rw [decodeFields, hs] at h
        exact .undeclared hs (ih h)
      | some shape =>
        rw [decodeFields_of_declared hs] at h
        obtain ⟨a, hv, hmap⟩ := exists_of_bind_eq_ok h
        obtain ⟨as, hrest, rfl⟩ := exists_of_map_eq_ok hmap
        exact .declared hs hv (ih hrest)

/-- A decoded node is assembled from the attributes that its fields decode to. -/
lemma exists_of_decode {d : Definition} (h : decode v = .ok d) :
    ∃ fields k as, v = .obj fields ∧ kindOf? fields = some k ∧ Decodes k fields as ∧
      assemble k as = .ok d := by
  cases v with
  | obj fields =>
    rw [decode] at h
    cases hk : kindOf? fields with
    | none =>
      rw [hk] at h
      cases h
    | some k =>
      rw [hk] at h
      obtain ⟨as, has, hd⟩ := exists_of_bind_eq_ok h
      exact ⟨fields, k, as, rfl, hk, decodes_iff.mpr has, hd⟩
  | null | bool _ | int _ | real _ | str _ | arr _ => cases h

lemma decode_of_ofJson {d : Definition} (h : ofJson v = .ok d) : decode v = .ok d := by
  obtain ⟨root, -, h⟩ := exists_of_bind_eq_ok h
  cases hd : decode v with
  | error fault =>
    rw [hd] at h
    cases h
  | ok e =>
    rw [hd] at h
    cases h
    rfl

lemma Decodes.append (h : Decodes k fields as) (h' : Decodes k others bs) :
    Decodes k (fields ++ others) (as ++ bs) := by
  induction h with
  | nil => exact h'
  | undeclared hs _ ih => exact .undeclared hs ih
  | declared hs hv _ ih => exact .declared hs hv ih

lemma Decodes.plain (hs : shapeOf k name = some shape) (hp : shape.isPlain = true)
    (hv : decodePlain shape v = .ok a) : Decodes k [(name, v)] [(name, a)] := by
  refine .declared hs ?_ .nil
  cases shape with
  | definition | definitions | properties => cases hp
  | _ => exact hv

lemma Decodes.optional {α : Type} {f : α → Json} {wrap : α → Attribute} (x : Option α)
    (hs : shapeOf k name = some shape) (hp : shape.isPlain = true)
    (hx : ∀ a ∈ x, decodePlain shape (f a) = .ok (wrap a)) :
    Decodes k (optionalField name f x) (single name (x.map wrap)) := by
  cases x with
  | none => exact .nil
  | some a => exact .plain hs hp (hx a rfl)

end Fields

end Definition

/-! ### Finite numbers -/

def Literal.numbers : Literal → List Binary64
  | .number x => [x]
  | .null | .bool _ | .text _ => []

/-- The floating-point numbers among the attributes of a leaf. -/
def Leaf.numbers : Leaf → List Binary64
  | .number rules => rules.minimum.toList ++ rules.maximum.toList ++ rules.multipleOf.toList
  | .literal value => value.numbers
  | .enumeration values => values.flatMap Literal.numbers
  | _ => []

namespace Definition

/-- Every number in the attributes of a definition, examples apart, is finite. -/
def NumbersFinite (d : Definition) : Prop :=
  ∀ l ∈ d.leaves, ∀ x ∈ l.numbers, x.isFinite = true

instance (d : Definition) : Decidable d.NumbersFinite :=
  inferInstanceAs (Decidable (∀ l ∈ d.leaves, ∀ x ∈ l.numbers, x.isFinite = true))

lemma NumbersFinite.of_mem_parts {d p : Definition} (hd : d.NumbersFinite) (hp : p ∈ d.parts) :
    p.NumbersFinite :=
  fun l hl => hd l (leaves_subset_of_mem_parts hp hl)

/-! ### Values of attributes -/

lemma decodeInt_of_le {expected : Expected} {low high n : Int} (hlow : low ≤ n) (hhigh : n ≤ high) :
    decodeInt expected low high (.int n) = .ok n := by
  rw [decodeInt, if_pos ⟨hlow, hhigh⟩]

lemma decodePlain_size (n : UInt64) : decodePlain .size (sizeJson n) = .ok (.size n) := by
  have hlt := n.toNat_lt
  rw [decodePlain, sizeJson, decodeOptional, decodeSize, decodeInt_of_le (by omega) (by omega),
    Except.map, Int.toNat_natCast, UInt64.ofNat_toNat]
  · rfl
  · exact nofun

lemma decodePlain_precision (p : Int32) :
    decodePlain .precision (.int p.toInt) = .ok (.precision p) := by
  have hlow := p.le_toInt
  have hhigh := p.toInt_lt
  rw [decodePlain, decodeOptional, decodePrecision, decodeInt_of_le (by omega) (by omega),
    Except.map, Int32.ofInt_toInt]
  · rfl
  · exact nofun

lemma decodePort_int (p : UInt16) : decodePort (.int p.toNat) = .ok p := by
  have hlt := p.toNat_lt
  rw [decodePort, decodeInt_of_le (by omega) (by omega), Except.map, Int.toNat_natCast,
    UInt16.ofNat_toNat]

lemma decodePlain_real {x : Binary64} (h : x.isFinite = true) :
    decodePlain .real (numberJson x) = .ok (.real x) := by
  rw [numberJson, if_pos h]
  rfl

lemma decodeLiteral_toJson {l : Literal} (h : ∀ x ∈ l.numbers, x.isFinite = true) :
    decodeLiteral l.toJson = .ok l := by
  cases l with
  | number x =>
    rw [Literal.toJson, numberJson, if_pos (h x List.mem_cons_self)]
    rfl
  | null | bool _ | text _ => rfl

lemma decodePlain_literal {l : Literal} (h : ∀ x ∈ l.numbers, x.isFinite = true) :
    decodePlain .literal l.toJson = .ok (.literal l) := by
  rw [decodePlain, decodeLiteral_toJson h]
  rfl

lemma decodeMode_name (m : FilterMode) : decodeMode (.str m.name) = .ok m := by
  cases m <;> rfl

lemma decodeFormat_name (c : ColorFormat) : decodeFormat (.str c.name) = .ok c := by
  cases c <;> rfl

lemma decodeList_arr {α : Type} {f : α → Json} {read : Json → Except Fault α} {xs : List α}
    (h : ∀ x ∈ xs, read (f x) = .ok x) : decodeList read (.arr (xs.map f)) = .ok xs :=
  mapM_map_eq_ok h

lemma decodePlain_texts (xs : List String) :
    decodePlain .texts (.arr (xs.map .str)) = .ok (.texts xs) := by
  have hxs : decodeList decodeText (.arr (xs.map .str)) = .ok xs := decodeList_arr fun _ _ => rfl
  rw [decodePlain, hxs]
  rfl

lemma decodePlain_formats (cs : List ColorFormat) :
    decodePlain .formats (.arr (cs.map fun c => .str c.name)) = .ok (.formats cs) := by
  rw [decodePlain, decodeList_arr fun c _ => decodeFormat_name c]
  rfl

lemma decodePlain_literals {ls : List Literal}
    (h : ∀ x ∈ ls.flatMap Literal.numbers, x.isFinite = true) :
    decodePlain .literals (.arr (ls.map Literal.toJson)) = .ok (.literals ls) := by
  have hls : ∀ l ∈ ls, decodeLiteral l.toJson = .ok l := fun l hl =>
    decodeLiteral_toJson fun x hx => h x (List.mem_flatMap.mpr ⟨l, hl, hx⟩)
  rw [decodePlain, decodeList_arr hls]
  rfl

lemma decodePlain_examples (vs : List Json) :
    decodePlain .examples (.arr vs) = .ok (.examples vs) := by
  have hvs : decodeList .ok (.arr (vs.map id)) = .ok vs := decodeList_arr fun _ _ => rfl
  rw [List.map_id] at hvs
  rw [decodePlain, hvs]
  rfl

lemma decodeFilter_filterJson {α : Type} {f : α → Json} {read : Json → Except Fault α}
    (h : ∀ a, read (f a) = .ok a) (x : Filter α) :
    decodeFilter read (filterJson f x) = .ok x := by
  have hentries : decodeList read (.arr (x.entries.map f)) = .ok x.entries :=
    decodeList_arr fun a _ => h a
  simp only [filterJson, inlineFilterFields, decodeFilter, decodeFilterFields, decodeMode_name,
    hentries]
  rfl

lemma decodePlain_textFilter (x : Filter String) :
    decodePlain .textFilter (filterJson .str x) = .ok (.textFilter x) := by
  have htext : ∀ s : String, decodeText (.str s) = .ok s := fun _ => rfl
  rw [decodePlain, decodeOptional, decodeFilter_filterJson htext x]
  · rfl
  · exact nofun

lemma decodePlain_portFilter (x : Filter UInt16) :
    decodePlain .portFilter (filterJson (fun p => .int p.toNat) x) = .ok (.portFilter x) := by
  rw [decodePlain, decodeOptional, decodeFilter_filterJson decodePort_int x]
  · rfl
  · exact nofun

end Definition

end SchemaForge
