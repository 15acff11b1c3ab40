import SchemaForge.Proofs.AttributeDecoding
import SchemaForge.Proofs.JsonNumbers

/-!
# Decoded numbers

Integers are accepted where a floating-point number is expected. As a JSON value holds no integer
beyond 64 bits, every number of a decoded definition is finite.
-/

namespace SchemaForge

namespace Definition

/-- The floating-point numbers of an attribute are finite. -/
def Attribute.NumbersFinite : Attribute → Prop
  | .real x => x.isFinite = true
  | .literal l => ∀ x ∈ l.numbers, x.isFinite = true
  | .literals ls => ∀ x ∈ ls.flatMap Literal.numbers, x.isFinite = true
  | .definition d => d.NumbersFinite
  | .definitions ds => ∀ d ∈ ds, d.NumbersFinite
  | .properties ps => ∀ p ∈ ps, p.2.NumbersFinite
  | _ => True

lemma isFinite_of_decodeReal {v : Json} {x : Binary64} (hv : v.numbersInRange = true)
    (h : decodeReal v = .ok x) : x.isFinite = true := by
  cases v with
  | int n =>
    cases h
    rw [Json.numbersInRange, decide_eq_true_eq] at hv
    exact Binary64.isFinite_ofInt hv.1 hv.2
  | real y =>
    cases h
    exact hv
  | _ => cases h

lemma numbersFinite_of_decodeLiteral {v : Json} {l : Literal} (hv : v.numbersInRange = true)
    (h : decodeLiteral v = .ok l) : ∀ x ∈ l.numbers, x.isFinite = true := by
  cases v with
  | int n =>
    cases h
    intro x hx
    rw [List.mem_singleton.mp hx]
    exact isFinite_of_decodeReal hv rfl
  | real y =>
    cases h
    intro x hx
    rw [List.mem_singleton.mp hx]
    exact hv
  | null | bool _ | str _ =>
    cases h
    exact nofun
  | arr _ | obj _ => cases h

lemma exists_of_decodeOptional {α : Type} {f : Json → Except Fault α} {wrap : α → Attribute}
    {v : Json} {a : Attribute} (h : decodeOptional f wrap v = .ok a) :
    a = .absent ∨ ∃ y, f v = .ok y ∧ wrap y = a := by
  by_cases hv : v = .null
  · subst hv
    cases h
    exact .inl rfl
  · rw [decodeOptional] at h
    · exact .inr (exists_of_map_eq_ok h)
    · exact hv

lemma numbersFinite_of_decodePlain {shape : Shape} {v : Json} {a : Attribute}
    (hv : v.numbersInRange = true) (h : decodePlain shape v = .ok a) : a.NumbersFinite := by
  cases shape with
  | real =>
    rcases exists_of_decodeOptional h with rfl | ⟨x, hx, rfl⟩
    · trivial
    · exact isFinite_of_decodeReal hv hx
  | literal =>
    obtain ⟨l, hl, rfl⟩ := exists_of_map_eq_ok h
    exact numbersFinite_of_decodeLiteral hv hl
  | literals =>
    obtain ⟨ls, hls, rfl⟩ := exists_of_map_eq_ok h
    cases v with
    | arr items =>
      intro x hx
      obtain ⟨l, hl, hx⟩ := List.mem_flatMap.mp hx
      obtain ⟨w, hw, hread⟩ := exists_of_mapM hls l hl
      exact numbersFinite_of_decodeLiteral (Json.numbersInRange_arr.mp hv w hw) hread x hx
    | _ => cases hls
  | text | texts | mode | formats | examples =>
    obtain ⟨_, -, rfl⟩ := exists_of_map_eq_ok h
    trivial
  | optionalText | size | flag | precision | textFilter | portFilter =>
    rcases exists_of_decodeOptional h with rfl | ⟨_, -, rfl⟩ <;> trivial
  | definition | definitions | properties => cases h

/-- What decoding a field gives is finite if that holds of the values in the field. -/
lemma numbersFinite_of_decodeAttribute {shape : Shape} {v : Json} {a : Attribute}
    (hv : v.numbersInRange = true)
    (ih : ∀ w d, sizeOf w ≤ sizeOf v → w.numbersInRange = true → decode w = .ok d → d.NumbersFinite)
    (h : decodeAttribute shape v = .ok a) : a.NumbersFinite := by
  unfold decodeAttribute at h
  split at h
  case h_1 =>
    obtain ⟨d, hd, rfl⟩ := exists_of_map_eq_ok h
    exact ih v d (le_refl _) hv hd
  case h_2 items =>
    obtain ⟨ds, hds, rfl⟩ := exists_of_map_eq_ok h
    rw [decodeItems_eq_mapM] at hds
    intro d hd
    obtain ⟨w, hw, hdecode⟩ := exists_of_mapM hds d hd
    exact ih w d (Json.sizeOf_lt_arr hw).le (Json.numbersInRange_arr.mp hv w hw) hdecode
  case h_3 fields =>
    obtain ⟨ps, hps, rfl⟩ := exists_of_map_eq_ok h
    rw [decodeProperties_eq_mapM] at hps
    intro p hp
    obtain ⟨⟨name, w⟩, hw, hread⟩ := exists_of_mapM hps p hp
    obtain ⟨d, hdecode, rfl⟩ := exists_of_map_eq_ok hread
    exact ih w d (Json.sizeOf_lt_obj hw).le (Json.numbersInRange_obj.mp hv _ hw) hdecode
  case h_4 => exact numbersFinite_of_decodePlain hv h

lemma Decodes.numbersFinite {k : Kind} {fields : List (String × Json)} {as : Attributes}
    (h : Decodes k fields as)
    (hfields : ∀ f ∈ fields, ∀ shape a, decodeAttribute shape f.2 = .ok a → a.NumbersFinite) :
    ∀ e ∈ as, e.2.NumbersFinite := by
  induction h with
  | nil => exact nofun
  | undeclared _ _ ih => exact ih (List.forall_mem_cons.mp hfields).2
  | declared _ hv _ ih =>
    obtain ⟨hfirst, hrest⟩ := List.forall_mem_cons.mp hfields
    exact List.forall_mem_cons.mpr ⟨hfirst _ _ hv, ih hrest⟩

section Assemble

variable {k : Kind} {as : Attributes}

lemma numbersFinite_of_lookup (has : ∀ e ∈ as, e.2.NumbersFinite) {name : String} {a : Attribute}
    (h : as.lookup name = some a) : a.NumbersFinite := by
  obtain ⟨before, after, rfl, -⟩ := List.lookup_eq_some_iff.mp h
  exact has (name, a) (by simp)

lemma isFinite_of_real? (has : ∀ e ∈ as, e.2.NumbersFinite) {name : String} {x : Binary64}
    (h : as.real? name = some x) : x.isFinite = true := by
  unfold Attributes.real? at h
  split at h
  case h_1 y hy =>
    cases h
    exact numbersFinite_of_lookup has hy
  case h_2 => cases h

lemma numbersFinite_of_literal? (has : ∀ e ∈ as, e.2.NumbersFinite) {name : String} {l : Literal}
    (h : as.literal? name = some l) : ∀ x ∈ l.numbers, x.isFinite = true := by
  unfold Attributes.literal? at h
  split at h
  case h_1 m hm =>
    cases h
    exact numbersFinite_of_lookup has hm
  case h_2 => cases h

lemma numbersFinite_literals (has : ∀ e ∈ as, e.2.NumbersFinite) (name : String) :
    ∀ x ∈ (as.literals name).flatMap Literal.numbers, x.isFinite = true := by
  unfold Attributes.literals
  split
  case h_1 ls hls => exact numbersFinite_of_lookup has hls
  case h_2 => exact nofun

lemma numbersFinite_of_definition? (has : ∀ e ∈ as, e.2.NumbersFinite) {name : String}
    {d : Definition} (h : as.definition? name = some d) : d.NumbersFinite := by
  unfold Attributes.definition? at h
  split at h
  case h_1 e he =>
    cases h
    exact numbersFinite_of_lookup has he
  case h_2 => cases h

lemma numbersFinite_definitions (has : ∀ e ∈ as, e.2.NumbersFinite) (name : String) :
    ∀ d ∈ as.definitions name, d.NumbersFinite := by
  unfold Attributes.definitions
  split
  case h_1 ds hds => exact numbersFinite_of_lookup has hds
  case h_2 => exact nofun

lemma numbersFinite_properties (has : ∀ e ∈ as, e.2.NumbersFinite) (name : String) :
    ∀ p ∈ as.properties name, p.2.NumbersFinite := by
  unfold Attributes.properties
  split
  case h_1 ps hps => exact numbersFinite_of_lookup has hps
  case h_2 => exact nofun

lemma eq_some_of_required {α : Type} {name : String} {x : Option α} {a : α}
    (h : Attributes.required name x = .ok a) : x = some a := by
  cases x with
  | none => cases h
  | some b =>
    cases h
    rfl

lemma numbersFinite_of_assembleLeaf (has : ∀ e ∈ as, e.2.NumbersFinite) {l : Leaf}
    (h : assembleLeaf as k = .ok l) : ∀ x ∈ l.numbers, x.isFinite = true := by
  cases k with
  | number =>
    cases h
    intro x hx
    simp only [Leaf.numbers, List.mem_append, Option.mem_toList] at hx
    rcases hx with (hx | hx) | hx
    · exact isFinite_of_real? has hx
    · exact isFinite_of_real? has hx
    · exact isFinite_of_real? has hx
  | literal =>
    obtain ⟨value, hvalue, rfl⟩ := exists_of_map_eq_ok h
    exact numbersFinite_of_literal? has (eq_some_of_required hvalue)
  | enum =>
    cases h
    exact numbersFinite_literals has "values"
  | hash =>
    obtain ⟨_, -, rfl⟩ := exists_of_map_eq_ok h
    exact nofun
  | array | object | tuple | anyOf | allOf | oneOf | ref => cases h
  | _ =>
    cases h
    exact nofun

lemma numbersFinite_of_parts {d : Definition} (h : d.isComposite = true)
    (hparts : ∀ p ∈ d.parts, p.NumbersFinite) : d.NumbersFinite := by
  intro l hl
  rw [leaves_of_isComposite h] at hl
  obtain ⟨p, hp, hl⟩ := List.mem_flatMap.mp hl
  exact hparts p hp l hl

theorem numbersFinite_of_assemble (has : ∀ e ∈ as, e.2.NumbersFinite) {d : Definition}
    (h : assemble k as = .ok d) : d.NumbersFinite := by
  unfold assemble at h
  split at h
  case h_1 =>
    obtain ⟨item, hitem, hd⟩ := exists_of_bind_eq_ok h
    cases hd
    have hfinite := numbersFinite_of_definition? has (eq_some_of_required hitem)
    exact numbersFinite_of_parts rfl (List.forall_mem_singleton.mpr hfinite)
  case h_2 =>
    cases h
    exact numbersFinite_of_parts rfl
      (List.forall_mem_map.mpr (numbersFinite_properties has "properties"))
  case h_3 =>
    cases h
    exact numbersFinite_of_parts rfl (numbersFinite_definitions has "items")
  case h_4 | h_5 | h_6 =>
    cases h
    exact numbersFinite_of_parts rfl (numbersFinite_definitions has "types")
  case h_7 =>
    obtain ⟨name, -, hd⟩ := exists_of_bind_eq_ok h
    cases hd
    intro l hl
    cases hl
  case h_8 =>
    obtain ⟨l, hl, hd⟩ := exists_of_bind_eq_ok h
    cases hd
    exact List.forall_mem_singleton.mpr (numbersFinite_of_assembleLeaf has hl)

end Assemble

theorem numbersFinite_of_decode {v : Json} {d : Definition} (hv : v.numbersInRange = true)
    (h : decode v = .ok d) : d.NumbersFinite := by
  obtain ⟨fields, k, as, rfl, -, has, hd⟩ := exists_of_decode h
  refine numbersFinite_of_assemble (has.numbersFinite ?_) hd
  intro f hf shape a ha
  have hlt := Json.sizeOf_lt_obj hf
  exact numbersFinite_of_decodeAttribute (Json.numbersInRange_obj.mp hv f hf)
    (fun w e hw hrange hdecode => numbersFinite_of_decode hrange hdecode) ha
termination_by sizeOf v

lemma numbersFinite_of_ofJson {v : Json} {d : Definition} (hv : v.numbersInRange = true)
    (h : ofJson v = .ok d) : d.NumbersFinite :=
  numbersFinite_of_decode hv (decode_of_ofJson h)

end Definition

end SchemaForge
