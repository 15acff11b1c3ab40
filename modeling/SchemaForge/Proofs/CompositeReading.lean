import SchemaForge.Proofs.DelimitedTexts
import SchemaForge.Proofs.SchemaExpression

/-!
# Reading composite schemas back

The schema of an object, a tuple or a union determines the schemas of its parts, their order and,
for an object, the names of its properties, which of them are optional and what happens to further
keys. Parts are chained texts, so the separators between them are found. A property is optional
exactly if its text ends in the call that says so, because no schema ends in that call itself.
-/

namespace SchemaForge

open JavaScript

/-! ### The mark of optional properties -/

/-- The call behind the schema of a property that may be absent. -/
def optionalMark : String := ".optional()"

/-- A text that does not end in the mark of optional properties. -/
def Unmarked (text : String) : Prop := ¬optionalMark.toList <:+ text.toList

instance (text : String) : Decidable (Unmarked text) :=
  inferInstanceAs (Decidable (¬optionalMark.toList <:+ text.toList))

lemma unmarked_append (a : String) {b : String} (hlong : Unmarked b)
    (hshort : ¬b.toList <:+ optionalMark.toList) : Unmarked (a ++ b) := by
  intro h
  rw [String.toList_append] at h
  rcases List.suffix_or_suffix_of_suffix h (List.suffix_append _ _) with h | h
  · exact hlong h
  · exact hshort h

/-- A closed text has no bracket that it opens last. -/
lemma ne_openParen_of_closed {text : String} {cs : List Char} {c : Char} (h : Closed text)
    (hlast : text.toList = cs ++ [c]) : c ≠ '(' := by
  rintro rfl
  unfold Closed Lexes at h
  rw [hlast, run_append] at h
  obtain ⟨⟨mode, due⟩, -, hstep⟩ := Option.bind_eq_some_iff.mp h
  have hparen : codeStep true due '(' = some ⟨.code, ')' :: due⟩ := rfl
  cases mode with
  | code => simp [run, step, hparen] at hstep
  | string escaped => cases escaped <;> simp [run, step, stringStep] at hstep
  | slash => simp [run, step, regexStep, isLineTerminator] at hstep
  | regex inClass escaped =>
    cases inClass <;> cases escaped <;> simp [run, step, regexStep, isLineTerminator] at hstep

/-- An argument between parentheses keeps the mark away, unless it is empty. -/
lemma unmarked_argument {a argument : String} (h : Closed argument)
    (hempty : Unmarked (a ++ ")")) : Unmarked (a ++ argument ++ ")") := by
  rcases List.eq_nil_or_concat' argument.toList with hnil | ⟨cs, c, hlast⟩
  · rw [String.toList_eq_nil_iff.mp hnil, String.append_empty]
    exact hempty
  · have hc : c ≠ '(' := ne_openParen_of_closed h hlast
    intro hmark
    have hend : [c, ')'] <:+ (a ++ argument ++ ")").toList := by
      refine ⟨a.toList ++ cs, ?_⟩
      simp [hlast]
    rcases List.suffix_or_suffix_of_suffix hmark hend with hlong | hshort
    · have hlength := hlong.length_le
      simp [optionalMark] at hlength
    · rw [List.suffix_iff_eq_drop] at hshort
      have hparen : c = '(' := by simpa [optionalMark] using hshort
      exact hc hparen

/-- A method whose call is not the mark. -/
def IsOtherMethod (method : String) : Prop :=
  Unmarked ("." ++ method ++ "()") ∧ ¬("." ++ method ++ "()").toList <:+ optionalMark.toList

instance (method : String) : Decidable (IsOtherMethod method) :=
  inferInstanceAs (Decidable (_ ∧ _))

lemma unmarked_call (a : String) {method argument : String} (hm : IsOtherMethod method)
    (h : Closed argument) : Unmarked (a ++ Schema.call method argument) := by
  have hassoc : a ++ Schema.call method argument =
      (a ++ "." ++ method ++ "(") ++ argument ++ ")" := by
    simp only [Schema.call, String.append_assoc]
  have hempty : (a ++ "." ++ method ++ "(") ++ ")" = a ++ ("." ++ method ++ "()") := by
    have hparens : "(" ++ ")" = "()" := rfl
    simp only [String.append_assoc, hparens]
  rw [hassoc]
  apply unmarked_argument h
  rw [hempty]
  exact unmarked_append a hm.1 hm.2

lemma unmarked_callWith {α : Type} {base method : String} {text : α → String}
    (hbase : Unmarked base) (hm : IsOtherMethod method) (ht : ∀ a, Closed (text a))
    (x : Option α) : Unmarked (base ++ Schema.callWith method text x) := by
  cases x with
  | none =>
    rw [Schema.callWith, String.append_empty]
    exact hbase
  | some a => exact unmarked_call base hm (ht a)

lemma unmarked_boundCalls {base : String} (hbase : Unmarked base) (b : Bounds) :
    Unmarked (base ++ Schema.boundCalls b) := by
  rw [Schema.boundCalls, ← String.append_assoc]
  apply unmarked_callWith _ (by decide) (fun _ => (chained_natRepr _).closed)
  exact unmarked_callWith hbase (by decide) (fun _ => (chained_natRepr _).closed) _

lemma unmarked_list (a : String) (items : List String) :
    Unmarked (a ++ Schema.list items ++ ")") := by
  have hassoc : a ++ Schema.list items ++ ")" =
      (a ++ ("[" ++ ", ".intercalate items)) ++ "])" := by
    have hend : "]" ++ ")" = "])" := rfl
    simp only [Schema.list, String.append_assoc, hend]
  rw [hassoc]
  exact unmarked_append _ (by decide) (by decide)

lemma unmarked_toJs (a : String) (r : Refinement) : Unmarked (a ++ r.toJs) := by
  unfold Refinement.toJs
  rw [← String.append_assoc]
  exact unmarked_append _ (by decide) (by decide)

lemma unmarked_refined {base : String} (hbase : Unmarked base) (rs : List Refinement) :
    Unmarked (Schema.refined base rs) := by
  unfold Schema.refined
  induction rs generalizing base with
  | nil =>
    rw [List.map_nil, String.join_nil, String.append_empty]
    exact hbase
  | cons r rs ih =>
    rw [List.map_cons, String.join_cons, ← String.append_assoc]
    exact ih (unmarked_toJs base r)

/-! ### Leaves -/

lemma unmarked_enumeration (ls : List Literal) : Unmarked (Schema.enumeration ls) := by
  have hliteral : ∀ l, Unmarked (Schema.literalOf l) := fun l =>
    unmarked_argument (closed_literal l) (by decide)
  match ls with
  | [] => decide
  | [l] => exact hliteral l
  | l :: m :: ls =>
    simp only [Schema.enumeration]
    split_ifs
    · exact unmarked_list _ _
    · exact unmarked_list _ _

lemma unmarked_nanoid (length : Option UInt64) (alphabet : Option String) :
    Unmarked (Schema.nanoid length alphabet) := by
  unfold Schema.nanoid
  apply unmarked_callWith _ (by decide) (fun n : UInt64 => (chained_natRepr n.toNat).closed)
  cases alphabet with
  | none => decide
  | some a =>
    dsimp only
    split_ifs
    · decide
    · exact unmarked_append _ (by decide) (by decide)

lemma unmarked_color (f : Filter ColorFormat) : Unmarked (Schema.color f) := by
  unfold Schema.color
  cases Schema.acceptedFormats f with
  | none => decide
  | some formats =>
    cases formats with
    | nil => decide
    | cons format formats => exact unmarked_append _ (by decide) (by decide)

lemma unmarked_iso (format : String) (options : List String)
    (hempty : Unmarked ("z.iso." ++ format ++ "()")) : Unmarked (Schema.iso format options) := by
  unfold Schema.iso
  split_ifs
  · exact hempty
  · rw [← String.append_assoc]
    exact unmarked_append _ (by decide) (by decide)

theorem Leaf.unmarked_schema (l : Leaf) : Unmarked l.schema := by
  cases l with
  | plain p => cases p <;> decide
  | string pattern length =>
    apply unmarked_boundCalls
    apply unmarked_callWith (by decide) (by decide)
    intro p
    have hopen : Lexes true {} "new RegExp(" ⟨.code, [')']⟩ := by decide
    have hclose : Lexes true ⟨.code, [')']⟩ ")" {} := by decide
    exact (hopen.append ((closed_quote p).lexes (by decide))).append hclose
  | number rules =>
    have hleast : IsOtherMethod (if rules.exclusiveMinimum.getD false then "gt" else "gte") := by
      split_ifs <;> decide
    have hgreatest : IsOtherMethod (if rules.exclusiveMaximum.getD false then "lt" else "lte") := by
      split_ifs <;> decide
    apply unmarked_callWith _ (by decide) closed_number
    apply unmarked_callWith _ hgreatest closed_number
    exact unmarked_callWith (by decide) hleast closed_number _
  | literal value => exact unmarked_argument (closed_literal value) (by decide)
  | enumeration values => exact unmarked_enumeration values
  | email domain => exact unmarked_refined (by decide) _
  | nanoid length alphabet => exact unmarked_nanoid length alphabet
  | url rules => exact unmarked_refined (by decide) _
  | color format => exact unmarked_color format
  | binary encoding bytes =>
    apply unmarked_callWith _ (by decide) (fun _ => (chained_natRepr _).closed)
    apply unmarked_callWith _ (by decide) (fun _ => (chained_natRepr _).closed)
    cases encoding <;> decide
  | hash algorithm => exact unmarked_append _ (by decide) (by decide)
  | address kind range =>
    apply unmarked_refined
    cases kind <;> decide
  | time p => exact unmarked_iso _ _ (by decide)
  | datetime offset zoneless p => exact unmarked_iso _ _ (by decide)

/-! ### Composite nodes and references -/

/-- What a part of a composite node is written as. -/
structure IsPart (text : String) : Prop where
  expression : IsExpression text
  unmarked : Unmarked text

lemma unmarked_never : Unmarked Schema.never := by decide

lemma unmarked_lazyHandle (name : String) : Unmarked (Schema.lazyHandle name) := by
  have hassoc : Schema.lazyHandle name =
      ("z.lazy(() => " ++ Schema.sanitize name) ++ "Schema)" := by
    have hend : "Schema" ++ ")" = "Schema)" := rfl
    simp only [Schema.lazyHandle, Schema.identifier, String.append_assoc, hend]
  rw [hassoc]
  exact unmarked_append _ (by decide) (by decide)

lemma unmarked_object (fields : List Schema.Field) (additional : Option Bool) :
    Unmarked (Schema.object fields additional) := by
  unfold Schema.object
  match additional with
  | some true => exact unmarked_append _ (by decide) (by decide)
  | some false => exact unmarked_append _ (by decide) (by decide)
  | none =>
    dsimp only
    rw [String.append_empty]
    split_ifs
    · decide
    · exact unmarked_append _ (by decide) (by decide)

lemma unmarked_union {members : List String} (h : ∀ x ∈ members, Unmarked x) :
    Unmarked (Schema.union members) := by
  match members, h with
  | [], _ => exact unmarked_never
  | [x], h => exact h x (List.mem_singleton.mpr rfl)
  | x :: y :: rest, _ => exact unmarked_list _ _

lemma unmarked_intersection {members : List String} (h : ∀ x ∈ members, IsPart x) :
    Unmarked (Schema.intersection members) := by
  cases members with
  | nil => exact unmarked_never
  | cons x rest =>
    rw [Schema.intersection]
    -- The last member decides, so the induction is from the end.
    induction rest using List.reverseRecOn with
    | nil => exact (h x List.mem_cons_self).unmarked
    | append_singleton rest y _ =>
      rw [List.foldl_append, List.foldl_cons, List.foldl_nil]
      exact unmarked_call _ (by decide) (h y (by simp)).expression.chained.closed

namespace Definition

lemma unmarked_schemaFrom {d : Definition} (h : d.isComposite = true) {r : Definition → String}
    (hr : ∀ p ∈ d.parts, IsPart (r p)) : Unmarked (d.schemaFrom (d.parts.map r)) := by
  have htexts : ∀ x ∈ d.parts.map r, IsPart x := List.forall_mem_map.mpr hr
  cases d with
  | leaf _ _ | ref _ _ => cases h
  | array item size ex =>
    apply unmarked_boundCalls
    have hitem := htexts (r item) (List.mem_singleton.mpr rfl)
    exact unmarked_argument hitem.expression.chained.closed (by decide)
  | object properties required additional ex => exact unmarked_object _ _
  | tuple items ex => exact unmarked_list _ _
  | group g members ex =>
    cases g with
    | anyOf => exact unmarked_union fun x hx => (htexts x hx).unmarked
    | oneOf => exact unmarked_union fun x hx => (htexts x hx).unmarked
    | allOf => exact unmarked_intersection htexts

theorem isPart_render {resolve : String → Rendered} (hr : ∀ name, IsPart (resolve name).text)
    {d : Definition} (hd : d.AlphabetsOnOneLine) : IsPart (d.render resolve).text := by
  refine ⟨isExpression_render (fun name => (hr name).expression) hd, ?_⟩
  induction d using partsInduction with
  | leaf l ex =>
    rw [render]
    exact Leaf.unmarked_schema l
  | composite d h ih =>
    rw [render_of_isComposite resolve h, Rendered.ofParts, List.map_map]
    apply unmarked_schemaFrom h
    intro p hp
    have hp' := hd.of_mem_parts hp
    exact ⟨isExpression_render (fun name => (hr name).expression) hp', ih p hp hp'⟩
  | ref name ex => exact (hr name).unmarked

end Definition

theorem Registry.isPart_reference {reg : Registry}
    (hreg : ∀ e ∈ reg.entries, e.2.AlphabetsOnOneLine) (stack : List String) (name : String) :
    IsPart (reg.reference stack name).text := by
  induction stack, name using referenceInduction reg with
  | cycle stack name hs =>
    rw [reference_of_mem hs]
    exact ⟨isExpression_lazyHandle name, unmarked_lazyHandle name⟩
  | unregistered stack name hs hd =>
    rw [reference_of_unregistered hs hd]
    exact ⟨isExpression_lazyHandle name, unmarked_lazyHandle name⟩
  | inlined stack name d hs hd ih =>
    rw [reference_of_registered hs hd]
    exact Definition.isPart_render ih (hreg _ (Entries.mem_of_get? hd))

/-! ### Reading lists of parts back -/

namespace Schema

/-- An expression with or without the mark behind it, where the expression itself has none. -/
lemma schema_eq_of_marked {s t : String} {p q : Bool} (hs : Unmarked s) (ht : Unmarked t)
    (h : s ++ (if p then "" else optionalMark) = t ++ (if q then "" else optionalMark)) :
    s = t ∧ p = q := by
  have hmarked : ∀ x : String, optionalMark.toList <:+ (x ++ optionalMark).toList := by
    intro x
    rw [String.toList_append]
    exact List.suffix_append _ _
  cases p <;> cases q <;> simp only [Bool.false_eq_true, ↓reduceIte, String.append_empty] at h
  · exact ⟨(String.append_left_inj _).mp h, rfl⟩
  · exact absurd (h ▸ hmarked s) ht
  · exact absurd (h ▸ hmarked t) hs
  · exact ⟨h, rfl⟩

theorem delimits_field :
    Delimits (fun f : Field => IsPart f.schema) fun f => f.text.toList := by
  intro f g x y hf hg hx hy heq
  have htext : ∀ (f : Field) (rest : List Char), f.text.toList ++ rest =
      "  ".toList ++ ((Text.quote f.name).toList ++ (": ".toList ++
        ((f.schema ++ if f.required then "" else optionalMark).toList ++ rest))) := by
    intro f rest
    simp only [Field.text, optionalMark, String.toList_append, List.append_assoc]
  have hchained : ∀ f : Field, IsPart f.schema →
      Chained (f.schema ++ if f.required then "" else optionalMark) := by
    intro f hf
    apply hf.expression.chained.append
    split_ifs <;> decide
  rw [htext, htext] at heq
  obtain ⟨hname, hrest⟩ := quote_append_inj (List.append_cancel_left heq)
  obtain ⟨hschema, hxy⟩ := delimits_chained (hchained f hf) (hchained g hg) hx hy
    (List.append_cancel_left hrest)
  obtain ⟨hschema, hrequired⟩ := schema_eq_of_marked hf.unmarked hg.unmarked hschema
  cases f
  cases g
  simp_all

/-- What an object says about further keys. -/
def furtherKeys : Option Bool → String
  | some true => ".passthrough()"
  | some false => ".strict()"
  | none => ""

lemma furtherKeys_injective : Function.Injective furtherKeys := by
  rintro (_ | _ | _) (_ | _ | _) <;> decide

lemma toList_object_nil (additional : Option Bool) :
    (object [] additional).toList =
      "z.object(\x7b".toList ++ ("\x7d)".toList ++ (furtherKeys additional).toList) := by
  rcases additional with - | - | - <;> rfl

lemma toList_object_cons (f : Field) (fs : List Field) (additional : Option Bool) :
    (object (f :: fs) additional).toList =
      "z.object(\x7b".toList ++ '\n' :: ([',', '\n'].intercalate
        ((f :: fs).map fun f => f.text.toList) ++
          '\n' :: ("\x7d)".toList ++ (furtherKeys additional).toList)) := by
  rcases additional with - | - | - <;>
    simp [object, furtherKeys, String.toList_intercalate, Function.comp_def]

theorem object_eq_iff {fs gs : List Field} {a b : Option Bool}
    (hfs : ∀ f ∈ fs, IsPart f.schema) (hgs : ∀ g ∈ gs, IsPart g.schema) :
    object fs a = object gs b ↔ fs = gs ∧ a = b := by
  refine ⟨fun h => ?_, fun ⟨hfields, hadditional⟩ => by rw [hfields, hadditional]⟩
  have hlist := congrArg String.toList h
  have hkeys : ∀ {x y : Option Bool}, "\x7d)".toList ++ (furtherKeys x).toList =
      "\x7d)".toList ++ (furtherKeys y).toList → x = y := fun hxy =>
    furtherKeys_injective (String.toList_inj.mp (List.append_cancel_left hxy))
  cases fs with
  | nil =>
    rw [toList_object_nil] at hlist
    cases gs with
    | nil =>
      rw [toList_object_nil] at hlist
      exact ⟨rfl, hkeys (List.append_cancel_left hlist)⟩
    | cons g gs =>
      rw [toList_object_cons] at hlist
      cases List.append_cancel_left hlist
  | cons f fs =>
    rw [toList_object_cons] at hlist
    cases gs with
    | nil =>
      rw [toList_object_nil] at hlist
      cases List.append_cancel_left hlist
    | cons g gs =>
      rw [toList_object_cons] at hlist
      have hstart : ∀ f : Field, IsPart f.schema → ∃ c cs, f.text.toList = c :: cs ∧ c ≠ '\n' := by
        intro f _
        exact ⟨' ', f.text.toList.tail, by simp [Field.text], by decide⟩
      obtain ⟨hfields, hrest⟩ := delimits_field.intercalate_inj (by decide) (by decide)
        (by decide) hstart hfs hgs (List.cons.inj (List.append_cancel_left hlist)).2
      exact ⟨hfields, hkeys hrest⟩

lemma toList_list (items : List String) (rest : List Char) :
    (list items).toList ++ rest =
      '[' :: ([',', ' '].intercalate (items.map String.toList) ++ ']' :: rest) := by
  simp [list, String.toList_intercalate]

theorem list_inj {xs ys : List String} (hxs : ∀ x ∈ xs, IsExpression x)
    (hys : ∀ y ∈ ys, IsExpression y) : list xs = list ys ↔ xs = ys := by
  refine ⟨fun h => ?_, fun h => by rw [h]⟩
  have hlist := congrArg (fun s => s.toList ++ []) h
  simp only [toList_list] at hlist
  have hdelimits : Delimits IsExpression String.toList := fun _ _ _ _ hx hy =>
    delimits_chained hx.chained hy.chained
  have hstart : ∀ x, IsExpression x → ∃ c cs, x.toList = c :: cs ∧ c ≠ ']' := by
    intro x hx
    obtain ⟨cs, hcs⟩ := hx.start
    exact ⟨'z', '.' :: cs, hcs.symm, by decide⟩
  exact (hdelimits.intercalate_inj (by decide) (by decide) (by decide) hstart hxs hys
    (List.cons.inj hlist).2).1

theorem tuple_eq_iff {xs ys : List String} (hxs : ∀ x ∈ xs, IsExpression x)
    (hys : ∀ y ∈ ys, IsExpression y) : tuple xs = tuple ys ↔ xs = ys := by
  rw [← list_inj hxs hys, tuple, tuple, String.append_left_inj, String.append_right_inj]

theorem union_eq_iff {xs ys : List String} (hx : 2 ≤ xs.length) (hy : 2 ≤ ys.length)
    (hxs : ∀ x ∈ xs, IsExpression x) (hys : ∀ y ∈ ys, IsExpression y) :
    union xs = union ys ↔ xs = ys := by
  have hunion : ∀ zs : List String, 2 ≤ zs.length → union zs = "z.union(" ++ list zs ++ ")" := by
    intro zs hz
    match zs, hz with
    | _ :: _ :: _, _ => rfl
  rw [← list_inj hxs hys, hunion xs hx, hunion ys hy, String.append_left_inj,
    String.append_right_inj]

end Schema

namespace Generator

variable {g : Generator}

lemma generate_of_isComposite (g : Generator) {d : Definition} (h : d.isComposite = true) :
    (g.generate d).1 = d.schemaFrom (d.parts.map fun p => (g.generate p).1) := by
  rw [generate, Registry.generate, Definition.render_of_isComposite _ h, Rendered.ofParts,
    List.map_map]
  rfl

/-- The fields that an object is written with. -/
def fields (g : Generator) (properties : List (String × Definition)) (required : List String) :
    List Schema.Field :=
  properties.map fun p => ⟨p.1, (g.generate p.2).1, required.contains p.1⟩

lemma generate_object (g : Generator) (properties : List (String × Definition))
    (required : List String) (additional : Option Bool) (ex : List Json) :
    (g.generate (.object properties required additional ex)).1 =
      Schema.object (g.fields properties required) additional := by
  rw [generate_of_isComposite g rfl, Definition.schemaFrom, fields, Definition.parts,
    List.map_map, List.zipWith_map_right, List.zipWith_self]
  rfl

lemma isPart_generate (hreg : ∀ e ∈ g.registry.entries, e.2.AlphabetsOnOneLine)
    {d : Definition} (hd : d.AlphabetsOnOneLine) : IsPart (g.generate d).1 :=
  Definition.isPart_render (Registry.isPart_reference hreg []) hd

lemma isPart_of_mem_map_parts (hreg : ∀ e ∈ g.registry.entries, e.2.AlphabetsOnOneLine)
    {d : Definition} (hd : d.AlphabetsOnOneLine) :
    ∀ x ∈ d.parts.map fun p => (g.generate p).1, IsPart x := by
  refine List.forall_mem_map.mpr ?_
  intro p hp
  exact isPart_generate hreg (hd.of_mem_parts hp)

lemma isPart_of_mem_fields (hreg : ∀ e ∈ g.registry.entries, e.2.AlphabetsOnOneLine)
    {properties : List (String × Definition)} {required : List String} {additional : Option Bool}
    {ex : List Json}
    (hd : (Definition.object properties required additional ex).AlphabetsOnOneLine) :
    ∀ f ∈ g.fields properties required, IsPart f.schema := by
  refine List.forall_mem_map.mpr ?_
  intro p hp
  exact isPart_generate hreg (hd.of_mem_parts (List.mem_map_of_mem hp))

lemma fields_eq_iff (g : Generator) (ps ps' : List (String × Definition))
    (required required' : List String) :
    g.fields ps required = g.fields ps' required' ↔
      (ps.map fun p => (p.1, (g.generate p.2).1, required.contains p.1)) =
        ps'.map fun p => (p.1, (g.generate p.2).1, required'.contains p.1) := by
  have hinj : Function.Injective fun f : Schema.Field => (f.name, f.schema, f.required) := by
    rintro ⟨_, _, _⟩ ⟨_, _, _⟩ h
    simp_all
  rw [← (List.map_injective_iff.mpr hinj).eq_iff, fields, fields, List.map_map, List.map_map]
  rfl

lemma generate_union (g : Generator) {grouping : Grouping} (h : grouping ≠ .allOf)
    (members : List Definition) (ex : List Json) :
    (g.generate (.group grouping members ex)).1 =
      Schema.union (members.map fun d => (g.generate d).1) := by
  rw [generate_of_isComposite g rfl]
  cases grouping with
  | anyOf => rfl
  | oneOf => rfl
  | allOf => exact absurd rfl h

/-- The text of a composite definition determines its parts. Two objects have one text exactly if
they have the same names, texts of properties and required properties in the same order, and treat
further keys alike. Two tuples, or two unions of at least two members, have one text exactly if
they have the same texts of members in the same order. -/
theorem generate_composite_eq_iff (g : Generator)
    (hreg : ∀ e ∈ g.registry.entries, e.2.AlphabetsOnOneLine) :
    (∀ properties required additional ex properties' required' additional' ex',
      (Definition.object properties required additional ex).AlphabetsOnOneLine →
      (Definition.object properties' required' additional' ex').AlphabetsOnOneLine →
      ((g.generate (.object properties required additional ex)).1 =
          (g.generate (.object properties' required' additional' ex')).1 ↔
        (properties.map fun p => (p.1, (g.generate p.2).1, required.contains p.1)) =
            (properties'.map fun p => (p.1, (g.generate p.2).1, required'.contains p.1)) ∧
          additional = additional')) ∧
    (∀ items ex items' ex', (Definition.tuple items ex).AlphabetsOnOneLine →
      (Definition.tuple items' ex').AlphabetsOnOneLine →
      ((g.generate (.tuple items ex)).1 = (g.generate (.tuple items' ex')).1 ↔
        (items.map fun d => (g.generate d).1) = items'.map fun d => (g.generate d).1)) ∧
    (∀ grouping members ex grouping' members' ex', grouping ≠ .allOf → grouping' ≠ .allOf →
      2 ≤ members.length → 2 ≤ members'.length →
      (Definition.group grouping members ex).AlphabetsOnOneLine →
      (Definition.group grouping' members' ex').AlphabetsOnOneLine →
      ((g.generate (.group grouping members ex)).1 =
          (g.generate (.group grouping' members' ex')).1 ↔
        (members.map fun d => (g.generate d).1) = members'.map fun d => (g.generate d).1)) := by
  refine ⟨?objects, ?tuples, ?unions⟩
  case objects =>
    intro ps required additional ex ps' required' additional' ex' hd hd'
    rw [generate_object, generate_object, Schema.object_eq_iff (isPart_of_mem_fields hreg hd)
      (isPart_of_mem_fields hreg hd'), fields_eq_iff]
  case tuples =>
    intro items ex items' ex' hd hd'
    rw [generate_of_isComposite g rfl, generate_of_isComposite g rfl]
    exact Schema.tuple_eq_iff (fun x hx => (isPart_of_mem_map_parts hreg hd x hx).expression)
      fun x hx => (isPart_of_mem_map_parts hreg hd' x hx).expression
  case unions =>
    intro grouping members ex grouping' members' ex' hg hg' hlength hlength' hd hd'
    rw [generate_union g hg, generate_union g hg']
    exact Schema.union_eq_iff (by rwa [List.length_map]) (by rwa [List.length_map])
      (fun x hx => (isPart_of_mem_map_parts hreg hd x hx).expression)
      fun x hx => (isPart_of_mem_map_parts hreg hd' x hx).expression

/-- A property name that spells the end of one property and the beginning of the next, members that
are nested in two ways, and a member that is repeated. -/
theorem generate_composite_ne_of_hostile_texts :
    let g : Generator := ⟨Registry.ofList [("a, b", .leaf (.nanoid none (some "],[")) [])], [], []⟩
    let text := Definition.leaf (.plain .boolean) []
    let named := Definition.ref "a, b" []
    let d := Definition.object [("a", text), ("b", named)] [] (some false) []
    let e := Definition.object [("a\": z.boolean().optional(),\n  \"b", named)] [] (some false) []
    let pair := Definition.tuple [.tuple [text, named] [], text] []
    let pair' := Definition.tuple [.tuple [text] [], named, text] []
    let union := Definition.group .anyOf [text, named] []
    let union' := Definition.group .oneOf [text, text, named] []
    (∀ x ∈ g.registry.entries, x.2.AlphabetsOnOneLine) ∧
      (∀ x ∈ [d, e, pair, pair', union, union'], x.AlphabetsOnOneLine) ∧
      (g.generate d).1 ≠ (g.generate e).1 ∧ (g.generate pair).1 ≠ (g.generate pair').1 ∧
      (g.generate union).1 ≠ (g.generate union').1 := by
  intro g text named d e pair pair' union union'
  have hreg : ∀ x ∈ g.registry.entries, x.2.AlphabetsOnOneLine := by decide
  have hall : ∀ x ∈ [d, e, pair, pair', union, union'], x.AlphabetsOnOneLine := by decide
  obtain ⟨hobjects, htuples, hunions⟩ := generate_composite_eq_iff g hreg
  refine ⟨hreg, hall, ?_, ?_, ?_⟩
  · intro h
    have hfields := ((hobjects _ _ _ _ _ _ _ _ (hall d (by simp)) (hall e (by simp))).mp h).1
    cases congrArg List.length hfields
  · intro h
    have hitems := (htuples _ _ _ _ (hall pair (by simp)) (hall pair' (by simp))).mp h
    cases congrArg List.length hitems
  · intro h
    have hmembers := (hunions _ _ _ _ _ _ (by decide) (by decide) (by decide) (by decide)
      (hall union (by simp)) (hall union' (by simp))).mp h
    cases congrArg List.length hmembers

end Generator

end SchemaForge
