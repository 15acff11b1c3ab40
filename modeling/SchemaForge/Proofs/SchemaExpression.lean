import SchemaForge.Proofs.SchemaText

/-!
# Generated schemas are single expressions

The texts of composite nodes and of references, and with them the text of every definition over
every registry. No name, pattern, literal or filter entry of a definition can end a literal or a
bracket of the schema that it is written into.
-/

namespace SchemaForge

open JavaScript

/-! ### Composite nodes -/

lemma isExpression_array {item : String} (h : Closed item) (size : Bounds) :
    IsExpression (Schema.array item size) := by
  have hbase : IsExpression ("z.array(" ++ item ++ ")") :=
    isExpression_around (by decide) (t := ⟨.code, [')']⟩) (by decide) (h.lexes (by decide))
      (by decide)
  exact hbase.append (chained_boundCalls size)

lemma closed_field (f : Schema.Field) (h : IsExpression f.schema) : Closed f.text := by
  have hindent : Closed "  " := by decide
  have hcolon : Closed ": " := by decide
  have hoptional : Closed (if f.required then "" else ".optional()") := by
    split_ifs <;> decide
  exact (((hindent.append (closed_quote f.name)).append hcolon).append h.chained.closed).append
    hoptional

lemma isExpression_object {fields : List Schema.Field} (h : ∀ f ∈ fields, IsExpression f.schema)
    (additional : Option Bool) : IsExpression (Schema.object fields additional) := by
  unfold Schema.object
  apply IsExpression.append
  · split_ifs
    · exact ⟨by decide, by decide⟩
    · have hopen : Lexes false {} "z.object(\x7b\n" ⟨.code, ['\x7d', ')']⟩ := by decide
      have hclose : Lexes false ⟨.code, ['\x7d', ')']⟩ "\n\x7d)" {} := by decide
      refine isExpression_around (by decide) hopen (lexes_intercalate (by decide) ?_) hclose
      intro text htext
      obtain ⟨f, hf, rfl⟩ := List.mem_map.mp htext
      exact (closed_field f (h f hf)).lexes (by decide)
  · match additional with
    | some true => decide
    | some false => decide
    | none => exact lexes_empty

lemma isExpression_tuple {items : List String} (h : ∀ x ∈ items, IsExpression x) :
    IsExpression (Schema.tuple items) :=
  isExpression_around (by decide) (t := ⟨.code, [')']⟩) (by decide)
    ((closed_list fun x hx => (h x hx).chained.closed).lexes (by decide)) (by decide)

lemma isExpression_union {members : List String} (h : ∀ x ∈ members, IsExpression x) :
    IsExpression (Schema.union members) := by
  match members, h with
  | [], _ => exact isExpression_never
  | [x], h => exact h x (List.mem_singleton.mpr rfl)
  | x :: y :: rest, h =>
    exact isExpression_around (by decide) (t := ⟨.code, [')']⟩) (by decide)
      ((closed_list fun x hx => (h x hx).chained.closed).lexes (by decide)) (by decide)

lemma isExpression_foldl_and {first : String} (hf : IsExpression first) {rest : List String}
    (h : ∀ x ∈ rest, IsExpression x) :
    IsExpression (rest.foldl (fun acc x => acc ++ Schema.call "and" x) first) := by
  induction rest generalizing first with
  | nil => exact hf
  | cons x rest ih =>
    rw [List.foldl_cons]
    have hx : IsExpression x := h x List.mem_cons_self
    exact ih (hf.append (chained_call (by decide) hx.chained.closed))
      fun y hy => h y (List.mem_cons_of_mem x hy)

lemma isExpression_group (g : Grouping) {members : List String}
    (h : ∀ x ∈ members, IsExpression x) : IsExpression (Schema.group g members) := by
  cases g with
  | anyOf => exact isExpression_union h
  | oneOf => exact isExpression_union h
  | allOf =>
    match members, h with
    | [], _ => exact isExpression_never
    | x :: rest, h =>
      exact isExpression_foldl_and (h x List.mem_cons_self)
        fun y hy => h y (List.mem_cons_of_mem x hy)

/-! ### References -/

lemma isIdentifierChar_of_mem_sanitize {name : String} {c : Char}
    (h : c ∈ (Schema.sanitize name).toList) : Schema.isIdentifierChar c = true := by
  unfold Schema.sanitize at h
  rw [String.toList_ofList] at h
  obtain ⟨d, -, rfl⟩ := List.mem_map.mp h
  by_cases hd : Schema.isIdentifierChar d
  · rw [if_pos hd]
    exact hd
  · rw [if_neg hd]
    decide

lemma isExpression_lazyHandle (name : String) : IsExpression (Schema.lazyHandle name) := by
  have hname : Chained (Schema.sanitize name) :=
    lexes_of_memberChars fun c hc => by
      simp [isMemberChar, isIdentifierChar_of_mem_sanitize hc]
  have hident : Chained (Schema.identifier name) := hname.append (by decide)
  exact isExpression_around (by decide) (t := ⟨.code, [')']⟩) (by decide)
    (hident.closed.lexes (by decide)) (by decide)

/-! ### Definitions -/

namespace Definition

/-- No alphabet of an identifier in the definition contains a line terminator. -/
def AlphabetsOnOneLine (d : Definition) : Prop :=
  ∀ l ∈ d.leaves, ∀ a ∈ l.alphabet?, ∀ c ∈ a.toList, isLineTerminator c = false

instance (d : Definition) : Decidable d.AlphabetsOnOneLine :=
  decidable_of_iff
    ((d.leaves.all fun l => l.alphabet?.all fun a => a.toList.all fun c => !isLineTerminator c) = true)
    (by simp [AlphabetsOnOneLine, Option.all_eq_true])

/-- The fields of an object take their schemas from the texts of its properties. -/
lemma schema_mem_of_mem_zipWith {properties : List (String × Definition)} {texts : List String}
    {make : String × Definition → String → Schema.Field} (hmake : ∀ p x, (make p x).schema = x)
    {f : Schema.Field} (h : f ∈ properties.zipWith make texts) : f.schema ∈ texts := by
  induction properties generalizing texts with
  | nil => simp at h
  | cons p properties ih =>
    cases texts with
    | nil => simp at h
    | cons x texts =>
      rw [List.zipWith_cons_cons, List.mem_cons] at h
      rcases h with rfl | h
      · rw [hmake]
        exact List.mem_cons_self
      · exact List.mem_cons_of_mem x (ih h)

lemma AlphabetsOnOneLine.of_mem_parts {d p : Definition} (hd : d.AlphabetsOnOneLine)
    (h : p ∈ d.parts) : p.AlphabetsOnOneLine :=
  fun l hl => hd l (leaves_subset_of_mem_parts h hl)

/-- A composite node makes an expression of the expressions of its parts. -/
lemma isExpression_schemaFrom {d : Definition} (h : d.isComposite = true) {r : Definition → String}
    (hr : ∀ p ∈ d.parts, IsExpression (r p)) : IsExpression (d.schemaFrom (d.parts.map r)) := by
  have htexts : ∀ x ∈ d.parts.map r, IsExpression x := List.forall_mem_map.mpr hr
  cases d with
  | leaf _ _ | ref _ _ => cases h
  | array item size ex =>
    exact isExpression_array (htexts (r item) (List.mem_singleton.mpr rfl)).chained.closed size
  | object properties required additional ex =>
    apply isExpression_object
    intro f hf
    exact htexts _ (schema_mem_of_mem_zipWith (fun _ _ => rfl) hf)
  | tuple items ex => exact isExpression_tuple htexts
  | group g members ex => exact isExpression_group g htexts

/-- A rendering is an expression if the references in it are. -/
theorem isExpression_render {resolve : String → Rendered}
    (hr : ∀ name, IsExpression (resolve name).text) {d : Definition}
    (hd : d.AlphabetsOnOneLine) : IsExpression (d.render resolve).text := by
  induction d using partsInduction with
  | leaf l ex =>
    rw [render]
    exact Leaf.isExpression_schema (hd l (by simp [leaves]))
  | composite d h ih =>
    rw [render_of_isComposite resolve h, Rendered.ofParts, List.map_map]
    exact isExpression_schemaFrom h fun p hp => ih p hp (hd.of_mem_parts hp)
  | ref name ex => exact hr name

end Definition

/-! ### Registries -/

/-- Every reference becomes an expression, inlined or deferred, below any stack of names. -/
theorem Registry.isExpression_reference {reg : Registry}
    (hreg : ∀ e ∈ reg.entries, e.2.AlphabetsOnOneLine) (stack : List String) (name : String) :
    IsExpression (reg.reference stack name).text := by
  induction stack, name using referenceInduction reg with
  | cycle stack name hs =>
    rw [reference_of_mem hs]
    exact isExpression_lazyHandle name
  | unregistered stack name hs hd =>
    rw [reference_of_unregistered hs hd]
    exact isExpression_lazyHandle name
  | inlined stack name d hs hd ih =>
    rw [reference_of_registered hs hd]
    exact Definition.isExpression_render ih (hreg _ (Entries.mem_of_get? hd))

/-- No text of a definition breaks out of the generated schema. Reading the schema ends with every
string, regular expression and bracket closed, it begins at `z.`, and where no bracket is open it
has only names, dots and brackets that open, so that a call behind it belongs to all of it. -/
theorem Generator.generate_reads_as_one_expression (g : Generator) (d : Definition)
    (hreg : ∀ e ∈ g.registry.entries, e.2.AlphabetsOnOneLine) (hd : d.AlphabetsOnOneLine) :
    ['z', '.'] <+: (g.generate d).1.toList ∧
      run false {} (g.generate d).1.toList = some {} ∧
      ∀ cs c ds, (g.generate d).1.toList = cs ++ c :: ds →
        ∃ s, run false {} cs = some s ∧
          (s.due = [] → s.mode = .code ∧ (isMemberChar c = true ∨ (closing? c).isSome)) := by
  have hexpr : IsExpression (g.generate d).1 :=
    Definition.isExpression_render (Registry.isExpression_reference hreg []) hd
  refine ⟨hexpr.start, hexpr.chained, ?_⟩
  intro cs c ds hsplit
  have hrun := hexpr.chained
  unfold Chained Lexes at hrun
  rw [hsplit] at hrun
  exact outside_of_run hrun

/-- An alphabet of brackets, slashes and backslashes, and names that would close a string, a
bracket or begin a comment. -/
theorem Generator.generate_reads_hostile_texts :
    let reg := Registry.ofList [("a\"b", .leaf (.nanoid none (some "]/[\\")) [])]
    let d := Definition.object
      [("\")\n", .ref "a\"b" []), ("/*", .tuple [.ref "no(pe" [], .leaf (.string (some "\"/") {}) []] [])]
      [] none []
    (∀ e ∈ reg.entries, e.2.AlphabetsOnOneLine) ∧ d.AlphabetsOnOneLine ∧
      ['z', '.'] <+: (Generator.generate ⟨reg, [], []⟩ d).1.toList ∧
      run false {} (Generator.generate ⟨reg, [], []⟩ d).1.toList = some {} := by
  intro reg d
  have hreg : ∀ e ∈ reg.entries, e.2.AlphabetsOnOneLine := by decide
  have hd : d.AlphabetsOnOneLine := by decide
  have h := Generator.generate_reads_as_one_expression ⟨reg, [], []⟩ d hreg hd
  exact ⟨hreg, hd, h.1, h.2.1⟩

end SchemaForge
