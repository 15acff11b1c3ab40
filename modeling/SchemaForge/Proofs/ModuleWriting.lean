import SchemaForge.Module
import SchemaForge.Proofs.GeneratorReuse

/-!
# Writing of modules

A module is written name by name: one generator is reused for all names, the identifiers that are
taken are remembered, and the text grows. The draft after some names is that of their expressions,
each as a generator of its own would give it. So writing stops exactly at the first name that is
sanitized like an earlier one, and otherwise every name is exported once and in order.
-/

namespace SchemaForge

namespace Entries

lemma insert_of_get?_eq_none {α : Type} {name : String} {xs : Entries α} (value : α)
    (h : get? name xs = none) : insert name value xs = xs ++ [(name, value)] := by
  induction xs with
  | nil => rfl
  | cons x xs ih =>
    obtain ⟨key, v⟩ := x
    by_cases hk : key = name
    · rw [get?, if_pos hk] at h
      cases h
    · rw [get?, if_neg hk] at h
      rw [insert, if_neg hk, ih h, List.cons_append]

/-- Names under keys of their own are found by their keys. -/
lemma get?_map_key (f : String → String) (names : List String) (key : String) :
    get? key (names.map fun n => (f n, n)) = names.find? fun n => f n = key := by
  induction names with
  | nil => rfl
  | cons name names ih =>
    by_cases hk : f name = key
    · simp [get?, hk]
    · simpa [get?, hk] using ih

end Entries

namespace Schema

lemma identifier_eq_iff (a b : String) : identifier a = identifier b ↔ sanitize a = sanitize b :=
  String.append_left_inj "Schema"

lemma nodup_map_identifier_iff (names : List String) :
    (names.map identifier).Nodup ↔ (names.map sanitize).Nodup := by
  unfold List.Nodup
  simp only [List.pairwise_map, ne_eq, identifier_eq_iff]

end Schema

/-- The first name whose identifier an earlier name has, and that earlier name; `earlier` holds
the names before the list. -/
def findClash (earlier : List String) : List String → Option Clash
  | [] => none
  | name :: rest =>
    let ident := Schema.identifier name
    match earlier.find? fun n => Schema.identifier n = ident with
    | some first => some ⟨ident, first, name⟩
    | none => findClash (earlier ++ [name]) rest

namespace Module

/-- The expressions of all registered names, in order. -/
def expressions (reg : Registry) : List (String × Rendered) :=
  reg.names.filterMap fun name => (reg.generateNamed? name).map fun r => (name, r)

/-- The module of a registry without a clash. -/
def assemble (options : ModuleOptions) (reg : Registry) : Module :=
  let rs := expressions reg
  { content :=
      (if options.header then headerText else "") ++ importText ++
        String.join (rs.map fun (name, r) => (Export.ofName name).text options.types r.text)
    exports := rs.map fun (name, _) => Export.ofName name
    unresolved := reg.unresolved
    deferred := Text.distinct (rs.flatMap fun (_, r) => r.deferred) }

variable {options : ModuleOptions} {reg : Registry}

/-! ### One name after the other -/

namespace Draft

/-- The draft in which names have been written with their expressions. -/
def after (options : ModuleOptions) (reg : Registry) (rs : List (String × Rendered)) : Draft :=
  { generator :=
      { registry := reg
        deferred := Text.distinct (rs.flatMap fun r => r.2.deferred)
        skipped := rs.flatMap fun r => r.2.skipped }
    taken := (rs.map Prod.fst).map fun n => (Schema.identifier n, n)
    content := (start options reg).content ++
      String.join (rs.map fun r => (Export.ofName r.1).text options.types r.2.text)
    exports := rs.map fun r => Export.ofName r.1 }

lemma after_nil (options : ModuleOptions) (reg : Registry) :
    after options reg [] = start options reg := by
  simp [after, start, Text.distinct]

variable {rs : List (String × Rendered)} {name : String}

lemma get?_taken_after (key : String) :
    (after options reg rs).taken.get? key =
      (rs.map Prod.fst).find? fun n => Schema.identifier n = key :=
  Entries.get?_map_key Schema.identifier _ key

lemma generateNamed_after {r : Rendered} (hr : reg.generateNamed? name = some r) :
    (after options reg rs).generator.generateNamed name =
      (some r.text, (after options reg (rs ++ [(name, r)])).generator) := by
  have hrecord : (after options reg rs).generator.record r =
      (after options reg (rs ++ [(name, r)])).generator := by
    simp [after, Generator.record, Text.distinct_append, Text.distinct_distinct]
  rw [← hrecord]
  simp [Generator.generateNamed, after, hr]

lemma add_of_taken {first : String}
    (h : (rs.map Prod.fst).find? (fun n => Schema.identifier n = Schema.identifier name) =
      some first) :
    add options.types (after options reg rs) name =
      .error ⟨Schema.identifier name, first, name⟩ := by
  simp only [add]
  rw [get?_taken_after, h]

/-- A name whose identifier is free is written with the expression of a generator of its own. -/
lemma add_of_free {r : Rendered}
    (h : (rs.map Prod.fst).find? (fun n => Schema.identifier n = Schema.identifier name) = none)
    (hr : reg.generateNamed? name = some r) :
    add options.types (after options reg rs) name =
      .ok (after options reg (rs ++ [(name, r)])) := by
  have hfree : (after options reg rs).taken.get? (Schema.identifier name) = none := by
    rw [get?_taken_after, h]
  simp only [add]
  rw [hfree, generateNamed_after hr]
  dsimp only
  rw [Entries.insert_of_get?_eq_none name hfree]
  simp [after, String.append_assoc]

/-- The run over further names: it ends where a clash is found, and otherwise all of them are
written. -/
lemma addAll_after (rs : List (String × Rendered)) {names : List String}
    (hnames : ∀ name ∈ names, name ∈ reg.names) :
    ((after options reg rs).addAll options.types names).2 = findClash (rs.map Prod.fst) names ∧
      (findClash (rs.map Prod.fst) names = none →
        ((after options reg rs).addAll options.types names).1 =
          after options reg (rs ++ names.filterMap fun name =>
            (reg.generateNamed? name).map fun r => (name, r))) := by
  induction names generalizing rs with
  | nil =>
    rw [List.filterMap_nil, List.append_nil]
    exact ⟨rfl, fun _ => rfl⟩
  | cons name names ih =>
    obtain ⟨hname, hrest⟩ := List.forall_mem_cons.mp hnames
    rw [addAll, findClash]
    cases hfirst : (rs.map Prod.fst).find? fun n => Schema.identifier n = Schema.identifier name with
    | some first =>
      rw [add_of_taken hfirst]
      exact ⟨rfl, fun h => by cases h⟩
    | none =>
      obtain ⟨d, hd⟩ := (Registry.mem_names_iff name).mp hname
      have hr : reg.generateNamed? name = some (d.render (reg.reference [name])) := by
        simp [Registry.generateNamed?, hd]
      have hstep := ih (rs ++ [(name, d.render (reg.reference [name]))]) hrest
      rw [List.map_append, List.append_assoc] at hstep
      rw [add_of_free hfirst hr, List.filterMap_cons, hr]
      exact hstep

end Draft

/-- Generation in closed form. -/
theorem generate_eq (options : ModuleOptions) (reg : Registry) :
    generate options reg =
      (findClash [] reg.names).elim (.ok (assemble options reg)) .error := by
  obtain ⟨hclash, hdraft⟩ :
      ((Draft.start options reg).addAll options.types reg.names).2 = findClash [] reg.names ∧
        (findClash [] reg.names = none →
          ((Draft.start options reg).addAll options.types reg.names).1 =
            Draft.after options reg (expressions reg)) := by
    rw [← Draft.after_nil]
    exact Draft.addAll_after [] fun name hname => hname
  unfold generate write
  rcases hrun : (Draft.start options reg).addAll options.types reg.names with ⟨draft, clash⟩
  rw [hrun] at hclash hdraft
  rw [← hclash]
  cases clash with
  | some clash => rfl
  | none =>
    have hafter : draft = Draft.after options reg (expressions reg) := hdraft hclash.symm
    rw [hafter]
    rfl

variable {m : Module} {clash : Clash}

lemma generate_eq_ok_iff :
    generate options reg = .ok m ↔ findClash [] reg.names = none ∧ m = assemble options reg := by
  rw [generate_eq]
  cases findClash [] reg.names with
  | none => simp [eq_comm]
  | some clash => simp

lemma generate_eq_error_iff :
    generate options reg = .error clash ↔ findClash [] reg.names = some clash := by
  rw [generate_eq]
  cases findClash [] reg.names with
  | none => simp
  | some clash => simp

end Module

/-! ### Clashes -/

/-- Nothing clashes exactly when all identifiers are different, from each other and from those of
the earlier names. -/
lemma findClash_eq_none_iff (earlier names : List String) :
    findClash earlier names = none ↔
      (names.map Schema.identifier).Nodup ∧
        ∀ a ∈ earlier, ∀ b ∈ names, Schema.identifier a ≠ Schema.identifier b := by
  induction names generalizing earlier with
  | nil => simp [findClash]
  | cons name rest ih =>
    rw [findClash]
    cases hfirst : earlier.find? fun n => Schema.identifier n = Schema.identifier name with
    | some first =>
      have hmem := List.mem_of_find?_eq_some hfirst
      have heq : Schema.identifier first = Schema.identifier name := by
        simpa using List.find?_some hfirst
      constructor
      · intro h
        cases h
      · rintro ⟨-, h⟩
        exact absurd heq (h first hmem name List.mem_cons_self)
    | none =>
      have hname : ∀ a ∈ earlier, Schema.identifier a ≠ Schema.identifier name := by
        simpa using hfirst
      simp only [ih, List.map_cons, List.nodup_cons, List.mem_map, List.forall_mem_append,
        List.forall_mem_cons, List.not_mem_nil, false_imp_iff, implies_true, and_true]
      constructor
      · rintro ⟨hnodup, hearlier, hrest⟩
        refine ⟨⟨?_, hnodup⟩, fun a ha => ⟨hname a ha, hearlier a ha⟩⟩
        rintro ⟨b, hb, heq⟩
        exact hrest b hb heq.symm
      · rintro ⟨⟨hrest, hnodup⟩, hearlier⟩
        exact ⟨hnodup, fun a ha => (hearlier a ha).2, fun b hb heq => hrest ⟨b, hb, heq.symm⟩⟩

/-- A clash is found at the first name that has the identifier of a name before it. -/
lemma exists_of_findClash {earlier names : List String} {clash : Clash}
    (hearlier : (earlier.map Schema.identifier).Nodup) (h : findClash earlier names = some clash) :
    ∃ before after, names = before ++ clash.second :: after ∧
      ((earlier ++ before).map Schema.identifier).Nodup ∧ clash.first ∈ earlier ++ before ∧
      Schema.identifier clash.first = Schema.identifier clash.second ∧
      clash.identifier = Schema.identifier clash.second := by
  induction names generalizing earlier with
  | nil => cases h
  | cons name rest ih =>
    rw [findClash] at h
    cases hfirst : earlier.find? fun n => Schema.identifier n = Schema.identifier name with
    | some first =>
      rw [hfirst] at h
      cases h
      have heq : Schema.identifier first = Schema.identifier name := by
        simpa using List.find?_some hfirst
      refine ⟨[], rest, rfl, ?_, ?_, heq, rfl⟩
      · rwa [List.append_nil]
      · rw [List.append_nil]
        exact List.mem_of_find?_eq_some hfirst
    | none =>
      have hname : ∀ a ∈ earlier, Schema.identifier a ≠ Schema.identifier name := by
        simpa using hfirst
      have hnodup : ((earlier ++ [name]).map Schema.identifier).Nodup := by
        rw [List.map_append, List.map_singleton]
        refine hearlier.append (List.nodup_singleton _) (List.disjoint_singleton.mpr ?_)
        intro hmem
        obtain ⟨a, ha, heq⟩ := List.mem_map.mp hmem
        exact hname a ha heq
      rw [hfirst] at h
      obtain ⟨before, after, rfl, hbefore, hmem, heq, hident⟩ := ih hnodup h
      rw [List.append_assoc] at hbefore hmem
      exact ⟨name :: before, after, rfl, hbefore, hmem, heq, hident⟩

/-- The reported names: the first that is sanitized like an earlier one, and that earlier one. -/
lemma report_of_findClash {names : List String} {clash : Clash}
    (h : findClash [] names = some clash) :
    clash.identifier = Schema.identifier clash.second ∧
      ∃ before after, names = before ++ clash.second :: after ∧
        (before.map Schema.sanitize).Nodup ∧
        ∀ n, n ∈ before ∧ Schema.sanitize n = Schema.sanitize clash.second ↔ n = clash.first := by
  obtain ⟨before, after, hnames, hnodup, hmem, heq, hident⟩ := exists_of_findClash (by simp) h
  rw [List.nil_append] at hnodup hmem
  have hfirst := (Schema.identifier_eq_iff _ _).mp heq
  have hsanitized := (Schema.nodup_map_identifier_iff before).mp hnodup
  refine ⟨hident, before, after, hnames, hsanitized, fun n => ⟨?_, ?_⟩⟩
  · rintro ⟨hn, hsame⟩
    exact List.inj_on_of_nodup_map hsanitized hn hmem (hsame.trans hfirst.symm)
  · rintro rfl
    exact ⟨hmem, hfirst⟩

lemma exists_findClash_iff {names : List String} (hnames : names.Nodup) :
    (∃ clash, findClash [] names = some clash) ↔
      ∃ a ∈ names, ∃ b ∈ names, a ≠ b ∧ Schema.sanitize a = Schema.sanitize b := by
  constructor
  · rintro ⟨clash, hclash⟩
    obtain ⟨-, before, after, rfl, -, hfirst⟩ := report_of_findClash hclash
    obtain ⟨hmem, hsame⟩ := (hfirst clash.first).mpr rfl
    have hne : clash.first ≠ clash.second := by
      intro heq
      exact List.disjoint_of_nodup_append hnames hmem (heq ▸ List.mem_cons_self)
    exact ⟨_, List.mem_append_left _ hmem, _, List.mem_append_right _ List.mem_cons_self, hne, hsame⟩
  · rintro ⟨a, ha, b, hb, hne, hsame⟩
    cases hclash : findClash [] names with
    | some clash => exact ⟨clash, rfl⟩
    | none =>
      have hidents := ((findClash_eq_none_iff [] names).mp hclash).1
      have heq := (Schema.identifier_eq_iff a b).mpr hsame
      exact absurd (List.inj_on_of_nodup_map hidents ha hb heq) hne

/-! ### Exported names -/

namespace Module

variable {options : ModuleOptions} {reg : Registry}

lemma mem_expressions (name : String) (r : Rendered) :
    (name, r) ∈ expressions reg ↔ reg.generateNamed? name = some r := by
  unfold expressions
  simp only [List.mem_filterMap, Option.map_eq_some_iff, Prod.mk.injEq]
  constructor
  · rintro ⟨_, -, _, h, rfl, rfl⟩
    exact h
  · intro h
    obtain ⟨d, hd, -⟩ := Option.map_eq_some_iff.mp h
    exact ⟨name, Registry.mem_names_of_find? hd, r, h, rfl, rfl⟩

lemma map_fst_expressions : (expressions reg).map Prod.fst = reg.names := by
  unfold expressions
  rw [List.map_filterMap]
  have hsome : ∀ name ∈ reg.names,
      ((reg.generateNamed? name).map fun r => (name, r)).map Prod.fst = some name := by
    intro name hname
    obtain ⟨d, hd⟩ := (Registry.mem_names_iff name).mp hname
    simp [Registry.generateNamed?, hd]
  rw [List.filterMap_congr hsome, List.filterMap_some]

lemma exports_assemble : (assemble options reg).exports = reg.names.map Export.ofName := by
  rw [← map_fst_expressions, List.map_map]
  rfl

end Module

/-! ### Lines of a module -/

/-- Lines with their ends. -/
def unlines (lines : List String) : String := String.join (lines.map (· ++ "\n"))

lemma unlines_cons (line : String) (lines : List String) :
    unlines (line :: lines) = line ++ "\n" ++ unlines lines :=
  String.join_cons

lemma unlines_append (lines others : List String) :
    unlines (lines ++ others) = unlines lines ++ unlines others := by
  rw [unlines, List.map_append, String.join_append]
  rfl

lemma unlines_flatMap {α : Type} (f : α → List String) (xs : List α) :
    unlines (xs.flatMap f) = String.join (xs.map fun x => unlines (f x)) := by
  induction xs with
  | nil => rfl
  | cons x xs ih => rw [List.flatMap_cons, unlines_append, ih, List.map_cons, String.join_cons]

namespace Module

/-- The lines that export a name with its expression: a blank one, that of the constant and, if types
are asked for, that of the type. -/
def exportLines (types : Bool) (name expression : String) : List String :=
  ["", "export const " ++ Schema.identifier name ++ " = " ++ expression ++ ";"] ++
    if types then
      ["export type " ++ Schema.sanitize name ++ " = z.infer<typeof " ++ Schema.identifier name ++
        ">;"]
    else []

/-- The lines of a module whose names have the given expressions. -/
def moduleLines (options : ModuleOptions) (expression : String → String) (names : List String) :
    List String :=
  (if options.header then ["// Auto-generated by zodgen", "// Do not edit manually", ""] else []) ++
    ["import \x7b z \x7d from 'zod';"] ++
    names.flatMap fun name => exportLines options.types name (expression name)

lemma text_ofName (types : Bool) (name expression : String) :
    (Export.ofName name).text types expression = unlines (exportLines types name expression) := by
  have hblank : "\nexport const " = "" ++ "\n" ++ "export const " := by decide +kernel
  have hconstant : ";\n" = ";" ++ "\n" := by decide +kernel
  have htype : ">;\n" = ">;" ++ "\n" := by decide +kernel
  unfold Export.text exportLines Export.ofName
  rw [unlines_append, unlines_cons, unlines_cons, hblank, hconstant]
  cases types with
  | false =>
    rw [if_neg Bool.false_ne_true, if_neg Bool.false_ne_true]
    simp only [String.append_assoc]
    rfl
  | true =>
    rw [if_pos rfl, if_pos rfl, unlines_cons, htype]
    simp only [String.append_assoc]
    rfl

variable {reg : Registry}

/-- The text of a module without a clash, line by line. -/
lemma content_eq_unlines (options : ModuleOptions) {expression : String → String}
    (h : ∀ name r, reg.generateNamed? name = some r → expression name = r.text) :
    (assemble options reg).content = unlines (moduleLines options expression reg.names) := by
  have hheader : headerText = unlines ["// Auto-generated by zodgen", "// Do not edit manually", ""] := by
    decide +kernel
  have himport : importText = unlines ["import \x7b z \x7d from 'zod';"] := by decide +kernel
  have hexports :
      String.join ((expressions reg).map fun r => (Export.ofName r.1).text options.types r.2.text) =
        unlines (reg.names.flatMap fun name => exportLines options.types name (expression name)) := by
    rw [unlines_flatMap, ← map_fst_expressions, List.map_map]
    apply congrArg String.join
    apply List.map_congr_left
    rintro ⟨name, r⟩ hr
    rw [text_ofName, Function.comp_apply, h name r ((mem_expressions name r).mp hr)]
  rw [moduleLines, unlines_append, unlines_append, ← hexports, ← himport]
  cases hoption : options.header with
  | false =>
    simp only [assemble, hoption]
    rfl
  | true =>
    simp only [assemble, hoption, if_true]
    rw [hheader]

lemma fst_generateNamed (reg : Registry) (name : String) :
    (Generator.generateNamed ⟨reg, [], []⟩ name).1 =
      (reg.generateNamed? name).map Rendered.text := by
  unfold Generator.generateNamed
  dsimp only
  cases reg.generateNamed? name <;> rfl

/-- Generation fails exactly when two registered names are sanitized to the same text. The clash is
that of the first name that is sanitized like an earlier one, of which there is only one. Otherwise
every registered name is exported once and in order, under identifiers and types that are all
different, and the text consists of the lines of the names, each with the expression that a
generator of its own gives. -/
theorem generate_writes_all_or_clashes (options : ModuleOptions) (reg : Registry) :
    ((∃ clash, generate options reg = .error clash) ↔
      ∃ a ∈ reg.names, ∃ b ∈ reg.names, a ≠ b ∧ Schema.sanitize a = Schema.sanitize b) ∧
    (∀ clash, generate options reg = .error clash →
      clash.identifier = Schema.identifier clash.second ∧
        ∃ before after, reg.names = before ++ clash.second :: after ∧
          (before.map Schema.sanitize).Nodup ∧
          ∀ n, n ∈ before ∧ Schema.sanitize n = Schema.sanitize clash.second ↔ n = clash.first) ∧
    ∀ m, generate options reg = .ok m →
      m.exports.map Export.name = reg.names ∧ reg.names.Nodup ∧
        (∀ x ∈ m.exports, x.schemaName = Schema.identifier x.name ∧
          x.typeName = Schema.sanitize x.name) ∧
        (m.exports.map Export.schemaName).Nodup ∧ (m.exports.map Export.typeName).Nodup ∧
        ∃ expression : String → String,
          (∀ name ∈ reg.names,
            (Generator.generateNamed ⟨reg, [], []⟩ name).1 = some (expression name)) ∧
          m.content = unlines (moduleLines options expression reg.names) := by
  simp only [generate_eq_error_iff, generate_eq_ok_iff]
  refine ⟨exists_findClash_iff reg.nodup, fun clash => report_of_findClash, ?_⟩
  rintro m ⟨hclash, rfl⟩
  have hidents := ((findClash_eq_none_iff [] reg.names).mp hclash).1
  have hsanitized := (Schema.nodup_map_identifier_iff reg.names).mp hidents
  rw [exports_assemble, List.map_map, List.map_map, List.map_map]
  refine ⟨List.map_id _, reg.nodup, ?_, hidents, hsanitized, ?_⟩
  · rw [List.forall_mem_map]
    exact fun name _ => ⟨rfl, rfl⟩
  · let expression := fun name => ((reg.generateNamed? name).map Rendered.text).getD ""
    refine ⟨expression, ?_, content_eq_unlines options ?_⟩
    · intro name hname
      obtain ⟨d, hd⟩ := (Registry.mem_names_iff name).mp hname
      rw [fst_generateNamed]
      simp [expression, Registry.generateNamed?, hd]
    · intro name r hr
      simp [expression, hr]

/-- Two clashes, of which the first is reported, and two names that refer to each other. -/
theorem generate_writes_all_or_clashes_of_pairs :
    let leaf := Definition.leaf (.plain .null) []
    let clashing := Registry.ofList
      [("a.b", leaf), ("c", leaf), ("a-b", leaf), ("c", leaf), ("a b", leaf)]
    let pair := Registry.ofList [("a", .ref "b" []), ("b", .tuple [.ref "a" [], .ref "a" []] [])]
    generate {} clashing = .error ⟨"a_bSchema", "a.b", "a-b"⟩ ∧
      (∃ before after, clashing.names = before ++ "a-b" :: after ∧
        ∀ n, n ∈ before ∧ Schema.sanitize n = Schema.sanitize "a-b" ↔ n = "a.b") ∧
      ∃ m, generate { header := false } pair = .ok m ∧ m.exports.map Export.name = ["a", "b"] ∧
        ∃ expression : String → String,
          (Generator.generateNamed ⟨pair, [], []⟩ "b").1 = some (expression "b") ∧
          m.content = unlines (moduleLines { header := false } expression ["a", "b"]) := by
  intro leaf clashing pair
  have hclash : generate {} clashing = .error ⟨"a_bSchema", "a.b", "a-b"⟩ :=
    generate_eq_error_iff.mpr (by decide)
  have hok : generate { header := false } pair = .ok (assemble { header := false } pair) :=
    generate_eq_ok_iff.mpr ⟨by decide, rfl⟩
  obtain ⟨-, hreport, -⟩ := generate_writes_all_or_clashes {} clashing
  obtain ⟨-, -, hwritten⟩ := generate_writes_all_or_clashes { header := false } pair
  obtain ⟨-, before, after, hnames, -, hfirst⟩ := hreport _ hclash
  obtain ⟨hexports, -, -, -, -, expression, hexpression, hcontent⟩ := hwritten _ hok
  refine ⟨hclash, ⟨before, after, hnames, hfirst⟩, _, hok, hexports, expression, ?_, hcontent⟩
  exact hexpression "b" (by decide)

end Module

end SchemaForge
