import SchemaForge.Proofs.DeferredReferences

/-!
# Exported constants

Lazy handles name constants by identifiers, and different names can have one identifier. A module
is generated only if its registered names have different ones, so a handle for a registered name
meets the constant of that name and no other. Names without a definition take no part in the check:
the handle of such a name meets the constant of any registered name with the same identifier.
-/

namespace SchemaForge

namespace Module

variable {reg : Registry} {options : ModuleOptions} {m : Module}

/-- The constants whose identifier is that of a name are those of the registered names that are
sanitized to the same text. -/
lemma mem_exports_assemble_iff (name : String) (x : Export) :
    x ∈ (assemble options reg).exports ∧ x.schemaName = Schema.identifier name ↔
      ∃ n ∈ reg.names, x = Export.ofName n ∧ Schema.sanitize n = Schema.sanitize name := by
  rw [exports_assemble, List.mem_map]
  constructor
  · rintro ⟨⟨n, hn, rfl⟩, heq⟩
    exact ⟨n, hn, rfl, (Schema.identifier_eq_iff n name).mp heq⟩
  · rintro ⟨n, hn, rfl, heq⟩
    exact ⟨⟨n, hn, rfl⟩, (Schema.identifier_eq_iff n name).mpr heq⟩

/-- Without a clash, the identifier of a registered name is exported once. -/
lemma filter_exports_assemble {name : String} (hclash : findClash [] reg.names = none)
    (hname : name ∈ reg.names) :
    ((assemble options reg).exports.filter fun x => x.schemaName = Schema.identifier name) =
      [Export.ofName name] := by
  have hnodup := ((findClash_eq_none_iff [] reg.names).mp hclash).1
  have hone : reg.names.count name = 1 := List.count_eq_one_of_mem reg.nodup hname
  have hinj : ∀ n ∈ reg.names,
      ((fun x : Export => decide (x.schemaName = Schema.identifier name)) ∘ Export.ofName) n =
        decide (n = name) := by
    intro n hn
    apply decide_eq_decide.mpr
    exact ⟨List.inj_on_of_nodup_map hnodup hn hname, congrArg Schema.identifier⟩
  rw [exports_assemble, List.filter_map, List.filter_congr hinj, List.filter_eq, hone]
  rfl

/-- The text of a module contains the lines of every registered name, with its expression. -/
lemma content_assemble {name : String} {r : Rendered} (hr : reg.generateNamed? name = some r) :
    ∃ before after, (assemble options reg).content =
      before ++ (Export.ofName name).text options.types r.text ++ after := by
  obtain ⟨rs, rs', hsplit⟩ := List.append_of_mem ((mem_expressions name r).mpr hr)
  simp only [assemble, hsplit, List.map_append, List.map_cons, String.join_append,
    String.join_cons, ← String.append_assoc]
  exact ⟨_, _, rfl⟩

/-- A deferred name that is registered has one constant with its identifier, its own, whose lines
hold the expression of that name. A deferred name that is not registered is unresolved, and the
constants with its identifier are those of the registered names that are sanitized alike; so no
such handle meets a constant exactly when no unresolved name is sanitized like a registered one. -/
theorem generate_exports_of_deferred (h : generate options reg = .ok m) :
    (∀ e ∈ m.deferred, reg.contains e.name = true →
      (m.exports.filter fun x => x.schemaName = Schema.identifier e.name) =
          [Export.ofName e.name] ∧
        ∃ r before after, reg.generateNamed? e.name = some r ∧
          m.content = before ++ (Export.ofName e.name).text options.types r.text ++ after) ∧
      (∀ e ∈ m.deferred, reg.contains e.name = false →
        e.name ∈ m.unresolved ∧
          ∀ x, x ∈ m.exports ∧ x.schemaName = Schema.identifier e.name ↔
            ∃ n ∈ reg.names, x = Export.ofName n ∧ Schema.sanitize n = Schema.sanitize e.name) ∧
      ((∀ e ∈ m.deferred, reg.contains e.name = false →
          ∀ x ∈ m.exports, x.schemaName ≠ Schema.identifier e.name) ↔
        ∀ u ∈ m.unresolved, ∀ n ∈ reg.names, Schema.sanitize n ≠ Schema.sanitize u) := by
  obtain ⟨hclash, rfl⟩ := generate_eq_ok_iff.mp h
  have hunresolved : ∀ e ∈ (assemble options reg).deferred, reg.contains e.name = false →
      e.name ∈ reg.unresolved := by
    rintro ⟨name, reason⟩ he hname
    obtain rfl : reason = .unregistered := by
      simpa [hname] using reason_of_mem_deferred_assemble he
    exact (unregistered_mem_deferred_assemble name).mp he
  refine ⟨?_, ?_, ?_⟩
  · intro e _ hname
    have hmem := (Registry.contains_iff_mem_names e.name).mp hname
    obtain ⟨d, hd⟩ := (Registry.mem_names_iff e.name).mp hmem
    have hr : reg.generateNamed? e.name = some (d.render (reg.reference [e.name])) := by
      simp [Registry.generateNamed?, hd]
    obtain ⟨before, after, hcontent⟩ := content_assemble hr
    exact ⟨filter_exports_assemble hclash hmem, _, before, after, hr, hcontent⟩
  · intro e he hname
    exact ⟨hunresolved e he hname, mem_exports_assemble_iff e.name⟩
  · constructor
    · intro hfree u hu n hn heq
      have he : ⟨u, .unregistered⟩ ∈ (assemble options reg).deferred :=
        (unregistered_mem_deferred_assemble u).mpr hu
      have hname : reg.contains u = false := by
        simp [Registry.contains, ((Registry.mem_unresolved_iff u).mp hu).1]
      obtain ⟨hx, hident⟩ := (mem_exports_assemble_iff u _).mpr ⟨n, hn, rfl, heq⟩
      exact hfree _ he hname _ hx hident
    · intro hfree e he hname x hx hident
      obtain ⟨n, hn, -, heq⟩ := (mem_exports_assemble_iff e.name x).mp ⟨hx, hident⟩
      exact hfree e.name (hunresolved e he hname) n hn heq

/-- A name that refers to itself and to a name without a definition. -/
theorem generate_exports_of_tree :
    let reg := Registry.ofList [("tree", .tuple [.ref "tree" [], .ref "lost" []] [])]
    ∃ m, generate {} reg = .ok m ∧ ⟨"tree", .cycle⟩ ∈ m.deferred ∧
      (m.exports.filter fun x => x.schemaName = "treeSchema") = [Export.ofName "tree"] ∧
      ⟨"lost", .unregistered⟩ ∈ m.deferred ∧ ∀ x ∈ m.exports, x.schemaName ≠ "lostSchema" := by
  intro reg
  have hok : generate {} reg = .ok (assemble {} reg) := generate_eq_ok_iff.mpr ⟨by decide, rfl⟩
  obtain ⟨hregistered, -, hfree⟩ := generate_exports_of_deferred hok
  have htree : ⟨"tree", .cycle⟩ ∈ (assemble {} reg).deferred := by decide +kernel
  have hlost : ⟨"lost", .unregistered⟩ ∈ (assemble {} reg).deferred := by decide +kernel
  have hnone := hfree.mpr (by decide)
  exact ⟨_, hok, htree, (hregistered _ htree rfl).1, hlost, hnone _ hlost rfl⟩

/-- A handle for a name without a definition that meets the constant of another name. -/
theorem generate_exports_of_unregistered :
    let reg := Registry.ofList [("a.b", .array (.ref "a-b" []) {} [])]
    ∃ m, generate {} reg = .ok m ∧ ⟨"a-b", .unregistered⟩ ∈ m.deferred ∧
      "a-b" ∈ m.unresolved ∧ Export.ofName "a.b" ∈ m.exports ∧
      (Export.ofName "a.b").schemaName = Schema.identifier "a-b" := by
  intro reg
  have hok : generate {} reg = .ok (assemble {} reg) := generate_eq_ok_iff.mpr ⟨by decide, rfl⟩
  exact ⟨_, hok, by decide +kernel, by decide +kernel, by decide +kernel, by decide⟩

end Module

end SchemaForge
