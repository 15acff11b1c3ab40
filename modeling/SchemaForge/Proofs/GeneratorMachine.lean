import Mathlib.Data.List.Perm.Subperm
import Mathlib.Logic.Relation
import SchemaForge.Proofs.ReferenceGraph
import SchemaForge.Schema.Session

/-!
# Generation step by step

A machine that generates with one stack of the names that are being inlined: a name is pushed when
its definition is entered and popped when the definition is written. Every run of it ends, with the
text and the deferred references that the generator gives, and leaves the stack as it found it. On
the way the stack holds registered names only, each once.
-/

namespace SchemaForge

/-- What is left to do. -/
inductive Task where
  | write (d : Definition)
  /-- Make the text of a node from the texts of its parts, which are the last that were written. -/
  | join (d : Definition)
  /-- Pop the innermost name. -/
  | leave

/-- A generator at work. Between two calls nothing is left to do. -/
structure Machine where
  agenda : List Task := []
  /-- What has been written, last text first. -/
  texts : List String := []
  /-- The names that are being inlined, innermost first. -/
  inlining : List String := []
  deferred : List Deferral := []
  skipped : List String := []

namespace Machine

def defer (m : Machine) (name : String) (reason : DeferReason) : Machine :=
  { m with
    texts := Schema.lazyHandle name :: m.texts
    deferred :=
      if m.deferred.contains ⟨name, reason⟩ then m.deferred else m.deferred ++ [⟨name, reason⟩] }

/-- The first task of the agenda, and nothing if there is none. -/
def step (reg : Registry) (m : Machine) : Option Machine :=
  match m.agenda with
  | [] => none
  | .leave :: rest => some { m with agenda := rest, inlining := m.inlining.tail }
  | .join d :: rest =>
    let count := d.parts.length
    some { m with
      agenda := rest
      texts := d.schemaFrom (m.texts.take count).reverse :: m.texts.drop count }
  | .write (.leaf l _) :: rest =>
    some { m with
      agenda := rest
      texts := l.schema :: m.texts
      skipped := m.skipped ++ l.skipped }
  | .write (.ref name _) :: rest =>
    if name ∈ m.inlining then some ({ m with agenda := rest }.defer name .cycle)
    else
      match reg.find? name with
      | none => some ({ m with agenda := rest }.defer name .unregistered)
      | some d =>
        some { m with agenda := .write d :: .leave :: rest, inlining := name :: m.inlining }
  | .write d :: rest => some { m with agenda := d.parts.map .write ++ .join d :: rest }

def Steps (reg : Registry) (m after : Machine) : Prop := m.step reg = some after

def Runs (reg : Registry) : Machine → Machine → Prop := Relation.ReflTransGen (Steps reg)

/-- A run to the end. -/
def Halts (reg : Registry) (m last : Machine) : Prop := Runs reg m last ∧ last.step reg = none

variable {reg : Registry} {m last : Machine}

/-! ### Runs are determined by their start -/

lemma Halts.of_steps {after : Machine} (h : Halts reg m last) (hs : Steps reg m after) :
    Halts reg after last := by
  obtain ⟨hrun, hlast⟩ := h
  rcases Relation.ReflTransGen.cases_head hrun with rfl | ⟨next, hnext, hrest⟩
  · rw [Steps, hlast] at hs
    cases hs
  · rw [Steps] at hs hnext
    rw [hs] at hnext
    cases hnext
    exact ⟨hrest, hlast⟩

lemma Halts.of_runs {after : Machine} (h : Halts reg m last) (hr : Runs reg m after) :
    Halts reg after last := by
  induction hr with
  | refl => exact h
  | tail _ hs ih => exact ih.of_steps hs

lemma Halts.unique {last' : Machine} (h : Halts reg m last) (h' : Halts reg m last') :
    last' = last := by
  have hrest := (h.of_runs h'.1).1
  rcases Relation.ReflTransGen.cases_head hrest with heq | ⟨next, hnext, -⟩
  · exact heq
  · rw [Steps, h'.2] at hnext
    cases hnext

/-- Where one run ends, no run goes on forever. -/
lemma Halts.acc (h : Halts reg m last) : Acc (fun after before => Steps reg before after) m := by
  obtain ⟨hrun, hlast⟩ := h
  induction hrun using Relation.ReflTransGen.head_induction_on with
  | refl =>
    constructor
    intro after hs
    rw [Steps, hlast] at hs
    cases hs
  | @head before next hs _ ih =>
    constructor
    intro after hs'
    rw [Steps] at hs hs'
    rw [hs] at hs'
    cases hs'
    exact ih

/-! ### What a run writes -/

/-- The machine with further tasks in front of its agenda. -/
def plan (m : Machine) (tasks : List Task) : Machine := { m with agenda := tasks ++ m.agenda }

/-- The machine after a rendering has been written. -/
def wrote (m : Machine) (r : Rendered) : Machine :=
  { m with
    texts := r.text :: m.texts
    deferred := Text.distinctAfter m.deferred r.deferred
    skipped := m.skipped ++ r.skipped }

lemma foldl_wrote (m : Machine) (rs : List Rendered) :
    rs.foldl wrote m =
      { m with
        texts := (rs.map Rendered.text).reverse ++ m.texts
        deferred := Text.distinctAfter m.deferred (rs.flatMap Rendered.deferred)
        skipped := m.skipped ++ rs.flatMap Rendered.skipped } := by
  induction rs generalizing m with
  | nil => simp [Text.distinctAfter]
  | cons r rs ih =>
    rw [List.foldl_cons, ih]
    simp [wrote, Text.distinctAfter, List.foldl_append]

lemma steps_leaf (m : Machine) (l : Leaf) (ex : List Json) (resolve : String → Rendered) :
    Steps reg (m.plan [.write (.leaf l ex)]) (m.wrote ((Definition.leaf l ex).render resolve)) := by
  simp [Steps, step, plan, wrote, Definition.render, Definition.schemaFrom, Text.distinctAfter]

lemma steps_composite (m : Machine) {d : Definition} (h : d.isComposite = true) :
    Steps reg (m.plan [.write d]) ((m.plan [.join d]).plan (d.parts.map .write)) := by
  cases d with
  | leaf _ _ | ref _ _ => cases h
  | array _ _ _ | object _ _ _ _ | tuple _ _ | group _ _ _ => simp [Steps, step, plan]

/-- The texts of the parts lie on top, the last one first. -/
lemma steps_join (m : Machine) {d : Definition} {rs : List Rendered}
    (h : rs.length = d.parts.length) :
    Steps reg (rs.foldl wrote (m.plan [.join d]))
      (m.wrote (.ofParts (d.schemaFrom (rs.map Rendered.text)) rs)) := by
  have hlen : d.parts.length = (rs.map Rendered.text).reverse.length := by simp [h]
  rw [foldl_wrote]
  simp only [Steps, step, plan, List.singleton_append, hlen, List.take_left, List.drop_left,
    List.reverse_reverse]
  rfl

lemma steps_ref_of_mem (m : Machine) {name : String} (ex : List Json) (hs : name ∈ m.inlining) :
    Steps reg (m.plan [.write (.ref name ex)]) (m.wrote (.defer name .cycle)) := by
  simp [Steps, step, plan, hs, wrote, defer, Rendered.defer, Text.distinctAfter]

lemma steps_ref_of_unregistered (m : Machine) {name : String} (ex : List Json)
    (hs : name ∉ m.inlining) (hd : reg.find? name = none) :
    Steps reg (m.plan [.write (.ref name ex)]) (m.wrote (.defer name .unregistered)) := by
  simp [Steps, step, plan, hs, hd, wrote, defer, Rendered.defer, Text.distinctAfter]

lemma steps_ref_of_registered (m : Machine) {name : String} {d : Definition} (ex : List Json)
    (hs : name ∉ m.inlining) (hd : reg.find? name = some d) :
    Steps reg (m.plan [.write (.ref name ex)])
      ({ m with inlining := name :: m.inlining }.plan [.write d, .leave]) := by
  simp [Steps, step, plan, hs, hd]

lemma steps_leave (m : Machine) (name : String) (r : Rendered) :
    Steps reg (({ m with inlining := name :: m.inlining }.plan [.leave]).wrote r) (m.wrote r) := by
  simp [Steps, step, plan, wrote]

/-- Whatever the machine does next, it first writes `r` for `d` below the given stack. -/
def Writes (reg : Registry) (stack : List String) (d : Definition) (r : Rendered) : Prop :=
  ∀ m : Machine, m.inlining = stack → Runs reg (m.plan [.write d]) (m.wrote r)

lemma runs_parts {stack : List String} {r : Definition → Rendered} {ds : List Definition}
    (h : ∀ d ∈ ds, Writes reg stack d (r d)) {m : Machine} (hm : m.inlining = stack) :
    Runs reg (m.plan (ds.map .write)) ((ds.map r).foldl wrote m) := by
  induction ds generalizing m with
  | nil => exact Relation.ReflTransGen.refl
  | cons d ds ih =>
    have hfirst : Runs reg ((m.plan (ds.map .write)).plan [.write d])
        ((m.wrote (r d)).plan (ds.map .write)) :=
      h d List.mem_cons_self (m.plan (ds.map .write)) hm
    have hrest : Runs reg ((m.wrote (r d)).plan (ds.map .write))
        ((ds.map r).foldl wrote (m.wrote (r d))) :=
      ih (fun e he => h e (List.mem_cons_of_mem d he)) hm
    exact hfirst.trans hrest

/-- Every definition is written if the references are. -/
theorem writes_render {stack : List String} {resolve : String → Rendered}
    (h : ∀ name ex, Writes reg stack (.ref name ex) (resolve name)) (d : Definition) :
    Writes reg stack d (d.render resolve) := by
  induction d using Definition.partsInduction with
  | leaf l ex =>
    intro m _
    exact Relation.ReflTransGen.single (steps_leaf m l ex resolve)
  | composite d hd ih =>
    intro m hm
    have hparts : Runs reg ((m.plan [.join d]).plan (d.parts.map .write))
        ((d.parts.map (Definition.render resolve)).foldl wrote (m.plan [.join d])) :=
      runs_parts ih hm
    have hjoin : Steps reg ((d.parts.map (Definition.render resolve)).foldl wrote (m.plan [.join d]))
        (m.wrote (d.render resolve)) := by
      rw [Definition.render_of_isComposite resolve hd]
      exact steps_join m (List.length_map _)
    exact .head (steps_composite m hd) (hparts.tail hjoin)
  | ref name ex =>
    rw [Definition.render]
    exact h name ex

/-- A reference is written as the registry resolves it below the stack, and the stack is the same
afterwards. The induction is along the names that are pushed. -/
theorem writes_reference (stack : List String) (name : String) (ex : List Json) :
    Writes reg stack (.ref name ex) (reg.reference stack name) := by
  induction stack, name using Registry.referenceInduction reg generalizing ex with
  | cycle stack name hs =>
    rintro m rfl
    rw [Registry.reference_of_mem hs]
    exact Relation.ReflTransGen.single (steps_ref_of_mem m ex hs)
  | unregistered stack name hs hd =>
    rintro m rfl
    rw [Registry.reference_of_unregistered hs hd]
    exact Relation.ReflTransGen.single (steps_ref_of_unregistered m ex hs hd)
  | inlined stack name d hs hd ih =>
    rintro m rfl
    rw [Registry.reference_of_registered hs hd]
    have hbody : Runs reg ({ m with inlining := name :: m.inlining }.plan [.write d, .leave])
        (({ m with inlining := name :: m.inlining }.plan [.leave]).wrote
          (d.render (reg.reference (name :: m.inlining)))) :=
      writes_render ih d ({ m with inlining := name :: m.inlining }.plan [.leave]) rfl
    exact .head (steps_ref_of_registered m ex hs hd) (hbody.tail (steps_leave m name _))

theorem writes_definition (stack : List String) (d : Definition) :
    Writes reg stack d (d.render (reg.reference stack)) :=
  writes_render (writes_reference stack) d

/-! ### Calls -/

/-- The machine at the beginning of a call. A value that describes no definition is refused. -/
def enter (reg : Registry) (m : Machine) : Call → Except DefinitionError Machine
  | .definition d => .ok { m with agenda := [.write d], texts := [] }
  | .value v =>
    (Definition.ofJson v).map fun d => { m with agenda := [.write d], texts := [] }
  | .named name =>
    match reg.find? name with
    | none => .ok { m with agenda := [], texts := [] }
    | some d =>
      .ok { m with agenda := [.write d, .leave], texts := [], inlining := name :: m.inlining }

end Machine

/-- What a call renders, if anything. -/
def Call.rendered (reg : Registry) : Call → Except DefinitionError (Option Rendered)
  | .definition d => .ok (some (reg.generate d))
  | .value v => (Definition.ofJson v).map fun d => some (reg.generate d)
  | .named name => .ok (reg.generateNamed? name)

lemma Generator.call_eq (g : Generator) (c : Call) :
    g.call c =
      match c.rendered g.registry with
      | .error e => (.error e, g)
      | .ok none => (.ok none, g)
      | .ok (some r) => (.ok (some r.text), g.record r) := by
  cases c with
  | definition d => rfl
  | value v =>
    simp only [Generator.call, Generator.generateValue, Call.rendered]
    cases Definition.ofJson v with
    | error e => rfl
    | ok d => rfl
  | named name =>
    simp only [Generator.call, Generator.generateNamed, Call.rendered]
    cases g.registry.generateNamed? name with
    | none => rfl
    | some r => rfl

namespace Machine

variable {reg : Registry} {m : Machine} {c : Call}

lemma enter_of_error {e : DefinitionError} (h : c.rendered reg = .error e) :
    m.enter reg c = .error e := by
  cases c with
  | definition d => cases h
  | value v =>
    simp only [Call.rendered, enter] at h ⊢
    cases hv : Definition.ofJson v with
    | error e' =>
      rw [hv] at h
      cases h
      rfl
    | ok d =>
      rw [hv] at h
      cases h
  | named name => cases h

lemma enter_of_none (h : c.rendered reg = .ok none) :
    m.enter reg c = .ok { m with agenda := [], texts := [] } := by
  cases c with
  | definition d => cases h
  | value v =>
    simp only [Call.rendered] at h
    cases hv : Definition.ofJson v with
    | error e =>
      rw [hv] at h
      cases h
    | ok d =>
      rw [hv] at h
      cases h
  | named name =>
    have hd : reg.find? name = none := by
      simpa [Call.rendered, Registry.generateNamed?] using h
    simp [enter, hd]

lemma halts_of_write (hm : m.inlining = []) (d : Definition) :
    Halts reg { m with agenda := [.write d], texts := [] }
      ({ m with agenda := [], texts := [] }.wrote (reg.generate d)) :=
  ⟨writes_definition [] d { m with agenda := [], texts := [] } hm, rfl⟩

/-- A call that renders runs to its end, from an empty stack back to an empty stack. -/
lemma halts_of_rendered {r : Rendered} (hm : m.inlining = [])
    (h : c.rendered reg = .ok (some r)) :
    ∃ start, m.enter reg c = .ok start ∧
      Halts reg start ({ m with agenda := [], texts := [] }.wrote r) := by
  cases c with
  | definition d =>
    cases h
    exact ⟨_, rfl, halts_of_write hm d⟩
  | value v =>
    simp only [Call.rendered] at h
    cases hv : Definition.ofJson v with
    | error e =>
      rw [hv] at h
      cases h
    | ok d =>
      rw [hv] at h
      cases h
      exact ⟨{ m with agenda := [.write d], texts := [] }, by simp [enter, hv, Except.map],
        halts_of_write hm d⟩
  | named name =>
    simp only [Call.rendered, Except.ok.injEq] at h
    obtain ⟨d, hd, rfl⟩ := Option.map_eq_some_iff.mp h
    refine ⟨{ m with agenda := [.write d, .leave], texts := [], inlining := [name] },
      by simp [enter, hd, hm], ?_⟩
    have hwrites : Writes reg [name] d (d.render (reg.reference [name])) :=
      writes_definition [name] d
    have hbody := hwrites { m with agenda := [.leave], texts := [], inlining := [name] } rfl
    refine ⟨hbody.tail ?_, rfl⟩
    simp [Steps, step, wrote, hm]

/-! ### The stack -/

/-- Every name on the stack is registered and there once. -/
structure WellStacked (reg : Registry) (m : Machine) : Prop where
  nodup : m.inlining.Nodup
  registered : ∀ name ∈ m.inlining, reg.contains name = true

lemma WellStacked.length_le (h : m.WellStacked reg) : m.inlining.length ≤ reg.size := by
  have hsub : m.inlining ⊆ reg.names := by
    intro name hname
    exact (Registry.contains_iff_mem_names name).mp (h.registered name hname)
  have hle : m.inlining.length ≤ reg.names.length := (List.subperm_of_subset h.nodup hsub).length_le
  simpa [Registry.names, Entries.keys, Registry.size] using hle

/-- A step keeps the stack, pops it, or pushes a registered name that is not on it. -/
lemma inlining_of_steps {after : Machine} (h : Steps reg m after) :
    after.inlining = m.inlining ∨ after.inlining = m.inlining.tail ∨
      ∃ name, name ∉ m.inlining ∧ reg.contains name = true ∧
        after.inlining = name :: m.inlining := by
  unfold Steps step at h
  split at h
  · cases h
  · cases h
    exact Or.inr (Or.inl rfl)
  · cases h
    exact Or.inl rfl
  · cases h
    exact Or.inl rfl
  · rename_i name ex rest hagenda
    by_cases hs : name ∈ m.inlining
    · rw [if_pos hs] at h
      cases h
      exact Or.inl rfl
    · rw [if_neg hs] at h
      cases hd : reg.find? name with
      | none =>
        rw [hd] at h
        cases h
        exact Or.inl rfl
      | some d =>
        rw [hd] at h
        cases h
        exact Or.inr (Or.inr ⟨name, hs, by simp [Registry.contains, hd], rfl⟩)
  · cases h
    exact Or.inl rfl

lemma WellStacked.of_steps {after : Machine} (h : m.WellStacked reg) (hs : Steps reg m after) :
    after.WellStacked reg := by
  rcases inlining_of_steps hs with heq | heq | ⟨name, hnew, hreg, heq⟩
  · constructor
    · rw [heq]
      exact h.nodup
    · rw [heq]
      exact h.registered
  · constructor
    · rw [heq]
      exact h.nodup.tail
    · rw [heq]
      exact fun n hn => h.registered n (List.mem_of_mem_tail hn)
  · constructor
    · rw [heq]
      exact List.nodup_cons.mpr ⟨hnew, h.nodup⟩
    · rw [heq, List.forall_mem_cons]
      exact ⟨hreg, h.registered⟩

lemma WellStacked.of_runs {after : Machine} (h : m.WellStacked reg) (hr : Runs reg m after) :
    after.WellStacked reg := by
  induction hr with
  | refl => exact h
  | tail _ hs ih => exact ih.of_steps hs

lemma wellStacked_enter {start : Machine} (hm : m.inlining = [])
    (h : m.enter reg c = .ok start) : start.WellStacked reg := by
  have hnone : ∀ agenda, WellStacked reg { m with agenda := agenda, texts := [] } := by
    intro agenda
    constructor <;> simp [hm]
  cases c with
  | definition d =>
    cases h
    exact hnone _
  | value v =>
    simp only [enter] at h
    cases hv : Definition.ofJson v with
    | error e =>
      rw [hv] at h
      cases h
    | ok d =>
      rw [hv] at h
      cases h
      exact hnone _
  | named name =>
    simp only [enter] at h
    cases hd : reg.find? name with
    | none =>
      rw [hd] at h
      cases h
      exact hnone _
    | some d =>
      rw [hd] at h
      cases h
      constructor <;> simp [hm, Registry.contains, hd]

/-- Inlining always ends. From an empty stack, whatever the call and whatever cycles the registry
has: no run goes on forever, at every step the stack holds registered names, each once and so no
more than there are, and the run ends at an empty stack with the reply of the generator. A value
that is no definition is refused before the first step. -/
theorem inlining_ends (reg : Registry) (m : Machine) (hm : m.inlining = []) (c : Call) :
    (∀ e, m.enter reg c = .error e →
        (Generator.call ⟨reg, m.deferred, m.skipped⟩ c).1 = .error e) ∧
      ∀ start, m.enter reg c = .ok start →
        Acc (fun after before => Steps reg before after) start ∧
          (∀ now, Runs reg start now →
            now.inlining.Nodup ∧ (∀ name ∈ now.inlining, reg.contains name = true) ∧
              now.inlining.length ≤ reg.size) ∧
          ∃ last, Halts reg start last ∧ last.inlining = [] ∧
            (Generator.call ⟨reg, m.deferred, m.skipped⟩ c).1 = .ok last.texts.head? := by
  rw [Generator.call_eq]
  cases hr : c.rendered reg with
  | error e =>
    rw [enter_of_error hr]
    constructor
    · intro e' he
      cases he
      rfl
    · intro start hstart
      cases hstart
  | ok rendered =>
    have hrun : ∃ start last, m.enter reg c = .ok start ∧ Halts reg start last ∧
        last.inlining = [] ∧ last.texts.head? = rendered.map Rendered.text := by
      cases rendered with
      | none => exact ⟨_, _, enter_of_none hr, ⟨.refl, rfl⟩, hm, rfl⟩
      | some r =>
        obtain ⟨start, hstart, hhalts⟩ := halts_of_rendered hm hr
        exact ⟨start, _, hstart, hhalts, hm, rfl⟩
    obtain ⟨start, last, hstart, hhalts, hlast, htext⟩ := hrun
    rw [hstart]
    constructor
    · intro e he
      cases he
    · intro start' hstart'
      cases hstart'
      refine ⟨hhalts.acc, ?_, last, hhalts, hlast, ?_⟩
      · intro now hnow
        have hstack := (wellStacked_enter hm hstart).of_runs hnow
        exact ⟨hstack.nodup, hstack.registered, hstack.length_le⟩
      · rw [htext]
        cases rendered <;> rfl

/-- Overlapping cycles, entered at a name that comes back to itself in two ways. -/
theorem inlining_ends_on_overlapping_cycles :
    let reg := Registry.ofList
      [("a", .tuple [.ref "b" [], .ref "a" []] []), ("b", .tuple [.ref "c" [], .ref "a" []] []),
        ("c", .array (.ref "b" []) {} [])]
    ∃ start last, enter reg {} (.named "a") = .ok start ∧ Halts reg start last ∧
      last.inlining = [] ∧ ∀ now, Runs reg start now → now.inlining.length ≤ 3 := by
  intro reg
  obtain ⟨start, hstart⟩ : ∃ start, enter reg {} (.named "a") = .ok start := ⟨_, rfl⟩
  obtain ⟨-, hstack, last, hhalts, hlast, -⟩ :=
    (inlining_ends reg {} rfl (.named "a")).2 start hstart
  exact ⟨start, last, hstart, hhalts, hlast, fun now hnow => (hstack now hnow).2.2⟩

end Machine

end SchemaForge
