import SchemaForge.Proofs.GeneratorMachine

/-!
# Reuse of a generator

Calls on one generator do not see each other: every reply is the one that a generator of its own
would give, and what has been deferred is what those would have deferred, each reference once. The
machine performs the calls on one stack and one list of deferred references, which every call takes
over as the call before has left them.
-/

namespace SchemaForge

/-! ### Repetitions across lists -/

namespace Text

variable {α : Type} [BEq α]

lemma distinctAfter_append (seen xs ys : List α) :
    distinctAfter seen (xs ++ ys) = distinctAfter (distinctAfter seen xs) ys :=
  List.foldl_append

lemma distinct_append (xs ys : List α) : distinct (xs ++ ys) = distinctAfter (distinct xs) ys :=
  distinctAfter_append [] xs ys

variable [LawfulBEq α]

lemma distinctAfter_distinctAfter (seen xs ys : List α) :
    distinctAfter seen (distinctAfter xs ys) = distinctAfter (distinctAfter seen xs) ys := by
  induction ys generalizing xs with
  | nil => rfl
  | cons y ys ih =>
    rw [distinctAfter_cons, distinctAfter_cons, ih]
    by_cases hy : y ∈ xs
    · have hseen : y ∈ distinctAfter seen xs := (mem_distinctAfter seen xs y).mpr (Or.inr hy)
      rw [if_pos (List.contains_iff_mem.mpr hy), if_pos (List.contains_iff_mem.mpr hseen)]
    · rw [if_neg (fun h => hy (List.contains_iff_mem.mp h)), distinctAfter_append]
      rfl

/-- Repetitions in the later list may be dropped before or after. -/
lemma distinctAfter_distinct (seen ys : List α) :
    distinctAfter seen (distinct ys) = distinctAfter seen ys :=
  distinctAfter_distinctAfter seen [] ys

lemma distinct_distinct (xs : List α) : distinct (distinct xs) = distinct xs :=
  distinctAfter_distinct [] xs

end Text

/-! ### Calls on one generator -/

/-- A call on a generator of its own. -/
def Call.alone (reg : Registry) (c : Call) : Reply × Generator := Generator.call ⟨reg, [], []⟩ c

namespace Generator

lemma registry_call (g : Generator) (c : Call) : (g.call c).2.registry = g.registry := by
  rw [call_eq]
  split <;> rfl

/-- The reply depends on the registry alone. -/
lemma reply_call (g : Generator) (c : Call) : (g.call c).1 = (c.alone g.registry).1 := by
  rw [Call.alone, call_eq, call_eq]
  dsimp only
  rcases c.rendered g.registry with e | _ | r <;> rfl

lemma deferred_call {g : Generator} (hg : Text.distinct g.deferred = g.deferred) (c : Call) :
    (g.call c).2.deferred =
      Text.distinctAfter g.deferred (c.alone g.registry).2.deferred := by
  rw [Call.alone, call_eq, call_eq]
  dsimp only
  rcases c.rendered g.registry with e | _ | r
  · rfl
  · rfl
  · have hrecord : (g.record r).deferred = Text.distinctAfter g.deferred r.deferred := by
      rw [record, Text.distinct_append, hg]
    have halone : (record ⟨g.registry, [], []⟩ r).deferred = Text.distinct r.deferred := rfl
    rw [hrecord, halone, Text.distinctAfter_distinct]

lemma distinct_deferred_call {g : Generator} (hg : Text.distinct g.deferred = g.deferred)
    (c : Call) : Text.distinct (g.call c).2.deferred = (g.call c).2.deferred := by
  rw [deferred_call hg c, ← hg, ← Text.distinct_append, Text.distinct_distinct]

lemma calls_cons (g : Generator) (c : Call) (cs : List Call) :
    g.calls (c :: cs) =
      ((g.call c).1 :: ((g.call c).2.calls cs).1, ((g.call c).2.calls cs).2) := rfl

lemma replies_calls (g : Generator) (cs : List Call) :
    (g.calls cs).1 = cs.map fun c => (c.alone g.registry).1 := by
  induction cs generalizing g with
  | nil => rfl
  | cons c cs ih =>
    rw [calls_cons, ih, registry_call, reply_call, List.map_cons]

lemma deferred_calls {g : Generator} (hg : Text.distinct g.deferred = g.deferred)
    (cs : List Call) :
    (g.calls cs).2.deferred =
      Text.distinctAfter g.deferred (cs.flatMap fun c => (c.alone g.registry).2.deferred) := by
  induction cs generalizing g with
  | nil => rfl
  | cons c cs ih =>
    rw [calls_cons, ih (distinct_deferred_call hg c), deferred_call hg, registry_call,
      List.flatMap_cons, Text.distinctAfter_append]

end Generator

/-! ### Calls on one machine -/

namespace Machine

/-- Call after call, each of which starts where the one before has stopped. -/
inductive Performs (reg : Registry) : Machine → List Call → List Reply → Machine → Prop where
  | done (m : Machine) : Performs reg m [] [] m
  | refused {m last : Machine} {c : Call} {e : DefinitionError} {cs : List Call}
      {replies : List Reply} (h : m.enter reg c = .error e)
      (rest : Performs reg m cs replies last) : Performs reg m (c :: cs) (.error e :: replies) last
  | answered {m start stop last : Machine} {c : Call} {cs : List Call} {replies : List Reply}
      (h : m.enter reg c = .ok start) (run : Halts reg start stop)
      (rest : Performs reg stop cs replies last) :
      Performs reg m (c :: cs) (.ok stop.texts.head? :: replies) last

variable {reg : Registry} {m last : Machine} {cs : List Call} {replies : List Reply}

lemma Performs.unique {last' : Machine} {replies' : List Reply}
    (h : Performs reg m cs replies last) (h' : Performs reg m cs replies' last') :
    replies' = replies ∧ last' = last := by
  induction h generalizing replies' last' with
  | done m =>
    cases h'
    exact ⟨rfl, rfl⟩
  | refused h _ ih =>
    cases h' with
    | refused h' rest =>
      rw [h] at h'
      cases h'
      obtain ⟨rfl, rfl⟩ := ih rest
      exact ⟨rfl, rfl⟩
    | answered h' _ _ =>
      rw [h] at h'
      cases h'
  | answered h run _ ih =>
    cases h' with
    | refused h' _ =>
      rw [h] at h'
      cases h'
    | answered h' run' rest =>
      rw [h] at h'
      cases h'
      cases run.unique run'
      obtain ⟨rfl, rfl⟩ := ih rest
      exact ⟨rfl, rfl⟩

/-- Every list of calls is performed to its end. What a call finds of earlier ones are an empty stack
and the references that they deferred. -/
theorem exists_performs (reg : Registry) (cs : List Call) {m : Machine} (hm : m.inlining = []) :
    ∃ last, Performs reg m cs (cs.map fun c => (c.alone reg).1) last ∧ last.inlining = [] ∧
      last.deferred =
        Text.distinctAfter m.deferred (cs.flatMap fun c => (c.alone reg).2.deferred) := by
  induction cs generalizing m with
  | nil => exact ⟨m, .done m, hm, rfl⟩
  | cons c cs ih =>
    have hcall : c.alone reg = _ := Generator.call_eq ⟨reg, [], []⟩ c
    rw [List.map_cons, List.flatMap_cons, Text.distinctAfter_append, hcall]
    cases hr : c.rendered reg with
    | error e =>
      obtain ⟨last, hlast, hempty, hdeferred⟩ := ih hm
      exact ⟨last, .refused (enter_of_error hr) hlast, hempty, hdeferred⟩
    | ok rendered =>
      cases rendered with
      | none =>
        obtain ⟨last, hlast, hempty, hdeferred⟩ := ih (m := { m with agenda := [], texts := [] }) hm
        exact ⟨last, .answered (enter_of_none hr) ⟨.refl, rfl⟩ hlast, hempty, hdeferred⟩
      | some r =>
        obtain ⟨start, hstart, hhalts⟩ := halts_of_rendered hm hr
        obtain ⟨last, hlast, hempty, hdeferred⟩ :=
          ih (m := { m with agenda := [], texts := [] }.wrote r) hm
        refine ⟨last, .answered hstart hhalts hlast, hempty, ?_⟩
        have halone : (Generator.record ⟨reg, [], []⟩ r).deferred = Text.distinct r.deferred := rfl
        rw [hdeferred, halone, Text.distinctAfter_distinct]
        rfl

end Machine

namespace Generator

/-- A generator can be reused. The replies to calls in any order are those of generators of their
own, and what is deferred in the end is what those deferred, later repetitions removed. Step by
step on one stack and one list of deferred references the calls come to the same end, and to no
other. A value that describes no definition and a name without one leave the generator as it is. -/
theorem calls_eq_alone (reg : Registry) (cs : List Call) :
    (calls ⟨reg, [], []⟩ cs).1 = cs.map (fun c => (c.alone reg).1) ∧
      (calls ⟨reg, [], []⟩ cs).2.deferred =
        Text.distinct (cs.flatMap fun c => (c.alone reg).2.deferred) ∧
      (∃ last, Machine.Performs reg {} cs (calls ⟨reg, [], []⟩ cs).1 last ∧
        last.inlining = [] ∧ last.deferred = (calls ⟨reg, [], []⟩ cs).2.deferred ∧
        ∀ replies last', Machine.Performs reg {} cs replies last' →
          replies = (calls ⟨reg, [], []⟩ cs).1 ∧ last' = last) ∧
      (∀ g v e, Definition.ofJson v = .error e → call g (.value v) = (.error e, g)) ∧
      ∀ g name, g.registry.find? name = none → call g (.named name) = (.ok none, g) := by
  have hreplies := replies_calls ⟨reg, [], []⟩ cs
  have hdeferred := deferred_calls (g := ⟨reg, [], []⟩) rfl cs
  refine ⟨hreplies, hdeferred, ?_, ?_, ?_⟩
  · obtain ⟨last, hlast, hempty, hlist⟩ := Machine.exists_performs reg cs (m := {}) rfl
    rw [hreplies, hdeferred]
    exact ⟨last, hlast, hempty, hlist, fun replies last' h => hlast.unique h⟩
  · intro g v e hv
    simp [call, generateValue, hv, Except.map]
  · intro g name hname
    simp [call, generateNamed, Registry.generateNamed?, hname]

/-- A name that refers to itself and to one without a definition, asked for three times in two
ways, with a value in between that is no definition. -/
theorem calls_eq_alone_of_repeated :
    let reg := Registry.ofList [("a", .tuple [.ref "a" [], .ref "lost" []] [])]
    let cs := [Call.named "a", .value .null, .named "lost", .definition (.ref "a" []), .named "a"]
    (∃ e, Definition.ofJson .null = .error e) ∧ reg.find? "lost" = none ∧
      (calls ⟨reg, [], []⟩ cs).1 = cs.map (fun c => (c.alone reg).1) ∧
      (calls ⟨reg, [], []⟩ cs).2.deferred = [⟨"a", .cycle⟩, ⟨"lost", .unregistered⟩] ∧
      call ⟨reg, [⟨"a", .cycle⟩], []⟩ (.named "lost") = (.ok none, ⟨reg, [⟨"a", .cycle⟩], []⟩) := by
  intro reg cs
  have hlost : reg.find? "lost" = none := rfl
  obtain ⟨hreplies, hdeferred, -, -, hnamed⟩ := calls_eq_alone reg cs
  refine ⟨⟨_, rfl⟩, hlost, hreplies, ?_, hnamed ⟨reg, [⟨"a", .cycle⟩], []⟩ "lost" hlost⟩
  rw [hdeferred]
  decide +kernel

end Generator

end SchemaForge
