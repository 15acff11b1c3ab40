import SchemaForge.Proofs.JavaScriptEvaluation
import SchemaForge.Proofs.SchemaText
import SchemaForge.Refinement.Predicate

/-!
# Meaning of predicates

The text of a predicate is a JavaScript expression, and its value is what the predicate says of the
subject, as long as numbers are exact and nothing is compared that the language would convert first.
-/

namespace SchemaForge

open JavaScript

/-! ### Comparable subjects -/

def Operand.numbers : Operand → List Nat
  | text _ => []
  | number n => [n]

namespace Predicate

mutual

/-- The tests that a predicate is composed of. -/
def atoms : Predicate → List Predicate
  | any ps => atomsOfList ps
  | all ps => atomsOfList ps
  | not p => atoms p
  | equals x => [equals x]
  | oneOf xs => [oneOf xs]
  | inRange first last => [inRange first last]
  | pathPrefix path => [pathPrefix path]

def atomsOfList : List Predicate → List Predicate
  | [] => []
  | p :: ps => atoms p ++ atomsOfList ps

end

/-- The numbers of a single test. -/
def testNumbers : Predicate → List Nat
  | equals x => x.numbers
  | oneOf xs => xs.flatMap Operand.numbers
  | inRange first last => [first, last]
  | pathPrefix _ | any _ | all _ | not _ => []

/-- A subject that the language compares with a predicate as it is: numbers are exact, and ranges are
tested on numbers and paths on texts. -/
structure Comparable (p : Predicate) (s : Operand) : Prop where
  exact_subject : ∀ n ∈ s.numbers, n ≤ 2 ^ 53
  exact_tests : ∀ n ∈ p.atoms.flatMap testNumbers, n ≤ 2 ^ 53
  typed : ((∃ n, s = .number n) ∧ ∀ path, pathPrefix path ∉ p.atoms) ∨
    ((∃ t, s = .text t) ∧ ∀ first last, inRange first last ∉ p.atoms)

section Parts

variable {p q : Predicate} {ps : List Predicate} {s : Operand}

lemma atoms_subset_atomsOfList (h : p ∈ ps) : p.atoms ⊆ atomsOfList ps := by
  induction ps with
  | nil => cases h
  | cons q ps ih =>
    rw [atomsOfList]
    rcases List.mem_cons.mp h with rfl | h
    · exact List.subset_append_left _ _
    · exact List.subset_append_of_subset_right _ (ih h)

lemma Comparable.of_subset (h : p.Comparable s) (hsub : q.atoms ⊆ p.atoms) : q.Comparable s := by
  refine ⟨h.exact_subject, ?_, ?_⟩
  · intro n hn
    obtain ⟨t, ht, hn⟩ := List.mem_flatMap.mp hn
    exact h.exact_tests n (List.mem_flatMap.mpr ⟨t, hsub ht, hn⟩)
  · rcases h.typed with ⟨hs, hno⟩ | ⟨hs, hno⟩
    · exact Or.inl ⟨hs, fun path hmem => hno path (hsub hmem)⟩
    · exact Or.inr ⟨hs, fun first last hmem => hno first last (hsub hmem)⟩

lemma Comparable.of_mem_any (h : (any ps).Comparable s) (hp : p ∈ ps) : p.Comparable s := by
  apply h.of_subset
  rw [atoms]
  exact atoms_subset_atomsOfList hp

lemma Comparable.of_mem_all (h : (all ps).Comparable s) (hp : p ∈ ps) : p.Comparable s := by
  apply h.of_subset
  rw [atoms]
  exact atoms_subset_atomsOfList hp

lemma evalAny_eq_any (s : Operand) (ps : List Predicate) : evalAny s ps = ps.any (eval s) := by
  induction ps with
  | nil => rw [evalAny, List.any_nil]
  | cons p ps ih => rw [evalAny, ih, List.any_cons]

lemma evalAll_eq_all (s : Operand) (ps : List Predicate) : evalAll s ps = ps.all (eval s) := by
  induction ps with
  | nil => rw [evalAll, List.all_nil]
  | cons p ps ih => rw [evalAll, ih, List.all_cons]

end Parts

end Predicate

/-! ### Operands -/

def Operand.expr : Operand → Expr
  | text s => .string (units s.toList)
  | number n => .number n

lemma spells_operand (x : Operand) : Spells 7 x.toJs x.expr := by
  cases x with
  | text s => exact spells_string s
  | number n => exact spells_number n

/-- What a variable that holds the operand has as its value. -/
def Operand.value : Operand → Value
  | text s => .string (units s.toList)
  | number n => .ofNat n

lemma Operand.isObject_value (x : Operand) : x.value.isObject = false := by
  cases x <;> rfl

lemma eval_operand (scope : Scope) (x : Operand) : x.expr.eval scope = some x.value := by
  cases x with
  | text t => exact Expr.eval_string _
  | number n => exact Expr.eval_number n

section Equality

variable {x y : Operand}

lemma strictEquals_value (hx : ∀ n ∈ x.numbers, n ≤ 2 ^ 53) (hy : ∀ n ∈ y.numbers, n ≤ 2 ^ 53) :
    x.value.strictEquals y.value = (x == y) := by
  rw [Bool.eq_iff_iff, beq_iff_eq]
  cases x with
  | text t =>
    cases y with
    | text u => simp [Operand.value, Value.strictEquals, units_inj, String.toList_inj]
    | number m => simp [Operand.value, Value.ofNat, Value.strictEquals]
  | number n =>
    cases y with
    | text u => simp [Operand.value, Value.ofNat, Value.strictEquals]
    | number m =>
      have hn : n ≤ 2 ^ 53 := hx n List.mem_cons_self
      have hm : m ≤ 2 ^ 53 := hy m List.mem_cons_self
      simp [Operand.value, Value.ofNat, Value.strictEquals, Binary64.equals_ofNat hn hm]

lemma compute?_strictEq (hx : ∀ n ∈ x.numbers, n ≤ 2 ^ 53) (hy : ∀ n ∈ y.numbers, n ≤ 2 ^ 53) :
    Value.compute? .strictEq x.value y.value = some (.bool (x == y)) := by
  rw [Value.compute?, Value.strictEquals?, x.isObject_value, strictEquals_value hx hy]
  rfl

lemma sameValueZero_value (hx : ∀ n ∈ x.numbers, n ≤ 2 ^ 53)
    (hy : ∀ n ∈ y.numbers, n ≤ 2 ^ 53) :
    x.value.sameValueZero y.value = (x == y) := by
  rw [← strictEquals_value hx hy]
  cases x with
  | text t => rfl
  | number n =>
    cases y with
    | text u => rfl
    | number m =>
      have hn : n ≤ 2 ^ 53 := hx n List.mem_cons_self
      simp [Operand.value, Value.ofNat, Value.sameValueZero, Value.strictEquals,
        Binary64.isNaN_ofNat]

end Equality

/-! ### Tests -/

def subjectExpr : Expr := .name "subject"

/-- The variable that predicates are written about holds the operand. -/
def HoldsSubject (scope : Scope) (s : Operand) : Prop := scope.get? "subject" = some s.value

lemma eval_subject {scope : Scope} {s : Operand} (h : HoldsSubject scope s) :
    subjectExpr.eval scope = some s.value := Expr.eval_name h

lemma derives_subject : Derives 7 [.word "subject"] subjectExpr := .name (by decide)

lemma spells_subject : Spells 7 "subject" subjectExpr := spells_word (by decide) derives_subject

/-- The subject compared with an operand. -/
def comparison (op : Operator) (x : Operand) : Expr := .binary op subjectExpr x.expr

lemma spells_comparison (op : Operator) (x : Operand) :
    Spells op.level ("subject" ++ op.text ++ x.toJs) (comparison op x) := by
  have hle := op.level_le
  exact spells_binary op (spells_subject.of_le (by omega)) ((spells_operand x).of_le (by omega))

lemma eval_comparison {scope : Scope} {s : Operand} (hs : HoldsSubject scope s) (x : Operand)
    {op : Operator} (hop : 2 ≤ op.level) :
    (comparison op x).eval scope = Value.compute? op s.value x.value := by
  exact Expr.eval_compute hop (eval_subject hs) (eval_operand scope x)

/-- The call that looks for the subject in a list. -/
def membershipExpr (xs : List Operand) : Expr :=
  .call (.member (.array (xs.map Operand.expr)) "includes") [subjectExpr]

lemma spells_membership (xs : List Operand) :
    Spells 7 ("[" ++ ", ".intercalate (xs.map Operand.toJs) ++ "].includes(subject)")
      (membershipExpr xs) := by
  have hopen : Scans .nothing "[" [.openBracket] .nothing := by decide
  have hclose : Scans .nothing "].includes(subject)"
      [.closeBracket, .dot, .word "includes", .openParen, .word "subject", .closeParen] .nothing := by
    decide
  have hxs : ∀ x ∈ xs, Spells 0 x.toJs x.expr := fun x _ => (spells_operand x).of_le (Nat.zero_le 7)
  obtain ⟨parts, hparts, hd, hreads⟩ := exists_separated hxs
  have hall := (hopen.reads_append hreads).scans_append hclose rfl rfl
  have hcall := (Derives.array hd).method "includes" (derives_subject.of_le (Nat.zero_le 7))
  rw [hparts] at hcall
  refine ⟨_, hall.reads, ?_⟩
  simpa [membershipExpr] using hcall

lemma eval_membership {scope : Scope} {s : Operand} {xs : List Operand}
    (hsubject : HoldsSubject scope s) (hs : ∀ n ∈ s.numbers, n ≤ 2 ^ 53)
    (hxs : ∀ x ∈ xs, ∀ n ∈ x.numbers, n ≤ 2 ^ 53) :
    (membershipExpr xs).eval scope = some (.bool (xs.contains s)) := by
  have hitems : (Expr.array (xs.map Operand.expr)).eval scope =
      some (.array (xs.map Operand.value)) := by
    rw [Expr.eval, Expr.evalItems_map (eval_operand scope) xs]
    rfl
  have hany : (xs.map Operand.value).any s.value.sameValueZero = xs.contains s := by
    rw [Bool.eq_iff_iff, List.any_map, List.any_eq_true, List.contains_iff_mem]
    constructor
    · rintro ⟨x, hx, heq⟩
      rw [Function.comp_apply, sameValueZero_value hs (hxs x hx), beq_iff_eq] at heq
      exact heq ▸ hx
    · intro hmem
      refine ⟨s, hmem, ?_⟩
      rw [Function.comp_apply, sameValueZero_value hs hs, beq_self_eq_true]
  rw [membershipExpr, Expr.eval_method _ hitems (eval_subject hsubject), Value.method?,
    if_pos ⟨rfl, s.isObject_value⟩, hany]

/-- The call that tests how the subject begins. -/
def startsWithExpr (s : String) : Expr :=
  .call (.member subjectExpr "startsWith") [.string (units s.toList)]

lemma spells_startsWith (s : String) :
    Spells 7 ("subject.startsWith(" ++ Text.quote s ++ ")") (startsWithExpr s) := by
  have hopen : Scans .nothing "subject.startsWith("
      [.word "subject", .dot, .word "startsWith", .openParen] .nothing := by decide
  have hclose : Scans .nothing ")" [.closeParen] .nothing := by decide
  have hall := (hopen.reads_append (reads_quote s)).scans_append hclose rfl rfl
  have hstring : Derives 7 [.string (units s.toList)] (.string (units s.toList)) := .string _
  have hcall := derives_subject.method "startsWith" (hstring.of_le (Nat.zero_le 7))
  exact ⟨_, hall.reads, hcall⟩

lemma eval_startsWith {scope : Scope} {t : String} (h : HoldsSubject scope (.text t)) (s : String) :
    (startsWithExpr s).eval scope = some (.bool (s.toList.isPrefixOf t.toList)) := by
  have hprefix : (units s.toList).isPrefixOf (units t.toList) = s.toList.isPrefixOf t.toList := by
    rw [Bool.eq_iff_iff, List.isPrefixOf_iff_prefix, List.isPrefixOf_iff_prefix, units_prefix_iff]
  rw [startsWithExpr, Expr.eval_method _ (eval_subject h) (Expr.eval_string _), Operand.value,
    Value.method?, if_pos rfl, hprefix]

/-! ### Predicates -/

namespace Predicate

/-- The text of a predicate is the expression, which evaluates to what the predicate says. Operands of
every chain bind at least as tight as `===`. -/
def Means (p : Predicate) (e : Expr) : Prop :=
  Spells 2 p.toJs e ∧ ∀ s scope, p.Comparable s → HoldsSubject scope s →
    e.eval scope = some (.bool (p.eval s))

lemma means_equals (x : Operand) : (equals x).Means (comparison .strictEq x) := by
  constructor
  · rw [toJs]
    exact spells_comparison .strictEq x
  · intro s scope hs hsubject
    have hx : ∀ n ∈ x.numbers, n ≤ 2 ^ 53 := by
      intro n hn
      apply hs.exact_tests n
      simpa [atoms, testNumbers] using hn
    rw [eval_comparison hsubject x (by decide), compute?_strictEq hs.exact_subject hx, eval]

lemma means_oneOf (xs : List Operand) : (oneOf xs).Means (membershipExpr xs) := by
  constructor
  · rw [toJs]
    exact (spells_membership xs).of_le (by decide)
  · intro s scope hs hsubject
    have hxs : ∀ x ∈ xs, ∀ n ∈ x.numbers, n ≤ 2 ^ 53 := by
      intro x hx n hn
      apply hs.exact_tests n
      simp only [atoms, List.flatMap_singleton, testNumbers]
      exact List.mem_flatMap.mpr ⟨x, hx, hn⟩
    rw [eval_membership hsubject hs.exact_subject hxs, eval]

/-- A range is tested on numbers only. -/
lemma Comparable.of_inRange {first last : Nat} {s : Operand} (h : (inRange first last).Comparable s) :
    ∃ n, s = .number n ∧ n ≤ 2 ^ 53 ∧ first ≤ 2 ^ 53 ∧ last ≤ 2 ^ 53 := by
  have hfirst : first ≤ 2 ^ 53 := h.exact_tests first (by simp [atoms, testNumbers])
  have hlast : last ≤ 2 ^ 53 := h.exact_tests last (by simp [atoms, testNumbers])
  rcases h.typed with ⟨⟨n, rfl⟩, -⟩ | ⟨-, hno⟩
  · exact ⟨n, rfl, h.exact_subject n List.mem_cons_self, hfirst, hlast⟩
  · exact absurd (by simp [atoms]) (hno first last)

lemma exists_means_inRange (first last : Nat) : ∃ e, (inRange first last).Means e := by
  by_cases heq : first = last
  · subst heq
    refine ⟨comparison .strictEq (.number first), ?_, ?_⟩
    · rw [toJs, if_pos rfl]
      exact spells_comparison .strictEq (.number first)
    · intro s scope hs hsubject
      obtain ⟨n, rfl, hn, hfirst, -⟩ := hs.of_inRange
      have hexact : ∀ k ∈ (Operand.number first).numbers, k ≤ 2 ^ 53 := by
        intro k hk
        rwa [List.mem_singleton.mp hk]
      rw [eval_comparison hsubject _ (by decide), compute?_strictEq hs.exact_subject hexact, eval]
      congr 2
      rw [Bool.eq_iff_iff, beq_iff_eq, Operand.number.injEq, Bool.and_eq_true, decide_eq_true_eq,
        decide_eq_true_eq]
      omega
  · refine ⟨.binary .and (comparison .atLeast (.number first)) (comparison .atMost (.number last)),
      ?_, ?_⟩
    · have hchain := spells_binary .and
        ((spells_comparison .atLeast (.number first)).of_le (by decide))
        ((spells_comparison .atMost (.number last)).of_le (by decide))
      have htext : toJs (inRange first last) =
          "(" ++ ("subject" ++ Operator.atLeast.text ++ first.repr ++ Operator.and.text ++
            ("subject" ++ Operator.atMost.text ++ last.repr)) ++ ")" := by
        rw [toJs, if_neg heq,
          show "(subject >= " = "(" ++ ("subject" ++ Operator.atLeast.text) from rfl,
          show " && subject <= " = Operator.and.text ++ ("subject" ++ Operator.atMost.text) from rfl]
        simp only [String.append_assoc]
      rw [htext]
      exact (spells_group hchain).of_le (by decide)
    · intro s scope hs hsubject
      obtain ⟨n, rfl, hn, hfirst, hlast⟩ := hs.of_inRange
      have hlow : (comparison .atLeast (.number first)).eval scope =
          some (.bool (decide (first ≤ n))) := by
        rw [eval_comparison hsubject _ (by decide)]
        simp only [Operand.value, Value.ofNat, Value.compute?, Binary64.atMost_ofNat hfirst hn]
      have hhigh : (comparison .atMost (.number last)).eval scope =
          some (.bool (decide (n ≤ last))) := by
        rw [eval_comparison hsubject _ (by decide)]
        simp only [Operand.value, Value.ofNat, Value.compute?, Binary64.atMost_ofNat hn hlast]
      rw [Expr.eval_and hlow hhigh, eval]

lemma exists_means_pathPrefix (path : String) : ∃ e, (pathPrefix path).Means e := by
  let base := String.ofList (pathBase path)
  refine ⟨.binary .or (comparison .strictEq (.text base)) (startsWithExpr (base ++ "/")), ?_, ?_⟩
  · have hchain := spells_binary .or
      ((spells_comparison .strictEq (.text base)).of_le (by decide))
      ((spells_startsWith (base ++ "/")).of_le (by decide))
    have htext : toJs (pathPrefix path) =
        "(" ++ ("subject" ++ Operator.strictEq.text ++ Text.quote base ++ Operator.or.text ++
          ("subject.startsWith(" ++ Text.quote (base ++ "/") ++ ")")) ++ ")" := by
      rw [toJs, show "(subject === " = "(" ++ ("subject" ++ Operator.strictEq.text) from rfl,
        show " || subject.startsWith(" = Operator.or.text ++ "subject.startsWith(" from rfl,
        show "))" = ")" ++ ")" from rfl]
      simp only [String.append_assoc, base]
    rw [htext]
    exact (spells_group hchain).of_le (by decide)
  · intro s scope hs hsubject
    rcases hs.typed with ⟨-, hno⟩ | ⟨⟨t, rfl⟩, -⟩
    · exact absurd (by simp [atoms]) (hno path)
    · have hsame : (comparison .strictEq (.text base)).eval scope =
          some (.bool (t.toList == pathBase path)) := by
        have hno : ∀ u, ∀ n ∈ (Operand.text u).numbers, n ≤ 2 ^ 53 := by
          intro u n hn
          cases hn
        have htexts : (Operand.text t == Operand.text base) = (t.toList == pathBase path) := by
          rw [Bool.eq_iff_iff, beq_iff_eq, beq_iff_eq, Operand.text.injEq, ← String.toList_inj,
            String.toList_ofList]
        rw [eval_comparison hsubject _ (by decide), compute?_strictEq (hno t) (hno base), htexts]
      rw [Expr.eval_or hsame (eval_startsWith hsubject _), eval, isBelow]
      simp [base]

/-- Texts with an operator between them, from the left. -/
lemma joinJs_cons (operator : String) (p : Predicate) (ps : List Predicate) :
    joinJs operator (p :: ps) = ps.foldl (fun t q => t ++ operator ++ toJs q) (toJs p) := by
  have hfront : ∀ (front text : String) (qs : List Predicate),
      front ++ qs.foldl (fun t q => t ++ operator ++ toJs q) text =
        qs.foldl (fun t q => t ++ operator ++ toJs q) (front ++ text) := by
    intro front text qs
    induction qs generalizing text with
    | nil => rfl
    | cons q qs ih =>
      rw [List.foldl_cons, List.foldl_cons, ih, ← String.append_assoc, ← String.append_assoc]
  induction ps generalizing p with
  | nil => rw [joinJs, List.foldl_nil]
  | cons q ps ih => rw [joinJs, ih q, hfront, List.foldl_cons]

/-- The text of a chain: a single operand stands alone, more of them stand in brackets. -/
def chainJs (operator : String) (p : Predicate) (ps : List Predicate) : String :=
  if ps = [] then toJs p else "(" ++ joinJs operator (p :: ps) ++ ")"

lemma toJs_any_cons (p : Predicate) (ps : List Predicate) :
    toJs (any (p :: ps)) = chainJs Operator.or.text p ps := by
  cases ps with
  | nil => rw [toJs, chainJs, if_pos rfl]
  | cons q ps =>
    rw [toJs, chainJs, if_neg (List.cons_ne_nil q ps)]
    rfl

lemma toJs_all_cons (p : Predicate) (ps : List Predicate) :
    toJs (all (p :: ps)) = chainJs Operator.and.text p ps := by
  cases ps with
  | nil => rw [toJs, chainJs, if_pos rfl]
  | cons q ps =>
    rw [toJs, chainJs, if_neg (List.cons_ne_nil q ps)]
    rfl

section Chains

variable {p : Predicate} {ps : List Predicate}

lemma spells_chainJs (op : Operator) (hop : op.level < 2) {expr : Predicate → Expr}
    (h : ∀ q ∈ p :: ps, Spells 2 q.toJs (expr q)) :
    Spells 2 (chainJs op.text p ps) (ps.foldl (fun e q => .binary op e (expr q)) (expr p)) := by
  have hp : Spells 2 p.toJs (expr p) := h p List.mem_cons_self
  by_cases hps : ps = []
  · rw [chainJs, if_pos hps, hps]
    exact hp
  · have hchain := spells_foldl op (hp.of_le (Nat.le_of_lt hop))
      fun q hq => (h q (List.mem_cons_of_mem p hq)).of_le (Nat.succ_le_of_lt hop)
    rw [chainJs, if_neg hps, joinJs_cons]
    exact (spells_group hchain).of_le (by decide)

lemma exists_means_any (h : ∀ q ∈ ps, ∃ e, q.Means e) : ∃ e, (any ps).Means e := by
  choose! expr hspells hmeans using h
  cases ps with
  | nil =>
    refine ⟨.bool false, ?_, ?_⟩
    · rw [toJs]
      exact (spells_word (by decide) .false).of_le (by decide)
    · intro s scope _ _
      rw [eval, evalAny, Expr.eval]
  | cons p ps =>
    refine ⟨ps.foldl (fun e q => .binary .or e (expr q)) (expr p), ?_, ?_⟩
    · rw [toJs_any_cons]
      exact spells_chainJs .or (by decide) hspells
    · intro s scope hs hsubject
      have hvalue : ∀ q ∈ p :: ps, (expr q).eval scope = some (.bool (q.eval s)) :=
        fun q hq => hmeans q hq s scope (hs.of_mem_any hq) hsubject
      rw [eval, evalAny_eq_any, List.any_cons]
      exact Expr.eval_foldl_or (hvalue p List.mem_cons_self)
        fun q hq => hvalue q (List.mem_cons_of_mem p hq)

lemma exists_means_all (h : ∀ q ∈ ps, ∃ e, q.Means e) : ∃ e, (all ps).Means e := by
  choose! expr hspells hmeans using h
  cases ps with
  | nil =>
    refine ⟨.bool true, ?_, ?_⟩
    · rw [toJs]
      exact (spells_word (by decide) .true).of_le (by decide)
    · intro s scope _ _
      rw [eval, evalAll, Expr.eval]
  | cons p ps =>
    refine ⟨ps.foldl (fun e q => .binary .and e (expr q)) (expr p), ?_, ?_⟩
    · rw [toJs_all_cons]
      exact spells_chainJs .and (by decide) hspells
    · intro s scope hs hsubject
      have hvalue : ∀ q ∈ p :: ps, (expr q).eval scope = some (.bool (q.eval s)) :=
        fun q hq => hmeans q hq s scope (hs.of_mem_all hq) hsubject
      rw [eval, evalAll_eq_all, List.all_cons]
      exact Expr.eval_foldl_and (hvalue p List.mem_cons_self)
        fun q hq => hvalue q (List.mem_cons_of_mem p hq)

end Chains

lemma means_not {p : Predicate} {e : Expr} (h : p.Means e) : (not p).Means (.not e) := by
  obtain ⟨hspells, hmeans⟩ := h
  constructor
  · rw [toJs]
    exact (spells_not hspells).of_le (by decide)
  · intro s scope hs hsubject
    have hp : p.Comparable s := hs.of_subset (by rw [atoms]; exact List.Subset.refl _)
    rw [Expr.eval_not (hmeans s scope hp hsubject), eval]

theorem exists_means (p : Predicate) : ∃ e, p.Means e := by
  induction p using partInduction with
  | equals x => exact ⟨_, means_equals x⟩
  | oneOf xs => exact ⟨_, means_oneOf xs⟩
  | inRange first last => exact exists_means_inRange first last
  | pathPrefix path => exact exists_means_pathPrefix path
  | any ps ih => exact exists_means_any ih
  | all ps ih => exact exists_means_all ih
  | not p ih =>
    obtain ⟨e, he⟩ := ih
    exact ⟨_, means_not he⟩

end Predicate

end SchemaForge
