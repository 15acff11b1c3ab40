import Mathlib.Data.List.Infix
import SchemaForge.Proofs.DefinitionTree
import SchemaForge.Proofs.JavaScriptLexing

/-!
# Texts of generated schemas

Every text that a definition contributes to a schema is closed: quoted literals, numbers, the
bodies of character classes, predicates and refinements. From these, by induction over the
definition and over the references that are inlined, a generated schema is one chained expression
that begins at `z.`, whatever texts stand in the definitions.
-/

namespace SchemaForge

open JavaScript

/-! ### Literals -/

lemma stringStep_hexDigit (n : Nat) (hn : n < 16) :
    stringStep false (Text.hexDigit n) = some (.string false) := by
  have h : ∀ k : Fin 16, stringStep false (Text.hexDigit k) = some (.string false) := by decide
  exact h ⟨n, hn⟩

/-- The spelling of a character stays inside of the string. -/
lemma run_escapeChar (enclosed : Bool) (due : List Char) (c : Char) :
    run enclosed ⟨.string false, due⟩ (Text.escapeChar c) = some ⟨.string false, due⟩ := by
  unfold Text.escapeChar
  split_ifs with hquote hbackslash hnewline hreturn htab hback hfeed hcontrol
  · rfl
  · rfl
  · rfl
  · rfl
  · rfl
  · rfl
  · rfl
  · have hhigh := stringStep_hexDigit (c.toNat / 16) (by omega)
    have hlow := stringStep_hexDigit (c.toNat % 16) (by omega)
    have hu : stringStep true 'u' = some (.string false) := rfl
    have hzero : stringStep false '0' = some (.string false) := rfl
    have hslash : stringStep false '\\' = some (.string true) := rfl
    simp [run, step, hslash, hu, hzero, hhigh, hlow]
  · simp [run, step, stringStep, hquote, hbackslash, hnewline, hreturn]

lemma run_escaped (enclosed : Bool) (due : List Char) (cs : List Char) :
    run enclosed ⟨.string false, due⟩ (cs.flatMap Text.escapeChar) =
      some ⟨.string false, due⟩ := by
  induction cs with
  | nil => rfl
  | cons c cs ih =>
    rw [List.flatMap_cons, run_append, run_escapeChar, Option.bind_some, ih]

theorem closed_quote (s : String) : Closed (Text.quote s) := by
  unfold Closed Lexes Text.quote Text.quoteChars
  rw [String.toList_ofList, run]
  have hopen : step true {} '"' = some ⟨.string false, []⟩ := rfl
  rw [hopen, Option.bind_some, run_append, run_escaped, Option.bind_some]
  rfl

/-- The characters of numbers. -/
def isNumberChar (c : Char) : Bool := isMemberChar c || c = '+' || c = '-'

lemma closed_of_numberChars {text : String} (h : ∀ c ∈ text.toList, isNumberChar c = true) :
    Closed text := by
  apply run_of_forall_step
  intro c hc
  have hn := h c hc
  simp only [isNumberChar, Bool.or_eq_true, decide_eq_true_eq] at hn
  rcases hn with (hm | rfl) | rfl
  · exact step_of_isMemberChar hm
  · rfl
  · rfl

lemma isIdentifierChar_of_isDigit {c : Char} (h : c.isDigit = true) :
    Schema.isIdentifierChar c = true := by
  have hd : ('0' ≤ c && c ≤ '9') = true := by
    simp only [Char.isDigit, Bool.and_eq_true, decide_eq_true_eq] at h
    simpa [Char.le_def] using h
  simp [Schema.isIdentifierChar, hd]

lemma isMemberChar_of_isDigit {c : Char} (h : c.isDigit = true) : isMemberChar c = true := by
  simp [isMemberChar, isIdentifierChar_of_isDigit h]

lemma isMemberChar_of_mem_toDigits {n : Nat} {c : Char} (h : c ∈ Nat.toDigits 10 n) :
    isMemberChar c = true :=
  isMemberChar_of_isDigit (Nat.isDigit_of_mem_toDigits (by decide) (by decide) h)

lemma chained_natRepr (n : Nat) : Chained n.repr := by
  apply lexes_of_memberChars
  intro c hc
  rw [Nat.toList_repr] at hc
  exact isMemberChar_of_mem_toDigits hc

lemma closed_intRepr (n : Int) : Closed n.repr := by
  cases n with
  | ofNat m => exact (chained_natRepr m).closed
  | negSucc m =>
    have hminus : Closed "-" := by decide
    exact hminus.append (chained_natRepr m.succ).closed

lemma forall_digitsOf_isNumberChar (n : Nat) :
    ∀ c ∈ Layout.digitsOf n, isNumberChar c = true := by
  intro c hc
  simp [isNumberChar, isMemberChar_of_mem_toDigits hc]

lemma forall_zeros_isNumberChar (n : Nat) :
    ∀ c ∈ List.replicate n '0', isNumberChar c = true := by
  intro c hc
  rw [List.eq_of_mem_replicate hc]
  decide

lemma forall_positional_isNumberChar (pointed : Bool) (e : Int) {ds : List Char}
    (hds : ∀ c ∈ ds, isNumberChar c = true) :
    ∀ c ∈ Layout.positional pointed ds e, isNumberChar c = true := by
  unfold Layout.positional
  by_cases hneg : e < 0
  · rw [if_pos hneg, List.forall_mem_cons, List.forall_mem_cons, List.forall_mem_append]
    exact ⟨by decide, by decide, forall_zeros_isNumberChar _, hds⟩
  · rw [if_neg hneg]
    by_cases hlen : ds.length ≤ e.toNat + 1
    · simp only [hlen, if_true, List.forall_mem_append]
      refine ⟨⟨hds, forall_zeros_isNumberChar _⟩, ?_⟩
      have hpoint : isNumberChar '.' = true := by decide
      have hdigit : isNumberChar '0' = true := by decide
      cases pointed <;> simp [hpoint, hdigit]
    · simp only [hlen, if_false, List.forall_mem_append, List.forall_mem_cons]
      exact ⟨fun c hc => hds c (List.mem_of_mem_take hc), by decide,
        fun c hc => hds c (List.mem_of_mem_drop hc)⟩

lemma forall_scientific_isNumberChar (e : Int) {ds : List Char}
    (hds : ∀ c ∈ ds, isNumberChar c = true) :
    ∀ c ∈ Layout.scientific ds e, isNumberChar c = true := by
  unfold Layout.scientific
  rw [List.forall_mem_append, List.forall_mem_cons, List.forall_mem_cons]
  refine ⟨?_, by decide, by split_ifs <;> decide, forall_digitsOf_isNumberChar _⟩
  match ds, hds with
  | [], _ => exact List.forall_mem_nil _
  | [_], hds => exact hds
  | d :: d' :: rest, hds =>
    rw [List.forall_mem_cons] at hds
    rw [List.forall_mem_cons, List.forall_mem_cons]
    exact ⟨hds.1, by decide, hds.2⟩

lemma closed_signed (x : Binary64) {body : List Char}
    (hbody : ∀ c ∈ body, isNumberChar c = true) : Closed (Layout.signed x body) := by
  apply closed_of_numberChars
  rw [Layout.signed, String.toList_ofList]
  by_cases hneg : x.isNegative
  · rw [if_pos hneg, List.forall_mem_cons]
    exact ⟨by decide, hbody⟩
  · rw [if_neg hneg]
    exact hbody

lemma closed_number (x : Binary64) : Closed (Schema.number x) := by
  have hds := forall_digitsOf_isNumberChar (Decimal.shortest .up x).digits
  unfold Schema.number
  split_ifs
  · decide
  · decide
  · decide
  · decide
  · exact closed_signed x (forall_positional_isNumberChar _ _ hds)
  · exact closed_signed x (forall_scientific_isNumberChar _ hds)

lemma closed_flag (b : Bool) : Closed (Schema.flag b) := by
  cases b <;> decide

lemma closed_literal (l : Literal) : Closed (Schema.literal l) := by
  cases l with
  | null => decide
  | bool b => exact closed_flag b
  | number x =>
    rw [Schema.literal]
    split_ifs
    · exact closed_number x
    · decide
  | text s => exact closed_quote s

/-! ### Chained calls -/

lemma chained_call {method argument : String} (hm : Chained method) (ha : Closed argument) :
    Chained (Schema.call method argument) := by
  have hdot : Chained "." := by decide
  have hopen : Lexes false {} "(" ⟨.code, [')']⟩ := by decide
  have hclose : Lexes false ⟨.code, [')']⟩ ")" {} := by decide
  exact (((hdot.append hm).append hopen).append (ha.lexes (by decide))).append hclose

lemma chained_callWith {α : Type} {method : String} {text : α → String}
    (hm : Chained method) (ht : ∀ a, Closed (text a)) (x : Option α) :
    Chained (Schema.callWith method text x) := by
  cases x with
  | none => exact lexes_empty
  | some a => exact chained_call hm (ht a)

lemma chained_boundCalls (b : Bounds) : Chained (Schema.boundCalls b) :=
  (chained_callWith (by decide) (fun _ => (chained_natRepr _).closed) b.least).append
    (chained_callWith (by decide) (fun _ => (chained_natRepr _).closed) b.greatest)

lemma closed_list {items : List String} (h : ∀ x ∈ items, Closed x) :
    Closed (Schema.list items) := by
  have hopen : Lexes true {} "[" ⟨.code, [']']⟩ := by decide
  have hclose : Lexes true ⟨.code, [']']⟩ "]" {} := by decide
  have hitems : Lexes true ⟨.code, [']']⟩ (", ".intercalate items) ⟨.code, [']']⟩ :=
    lexes_intercalate (by decide) fun x hx => (h x hx).lexes (by decide)
  exact (hopen.append hitems).append hclose

/-! ### Predicates and refinements -/

namespace Predicate

/-- Induction over the parts of a predicate. -/
@[elab_as_elim]
theorem partInduction {motive : Predicate → Prop}
    (equals : ∀ x, motive (.equals x)) (oneOf : ∀ xs, motive (.oneOf xs))
    (inRange : ∀ first last, motive (.inRange first last))
    (pathPrefix : ∀ path, motive (.pathPrefix path))
    (any : ∀ ps, (∀ p ∈ ps, motive p) → motive (.any ps))
    (all : ∀ ps, (∀ p ∈ ps, motive p) → motive (.all ps))
    (not : ∀ p, motive p → motive (.not p)) : ∀ p, motive p
  | .equals x => equals x
  | .oneOf xs => oneOf xs
  | .inRange first last => inRange first last
  | .pathPrefix path => pathPrefix path
  | .any ps => any ps fun p _ => partInduction equals oneOf inRange pathPrefix any all not p
  | .all ps => all ps fun p _ => partInduction equals oneOf inRange pathPrefix any all not p
  | .not p => not p (partInduction equals oneOf inRange pathPrefix any all not p)
termination_by p => sizeOf p
decreasing_by
  all_goals simp_wf
  · rename_i hp
    have h := List.sizeOf_lt_of_mem hp
    omega
  · rename_i hp
    have h := List.sizeOf_lt_of_mem hp
    omega

lemma joinJs_eq_intercalate (operator : String) (ps : List Predicate) :
    joinJs operator ps = operator.intercalate (ps.map toJs) := by
  induction ps with
  | nil => rw [joinJs, List.map_nil, String.intercalate_nil]
  | cons p ps ih =>
    cases ps with
    | nil => rw [joinJs, List.map_singleton, String.intercalate_singleton]
    | cons q ps =>
      rw [joinJs, ih]
      simp only [List.map_cons, String.intercalate_cons_cons]

lemma closed_operand (x : Operand) : Closed x.toJs := by
  cases x with
  | text s => exact closed_quote s
  | number n => exact (chained_natRepr n).closed

/-- Predicates between an operator, in parentheses. -/
lemma closed_join {operator : String} {ps : List Predicate} (ho : Closed operator)
    (h : ∀ p ∈ ps, Closed p.toJs) : Closed ("(" ++ joinJs operator ps ++ ")") := by
  have hopen : Lexes true {} "(" ⟨.code, [')']⟩ := by decide
  have hclose : Lexes true ⟨.code, [')']⟩ ")" {} := by decide
  have hps : Lexes true ⟨.code, [')']⟩ (joinJs operator ps) ⟨.code, [')']⟩ := by
    rw [joinJs_eq_intercalate]
    apply lexes_intercalate (ho.lexes (by decide))
    intro x hx
    obtain ⟨p, hp, rfl⟩ := List.mem_map.mp hx
    exact (h p hp).lexes (by decide)
  exact (hopen.append hps).append hclose

theorem closed_toJs (p : Predicate) : Closed p.toJs := by
  induction p using partInduction with
  | equals x =>
    have hsubject : Closed "subject === " := by decide
    rw [toJs]
    exact hsubject.append (closed_operand x)
  | oneOf xs =>
    have hopen : Lexes true {} "[" ⟨.code, [']']⟩ := by decide
    have hclose : Lexes true ⟨.code, [']']⟩ "].includes(subject)" {} := by decide
    have hxs : Lexes true ⟨.code, [']']⟩ (", ".intercalate (xs.map Operand.toJs)) ⟨.code, [']']⟩ := by
      apply lexes_intercalate (by decide)
      intro text htext
      obtain ⟨x, -, rfl⟩ := List.mem_map.mp htext
      exact (closed_operand x).lexes (by decide)
    rw [toJs]
    exact (hopen.append hxs).append hclose
  | inRange first last =>
    rw [toJs]
    split_ifs
    · have hsubject : Closed "subject === " := by decide
      exact hsubject.append (chained_natRepr first).closed
    · have hleast : Lexes true {} "(subject >= " ⟨.code, [')']⟩ := by decide
      have hgreatest : Lexes true ⟨.code, [')']⟩ " && subject <= " ⟨.code, [')']⟩ := by decide
      have hclose : Lexes true ⟨.code, [')']⟩ ")" {} := by decide
      exact (((hleast.append ((chained_natRepr first).lexes _)).append hgreatest).append
        ((chained_natRepr last).lexes _)).append hclose
  | pathPrefix path =>
    have hequal : Lexes true {} "(subject === " ⟨.code, [')']⟩ := by decide
    have hbelow : Lexes true ⟨.code, [')']⟩ " || subject.startsWith(" ⟨.code, [')', ')']⟩ := by
      decide
    have hclose : Lexes true ⟨.code, [')', ')']⟩ "))" {} := by decide
    simp only [toJs]
    exact (((hequal.append ((closed_quote _).lexes (by decide))).append hbelow).append
      ((closed_quote _).lexes (by decide))).append hclose
  | any ps ih =>
    match ps, ih with
    | [], _ => rw [toJs]; decide
    | [p], ih => rw [toJs]; exact ih p (List.mem_singleton.mpr rfl)
    | p :: q :: ps, ih => rw [toJs]; exact closed_join (by decide) ih
  | all ps ih =>
    match ps, ih with
    | [], _ => rw [toJs]; decide
    | [p], ih => rw [toJs]; exact ih p (List.mem_singleton.mpr rfl)
    | p :: q :: ps, ih => rw [toJs]; exact closed_join (by decide) ih
  | not p ih =>
    have hopen : Lexes true {} "!(" ⟨.code, [')']⟩ := by decide
    have hclose : Lexes true ⟨.code, [')']⟩ ")" {} := by decide
    rw [toJs]
    exact (hopen.append (ih.lexes (by decide))).append hclose

end Predicate

lemma Subject.closed_urlPrelude : Closed urlPrelude := by decide

lemma Subject.closed_prelude (s : Subject) : Closed s.prelude := by
  cases s with
  | value => decide
  | ipv4Number =>
    have hsplit : Closed
        "const octets = val.split(\".\"); if (octets.length !== 4) return true; " := by decide
    have hloop : Lexes true {} "let subject = 0; for (const octet of octets) \x7b "
        ⟨.code, ['\x7d']⟩ := by decide
    have htest : Lexes true ⟨.code, ['\x7d']⟩
        "if (!/^\\d\x7b1,3\x7d$/.test(octet) || Number(octet) > 255) return true; "
        ⟨.code, ['\x7d']⟩ := by decide
    have hadd : Lexes true ⟨.code, ['\x7d']⟩ "subject = subject * 256 + Number(octet); \x7d" {} := by
      decide
    exact ((hsplit.append hloop).append htest).append hadd
  | ipv6 => decide
  | mac => decide
  | emailDomain =>
    have hat : Closed "const at = val.lastIndexOf(\"@\"); if (at < 0) return true; " := by decide
    have hslice : Closed "const subject = val.slice(at + 1).toLowerCase();" := by decide
    exact hat.append hslice
  | urlProtocol => exact closed_urlPrelude.append (by decide)
  | urlHostname => exact closed_urlPrelude.append (by decide)
  | urlPort =>
    have hfirst : Lexes true {} "const defaults = \x7b \"http:\": 80, \"https:\": 443, \"ws:\": 80, \"wss:\": 443, "
        ⟨.code, ['\x7d']⟩ := by decide
    have hlast : Lexes true ⟨.code, ['\x7d']⟩ "\"ftp:\": 21 \x7d; " {} := by decide
    have hport : Closed "const subject = url.port ? Number(url.port) : defaults[url.protocol]; " := by
      decide
    have hnone : Closed "if (subject === undefined) return true;" := by decide
    exact (((closed_urlPrelude.append hfirst).append hlast).append hport).append hnone
  | urlPath => exact closed_urlPrelude.append (by decide)

theorem Refinement.chained_toJs (r : Refinement) : Chained r.toJs := by
  have hopen : Lexes false {} ".refine((val) => \x7b " ⟨.code, ['\x7d', ')']⟩ := by decide
  have hreturn : Lexes false ⟨.code, ['\x7d', ')']⟩ " return " ⟨.code, ['\x7d', ')']⟩ := by decide
  have hmessage : Lexes false ⟨.code, ['\x7d', ')']⟩ "; \x7d, \x7b message: "
      ⟨.code, ['\x7d', ')']⟩ := by decide
  have hclose : Lexes false ⟨.code, ['\x7d', ')']⟩ " \x7d)" {} := by decide
  have hprelude := r.subject.closed_prelude
  have htest := r.predicate.closed_toJs
  exact (((((hopen.append (hprelude.lexes (by decide))).append hreturn).append
    (htest.lexes (by decide))).append hmessage).append
    ((closed_quote _).lexes (by decide))).append hclose

/-! ### Leaves -/

/-- A chained text that begins at the name of the schema library. -/
structure IsExpression (text : String) : Prop where
  start : "z.".toList <+: text.toList
  chained : Chained text

lemma IsExpression.append {a b : String} (ha : IsExpression a) (hb : Chained b) :
    IsExpression (a ++ b) where
  start := by
    rw [String.toList_append]
    exact ha.start.trans (List.prefix_append _ _)
  chained := Lexes.append ha.chained hb

/-- An expression that is put together from a beginning, a middle and an end. -/
lemma isExpression_around {a b c : String} {s t : State} (hstart : "z.".toList <+: a.toList)
    (ha : Lexes false {} a s) (hb : Lexes false s b t) (hc : Lexes false t c {}) :
    IsExpression (a ++ b ++ c) where
  start := by
    rw [String.toList_append, String.toList_append]
    exact (hstart.trans (List.prefix_append _ _)).trans (List.prefix_append _ _)
  chained := (ha.append hb).append hc

lemma isExpression_never : IsExpression Schema.never := ⟨by decide, by decide⟩

lemma isExpression_string (pattern : Option String) (length : Bounds) :
    IsExpression (Schema.string pattern length) := by
  have hbase : IsExpression "z.string()" := ⟨by decide, by decide⟩
  have hpattern : ∀ p, Closed ("new RegExp(" ++ Text.quote p ++ ")") := by
    intro p
    have hopen : Lexes true {} "new RegExp(" ⟨.code, [')']⟩ := by decide
    have hclose : Lexes true ⟨.code, [')']⟩ ")" {} := by decide
    exact (hopen.append ((closed_quote p).lexes (by decide))).append hclose
  exact (hbase.append (chained_callWith (by decide) hpattern pattern)).append
    (chained_boundCalls length)

lemma isExpression_numberRules (r : NumberRules) : IsExpression (Schema.numberRules r) := by
  have hbase : IsExpression "z.number()" := ⟨by decide, by decide⟩
  have hleast : Chained (if r.exclusiveMinimum.getD false then "gt" else "gte") := by
    split_ifs <;> decide
  have hgreatest : Chained (if r.exclusiveMaximum.getD false then "lt" else "lte") := by
    split_ifs <;> decide
  exact ((hbase.append (chained_callWith hleast closed_number _)).append
    (chained_callWith hgreatest closed_number _)).append
    (chained_callWith (by decide) closed_number _)

lemma isExpression_literalOf (l : Literal) : IsExpression (Schema.literalOf l) :=
  isExpression_around (by decide) (t := ⟨.code, [')']⟩) (by decide)
    ((closed_literal l).lexes (by decide)) (by decide)

lemma isExpression_enumeration (ls : List Literal) : IsExpression (Schema.enumeration ls) := by
  match ls with
  | [] => exact isExpression_never
  | [l] => exact isExpression_literalOf l
  | l :: m :: ls =>
    simp only [Schema.enumeration]
    split_ifs
    · have hitems : Closed (Schema.list ((l :: m :: ls).map Schema.literal)) := by
        apply closed_list
        intro text htext
        obtain ⟨x, -, rfl⟩ := List.mem_map.mp htext
        exact closed_literal x
      exact isExpression_around (by decide) (t := ⟨.code, [')']⟩) (by decide)
        (hitems.lexes (by decide)) (by decide)
    · have hitems : Closed (Schema.list ((l :: m :: ls).map Schema.literalOf)) := by
        apply closed_list
        intro text htext
        obtain ⟨x, -, rfl⟩ := List.mem_map.mp htext
        exact (isExpression_literalOf x).chained.closed
      exact isExpression_around (by decide) (t := ⟨.code, [')']⟩) (by decide)
        (hitems.lexes (by decide)) (by decide)

lemma isExpression_refined {base : String} (h : IsExpression base) (rs : List Refinement) :
    IsExpression (Schema.refined base rs) := by
  apply h.append
  apply lexes_join
  intro text htext
  obtain ⟨r, -, rfl⟩ := List.mem_map.mp htext
  exact r.chained_toJs

/-- The characters of a class body keep the lexer inside of the class. -/
lemma run_classBody (enclosed : Bool) (due : List Char) {cs : List Char}
    (h : ∀ c ∈ cs, isLineTerminator c = false) :
    run enclosed ⟨.regex true false, due⟩ (Schema.classBody cs) =
      some ⟨.regex true false, due⟩ := by
  induction cs with
  | nil => rfl
  | cons c cs ih =>
    have hc := h c List.mem_cons_self
    have hbackslash : regexStep true false '\\' = some (.regex true true) := by decide
    have hhead : run enclosed ⟨.regex true false, due⟩
        (if Schema.isSpecialInClass c then ['\\', c] else [c]) =
          some ⟨.regex true false, due⟩ := by
      by_cases hs : Schema.isSpecialInClass c
      · have hescaped : regexStep true true c = some (.regex true false) := by
          simp [regexStep, hc]
        simp [hs, run, step, hbackslash, hescaped]
      · have hplain : regexStep true false c = some (.regex true false) := by
          simp only [Schema.isSpecialInClass, Bool.or_eq_true, decide_eq_true_eq, not_or] at hs
          simp [regexStep, hc, hs]
        simp [hs, run, step, hplain]
    unfold Schema.classBody at ih ⊢
    rw [List.flatMap_cons, run_append, hhead, Option.bind_some]
    exact ih fun d hd => h d (List.mem_cons_of_mem c hd)

/-- The alphabet of an identifier that has one of its own. -/
def Leaf.alphabet? : Leaf → Option String
  | .nanoid _ alphabet => alphabet
  | _ => none

lemma isExpression_nanoid (length : Option UInt64) {alphabet : Option String}
    (h : ∀ a ∈ alphabet, ∀ c ∈ a.toList, isLineTerminator c = false) :
    IsExpression (Schema.nanoid length alphabet) := by
  have hdefault : IsExpression "z.string().nanoid()" := ⟨by decide, by decide⟩
  have hlength : Chained (Schema.callWith "length" (fun n : UInt64 => n.toNat.repr) length) :=
    chained_callWith (by decide) (fun n : UInt64 => (chained_natRepr n.toNat).closed) length
  unfold Schema.nanoid
  cases alphabet with
  | none => exact hdefault.append hlength
  | some a =>
    refine IsExpression.append ?_ hlength
    dsimp only
    split_ifs
    · exact hdefault
    · have hopen : Lexes false {} "z.string().regex(/^[" ⟨.regex true false, [')']⟩ := by decide
      have hclose : Lexes false ⟨.regex true false, [')']⟩ "]+$/)" {} := by decide
      refine isExpression_around (by decide) hopen ?_ hclose
      unfold Lexes
      rw [String.toList_ofList]
      exact run_classBody false [')'] (h a rfl)

lemma lexes_colorPattern (f : ColorFormat) :
    Lexes false ⟨.regex false false, [')']⟩ (Schema.colorPattern f)
      ⟨.regex false false, [')']⟩ := by
  cases f <;> decide

lemma isExpression_color (f : Filter ColorFormat) : IsExpression (Schema.color f) := by
  unfold Schema.color
  cases Schema.acceptedFormats f with
  | none => exact ⟨by decide, by decide⟩
  | some formats =>
    cases formats with
    | nil => exact isExpression_never
    | cons format formats =>
      refine isExpression_around (by decide) (t := ⟨.regex false false, [')']⟩) (by decide)
        (lexes_intercalate (by decide) ?_) (by decide)
      intro text htext
      obtain ⟨g, -, rfl⟩ := List.mem_map.mp htext
      exact lexes_colorPattern g

lemma isExpression_binary (e : Encoding) (bytes : Bounds) :
    IsExpression (Schema.binary e bytes) := by
  have hbase : IsExpression (Schema.encodingBase e) := by
    cases e <;> exact ⟨by decide, by decide⟩
  exact (hbase.append (chained_callWith (by decide) (fun _ => (chained_natRepr _).closed) _)).append
    (chained_callWith (by decide) (fun _ => (chained_natRepr _).closed) _)

lemma regexStep_of_isMemberChar {c : Char} (h : isMemberChar c = true) :
    regexStep false false c = some (.regex false false) := by
  have hne : ∀ d, isMemberChar d = false → c ≠ d := by
    intro d hd hcd
    rw [hcd, hd] at h
    exact Bool.false_ne_true h
  simp [regexStep, isLineTerminator, hne '\n' (by decide), hne '\r' (by decide),
    hne '\u2028' (by decide), hne '\u2029' (by decide), hne '\\' (by decide), hne '/' (by decide),
    hne '[' (by decide)]

lemma isExpression_hash (algorithm : String) : IsExpression (Schema.hash algorithm) := by
  have hopen : Lexes false {} "z.string().regex(/^[0-9A-Fa-f]\x7b" ⟨.regex false false, [')']⟩ := by
    decide
  have hclose : Lexes false ⟨.regex false false, [')']⟩ "\x7d$/)" {} := by decide
  refine isExpression_around (by decide) hopen ?_ hclose
  apply run_of_forall_step
  intro c hc
  rw [Nat.toList_repr] at hc
  simp [step, regexStep_of_isMemberChar (isMemberChar_of_mem_toDigits hc)]

lemma isExpression_addressBase (kind : AddressKind) : IsExpression (Schema.addressBase kind) := by
  cases kind <;> exact ⟨by decide, by decide⟩

lemma closed_option {α : Type} {name : String} {text : α → String} {value : Option α}
    (hn : Closed name) (ht : ∀ a, Closed (text a)) :
    ∀ x ∈ Schema.option name text value, Closed x := by
  intro x hx
  cases value with
  | none => simp [Schema.option] at hx
  | some a =>
    have hcolon : Closed ": " := by decide
    simp only [Schema.option, Option.map_some, Option.toList_some, List.mem_singleton] at hx
    rw [hx]
    exact (hn.append hcolon).append (ht a)

lemma isExpression_iso {format : String} {options : List String}
    (hf : Chained format) (ho : ∀ x ∈ options, Closed x) :
    IsExpression (Schema.iso format options) := by
  have hbase : IsExpression ("z.iso." ++ format) :=
    IsExpression.append ⟨by decide, by decide⟩ hf
  apply hbase.append
  split_ifs
  · decide
  · have hopen : Lexes false {} "(\x7b " ⟨.code, ['\x7d', ')']⟩ := by decide
    have hclose : Lexes false ⟨.code, ['\x7d', ')']⟩ " \x7d)" {} := by decide
    exact (hopen.append (lexes_intercalate (by decide) fun x hx => (ho x hx).lexes
      (by decide))).append hclose

theorem Leaf.isExpression_schema {l : Leaf}
    (h : ∀ a ∈ l.alphabet?, ∀ c ∈ a.toList, isLineTerminator c = false) :
    IsExpression l.schema := by
  have hprecision : ∀ p : Option Int32, ∀ x ∈ Schema.precision p, Closed x := fun p =>
    closed_option (by decide) fun p => closed_intRepr p.toInt
  cases l with
  | plain p => cases p <;> exact ⟨by decide, by decide⟩
  | string pattern length => exact isExpression_string pattern length
  | number rules => exact isExpression_numberRules rules
  | literal value => exact isExpression_literalOf value
  | enumeration values => exact isExpression_enumeration values
  | email domain => exact isExpression_refined ⟨by decide, by decide⟩ _
  | nanoid length alphabet => exact isExpression_nanoid length h
  | url rules => exact isExpression_refined ⟨by decide, by decide⟩ _
  | color format => exact isExpression_color format
  | binary encoding bytes => exact isExpression_binary encoding bytes
  | hash algorithm => exact isExpression_hash algorithm
  | address kind range => exact isExpression_refined (isExpression_addressBase kind) _
  | time p => exact isExpression_iso (by decide) (hprecision p)
  | datetime offset zoneless p =>
    apply isExpression_iso (by decide)
    intro x hx
    simp only [List.mem_append] at hx
    rcases hx with (hx | hx) | hx
    · exact closed_option (by decide) closed_flag x hx
    · exact closed_option (by decide) closed_flag x hx
    · exact hprecision p x hx

end SchemaForge
