import SchemaForge.Proofs.JavaScriptEvaluation

/-!
# Statements

Declarations, assignments, early returns and loops: the grammar that they are read by, which is
unambiguous, and what a run of them does to the variables in scope. A run is stuck where an
expression has no value, where a constant would be assigned to, and where a declaration would hide
something. So a run that is not stuck is a run of the text.
-/

namespace SchemaForge.JavaScript

inductive Statement where
  | declare (mutable : Bool) (w : String) (e : Expr)
  | assign (w : String) (e : Expr)
  | returnIf (test e : Expr)
  | forOf (w : String) (e : Expr) (body : List Statement)

/-! ### Grammar -/

def declarator (mutable : Bool) : String := if mutable then "let" else "const"

/-- `Block ts ps`: the tokens are the statements. -/
inductive Block : List Token → List Statement → Prop where
  | empty : Block [] []
  | declare {ts us : List Token} {e : Expr} {ps : List Statement} (mutable : Bool) {w : String}
      (hw : w ∉ reservedWords) (he : Derives 0 ts e) (h : Block us ps) :
      Block (.word (declarator mutable) :: .word w :: .assign :: ts ++ .semicolon :: us)
        (.declare mutable w e :: ps)
  | assign {ts us : List Token} {e : Expr} {ps : List Statement} {w : String}
      (hw : w ∉ reservedWords) (he : Derives 0 ts e) (h : Block us ps) :
      Block (.word w :: .assign :: ts ++ .semicolon :: us) (.assign w e :: ps)
  | returnIf {ts us vs : List Token} {test e : Expr} {ps : List Statement}
      (htest : Derives 0 ts test) (he : Derives 0 us e) (h : Block vs ps) :
      Block (.word "if" :: .openParen :: ts ++
          .closeParen :: .word "return" :: us ++ .semicolon :: vs)
        (.returnIf test e :: ps)
  | forOf {ts us vs : List Token} {e : Expr} {body ps : List Statement} {w : String}
      (hw : w ∉ reservedWords) (he : Derives 0 ts e) (hbody : Block us body) (h : Block vs ps) :
      Block (.word "for" :: .openParen :: .word "const" :: .word w :: .word "of" :: ts ++
          .closeParen :: .openBrace :: us ++ .closeBrace :: vs)
        (.forOf w e body :: ps)

/-- A text is a sequence of statements. -/
def IsScript (text : String) (ps : List Statement) : Prop :=
  ∃ ts, tokens? text = some ts ∧ Block ts ps

/-! ### No text is two scripts -/

/-- The token ends an expression that stands outside of brackets: the parser does not go on. -/
def Token.Stops (t : Token) : Prop := ∀ f : Frame, f.opening = .start → shift ⟨f, []⟩ t = none

lemma stops_semicolon : Token.semicolon.Stops := by
  intro f _
  rfl

lemma stops_closeParen : Token.closeParen.Stops := by
  intro f hf
  simp [shift, hf]

section Uniqueness

variable {t : Token} {ts ts' us us' : List Token} {e e' : Expr} {ps ps' : List Statement}

lemma Derives.not_append (h : Derives 0 ts e) (ht : t.Stops) : ¬Derives 0 (ts ++ t :: us) e' := by
  intro h'
  obtain ⟨f, hrun, hopening, -, -⟩ :=
    closed?_of_accepts (f := { opening := .start }) [] (accepts_of_derives h) rfl rfl
  obtain ⟨f', hrun', -, -, -⟩ :=
    closed?_of_accepts (f := { opening := .start }) [] (accepts_of_derives h') rfl rfl
  rw [shiftAll_append, hrun, Option.bind_some, shiftAll, ht f hopening] at hrun'
  cases hrun'

/-- An expression goes up to the first token that ends it. -/
lemma Derives.append_inj (h : Derives 0 ts e) (h' : Derives 0 ts' e') (ht : t.Stops)
    (heq : ts ++ t :: us = ts' ++ t :: us') : e = e' ∧ us = us' := by
  have hsame : ts = ts' ∧ t :: us = t :: us' := by
    rcases List.append_eq_append_iff.mp heq with ⟨vs, hts, hus⟩ | ⟨vs, hts, hus⟩
    · cases vs with
      | nil => exact ⟨by simpa using hts.symm, by simpa using hus⟩
      | cons v vs =>
        cases hus
        exact absurd (hts ▸ h') (h.not_append ht)
    · cases vs with
      | nil => exact ⟨by simpa using hts, by simpa using hus.symm⟩
      | cons v vs =>
        cases hus
        exact absurd (hts ▸ h) (h'.not_append ht)
  obtain ⟨rfl, hus⟩ := hsame
  have hparse := parse?_of_derives h
  rw [parse?_of_derives h'] at hparse
  exact ⟨(Option.some.inj hparse).symm, (List.cons.inj hus).2⟩

lemma declarator_inj : ∀ {a b : Bool}, declarator a = declarator b → a = b := by decide

/-- What may follow a block. -/
def EndsBlock (us : List Token) : Prop := ∀ t ∈ us.head?, t = .closeBrace

lemma EndsBlock.ne_word (h : EndsBlock us) {w : String} {vs : List Token} : us ≠ .word w :: vs := by
  rintro rfl
  cases h _ rfl

/-- The tokens of a block determine its statements and where it ends. The first two tokens of a
statement tell which kind it is. -/
theorem Block.append_inj (h : Block ts ps) (h' : Block ts' ps') (hus : EndsBlock us)
    (hus' : EndsBlock us') (heq : ts ++ us = ts' ++ us') : ps = ps' ∧ us = us' := by
  induction h generalizing ts' ps' us us' with
  | empty =>
    cases h' with
    | empty => exact ⟨rfl, heq⟩
    | _ => exact absurd heq hus.ne_word
  | declare mutable hw he h ih =>
    cases h' with
    | empty => exact absurd heq.symm hus'.ne_word
    | declare mutable' hw' he' h' =>
      simp only [List.cons_append, List.append_assoc, List.cons.injEq, Token.word.injEq,
        true_and] at heq
      obtain ⟨hmutable, rfl, heq⟩ := heq
      obtain ⟨rfl, heq⟩ := he.append_inj he' stops_semicolon heq
      obtain ⟨rfl, rfl⟩ := ih h' hus hus' heq
      exact ⟨by rw [declarator_inj hmutable], rfl⟩
    | _ => simp at heq
  | assign hw he h ih =>
    cases h' with
    | empty => exact absurd heq.symm hus'.ne_word
    | assign hw' he' h' =>
      simp only [List.cons_append, List.append_assoc, List.cons.injEq, Token.word.injEq,
        true_and] at heq
      obtain ⟨rfl, heq⟩ := heq
      obtain ⟨rfl, heq⟩ := he.append_inj he' stops_semicolon heq
      obtain ⟨rfl, rfl⟩ := ih h' hus hus' heq
      exact ⟨rfl, rfl⟩
    | _ => simp at heq
  | returnIf htest he h ih =>
    cases h' with
    | empty => exact absurd heq.symm hus'.ne_word
    | returnIf htest' he' h' =>
      simp only [List.cons_append, List.append_assoc, List.cons.injEq, true_and] at heq
      obtain ⟨rfl, heq⟩ := htest.append_inj htest' stops_closeParen heq
      simp only [List.cons.injEq, true_and] at heq
      obtain ⟨rfl, heq⟩ := he.append_inj he' stops_semicolon heq
      obtain ⟨rfl, rfl⟩ := ih h' hus hus' heq
      exact ⟨rfl, rfl⟩
    | _ => simp at heq
  | forOf hw he hbody h ihbody ih =>
    cases h' with
    | empty => exact absurd heq.symm hus'.ne_word
    | forOf hw' he' hbody' h' =>
      simp only [List.cons_append, List.append_assoc, List.cons.injEq, Token.word.injEq,
        true_and] at heq
      obtain ⟨rfl, heq⟩ := heq
      obtain ⟨rfl, heq⟩ := he.append_inj he' stops_closeParen heq
      simp only [List.cons.injEq, true_and] at heq
      have hbrace : ∀ vs, EndsBlock (.closeBrace :: vs) := by
        intro vs t ht
        exact (Option.some.inj ht).symm
      obtain ⟨rfl, heq⟩ := ihbody hbody' (hbrace _) (hbrace _) heq
      obtain ⟨rfl, rfl⟩ := ih h' hus hus' (List.cons.inj heq).2
      exact ⟨rfl, rfl⟩
    | _ => simp at heq

theorem IsScript.unique {text : String} (h : IsScript text ps) (h' : IsScript text ps') :
    ps' = ps := by
  obtain ⟨ts, hts, hblock⟩ := h
  obtain ⟨ts', hts', hblock'⟩ := h'
  rw [hts] at hts'
  cases hts'
  have hnil : EndsBlock [] := fun t ht => by cases ht
  exact (hblock'.append_inj hblock hnil hnil rfl).1

end Uniqueness

/-! ### Runs -/

namespace Scope

/-- A name that hides nothing when it is declared. -/
def isFree (s : Scope) (w : String) : Bool := (s.get? w).isNone && w != "Number"

/-- A constant cannot be assigned to. -/
def set? (w : String) (v : Value) : Scope → Option Scope
  | [] => none
  | x :: s =>
    if x.name = w then if x.mutable then some (⟨true, w, v⟩ :: s) else none
    else (set? w v s).map (x :: ·)

end Scope

inductive Outcome where
  | goesOn (s : Scope)
  | returns (v : Value)
  | stuck

namespace Outcome

def bind : Outcome → (Scope → Outcome) → Outcome
  | goesOn s, next => next s
  | returns v, _ => returns v
  | stuck, _ => stuck

/-- The end of a block, at which the variables declared in it go out of scope. -/
def leave (outer : Scope) (o : Outcome) : Outcome :=
  o.bind fun s => goesOn (s.drop (s.length - outer.length))

def ofOption {α : Type} (next : α → Outcome) : Option α → Outcome
  | some x => next x
  | none => stuck

end Outcome

namespace Statement

open Outcome

/-- A loop over items, where `pass` is one run of its body. -/
def loop (w : String) (pass : Scope → Outcome) : List Value → Scope → Outcome
  | [], s => goesOn s
  | item :: items, s => (leave s (pass (⟨false, w, item⟩ :: s))).bind (loop w pass items)

mutual

def run : Statement → Scope → Outcome
  | declare mutable w e, s =>
    if s.isFree w then ofOption (fun v => goesOn (⟨mutable, w, v⟩ :: s)) (e.eval s) else stuck
  | assign w e, s => ofOption goesOn ((e.eval s).bind fun v => s.set? w v)
  | returnIf test e, s =>
    ofOption (fun v => if v.truthy then ofOption returns (e.eval s) else goesOn s) (test.eval s)
  | forOf w e body, s =>
    match e.eval s with
    | some (.array items) => if s.isFree w then loop w (runAll body) items s else stuck
    | _ => stuck

def runAll : List Statement → Scope → Outcome
  | [], s => goesOn s
  | p :: ps, s => (run p s).bind (runAll ps)

end

section Laws

variable {s s' : Scope} {e test : Expr} {v : Value} {p : Statement} {ps : List Statement}

lemma run_returnIf_of_true (htest : test.eval s = some (.bool true)) (he : e.eval s = some v) :
    (returnIf test e).run s = .returns v := by
  rw [run, htest, he]
  rfl

lemma run_returnIf_of_false (htest : test.eval s = some (.bool false)) :
    (returnIf test e).run s = .goesOn s := by
  rw [run, htest]
  rfl

lemma runAll_cons_of_goesOn (h : run p s = .goesOn s') : runAll (p :: ps) s = runAll ps s' := by
  rw [runAll, h, Outcome.bind]

lemma runAll_cons_of_returns (h : run p s = .returns v) : runAll (p :: ps) s = .returns v := by
  rw [runAll, h, Outcome.bind]

lemma runAll_singleton (p : Statement) (s : Scope) : runAll [p] s = run p s := by
  rw [runAll]
  cases run p s with
  | goesOn s => rw [Outcome.bind, runAll]
  | returns v => rfl
  | stuck => rfl

end Laws

end Statement

end SchemaForge.JavaScript
