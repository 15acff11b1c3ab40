import Mathlib.Data.List.Basic
import Mathlib.Tactic.Lemma
import SchemaForge.Schema.Identifier

/-!
# Lexing of expressions

A lexer for the part of JavaScript that generated expressions are written in. It tells code from
double-quoted strings and regular expressions and keeps the brackets that are open. `Lexes` says
where the lexer gets by reading a text; it composes under concatenation, and a text that lexes by
itself lexes inside of any brackets.
-/

namespace SchemaForge.JavaScript

/-- What the next character belongs to. -/
inductive Mode where
  | code
  /-- A double-quoted string; the flag is set behind a backslash. -/
  | string (escaped : Bool)
  /-- A regular expression of which only the first slash has been read. -/
  | slash
  /-- A regular expression, inside of a character class or not, behind a backslash or not. -/
  | regex (inClass escaped : Bool)
  deriving DecidableEq

/-- A state of the lexer. -/
structure State where
  mode : Mode := .code
  /-- The closing brackets that are due, innermost first. -/
  due : List Char := []
  deriving DecidableEq

/-- The characters that end a line, which no regular expression may contain. -/
def isLineTerminator (c : Char) : Bool :=
  c = '\n' || c = '\r' || c = '\u2028' || c = '\u2029'

/-- The closing bracket of an opening one. -/
def closing? (c : Char) : Option Char :=
  if c = '(' then some ')'
  else if c = '[' then some ']'
  else if c = '\x7b' then some '\x7d'
  else none

def isClosing (c : Char) : Bool := c = ')' || c = ']' || c = '\x7d'

/-- The characters of names and of the dots between them. -/
def isMemberChar (c : Char) : Bool := Schema.isIdentifierChar c || c = '.'

/-- A character in code position. Outside of all brackets only names and dots are accepted. The
other two kinds of quotes and escapes in names are not part of the language. -/
def codeStep (enclosed : Bool) (due : List Char) (c : Char) : Option State :=
  if isMemberChar c then some ⟨.code, due⟩
  else
    match closing? c with
    | some b => some ⟨.code, b :: due⟩
    | none =>
      if isClosing c then
        match due with
        | b :: rest => if b = c then some ⟨.code, rest⟩ else none
        | [] => none
      else if due.isEmpty && !enclosed then none
      else if c = '"' then some ⟨.string false, due⟩
      else if c = '/' then some ⟨.slash, due⟩
      else if c = '\x27' || c = '\x60' || c = '\\' then none
      else some ⟨.code, due⟩

/-- A character of a string, which ends at the next quote without a backslash. -/
def stringStep (escaped : Bool) (c : Char) : Option Mode :=
  if c = '\n' || c = '\r' then none
  else if escaped then some (.string false)
  else if c = '"' then some .code
  else some (.string (c = '\\'))

/-- A character of a regular expression, which ends at the next slash that has no backslash and
stands outside of a character class. -/
def regexStep (inClass escaped : Bool) (c : Char) : Option Mode :=
  if isLineTerminator c then none
  else if escaped then some (.regex inClass false)
  else if c = '\\' then some (.regex inClass true)
  else if inClass then some (.regex (c ≠ ']') false)
  else if c = '/' then some .code
  else some (.regex (c = '[') false)

/-- Read one character. The flag tells that the text stands inside of brackets that were opened
before it. Two slashes, or a slash and an asterisk, would begin a comment. -/
def step (enclosed : Bool) (s : State) (c : Char) : Option State :=
  match s.mode with
  | .code => codeStep enclosed s.due c
  | .string escaped => (stringStep escaped c).map fun m => ⟨m, s.due⟩
  | .slash =>
    if c = '/' || c = '*' then none else (regexStep false false c).map fun m => ⟨m, s.due⟩
  | .regex inClass escaped => (regexStep inClass escaped c).map fun m => ⟨m, s.due⟩

def run (enclosed : Bool) : State → List Char → Option State
  | s, [] => some s
  | s, c :: cs => (step enclosed s c).bind fun s => run enclosed s cs

lemma run_append (enclosed : Bool) (s : State) (cs ds : List Char) :
    run enclosed s (cs ++ ds) = (run enclosed s cs).bind fun s => run enclosed s ds := by
  induction cs generalizing s with
  | nil => rfl
  | cons c cs ih =>
    simp only [List.cons_append, run]
    cases step enclosed s c with
    | none => rfl
    | some t => exact ih t

/-- Characters that leave a state as it is. -/
lemma run_of_forall_step {enclosed : Bool} {s : State} {cs : List Char}
    (h : ∀ c ∈ cs, step enclosed s c = some s) : run enclosed s cs = some s := by
  induction cs with
  | nil => rfl
  | cons c cs ih =>
    rw [run, h c List.mem_cons_self, Option.bind_some]
    exact ih fun d hd => h d (List.mem_cons_of_mem c hd)

/-! ### Outside of all brackets -/

lemma due_ne_nil_of_step {s t : State} {c : Char} (hs : s.mode ≠ .code → s.due ≠ [])
    (h : step false s c = some t) : t.mode ≠ .code → t.due ≠ [] := by
  obtain ⟨mode, due⟩ := s
  cases mode with
  | code =>
    simp only [step, codeStep] at h
    split at h
    · cases h
      exact fun hc => absurd rfl hc
    · split at h
      · cases h
        exact fun hc => absurd rfl hc
      · split_ifs at h with hclose htop hquote hslash hother
        · split at h
          · split_ifs at h
            cases h
            exact fun hc => absurd rfl hc
          · cases h
        · cases h
          simpa using htop
        · cases h
          simpa using htop
        · cases h
          exact fun hc => absurd rfl hc
  | string escaped =>
    obtain ⟨m, -, rfl⟩ := Option.map_eq_some_iff.mp h
    exact fun _ => hs (by simp)
  | slash =>
    simp only [step] at h
    split_ifs at h
    obtain ⟨m, -, rfl⟩ := Option.map_eq_some_iff.mp h
    exact fun _ => hs (by simp)
  | regex inClass escaped =>
    obtain ⟨m, -, rfl⟩ := Option.map_eq_some_iff.mp h
    exact fun _ => hs (by simp)

/-- Literals stand inside of brackets. -/
lemma due_ne_nil_of_run {s t : State} {cs : List Char} (hs : s.mode ≠ .code → s.due ≠ [])
    (h : run false s cs = some t) : t.mode ≠ .code → t.due ≠ [] := by
  induction cs generalizing s with
  | nil =>
    cases h
    exact hs
  | cons c cs ih =>
    obtain ⟨u, hu, hrest⟩ := Option.bind_eq_some_iff.mp h
    exact ih (due_ne_nil_of_step hs hu) hrest

/-- In a text that can be read, the characters outside of all brackets are names, dots and the
brackets that are opened there. -/
theorem outside_of_run {cs ds : List Char} {c : Char} {t : State}
    (h : run false {} (cs ++ c :: ds) = some t) :
    ∃ s, run false {} cs = some s ∧
      (s.due = [] → s.mode = .code ∧ (isMemberChar c = true ∨ (closing? c).isSome)) := by
  rw [run_append] at h
  obtain ⟨s, hs, hrest⟩ := Option.bind_eq_some_iff.mp h
  obtain ⟨u, hu, -⟩ := Option.bind_eq_some_iff.mp hrest
  refine ⟨s, hs, ?_⟩
  intro hdue
  have hmode : s.mode = .code := by
    by_contra hne
    exact due_ne_nil_of_run (fun hc => absurd rfl hc) hs hne hdue
  refine ⟨hmode, ?_⟩
  by_contra hnot
  simp only [not_or, Bool.not_eq_true, Option.isSome_eq_false_iff, Option.isNone_iff_eq_none]
    at hnot
  simp [step, hmode, codeStep, hnot.1, hnot.2, hdue] at hu

/-! ### Brackets around a text -/

/-- The state inside of further brackets. -/
def State.within (s : State) (outer : List Char) : State := ⟨s.mode, s.due ++ outer⟩

lemma codeStep_within {enclosed inner : Bool} {due outer : List Char} {c : Char} {t : State}
    (hout : enclosed = true ∨ inner = false ∨ outer ≠ []) (h : codeStep inner due c = some t) :
    codeStep enclosed (due ++ outer) c = some (t.within outer) := by
  unfold codeStep at h ⊢
  by_cases hm : isMemberChar c
  · simp only [hm, if_true, Option.some.injEq] at h ⊢
    rw [← h]
    rfl
  simp only [hm, Bool.false_eq_true, if_false] at h ⊢
  cases hb : closing? c with
  | some b =>
    simp only [hb, Option.some.injEq] at h ⊢
    rw [← h]
    rfl
  | none =>
    simp only [hb] at h ⊢
    by_cases hc : isClosing c
    · rw [if_pos hc] at h ⊢
      cases due with
      | nil => simp at h
      | cons b rest =>
        by_cases hbc : b = c
        · simp only [hbc, if_true, Option.some.injEq] at h
          simp only [List.cons_append, hbc, if_true, ← h]
          rfl
        · simp [hbc] at h
    · rw [if_neg hc] at h ⊢
      by_cases htop : (due.isEmpty && !inner) = true
      · simp [htop] at h
      · rw [if_neg htop] at h
        have htop' : ¬((due ++ outer).isEmpty && !enclosed) = true := by
          simp only [Bool.and_eq_true, List.isEmpty_iff, List.append_eq_nil_iff,
            Bool.not_eq_true'] at htop ⊢
          rintro ⟨⟨hd, ho⟩, he⟩
          rcases hout with h' | h' | h'
          · exact Bool.false_ne_true (he.symm.trans h')
          · exact htop ⟨hd, h'⟩
          · exact h' ho
        rw [if_neg htop']
        split_ifs at h ⊢ with hq hs
        · cases h
          rfl
        · cases h
          rfl
        · cases h
          rfl

lemma step_within {enclosed inner : Bool} {s t : State} {outer : List Char} {c : Char}
    (hout : enclosed = true ∨ inner = false ∨ outer ≠ []) (h : step inner s c = some t) :
    step enclosed (s.within outer) c = some (t.within outer) := by
  obtain ⟨mode, due⟩ := s
  cases mode with
  | code => exact codeStep_within hout h
  | string escaped =>
    obtain ⟨m, hm, rfl⟩ := Option.map_eq_some_iff.mp h
    simp [step, State.within, hm]
  | slash =>
    simp only [step] at h
    split_ifs at h with hc
    obtain ⟨m, hm, rfl⟩ := Option.map_eq_some_iff.mp h
    simp [step, State.within, hc, hm]
  | regex inClass escaped =>
    obtain ⟨m, hm, rfl⟩ := Option.map_eq_some_iff.mp h
    simp [step, State.within, hm]

/-- What can be read by itself can be read inside of brackets, which it leaves alone. -/
theorem run_within {enclosed inner : Bool} {s t : State} {outer : List Char} {cs : List Char}
    (hout : enclosed = true ∨ inner = false ∨ outer ≠ []) (h : run inner s cs = some t) :
    run enclosed (s.within outer) cs = some (t.within outer) := by
  induction cs generalizing s with
  | nil =>
    simp only [run, Option.some.injEq] at h ⊢
    rw [h]
  | cons c cs ih =>
    obtain ⟨u, hu, hrest⟩ := Option.bind_eq_some_iff.mp h
    rw [run, step_within hout hu, Option.bind_some]
    exact ih hrest

/-! ### Texts -/

/-- Reading a text leads from one state to another. -/
def Lexes (enclosed : Bool) (s : State) (text : String) (t : State) : Prop :=
  run enclosed s text.toList = some t

instance (enclosed : Bool) (s : State) (text : String) (t : State) :
    Decidable (Lexes enclosed s text t) :=
  inferInstanceAs (Decidable (run enclosed s text.toList = some t))

/-- A text in which every string and regular expression ends and every bracket has its partner. -/
def Closed (text : String) : Prop := Lexes true {} text {}

/-- A closed text that consists of names and dots outside of its brackets. -/
def Chained (text : String) : Prop := Lexes false {} text {}

instance (text : String) : Decidable (Closed text) :=
  inferInstanceAs (Decidable (Lexes true {} text {}))

instance (text : String) : Decidable (Chained text) :=
  inferInstanceAs (Decidable (Lexes false {} text {}))

section Composition

variable {enclosed : Bool} {s t u : State} {a b : String}

lemma lexes_empty : Lexes enclosed s "" s := rfl

lemma Lexes.append (ha : Lexes enclosed s a t) (hb : Lexes enclosed t b u) :
    Lexes enclosed s (a ++ b) u := by
  unfold Lexes at *
  rw [String.toList_append, run_append, ha, Option.bind_some, hb]

lemma lexes_join {texts : List String} (h : ∀ x ∈ texts, Lexes enclosed s x s) :
    Lexes enclosed s (String.join texts) s := by
  induction texts with
  | nil => exact lexes_empty
  | cons x texts ih =>
    rw [String.join_cons]
    exact (h x List.mem_cons_self).append (ih fun y hy => h y (List.mem_cons_of_mem x hy))

lemma lexes_intercalate {separator : String} {texts : List String}
    (hs : Lexes enclosed s separator s) (h : ∀ x ∈ texts, Lexes enclosed s x s) :
    Lexes enclosed s (separator.intercalate texts) s := by
  induction texts with
  | nil => exact lexes_empty
  | cons x texts ih =>
    cases texts with
    | nil =>
      rw [String.intercalate_singleton]
      exact h x List.mem_cons_self
    | cons y texts =>
      rw [String.intercalate_cons_cons]
      exact ((h x List.mem_cons_self).append hs).append
        (ih fun z hz => h z (List.mem_cons_of_mem x hz))

/-- A closed text may stand between any brackets. -/
lemma Closed.lexes (h : Closed a) {due : List Char} (hdue : due ≠ []) :
    Lexes enclosed ⟨.code, due⟩ a ⟨.code, due⟩ :=
  run_within (Or.inr (Or.inr hdue)) h

/-- A chained text may stand anywhere in code. -/
lemma Chained.lexes (h : Chained a) (due : List Char) :
    Lexes enclosed ⟨.code, due⟩ a ⟨.code, due⟩ :=
  run_within (Or.inr (Or.inl rfl)) h

lemma Chained.closed (h : Chained a) : Closed a := h.lexes []

/-- Names and dots leave the lexer where it is. -/
lemma step_of_isMemberChar {due : List Char} {c : Char} (h : isMemberChar c = true) :
    step enclosed ⟨.code, due⟩ c = some ⟨.code, due⟩ := by
  simp [step, codeStep, h]

lemma lexes_of_memberChars {due : List Char} (h : ∀ c ∈ a.toList, isMemberChar c = true) :
    Lexes enclosed ⟨.code, due⟩ a ⟨.code, due⟩ :=
  run_of_forall_step fun c hc => step_of_isMemberChar (h c hc)

end Composition

end SchemaForge.JavaScript
