import SchemaForge.Proofs.JavaScriptTokens

/-!
# Grammar of expressions

The grammar of JavaScript expressions over `Token`, with the precedences of the language: calls and
members bind tightest, then `!`, then `*`, then `+`, then `>=`, `<=` and `>`, then `===` and `!==`,
then `&&`, then `||`, and operators group from the left. The grammar is unambiguous: a parser that
shifts tokens and applies the operators that bind tighter than the next one finds the expression of
every derivation.
-/

namespace SchemaForge.JavaScript

inductive Expr where
  | name (w : String)
  | bool (b : Bool)
  | number (n : Nat)
  | string (us : List UInt16)
  | regex (body : List Char)
  | array (items : List Expr)
  | member (e : Expr) (w : String)
  | call (callee : Expr) (args : List Expr)
  | not (e : Expr)
  | binary (op : Operator) (left right : Expr)
  deriving Inhabited

/-- How tight an operator binds. Negation has level 6, calls and members have level 7. -/
def Operator.level : Operator → Nat
  | or => 0
  | and => 1
  | strictEq | strictNe => 2
  | atLeast | atMost | greater => 3
  | plus => 4
  | times => 5

/-- The words that are no names of variables. -/
def reservedWords : List String :=
  ["await", "break", "case", "catch", "class", "const", "continue", "debugger", "default", "delete",
    "do", "else", "enum", "export", "extends", "false", "finally", "for", "function", "if",
    "implements", "import", "in", "instanceof", "interface", "let", "new", "null", "package",
    "private", "protected", "public", "return", "static", "super", "switch", "this", "throw", "true",
    "try", "typeof", "var", "void", "while", "with", "yield"]

def separated (parts : List (List Token × Expr)) : List Token :=
  [Token.comma].intercalate (parts.map Prod.fst)

/-- `Derives l ts e`: the tokens are an expression whose outermost operator binds at least as tight
as level `l`. -/
inductive Derives : Nat → List Token → Expr → Prop where
  | name {w : String} (h : w ∉ reservedWords) : Derives 7 [.word w] (.name w)
  | true : Derives 7 [.word "true"] (.bool true)
  | false : Derives 7 [.word "false"] (.bool false)
  | number (n : Nat) : Derives 7 [.number n] (.number n)
  | string (us : List UInt16) : Derives 7 [.string us] (.string us)
  | regex (body : List Char) : Derives 7 [.regex body] (.regex body)
  | group {ts : List Token} {e : Expr} (h : Derives 0 ts e) :
      Derives 7 (.openParen :: ts ++ [.closeParen]) e
  | array {parts : List (List Token × Expr)} (h : ∀ p ∈ parts, Derives 0 p.1 p.2) :
      Derives 7 (.openBracket :: separated parts ++ [.closeBracket]) (.array (parts.map Prod.snd))
  | member {ts : List Token} {e : Expr} (w : String) (h : Derives 7 ts e) :
      Derives 7 (ts ++ [.dot, .word w]) (.member e w)
  | call {ts : List Token} {e : Expr} {parts : List (List Token × Expr)} (h : Derives 7 ts e)
      (hargs : ∀ p ∈ parts, Derives 0 p.1 p.2) :
      Derives 7 (ts ++ .openParen :: separated parts ++ [.closeParen])
        (.call e (parts.map Prod.snd))
  | not {ts : List Token} {e : Expr} (h : Derives 6 ts e) : Derives 6 (.not :: ts) (.not e)
  | binary {ts us : List Token} {e e' : Expr} (op : Operator) (h : Derives op.level ts e)
      (h' : Derives (op.level + 1) us e') :
      Derives op.level (ts ++ .operator op :: us) (.binary op e e')
  | looser {l : Nat} {ts : List Token} {e : Expr} (h : Derives (l + 1) ts e) : Derives l ts e

lemma Derives.of_le {k l : Nat} {ts : List Token} {e : Expr} (h : Derives l ts e) (hk : k ≤ l) :
    Derives k ts e := by
  induction hk with
  | refl => exact h
  | step _ ih => exact ih (.looser h)

/-- A call with one argument. -/
lemma Derives.callOne {ts us : List Token} {e e' : Expr} (h : Derives 7 ts e)
    (h' : Derives 0 us e') :
    Derives 7 (ts ++ .openParen :: us ++ [.closeParen]) (.call e [e']) := by
  have hargs : ∀ p ∈ [(us, e')], Derives 0 p.1 p.2 := by
    intro p hp
    rw [List.mem_singleton.mp hp]
    exact h'
  have hcall := Derives.call h hargs
  simpa [separated] using hcall

lemma Derives.method {ts us : List Token} {e e' : Expr} (w : String) (h : Derives 7 ts e)
    (h' : Derives 0 us e') :
    Derives 7 (ts ++ [.dot, .word w, .openParen] ++ us ++ [.closeParen])
      (.call (.member e w) [e']) := by
  simpa using (h.member w).callOne h'

/-- A text is an expression. -/
def Parses (text : String) (e : Expr) : Prop := ∃ ts, tokens? text = some ts ∧ Derives 0 ts e

/-! ### A parser -/

/-- An operator that waits for its right operand. -/
inductive Pending where
  | not
  | binary (op : Operator) (left : Expr)

def Pending.level : Pending → Nat
  | .not => 6
  | .binary op _ => op.level

def Pending.apply : Pending → Expr → Expr
  | .not, e => .not e
  | .binary op left, e => .binary op left e

/-- Apply operators, the innermost first. -/
def collapse (qs : List Pending) (e : Expr) : Expr := qs.foldl (fun e q => q.apply e) e

/-- Apply the operators that bind at least as tight as level `l`. -/
def settle (l : Nat) : List Pending → Expr → List Pending × Expr
  | [], e => ([], e)
  | q :: qs, e => if l ≤ q.level then settle l qs (q.apply e) else (q :: qs, e)

/-- The bracket that a part of an expression stands in. -/
inductive Opening where
  | start
  | group
  | array
  | call (callee : Expr)

def Opening.takesItems : Opening → Bool
  | start => false
  | group => false
  | array => true
  | call _ => true

/-- The operand that was read last. -/
inductive Slot where
  | missing
  | ready (e : Expr)
  /-- In front of a dot. -/
  | dotted (e : Expr)

structure Frame where
  opening : Opening
  items : List Expr := []
  /-- Innermost first. -/
  pending : List Pending := []
  slot : Slot := .missing

/-- The innermost bracket and those around it. -/
structure Position where
  here : Frame
  outer : List Frame

def Frame.closed? (f : Frame) : Option (List Expr) :=
  match f.slot with
  | .missing => if f.items.isEmpty && f.pending.isEmpty then some [] else none
  | .ready e => some (f.items ++ [collapse f.pending e])
  | .dotted _ => none

def wordExpr? (w : String) : Option Expr :=
  if w = "true" then some (.bool true)
  else if w = "false" then some (.bool false)
  else if w ∈ reservedWords then none
  else some (.name w)

def Frame.fill? (f : Frame) (e : Expr) : Option Frame :=
  match f.slot with
  | .missing => some { f with slot := .ready e }
  | _ => none

/-- Leave a bracket; what stood in it is an operand outside. -/
def leave? (e : Expr) : List Frame → Option Position
  | [] => none
  | f :: outer => (f.fill? e).map fun f => ⟨f, outer⟩

def shift (p : Position) (t : Token) : Option Position :=
  let f := p.here
  match t, f.slot with
  | .word w, .missing => (wordExpr? w).map fun e => { p with here := { f with slot := .ready e } }
  | .word w, .dotted e => some { p with here := { f with slot := .ready (.member e w) } }
  | .number n, .missing => some { p with here := { f with slot := .ready (.number n) } }
  | .string us, .missing => some { p with here := { f with slot := .ready (.string us) } }
  | .regex body, .missing => some { p with here := { f with slot := .ready (.regex body) } }
  | .not, .missing => some { p with here := { f with pending := .not :: f.pending } }
  | .operator op, .ready e =>
    let (qs, left) := settle op.level f.pending e
    some { p with here := { f with pending := .binary op left :: qs, slot := .missing } }
  | .dot, .ready e => some { p with here := { f with slot := .dotted e } }
  | .comma, .ready e =>
    if f.opening.takesItems then
      some { p with here := { opening := f.opening, items := f.items ++ [collapse f.pending e] } }
    else none
  | .openParen, .missing => some ⟨{ opening := .group }, f :: p.outer⟩
  | .openParen, .ready e =>
    some ⟨{ opening := .call e }, { f with slot := .missing } :: p.outer⟩
  | .openBracket, .missing => some ⟨{ opening := .array }, f :: p.outer⟩
  | .closeParen, _ =>
    match f.opening, f.closed? with
    | .group, some [e] => leave? e p.outer
    | .call callee, some args => leave? (.call callee args) p.outer
    | _, _ => none
  | .closeBracket, _ =>
    match f.opening, f.closed? with
    | .array, some items => leave? (.array items) p.outer
    | _, _ => none
  | _, _ => none

def shiftAll (p : Position) : List Token → Option Position
  | [] => some p
  | t :: ts => (shift p t).bind fun q => shiftAll q ts

def parse? (ts : List Token) : Option Expr :=
  (shiftAll ⟨{ opening := .start }, []⟩ ts).bind fun p =>
    match p.outer, p.here.closed? with
    | [], some [e] => some e
    | _, _ => none

lemma shiftAll_append (p : Position) (ts us : List Token) :
    shiftAll p (ts ++ us) = (shiftAll p ts).bind fun q => shiftAll q us := by
  induction ts generalizing p with
  | nil => rfl
  | cons t ts ih =>
    simp only [List.cons_append, shiftAll]
    cases shift p t with
    | none => rfl
    | some q => exact ih q

/-! ### The parser follows every derivation -/

lemma Operator.level_le (op : Operator) : op.level ≤ 5 := by
  cases op <;> decide

lemma Pending.level_le (q : Pending) : q.level ≤ 6 := by
  cases q with
  | not => exact Nat.le_refl 6
  | binary op left => exact Nat.le_succ_of_le op.level_le

lemma settle_append {l : Nat} {qs ps : List Pending} (hq : ∀ q ∈ qs, l ≤ q.level)
    (hp : ∀ p ∈ ps.head?, p.level < l) (e : Expr) :
    settle l (qs ++ ps) e = (ps, collapse qs e) := by
  induction qs generalizing e with
  | nil =>
    cases ps with
    | nil => rfl
    | cons p ps =>
      have hlt : p.level < l := hp p rfl
      rw [List.nil_append, settle, if_neg (by omega)]
      rfl
  | cons q qs ih =>
    rw [List.cons_append, settle, if_pos (hq q List.mem_cons_self)]
    exact ih (fun x hx => hq x (List.mem_cons_of_mem q hx)) (q.apply e)

/-- Nothing that waits is applied by an operator of level `l`. Negations wait for any operand that
has no operator outside of brackets. -/
def Frame.Loose (l : Nat) (f : Frame) : Prop := ∀ q ∈ f.pending.head?, q.level < l ∨ 6 ≤ l

/-- Wherever an operand of level `l` may stand, the parser reads the tokens as the expression, up to
operators of this level or tighter ones that still wait. -/
def Accepts (l : Nat) (ts : List Token) (e : Expr) : Prop :=
  ∀ f outer, f.slot = .missing → f.Loose l →
    ∃ qs x, shiftAll ⟨f, outer⟩ ts =
        some ⟨{ f with pending := qs ++ f.pending, slot := .ready x }, outer⟩ ∧
      (∀ q ∈ qs, l ≤ q.level) ∧ collapse qs x = e

/-- The parser reads the tokens as an operand. -/
def Fills (ts : List Token) (e : Expr) : Prop :=
  ∀ f outer, f.slot = .missing →
    shiftAll ⟨f, outer⟩ ts = some ⟨{ f with slot := .ready e }, outer⟩

section Acceptance

variable {l : Nat} {ts us : List Token} {e e' : Expr} {parts : List (List Token × Expr)}

lemma accepts_of_fills (h : Fills ts e) : Accepts l ts e := by
  intro f outer hslot _
  refine ⟨[], e, h f outer hslot, ?_, rfl⟩
  intro q hq
  cases hq

lemma fills_of_accepts (h : Accepts 7 ts e) : Fills ts e := by
  intro f outer hslot
  obtain ⟨qs, x, hrun, hlevel, hx⟩ := h f outer hslot fun q _ => Or.inr (by decide)
  have hnone : qs = [] := by
    apply List.eq_nil_iff_forall_not_mem.mpr
    intro q hq
    have hle := q.level_le
    have hge := hlevel q hq
    omega
  subst hnone
  rw [hrun, ← hx]
  rfl

lemma fills_word {w : String} (h : wordExpr? w = some e) : Fills [.word w] e := by
  intro f outer hslot
  simp [shiftAll, shift, hslot, h]

lemma wordExpr?_of_not_mem {w : String} (h : w ∉ reservedWords) :
    wordExpr? w = some (.name w) := by
  have htrue : w ≠ "true" := by
    rintro rfl
    exact h (by decide)
  have hfalse : w ≠ "false" := by
    rintro rfl
    exact h (by decide)
  rw [wordExpr?, if_neg htrue, if_neg hfalse, if_neg h]

lemma fills_number (n : Nat) : Fills [.number n] (.number n) := by
  intro f outer hslot
  simp [shiftAll, shift, hslot]

lemma fills_string (us : List UInt16) : Fills [.string us] (.string us) := by
  intro f outer hslot
  simp [shiftAll, shift, hslot]

lemma fills_regex (body : List Char) : Fills [.regex body] (.regex body) := by
  intro f outer hslot
  simp [shiftAll, shift, hslot]

lemma fills_member (w : String) (h : Fills ts e) :
    Fills (ts ++ [.dot, .word w]) (.member e w) := by
  intro f outer hslot
  rw [shiftAll_append, h f outer hslot]
  simp [shiftAll, shift]

lemma accepts_looser (h : Accepts (l + 1) ts e) : Accepts l ts e := by
  intro f outer hslot hloose
  have hloose' : f.Loose (l + 1) := by
    intro q hq
    rcases hloose q hq with hlt | hle
    · exact Or.inl (by omega)
    · exact Or.inr (by omega)
  obtain ⟨qs, x, hrun, hlevel, hx⟩ := h f outer hslot hloose'
  refine ⟨qs, x, hrun, ?_, hx⟩
  intro q hq
  have hge := hlevel q hq
  omega

lemma accepts_not (h : Accepts 6 ts e) : Accepts 6 (.not :: ts) (.not e) := by
  intro f outer hslot _
  obtain ⟨qs, x, hrun, hlevel, hx⟩ :=
    h { f with pending := .not :: f.pending } outer hslot fun q _ => Or.inr (Nat.le_refl 6)
  refine ⟨qs ++ [.not], x, ?_, ?_, ?_⟩
  · have hfirst : shift ⟨f, outer⟩ .not =
        some ⟨{ f with pending := .not :: f.pending }, outer⟩ := by
      simp [shift, hslot]
    rw [shiftAll, hfirst, Option.bind_some, hrun, List.append_assoc]
    rfl
  · intro q hq
    rcases List.mem_append.mp hq with hq | hq
    · exact hlevel q hq
    · rw [List.mem_singleton.mp hq]
      exact Nat.le_refl 6
  · rw [collapse, List.foldl_append]
    exact congrArg Expr.not hx

/-- The operators inside of the left operand bind tighter and are applied, those in front of it bind
less tight and go on waiting. -/
lemma accepts_binary (op : Operator) (h : Accepts op.level ts e)
    (h' : Accepts (op.level + 1) us e') :
    Accepts op.level (ts ++ .operator op :: us) (.binary op e e') := by
  intro f outer hslot hloose
  obtain ⟨qs, x, hrun, hlevel, hx⟩ := h f outer hslot hloose
  have hfront : ∀ q ∈ f.pending.head?, q.level < op.level := by
    intro q hq
    have hle := op.level_le
    rcases hloose q hq with hlt | hge
    · exact hlt
    · omega
  have hshift : shift ⟨{ f with pending := qs ++ f.pending, slot := .ready x }, outer⟩
      (.operator op) = some ⟨{ f with pending := .binary op e :: f.pending }, outer⟩ := by
    simp [shift, settle_append hlevel hfront, hx, hslot]
  obtain ⟨qs', x', hrun', hlevel', hx'⟩ :=
    h' { f with pending := .binary op e :: f.pending } outer hslot (by
      intro q hq
      cases hq
      exact Or.inl (Nat.lt_succ_self _))
  refine ⟨qs' ++ [.binary op e], x', ?_, ?_, ?_⟩
  · rw [shiftAll_append, hrun, Option.bind_some, shiftAll, hshift, Option.bind_some, hrun',
      List.append_assoc]
    rfl
  · intro q hq
    rcases List.mem_append.mp hq with hq | hq
    · have hge := hlevel' q hq
      omega
    · rw [List.mem_singleton.mp hq]
      exact Nat.le_refl _
  · rw [collapse, List.foldl_append]
    exact congrArg (Expr.binary op e) hx'

lemma closed?_of_accepts {f : Frame} (outer : List Frame) (h : Accepts 0 ts e)
    (hslot : f.slot = .missing) (hpending : f.pending = []) :
    ∃ f', shiftAll ⟨f, outer⟩ ts = some ⟨f', outer⟩ ∧ f'.opening = f.opening ∧
      f'.closed? = some (f.items ++ [e]) ∧
      (f.opening.takesItems = true → shift ⟨f', outer⟩ .comma =
        some ⟨{ opening := f.opening, items := f.items ++ [e] }, outer⟩) := by
  have hloose : f.Loose 0 := by
    intro q hq
    rw [hpending] at hq
    cases hq
  obtain ⟨qs, x, hrun, -, hx⟩ := h f outer hslot hloose
  rw [hpending, List.append_nil] at hrun
  refine ⟨_, hrun, rfl, ?_, ?_⟩
  · simp [Frame.closed?, hx]
  · intro htakes
    simp [shift, htakes, hx]

/-- A list of items between brackets, behind those that have been read. -/
lemma closed?_of_separated (outer : List Frame) (h : ∀ p ∈ parts, Accepts 0 p.1 p.2)
    (opening : Opening) (htakes : opening.takesItems = true) (items : List Expr)
    (hitems : parts = [] → items = []) :
    ∃ f', shiftAll ⟨{ opening := opening, items := items }, outer⟩ (separated parts) =
        some ⟨f', outer⟩ ∧
      f'.opening = opening ∧ f'.closed? = some (items ++ parts.map Prod.snd) := by
  induction parts generalizing items with
  | nil =>
    rw [hitems rfl]
    exact ⟨_, rfl, rfl, rfl⟩
  | cons p parts ih =>
    obtain ⟨f', hrun, hopening, hclosed, hcomma⟩ :=
      closed?_of_accepts (f := { opening := opening, items := items }) outer
        (h p List.mem_cons_self) rfl rfl
    cases parts with
    | nil =>
      refine ⟨f', ?_, hopening, hclosed⟩
      rw [separated, List.map_singleton, List.intercalate_singleton]
      exact hrun
    | cons q parts =>
      obtain ⟨f'', hrun', hopening', hclosed'⟩ :=
        ih (fun x hx => h x (List.mem_cons_of_mem p hx)) (items ++ [p.2]) (by simp)
      refine ⟨f'', ?_, hopening', ?_⟩
      · have hsplit : separated (p :: q :: parts) = p.1 ++ .comma :: separated (q :: parts) := by
          simp [separated, List.intercalate_cons_cons]
        rw [hsplit, shiftAll_append, hrun, Option.bind_some, shiftAll, hcomma htakes,
          Option.bind_some]
        exact hrun'
      · rw [hclosed', List.append_assoc]
        rfl

/-- A bracket is opened, filled and closed. -/
lemma shiftAll_bracket {p q r s : Position} {opening closing : Token}
    (hopen : shift p opening = some q) (hrun : shiftAll q ts = some r)
    (hclose : shift r closing = some s) : shiftAll p (opening :: ts ++ [closing]) = some s := by
  rw [List.cons_append, shiftAll, hopen, Option.bind_some, shiftAll_append, hrun, Option.bind_some,
    shiftAll, hclose]
  rfl

lemma fills_group (h : Accepts 0 ts e) : Fills (.openParen :: ts ++ [.closeParen]) e := by
  intro f outer hslot
  obtain ⟨f', hrun, hopening, hclosed, -⟩ :=
    closed?_of_accepts (f := { opening := .group }) (f :: outer) h rfl rfl
  have hopen : shift ⟨f, outer⟩ .openParen = some ⟨{ opening := .group }, f :: outer⟩ := by
    simp [shift, hslot]
  have hclose : shift ⟨f', f :: outer⟩ .closeParen = some ⟨{ f with slot := .ready e }, outer⟩ := by
    simp [shift, hopening, hclosed, leave?, Frame.fill?, hslot]
  exact shiftAll_bracket hopen hrun hclose

lemma fills_array (h : ∀ p ∈ parts, Accepts 0 p.1 p.2) :
    Fills (.openBracket :: separated parts ++ [.closeBracket]) (.array (parts.map Prod.snd)) := by
  intro f outer hslot
  obtain ⟨f', hrun, hopening, hclosed⟩ :=
    closed?_of_separated (f :: outer) h .array rfl [] (fun _ => rfl)
  have hopen : shift ⟨f, outer⟩ .openBracket = some ⟨{ opening := .array }, f :: outer⟩ := by
    simp [shift, hslot]
  have hclose : shift ⟨f', f :: outer⟩ .closeBracket =
      some ⟨{ f with slot := .ready (.array (parts.map Prod.snd)) }, outer⟩ := by
    simp [shift, hopening, hclosed, leave?, Frame.fill?, hslot]
  exact shiftAll_bracket hopen hrun hclose

lemma fills_call (h : Fills ts e) (hargs : ∀ p ∈ parts, Accepts 0 p.1 p.2) :
    Fills (ts ++ .openParen :: separated parts ++ [.closeParen])
      (.call e (parts.map Prod.snd)) := by
  intro f outer hslot
  obtain ⟨f', hrun, hopening, hclosed⟩ :=
    closed?_of_separated (f :: outer) hargs (.call e) rfl [] (fun _ => rfl)
  have hopen : shift ⟨{ f with slot := .ready e }, outer⟩ .openParen =
      some ⟨{ opening := .call e }, f :: outer⟩ := by
    simp [shift, ← hslot]
  have hclose : shift ⟨f', f :: outer⟩ .closeParen =
      some ⟨{ f with slot := .ready (.call e (parts.map Prod.snd)) }, outer⟩ := by
    simp [shift, hopening, hclosed, leave?, Frame.fill?, hslot]
  rw [List.append_assoc, shiftAll_append, h f outer hslot, Option.bind_some]
  exact shiftAll_bracket hopen hrun hclose

end Acceptance

theorem accepts_of_derives {l : Nat} {ts : List Token} {e : Expr} (h : Derives l ts e) :
    Accepts l ts e := by
  induction h with
  | name h => exact accepts_of_fills (fills_word (wordExpr?_of_not_mem h))
  | true => exact accepts_of_fills (fills_word rfl)
  | false => exact accepts_of_fills (fills_word rfl)
  | number n => exact accepts_of_fills (fills_number n)
  | string us => exact accepts_of_fills (fills_string us)
  | regex body => exact accepts_of_fills (fills_regex body)
  | group _ ih => exact accepts_of_fills (fills_group ih)
  | array _ ih => exact accepts_of_fills (fills_array ih)
  | member w _ ih => exact accepts_of_fills (fills_member w (fills_of_accepts ih))
  | call _ _ ih ihargs => exact accepts_of_fills (fills_call (fills_of_accepts ih) ihargs)
  | not _ ih => exact accepts_not ih
  | binary op _ _ ih ih' => exact accepts_binary op ih ih'
  | looser _ ih => exact accepts_looser ih

theorem parse?_of_derives {ts : List Token} {e : Expr} (h : Derives 0 ts e) :
    parse? ts = some e := by
  obtain ⟨f', hrun, -, hclosed, -⟩ :=
    closed?_of_accepts (f := { opening := .start }) [] (accepts_of_derives h) rfl rfl
  simp [parse?, hrun, hclosed]

/-- No text is two expressions. -/
theorem Parses.unique {text : String} {e e' : Expr} (h : Parses text e) (h' : Parses text e') :
    e' = e := by
  obtain ⟨ts, hts, hd⟩ := h
  obtain ⟨ts', hts', hd'⟩ := h'
  rw [hts] at hts'
  cases hts'
  have heq := parse?_of_derives hd
  rw [parse?_of_derives hd'] at heq
  exact Option.some.inj heq

example : (tokens? "!a.b(c) === 1 || x >= 2 && [y]").bind parse? =
    some (.binary .or
      (.binary .strictEq (.not (.call (.member (.name "a") "b") [.name "c"])) (.number 1))
      (.binary .and (.binary .atLeast (.name "x") (.number 2)) (.array [.name "y"]))) := rfl

/-! ### Texts -/

/-- A text is an expression of level `l`, also in front of a separator. -/
def Spells (l : Nat) (text : String) (e : Expr) : Prop := ∃ ts, Reads text ts ∧ Derives l ts e

section Texts

variable {k l : Nat} {a b : String} {e e' : Expr}

lemma Spells.parses (h : Spells l a e) : Parses a e := by
  obtain ⟨ts, hreads, hd⟩ := h
  exact ⟨ts, hreads.tokens?_eq, hd.of_le (Nat.zero_le l)⟩

lemma Spells.of_le (h : Spells l a e) (hk : k ≤ l) : Spells k a e := by
  obtain ⟨ts, hreads, hd⟩ := h
  exact ⟨ts, hreads, hd.of_le hk⟩

lemma spells_word {w : String} (h : Scans .nothing w [] (.word w.toList))
    (hd : Derives 7 [.word w] e) : Spells 7 w e := by
  refine ⟨[.word w], ⟨_, _, _, h, ends_word _, ?_⟩, hd⟩
  rw [String.ofList_toList]
  rfl

lemma spells_number (n : Nat) : Spells 7 n.repr (.number n) := ⟨_, reads_natRepr n, .number n⟩

lemma spells_string (s : String) : Spells 7 (Text.quote s) (.string (units s.toList)) :=
  ⟨_, reads_quote s, .string _⟩

/-- An operator between blanks. -/
def Operator.text : Operator → String
  | or => " || "
  | and => " && "
  | strictEq => " === "
  | strictNe => " !== "
  | atLeast => " >= "
  | atMost => " <= "
  | greater => " > "
  | plus => " + "
  | times => " * "

lemma scans_operator (op : Operator) : Scans .nothing op.text [.operator op] .nothing := by
  cases op <;> decide

lemma operator_toList (op : Operator) : ∃ cs, op.text.toList = ' ' :: cs := by
  cases op <;> exact ⟨_, rfl⟩

lemma spells_binary (op : Operator) (h : Spells op.level a e) (h' : Spells (op.level + 1) b e') :
    Spells op.level (a ++ op.text ++ b) (.binary op e e') := by
  obtain ⟨ts, hreads, hd⟩ := h
  obtain ⟨us, hreads', hd'⟩ := h'
  obtain ⟨cs, hcs⟩ := operator_toList op
  have hleft := hreads.scans_append (scans_operator op) hcs rfl
  refine ⟨_, hleft.reads_append hreads', ?_⟩
  rw [List.append_assoc]
  exact .binary op hd hd'

/-- A chain of operands groups from the left. -/
lemma spells_foldl {α : Type} (op : Operator) {text : α → String} {expr : α → Expr} {xs : List α}
    (h : Spells op.level a e) (hxs : ∀ x ∈ xs, Spells (op.level + 1) (text x) (expr x)) :
    Spells op.level (xs.foldl (fun t x => t ++ op.text ++ text x) a)
      (xs.foldl (fun e x => .binary op e (expr x)) e) := by
  induction xs generalizing a e with
  | nil => exact h
  | cons x xs ih =>
    have hx := spells_binary op h (hxs x List.mem_cons_self)
    exact ih hx fun y hy => hxs y (List.mem_cons_of_mem x hy)

lemma spells_group (h : Spells l a e) : Spells 7 ("(" ++ a ++ ")") e := by
  obtain ⟨ts, hreads, hd⟩ := h
  have hopen : Scans .nothing "(" [.openParen] .nothing := by decide
  have hclose : Scans .nothing ")" [.closeParen] .nothing := by decide
  have hall := (hopen.reads_append hreads).scans_append hclose rfl rfl
  exact ⟨_, hall.reads, .group (hd.of_le (Nat.zero_le l))⟩

lemma spells_not (h : Spells l a e) : Spells 6 ("!(" ++ a ++ ")") (.not e) := by
  obtain ⟨ts, hreads, hd⟩ := h
  have hopen : Scans .nothing "!(" [.not, .openParen] .nothing := by decide
  have hclose : Scans .nothing ")" [.closeParen] .nothing := by decide
  have hall := (hopen.reads_append hreads).scans_append hclose rfl rfl
  exact ⟨_, hall.reads, .not (.looser (.group (hd.of_le (Nat.zero_le l))))⟩

/-- Texts with commas between them. -/
lemma exists_separated {α : Type} {text : α → String} {expr : α → Expr} {xs : List α}
    (h : ∀ x ∈ xs, Spells 0 (text x) (expr x)) :
    ∃ parts : List (List Token × Expr), parts.map Prod.snd = xs.map expr ∧
      (∀ p ∈ parts, Derives 0 p.1 p.2) ∧
      Reads (", ".intercalate (xs.map text)) (separated parts) := by
  have hcomma : Scans .nothing ", " [.comma] .nothing := by decide
  choose! tokens hreads hd using h
  refine ⟨xs.map fun x => (tokens x, expr x), ?_, ?_, ?_⟩
  · rw [List.map_map]
    rfl
  · intro p hp
    obtain ⟨x, hx, rfl⟩ := List.mem_map.mp hp
    exact hd x hx
  · have hparts : ∀ p ∈ xs.map fun x => (text x, tokens x), Reads p.1 p.2 := by
      intro p hp
      obtain ⟨x, hx, rfl⟩ := List.mem_map.mp hp
      exact hreads x hx
    have hall := reads_intercalate hcomma rfl rfl hparts
    simpa only [separated, List.map_map, Function.comp_def] using hall

end Texts

end SchemaForge.JavaScript
