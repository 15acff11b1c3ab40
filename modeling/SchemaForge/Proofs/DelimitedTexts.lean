import SchemaForge.Proofs.JavaScriptLexing
import SchemaForge.Proofs.JavaScriptTokens

/-!
# Delimited texts

A text that is followed by a separator can be told from what follows it if it is chained, since
outside of its brackets it has no separator, or if it is a quoted literal, which ends at its own
quote. Lists of such texts with separators between them are read back uniquely.
-/

namespace SchemaForge.JavaScript

/-- What follows an expression: nothing, or a character that cannot continue it. -/
def Stops (rest : List Char) : Prop :=
  ∀ c ∈ rest.head?, isMemberChar c = false ∧ closing? c = none

lemma stops_cons {c : Char} (h : isMemberChar c = false ∧ closing? c = none) (rest : List Char) :
    Stops (c :: rest) := by
  intro d hd
  cases hd
  exact h

/-- Members of a class are read back from what is written for them, together with the rest. -/
def Delimits {α : Type} (member : α → Prop) (write : α → List Char) : Prop :=
  ∀ ⦃a b : α⦄ ⦃x y : List Char⦄, member a → member b → Stops x → Stops y →
    write a ++ x = write b ++ y → a = b ∧ x = y

/-- A chained text goes on with nothing that stops an expression. -/
lemma eq_nil_of_chained_append {a c y : List Char} (ha : run false {} a = some {})
    (hac : run false {} (a ++ c) = some {}) (hstop : Stops (c ++ y)) : c = [] := by
  cases c with
  | nil => rfl
  | cons d ds =>
    obtain ⟨s, hs, hnext⟩ := outside_of_run hac
    rw [ha] at hs
    cases hs
    obtain ⟨-, hd⟩ := hnext rfl
    obtain ⟨hmember, hclosing⟩ := hstop d rfl
    simp [hmember, hclosing] at hd

theorem delimits_chained : Delimits Chained String.toList := by
  intro a b x y ha hb hx hy heq
  unfold Chained Lexes at ha hb
  rcases List.append_eq_append_iff.mp heq with ⟨c, hbc, hxc⟩ | ⟨c, hac, hyc⟩
  · have hc : c = [] := eq_nil_of_chained_append ha (hbc ▸ hb) (hxc ▸ hx)
    subst hc
    exact ⟨String.toList_inj.mp (by simpa using hbc.symm), hxc⟩
  · have hc : c = [] := eq_nil_of_chained_append hb (hac ▸ ha) (hyc ▸ hy)
    subst hc
    exact ⟨String.toList_inj.mp (by simpa using hac), hyc.symm⟩

/-! ### Quoted literals -/

/-- One quoted literal is not the beginning of another one. -/
lemma eq_of_quote_append {s t : String} {c : List Char}
    (h : (Text.quote t).toList = (Text.quote s).toList ++ c) : s = t := by
  have hs := scans_quote s
  have ht := scans_quote t
  unfold Scans at hs ht
  rw [h, scanAll_append, hs, Option.bind_some] at ht
  obtain ⟨⟨ts, r⟩, -, heq⟩ := Option.map_eq_some_iff.mp ht
  simp only [List.cons_append, List.nil_append, Prod.mk.injEq, List.cons.injEq,
    Token.string.injEq] at heq
  exact String.toList_inj.mp ((units_inj _ _).mp heq.1.1)

theorem quote_append_inj {s t : String} {x y : List Char}
    (h : (Text.quote s).toList ++ x = (Text.quote t).toList ++ y) : s = t ∧ x = y := by
  have hst : s = t := by
    rcases List.append_eq_append_iff.mp h with ⟨c, hc, -⟩ | ⟨c, hc, -⟩
    · exact eq_of_quote_append hc
    · exact (eq_of_quote_append hc).symm
  subst hst
  exact ⟨rfl, List.append_cancel_left h⟩

/-! ### Lists -/

section Lists

variable {α : Type} {member : α → Prop} {write : α → List Char} {sep fin : Char}
  {sepRest x y : List Char} {as bs : List α}

/-- Members that are each written behind a separator. -/
def writeRest (sep : List Char) (write : α → List Char) (as : List α) : List Char :=
  as.flatMap fun a => sep ++ write a

lemma intercalate_cons (sep : List Char) (write : α → List Char) (a : α) (as : List α) :
    sep.intercalate ((a :: as).map write) = write a ++ writeRest sep write as := by
  unfold writeRest
  induction as generalizing a with
  | nil => simp
  | cons b as ih =>
    rw [List.map_cons, List.map_cons, List.intercalate_cons_cons, ← List.map_cons, ih,
      List.flatMap_cons]
    simp only [List.append_assoc]

lemma stops_writeRest (hsep : isMemberChar sep = false ∧ closing? sep = none)
    (hfin : isMemberChar fin = false ∧ closing? fin = none) :
    Stops (writeRest (sep :: sepRest) write as ++ fin :: x) := by
  cases as with
  | nil => exact stops_cons hfin x
  | cons a as =>
    rw [writeRest, List.flatMap_cons]
    exact stops_cons hsep _

/-- The separator and the end mark begin with different characters, which tell at every member
whether another one follows. -/
lemma Delimits.writeRest_inj (h : Delimits member write)
    (hsep : isMemberChar sep = false ∧ closing? sep = none)
    (hfin : isMemberChar fin = false ∧ closing? fin = none) (hne : sep ≠ fin)
    (has : ∀ a ∈ as, member a) (hbs : ∀ b ∈ bs, member b)
    (heq : writeRest (sep :: sepRest) write as ++ fin :: x =
      writeRest (sep :: sepRest) write bs ++ fin :: y) :
    as = bs ∧ x = y := by
  induction as generalizing bs with
  | nil =>
    cases bs with
    | nil => exact ⟨rfl, List.cons.inj heq |>.2⟩
    | cons b bs => exact absurd (List.cons.inj heq).1.symm hne
  | cons a as ih =>
    cases bs with
    | nil => exact absurd (List.cons.inj heq).1 hne
    | cons b bs =>
      have hcons : ∀ (z : α) (zs : List α) (rest : List Char),
          writeRest (sep :: sepRest) write (z :: zs) ++ rest =
            (sep :: sepRest) ++ (write z ++ (writeRest (sep :: sepRest) write zs ++ rest)) := by
        intro z zs rest
        simp [writeRest]
      rw [hcons, hcons] at heq
      obtain ⟨rfl, htail⟩ := h (has a List.mem_cons_self) (hbs b List.mem_cons_self)
        (stops_writeRest hsep hfin) (stops_writeRest hsep hfin) (List.append_cancel_left heq)
      obtain ⟨rfl, hxy⟩ := ih (fun z hz => has z (List.mem_cons_of_mem a hz))
        (fun z hz => hbs z (List.mem_cons_of_mem a hz)) htail
      exact ⟨rfl, hxy⟩

/-- Members with a separator between them and an end mark behind them, which no member begins
with. -/
theorem Delimits.intercalate_inj (h : Delimits member write)
    (hsep : isMemberChar sep = false ∧ closing? sep = none)
    (hfin : isMemberChar fin = false ∧ closing? fin = none) (hne : sep ≠ fin)
    (hstart : ∀ a, member a → ∃ c cs, write a = c :: cs ∧ c ≠ fin)
    (has : ∀ a ∈ as, member a) (hbs : ∀ b ∈ bs, member b)
    (heq : (sep :: sepRest).intercalate (as.map write) ++ fin :: x =
      (sep :: sepRest).intercalate (bs.map write) ++ fin :: y) :
    as = bs ∧ x = y := by
  have hfirst : ∀ {a : α} {rest z : List Char}, member a → write a ++ rest ≠ fin :: z := by
    intro a rest z ha hz
    obtain ⟨c, cs, hc, hcne⟩ := hstart a ha
    rw [hc] at hz
    exact hcne (List.cons.inj hz).1
  cases as with
  | nil =>
    cases bs with
    | nil => exact ⟨rfl, List.cons.inj heq |>.2⟩
    | cons b bs =>
      rw [intercalate_cons, List.append_assoc] at heq
      exact absurd heq.symm (hfirst (hbs b List.mem_cons_self))
  | cons a as =>
    rw [intercalate_cons, List.append_assoc] at heq
    cases bs with
    | nil => exact absurd heq (hfirst (has a List.mem_cons_self))
    | cons b bs =>
      rw [intercalate_cons, List.append_assoc] at heq
      obtain ⟨rfl, hrest⟩ := h (has a List.mem_cons_self) (hbs b List.mem_cons_self)
        (stops_writeRest hsep hfin) (stops_writeRest hsep hfin) heq
      obtain ⟨rfl, hxy⟩ := h.writeRest_inj hsep hfin hne
        (fun z hz => has z (List.mem_cons_of_mem a hz))
        (fun z hz => hbs z (List.mem_cons_of_mem a hz)) hrest
      exact ⟨rfl, hxy⟩

end Lists

end SchemaForge.JavaScript
