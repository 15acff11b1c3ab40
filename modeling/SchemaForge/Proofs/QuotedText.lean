import SchemaForge.Json.Reader
import SchemaForge.Proofs.JavaScriptTokens

/-!
# Quoted texts

The grammar of JSON strings: a character stands for itself, has a short escape, or is spelled by its
UTF-16 code units in hexadecimal digits. No spelling is the beginning of another one, so a literal can be
read in one way only and its end does not depend on what follows. Main statement: the quoted form of a
text is one literal, and it is read as that text.
-/

namespace SchemaForge

namespace Json

open JavaScript

/-! ### The grammar -/

/-- The letters of the short escapes and the characters that they stand for. -/
def shortEscapes : List (Char × Char) :=
  [('"', '"'), ('\\', '\\'), ('/', '/'), ('b', '\x08'), ('f', '\x0c'), ('n', '\n'), ('r', '\r'),
    ('t', '\t')]

/-- Four hexadecimal digits of a number. -/
def IsHex (ds : List Char) (n : Nat) : Prop :=
  ds.length = 4 ∧ ds.foldlM (fun n d => (Text.hexValue? d).map (n * 16 + ·)) 0 = some n

/-- Code units, each in hexadecimal digits. -/
inductive SpellsUnits : List Char → List UInt16 → Prop where
  | nil : SpellsUnits [] []
  | cons {ds x : List Char} {u : UInt16} {us : List UInt16} (h : IsHex ds u.toNat)
      (hs : SpellsUnits x us) : SpellsUnits ('\\' :: 'u' :: (ds ++ x)) (u :: us)

/-- The spellings of a character. -/
inductive SpellsChar : List Char → Char → Prop where
  | bare {c : Char} (hquote : c ≠ '"') (hbackslash : c ≠ '\\') (hcontrol : 0x20 ≤ c.toNat) :
      SpellsChar [c] c
  | short {e c : Char} (h : shortEscapes.lookup e = some c) : SpellsChar ['\\', e] c
  | units {x : List Char} {c : Char} (h : SpellsUnits x (unitsOf c)) : SpellsChar x c

/-- The spellings of a text. -/
inductive SpellsText : List Char → List Char → Prop where
  | nil : SpellsText [] []
  | cons {x xs : List Char} {c : Char} {cs : List Char} (h : SpellsChar x c)
      (hs : SpellsText xs cs) : SpellsText (x ++ xs) (c :: cs)

/-- A string literal of a text: its spelling between two quotes. -/
def IsLiteral (l : List Char) (s : String) : Prop :=
  ∃ x, l = '"' :: (x ++ ['"']) ∧ SpellsText x s.toList

/-! ### Unambiguity -/

lemma SpellsUnits.length_eq {x : List Char} {us : List UInt16} (h : SpellsUnits x us) :
    x.length = 6 * us.length := by
  induction h with
  | nil => rfl
  | cons hd _ ih =>
    have hlength := hd.1
    simp only [List.length_cons, List.length_append]
    omega

/-- Of two sequences of code units that are spelled in one text, one begins like the other. -/
lemma SpellsUnits.prefix_total {x y a b : List Char} {us vs : List UInt16}
    (hx : SpellsUnits x us) (hy : SpellsUnits y vs) (h : x ++ a = y ++ b) :
    us <+: vs ∨ vs <+: us := by
  induction hx generalizing y vs with
  | nil => exact Or.inl List.nil_prefix
  | @cons ds x u us hds _ ih =>
    cases hy with
    | nil => exact Or.inr List.nil_prefix
    | @cons es y v vs hes hy =>
      simp only [List.cons_append, List.append_assoc, List.cons.injEq, true_and] at h
      obtain ⟨rfl, hrest⟩ := List.append_inj h (hds.1.trans hes.1.symm)
      have huv : u = v := UInt16.toNat_inj.mp (Option.some.inj (hds.2.symm.trans hes.2))
      rw [huv, List.cons_prefix_cons, List.cons_prefix_cons]
      exact (ih hy hrest).imp (And.intro rfl) (And.intro rfl)

lemma eq_of_prefix_unitsOf {c d : Char} (h : unitsOf c <+: unitsOf d) : c = d := by
  rw [← List.append_nil (unitsOf c), ← List.append_nil (unitsOf d)] at h
  obtain ⟨hcd, -⟩ := unitsOf_append_prefix h
  exact hcd

lemma SpellsUnits.exists_cons {x : List Char} {c : Char} (h : SpellsUnits x (unitsOf c)) :
    ∃ y, x = '\\' :: 'u' :: y := by
  generalize hus : unitsOf c = us at h
  cases h with
  | nil => exact absurd hus (unitsOf_ne_nil c)
  | cons _ _ => exact ⟨_, rfl⟩

/-- A spelling begins with no quote. -/
lemma SpellsChar.ne_quote {x a b : List Char} {c : Char} (h : SpellsChar x c) :
    x ++ a ≠ '"' :: b := by
  intro heq
  cases h with
  | bare hquote _ _ => exact hquote (List.cons.inj heq).1
  | short _ => exact absurd (List.cons.inj heq).1 (by decide)
  | units h =>
    obtain ⟨y, rfl⟩ := h.exists_cons
    exact absurd (List.cons.inj heq).1 (by decide)

lemma ne_u_of_short {e c : Char} (h : shortEscapes.lookup e = some c) : e ≠ 'u' := by
  rintro rfl
  have hnone : shortEscapes.lookup 'u' = none := by decide
  rw [hnone] at h
  cases h

/-- No spelling of a character is the beginning of another one. -/
lemma SpellsChar.append_inj {x y a b : List Char} {c d : Char} (hx : SpellsChar x c)
    (hy : SpellsChar y d) (h : x ++ a = y ++ b) : x = y ∧ c = d ∧ a = b := by
  cases hx with
  | bare _ hbackslash _ =>
    cases hy with
    | bare _ _ _ =>
      obtain ⟨rfl, rfl⟩ := List.cons.inj h
      exact ⟨rfl, rfl, rfl⟩
    | short _ => exact absurd (List.cons.inj h).1 hbackslash
    | units hy =>
      obtain ⟨z, rfl⟩ := hy.exists_cons
      exact absurd (List.cons.inj h).1 hbackslash
  | short hc =>
    cases hy with
    | bare _ hbackslash _ => exact absurd (List.cons.inj h).1.symm hbackslash
    | short hd =>
      simp only [List.cons_append, List.nil_append, List.cons.injEq, true_and] at h
      obtain ⟨rfl, rfl⟩ := h
      exact ⟨rfl, Option.some.inj (hc.symm.trans hd), rfl⟩
    | units hy =>
      obtain ⟨z, rfl⟩ := hy.exists_cons
      simp only [List.cons_append, List.cons.injEq, true_and] at h
      exact absurd h.1 (ne_u_of_short hc)
  | units hx =>
    cases hy with
    | bare _ hbackslash _ =>
      obtain ⟨z, rfl⟩ := hx.exists_cons
      exact absurd (List.cons.inj h).1.symm hbackslash
    | short hd =>
      obtain ⟨z, rfl⟩ := hx.exists_cons
      simp only [List.cons_append, List.cons.injEq, true_and] at h
      exact absurd h.1.symm (ne_u_of_short hd)
    | units hy =>
      have hcd : c = d := by
        rcases hx.prefix_total hy h with hprefix | hprefix
        · exact eq_of_prefix_unitsOf hprefix
        · exact (eq_of_prefix_unitsOf hprefix).symm
      subst hcd
      obtain ⟨hxy, hab⟩ := List.append_inj h (hx.length_eq.trans hy.length_eq.symm)
      exact ⟨hxy, rfl, hab⟩

/-- A spelling ends at its quote, and nowhere else. -/
lemma SpellsText.append_inj {x y a b cs ds : List Char} (hx : SpellsText x cs)
    (hy : SpellsText y ds) (h : x ++ '"' :: a = y ++ '"' :: b) : x = y ∧ cs = ds ∧ a = b := by
  induction hx generalizing y ds with
  | nil =>
    cases hy with
    | nil => exact ⟨rfl, rfl, (List.cons.inj h).2⟩
    | cons hd _ =>
      rw [List.append_assoc] at h
      exact absurd h.symm hd.ne_quote
  | @cons x xs c cs hc _ ih =>
    cases hy with
    | nil =>
      rw [List.append_assoc] at h
      exact absurd h hc.ne_quote
    | @cons y ys d ds hd hy =>
      rw [List.append_assoc, List.append_assoc] at h
      obtain ⟨rfl, rfl, hrest⟩ := hc.append_inj hd h
      obtain ⟨rfl, rfl, hab⟩ := ih hy hrest
      exact ⟨rfl, rfl, hab⟩

theorem IsLiteral.append_inj {l m a b : List Char} {s t : String} (hl : IsLiteral l s)
    (hm : IsLiteral m t) (h : l ++ a = m ++ b) : l = m ∧ s = t ∧ a = b := by
  obtain ⟨x, rfl, hx⟩ := hl
  obtain ⟨y, rfl, hy⟩ := hm
  simp only [List.cons_append, List.append_assoc, List.nil_append, List.cons.injEq, true_and] at h
  obtain ⟨rfl, hst, hab⟩ := hx.append_inj hy h
  exact ⟨rfl, String.toList_inj.mp hst, hab⟩

/-! ### The quoted form -/

lemma isHex_hexDigits {n : Nat} (hn : n < 256) :
    IsHex ['0', '0', Text.hexDigit (n / 16), Text.hexDigit (n % 16)] n := by
  have hzero : Text.hexValue? '0' = some 0 := rfl
  have hvalue : n / 16 * 16 + n % 16 = n := by omega
  refine ⟨rfl, ?_⟩
  simp [hzero, Text.hexValue?_hexDigit (show n / 16 < 16 by omega),
    Text.hexValue?_hexDigit (show n % 16 < 16 by omega), hvalue]

lemma spellsChar_escapeChar (c : Char) : SpellsChar (Text.escapeChar c) c := by
  unfold Text.escapeChar
  split_ifs with hquote hbackslash hnewline hreturn htab hback hfeed hcontrol
  · exact .short (by rw [hquote]; rfl)
  · exact .short (by rw [hbackslash]; rfl)
  · exact .short (by rw [hnewline]; rfl)
  · exact .short (by rw [hreturn]; rfl)
  · exact .short (by rw [htab]; rfl)
  · exact .short (by rw [hback]; rfl)
  · exact .short (by rw [hfeed]; rfl)
  · have hunits : unitsOf c = [UInt16.ofNat c.toNat] := by
      rw [unitsOf, if_pos (by omega)]
    have hnat : (UInt16.ofNat c.toNat).toNat = c.toNat := by
      rw [UInt16.toNat_ofNat']
      omega
    have hhex := isHex_hexDigits (n := c.toNat) (by omega)
    refine .units ?_
    rw [hunits]
    exact .cons (by rwa [hnat]) .nil
  · exact .bare hquote hbackslash (by omega)

lemma spellsText_escaped (cs : List Char) : SpellsText (cs.flatMap Text.escapeChar) cs := by
  induction cs with
  | nil => exact .nil
  | cons c cs ih =>
    rw [List.flatMap_cons]
    exact .cons (spellsChar_escapeChar c) ih

theorem isLiteral_quote (s : String) : IsLiteral (Text.quote s).toList s :=
  ⟨s.toList.flatMap Text.escapeChar, by rw [Text.quote, String.toList_ofList]; rfl,
    spellsText_escaped s.toList⟩

/-! ### The reader -/

namespace Reader

variable (limit : Option Nat) (stack : List Context) (keyOf : Option (List (String × Json)))

lemma step_hexDigit (read : List Char) (place : Place) {due value n : Nat} (hdue : 1 < due)
    (hn : n < 16) :
    State.step limit ⟨stack, .inString keyOf read (.hex due value false none), place⟩
        (Text.hexDigit n) =
      ⟨stack, .inString keyOf read (.hex (due - 1) (value * 16 + n) false none),
        place.after (Text.hexDigit n)⟩ := by
  simp [State.step, State.stepString, Text.hexValue?_hexDigit hn, hdue]

lemma step_lastHexDigit (read : List Char) (place : Place) {value n : Nat} {c : Char} (hn : n < 16)
    (hc : value * 16 + n = c.toNat) :
    State.step limit ⟨stack, .inString keyOf read (.hex 1 value false none), place⟩
        (Text.hexDigit n) =
      ⟨stack, .inString keyOf (c :: read) .none, place.after (Text.hexDigit n)⟩ := by
  have hbounds := toNat_bounds c
  have hlow : ¬(0xdc00 ≤ c.toNat ∧ c.toNat ≤ 0xdfff) := by omega
  have hhigh : ¬(0xd800 ≤ c.toNat ∧ c.toNat ≤ 0xdbff) := by omega
  simp [State.step, State.stepString, Text.hexValue?_hexDigit hn, hc, hlow, hhigh]

/-- The spelling of a character adds it to the text that is being read. -/
lemma foldl_escapeChar (read : List Char) (place : Place) (c : Char) :
    ∃ place', (Text.escapeChar c).foldl (State.step limit)
        ⟨stack, .inString keyOf read .none, place⟩ =
      ⟨stack, .inString keyOf (c :: read) .none, place'⟩ := by
  unfold Text.escapeChar
  split_ifs with hquote hbackslash hnewline hreturn htab hback hfeed hcontrol
  · exact ⟨_, by rw [hquote]; rfl⟩
  · exact ⟨_, by rw [hbackslash]; rfl⟩
  · exact ⟨_, by rw [hnewline]; rfl⟩
  · exact ⟨_, by rw [hreturn]; rfl⟩
  · exact ⟨_, by rw [htab]; rfl⟩
  · exact ⟨_, by rw [hback]; rfl⟩
  · exact ⟨_, by rw [hfeed]; rfl⟩
  · have hzeros : ∃ place', ['\\', 'u', '0', '0'].foldl (State.step limit)
        ⟨stack, .inString keyOf read .none, place⟩ =
        ⟨stack, .inString keyOf read (.hex 2 0 false none), place'⟩ := ⟨_, rfl⟩
    obtain ⟨place', hzeros⟩ := hzeros
    have hvalue : (0 * 16 + c.toNat / 16) * 16 + c.toNat % 16 = c.toNat := by omega
    refine ⟨(place'.after (Text.hexDigit (c.toNat / 16))).after (Text.hexDigit (c.toNat % 16)), ?_⟩
    have hsplit : ∀ d e, ['\\', 'u', '0', '0', d, e] = ['\\', 'u', '0', '0'] ++ [d, e] :=
      fun _ _ => rfl
    rw [hsplit, List.foldl_append, hzeros, List.foldl_cons,
      step_hexDigit _ _ _ read place' (by decide) (by omega), List.foldl_cons,
      step_lastHexDigit _ _ _ read _ (by omega) hvalue, List.foldl_nil]
  · exact ⟨place.after c, by
      simp [State.step, State.stepString, hquote, hbackslash, hcontrol]⟩

lemma foldl_escaped (read : List Char) (place : Place) (cs : List Char) :
    ∃ place', (cs.flatMap Text.escapeChar).foldl (State.step limit)
        ⟨stack, .inString keyOf read .none, place⟩ =
      ⟨stack, .inString keyOf (cs.reverse ++ read) .none, place'⟩ := by
  induction cs generalizing read place with
  | nil => exact ⟨place, rfl⟩
  | cons c cs ih =>
    obtain ⟨place₁, hc⟩ := foldl_escapeChar limit stack keyOf read place c
    obtain ⟨place₂, hcs⟩ := ih (c :: read) place₁
    refine ⟨place₂, ?_⟩
    rw [List.flatMap_cons, List.foldl_append, hc, hcs, List.reverse_cons, List.append_assoc]
    rfl

end Reader

theorem readWithin_quote (limit : Option Nat) (s : String) :
    readWithin limit (Text.quote s) = .ok (.str s) := by
  have hopen : ∃ place, Reader.State.step limit {} '"' =
      ⟨[], .inString none [] .none, place⟩ := ⟨_, rfl⟩
  obtain ⟨place, hopen⟩ := hopen
  obtain ⟨place', hbody⟩ := Reader.foldl_escaped limit [] none [] place s.toList
  have hclose : (Reader.State.step limit
      ⟨[], .inString none s.toList.reverse .none, place'⟩ '"').finish =
      .ok (.str (String.ofList s.toList.reverse.reverse)) := rfl
  rw [readWithin, Text.quote, String.toList_ofList, Text.quoteChars, List.foldl_cons, hopen,
    List.foldl_append, hbody, List.append_nil, List.foldl_cons, List.foldl_nil, hclose,
    List.reverse_reverse, String.ofList_toList]

lemma not_control_escapeChar (c : Char) : ∀ e ∈ Text.escapeChar c, 0x20 ≤ e.toNat := by
  have hhex : ∀ k : Fin 16, 0x20 ≤ (Text.hexDigit k).toNat := by decide
  unfold Text.escapeChar
  split_ifs with hquote hbackslash hnewline hreturn htab hback hfeed hcontrol
  · simp
  · simp
  · simp
  · simp
  · simp
  · simp
  · simp
  · have hhigh := hhex ⟨c.toNat / 16, by omega⟩
    have hlow := hhex ⟨c.toNat % 16, by omega⟩
    simpa using ⟨hhigh, hlow⟩
  · simpa using hcontrol

lemma not_control_quote (s : String) : ∀ e ∈ (Text.quote s).toList, 0x20 ≤ e.toNat := by
  rw [Text.quote, String.toList_ofList, Text.quoteChars, List.forall_mem_cons, List.forall_mem_append,
    List.forall_mem_singleton]
  refine ⟨by decide, ?_, by decide⟩
  intro e he
  obtain ⟨c, -, he⟩ := List.mem_flatMap.mp he
  exact not_control_escapeChar c e he

end Json

namespace Text

open Json JavaScript

/-- The quoted form of a text. It is a string literal of this text and of no other one, without
control characters; the reader of definitions and the scanner of expressions read it as the text.
Different texts have different quoted forms, and whatever follows a quoted form, the literal that
stands there ends where the quoted form ends. -/
theorem quote_reads_back :
    (∀ s : String, (∀ t, IsLiteral (quote s).toList t ↔ t = s) ∧
      (∀ c ∈ (quote s).toList, 0x20 ≤ c.toNat) ∧
      (∀ limit, readWithin limit (quote s) = .ok (.str s)) ∧
      tokens? (quote s) = some [.string (units s.toList)]) ∧
    Function.Injective quote ∧
    ∀ (s t : String) (l rest rest' : List Char), IsLiteral l t →
      (l ++ rest' = (quote s).toList ++ rest ↔ l = (quote s).toList ∧ t = s ∧ rest' = rest) := by
  have hends : ∀ (s t : String) (l rest rest' : List Char), IsLiteral l t →
      l ++ rest' = (quote s).toList ++ rest → l = (quote s).toList ∧ t = s ∧ rest' = rest :=
    fun s _ _ _ _ hl h => hl.append_inj (isLiteral_quote s) h
  refine ⟨fun s => ⟨?_, not_control_quote s, fun limit => readWithin_quote limit s,
    (reads_quote s).tokens?_eq⟩, ?_, ?_⟩
  · intro t
    constructor
    · intro h
      exact (hends s t _ [] [] h rfl).2.1
    · rintro rfl
      exact isLiteral_quote t
  · intro s t h
    exact (hends t s _ [] [] (isLiteral_quote s) (by rw [h])).2.1
  · intro s t l rest rest' hl
    constructor
    · exact hends s t l rest rest' hl
    · rintro ⟨rfl, -, rfl⟩
      rfl

/-- A text with a quote, a backslash and a control character, and two literals of one quote. -/
theorem quote_reads_back_of_hostile_texts :
    let s := "\\\"\x01"
    let l := ['"', '\\', 'u', '0', '0', '2', '2', '"']
    quote s = "\"\\\\\\\"\\u0001\"" ∧ IsLiteral (quote s).toList s ∧
      '\\' ∈ (quote s).toList ∧ 0x20 ≤ '\\'.toNat ∧
      readWithin none (quote s) = .ok (.str s) ∧ IsLiteral l "\"" ∧
      ∀ rest rest', l ++ rest' ≠ (quote "\"").toList ++ rest := by
  intro s l
  obtain ⟨hreads, -, hends⟩ := quote_reads_back
  obtain ⟨hliteral, hcontrol, hread, -⟩ := hreads s
  have hmem : '\\' ∈ (quote s).toList := by decide
  have hunits : SpellsUnits ['\\', 'u', '0', '0', '2', '2'] (unitsOf '"') :=
    @SpellsUnits.cons ['0', '0', '2', '2'] [] 34 [] ⟨rfl, rfl⟩ .nil
  have hl : IsLiteral l "\"" := ⟨_, rfl, @SpellsText.cons _ [] '"' [] (.units hunits) .nil⟩
  refine ⟨by decide, (hliteral s).mpr rfl, hmem, hcontrol _ hmem, hread none, hl, ?_⟩
  intro rest rest' heq
  exact absurd ((hends "\"" "\"" l rest rest' hl).mp heq).1 (by decide)

end Text

end SchemaForge
