import Mathlib.Data.List.Basic
import Mathlib.Tactic.Lemma
import SchemaForge.Proofs.JavaScriptLexing
import SchemaForge.Text.Quoted

/-!
# Tokens

A scanner for JavaScript that takes the longest token at every place. It knows all punctuators, so
that none is cut in two, and gives up at tokens that are not listed in `Token`. Texts are sequences
of UTF-16 code units. A text that `Reads` as tokens does so in front of a separator too.
-/

namespace SchemaForge.JavaScript

/-! ### Code units -/

def unitsOf (c : Char) : List UInt16 :=
  if c.toNat < 0x10000 then [UInt16.ofNat c.toNat]
  else
    [UInt16.ofNat (0xd800 + (c.toNat - 0x10000) / 0x400),
      UInt16.ofNat (0xdc00 + (c.toNat - 0x10000) % 0x400)]

/-- The UTF-16 code units of a text. -/
def units (cs : List Char) : List UInt16 := cs.flatMap unitsOf

lemma units_cons (c : Char) (cs : List Char) : units (c :: cs) = unitsOf c ++ units cs :=
  List.flatMap_cons

lemma ofNat_unit_inj {a b : Nat} (ha : a < 0x10000) (hb : b < 0x10000) :
    UInt16.ofNat a = UInt16.ofNat b ↔ a = b := by
  constructor
  · intro h
    have hnat := congrArg UInt16.toNat h
    rw [UInt16.toNat_ofNat', UInt16.toNat_ofNat'] at hnat
    omega
  · rintro rfl
    rfl

lemma toNat_bounds (c : Char) :
    c.toNat < 0xd800 ∨ (0xdfff < c.toNat ∧ c.toNat < 0x110000) := by
  have h := c.valid
  simp only [UInt32.isValidChar, Nat.isValidChar] at h
  exact h

/-- No character begins like another one: surrogates stand in pairs only. -/
lemma unitsOf_append_prefix {c d : Char} {us vs : List UInt16}
    (h : unitsOf c ++ us <+: unitsOf d ++ vs) : c = d ∧ us <+: vs := by
  have hc := toNat_bounds c
  have hd := toNat_bounds d
  unfold unitsOf at h
  by_cases hcs : c.toNat < 0x10000
  · by_cases hds : d.toNat < 0x10000
    · rw [if_pos hcs, if_pos hds, List.singleton_append, List.singleton_append,
        List.cons_prefix_cons, ofNat_unit_inj hcs hds] at h
      exact ⟨Char.toNat_inj.mp h.1, h.2⟩
    · rw [if_pos hcs, if_neg hds, List.singleton_append, List.cons_append,
        List.cons_prefix_cons, ofNat_unit_inj hcs (by omega)] at h
      omega
  · by_cases hds : d.toNat < 0x10000
    · rw [if_neg hcs, if_pos hds, List.singleton_append, List.cons_append,
        List.cons_prefix_cons, ofNat_unit_inj (by omega) hds] at h
      omega
    · rw [if_neg hcs, if_neg hds] at h
      simp only [List.cons_append, List.nil_append, List.cons_prefix_cons] at h
      rw [ofNat_unit_inj (by omega) (by omega), ofNat_unit_inj (by omega) (by omega)] at h
      exact ⟨Char.toNat_inj.mp (by omega), h.2.2⟩

lemma unitsOf_ne_nil (c : Char) : unitsOf c ≠ [] := by
  unfold unitsOf
  split_ifs <;> simp

lemma units_prefix_iff (cs ds : List Char) : units cs <+: units ds ↔ cs <+: ds := by
  induction cs generalizing ds with
  | nil => simp [units]
  | cons c cs ih =>
    cases ds with
    | nil => simp [units, unitsOf_ne_nil]
    | cons d ds =>
      rw [units_cons, units_cons, List.cons_prefix_cons, ← ih]
      constructor
      · exact unitsOf_append_prefix
      · rintro ⟨rfl, h⟩
        exact (List.prefix_append_right_inj _).mpr h

lemma units_inj (cs ds : List Char) : units cs = units ds ↔ cs = ds := by
  constructor
  · intro h
    have hcd : cs <+: ds := (units_prefix_iff cs ds).mp (h ▸ List.prefix_rfl)
    have hdc : ds <+: cs := (units_prefix_iff ds cs).mp (h ▸ List.prefix_rfl)
    exact hcd.eq_of_length (Nat.le_antisymm hcd.length_le hdc.length_le)
  · rintro rfl
    rfl

/-! ### The scanner -/

inductive Operator where
  | or
  | and
  | strictEq
  | strictNe
  | atLeast
  | atMost
  | greater
  | plus
  | times
  deriving DecidableEq

inductive Token where
  | word (name : String)
  | number (n : Nat)
  | string (us : List UInt16)
  /-- A regular expression without flags. -/
  | regex (body : List Char)
  | operator (op : Operator)
  | not
  | dot
  | comma
  | assign
  | semicolon
  | openParen
  | closeParen
  | openBracket
  | closeBracket
  | openBrace
  | closeBrace
  deriving DecidableEq

def punctuators : List String :=
  ["\x7b", "\x7d", "(", ")", "[", "]", ".", "...", ";", ",", "<", ">", "<=", ">=", "==", "!=",
    "===", "!==", "+", "-", "*", "/", "%", "**", "++", "--", "<<", ">>", ">>>", "&", "|", "^", "!",
    "~", "&&", "||", "??", "?", "?.", ":", "=", "+=", "-=", "*=", "/=", "%=", "**=", "<<=", ">>=",
    ">>>=", "&=", "|=", "^=", "&&=", "||=", "??=", "=>"]

def mark? (cs : List Char) : Option Token :=
  match cs with
  | ['('] => some .openParen
  | [')'] => some .closeParen
  | ['['] => some .openBracket
  | [']'] => some .closeBracket
  | ['\x7b'] => some .openBrace
  | ['\x7d'] => some .closeBrace
  | ['.'] => some .dot
  | [','] => some .comma
  | [';'] => some .semicolon
  | ['='] => some .assign
  | ['!'] => some .not
  | ['|', '|'] => some (.operator .or)
  | ['&', '&'] => some (.operator .and)
  | ['=', '=', '='] => some (.operator .strictEq)
  | ['!', '=', '='] => some (.operator .strictNe)
  | ['>', '='] => some (.operator .atLeast)
  | ['<', '='] => some (.operator .atMost)
  | ['>'] => some (.operator .greater)
  | ['+'] => some (.operator .plus)
  | ['*'] => some (.operator .times)
  | _ => none

def beginsMark (cs : List Char) : Bool := punctuators.any fun p => cs.isPrefixOf p.toList

/-- The token that is being read. -/
inductive Reading where
  | nothing
  | word (letters : List Char)
  | number (value : Nat)
  /-- A punctuator that may become a longer one. -/
  | marks (cs : List Char)
  | text (us : List UInt16)
  /-- Behind a backslash. -/
  | escape (us : List UInt16)
  /-- A code unit in hexadecimal digits, of which some have been read. -/
  | hex (us : List UInt16) (count value : Nat)
  /-- Behind the slash that opens a regular expression. -/
  | slash
  | regex (body : List Char) (inClass escaped : Bool)
  /-- Behind the slash that closes a regular expression. -/
  | regexEnd (body : List Char)
  deriving DecidableEq

def isNameStart (c : Char) : Bool := Schema.isIdentifierChar c && !c.isDigit

def escaped? (c : Char) : Option UInt16 :=
  if c = '"' || c = '\\' || c = '/' then some (UInt16.ofNat c.toNat)
  else if c = 'n' then some 10
  else if c = 'r' then some 13
  else if c = 't' then some 9
  else if c = 'b' then some 8
  else if c = 'f' then some 12
  else none

/-- Punctuation goes on as long as a longer punctuator is possible. -/
def readMarks (cs : List Char) : Option (List Token × Reading) :=
  if punctuators.any fun p => cs.isPrefixOf p.toList && cs.length < p.toList.length then
    some ([], .marks cs)
  else (mark? cs).map fun t => ([t], .nothing)

/-- There is no division, so a slash opens a regular expression wherever it stands. Nothing that is
an expression has one where the language would divide. -/
def start (c : Char) : Option (List Token × Reading) :=
  if c = ' ' then some ([], .nothing)
  else if c = '"' then some ([], .text [])
  else if c = '/' then some ([], .slash)
  else if isNameStart c then some ([], .word [c])
  else if c.isDigit then some ([], .number (c.toNat - 48))
  else readMarks [c]

/-- A token that is complete, and what the next character begins. -/
def startAfter (t : Token) (c : Char) : Option (List Token × Reading) :=
  (start c).map fun x => (t :: x.1, x.2)

/-- A character of a regular expression. -/
def readRegex (body : List Char) (inClass escaped : Bool) (c : Char) :
    Option (List Token × Reading) :=
  match regexStep inClass escaped c with
  | some (.regex inClass escaped) => some ([], .regex (body ++ [c]) inClass escaped)
  | some .code => some ([], .regexEnd body)
  | _ => none

/-- Read one character: the tokens that it completes and the token that it belongs to. Numbers do
not begin with a zero, and no name or fraction follows them directly. Two slashes, or a slash and an
asterisk, would begin a comment. -/
def scan (r : Reading) (c : Char) : Option (List Token × Reading) :=
  match r with
  | .nothing => start c
  | .word cs =>
    if Schema.isIdentifierChar c then some ([], .word (cs ++ [c]))
    else startAfter (.word (String.ofList cs)) c
  | .number n =>
    if c.isDigit then if n = 0 then none else some ([], .number (n * 10 + (c.toNat - 48)))
    else if isNameStart c || c = '.' then none
    else startAfter (.number n) c
  | .marks cs =>
    if beginsMark (cs ++ [c]) then readMarks (cs ++ [c])
    else (mark? cs).bind fun t => startAfter t c
  | .text us =>
    if c = '"' then some ([.string us], .nothing)
    else if c = '\\' then some ([], .escape us)
    else if c = '\n' || c = '\r' then none
    else some ([], .text (us ++ unitsOf c))
  | .escape us =>
    if c = 'u' then some ([], .hex us 0 0)
    else (escaped? c).map fun u => ([], .text (us ++ [u]))
  | .hex us count value =>
    (Text.hexValue? c).map fun d =>
      ([], if count = 3 then .text (us ++ [UInt16.ofNat (value * 16 + d)])
        else .hex us (count + 1) (value * 16 + d))
  | .slash => if c = '/' || c = '*' then none else readRegex [] false false c
  | .regex body inClass escaped => readRegex body inClass escaped c
  | .regexEnd body =>
    if Schema.isIdentifierChar c then none else startAfter (.regex body) c

def scanAll (r : Reading) : List Char → Option (List Token × Reading)
  | [] => some ([], r)
  | c :: cs =>
    (scan r c).bind fun x => (scanAll x.2 cs).map fun y => (x.1 ++ y.1, y.2)

/-- The tokens that are complete at the end of a text. -/
def Reading.finish? : Reading → Option (List Token)
  | .nothing => some []
  | .word cs => some [.word (String.ofList cs)]
  | .number n => some [.number n]
  | .marks cs => (mark? cs).map fun t => [t]
  | .regexEnd body => some [.regex body]
  | .text _ | .escape _ | .hex _ _ _ | .slash | .regex _ _ _ => none

def tokens? (text : String) : Option (List Token) :=
  (scanAll .nothing text.toList).bind fun x => x.2.finish?.map fun ts => x.1 ++ ts

/-! ### Composition -/

lemma scanAll_append (r : Reading) (cs ds : List Char) :
    scanAll r (cs ++ ds) =
      (scanAll r cs).bind fun x => (scanAll x.2 ds).map fun y => (x.1 ++ y.1, y.2) := by
  induction cs generalizing r with
  | nil => simp [scanAll]
  | cons c cs ih =>
    simp only [List.cons_append, scanAll]
    cases scan r c with
    | none => rfl
    | some x =>
      simp only [Option.bind_some, ih]
      cases scanAll x.2 cs with
      | none => rfl
      | some y => simp [Option.map_map, Function.comp_def, List.append_assoc]

/-- Reading a text completes tokens and leads from one state to another. -/
def Scans (r : Reading) (text : String) (ts : List Token) (s : Reading) : Prop :=
  scanAll r text.toList = some (ts, s)

instance (r : Reading) (text : String) (ts : List Token) (s : Reading) :
    Decidable (Scans r text ts s) :=
  inferInstanceAs (Decidable (scanAll r text.toList = some (ts, s)))

section Composition

variable {a b : String} {ts us : List Token} {r s t : Reading}

lemma Scans.append (ha : Scans r a ts s) (hb : Scans s b us t) : Scans r (a ++ b) (ts ++ us) t := by
  unfold Scans at *
  rw [String.toList_append, scanAll_append, ha, Option.bind_some, hb, Option.map_some]

/-- The characters that may follow an operand. -/
def isSeparator (c : Char) : Bool := c = ' ' || c = ')' || c = ',' || c = ']'

/-- The token that is being read ends at a separator. -/
def Reading.Ends (r : Reading) (ts : List Token) : Prop :=
  r.finish? = some ts ∧
    ∀ c, isSeparator c = true → scan r c = (start c).map fun x => (ts ++ x.1, x.2)

lemma ends_nothing : Reading.nothing.Ends [] := by
  refine ⟨rfl, fun c _ => ?_⟩
  simp [scan]

lemma separator_cases {c : Char} (h : isSeparator c = true) :
    c = ' ' ∨ c = ')' ∨ c = ',' ∨ c = ']' := by
  simpa [isSeparator, or_assoc] using h

lemma ends_number (n : Nat) : (Reading.number n).Ends [.number n] := by
  refine ⟨rfl, fun c hc => ?_⟩
  rcases separator_cases hc with rfl | rfl | rfl | rfl <;> rfl

lemma ends_word (cs : List Char) : (Reading.word cs).Ends [.word (String.ofList cs)] := by
  refine ⟨rfl, fun c hc => ?_⟩
  rcases separator_cases hc with rfl | rfl | rfl | rfl <;> rfl

/-- A text that consists of the given tokens, at its end or in front of a separator. -/
def Reads (text : String) (ts : List Token) : Prop :=
  ∃ us vs r, Scans .nothing text us r ∧ r.Ends vs ∧ ts = us ++ vs

lemma Reads.tokens?_eq (h : Reads a ts) : tokens? a = some ts := by
  obtain ⟨us, vs, r, hscan, hends, rfl⟩ := h
  unfold Scans at hscan
  rw [tokens?, hscan, Option.bind_some, hends.1, Option.map_some]

lemma Scans.reads (h : Scans .nothing a ts .nothing) : Reads a ts :=
  ⟨ts, [], .nothing, h, ends_nothing, (List.append_nil ts).symm⟩

lemma Scans.reads_append (ha : Scans .nothing a ts .nothing) (hb : Reads b us) :
    Reads (a ++ b) (ts ++ us) := by
  obtain ⟨vs, ws, r, hscan, hends, rfl⟩ := hb
  exact ⟨ts ++ vs, ws, r, ha.append hscan, hends, by rw [List.append_assoc]⟩

lemma Reads.scans_append {c : Char} {cs : List Char} (ha : Reads a ts)
    (hb : Scans .nothing b us s) (hc : b.toList = c :: cs) (hsep : isSeparator c = true) :
    Scans .nothing (a ++ b) (ts ++ us) s := by
  obtain ⟨vs, ws, r, hscan, hends, rfl⟩ := ha
  have hrest : scanAll r b.toList = some (ws ++ us, s) := by
    unfold Scans at hb
    rw [hc, scanAll, scan] at hb
    rw [hc, scanAll, hends.2 c hsep]
    cases hstart : start c with
    | none =>
      rw [hstart] at hb
      cases hb
    | some x =>
      rw [hstart, Option.bind_some] at hb
      obtain ⟨y, hy, heq⟩ := Option.map_eq_some_iff.mp hb
      cases heq
      simp [hy]
  rw [List.append_assoc]
  exact Scans.append hscan hrest

/-- Texts with a separator between them. -/
lemma reads_intercalate {separator : String} {c : Char} {cs : List Char}
    (hs : Scans .nothing separator us .nothing) (hc : separator.toList = c :: cs)
    (hsep : isSeparator c = true) {parts : List (String × List Token)}
    (h : ∀ p ∈ parts, Reads p.1 p.2) :
    Reads (separator.intercalate (parts.map Prod.fst)) (us.intercalate (parts.map Prod.snd)) := by
  induction parts with
  | nil => exact Scans.reads rfl
  | cons p parts ih =>
    cases parts with
    | nil =>
      rw [List.map_singleton, List.map_singleton, String.intercalate_singleton,
        List.intercalate_singleton]
      exact h p List.mem_cons_self
    | cons q parts =>
      have hp : Scans .nothing (p.1 ++ separator) (p.2 ++ us) .nothing :=
        (h p List.mem_cons_self).scans_append hs hc hsep
      have hrest := hp.reads_append (ih fun x hx => h x (List.mem_cons_of_mem p hx))
      simp only [List.map_cons, String.intercalate_cons_cons, List.intercalate_cons_cons] at hrest ⊢
      simpa only [List.append_assoc] using hrest

end Composition

/-! ### Literals -/

lemma scanAll_hex (us : List UInt16) {n : Nat} (hn : n < 256) :
    scanAll (.escape us) ['u', '0', '0', Text.hexDigit (n / 16), Text.hexDigit (n % 16)] =
      some ([], .text (us ++ [UInt16.ofNat n])) := by
  have hopen : scan (.escape us) 'u' = some ([], .hex us 0 0) := rfl
  have hfirst : scan (.hex us 0 0) '0' = some ([], .hex us 1 0) := rfl
  have hsecond : scan (.hex us 1 0) '0' = some ([], .hex us 2 0) := rfl
  have hhigh : scan (.hex us 2 0) (Text.hexDigit (n / 16)) = some ([], .hex us 3 (n / 16)) := by
    rw [scan, Text.hexValue?_hexDigit (by omega)]
    simp
  have hlow : scan (.hex us 3 (n / 16)) (Text.hexDigit (n % 16)) =
      some ([], .text (us ++ [UInt16.ofNat n])) := by
    have hvalue : n / 16 * 16 + n % 16 = n := by omega
    rw [scan, Text.hexValue?_hexDigit (by omega), Option.map_some, if_pos rfl, hvalue]
  simp only [scanAll, hopen, hfirst, hsecond, hhigh, hlow, Option.bind_some, Option.map_some,
    List.append_nil]

lemma scanAll_escapeChar (us : List UInt16) (c : Char) :
    scanAll (.text us) (Text.escapeChar c) = some ([], .text (us ++ unitsOf c)) := by
  unfold Text.escapeChar
  split_ifs with hquote hbackslash hnewline hreturn htab hback hfeed hcontrol
  · subst hquote
    rfl
  · subst hbackslash
    rfl
  · subst hnewline
    rfl
  · subst hreturn
    rfl
  · subst htab
    rfl
  · subst hback
    rfl
  · subst hfeed
    rfl
  · have hbackslash' : scan (.text us) '\\' = some ([], .escape us) := rfl
    have hunit : unitsOf c = [UInt16.ofNat c.toNat] := by
      rw [unitsOf, if_pos (by omega)]
    rw [scanAll, hbackslash', Option.bind_some, scanAll_hex us (by omega), hunit]
    rfl
  · simp [scanAll, scan, hquote, hbackslash, hnewline, hreturn]

lemma scanAll_escaped (us : List UInt16) (cs : List Char) :
    scanAll (.text us) (cs.flatMap Text.escapeChar) = some ([], .text (us ++ units cs)) := by
  induction cs generalizing us with
  | nil => simp [scanAll, units]
  | cons c cs ih =>
    rw [List.flatMap_cons, scanAll_append, scanAll_escapeChar, Option.bind_some, ih,
      Option.map_some, units_cons, List.append_assoc, List.append_nil]

/-- The quoted form of a text is a literal of its code units. -/
theorem scans_quote (s : String) :
    Scans .nothing (Text.quote s) [.string (units s.toList)] .nothing := by
  unfold Scans Text.quote Text.quoteChars
  have hopen : scan .nothing '"' = some ([], .text []) := rfl
  have hclose : scanAll (.text (units s.toList)) ['"'] =
      some ([.string (units s.toList)], .nothing) := rfl
  rw [String.toList_ofList, scanAll, hopen, Option.bind_some, scanAll_append, scanAll_escaped,
    Option.bind_some, List.nil_append, hclose]
  rfl

theorem reads_quote (s : String) : Reads (Text.quote s) [.string (units s.toList)] :=
  (scans_quote s).reads

lemma scan_digitChar {n d : Nat} (hn : n ≠ 0) (hd : d < 10) :
    scan (.number n) (Nat.digitChar d) = some ([], .number (n * 10 + d)) := by
  have hdigit : (Nat.digitChar d).isDigit = true := by
    have h : ∀ k : Fin 10, (Nat.digitChar k).isDigit = true := by decide
    exact h ⟨d, hd⟩
  have hvalue : (Nat.digitChar d).toNat - 48 = d := by
    rw [Nat.toNat_digitChar_of_lt_ten hd]
    omega
  simp [scan, hdigit, hn, hvalue]

lemma scanAll_toDigits (n : Nat) : scanAll .nothing (Nat.toDigits 10 n) = some ([], .number n) := by
  induction n using Nat.strongRecOn with
  | ind n ih =>
    by_cases hn : n < 10
    · have h : ∀ k : Fin 10, scanAll .nothing (Nat.toDigits 10 k) = some ([], .number k) := by
        decide
      exact h ⟨n, hn⟩
    · have hsplit : Nat.toDigits 10 n = Nat.toDigits 10 (n / 10) ++ [Nat.digitChar (n % 10)] := by
        have happ := Nat.toDigits_append_toDigits (b := 10) (n := n / 10) (d := n % 10)
          (by decide) (by omega) (by omega)
        rw [Nat.toDigits_of_lt_base (b := 10) (n := n % 10) (by omega)] at happ
        rw [happ]
        congr 1
        omega
      have hvalue : n / 10 * 10 + n % 10 = n := by omega
      rw [hsplit, scanAll_append, ih (n / 10) (by omega), Option.bind_some]
      simp [scanAll, scan_digitChar (n := n / 10) (d := n % 10) (by omega) (by omega), hvalue]

theorem reads_natRepr (n : Nat) : Reads n.repr [.number n] := by
  refine ⟨[], [.number n], .number n, ?_, ends_number n, rfl⟩
  unfold Scans
  rw [Nat.toList_repr]
  exact scanAll_toDigits n

end SchemaForge.JavaScript
