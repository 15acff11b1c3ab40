import SchemaForge.Proofs.JavaScriptPatterns
import SchemaForge.Schema.Leaf

/-!
# Classes of alphabets

The regular expression of an identifier with an alphabet of its own. Main statement: its class has the
letters of the alphabet and no other ones, whether it is read by code points or by code units, and it
is a literal on one line exactly if the alphabet has no character that ends a line.
-/

namespace SchemaForge

open JavaScript

namespace Schema

/-! ### Letters with a backslash -/

def isSpecialLetter (n : Nat) : Bool :=
  ['\\', ']', '[', '^', '-', '/'].any fun c => c.toNat = n

/-- Letters with a backslash in front of those that need one in a class. -/
def escapedLetters (ns : List Nat) : List Nat :=
  ns.flatMap fun n => if isSpecialLetter n then ['\\'.toNat, n] else [n]

lemma isSpecialInClass_eq (c : Char) : isSpecialInClass c = isSpecialLetter c.toNat := by
  simp [isSpecialInClass, isSpecialLetter, ← Char.toNat_inj, eq_comm, Bool.or_assoc]

lemma lt_of_isSpecialLetter {n : Nat} (h : isSpecialLetter n = true) : n < 0x80 := by
  simp only [isSpecialLetter, List.any_eq_true, decide_eq_true_eq] at h
  obtain ⟨c, hc, rfl⟩ := h
  simp only [List.mem_cons, List.not_mem_nil, or_false] at hc
  rcases hc with rfl | rfl | rfl | rfl | rfl | rfl <;> decide

lemma escapedLetters_append (ns ms : List Nat) :
    escapedLetters (ns ++ ms) = escapedLetters ns ++ escapedLetters ms :=
  List.flatMap_append

lemma escapedLetters_of_plain {ns : List Nat} (h : ∀ n ∈ ns, isSpecialLetter n = false) :
    escapedLetters ns = ns := by
  induction ns with
  | nil => rfl
  | cons n ns ih =>
    rw [escapedLetters, List.flatMap_cons, h n List.mem_cons_self, ← escapedLetters,
      ih fun m hm => h m (List.mem_cons_of_mem n hm)]
    rfl

lemma classBody_cons (c : Char) (cs : List Char) :
    classBody (c :: cs) = (if isSpecialInClass c then ['\\', c] else [c]) ++ classBody cs := by
  rw [classBody, List.flatMap_cons]
  rfl

lemma codePoints_classBody (cs : List Char) :
    codePoints (classBody cs) = escapedLetters (codePoints cs) := by
  induction cs with
  | nil => rfl
  | cons c cs ih =>
    have hcons : codePoints (c :: cs) = [c.toNat] ++ codePoints cs := rfl
    have hhead : codePoints (if isSpecialInClass c then ['\\', c] else [c]) =
        escapedLetters [c.toNat] := by
      rw [isSpecialInClass_eq]
      by_cases hc : isSpecialLetter c.toNat <;> simp [hc, codePoints, escapedLetters]
    rw [hcons, escapedLetters_append, ← ih, ← hhead, classBody_cons]
    exact List.map_append

/-- Characters that need a backslash have one code unit, and so have no letters of other
characters. -/
lemma codeUnits_escaped (c : Char) :
    codeUnits (if isSpecialInClass c then ['\\', c] else [c]) = escapedLetters (codeUnits [c]) := by
  rw [isSpecialInClass_eq]
  rcases codeUnits_char c with hunit | ⟨hlarge, -, hunits⟩
  · by_cases hc : isSpecialLetter c.toNat
    · have hbackslash : codeUnits ['\\'] = ['\\'.toNat] := rfl
      rw [if_pos hc, codeUnits_cons, hbackslash, hunit]
      simp [escapedLetters, hc]
    · rw [if_neg hc, hunit]
      simp [escapedLetters, hc]
  · have hplain : ∀ n, 0xd800 ≤ n → isSpecialLetter n = false := by
      intro n hn
      apply Bool.eq_false_iff.mpr
      intro hspecial
      have hlt := lt_of_isSpecialLetter hspecial
      omega
    rw [hplain _ hlarge, escapedLetters_of_plain fun n hn => hplain n (hunits n hn)]
    rfl

lemma codeUnits_classBody (cs : List Char) :
    codeUnits (classBody cs) = escapedLetters (codeUnits cs) := by
  induction cs with
  | nil => rfl
  | cons c cs ih =>
    rw [classBody_cons, codeUnits_append, ih, codeUnits_cons c, escapedLetters_append,
      codeUnits_escaped]

/-! ### The class -/

/-- A class of single letters. -/
def lettersOf (ns : List Nat) : Letters := .members false (ns.map fun n => (n, n))

/-- One or more letters, and nothing else. -/
def oneOrMore (ns : List Nat) : List Term := [.start, .repeated (lettersOf ns) 1 none, .stop]

lemma has_lettersOf (ns : List Nat) (n : Nat) : (lettersOf ns).has n = true ↔ n ∈ ns := by
  simp only [lettersOf, Letters.has, Bool.false_bne, List.any_map, List.any_eq_true,
    Function.comp_apply, Bool.and_eq_true, decide_eq_true_eq]
  constructor
  · rintro ⟨m, hm, hle, hge⟩
    rwa [Nat.le_antisymm hge hle]
  · intro h
    exact ⟨n, h, Nat.le_refl n, Nat.le_refl n⟩

theorem tests_oneOrMore (ns text : List Nat) :
    Pattern.tests (oneOrMore ns) text = true ↔ text ≠ [] ∧ ∀ n ∈ text, n ∈ ns := by
  have hcount : 1 ≤ text.length ↔ text ≠ [] := by
    rw [Nat.one_le_iff_ne_zero, Ne, List.length_eq_zero_iff]
  rw [oneOrMore, Pattern.tests_anchored, hcount]
  simp only [has_lettersOf]
  constructor
  · rintro ⟨hall, hne, -⟩
    exact ⟨hne, hall⟩
  · rintro ⟨hne, hall⟩
    exact ⟨hall, hne, nofun⟩

open Pattern

lemma isPunctuation_of_isSpecialLetter {n : Nat} (h : isSpecialLetter n = true) :
    isPunctuation n = true := by
  simp only [isSpecialLetter, List.any_eq_true, decide_eq_true_eq] at h
  obtain ⟨c, hc, rfl⟩ := h
  simp only [List.mem_cons, List.not_mem_nil, or_false] at hc
  rcases hc with rfl | rfl | rfl | rfl | rfl | rfl <;> rfl

lemma ne_of_not_special {n : Nat} (h : ¬isSpecialLetter n = true) :
    n ≠ ']'.toNat ∧ n ≠ '\\'.toNat ∧ n ≠ '^'.toNat ∧ n ≠ '-'.toNat := by
  refine ⟨?_, ?_, ?_, ?_⟩
  · rintro rfl
    exact h rfl
  · rintro rfl
    exact h rfl
  · rintro rfl
    exact h rfl
  · rintro rfl
    exact h rfl

lemma classLetters?_escaped (ns rest : List Nat) :
    classLetters? false (escapedLetters ns ++ ']'.toNat :: rest) =
      some (ns.map fun n => (isSpecialLetter n, n), rest) := by
  induction ns with
  | nil => rfl
  | cons n ns ih =>
    have hcons : escapedLetters (n :: ns) = escapedLetters [n] ++ escapedLetters ns :=
      escapedLetters_append [n] ns
    rw [hcons, List.append_assoc]
    by_cases hn : isSpecialLetter n
    · have hhead : escapedLetters [n] = ['\\'.toNat, n] := by simp [escapedLetters, hn]
      have hclose : '\\'.toNat ≠ ']'.toNat := by decide
      rw [hhead, List.cons_append, classLetters?, if_neg hclose, if_pos rfl, List.singleton_append,
        classLetters?, if_pos (isPunctuation_of_isSpecialLetter hn), ih, List.map_cons, hn]
      rfl
    · have hhead : escapedLetters [n] = [n] := by simp [escapedLetters, hn]
      obtain ⟨hclose, hbackslash, -, -⟩ := ne_of_not_special hn
      rw [hhead, List.singleton_append, classLetters?, if_neg hclose, if_neg hbackslash, ih,
        List.map_cons, Bool.eq_false_iff.mpr hn]
      rfl

/-- No dash without a backslash, so no range. -/
lemma ranges?_letter (a : Nat) (ns : List Nat) :
    ranges? (.letter a) (ns.map fun n => (isSpecialLetter n, n)) =
      some ((a, a) :: ns.map fun n => (n, n)) := by
  induction ns generalizing a with
  | nil => rfl
  | cons n ns ih =>
    have hdash : ¬(isSpecialLetter n, n) = (false, '-'.toNat) := by
      intro h
      obtain ⟨hspecial, rfl⟩ := Prod.mk.inj h
      cases hspecial
    rw [List.map_cons, ranges?, if_neg hdash, ih]
    rfl

lemma ranges?_nothing (ns : List Nat) :
    ranges? .nothing (ns.map fun n => (isSpecialLetter n, n)) = some (ns.map fun n => (n, n)) := by
  cases ns with
  | nil => rfl
  | cons n ns => exact ranges?_letter n ns

lemma head?_escapedLetters (ns rest : List Nat) :
    (escapedLetters ns ++ ']'.toNat :: rest).head? ≠ some '^'.toNat := by
  cases ns with
  | nil => simp [escapedLetters]
  | cons n ns =>
    rw [escapedLetters, List.flatMap_cons]
    by_cases hn : isSpecialLetter n
    · simp [hn]
    · simpa [hn] using (ne_of_not_special hn).2.2.1

lemma class?_escaped (ns rest : List Nat) :
    class? (escapedLetters ns ++ ']'.toNat :: rest) = some (lettersOf ns, rest) := by
  have hhead := head?_escapedLetters ns rest
  unfold class?
  simp only [hhead, if_false, decide_false, classLetters?_escaped, Option.bind_eq_bind,
    Option.bind_some, ranges?_nothing]
  rfl

/-- The letters of the pattern of an alphabet. -/
def patternLetters (ns : List Nat) : List Nat :=
  '^'.toNat :: '['.toNat :: (escapedLetters ns ++ [']'.toNat, '+'.toNat, '$'.toNat])

lemma read?_patternLetters (ns : List Nat) : read? (patternLetters ns) = some (oneOrMore ns) := by
  have hlength : (patternLetters ns).length = (escapedLetters ns).length + 2 + 1 + 1 + 1 := by
    simp [patternLetters]
  have hset : letters? ('['.toNat :: (escapedLetters ns ++ [']'.toNat, '+'.toNat, '$'.toNat])) =
      some (lettersOf ns, ['+'.toNat, '$'.toNat]) := class?_escaped ns _
  have hcount : count? ['+'.toNat, '$'.toNat] = some (1, none, ['$'.toNat]) := rfl
  have hopen : '['.toNat ≠ '^'.toNat ∧ '['.toNat ≠ '$'.toNat := by decide
  have hstop : ∀ k, terms? (k + 1) ['$'.toNat] = some [.stop] := by
    intro k
    rw [terms?, if_neg (by decide), if_pos rfl, terms?_nil]
    rfl
  rw [read?, hlength, patternLetters, terms?, if_pos rfl, terms?, if_neg hopen.1, if_neg hopen.2, hset]
  simp only [Option.bind_eq_bind, Option.bind_some, hcount, hstop]
  rfl

/-! ### The literal -/

/-- The body of the regular expression of an alphabet. -/
def patternBody (alphabet : List Char) : List Char :=
  '^' :: '[' :: (classBody alphabet ++ [']', '+', '$'])

lemma codePoints_patternBody (cs : List Char) :
    codePoints (patternBody cs) = patternLetters (codePoints cs) := by
  rw [patternLetters, ← codePoints_classBody]
  simp [patternBody, codePoints]

lemma codeUnits_patternBody (cs : List Char) :
    codeUnits (patternBody cs) = patternLetters (codeUnits cs) := by
  have hopen : codeUnits ['^', '['] = ['^'.toNat, '['.toNat] := rfl
  have hclose : codeUnits [']', '+', '$'] = [']'.toNat, '+'.toNat, '$'.toNat] := rfl
  have hbody : patternBody cs = ['^', '['] ++ classBody cs ++ [']', '+', '$'] := rfl
  rw [hbody, codeUnits_append, codeUnits_append, hopen, hclose, codeUnits_classBody, patternLetters]
  rfl

lemma regexBody?_classBody (cs rest : List Char) :
    regexBody? true false (classBody cs ++ ']' :: '+' :: '$' :: '/' :: rest) =
      if cs.any isLineTerminator then none
      else some (classBody cs ++ [']', '+', '$'], rest) := by
  induction cs with
  | nil => rfl
  | cons c cs ih =>
    have hbackslash : regexStep true false '\\' = some (.regex true true) := rfl
    rw [classBody_cons, List.any_cons]
    by_cases hline : isLineTerminator c = true
    · have hplain : ¬isSpecialInClass c = true := by
        simp only [isLineTerminator, Bool.or_eq_true, decide_eq_true_eq] at hline
        rcases hline with ((rfl | rfl) | rfl) | rfl <;> decide
      have hstep : regexStep true false c = none := by simp [regexStep, hline]
      rw [if_neg hplain, List.singleton_append, List.cons_append, regexBody?_of_none hstep, hline]
      rfl
    · have hline' : isLineTerminator c = false := Bool.eq_false_iff.mpr hline
      rw [hline', Bool.false_or]
      by_cases hspecial : isSpecialInClass c = true
      · have hstep : regexStep true true c = some (.regex true false) := by
          simp [regexStep, hline']
        rw [if_pos hspecial, List.cons_append, List.cons_append, List.cons_append,
          List.cons_append, regexBody?_cons hbackslash, regexBody?_cons hstep, List.nil_append, ih]
        split_ifs <;> rfl
      · have hstep : regexStep true false c = some (.regex true false) := by
          simp only [isSpecialInClass, Bool.or_eq_true, decide_eq_true_eq, not_or] at hspecial
          simp [regexStep, hline', hspecial]
        rw [if_neg hspecial, List.singleton_append, List.cons_append, regexBody?_cons hstep, ih]
        split_ifs <;> rfl

lemma regexLiteral?_patternBody (cs rest : List Char) :
    regexLiteral? ('/' :: (patternBody cs ++ '/' :: rest)) =
      if cs.any isLineTerminator then none else some (patternBody cs, rest) := by
  have hstart : regexStep false false '^' = some (.regex false false) := rfl
  have hopen : regexStep false false '[' = some (.regex true false) := rfl
  have hbody : patternBody cs ++ '/' :: rest =
      '^' :: '[' :: (classBody cs ++ ']' :: '+' :: '$' :: '/' :: rest) := by
    simp [patternBody]
  rw [hbody, regexLiteral?, if_neg (by decide), regexBody?_cons hstart, regexBody?_cons hopen,
    regexBody?_classBody]
  split_ifs <;> rfl

lemma nanoid_of_alphabet (length : Option UInt64) {alphabet : String} (h : alphabet ≠ "") :
    nanoid length (some alphabet) =
      "z.string().regex(/" ++ String.ofList (patternBody alphabet.toList) ++ "/)" ++
        callWith "length" (fun n => n.toNat.repr) length := by
  have hempty : alphabet.isEmpty = false := by
    rw [Bool.eq_false_iff, Ne, String.isEmpty_iff]
    exact h
  have htext : "z.string().regex(/^[" ++ String.ofList (classBody alphabet.toList) ++ "]+$/)" =
      "z.string().regex(/" ++ String.ofList (patternBody alphabet.toList) ++ "/)" := by
    apply String.toList_inj.mp
    simp [patternBody]
  rw [← htext]
  unfold nanoid
  simp only [hempty, Bool.false_eq_true, if_false]

/-- The regular expression of an alphabet. Read by code points its class has the characters of the
alphabet, and read by code units, as JavaScript does, the code units of the alphabet; it is not
negated and has no ranges but those of single letters. The pattern accepts one or more of these, up
to the end of the text. Together with its slashes it is a literal that ends at the second slash,
unless the alphabet has a character that ends a line: then there is no literal. -/
theorem nanoid_class_denotes (length : Option UInt64) (alphabet : String) (h : alphabet ≠ "") :
    ∃ body : List Char,
      nanoid length (some alphabet) =
        "z.string().regex(/" ++ String.ofList body ++ "/)" ++
          callWith "length" (fun n => n.toNat.repr) length ∧
      (∀ rest, regexLiteral? ('/' :: (body ++ '/' :: rest)) =
        if alphabet.toList.any isLineTerminator then none else some (body, rest)) ∧
      read? (codePoints body) = some (oneOrMore (codePoints alphabet.toList)) ∧
      (∀ c : Char, (lettersOf (codePoints alphabet.toList)).has c.toNat = true ↔
        c ∈ alphabet.toList) ∧
      read? (codeUnits body) = some (oneOrMore (codeUnits alphabet.toList)) ∧
      ∀ text, tests (oneOrMore (codeUnits alphabet.toList)) text = true ↔
        text ≠ [] ∧ ∀ u ∈ text, u ∈ codeUnits alphabet.toList := by
  refine ⟨patternBody alphabet.toList, nanoid_of_alphabet length h,
    regexLiteral?_patternBody alphabet.toList, ?_, ?_, ?_, tests_oneOrMore _⟩
  · rw [codePoints_patternBody, read?_patternLetters]
  · intro c
    rw [has_lettersOf, codePoints, List.mem_map_of_injective fun _ _ => Char.toNat_inj.mp]
  · rw [codeUnits_patternBody, read?_patternLetters]

/-- An alphabet of special letters, which make neither a range nor the end of the class. -/
theorem nanoid_class_denotes_of_special_letters :
    let alphabet := "^a-c]\\/"
    alphabet ≠ "" ∧ ∃ body : List Char,
      nanoid none (some alphabet) = "z.string().regex(/" ++ String.ofList body ++ "/)" ∧
      (∀ rest, regexLiteral? ('/' :: (body ++ '/' :: rest)) = some (body, rest)) ∧
      read? (codePoints body) = some (oneOrMore (codePoints alphabet.toList)) ∧
      (lettersOf (codePoints alphabet.toList)).has 'b'.toNat = false := by
  intro alphabet
  have hne : alphabet ≠ "" := by decide
  obtain ⟨body, htext, hliteral, hread, hhas, -⟩ := nanoid_class_denotes none alphabet hne
  have hb : 'b' ∉ alphabet.toList := by decide
  have hline : ¬alphabet.toList.any isLineTerminator = true := by decide
  refine ⟨hne, body, ?_, ?_, hread, Bool.eq_false_iff.mpr (mt (hhas 'b').mp hb)⟩
  · rw [htext, callWith, String.append_empty]
  · intro rest
    rw [hliteral, if_neg hline]

/-- An alphabet with a line feed, which stands in the class as it is. -/
theorem nanoid_class_of_line_feed :
    let alphabet := "a\n"
    alphabet ≠ "" ∧ nanoid none (some alphabet) = "z.string().regex(/^[a\n]+$/)" ∧
      regexLiteral? "/^[a\n]+$/)".toList = none := by
  decide

end Schema

end SchemaForge
