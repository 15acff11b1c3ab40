import SchemaForge.Proofs.JavaScriptLexing
import SchemaForge.Proofs.JavaScriptTokens

/-!
# Regular expressions

`regexLiteral?` cuts a regular expression off the front of a text, `Pattern.read?` reads what stands
between its slashes, and `Pattern.tests` tells whether a text has a match. Letters are numbers: without
flags a pattern and a text are read by code units, and reading them by code points as well tells whether
that makes a difference. Of the syntax there are anchors, classes, digits and counted repetitions, and
nothing is read where there is anything else.
-/

namespace SchemaForge.JavaScript

/-- The letters of a text as JavaScript reads it. -/
def codeUnits (cs : List Char) : List Nat := (units cs).map UInt16.toNat

def codePoints (cs : List Char) : List Nat := cs.map Char.toNat

lemma codeUnits_append (cs ds : List Char) : codeUnits (cs ++ ds) = codeUnits cs ++ codeUnits ds := by
  simp [codeUnits, units]

lemma codeUnits_cons (c : Char) (cs : List Char) :
    codeUnits (c :: cs) = codeUnits [c] ++ codeUnits cs := codeUnits_append [c] cs

/-- A character is its own code unit, or it has surrogates, which are no characters. -/
lemma codeUnits_char (c : Char) :
    codeUnits [c] = [c.toNat] ∨
      0xd800 ≤ c.toNat ∧ codeUnits [c] ≠ [] ∧ ∀ u ∈ codeUnits [c], 0xd800 ≤ u := by
  have hbounds := toNat_bounds c
  rw [codeUnits, units, List.flatMap_singleton, unitsOf]
  split_ifs with h
  · left
    rw [List.map_singleton, UInt16.toNat_ofNat_of_lt' h]
  · right
    refine ⟨by omega, List.cons_ne_nil _ _, fun u hu => ?_⟩
    simp only [List.map_cons, List.map_nil, List.mem_cons, List.not_mem_nil, or_false,
      UInt16.toNat_ofNat'] at hu
    omega

/-! ### Literals -/

/-- The body of a regular expression and what follows the slash that closes it. -/
def regexBody? (inClass escaped : Bool) : List Char → Option (List Char × List Char)
  | [] => none
  | c :: cs =>
    match regexStep inClass escaped c with
    | some (.regex inClass escaped) =>
      (regexBody? inClass escaped cs).map fun x => (c :: x.1, x.2)
    | some .code => some ([], cs)
    | _ => none

lemma regexBody?_cons {inClass escaped inClass' escaped' : Bool} {c : Char}
    (h : regexStep inClass escaped c = some (.regex inClass' escaped')) (cs : List Char) :
    regexBody? inClass escaped (c :: cs) =
      (regexBody? inClass' escaped' cs).map fun x => (c :: x.1, x.2) := by
  rw [regexBody?, h]

lemma regexBody?_of_none {inClass escaped : Bool} {c : Char}
    (h : regexStep inClass escaped c = none) (cs : List Char) :
    regexBody? inClass escaped (c :: cs) = none := by
  rw [regexBody?, h]

/-- The regular expression at the beginning of a text. Two slashes, or a slash and an asterisk, begin a
comment. -/
def regexLiteral? : List Char → Option (List Char × List Char)
  | '/' :: c :: cs => if c = '/' || c = '*' then none else regexBody? false false (c :: cs)
  | _ => none

/-! ### Patterns -/

/-- A set of letters. -/
inductive Letters where
  | digit
  /-- A class, as inclusive ranges. -/
  | members (negated : Bool) (ranges : List (Nat × Nat))
  deriving DecidableEq

def Letters.has : Letters → Nat → Bool
  | digit, n => '0'.toNat ≤ n && n ≤ '9'.toNat
  | members negated ranges, n => negated != ranges.any fun r => r.1 ≤ n && n ≤ r.2

/-- One term of a pattern. -/
inductive Term where
  | start
  | stop
  | repeated (letters : Letters) (least : Nat) (greatest : Option Nat)
  deriving DecidableEq

namespace Pattern

/-- The punctuation that a backslash makes an ordinary letter. -/
def isPunctuation (n : Nat) : Bool :=
  ['^', '$', '\\', '.', '*', '+', '?', '(', ')', '[', ']', '\x7b', '\x7d', '|', '/', '-'].any
    fun c => c.toNat = n

/-- The letters of a class up to its end, each with a flag for the backslash in front of it. The first
argument tells that a backslash has just been read. -/
def classLetters? : Bool → List Nat → Option (List (Bool × Nat) × List Nat)
  | _, [] => none
  | true, n :: ns =>
    if isPunctuation n then (classLetters? false ns).map fun x => ((true, n) :: x.1, x.2) else none
  | false, n :: ns =>
    if n = ']'.toNat then some ([], ns)
    else if n = '\\'.toNat then classLetters? true ns
    else (classLetters? false ns).map fun x => ((false, n) :: x.1, x.2)

/-- What a range may begin with. -/
inductive Pending where
  | nothing
  | letter (n : Nat)
  /-- A letter and a dash behind it. -/
  | dash (n : Nat)

/-- The ranges of a class. A dash that has no backslash makes a range of the letters around it. -/
def ranges? : Pending → List (Bool × Nat) → Option (List (Nat × Nat))
  | .nothing, [] => some []
  | .letter a, [] => some [(a, a)]
  | .dash a, [] => some [(a, a), ('-'.toNat, '-'.toNat)]
  | .nothing, x :: xs => ranges? (.letter x.2) xs
  | .letter a, x :: xs =>
    if x = (false, '-'.toNat) then ranges? (.dash a) xs
    else (ranges? (.letter x.2) xs).map ((a, a) :: ·)
  | .dash a, x :: xs => if a ≤ x.2 then (ranges? .nothing xs).map ((a, x.2) :: ·) else none

/-- A class behind its opening bracket. -/
def class? (ns : List Nat) : Option (Letters × List Nat) :=
  let negated := ns.head? = some '^'.toNat
  do
    let x ← classLetters? false (if negated then ns.tail else ns)
    let ranges ← ranges? .nothing x.1
    return (.members negated ranges, x.2)

def letters? : List Nat → Option (Letters × List Nat)
  | [] => none
  | n :: ns =>
    if n = '['.toNat then class? ns
    else if n = '\\'.toNat ∧ ns.head? = some 'd'.toNat then some (.digit, ns.tail)
    else none

def digit? (n : Nat) : Option Nat := if Letters.digit.has n then some (n - '0'.toNat) else none

/-- How often a set may be repeated; once if nothing is said. Bounds have one digit each. -/
def count? : List Nat → Option (Nat × Option Nat × List Nat)
  | [] => some (1, some 1, [])
  | n :: ns =>
    if n = '+'.toNat then some (1, none, ns)
    else if n = '\x7b'.toNat then
      match ns with
      | a :: comma :: b :: brace :: ns => do
        let least ← digit? a
        let greatest ← digit? b
        if comma = ','.toNat ∧ brace = '\x7d'.toNat then some (least, some greatest, ns) else none
      | _ => none
    else if n = '*'.toNat ∨ n = '?'.toNat then none
    else some (1, some 1, n :: ns)

/-- At most as many terms as the first argument says. -/
def terms? : Nat → List Nat → Option (List Term)
  | _, [] => some []
  | 0, _ :: _ => none
  | most + 1, n :: ns =>
    if n = '^'.toNat then (terms? most ns).map (.start :: ·)
    else if n = '$'.toNat then (terms? most ns).map (.stop :: ·)
    else do
      let set ← letters? (n :: ns)
      let count ← count? set.2
      let rest ← terms? most count.2.2
      return .repeated set.1 count.1 count.2.1 :: rest

lemma terms?_nil (most : Nat) : terms? most [] = some [] := by
  cases most <;> rfl

/-- The terms of a pattern. Every term takes at least one letter. -/
def read? (ns : List Nat) : Option (List Term) := terms? ns.length ns

/-! ### Matches -/

/-- What may be left of a text behind a term. -/
def rests (text : List Nat) : Term → List Nat → List (List Nat)
  | .start, rest => if rest.length = text.length then [rest] else []
  | .stop, rest => if rest.isEmpty then [rest] else []
  | .repeated letters least greatest, rest =>
    ((List.range (rest.length + 1)).filter fun k =>
      least ≤ k && greatest.all (k ≤ ·) && (rest.take k).all letters.has).map rest.drop

/-- Whether the terms match somewhere in a text. -/
def tests (ts : List Term) (text : List Nat) : Bool :=
  (List.range (text.length + 1)).any fun i =>
    !(ts.foldl (fun rs t => rs.flatMap (rests text t)) [text.drop i]).isEmpty

lemma mem_rests_repeated {text rest left : List Nat} {letters : Letters} {least : Nat}
    {greatest : Option Nat} :
    left ∈ rests text (.repeated letters least greatest) rest ↔
      ∃ taken, rest = taken ++ left ∧ (∀ n ∈ taken, letters.has n = true) ∧ least ≤ taken.length ∧
        ∀ g ∈ greatest, taken.length ≤ g := by
  simp only [rests, List.mem_map, List.mem_filter, List.mem_range, Bool.and_eq_true,
    decide_eq_true_eq, List.all_eq_true]
  constructor
  · rintro ⟨k, ⟨hk, ⟨hleast, hgreatest⟩, hall⟩, rfl⟩
    have hlength : (rest.take k).length = k := List.length_take_of_le (by omega)
    refine ⟨rest.take k, (List.take_append_drop k rest).symm, hall, by rwa [hlength], ?_⟩
    intro g hg
    rw [Option.mem_def.mp hg, Option.all_some, decide_eq_true_eq] at hgreatest
    rwa [hlength]
  · rintro ⟨taken, rfl, hall, hleast, hgreatest⟩
    refine ⟨taken.length, ⟨by rw [List.length_append]; omega, ⟨hleast, ?_⟩, ?_⟩, ?_⟩
    · cases greatest with
      | none => rfl
      | some g => simpa using hgreatest g rfl
    · rwa [List.take_left]
    · exact List.drop_left

lemma mem_rests_start {text rest left : List Nat} :
    left ∈ rests text .start rest ↔ left = rest ∧ rest.length = text.length := by
  rw [rests]
  by_cases h : rest.length = text.length
  · simp [h]
  · simp [h]

lemma mem_rests_stop {text rest left : List Nat} :
    left ∈ rests text .stop rest ↔ left = rest ∧ rest = [] := by
  rw [rests]
  cases rest with
  | nil => simp
  | cons n ns => simp

lemma tests_iff {ts : List Term} {text : List Nat} :
    tests ts text = true ↔
      ∃ rest, rest <:+ text ∧ ∃ left, left ∈ ts.foldl (fun rs t => rs.flatMap (rests text t)) [rest] := by
  rw [tests, List.any_eq_true]
  constructor
  · rintro ⟨i, -, hi⟩
    rw [Bool.not_eq_true', List.isEmpty_eq_false_iff_exists_mem] at hi
    exact ⟨text.drop i, List.drop_suffix i text, hi⟩
  · rintro ⟨rest, ⟨front, rfl⟩, hleft⟩
    refine ⟨front.length, List.mem_range.mpr (by rw [List.length_append]; omega), ?_⟩
    rw [Bool.not_eq_true', List.isEmpty_eq_false_iff_exists_mem, List.drop_left]
    exact hleft

/-- A repeated set between two anchors matches whole texts only. -/
theorem tests_anchored {letters : Letters} {least : Nat} {greatest : Option Nat} (text : List Nat) :
    tests [.start, .repeated letters least greatest, .stop] text = true ↔
      (∀ n ∈ text, letters.has n = true) ∧ least ≤ text.length ∧
        ∀ g ∈ greatest, text.length ≤ g := by
  simp only [tests_iff, List.foldl_cons, List.foldl_nil, List.mem_flatMap, List.mem_singleton,
    exists_eq_left, mem_rests_start, mem_rests_stop, mem_rests_repeated]
  constructor
  · rintro ⟨rest, hsuffix, left, _, ⟨_, ⟨rfl, hlength⟩, taken, rfl, hall, hcount⟩, -, rfl⟩
    have htext : taken ++ [] = text := hsuffix.eq_of_length hlength
    rw [List.append_nil] at htext
    exact htext ▸ ⟨hall, hcount⟩
  · rintro ⟨hall, hcount⟩
    exact ⟨text, List.suffix_rfl, [], [], ⟨text, ⟨rfl, rfl⟩, text, (List.append_nil text).symm, hall,
      hcount⟩, rfl, rfl⟩

end Pattern

end SchemaForge.JavaScript
