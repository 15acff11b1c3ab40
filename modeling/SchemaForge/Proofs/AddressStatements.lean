import SchemaForge.Proofs.DottedQuads
import SchemaForge.Proofs.JavaScriptStatements
import SchemaForge.Refinement.Basic

/-!
# Addresses read by statements

The emitted statements read an address in a way of their own: they split code units instead of
characters, ask a regular expression for the digits, and add the groups up in a loop. Main
statement: the addresses are the texts of the grammar, every number of 32 bits is one of them, and
the statements, which are what their text reads as, agree on every text.
-/

namespace SchemaForge

namespace JavaScript

/-- Text is split alike by characters and by code units. -/
theorem splitOn_units {c : Char} (hc : c.toNat < 0xd800) (cs : List Char) :
    (units cs).splitOn (UInt16.ofNat c.toNat) = (cs.splitOn c).map units := by
  induction cs with
  | nil => rfl
  | cons x cs ih =>
    rw [units_cons]
    by_cases hx : x = c
    · have hunit : unitsOf x = [UInt16.ofNat c.toNat] := by
        rw [hx, unitsOf, if_pos (by omega)]
      rw [hunit, hx, List.singleton_append, splitOn_cons_self, splitOn_cons_self, ih]
      rfl
    · have hunits : UInt16.ofNat c.toNat ∉ unitsOf x := by
        intro hmem
        have hcode : c.toNat ∈ codeUnits [x] := by
          rw [codeUnits, units, List.flatMap_singleton]
          exact List.mem_map.mpr ⟨_, hmem, UInt16.toNat_ofNat_of_lt' (Nat.lt_trans hc (by decide))⟩
        rcases codeUnits_char x with h | ⟨-, -, h⟩
        · rw [h, List.mem_singleton, Char.toNat_inj] at hcode
          exact hx hcode.symm
        · have hle := h _ hcode
          omega
      rw [splitOn_append_of_not_mem hunits, splitOn_cons_of_ne hx, ih]
      cases cs.splitOn c with
      | nil => rfl
      | cons first others =>
        rw [List.map_cons, List.modifyHead_cons, List.modifyHead_cons, List.map_cons, units_cons]

lemma has_digit_iff (c : Char) : Letters.digit.has c.toNat = true ↔ c.isDigit = true := by
  rw [Char.isDigit_iff_toNat, Letters.has, Bool.and_eq_true, decide_eq_true_eq, decide_eq_true_eq]

lemma codeUnits_of_digits {ds : List Char} (h : ∀ d ∈ ds, d.isDigit = true) :
    codeUnits ds = ds.map Char.toNat := by
  induction ds with
  | nil => rfl
  | cons d ds ih =>
    obtain ⟨hd, hds⟩ := List.forall_mem_cons.mp h
    have hle := (Char.isDigit_iff_toNat.mp hd).2
    rw [codeUnits_cons, ih hds, List.map_cons]
    rcases codeUnits_char d with hunit | ⟨hge, -⟩
    · rw [hunit, List.singleton_append]
    · have h9 : '9'.toNat = 57 := rfl
      omega

lemma all_digits_codeUnits {ds : List Char} :
    (∀ u ∈ codeUnits ds, Letters.digit.has u = true) ↔ ∀ d ∈ ds, d.isDigit = true := by
  constructor
  · intro h
    induction ds with
    | nil => exact nofun
    | cons d ds ih =>
      rw [codeUnits_cons, List.forall_mem_append] at h
      refine List.forall_mem_cons.mpr ⟨?_, ih h.2⟩
      rcases codeUnits_char d with hunit | ⟨-, hne, hsurrogates⟩
      · rw [hunit, List.forall_mem_singleton, has_digit_iff] at h
        exact h.1
      · obtain ⟨u, hu⟩ := List.exists_mem_of_ne_nil _ hne
        have hdigit := h.1 u hu
        have hge := hsurrogates u hu
        rw [Letters.has, Bool.and_eq_true, decide_eq_true_eq, decide_eq_true_eq] at hdigit
        have h9 : '9'.toNat = 57 := rfl
        omega
  · intro h u hu
    rw [codeUnits_of_digits h] at hu
    obtain ⟨d, hd, rfl⟩ := List.mem_map.mp hu
    exact (has_digit_iff d).mpr (h d hd)

/-! ### The statements -/

def octetNumber : Expr := .call (.name "Number") [.name "octet"]

def pushedSubject : Expr :=
  .binary .plus (.binary .times (.name "subject") (.number 256)) octetNumber

def octetPattern : List Char := "^\\d\x7b1,3\x7d$".toList

def octetTest : Expr := .call (.member (.regex octetPattern) "test") [.name "octet"]

def isNoOctet : Expr := .binary .or (.not octetTest) (.binary .greater octetNumber (.number 255))

/-- The body of the loop. -/
def octetStatements : List Statement :=
  [.returnIf isNoOctet (.bool true), .assign "subject" pushedSubject]

def splitAtDots : Expr := .call (.member (.name "val") "split") [.string (units ['.'])]

def isNotFour : Expr := .binary .strictNe (.member (.name "octets") "length") (.number 4)

def addressStatements : List Statement :=
  [.declare false "octets" splitAtDots, .returnIf isNotFour (.bool true),
    .declare true "subject" (.number 0), .forOf "octet" (.name "octets") octetStatements]

/-! ### Their text -/

lemma derives_octetNumber :
    Derives 7 [.word "Number", .openParen, .word "octet", .closeParen] octetNumber :=
  (Derives.name (by decide)).callOne ((Derives.name (by decide)).of_le (by decide))

lemma derives_isNoOctet :
    Derives 0
      [.not, .regex octetPattern, .dot, .word "test", .openParen, .word "octet", .closeParen,
        .operator .or, .word "Number", .openParen, .word "octet", .closeParen, .operator .greater,
        .number 255]
      isNoOctet := by
  have htest : Derives 7 _ octetTest :=
    (Derives.regex octetPattern).method "test" ((Derives.name (by decide)).of_le (by decide))
  have hgreater : Derives 3 _ (.binary .greater octetNumber (.number 255)) :=
    .binary .greater (derives_octetNumber.of_le (by decide))
      ((Derives.number 255).of_le (by decide))
  have hnot : Derives 6 _ (.not octetTest) := .not htest.looser
  exact .binary .or (hnot.of_le (by decide)) (hgreater.of_le (by decide))

lemma derives_pushedSubject :
    Derives 0
      [.word "subject", .operator .times, .number 256, .operator .plus, .word "Number", .openParen,
        .word "octet", .closeParen]
      pushedSubject := by
  have htimes : Derives 5 _ (.binary .times (.name "subject") (.number 256)) :=
    .binary .times ((Derives.name (by decide)).of_le (by decide))
      ((Derives.number 256).of_le (by decide))
  have hplus : Derives 4 _ pushedSubject :=
    .binary .plus htimes.looser (derives_octetNumber.of_le (by decide))
  exact hplus.of_le (by decide)

lemma derives_splitAtDots :
    Derives 0 [.word "val", .dot, .word "split", .openParen, .string (units ['.']), .closeParen]
      splitAtDots := by
  have hval : Derives 7 [.word "val"] (.name "val") := .name (by decide)
  exact (hval.method "split" ((Derives.string _).of_le (by decide))).of_le (by decide)

lemma derives_isNotFour :
    Derives 0 [.word "octets", .dot, .word "length", .operator .strictNe, .number 4] isNotFour := by
  have hlength := Derives.member "length" (Derives.name (w := "octets") (by decide))
  have hne : Derives 2 _ isNotFour :=
    .binary .strictNe (hlength.of_le (by decide)) ((Derives.number 4).of_le (by decide))
  exact hne.of_le (by decide)

theorem isScript_prelude : IsScript Subject.ipv4Number.prelude addressStatements := by
  have hsplit : Scans .nothing
      "const octets = val.split(\".\"); if (octets.length !== 4) return true; "
      [.word "const", .word "octets", .assign, .word "val", .dot, .word "split", .openParen,
        .string (units ['.']), .closeParen, .semicolon, .word "if", .openParen, .word "octets", .dot,
        .word "length", .operator .strictNe, .number 4, .closeParen, .word "return", .word "true",
        .semicolon]
      .nothing := by decide +kernel
  have hloop : Scans .nothing "let subject = 0; for (const octet of octets) \x7b "
      [.word "let", .word "subject", .assign, .number 0, .semicolon, .word "for", .openParen,
        .word "const", .word "octet", .word "of", .word "octets", .closeParen, .openBrace]
      .nothing := by decide +kernel
  have htest : Scans .nothing
      "if (!/^\\d\x7b1,3\x7d$/.test(octet) || Number(octet) > 255) return true; "
      [.word "if", .openParen, .not, .regex octetPattern, .dot, .word "test", .openParen,
        .word "octet", .closeParen, .operator .or, .word "Number", .openParen, .word "octet",
        .closeParen, .operator .greater, .number 255, .closeParen, .word "return", .word "true",
        .semicolon]
      .nothing := by decide +kernel
  have hpush : Scans .nothing "subject = subject * 256 + Number(octet); \x7d"
      [.word "subject", .assign, .word "subject", .operator .times, .number 256, .operator .plus,
        .word "Number", .openParen, .word "octet", .closeParen, .semicolon, .closeBrace]
      .nothing := by decide +kernel
  have hbody := Block.returnIf derives_isNoOctet (Derives.true.of_le (Nat.zero_le 7))
    (.assign (w := "subject") (by decide) derives_pushedSubject .empty)
  have hforOf := Block.forOf (w := "octet") (by decide)
    ((Derives.name (w := "octets") (by decide)).of_le (Nat.zero_le 7)) hbody .empty
  have hsubject := Block.declare true (w := "subject") (by decide)
    ((Derives.number 0).of_le (Nat.zero_le 7)) hforOf
  have hcount := Block.returnIf derives_isNotFour (Derives.true.of_le (Nat.zero_le 7)) hsubject
  have hall := Block.declare false (w := "octets") (by decide) derives_splitAtDots hcount
  exact ⟨_, (((hsplit.append hloop).append htest).append hpush).reads.tokens?_eq, hall⟩

/-! ### One group -/

section Group

variable {s : Scope} {ds : List Char}

def octetTerms : List Term := [.start, .repeated .digit 1 (some 3), .stop]

lemma tests_octetTerms :
    Pattern.tests octetTerms (codeUnits ds) = true ↔
      (∀ d ∈ ds, d.isDigit = true) ∧ 1 ≤ ds.length ∧ ds.length ≤ 3 := by
  rw [octetTerms, Pattern.tests_anchored, all_digits_codeUnits]
  apply and_congr_right
  intro hdigits
  rw [codeUnits_of_digits hdigits, List.length_map]
  simp

lemma decimalValue_le (htest : Pattern.tests octetTerms (codeUnits ds) = true) :
    Ipv4.decimalValue ds ≤ 2 ^ 53 := by
  obtain ⟨hdigits, -, hlength⟩ := tests_octetTerms.mp htest
  have hlt := Ipv4.decimalValue_lt hdigits
  have hle : 10 ^ ds.length ≤ 10 ^ 3 := Nat.pow_le_pow_right (by omega) hlength
  omega

lemma ofDigits_units (h : ∀ d ∈ ds, d.isDigit = true) :
    Value.ofDigits (units ds) = Ipv4.decimalValue ds := by
  have hcode : Value.ofDigits (units ds) =
      (codeUnits ds).foldl (fun n u => n * 10 + (u - '0'.toNat)) 0 := by
    rw [codeUnits, List.foldl_map]
    rfl
  rw [hcode, codeUnits_of_digits h, List.foldl_map]
  rfl

lemma eval_octetNumber (hoctet : s.get? "octet" = some (.string (units ds)))
    (hfree : s.get? "Number" = none) (htest : Pattern.tests octetTerms (codeUnits ds) = true) :
    octetNumber.eval s = some (.ofNat (Ipv4.decimalValue ds)) := by
  obtain ⟨hdigits, hpos, hlength⟩ := tests_octetTerms.mp htest
  have hne : units ds ≠ [] := by
    intro hnil
    have hcode := codeUnits_of_digits hdigits
    rw [codeUnits, hnil, List.map_nil, eq_comm, List.map_eq_nil_iff] at hcode
    rw [hcode] at hpos
    cases hpos
  have hall : (units ds).all Value.isDigit = true := by
    rw [List.all_eq_true]
    intro u hu
    exact all_digits_codeUnits.mpr hdigits _ (List.mem_map_of_mem hu)
  have hnumber : Value.function? "Number" [.string (units ds)] =
      some (.ofNat (Ipv4.decimalValue ds)) := by
    rw [Value.function?, ofDigits_units hdigits, if_pos ⟨rfl, hne, hall, decimalValue_le htest⟩]
  rw [octetNumber, Expr.eval_function hfree (Expr.eval_name hoctet), hnumber]

lemma eval_octetTest (hoctet : s.get? "octet" = some (.string (units ds))) :
    octetTest.eval s = some (.bool (Pattern.tests octetTerms (codeUnits ds))) := by
  have hread : Pattern.read? (codeUnits octetPattern) = some octetTerms := by decide
  have hregex : (Expr.regex octetPattern).eval s = some (.pattern octetTerms) := by
    rw [Expr.eval, hread]
    rfl
  rw [octetTest, Expr.eval_method _ hregex (Expr.eval_name hoctet)]
  rfl

lemma eval_isNoOctet (hoctet : s.get? "octet" = some (.string (units ds)))
    (hfree : s.get? "Number" = none) :
    isNoOctet.eval s = some (.bool (Ipv4.octet? ds).isNone) := by
  have hnot := Expr.eval_not (eval_octetTest hoctet)
  by_cases htest : Pattern.tests octetTerms (codeUnits ds) = true
  · have hnumber := eval_octetNumber hoctet hfree htest
    obtain ⟨hdigits, hpos, hlength⟩ := tests_octetTerms.mp htest
    have hgreater : (Expr.binary .greater octetNumber (.number 255)).eval s =
        some (.bool (decide (255 < Ipv4.decimalValue ds))) := by
      rw [Expr.eval_compute (by decide) hnumber (Expr.eval_number 255), Value.ofNat, Value.ofNat,
        Value.compute?, Binary64.below_ofNat (by decide) (decimalValue_le htest)]
    have hnone : (Ipv4.octet? ds).isNone = decide (255 < Ipv4.decimalValue ds) := by
      rw [Ipv4.octet?]
      by_cases hle : Ipv4.decimalValue ds ≤ 255
      · rw [if_pos ⟨hpos, hlength, List.all_eq_true.mpr hdigits, hle⟩]
        simp [hle]
      · rw [if_neg fun h => hle h.2.2.2]
        simpa using hle
    rw [isNoOctet, Expr.eval_or hnot hgreater, htest, hnone]
    rfl
  · have hnone : Ipv4.octet? ds = none := by
      rw [Ipv4.octet?, if_neg]
      rintro ⟨hpos, hlength, hdigits, -⟩
      exact htest (tests_octetTerms.mpr ⟨List.all_eq_true.mp hdigits, hpos, hlength⟩)
    rw [Bool.eq_false_iff.mpr htest] at hnot
    rw [isNoOctet, Expr.eval_operate .or hnot, hnone]
    rfl

lemma eval_pushedSubject {n v : Nat} (hsubject : s.get? "subject" = some (.ofNat n))
    (hnumber : octetNumber.eval s = some (.ofNat v)) (h : n * 256 + v ≤ 2 ^ 53) :
    pushedSubject.eval s = some (.ofNat (n * 256 + v)) := by
  have hproduct : n * 256 ≤ 2 ^ 53 := Nat.le_trans (Nat.le_add_right _ v) h
  have hv : v ≤ 2 ^ 53 := Nat.le_trans (Nat.le_add_left v _) h
  have hn : n ≤ 2 ^ 53 := by omega
  have htimes : (Expr.binary .times (.name "subject") (.number 256)).eval s =
      some (.ofNat (n * 256)) := by
    rw [Expr.eval_compute (by decide) (Expr.eval_name hsubject) (Expr.eval_number 256),
      Value.compute?_times hn (by omega)]
  rw [pushedSubject, Expr.eval_compute (by decide) htimes hnumber,
    Value.compute?_plus hproduct hv]

/-- One pass of the loop. The scope of the body holds the group in front of the subject. -/
theorem pass_octetStatements {n : Nat} (hn : n < 2 ^ 44) (hfree : s.get? "Number" = none) :
    let outer : Scope := ⟨true, "subject", .ofNat n⟩ :: s
    (Statement.runAll octetStatements (⟨false, "octet", .string (units ds)⟩ :: outer)).leave outer =
      (Ipv4.pushOctet? n ds).elim (.returns (.bool true)) fun m =>
        .goesOn (⟨true, "subject", .ofNat m⟩ :: s) := by
  intro outer
  set inner : Scope := ⟨false, "octet", .string (units ds)⟩ :: outer
  have hoctet : inner.get? "octet" = some (.string (units ds)) := rfl
  have hsubject : inner.get? "subject" = some (.ofNat n) := rfl
  have hinner : inner.get? "Number" = none := hfree
  have htest := eval_isNoOctet hoctet hinner
  rw [octetStatements, Ipv4.pushOctet?]
  cases hds : Ipv4.octet? ds with
  | none =>
    rw [hds] at htest
    have hreturn := Statement.run_returnIf_of_true htest (Expr.eval_bool true)
    rw [Statement.runAll_cons_of_returns hreturn]
    rfl
  | some v =>
    rw [hds] at htest
    obtain ⟨hpos, hlength, hdigits, hv, hle⟩ := Ipv4.octet?_eq_some_iff.mp hds
    have hnumber := eval_octetNumber hoctet hinner (tests_octetTerms.mpr ⟨hdigits, hpos, hlength⟩)
    rw [Ipv4.decimalValue_eq, ← hv] at hnumber
    have hpushed := eval_pushedSubject hsubject hnumber (by omega)
    have hset : inner.set? "subject" (.ofNat (n * 256 + v)) =
        some (⟨false, "octet", .string (units ds)⟩ ::
          ⟨true, "subject", .ofNat (n * 256 + v)⟩ :: s) := rfl
    have hassign : (Statement.assign "subject" pushedSubject).run inner =
        .goesOn (⟨false, "octet", .string (units ds)⟩ ::
          ⟨true, "subject", .ofNat (n * 256 + v)⟩ :: s) := by
      rw [Statement.run, hpushed, Option.bind_some, hset]
      rfl
    rw [Statement.runAll_cons_of_goesOn (Statement.run_returnIf_of_false htest),
      Statement.runAll_singleton, hassign]
    simp [Outcome.leave, Outcome.bind, outer]

end Group

/-! ### All groups -/

/-- The loop is left in the pass that meets a text that is no group. The bound is on the groups that
have been read before. -/
theorem loop_octetStatements {s : Scope} (hfree : s.get? "Number" = none) (parts : List (List Char))
    {n k : Nat} (hn : n < 256 ^ k) (hk : k + parts.length ≤ 6) :
    Statement.loop "octet" (Statement.runAll octetStatements)
        (parts.map fun ds => .string (units ds)) (⟨true, "subject", .ofNat n⟩ :: s) =
      (parts.foldlM Ipv4.pushOctet? n).elim (.returns (.bool true)) fun m =>
        .goesOn (⟨true, "subject", .ofNat m⟩ :: s) := by
  induction parts generalizing n k with
  | nil => rfl
  | cons ds parts ih =>
    rw [List.length_cons] at hk
    have hlt : n < 2 ^ 44 := by
      have hle : 256 ^ k ≤ 256 ^ 5 := Nat.pow_le_pow_right (by omega) (by omega)
      omega
    rw [List.map_cons, Statement.loop, pass_octetStatements hlt hfree, List.foldlM_cons]
    cases hm : Ipv4.pushOctet? n ds with
    | none => rfl
    | some m => exact ih (Ipv4.pushOctet?_lt hn hm) (by omega)

/-- The variables that the statements start with. -/
def valueScope (t : String) : Scope := [⟨true, "val", .string (units t.toList)⟩]

/-- The parts between dots, as the statements hold them. -/
def partsValue (t : String) : Value :=
  .array ((t.toList.splitOn '.').map fun ds => .string (units ds))

lemma eval_splitAtDots (t : String) : splitAtDots.eval (valueScope t) = some (partsValue t) := by
  have hval : (valueScope t).get? "val" = some (.string (units t.toList)) := rfl
  have hunit : units ['.'] = [UInt16.ofNat '.'.toNat] := rfl
  rw [splitAtDots, Expr.eval_method _ (Expr.eval_name hval) (Expr.eval_string _), Value.method?,
    if_neg (by decide), if_pos rfl, hunit, Value.split?, splitOn_units (by decide), List.map_map,
    partsValue]
  rfl

lemma eval_isNotFour {s : Scope} {items : List Value} (h : s.get? "octets" = some (.array items)) :
    isNotFour.eval s = some (.bool (items.length ≠ 4)) := by
  have hlength : (Expr.member (.name "octets") "length").eval s = some (.ofNat items.length) := by
    rw [Expr.eval, Expr.eval_name h]
    rfl
  rw [isNotFour, Expr.eval_compute (by decide) hlength (Expr.eval_number 4)]
  simp [Value.compute?, Value.strictEquals?, Value.ofNat, Value.isObject, Value.strictEquals,
    Binary64.equals_ofNat_of_lt]

theorem run_addressStatements (t : String) :
    Statement.runAll addressStatements (valueScope t) =
      (Ipv4.address? t).elim (.returns (.bool true)) fun n =>
        .goesOn
          (⟨true, "subject", .ofNat n⟩ :: ⟨false, "octets", partsValue t⟩ :: valueScope t) := by
  set s : Scope := ⟨false, "octets", partsValue t⟩ :: valueScope t
  have hsplit : (Statement.declare false "octets" splitAtDots).run (valueScope t) = .goesOn s := by
    rw [Statement.run, eval_splitAtDots]
    rfl
  have hcount := eval_isNotFour (s := s) rfl
  rw [List.length_map] at hcount
  rw [addressStatements, Statement.runAll_cons_of_goesOn hsplit, Ipv4.address?,
    Ipv4.addressOfChars?_eq]
  by_cases hfour : (t.toList.splitOn '.').length = 4
  · have hfree : s.get? "Number" = none := rfl
    have hdeclare : (Statement.declare true "subject" (.number 0)).run s =
        .goesOn (⟨true, "subject", .ofNat 0⟩ :: s) := by
      rw [Statement.run, Expr.eval_number]
      rfl
    have hloop := loop_octetStatements hfree (t.toList.splitOn '.') (n := 0) (k := 0) (by decide)
      (by omega)
    rw [decide_eq_false (not_not_intro hfour)] at hcount
    rw [Statement.runAll_cons_of_goesOn (Statement.run_returnIf_of_false hcount),
      Statement.runAll_cons_of_goesOn hdeclare, Statement.runAll_singleton, if_pos hfour, ← hloop]
    rfl
  · rw [decide_eq_true hfour] at hcount
    have hreturn := Statement.run_returnIf_of_true hcount (Expr.eval_bool true)
    rw [Statement.runAll_cons_of_returns hreturn, if_neg hfour]
    rfl

end JavaScript

namespace Ipv4

open JavaScript

/-- Addresses. Digits are those of ASCII, and leading zeros are allowed. -/
theorem address?_reads_quads :
    (∀ t n, address? t = some n ↔ IsQuad t.toList n) ∧
    (∀ n : UInt32, address? (dottedQuad n) = some n.toNat) ∧
    (∀ ps, IsScript Subject.ipv4Number.prelude ps ↔ ps = addressStatements) ∧
    ∀ t, (∀ n, address? t = some n ↔
        ∃ s, Statement.runAll addressStatements (valueScope t) = .goesOn s ∧
          s.get? "subject" = some (.ofNat n)) ∧
      (address? t = none ↔
        Statement.runAll addressStatements (valueScope t) = .returns (.bool true)) := by
  refine ⟨fun t n => addressOfChars?_eq_some_iff,
    fun n => addressOfChars?_eq_some_iff.mpr (isQuad_dottedQuad n), fun ps => ?_, fun t => ?_⟩
  · constructor
    · exact isScript_prelude.unique
    · rintro rfl
      exact isScript_prelude
  · rw [run_addressStatements t]
    cases hm : address? t with
    | none => simp
    | some m =>
      have hlt := addressOfChars?_lt hm
      refine ⟨fun n => ⟨?_, ?_⟩, ?_⟩
      · intro h
        cases h
        exact ⟨_, rfl, rfl⟩
      · rintro ⟨s, hs, hsubject⟩
        cases hs
        have hvalue : Value.ofNat m = Value.ofNat n := Option.some.inj hsubject
        have hnumber := Value.number.inj hvalue
        rw [(Binary64.ofNat_inj (by omega)).mp hnumber.symm]
      · simp

end Ipv4

end SchemaForge
