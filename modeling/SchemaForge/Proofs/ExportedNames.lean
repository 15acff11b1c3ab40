import SchemaForge.Proofs.ModuleExports
import SchemaForge.Proofs.SchemaExpression

/-!
# Names of exported constants and types

Sanitizing looks at one character at a time. It leaves identifier characters only, but neither the
length of a name nor a digit at its beginning changes, so whether the names of an export can be
declared depends on the registered name. Main statement: a module has only usable names exactly
when no registered name is empty, begins with a digit or is the name that the module imports.
-/

namespace SchemaForge

namespace Schema

/-- A name of identifier characters that is not empty and does not begin with a digit. -/
def isIdentifier (s : String) : Bool :=
  s.toList.all isIdentifierChar && s.toList.head?.any fun c => !c.isDigit

def beginsWithDigit (s : String) : Bool := s.toList.head?.any Char.isDigit

/-- A name that a module can declare beside `z`, which it imports. -/
def isDeclarable (s : String) : Bool := isIdentifier s && s ≠ "z"

variable (name : String)

lemma toList_sanitize :
    (sanitize name).toList = name.toList.map fun c => if isIdentifierChar c then c else '_' := by
  rw [sanitize, String.toList_ofList]

lemma forall_mem_sanitize_isIdentifierChar :
    ∀ c ∈ (sanitize name).toList, isIdentifierChar c = true :=
  fun _ hc => isIdentifierChar_of_mem_sanitize hc

lemma forall_mem_identifier_isIdentifierChar :
    ∀ c ∈ (identifier name).toList, isIdentifierChar c = true := by
  rw [identifier, String.toList_append, List.forall_mem_append]
  exact ⟨forall_mem_sanitize_isIdentifierChar name, List.all_eq_true.mp (by decide)⟩

/-- A character is replaced by no digit, and digits are kept. -/
lemma isDigit_sanitized (c : Char) :
    (if isIdentifierChar c then c else '_').isDigit = c.isDigit := by
  by_cases hc : isIdentifierChar c = true
  · rw [if_pos hc]
  · have hdigit : c.isDigit = false := by
      by_contra hne
      exact hc (isIdentifierChar_of_isDigit (by simpa using hne))
    rw [if_neg hc, hdigit]
    decide

lemma isIdentifier_iff {s : String} (h : ∀ c ∈ s.toList, isIdentifierChar c = true) :
    isIdentifier s = true ↔ s ≠ "" ∧ beginsWithDigit s = false := by
  have hall : s.toList.all isIdentifierChar = true := List.all_eq_true.mpr h
  unfold isIdentifier beginsWithDigit
  rw [hall, Bool.true_and]
  cases hs : s.toList with
  | nil =>
    have hempty : s = "" := String.toList_eq_nil_iff.mp hs
    simp [hempty]
  | cons c cs =>
    have hne : s ≠ "" := fun h => by simp [h] at hs
    simp [hne]

lemma sanitize_eq_empty_iff : sanitize name = "" ↔ name = "" := by
  rw [← String.toList_eq_nil_iff, toList_sanitize, List.map_eq_nil_iff, String.toList_eq_nil_iff]

lemma beginsWithDigit_sanitize : beginsWithDigit (sanitize name) = beginsWithDigit name := by
  unfold beginsWithDigit
  rw [toList_sanitize]
  cases name.toList with
  | nil => rfl
  | cons c cs => exact isDigit_sanitized c

lemma beginsWithDigit_identifier : beginsWithDigit (identifier name) = beginsWithDigit name := by
  rw [← beginsWithDigit_sanitize name]
  unfold beginsWithDigit
  rw [identifier, String.toList_append]
  cases (sanitize name).toList with
  | nil => decide
  | cons c cs => rfl

lemma isIdentifier_sanitize_iff :
    isIdentifier (sanitize name) = true ↔ name ≠ "" ∧ beginsWithDigit name = false := by
  rw [isIdentifier_iff (forall_mem_sanitize_isIdentifierChar name), beginsWithDigit_sanitize, ne_eq,
    ne_eq, sanitize_eq_empty_iff]

lemma isIdentifier_identifier_iff :
    isIdentifier (identifier name) = true ↔ beginsWithDigit name = false := by
  have hne : identifier name ≠ "" := by
    intro h
    have hlist := congrArg String.toList h
    rw [identifier, String.toList_append] at hlist
    simp at hlist
  rw [isIdentifier_iff (forall_mem_identifier_isIdentifierChar name), beginsWithDigit_identifier]
  exact and_iff_right hne

lemma identifier_ne_z : identifier name ≠ "z" := by
  intro h
  have hlength := congrArg (fun s => s.toList.length) h
  simp [identifier] at hlength

lemma sanitize_eq_z_iff : sanitize name = "z" ↔ name = "z" := by
  constructor
  · intro h
    have hlist : (sanitize name).toList = ['z'] := congrArg String.toList h
    rw [toList_sanitize, List.map_eq_singleton_iff] at hlist
    obtain ⟨c, hname, hc⟩ := hlist
    have hz : c = 'z' := by
      by_cases hid : isIdentifierChar c = true
      · rwa [if_pos hid] at hc
      · rw [if_neg hid] at hc
        exact absurd hc (by decide)
    rw [← String.toList_inj, hname, hz]
    rfl
  · rintro rfl
    decide

end Schema

namespace Module

open Schema

variable {reg : Registry} {options : ModuleOptions} {m : Module}

/-- The names of an export as far as its registered name decides them. All their characters are
identifier characters. The constant can be declared unless the name begins with a digit; the type
can be declared unless, moreover, the name is empty or the imported one. So all names of a module
can be declared exactly when no registered name is of these three sorts. -/
theorem generate_names_declarable_iff (h : generate options reg = .ok m) :
    m.exports.map Export.name = reg.names ∧
      (∀ x ∈ m.exports,
        (∀ c ∈ x.schemaName.toList, isIdentifierChar c = true) ∧
          (∀ c ∈ x.typeName.toList, isIdentifierChar c = true) ∧
          (isIdentifier x.schemaName = true ↔ beginsWithDigit x.name = false) ∧
          x.schemaName ≠ "z" ∧
          (isIdentifier x.typeName = true ↔ x.name ≠ "" ∧ beginsWithDigit x.name = false) ∧
          (x.typeName = "z" ↔ x.name = "z")) ∧
      ((∀ x ∈ m.exports, isDeclarable x.schemaName = true ∧ isDeclarable x.typeName = true) ↔
        ∀ name ∈ reg.names, name ≠ "" ∧ beginsWithDigit name = false ∧ name ≠ "z") := by
  obtain ⟨-, rfl⟩ := generate_eq_ok_iff.mp h
  rw [exports_assemble]
  refine ⟨?_, ?_, ?_⟩
  · rw [List.map_map]
    exact List.map_id _
  · rw [List.forall_mem_map]
    intro name _
    exact ⟨forall_mem_identifier_isIdentifierChar name, forall_mem_sanitize_isIdentifierChar name,
      isIdentifier_identifier_iff name, identifier_ne_z name, isIdentifier_sanitize_iff name,
      sanitize_eq_z_iff name⟩
  · rw [List.forall_mem_map]
    refine forall₂_congr fun name _ => ?_
    simp only [Export.ofName, isDeclarable, Bool.and_eq_true, decide_eq_true_eq,
      isIdentifier_identifier_iff, isIdentifier_sanitize_iff, ne_eq, identifier_ne_z,
      sanitize_eq_z_iff]
    tauto

/-- Names with other characters than those of identifiers, in all places. -/
theorem generate_names_declarable_of_sanitized :
    let reg := Registry.ofList
      [("-", .leaf (.plain .null) []), ("#/types/1", .ref "-" []), ("\u0661z", .ref "no" [])]
    ∃ m, generate {} reg = .ok m ∧
      ∀ x ∈ m.exports, isDeclarable x.schemaName = true ∧ isDeclarable x.typeName = true := by
  intro reg
  have hok : generate {} reg = .ok (assemble {} reg) := generate_eq_ok_iff.mpr ⟨by decide, rfl⟩
  exact ⟨_, hok, (generate_names_declarable_iff hok).2.2.mpr (by decide)⟩

/-- A name that begins with a digit, the empty name and the imported name are exported under names
that cannot be declared. -/
theorem generate_names_not_declarable :
    let reg := Registry.ofList
      [("1a", .leaf (.plain .null) []), ("", .leaf (.plain .null) []),
        ("z", .leaf (.plain .null) [])]
    ∃ m, generate {} reg = .ok m ∧
      m.exports = [⟨"1a", "1aSchema", "1a"⟩, ⟨"", "Schema", ""⟩, ⟨"z", "zSchema", "z"⟩] ∧
      isIdentifier "1aSchema" = false ∧ isIdentifier "1a" = false ∧ isIdentifier "" = false ∧
      isDeclarable "z" = false := by
  intro reg
  have hok : generate {} reg = .ok (assemble {} reg) := generate_eq_ok_iff.mpr ⟨by decide, rfl⟩
  exact ⟨_, hok, by decide +kernel, by decide, by decide, by decide, by decide⟩

end Module

end SchemaForge
