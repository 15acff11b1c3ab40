import Mathlib.Algebra.Group.Int.Defs
import SchemaForge.Json.Reader
import SchemaForge.Proofs.Binary64Order

/-!
# Numbers of JSON values

The numbers that a JSON value can hold are integers of 64 bits, with or without sign, and finite
floating-point numbers. Reading a text gives no other ones, and the floating-point number nearest
to such an integer is finite.
-/

namespace SchemaForge

/-! ### Finite numbers -/

namespace Binary64

lemma isFinite_ofMagnitude (negative : Bool) {m : Nat} (hm : m < infinityMagnitude) :
    (ofMagnitude negative m).isFinite = true := by
  have hsign : m < signWeight := Nat.lt_trans hm (by decide)
  rw [isFinite, magnitude_ofMagnitude negative hsign]
  exact decide_eq_true hm

lemma isFinite_ofInt {n : Int} (hlow : -2 ^ 63 ≤ n) (hhigh : n < 2 ^ 64) :
    (ofInt n).isFinite = true :=
  isFinite_ofMagnitude _ (magnitudeOfRatio_lt_infinity (by omega))

end Binary64

namespace Entries

variable {α : Type}

lemma mem_of_mem_insert {name : String} {value : α} {xs : Entries α} {e : String × α}
    (h : e ∈ insert name value xs) : e = (name, value) ∨ e ∈ xs := by
  induction xs with
  | nil => exact Or.inl (List.mem_singleton.mp h)
  | cons x rest ih =>
    obtain ⟨key, v⟩ := x
    rw [insert] at h
    split_ifs at h with hk
    · rcases List.mem_cons.mp h with rfl | hrest
      · exact Or.inl (by rw [hk])
      · exact Or.inr (List.mem_cons_of_mem _ hrest)
    · rcases List.mem_cons.mp h with rfl | hrest
      · exact Or.inr List.mem_cons_self
      · rcases ih hrest with hnew | hold
        · exact Or.inl hnew
        · exact Or.inr (List.mem_cons_of_mem _ hold)

lemma mem_of_mem_ofList {xs : List (String × α)} {e : String × α} (h : e ∈ ofList xs) :
    e ∈ xs := by
  have hfold : ∀ (ys : List (String × α)) (acc : Entries α),
      e ∈ ys.foldl (fun acc y => insert y.1 y.2 acc) acc → e ∈ ys ∨ e ∈ acc := by
    intro ys
    induction ys with
    | nil => exact fun acc h => Or.inr h
    | cons y ys ih =>
      intro acc h
      rcases ih _ h with hys | hacc
      · exact Or.inl (List.mem_cons_of_mem _ hys)
      · rcases mem_of_mem_insert hacc with rfl | hold
        · exact Or.inl List.mem_cons_self
        · exact Or.inr hold
  rcases hfold xs [] h with hxs | hnil
  · exact hxs
  · cases hnil

end Entries

/-! ### Values -/

namespace Json

mutual

/-- All numbers are integers of 64 bits, signed or unsigned, or finite. -/
def numbersInRange : Json → Bool
  | int n => decide (-2 ^ 63 ≤ n ∧ n < 2 ^ 64)
  | real x => x.isFinite
  | arr items => itemsInRange items
  | obj fields => fieldsInRange fields
  | null | bool _ | str _ => true

def itemsInRange : List Json → Bool
  | [] => true
  | v :: rest => numbersInRange v && itemsInRange rest

def fieldsInRange : List (String × Json) → Bool
  | [] => true
  | (_, v) :: rest => numbersInRange v && fieldsInRange rest

end

lemma numbersInRange_arr {items : List Json} :
    (arr items).numbersInRange = true ↔ ∀ v ∈ items, v.numbersInRange = true := by
  rw [numbersInRange]
  induction items with
  | nil => simp [itemsInRange]
  | cons v rest ih => simp [itemsInRange, ih]

lemma numbersInRange_obj {fields : List (String × Json)} :
    (obj fields).numbersInRange = true ↔ ∀ f ∈ fields, f.2.numbersInRange = true := by
  rw [numbersInRange]
  induction fields with
  | nil => simp [fieldsInRange]
  | cons f rest ih =>
    obtain ⟨name, v⟩ := f
    rw [fieldsInRange, Bool.and_eq_true, ih, List.forall_mem_cons]

/-! ### Reading -/

namespace Reader

lemma numbersInRange_int {n : Int} (hlow : -2 ^ 63 ≤ n) (hhigh : n < 2 ^ 64) :
    (int n).numbersInRange = true := by
  rw [numbersInRange]
  exact decide_eq_true ⟨hlow, hhigh⟩

lemma numbersInRange_of_value? {n : NumberScan} {v : Json} (h : n.value? = some v) :
    v.numbersInRange = true := by
  have hreal : ∀ {e : Int},
      (if Binary64.magnitudeOfDecimal n.mantissa e < Binary64.infinityMagnitude then
        some (real (Binary64.ofMagnitude n.negative (Binary64.magnitudeOfDecimal n.mantissa e)))
      else none) = some v → v.numbersInRange = true := by
    intro e he
    split_ifs at he with hlt
    cases he
    exact Binary64.isFinite_ofMagnitude _ hlt
  unfold NumberScan.value? at h
  split at h
  case h_4 => exact hreal h
  all_goals
    split_ifs at h with hneg hlow hhigh
    · exact hreal h
    · cases h
      rw [Nat.pow_eq] at hlow
      exact numbersInRange_int (by omega) (by omega)
    · cases h
      rw [Nat.pow_eq] at hhigh
      exact numbersInRange_int (by omega) (by omega)
    · exact hreal h

/-- Everything that a waiting container holds is in range. -/
def Context.InRange : Context → Prop
  | .element done => ∀ v ∈ done, v.numbersInRange = true
  | .member done _ => ∀ f ∈ done, f.2.numbersInRange = true

def Mode.InRange : Mode → Prop
  | .listRest done => ∀ v ∈ done, v.numbersInRange = true
  | .objectKey done | .objectColon done _ | .objectRest done | .inString (some done) _ _ =>
    ∀ f ∈ done, f.2.numbersInRange = true
  | .finished v | .inWord _ v => v.numbersInRange = true
  | _ => True

/-- Everything that was read so far is in range. -/
structure State.InRange (s : State) : Prop where
  stack : ∀ c ∈ s.stack, c.InRange
  mode : s.mode.InRange

namespace State

variable {s : State} {v : Json}

lemma inRange_deliver (hs : ∀ c ∈ s.stack, c.InRange) (hv : v.numbersInRange = true) :
    (s.deliver v).InRange := by
  obtain ⟨stack, mode, place⟩ := s
  cases stack with
  | nil => exact ⟨hs, hv⟩
  | cons c rest =>
    obtain ⟨hc, hrest⟩ := List.forall_mem_cons.mp hs
    cases c with
    | element done => exact ⟨hrest, List.forall_mem_cons.mpr ⟨hv, hc⟩⟩
    | member done key => exact ⟨hrest, List.forall_mem_cons.mpr ⟨hv, hc⟩⟩

lemma inRange_stepString (hs : ∀ c ∈ s.stack, c.InRange) {keyOf : Option (List (String × Json))}
    (read : List Char) (escape : Escape) (c : Char)
    (hkey : ∀ done ∈ keyOf, ∀ f ∈ done, f.2.numbersInRange = true) :
    (s.stepString keyOf read escape c).InRange := by
  have hgo : ∀ read escape, ({ s with mode := .inString keyOf read escape } : State).InRange := by
    intro read escape
    refine ⟨hs, ?_⟩
    cases keyOf with
    | none => trivial
    | some done => exact hkey done rfl
  have hfail : ∀ cause place, (s.fail cause place).InRange := fun _ _ => ⟨hs, trivial⟩
  unfold stepString
  cases escape with
  | none =>
    dsimp only
    split_ifs
    · cases keyOf with
      | none => exact inRange_deliver hs rfl
      | some done => exact ⟨hs, hkey done rfl⟩
    · exact hgo _ _
    · exact hfail _ _
    · exact hgo _ _
  | backslash =>
    dsimp only
    split_ifs
    · exact hgo _ _
    · split
      · exact hgo _ _
      · exact hfail _ _
  | hex due value bad lead =>
    cases lead with
    | none =>
      dsimp only
      split_ifs
      · exact hgo _ _
      · exact hfail _ _
      · exact hfail _ _
      · exact hgo _ _
      · exact hgo _ _
    | some high =>
      dsimp only
      split_ifs
      · exact hgo _ _
      · exact hfail _ _
      · exact hgo _ _
      · exact hfail _ _
  | secondBackslash lead =>
    dsimp only
    split_ifs
    · exact hgo _ _
    · exact hfail _ _
  | secondU lead =>
    dsimp only
    split_ifs
    · exact hgo _ _
    · exact hfail _ _

lemma inRange_stepValue (limit : Option Nat) (hs : ∀ c ∈ s.stack, c.InRange) (c : Char) :
    (s.stepValue limit c).InRange := by
  have henter : ∀ mode : Mode, mode.InRange → (s.enter limit mode c).InRange := by
    intro mode hmode
    unfold enter
    cases limit with
    | none => exact ⟨hs, hmode⟩
    | some depth =>
      dsimp only
      split_ifs
      · exact ⟨hs, trivial⟩
      · exact ⟨hs, hmode⟩
  unfold stepValue
  split_ifs
  · exact ⟨hs, trivial⟩
  · exact henter _ trivial
  · exact henter _ trivial
  · exact ⟨hs, rfl⟩
  · exact ⟨hs, rfl⟩
  · exact ⟨hs, rfl⟩
  · exact ⟨hs, trivial⟩
  · exact ⟨hs, trivial⟩
  · exact ⟨hs, trivial⟩
  · exact ⟨hs, trivial⟩

lemma inRange_stepBetween (limit : Option Nat) (hs : s.InRange) (c : Char) :
    (s.stepBetween limit c).InRange := by
  obtain ⟨stack, mode, place⟩ := s
  obtain ⟨hstack, hmode⟩ := hs
  dsimp only at hstack hmode
  unfold stepBetween
  by_cases hblank : isBlank c = true
  · rw [if_pos hblank]
    exact ⟨hstack, hmode⟩
  rw [if_neg hblank]
  cases mode with
  | value afterComma =>
    dsimp only
    split_ifs
    · exact ⟨hstack, trivial⟩
    · exact inRange_stepValue limit hstack c
  | listStart =>
    dsimp only
    split_ifs
    · exact inRange_deliver hstack rfl
    · apply inRange_stepValue
      exact List.forall_mem_cons.mpr ⟨by simp [Context.InRange], hstack⟩
  | listRest done =>
    dsimp only
    split_ifs
    · apply inRange_deliver hstack
      exact numbersInRange_arr.mpr fun v hv => hmode v (List.mem_reverse.mp hv)
    · exact ⟨List.forall_mem_cons.mpr ⟨hmode, hstack⟩, trivial⟩
    · exact ⟨hstack, trivial⟩
  | objectStart =>
    dsimp only
    split_ifs
    · exact inRange_deliver hstack rfl
    · exact ⟨hstack, by simp [Mode.InRange]⟩
    · exact ⟨hstack, trivial⟩
  | objectKey done =>
    dsimp only
    split_ifs
    · exact ⟨hstack, trivial⟩
    · exact ⟨hstack, hmode⟩
    · exact ⟨hstack, trivial⟩
  | objectColon done key =>
    dsimp only
    split_ifs
    · exact ⟨List.forall_mem_cons.mpr ⟨hmode, hstack⟩, trivial⟩
    · exact ⟨hstack, trivial⟩
  | objectRest done =>
    dsimp only
    split_ifs
    · apply inRange_deliver hstack
      refine numbersInRange_obj.mpr fun f hf => hmode f ?_
      exact List.mem_reverse.mp (Entries.mem_of_mem_ofList hf)
    · exact ⟨hstack, hmode⟩
    · exact ⟨hstack, trivial⟩
  | finished v => exact ⟨hstack, trivial⟩
  | inString _ _ _ | inNumber _ | inWord _ _ | failed _ => exact ⟨hstack, hmode⟩

theorem inRange_step (limit : Option Nat) (hs : s.InRange) (c : Char) :
    (s.step limit c).InRange := by
  obtain ⟨stack, mode, place⟩ := s
  have hbetween := inRange_stepBetween limit hs c
  obtain ⟨hstack, hmode⟩ := hs
  dsimp only at hstack hmode
  have hplace : ∀ {t : State} {p : Place}, t.InRange → ({ t with place := p } : State).InRange :=
    fun ht => ⟨ht.stack, ht.mode⟩
  cases mode with
  | failed f => exact ⟨hstack, trivial⟩
  | inString keyOf read escape =>
    apply hplace
    apply inRange_stepString hstack
    rintro done rfl
    exact hmode
  | inWord due v =>
    apply hplace
    dsimp only
    split
    · exact ⟨hstack, trivial⟩
    · split_ifs
      · exact inRange_deliver hstack hmode
      · exact ⟨hstack, trivial⟩
    · split_ifs
      · exact ⟨hstack, hmode⟩
      · exact ⟨hstack, trivial⟩
  | inNumber n =>
    apply hplace
    dsimp only
    split
    · exact ⟨hstack, trivial⟩
    · exact ⟨hstack, trivial⟩
    · split
      case h_1 v hv =>
        exact inRange_stepBetween limit (inRange_deliver hstack (numbersInRange_of_value? hv)) c
      case h_2 => exact ⟨hstack, trivial⟩
  | value _ | listStart | listRest _ | objectStart | objectKey _ | objectColon _ _ | objectRest _
  | finished _ => exact hplace hbetween

theorem inRange_run (limit : Option Nat) (hs : s.InRange) (text : List Char) :
    (text.foldl (step limit) s).InRange := by
  induction text generalizing s with
  | nil => exact hs
  | cons c rest ih => exact ih (inRange_step limit hs c)

lemma numbersInRange_of_finish (hs : s.InRange) (h : s.finish = .ok v) :
    v.numbersInRange = true := by
  obtain ⟨stack, mode, place⟩ := s
  obtain ⟨hstack, hmode⟩ := hs
  dsimp only at hstack hmode
  cases mode with
  | finished w =>
    cases h
    exact hmode
  | inNumber n =>
    unfold finish at h
    dsimp only at h
    split_ifs at h
    split at h
    case h_1 => cases h
    case h_2 w hw =>
      cases stack with
      | nil =>
        cases h
        exact numbersInRange_of_value? hw
      | cons c rest => cases c <;> cases h
  | failed _ | value _ | objectKey _ | inWord _ _ | listStart | listRest _ | objectStart
  | objectColon _ _ | objectRest _ | inString _ _ _ => cases h

end State

end Reader

/-- Every number that is read from a text is in range. -/
theorem numbersInRange_of_readWithin {limit : Option Nat} {text : String} {v : Json}
    (h : readWithin limit text = .ok v) : v.numbersInRange = true := by
  have hstart : ({} : Reader.State).InRange := ⟨by simp, trivial⟩
  exact Reader.State.numbersInRange_of_finish (Reader.State.inRange_run limit hstart _) h

end Json

end SchemaForge
