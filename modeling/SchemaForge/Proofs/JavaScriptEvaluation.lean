import SchemaForge.Proofs.JavaScriptGrammar
import SchemaForge.Proofs.JavaScriptPatterns
import SchemaForge.Proofs.RoundingOrder

/-!
# Values of expressions

An expression is evaluated with the variables in scope. There is no value where the language would
convert an operand, throw, or compare two objects. What there is of methods and functions is listed
here, and sums and products are those of numbers that are finite and not negative.
-/

namespace SchemaForge.JavaScript

inductive Value where
  | bool (b : Bool)
  | number (x : Binary64)
  /-- Code units of UTF-16. -/
  | string (us : List UInt16)
  | array (items : List Value)
  | pattern (terms : List Term)

namespace Value

def ofNat (n : Nat) : Value := number (Binary64.ofNat n)

def truthy : Value → Bool
  | bool b => b
  | number x => !x.isNaN && !x.isZero
  | string us => !us.isEmpty
  | array _ | pattern _ => true

/-- Objects are equal to themselves only, whatever they hold. -/
def isObject : Value → Bool
  | array _ | pattern _ => true
  | bool _ | number _ | string _ => false

/-- `===`, where not both values are objects. -/
def strictEquals : Value → Value → Bool
  | bool a, bool b => a == b
  | number x, number y => x.equals y
  | string us, string vs => us == vs
  | _, _ => false

def strictEquals? (v w : Value) : Option Bool :=
  if v.isObject && w.isObject then none else some (v.strictEquals w)

/-- The comparison of `includes`, for which NaN is equal to itself. -/
def sameValueZero : Value → Value → Bool
  | number x, number y => (x.isNaN && y.isNaN) || x.equals y
  | v, w => v.strictEquals w

/-- Arithmetic on numbers that are finite and not negative. -/
def arithmetic? (f : Binary64 → Binary64 → Binary64) (x y : Binary64) : Option Value :=
  if x.isFinite && !x.isNegative && y.isFinite && !y.isNegative then some (number (f x y)) else none

/-- The operators that always evaluate both operands. -/
def compute? : Operator → Value → Value → Option Value
  | .strictEq, v, w => (v.strictEquals? w).map bool
  | .strictNe, v, w => (v.strictEquals? w).map fun b => bool !b
  | .atLeast, number x, number y => some (bool (y.atMost x))
  | .atMost, number x, number y => some (bool (x.atMost y))
  | .greater, number x, number y => some (bool (y.below x))
  | .plus, number x, number y => arithmetic? Binary64.addNonneg x y
  | .times, number x, number y => arithmetic? Binary64.mulNonneg x y
  | _, _, _ => none

/-- The right operand may have no value: `||` and `&&` look at it only where the left one does not
decide, and give the operand that decides. -/
def operate? : Operator → Value → Option Value → Option Value
  | .or, v, right => if v.truthy then some v else right
  | .and, v, right => if v.truthy then right else some v
  | op, v, right => right.bind (compute? op v)

def property? (w : String) : Value → Option Value
  | array items => if w = "length" then some (ofNat items.length) else none
  | _ => none

/-- The parts between separators of one code unit. -/
def split? (us : List UInt16) : List UInt16 → Option Value
  | [separator] => some (array ((us.splitOn separator).map string))
  | _ => none

def method? (receiver : Value) (w : String) (args : List Value) : Option Value :=
  match receiver, args with
  | array items, [v] =>
    if w = "includes" ∧ v.isObject = false then some (bool (items.any (sameValueZero v))) else none
  | string us, [string vs] =>
    if w = "startsWith" then some (bool (vs.isPrefixOf us))
    else if w = "split" then split? us vs
    else none
  | pattern terms, [string us] =>
    if w = "test" then some (bool (Pattern.tests terms (us.map UInt16.toNat))) else none
  | _, _ => none

def isDigit (u : UInt16) : Bool := Letters.digit.has u.toNat

/-- The number of a text of digits. -/
def ofDigits (us : List UInt16) : Nat := us.foldl (fun n u => n * 10 + (u.toNat - '0'.toNat)) 0

/-- `Number`, on texts of digits whose number is exact. -/
def function? (w : String) : List Value → Option Value
  | [string us] =>
    if w = "Number" ∧ us ≠ [] ∧ us.all isDigit ∧ ofDigits us ≤ 2 ^ 53 then
      some (ofNat (ofDigits us))
    else none
  | _ => none

section Naturals

variable {m n : Nat}

lemma arithmetic?_ofNat (f : Binary64 → Binary64 → Binary64) (hm : m ≤ 2 ^ 53) (hn : n ≤ 2 ^ 53) :
    arithmetic? f (.ofNat m) (.ofNat n) = some (number (f (.ofNat m) (.ofNat n))) := by
  rw [arithmetic?, Binary64.isFinite_ofNat hm, Binary64.isFinite_ofNat hn,
    Binary64.isNegative_ofNat, Binary64.isNegative_ofNat]
  rfl

lemma compute?_plus (hm : m ≤ 2 ^ 53) (hn : n ≤ 2 ^ 53) :
    compute? .plus (ofNat m) (ofNat n) = some (ofNat (m + n)) := by
  have hsum := arithmetic?_ofNat Binary64.addNonneg hm hn
  rwa [Binary64.addNonneg_ofNat hm hn] at hsum

lemma compute?_times (hm : m ≤ 2 ^ 53) (hn : n ≤ 2 ^ 53) :
    compute? .times (ofNat m) (ofNat n) = some (ofNat (m * n)) := by
  have hproduct := arithmetic?_ofNat Binary64.mulNonneg hm hn
  rwa [Binary64.mulNonneg_ofNat hm hn] at hproduct

end Naturals

end Value

/-! ### Variables -/

structure Variable where
  mutable : Bool
  name : String
  value : Value

/-- The variables in scope, the newest one first. -/
abbrev Scope := List Variable

def Scope.get? (s : Scope) (w : String) : Option Value :=
  (s.find? fun x => x.name = w).map Variable.value

namespace Expr

mutual

/-- The value of an expression. -/
def eval (s : Scope) : Expr → Option Value
  | name w => s.get? w
  | bool b => some (.bool b)
  | number n => some (.ofNat n)
  | string us => some (.string us)
  | regex body => (Pattern.read? (codeUnits body)).map .pattern
  | array items => (evalItems s items).map .array
  | member e w => (eval s e).bind (Value.property? w)
  | call (member e w) args =>
    (eval s e).bind fun receiver => (evalItems s args).bind (receiver.method? w)
  | call (name w) args =>
    -- A variable would hide the function.
    if (s.get? w).isSome then none else (evalItems s args).bind (Value.function? w)
  | call _ _ => none
  | not e => (eval s e).map fun v => .bool (!v.truthy)
  | binary op e e' => (eval s e).bind fun v => Value.operate? op v (eval s e')

def evalItems (s : Scope) : List Expr → Option (List Value)
  | [] => some []
  | e :: es => (eval s e).bind fun v => (evalItems s es).map (v :: ·)

end

section Laws

variable {s : Scope} {e e' : Expr} {b b' : Bool} {v v' : Value}

lemma eval_name {w : String} (h : s.get? w = some v) : (name w).eval s = some v := h

lemma eval_bool (b : Bool) : (bool b).eval s = some (.bool b) := rfl

lemma eval_number (n : Nat) : (number n).eval s = some (.ofNat n) := rfl

lemma eval_string (us : List UInt16) : (string us).eval s = some (.string us) := rfl

lemma evalItems_cons {es : List Expr} {vs : List Value} (h : e.eval s = some v)
    (hs : evalItems s es = some vs) : evalItems s (e :: es) = some (v :: vs) := by
  change (e.eval s).bind (fun v => (evalItems s es).map (v :: ·)) = _
  rw [h, hs]
  rfl

lemma evalItems_map {α : Type} {expr : α → Expr} {value : α → Value}
    (h : ∀ x, (expr x).eval s = some (value x)) (xs : List α) :
    evalItems s (xs.map expr) = some (xs.map value) := by
  induction xs with
  | nil => rfl
  | cons x xs ih => exact evalItems_cons (h x) ih

/-- A method with one argument. -/
lemma eval_method (w : String) (h : e.eval s = some v) (h' : e'.eval s = some v') :
    (call (member e w) [e']).eval s = v.method? w [v'] := by
  have hargs : evalItems s [e'] = some [v'] := evalItems_cons h' rfl
  change (e.eval s).bind (fun receiver => (evalItems s [e']).bind (receiver.method? w)) = _
  rw [h, hargs]
  rfl

lemma eval_function {w : String} (hfree : s.get? w = none) (h : e.eval s = some v) :
    (call (name w) [e]).eval s = Value.function? w [v] := by
  have hargs : evalItems s [e] = some [v] := evalItems_cons h rfl
  change (if (s.get? w).isSome then none else (evalItems s [e]).bind (Value.function? w)) = _
  rw [hfree, hargs]
  rfl

lemma eval_not (h : e.eval s = some (.bool b)) : (not e).eval s = some (.bool !b) := by
  change (e.eval s).map (fun v => Value.bool (!v.truthy)) = _
  rw [h]
  rfl

lemma eval_operate (op : Operator) (h : e.eval s = some v) :
    (binary op e e').eval s = Value.operate? op v (e'.eval s) := by
  change (e.eval s).bind (fun v => Value.operate? op v (e'.eval s)) = _
  rw [h, Option.bind_some]

lemma eval_compute {op : Operator} (hop : 2 ≤ op.level) (h : e.eval s = some v)
    (h' : e'.eval s = some v') : (binary op e e').eval s = Value.compute? op v v' := by
  rw [eval_operate op h, h']
  cases op with
  | or => cases hop
  | and =>
    cases hop
    contradiction
  | _ => rfl

lemma eval_or (h : e.eval s = some (.bool b)) (h' : e'.eval s = some (.bool b')) :
    (binary .or e e').eval s = some (.bool (b || b')) := by
  rw [eval_operate .or h]
  cases b with
  | true => rfl
  | false => exact h'

lemma eval_and (h : e.eval s = some (.bool b)) (h' : e'.eval s = some (.bool b')) :
    (binary .and e e').eval s = some (.bool (b && b')) := by
  rw [eval_operate .and h]
  cases b with
  | true => exact h'
  | false => rfl

lemma eval_foldl_or {α : Type} {expr : α → Expr} {test : α → Bool} {xs : List α}
    (h : e.eval s = some (.bool b)) (hxs : ∀ x ∈ xs, (expr x).eval s = some (.bool (test x))) :
    (xs.foldl (fun e x => binary .or e (expr x)) e).eval s = some (.bool (b || xs.any test)) := by
  induction xs generalizing e b with
  | nil => simpa using h
  | cons x xs ih =>
    have hx := eval_or h (hxs x List.mem_cons_self)
    have hall := ih hx fun y hy => hxs y (List.mem_cons_of_mem x hy)
    rwa [Bool.or_assoc] at hall

lemma eval_foldl_and {α : Type} {expr : α → Expr} {test : α → Bool} {xs : List α}
    (h : e.eval s = some (.bool b)) (hxs : ∀ x ∈ xs, (expr x).eval s = some (.bool (test x))) :
    (xs.foldl (fun e x => binary .and e (expr x)) e).eval s = some (.bool (b && xs.all test)) := by
  induction xs generalizing e b with
  | nil => simpa using h
  | cons x xs ih =>
    have hx := eval_and h (hxs x List.mem_cons_self)
    have hall := ih hx fun y hy => hxs y (List.mem_cons_of_mem x hy)
    rwa [Bool.and_assoc] at hall

end Laws

end Expr

end SchemaForge.JavaScript
