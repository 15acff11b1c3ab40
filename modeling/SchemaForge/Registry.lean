import SchemaForge.Definition.Basic
import SchemaForge.Entries

/-!
# Registry

Named definitions that references resolve against, in the order in which their names were first
registered. A name reaches the names that its definition refers to; `findCycle` searches for a
name that reaches itself.
-/

namespace SchemaForge

/-- Named definitions, each name once. -/
structure Registry where
  entries : Entries Definition := []
  nodup : entries.keys.Nodup := by exact List.nodup_nil

namespace Registry

def empty : Registry := {}

/-- Register a definition. A name that is already there keeps its position. -/
def register (reg : Registry) (name : String) (d : Definition) : Registry :=
  { entries := reg.entries.insert name d, nodup := Entries.nodup_keys_insert reg.nodup }

/-- Register the definitions of a list, one after the other. -/
def ofList (ds : List (String × Definition)) : Registry :=
  ds.foldl (fun reg (name, d) => reg.register name d) empty

/-- Remove every definition. -/
def clear (_ : Registry) : Registry := empty

def find? (reg : Registry) (name : String) : Option Definition := reg.entries.get? name

/-- The registered names in order. -/
def names (reg : Registry) : List String := reg.entries.keys

/-- The definitions with their names, in order. -/
def snapshot (reg : Registry) : List (String × Definition) := reg.entries

def contains (reg : Registry) (name : String) : Bool := (reg.find? name).isSome

def size (reg : Registry) : Nat := reg.entries.length

def isEmpty (reg : Registry) : Bool := reg.entries.isEmpty

/-- The names that definitions refer to and that are not registered, in the order in which they
appear first. -/
def unresolved (reg : Registry) : List String :=
  reg.entries.foldl
    (fun missing (_, d) =>
      d.references.foldl
        (fun missing name =>
          if !reg.contains name && !missing.contains name then missing ++ [name] else missing)
        missing)
    []

theorem mem_names_of_find? {reg : Registry} {name : String} {d : Definition}
    (h : reg.find? name = some d) : name ∈ reg.names :=
  Entries.mem_keys_of_get? h

/-- The number of registered names outside a list. -/
def countOutside (reg : Registry) (stack : List String) : Nat :=
  (reg.names.filter fun n => n ∉ stack).length

/-- Every registered name that is put on a stack leaves fewer names outside. -/
theorem countOutside_cons_lt {reg : Registry} {stack : List String} {name : String}
    {d : Definition} (hd : reg.find? name = some d) (hs : name ∉ stack) :
    reg.countOutside (name :: stack) < reg.countOutside stack := by
  have hmem : name ∈ reg.names.filter fun n => n ∉ stack := by
    simp [mem_names_of_find? hd, hs]
  have heq : (reg.names.filter fun n => n ∉ name :: stack) =
      (reg.names.filter fun n => n ∉ stack).filter fun n => n ≠ name := by
    rw [List.filter_filter]
    congr 1
    funext n
    simp
  unfold countOutside
  rw [heq]
  apply List.length_filter_lt_length_iff_exists.mpr
  exact ⟨name, hmem, by simp⟩

/-- A search from `name`, where `path` holds the names on the way, innermost first, and `visited`
the names from which no cycle was found. The result is the cycle or the names visited now. -/
def search (reg : Registry) (path : List String) (name : String) (visited : List String) :
    Except (List String) (List String) :=
  if _hp : name ∈ path then
    .error (path.reverse.dropWhile (· ≠ name) ++ [name])
  else if name ∈ visited then .ok visited
  else
    match _hd : reg.find? name with
    | none => .ok (name :: visited)
    | some d =>
      (d.references.foldlM (fun seen next => reg.search (name :: path) next seen) visited).map
        (name :: ·)
termination_by reg.countOutside path
decreasing_by exact countOutside_cons_lt _hd _hp

/-- A path of references from a name back to itself, if there is one: the first that a search
through the names in order finds. -/
def findCycle (reg : Registry) : Option (List String) :=
  match reg.names.foldlM (fun seen name => reg.search [] name seen) [] with
  | .error cycle => some cycle
  | .ok _ => none

end Registry

end SchemaForge
