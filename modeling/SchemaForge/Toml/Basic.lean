import SchemaForge.Entries

/-!
# TOML documents

Values, and the tables that a document builds up from its headers and assignments. A table can be
defined once: by a header, by the dotted keys of one section, or in line.
-/

namespace SchemaForge

/-- A value. Numbers and times stand for themselves alone, because no setting has one. -/
inductive Toml where
  | text (s : String)
  | bool (b : Bool)
  | number
  | time
  | list (items : List Toml)
  | table (entries : List (String × Toml))

namespace Toml

/-- How a table came about. -/
inductive Origin where
  | header
  /-- From a header of a table below it. -/
  | implied
  /-- From a dotted key. -/
  | dotted
  deriving DecidableEq

/-- What a name stands for while a document is read. -/
inductive Item where
  /-- A complete value, which nothing can extend. -/
  | value (v : Toml)
  | table (origin : Origin) (entries : List (String × Item))
  /-- A list of tables, of which the last can be extended. -/
  | tables (elements : List (List (String × Item)))

/-- A line of a document. -/
inductive Statement where
  | header (path : List String)
  | elementHeader (path : List String)
  | assign (path : List String) (value : Toml)

/-- Assign a value to a dotted key. A key goes into the table of its section or into one that
dotted keys made; `direct` says whether that holds of the table at hand. -/
def assign (direct : Bool) (v : Toml) :
    List String → Entries Item → Option (Entries Item)
  | [], _ => none
  | [k], es => if direct && (es.get? k).isNone then some (es.insert k (.value v)) else none
  | k :: rest, es =>
    match es.get? k with
    | none => (assign true v rest []).map fun sub => es.insert k (.table .dotted sub)
    | some (.table .dotted sub) =>
      (assign true v rest sub).map fun sub => es.insert k (.table .dotted sub)
    | some (.table .implied sub) =>
      (assign false v rest sub).map fun sub => es.insert k (.table .implied sub)
    | some (.tables elements) =>
      match elements.reverse with
      | [] => none
      | last :: others =>
        (assign false v rest last).map fun last =>
          es.insert k (.tables (last :: others).reverse)
    | some (.table .header _) | some (.value _) => none

/-- Change the table that a header path leads to, making the tables on the way. -/
def within (change : Entries Item → Option (Entries Item)) :
    List String → Entries Item → Option (Entries Item)
  | [], es => change es
  | k :: rest, es =>
    match es.get? k with
    | none => (within change rest []).map fun sub => es.insert k (.table .implied sub)
    | some (.table origin sub) =>
      (within change rest sub).map fun sub => es.insert k (.table origin sub)
    | some (.tables elements) =>
      match elements.reverse with
      | [] => none
      | last :: others =>
        (within change rest last).map fun last => es.insert k (.tables (last :: others).reverse)
    | some (.value _) => none

/-- Define a table that has no definition yet. -/
def openTable (k : String) (es : Entries Item) : Option (Entries Item) :=
  match es.get? k with
  | none => some (es.insert k (.table .header []))
  | some (.table .implied sub) => some (es.insert k (.table .header sub))
  | some _ => none

/-- Add a table to a list of tables. -/
def openElement (k : String) (es : Entries Item) : Option (Entries Item) :=
  match es.get? k with
  | none => some (es.insert k (.tables [[]]))
  | some (.tables elements) => some (es.insert k (.tables (elements ++ [[]])))
  | some _ => none

/-- The tables of statements, from those before and the section that is open. -/
def build (es : Entries Item) (current : List String) : List Statement → Option (Entries Item)
  | [] => some es
  | .assign path v :: rest => do
    let es ← within (assign true v path) current es
    build es current rest
  | .header path :: rest => do
    let k ← path.getLast?
    let es ← within (openTable k) path.dropLast es
    build es path rest
  | .elementHeader path :: rest => do
    let k ← path.getLast?
    let es ← within (openElement k) path.dropLast es
    build es path rest

mutual

/-- The value of an item once the document is complete. -/
def Item.toToml : Item → Toml
  | .value v => v
  | .table _ entries => .table (entriesToToml entries)
  | .tables elements => .list (tablesToToml elements)

def entriesToToml : List (String × Item) → List (String × Toml)
  | [] => []
  | (k, i) :: rest => (k, i.toToml) :: entriesToToml rest

def tablesToToml : List (List (String × Item)) → List Toml
  | [] => []
  | es :: rest => .table (entriesToToml es) :: tablesToToml rest

end

/-- The table of statements. -/
def ofStatements (ss : List Statement) : Option (List (String × Toml)) :=
  (build [] [] ss).map entriesToToml

end Toml

end SchemaForge
