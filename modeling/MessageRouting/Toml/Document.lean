import MessageRouting.Toml.Lines

/-!
# Assembling a configuration

The lines of a text are put together into one table. No key may be assigned
twice and no table defined twice; a table that was only passed through by the
header of an inner table may still be defined once.
-/

namespace MessageRouting.Toml

/-- How a table came to be: by its own header, on the way to an inner table that has one, or by a
dotted key. -/
inductive Origin where
  | header
  | passed
  | dotted
deriving DecidableEq

/-- A part of the configuration while it is assembled. The last table of an array comes first. -/
inductive Node where
  | value (value : Toml)
  | table (origin : Origin) (entries : List (String × Node))
  | tables (items : List (List (String × Node)))
deriving Inhabited

/-- The entries of one table. -/
abbrev Nodes := List (String × Node)

namespace Node

def find? (name : String) : Nodes → Option Node
  | [] => none
  | (other, node) :: rest => if name = other then some node else find? name rest

/-- The entries with one of them replaced, or a new one at the end. -/
def replace (name : String) (node : Node) : Nodes → Nodes
  | [] => [(name, node)]
  | (other, held) :: rest =>
      if name = other then (name, node) :: rest else (other, held) :: replace name node rest

/-- Changes the table at the end of a path by `change`. Missing tables on the way are made; of an
array of tables the last one is entered. -/
def descend (change : Nodes → Option Nodes) : Path → Nodes → Option Nodes
  | [], nodes => change nodes
  | name :: path, nodes =>
      match find? name nodes with
      | none => do
          let inner ← descend change path []
          return replace name (.table .passed inner) nodes
      | some (.value _) => none
      | some (.table origin inner) => do
          let inner ← descend change path inner
          return replace name (.table origin inner) nodes
      | some (.tables []) => none
      | some (.tables (last :: before)) => do
          let inner ← descend change path last
          return replace name (.tables (inner :: before)) nodes

/-- Assigns a value to the last name of a path within a table. The table that receives it must be
the current one or made by dotted keys. -/
def assign (path : Path) (value : Toml) (nodes : Nodes) : Option Nodes :=
  match path.reverse with
  | [] => none
  | name :: above => go name above.reverse nodes
where
  go (name : String) : Path → Nodes → Option Nodes
    | [], nodes =>
        match find? name nodes with
        | some _ => none
        | none => some (nodes ++ [(name, .value value)])
    | step :: path, nodes =>
        match find? step nodes with
        | none => do
            let inner ← go name path []
            return replace step (.table .dotted inner) nodes
        | some (.table .passed inner) =>
            -- a table without a header may be passed but not filled by a dotted key
            match path with
            | [] => none
            | _ => do
                let inner ← go name path inner
                return replace step (.table .passed inner) nodes
        | some (.table .dotted inner) => do
            let inner ← go name path inner
            return replace step (.table .dotted inner) nodes
        | some (.tables (last :: before)) =>
            match path with
            | [] => none
            | _ => do
                let inner ← go name path last
                return replace step (.tables (inner :: before)) nodes
        | _ => none

/-- Defines a table by its header, unless it is defined already. -/
def define (name : String) (nodes : Nodes) : Option Nodes :=
  match find? name nodes with
  | none => some (nodes ++ [(name, .table .header [])])
  | some (.table .passed inner) => some (replace name (.table .header inner) nodes)
  | _ => none

def begin (name : String) (nodes : Nodes) : Option Nodes :=
  match find? name nodes with
  | none => some (nodes ++ [(name, .tables [[]])])
  | some (.tables items) => some (replace name (.tables ([] :: items)) nodes)
  | _ => none

def atHeader (path : Path) (change : String → Nodes → Option Nodes) (nodes : Nodes) :
    Option Nodes :=
  match path.reverse with
  | [] => none
  | name :: above => descend (change name) above.reverse nodes

mutual

/-- The finished value of a part. -/
def toToml : Node → Toml
  | .value held => held
  | .table _ entries => .table (toEntries entries)
  | .tables items => .array (toItems items).reverse

/-- The finished values of the entries of a table. -/
def toEntries : List (String × Node) → List (String × Toml)
  | [] => []
  | (name, node) :: rest => (name, node.toToml) :: toEntries rest

def toItems : List (List (String × Node)) → List Toml
  | [] => []
  | entries :: rest => .table (toEntries entries) :: toItems rest

end

end Node

/-- Adds a line to the configuration. `current` is the path of the last header. -/
def addLine (current : Path) (nodes : Nodes) : Line → Option (Path × Nodes)
  | .tableHeader path => (Node.atHeader path Node.define nodes).map fun nodes => (path, nodes)
  | .arrayHeader path => (Node.atHeader path Node.begin nodes).map fun nodes => (path, nodes)
  | .assignment path value =>
      (Node.descend (Node.assign path value) current nodes).map fun nodes => (current, nodes)

def parse? (text : String) : Option Toml := do
  let lines ← lines? text
  let (_, nodes) ← lines.foldlM (fun (current, nodes) line => addLine current nodes line)
    (([], []) : Path × Nodes)
  return .table (Node.toEntries nodes)

end MessageRouting.Toml
