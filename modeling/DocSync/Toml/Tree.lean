import DocSync.Toml.Basic

/-!
# Tables as a document defines them

A table may be defined by a header, by headers of tables inside it, or by dotted keys, and an array
of tables grows by one header after the other. How a table came about decides what may still be
added to it: no table is defined twice, a table with a header takes nothing through dotted keys from
outside, and what is written as a value, inline tables included, is closed.
-/
namespace DocSync.Toml

inductive Node
  | leaf (v : Toml)
  /-- `implicit`: no header of its own so far; `dotted`: made by a dotted key. -/
  | table (implicit dotted : Bool) (entries : List (String × Node))
  | tables (items : List (List (String × Node)))

/-- A table while keys are added. -/
structure OpenTable where
  implicit : Bool := false
  dotted : Bool := false
  entries : List (String × Node) := []

namespace OpenTable

def node (t : OpenTable) : Node := .table t.implicit t.dotted t.entries

def find? (t : OpenTable) (key : String) : Option Node := t.entries.lookup key

/-- The table with a key set. -/
def set (t : OpenTable) (key : String) (n : Node) : OpenTable :=
  if t.entries.any fun (k, _) => k == key then
    { t with entries := t.entries.map fun (k, m) => (k, if k = key then n else m) }
  else { t with entries := t.entries ++ [(key, n)] }

/-- Works on the table that a path leads to, and makes the tables that are missing on the way. -/
def descend (dotted : Bool) (work : OpenTable → Option OpenTable) :
    List String → OpenTable → Option OpenTable
  | [], t => work t
  | key :: rest, t =>
    match t.find? key with
    | none => (descend dotted work rest ⟨true, dotted, []⟩).map fun s => t.set key s.node
    | some (.table implicit made entries) =>
      if dotted && !implicit then none
      else (descend dotted work rest ⟨implicit, made, entries⟩).map fun s => t.set key s.node
    | some (.tables items) => do
      let last ← items.getLast?
      let s ← descend dotted work rest ⟨false, false, last⟩
      some (t.set key (.tables (items.dropLast ++ [s.entries])))
    | some (.leaf _) => none

/-- Sets a key of the table that the first keys lead to. -/
def assign (first : List String) (key : String) (v : Toml) (t : OpenTable) : Option OpenTable :=
  t.descend true
    (fun s =>
      if s.dotted == first.isEmpty || (s.find? key).isSome then none
      else some (s.set key (.leaf v)))
    first

/-- What a table header does to the table that holds the last key. -/
def define (key : String) (t : OpenTable) : Option OpenTable :=
  match t.find? key with
  | none => some (t.set key (.table false false []))
  | some (.table true false entries) => some (t.set key (.table false false entries))
  | _ => none

/-- What the header of an array of tables does to the table that holds the last key. -/
def extend (key : String) (t : OpenTable) : Option OpenTable :=
  match t.find? key with
  | none => some (t.set key (.tables [[]]))
  | some (.tables items) => some (t.set key (.tables (items ++ [[]])))
  | _ => none

end OpenTable

/-- A key is a path of at least one name. -/
structure Key where
  first : List String
  last : String

def Key.path (k : Key) : List String := k.first ++ [k.last]

inductive Statement
  | header (k : Key)
  | arrayHeader (k : Key)
  | assign (k : Key) (v : Toml)

/-- A document so far: all of it, and where keys go. -/
structure Builder where
  root : OpenTable := {}
  current : List String := []

def Builder.step (b : Builder) : Statement → Option Builder
  | .header k =>
    (b.root.descend false (OpenTable.define k.last) k.first).map fun root => ⟨root, k.path⟩
  | .arrayHeader k =>
    (b.root.descend false (OpenTable.extend k.last) k.first).map fun root => ⟨root, k.path⟩
  | .assign k v =>
    (b.root.descend false (OpenTable.assign k.first k.last v) b.current).map fun root =>
      { b with root }

mutual

def Node.toToml : Node → Toml
  | .leaf v => v
  | .table _ _ entries => .table (entriesToToml entries)
  | .tables items => .array (itemsToToml items)

def entriesToToml : List (String × Node) → List (String × Toml)
  | [] => []
  | (key, n) :: rest => (key, n.toToml) :: entriesToToml rest

def itemsToToml : List (List (String × Node)) → List Toml
  | [] => []
  | item :: rest => .table (entriesToToml item) :: itemsToToml rest

end

/-- The table that statements define. -/
def ofStatements? (statements : List Statement) : Option Toml :=
  (statements.foldlM Builder.step {}).map fun b => b.root.node.toToml

/-- The table that the keys of an inline table define. -/
def ofAssignments? (assignments : List (Key × Toml)) : Option Toml :=
  let add (t : OpenTable) (a : Key × Toml) : Option OpenTable := t.assign a.1.first a.1.last a.2
  (assignments.foldlM add ⟨true, false, []⟩).map fun t => t.node.toToml

end DocSync.Toml
