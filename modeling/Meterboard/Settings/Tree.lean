import Meterboard.Toml.Document

/-!
# Trees of settings

Settings come from several layers.  Each layer sets nodes of one tree by their paths, and a later
layer wins.

* `Tree` — the nodes.
* `Path.parse?` — a path such as `store.url`.
* `Tree.set` — set a node; tables are merged, everything else is replaced.
-/

namespace Meterboard.Settings

/-- A node of the tree. -/
inductive Tree where
  | absent
  | text (s : String)
  | flag (b : Bool)
  | integer (n : Int)
  | float (x : Double)
  /-- A list; no setting is one, so what it holds does not matter. -/
  | list
  | table (entries : List (String × Tree))
deriving Inhabited

/-- One step down the tree. -/
inductive Step where
  | key (name : String)
  | index
deriving DecidableEq, Repr

/-- A way from the root to a node. -/
abbrev Path := List Step

/-! ## Paths -/

namespace Path

/-- A character of a key. -/
def isKeyChar (c : Char) : Bool := c.isAlphanum || c = '_' || c = '-'

/-- The number of an index: digits without a zero in front, with at most one sign. -/
def isIndex (s : List Char) : Bool :=
  let digits :=
    match s with
    | '-' :: rest => rest
    | '+' :: rest => rest
    | rest => rest
  match digits with
  | [] => false
  | c :: rest => digits.all Char.isDigit && (c ≠ '0' || rest.isEmpty)

/-- The steps behind the first key: keys behind dots and indices in brackets. -/
def steps? : Nat → List Char → Option Path
  | _, [] => some []
  | 0, _ => none
  | fuel + 1, '.' :: s =>
      let name := s.takeWhile isKeyChar
      if name.isEmpty then none
      else (steps? fuel (s.drop name.length)).map (.key (String.ofList name) :: ·)
  | fuel + 1, '[' :: s =>
      let digits := s.takeWhile (· ≠ ']')
      if isIndex digits ∧ digits.length < s.length then
        (steps? fuel (s.drop (digits.length + 1))).map (.index :: ·)
      else none
  | _ + 1, _ => none

/-- Read a path: a key, then steps. -/
def parse? (s : String) : Option Path :=
  let cs := s.toList
  let name := cs.takeWhile isKeyChar
  if name.isEmpty then none
  else (steps? cs.length (cs.drop name.length)).map (.key (String.ofList name) :: ·)

/-- The path of a key; a key that reads as no path stands for itself. -/
def ofKey (key : String) : Path := (parse? key).getD [.key key]

end Path

/-! ## Setting nodes -/

namespace Tree

/-- The entries of a table; any other node has none. -/
def entries : Tree → List (String × Tree)
  | .table es => es
  | _ => []

/-- The node of a key. -/
def get (t : Tree) (k : String) : Tree :=
  ((t.entries.find? (·.1 == k)).map (·.2)).getD .absent

/-- Put a node under a key of a table; any other node becomes a table. -/
def put (t : Tree) (k : String) (child : Tree) : Tree :=
  if t.entries.any (·.1 == k) then
    .table (t.entries.map fun e => if e.1 == k then (k, child) else e)
  else .table (t.entries ++ [(k, child)])

/-- Change the node at a path; what is in the way becomes a table, or a list for an index. -/
def update (f : Tree → Tree) : Path → Tree → Tree
  | [], t => f t
  | .key k :: path, t => t.put k (update f path (t.get k))
  | .index :: _, _ => .list

mutual

/-- A node as a layer leaves it: tables are merged, everything else is replaced. -/
def merge : Tree → Tree → Tree
  | .table es, t => mergeEntries es (.table t.entries)
  | new, _ => new

/-- Merge entries into a table, one after the other. -/
def mergeEntries : List (String × Tree) → Tree → Tree
  | [], t => t
  | (k, new) :: rest, t => mergeEntries rest (t.put k (merge new (t.get k)))

end

/-- Set the node of a path. -/
def set (t : Tree) (path : Path) (new : Tree) : Tree := update (merge new) path t

/-- Set nodes one after the other, by their keys. -/
def setAll (t : Tree) (nodes : List (String × Tree)) : Tree :=
  nodes.foldl (fun t e => t.set (Path.ofKey e.1) e.2) t

mutual

/-- The node of a value of a settings file. -/
def ofToml : Toml.Value → Tree
  | .text s => .text s
  | .flag b => .flag b
  | .integer n => .integer n
  | .float x => .float x
  | .date s => .text s
  | .list _ => .list
  | .table es => .table (ofTomlEntries es)

/-- The nodes of the entries of a settings file. -/
def ofTomlEntries : List (String × Toml.Value) → List (String × Tree)
  | [] => []
  | (k, v) :: rest => (k, ofToml v) :: ofTomlEntries rest

end

end Tree

end Meterboard.Settings
