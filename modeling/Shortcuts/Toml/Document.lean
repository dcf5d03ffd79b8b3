import Shortcuts.Toml.Basic

/-!
Putting a document together. A table may be opened by a header once, grown by dotted keys only
where dotted keys made it, and never both; an array of tables grows by its headers.
-/

namespace Shortcuts.Toml

mutual
inductive Item where
  | value (v : Toml)
  | table (t : Section)
  | tables (ts : List Section)

/-- A table under construction. `implicit` says that no header has opened it, `dotted` that dotted
keys made it. -/
inductive Section where
  | mk (implicit dotted : Bool) (entries : List (String × Item))
end

instance : Inhabited Section := ⟨.mk false false []⟩

namespace Section

def implicit : Section → Bool
  | mk i _ _ => i

def dotted : Section → Bool
  | mk _ d _ => d

def entries : Section → List (String × Item)
  | mk _ _ es => es

def withEntries (s : Section) (es : List (String × Item)) : Section := mk s.implicit s.dotted es

def put (s : Section) (k : String) (i : Item) : Section :=
  s.withEntries (if (s.entries.lookup k).isSome then
      s.entries.map fun e => if e.1 = k then (k, i) else e
    else s.entries ++ [(k, i)])

/-- Changes the table at the end of a path, making implicit tables where there is none. -/
def modifyAt (dotted : Bool) (f : Section → Option Section) : List String → Section → Option Section
  | [], s => f s
  | k :: path, s =>
    match s.entries.lookup k with
    | none => do
      let t ← modifyAt dotted f path (mk true dotted [])
      some (s.put k (.table t))
    | some (.value _) => none
    | some (.tables ts) =>
      match ts.reverse with
      | [] => none
      | last :: before => do
        let t ← modifyAt dotted f path last
        some (s.put k (.tables (before.reverse ++ [t])))
    | some (.table t) =>
      if dotted && !t.implicit then none
      else do
        let t ← modifyAt dotted f path t
        some (s.put k (.table t))

/-- Adds a value under a key that may be dotted. -/
def addValue (s : Section) (path : List String) (k : String) (v : Toml) : Option Section :=
  modifyAt true (fun t =>
    if t.dotted == path.isEmpty then none
    else if (t.entries.lookup k).isSome then none
    else some (t.put k (.value v))) path s

end Section

mutual
def Item.toml : Item → Toml
  | .value v => v
  | .table t => t.toml
  | .tables ts => .arr (Section.tomls ts)

def Section.toml : Section → Toml
  | .mk _ _ entries => .table (Section.tomlEntries entries)

def Section.tomls : List Section → List Toml
  | [] => []
  | t :: ts => t.toml :: Section.tomls ts

def Section.tomlEntries : List (String × Item) → List (String × Toml)
  | [] => []
  | (k, i) :: rest => (k, i.toml) :: Section.tomlEntries rest
end

/-- The finished part of a document and the table that lines are being added to. -/
structure Document where
  root : Section := .mk false false []
  current : Section := .mk false false []
  path : List String := []
  isArray : Bool := false

namespace Document

/-- Puts the current table into its place. -/
def close (d : Document) : Option Document :=
  match d.path.reverse with
  | [] => some { d with root := d.current, current := .mk false false [] }
  | k :: before =>
    let place (parent : Section) : Option Section :=
      if d.isArray then
        match parent.entries.lookup k with
        | none => some (parent.put k (.tables [d.current]))
        | some (.tables ts) => some (parent.put k (.tables (ts ++ [d.current])))
        | some _ => none
      else
        match parent.entries.lookup k with
        | none => some (parent.put k (.table d.current))
        | some (.table t) => if t.implicit then some (parent.put k (.table d.current)) else none
        | some _ => none
    (d.root.modifyAt false place before.reverse).map fun root =>
      { d with root := root, current := .mk false false [] }

/-- Opens a table by its header. An implicit one is taken over with what is in it. -/
def openTable (d : Document) (path : List String) : Option Document := do
  let d ← d.close
  let (before, k) ← match path.reverse with
    | [] => none
    | k :: before => some (before.reverse, k)
  let found ← locate before d.root
  match (found.bind fun s => s.entries.lookup k) with
  | none => some { d with path := path, isArray := false }
  | some (.table t) =>
    if t.implicit && !t.dotted then
      some { d with path := path, isArray := false, current := .mk false false t.entries }
    else none
  | some _ => none
where
  /-- The table at the end of a path, none inside where the path does not exist yet. -/
  locate : List String → Section → Option (Option Section)
    | [], s => some (some s)
    | k :: path, s =>
      match s.entries.lookup k with
      | none => some none
      | some (.value _) => none
      | some (.table t) => locate path t
      | some (.tables ts) =>
        match ts.getLast? with
        | none => none
        | some t => locate path t

/-- Opens the next table of an array by its header. -/
def openArray (d : Document) (path : List String) : Option Document := do
  let d ← d.close
  let (before, k) ← match path.reverse with
    | [] => none
    | k :: before => some (before.reverse, k)
  let found ← openTable.locate before d.root
  match (found.bind fun s => s.entries.lookup k) with
  | none => some { d with path := path, isArray := true }
  | some (.tables _) => some { d with path := path, isArray := true }
  | some _ => none

def add (d : Document) (path : List String) (k : String) (v : Toml) : Option Document :=
  (d.current.addValue path k v).map fun current => { d with current := current }

def finish (d : Document) : Option Toml := d.close.map fun d => d.root.toml

end Document

end Shortcuts.Toml
