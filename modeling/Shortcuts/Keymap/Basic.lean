import Shortcuts.Keymap.Binding

/-! The bindings of all tiers. Bindings of equally many chords stand next to each other, in the
order they were inserted. -/

namespace Shortcuts

/-- A binding in a keymap, with the number of its insertion and its chords on the current layout
where they are known. -/
structure Keymap.Entry where
  id : Nat
  binding : Binding
  chords : Option (List Chord)
deriving Inhabited

structure Keymap where
  base : List Keymap.Entry := []
  user : List Keymap.Entry := []
  workspace : List Keymap.Entry := []
  next : Nat := 0
deriving Inhabited

namespace Keymap

def tier (m : Keymap) : Scope → List Entry
  | .base => m.base
  | .user => m.user
  | .workspace => m.workspace

def withTier (m : Keymap) (s : Scope) (entries : List Entry) : Keymap :=
  match s with
  | .base => { m with base := entries }
  | .user => { m with user := entries }
  | .workspace => { m with workspace := entries }

/-- Puts an entry right behind the last one of as many chords, or at the end. -/
def place (e : Entry) (entries : List Entry) : List Entry :=
  let alike (x : Entry) : Bool := x.binding.strokes = e.binding.strokes
  if entries.any alike then
    let behind := (entries.reverse.takeWhile (!alike ·)).reverse
    entries.take (entries.length - behind.length) ++ e :: behind
  else entries ++ [e]

/-- Adds a binding to a tier and gives the number of the insertion. -/
def insert (m : Keymap) (s : Scope) (b : Binding) (chords : Option (List Chord)) : Keymap × Nat :=
  ({ m.withTier s (place ⟨m.next, b, chords⟩ (m.tier s)) with next := m.next + 1 }, m.next)

/-- Removes what was inserted under a number, and tells whether it was there. -/
def remove (m : Keymap) (s : Scope) (id : Nat) : Keymap × Bool :=
  (m.withTier s ((m.tier s).filter (·.id ≠ id)), (m.tier s).any (·.id = id))

/-- Removes the bindings of a tier that satisfy a test, and counts them. -/
def removeWhere (m : Keymap) (s : Scope) (test : Binding → Bool) : Keymap × Nat :=
  (m.withTier s ((m.tier s).filter fun e => !test e.binding),
    (m.tier s).countP fun e => test e.binding)

def clear (m : Keymap) (s : Scope) : Keymap := m.withTier s []

/-- Forgets the chords of a list of entries. -/
def unresolve (entries : List Entry) : List Entry := entries.map fun e => { e with chords := none }

/-- Forgets all chords. -/
def clearResolved (m : Keymap) : Keymap :=
  { m with base := unresolve m.base, user := unresolve m.user, workspace := unresolve m.workspace }

/-- Looks up the chords of an entry if they are not known. -/
def Entry.resolved (resolve : Binding → Option (List Chord)) (e : Entry) : Entry :=
  match e.chords with
  | some _ => e
  | none => { e with chords := resolve e.binding }

/-- Looks up all chords that are not known. -/
def resolveAll (resolve : Binding → Option (List Chord)) (m : Keymap) : Keymap :=
  { m with
    base := m.base.map (Entry.resolved resolve)
    user := m.user.map (Entry.resolved resolve)
    workspace := m.workspace.map (Entry.resolved resolve) }

/-- Looks up the chords of those bindings of a tier that run a command. -/
def resolveTier (resolve : Binding → Option (List Chord)) (m : Keymap) (s : Scope) : Keymap :=
  m.withTier s ((m.tier s).map fun e => if e.binding.isMarker then e else e.resolved resolve)

def size (m : Keymap) : Nat := m.base.length + m.user.length + m.workspace.length

def isEmpty (m : Keymap) : Bool := m.size = 0

/-- The bindings of one tier. -/
def inScope (m : Keymap) (s : Scope) : List ScopedBinding :=
  (m.tier s).map fun e => ⟨e.binding, s⟩

end Keymap

end Shortcuts
