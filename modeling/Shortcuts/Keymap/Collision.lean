import Shortcuts.Keymap.Binding

/-! Bindings that get into the way of a new chord sequence. -/

namespace Shortcuts

structure Collisions where
  /-- Bindings of the very same chords. -/
  full : List ScopedBinding := []
  /-- Bindings that begin with the chords and go on. -/
  begun : List ScopedBinding := []
  /-- Bindings that the chords begin with. -/
  shadow : List ScopedBinding := []
deriving Inhabited

namespace Collisions

/-- Files a binding under what comparing it gave. -/
def add (c : Collisions) (result : Chord.Comparison) (b : ScopedBinding) : Collisions :=
  match result with
  | .full => { c with full := c.full ++ [b] }
  | .begun => { c with begun := c.begun ++ [b] }
  | .shadow => { c with shadow := c.shadow ++ [b] }
  | .apart => c

/-- Compares a sequence with bindings; those whose chords are unknown are left out. -/
def of (resolve : ScopedBinding → Option (List Chord)) (candidate : List Chord)
    (bindings : List ScopedBinding) : Collisions :=
  bindings.foldl (fun c b =>
    match resolve b with
    | some chords => c.add (Chord.compare candidate chords) b
    | none => c) {}

def merge (a b : Collisions) : Collisions :=
  ⟨a.full ++ b.full, a.begun ++ b.begun, a.shadow ++ b.shadow⟩

def filter (c : Collisions) (keep : Binding → Bool) : Collisions :=
  let kept (bs : List ScopedBinding) := bs.filter fun b => keep b.toBinding
  ⟨kept c.full, kept c.begun, kept c.shadow⟩

def size (c : Collisions) : Nat := c.full.length + c.begun.length + c.shadow.length

def isEmpty (c : Collisions) : Bool := c.full.isEmpty && c.begun.isEmpty && c.shadow.isEmpty

def line (label : String) (b : ScopedBinding) : String :=
  let guarded := match b.condition with
    | some w => " when '" ++ w ++ "'"
    | none => ""
  "[" ++ label ++ "] '" ++ b.keys ++ "' -> '" ++ b.command ++ "' (" ++ b.scope.name ++ " scope)" ++
    guarded ++ "\n"

/-- One line for each binding. -/
def report (c : Collisions) : String :=
  if c.isEmpty then "No collisions detected"
  else String.join (c.full.map (line "FULL") ++ c.begun.map (line "PARTIAL") ++
    c.shadow.map (line "SHADOW"))

end Collisions

end Shortcuts
