import Shortcuts.Keymap.Basic

/-!
Which binding typed chords mean. The tiers are searched from the strongest to the weakest; the
first binding that may be used and that the chords begin decides.
-/

namespace Shortcuts

/-- A binding whose chords were typed in full, or whose chords begin with those typed. -/
inductive Match where
  | full (binding : ScopedBinding)
  | begun (binding : ScopedBinding)
deriving Inhabited, Repr

namespace Match

def binding : Match → ScopedBinding
  | full b => b
  | begun b => b

/-- How an entry stands to what was typed, if it is a match. -/
def standing? (typed : List Chord) (s : Scope) (e : Keymap.Entry) : Option Match :=
  match e.chords.map (Chord.compare typed) with
  | some .full => some (full ⟨e.binding, s⟩)
  | some .begun => some (begun ⟨e.binding, s⟩)
  | _ => none

/-- All matches of a keymap, in the order in which they are considered. -/
def all (typed : List Chord) (m : Keymap) : List Match :=
  Scope.strongestFirst.flatMap fun s => (m.tier s).filterMap (standing? typed s)

/-- The first match that is enabled, that no enabled marker before it disables, and that is no
marker itself and active. It comes with the matches behind it. -/
def first? (enabled active : Binding → Bool) :
    List Binding.Signature → List Match → Option (Match × List Match)
  | _, [] => none
  | off, m :: rest =>
    let b := m.binding.toBinding
    if !enabled b then first? enabled active off rest
    else match b.target? with
      | some target => first? enabled active (target :: off) rest
      | none =>
        if off.contains b.signature || !active b then first? enabled active off rest
        else some (m, rest)

/-- The matches that had to be considered to find the first one. -/
def considered (enabled active : Binding → Bool) (ms : List Match) : List Match :=
  match first? enabled active [] ms with
  | some (_, rest) => ms.take (ms.length - rest.length)
  | none => ms

end Match

/-- What became of a key. -/
inductive MatchReport where
  | begun (binding : ScopedBinding) (typed : List Chord)
  | full (binding : ScopedBinding)
  | nothing (typed : List Chord)
deriving Inhabited, Repr

end Shortcuts
