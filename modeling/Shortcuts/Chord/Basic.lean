import Shortcuts.Key
import Shortcuts.Platform

/-!
Chords: keys pressed together with modifiers. Two chords are the same when their strokes are; the
character that a press produced only informs.
-/

namespace Shortcuts

inductive Modifier where
  | ctrl
  | alt
  | shift
  | metaKey
deriving DecidableEq, Inhabited, Repr

def Modifier.name : Modifier → String
  | ctrl => "Ctrl"
  | alt => "Alt"
  | shift => "Shift"
  | metaKey => "Meta"

/-- The modifier called Ctrl on most systems and Cmd where Meta is primary. -/
def Platform.primary (p : Platform) : Modifier :=
  if p.metaIsPrimary then .metaKey else .ctrl

/-- The modifiers that are held and the key, if there is one beside them. -/
structure Stroke where
  ctrl : Bool := false
  alt : Bool := false
  shift : Bool := false
  metaKey : Bool := false
  key : Option Key := none
deriving DecidableEq, Inhabited, Repr

namespace Stroke

def holds (s : Stroke) : Modifier → Bool
  | .ctrl => s.ctrl
  | .alt => s.alt
  | .shift => s.shift
  | .metaKey => s.metaKey

def hold (s : Stroke) : Modifier → Stroke
  | .ctrl => { s with ctrl := true }
  | .alt => { s with alt := true }
  | .shift => { s with shift := true }
  | .metaKey => { s with metaKey := true }

def hasModifiers (s : Stroke) : Bool := s.ctrl || s.alt || s.shift || s.metaKey

/-- The names of the held modifiers in a fixed order, then the token of the key. -/
def tokens (s : Stroke) : List String :=
  (if s.ctrl then ["ctrl"] else []) ++ (if s.alt then ["alt"] else []) ++
    (if s.shift then ["shift"] else []) ++ (if s.metaKey then ["meta"] else []) ++
    (s.key.map Key.token).toList

end Stroke

/-- A stroke and the character it was seen to produce. -/
structure Chord extends Stroke where
  character : Option String := none
deriving Inhabited, Repr

namespace Chord

instance : BEq Chord := ⟨fun a b => a.toStroke == b.toStroke⟩

def ofKey (k : Key) : Chord := { key := some k }

def ofCode? (code : String) : Option Chord := (Key.ofCode? code).map ofKey

/-- The chord of a press. Pressing a modifier alone gives a chord without a key. -/
def ofPress (code : String) (character : Option String) (ctrl alt shift metaKey : Bool) : Chord :=
  { ctrl, alt, shift, metaKey, character
    key := (Key.ofCode? code).filter (!·.isModifier) }

def hold (c : Chord) (m : Modifier) : Chord := { c with toStroke := c.toStroke.hold m }

/-- Some key or modifier is involved. -/
def isValid (c : Chord) : Bool := c.key.isSome || c.hasModifiers

def isModifierOnly (c : Chord) : Bool := c.key.isNone

/-- The chord without the character it produced. -/
def normalized (c : Chord) : Chord := { c with character := none }

def text (c : Chord) : String := "+".intercalate c.tokens

/-- The text of a sequence of chords. -/
def sequenceText (cs : List Chord) : String := " ".intercalate (cs.map text)

/-- How a sequence that was typed stands to a registered one. -/
inductive Comparison where
  /-- They are the same. -/
  | full
  /-- The typed one begins the registered one. -/
  | begun
  /-- The registered one begins the typed one. -/
  | shadow
  /-- They part at some chord. -/
  | apart
deriving DecidableEq, Inhabited, Repr

def Comparison.name : Comparison → String
  | full => "full"
  | begun => "partial"
  | shadow => "shadow"
  | apart => "none"

def compare : List Chord → List Chord → Comparison
  | [], [] => .full
  | [], _ :: _ => .begun
  | _ :: _, [] => .shadow
  | a :: s, b :: r => if a == b then compare s r else .apart

/-- Whether the second sequence begins the first. -/
def startsWith (s r : List Chord) : Bool :=
  r.length ≤ s.length && (s.zip r).all fun (a, b) => a == b

/-- Whether the first sequence begins the second. -/
def isPrefixOf (s r : List Chord) : Bool := startsWith r s

end Chord

end Shortcuts
