import Shortcuts.KeyEvent
import Shortcuts.Layout.Detection
import Shortcuts.Layout.Typing

/-! The layout in use: detection finds it, and chords are resolved on it. -/

namespace Shortcuts

/-- The state of detection, and what the keys of the layout in use type. -/
structure ActiveLayout where
  detection : Detection
  typing : Typing := {}
  /-- Whether the layout follows what detection announces. -/
  following : Bool := false
deriving Inhabited

namespace ActiveLayout

/-- Takes over the keys of a layout, whoever gives them. -/
def adopt (s : ActiveLayout) (n : NativeLayout) : ActiveLayout := { s with typing := .ofNative n }

/-- Takes the layout of detection, and follows it from now on. -/
def start (s : ActiveLayout) : ActiveLayout :=
  let detection := s.detection.refresh
  { s.adopt detection.current.native with detection, following := true }

/-- Goes on with a new state of detection. Tells whether the layout was taken over. -/
def follow (s : ActiveLayout) (d : Detection) (announced : Option NativeLayout) :
    ActiveLayout × Bool :=
  match announced, s.following with
  | some n, true => ({ s.adopt n with detection := d }, true)
  | _, _ => ({ s with detection := d }, false)

def resolve (s : ActiveLayout) (c : Chord) : Chord := s.typing.resolve s.detection.platform c

/-- The observation that a pressed chord makes. -/
def observationOf? (c : Chord) : Option Observation :=
  match c.key, c.character with
  | some k, some character =>
    some { code := k.code, character, shift := c.shift, alt := c.alt }
  | _, _ => none

/-- Feeds a pressed chord to detection. -/
def observe (s : ActiveLayout) (c : Chord) : ActiveLayout × Bool :=
  match observationOf? c with
  | some o =>
    let (d, announced) := s.detection.observe o
    s.follow d announced
  | none => (s, false)

end ActiveLayout

end Shortcuts
