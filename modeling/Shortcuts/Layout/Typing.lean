import Shortcuts.Chord.Basic
import Shortcuts.Layout.Builtin

/-!
Chord texts name keys by what they type on a US keyboard. On another layout the chord that types
the same character takes its place.
-/

namespace Shortcuts

/-- Where the characters of a layout are. -/
structure Typing where
  /-- For a key of the US layout, without or with Shift, the chords that type its character. -/
  chords : List ((String × Bool) × Chord) := []
  /-- What the keys type without modifiers. -/
  characters : List (String × String) := []
deriving Inhabited

namespace Typing

/-- The row of a key at one level, if it types one character that a US key types too. -/
def row? (k : Key) (out : KeyOutput) (l : Level) : Option ((String × Bool) × Chord) :=
  match (out.text l).toList with
  | [c] => (Key.typing? c).map fun (us, shift) =>
      ((us.code, shift),
        { key := some k, shift := l.needsShift, alt := l.needsAlt, character := some (out.text l) })
  | _ => none

/-- The known keys of a layout, without those of the number pad. -/
def knownKeys (n : NativeLayout) : List (Key × KeyOutput) :=
  n.keys.filterMap fun (code, out) =>
    if BuiltinLayout.numpad.toList.isPrefixOf code.toList then none
    else (Key.ofCode? code).map fun k => (k, out)

def ofNative (n : NativeLayout) : Typing :=
  { chords := (knownKeys n).flatMap fun (k, out) => Level.all.filterMap (row? k out)
    characters := (knownKeys n).filterMap fun (k, out) =>
      (out.get? .plain).map fun s => (k.code, s) }

/-- The first chord that types what a US key types without or with Shift. -/
def chord? (t : Typing) (k : Key) (shift : Bool) : Option Chord := t.chords.lookup (k.code, shift)

def character? (t : Typing) (code : String) : Option String := t.characters.lookup code

def isEmpty (t : Typing) : Bool := t.chords.isEmpty

/-- Puts the modifiers of a chord on the chord that types its key. `needed` says that the
character takes Shift on the US layout. AltGr leaves no room for further modifiers, and is the
same as Ctrl and Alt where Ctrl is primary. -/
def carry? (p : Platform) (c typed : Chord) (needed : Bool) : Option Chord :=
  if !c.shift && needed then none
  else if typed.alt && (c.alt || c.ctrl || (c.shift && !needed)) then none
  else some
    { key := typed.key, metaKey := c.metaKey
      ctrl := c.ctrl || (typed.alt && p = .pc)
      shift := (c.shift && !needed) || typed.shift
      alt := c.alt || typed.alt
      character := typed.character }

/-- The chord that means the same on the layout, or the chord itself. -/
def resolve (p : Platform) (t : Typing) (c : Chord) : Chord :=
  match c.key with
  | none => c
  | some k =>
    let attempt (shift : Bool) : Option Chord :=
      (t.chord? k shift).bind fun typed => carry? p c typed shift
    (attempt false <|> attempt true).getD c

/-- Whether a text is more than line ends and tabs. -/
def isVisible (s : String) : Bool := s.toList.any fun c => c ≠ '\n' && c ≠ '\r' && c ≠ '\t'

/-- What a key is called on the layout: the character it types, else its token. -/
def nameOf (t : Typing) (k : Key) : String :=
  ((t.character? k.code).filter isVisible).getD k.token

end Typing

end Shortcuts
