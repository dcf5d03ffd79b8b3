import Shortcuts.Chord.Basic

/-! Key-down events. -/

namespace Shortcuts

/-- A key that goes down. `code` is its place, `key` what it produced; `target` names the element
that has the focus. -/
structure KeyEvent where
  code : String := ""
  key : Option String := none
  ctrl : Bool := false
  alt : Bool := false
  shift : Bool := false
  metaKey : Bool := false
  target : Option Nat := none
  prevented : Bool := false
  stopped : Bool := false
  composing : Bool := false
deriving DecidableEq, Inhabited, Repr

namespace KeyEvent

def hold (e : KeyEvent) : Modifier → KeyEvent
  | .ctrl => { e with ctrl := true }
  | .alt => { e with alt := true }
  | .shift => { e with shift := true }
  | .metaKey => { e with metaKey := true }

/-- The event of a chord. Unless it carries a character, the key produces what it types on a US
layout. -/
def ofChord (c : Chord) : KeyEvent :=
  let held : KeyEvent := { ctrl := c.ctrl, alt := c.alt, shift := c.shift, metaKey := c.metaKey }
  match c.key with
  | none => held
  | some k =>
    let typed := (if c.shift then k.shifted else k.plain).map Char.toString
    { held with code := k.code, key := c.character <|> typed }

/-- The chord of the event. Only single characters count as what the key produced. -/
def chord (e : KeyEvent) : Chord :=
  .ofPress e.code (e.key.filter (·.length = 1)) e.ctrl e.alt e.shift e.metaKey

end KeyEvent

end Shortcuts
