import Shortcuts.Json.Writer
import Shortcuts.KeyEvent

/-! Keys, chords and events as structured values, for those who show them. -/

namespace Shortcuts

namespace Json

/-- An object from fields in any order. -/
def record (fields : List (String × Json)) : Json := ofFields fields

/-- The text of a value, as a value itself. -/
def textOf (v : Option Json) : Json := ofOptionStr (text? v)

def ofOptionBool : Option Bool → Json
  | some b => bool b
  | none => null

/-- What a list of values is described by. -/
def ofList {α : Type} (describe : α → Json) (items : List α) : Json := arr (items.map describe)

/-- What a value that may be absent is described by. -/
def ofMaybe {α : Type} (describe : α → Json) (v : Option α) : Json := ofOption (v.map describe)

end Json

def Key.describe (k : Key) : Json :=
  .record [("code", .str k.code), ("keyCode", .ofNat k.number), ("easy", .str k.token),
    ("char", .ofOptionStr (k.plain.map Char.toString)),
    ("shifted", .ofOptionStr (k.shifted.map Char.toString)), ("modifier", .bool k.isModifier),
    ("letter", .bool k.isLetter), ("function", .bool k.isFunction), ("arrow", .bool k.isArrow),
    ("us", .str k.usCharacter), ("display", .str k.token)]

namespace Chord

def describe (c : Chord) : Json :=
  .record [("text", .str c.text), ("code", .ofOptionStr (c.key.map Key.code)),
    ("char", .ofOptionStr c.character), ("ctrl", .bool c.ctrl), ("alt", .bool c.alt),
    ("shift", .bool c.shift), ("meta", .bool c.metaKey)]

def describeAll (cs : List Chord) : Json := .ofList describe cs

/-- A chord with what can be told about it on a platform. -/
def describeOn (p : Platform) (c : Chord) : Json :=
  .record [("chord", c.describe), ("hasModifiers", .bool c.hasModifiers),
    ("valid", .bool c.isValid), ("modifierOnly", .bool c.isModifierOnly),
    ("normalized", c.normalized.describe), ("ctrlCmd", .str (c.hold p.primary).text)]

end Chord

def KeyEvent.describe (e : KeyEvent) : Json :=
  .record [("code", .str e.code), ("key", .ofOptionStr e.key), ("ctrl", .bool e.ctrl),
    ("alt", .bool e.alt), ("shift", .bool e.shift), ("meta", .bool e.metaKey),
    ("prevented", .bool e.prevented), ("stopped", .bool e.stopped),
    ("composing", .bool e.composing), ("chord", e.chord.describe)]

end Shortcuts
