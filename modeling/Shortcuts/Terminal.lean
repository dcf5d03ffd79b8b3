import Shortcuts.KeyEvent
import Shortcuts.Json.Basic

/-!
Key reports of a terminal. A terminal reports characters and not places of keys, so the place is
that of the US key which types the character.
-/

namespace Shortcuts.Terminal

inductive KeyName where
  | character (c : Char)
  | function (n : Nat)
  /-- A modifier key on its own. -/
  | modifier (name : String)
  | media (name : String)
  | named (name : String)
deriving DecidableEq, Inhabited, Repr

inductive Flag where
  | shift
  | control
  | alt
  | superKey
  | hyper
  | metaKey
deriving DecidableEq, Inhabited, Repr

inductive Phase where
  | press
  | repeated
  | release
deriving DecidableEq, Inhabited, Repr

structure Report where
  key : KeyName
  flags : List Flag := []
  phase : Phase := .press
deriving DecidableEq, Inhabited, Repr

/-- The places of the keys that a terminal names, none where a keyboard has no such place. -/
def namedCodes : List (String × Option String) :=
  [("Backspace", some "Backspace"), ("Enter", some "Enter"), ("Left", some "ArrowLeft"),
   ("Right", some "ArrowRight"), ("Up", some "ArrowUp"), ("Down", some "ArrowDown"),
   ("Home", some "Home"), ("End", some "End"), ("PageUp", some "PageUp"),
   ("PageDown", some "PageDown"), ("Tab", some "Tab"), ("BackTab", some "Tab"),
   ("Delete", some "Delete"), ("Insert", some "Insert"), ("Null", none), ("Esc", some "Escape"),
   ("CapsLock", some "CapsLock"), ("ScrollLock", some "ScrollLock"), ("NumLock", some "NumLock"),
   ("PrintScreen", some "PrintScreen"), ("Pause", some "Pause"), ("Menu", some "ContextMenu"),
   ("KeypadBegin", none)]

def modifierCodes : List (String × Option String) :=
  [("LeftShift", some "ShiftLeft"), ("LeftControl", some "ControlLeft"),
   ("LeftAlt", some "AltLeft"), ("LeftSuper", some "MetaLeft"), ("LeftHyper", none),
   ("LeftMeta", some "MetaLeft"), ("RightShift", some "ShiftRight"),
   ("RightControl", some "ControlRight"), ("RightAlt", some "AltRight"),
   ("RightSuper", some "MetaRight"), ("RightHyper", none), ("RightMeta", some "MetaRight"),
   ("IsoLevel3Shift", none), ("IsoLevel5Shift", none)]

def mediaNames : List String :=
  ["Play", "Pause", "PlayPause", "Reverse", "Stop", "FastForward", "Rewind", "TrackNext",
   "TrackPrevious", "Record", "LowerVolume", "RaiseVolume", "MuteVolume"]

/-- The event of a key that goes down. Repeats, releases and keys without a place give none. -/
def Report.event? (r : Report) : Option KeyEvent :=
  if r.phase ≠ .press then none
  else
    let held : KeyEvent :=
      { ctrl := .control ∈ r.flags
        alt := .alt ∈ r.flags
        shift := .shift ∈ r.flags
        metaKey := .superKey ∈ r.flags || .metaKey ∈ r.flags }
    let named (code : String) := { held with code := code, key := some code }
    match r.key with
    | .character c =>
      match Key.typing? c with
      | some (k, shifted) =>
        some { held with code := k.code, key := some c.toString, shift := held.shift || shifted }
      | none => some { held with code := "Unidentified", key := some c.toString }
    | .function n => some { held with code := "F" ++ toString n }
    | .modifier name => ((modifierCodes.lookup name).join).map named
    | .media _ => none
    | .named name =>
      ((namedCodes.lookup name).join).map fun code =>
        { named code with shift := held.shift || name = "BackTab" }

/-- Reads the name of a key: a word, or an object with the kind of key as its only field. -/
def KeyName.ofJson? : Json → Option KeyName
  | .str name => if (namedCodes.lookup name).isSome then some (.named name) else none
  | .obj [("Char", .str s)] =>
    match s.toList with
    | [c] => some (.character c)
    | _ => none
  | .obj [("F", .num (.int n))] => if 0 ≤ n ∧ n < 256 then some (.function n.toNat) else none
  | .obj [("Modifier", j)] =>
    match variantName? j with
    | some name => if (modifierCodes.lookup name).isSome then some (.modifier name) else none
    | none => none
  | .obj [("Media", j)] =>
    match variantName? j with
    | some name => if name ∈ mediaNames then some (.media name) else none
    | none => none
  | .obj [(name, .null)] => if (namedCodes.lookup name).isSome then some (.named name) else none
  | _ => none
where
  /-- A word, or an object with that word as its only field and nothing in it. -/
  variantName? : Json → Option String
    | .str name => some name
    | .obj [(name, .null)] => some name
    | _ => none

def Flag.ofName? (s : String) : Option Flag :=
  [("SHIFT", Flag.shift), ("CONTROL", .control), ("ALT", .alt), ("SUPER", .superKey),
   ("HYPER", .hyper), ("META", .metaKey)].lookup s

end Shortcuts.Terminal
