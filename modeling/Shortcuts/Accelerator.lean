import Shortcuts.Chord.Basic

/-! Labels of chords for menus and hints. -/

namespace Shortcuts

/-- Whether modifiers and named keys are written as words or as symbols. -/
inductive LabelStyle where
  | text
  | symbolic
deriving DecidableEq, Inhabited, Repr

namespace LabelStyle

def name : LabelStyle → String
  | text => "text"
  | symbolic => "symbolic"

def ofName? (s : String) : Option LabelStyle :=
  if s = "text" then some text else if s = "symbolic" then some symbolic else none

end LabelStyle

structure Accelerator where
  platform : Platform
  style : LabelStyle
  separator : String
deriving DecidableEq, Inhabited, Repr

namespace Accelerator

/-- Words are joined by `+`, symbols stand side by side. -/
def ofStyle (platform : Platform) (style : LabelStyle) : Accelerator :=
  ⟨platform, style, match style with | .text => "+" | .symbolic => ""⟩

def modifierLabel (a : Accelerator) (m : Modifier) : String :=
  match a.style, m with
  | .symbolic, .ctrl => "⌃"
  | .symbolic, .alt => "⌥"
  | .symbolic, .shift => "⇧"
  | .symbolic, .metaKey => "⌘"
  | .text, .ctrl => "Ctrl"
  | .text, .alt => "Alt"
  | .text, .shift => "Shift"
  | .text, .metaKey => match a.platform with
    | .mac => "Cmd"
    | .pc => "Super"

/-- The held modifiers in the order they are shown. Meta leads where it is primary, and comes
last elsewhere. -/
def modifiers (a : Accelerator) (c : Chord) : List Modifier :=
  let others := [Modifier.ctrl, .alt, .shift].filter c.holds
  let metaKey := if c.metaKey then [Modifier.metaKey] else []
  match a.platform with
  | .mac => metaKey ++ others
  | .pc => others ++ metaKey

def namedKeys : List (String × String × String) :=
  [("enter", "⏎", "Enter"), ("escape", "⎋", "Escape"), ("tab", "⇥", "Tab"),
   ("backspace", "⌫", "Backspace"), ("delete", "⌦", "Delete"), ("space", "␣", "Space"),
   ("up", "↑", "Up"), ("down", "↓", "Down"), ("left", "←", "Left"), ("right", "→", "Right"),
   ("home", "⇱", "Home"), ("end", "⇲", "End"), ("pageup", "⇞", "PageUp"),
   ("pagedown", "⇟", "PageDown")]

def namedKey? (a : Accelerator) (k : Key) : Option String :=
  (namedKeys.lookup k.token).map fun (symbol, word) =>
    match a.style with
    | .symbolic => symbol
    | .text => word

/-- The label of a key that types the given text. Letters and function keys are shown in upper
case, other texts of several characters with a capital in front. -/
def keyLabel (a : Accelerator) (k : Key) (character : String) : String :=
  match a.namedKey? k with
  | some label => label
  | none =>
    let cs := character.toList
    if k.isLetter || k.isFunction then String.ofList (Text.upper cs)
    else match cs with
      | c :: c' :: rest => String.ofList (Text.upperChar c ++ c' :: rest)
      | _ => character

/-- The label of a chord, with what each key types given by `characterOf`. -/
def label (a : Accelerator) (characterOf : Key → String) (c : Chord) : String :=
  a.separator.intercalate ((a.modifiers c).map a.modifierLabel ++
    (c.key.map fun k => a.keyLabel k (characterOf k)).toList)

def labels (a : Accelerator) (characterOf : Key → String) (cs : List Chord) : List String :=
  cs.map (a.label characterOf)

end Accelerator

end Shortcuts
