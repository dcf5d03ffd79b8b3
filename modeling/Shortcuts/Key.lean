import Shortcuts.Text.Case

/-! The keys of a keyboard, by the place where they sit and by what a US layout prints on them. -/

namespace Shortcuts

/-- A physical key. `code` names its place, `token` stands for it in chord texts, and `plain` and
`shifted` are the characters it types on a US layout. -/
structure Key where
  code : String
  number : Nat
  token : String
  plain : Option Char
  shifted : Option Char
deriving DecidableEq, Inhabited, Repr

namespace Key

/-- All keys, in ascending order of their numbers. -/
def all : List Key :=
  [⟨"Backspace", 8, "backspace", none, none⟩,
   ⟨"Tab", 9, "tab", none, none⟩,
   ⟨"Enter", 13, "enter", none, none⟩,
   ⟨"ShiftLeft", 16, "shift", none, none⟩,
   ⟨"ShiftRight", 16, "shift", none, none⟩,
   ⟨"ControlLeft", 17, "ctrl", none, none⟩,
   ⟨"ControlRight", 17, "ctrl", none, none⟩,
   ⟨"AltLeft", 18, "alt", none, none⟩,
   ⟨"AltRight", 18, "alt", none, none⟩,
   ⟨"Pause", 19, "pause", none, none⟩,
   ⟨"CapsLock", 20, "capslock", none, none⟩,
   ⟨"Escape", 27, "escape", none, none⟩,
   ⟨"Space", 32, "space", some ' ', some ' '⟩,
   ⟨"PageUp", 33, "pageup", none, none⟩,
   ⟨"PageDown", 34, "pagedown", none, none⟩,
   ⟨"End", 35, "end", none, none⟩,
   ⟨"Home", 36, "home", none, none⟩,
   ⟨"ArrowLeft", 37, "left", none, none⟩,
   ⟨"ArrowUp", 38, "up", none, none⟩,
   ⟨"ArrowRight", 39, "right", none, none⟩,
   ⟨"ArrowDown", 40, "down", none, none⟩,
   ⟨"PrintScreen", 44, "printscreen", none, none⟩,
   ⟨"Insert", 45, "insert", none, none⟩,
   ⟨"Delete", 46, "delete", none, none⟩,
   ⟨"Digit0", 48, "0", some '0', some ')'⟩,
   ⟨"Digit1", 49, "1", some '1', some '!'⟩,
   ⟨"Digit2", 50, "2", some '2', some '@'⟩,
   ⟨"Digit3", 51, "3", some '3', some '#'⟩,
   ⟨"Digit4", 52, "4", some '4', some '$'⟩,
   ⟨"Digit5", 53, "5", some '5', some '%'⟩,
   ⟨"Digit6", 54, "6", some '6', some '^'⟩,
   ⟨"Digit7", 55, "7", some '7', some '&'⟩,
   ⟨"Digit8", 56, "8", some '8', some '*'⟩,
   ⟨"Digit9", 57, "9", some '9', some '('⟩,
   ⟨"KeyA", 65, "a", some 'a', some 'A'⟩,
   ⟨"KeyB", 66, "b", some 'b', some 'B'⟩,
   ⟨"KeyC", 67, "c", some 'c', some 'C'⟩,
   ⟨"KeyD", 68, "d", some 'd', some 'D'⟩,
   ⟨"KeyE", 69, "e", some 'e', some 'E'⟩,
   ⟨"KeyF", 70, "f", some 'f', some 'F'⟩,
   ⟨"KeyG", 71, "g", some 'g', some 'G'⟩,
   ⟨"KeyH", 72, "h", some 'h', some 'H'⟩,
   ⟨"KeyI", 73, "i", some 'i', some 'I'⟩,
   ⟨"KeyJ", 74, "j", some 'j', some 'J'⟩,
   ⟨"KeyK", 75, "k", some 'k', some 'K'⟩,
   ⟨"KeyL", 76, "l", some 'l', some 'L'⟩,
   ⟨"KeyM", 77, "m", some 'm', some 'M'⟩,
   ⟨"KeyN", 78, "n", some 'n', some 'N'⟩,
   ⟨"KeyO", 79, "o", some 'o', some 'O'⟩,
   ⟨"KeyP", 80, "p", some 'p', some 'P'⟩,
   ⟨"KeyQ", 81, "q", some 'q', some 'Q'⟩,
   ⟨"KeyR", 82, "r", some 'r', some 'R'⟩,
   ⟨"KeyS", 83, "s", some 's', some 'S'⟩,
   ⟨"KeyT", 84, "t", some 't', some 'T'⟩,
   ⟨"KeyU", 85, "u", some 'u', some 'U'⟩,
   ⟨"KeyV", 86, "v", some 'v', some 'V'⟩,
   ⟨"KeyW", 87, "w", some 'w', some 'W'⟩,
   ⟨"KeyX", 88, "x", some 'x', some 'X'⟩,
   ⟨"KeyY", 89, "y", some 'y', some 'Y'⟩,
   ⟨"KeyZ", 90, "z", some 'z', some 'Z'⟩,
   ⟨"MetaLeft", 91, "meta", none, none⟩,
   ⟨"MetaRight", 92, "meta", none, none⟩,
   ⟨"ContextMenu", 93, "contextmenu", none, none⟩,
   ⟨"Numpad0", 96, "numpad0", none, none⟩,
   ⟨"Numpad1", 97, "numpad1", none, none⟩,
   ⟨"Numpad2", 98, "numpad2", none, none⟩,
   ⟨"Numpad3", 99, "numpad3", none, none⟩,
   ⟨"Numpad4", 100, "numpad4", none, none⟩,
   ⟨"Numpad5", 101, "numpad5", none, none⟩,
   ⟨"Numpad6", 102, "numpad6", none, none⟩,
   ⟨"Numpad7", 103, "numpad7", none, none⟩,
   ⟨"Numpad8", 104, "numpad8", none, none⟩,
   ⟨"Numpad9", 105, "numpad9", none, none⟩,
   ⟨"NumpadMultiply", 106, "numpad_multiply", none, none⟩,
   ⟨"NumpadAdd", 107, "numpad_add", none, none⟩,
   ⟨"NumpadSeparator", 108, "numpad_separator", none, none⟩,
   ⟨"NumpadSubtract", 109, "numpad_subtract", none, none⟩,
   ⟨"NumpadDecimal", 110, "numpad_decimal", none, none⟩,
   ⟨"NumpadDivide", 111, "numpad_divide", none, none⟩,
   ⟨"F1", 112, "f1", none, none⟩,
   ⟨"F2", 113, "f2", none, none⟩,
   ⟨"F3", 114, "f3", none, none⟩,
   ⟨"F4", 115, "f4", none, none⟩,
   ⟨"F5", 116, "f5", none, none⟩,
   ⟨"F6", 117, "f6", none, none⟩,
   ⟨"F7", 118, "f7", none, none⟩,
   ⟨"F8", 119, "f8", none, none⟩,
   ⟨"F9", 120, "f9", none, none⟩,
   ⟨"F10", 121, "f10", none, none⟩,
   ⟨"F11", 122, "f11", none, none⟩,
   ⟨"F12", 123, "f12", none, none⟩,
   ⟨"F13", 124, "f13", none, none⟩,
   ⟨"F14", 125, "f14", none, none⟩,
   ⟨"F15", 126, "f15", none, none⟩,
   ⟨"F16", 127, "f16", none, none⟩,
   ⟨"F17", 128, "f17", none, none⟩,
   ⟨"F18", 129, "f18", none, none⟩,
   ⟨"F19", 130, "f19", none, none⟩,
   ⟨"F20", 131, "f20", none, none⟩,
   ⟨"F21", 132, "f21", none, none⟩,
   ⟨"F22", 133, "f22", none, none⟩,
   ⟨"F23", 134, "f23", none, none⟩,
   ⟨"F24", 135, "f24", none, none⟩,
   ⟨"NumLock", 144, "numlock", none, none⟩,
   ⟨"ScrollLock", 145, "scrolllock", none, none⟩,
   ⟨"Semicolon", 186, ";", some ';', some ':'⟩,
   ⟨"Equal", 187, "=", some '=', some '+'⟩,
   ⟨"Comma", 188, ",", some ',', some '<'⟩,
   ⟨"Minus", 189, "-", some '-', some '_'⟩,
   ⟨"Period", 190, ".", some '.', some '>'⟩,
   ⟨"Slash", 191, "/", some '/', some '?'⟩,
   ⟨"Backquote", 192, "`", some '`', some '~'⟩,
   ⟨"BracketLeft", 219, "[", some '[', some '\x7b'⟩,
   ⟨"Backslash", 220, "\\", some '\\', some '|'⟩,
   ⟨"BracketRight", 221, "]", some ']', some '\x7d'⟩,
   ⟨"Quote", 222, "'", some '\'', some '"'⟩,
   ⟨"IntlBackslash", 226, "intlbackslash", none, none⟩]

def ofCode? (code : String) : Option Key := all.find? (·.code = code)

/-- The other spellings that a token may have. -/
def aliases : List (String × String) :=
  [("esc", "escape"), ("return", "enter"), ("cr", "enter"), ("del", "delete"), ("ins", "insert"),
   ("bs", "backspace"), ("arrowleft", "left"), ("arrowright", "right"), ("arrowup", "up"),
   ("arrowdown", "down"), ("pgup", "pageup"), ("pgdn", "pagedown"), ("pgdown", "pagedown"),
   ("spacebar", "space"), ("backtick", "`")]

/-- The key that a token stands for. Case does not matter; of keys with one token the first. -/
def ofToken? (token : String) : Option Key :=
  let lowered := String.ofList (Text.lower token.toList)
  let canonical := (aliases.lookup lowered).getD lowered
  all.find? (·.token = canonical)

/-- The first key that types a character on a US layout, and whether Shift must be held. -/
def typing? (c : Char) : Option (Key × Bool) :=
  all.findSome? fun k =>
    if k.plain = some c then some (k, false)
    else if k.shifted = some c then some (k, true)
    else none

def isModifier (k : Key) : Bool := k.number ∈ [16, 17, 18, 91, 92]

def isLetter (k : Key) : Bool := 65 ≤ k.number && k.number ≤ 90

def isFunction (k : Key) : Bool := 112 ≤ k.number && k.number ≤ 135

def isArrow (k : Key) : Bool := 37 ≤ k.number && k.number ≤ 40

/-- What the key types on a US layout, or its token if it types nothing. -/
def usCharacter (k : Key) : String :=
  match k.plain with
  | some c => c.toString
  | none => k.token

end Key

end Shortcuts
