import Shortcuts.Key
import Shortcuts.Layout.Basic

/-! The layouts that are known from the start. Each is the US layout with some keys changed. -/

namespace Shortcuts

inductive BuiltinLayout where
  | usPc
  | usMac
  | germanPc
  | germanMac
  | frenchPc
  | frenchMac
deriving DecidableEq, Inhabited, Repr

namespace BuiltinLayout

def all : List BuiltinLayout := [usPc, usMac, germanPc, germanMac, frenchPc, frenchMac]

/-- The layouts that are always candidates. -/
def startup : List BuiltinLayout := [usPc, usMac]

def id : BuiltinLayout → String
  | usPc => "en-US-pc"
  | usMac => "en-US-mac"
  | germanPc => "de-German-pc"
  | germanMac => "de-German-mac"
  | frenchPc => "fr-French-pc"
  | frenchMac => "fr-French-mac"

def ofId? (id : String) : Option BuiltinLayout := all.find? (·.id = id)

/-- A key by its code, and two texts. -/
abbrev Row := String × String × String

/-! ### The keys that differ -/

def usMacOption : List Row :=
  [("KeyA", "å", "Å"), ("KeyB", "∫", "ı"), ("KeyC", "ç", "Ç"), ("KeyD", "∂", "Î"),
   ("KeyE", "´", "´"), ("KeyF", "ƒ", "Ï"), ("KeyG", "©", "˝"), ("KeyH", "˙", "Ó"),
   ("KeyI", "ˆ", "ˆ"), ("KeyJ", "∆", "Ô"), ("KeyK", "˚", ""), ("KeyL", "¬", "Ò"),
   ("KeyM", "µ", "Â"), ("KeyN", "˜", "˜"), ("KeyO", "ø", "Ø"), ("KeyP", "π", "∏"),
   ("KeyQ", "œ", "Œ"), ("KeyR", "®", "‰"), ("KeyS", "ß", "Í"), ("KeyT", "†", "ˇ"),
   ("KeyU", "¨", "¨"), ("KeyV", "√", "◊"), ("KeyW", "∑", "„"), ("KeyX", "≈", "˛"),
   ("KeyY", "¥", "Á"), ("KeyZ", "Ω", "¸"), ("Digit1", "¡", "⁄"), ("Digit2", "™", "€"),
   ("Digit3", "£", "‹"), ("Digit4", "¢", "›"), ("Digit5", "∞", "ﬁ"), ("Digit6", "§", "ﬂ"),
   ("Digit7", "¶", "‡"), ("Digit8", "•", "°"), ("Digit9", "ª", "·"), ("Digit0", "º", "‚")]

def german : List Row :=
  [("Digit2", "2", "\""), ("Digit3", "3", "§"), ("Digit6", "6", "&"), ("Digit7", "7", "/"),
   ("Digit8", "8", "("), ("Digit9", "9", ")"), ("Digit0", "0", "="), ("Minus", "ß", "?"),
   ("Equal", "´", "`"), ("BracketLeft", "ü", "Ü"), ("BracketRight", "+", "*"),
   ("Backslash", "#", "'"), ("Semicolon", "ö", "Ö"), ("Quote", "ä", "Ä"), ("Comma", ",", ";"),
   ("Period", ".", ":"), ("Slash", "-", "_")]

def germanPcAltGr : List Row :=
  [("KeyQ", "@", ""), ("KeyE", "€", ""), ("KeyM", "µ", ""), ("Digit2", "²", ""),
   ("Digit3", "³", ""), ("Digit7", "\x7b", ""), ("Digit8", "[", ""), ("Digit9", "]", ""),
   ("Digit0", "\x7d", ""), ("Minus", "\\", ""), ("BracketRight", "~", ""),
   ("IntlBackslash", "|", "")]

def germanMacOption : List Row :=
  [("KeyL", "@", ""), ("KeyE", "€", ""), ("KeyN", "~", ""), ("Digit5", "[", ""),
   ("Digit6", "]", ""), ("Digit7", "|", "\\"), ("Digit8", "\x7b", ""), ("Digit9", "\x7d", "")]

def frenchPcRows : List Row :=
  [("Backquote", "²", ""), ("Digit1", "&", "1"), ("Digit2", "é", "2"), ("Digit3", "\"", "3"),
   ("Digit4", "'", "4"), ("Digit5", "(", "5"), ("Digit6", "-", "6"), ("Digit7", "è", "7"),
   ("Digit8", "_", "8"), ("Digit9", "ç", "9"), ("Digit0", "à", "0"), ("Minus", ")", "°"),
   ("Equal", "=", "+"), ("BracketLeft", "^", "¨"), ("BracketRight", "$", "£"),
   ("Backslash", "*", "µ"), ("Semicolon", "m", "M"), ("Quote", "ù", "%"), ("KeyM", ",", "?"),
   ("Comma", ";", "."), ("Period", ":", "/"), ("Slash", "!", "§"), ("IntlBackslash", "<", ">")]

def frenchPcAltGr : List Row :=
  [("KeyE", "€", ""), ("Digit2", "~", ""), ("Digit3", "#", ""), ("Digit4", "\x7b", ""),
   ("Digit5", "[", ""), ("Digit6", "|", ""), ("Digit7", "`", ""), ("Digit8", "\\", ""),
   ("Digit9", "^", ""), ("Digit0", "@", ""), ("Minus", "]", ""), ("Equal", "\x7d", ""),
   ("BracketRight", "¤", "")]

def frenchMacRows : List Row :=
  [("Backquote", "@", "#"), ("Digit1", "&", "1"), ("Digit2", "é", "2"), ("Digit3", "\"", "3"),
   ("Digit4", "'", "4"), ("Digit5", "(", "5"), ("Digit6", "§", "6"), ("Digit7", "è", "7"),
   ("Digit8", "!", "8"), ("Digit9", "ç", "9"), ("Digit0", "à", "0"), ("Minus", ")", "°"),
   ("Equal", "-", "_"), ("BracketLeft", "^", "¨"), ("BracketRight", "$", "*"),
   ("Backslash", "`", "£"), ("Semicolon", "m", "M"), ("Quote", "ù", "%"), ("KeyM", ",", "?"),
   ("Comma", ";", "."), ("Period", ":", "/"), ("Slash", "=", "+"), ("IntlBackslash", "<", ">")]

def frenchMacOption : List Row :=
  [("Backquote", "•", "Ÿ"), ("Digit5", "\x7b", "["), ("Minus", "\x7d", "]"), ("KeyL", "¬", "|"),
   ("KeyN", "~", "ı"), ("Period", "…", "\\"), ("KeyE", "ê", "Ê")]

def frenchLetters : List Row :=
  [("KeyQ", "a", "A"), ("KeyA", "q", "Q"), ("KeyW", "z", "Z"), ("KeyZ", "w", "W")]

def germanLetters : List Row := [("KeyY", "z", "Z"), ("KeyZ", "y", "Y")]

/-! ### Putting layouts together -/

def numpad : String := "Numpad"

/-- The keys of the US layout, without those of the number pad. -/
def usKeys : Fields KeyOutput :=
  Fields.ofList (Key.all.filterMap fun k =>
    if numpad.toList.isPrefixOf k.code.toList then none
    else k.plain.map fun c =>
      (k.code, { plain := c.toString, shifted := (k.shifted.getD c).toString }))

def change (f : KeyOutput → String → String → KeyOutput) (rows : List Row)
    (keys : Fields KeyOutput) : Fields KeyOutput :=
  rows.foldl (fun keys (code, a, b) =>
    Fields.insert code (f ((keys.lookup code).getD {}) a b) keys) keys

/-- Gives keys what they produce alone and with Shift. -/
def withPlain : List Row → Fields KeyOutput → Fields KeyOutput :=
  change fun k a b => { k with plain := a, shifted := b }

/-- Gives keys what they produce with AltGr, without and with Shift. -/
def withAltGr : List Row → Fields KeyOutput → Fields KeyOutput :=
  change fun k a b => { k with altGr := a, shiftedAltGr := b }

def native : BuiltinLayout → NativeLayout
  | usPc => ⟨"00000409", "en", usKeys⟩
  | usMac => ⟨"com.apple.keylayout.US", "en",
      withAltGr usMacOption (withPlain [("IntlBackslash", "§", "±")] usKeys)⟩
  | germanPc => ⟨"00000407", "de",
      withAltGr germanPcAltGr (withPlain [("Backquote", "^", "°"), ("IntlBackslash", "<", ">")]
        (withPlain german (withPlain germanLetters usKeys)))⟩
  | germanMac => ⟨"com.apple.keylayout.German", "de",
      withAltGr germanMacOption (withPlain [("Backquote", "<", ">"), ("IntlBackslash", "^", "°")]
        (withPlain german (withPlain germanLetters usKeys)))⟩
  | frenchPc => ⟨"0000040C", "fr",
      withAltGr frenchPcAltGr (withPlain frenchPcRows (withPlain frenchLetters usKeys))⟩
  | frenchMac => ⟨"com.apple.keylayout.French", "fr",
      withAltGr frenchMacOption (withPlain frenchMacRows (withPlain frenchLetters usKeys))⟩

def layout (b : BuiltinLayout) : Layout :=
  match Layout.ofId b.id b.native with
  | .ok l => l
  | .error _ => .fallback .host

/-- A built-in layout by its identifier. -/
def load (id : String) : Except LayoutError Layout :=
  match ofId? id with
  | some b => Layout.ofId id b.native
  | none => .error (.unknown id)

end BuiltinLayout

end Shortcuts
