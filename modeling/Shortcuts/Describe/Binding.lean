import Shortcuts.Describe.Chord
import Shortcuts.Dispatch.Match
import Shortcuts.Keymap.Collision

/-! Bindings and what they come to as structured values. -/

namespace Shortcuts

namespace Binding

def described (b : Binding) : List (String × Json) :=
  [("command", .str b.command), ("keybinding", .str b.keys), ("context", .ofOptionStr b.context),
    ("when", .ofOptionStr b.condition), ("args", .textOf b.args),
    ("preventDefault", .ofOptionBool b.preventDefault),
    ("stopPropagation", .ofOptionBool b.stopPropagation)]

def describe (b : Binding) : Json := .record b.described

def Signature.describe (s : Signature) : Json :=
  .arr [.str s.command, .ofOptionStr s.context, .ofOptionStr s.condition, .str s.keys]

/-- A binding without what it says about events. -/
def plain (b : Binding) : Binding := { b with preventDefault := none, stopPropagation := none }

/-- What is told about every binding. The last of it is whether the binding is the one that has the
same trigger and conditions, and says about events: nothing, to prevent the default, to stop. -/
def facts (b : Binding) : List (String × Json) :=
  let rebuilt := [b.plain, { b.plain with preventDefault := some true },
    { b.plain with stopPropagation := some true }]
  [("binding", b.describe), ("stringify", .str b.text), ("serialized", .str b.fullText),
    ("display", .str b.text), ("marker", .bool b.isMarker), ("pseudo", .bool b.isPassthrough),
    ("strokes", .ofNat b.strokes), ("signature", b.signature.describe),
    ("target", .ofMaybe Signature.describe b.target?),
    ("rebuilt", .ofList (fun c => .bool (c == b)) rebuilt)]

/-- How one binding stands to another: the ways to agree are with regard to keys and arguments,
without the keys, without the arguments, and without both. -/
def beside (a b : Binding) : List (String × Json) :=
  let ways := [(false, false), (true, false), (false, true), (true, true)]
  [("equals", .ofList (fun (x, y) => .bool (a.agrees b x y)) ways), ("same", .bool (a == b)),
    ("sameSignature", .bool (a.signature = b.signature)),
    ("disables", .bool (a.target? = some b.signature))]

end Binding

namespace ScopedBinding

def describe (b : ScopedBinding) : Json :=
  .record (("scope", .str b.scope.name) :: b.toBinding.described)

def describeAll (bs : List ScopedBinding) : Json := .ofList describe bs

end ScopedBinding

/-- An entry of a keymap, with the text of its chords when those are known. -/
def Keymap.Entry.describe (e : Keymap.Entry) : Json :=
  .arr [.str e.binding.command, .str e.binding.keys, .ofOptionStr (e.chords.map Chord.sequenceText)]

def Collisions.described (c : Collisions) : List (String × Json) :=
  [("full", ScopedBinding.describeAll c.full), ("partial", ScopedBinding.describeAll c.begun),
    ("shadow", ScopedBinding.describeAll c.shadow), ("len", .ofNat c.size),
    ("empty", .bool c.isEmpty), ("report", .str c.report)]

def Collisions.describe (c : Collisions) : Json := .record c.described

def Match.describe : Match → Json
  | full b => .arr [.str "full", b.describe]
  | begun b => .arr [.str "partial", b.describe]

def MatchReport.describe : MatchReport → Json
  | begun b typed => .ofStrings ["match", "partial", b.command, Chord.sequenceText typed]
  | full b => .arr [.str "match", .str "full", .str b.command, .null]
  | nothing typed => .arr [.str "match", .str "none", .null, .str (Chord.sequenceText typed)]

end Shortcuts
