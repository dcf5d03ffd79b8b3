import Shortcuts.Describe.Binding
import Shortcuts.Preferences
import Shortcuts.Workbench.Basic

/-! Layouts, preferences and events as structured values. -/

namespace Shortcuts

def Layout.described (l : Layout) : List (String × Json) :=
  [("id", .str l.id), ("name", .str l.name), ("hardware", .str l.hardware.name),
    ("language", .str l.language), ("display", .str l.display), ("fallback", .bool l.isFallback),
    ("native", .str l.native.id)]

def Layout.describe (l : Layout) : Json := .record l.described

/-- The keys of a layout, each with its characters on all levels. -/
def Layout.describedKeys (l : Layout) : List (String × Json) :=
  let keys := l.native.keys.map fun (code, k) => (code, Json.ofStrings (Level.all.map k.text))
  [("lang", .str l.native.language), ("serialized", .str l.native.text), ("mapping", .record keys)]

/-- The scores in the order of the candidates, the highest, and how many characters were seen. -/
def Scores.described (s : Scores) : List (String × Json) :=
  [("scores", .ofList (fun e => .ofNat e.2) s.entries), ("top", .ofNat s.top),
    ("inputs", .ofNat s.seen.length)]

/-- The current layout and how it was found. -/
def Detection.describe (d : Detection) : Json :=
  .record (("source", .str d.source.display) :: d.current.described)

/-- What was chosen and what it comes to where no variable of the environment is set. -/
def Preferences.described (p : Preferences) : List (String × Json) :=
  [("preventDefault", .bool p.preventDefault), ("stopPropagation", .bool p.stopPropagation),
    ("locale", .ofOptionStr p.locale), ("platform", .ofOptionStr (p.platform.map Platform.name)),
    ("effectivePlatform", .str p.effectivePlatform.name),
    ("effectiveLocale", .ofOptionStr (p.effectiveLocale {})),
    ("style", .str p.label.style.name), ("separator", .str p.label.separator),
    ("candidates", .ofStrings p.layout.candidates), ("persist", .bool p.layout.persist),
    ("userChoice", .ofOptionStr p.layout.choice), ("logFilter", .str p.logFilter),
    ("isDefault", .bool (p = {}))]

/-- The file of the preferences, and whether the same preferences are read from it. -/
def Preferences.describeFile (p : Preferences) : Json :=
  .record [("text", .str p.text), ("reload", .bool (Preferences.ofText? p.text = some p))]

def Preferences.describe (p : Preferences) : Json := .record p.described

/-- The values of a context, each by its text. -/
def describeValues (m : Fields Json) : Json := .obj (m.map fun (k, v) => (k, .str v.compact))

def Command.describe (c : Command) : Json :=
  .arr [.str c.id, .ofOptionStr c.label, .ofOptionStr c.category]

def SettingsChange.describe (c : SettingsChange) : Json :=
  .arr [.str c.layer.name, .ofStrings c.keys]

def Event.describe : Event → Json
  | notice (.settings c) => .arr [.str "config", .str c.layer.name, .ofStrings c.keys]
  | notice (.context observer keys) => .arr [.str "context", .str observer, .ofStrings keys]
  | handled name args => .arr [.str "handler", .str name, .textOf args]
  | executed command args => .arr [.str "executed", .str command, .textOf args]
  | layoutChanged id isEmpty => .arr [.str "layout", .str id, .bool isEmpty]
  | bindingsChanged => .arr [.str "bindings"]
  | matched r => r.describe

end Shortcuts
