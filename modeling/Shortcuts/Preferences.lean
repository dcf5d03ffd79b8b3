import Shortcuts.Accelerator
import Shortcuts.Json.Record
import Shortcuts.Keymap.File
import Shortcuts.Locale
import Shortcuts.Toml.Writer

/-! What a user may choose in the preferences file. -/

namespace Shortcuts

/-- How labels are drawn. -/
structure LabelPreferences where
  style : LabelStyle := .text
  separator : String := "+"
deriving DecidableEq, Inhabited, Repr

structure LayoutPreferences where
  /-- Built-in layouts to start with. -/
  candidates : List String := []
  /-- Whether what was found out about the layout is kept between runs. -/
  persist : Bool := true
  /-- A layout to use without looking for one. -/
  choice : Option String := none
deriving DecidableEq, Inhabited, Repr

structure Preferences where
  preventDefault : Bool := false
  stopPropagation : Bool := false
  locale : Option String := none
  platform : Option Platform := none
  label : LabelPreferences := {}
  layout : LayoutPreferences := {}
  logFilter : String := "warn"
deriving DecidableEq, Inhabited, Repr

namespace Preferences

/-- The platform to work for, unless one is chosen that of the host. -/
def effectivePlatform (p : Preferences) : Platform := p.platform.getD .host

/-- The locale to work in, unless one is chosen that of the environment. -/
def effectiveLocale (p : Preferences) (e : Locale.Environment) : Option String :=
  p.locale <|> e.locale?

open Json (Written)

/-- Reads one of a set of names: a text, or a table whose only field has that name and holds
nothing. -/
def readName? {α : Type} (ofName? : String → Option α) : Written → Option α
  | .str (some s) => ofName? s
  | .obj [(some s, .obj [])] => ofName? s
  | .obj [(some s, .arr [])] => ofName? s
  | _ => none

def readLabel? (w : Written) : Option LabelPreferences :=
  match w.record? .skipped ["style", "separator"] with
  | some [style, separator] => do
    let style ← Written.defaulted .text (readName? LabelStyle.ofName?) style
    let separator ← Written.defaulted "+" (·.text?) separator
    return ⟨style, separator⟩
  | _ => none

def readLayout? (w : Written) : Option LayoutPreferences :=
  match w.record? .skipped ["candidates", "persist", "user_choice"] with
  | some [candidates, persist, choice] => do
    let candidates ← Written.defaulted [] (·.list? (·.text?)) candidates
    let persist ← Written.defaulted true (·.flag?) persist
    let choice ← Written.optional (·.text?) choice
    return ⟨candidates, persist, choice⟩
  | _ => none

def fieldNames : List String :=
  ["prevent_default", "stop_propagation", "locale", "platform", "accelerator", "layout",
    "log_filter"]

def ofWritten? (w : Written) : Option Preferences :=
  match w.record? .skipped fieldNames with
  | some [prevent, stop, locale, platform, label, layout, logFilter] => do
    let prevent ← Written.defaulted false (·.flag?) prevent
    let stop ← Written.defaulted false (·.flag?) stop
    let locale ← Written.optional (·.text?) locale
    let platform ← Written.optional (readName? Platform.ofName?) platform
    let label ← Written.defaulted {} readLabel? label
    let layout ← Written.defaulted {} readLayout? layout
    let logFilter ← Written.defaulted "warn" (·.text?) logFilter
    return ⟨prevent, stop, locale, platform, label, layout, logFilter⟩
  | _ => none

/-- Reads the text of a preferences file. -/
def ofText? (text : String) : Option Preferences :=
  Toml.read? text >>= fun document => ofWritten? document.written

/-- Reads a preferences file by its text, absent if there is no such file. -/
def ofFile : Option String → Except FileError Preferences
  | none => .error .missing
  | some text =>
    match ofText? text with
    | some p => .ok p
    | none => .error .notToml

open Toml (Line.entry Line.quote Line.boolean Line.list)

/-- The line of a choice, if it was made. -/
def chosen (key : String) (value : Option String) : String :=
  match value with
  | some v => Line.entry key (Line.quote v)
  | none => ""

/-- The text of a preferences file. -/
def text (p : Preferences) : String :=
  Line.entry "prevent_default" (Line.boolean p.preventDefault) ++
    Line.entry "stop_propagation" (Line.boolean p.stopPropagation) ++
    chosen "locale" p.locale ++ chosen "platform" (p.platform.map Platform.name) ++
    Line.entry "log_filter" (Line.quote p.logFilter) ++
    "\n[accelerator]\n" ++ Line.entry "style" (Line.quote (p.label.style.name)) ++
    Line.entry "separator" (Line.quote p.label.separator) ++
    "\n[layout]\n" ++ Line.entry "candidates" (Line.list p.layout.candidates) ++
    Line.entry "persist" (Line.boolean p.layout.persist) ++ chosen "user_choice" p.layout.choice

end Preferences

end Shortcuts
