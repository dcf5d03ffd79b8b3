import Shortcuts.Json.Record
import Shortcuts.Json.Writer
import Shortcuts.Platform
import Shortcuts.Text.Blank

/-! Keyboard layouts: which characters the keys produce. -/

namespace Shortcuts

/-- What is held with a key as far as it matters for its character. -/
inductive Level where
  | plain
  | shifted
  | altGr
  | shiftedAltGr
deriving DecidableEq, Inhabited, Repr

namespace Level

def ofHeld (shift alt : Bool) : Level :=
  match shift, alt with
  | false, false => plain
  | true, false => shifted
  | false, true => altGr
  | true, true => shiftedAltGr

def needsShift : Level → Bool
  | shifted | shiftedAltGr => true
  | _ => false

def needsAlt : Level → Bool
  | altGr | shiftedAltGr => true
  | _ => false

def name : Level → String
  | plain => "value"
  | shifted => "withShift"
  | altGr => "withAltGr"
  | shiftedAltGr => "withShiftAltGr"

def all : List Level := [plain, shifted, altGr, shiftedAltGr]

end Level

/-- What one key produces. An empty text is nothing. -/
structure KeyOutput where
  plain : String := ""
  shifted : String := ""
  altGr : String := ""
  shiftedAltGr : String := ""
deriving DecidableEq, Inhabited, Repr

namespace KeyOutput

def text (k : KeyOutput) : Level → String
  | .plain => k.plain
  | .shifted => k.shifted
  | .altGr => k.altGr
  | .shiftedAltGr => k.shiftedAltGr

def get? (k : KeyOutput) (l : Level) : Option String :=
  if k.text l = "" then none else some (k.text l)

/-- The levels that produce something. -/
def toJson (k : KeyOutput) : Json :=
  .obj (Level.all.filterMap fun l => (k.get? l).map fun s => (l.name, .str s))

def ofWritten? (w : Json.Written) : Option KeyOutput :=
  match w.record? .refused (Level.all.map Level.name) with
  | some [plain, shifted, altGr, shiftedAltGr] => do
    let plain ← Json.Written.defaulted "" (·.text?) plain
    let shifted ← Json.Written.defaulted "" (·.text?) shifted
    let altGr ← Json.Written.defaulted "" (·.text?) altGr
    let shiftedAltGr ← Json.Written.defaulted "" (·.text?) shiftedAltGr
    return ⟨plain, shifted, altGr, shiftedAltGr⟩
  | _ => none

end KeyOutput

/-- A layout as the system describes it: an identifier, a language, and the output of each key by
its code. -/
structure NativeLayout where
  id : String := ""
  language : String := ""
  keys : Fields KeyOutput := []
deriving DecidableEq, Inhabited, Repr

namespace NativeLayout

def readInfo? (w : Json.Written) : Option (String × String) :=
  match w.record? .refused ["id", "lang"] with
  | some [id, language] => do
    let id ← Json.Written.defaulted "" (·.text?) id
    let language ← Json.Written.defaulted "" (·.text?) language
    return (id, language)
  | _ => none

def ofWritten? (w : Json.Written) : Option NativeLayout :=
  match w.record? .refused ["info", "mapping"] with
  | some [info, keys] => do
    let (id, language) ← Json.Written.defaulted ("", "") readInfo? info
    let keys ← Json.Written.defaulted [] (·.map? KeyOutput.ofWritten?) keys
    return ⟨id, language, keys⟩
  | _ => none

def ofJson? (j : Json) : Option NativeLayout := ofWritten? j.written

def text (n : NativeLayout) : String :=
  Json.compactRecord
    [("info", .obj [("id", .str n.id), ("lang", .str n.language)]),
      ("mapping", .obj (n.keys.map fun (code, k) => (code, k.toJson)))]

end NativeLayout

inductive LayoutError where
  | unknown (id : String)
  | nativeUnavailable
  | nativeQuery (reason : String)
deriving DecidableEq, Inhabited, Repr

def LayoutError.message : LayoutError → String
  | unknown id => "unknown keyboard layout: " ++ id
  | nativeUnavailable => "native keyboard layout query unavailable"
  | nativeQuery reason => "native keyboard layout query failed: " ++ reason

/-- A name for the kind of the error. -/
def LayoutError.kind : LayoutError → String
  | unknown _ => "UnknownLayout"
  | nativeUnavailable => "NativeUnavailable"
  | nativeQuery _ => "NativeQuery"

/-- A layout that the keyboard may have. -/
structure Layout where
  name : String
  hardware : Platform
  language : String
  native : NativeLayout
  /-- Stands in where no layout is known. -/
  isFallback : Bool := false
deriving Inhabited, Repr

namespace Layout

/-- Layouts are the same when all but their keys agrees. -/
def same (a b : Layout) : Bool :=
  a.isFallback = b.isFallback && a.name = b.name && a.hardware = b.hardware &&
    a.language = b.language

instance : BEq Layout := ⟨same⟩

def replaceChar (a b : Char) (s : String) : String :=
  String.ofList (s.toList.map fun c => if c = a then b else c)

/-- The identifier `language-name-hardware`, with underscores for the blanks of the name. -/
def id (l : Layout) : String :=
  l.language ++ "-" ++ replaceChar ' ' '_' l.name ++ "-" ++ l.hardware.name

/-- A layout by its identifier and its keys. -/
def ofId (id : String) (native : NativeLayout) : Except LayoutError Layout :=
  match (Text.splitBy (· = '-') id.toList).map String.ofList with
  | [language, name, hardware] =>
    match Platform.ofName? hardware with
    | some hardware => .ok { name := replaceChar '_' ' ' name, hardware, language, native }
    | none => .error (.unknown id)
  | _ => .error (.unknown id)

/-- The US layout without any keys, under which input is taken as it is. -/
def fallback (p : Platform) : Layout :=
  { name := "US", hardware := p, language := "en", native := {}, isFallback := true }

def character? (l : Layout) (code : String) (level : Level) : Option String :=
  (l.native.keys.lookup code).bind (·.get? level)

/-- The name shown to users. -/
def display (l : Layout) : String :=
  l.name ++ " (" ++ (match l.hardware with | .mac => "Mac" | .pc => "PC") ++ ")"

end Layout

end Shortcuts
