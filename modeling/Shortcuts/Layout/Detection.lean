import Shortcuts.Layout.Builtin
import Shortcuts.Layout.Scores
import Shortcuts.Storage
import Shortcuts.Timestamp

/-!
Finding out the layout of the keyboard. What the user chose counts most, then what the system
says, then what can be told from pressed keys. Operations that switch layouts also give the keys
to announce to those who follow.
-/

namespace Shortcuts

/-- How the current layout was found. -/
inductive LayoutSource where
  | native
  | choice
  | pressedKeys
deriving DecidableEq, Inhabited, Repr

namespace LayoutSource

/-- The name under which a source is stored. -/
def storedName : LayoutSource → String
  | native => "navigator.keyboard"
  | choice => "user-choice"
  | pressedKeys => "pressed-keys"

def display : LayoutSource → String
  | native => "native API"
  | choice => "user choice"
  | pressedKeys => "pressed keys"

def ofStoredName? (s : String) : Option LayoutSource :=
  [native, choice, pressedKeys].find? (·.storedName = s)

/-- Reads a name, or an object whose only field has the name and null. -/
def ofWritten? : Json.Written → Option LayoutSource
  | .str (some s) => ofStoredName? s
  | .obj [(some s, .null)] => ofStoredName? s
  | _ => none

end LayoutSource

/-- What is kept between runs. -/
structure DetectionRecord where
  scores : Option ScoreRecord := none
  source : Option LayoutSource := none
  current : Option String := none
  /-- When it was stored. -/
  time : Option String := none
deriving DecidableEq, Inhabited, Repr

namespace DetectionRecord

def readTime? (w : Json.Written) : Option String := w.text?.filter Timestamp.isValid

def ofWritten? (w : Json.Written) : Option DetectionRecord :=
  match w.record? .refused ["tester", "source", "currentLayout", "savedAt"] with
  | some [scores, source, current, time] => do
    let scores ← Json.Written.optional ScoreRecord.ofWritten? scores
    let source ← Json.Written.optional LayoutSource.ofWritten? source
    let current ← Json.Written.optional (·.text?) current
    let time ← Json.Written.optional readTime? time
    return ⟨scores, source, current, time⟩
  | _ => none

def toJson (r : DetectionRecord) : Json :=
  .obj [("currentLayout", .ofOptionStr r.current), ("savedAt", .ofOptionStr r.time),
    ("source", .ofOptionStr (r.source.map LayoutSource.storedName)),
    ("tester", .ofOption (r.scores.map ScoreRecord.toJson))]

end DetectionRecord

/-- The candidates, what is known about them, and the layout in use. -/
structure Detection where
  platform : Platform
  locale : Option String := none
  /-- What the system answers when it is asked for its layout, if it can be asked. -/
  native : Option (Except LayoutError NativeLayout) := none
  storage : Option Storage := none
  /-- The time to note down with what is stored. -/
  now : String := "1970-01-01T00:00:00Z"
  scores : Scores
  source : LayoutSource
  current : Layout
deriving Inhabited

namespace Detection

/-- The field of the storage that holds the record. -/
def storageKey : String := "keyboard"

def candidates (d : Detection) : List Layout := d.scores.candidates

def hasLayout (d : Detection) (id : String) : Bool := d.candidates.any (·.id = id)

/-- Makes a layout a candidate. All scores start over, unless there is one of that name. -/
def addLayout (d : Detection) (l : Layout) : Detection :=
  if d.hasLayout l.id then d else { d with scores := .ofLayouts (d.candidates ++ [l]) }

/-- Makes a built-in layout a candidate. -/
def addBuiltin (d : Detection) (id : String) : Except LayoutError Detection :=
  if d.hasLayout id then .ok d
  else (BuiltinLayout.load id).map d.addLayout

/-! ### The record -/

def toRecord (d : Detection) : DetectionRecord :=
  { scores := some d.scores.toRecord, source := some d.source
    current := if d.current.isFallback then none else some d.current.id
    time := some d.now }

/-- Stores the record. Where that fails, nothing is stored. -/
def save (d : Detection) : Detection :=
  match d.storage with
  | none => d
  | some st =>
    match st.put storageKey d.toRecord.toJson with
    | .ok st => { d with storage := some st }
    | .error _ => d

/-- The stored record, if there is one that can be read. -/
def stored? (d : Detection) : Option DetectionRecord :=
  match d.storage with
  | none => none
  | some st =>
    match st.get storageKey with
    | .ok (some j) => DetectionRecord.ofWritten? j.written
    | _ => none

/-- Goes on where a record left off. Built-in layouts that it names become candidates. -/
def restore (d : Detection) (r : DetectionRecord) : Detection :=
  let scores := r.scores.getD {}
  let d := (scores.scores.keys ++ r.current.toList).foldl (fun d id =>
    match d.addBuiltin id with
    | .ok d => d
    | .error _ => d) d
  let current := (r.current.bind fun id => d.candidates.find? (·.id = id)).getD
    (.fallback d.platform)
  { d with scores := d.scores.restore scores, source := r.source.getD .pressedKeys, current }

/-- The start, with what an earlier run stored. -/
def start (platform : Platform) (locale : Option String)
    (native : Option (Except LayoutError NativeLayout)) (storage : Option Storage) : Detection :=
  let d : Detection :=
    { platform, locale, native, storage
      scores := .ofLayouts (BuiltinLayout.startup.map BuiltinLayout.layout)
      source := .pressedKeys, current := .fallback platform }
  match d.stored? with
  | some r => d.restore r
  | none => d

/-! ### Choosing a layout -/

def speaks (d : Detection) (l : Layout) : Bool :=
  match d.locale with
  | some locale => l.language.toList.isPrefixOf locale.toList
  | none => false

/-- Of the candidates with the highest score the first of this hardware and language, else the
first of this hardware, else the first. -/
def select (d : Detection) : Layout :=
  let fits (l : Layout) : Bool := l.hardware = d.platform
  let best := d.scores.leaders.find? (fun l => fits l && d.speaks l) <|>
    d.scores.leaders.find? fits <|> d.scores.leaders.head?
  best.getD (.fallback d.platform)

/-- Makes a layout the current one. -/
def use (d : Detection) (l : Layout) (source : LayoutSource) : Detection :=
  save { d with current := l, source }

/-- Scores the candidates anew by the keys of a layout, each without modifiers. -/
def scoreNative (s : Scores) (n : NativeLayout) : Scores :=
  n.keys.foldl (fun s (code, k) =>
    match k.get? .plain with
    | some c => (s.observe { code, character := c }).1
    | none => s) s.reset

/-- The layout that the system names, else the one that pressed keys tell. -/
def autodetect (d : Detection) : Detection × Layout × LayoutSource :=
  match d.native with
  | some (.ok n) =>
    let d := { d with scores := scoreNative d.scores n }
    (d, d.select, .native)
  | _ => (d, d.select, .pressedKeys)

/-- Looks for the layout again, unless the user chose one. -/
def refresh (d : Detection) : Detection :=
  if d.source = .choice then d
  else
    let (d, l, source) := d.autodetect
    d.use l source

/-- The system says that its layout is another one now. -/
def nativeChanged (d : Detection) : Detection × NativeLayout :=
  let d := d.refresh
  (d, d.current.native)

/-- The user chooses a layout. -/
def choose (d : Detection) (l : Layout) : Detection × Option NativeLayout :=
  if d.source = .choice && d.current == l then (d, none) else (d.use l .choice, some l.native)

/-- The user leaves the choice to detection, which gives the layout found. -/
def unchoose (d : Detection) : Detection × Option NativeLayout × Layout :=
  if d.source = .choice then
    let (d, l, source) := d.autodetect
    (d.use l source, some l.native, l)
  else (d, none, d.current)

/-- Takes in a pressed key. -/
def observe (d : Detection) (o : Observation) : Detection × Option NativeLayout :=
  if d.source ≠ .pressedKeys then (d, none)
  else
    match d.scores.observe o with
    | (_, false) => (d, none)
    | (scores, true) =>
      let d := { d with scores }
      let l := d.select
      if l == d.current || l.isFallback then (d, none)
      else (d.use l .pressedKeys, some l.native)

end Detection

end Shortcuts
