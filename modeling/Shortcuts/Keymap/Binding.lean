import Shortcuts.Chord.Reader
import Shortcuts.Json.Record
import Shortcuts.Json.Writer

/-! Bindings: which keys run which command, and when. -/

namespace Shortcuts

structure Binding where
  /-- The command to run. A leading `-` makes the binding a marker, which disables another. -/
  command : String
  /-- The chord text. -/
  keys : String
  /-- The name of a keybinding context that has to enable the binding. -/
  context : Option String := none
  /-- The when-clause. -/
  condition : Option String := none
  args : Option Json := none
  preventDefault : Option Bool := none
  stopPropagation : Option Bool := none
deriving BEq, Inhabited, Repr

namespace Binding

/-- The command that runs nothing and leaves the event to others. -/
def passthrough : String := "passthrough"

def isPassthrough (b : Binding) : Bool := b.command = passthrough

/-- What makes bindings the same for a marker. -/
structure Signature where
  command : String
  context : Option String
  condition : Option String
  keys : String
deriving DecidableEq, Inhabited, Repr

def signature (b : Binding) : Signature := ⟨b.command, b.context, b.condition, b.keys⟩

/-- The signature of the bindings that a marker disables. -/
def target? (b : Binding) : Option Signature :=
  match b.command.toList with
  | '-' :: rest => some { b.signature with command := String.ofList rest }
  | _ => none

def isMarker (b : Binding) : Bool := b.target?.isSome

/-- The number of chords in the chord text. -/
def strokes (b : Binding) : Nat := Chord.countIn b.keys

/-- Compares two bindings, without their keys or their arguments if those are to be ignored. A
missing context or when-clause is the same as an empty one. -/
def agrees (a b : Binding) (ignoreKeys ignoreArgs : Bool) : Bool :=
  a.command = b.command && a.context.getD "" = b.context.getD "" &&
    a.condition.getD "" = b.condition.getD "" && (ignoreKeys || a.keys = b.keys) &&
    (ignoreArgs || a.args == b.args)

/-- The fields that users see, as far as they are given. -/
def publicFields (b : Binding) : List (String × Json) :=
  [("command", .str b.command), ("keybinding", .str b.keys)] ++
    (b.context.map fun s => ("context", Json.str s)).toList ++
    (b.condition.map fun s => ("when", Json.str s)).toList ++
    (b.args.map fun j => ("args", j)).toList

def fields (b : Binding) : List (String × Json) :=
  b.publicFields ++ (b.preventDefault.map fun f => ("preventDefault", Json.bool f)).toList ++
    (b.stopPropagation.map fun f => ("stopPropagation", Json.bool f)).toList

/-- The text of the public fields. -/
def text (b : Binding) : String := Json.compactRecord b.publicFields

/-- The text of all fields. -/
def fullText (b : Binding) : String := Json.compactRecord b.fields

def fieldNames : List String :=
  ["command", "keybinding", "context", "when", "args", "preventDefault", "stopPropagation"]

/-- Reads a binding, with room for `depth` levels of nesting in its arguments. -/
def ofWritten? (surplus : Json.Surplus) (depth : Nat) (w : Json.Written) : Option Binding :=
  match w.record? surplus fieldNames with
  | some [some command, some keys, context, condition, args, prevent, stop] => do
    let command ← command.text?
    let keys ← keys.text?
    let context ← Json.Written.optional (·.text?) context
    let condition ← Json.Written.optional (·.text?) condition
    let args ← Json.Written.optional (·.value depth) args
    let prevent ← Json.Written.optional (·.flag?) prevent
    let stop ← Json.Written.optional (·.flag?) stop
    return ⟨command, keys, context, condition, args, prevent, stop⟩
  | _ => none

def ofJson? (j : Json) : Option Binding := ofWritten? .refused Json.maxDepth j.written

end Binding

/-- The tiers of bindings, from the weakest to the strongest. -/
inductive Scope where
  | base
  | user
  | workspace
deriving DecidableEq, Inhabited, Repr

namespace Scope

def name : Scope → String
  | base => "default"
  | user => "user"
  | workspace => "workspace"

/-- The tier of a name. Any other name stands for the base. -/
def ofName (s : String) : Scope :=
  if s = "user" then user else if s = "workspace" then workspace else base

/-- The tiers in the order they are searched. -/
def strongestFirst : List Scope := [workspace, user, base]

end Scope

/-- A binding and the tier it stands in. -/
structure ScopedBinding extends Binding where
  scope : Scope
deriving Inhabited, Repr

end Shortcuts
