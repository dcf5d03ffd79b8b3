import Shortcuts.Json.Basic
import Shortcuts.Text.Blank

/-!
Settings in four layers. A key is a path of parts with dots between them; a value may be stored
under the whole path or inside an object stored under a part of it from the left.
-/

namespace Shortcuts

inductive Layer where
  | base
  | user
  | workspace
  | memory
deriving DecidableEq, Inhabited, Repr

namespace Layer

def name : Layer → String
  | base => "default"
  | user => "user"
  | workspace => "workspace"
  | memory => "memory"

/-- The layer of a name. Any other name stands for the base. -/
def ofName (s : String) : Layer :=
  if s = "user" then user
  else if s = "workspace" then workspace
  else if s = "memory" then memory
  else base

/-- The layers from the strongest to the weakest. -/
def strongestFirst : List Layer := [memory, workspace, user, base]

end Layer

/-- The keys that were written and the layer they were written to. -/
structure SettingsChange where
  layer : Layer
  keys : List String
deriving DecidableEq, Inhabited, Repr

/-- Whether `part` is a path and `whole` a longer one that starts with it. -/
def isSectionOf (part whole : String) : Bool := (part.toList ++ ['.']).isPrefixOf whole.toList

/-- A change concerns the written keys, the sections around them and the keys inside them. -/
def SettingsChange.affects (c : SettingsChange) (key : String) : Bool :=
  c.keys.any fun k => k = key || isSectionOf k key || isSectionOf key k

structure Settings where
  base : Fields Json := []
  user : Fields Json := []
  workspace : Fields Json := []
  memory : Fields Json := []
deriving Inhabited

namespace Settings

def layer (s : Settings) : Layer → Fields Json
  | .base => s.base
  | .user => s.user
  | .workspace => s.workspace
  | .memory => s.memory

def withLayer (s : Settings) (l : Layer) (values : Fields Json) : Settings :=
  match l with
  | .base => { s with base := values }
  | .user => { s with user := values }
  | .workspace => { s with workspace := values }
  | .memory => { s with memory := values }

/-- Follows a path through nested objects. -/
def descend : Json → List String → Option Json
  | j, [] => some j
  | j, p :: ps =>
    match j.get? p with
    | some inner => descend inner ps
    | none => none

def pathParts (key : String) : List String :=
  (Text.splitBy (· = '.') key.toList).map String.ofList

/-- Tries sections with fewer and fewer parts; the first one stored decides. -/
def lookupSection (values : Fields Json) (parts : List String) : Nat → Option Json
  | 0 => none
  | n + 1 =>
    match values.lookup (".".intercalate (parts.take (n + 1))) with
    | some stored => descend stored (parts.drop (n + 1))
    | none => lookupSection values parts n

/-- The value of a key in one layer. -/
def lookupIn (values : Fields Json) (key : String) : Option Json :=
  let parts := pathParts key
  lookupSection values parts parts.length

def inspect? (s : Settings) (key : String) (l : Layer) : Option Json := lookupIn (s.layer l) key

/-- The value of a key in the strongest layer that has one. -/
def get? (s : Settings) (key : String) : Option Json :=
  Layer.strongestFirst.findSome? fun l => s.inspect? key l

def update (s : Settings) (key : String) (v : Json) (l : Layer) : Settings × SettingsChange :=
  (s.withLayer l (Fields.insert key v (s.layer l)), ⟨l, [key]⟩)

/-- Removing what is not there is no change. -/
def remove (s : Settings) (key : String) (l : Layer) : Settings × Option SettingsChange :=
  if ((s.layer l).lookup key).isSome then
    (s.withLayer l (Fields.erase key (s.layer l)), some ⟨l, [key]⟩)
  else (s, none)

/-- Replaces the whole base layer. -/
def setDefaults (s : Settings) (values : Fields Json) : Settings × SettingsChange :=
  ({ s with base := values }, ⟨.base, values.keys⟩)

end Settings

end Shortcuts
