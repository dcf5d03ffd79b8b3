import Shortcuts.Json.Writer
import Shortcuts.Settings

/-!
Contexts and their values. Every context but the root has a parent, and a key that a context has
no value for is looked up in its parent. The root may take the values of its `config.` keys from
the settings, each of which it remembers once it was read.
-/

namespace Shortcuts

abbrev ContextId := Nat

inductive ContextError where
  | unsupported (operation : String)
  | disposed
  | rootHasNoParent
deriving DecidableEq, Inhabited, Repr

def ContextError.message : ContextError → String
  | unsupported op => "not supported: " ++ op
  | disposed => "context key service has been disposed"
  | rootHasNoParent => "cannot update parent of the root context"

/-- A name for the kind of the error. -/
def ContextError.kind : ContextError → String
  | unsupported _ => "Unsupported"
  | disposed => "Disposed"
  | rootHasNoParent => "RootHasNoParent"

structure ContextNode where
  parent : Option ContextId := none
  values : Fields Json := []
deriving Inhabited

/-- All contexts. `remembered` is absent when the root is not backed by settings. -/
structure Arena where
  nodes : Table ContextNode
  lastId : ContextId
  remembered : Option (Fields Json)
deriving Inhabited

namespace Arena

def root : ContextId := 0

/-- The key that stands for the number of the context itself. -/
def idKey : String := "_contextId"

def settingPrefix : String := "config."

def isSettingKey (key : String) : Bool := settingPrefix.toList.isPrefixOf key.toList

/-- An arena with nothing but the root. -/
def new (backed : Bool) : Arena :=
  ⟨[(root, {})], 0, if backed then some [] else none⟩

def node? (a : Arena) (id : ContextId) : Option ContextNode := a.nodes.lookup id

def contains (a : Arena) (id : ContextId) : Bool := (a.node? id).isSome

def parent? (a : Arena) (id : ContextId) : Option ContextId := (a.node? id).bind (·.parent)

def createChild (a : Arena) (parent : ContextId) : Arena × ContextId :=
  let id := a.lastId + 1
  ({ a with nodes := a.nodes.put id { parent := some parent }, lastId := id }, id)

/-- Drops a context. The root stays. -/
def dispose (a : Arena) (id : ContextId) : Arena × Bool :=
  if id = root then (a, false)
  else ({ a with nodes := a.nodes.erase id }, a.contains id)

def updateParent (a : Arena) (id parent : ContextId) : Except ContextError Arena :=
  if id = root then .error .rootHasNoParent
  else if !a.contains parent then .error .disposed
  else if !a.contains id then .error .disposed
  else .ok { a with nodes := a.nodes.modify id fun n => { n with parent := some parent } }

/-! ### Lookups -/

/-- Where a lookup ends. -/
inductive Found where
  | value (v : Json)
  /-- At the root, with a key that the settings answer. -/
  | setting
  | missing

/-- Goes from a context towards the root. No chain of parents is longer than there are
contexts. -/
def find (a : Arena) (key : String) : Nat → ContextId → Found
  | 0, _ => .missing
  | fuel + 1, id =>
    match a.node? id with
    | none => .missing
    | some node =>
      if id = root ∧ isSettingKey key ∧ a.remembered.isSome then .setting
      else match node.values.lookup key with
        | some v => .value v
        | none =>
          match node.parent with
          | some p => find a key fuel p
          | none => .missing

def locate (a : Arena) (id : ContextId) (key : String) : Found :=
  find a key (a.nodes.length + 1) id

/-- The value of a setting as a context value; a list counts as its text. -/
def settingValue (settings : String → Option Json) (key : String) : Option Json :=
  (settings (String.ofList (key.toList.drop settingPrefix.length))).map fun v =>
    match v with
    | .arr items => .str (Json.arr items).compact
    | v => v

/-- The value of a key as a context sees it. -/
def get? (settings : String → Option Json) (a : Arena) (id : ContextId) (key : String) :
    Option Json :=
  if key = idKey then (if a.contains id then some (.ofNat id) else none)
  else match a.locate id key with
    | .value v => some v
    | .setting =>
      match (a.remembered.getD []).lookup key with
      | some v => some v
      | none => settingValue settings key
    | .missing => none

/-- Remembers the setting that a lookup found. -/
def remember (settings : String → Option Json) (a : Arena) (id : ContextId) (key : String) :
    Arena :=
  if key = idKey then a
  else match a.locate id key, a.remembered with
    | .setting, some known =>
      if (known.lookup key).isSome then a
      else match settingValue settings key with
        | some v => { a with remembered := some (Fields.insert key v known) }
        | none => a
    | _, _ => a

/-- The arena after several lookups from one context. -/
def rememberAll (settings : String → Option Json) (a : Arena) (id : ContextId)
    (keys : List String) : Arena :=
  keys.foldl (fun a k => a.remember settings id k) a

/-! ### Values -/

/-- Stores a value. Storing what is there already is no change. -/
def set (a : Arena) (id : ContextId) (key : String) (v : Json) : Arena × Bool :=
  match a.node? id with
  | none => (a, false)
  | some node =>
    if node.values.lookup key == some v then (a, false)
    else
      ({ a with nodes := a.nodes.modify id fun n =>
          { n with values := Fields.insert key v n.values } }, true)

def remove (a : Arena) (id : ContextId) (key : String) : Arena × Bool :=
  match a.node? id with
  | none => (a, false)
  | some node =>
    if (node.values.lookup key).isSome then
      ({ a with nodes := a.nodes.modify id fun n =>
          { n with values := Fields.erase key n.values } }, true)
    else (a, false)

/-- The contexts from `id` up to the root, or to the last one that exists. -/
def chain (a : Arena) : Nat → ContextId → List ContextId
  | 0, _ => []
  | fuel + 1, id =>
    match a.node? id with
    | none => []
    | some node =>
      id :: match node.parent with
        | some p => chain a fuel p
        | none => []

def ancestry (a : Arena) (id : ContextId) : List ContextId := a.chain (a.nodes.length + 1) id

/-- Puts the values of one context over those of the contexts above it. -/
def overlayNode (a : Arena) (below : Fields Json) (id : ContextId) : Fields Json :=
  let below := if id = root then Fields.overlay below (a.remembered.getD []) else below
  match a.node? id with
  | some node => Fields.overlay below node.values
  | none => below

/-- All values that a context sees, a nearer one in place of a farther one. Of the settings only
the remembered ones are among them. -/
def collect (a : Arena) (id : ContextId) : Fields Json :=
  Fields.erase idKey ((a.ancestry id).reverse.foldl a.overlayNode [])

/-! ### Settings that change -/

/-- Forgets what a change of the settings may have made wrong, and gives the keys forgotten. A
change of the defaults makes everything doubtful. -/
def settingsChanged (a : Arena) (change : SettingsChange) : Arena × List String :=
  match a.remembered with
  | none => (a, [])
  | some known =>
    if change.layer = .base then ({ a with remembered := some [] }, known.keys)
    else
      let (known, changed) := change.keys.foldl (fun (known, changed) k =>
        let key := settingPrefix ++ k
        let stale := known.keys.filter fun l => l = key || isSectionOf key l
        (known.filter fun e => !stale.contains e.1,
          changed ++ stale.filter fun l => !changed.contains l)) (known, [])
      ({ a with remembered := some known }, changed)

/-- Reads the number of a context. -/
def idOfText? (s : String) : Option ContextId :=
  let cs := Text.trim s.toList
  let ds := match cs with
    | '+' :: r => r
    | r => r
  let n := ds.foldl (fun n c => 10 * n + (c.toNat - 48)) 0
  if ds.isEmpty || !ds.all Char.isDigit || Nat.pow 2 32 ≤ n then none else some n

end Arena

end Shortcuts
