import Shortcuts.Context.Arena

/-! Elements of a user interface. An attribute of an element says which context it belongs to, and
the elements inside it belong there too. -/

namespace Shortcuts

abbrev ElementId := Nat

structure Element where
  /-- The elements around it, the nearest first. -/
  around : List ElementId := []
  attributes : Fields String := []
deriving Inhabited

structure Elements where
  table : Table Element := []
  next : ElementId := 0
deriving Inhabited

namespace Elements

/-- The attribute that names a context. -/
def contextAttribute : String := "data-keybinding-context"

def create (es : Elements) (parent : Option ElementId) : Elements × ElementId :=
  let around := match parent with
    | some p => p :: ((es.table.lookup p).map Element.around).getD []
    | none => []
  ({ table := es.table.put es.next { around }, next := es.next + 1 }, es.next)

def attribute? (es : Elements) (id : ElementId) (name : String) : Option String :=
  (es.table.lookup id).bind fun e => e.attributes.lookup name

def setAttribute (es : Elements) (id : ElementId) (name value : String) : Elements :=
  { es with table := es.table.modify id fun e =>
      { e with attributes := Fields.insert name value e.attributes } }

def removeAttribute (es : Elements) (id : ElementId) (name : String) : Elements :=
  { es with table := es.table.modify id fun e =>
      { e with attributes := Fields.erase name e.attributes } }

/-- The context that an element belongs to. Where nothing is said it is the root, and a name that
is not that of a context is none. -/
def contextOf (es : Elements) (target : Option ElementId) : Option ContextId :=
  match target with
  | none => some Arena.root
  | some id =>
    let path := id :: ((es.table.lookup id).map Element.around).getD []
    match path.findSome? fun e => es.attribute? e contextAttribute with
    | some name => Arena.idOfText? name
    | none => some Arena.root

end Elements

end Shortcuts
