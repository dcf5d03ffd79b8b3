import Shortcuts.Session.Basic

/-! Sessions from preferences. -/

namespace Shortcuts.Session

/-- What keeps a session from being set up. -/
inductive StartError where
  /-- The file of the preferences cannot be used. -/
  | file (error : FileError)
  /-- The preferences ask for a layout that cannot be used. -/
  | layout (error : LayoutError)
deriving Inhabited

/-- A session that the preferences ask for. -/
def ofPreferences (p : Preferences) (storage stateFile : Option Storage) :
    Except StartError Session :=
  match Workbench.ofPreferences p {} storage with
  | .ok w => .ok (start w (some p) stateFile)
  | .error e => .error (.layout e)

/-- A session that the text of preferences asks for, over a storage. -/
def ofText (text : Option String) (storage : Option Storage) : Except StartError Session :=
  match Preferences.ofFile text with
  | .ok p => ofPreferences p storage none
  | .error e => .error (.file e)

/-- A session in a home directory, where the preferences and the state of detection have their
files. The state is kept only when the preferences say so. -/
def atHome (text state : Option String) : Except StartError Session :=
  match (text.map fun t => Preferences.ofFile (some t)).getD (.ok {}) with
  | .ok p =>
    ofPreferences p (if p.layout.persist then some (.file state) else none) (some (.file state))
  | .error e => .error (.file e)

end Shortcuts.Session
