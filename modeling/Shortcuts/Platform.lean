/-! The two families of keyboards and systems. -/

namespace Shortcuts

/-- On `mac` the primary modifier is Meta, on `pc` it is Ctrl. -/
inductive Platform where
  | mac
  | pc
deriving DecidableEq, Inhabited, Repr

namespace Platform

/-- The family of the system this program is meant to run on. -/
def host : Platform := pc

def name : Platform → String
  | mac => "mac"
  | pc => "pc"

def ofName? (s : String) : Option Platform :=
  if s = "mac" then some mac else if s = "pc" then some pc else none

def metaIsPrimary : Platform → Bool
  | mac => true
  | pc => false

end Platform

end Shortcuts
