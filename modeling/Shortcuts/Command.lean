import Shortcuts.Fields
import Shortcuts.Json.Writer

/-!
Commands and their handlers. Handlers of one command form a stack, and the newest one that accepts
the arguments runs. What a handler does is left open here.
-/

namespace Shortcuts

inductive CommandError where
  | notFound (id : String)
  | noActiveHandler (id : String)
  | alreadyRegistered (id : String)
  | invalidArgument (reason : String)
  | executionFailed (reason : String)
  | other (reason : String)
deriving DecidableEq, Inhabited, Repr

def CommandError.message : CommandError → String
  | notFound id => "command not found: " ++ id
  | noActiveHandler id =>
    "the command '" ++ id ++ "' cannot be executed, there are no active handlers available for " ++
      "the command"
  | alreadyRegistered id => "command already registered: " ++ id
  | invalidArgument reason => "invalid argument: " ++ reason
  | executionFailed reason => "execution failed: " ++ reason
  | other reason => reason

/-- A name for the kind of the error. -/
def CommandError.kind : CommandError → String
  | notFound _ => "NOT_FOUND"
  | noActiveHandler _ => "NO_ACTIVE_HANDLER"
  | alreadyRegistered _ => "ALREADY_REGISTERED"
  | invalidArgument _ => "INVALID_ARGUMENT"
  | executionFailed _ => "EXECUTION_FAILED"
  | other _ => "OTHER"

/-- An error of a kind that a handler may give. -/
def CommandError.ofKind (kind reason : String) : CommandError :=
  match kind with
  | "NOT_FOUND" => notFound reason
  | "INVALID_ARGUMENT" => invalidArgument reason
  | "EXECUTION_FAILED" => executionFailed reason
  | _ => other reason

structure Command where
  id : String
  label : Option String := none
  category : Option String := none
deriving DecidableEq, Inhabited, Repr

/-- The fields that are given. -/
def Command.text (c : Command) : String :=
  Json.compactRecord (("id", .str c.id) ::
    ((c.label.map fun s => ("label", Json.str s)).toList ++
      (c.category.map fun s => ("category", Json.str s)).toList))

/-- What arguments must be for a handler to be enabled, visible or active. -/
inductive ArgumentTest where
  | always
  | never
  /-- There are arguments. -/
  | given
  /-- The arguments are these. -/
  | equal (args : Option Json)
  /-- The arguments satisfy a test. -/
  | such (test : Option Json → Bool)
deriving Inhabited

def ArgumentTest.holds (args : Option Json) : ArgumentTest → Bool
  | always => true
  | never => false
  | given => args.isSome
  | equal v => args == v
  | such test => test args

structure Handler (A : Type) where
  action : A
  enabled : ArgumentTest := .always
  visible : ArgumentTest := .always
  active : ArgumentTest := .never
deriving Inhabited

/-- The known commands, and the handlers by the commands they are for, each with a number of its
own and the newest first. A command may have handlers without being known. -/
structure Commands (A : Type) where
  known : Fields Command := []
  handlers : Fields (List (Nat × Handler A)) := []
  next : Nat := 0
deriving Inhabited

namespace Commands

variable {A : Type}

def isKnown (c : Commands A) (id : String) : Bool := (c.known.lookup id).isSome

/-- The handlers of a command, the newest first. -/
def stack (c : Commands A) (id : String) : List (Nat × Handler A) := (c.handlers.lookup id).getD []

/-- Puts a handler on top and gives its number. -/
def addHandler (c : Commands A) (id : String) (h : Handler A) : Commands A × Nat :=
  ({ c with handlers := Fields.insert id ((c.next, h) :: c.stack id) c.handlers
            next := c.next + 1 }, c.next)

def removeHandler (c : Commands A) (id : String) (number : Nat) : Commands A :=
  match c.handlers.lookup id with
  | some stack =>
    { c with handlers := Fields.insert id (stack.filter (·.1 ≠ number)) c.handlers }
  | none => c

/-- Makes a command known, with a first handler if one is given, and gives the number of that. -/
def register (c : Commands A) (command : Command) (h : Option (Handler A)) :
    Except CommandError (Commands A × Option Nat) :=
  if c.isKnown command.id then .error (.alreadyRegistered command.id)
  else
    let c := { c with known := Fields.insert command.id command c.known }
    match h with
    | none => .ok (c, none)
    | some h =>
      let (c, number) := c.addHandler command.id h
      .ok (c, some number)

/-- Forgets a command with all its handlers. -/
def unregister (c : Commands A) (id : String) : Commands A :=
  { c with known := Fields.erase id c.known, handlers := Fields.erase id c.handlers }

/-- Undoes a registration. -/
def undo (c : Commands A) (id : String) (number : Option Nat) : Commands A :=
  let c := match number with
    | some n => c.removeHandler id n
    | none => c
  c.unregister id

def find? (c : Commands A) (id : String) (test : Handler A → Bool) : Option (Handler A) :=
  ((c.stack id).find? fun e => test e.2).map Prod.snd

/-- The newest handler that accepts the arguments. -/
def enabled? (c : Commands A) (id : String) (args : Option Json) : Option (Handler A) :=
  c.find? id fun h => h.enabled.holds args

def isEnabled (c : Commands A) (id : String) (args : Option Json) : Bool :=
  (c.enabled? id args).isSome

def isVisible (c : Commands A) (id : String) (args : Option Json) : Bool :=
  (c.find? id fun h => h.visible.holds args).isSome

def isActive (c : Commands A) (id : String) (args : Option Json) : Bool :=
  (c.find? id fun h => h.active.holds args).isSome

/-- The handler to run for a command, or why there is none. -/
def handler (c : Commands A) (id : String) (args : Option Json) :
    Except CommandError (Handler A) :=
  match c.enabled? id args with
  | some h => .ok h
  | none => .error (if c.isKnown id then .noActiveHandler id else .notFound id)

/-- All known commands, by their identifiers. -/
def all (c : Commands A) : List Command := c.known.map Prod.snd

/-- The number of all handlers. -/
def handlerCount (c : Commands A) : Nat := (c.handlers.flatMap Prod.snd).length

end Commands

end Shortcuts
