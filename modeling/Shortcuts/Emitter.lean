/-!
Listeners in order of subscription, and the holding back of events. An emitter is a value:
delivering an event is a fold over the listeners it had when the event was fired.
-/

namespace Shortcuts

/-- Every subscription has a number of its own, which is never given again. -/
structure Emitter (L : Type) where
  next : Nat := 0
  listeners : List (Nat × L) := []
deriving Inhabited

namespace Emitter

variable {L σ : Type}

/-- Adds a listener behind the others and gives its number. -/
def subscribe (e : Emitter L) (l : L) : Emitter L × Nat :=
  ({ next := e.next + 1, listeners := e.listeners ++ [(e.next, l)] }, e.next)

def unsubscribe (e : Emitter L) (token : Nat) : Emitter L :=
  { e with listeners := e.listeners.filter (·.1 ≠ token) }

def size (e : Emitter L) : Nat := e.listeners.length

/-- Tells all present listeners, one after the other. What they do to the emitter in the state
does not change who is told. -/
def deliver (e : Emitter L) (tell : L → σ → σ) (s : σ) : σ :=
  e.listeners.foldl (fun s l => tell l.2 s) s

@[simp] theorem size_subscribe (e : Emitter L) (l : L) : (e.subscribe l).1.size = e.size + 1 := by
  simp [subscribe, size]

end Emitter

/-- An emitter with a queue for the events that are fired while more pauses than resumes are
open. -/
structure Pausing (L E : Type) where
  emitter : Emitter L := {}
  depth : Nat := 0
  queue : List E := []
deriving Inhabited

namespace Pausing

variable {L E : Type}

def isPaused (p : Pausing L E) : Bool := 0 < p.depth

def pause (p : Pausing L E) : Pausing L E := { p with depth := p.depth + 1 }

/-- Fires an event: gives it back for delivery now, or puts it into the queue. -/
def offer (p : Pausing L E) (event : E) : Pausing L E × List E :=
  if p.isPaused then ({ p with queue := p.queue ++ [event] }, []) else (p, [event])

/-- Undoes a pause. The last resume gives back what has to be delivered now: the queue, or the
one event that its events merge to. -/
def resume (merge : Option (List E → E)) (p : Pausing L E) : Pausing L E × List E :=
  let depth := p.depth - 1
  if 0 < depth then ({ p with depth := depth }, [])
  else
    let events := match merge, p.queue with
      | _, [] => []
      | some m, queue => [m queue]
      | none, queue => queue
    ({ p with depth := depth, queue := [] }, events)

def subscribe (p : Pausing L E) (l : L) : Pausing L E × Nat :=
  let (e, token) := p.emitter.subscribe l
  ({ p with emitter := e }, token)

def unsubscribe (p : Pausing L E) (token : Nat) : Pausing L E :=
  { p with emitter := p.emitter.unsubscribe token }

end Pausing

end Shortcuts
