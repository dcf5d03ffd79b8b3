import Mathlib.Data.List.Induction
import Shortcuts.Emitter.Reaction
import Shortcuts.Proofs.Emitter.Listeners

/-!
Emitters that hold events back, under any sequence of operations from outside. Nothing is delivered
while a pause is open, and what was fired is in the end delivered or in the queue, in order; with a
way to merge events, the end of the outermost pause delivers what was fired since it began as one.
-/

namespace Shortcuts

namespace Pausing

variable {L E : Type} {merge : Option (List E → E)} {p q : Pausing L E} {token : Nat}

/-! ### Operations -/

inductive Operation (L E : Type) where
  | fire (event : E)
  | pause
  | resume
  | subscribe (l : L)
  | unsubscribe (token : Nat)

/-- The emitter after an operation, and the events that are delivered during it. -/
def apply (merge : Option (List E → E)) (p : Pausing L E) : Operation L E → Pausing L E × List E
  | .fire event => p.offer event
  | .pause => (p.pause, [])
  | .resume => p.resume merge
  | .subscribe l => ((p.subscribe l).1, [])
  | .unsubscribe token => (p.unsubscribe token, [])

/-- Who is told what when events are delivered to listeners that do no more than listen. -/
def deliveries (p : Pausing L E) (events : List E) : List ((Nat × L) × E) :=
  events.flatMap fun event => p.emitter.listeners.map fun l => (l, event)

def run (merge : Option (List E → E)) (p : Pausing L E) :
    List (Operation L E) → Pausing L E × List ((Nat × L) × E)
  | [] => (p, [])
  | op :: ops =>
    let (q, events) := p.apply merge op
    let (r, told) := run merge q ops
    (r, p.deliveries events ++ told)

def Operation.fired? : Operation L E → Option E
  | .fire event => some event
  | _ => none

def fired (ops : List (Operation L E)) : List E := ops.filterMap Operation.fired?

/-- How many pauses are open after an operation, if `n` were before. A resume without a pause
counts for nothing. -/
def Operation.level (n : Nat) : Operation L E → Nat
  | .pause => n + 1
  | .resume => n - 1
  | _ => n

def level (ops : List (Operation L E)) : Nat := ops.foldl Operation.level 0

/-- What the listener with a number is told. -/
def heard (token : Nat) (told : List ((Nat × L) × E)) : List E :=
  (told.filter (·.1.1 = token)).map Prod.snd

/-- What comes out of a queue when the last pause ends. -/
def released (merge : Option (List E → E)) (queue : List E) : List E :=
  match merge, queue with
  | _, [] => []
  | some m, queue => [m queue]
  | none, queue => queue

/-! ### What one operation does -/

@[simp] theorem released_nil (merge : Option (List E → E)) : released merge [] = [] := by
  cases merge <;> rfl

@[simp] theorem released_none (queue : List E) : released none queue = queue := by
  cases queue <;> rfl

theorem released_some {queue : List E} (m : List E → E) (h : queue ≠ []) :
    released (some m) queue = [m queue] := by
  cases queue with
  | nil => exact absurd rfl h
  | cons => rfl

theorem resume_of_nested (merge : Option (List E → E)) (h : 1 < p.depth) :
    p.resume merge = ({ p with depth := p.depth - 1 }, []) :=
  if_pos (by omega)

theorem resume_of_outermost (merge : Option (List E → E)) (h : p.depth ≤ 1) :
    p.resume merge = ({ p with depth := 0, queue := [] }, released merge p.queue) := by
  have hdepth : ¬ 0 < p.depth - 1 := by omega
  simp only [resume, Nat.eq_zero_of_not_pos hdepth]
  obtain ⟨emitter, depth, queue⟩ := p
  cases queue <;> cases merge <;> rfl

/-- Nothing is held back without an open pause, and every listener has a number of its own. -/
structure Sound (p : Pausing L E) : Prop where
  flushed : p.depth = 0 → p.queue = []
  numbered : p.emitter.IsNumbered

theorem Sound.new : Sound ({} : Pausing L E) where
  flushed _ := rfl
  numbered := .new

theorem depth_apply (merge : Option (List E → E)) (p : Pausing L E) (op : Operation L E) :
    (p.apply merge op).1.depth = op.level p.depth := by
  cases op with
  | fire event =>
      rw [apply, offer]
      split <;> rfl
  | resume =>
      rw [apply, Operation.level]
      by_cases h : 1 < p.depth
      · rw [resume_of_nested merge h]
      · rw [resume_of_outermost merge (Nat.le_of_not_lt h)]
        simp only
        omega
  | pause | subscribe | unsubscribe => rfl

theorem emitter_apply (merge : Option (List E → E)) (p : Pausing L E) (op : Operation L E) :
    (p.apply merge op).1.emitter = p.emitter ∨
      (∃ l, op = .subscribe l ∧ (p.apply merge op).1.emitter = (p.emitter.subscribe l).1) ∨
      ∃ token, op = .unsubscribe token ∧
        (p.apply merge op).1.emitter = p.emitter.unsubscribe token := by
  cases op with
  | fire event => exact .inl (p.emitter_offer event)
  | resume => exact .inl (p.emitter_resume merge)
  | pause => exact .inl rfl
  | subscribe l => exact .inr (.inl ⟨l, rfl, rfl⟩)
  | unsubscribe token => exact .inr (.inr ⟨token, rfl, rfl⟩)

/-- While a pause is open afterwards, nothing is delivered, and what is fired goes into the
queue. -/
theorem apply_of_open (merge : Option (List E → E)) {op : Operation L E}
    (h : 0 < op.level p.depth) :
    (p.apply merge op).2 = [] ∧
      (p.apply merge op).1.queue = p.queue ++ op.fired?.toList := by
  cases op with
  | fire event =>
      have hpaused : p.isPaused = true := decide_eq_true h
      rw [apply, offer_of_paused hpaused]
      exact ⟨rfl, rfl⟩
  | resume =>
      rw [Operation.level] at h
      rw [apply, resume_of_nested merge (by omega)]
      exact ⟨rfl, (List.append_nil _).symm⟩
  | pause | subscribe | unsubscribe => exact ⟨rfl, (List.append_nil _).symm⟩

/-- Nothing that was fired is lost: it is delivered, or it is in the queue. -/
theorem apply_keeps (hp : p.Sound) (op : Operation L E) :
    (p.apply none op).2 ++ (p.apply none op).1.queue = p.queue ++ op.fired?.toList := by
  by_cases h : 0 < op.level p.depth
  · obtain ⟨hevents, hqueue⟩ := apply_of_open none h
    rw [hevents, hqueue]
    rfl
  cases op with
  | fire event =>
      have hdepth : p.depth = 0 := Nat.eq_zero_of_not_pos h
      have hidle : p.isPaused = false := decide_eq_false h
      rw [apply, offer_of_not_paused hidle, hp.flushed hdepth]
      rfl
  | resume =>
      rw [Operation.level] at h
      rw [apply, resume_of_outermost none (by omega), released_none]
      simp [Operation.fired?]
  | pause | subscribe | unsubscribe => exact (List.append_nil _).symm

theorem Sound.apply (hp : p.Sound) (merge : Option (List E → E)) (op : Operation L E) :
    (p.apply merge op).1.Sound where
  flushed hdepth := by
    cases op with
    | fire event =>
        rw [depth_apply] at hdepth
        have hdepth : p.depth = 0 := hdepth
        have hidle : p.isPaused = false := decide_eq_false (by omega)
        rw [Pausing.apply, offer_of_not_paused hidle]
        exact hp.flushed hdepth
    | resume =>
        rw [depth_apply] at hdepth
        have hdepth : p.depth - 1 = 0 := hdepth
        rw [Pausing.apply, resume_of_outermost merge (by omega)]
    | pause => cases hdepth
    | subscribe | unsubscribe => exact hp.flushed hdepth
  numbered := by
    rcases emitter_apply merge p op with heq | ⟨l, -, heq⟩ | ⟨token, -, heq⟩
    · rw [heq]
      exact hp.numbered
    · rw [heq]
      exact hp.numbered.subscribe l
    · rw [heq]
      exact hp.numbered.unsubscribe token

theorem mem_listeners_apply {l : Nat × L} {op : Operation L E} (hl : l ∈ p.emitter.listeners)
    (hop : op ≠ .unsubscribe l.1) : l ∈ (p.apply merge op).1.emitter.listeners := by
  rcases emitter_apply merge p op with heq | ⟨l', -, heq⟩ | ⟨token, rfl, heq⟩
  · rw [heq]
    exact hl
  · rw [heq]
    exact Emitter.mem_subscribe.mpr (.inl hl)
  · rw [heq]
    refine (Emitter.mem_unsubscribe token).mpr ⟨hl, fun htoken => hop ?_⟩
    rw [htoken]

/-! ### Runs -/

theorem fired_cons (op : Operation L E) (ops : List (Operation L E)) :
    fired (op :: ops) = op.fired?.toList ++ fired ops := by
  rw [fired, fired, List.filterMap_cons]
  cases op.fired? <;> rfl

theorem fired_concat (ops : List (Operation L E)) (op : Operation L E) :
    fired (ops ++ [op]) = fired ops ++ op.fired?.toList := by
  rw [fired, List.filterMap_append]
  exact congrArg (fired ops ++ ·) ((fired_cons op []).trans (List.append_nil _))

theorem level_concat (ops : List (Operation L E)) (op : Operation L E) :
    level (ops ++ [op]) = op.level (level ops) := by
  rw [level, List.foldl_append]
  rfl

theorem run_cons (merge : Option (List E → E)) (p : Pausing L E) (op : Operation L E)
    (ops : List (Operation L E)) : p.run merge (op :: ops) =
      (((p.apply merge op).1.run merge ops).1,
        p.deliveries (p.apply merge op).2 ++ ((p.apply merge op).1.run merge ops).2) := rfl

theorem run_append (merge : Option (List E → E)) (p : Pausing L E)
    (ops more : List (Operation L E)) : p.run merge (ops ++ more) =
      (((p.run merge ops).1.run merge more).1,
        (p.run merge ops).2 ++ ((p.run merge ops).1.run merge more).2) := by
  induction ops generalizing p with
  | nil => rfl
  | cons op ops ih => rw [List.cons_append, run_cons, ih, run_cons, List.append_assoc]

theorem Sound.run (hp : p.Sound) (merge : Option (List E → E)) (ops : List (Operation L E)) :
    (p.run merge ops).1.Sound := by
  induction ops generalizing p with
  | nil => exact hp
  | cons op ops ih => exact ih (hp.apply merge op)

theorem run_concat (merge : Option (List E → E)) (p : Pausing L E)
    (ops : List (Operation L E)) (op : Operation L E) :
    (p.run merge (ops ++ [op])).1 = ((p.run merge ops).1.apply merge op).1 := by
  rw [run_append]
  rfl

theorem depth_run (merge : Option (List E → E)) (ops : List (Operation L E)) :
    (run merge ({} : Pausing L E) ops).1.depth = level ops := by
  induction ops using List.reverseRecOn with
  | nil => rfl
  | append_singleton ops op ih => rw [run_concat, depth_apply, ih, level_concat]

/-- While a pause is open, the queue is what was fired since the outermost one. -/
theorem queue_run (merge : Option (List E → E)) {ops : List (Operation L E)}
    (h : 0 < level ops) : ∃ before inner, ops = before ++ .pause :: inner ∧ level before = 0 ∧
      (∀ part, part <+: inner → 0 < level (before ++ .pause :: part)) ∧
      (run merge ({} : Pausing L E) ops).1.queue = fired inner := by
  induction ops using List.reverseRecOn with
  | nil => exact absurd h (Nat.lt_irrefl 0)
  | append_singleton ops op ih =>
      have hdepth := depth_run merge ops
      have hlevel := level_concat ops op
      rcases Nat.eq_zero_or_pos (level ops) with hclosed | hopen
      · -- only a pause opens one
        have hop : op = .pause := by
          rw [hlevel, hclosed] at h
          cases op with
          | pause => rfl
          | fire | resume | subscribe | unsubscribe => exact absurd h (Nat.lt_irrefl 0)
        subst hop
        refine ⟨ops, [], rfl, hclosed, fun part hpart => ?_, ?_⟩
        · rw [List.prefix_nil.mp hpart]
          exact h
        · rw [run_concat]
          exact (Sound.new.run merge ops).flushed (hdepth.trans hclosed)
      · obtain ⟨before, inner, hops, hbefore, hinner, hqueue⟩ := ih hopen
        have hsplit : ops ++ [op] = before ++ .pause :: (inner ++ [op]) := by
          rw [hops, List.append_assoc, List.cons_append]
        refine ⟨before, inner ++ [op], hsplit, hbefore, fun part hpart => ?_, ?_⟩
        · rcases List.prefix_concat_iff.mp hpart with rfl | hpart
          · rw [← hsplit]
            exact h
          · exact hinner part hpart
        · rw [hlevel, ← hdepth] at h
          rw [run_concat, (apply_of_open merge h).2, hqueue, fired_concat]

/-- Some operations have made a new emitter what it is. -/
def Reached (merge : Option (List E → E)) (p : Pausing L E) : Prop :=
  ∃ ops, p = (run merge {} ops).1

namespace Reached

theorem new : Reached merge ({} : Pausing L E) := ⟨[], rfl⟩

theorem apply (h : p.Reached merge) (op : Operation L E) : (p.apply merge op).1.Reached merge := by
  obtain ⟨ops, rfl⟩ := h
  exact ⟨ops ++ [op], (run_concat merge _ ops op).symm⟩

theorem sound (h : p.Reached merge) : p.Sound := by
  obtain ⟨ops, rfl⟩ := h
  exact Sound.new.run merge ops

end Reached

/-! ### Listeners that stay -/

theorem heard_append (token : Nat) (told more : List ((Nat × L) × E)) :
    heard token (told ++ more) = heard token told ++ heard token more := by
  rw [heard, List.filter_append, List.map_append]
  rfl

theorem heard_deliveries {l : Nat × L} (hp : p.emitter.IsNumbered)
    (hl : l ∈ p.emitter.listeners) (events : List E) :
    heard l.1 (p.deliveries events) = events := by
  induction events with
  | nil => rfl
  | cons event events ih =>
      have hfirst : heard l.1 (p.emitter.listeners.map fun k => (k, event)) = [event] := by
        rw [heard, List.filter_map, List.map_map]
        exact congrArg (List.map fun _ => event) (hp.filter_eq hl)
      rw [deliveries, List.flatMap_cons, heard_append, hfirst]
      exact congrArg (event :: ·) ih

/-- What a listener that stays is told, with what is left in the queue, is what was in the queue
and what was fired since, in order. -/
theorem heard_run {l : Nat × L} (hp : p.Sound) (hl : l ∈ p.emitter.listeners)
    {ops : List (Operation L E)} (hops : .unsubscribe l.1 ∉ ops) :
    heard l.1 (p.run none ops).2 ++ (p.run none ops).1.queue = p.queue ++ fired ops := by
  induction ops generalizing p with
  | nil => exact (List.append_nil _).symm
  | cons op ops ih =>
      obtain ⟨hop, hops⟩ := not_or.mp (List.mem_cons.not.mp hops)
      have hrest := ih (hp.apply none op) (mem_listeners_apply hl (Ne.symm hop)) hops
      rw [run_cons, heard_append, heard_deliveries hp.numbered hl, List.append_assoc, hrest,
        ← List.append_assoc, apply_keeps hp, fired_cons, List.append_assoc]

end Pausing

/-! ### Scenes of listeners that do no more than listen -/

namespace Scene

variable {s : Scene}

def IsQuiet (s : Scene) : Prop := ∀ l ∈ s.pausing.emitter.listeners, l.2.reaction = {}

/-- The log of what is told when events are delivered. -/
def entries (told : List ((Nat × NamedListener) × String)) : List (String × String) :=
  told.map fun t => (t.1.2.name, t.2)

theorem react_quiet {l : NamedListener} (hl : l.reaction = {}) (fuel : Nat) (event : String)
    (s : Scene) : react (fuel + 1) event l s = { s with log := s.log ++ [(l.name, event)] } := by
  obtain ⟨name, reaction⟩ := l
  cases hl
  rw [react]
  rfl

theorem foldl_react {listeners : List (Nat × NamedListener)}
    (h : ∀ l ∈ listeners, l.2.reaction = {}) (fuel : Nat) (event : String) (s : Scene) :
    listeners.foldl (fun s l => react (fuel + 1) event l.2 s) s =
      { s with log := s.log ++ entries (listeners.map fun l => (l, event)) } := by
  induction listeners generalizing s with
  | nil => simp [entries]
  | cons l listeners ih =>
      obtain ⟨hl, hrest⟩ := List.forall_mem_cons.mp h
      rw [List.foldl_cons, react_quiet hl, ih hrest]
      simp [entries]

theorem foldl_deliver (h : s.IsQuiet) {p : Pausing NamedListener String}
    (hp : p.emitter = s.pausing.emitter) (fuel : Scene → Nat) (events : List String) :
    events.foldl (fun s event => deliver (fuel s + 2) event s) { s with pausing := p } =
      { s with pausing := p, log := s.log ++ entries (s.pausing.deliveries events) } := by
  induction events generalizing s with
  | nil => simp [Pausing.deliveries, entries]
  | cons event events ih =>
      have hone (n : Nat) : deliver (n + 2) event { s with pausing := p } =
          { s with
            pausing := p
            log := s.log ++ entries (s.pausing.emitter.listeners.map fun l => (l, event)) } := by
        rw [deliver]
        simp only [hp]
        exact foldl_react h n event _
      rw [List.foldl_cons, hone]
      refine (ih (s := { s with
        log := s.log ++ entries (s.pausing.emitter.listeners.map fun l => (l, event)) }) h hp).trans
          ?_
      simp [Pausing.deliveries, entries]

theorem fire_quiet (h : s.IsQuiet) (event : String) :
    s.fire event = { s with
      pausing := (s.pausing.offer event).1
      log := s.log ++ entries (s.pausing.deliveries (s.pausing.offer event).2) } := by
  rw [fire, fuel, fireWith]
  exact foldl_deliver h (s.pausing.emitter_offer event)
    (fun _ => 12 * s.pausing.emitter.size + 21) _

theorem resume_quiet (h : s.IsQuiet) (hkind : s.kind ≠ .plain) :
    s.resume = { s with
      pausing := (s.pausing.resume (merge? s.kind)).1
      log := s.log ++ entries (s.pausing.deliveries (s.pausing.resume (merge? s.kind)).2) } := by
  rw [resume]
  split
  · next hplain => exact absurd hplain hkind
  · exact foldl_deliver h (s.pausing.emitter_resume (merge? s.kind))
      (fun s => 12 * s.pausing.emitter.size + 22) _

end Scene

end Shortcuts
