import Shortcuts.Proofs.Context.Ascent
import Shortcuts.Proofs.Dispatch.Collisions

/-!
Which handlers a key runs. A record of them is kept beside what the execution of a command comes to,
and a handler that was run for a command is not run for it again unless commands run each other
forever.
-/

namespace Shortcuts

/-- A handler that was run: for which command, and with which arguments. -/
structure Call where
  command : String
  handler : Handler Action
  args : Option Json

/-- The command that is run next. -/
def Action.next? : Action → Option String
  | storeKey _ => none
  | routine r => r.next

namespace Commands

variable {c : Commands Action} {args : Option Json} {id : String}

/-- The command that the handler of a command runs next. -/
def next? (c : Commands Action) (args : Option Json) (id : String) : Option String :=
  (c.enabled? id args).bind fun h => h.action.next?

/-- Running a command comes to an end: the commands that run each other are finitely many. -/
def Ends (c : Commands Action) (args : Option Json) (id : String) : Prop :=
  ∃ steps, EndsWithin (c.next? args) steps id

theorem handler_of_enabled? {h : Handler Action} (hh : c.enabled? id args = some h) :
    c.handler id args = .ok h := by
  rw [handler, hh]

theorem handler_of_not_enabled (hh : c.enabled? id args = none) :
    ∃ e, c.handler id args = .error e := by
  rw [handler, hh]
  exact ⟨_, rfl⟩

/-- The commands of all handlers, each as often as it has any. -/
def handled (c : Commands Action) : List String := c.handlers.flatMap fun p => p.2.map fun _ => p.1

theorem length_handled (c : Commands Action) : c.handled.length = c.handlerCount := by
  simp [handled, handlerCount, List.length_flatMap]

theorem mem_handled {next : String} (h : c.next? args id = some next) : id ∈ c.handled := by
  obtain ⟨hd, hh, -⟩ := Option.bind_eq_some_iff.mp h
  rw [enabled?, find?, Option.map_eq_some_iff] at hh
  obtain ⟨p, hp, rfl⟩ := hh
  have hmem := List.mem_of_find?_eq_some hp
  rw [stack] at hmem
  cases hl : c.handlers.lookup id with
  | none =>
      rw [hl] at hmem
      cases hmem
  | some stack =>
      rw [hl] at hmem
      obtain ⟨before, behind, hsplit, -⟩ := List.lookup_eq_some_iff.mp hl
      refine List.mem_flatMap.mpr ⟨(id, stack), ?_, List.mem_map.mpr ⟨p, hmem, rfl⟩⟩
      rw [hsplit]
      exact List.mem_append_right _ List.mem_cons_self

theorem Ends.endsWithin (h : c.Ends args id) :
    EndsWithin (c.next? args) (c.handlerCount + 1) id := by
  obtain ⟨steps, hsteps⟩ := h
  rw [← length_handled]
  exact hsteps.bounded fun _ _ hnext => mem_handled hnext

end Commands

namespace Workbench

variable {w : Workbench} {args : Option Json} {id : String} {fuel fuel' : Nat}

theorem commands_beginRoutine (w : Workbench) (r : Routine) (args : Option Json) :
    (w.beginRoutine r args).commands = w.commands := (beside_beginRoutine w r args).commands

/-- Performs an action; `again` runs a command. -/
def performAction (again : Workbench → String → Workbench × Except CommandError Json)
    (w : Workbench) (args : Option Json) : Action → Workbench × Except CommandError Json
  | .storeKey region => w.storeKey region args
  | .routine r => performRoutine again w r args

/-- A command that succeeded is noted. -/
def conclude (id : String) (args : Option Json) :
    Workbench × Except CommandError Json → Workbench × Except CommandError Json
  | (w, .ok v) => (w.note (.executed id args), .ok v)
  | (w, .error e) => (w, .error e)

theorem executeWithin_succ {h : Handler Action} (hh : w.commands.enabled? id args = some h) :
    executeWithin (fuel + 1) w id args = conclude id args
      (performAction (fun w id => executeWithin fuel w id args) w args h.action) := by
  rw [executeWithin, Commands.handler_of_enabled? hh]
  cases ha : h.action with
  | storeKey region =>
      rcases hr : w.storeKey region args with ⟨v, _ | _⟩ <;>
        simp only [performAction, conclude, ha, hr]
  | routine r =>
      rcases hr : performRoutine (fun w id => executeWithin fuel w id args) w r args with
        ⟨v, _ | _⟩ <;> simp only [performAction, conclude, ha, hr]

/-! ### Fuel -/

theorem performAction_congr
    {again again' : Workbench → String → Workbench × Except CommandError Json} {a : Action}
    (h : ∀ v next, v.commands = w.commands → a.next? = some next →
      again v next = again' v next) :
    performAction again w args a = performAction again' w args a := by
  cases a with
  | storeKey region => rfl
  | routine r =>
      rw [performAction, performAction, performRoutine, performRoutine]
      cases hn : r.next with
      | none => rfl
      | some next =>
          have hsame := h (w.beginRoutine r args) next (commands_beginRoutine w r args) hn
          dsimp only
          rw [hsame]

/-- Fuel does not count where commands do not run each other forever. -/
theorem executeWithin_eq (h : EndsWithin (w.commands.next? args) fuel id)
    (h' : EndsWithin (w.commands.next? args) fuel' id) :
    executeWithin fuel w id args = executeWithin fuel' w id args := by
  induction fuel generalizing fuel' w id with
  | zero => exact absurd h EndsWithin.ne_zero
  | succ fuel ih =>
      cases fuel' with
      | zero => exact absurd h' EndsWithin.ne_zero
      | succ fuel' =>
          cases hh : w.commands.enabled? id args with
          | none =>
              obtain ⟨e, he⟩ := Commands.handler_of_not_enabled hh
              rw [executeWithin, executeWithin, he]
          | some hd =>
              rw [executeWithin_succ hh, executeWithin_succ hh]
              refine congrArg _ (performAction_congr fun v next hv hnext => ?_)
              have habove : w.commands.next? args id = some next := by
                rw [Commands.next?, hh, Option.bind_some, hnext]
              rw [← hv] at h h' habove
              exact ih (h.above habove) (h'.above habove)

/-- The fuel that commands are run with is enough for all that come to an end. -/
theorem execute_eq (hends : w.commands.Ends args id)
    (h : EndsWithin (w.commands.next? args) fuel id) :
    executeWithin fuel w id args = w.execute id args := executeWithin_eq h hends.endsWithin

/-! ### Records -/

/-- Runs a command, with a record of the handlers that are run. -/
def recordWithin : Nat → Workbench → String → Option Json →
    (Workbench × Except CommandError Json) × List Call
  | 0, w, _, _ => ((w, .error (.other "too many commands run each other")), [])
  | fuel + 1, w, id, args =>
    match w.commands.handler id args with
    | .error e => ((w, .error e), [])
    | .ok h =>
      let result := performAction (fun w id => (recordWithin fuel w id args).1) w args h.action
      let later := match h.action with
        | .storeKey _ => []
        | .routine r => (r.next.map fun next =>
            (recordWithin fuel (w.beginRoutine r args) next args).2).getD []
      (conclude id args result, ⟨id, h, args⟩ :: later)

theorem recordWithin_val (fuel : Nat) (w : Workbench) (id : String) (args : Option Json) :
    (recordWithin fuel w id args).1 = executeWithin fuel w id args := by
  induction fuel generalizing w id with
  | zero => rfl
  | succ fuel ih =>
      cases hh : w.commands.enabled? id args with
      | none =>
          obtain ⟨e, he⟩ := Commands.handler_of_not_enabled hh
          rw [recordWithin, executeWithin, he]
      | some h =>
          rw [executeWithin_succ hh, recordWithin, Commands.handler_of_enabled? hh]
          simp only [ih]

/-- A record begins with the newest handler that accepts the arguments; the rest is the record of
the command that it runs next. -/
theorem recordWithin_calls (fuel : Nat) {h : Handler Action}
    (hh : w.commands.enabled? id args = some h) :
    ∃ rest, (recordWithin (fuel + 1) w id args).2 = ⟨id, h, args⟩ :: rest ∧
      (rest = [] ∨ ∃ next v, w.commands.next? args id = some next ∧ v.commands = w.commands ∧
        rest = (recordWithin fuel v next args).2) := by
  rw [recordWithin, Commands.handler_of_enabled? hh]
  refine ⟨_, rfl, ?_⟩
  cases ha : h.action with
  | storeKey region => exact .inl rfl
  | routine r =>
      cases hn : r.next with
      | none => exact .inl (by simp only [hn, Option.map_none, Option.getD_none])
      | some next =>
          refine .inr ⟨next, w.beginRoutine r args, ?_, commands_beginRoutine w r args, ?_⟩
          · rw [Commands.next?, hh, Option.bind_some, ha, Action.next?, hn]
          · simp only [hn, Option.map_some, Option.getD_some]

theorem climbs_of_mem_recordWithin {call : Call} (hcall : call ∈ (recordWithin fuel w id args).2) :
    ∃ n, Climbs (w.commands.next? args) id n call.command := by
  induction fuel generalizing w id with
  | zero => cases hcall
  | succ fuel ih =>
      cases hh : w.commands.enabled? id args with
      | none =>
          obtain ⟨e, he⟩ := Commands.handler_of_not_enabled hh
          rw [recordWithin, he] at hcall
          cases hcall
      | some h =>
          obtain ⟨rest, hcalls, hrest⟩ := recordWithin_calls fuel hh
          rw [hcalls] at hcall
          rcases List.mem_cons.mp hcall with rfl | hcall
          · exact ⟨0, .start id⟩
          · rcases hrest with rfl | ⟨next, v, hnext, hv, rfl⟩
            · cases hcall
            · obtain ⟨n, hn⟩ := ih hcall
              rw [hv] at hn
              exact ⟨n + 1, hn.of_above hnext⟩

/-- Of the handlers that running a command runs, one is for the command itself. -/
theorem filter_recordWithin {h : Handler Action} (hh : w.commands.enabled? id args = some h)
    (hends : w.commands.Ends args id) :
    (recordWithin (fuel + 1) w id args).2.filter (fun call => call.command = id) =
      [⟨id, h, args⟩] := by
  obtain ⟨steps, hsteps⟩ := hends
  obtain ⟨rest, hcalls, hrest⟩ := recordWithin_calls fuel hh
  have hother : ∀ call ∈ rest, ¬ decide (call.command = id) = true := by
    intro call hcall
    rcases hrest with rfl | ⟨next, v, hnext, hv, rfl⟩
    · cases hcall
    · obtain ⟨n, hn⟩ := climbs_of_mem_recordWithin hcall
      rw [hv] at hn
      intro hid
      rw [of_decide_eq_true hid] at hn
      exact hsteps.not_loop (.start id) (hn.of_above hnext)
  rw [hcalls, List.filter_cons_of_pos (by simp), List.filter_eq_nil_iff.mpr hother]

/-- Runs the command of a binding like `perform`, with a record. -/
def recordPerform (w : Workbench) (b : Binding) (e : KeyEvent) :
    (Workbench × KeyEvent) × List Call :=
  if b.isPassthrough || !w.commands.isKnown b.command then ((w, e), [])
  else
    let (w, calls) :=
      if w.commands.isEnabled b.command b.args then
        let r := recordWithin (w.commands.handlerCount + 1) w b.command b.args
        (r.1.1, r.2)
      else (w, [])
    ((w, w.dispatcher.mark b e), calls)

/-- Settles the answer for typed chords like `settle`, with a record. -/
def recordSettle (w : Workbench) (typed : List Chord) (e : KeyEvent) (found : Option Match) :
    (Workbench × KeyEvent × Option Match) × List Call :=
  match found with
  | some (.full b) =>
    let r := (w.withPending []).recordPerform b.toBinding e
    ((r.1.1.note (.matched (.full b)), r.1.2, some (.full b)), r.2)
  | _ => (w.settle typed e found, [])

/-- Takes a key like `press`, with a record of the handlers that are run. -/
def recordPress (w : Workbench) (e : KeyEvent) :
    (Workbench × KeyEvent × Option Match) × List Call :=
  if e.isIgnored then ((w, e, none), [])
  else
    let r := (w.heard e).findAt (w.typedWith e) e.target
    r.1.recordSettle (w.typedWith e) e r.2

/-- The handlers that taking a key runs, the first one first. -/
def callsOf (w : Workbench) (e : KeyEvent) : List Call := (w.recordPress e).2

end Workbench

end Shortcuts
