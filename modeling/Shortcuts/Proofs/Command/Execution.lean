import Shortcuts.Proofs.Command.History
import Shortcuts.Proofs.Dispatch.Calls

/-!
Which handler runs when a command is executed after a history of registering, unregistering and
releasing. It is the last one in the history that stayed and accepts the arguments. It is run once,
what it comes to is the result, and a result is announced once. Releasing a handler takes away that
handler and no other.
-/

namespace Shortcuts

/-! ### Announcements -/

/-- A command is announced to have run. -/
def Event.isRun (id : String) : Event → Bool
  | .executed command _ => command = id
  | _ => false

namespace Workbench

variable {w : Workbench} {id command : String} {args : Option Json} {fuel : Nat}

/-- What was announced about a command. -/
def runsOf (w : Workbench) (id : String) : List Event := w.log.filter (Event.isRun id)

theorem runsOf_note_of_other {x : Event} (hx : x.isRun id = false) :
    (w.note x).runsOf id = w.runsOf id := by
  rw [runsOf, note, List.filter_append, List.filter_cons_of_neg (by simp [hx]), List.filter_nil,
    List.append_nil, runsOf]

theorem runsOf_withContexts (w : Workbench) (r : Contexts × List Notice) (id : String) :
    (w.withContexts r).runsOf id = w.runsOf id := by
  have hnone : (r.2.map Event.notice).filter (Event.isRun id) = [] := by
    rw [List.filter_map]
    exact List.map_eq_nil_iff.mpr (List.filter_eq_nil_iff.mpr fun n _ => Bool.false_ne_true)
  rw [runsOf, withContexts, List.filter_append, hnone, List.append_nil, runsOf]

theorem runsOf_storeKey (w : Workbench) (region : RegionId) (args : Option Json) (id : String) :
    (w.storeKey region args).1.runsOf id = w.runsOf id := by
  rw [storeKey]
  split
  · rfl
  · split
    · rfl
    · split
      · rfl
      · exact runsOf_withContexts _ _ _

theorem runsOf_beginRoutine (w : Workbench) (r : Routine) (args : Option Json) (id : String) :
    (w.beginRoutine r args).runsOf id = w.runsOf id := by
  rw [beginRoutine]
  split
  · exact (runsOf_withContexts _ _ _).trans (runsOf_note_of_other rfl)
  · exact runsOf_note_of_other rfl

/-- What an action announces about a command is announced by the command that it runs next. -/
theorem runsOf_performAction {again : Workbench → String → Workbench × Except CommandError Json}
    {a : Action} (hagain : ∀ v next, v.commands = w.commands → a.next? = some next →
      (again v next).1.runsOf id = v.runsOf id) :
    (performAction again w args a).1.runsOf id = w.runsOf id := by
  cases a with
  | storeKey region => exact runsOf_storeKey w region args id
  | routine r =>
      have hbegun := runsOf_beginRoutine w r args id
      rw [performAction, performRoutine]
      cases hn : r.next with
      | none => exact hbegun
      | some next =>
          have hnext := hagain _ next (commands_beginRoutine w r args) hn
          dsimp only
          split
          · next hrun =>
              rw [hrun] at hnext
              exact hnext.trans hbegun
          · next hrun =>
              rw [hrun] at hnext
              exact hnext.trans hbegun

theorem runsOf_conclude (r : Workbench × Except CommandError Json) :
    (conclude id args r).1.runsOf id =
      r.1.runsOf id ++ if r.2.toBool then [.executed id args] else [] := by
  obtain ⟨v, e | value⟩ := r
  · exact (List.append_nil _).symm
  · rw [conclude, runsOf, note, List.filter_append, runsOf]
    simp [Except.toBool, Event.isRun]

theorem runsOf_conclude_of_ne (hne : command ≠ id) (r : Workbench × Except CommandError Json) :
    (conclude command args r).1.runsOf id = r.1.runsOf id := by
  obtain ⟨v, e | value⟩ := r
  · rfl
  · exact runsOf_note_of_other (decide_eq_false hne)

theorem runsOf_executeWithin (hapart : ∀ n, ¬ Climbs (w.commands.next? args) command n id) :
    (executeWithin fuel w command args).1.runsOf id = w.runsOf id := by
  induction fuel generalizing w command with
  | zero => rfl
  | succ fuel ih =>
      cases hh : w.commands.enabled? command args with
      | none =>
          obtain ⟨e, he⟩ := Commands.handler_of_not_enabled hh
          rw [executeWithin, he]
      | some h =>
          have hne : command ≠ id := fun heq => hapart 0 (heq ▸ .start command)
          rw [executeWithin_succ hh, runsOf_conclude_of_ne hne]
          refine runsOf_performAction fun v next hv hnext => ih fun n hclimb => ?_
          rw [hv] at hclimb
          refine hapart (n + 1) (hclimb.of_above ?_)
          rw [Commands.next?, hh, Option.bind_some, hnext]

/-! ### One execution -/

/-- Executes a command, with a record of the handlers that are run. -/
def record (w : Workbench) (id : String) (args : Option Json) :
    (Workbench × Except CommandError Json) × List Call :=
  recordWithin (w.commands.handlerCount + 1) w id args

theorem record_val (w : Workbench) (id : String) (args : Option Json) :
    (w.record id args).1 = w.execute id args := recordWithin_val _ w id args

/-- Executing the command runs the handler, and after it only those of the command that the handler
runs next. The result is that of the handler. Where commands do not run each other forever, the
handler is the only one that is run for the command, and the command is announced once if there is a
result, and otherwise not at all. -/
structure Runs (w : Workbench) (id : String) (args : Option Json) (h : Handler Action) : Prop where
  calls : ∃ later, (w.record id args).2 = ⟨id, h, args⟩ :: later ∧
    (h.action.next? = none → later = []) ∧
    (w.commands.Ends args id → ∀ call ∈ later, call.command ≠ id)
  result : ∃ again, w.execute id args = conclude id args (performAction again w args h.action) ∧
    (w.commands.Ends args id → ∀ v next, v.commands = w.commands → h.action.next? = some next →
      again v next = v.execute next args)
  announced : w.commands.Ends args id → (w.execute id args).1.runsOf id =
    w.runsOf id ++ if (w.execute id args).2.toBool then [.executed id args] else []

/-- Executing the command runs nothing and fails. -/
structure Refuses (w : Workbench) (id : String) (args : Option Json) (e : CommandError) : Prop where
  calls : (w.record id args).2 = []
  result : w.execute id args = (w, .error e)

theorem snd_conclude (id : String) (args : Option Json)
    (r : Workbench × Except CommandError Json) : (conclude id args r).2 = r.2 := by
  obtain ⟨v, e | value⟩ := r <;> rfl

theorem runs_of_enabled? {h : Handler Action} (hh : w.commands.enabled? id args = some h) :
    w.Runs id args h := by
  have hexecute : w.execute id args = _ := executeWithin_succ hh
  have hnext {next : String} (hn : h.action.next? = some next) :
      w.commands.next? args id = some next := by
    rw [Commands.next?, hh, Option.bind_some, hn]
  constructor
  case calls =>
    obtain ⟨later, hcalls, hlater⟩ := recordWithin_calls w.commands.handlerCount hh
    refine ⟨later, hcalls, fun hnone => ?_, fun hends call hcall heq => ?_⟩
    · rcases hlater with rfl | ⟨next, v, hsome, -, -⟩
      · rfl
      · rw [Commands.next?, hh, Option.bind_some, hnone] at hsome
        cases hsome
    · have honce : (w.record id args).2.filter (fun call => call.command = id) = _ :=
        filter_recordWithin hh hends
      rw [record, hcalls, List.filter_cons_of_pos (by simp)] at honce
      have hnone := List.filter_eq_nil_iff.mp (List.cons.inj honce).2 call hcall
      exact hnone (decide_eq_true heq)
  case result =>
    refine ⟨_, hexecute, fun hends v next hv hn => ?_⟩
    have hwithin : EndsWithin (v.commands.next? args) w.commands.handlerCount next := by
      rw [hv]
      exact hends.endsWithin.above (hnext hn)
    exact execute_eq ⟨_, hwithin⟩ hwithin
  case announced =>
    intro hends
    rw [hexecute, runsOf_conclude, snd_conclude]
    refine congrArg (· ++ _) (runsOf_performAction fun v next hv hn => ?_)
    -- a command that comes up again further on would make the commands run each other forever
    refine runsOf_executeWithin fun n hclimb => ?_
    rw [hv] at hclimb
    exact hends.endsWithin.not_loop (.start id) (hclimb.of_above (hnext hn))

theorem refuses_of_not_enabled (hh : w.commands.enabled? id args = none) :
    w.Refuses id args (if w.commands.isKnown id then .noActiveHandler id else .notFound id) := by
  have herror : w.commands.handler id args =
      .error (if w.commands.isKnown id then .noActiveHandler id else .notFound id) := by
    rw [Commands.handler, hh]
  exact ⟨by rw [record, recordWithin, herror], by rw [execute, executeWithin, herror]⟩

end Workbench

/-! ### Executions after a history -/

namespace Commands

variable {A : Type} {ops : List (Operation A)} {n : Nat} {id : String}

/-- Of the handlers of a command the one from a position is gone, if it was there. All others are
still there, in the order in which they were. -/
structure TakesOut (ops : List (Operation A)) (n : Nat) (id : String) (after : Commands A) :
    Prop where
  known : after.known = (run ops).commands.known
  others : ∀ other ≠ id, after.stack other = (run ops).commands.stack other
  order : (after.stack id).Sublist ((run ops).commands.stack id)
  before : ∀ e, e ∈ (run ops).commands.stack id ↔ ∃ m, IsLive ops m id e.2 ∧ serial ops m = e.1
  after : ∀ e, e ∈ after.stack id ↔ ∃ m ≠ n, IsLive ops m id e.2 ∧ serial ops m = e.1

theorem takesOut_of_registration? {number : Nat}
    (hr : (run ops).registration? n = some (.handler id number)) :
    TakesOut ops n id ((run ops).commands.removeHandler id number) := by
  obtain ⟨rfl, hput⟩ := serial_of_registration? hr
  have hstack := stack_removeHandler (run ops).commands id id (serial ops n)
  rw [if_pos rfl] at hstack
  constructor
  case known => exact known_removeHandler _ _ _
  case others => exact fun other hne => (stack_removeHandler _ _ _ _).trans (if_neg hne)
  case order =>
    rw [hstack]
    exact List.filter_sublist
  case before => exact mem_stack_run_iff ops id
  case after =>
    intro e
    rw [hstack, List.mem_filter, mem_stack_run_iff, decide_eq_true_iff]
    constructor
    · rintro ⟨⟨m, hl, hm⟩, hne⟩
      refine ⟨m, fun heq => hne ?_, hl, hm⟩
      rw [← hm, heq]
    · rintro ⟨m, hne, hl, hm⟩
      refine ⟨⟨m, hl, hm⟩, fun heq => hne ?_⟩
      exact (serial_inj hl.isPut hput).mp (hm.trans heq)

end Commands

namespace Workbench

open Commands (IsLive IsChosen IsRegistered TakesOut)

/-- After any history, a command is executed by the last handler that stayed and accepts the
arguments. Where there is none nothing runs, and the error tells whether the command is registered.
Releasing a handler takes it out and no other, also when it is gone already. -/
theorem execute_newest (w : Workbench) (ops : List (Commands.Operation Action)) (id : String)
    (args : Option Json) :
    let l := Commands.run ops
    let v : Workbench := { w with commands := l.commands }
    ((∃ n h, IsChosen ops id args n h ∧ v.Runs id args h) ∨
      (∀ n h, IsLive ops n id h → h.enabled.holds args = false) ∧
        (IsRegistered ops id → v.Refuses id args (.noActiveHandler id)) ∧
        (¬ IsRegistered ops id → v.Refuses id args (.notFound id))) ∧
    ∀ n command number, l.registration? n = some (.handler command number) →
      TakesOut ops n command (v.release (.one (.handler command number))).commands := by
  intro l v
  refine ⟨?_, fun n command number hr => Commands.takesOut_of_registration? hr⟩
  cases hh : l.commands.enabled? id args with
  | some h =>
      obtain ⟨n, hchosen⟩ := Commands.isChosen_of_enabled? hh
      exact .inl ⟨n, h, hchosen, runs_of_enabled? hh⟩
  | none =>
      have hrefuses : v.Refuses id args _ := refuses_of_not_enabled hh
      refine .inr ⟨Commands.enabled?_run_eq_none_iff.mp hh, fun hregistered => ?_,
        fun hnot => ?_⟩
      · rwa [if_pos ((Commands.isKnown_run_iff ops id).mpr hregistered)] at hrefuses
      · rwa [if_neg fun hknown => hnot ((Commands.isKnown_run_iff ops id).mp hknown)] at hrefuses

def saying (name : String) : Handler Action := { action := .routine { name } }

/-- The newer handler wants arguments. -/
def guarded : List (Commands.Operation Action) :=
  [.register { id := "save" } (some (saying "first")),
    .addHandler "save" { saying "second" with enabled := .given }]

theorem execute_newest_guarded :
    let v : Workbench := { (default : Workbench) with commands := (Commands.run guarded).commands }
    (∃ n h, IsChosen guarded "save" none n h ∧ v.Runs "save" none h) ∧
      (Commands.run guarded).registration? 1 = some (.handler "save" 1) ∧
      TakesOut guarded 1 "save" (v.release (.one (.handler "save" 1))).commands := by
  obtain ⟨hruns, hreleases⟩ := execute_newest default guarded "save" none
  have hr : (Commands.run guarded).registration? 1 = some (.handler "save" 1) := rfl
  refine ⟨hruns.resolve_right fun ⟨hnone, _⟩ => ?_, hr, hreleases 1 "save" 1 hr⟩
  have hmem : (0, saying "first") ∈ (Commands.run guarded).commands.stack "save" :=
    List.mem_cons_of_mem _ List.mem_cons_self
  obtain ⟨n, hl, -⟩ := (Commands.mem_stack_run_iff _ _ _).mp hmem
  exact Bool.false_ne_true (hnone n _ hl).symm

end Workbench

end Shortcuts
