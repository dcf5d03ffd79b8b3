import Shortcuts.Proofs.Command.Execution

/-!
What releasing the registration of a command takes away. It is whatever is there under the name of
the command by then, even where the registration itself has ended and another one has taken its
place. So a registration that is not in force any more may be released without harm exactly if no
later one is in force and no handler of the command was left to run.
-/

namespace Shortcuts

namespace Commands

variable {A : Type} {ops : List (Operation A)} {op : Operation A} {n : Nat} {id : String}

/-- The operation at a position registered the command, which was not registered then and is not
unregistered since. -/
def IsInForce (ops : List (Operation A)) (n : Nat) (id : String) : Prop :=
  Since (fun earlier op => earlier.length = n ∧ op.Registers id ∧ ¬ IsRegistered earlier id)
    (fun earlier op => (run earlier).Unregisters op id) ops

theorem isInForce_concat : IsInForce (ops ++ [op]) n id ↔
    (ops.length = n ∧ op.Registers id ∧ ¬ IsRegistered ops id) ∨
      IsInForce ops n id ∧ ¬ (run ops).Unregisters op id :=
  since_concat

theorem not_isInForce_of_unregisters (hu : (run ops).Unregisters op id) :
    ¬ IsInForce (ops ++ [op]) n id := by
  rw [isInForce_concat]
  rintro (⟨-, hregisters, -⟩ | ⟨-, hnot⟩)
  · exact hu.not_registers hregisters
  · exact hnot hu

/-- A command is registered by the operation whose registration is in force. -/
theorem isRegistered_iff_isInForce (ops : List (Operation A)) (id : String) :
    IsRegistered ops id ↔ ∃ n, IsInForce ops n id := by
  induction ops using List.reverseRecOn with
  | nil => exact iff_of_false (not_since_nil _ _) fun ⟨_, h⟩ => not_since_nil _ _ h
  | append_singleton ops op ih =>
      rw [isRegistered_concat]
      simp only [isInForce_concat, exists_or, exists_and_right, exists_eq', true_and, ← ih]
      by_cases hregistered : IsRegistered ops id
      · refine ⟨fun h => .inr ⟨hregistered, ?_⟩, fun h => ?_⟩
        · rcases h with hregisters | ⟨-, hnot⟩
          · exact fun hu => hu.not_registers hregisters
          · exact hnot
        · rcases h with ⟨-, hnot⟩ | hkept
          · exact absurd hregistered hnot
          · exact .inr hkept
      · simp [hregistered]

theorem Ledger.registers_of_gives? {l : Ledger A} {number : Option Nat}
    (hg : l.gives? op = some (.command id number)) :
    op.Registers id ∧ l.commands.isKnown id = false := by
  cases op with
  | register command h =>
      rw [gives?] at hg
      cases hknown : l.commands.isKnown command.id with
      | true =>
          rw [register_of_known h hknown] at hg
          cases hg
      | false =>
          rw [register_of_new h hknown] at hg
          cases hg
          exact ⟨⟨command, h, rfl, rfl⟩, hknown⟩
  | addHandler _ _ => cases hg
  | unregister _ => cases hg
  | release _ => cases hg

/-- What is in force was not registered before a registration that can still be released. -/
theorem le_of_isInForce {m : Nat} {number : Option Nat}
    (hr : (run ops).registration? n = some (.command id number)) (hm : IsInForce ops m id) :
    n ≤ m := by
  induction ops using List.reverseRecOn with
  | nil => cases hr
  | append_singleton ops op ih =>
      rcases registration?_of_concat hr with ⟨hn, hr⟩ | ⟨rfl, hg⟩
      · rcases isInForce_concat.mp hm with ⟨rfl, -⟩ | ⟨hm, -⟩
        · exact Nat.le_of_lt hn
        · exact ih hr hm
      · obtain ⟨-, hnew⟩ := Ledger.registers_of_gives? hg
        rcases isInForce_concat.mp hm with ⟨rfl, -⟩ | ⟨hm, -⟩
        · exact Nat.le_refl _
        · have hregistered := (isRegistered_iff_isInForce ops id).mpr ⟨m, hm⟩
          rw [← isKnown_run_iff, hnew] at hregistered
          exact absurd hregistered Bool.false_ne_true

theorem commands_run_release {r : Workbench.Registration}
    (hr : (run ops).registration? n = some r) :
    (run (ops ++ [.release n])).commands = (run ops).commands.takeBack r := by
  rw [run_concat, Ledger.apply, Ledger.effect, hr]

theorem enabled?_eq_none_of_stack {c : Commands A} (hc : c.stack id = []) (args : Option Json) :
    c.enabled? id args = none := by
  rw [enabled?, find?, hc]
  rfl

end Commands

namespace Workbench

open Commands (IsLive IsRegistered IsInForce)

/-- Releasing the registration of a command leaves other commands alone, and nothing of the command.
If the registration is not in force any more, this leaves the command and the handlers that run for
it as they are, exactly if no later registration is in force and no handler of the command is there
that ever accepts its arguments. -/
theorem stale_release_spares_iff (w : Workbench) (ops : List (Commands.Operation Action)) {n : Nat}
    {id : String} {number : Option Nat}
    (hr : (Commands.run ops).registration? n = some (.command id number)) :
    let before := (Commands.run ops).commands
    let v : Workbench := { w with commands := before }
    let after := (v.release (.one (.command id number))).commands
    after = (Commands.run (ops ++ [.release n])).commands ∧
    (∀ other ≠ id, after.known.lookup other = before.known.lookup other ∧
      after.stack other = before.stack other) ∧
    after.known.lookup id = none ∧ after.stack id = [] ∧
    (¬ IsInForce ops n id →
      ((after.known.lookup id = before.known.lookup id ∧
          ∀ args, after.enabled? id args = before.enabled? id args) ↔
        (∀ m > n, ¬ IsInForce ops m id) ∧
          ∀ m h args, IsLive ops m id h → h.enabled.holds args = false)) := by
  intro before v after
  have hafter : after = before.unregister id := Commands.undo_eq_unregister before id number
  have hstack : after.stack id = [] := by rw [hafter, Commands.stack_unregister, if_pos rfl]
  have hknown : after.known.lookup id = none := by
    rw [hafter]
    exact Fields.lookup_erase_self id before.known
  refine ⟨(Commands.commands_run_release hr).symm, fun other hne => ?_, hknown, hstack,
    fun hstale => ?_⟩
  · rw [hafter, Commands.stack_unregister, if_neg hne]
    exact ⟨Fields.lookup_erase_of_ne hne before.known, rfl⟩
  · have hlater : (∀ m, ¬ IsInForce ops m id) ↔ ∀ m > n, ¬ IsInForce ops m id := by
      refine ⟨fun h m _ => h m, fun h m hm => ?_⟩
      refine h m (Nat.lt_of_le_of_ne (Commands.le_of_isInForce hr hm) ?_) hm
      rintro rfl
      exact hstale hm
    have hregistered : none = before.known.lookup id ↔ ∀ m > n, ¬ IsInForce ops m id := by
      rw [← hlater, ← not_exists, ← Commands.isRegistered_iff_isInForce,
        ← Commands.isKnown_run_iff, Commands.isKnown, Bool.not_eq_true,
        Option.isSome_eq_false_iff, Option.isNone_iff_eq_none, eq_comm]
    have henabled : (∀ args, none = before.enabled? id args) ↔
        ∀ m h args, IsLive ops m id h → h.enabled.holds args = false := by
      have hnone (args : Option Json) : none = before.enabled? id args ↔ _ :=
        eq_comm.trans Commands.enabled?_run_eq_none_iff
      simp only [hnone]
      exact ⟨fun h m hd args hl => h args m hd hl, fun h args m hd hl => h m hd args hl⟩
    rw [hknown, hregistered]
    simp only [Commands.enabled?_eq_none_of_stack hstack, henabled]

/-- A command that was registered and unregistered. -/
def ended : List (Commands.Operation Action) :=
  [.register { id := "save" } (some (saying "first"))] ++ [.unregister "save"]

theorem not_isInForce_ended (n : Nat) : ¬ IsInForce ended n "save" :=
  Commands.not_isInForce_of_unregisters (.inl rfl)

theorem not_isRegistered_ended : ¬ IsRegistered ended "save" := by
  rw [Commands.isRegistered_iff_isInForce, not_exists]
  exact not_isInForce_ended

theorem stale_release_spares_ended :
    let before := (Commands.run ended).commands
    let v : Workbench := { (default : Workbench) with commands := before }
    let after := (v.release (.one (.command "save" (some 0)))).commands
    (Commands.run ended).registration? 0 = some (.command "save" (some 0)) ∧
      ¬ IsInForce ended 0 "save" ∧
      after.known.lookup "save" = before.known.lookup "save" ∧
      ∀ args, after.enabled? "save" args = before.enabled? "save" args := by
  intro before v after
  have hr : (Commands.run ended).registration? 0 = some (.command "save" (some 0)) := rfl
  obtain ⟨-, -, -, -, hiff⟩ := stale_release_spares_iff default ended hr
  refine ⟨hr, not_isInForce_ended 0, (hiff (not_isInForce_ended 0)).mpr ⟨?_, ?_⟩⟩
  · exact fun m _ => not_isInForce_ended m
  · exact fun m h args hl => absurd hl (Commands.not_isLive_of_unregisters (.inl rfl))

/-- Releasing the first registration after the command was registered again takes the second one
away, with the handler that would run. -/
theorem later_registration_swept :
    let ops := ended ++ [.register { id := "save" } (some (saying "second"))]
    let v : Workbench := { (default : Workbench) with commands := (Commands.run ops).commands }
    let after := v.release (.one (.command "save" (some 0)))
    (Commands.run ops).registration? 0 = some (.command "save" (some 0)) ∧
      ¬ IsInForce ops 0 "save" ∧ IsInForce ops 2 "save" ∧
      v.commands.known.lookup "save" = some { id := "save" } ∧
      (v.execute "save" none).2 = .ok .null ∧
      after.commands.known.lookup "save" = none ∧
      (after.execute "save" none).2 = .error (.notFound "save") := by
  refine ⟨rfl, ?_, ?_, rfl, rfl, rfl, rfl⟩
  · rw [Commands.isInForce_concat]
    rintro (⟨hlength, -⟩ | ⟨hforce, -⟩)
    · cases hlength
    · exact not_isInForce_ended 0 hforce
  · rw [Commands.isInForce_concat]
    exact .inl ⟨rfl, ⟨_, _, rfl, rfl⟩, not_isRegistered_ended⟩

end Workbench

end Shortcuts
