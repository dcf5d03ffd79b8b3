import Mathlib.Data.List.Induction
import Shortcuts.Proofs.Fields
import Shortcuts.Proofs.Run
import Shortcuts.Workbench.Basic

/-!
Commands after a history of registering, unregistering and releasing. A handler that was put on top
of those of its command stays there until it is released, or its command is unregistered. The stack
of a command holds the handlers that stayed, and their numbers are in the order of the history.
-/

namespace Shortcuts

namespace Commands

variable {A : Type} {c : Commands A} {command : Command} {id id' : String}

/-! ### Single changes -/

theorem stack_insert (c : Commands A) (id id' : String) (s : List (Nat × Handler A)) :
    ({ c with handlers := Fields.insert id s c.handlers } : Commands A).stack id' =
      if id' = id then s else c.stack id' := by
  rw [stack]
  split
  · next h => rw [h, Fields.lookup_insert_self, Option.getD_some]
  · next h =>
      rw [Fields.lookup_insert_of_ne h]
      rfl

theorem stack_addHandler (c : Commands A) (id id' : String) (h : Handler A) :
    (c.addHandler id h).1.stack id' =
      if id' = id then (c.next, h) :: c.stack id else c.stack id' :=
  stack_insert c id id' ((c.next, h) :: c.stack id)

theorem stack_removeHandler (c : Commands A) (id id' : String) (number : Nat) :
    (c.removeHandler id number).stack id' =
      if id' = id then (c.stack id).filter (·.1 ≠ number) else c.stack id' := by
  rw [removeHandler]
  cases hs : c.handlers.lookup id with
  | some s =>
      dsimp only
      rw [stack_insert, stack.eq_1 c id, hs, Option.getD_some]
  | none =>
      dsimp only
      split
      · next heq =>
          rw [heq, stack, hs]
          rfl
      · rfl

theorem stack_unregister (c : Commands A) (id id' : String) :
    (c.unregister id).stack id' = if id' = id then [] else c.stack id' := by
  rw [stack, unregister]
  split
  · next h => rw [h, Fields.lookup_erase_self, Option.getD_none]
  · next h =>
      rw [Fields.lookup_erase_of_ne h]
      rfl

theorem isKnown_unregister (c : Commands A) (id id' : String) :
    (c.unregister id).isKnown id' = true ↔ c.isKnown id' = true ∧ ¬ id = id' := by
  rw [isKnown, isKnown, unregister]
  by_cases h : id = id'
  · simp [h]
  · simp [Fields.lookup_erase_of_ne (Ne.symm h), h]

theorem known_removeHandler (c : Commands A) (id : String) (number : Nat) :
    (c.removeHandler id number).known = c.known := by
  rw [removeHandler]
  split <;> rfl

theorem next_removeHandler (c : Commands A) (id : String) (number : Nat) :
    (c.removeHandler id number).next = c.next := by
  rw [removeHandler]
  split <;> rfl

/-- Undoing a registration forgets the command, whoever has registered it since. -/
theorem undo_eq_unregister (c : Commands A) (id : String) (number : Option Nat) :
    c.undo id number = c.unregister id := by
  cases number with
  | none => rfl
  | some number =>
      rw [undo, unregister, unregister, known_removeHandler, next_removeHandler, removeHandler]
      split
      · rw [Fields.erase_insert]
      · rfl

theorem register_of_known (h : Option (Handler A)) (hknown : c.isKnown command.id = true) :
    c.register command h = .error (.alreadyRegistered command.id) := if_pos hknown

theorem register_of_new (h : Option (Handler A)) (hknown : c.isKnown command.id = false) :
    c.register command h = .ok
      (let c' : Commands A := { c with known := Fields.insert command.id command c.known }
       (h.elim c' fun h => (c'.addHandler command.id h).1, h.map fun _ => c.next)) := by
  rw [register, if_neg (by simp [hknown])]
  cases h <;> rfl

/-- Takes back what a registration did. -/
def takeBack (c : Commands A) : Workbench.Registration → Commands A
  | .command id number => c.undo id number
  | .handler id number => c.removeHandler id number
  | .binding _ _ => c

/-! ### Operations -/

/-- What can be done to commands. -/
inductive Operation (A : Type) where
  | register (command : Command) (h : Option (Handler A))
  | addHandler (id : String) (h : Handler A)
  | unregister (id : String)
  /-- Releases what the operation at a position gave back. -/
  | release (n : Nat)

def Operation.Registers (op : Operation A) (id : String) : Prop :=
  ∃ command h, op = .register command h ∧ command.id = id

/-- Commands, and what each operation gave back for its release, as long as that was not used. -/
structure Ledger (A : Type) where
  commands : Commands A := {}
  given : List (Option Workbench.Registration) := []

namespace Ledger

variable {l : Ledger A} {op : Operation A} {h : Handler A} {n : Nat}

def registration? (l : Ledger A) (n : Nat) : Option Workbench.Registration := l.given[n]?.join

def effect (l : Ledger A) : Operation A → Commands A
  | .register command h =>
    match l.commands.register command h with
    | .ok (c, _) => c
    | .error _ => l.commands
  | .addHandler id h => (l.commands.addHandler id h).1
  | .unregister id => l.commands.unregister id
  | .release n =>
    match l.registration? n with
    | some r => l.commands.takeBack r
    | none => l.commands

def gives? (l : Ledger A) : Operation A → Option Workbench.Registration
  | .register command h =>
    match l.commands.register command h with
    | .ok (_, number) => some (.command command.id number)
    | .error _ => none
  | .addHandler id h => some (.handler id (l.commands.addHandler id h).2)
  | .unregister _ | .release _ => none

def kept (l : Ledger A) : Operation A → List (Option Workbench.Registration)
  | .release n => l.given.set n none
  | _ => l.given

def apply (l : Ledger A) (op : Operation A) : Ledger A := ⟨l.effect op, l.kept op ++ [l.gives? op]⟩

/-- A handler is put on top. Registering a command that is known fails. -/
def Installs (l : Ledger A) (op : Operation A) (id : String) (h : Handler A) : Prop :=
  op = .addHandler id h ∨
    ∃ command, op = .register command (some h) ∧ command.id = id ∧ l.commands.isKnown id = false

/-- A command goes with all its handlers. -/
def Unregisters (l : Ledger A) (op : Operation A) (id : String) : Prop :=
  op = .unregister id ∨ ∃ n number, op = .release n ∧ l.registration? n = some (.command id number)

/-- A handler is released. -/
def Takes (l : Ledger A) (op : Operation A) (id : String) (number : Nat) : Prop :=
  ∃ n, op = .release n ∧ l.registration? n = some (.handler id number)

theorem Installs.unique {h' : Handler A} (hi : l.Installs op id h) (hi' : l.Installs op id h') :
    h = h' := by
  rcases hi with rfl | ⟨command, rfl, -, -⟩
  · rcases hi' with heq | ⟨command, heq, -, -⟩ <;> cases heq
    rfl
  · rcases hi' with heq | ⟨command, heq, -, -⟩ <;> cases heq
    rfl

theorem Installs.ne_release (hi : l.Installs op id h) : op ≠ .release n := by
  rcases hi with rfl | ⟨command, rfl, -, -⟩ <;> exact nofun

theorem Installs.not_unregisters (hi : l.Installs op id h) : ¬ l.Unregisters op id' := by
  rintro (rfl | ⟨n, number, rfl, -⟩)
  · rcases hi with heq | ⟨command, heq, -, -⟩ <;> cases heq
  · exact hi.ne_release rfl

theorem Unregisters.not_registers (hu : l.Unregisters op id) : ¬ op.Registers id' := by
  rintro ⟨command, h, rfl, -⟩
  rcases hu with heq | ⟨n, number, heq, -⟩ <;> cases heq

theorem Takes.not_installs {number : Nat} (ht : l.Takes op id' number) : ¬ l.Installs op id h := by
  obtain ⟨n, rfl, -⟩ := ht
  exact fun hi => hi.ne_release rfl

theorem Takes.not_unregisters {number : Nat} (ht : l.Takes op id number) :
    ¬ l.Unregisters op id' := by
  obtain ⟨n, rfl, hr⟩ := ht
  rintro (⟨⟨⟩⟩ | ⟨n, number, ⟨⟩, hr'⟩)
  cases hr.symm.trans hr'

/-- An operation is nothing to a command that does none of these. -/
structure Spares (l : Ledger A) (op : Operation A) (id : String) : Prop where
  installs : ∀ h, ¬ l.Installs op id h
  unregisters : ¬ l.Unregisters op id
  takes : ∀ number, ¬ l.Takes op id number

theorem op_cases (l : Ledger A) (op : Operation A) (id : String) :
    (∃ h, l.Installs op id h) ∨ l.Unregisters op id ∨ (∃ number, l.Takes op id number) ∨
      l.Spares op id := by
  by_cases hi : ∃ h, l.Installs op id h
  · exact .inl hi
  by_cases hu : l.Unregisters op id
  · exact .inr (.inl hu)
  by_cases ht : ∃ number, l.Takes op id number
  · exact .inr (.inr (.inl ht))
  · exact .inr (.inr (.inr ⟨not_exists.mp hi, hu, not_exists.mp ht⟩))

/-! ### What one operation does -/

/-- The commands that an operation leaves. -/
inductive Leaves (l : Ledger A) : Operation A → Commands A → Prop where
  | refused {command : Command} {h : Option (Handler A)}
      (hknown : l.commands.isKnown command.id = true) : Leaves l (.register command h) l.commands
  | registered {command : Command} (hnew : l.commands.isKnown command.id = false) :
      Leaves l (.register command none)
        { l.commands with known := Fields.insert command.id command l.commands.known }
  | registeredWith {command : Command} {h : Handler A}
      (hnew : l.commands.isKnown command.id = false) :
      Leaves l (.register command (some h))
        (({ l.commands with known := Fields.insert command.id command l.commands.known } :
          Commands A).addHandler command.id h).1
  | added {id : String} {h : Handler A} :
      Leaves l (.addHandler id h) (l.commands.addHandler id h).1
  | unregistered {id : String} : Leaves l (.unregister id) (l.commands.unregister id)
  | undone {n : Nat} {id : String} {number : Option Nat}
      (hr : l.registration? n = some (.command id number)) :
      Leaves l (.release n) (l.commands.unregister id)
  | taken {n : Nat} {id : String} {number : Nat}
      (hr : l.registration? n = some (.handler id number)) :
      Leaves l (.release n) (l.commands.removeHandler id number)
  | idle {n : Nat} (hnone : ∀ id number, l.registration? n ≠ some (.command id number)) :
      Leaves l (.release n) l.commands

theorem leaves_apply (l : Ledger A) (op : Operation A) : l.Leaves op (l.apply op).commands := by
  cases op with
  | register command h =>
      rw [apply, effect]
      cases hknown : l.commands.isKnown command.id with
      | true =>
          rw [register_of_known h hknown]
          exact .refused hknown
      | false =>
          rw [register_of_new h hknown]
          cases h with
          | none => exact .registered hknown
          | some h => exact .registeredWith hknown
  | addHandler id h => exact .added
  | unregister id => exact .unregistered
  | release n =>
      rw [apply, effect]
      cases hr : l.registration? n with
      | none => exact .idle fun id number h => by cases hr.symm.trans h
      | some r =>
          cases r with
          | command id number =>
              dsimp only [takeBack]
              rw [undo_eq_unregister]
              exact .undone hr
          | handler id number => exact .taken hr
          | binding s number => exact .idle fun id number h => by cases hr.symm.trans h

theorem isKnown_apply_iff (l : Ledger A) (op : Operation A) (id : String) :
    (l.apply op).commands.isKnown id = true ↔
      op.Registers id ∨ l.commands.isKnown id = true ∧ ¬ l.Unregisters op id := by
  have hregister {command : Command} {h : Option (Handler A)} :
      ¬ l.Unregisters (.register command h) id := by
    exact fun hu => hu.not_registers ⟨command, h, rfl, rfl⟩
  have hinsert (command : Command) :
      ((Fields.insert command.id command l.commands.known).lookup id).isSome = true ↔
        command.id = id ∨ l.commands.isKnown id = true := by
    by_cases h : command.id = id
    · simp [← h]
    · simp [Fields.lookup_insert_of_ne (Ne.symm h), h, isKnown]
  rw [Operation.Registers]
  have hleaves := l.leaves_apply op
  generalize (l.apply op).commands = c at hleaves
  cases hleaves with
  | @refused command h hknown =>
      refine ⟨fun hid => .inr ⟨hid, hregister⟩, ?_⟩
      rintro (⟨_, _, heq, rfl⟩ | ⟨hid, -⟩)
      · cases heq
        exact hknown
      · exact hid
  | registered hnew | registeredWith hnew =>
      refine (hinsert _).trans ?_
      simp [hregister]
  | added => simp [Unregisters, addHandler, isKnown]
  | unregistered =>
      refine (isKnown_unregister _ _ _).trans ?_
      simp [Unregisters]
  | undone hr =>
      refine (isKnown_unregister _ _ _).trans ?_
      simp [Unregisters, hr]
  | taken hr =>
      rw [isKnown, known_removeHandler]
      simp [Unregisters, hr, isKnown]
  | idle hnone => simp [Unregisters, hnone]

theorem commands_apply_of_installs (hi : l.Installs op id h) : ∃ known,
    (l.apply op).commands = (({ l.commands with known } : Commands A).addHandler id h).1 := by
  rcases hi with rfl | ⟨command, rfl, rfl, hnew⟩
  · exact ⟨l.commands.known, rfl⟩
  · refine ⟨Fields.insert command.id command l.commands.known, ?_⟩
    simp only [apply, effect, register_of_new (some h) hnew, Option.elim_some]

theorem stack_apply_of_installs (hi : l.Installs op id h) :
    (l.apply op).commands.stack id = (l.commands.next, h) :: l.commands.stack id := by
  obtain ⟨known, hcommands⟩ := commands_apply_of_installs hi
  rw [hcommands, stack_addHandler, if_pos rfl]
  rfl

theorem next_apply_of_installs (hi : l.Installs op id h) :
    (l.apply op).commands.next = l.commands.next + 1 := by
  obtain ⟨known, hcommands⟩ := commands_apply_of_installs hi
  rw [hcommands]
  rfl

theorem stack_apply_of_unregisters (hu : l.Unregisters op id) :
    (l.apply op).commands.stack id = [] := by
  rcases hu with rfl | ⟨n, number, rfl, hr⟩
  · exact (stack_unregister l.commands id id).trans (if_pos rfl)
  · rw [apply, effect, hr]
    dsimp only [takeBack]
    rw [undo_eq_unregister, stack_unregister, if_pos rfl]

theorem stack_apply_of_takes {number : Nat} (ht : l.Takes op id number) :
    (l.apply op).commands.stack id = (l.commands.stack id).filter (·.1 ≠ number) := by
  obtain ⟨n, rfl, hr⟩ := ht
  rw [apply, effect, hr]
  dsimp only [takeBack]
  rw [stack_removeHandler, if_pos rfl]

theorem stack_apply_of_spares (hs : l.Spares op id) :
    (l.apply op).commands.stack id = l.commands.stack id := by
  have hleaves := l.leaves_apply op
  generalize (l.apply op).commands = c at hleaves ⊢
  cases hleaves with
  | refused | registered | idle => rfl
  | @registeredWith command h hnew =>
      refine (stack_addHandler _ _ _ _).trans (if_neg ?_)
      rintro rfl
      exact hs.installs h (.inr ⟨command, rfl, rfl, hnew⟩)
  | @added _ h =>
      refine (stack_addHandler _ _ _ _).trans (if_neg ?_)
      rintro rfl
      exact hs.installs h (.inl rfl)
  | unregistered =>
      refine (stack_unregister _ _ _).trans (if_neg ?_)
      rintro rfl
      exact hs.unregisters (.inl rfl)
  | undone hr =>
      refine (stack_unregister _ _ _).trans (if_neg ?_)
      rintro rfl
      exact hs.unregisters (.inr ⟨_, _, rfl, hr⟩)
  | taken hr =>
      refine (stack_removeHandler _ _ _ _).trans (if_neg ?_)
      rintro rfl
      exact hs.takes _ ⟨_, rfl, hr⟩

theorem next_le_apply (l : Ledger A) (op : Operation A) :
    l.commands.next ≤ (l.apply op).commands.next := by
  have hleaves := l.leaves_apply op
  generalize (l.apply op).commands = c at hleaves ⊢
  cases hleaves with
  | refused | registered | unregistered | undone | idle => exact Nat.le_refl _
  | registeredWith | added => exact Nat.le_succ _
  | taken => exact Nat.le_of_eq (next_removeHandler _ _ _).symm

/-! ### What is given back -/

theorem length_kept (l : Ledger A) (op : Operation A) : (l.kept op).length = l.given.length := by
  cases op with
  | release n => exact List.length_set
  | _ => rfl

theorem lt_length_of_registration? {r : Workbench.Registration} (hr : l.registration? n = some r) :
    n < l.given.length :=
  (List.getElem?_eq_some_iff.mp (Option.join_eq_some_iff.mp hr)).1

theorem registration?_apply_of_ne (hn : n < l.given.length) (hop : op ≠ .release n) :
    (l.apply op).registration? n = l.registration? n := by
  rw [registration?, apply, List.getElem?_append_left (by rwa [length_kept])]
  cases op with
  | release m =>
      have hm : m ≠ n := fun heq => hop (heq ▸ rfl)
      rw [kept, List.getElem?_set_ne hm, registration?]
  | _ => rfl

theorem registration?_apply_release (hn : n < l.given.length) :
    (l.apply (.release n)).registration? n = none := by
  rw [registration?, apply, List.getElem?_append_left (by rwa [length_kept]), kept,
    List.getElem?_set_self hn]
  rfl

theorem registration?_apply_length (l : Ledger A) (op : Operation A) :
    (l.apply op).registration? l.given.length = l.gives? op := by
  rw [registration?, apply, ← l.length_kept op, List.getElem?_concat_length]
  rfl

theorem gives?_of_installs (hi : l.Installs op id h) :
    l.gives? op = some (.handler id l.commands.next) ∨
      l.gives? op = some (.command id (some l.commands.next)) := by
  rcases hi with rfl | ⟨command, rfl, rfl, hnew⟩
  · exact .inl rfl
  · refine .inr ?_
    simp only [gives?, register_of_new (some h) hnew, Option.map_some]

theorem exists_of_gives? {number : Nat} (hg : l.gives? op = some (.handler id number)) :
    number = l.commands.next ∧ ∃ h, l.Installs op id h := by
  cases op with
  | register command h =>
      rw [gives?] at hg
      split at hg <;> cases hg
  | addHandler id' h =>
      cases hg
      exact ⟨rfl, h, .inl rfl⟩
  | unregister _ => cases hg
  | release _ => cases hg

end Ledger

/-! ### Histories -/

def run (ops : List (Operation A)) : Ledger A := ops.foldl Ledger.apply {}

variable {ops : List (Operation A)} {op : Operation A} {h : Handler A} {m n : Nat}

theorem run_concat (ops : List (Operation A)) (op : Operation A) :
    run (ops ++ [op]) = (run ops).apply op := by
  rw [run, List.foldl_append, List.foldl_cons, List.foldl_nil, run]

theorem length_given_run (ops : List (Operation A)) : (run ops).given.length = ops.length := by
  induction ops using List.reverseRecOn with
  | nil => rfl
  | append_singleton ops op ih =>
      rw [run_concat, Ledger.apply, List.length_append, Ledger.length_kept, ih, List.length_append]
      rfl

/-- The command was registered and not unregistered since. -/
def IsRegistered (ops : List (Operation A)) (id : String) : Prop :=
  Since (fun _ op => op.Registers id) (fun earlier op => (run earlier).Unregisters op id) ops

theorem isRegistered_concat : IsRegistered (ops ++ [op]) id ↔
    op.Registers id ∨ IsRegistered ops id ∧ ¬ (run ops).Unregisters op id := since_concat

theorem isKnown_run_iff (ops : List (Operation A)) (id : String) :
    (run ops).commands.isKnown id = true ↔ IsRegistered ops id := by
  induction ops using List.reverseRecOn with
  | nil => exact iff_of_false Bool.false_ne_true (not_since_nil _ _)
  | append_singleton ops op ih =>
      rw [run_concat, Ledger.isKnown_apply_iff, isRegistered_concat, ih]

/-- An operation puts a handler on top of those of a command. -/
def Puts (earlier : List (Operation A)) (op : Operation A) (id : String) (h : Handler A) : Prop :=
  op = .addHandler id h ∨
    ∃ command, op = .register command (some h) ∧ command.id = id ∧ ¬ IsRegistered earlier id

theorem installs_run_iff : (run ops).Installs op id h ↔ Puts ops op id h := by
  rw [Ledger.Installs, Puts, ← isKnown_run_iff, Bool.not_eq_true]

/-- The operation at a position put the handler on top of those of the command. It was not released
since, nor was the command unregistered. -/
def IsLive (ops : List (Operation A)) (n : Nat) (id : String) (h : Handler A) : Prop :=
  Since (fun earlier op => earlier.length = n ∧ Puts earlier op id h)
    (fun earlier op => op = .release n ∨ (run earlier).Unregisters op id) ops

theorem isLive_concat : IsLive (ops ++ [op]) n id h ↔
    ops.length = n ∧ Puts ops op id h ∨
      IsLive ops n id h ∧ ¬ (op = .release n ∨ (run ops).Unregisters op id) :=
  since_concat

/-- The number of the handler that the operation at a position puts on top, if it does. -/
def serial (ops : List (Operation A)) (n : Nat) : Nat := (run (ops.take n)).commands.next

def IsPut (ops : List (Operation A)) (n : Nat) : Prop :=
  ∃ op id h, ops[n]? = some op ∧ Puts (ops.take n) op id h

theorem IsLive.isPut (hl : IsLive ops n id h) : IsPut ops n := by
  obtain ⟨earlier, op, later, rfl, ⟨rfl, hputs⟩, -⟩ := hl
  exact ⟨op, id, h, by simp, by simpa using hputs⟩

theorem IsPut.lt (hp : IsPut ops n) : n < ops.length := by
  obtain ⟨op, id, h, hop, -⟩ := hp
  exact (List.getElem?_eq_some_iff.mp hop).1

theorem serial_concat (hn : n ≤ ops.length) : serial (ops ++ [op]) n = serial ops n := by
  rw [serial, List.take_append_of_le_length hn, serial]

theorem serial_length (ops : List (Operation A)) :
    serial ops ops.length = (run ops).commands.next := by
  rw [serial, List.take_length]

theorem serial_concat_length (ops : List (Operation A)) (op : Operation A) :
    serial (ops ++ [op]) ops.length = (run ops).commands.next := by
  rw [serial_concat (Nat.le_refl _), serial_length]

theorem serial_mono (ops : List (Operation A)) (h : m ≤ n) : serial ops m ≤ serial ops n := by
  induction h with
  | refl => exact Nat.le_refl _
  | @step n _ ih =>
      refine Nat.le_trans ih ?_
      rw [serial, serial]
      cases hop : ops[n]? with
      | none =>
          have hlen := List.getElem?_eq_none_iff.mp hop
          refine Nat.le_of_eq ?_
          rw [List.take_of_length_le hlen, List.take_of_length_le (Nat.le_succ_of_le hlen)]
      | some op =>
          rw [List.take_add_one, hop, Option.toList_some, run_concat]
          exact Ledger.next_le_apply _ _

/-- Handlers have higher numbers than those that were put on top before. -/
theorem serial_lt (hp : IsPut ops m) (h : m < n) : serial ops m < serial ops n := by
  obtain ⟨op, id, hd, hop, hputs⟩ := hp
  refine Nat.lt_of_lt_of_le ?_ (serial_mono ops h)
  rw [serial, serial, List.take_add_one, hop, Option.toList_some, run_concat,
    Ledger.next_apply_of_installs (installs_run_iff.mpr hputs)]
  exact Nat.lt_succ_self _

theorem serial_inj (hm : IsPut ops m) (hn : IsPut ops n) : serial ops m = serial ops n ↔ m = n := by
  refine ⟨fun heq => ?_, fun heq => heq ▸ rfl⟩
  rcases Nat.lt_trichotomy m n with hlt | heq | hlt
  · exact absurd heq (Nat.ne_of_lt (serial_lt hm hlt))
  · exact heq
  · exact absurd heq.symm (Nat.ne_of_lt (serial_lt hn hlt))

theorem IsPut.concat (hp : IsPut ops n) (op : Operation A) : IsPut (ops ++ [op]) n := by
  have hn := hp.lt
  obtain ⟨op', id, h, hop, hputs⟩ := hp
  refine ⟨op', id, h, ?_, ?_⟩
  · rw [List.getElem?_append_left hn, hop]
  · rwa [List.take_append_of_le_length (Nat.le_of_lt hn)]

/-! ### Releases -/

theorem registration?_of_isLive (hl : IsLive ops n id h) :
    (run ops).registration? n = some (.handler id (serial ops n)) ∨
      (run ops).registration? n = some (.command id (some (serial ops n))) := by
  induction ops using List.reverseRecOn with
  | nil => exact absurd hl (not_since_nil _ _)
  | append_singleton ops op ih =>
      rw [run_concat]
      rcases isLive_concat.mp hl with ⟨rfl, hputs⟩ | ⟨hl, hends⟩
      · rw [serial_concat_length, ← length_given_run, Ledger.registration?_apply_length]
        exact Ledger.gives?_of_installs (installs_run_iff.mpr hputs)
      · have hn := hl.isPut.lt
        rw [serial_concat (Nat.le_of_lt hn), Ledger.registration?_apply_of_ne
          (by rwa [length_given_run]) fun hop => hends (.inl hop)]
        exact ih hl

/-- What can be released was given back by the last operation, or before and is not used yet. -/
theorem registration?_of_concat {r : Workbench.Registration}
    (hr : (run (ops ++ [op])).registration? n = some r) :
    n < ops.length ∧ (run ops).registration? n = some r ∨
      n = ops.length ∧ (run ops).gives? op = some r := by
  have hlt := Ledger.lt_length_of_registration? hr
  rw [length_given_run, List.length_append, List.length_singleton] at hlt
  rw [run_concat] at hr
  rcases Nat.lt_succ_iff_lt_or_eq.mp hlt with hn | rfl
  · have hgiven : n < (run ops).given.length := by rwa [length_given_run]
    refine .inl ⟨hn, ?_⟩
    rwa [← Ledger.registration?_apply_of_ne hgiven]
    rintro rfl
    rw [Ledger.registration?_apply_release hgiven] at hr
    cases hr
  · rw [← length_given_run ops, Ledger.registration?_apply_length] at hr
    exact .inr ⟨rfl, hr⟩

theorem serial_of_registration? {number : Nat}
    (hr : (run ops).registration? n = some (.handler id number)) :
    number = serial ops n ∧ IsPut ops n := by
  induction ops using List.reverseRecOn with
  | nil => cases hr
  | append_singleton ops op ih =>
      rcases registration?_of_concat hr with ⟨hn, hr⟩ | ⟨rfl, hg⟩
      · obtain ⟨hnumber, hput⟩ := ih hr
        exact ⟨by rw [serial_concat (Nat.le_of_lt hn), hnumber], hput.concat op⟩
      · obtain ⟨hnumber, h, hinstalls⟩ := Ledger.exists_of_gives? hg
        refine ⟨by rw [serial_concat_length, hnumber], op, id, h, ?_, ?_⟩
        · exact List.getElem?_concat_length
        · rw [List.take_left]
          exact installs_run_iff.mp hinstalls

theorem isLive_concat_of_installs {h' : Handler A} (hi : (run ops).Installs op id h) :
    IsLive (ops ++ [op]) n id h' ↔ ops.length = n ∧ h' = h ∨ IsLive ops n id h' := by
  have hputs : Puts ops op id h' ↔ h' = h := by
    rw [← installs_run_iff]
    exact ⟨fun hi' => hi'.unique hi, fun heq => heq ▸ hi⟩
  have hnot : ¬ (op = .release n ∨ (run ops).Unregisters op id) :=
    not_or.mpr ⟨hi.ne_release, hi.not_unregisters⟩
  rw [isLive_concat, hputs, and_iff_left hnot]

theorem not_isLive_of_unregisters (hu : (run ops).Unregisters op id) :
    ¬ IsLive (ops ++ [op]) n id h := by
  rw [isLive_concat]
  rintro (⟨-, hputs⟩ | ⟨-, hends⟩)
  · exact (installs_run_iff.mpr hputs).not_unregisters hu
  · exact hends (.inr hu)

/-- Releasing a handler ends that handler and no other. -/
theorem isLive_concat_of_takes {number : Nat} (ht : (run ops).Takes op id number) :
    IsLive (ops ++ [op]) n id h ↔ IsLive ops n id h ∧ serial ops n ≠ number := by
  have hnone : ¬ (ops.length = n ∧ Puts ops op id h) :=
    fun ⟨_, hputs⟩ => ht.not_installs (installs_run_iff.mpr hputs)
  rw [isLive_concat, or_iff_right hnone, or_iff_left ht.not_unregisters]
  refine and_congr_right fun hl => not_congr ?_
  obtain ⟨m, rfl, hr⟩ := ht
  obtain ⟨rfl, hput⟩ := serial_of_registration? hr
  rw [serial_inj hl.isPut hput]
  exact ⟨fun heq => (Operation.release.inj heq).symm, fun heq => heq ▸ rfl⟩

theorem isLive_concat_of_spares (hs : (run ops).Spares op id) :
    IsLive (ops ++ [op]) n id h ↔ IsLive ops n id h := by
  have hnone : ¬ (ops.length = n ∧ Puts ops op id h) :=
    fun ⟨_, hputs⟩ => hs.installs h (installs_run_iff.mpr hputs)
  rw [isLive_concat, or_iff_right hnone, or_iff_left hs.unregisters]
  refine and_iff_left_of_imp fun hl heq => ?_
  rcases registration?_of_isLive hl with hr | hr
  · exact hs.takes _ ⟨n, heq, hr⟩
  · exact hs.unregisters (.inr ⟨n, _, heq, hr⟩)

/-! ### The stack of a command -/

theorem mem_stack_run_iff (ops : List (Operation A)) (id : String) (e : Nat × Handler A) :
    e ∈ (run ops).commands.stack id ↔ ∃ n, IsLive ops n id e.2 ∧ serial ops n = e.1 := by
  induction ops using List.reverseRecOn with
  | nil => exact iff_of_false List.not_mem_nil fun ⟨n, hl, _⟩ => not_since_nil _ _ hl
  | append_singleton ops op ih =>
      -- a handler keeps the number that it was given when it was put on top
      have hnumber {n : Nat} (hl : IsLive ops n id e.2) : serial (ops ++ [op]) n = serial ops n :=
        serial_concat (Nat.le_of_lt hl.isPut.lt)
      rw [run_concat]
      rcases (run ops).op_cases op id with ⟨h, hi⟩ | hu | ⟨number, ht⟩ | hs
      · rw [Ledger.stack_apply_of_installs hi, List.mem_cons, ih]
        simp only [isLive_concat_of_installs hi, or_and_right, exists_or]
        refine or_congr ?_ (exists_congr fun n => and_congr_right fun hl => by rw [hnumber hl])
        rw [Prod.ext_iff]
        simp [serial_concat_length, and_comm, eq_comm]
      · rw [Ledger.stack_apply_of_unregisters hu]
        exact iff_of_false List.not_mem_nil fun ⟨n, hl, _⟩ => not_isLive_of_unregisters hu hl
      · rw [Ledger.stack_apply_of_takes ht, List.mem_filter, ih, decide_eq_true_iff]
        simp only [isLive_concat_of_takes ht]
        constructor
        · rintro ⟨⟨n, hl, hn⟩, hne⟩
          exact ⟨n, ⟨hl, hn ▸ hne⟩, (hnumber hl).trans hn⟩
        · rintro ⟨n, ⟨hl, hne⟩, hn⟩
          rw [hnumber hl] at hn
          exact ⟨⟨n, hl, hn⟩, hn ▸ hne⟩
      · rw [Ledger.stack_apply_of_spares hs, ih]
        simp only [isLive_concat_of_spares hs]
        exact exists_congr fun n => and_congr_right fun hl => by rw [hnumber hl]

theorem lt_next_of_mem_stack {e : Nat × Handler A} (he : e ∈ (run ops).commands.stack id) :
    e.1 < (run ops).commands.next := by
  obtain ⟨n, hl, hn⟩ := (mem_stack_run_iff ops id e).mp he
  rw [← hn, ← serial_length]
  exact serial_lt hl.isPut hl.isPut.lt

/-- The newest handler is the first. -/
theorem pairwise_stack_run (ops : List (Operation A)) (id : String) :
    ((run ops).commands.stack id).Pairwise fun e e' => e'.1 < e.1 := by
  induction ops using List.reverseRecOn with
  | nil => exact .nil
  | append_singleton ops op ih =>
      rw [run_concat]
      rcases (run ops).op_cases op id with ⟨h, hi⟩ | hu | ⟨number, ht⟩ | hs
      · rw [Ledger.stack_apply_of_installs hi]
        exact List.pairwise_cons.mpr ⟨fun e he => lt_next_of_mem_stack he, ih⟩
      · rw [Ledger.stack_apply_of_unregisters hu]
        exact .nil
      · rw [Ledger.stack_apply_of_takes ht]
        exact ih.sublist List.filter_sublist
      · rwa [Ledger.stack_apply_of_spares hs]

/-! ### The handler that accepts the arguments -/

/-- Of the handlers that stayed and accept the arguments the last one in the history. -/
structure IsChosen (ops : List (Operation A)) (id : String) (args : Option Json) (n : Nat)
    (h : Handler A) : Prop where
  live : IsLive ops n id h
  enabled : h.enabled.holds args = true
  last : ∀ m h', IsLive ops m id h' → h'.enabled.holds args = true → m ≤ n

theorem isChosen_of_enabled? {args : Option Json}
    (hh : (run ops).commands.enabled? id args = some h) : ∃ n, IsChosen ops id args n h := by
  obtain ⟨e, he, rfl⟩ := Option.map_eq_some_iff.mp hh
  obtain ⟨henabled, newer, older, hstack, hnewer⟩ := List.find?_eq_some_iff_append.mp he
  have hmem {e : Nat × Handler A} := mem_stack_run_iff ops id e
  have hpairs := pairwise_stack_run ops id
  rw [hstack] at hmem hpairs
  obtain ⟨n, hl, hn⟩ := hmem.mp (List.mem_append_right newer List.mem_cons_self)
  refine ⟨n, hl, henabled, fun m h' hl' henabled' => ?_⟩
  have hstays := (hmem (e := (serial ops m, h'))).mpr ⟨m, hl', rfl⟩
  rcases List.mem_append.mp hstays with hbefore | hafter
  · have hoff := hnewer _ hbefore
    simp [henabled'] at hoff
  · rcases List.mem_cons.mp hafter with rfl | hafter
    · exact Nat.le_of_eq ((serial_inj hl.isPut hl'.isPut).mp hn).symm
    · have hlt := (List.pairwise_cons.mp (List.pairwise_append.mp hpairs).2.1).1 _ hafter
      rw [← hn] at hlt
      exact Nat.le_of_not_lt fun hnm => Nat.lt_asymm hlt (serial_lt hl.isPut hnm)

theorem enabled?_run_eq_none_iff {args : Option Json} :
    (run ops).commands.enabled? id args = none ↔
      ∀ n h, IsLive ops n id h → h.enabled.holds args = false := by
  rw [enabled?, find?, Option.map_eq_none_iff, List.find?_eq_none]
  constructor
  · intro hnone n h hl
    simpa using hnone _ ((mem_stack_run_iff ops id (serial ops n, h)).mpr ⟨n, hl, rfl⟩)
  · intro hnone e he
    obtain ⟨n, hl, -⟩ := (mem_stack_run_iff ops id e).mp he
    simp [hnone n e.2 hl]

end Commands

end Shortcuts
