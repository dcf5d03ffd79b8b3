import Shortcuts.Context.Arena
import Shortcuts.Proofs.Context.Ascent
import Shortcuts.Proofs.Fields
import Shortcuts.Proofs.Run

/-!
The contexts of an arena as a forest. Lookups and collections go from parent to parent, so they
end everywhere exactly if no context is above itself, and then with the answers that the arena
gives. Contexts stay a forest until one is put below itself.
-/

namespace Shortcuts

namespace Arena

/-- No context is above itself. -/
def IsForest (a : Arena) : Prop := Acyclic a.parent?

/-! ### Going up -/

/-- `Looks a key id f`: going up from `id`, however far, a lookup of `key` ends with `f`. -/
inductive Looks (a : Arena) (key : String) : ContextId → Found → Prop
  | absent {id : ContextId} (h : a.node? id = none) : Looks a key id .missing
  | setting {id : ContextId} {node : ContextNode} (h : a.node? id = some node)
      (hset : id = root ∧ isSettingKey key ∧ a.remembered.isSome) : Looks a key id .setting
  | value {id : ContextId} {node : ContextNode} {v : Json} (h : a.node? id = some node)
      (hset : ¬ (id = root ∧ isSettingKey key ∧ a.remembered.isSome))
      (hv : node.values.lookup key = some v) : Looks a key id (.value v)
  | top {id : ContextId} {node : ContextNode} (h : a.node? id = some node)
      (hset : ¬ (id = root ∧ isSettingKey key ∧ a.remembered.isSome))
      (hv : node.values.lookup key = none) (hp : node.parent = none) : Looks a key id .missing
  | up {id p : ContextId} {node : ContextNode} {f : Found} (h : a.node? id = some node)
      (hset : ¬ (id = root ∧ isSettingKey key ∧ a.remembered.isSome))
      (hv : node.values.lookup key = none) (hp : node.parent = some p) (hf : Looks a key p f) :
      Looks a key id f

/-- `Gathers a id ids`: going up from `id`, however far, the contexts passed are `ids`. -/
inductive Gathers (a : Arena) : ContextId → List ContextId → Prop
  | absent {id : ContextId} (h : a.node? id = none) : Gathers a id []
  | top {id : ContextId} {node : ContextNode} (h : a.node? id = some node)
      (hp : node.parent = none) : Gathers a id [id]
  | up {id p : ContextId} {node : ContextNode} {ids : List ContextId}
      (h : a.node? id = some node) (hp : node.parent = some p) (hids : Gathers a p ids) :
      Gathers a id (id :: ids)

variable {a b : Arena} {id p : ContextId} {node : ContextNode}

theorem parent?_of_node? (h : a.node? id = some node) : a.parent? id = node.parent := by
  rw [parent?, h]
  rfl

theorem parent?_of_absent (h : a.node? id = none) : a.parent? id = none := by
  rw [parent?, h]
  rfl

theorem contains_of_parent? (h : a.parent? id = some p) : a.contains id = true := by
  obtain ⟨node, hnode, -⟩ := Option.bind_eq_some_iff.mp h
  rw [contains, hnode]
  rfl

theorem mem_keys_of_parent? (h : a.parent? id = some p) : id ∈ a.nodes.map Prod.fst := by
  obtain ⟨node, hnode, -⟩ := Option.bind_eq_some_iff.mp h
  exact Table.mem_keys_of_lookup hnode

theorem IsForest.endsWithin (h : a.IsForest) (id : ContextId) :
    EndsWithin a.parent? (a.nodes.length + 1) id := by
  have := Acyclic.endsWithin h (fun _ _ => mem_keys_of_parent?) id
  rwa [List.length_map] at this

theorem Gathers.endsWithin {ids : List ContextId} (h : a.Gathers id ids) :
    EndsWithin a.parent? (a.nodes.length + 1) id := by
  suffices hids : EndsWithin a.parent? (ids.length + 1) id by
    have := hids.bounded fun _ _ => mem_keys_of_parent?
    rwa [List.length_map] at this
  induction h with
  | absent hnode =>
      refine .of_above fun y hy => ?_
      rw [parent?_of_absent hnode] at hy
      cases hy
  | top hnode htop =>
      refine .of_above fun y hy => ?_
      rw [parent?_of_node? hnode, htop] at hy
      cases hy
  | up hnode hp _ ih =>
      refine .of_above fun y hy => ?_
      rw [parent?_of_node? hnode, hp] at hy
      cases hy
      exact ih

theorem looks_find {key : String} {fuel : Nat} (h : EndsWithin a.parent? fuel id) :
    a.Looks key id (a.find key fuel id) := by
  induction fuel generalizing id with
  | zero => exact absurd h EndsWithin.ne_zero
  | succ fuel ih =>
      rw [find]
      cases hnode : a.node? id with
      | none => exact .absent hnode
      | some node =>
          dsimp only
          split
          · next hset => exact .setting hnode hset
          · next hset =>
              cases hv : node.values.lookup key with
              | some v => exact .value hnode hset hv
              | none =>
                  cases hp : node.parent with
                  | none => exact .top hnode hset hv hp
                  | some p =>
                      exact .up hnode hset hv hp
                        (ih (h.above ((parent?_of_node? hnode).trans hp)))

theorem gathers_chain {fuel : Nat} (h : EndsWithin a.parent? fuel id) :
    a.Gathers id (a.chain fuel id) := by
  induction fuel generalizing id with
  | zero => exact absurd h EndsWithin.ne_zero
  | succ fuel ih =>
      rw [chain]
      cases hnode : a.node? id with
      | none => exact .absent hnode
      | some node =>
          dsimp only
          cases hp : node.parent with
          | none => exact .top hnode hp
          | some p => exact .up hnode hp (ih (h.above ((parent?_of_node? hnode).trans hp)))

/-- From a context that is above itself there is no end. -/
theorem Gathers.not_climbs {ids : List ContextId} (h : a.Gathers id ids) (n : Nat) :
    ¬ Climbs a.parent? id (n + 1) id := h.endsWithin.not_loop (.start id)

theorem not_looks_of_own_parent {key : String} {f : Found} (h : a.node? id = some node)
    (hroot : id ≠ root) (hv : node.values.lookup key = none) (hp : node.parent = some id) :
    ¬ a.Looks key id f := by
  intro hf
  induction hf with
  | absent habsent => rw [h] at habsent; cases habsent
  | setting _ hset => exact hroot hset.1
  | value hnode _ hvalue => rw [h] at hnode; cases hnode; rw [hv] at hvalue; cases hvalue
  | top hnode _ _ htop => rw [h] at hnode; cases hnode; rw [hp] at htop; cases htop
  | up hnode _ _ hup _ ih =>
      rw [h] at hnode
      cases hnode
      rw [hp] at hup
      cases hup
      exact ih h hroot hp

theorem isForest_iff : a.IsForest ↔ ∀ id, ∃ ids, a.Gathers id ids :=
  ⟨fun h id => ⟨_, gathers_chain (h.endsWithin id)⟩,
    fun h id n => (h id).elim fun _ hids => hids.not_climbs n⟩

/-- Where going up ends at all, lookups and collections end as the arena answers them. -/
theorem Gathers.ends {ids : List ContextId} (h : a.Gathers id ids) :
    (∀ key, a.Looks key id (a.locate id key)) ∧ a.Gathers id (a.ancestry id) :=
  ⟨fun _ => looks_find h.endsWithin, gathers_chain h.endsWithin⟩

/-- In a forest every lookup and every collection ends, as the arena answers it. -/
theorem IsForest.ends (h : a.IsForest) (id : ContextId) :
    (∀ key, a.Looks key id (a.locate id key)) ∧ a.Gathers id (a.ancestry id) :=
  (gathers_chain (h.endsWithin id)).ends

/-! ### Operations -/

inductive Operation where
  | createChild (parent : ContextId)
  | updateParent (id parent : ContextId)
  | dispose (id : ContextId)
  | set (id : ContextId) (key : String) (v : Json)
  | remove (id : ContextId) (key : String)

/-- An operation that is refused leaves the arena as it is. -/
def apply (a : Arena) : Operation → Arena
  | .createChild parent => (a.createChild parent).1
  | .updateParent id parent => (a.updateParent id parent).toOption.getD a
  | .dispose id => (a.dispose id).1
  | .set id key v => (a.set id key v).1
  | .remove id key => (a.remove id key).1

def run (a : Arena) (ops : List Operation) : Arena := ops.foldl apply a

/-- An operation that is accepted puts a context below itself, or below one that is below it. -/
def ClosesLoop (a : Arena) : Operation → Prop
  | .createChild parent => ∃ n, Climbs a.parent? parent n (a.createChild parent).2
  | .updateParent id parent =>
    (∃ b, a.updateParent id parent = .ok b) ∧ ∃ n, Climbs a.parent? parent n id
  | _ => False

theorem parent?_createChild (a : Arena) (parent x : ContextId) :
    (a.createChild parent).1.parent? x =
      if x = (a.createChild parent).2 then some parent else a.parent? x := by
  rw [parent?, node?, createChild]
  dsimp only
  split
  · next hx => rw [hx, Table.lookup_put_self]; rfl
  · next hx => rw [Table.lookup_put_of_ne hx]; rfl

/-- The arena with other values in a context. -/
def withValues (a : Arena) (id : ContextId) (f : Fields Json → Fields Json) : Arena :=
  { a with nodes := a.nodes.modify id fun n => { n with values := f n.values } }

theorem set_eq (a : Arena) (id : ContextId) (key : String) (v : Json) :
    a.set id key v = (a, false) ∨
      a.set id key v = (a.withValues id (Fields.insert key v), true) := by
  rw [set]
  split
  · exact .inl rfl
  · split
    · exact .inl rfl
    · exact .inr rfl

theorem remove_eq (a : Arena) (id : ContextId) (key : String) :
    a.remove id key = (a, false) ∨
      a.remove id key = (a.withValues id (Fields.erase key), true) := by
  rw [remove]
  split
  · exact .inl rfl
  · split
    · exact .inr rfl
    · exact .inl rfl

theorem parent?_withValues (a : Arena) (id : ContextId) (f : Fields Json → Fields Json)
    (x : ContextId) : (a.withValues id f).parent? x = a.parent? x := by
  rw [parent?, parent?, node?, node?, withValues, Table.lookup_modify]
  split
  · rw [Option.bind_map]
    rfl
  · rfl

theorem updateParent_ok {parent : ContextId} (h : a.updateParent id parent = .ok b) :
    id ≠ root ∧ a.contains parent = true ∧ a.contains id = true ∧
      b = { a with nodes := a.nodes.modify id fun n => { n with parent := some parent } } := by
  rw [updateParent] at h
  split at h
  · cases h
  · next hroot =>
      split at h
      · cases h
      · next hparent =>
          split at h
          · cases h
          · next hid =>
              cases h
              exact ⟨hroot, by simpa using hparent, by simpa using hid, rfl⟩

theorem parent?_updateParent {parent : ContextId} (h : a.updateParent id parent = .ok b)
    (x : ContextId) : b.parent? x = if x = id then some parent else a.parent? x := by
  obtain ⟨-, -, hid, rfl⟩ := updateParent_ok h
  rw [parent?, node?, Table.lookup_modify]
  split
  · next hx =>
      obtain ⟨node, hnode⟩ := Option.isSome_iff_exists.mp hid
      rw [hx, show a.nodes.lookup id = some node from hnode]
      rfl
  · rfl

theorem node?_dispose (a : Arena) (id x : ContextId) :
    (a.dispose id).1.node? x = if x = id ∧ id ≠ root then none else a.node? x := by
  rw [dispose]
  split
  · next hid => rw [if_neg fun h => h.2 hid]
  · next hid =>
      by_cases hx : x = id
      · rw [if_pos ⟨hx, hid⟩, node?, hx, Table.lookup_erase_self]
      · rw [if_neg fun h => hx h.1, node?, Table.lookup_erase_of_ne hx, node?]

theorem parent?_dispose {x y : ContextId} (h : (a.dispose id).1.parent? x = some y) :
    a.parent? x = some y := by
  rw [parent?, node?_dispose] at h
  split at h
  · cases h
  · exact h

theorem parent?_set (a : Arena) (id : ContextId) (key : String) (v : Json) (x : ContextId) :
    (a.set id key v).1.parent? x = a.parent? x := by
  rcases set_eq a id key v with heq | heq
  · rw [heq]
  · rw [heq]
    exact parent?_withValues a id (Fields.insert key v) x

theorem parent?_remove (a : Arena) (id : ContextId) (key : String) (x : ContextId) :
    (a.remove id key).1.parent? x = a.parent? x := by
  rcases remove_eq a id key with heq | heq
  · rw [heq]
  · rw [heq]
    exact parent?_withValues a id (Fields.erase key) x

theorem isForest_congr (h : ∀ x, b.parent? x = a.parent? x) : b.IsForest ↔ a.IsForest := by
  rw [IsForest, IsForest, funext h]

theorem parent?_new (backed : Bool) (x : ContextId) : (new backed).parent? x = none := by
  rw [parent?, node?, new]
  by_cases hx : x = root
  · simp [hx]
  · have hb : (x == root) = false := by simpa using hx
    simp [List.lookup_cons, hb]

theorem isForest_new (backed : Bool) : (new backed).IsForest := by
  intro x n h
  obtain ⟨p, hp, -⟩ := h.above
  rw [parent?_new] at hp
  cases hp

/-- Contexts stay a forest in every step but one that puts a context below itself. -/
theorem isForest_apply_iff (h : a.IsForest) (op : Operation) :
    (a.apply op).IsForest ↔ ¬ a.ClosesLoop op := by
  cases op with
  | createChild parent =>
      refine Acyclic.iff_of_agree h (fun y hy => ?_) ?_
      · rw [apply, parent?_createChild, if_neg hy]
      · rw [apply, parent?_createChild, if_pos rfl]
  | updateParent id parent =>
      rw [apply]
      cases hb : a.updateParent id parent with
      | error e => simpa [ClosesLoop, hb, Except.toOption] using h
      | ok b =>
          have hparent := parent?_updateParent hb
          have hiff : b.IsForest ↔ ¬ ∃ n, Climbs a.parent? parent n id :=
            Acyclic.iff_of_agree h (fun y hy => by rw [hparent, if_neg hy])
              (by rw [hparent, if_pos rfl])
          simpa [ClosesLoop, hb, Except.toOption] using hiff
  | dispose id => exact iff_of_true (Acyclic.mono h fun _ _ => parent?_dispose) not_false
  | set id key v => exact iff_of_true ((isForest_congr (parent?_set a id key v)).mpr h) not_false
  | remove id key => exact iff_of_true ((isForest_congr (parent?_remove a id key)).mpr h) not_false

theorem isForest_run_iff (backed : Bool) (ops : List Operation) :
    (∀ before, before <+: ops → ((new backed).run before).IsForest) ↔
      ∀ before op, before ++ [op] <+: ops → ¬ ((new backed).run before).ClosesLoop op :=
  good_throughout_iff apply (fun _ => True) IsForest ClosesLoop (fun _ _ _ => trivial)
    (fun _ op _ h => isForest_apply_iff h op) trivial (isForest_new backed) ops

end Arena

end Shortcuts
