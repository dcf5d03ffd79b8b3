import Shortcuts.Context.Lifecycle
import Shortcuts.Proofs.Context.Forest
import Shortcuts.Proofs.Fields

/-!
The values of contexts. Where two arenas answer a lookup differently, the way up leads to a
context that replies differently in the two, and the answers are those from there. All values of
a context, collected, are those that lookups find, and of the settings what the root has for them.
-/

namespace Shortcuts

namespace Arena

variable {a b : Arena} {key : String} {id p : ContextId} {f g : Found} {node : ContextNode}

/-! ### Lookups in two arenas -/

/-- What a context says to a lookup: where it ends, or the context to go on with. -/
def reply (a : Arena) (key : String) (id : ContextId) : Found ⊕ ContextId :=
  match a.node? id with
  | none => .inl .missing
  | some node =>
    if id = root ∧ isSettingKey key ∧ a.remembered.isSome then .inl .setting
    else match node.values.lookup key with
      | some v => .inl (.value v)
      | none =>
        match node.parent with
        | some p => .inr p
        | none => .inl .missing

theorem Looks.by_replies {P : ContextId → Prop} (h : a.Looks key id f)
    (hend : ∀ id, a.reply key id = .inl f → a.Looks key id f → P id)
    (hup : ∀ id p, a.reply key id = .inr p → a.parent? id = some p → a.Looks key id f →
      a.Looks key p f → P p → P id) : P id := by
  induction h with
  | absent hnode => exact hend _ (by rw [reply, hnode]) (.absent hnode)
  | setting hnode hset =>
      refine hend _ ?_ (.setting hnode hset)
      rw [reply, hnode]
      exact if_pos hset
  | value hnode hset hv =>
      refine hend _ ?_ (.value hnode hset hv)
      simp only [reply, hnode, if_neg hset, hv]
  | top hnode hset hv hp =>
      refine hend _ ?_ (.top hnode hset hv hp)
      simp only [reply, hnode, if_neg hset, hv, hp]
  | up hnode hset hv hp hf ih =>
      refine hup _ _ ?_ ((parent?_of_node? hnode).trans hp) (.up hnode hset hv hp hf) hf
        (ih hend hup)
      simp only [reply, hnode, if_neg hset, hv, hp]

theorem Looks.reply (h : a.Looks key id f) :
    a.reply key id = .inl f ∨ ∃ p, a.reply key id = .inr p ∧ a.Looks key p f :=
  h.by_replies (P := fun id => a.reply key id = .inl f ∨ ∃ p, a.reply key id = .inr p ∧
      a.Looks key p f)
    (fun _ hr _ => .inl hr) (fun _ p hr _ _ hf _ => .inr ⟨p, hr, hf⟩)

/-- Different answers come from a context on the way up, at which the replies differ. -/
theorem Looks.differs (h : a.Looks key id f) (h' : b.Looks key id g) (hne : f ≠ g) :
    ∃ n x, Climbs a.parent? id n x ∧ a.reply key x ≠ b.reply key x ∧
      a.Looks key x f ∧ b.Looks key x g := by
  refine h.by_replies (P := fun id => b.Looks key id g → ∃ n x, Climbs a.parent? id n x ∧
    a.reply key x ≠ b.reply key x ∧ a.Looks key x f ∧ b.Looks key x g) ?_ ?_ h'
  · intro id hr hf hg
    refine ⟨0, id, .start id, fun heq => ?_, hf, hg⟩
    rcases hg.reply with hg | ⟨p, hg, -⟩
    · exact hne (Sum.inl.inj (hr.symm.trans (heq.trans hg)))
    · rw [← heq, hr] at hg
      cases hg
  · intro id p hr hp hf _ ih hg
    by_cases heq : a.reply key id = b.reply key id
    · rcases hg.reply with hg | ⟨q, hq, hg⟩
      · rw [← heq, hr] at hg
        cases hg
      · rw [← heq, hr] at hq
        cases hq
        obtain ⟨n, x, hx, hdiffer⟩ := ih hg
        exact ⟨n + 1, x, hx.of_above hp, hdiffer⟩
    · exact ⟨0, id, .start id, heq, hf, hg⟩

theorem Looks.unique (h : a.Looks key id f) (h' : a.Looks key id g) : f = g := by
  by_contra hne
  obtain ⟨n, x, -, hx, -⟩ := h.differs h' hne
  exact hx rfl

/-! ### What is collected -/

/-- The value that a context has of its own. -/
def own? (a : Arena) (id : ContextId) (key : String) : Option Json :=
  (a.node? id).bind fun n => n.values.lookup key

/-- Nothing stands above the root, values are kept in order, and only settings are remembered. -/
structure IsTidy (a : Arena) : Prop where
  top : a.parent? root = none
  sorted : ∀ {id node}, a.node? id = some node → node.values.IsSorted
  known : (a.remembered.getD []).IsSorted
  settings : ∀ {key}, key ∈ (a.remembered.getD []).keys → isSettingKey key = true

theorem own?_of_node? (h : a.node? id = some node) (key : String) :
    a.own? id key = node.values.lookup key := by
  rw [own?, h]
  rfl

theorem IsTidy.lookup_remembered (ha : a.IsTidy)
    (hset : ¬ (isSettingKey key ∧ a.remembered.isSome)) :
    (a.remembered.getD []).lookup key = none := by
  cases hv : (a.remembered.getD []).lookup key with
  | none => rfl
  | some v =>
      refine absurd ⟨ha.settings (List.mem_map_of_mem (Fields.mem_of_lookup hv)), ?_⟩ hset
      cases hremembered : a.remembered with
      | none =>
          rw [hremembered] at hv
          cases hv
      | some known => rfl

/-- What is collected where a lookup ends. At the settings it is a value that the root has of its
own, although lookups pass that by, and otherwise what is remembered. -/
def collected? (a : Arena) (key : String) : Found → Option Json
  | .value v => some v
  | .setting => (a.own? root key).or ((a.remembered.getD []).lookup key)
  | .missing => none

namespace IsTidy

theorem lookup_overlayNode (ha : a.IsTidy) (hnode : a.node? id = some node)
    (below : Fields Json) (key : String) :
    (a.overlayNode below id).lookup key = (node.values.lookup key).or
      (if id = root then ((a.remembered.getD []).lookup key).or (below.lookup key)
        else below.lookup key) := by
  rw [overlayNode, hnode]
  dsimp only
  rw [(ha.sorted hnode).lookup_overlay]
  split
  · rw [ha.known.lookup_overlay]
  · rfl

theorem lookup_gathered {ids : List ContextId} (ha : a.IsTidy) (h : a.Gathers id ids)
    (hf : a.Looks key id f) :
    (ids.reverse.foldl a.overlayNode []).lookup key = a.collected? key f := by
  induction h with
  | absent hnode =>
      cases hf.unique (.absent hnode)
      rfl
  | @top id node hnode hp =>
      refine (ha.lookup_overlayNode hnode [] key).trans ?_
      by_cases hset : id = root ∧ isSettingKey key ∧ a.remembered.isSome
      · cases hf.unique (.setting hnode hset)
        rw [collected?, ← hset.1, own?_of_node? hnode, if_pos rfl]
        exact congrArg _ Option.or_none
      · have hbelow : (if id = root then ((a.remembered.getD []).lookup key).or none
            else none) = none := by
          split
          · next hroot => rw [ha.lookup_remembered fun h => hset ⟨hroot, h⟩]; rfl
          · rfl
        refine (congrArg _ hbelow).trans (Option.or_none.trans ?_)
        cases hv : node.values.lookup key with
        | some v =>
            cases hf.unique (.value hnode hset hv)
            rfl
        | none =>
            cases hf.unique (.top hnode hset hv hp)
            rfl
  | @up id p node ids hnode hp _ ih =>
      -- settings are laid below the values of the root alone, which has no parent
      have hroot : id ≠ root := by
        rintro rfl
        have htop := ha.top
        rw [parent?_of_node? hnode, hp] at htop
        cases htop
      have hset : ¬ (id = root ∧ isSettingKey key ∧ a.remembered.isSome) := fun h => hroot h.1
      rw [List.reverse_cons, List.foldl_append]
      refine (ha.lookup_overlayNode hnode _ key).trans ?_
      rw [if_neg hroot]
      cases hv : node.values.lookup key with
      | some v =>
          cases hf.unique (.value hnode hset hv)
          rfl
      | none =>
          rcases hf.reply with hr | ⟨q, hr, hf⟩
          · simp [Arena.reply, hnode, hset, hv, hp] at hr
          · simp only [Arena.reply, hnode, if_neg hset, hv, hp, Sum.inr.injEq] at hr
            exact ih (hr ▸ hf)

theorem lookup_collect {ids : List ContextId} (ha : a.IsTidy) (hids : a.Gathers id ids)
    (hkey : key ≠ idKey) : (a.collect id).lookup key = a.collected? key (a.locate id key) := by
  rw [collect, Fields.lookup_erase_of_ne hkey]
  exact ha.lookup_gathered hids.ends.2 (hids.ends.1 key)

end IsTidy

/-! ### Arenas without settings -/

/-- Nothing stands behind or above the root, and values are kept in order. -/
structure IsPlain (a : Arena) : Prop where
  unbacked : a.remembered = none
  top : a.parent? root = none
  sorted : ∀ {id node}, a.node? id = some node → node.values.IsSorted

theorem isPlain_iff : a.IsPlain ↔ a.IsTidy ∧ a.remembered = none := by
  constructor
  · intro h
    refine ⟨⟨h.top, h.sorted, ?_, ?_⟩, h.unbacked⟩
    · rw [h.unbacked]
      exact .nil
    · rw [h.unbacked]
      exact nofun
  · rintro ⟨h, hunbacked⟩
    exact ⟨hunbacked, h.top, h.sorted⟩

theorem IsPlain.isTidy (ha : a.IsPlain) : a.IsTidy := (isPlain_iff.mp ha).1

def Found.value? : Found → Option Json
  | .value v => some v
  | _ => none

theorem Looks.ne_setting (h : a.Looks key id f) (ha : a.IsPlain) : f ≠ .setting := by
  induction h with
  | setting _ hset =>
      rw [ha.unbacked] at hset
      cases hset.2.2
  | up _ _ _ _ _ ih => exact ih
  | absent | value | top => exact nofun

theorem get?_eq (ha : a.IsPlain) (hforest : a.IsForest) (hkey : key ≠ idKey)
    (settings : String → Option Json) (id : ContextId) :
    a.get? settings id key = (a.locate id key).value? := by
  rw [get?, if_neg hkey]
  have hne := ((hforest.ends id).1 key).ne_setting ha
  cases hlocate : a.locate id key with
  | setting => exact absurd hlocate hne
  | value v => rfl
  | missing => rfl

theorem lookup_collect (ha : a.IsPlain) (hforest : a.IsForest) (hkey : key ≠ idKey)
    (hf : a.Looks key id f) : (a.collect id).lookup key = f.value? := by
  obtain ⟨hlook, hids⟩ := hforest.ends id
  rw [ha.isTidy.lookup_collect hids hkey, (hlook key).unique hf]
  cases f with
  | setting => exact absurd rfl (hf.ne_setting ha)
  | value v => rfl
  | missing => rfl

/-! ### What operations change -/

theorem node?_createChild (a : Arena) (parent x : ContextId) :
    (a.createChild parent).1.node? x =
      if x = (a.createChild parent).2 then some { parent := some parent } else a.node? x := by
  rw [node?, createChild]
  dsimp only
  split
  · next hx => rw [hx, Table.lookup_put_self]
  · next hx => exact Table.lookup_put_of_ne hx _ _

theorem node?_withValues (a : Arena) (id : ContextId) (f : Fields Json → Fields Json)
    (x : ContextId) : (a.withValues id f).node? x =
      if x = id then (a.node? x).map fun n => { n with values := f n.values } else a.node? x := by
  rw [node?, withValues, Table.lookup_modify]
  rfl

theorem own?_withValues (h : a.node? id = some node) (f : Fields Json → Fields Json)
    (key : String) : (a.withValues id f).own? id key = (f node.values).lookup key := by
  rw [own?, node?_withValues, if_pos rfl, h]
  rfl

theorem contains_withValues (a : Arena) (id : ContextId) (f : Fields Json → Fields Json)
    (x : ContextId) : (a.withValues id f).contains x = a.contains x := by
  rw [contains, node?_withValues, contains]
  split
  · exact Option.isSome_map
  · rfl

/-- What is reported as a change is another value. -/
theorem own?_set {v : Json} (h : (a.set id key v).2 = true) :
    (a.own? id key == (a.set id key v).1.own? id key) = false := by
  rw [set] at h ⊢
  split at h
  · cases h
  · next node hnode =>
      split at h
      · cases h
      · next hne =>
          have hafter := own?_withValues hnode (Fields.insert key v) key
          rw [Fields.lookup_insert_self] at hafter
          rw [if_neg hne, own?, hnode]
          exact (congrArg (node.values.lookup key == ·) hafter).trans (by simpa using hne)

theorem own?_remove (h : (a.remove id key).2 = true) :
    (a.own? id key == (a.remove id key).1.own? id key) = false := by
  rw [remove] at h ⊢
  split at h
  · cases h
  · next node hnode =>
      split at h
      · next hsome =>
          have hafter := own?_withValues hnode (Fields.erase key) key
          rw [Fields.lookup_erase_self] at hafter
          obtain ⟨v, hv⟩ := Option.isSome_iff_exists.mp hsome
          rw [if_pos hsome, own?, hnode]
          refine (congrArg (node.values.lookup key == ·) hafter).trans ?_
          rw [hv]
          rfl
      · cases h

theorem reply_withValues (f : Fields Json → Fields Json) {x : ContextId}
    (h : x = id → ∀ m, (f m).lookup key = m.lookup key) :
    (a.withValues id f).reply key x = a.reply key x := by
  have hremembered : (a.withValues id f).remembered = a.remembered := rfl
  rw [reply, node?_withValues, hremembered, reply]
  by_cases hx : x = id
  · rw [if_pos hx]
    cases hnode : a.node? x with
    | none => rfl
    | some node => simp only [Option.map_some, h hx]
  · rw [if_neg hx]

theorem node?_updateParent {parent : ContextId} (h : a.updateParent id parent = .ok b)
    (x : ContextId) : b.node? x =
      if x = id then (a.node? x).map fun n => { n with parent := some parent } else a.node? x := by
  obtain ⟨-, -, -, rfl⟩ := updateParent_ok h
  rw [node?, Table.lookup_modify]
  rfl

theorem contains_updateParent {parent : ContextId} (h : a.updateParent id parent = .ok b)
    (x : ContextId) : b.contains x = a.contains x := by
  rw [contains, node?_updateParent h, contains]
  split
  · exact Option.isSome_map
  · rfl

theorem remembered_dispose (a : Arena) (x : ContextId) :
    (a.dispose x).1.remembered = a.remembered := by
  rw [dispose]
  split <;> rfl

theorem remembered_updateParent {parent : ContextId} (h : a.updateParent id parent = .ok b) :
    b.remembered = a.remembered := by
  obtain ⟨-, -, -, rfl⟩ := updateParent_ok h
  rfl

theorem reply_updateParent {parent x : ContextId} (h : a.updateParent id parent = .ok b)
    (hx : x ≠ id) : b.reply key x = a.reply key x := by
  rw [reply, node?_updateParent h, if_neg hx, remembered_updateParent h, reply]

namespace IsTidy

theorem new (backed : Bool) : (Arena.new backed).IsTidy where
  top := parent?_new backed root
  sorted {id node} h := by
    obtain ⟨l, r, hnodes, -⟩ := List.lookup_eq_some_iff.mp h
    have hmem : (id, node) ∈ (Arena.new backed).nodes := hnodes ▸ by simp
    cases List.mem_singleton.mp hmem
    exact .nil
  known := by cases backed <;> exact .nil
  settings := by cases backed <;> exact nofun

theorem createChild (ha : a.IsTidy) (parent : ContextId) : (a.createChild parent).1.IsTidy where
  top := by
    have hne : root ≠ (a.createChild parent).2 := (Nat.succ_ne_zero a.lastId).symm
    rw [parent?_createChild, if_neg hne]
    exact ha.top
  sorted h := by
    rw [node?_createChild] at h
    split at h
    · cases h
      exact .nil
    · exact ha.sorted h
  known := ha.known
  settings := ha.settings

theorem updateParent {parent : ContextId} (ha : a.IsTidy)
    (h : a.updateParent id parent = .ok b) : b.IsTidy where
  top := by
    rw [parent?_updateParent h, if_neg (updateParent_ok h).1.symm]
    exact ha.top
  sorted hnode := by
    rw [node?_updateParent h] at hnode
    split at hnode
    · obtain ⟨node, hbefore, rfl⟩ := Option.map_eq_some_iff.mp hnode
      have hsorted := ha.sorted hbefore
      exact hsorted
    · exact ha.sorted hnode
  known := remembered_updateParent h ▸ ha.known
  settings := remembered_updateParent h ▸ ha.settings

theorem dispose (ha : a.IsTidy) (id : ContextId) : (a.dispose id).1.IsTidy where
  top := by
    rw [parent?, node?_dispose, if_neg fun h => h.2 h.1.symm]
    exact ha.top
  sorted h := by
    rw [node?_dispose] at h
    split at h
    · cases h
    · exact ha.sorted h
  known := remembered_dispose a id ▸ ha.known
  settings := remembered_dispose a id ▸ ha.settings

theorem withValues {f : Fields Json → Fields Json} (ha : a.IsTidy) (id : ContextId)
    (hf : ∀ m : Fields Json, m.IsSorted → (f m).IsSorted) : (a.withValues id f).IsTidy where
  top := (parent?_withValues a id f root).trans ha.top
  sorted h := by
    rw [node?_withValues] at h
    split at h
    · obtain ⟨node, hbefore, rfl⟩ := Option.map_eq_some_iff.mp h
      exact hf _ (ha.sorted hbefore)
    · exact ha.sorted h
  known := ha.known
  settings := ha.settings

end IsTidy

namespace IsPlain

theorem new : (Arena.new false).IsPlain := isPlain_iff.mpr ⟨.new false, rfl⟩

theorem createChild (ha : a.IsPlain) (parent : ContextId) : (a.createChild parent).1.IsPlain :=
  isPlain_iff.mpr ⟨ha.isTidy.createChild parent, ha.unbacked⟩

theorem updateParent {parent : ContextId} (ha : a.IsPlain)
    (h : a.updateParent id parent = .ok b) : b.IsPlain :=
  isPlain_iff.mpr ⟨ha.isTidy.updateParent h, (remembered_updateParent h).trans ha.unbacked⟩

theorem dispose (ha : a.IsPlain) (id : ContextId) : (a.dispose id).1.IsPlain :=
  isPlain_iff.mpr ⟨ha.isTidy.dispose id, (remembered_dispose a id).trans ha.unbacked⟩

theorem withValues {f : Fields Json → Fields Json} (ha : a.IsPlain) (id : ContextId)
    (hf : ∀ m : Fields Json, m.IsSorted → (f m).IsSorted) : (a.withValues id f).IsPlain :=
  isPlain_iff.mpr ⟨ha.isTidy.withValues id hf, ha.unbacked⟩

end IsPlain

end Arena

/-! ### Differences -/

theorem Contexts.mem_differences (before after : Fields Json) (key : String) :
    key ∈ Contexts.differences before after ↔
      (before.lookup key == after.lookup key) = false := by
  rw [Contexts.differences, mem_sortedKeys, List.mem_filter, Bool.not_eq_true',
    and_iff_right_iff_imp, List.mem_append]
  intro h
  have hmem : ∀ m : Fields Json, m.lookup key ≠ none → key ∈ m.keys := by
    intro m hm
    obtain ⟨v, hv⟩ := Option.ne_none_iff_exists'.mp hm
    obtain ⟨l, r, hlr, -⟩ := List.lookup_eq_some_iff.mp hv
    exact List.mem_map.mpr ⟨(key, v), hlr ▸ by simp, rfl⟩
  by_cases hbefore : before.lookup key = none
  · refine .inr (hmem after fun hafter => ?_)
    rw [hbefore, hafter] at h
    cases h
  · exact .inl (hmem before hbefore)

end Shortcuts
