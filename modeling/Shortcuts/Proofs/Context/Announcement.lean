import Shortcuts.Proofs.Context.Wiring

/-!
Announcements where nothing is held back. Such an announcement changes nothing; it goes down from
listener to listener, and as every region listens to the one above it only, it comes to a region
once if it starts at that region or above it, and never otherwise.
-/

namespace Shortcuts

/-- Whether a notice goes to an observer of changes of values. -/
def Notice.isTo (name : String) : Notice → Bool
  | .context observer _ => observer == name
  | .settings _ => false

namespace Contexts

variable {c : Contexts} {id p t : RegionId} {r : Region} {name : String} {keys : List String}

/-- What is told, in order, where nothing is held back. -/
def notices (c : Contexts) : Nat → RegionId → List String → List Notice
  | 0, _, _ => []
  | fuel + 1, id, keys => (c.listenersOf id).flatMap fun l =>
    match l.2 with
    | .observer name => [.context name keys]
    | .child x => if c.isHeld x then notices c fuel x keys else []

theorem withChanges_self (hg : c.Grown) (hr : c.region? id = some r) :
    c.withChanges id r.changes = c := by
  rw [withChanges, withRegion, hg.regions.modify_self hr rfl]

theorem listenersOf_of_absent (h : c.region? id = none) : c.listenersOf id = [] := by
  rw [listenersOf, changesOf, h]
  rfl

/-- Where each one tells behind what was told before, all is told in their order. -/
theorem foldl_told {α : Type} {tell : Contexts × List Notice → α → Contexts × List Notice}
    {note : α → List Notice} (h : ∀ told x, tell (c, told) x = (c, told ++ note x)) (xs : List α)
    (told : List Notice) : xs.foldl tell (c, told) = (c, told ++ xs.flatMap note) := by
  induction xs generalizing told with
  | nil => rw [List.foldl_nil, List.flatMap_nil, List.append_nil]
  | cons x xs ih =>
      rw [List.foldl_cons, h, ih, List.flatMap_cons, List.append_assoc]

theorem announce_eq (hg : c.Grown) (hc : c.AreIdle) (fuel : Nat) (id : RegionId)
    (keys : List String) (told : List Notice) :
    announce fuel id keys (c, told) = (c, told ++ c.notices fuel id keys) := by
  induction fuel generalizing id told with
  | zero => rw [announce, notices, List.append_nil]
  | succ fuel ih =>
      cases hr : c.region? id with
      | none =>
          rw [announce, notices, listenersOf_of_absent hr, List.flatMap_nil, List.append_nil]
          dsimp only
          rw [hr]
      | some r =>
          have hidle : r.changes.depth = 0 := changesOf_of_region? hr ▸ hc.idle id
          have hoffer : r.changes.offer keys = (r.changes, [keys]) := by
            rw [Pausing.offer, Pausing.isPaused, hidle]
            rfl
          have hself : (c.withRegion id fun s => { s with changes := r.changes }) = c :=
            withChanges_self hg hr
          have hlisteners : c.listenersOf id = r.changes.emitter.listeners := by
            rw [listenersOf, changesOf_of_region? hr]
          rw [announce, notices, hlisteners]
          simp only [hr, hoffer, hself, List.foldl_cons, List.foldl_nil, Emitter.deliver]
          refine foldl_told (fun told l => ?_) _ told
          cases l.2 with
          | observer name => rfl
          | child x =>
              dsimp only
              split
              · exact ih x told
              · rw [List.append_nil]

theorem fire_eq (hg : c.Grown) (hc : c.AreIdle) (id : RegionId) (keys : List String) :
    c.fire id keys =
      (c, if keys.isEmpty then [] else c.notices (c.regions.length + 1) id keys) := by
  rw [fire]
  split
  · rfl
  · rw [announce_eq hg hc, List.nil_append]

/-! ### Lives -/

theorem above_of_parent (h : c.parentOf id = some p) (fuel : Nat) :
    c.above (fuel + 1) id = id :: c.above fuel p := by
  rw [parentOf] at h
  rw [above, h]

theorem above_of_top (h : c.parentOf id = none) (fuel : Nat) : c.above (fuel + 1) id = [id] := by
  rw [parentOf] at h
  rw [above, h]

theorem mem_above (fuel : Nat) :
    p ∈ c.above fuel id ↔ ∃ n, n < fuel ∧ Climbs c.parentOf id n p := by
  induction fuel generalizing id with
  | zero => simp [above]
  | succ fuel ih =>
      cases hparent : c.parentOf id with
      | none =>
          rw [above_of_top hparent, List.mem_singleton]
          constructor
          · rintro rfl
            exact ⟨0, Nat.succ_pos _, .start _⟩
          · rintro ⟨n, -, hclimb⟩
            cases n with
            | zero =>
                cases hclimb
                rfl
            | succ n =>
                obtain ⟨q, hq, -⟩ := hclimb.above
                rw [hparent] at hq
                cases hq
      | some q =>
          rw [above_of_parent hparent, List.mem_cons, ih]
          constructor
          · rintro (rfl | ⟨n, hn, hclimb⟩)
            · exact ⟨0, Nat.succ_pos _, .start _⟩
            · exact ⟨n + 1, Nat.succ_lt_succ hn, hclimb.of_above hparent⟩
          · rintro ⟨n, hn, hclimb⟩
            cases n with
            | zero =>
                cases hclimb
                exact .inl rfl
            | succ n =>
                obtain ⟨q', hq', hclimb⟩ := hclimb.above
                rw [hparent] at hq'
                cases hq'
                exact .inr ⟨n, Nat.lt_of_succ_lt_succ hn, hclimb⟩

/-- No way up is longer than there are regions. -/
theorem endsWithin_parentOf (h : Acyclic c.parentOf) (id : RegionId) :
    EndsWithin c.parentOf (c.regions.length + 1) id := by
  have hkeys : ∀ x y, c.parentOf x = some y → x ∈ c.regions.map Prod.fst := by
    intro x y hy
    obtain ⟨r, hr, -⟩ := Option.bind_eq_some_iff.mp hy
    exact Table.mem_keys_of_lookup hr
  have := h.endsWithin hkeys id
  rwa [List.length_map] at this

theorem isHeld_iff (hacyclic : Acyclic c.parentOf) :
    c.isHeld id = true ↔ ∃ h ∈ c.held, ∃ n, Climbs c.parentOf h n id := by
  rw [isHeld, List.any_eq_true]
  refine exists_congr fun h => and_congr_right fun _ => ?_
  rw [List.contains_iff_mem, mem_above]
  exact exists_congr fun n =>
    and_iff_right_of_imp fun hclimb => endsWithin_parentOf hacyclic h n id hclimb

theorem isHeld_of_climbs (hacyclic : Acyclic c.parentOf) (hheld : c.isHeld id = true) {n : Nat}
    (h : Climbs c.parentOf id n p) : c.isHeld p = true := by
  obtain ⟨x, hx, m, hm⟩ := (isHeld_iff hacyclic).mp hheld
  exact (isHeld_iff hacyclic).mpr ⟨x, hx, m + n, hm.trans h⟩

/-! ### Who is told -/

/-- How often an observer listens to a region. -/
def subscriptions (c : Contexts) (id : RegionId) (name : String) : Nat :=
  (c.listenersOf id).countP fun l => decide (l.2 = .observer name)

def ListensOnlyAt (c : Contexts) (name : String) (id : RegionId) : Prop :=
  ∀ p, p ≠ id → c.subscriptions p name = 0

/-- Ending the subscription of a region takes none from an observer. -/
theorem subscriptions_forget (hc : c.AreIdle) {feed : Option (RegionId × Nat)}
    (hfeed : ∀ p token, feed = some (p, token) → (token, .child id) ∈ c.listenersOf p)
    (t : RegionId) (name : String) :
    (c.forget feed).subscriptions t name = c.subscriptions t name := by
  rw [subscriptions, listenersOf, changesOf_forget, subscriptions, listenersOf]
  cases feed with
  | none => rfl
  | some old =>
      dsimp only
      split
      · next ht =>
          have hchild := hfeed old.1 old.2 rfl
          rw [← ht] at hchild
          rw [Pausing.unsubscribe, Emitter.unsubscribe, List.countP_filter]
          refine List.countP_congr fun l hl => ?_
          simp only [Bool.and_eq_true, decide_eq_true_eq, and_iff_left_iff_imp]
          intro hobserver htoken
          obtain ⟨other, l⟩ := l
          cases hobserver
          cases htoken
          cases (hc.numbered t).unique hchild hl
      · rfl

theorem subscriptions_withParent (c : Contexts) (id above t : RegionId) (name : String) :
    (c.withParent id above).subscriptions t name = c.subscriptions t name := by
  rw [subscriptions, listenersOf, changesOf_withParent]
  rfl

theorem subscriptions_listenTo (hc : c.Wired) (id above t : RegionId) (name : String) :
    (c.listenTo id above).subscriptions t name = c.subscriptions t name := by
  cases hr : c.region? id with
  | none => rw [listenTo_of_absent (.inl hr)]
  | some r =>
      cases ha : c.region? above with
      | none => rw [listenTo_of_absent (.inr ha)]
      | some a =>
          have hsubscribed := hc.toAreIdle.subscribe ha (.child id)
          have hforget := subscriptions_forget hsubscribed
            (fun p token (hfeed : c.feedOf id = some (p, token)) =>
              (mem_listenersOf_subscribe ha).mpr (.inl (hc.fed.mpr hfeed))) t name
          rw [subscriptions, listenersOf, changesOf_listenTo hr ha]
          refine hforget.trans ?_
          rw [subscriptions, listenersOf, changesOf_withChanges ha, subscriptions, listenersOf]
          split
          · next ht =>
              rw [ht, changesOf_of_region? ha, Pausing.subscribe, Emitter.subscribe,
                List.countP_append]
              rfl
          · rfl

theorem subscriptions_moved (hc : c.Wired) (s : Nat) (b : Arena) (id above t : RegionId)
    (name : String) : (((c.withArena s b).withParent id above).listenTo id above).subscriptions t
      name = c.subscriptions t name := by
  have hwired : ((c.withArena s b).withParent id above).Wired :=
    hc.congr (changesOf_withParent (c.withArena s b) id above)
      (feedOf_withParent (c.withArena s b) id above)
  exact (subscriptions_listenTo hwired id above t name).trans
    (subscriptions_withParent _ id above t name)

/-- What a listener of an announcement passes on to one observer. -/
theorem filter_notices (fuel : Nat) (id : RegionId) (keys : List String) (name : String) :
    (c.notices (fuel + 1) id keys).filter (Notice.isTo name) =
      (c.listenersOf id).flatMap fun l =>
        match l.2 with
        | .observer other => if other = name then [.context name keys] else []
        | .child x =>
          if c.isHeld x then (c.notices fuel x keys).filter (Notice.isTo name) else [] := by
  rw [notices, List.filter_flatMap]
  refine congrArg (List.flatMap · _) (funext fun l => ?_)
  cases l.2 with
  | observer other =>
      dsimp only
      split
      · next heq => simp [Notice.isTo, heq]
      · next hne => simp [Notice.isTo, hne]
  | child x =>
      dsimp only
      split <;> rfl

theorem notices_of_not_climbs (hc : c.Linked) (honly : c.ListensOnlyAt name t) (fuel : Nat)
    (h : ∀ n, ¬ Climbs c.parentOf t n id) :
    (c.notices fuel id keys).filter (Notice.isTo name) = [] := by
  induction fuel generalizing id with
  | zero => rfl
  | succ fuel ih =>
      rw [filter_notices, List.flatMap_eq_nil_iff]
      rintro ⟨token, l⟩ hl
      cases l with
      | observer other =>
          have hne : id ≠ t := fun heq => h 0 (heq ▸ .start id)
          have hcount := List.countP_eq_zero.mp (honly id hne) _ hl
          exact if_neg fun heq => hcount (by simp [heq])
      | child x =>
          dsimp only
          split
          · exact ih fun n hn => h (n + 1) (hn.up (hc.parentOf_of_mem hl))
          · rfl

theorem flatMap_eq_of_unique {α β : Type} {l : List α} {f : α → List β} {x : α} (hl : l.Nodup)
    (hx : x ∈ l) (h : ∀ y ∈ l, y ≠ x → f y = []) : l.flatMap f = f x := by
  induction l with
  | nil => cases hx
  | cons y l ih =>
      obtain ⟨hy, hl⟩ := List.nodup_cons.mp hl
      rw [List.flatMap_cons]
      rcases List.mem_cons.mp hx with rfl | hx
      · have hrest : l.flatMap f = [] :=
          List.flatMap_eq_nil_iff.mpr fun y hyl => h y (.tail _ hyl) fun heq => hy (heq ▸ hyl)
        rw [hrest, List.append_nil]
      · rw [h y (.head _) fun heq => hy (heq ▸ hx), List.nil_append]
        exact ih hl hx fun y hyl => h y (.tail _ hyl)

/-- At the region itself its observers are told. Those below do not tell them a second time, as
nothing is above itself. -/
theorem notices_here (hc : c.Linked) (hacyclic : Acyclic c.parentOf)
    (honly : c.ListensOnlyAt name t) (fuel : Nat) :
    (c.notices (fuel + 1) t keys).filter (Notice.isTo name) =
      List.replicate (c.subscriptions t name) (.context name keys) := by
  have hbelow : ∀ l ∈ c.listenersOf t, ∀ x, l.2 = .child x →
      (c.notices fuel x keys).filter (Notice.isTo name) = [] := by
    rintro ⟨token, l⟩ hl x rfl
    exact notices_of_not_climbs hc honly fuel fun n hn =>
      hacyclic t n (hn.up (hc.parentOf_of_mem hl))
  rw [filter_notices, subscriptions]
  generalize c.listenersOf t = listeners at hbelow
  induction listeners with
  | nil => rfl
  | cons l listeners ih =>
      have hl := hbelow l (.head _)
      have hrest := ih fun k hk => hbelow k (.tail _ hk)
      rw [List.flatMap_cons, hrest, List.countP_cons]
      cases hkind : l.2 with
      | observer other =>
          by_cases hname : other = name
          · simp [hname, List.replicate_succ]
          · simp [hname]
      | child x => simp [hl x hkind]

/-- Above the region only the listener on the way down to it has something to tell. -/
theorem notices_above {x : RegionId} {n : Nat} (hc : c.Linked) (hacyclic : Acyclic c.parentOf)
    (honly : c.ListensOnlyAt name t) (hheld : c.isHeld x = true) (fuel : Nat)
    (h : Climbs c.parentOf t n x) (habove : c.parentOf x = some id) :
    (c.notices (fuel + 1) id keys).filter (Notice.isTo name) =
      (c.notices fuel x keys).filter (Notice.isTo name) := by
  obtain ⟨token, hmem⟩ := hc.exists_mem habove
  have hnodup : (c.listenersOf id).Nodup := (hc.numbered id).nodup.of_map _
  have hne : id ≠ t := fun heq => hacyclic t n (heq ▸ h.up habove)
  rw [filter_notices, flatMap_eq_of_unique hnodup hmem]
  · dsimp only
    rw [if_pos hheld]
  · rintro ⟨other, l⟩ hl hother
    cases l with
    | observer other =>
        have hcount := List.countP_eq_zero.mp (honly id hne) _ hl
        exact if_neg fun heq => hcount (by simp [heq])
    | child y =>
        dsimp only
        split
        · refine notices_of_not_climbs hc honly fuel fun m hm => hother ?_
          have hy := hc.parentOf_of_mem hl
          have hsteps := hacyclic.steps_unique (hm.up hy) (h.up habove)
          cases Nat.succ.inj hsteps
          cases hm.unique h
          rw [hc.eq_token hl hmem]
        · rfl

/-- An announcement at a region, or above it, is told to those who observe this region, to each
once for a subscription. -/
theorem notices_of_climbs (hc : c.Linked) (hacyclic : Acyclic c.parentOf)
    (honly : c.ListensOnlyAt name t) (hheld : c.isHeld t = true) {n fuel : Nat}
    (h : Climbs c.parentOf t n id) (hfuel : n < fuel) :
    (c.notices fuel id keys).filter (Notice.isTo name) =
      List.replicate (c.subscriptions t name) (.context name keys) := by
  induction h generalizing fuel with
  | start =>
      obtain ⟨fuel, rfl⟩ := Nat.exists_eq_succ_of_ne_zero (Nat.ne_of_gt hfuel)
      exact notices_here hc hacyclic honly fuel
  | up h habove ih =>
      obtain ⟨fuel, rfl⟩ := Nat.exists_eq_succ_of_ne_zero (Nat.ne_zero_of_lt hfuel)
      have hheld' := isHeld_of_climbs hacyclic hheld h
      exact (notices_above hc hacyclic honly hheld' fuel h habove).trans
        (ih (Nat.lt_of_succ_lt_succ hfuel))

/-- What an observer of a region is told by a change that is announced at a region above. -/
theorem fire_told (hg : c.Grown) (hc : c.Linked) (hacyclic : Acyclic c.parentOf)
    (honly : c.ListensOnlyAt name t) (hheld : c.isHeld t = true) {n : Nat}
    (h : Climbs c.parentOf t n id) (hkeys : keys ≠ []) :
    (c.fire id keys).2.filter (Notice.isTo name) =
      List.replicate (c.subscriptions t name) (.context name keys) := by
  rw [fire_eq hg hc.toAreIdle, if_neg (by simpa using hkeys)]
  exact notices_of_climbs hc hacyclic honly hheld h (endsWithin_parentOf hacyclic t n id h)

end Contexts

end Shortcuts
