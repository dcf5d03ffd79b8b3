import Shortcuts.Proofs.Context.Answers

/-!
Regions after their end. A region that has ended stays ended, where it was, and if its context was
not the root of the tree that context never comes back. The region itself answers no clause any
more. An overlay on it does: it asks the contexts and not the region, so it still sees the values
at a target, and those of the root if the region was there.
-/

namespace Shortcuts

namespace Arena

variable {a : Arena} {x : ContextId}

theorem get?_of_absent (h : a.node? x = none) (settings : String → Option Json) (key : String) :
    a.get? settings x key = none := by
  rw [get?, contains, locate, find, h]
  split <;> rfl

end Arena

namespace Contexts

variable {c d e : Contexts} {id : RegionId} {r : Region} {t : Nat} {x : ContextId} {a b : Arena}

/-! ### What has ended -/

/-- The contexts of the regions that have ended are gone, all but the roots. -/
def Vacated (c : Contexts) : Prop := ∀ {id t x a}, c.site? id = some (t, x) →
  c.isDisposed id = true → x ≠ Arena.root → c.arena? t = some a → a.node? x = none

/-- What has ended has still ended, and no context has come back. -/
structure KeepsEnded (c d : Contexts) : Prop where
  ended : ∀ {id s}, c.site? id = some s → c.isDisposed id = true →
    d.site? id = some s ∧ d.isDisposed id = true
  vacated : c.Vacated → d.Vacated

namespace KeepsEnded

theorem refl (c : Contexts) : KeepsEnded c c := ⟨fun hsite hended => ⟨hsite, hended⟩, id⟩

theorem trans (h : KeepsEnded c d) (h' : KeepsEnded d e) : KeepsEnded c e where
  ended hsite hended := (h.ended hsite hended).elim h'.ended
  vacated hc := h'.vacated (h.vacated hc)

theorem of_same (harena : ∀ t, d.arena? t = c.arena? t) (hsite : ∀ id, d.site? id = c.site? id)
    (hended : ∀ id, d.isDisposed id = c.isDisposed id) : KeepsEnded c d where
  ended hs h := ⟨(hsite _).trans hs, (hended _).trans h⟩
  vacated hc {id t _ _} hs h hroot ha :=
    hc ((hsite id).symm.trans hs) ((hended id).symm.trans h) hroot ((harena t).symm.trans ha)

theorem of_samePlaces (h : SamePlaces c d) : KeepsEnded c d :=
  .of_same (arena?_congr h.trees) h.site? h.isDisposed

theorem of_regions (harena : ∀ t, d.arena? t = c.arena? t) (h : d.regions = c.regions) :
    KeepsEnded c d :=
  .of_same harena (fun id => by rw [site?, region?, h]; rfl)
    fun id => by rw [isDisposed, region?, h]; rfl

theorem withArena (ha : c.arena? t = some a)
    (hgone : ∀ {id x}, c.site? id = some (t, x) → a.node? x = none → b.node? x = none) :
    KeepsEnded c (c.withArena t b) where
  ended hsite hended := ⟨hsite, hended⟩
  vacated hc {id t' x a'} hsite hended hroot ha' := by
    rw [arena?_withArena ha] at ha'
    split at ha'
    · next ht =>
        subst ht
        cases ha'
        exact hgone hsite (hc hsite hended hroot ha)
    · exact hc hsite hended hroot ha'

theorem child (hc : c.Grown) (ha : c.arena? t = some a) (p : ContextId) :
    KeepsEnded c (c.withArena t (a.createChild p).1) := by
  refine .withArena ha fun {id x} hsite hx => ?_
  obtain ⟨a', ha', hle⟩ := hc.placed hsite
  rw [ha] at ha'
  cases ha'
  -- the new number is above those of all contexts that any region has had
  have hold : x ≠ (a.createChild p).2 := Nat.ne_of_lt (Nat.lt_succ_of_le hle)
  rw [Arena.node?_createChild, if_neg hold, hx]

theorem gone (ha : c.arena? t = some a) (x : ContextId) :
    KeepsEnded c (c.withArena t (a.dispose x).1) := by
  refine .withArena ha fun _ hx => ?_
  rw [Arena.node?_dispose, hx, ite_self]

theorem withValues (ha : c.arena? t = some a) (x : ContextId) (f : Fields Json → Fields Json) :
    KeepsEnded c (c.withArena t (a.withValues x f)) := by
  refine .withArena ha fun _ hx => ?_
  rw [Arena.node?_withValues, hx, Option.map_none, ite_self]

theorem sameNodes (ha : c.arena? t = some a) (h : a.SameNodes b) :
    KeepsEnded c (c.withArena t b) := by
  refine .withArena ha fun _ hx => ?_
  rw [Arena.node?, h.nodes]
  exact hx

theorem withTree (hc : c.Grown) (backed : Bool) : KeepsEnded c (c.withTree backed) where
  ended hsite hended := ⟨hsite, hended⟩
  vacated hvacated {id t x a} hsite hended hroot ha := by
    obtain ⟨a', ha', -⟩ := hc.placed hsite
    rw [arena?_withTree, if_neg (hc.ne_length ha')] at ha
    exact hvacated hsite hended hroot ha

theorem withNew (hc : c.Grown) (elements : Elements) (hlives : r.disposed = false) :
    KeepsEnded c (c.withNew elements r) where
  ended hsite hended := by
    rw [site?_withNew, isDisposed_withNew, if_neg (hc.ne_new hsite), if_neg (hc.ne_new hsite)]
    exact ⟨hsite, hended⟩
  vacated hvacated {id t x a} hsite hended hroot ha := by
    rw [site?_withNew] at hsite
    rw [isDisposed_withNew] at hended
    split at hsite
    · next hid =>
        rw [if_pos hid, hlives] at hended
        cases hended
    · next hid =>
        rw [if_neg hid] at hended
        exact hvacated hsite hended hroot ha

theorem withParent (c : Contexts) (id above : RegionId) : KeepsEnded c (c.withParent id above) :=
  .of_same (fun _ => rfl) (site?_withParent c id above) (isDisposed_withParent c id above)

theorem withEnd (hsite : c.site? id = some (t, x))
    (hgone : x ≠ Arena.root → ∀ a, c.arena? t = some a → a.node? x = none) :
    KeepsEnded c (c.withEnd id) where
  ended {y s} hy hended := by
    rw [site?_withEnd, isDisposed_withEnd, hended, ite_self]
    exact ⟨hy, rfl⟩
  vacated hvacated {y t' x' a} hy hended hroot ha := by
    rw [site?_withEnd] at hy
    rw [isDisposed_withEnd] at hended
    split at hended
    · next hid =>
        rw [hid, hsite] at hy
        cases hy
        exact hgone hroot a ha
    · exact hvacated hy hended hroot ha

theorem of_step {op : Operation} {s : Contexts × List Notice} (hc : c.Grown)
    (hstep : Step c op s) : KeepsEnded c s.1 := by
  cases hstep with
  | refused => exact .refl c
  | held => exact .of_regions (fun _ => rfl) rfl
  | newRoot backed =>
      obtain ⟨watchers, heq⟩ := newRoot_eq c backed
      have hsame := samePlaces_withOutside c watchers c.elements
      have hout := hc.congr hsame.toSameSites
      rw [heq]
      exact (KeepsEnded.of_samePlaces hsame).trans
        ((withTree hout backed).trans (.withNew (hout.withTree backed) _ rfl))
  | child hr ha => exact .child hc ha _
  | gone ha => exact .gone ha _
  | entered hs =>
      obtain ⟨r, a, elements, hr, -, ha, -, heq⟩ := createScoped_ok hs
      rw [heq]
      exact (KeepsEnded.child hc ha r.context).trans ((withNew (hc.child hr ha) elements rfl).trans
        (.of_samePlaces (samePlaces_listenTo _ _ _)))
  | @moved y above _ hs =>
      obtain ⟨r, ra, a, b, -, -, -, -, -, ha, hb, rfl⟩ := updateParent_ok hs
      have hmoved : KeepsEnded c (c.withArena r.tree b) := by
        refine .withArena ha fun _ hx => ?_
        rw [Arena.node?_updateParent hb, hx, Option.map_none, ite_self]
      exact hmoved.trans ((withParent _ y above).trans (.of_samePlaces
        ((samePlaces_listenTo _ _ _).trans (samePlaces_fire _ _ _))))
  | @ended y r a watchers elements hr ha =>
      have hsame := (samePlaces_forget c r.feed).trans (samePlaces_withOutside _ watchers elements)
      have hafter := (arena?_congr hsame.trees r.tree).trans ha
      refine (KeepsEnded.of_samePlaces hsame).trans ((gone hafter r.context).trans
        (.withEnd ((hsame.site? y).trans (site?_of_region? hr)) fun hroot b hb => ?_))
      rw [arena?_withArena hafter, if_pos rfl] at hb
      cases hb
      rw [Arena.node?_dispose, if_pos ⟨rfl, hroot⟩]
  | written _ _ _ ha =>
      exact (KeepsEnded.withValues ha _ _).trans (.of_samePlaces (samePlaces_fire _ _ _))
  | observed y name => exact .of_samePlaces (samePlaces_observe c y name)

theorem noteLookups (c : Contexts) (t : Nat) (context : Option ContextId) (keys : List String) :
    KeepsEnded c (c.noteLookups t context keys) := by
  rcases noteLookups_cases c t context keys with heq | ⟨a, x, ha, heq⟩ <;> rw [heq]
  · exact .refl c
  · exact .sameNodes ha (a.sameNodes_rememberAll _ x keys)

theorem edit (c : Contexts) (e : Settings.Edit) : KeepsEnded c (c.edit e) := by
  rcases edit_cases c e with ⟨change, -, heq⟩ | ⟨-, heq⟩ <;> rw [heq]
  · refine tellSettings_induction (P := KeepsEnded c)
      (fun d t a hd ha => hd.trans (.sameNodes ha (a.sameNodes_settingsChanged change)))
      (fun d id r keys _ hd => hd.trans (.of_samePlaces (samePlaces_withChanges d id _))) ?_
    exact .of_regions (fun _ => rfl) rfl
  · exact .refl c

theorem access (hc : c.Grown) (y : Access) : KeepsEnded c (c.access y) := by
  cases y with
  | operate op => exact .of_step hc (hc.step op)
  | edit e => exact .edit c e
  | watch => exact .of_regions (fun _ => rfl) rfl
  | pause id =>
      exact .of_samePlaces (samePlaces_withRegion c id (fun _ => rfl) (fun _ => rfl) fun _ => rfl)
  | resume id =>
      exact resume_induction (P := KeepsEnded c)
        (fun d id changes hd => hd.trans (.of_samePlaces (samePlaces_withChanges d id changes)))
        (.refl c) id
  | focus id target =>
      rcases focus_cases c id target with heq | ⟨t, heq⟩ <;> rw [Contexts.access, heq]
      · exact .refl c
      · exact .of_regions (arena?_withFocus c t target) rfl
  | arrange => exact .of_regions (fun _ => rfl) rfl
  | read q =>
      exact read_induction (P := KeepsEnded c)
        (fun d t context keys hd => hd.trans (.noteLookups d t context keys)) (.refl c) q

theorem accessed (hc : c.Grown) (ys : List Access) : KeepsEnded c (c.accessed ys) := by
  induction ys generalizing c with
  | nil => exact .refl c
  | cons y ys ih => exact (KeepsEnded.access hc y).trans (ih (hc.access y))

end KeepsEnded

theorem vacated_accessed (settings : Settings) (elements : Elements) (ys : List Access) :
    ((start settings elements).accessed ys).Vacated := by
  refine (KeepsEnded.accessed (grown_start settings elements) ys).vacated ?_
  intro id t x a hsite
  cases hsite

/-! ### What is still seen -/

/-- The values left in the context of a region that has ended: those of the root, if the region was
there. -/
def remains (c : Contexts) (r : Region) : String → Option Json :=
  if r.context = Arena.root then c.valuesAt r.tree (some Arena.root) else fun _ => none

/-- The values seen through a region that has ended: those at the target, else those at the element
with the focus, else what remains. -/
def remainsAt (c : Contexts) (r : Region) (target : Option ElementId) : String → Option Json :=
  match target <|> (c.trees.lookup r.tree).bind (·.focused) with
  | some e => c.valuesAt r.tree (c.elements.contextOf (some e))
  | none => c.remains r

section Ended

variable (hc : c.Vacated) (hr : c.region? id = some r) (hended : c.isDisposed id = true)

include hc hr hended

theorem valuesAt_of_ended : c.valuesAt r.tree (some r.context) = c.remains r := by
  rw [remains]
  split
  · next hroot => rw [hroot]
  · next hroot =>
      funext key
      unfold valuesAt
      cases ha : c.arena? r.tree with
      | none => rfl
      | some a => exact Arena.get?_of_absent (hc (site?_of_region? hr) hended hroot ha) _ key

theorem valuesFor_of_ended (target : Option ElementId) :
    c.valuesAt r.tree (c.contextFor r target) = c.remainsAt r target := by
  rw [contextFor, remainsAt]
  cases target <|> (c.trees.lookup r.tree).bind (·.focused) with
  | some e => rfl
  | none => exact valuesAt_of_ended hc hr hended

theorem overlay_matchRules_of_ended {o : Overlay} (ho : o.region = id) (rules : Option Clause) :
    o.matchRules c rules =
      rules.all fun clause => clause.evaluate (o.through (c.remains r)) := by
  subst ho
  cases rules with
  | none => rfl
  | some clause =>
      unfold Overlay.matchRules
      rw [hr]
      exact congrArg (fun below => clause.evaluate (o.through below))
        (valuesAt_of_ended hc hr hended)

theorem overlay_matchText_of_ended {o : Overlay} (ho : o.region = id) {text : String}
    {clause : Clause} (htext : Clause.ofText text = .ok (some clause))
    (target : Option ElementId) : o.matchText c text target =
      .ok (clause.evaluate (o.through (c.remainsAt r target))) := by
  subst ho
  rw [Overlay.matchText, htext, hr]
  exact congrArg (fun below => Except.ok (clause.evaluate (o.through below)))
    (valuesFor_of_ended hc hr hended target)

end Ended

theorem exists_region_of_site? (h : c.site? id = some (r.tree, r.context)) :
    ∃ r', c.region? id = some r' ∧ c.remains r' = c.remains r ∧
      c.remainsAt r' = c.remainsAt r := by
  obtain ⟨r', hr', hsite⟩ := Option.map_eq_some_iff.mp h
  obtain ⟨htree, hcontext⟩ := Prod.mk.inj hsite
  have hremains : c.remains r' = c.remains r := by rw [remains, remains, htree, hcontext]
  refine ⟨r', hr', hremains, funext fun target => ?_⟩
  rw [remainsAt, remainsAt, htree, hremains]

/-- Whatever is done after a region was ended, it answers no clause, wherever it is asked. An
overlay on it evaluates a clause with what is still seen, so it answers that the clause does not
hold exactly if it does not hold there, and that no clause at all holds always. -/
theorem ended_answers (settings : Settings) (elements : Elements) (before after : List Access)
    (id : RegionId) (r : Region)
    (hr : ((start settings elements).accessed before).region? id = some r) :
    let d := (start settings elements).accessed (before ++ .operate (.dispose id) :: after)
    (∀ rules, d.matchRules id rules = false) ∧
    (∀ text clause target, Clause.ofText text = .ok (some clause) →
      d.matchText id text target = .ok false) ∧
    ∀ o : Overlay, o.region = id →
      (∀ rules, o.matchRules d rules = false ↔
        ∃ clause, rules = some clause ∧ clause.evaluate (o.through (d.remains r)) = false) ∧
      ∀ text clause target, Clause.ofText text = .ok (some clause) →
        (o.matchText d text target = .ok false ↔
          clause.evaluate (o.through (d.remainsAt r target)) = false) := by
  intro d
  have hgrown := (grown_start settings elements).accessed before
  have hd : d = (((start settings elements).accessed before).dispose id).accessed after := by
    simp only [d, accessed, List.foldl_append, List.foldl_cons]
    rfl
  have hvacated : d.Vacated := vacated_accessed settings elements _
  have hsite := site?_of_step hgrown (hgrown.step_dispose id) (site?_of_region? hr)
  obtain ⟨hsite, hended⟩ := (KeepsEnded.accessed (hgrown.of_step (hgrown.step_dispose id))
    after).ended hsite (isDisposed_dispose _ id)
  rw [← hd] at hsite hended
  obtain ⟨r', hr', hremains, hremainsAt⟩ := exists_region_of_site? hsite
  refine ⟨matchRules_of_disposed hended, fun text clause target htext => ?_, fun o ho => ⟨?_, ?_⟩⟩
  · rw [matchText_of_disposed hended, htext]
    rfl
  · intro rules
    rw [overlay_matchRules_of_ended hvacated hr' hended ho, hremains]
    cases rules <;> simp
  · intro text clause target htext
    rw [overlay_matchText_of_ended hvacated hr' hended ho htext, hremainsAt]
    exact ⟨Except.ok.inj, congrArg Except.ok⟩

/-- Of a region below the root nothing is left to see for an overlay. -/
theorem ended_answers_below :
    let d := (start {} {}).accessed ([.operate (.newRoot false), .operate (.createScoped 0 0),
      .operate (.set 1 "open" (.bool true))] ++ .operate (.dispose 1) :: [])
    d.matchRules 1 (some (.defined "open")) = false ∧
      Overlay.matchRules ⟨1, [[("idle", .bool true)]]⟩ d (some (.defined "open")) = false := by
  have hended := ended_answers {} {} [.operate (.newRoot false), .operate (.createScoped 0 0),
    .operate (.set 1 "open" (.bool true))] [] 1 _ rfl
  refine ⟨hended.1 _, ((hended.2.2 _ rfl).1 _).mpr ⟨_, rfl, ?_⟩⟩
  decide

/-- An overlay is put on a root, and the root ends. Asked itself it answers no clause. The overlay
still answers by the values that the context of the root has. -/
theorem overlay_outlives_root :
    let c := (start {} {}).accessed [.operate (.newRoot false),
      .operate (.set 0 "open" (.bool true))]
    let d := c.accessed [.operate (.dispose 0)]
    let o : Overlay := ⟨0, [[("idle", .bool true)]]⟩
    Overlay.on c 0 [("idle", .bool true)] = .ok o ∧ d.isDisposed 0 = true ∧
      d.matchRules 0 none = false ∧ d.matchText 0 "open" none = .ok false ∧
      o.matchRules d none = true ∧ o.matchText d "open" none = .ok true := by
  have hlex : Clause.lex "open".toList = .ok [(0, .word ['o', 'p', 'e', 'n'])] := by decide +kernel
  have htext : Clause.ofText "open" = .ok (some (.defined "open")) := by
    rw [Clause.ofText, hlex]
    rfl
  refine ⟨rfl, rfl, rfl, ?_, rfl, ?_⟩
  · rw [matchText, htext]
    rfl
  · rw [Overlay.matchText, htext]
    rfl

end Contexts

end Shortcuts
