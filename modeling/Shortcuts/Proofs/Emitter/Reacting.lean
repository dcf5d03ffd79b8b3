import Shortcuts.Emitter.Reaction
import Shortcuts.Proofs.Emitter.Snapshot
import Shortcuts.Proofs.Fields
import Shortcuts.Proofs.Run

/-!
Scenes whose listeners react. Where nested deliveries come to an end, a delivery in a scene is one
during which listeners act on the emitter, and the log says who was called.
-/

namespace Shortcuts

namespace Scene

variable {x y : Scene} {l : NamedListener} {event : String}

/-! ### What a listener does, step by step -/

def hear (l : NamedListener) (event : String) (x : Scene) : Scene :=
  { x with log := x.log ++ [(l.name, event)] }

def enroll (l : NamedListener) (x : Scene) : Scene :=
  match l.reaction.subscribe with
  | some name => if (x.tokens.lookup name).isSome then x else x.subscribe { name }
  | none => x

def dismiss (l : NamedListener) (x : Scene) : Scene :=
  match l.reaction.unsubscribe with
  | some name => x.unsubscribe name
  | none => x

def rest (l : NamedListener) (x : Scene) : Scene :=
  if l.reaction.pause && !x.pausing.isPaused then x.pause else x

theorem react_succ (fuel : Nat) (event : String) (l : NamedListener) (x : Scene) :
    react (fuel + 1) event l x =
      (match l.reaction.fire with
      | some value =>
        if value = event then ((x.hear l event).enroll l).dismiss l
        else fireWith fuel value (((x.hear l event).enroll l).dismiss l)
      | none => ((x.hear l event).enroll l).dismiss l).rest l := by
  rw [react]
  rfl

theorem subscribe_of_new (h : x.tokens.lookup l.name = none) : x.subscribe l = { x with
    pausing := (x.pausing.subscribe l).1
    tokens := (l.name, x.pausing.emitter.next) :: x.tokens.filter (·.1 ≠ l.name) } := by
  simp only [subscribe, h]
  rfl

/-! ### Deliveries that end -/

/-- Fires an event, with a way to deliver it that may not come to an end. -/
def fireBy? (deliver? : String → Scene → Option Scene) (event : String) (x : Scene) :
    Option Scene :=
  let (p, events) := x.pausing.offer event
  events.foldlM (fun x event => deliver? event x) { x with pausing := p }

def reactBy? (deliver? : String → Scene → Option Scene) (event : String) (l : NamedListener)
    (x : Scene) : Option Scene :=
  (match l.reaction.fire with
  | some value =>
    if value = event then some (((x.hear l event).enroll l).dismiss l)
    else fireBy? deliver? value (((x.hear l event).enroll l).dismiss l)
  | none => some (((x.hear l event).enroll l).dismiss l)).map (rest l)

/-- Delivers an event, if not too many deliveries are nested in one another. -/
def deliver? : Nat → String → Scene → Option Scene
  | 0, _, _ => none
  | depth + 1, event, x =>
    x.pausing.emitter.listeners.foldlM (fun x l => reactBy? (deliver? depth) event l.2 x) x

theorem foldl_of_foldlM {σ α : Type} {f? : σ → α → Option σ} {f : σ → α → σ} {as : List α}
    (h : ∀ s, ∀ a ∈ as, ∀ t, f? s a = some t → f s a = t) {s t : σ}
    (hst : as.foldlM f? s = some t) : as.foldl f s = t := by
  induction as generalizing s with
  | nil => exact Option.some.inj hst
  | cons a as ih =>
      obtain ⟨u, hu, hut⟩ := Option.bind_eq_some_iff.mp hst
      rw [List.foldl_cons, h s a (.head _) u hu]
      exact ih (fun s b hb => h s b (.tail _ hb)) hut

/-- A delivery that ends is what any fuel gives that is enough for its depth. -/
theorem deliver_of_deliver? {depth fuel : Nat} (h : deliver? depth event x = some y)
    (hfuel : 3 * depth ≤ fuel) : deliver fuel event x = y := by
  induction depth generalizing event x y fuel with
  | zero => cases h
  | succ depth ih =>
      obtain ⟨fuel, rfl⟩ : ∃ n, fuel = n + 3 := ⟨fuel - 3, by omega⟩
      rw [deliver]
      refine foldl_of_foldlM (fun x l _ y hxy => ?_) h
      obtain ⟨z, hz, rfl⟩ := Option.map_eq_some_iff.mp hxy
      rw [react_succ]
      refine congrArg (rest l.2) ?_
      generalize ((x.hear l.2 event).enroll l.2).dismiss l.2 = w at hz
      generalize l.2.reaction.fire = reply at hz ⊢
      cases reply with
      | none => exact Option.some.inj hz
      | some value =>
          dsimp only at hz ⊢
          split at hz
          · next hvalue => exact (if_pos hvalue).trans (Option.some.inj hz)
          · next hvalue =>
              rw [if_neg hvalue, fireWith]
              have hfuel : 3 * depth ≤ fuel := by omega
              exact foldl_of_foldlM (fun x e _ y hxy => ih hxy hfuel) hz

/-! ### Numbers that were given -/

/-- The subscriptions that are kept under names are among those that were ever made. -/
structure Sound (x : Scene) : Prop where
  numbered : x.pausing.emitter.IsNumbered
  given : ∀ e ∈ x.tokens, e.2 < x.pausing.emitter.next

namespace Sound

theorem start (kind : SceneKind) : ({ kind } : Scene).Sound where
  numbered := .new
  given := nofun

theorem mono (hx : x.Sound) (hemitter : y.pausing.emitter = x.pausing.emitter)
    (htokens : y.tokens = x.tokens) : y.Sound where
  numbered := hemitter ▸ hx.numbered
  given := by
    rw [htokens, hemitter]
    exact hx.given

theorem subscribe (hx : x.Sound) (l : NamedListener) : (x.subscribe l).Sound := by
  have hgiven : ∀ e ∈ (l.name, x.pausing.emitter.next) :: x.tokens.filter (·.1 ≠ l.name),
      e.2 < x.pausing.emitter.next + 1 := by
    intro e he
    rcases List.mem_cons.mp he with rfl | he
    · exact Nat.lt_succ_self _
    · exact Nat.lt_succ_of_lt (hx.given e (List.mem_of_mem_filter he))
  have hnumbered := hx.numbered.subscribe l
  cases hold : x.tokens.lookup l.name with
  | none =>
      rw [subscribe_of_new hold]
      exact ⟨hnumbered, hgiven⟩
  | some old =>
      simp only [Scene.subscribe, hold]
      exact ⟨hnumbered.unsubscribe old, hgiven⟩

theorem unsubscribe (hx : x.Sound) (name : String) : (x.unsubscribe name).Sound := by
  rw [Scene.unsubscribe]
  split
  · exact ⟨hx.numbered.unsubscribe _, fun e he => hx.given e (List.mem_of_mem_filter he)⟩
  · exact hx

theorem pause (hx : x.Sound) : x.pause.Sound := by
  rw [Scene.pause]
  split
  · exact hx
  · exact hx.mono rfl rfl

theorem enroll (hx : x.Sound) (l : NamedListener) : (x.enroll l).Sound := by
  rw [Scene.enroll]
  split
  · split
    · exact hx
    · exact hx.subscribe _
  · exact hx

theorem dismiss (hx : x.Sound) (l : NamedListener) : (x.dismiss l).Sound := by
  rw [Scene.dismiss]
  split
  · exact hx.unsubscribe _
  · exact hx

theorem rest (hx : x.Sound) (l : NamedListener) : (x.rest l).Sound := by
  rw [Scene.rest]
  split
  · exact hx.pause
  · exact hx

theorem told (hx : x.Sound) (l : NamedListener) (event : String) :
    (((x.hear l event).enroll l).dismiss l).Sound :=
  ((hx.mono (y := x.hear l event) rfl rfl).enroll l).dismiss l

theorem delivery (fuel : Nat) :
    (∀ event {x : Scene}, x.Sound → (deliver fuel event x).Sound) ∧
      (∀ event l {x : Scene}, x.Sound → (react fuel event l x).Sound) ∧
        ∀ event {x : Scene}, x.Sound → (fireWith fuel event x).Sound := by
  induction fuel with
  | zero =>
      refine ⟨fun _ x hx => ?_, fun _ _ x hx => ?_, fun _ x hx => ?_⟩
      · rw [deliver]
        exact hx
      · rw [react]
        exact hx
      · rw [fireWith]
        exact hx
  | succ fuel ih =>
      obtain ⟨hdeliver, hreact, hfire⟩ := ih
      refine ⟨fun event x hx => ?_, fun event l x hx => ?_, fun event x hx => ?_⟩
      · rw [deliver]
        exact kept_foldl Sound (fun x l hx => hreact event l.2 hx) hx _
      · rw [react_succ]
        have htold := hx.told l event
        apply rest
        split
        · split
          · exact htold
          · exact hfire _ htold
        · exact htold
      · rw [fireWith]
        exact kept_foldl Sound (fun x event hx => hdeliver event hx)
          (hx.mono (y := { x with pausing := _ }) (x.pausing.emitter_offer event) rfl) _

theorem fire (hx : x.Sound) (event : String) : (x.fire event).Sound := (delivery _).2.2 event hx

theorem resume (hx : x.Sound) : x.resume.Sound := by
  rw [Scene.resume]
  split
  · exact hx
  · exact kept_foldl Sound (fun x event hx => (delivery _).1 event hx)
      (hx.mono (y := { x with pausing := _ }) (x.pausing.emitter_resume _) rfl) _

end Sound

/-- Scenes as they come to be. -/
inductive Played : Scene → Prop
  | start (kind : SceneKind) : Played { kind }
  | subscribe {x : Scene} (h : Played x) (l : NamedListener) : Played (x.subscribe l)
  | unsubscribe {x : Scene} (h : Played x) (name : String) : Played (x.unsubscribe name)
  | fire {x : Scene} (h : Played x) (event : String) : Played (x.fire event)
  | pause {x : Scene} (h : Played x) : Played x.pause
  | resume {x : Scene} (h : Played x) : Played x.resume
  | clearLog {x : Scene} (h : Played x) : Played { x with log := [] }

theorem Played.sound (h : Played x) : x.Sound := by
  induction h with
  | start kind => exact .start kind
  | subscribe _ l ih => exact ih.subscribe l
  | unsubscribe _ name ih => exact ih.unsubscribe name
  | fire _ event ih => exact ih.fire event
  | pause _ ih => exact ih.pause
  | resume _ ih => exact ih.resume
  | clearLog _ ih => exact ih.mono rfl rfl

/-! ### Deliveries as runs -/

open Course (Runs Fires Snapshot)

/-- What calls put into the log. -/
def logged (ds : List (Deed NamedListener String)) : List (String × String) :=
  ds.filterMap fun
    | .called _ l event => some (l.2.name, event)
    | _ => none

theorem logged_append (ds es : List (Deed NamedListener String)) :
    logged (ds ++ es) = logged ds ++ logged es := List.filterMap_append

/-- A scene is in the state of a run since its log was a given one. -/
structure Follows (before : List (String × String)) (s : Course NamedListener String)
    (x : Scene) : Prop extends Sound x where
  emitter : s.emitter = x.pausing.emitter
  log : x.log = before ++ logged s.deeds

namespace Follows

variable {before : List (String × String)} {s t : Course NamedListener String}

theorem hear (h : Follows before s x) (fire : Nat) (l : Nat × NamedListener) (event : String) :
    Follows before (s.call fire l event) (x.hear l.2 event) where
  toSound := h.toSound.mono rfl rfl
  emitter := h.emitter
  log := by
    rw [Scene.hear, h.log, Course.call, logged_append, ← List.append_assoc]
    rfl

theorem enroll (h : Follows before s x) (l : NamedListener) :
    ∃ t, Runs .acts s t ∧ Follows before t (x.enroll l) := by
  rw [Scene.enroll]
  split
  · next name _ =>
      split
      · exact ⟨s, .done s, h⟩
      · next hnew =>
          have hlookup := Option.not_isSome_iff_eq_none.mp hnew
          refine ⟨s.subscribe { name }, .subscribe _ (.done _), h.toSound.subscribe _, ?_, ?_⟩
          · rw [subscribe_of_new hlookup, Course.subscribe, h.emitter]
            rfl
          · rw [subscribe_of_new hlookup, Course.subscribe, logged_append, h.log]
            simp [logged]
  · exact ⟨s, .done s, h⟩

theorem dismiss (h : Follows before s x) (l : NamedListener) :
    ∃ t, Runs .acts s t ∧ Follows before t (x.dismiss l) := by
  rw [Scene.dismiss]
  split
  · next name _ =>
      have hsound := h.toSound.unsubscribe name
      rw [Scene.unsubscribe] at hsound ⊢
      split at hsound
      · next token htoken =>
          have hgiven : token < s.emitter.next :=
            h.emitter ▸ h.given _ (Fields.mem_of_lookup htoken)
          refine ⟨s.unsubscribe token, .unsubscribe hgiven (.done _), hsound, ?_, ?_⟩
          · rw [Course.unsubscribe, h.emitter]
            rfl
          · rw [Course.unsubscribe, logged_append, h.log]
            simp [logged]
      · exact ⟨s, .done s, h⟩
  · exact ⟨s, .done s, h⟩

theorem rest (h : Follows before s x) (l : NamedListener) : Follows before s (x.rest l) where
  toSound := h.toSound.rest l
  emitter := by
    rw [h.emitter, Scene.rest]
    split
    · rw [Scene.pause]
      split <;> rfl
    · rfl
  log := by
    rw [← h.log, Scene.rest]
    split
    · rw [Scene.pause]
      split <;> rfl
    · rfl

/-- Where a nested delivery ends in a run, so does what a listener does that fires an event. -/
theorem reactBy? {deliver? : String → Scene → Option Scene}
    (hdeliver : ∀ event x y s, deliver? event x = some y → Follows before s x →
      ∃ t, Fires event s t ∧ Follows before t y)
    (h : Follows before s x) (fire : Nat) (l : Nat × NamedListener)
    (hxy : Scene.reactBy? deliver? event l.2 x = some y) :
    ∃ t, Runs .acts (s.call fire l event) t ∧ Follows before t y := by
  obtain ⟨t, hst, ht⟩ := (h.hear fire l event).enroll l.2
  obtain ⟨u, htu, hu⟩ := ht.dismiss l.2
  obtain ⟨z, hz, rfl⟩ := Option.map_eq_some_iff.mp hxy
  suffices hlast : ∃ v, Runs .acts u v ∧ Follows before v z by
    obtain ⟨v, huv, hv⟩ := hlast
    exact ⟨v, (hst.then htu).then huv, hv.rest l.2⟩
  generalize ((x.hear l.2 event).enroll l.2).dismiss l.2 = w at hz hu
  have hsame (hwz : some w = some z) : ∃ v, Runs .acts u v ∧ Follows before v z :=
    ⟨u, .done u, Option.some.inj hwz ▸ hu⟩
  generalize l.2.reaction.fire = reply at hz
  cases reply with
  | none => exact hsame hz
  | some value =>
      dsimp only at hz
      split at hz
      · exact hsame hz
      · rw [fireBy?] at hz
        cases hpaused : w.pausing.isPaused with
        | true =>
            rw [Pausing.offer_of_paused hpaused] at hz
            cases hz
            exact ⟨u, .done u, hu.toSound.mono rfl rfl, hu.emitter, hu.log⟩
        | false =>
            rw [Pausing.offer_of_not_paused hpaused] at hz
            obtain ⟨z', hz', heq⟩ := Option.bind_eq_some_iff.mp hz
            cases heq
            obtain ⟨v, hfires, hv⟩ := hdeliver value w z u hz' hu
            exact ⟨v, .fire hfires (.done v), hv⟩

theorem deliver? {depth : Nat} (hxy : Scene.deliver? depth event x = some y)
    (h : Follows before s x) : ∃ t, Fires event s t ∧ Follows before t y := by
  induction depth generalizing event x y s with
  | zero => cases hxy
  | succ depth ih =>
      suffices hcalls : ∀ fire (listeners : List (Nat × NamedListener)) {x y s},
          listeners.foldlM (fun x l => Scene.reactBy? (Scene.deliver? depth) event l.2 x) x = some y →
            Follows before s x →
              ∃ t, Runs (.calls fire event listeners) s t ∧ Follows before t y by
        rw [Scene.deliver?, ← h.emitter] at hxy
        exact hcalls s.fires _ hxy { h with }
      intro fire listeners
      induction listeners with
      | nil =>
          intro x y s hxy h
          cases hxy
          exact ⟨s, .finished s, h⟩
      | cons l listeners ihl =>
          intro x y s hxy h
          obtain ⟨z, hz, hzy⟩ := Option.bind_eq_some_iff.mp hxy
          obtain ⟨t, hacts, ht⟩ := h.reactBy? (fun _ _ _ _ hxy h => ih hxy h) fire l hz
          obtain ⟨u, hcalls, hu⟩ := ihl hzy ht
          exact ⟨u, .call hacts hcalls, hu⟩

end Follows

/-- A fire calls the listeners it found, each once and in their order, whatever they do to the
emitter meanwhile, and to any depth. Those who come are not called for it, and those who go are the
ones whose subscriptions were ended. So it is with each delivery to listeners that do no other
things to the emitter, and with scenes wherever nested deliveries come to an end. -/
theorem fires_are_snapshots :
    (∀ {L E : Type} {event : E} {s t : Course L E}, s.emitter.IsNumbered → Fires event s t →
      ∃ ds, Snapshot event s t ds) ∧
    (∀ {L E : Type} {s : Course L E}, Runs .acts {} s → s.emitter.IsNumbered) ∧
    (∀ {L E σ : Type} {emitter : σ → Emitter L} {tell : L → σ → σ},
      (∀ l x (s : Course L E), s.emitter = emitter x →
        ∃ t, Runs .acts s t ∧ t.emitter = emitter (tell l x)) →
      ∀ x event (s : Course L E), s.emitter = emitter x →
        ∃ t, Fires event s t ∧ t.emitter = emitter ((emitter x).deliver tell x)) ∧
    ∀ {x y : Scene} {depth : Nat} {event : String}, x.Played → deliver? depth event x = some y →
      (∀ fuel, 3 * depth ≤ fuel → deliver fuel event x = y) ∧
      (x.pausing.isPaused = false → 3 * depth < x.fuel → x.fire event = y) ∧
      ∃ t ds, Snapshot event { emitter := x.pausing.emitter } t ds ∧
        t.emitter = y.pausing.emitter ∧ y.log = x.log ++ logged ds := by
  refine ⟨fun hs h => h.snapshot hs, fun h => h.numbered .new,
    fun htell x event s hs => Course.fires_deliver htell event hs, ?_⟩
  intro x y depth event hx hxy
  have hdeliver (fuel : Nat) (hfuel : 3 * depth ≤ fuel) : deliver fuel event x = y :=
    deliver_of_deliver? hxy hfuel
  refine ⟨hdeliver, fun hidle hfuel => ?_, ?_⟩
  · obtain ⟨fuel, hn⟩ := Nat.exists_eq_succ_of_ne_zero (Nat.ne_zero_of_lt hfuel)
    rw [fire, hn, fireWith, Pausing.offer_of_not_paused hidle]
    exact hdeliver fuel (by omega)
  · have hstart : Follows x.log { emitter := x.pausing.emitter } x :=
      ⟨hx.sound, rfl, (List.append_nil _).symm⟩
    obtain ⟨t, hfires, ht⟩ := hstart.deliver? hxy
    obtain ⟨ds, hds⟩ := hfires.snapshot hx.sound.numbered
    refine ⟨t, ds, hds, ht.emitter, ?_⟩
    rw [ht.log, hds.deeds]
    rfl

/-- A listener that subscribes another one, ends the subscription of a third one, and fires. -/
def busy : Scene := (Scene.subscribe { kind := .plain } { name := "a", reaction :=
  { subscribe := some "late", unsubscribe := some "b", fire := some "2" } }).subscribe { name := "b" }

/-- The one who came late is told of the nested event, and the one who has gone of the outer. -/
theorem fires_are_snapshots_busy : ∃ t ds,
    Snapshot "1" { emitter := busy.pausing.emitter } t ds ∧
      (busy.fire "1").log = [("a", "1"), ("a", "2"), ("late", "2"), ("b", "1")] ∧
      (busy.fire "1").log = busy.log ++ logged ds ∧
      t.emitter = (busy.fire "1").pausing.emitter := by
  have hplayed : busy.Played := ((Played.start .plain).subscribe _).subscribe _
  obtain ⟨y, hy⟩ : ∃ y, deliver? 2 "1" busy = some y := ⟨_, rfl⟩
  obtain ⟨-, hfire, t, ds, hds, ht, hlog⟩ := fires_are_snapshots.2.2.2 hplayed hy
  have heq : busy.fire "1" = y := hfire rfl (by decide)
  rw [heq]
  refine ⟨t, ds, hds, ?_, hlog, ht⟩
  rw [← heq]
  decide +kernel

end Scene

end Shortcuts
