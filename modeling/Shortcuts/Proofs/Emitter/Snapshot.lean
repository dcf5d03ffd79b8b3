import Shortcuts.Proofs.Emitter.Listeners

/-!
Deliveries during which listeners act on the emitter. A listener that is told of an event may
subscribe others, end subscriptions and fire events, which are delivered at once, and so on to any
depth. A run is an emitter, the number of fires so far, and all that was done, in order.
-/

namespace Shortcuts

/-- What is done while events are delivered. Every fire has a number of its own. -/
inductive Deed (L E : Type) where
  | called (fire : Nat) (l : Nat × L) (event : E)
  | subscribed (l : Nat × L)
  | unsubscribed (token : Nat)

namespace Deed

variable {L E : Type}

def call? (fire : Nat) : Deed L E → Option ((Nat × L) × E)
  | .called n l event => if n = fire then some (l, event) else none
  | _ => none

def subscribed? : Deed L E → Option (Nat × L)
  | .subscribed l => some l
  | _ => none

def unsubscribed? : Deed L E → Option Nat
  | .unsubscribed token => some token
  | _ => none

/-- Who was called, and for which event, by the fire with a number. -/
def calls (fire : Nat) (deeds : List (Deed L E)) : List ((Nat × L) × E) :=
  deeds.filterMap (call? fire)

def newcomers (deeds : List (Deed L E)) : List (Nat × L) := deeds.filterMap subscribed?

def dropped (deeds : List (Deed L E)) : List Nat := deeds.filterMap unsubscribed?

theorem calls_append (fire : Nat) (ds es : List (Deed L E)) :
    calls fire (ds ++ es) = calls fire ds ++ calls fire es := List.filterMap_append

theorem newcomers_append (ds es : List (Deed L E)) :
    newcomers (ds ++ es) = newcomers ds ++ newcomers es := List.filterMap_append

theorem dropped_append (ds es : List (Deed L E)) : dropped (ds ++ es) = dropped ds ++ dropped es :=
  List.filterMap_append

end Deed

structure Course (L E : Type) where
  emitter : Emitter L := {}
  fires : Nat := 0
  deeds : List (Deed L E) := []

namespace Course

variable {L E : Type}

def subscribe (s : Course L E) (l : L) : Course L E :=
  { s with
    emitter := (s.emitter.subscribe l).1
    deeds := s.deeds ++ [.subscribed (s.emitter.next, l)] }

def unsubscribe (s : Course L E) (token : Nat) : Course L E :=
  { s with emitter := s.emitter.unsubscribe token, deeds := s.deeds ++ [.unsubscribed token] }

def call (s : Course L E) (fire : Nat) (l : Nat × L) (event : E) : Course L E :=
  { s with deeds := s.deeds ++ [.called fire l event] }

def started (s : Course L E) : Course L E := { s with fires := s.fires + 1 }

/-- A part of a run: what one listener does when it is told, or the calls that a fire has still to
make. -/
inductive Part (L E : Type) where
  | acts
  | calls (fire : Nat) (event : E) (listeners : List (Nat × L))

/-- A part of a run goes from one state to another. It comes to an end, as the derivation is
finite. -/
inductive Runs : Part L E → Course L E → Course L E → Prop
  | done (s : Course L E) : Runs .acts s s
  | subscribe {s t : Course L E} (l : L) (h : Runs .acts (s.subscribe l) t) : Runs .acts s t
  /-- Only a number that was given can be given back. -/
  | unsubscribe {s t : Course L E} {token : Nat} (hgiven : token < s.emitter.next)
      (h : Runs .acts (s.unsubscribe token) t) : Runs .acts s t
  | fire {s t u : Course L E} {event : E}
      (hcalls : Runs (.calls s.fires event s.emitter.listeners) s.started t)
      (h : Runs .acts t u) : Runs .acts s u
  | finished {fire : Nat} {event : E} (s : Course L E) : Runs (.calls fire event []) s s
  | call {s t u : Course L E} {fire : Nat} {event : E} {l : Nat × L} {listeners : List (Nat × L)}
      (hacts : Runs .acts (s.call fire l event) t) (h : Runs (.calls fire event listeners) t u) :
      Runs (.calls fire event (l :: listeners)) s u

/-- An event is delivered to the listeners of this moment. -/
def Fires (event : E) (s t : Course L E) : Prop :=
  Runs (.calls s.fires event s.emitter.listeners) s.started t

variable {s t u : Course L E} {ds es : List (Deed L E)}

theorem Runs.then (h : Runs .acts s t) (h' : Runs .acts t u) : Runs .acts s u := by
  generalize hpart : (Part.acts : Part L E) = part at h
  induction h with
  | done => exact h'
  | subscribe l _ ih => exact .subscribe l (ih h' hpart)
  | unsubscribe hgiven _ ih => exact .unsubscribe hgiven (ih h' hpart)
  | fire hcalls _ _ ih => exact .fire hcalls (ih h' hpart)
  | finished | call => cases hpart

/-! ### What a part of a run leaves -/

/-- The calls of the fire with a number that belong to a part of a run. -/
def Part.callsOf (fire : Nat) : Part L E → List ((Nat × L) × E)
  | .acts => []
  | .calls n event listeners => if n = fire then listeners.map fun l => (l, event) else []

/-- What was done in between accounts for the new state. New listeners get the next numbers one
after the other. -/
structure Records (s : Course L E) (ds : List (Deed L E)) (t : Course L E) : Prop where
  deeds : t.deeds = s.deeds ++ ds
  fires : s.fires ≤ t.fires
  next : t.emitter.next = s.emitter.next + (Deed.newcomers ds).length
  tokens : (Deed.newcomers ds).map Prod.fst =
    List.range' s.emitter.next (Deed.newcomers ds).length
  given : ∀ token ∈ Deed.dropped ds, token < t.emitter.next
  listeners : t.emitter.listeners =
    (s.emitter.listeners ++ Deed.newcomers ds).filter fun l => l.1 ∉ Deed.dropped ds
  numbered : s.emitter.IsNumbered → t.emitter.IsNumbered

namespace Records

theorem refl (s : Course L E) : Records s [] s where
  deeds := (List.append_nil _).symm
  fires := Nat.le_refl _
  next := rfl
  tokens := rfl
  given _ h := nomatch h
  listeners := by simp [Deed.newcomers, Deed.dropped]
  numbered := id

theorem trans (h : Records s ds t) (h' : Records t es u) : Records s (ds ++ es) u where
  deeds := by rw [h'.deeds, h.deeds, List.append_assoc]
  fires := Nat.le_trans h.fires h'.fires
  next := by rw [h'.next, h.next, Deed.newcomers_append, List.length_append, Nat.add_assoc]
  tokens := by
    rw [Deed.newcomers_append, List.map_append, h.tokens, h'.tokens, h.next, List.range'_append_1,
      List.length_append]
  given token htoken := by
    rw [Deed.dropped_append, List.mem_append] at htoken
    rcases htoken with htoken | htoken
    · have := h.given token htoken
      have := h'.next
      omega
    · exact h'.given token htoken
  listeners := by
    -- a number that was given back before is none of those that were given later
    have hlater : (Deed.newcomers es).filter (fun l => l.1 ∉ Deed.dropped ds) =
        Deed.newcomers es := by
      apply List.filter_eq_self.mpr
      intro l hl
      have hmem : l.1 ∈ List.range' t.emitter.next (Deed.newcomers es).length :=
        h'.tokens ▸ List.mem_map_of_mem hl
      have hge := (List.mem_range'_1.mp hmem).1
      refine decide_eq_true fun hdropped => ?_
      have := h.given l.1 hdropped
      omega
    have hboth : (fun l : Nat × L => decide (l.1 ∉ Deed.dropped (ds ++ es))) =
        fun l => decide (l.1 ∉ Deed.dropped es) && decide (l.1 ∉ Deed.dropped ds) := by
      funext l
      simp [Deed.dropped_append, Bool.and_comm]
    rw [h'.listeners, h.listeners, hboth, ← List.filter_filter, Deed.newcomers_append,
      ← List.append_assoc, List.filter_append (s.emitter.listeners ++ Deed.newcomers ds), hlater]
  numbered hs := h'.numbered (h.numbered hs)

theorem call (s : Course L E) (fire : Nat) (l : Nat × L) (event : E) :
    Records s [.called fire l event] (s.call fire l event) :=
  { refl s with deeds := rfl }

theorem started (s : Course L E) : Records s [] s.started :=
  { refl s with fires := Nat.le_succ _ }

theorem subscribe (s : Course L E) (l : L) :
    Records s [.subscribed (s.emitter.next, l)] (s.subscribe l) where
  deeds := rfl
  fires := Nat.le_refl _
  next := rfl
  tokens := rfl
  given _ h := nomatch h
  listeners := by simp [Course.subscribe, Emitter.subscribe, Deed.newcomers, Deed.dropped,
    Deed.subscribed?, Deed.unsubscribed?]
  numbered hs := hs.subscribe l

theorem unsubscribe {token : Nat} (hgiven : token < s.emitter.next) :
    Records s [.unsubscribed token] (s.unsubscribe token) where
  deeds := rfl
  fires := Nat.le_refl _
  next := rfl
  tokens := rfl
  given t ht := by
    rw [List.mem_singleton.mp ht]
    exact hgiven
  listeners := by simp [Course.unsubscribe, Emitter.unsubscribe, Deed.newcomers, Deed.dropped,
    Deed.subscribed?, Deed.unsubscribed?]
  numbered hs := hs.unsubscribe token

end Records

/-- No fire that has begun before gets a call but from its own part of the run. -/
theorem Runs.records {part : Part L E} (h : Runs part s t) : ∃ ds, Records s ds t ∧
    ∀ n < s.fires, Deed.calls n ds = part.callsOf n := by
  induction h with
  | done s => exact ⟨[], .refl s, fun _ _ => rfl⟩
  | @subscribe s _ l _ ih =>
      obtain ⟨ds, hds, hcalls⟩ := ih
      exact ⟨_, (Records.subscribe s l).trans hds, hcalls⟩
  | unsubscribe hgiven _ ih =>
      obtain ⟨ds, hds, hcalls⟩ := ih
      exact ⟨_, (Records.unsubscribe hgiven).trans hds, hcalls⟩
  | @fire s t u event _ _ ihcalls ih =>
      obtain ⟨ds, hds, hcalls⟩ := ihcalls
      obtain ⟨es, hes, hrest⟩ := ih
      refine ⟨_, ((Records.started s).trans hds).trans hes, fun n hn => ?_⟩
      have hother : ¬ s.fires = n := Nat.ne_of_gt hn
      have hlater : n < s.started.fires := Nat.lt_succ_of_lt hn
      rw [List.nil_append, Deed.calls_append, hcalls n hlater,
        hrest n (Nat.lt_of_lt_of_le hlater hds.fires)]
      simp [Part.callsOf, hother]
  | finished s => exact ⟨[], .refl s, fun n _ => by simp [Deed.calls, Part.callsOf]⟩
  | @call s t u fire event l listeners _ _ ihacts ih =>
      obtain ⟨ds, hds, hacts⟩ := ihacts
      obtain ⟨es, hes, hcalls⟩ := ih
      refine ⟨_, ((Records.call s fire l event).trans hds).trans hes, fun n hn => ?_⟩
      rw [Deed.calls_append, Deed.calls_append, hacts n hn, hcalls n (Nat.lt_of_lt_of_le hn hds.fires),
        Part.callsOf, Part.callsOf]
      by_cases hfire : fire = n
      · simp [Deed.calls, Deed.call?, hfire, Part.callsOf]
      · simp [Deed.calls, Deed.call?, hfire, Part.callsOf]

/-! ### What one fire leaves -/

theorem Records.nodup (h : Records s ds t) (hs : s.emitter.IsNumbered) :
    ((s.emitter.listeners ++ Deed.newcomers ds).map Prod.fst).Nodup := by
  rw [List.map_append, h.tokens]
  refine List.nodup_append.mpr ⟨hs.nodup, List.nodup_range', fun n hn m hm heq => ?_⟩
  obtain ⟨l, hl, rfl⟩ := List.mem_map.mp hn
  have hlt : l.1 < s.emitter.next := hs.lt hl
  have hge := (List.mem_range'_1.mp hm).1
  omega

theorem Runs.numbered {part : Part L E} (h : Runs part s t) (hs : s.emitter.IsNumbered) :
    t.emitter.IsNumbered := by
  obtain ⟨ds, hds, -⟩ := h.records
  exact hds.numbered hs

/-- What a fire calls and leaves. The listeners it calls are those it found, each of them once, in
their order, whatever happens meanwhile. Listeners that go are those whose numbers were given back,
and no other one has such a number. -/
structure Snapshot (event : E) (s t : Course L E) (ds : List (Deed L E)) : Prop where
  deeds : t.deeds = s.deeds ++ ds
  calls : Deed.calls s.fires ds = s.emitter.listeners.map fun l => (l, event)
  once : ((Deed.calls s.fires ds).map fun c => c.1.1).Nodup
  listeners : t.emitter.listeners =
    (s.emitter.listeners ++ Deed.newcomers ds).filter fun l => l.1 ∉ Deed.dropped ds
  nodup : ((s.emitter.listeners ++ Deed.newcomers ds).map Prod.fst).Nodup
  uncalled : ∀ l ∈ Deed.newcomers ds, ∀ c ∈ Deed.calls s.fires ds, c.1.1 ≠ l.1
  numbered : t.emitter.IsNumbered

theorem Fires.snapshot {event : E} (h : Fires event s t) (hs : s.emitter.IsNumbered) :
    ∃ ds, Snapshot event s t ds := by
  obtain ⟨ds, hds, hcalls⟩ := h.records
  have hrecords : Records s ds t := (Records.started s).trans hds
  have hown : Deed.calls s.fires ds = s.emitter.listeners.map fun l => (l, event) :=
    (hcalls s.fires (Nat.lt_succ_self _)).trans (if_pos rfl)
  have htokens : (Deed.calls s.fires ds).map (fun c => c.1.1) = s.emitter.listeners.map Prod.fst := by
    rw [hown, List.map_map]
    rfl
  refine ⟨ds, hrecords.deeds, hown, htokens ▸ hs.nodup, hrecords.listeners, hrecords.nodup hs,
    fun l hl c hc heq => ?_, hrecords.numbered hs⟩
  have hdisjoint := hrecords.nodup hs
  rw [List.map_append] at hdisjoint
  refine (List.nodup_append.mp hdisjoint).2.2 c.1.1 ?_ l.1 (List.mem_map_of_mem hl) heq
  rw [← htokens]
  exact List.mem_map_of_mem hc

/-- A delivery is such a fire, if what it does to tell a listener can be done by a listener that is
told. -/
theorem fires_deliver {σ : Type} {emitter : σ → Emitter L} {tell : L → σ → σ}
    (htell : ∀ l x (s : Course L E), s.emitter = emitter x →
      ∃ t, Runs .acts s t ∧ t.emitter = emitter (tell l x)) {x : σ} (event : E)
    (hs : s.emitter = emitter x) :
    ∃ t, Fires event s t ∧ t.emitter = emitter ((emitter x).deliver tell x) := by
  suffices h : ∀ (listeners : List (Nat × L)) (x : σ) (t : Course L E), t.emitter = emitter x →
      ∃ u, Runs (.calls s.fires event listeners) t u ∧
        u.emitter = emitter (listeners.foldl (fun x l => tell l.2 x) x) by
    obtain ⟨t, hruns, ht⟩ := h (emitter x).listeners x s.started hs
    rw [← hs] at hruns
    exact ⟨t, hruns, ht⟩
  intro listeners
  induction listeners with
  | nil => exact fun x t ht => ⟨t, .finished t, ht⟩
  | cons l listeners ih =>
      intro x t ht
      obtain ⟨v, hacts, hv⟩ := htell l.2 x (t.call s.fires l event) ht
      obtain ⟨u, hcalls, hu⟩ := ih _ v hv
      exact ⟨u, .call hacts hcalls, hu⟩

end Course

end Shortcuts
