import Shortcuts.Proofs.Layout.Selecting

/-!
Which layout is found when the system names its own. Each candidate gets a point for every key that
types alone what the key of that layout does, and the one with most points is selected. Nothing that
was seen before counts for it: detections that have the same candidates come to the same scores and
the same layout, whatever each of them has gone through.
-/

namespace Shortcuts

/-- A key types something alone, and the layout types the same at its place. -/
def Layout.agreesOn (l : Layout) (k : String × KeyOutput) : Bool :=
  k.2.plain ≠ "" && l.character? k.1 .plain = some k.2.plain

def Layout.agreement (l : Layout) (n : NativeLayout) : Nat := n.keys.countP l.agreesOn

/-! ### Points for keys -/

namespace Scores

variable {s : Scores} {k : String × KeyOutput}

/-- Nothing was seen of what the key types alone. -/
def IsNewKey (s : Scores) (code : String) : Prop :=
  s.seen.lookup (code ++ "." ++ Level.plain.name) = none

/-- Takes in what a key types alone, if it types something. -/
def takeKey (s : Scores) (k : String × KeyOutput) : Scores :=
  match k.2.get? .plain with
  | some c => (s.observe { code := k.1, character := c }).1
  | none => s

theorem takeKey_of_silent (h : k.2.plain = "") : s.takeKey k = s := by
  have hnone : k.2.get? .plain = none := if_pos h
  rw [takeKey, hnone]

theorem takeKey_of_types (h : k.2.plain ≠ "") (hnew : s.IsNewKey k.1) :
    s.takeKey k = s.record { code := k.1, character := k.2.plain } := by
  have hsome : k.2.get? .plain = some k.2.plain := if_neg h
  rw [takeKey, hsome]
  exact congrArg Prod.fst (observe_of_not_noted (o := ⟨k.1, k.2.plain, false, false⟩) hnew)

theorem evidence_takeKey (hnew : s.IsNewKey k.1) (l : Layout) :
    (s.takeKey k).evidence l = s.evidence l + if l.agreesOn k then 1 else 0 := by
  by_cases h : k.2.plain = ""
  · simp [takeKey_of_silent h, Layout.agreesOn, h]
  · rw [takeKey_of_types h hnew, evidence_record (o := ⟨k.1, k.2.plain, false, false⟩) hnew]
    simp [Observation.isExplainedBy, Observation.level, Level.ofHeld, Layout.agreesOn, h]

/-- A key is noted under its own code only. -/
theorem isNewKey_takeKey {code : String} (hne : k.1 ≠ code) (hnew : s.IsNewKey k.1)
    (hcode : s.IsNewKey code) : (s.takeKey k).IsNewKey code := by
  by_cases h : k.2.plain = ""
  · rwa [takeKey_of_silent h]
  · rw [takeKey_of_types h hnew]
    refine (Fields.lookup_insert_of_ne (fun heq => ?_) _ _).trans hcode
    exact hne (Level.place_inj heq).1.symm

/-- Keys with codes of their own are all counted, since none of them contradicts another. -/
theorem evidence_takeKeys {keys : Fields KeyOutput} (hkeys : keys.IsSorted)
    (hnew : ∀ k ∈ keys, s.IsNewKey k.1) (l : Layout) :
    (keys.foldl takeKey s).evidence l = s.evidence l + keys.countP l.agreesOn := by
  induction keys generalizing s with
  | nil => rfl
  | cons k keys ih =>
      obtain ⟨hlt, hsorted⟩ := List.pairwise_cons.mp hkeys
      obtain ⟨hk, hrest⟩ := List.forall_mem_cons.mp hnew
      have hstill : ∀ k' ∈ keys, (s.takeKey k).IsNewKey k'.1 := fun k' hk' =>
        isNewKey_takeKey (Std.ne_of_lt (hlt k' hk')) hk (hrest k' hk')
      rw [List.foldl_cons, ih hsorted hstill, evidence_takeKey hk, List.countP_cons]
      omega

end Scores

namespace Detection

variable {d d' : Detection} {n : NativeLayout}

theorem scoreNative_eq_takeKeys (s : Scores) (n : NativeLayout) :
    scoreNative s n = n.keys.foldl Scores.takeKey (.ofLayouts s.candidates) := rfl

theorem evidence_scoreNative (hn : n.keys.IsSorted) (s : Scores) (l : Layout) :
    (scoreNative s n).evidence l = l.agreement n := by
  rw [scoreNative_eq_takeKeys,
    Scores.evidence_takeKeys (s := .ofLayouts s.candidates) hn (fun _ _ => rfl) l]
  exact Nat.zero_add _

/-- Only the candidates are left of earlier scores. -/
theorem scoreNative_congr {s s' : Scores} (h : s.candidates = s'.candidates) (n : NativeLayout) :
    scoreNative s n = scoreNative s' n := by
  rw [scoreNative_eq_takeKeys, scoreNative_eq_takeKeys, h]

theorem candidates_scoreNative (s : Scores) (n : NativeLayout) :
    (scoreNative s n).candidates = s.candidates := by
  obtain ⟨ops, hrun⟩ := scoreNative_eq_run s n
  rw [hrun, Scores.candidates_run]

theorem isSound_scoreNative {s : Scores} (h : s.candidates ≠ []) (n : NativeLayout) :
    (scoreNative s n).IsSound := by
  obtain ⟨ops, hrun⟩ := scoreNative_eq_run s n
  rw [hrun]
  exact (Scores.isSound_ofLayouts h).run ops

/-- All candidates are scored anew by the keys of a layout. -/
def scoredBy (d : Detection) (n : NativeLayout) : Detection :=
  { d with scores := scoreNative d.scores n }

theorem autodetect_of_native (hnative : d.native = some (.ok n)) :
    d.autodetect = (d.scoredBy n, (d.scoredBy n).select, .native) := by
  rw [autodetect]
  split
  · next n' hn' =>
      cases hnative.symm.trans hn'
      rfl
  · next hother => exact absurd hnative (hother n)

theorem refresh_of_native (hsource : d.source ≠ .choice) (hnative : d.native = some (.ok n)) :
    d.refresh = (d.scoredBy n).use (d.scoredBy n).select .native := by
  rw [refresh, if_neg hsource, autodetect_of_native hnative]

/-- The candidates that none agrees with a layout more than. -/
def closest (d : Detection) (n : NativeLayout) : List Layout :=
  d.candidates.filter fun l => d.candidates.all fun l' => l'.agreement n ≤ l.agreement n

theorem highest_scoredBy (hne : d.candidates ≠ []) (hn : n.keys.IsSorted)
    (hroom : (d.scoredBy n).scores.HasRoom) : (d.scoredBy n).scores.highest = d.closest n := by
  have htally := (isSound_scoreNative hne n).tally
  have hentries : (d.scoredBy n).scores.entries =
      d.candidates.map fun l => (l, l.agreement n) := by
    rw [scoredBy, htally.entries, candidates_scoreNative]
    refine List.map_congr_left fun l hl => ?_
    have hlt := hroom l (by rwa [scoredBy, candidates_scoreNative])
    rw [scoredBy, evidence_scoreNative hn] at hlt
    rw [evidence_scoreNative hn, Nat.mod_eq_of_lt hlt]
  rw [Scores.highest, hentries, closest, List.filter_map, List.map_map]
  refine (List.map_id _).trans (List.filter_congr fun l _ => ?_)
  simp [List.all_map, Function.comp_def]

/-! ### What no history changes -/

/-- The platform and the locale that detection works for, and that it has candidates. -/
structure Serves (d : Detection) (platform : Platform) (locale : Option String) : Prop where
  platform : d.platform = platform
  locale : d.locale = locale
  candidates : d.candidates ≠ []

variable {platform : Platform} {locale : Option String}

namespace Serves

theorem step (h : d.Serves platform locale) {op : Operation} (hstep : d.Step op d') :
    d'.Serves platform locale where
  platform := hstep.platform.trans h.platform
  locale := hstep.locale.trans h.locale
  candidates := by
    rcases hstep.candidates with ⟨-, hsame⟩ | ⟨l, -, -, hmore⟩
    · rw [hsame]
      exact h.candidates
    · rw [hmore]
      exact List.append_ne_nil_of_left_ne_nil h.candidates [l]

theorem run (h : d.Serves platform locale) (ops : List Operation) :
    (d.run ops).Serves platform locale :=
  kept_foldl (fun d : Detection => d.Serves platform locale)
    (fun d op hd => hd.step (d.step_apply op)) h ops

end Serves

theorem serves_start (platform : Platform) (locale : Option String)
    (native : Option (Except LayoutError NativeLayout)) (storage : Option Storage) :
    (start platform locale native storage).Serves platform locale := by
  have hfresh : (fresh platform locale native storage).Serves platform locale := by
    refine ⟨rfl, rfl, ?_⟩
    rw [candidates, fresh, Scores.candidates_ofLayouts]
    decide
  rw [start_eq]
  split
  · next r _ =>
      have hnamed := hfresh.run (naming r)
      rw [restore_eq]
      refine ⟨hnamed.platform, hnamed.locale, ?_⟩
      rw [candidates, Scores.candidates_restore]
      exact hnamed.candidates
  · exact hfresh

/-! ### Asking the system -/

theorem Favours.mem_highest {l : Layout} (h : d.Favours l) : l ∈ d.scores.highest := by
  have hmem {p : Layout → Prop} (hfirst : IsFirst p d.scores.highest l) :
      l ∈ d.scores.highest := by
    obtain ⟨before, after, hsplit, -⟩ := hfirst
    rw [hsplit]
    exact List.mem_append_right _ List.mem_cons_self
  cases h with
  | spoken h => exact hmem h
  | fitting _ h => exact hmem h
  | any _ h => exact hmem h

theorem select_congr (hplatform : d'.platform = d.platform) (hlocale : d'.locale = d.locale)
    (hscores : d'.scores = d.scores) : d'.select = d.select := by
  have hspeaks : d'.speaks = d.speaks := by
    funext l
    rw [speaks, speaks, hlocale]
  rw [select, select, hplatform, hscores, hspeaks]

/-- Where the system names its layout and the user has chosen none, the candidates are scored by how
far they agree with that layout, and of those that agree most one of this hardware and language
becomes the current one, else one of this hardware, else any; among equals it is the first. This
depends on the candidates alone: after any other history that comes to the same candidates the same
scores, notes and layout are found. Scores have 32 bits, which is more than layouts have keys. -/
theorem refresh_by_native (platform : Platform) (locale : Option String)
    (native : Option (Except LayoutError NativeLayout)) (storage : Option Storage)
    (ops : List Operation) {n : NativeLayout} (hn : n.keys.IsSorted) :
    let d := (start platform locale native storage).run ops
    d.source ≠ .choice → d.native = some (.ok n) →
      d.refresh.source = .native ∧
      d.refresh.scores.entries = d.candidates.map (fun l => (l, l.agreement n % 2 ^ 32)) ∧
      ((∀ l ∈ d.candidates, l.agreement n < 2 ^ 32) →
        d.refresh.current ∈ d.closest n ∧ d.refresh.scores.highest = d.closest n ∧
          d.refresh.Favours d.refresh.current) ∧
      ∀ native' storage' ops', let d' := (start platform locale native' storage').run ops'
        d'.candidates = d.candidates → d'.source ≠ .choice → d'.native = some (.ok n) →
          d'.refresh.current = d.refresh.current ∧ d'.refresh.scores = d.refresh.scores := by
  intro d hsource hnative
  have hserves : d.Serves platform locale := (serves_start platform locale native storage).run ops
  have hrefresh := refresh_of_native hsource hnative
  have hscores : d.refresh.scores = (d.scoredBy n).scores := by rw [hrefresh, use_eq]
  have hcurrent : d.refresh.current = (d.scoredBy n).select := by rw [hrefresh, current_use]
  refine ⟨by rw [hrefresh, use_eq], ?_, fun hfew => ?_, fun native' storage' ops' => ?_⟩
  · rw [hscores, scoredBy, (isSound_scoreNative hserves.candidates n).tally.entries,
      candidates_scoreNative]
    simp only [evidence_scoreNative hn]
    rfl
  · have hroom : (d.scoredBy n).scores.HasRoom := by
      intro l hl
      rw [scoredBy, candidates_scoreNative] at hl
      rw [scoredBy, evidence_scoreNative hn]
      exact hfew l hl
    have hfavours := favours_select_of_scores (d := d.scoredBy n)
      (isSound_scoreNative hserves.candidates n) hroom
    have hhighest := highest_scoredBy hserves.candidates hn hroom
    refine ⟨?_, ?_, ?_⟩
    · rw [hcurrent, ← hhighest]
      exact hfavours.mem_highest
    · rw [hscores, hhighest]
    · rw [hcurrent, hrefresh]
      exact hfavours.use _ .native
  · intro d' hcandidates hsource' hnative'
    have hserves' : d'.Serves platform locale :=
      (serves_start platform locale native' storage').run ops'
    have hsame : (d'.scoredBy n).scores = (d.scoredBy n).scores := scoreNative_congr hcandidates n
    rw [hcurrent, hscores, refresh_of_native hsource' hnative', current_use, use_eq]
    refine ⟨select_congr ?_ ?_ hsame, hsame⟩
    · exact hserves'.platform.trans hserves.platform.symm
    · exact hserves'.locale.trans hserves.locale.symm

/-- A layout on which `§` has a key, as on the US layout of a Mac. -/
def sectionSign : NativeLayout :=
  { keys := [("IntlBackslash", { plain := "§" }), ("KeyA", { plain := "a" })] }

def atStart : Detection := start .pc (some "en-US") none none

theorem observed_then_asked (hsource : d.source = .pressedKeys) (o : Observation)
    (n : NativeLayout) :
    let d' := d.run [.observe o, .setNative (some (.ok n))]
    d'.candidates = d.candidates ∧ d'.source = .pressedKeys ∧ d'.native = some (.ok n) := by
  obtain ⟨-, hpressed⟩ := observe_scores hsource o
  exact ⟨d.candidates_observe o, hpressed, rfl⟩

/-- The key with `§` decides against the hardware, and a key that was seen before does not count. -/
theorem refresh_by_native_section :
    let d := atStart.run [.setNative (some (.ok sectionSign))]
    let d' := atStart.run [.observe Scores.plainZ, .setNative (some (.ok sectionSign))]
    sectionSign.keys.IsSorted ∧ d.source ≠ .choice ∧ d.native = some (.ok sectionSign) ∧
      (∀ l ∈ d.candidates, l.agreement sectionSign < 2 ^ 32) ∧ d'.candidates = d.candidates ∧
      d'.source ≠ .choice ∧ d'.native = some (.ok sectionSign) ∧
      d.refresh.current ∈ d.closest sectionSign ∧ d.refresh.current.hardware = .mac ∧
      d'.refresh.current = d.refresh.current ∧ d'.refresh.scores = d.refresh.scores := by
  intro d d'
  have hsorted : sectionSign.keys.IsSorted := by
    simp only [Fields.IsSorted, sectionSign]
    decide
  have hsource : d.source ≠ .choice := by decide
  have hfew : ∀ l ∈ d.candidates, l.agreement sectionSign < 2 ^ 32 := fun l _ =>
    Nat.lt_of_le_of_lt List.countP_le_length (by decide)
  obtain ⟨hcandidates, hpressed, hnative'⟩ :=
    observed_then_asked (d := atStart) rfl Scores.plainZ sectionSign
  have hsource' : d'.source ≠ .choice := by
    rw [hpressed]
    decide
  have hmac : d.refresh.current.hardware = .mac := by decide +kernel
  obtain ⟨-, -, hselects, hforgets⟩ := refresh_by_native .pc (some "en-US") none none
    [.setNative (some (.ok sectionSign))] hsorted hsource rfl
  obtain ⟨hcurrent, hsame⟩ := hforgets none none
    [.observe Scores.plainZ, .setNative (some (.ok sectionSign))] hcandidates hsource' hnative'
  exact ⟨hsorted, hsource, rfl, hfew, hcandidates, hsource', hnative', (hselects hfew).1, hmac,
    hcurrent, hsame⟩

end Detection

end Shortcuts
