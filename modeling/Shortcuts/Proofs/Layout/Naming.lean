import Shortcuts.Proofs.Layout.Resumption
import Shortcuts.Proofs.Text.Pieces

/-!
Layouts by their identifiers. An identifier tells the language, the name and the hardware of a
layout, so layouts with one identifier are the same. Candidates are entered by their identifiers:
those of the start, and behind them every layout that is added, when it is added first.
-/

namespace Shortcuts

namespace Platform

theorem ofName?_eq_some_iff {s : String} {p : Platform} : ofName? s = some p ↔ s = p.name := by
  constructor
  · intro h
    rw [ofName?] at h
    split at h
    · next hs =>
        cases h
        exact hs
    · split at h
      · next hs =>
          cases h
          exact hs
      · cases h
  · rintro rfl
    cases p <;> rfl

theorem name_inj {p p' : Platform} (h : p.name = p'.name) : p = p' :=
  Option.some.inj ((ofName?_eq_some_iff.mpr rfl).symm.trans (ofName?_eq_some_iff.mpr h))

theorem not_mem_name (p : Platform) : '-' ∉ p.name.toList := by
  cases p <;> decide

end Platform

namespace Layout

/-! ### Characters for others -/

section

variable {a b c : Char} {s : String}

theorem toList_replaceChar (a b : Char) (s : String) :
    (replaceChar a b s).toList = s.toList.map fun c => if c = a then b else c :=
  String.toList_ofList

theorem mem_replaceChar_iff : c ∈ (replaceChar a b s).toList ↔
    (a ∈ s.toList ∧ c = b) ∨ c ∈ s.toList ∧ c ≠ a := by
  rw [toList_replaceChar, List.mem_map]
  constructor
  · rintro ⟨d, hd, rfl⟩
    by_cases h : d = a
    · rw [if_pos h]
      exact .inl ⟨h ▸ hd, rfl⟩
    · rw [if_neg h]
      exact .inr ⟨hd, h⟩
  · rintro (⟨ha, rfl⟩ | ⟨hc, hne⟩)
    · exact ⟨a, ha, if_pos rfl⟩
    · exact ⟨c, hc, if_neg hne⟩

theorem replaceChar_replaceChar (a b : Char) (s : String) :
    replaceChar a b (replaceChar b a s) = replaceChar a b s := by
  rw [← String.toList_inj]
  simp only [toList_replaceChar, List.map_map]
  refine List.map_congr_left fun c _ => ?_
  by_cases hb : c = b
  · by_cases ha : b = a <;> simp [hb, ha]
  · simp [hb]

theorem replaceChar_of_not_mem (h : a ∉ s.toList) (b : Char) : replaceChar a b s = s := by
  rw [← String.toList_inj, toList_replaceChar]
  refine (List.map_congr_left fun c hc => if_neg ?_).trans (List.map_id' _)
  rintro rfl
  exact h hc

end

/-! ### Identifiers -/

/-- An identifier falls into a language, a name and a hardware at its hyphens. -/
structure FallsInto (id language name : String) (p : Platform) : Prop where
  eq : id = language ++ "-" ++ name ++ "-" ++ p.name
  language : '-' ∉ language.toList
  name : '-' ∉ name.toList

section

variable {id language name language' name' : String} {p p' : Platform} {native : NativeLayout}
    {l m : Layout}

theorem FallsInto.parts (h : FallsInto id language name p) :
    (Text.splitBy (· = '-') id.toList).map String.ofList = [language, name, p.name] := by
  have hpieces : id.toList = ['-'].intercalate [language.toList, name.toList, p.name.toList] := by
    rw [h.eq]
    simp [List.intercalate_cons_cons]
  have hnone : ∀ w ∈ [language.toList, name.toList, p.name.toList], ∀ c ∈ w,
      decide (c = '-') = false := by
    have hnot {w : List Char} (hw : '-' ∉ w) (c : Char) (hc : c ∈ w) : decide (c = '-') = false :=
      decide_eq_false fun heq => hw (heq ▸ hc)
    simp only [List.forall_mem_cons]
    exact ⟨hnot h.language, hnot h.name, hnot p.not_mem_name, nofun⟩
  rw [hpieces, Text.splitBy_intercalate (decide_eq_true rfl) (List.cons_ne_nil _ _) hnone]
  simp only [List.map_cons, List.map_nil, String.ofList_toList]

theorem FallsInto.unique (h : FallsInto id language name p) (h' : FallsInto id language' name' p') :
    language = language' ∧ name = name' ∧ p = p' := by
  have hparts := h.parts.symm.trans h'.parts
  simp only [List.cons.injEq, and_true] at hparts
  exact ⟨hparts.1, hparts.2.1, Platform.name_inj hparts.2.2⟩

/-- A layout whose parts have no hyphens goes by an identifier that falls into them. -/
theorem fallsInto_id (hlanguage : '-' ∉ l.language.toList) (hname : '-' ∉ l.name.toList) :
    FallsInto l.id l.language (replaceChar ' ' '_' l.name) l.hardware where
  eq := rfl
  language := hlanguage
  name h := by
    rcases mem_replaceChar_iff.mp h with ⟨-, h⟩ | ⟨h, -⟩
    · exact absurd h (by decide)
    · exact hname h

/-- Identifiers of three parts are accepted, if the last one is a hardware. -/
theorem ofId_eq_ok_iff : ofId id native = .ok l ↔ ∃ language name p,
    FallsInto id language name p ∧
      l = { name := replaceChar '_' ' ' name, hardware := p, language, native } := by
  constructor
  · intro h
    rw [ofId] at h
    split at h
    · next language name hardware hparts =>
        split at h
        · next p hp =>
            cases h
            refine ⟨language, name, p, ?_, rfl⟩
            have hsplit : Text.splitBy (· = '-') id.toList =
                [language.toList, name.toList, hardware.toList] := by
              simpa [Function.comp_def] using congrArg (List.map String.toList) hparts
            have hnot : ∀ w ∈ [language.toList, name.toList, hardware.toList], '-' ∉ w := by
              rw [← hsplit]
              exact fun w hw hmem => by simpa using Text.not_of_mem_splitBy hw '-' hmem
            refine ⟨?_, hnot _ (.head _), hnot _ (.tail _ (.head _))⟩
            rw [← Platform.ofName?_eq_some_iff.mp hp, ← String.toList_inj,
              ← Text.intercalate_splitBy '-' id.toList, hsplit]
            simp [List.intercalate_cons_cons]
        · cases h
    · cases h
  · rintro ⟨language, name, p, h, rfl⟩
    rw [ofId, h.parts]
    simp only [Platform.ofName?_eq_some_iff.mpr rfl]

/-- What holds of every layout that is made from an identifier. -/
structure IsGiven (l : Layout) : Prop where
  language : '-' ∉ l.language.toList
  name : '-' ∉ l.name.toList
  underscore : '_' ∉ l.name.toList
  fallback : l.isFallback = false

theorem isGiven_ofId (h : ofId id native = .ok l) : l.IsGiven := by
  obtain ⟨language, name, p, hid, rfl⟩ := ofId_eq_ok_iff.mp h
  refine ⟨hid.language, fun hmem => ?_, fun hmem => ?_, rfl⟩
  · rcases mem_replaceChar_iff.mp hmem with ⟨-, h⟩ | ⟨h, -⟩
    · exact absurd h (by decide)
    · exact hid.name h
  · rcases mem_replaceChar_iff.mp hmem with ⟨-, h⟩ | ⟨-, h⟩
    · exact absurd h (by decide)
    · exact h rfl

namespace IsGiven

theorem restored (h : l.IsGiven) : replaceChar '_' ' ' (replaceChar ' ' '_' l.name) = l.name := by
  rw [replaceChar_replaceChar, replaceChar_of_not_mem h.underscore]

theorem ofId_id (h : l.IsGiven) : ofId l.id l.native = .ok l := by
  refine ofId_eq_ok_iff.mpr ⟨_, _, _, fallsInto_id h.language h.name, ?_⟩
  rw [h.restored, ← h.fallback]

theorem beq_iff_id (hl : l.IsGiven) (hm : m.IsGiven) : (l == m) = true ↔ l.id = m.id := by
  refine ⟨id_eq_of_beq, fun h => ?_⟩
  obtain ⟨hlanguage, hname, hhardware⟩ := (fallsInto_id hl.language hl.name).unique
    (h ▸ fallsInto_id hm.language hm.name)
  refine beq_iff.mpr ⟨hl.fallback.trans hm.fallback.symm, ?_, hhardware, hlanguage⟩
  rw [← hl.restored, hname, hm.restored]

end IsGiven

/-- A layout goes by the identifier that it was made from, but for blanks in its name. -/
theorem fallsInto_of_ofId (h : ofId id native = .ok l) : ∃ language name p,
    FallsInto id language name p ∧ FallsInto l.id language (replaceChar ' ' '_' name) p := by
  have hgiven := isGiven_ofId h
  obtain ⟨language, name, p, hid, rfl⟩ := ofId_eq_ok_iff.mp h
  refine ⟨language, name, p, hid, ?_⟩
  have hparts := fallsInto_id hgiven.language hgiven.name
  rwa [replaceChar_replaceChar] at hparts

end

/-! ### Entering layouts -/

def haveSameId (l m : Layout) : Bool := l.id = m.id

/-- Enters a layout behind the others, unless one of them has its identifier. -/
def entered (ls : List Layout) (l : Layout) : List Layout :=
  if ls.any (·.id = l.id) then ls else ls ++ [l]

theorem foldl_entered_eq_append (ls more : List Layout) : more.foldl entered ls =
    ls ++ (more.filter fun l => !ls.any (·.id = l.id)).eraseDupsBy haveSameId := by
  induction more generalizing ls with
  | nil => simp
  | cons l more ih =>
      rw [List.foldl_cons, ih, entered]
      cases hl : ls.any (·.id = l.id) with
      | true => rw [if_pos rfl, List.filter_cons_of_neg (by simp [hl])]
      | false =>
          rw [if_neg (by simp), List.filter_cons_of_pos (by simp [hl]), List.eraseDupsBy_cons,
            List.append_assoc, List.singleton_append, List.filter_filter]
          refine congrArg (fun kept => ls ++ l :: List.eraseDupsBy haveSameId kept) ?_
          refine List.filter_congr fun m _ => ?_
          rw [List.any_append, List.any_cons, List.any_nil, haveSameId]
          cases ls.any (·.id = m.id) <;> simp [eq_comm]

/-- What is entered one after the other is entered at its first time. -/
theorem foldl_entered (ls : List Layout) : ls.foldl entered [] = ls.eraseDupsBy haveSameId := by
  rw [foldl_entered_eq_append]
  simp

theorem foldl_entered_of_nodup {ls : List Layout} (h : (ls.map id).Nodup) :
    ls.foldl entered [] = ls := by
  induction ls using List.reverseRecOn with
  | nil => rfl
  | append_singleton ls l ih =>
      rw [List.map_append, List.map_singleton] at h
      obtain ⟨hls, -, hnew⟩ := List.nodup_append.mp h
      rw [List.foldl_append, ih hls, List.foldl_cons, List.foldl_nil, entered, if_neg]
      simp only [List.any_eq_true, decide_eq_true_eq, not_exists, not_and]
      exact fun m hm => hnew _ (List.mem_map_of_mem hm) _ (.head _)

theorem nodup_ids_entered {ls : List Layout} (h : (ls.map id).Nodup) (l : Layout) :
    ((entered ls l).map id).Nodup := by
  rw [entered]
  split
  · exact h
  · next hnew => exact nodup_ids_concat h hnew

theorem prefix_foldl_entered (ls more : List Layout) : ls <+: more.foldl entered ls := by
  rw [foldl_entered_eq_append]
  exact List.prefix_append ls _

end Layout

namespace Detection

open Layout (entered haveSameId)

theorem candidates_apply (d : Detection) (op : Operation) :
    (d.apply op).1.candidates = op.added?.toList.foldl entered d.candidates := by
  rcases (d.step_apply op).candidates with ⟨hknown, hsame⟩ | ⟨l, hl, hnew, hmore⟩
  · rw [hsame]
    cases hl : op.added? with
    | none => rfl
    | some l => exact (if_pos (hknown l hl)).symm
  · rw [hmore, hl]
    exact (if_neg hnew).symm

theorem candidates_run (d : Detection) (ops : List Operation) :
    (d.run ops).candidates = (ops.filterMap Operation.added?).foldl entered d.candidates := by
  induction ops generalizing d with
  | nil => rfl
  | cons op ops ih =>
      have hrun : d.run (op :: ops) = (d.apply op).1.run ops := rfl
      rw [hrun, ih, candidates_apply, List.filterMap_cons]
      cases op.added? <;> rfl

/-- The layouts that are candidates from the beginning. -/
def startingLayouts : List Layout := BuiltinLayout.startup.map BuiltinLayout.layout

theorem nodup_startingLayouts : (startingLayouts.map Layout.id).Nodup := by
  decide +kernel

section

variable (platform : Platform) (locale : Option String)
    (native : Option (Except LayoutError NativeLayout)) (storage : Option Storage)

/-- The additions with which a start takes up what is stored. -/
def resuming : List Operation := (fresh platform locale native storage).stored?.elim [] naming

theorem candidates_start : (start platform locale native storage).candidates =
    ((resuming platform locale native storage).filterMap Operation.added?).foldl entered
      startingLayouts := by
  have hfresh : (fresh platform locale native storage).candidates = startingLayouts :=
    Scores.candidates_ofLayouts startingLayouts
  rw [start_eq, resuming, ← hfresh]
  split
  · next r hr =>
      rw [hr, Option.elim_some, ← candidates_run, restore_eq]
      exact Scores.candidates_restore _ _
  · next hnone =>
      rw [hnone]
      rfl

theorem candidates_run_start (ops : List Operation) :
    ((start platform locale native storage).run ops).candidates =
      ((resuming platform locale native storage ++ ops).filterMap Operation.added?).foldl entered
        startingLayouts := by
  rw [candidates_run, candidates_start, List.filterMap_append, List.foldl_append]

/-- A layout made from an identifier is made from its own identifier as well, which differs only in
blanks of the name, and layouts so made are the same exactly if their identifiers are. Candidates
are those of the start and then all that were added, each identifier at its first time, so all of
them are different, and each has one score. -/
theorem ids_identify_layouts :
    (∀ id native l, Layout.ofId id native = .ok l →
      Layout.ofId l.id native = .ok l ∧
      (∃ language name p, Layout.FallsInto id language name p ∧
        Layout.FallsInto l.id language (Layout.replaceChar ' ' '_' name) p) ∧
      ∀ id' native' m, Layout.ofId id' native' = .ok m → ((l == m) = true ↔ l.id = m.id)) ∧
    ∀ platform locale native storage ops,
      let d := (start platform locale native storage).run ops
      d.candidates = (startingLayouts ++ (resuming platform locale native storage ++ ops).filterMap
        Operation.added?).eraseDupsBy haveSameId ∧
      startingLayouts <+: d.candidates ∧ (d.candidates.map Layout.id).Nodup ∧
      d.candidates.Pairwise (fun l m => (l == m) = false) ∧
      ∀ l ∈ d.candidates, ∃ n, (∀ n', (l, n') ∈ d.scores.entries ↔ n' = n) ∧
        d.scores.toRecord.scores.lookup l.id = some n := by
  refine ⟨fun id native l hl => ⟨?_, Layout.fallsInto_of_ofId hl, fun id' native' m hm => ?_⟩,
    fun platform locale native storage ops => ?_⟩
  · have hnative : l.native = native := by
      obtain ⟨_, _, _, -, rfl⟩ := Layout.ofId_eq_ok_iff.mp hl
      rfl
    exact hnative ▸ (Layout.isGiven_ofId hl).ofId_id
  · exact (Layout.isGiven_ofId hl).beq_iff_id (Layout.isGiven_ofId hm)
  · intro d
    have hrun := candidates_run_start platform locale native storage ops
    generalize (resuming platform locale native storage ++ ops).filterMap Operation.added? = added
      at hrun ⊢
    have hids : (d.candidates.map Layout.id).Nodup := by
      rw [hrun]
      exact kept_foldl (fun ls : List Layout => (ls.map Layout.id).Nodup)
        (fun _ l h => Layout.nodup_ids_entered h l) nodup_startingLayouts added
    refine ⟨?_, hrun ▸ Layout.prefix_foldl_entered _ added, hids, ?_, fun l hl => ?_⟩
    · rw [← Layout.foldl_entered, List.foldl_append,
        Layout.foldl_entered_of_nodup nodup_startingLayouts, hrun]
    · refine (List.pairwise_map.mp hids).imp fun hne => ?_
      exact Bool.eq_false_iff.mpr fun heq => hne (Layout.id_eq_of_beq heq)
    · obtain ⟨⟨_, n⟩, hn, rfl⟩ := List.mem_map.mp hl
      have hentries : (d.scores.entries.map fun e => e.1.id).Nodup := d.scores.ids_eq ▸ hids
      have hlookup := Scores.lookup_toRecord hentries hn
      refine ⟨n, fun n' => ⟨fun hn' => ?_, fun heq => heq ▸ hn⟩, hlookup⟩
      exact Option.some.inj ((Scores.lookup_toRecord hentries hn').symm.trans hlookup)

end

def swissGerman : Layout := { name := "Swiss German", hardware := .mac, language := "en", native := {} }

/-- Two spellings of one name, of which the second brings keys of its own. -/
theorem ids_identify_layouts_swiss :
    let m := { swissGerman with native := { keys := [("KeyA", { plain := "a" })] } }
    let d := (start .pc none none none).run
      [.addLayout swissGerman, .addBuiltin "de-German-pc", .addLayout m]
    Layout.ofId "en-Swiss German-mac" swissGerman.native = .ok swissGerman ∧
      Layout.ofId "en-Swiss_German-mac" m.native = .ok m ∧
      Layout.ofId swissGerman.id swissGerman.native = .ok swissGerman ∧ (swissGerman == m) = true ∧
      d.candidates.map Layout.id =
        ["en-US-pc", "en-US-mac", "en-Swiss_German-mac", "de-German-pc"] := by
  intro m d
  have hl : Layout.ofId "en-Swiss German-mac" swissGerman.native = .ok swissGerman := rfl
  have hm : Layout.ofId "en-Swiss_German-mac" m.native = .ok m := rfl
  obtain ⟨hnames, hcandidates⟩ := ids_identify_layouts
  obtain ⟨hagain, -, hsame⟩ := hnames _ _ _ hl
  refine ⟨hl, hm, hagain, (hsame _ _ _ hm).mpr rfl, ?_⟩
  rw [(hcandidates .pc none none none _).1]
  decide +kernel

end Detection

end Shortcuts
