import Shortcuts.Context.Element
import Shortcuts.Proofs.Decimal.ReadBack
import Shortcuts.Proofs.Text.Pieces

/-!
Attributes of elements and the way outwards from an element. The name of a context in an attribute
reads back as its number.
-/

namespace Shortcuts

namespace Arena

theorem isBlank_of_isDigit {c : Char} (h : c.isDigit = true) : Text.isBlank c = false := by
  obtain ⟨hlow, hhigh⟩ : 48 ≤ c.toNat ∧ c.toNat ≤ 57 := by
    simpa [Char.isDigit, UInt32.le_iff_toNat_le] using h
  rw [Text.isBlank]
  simp only [Bool.or_eq_false_iff, Bool.and_eq_false_iff, decide_eq_false_iff_not,
    beq_eq_false_iff_ne]
  omega

/-- The numbers of contexts have 32 bits. -/
theorem idOfText?_toString {x : ContextId} (h : x < 2 ^ 32) :
    idOfText? (toString x) = some x := by
  have hdigits := Double.allDigits_decimalDigits x
  have hlist : (toString x).toList = Double.decimalDigits x := String.toList_ofList
  have htrim := Text.trim_of_not_blank fun c hc => isBlank_of_isDigit (hdigits c hc)
  have hall : (Double.decimalDigits x).all Char.isDigit = true := List.all_eq_true.mpr hdigits
  have hempty := List.isEmpty_eq_false_iff.mpr (Double.decimalDigits_ne_nil x)
  have hfits : ¬ Nat.pow 2 32 ≤ x := Nat.not_le.mpr h
  rw [idOfText?, hlist, htrim]
  split
  · next r hplus =>
      rw [hplus] at hdigits
      exact absurd (hdigits '+' (.head r)) (by decide)
  · rw [hall, hempty, ← Double.ofDigits, Double.ofDigits_decimalDigits, decide_eq_false hfits]
    rfl

end Arena

namespace Elements

variable {es : Elements} {e x : ElementId} {name value : String}

/-- The element and those around it, the nearest first. -/
def path (es : Elements) (e : ElementId) : List ElementId :=
  e :: ((es.table.lookup e).map Element.around).getD []

/-- The element is there and no context is named on it. -/
structure IsBare (es : Elements) (e : ElementId) : Prop where
  isThere : (es.table.lookup e).isSome
  unnamed : es.attribute? e contextAttribute = none

theorem attribute?_setAttribute (h : (es.table.lookup e).isSome) (name value : String)
    (x : ElementId) : (es.setAttribute e name value).attribute? x name =
      if x = e then some value else es.attribute? x name := by
  rw [attribute?, setAttribute, Table.lookup_modify, attribute?]
  split
  · next hx =>
      obtain ⟨node, hnode⟩ := Option.isSome_iff_exists.mp h
      rw [hx, hnode]
      exact Fields.lookup_insert_self name value node.attributes
  · rfl

theorem attribute?_removeAttribute (es : Elements) (e : ElementId) (name : String)
    (x : ElementId) : (es.removeAttribute e name).attribute? x name =
      if x = e then none else es.attribute? x name := by
  rw [attribute?, removeAttribute, Table.lookup_modify, attribute?]
  split
  · cases es.table.lookup x with
    | none => rfl
    | some node => exact Fields.lookup_erase_self name node.attributes
  · rfl

theorem contextOf_some (es : Elements) (e : ElementId) : es.contextOf (some e) =
    ((es.path e).findSome? fun x => es.attribute? x contextAttribute).elim (some Arena.root)
      Arena.idOfText? := by
  rw [contextOf, path]
  split <;> next h => rw [h]; rfl

end Elements

end Shortcuts
