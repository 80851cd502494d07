import Mathlib
import Purse.Bytes

/-!
# Self-delimiting frames

A frame is self-delimiting if a byte string that starts with a framed value tells what the value is
and where it ends.  Such frames can stand one after another without anything in between.
-/

namespace Purse.Bytes

variable {α β : Type}

/-- Of valid values, what follows a frame never makes it look like the frame of another one. -/
def SelfDelimiting (valid : Set α) (frame : α → Bytes) : Prop :=
  ∀ ⦃left⦄, left ∈ valid → ∀ ⦃right⦄, right ∈ valid → ∀ ⦃rest other : Bytes⦄,
    frame left ++ rest = frame right ++ other → left = right ∧ rest = other

/-- It is enough that no frame begins another one. -/
theorem selfDelimiting_of_prefixFree {valid : Set α} {frame : α → Bytes}
    (hfree : ∀ ⦃left⦄, left ∈ valid → ∀ ⦃right⦄, right ∈ valid →
      frame left <+: frame right → left = right) :
    SelfDelimiting valid frame := by
  intro left hleft right hright rest other heq
  have hbegins : frame left <+: frame right ++ other := heq ▸ List.prefix_append _ rest
  have hsame : left = right := by
    rcases List.prefix_or_prefix_of_prefix hbegins (List.prefix_append _ other) with hle | hge
    · exact hfree hleft hright hle
    · exact (hfree hright hleft hge).symm
  subst hsame
  exact ⟨rfl, List.append_cancel_left heq⟩

/-- Frames of one length are told apart by their bytes alone. -/
theorem selfDelimiting_of_length {valid : Set α} {frame : α → Bytes} {width : Nat}
    (hlength : ∀ value, (frame value).length = width) (hinjective : Set.InjOn frame valid) :
    SelfDelimiting valid frame := by
  apply selfDelimiting_of_prefixFree
  intro left hleft right hright hbegins
  apply hinjective hleft hright
  exact hbegins.eq_of_length ((hlength left).trans (hlength right).symm)

/-- Numbers that fit into the width. -/
theorem selfDelimiting_ofNat (width : Nat) :
    SelfDelimiting {value | value < 1 <<< (8 * width)} (ofNat width) := by
  apply selfDelimiting_of_length (length_ofNat width)
  intro left hleft right hright heq
  rw [← toNat_ofNat width left hleft, heq, toNat_ofNat width right hright]

theorem selfDelimiting_toBytes (size : Nat) :
    SelfDelimiting Set.univ (FixedBytes.toBytes : FixedBytes size → Bytes) := by
  apply selfDelimiting_of_length FixedBytes.length_toBytes
  intro left _ right _ heq
  exact FixedBytes.toBytes_inj.1 heq

namespace SelfDelimiting

variable {valid : Set α} {frame : α → Bytes}

/-- The frame of a part that determines the whole. -/
theorem comp (hframe : SelfDelimiting valid frame) {whole : Set β} {part : β → α}
    (hvalid : Set.MapsTo part whole valid) (hinjective : Set.InjOn part whole) :
    SelfDelimiting whole fun value => frame (part value) := by
  intro left hleft right hright rest other heq
  obtain ⟨hpart, hrest⟩ := hframe (hvalid hleft) (hvalid hright) heq
  exact ⟨hinjective hleft hright hpart, hrest⟩

/-- Frames one after another, as many on either side.  The induction is on the values of both
sides: each step takes off one frame. -/
theorem flatMap (hframe : SelfDelimiting valid frame) {left right : List α}
    (hleft : ∀ value ∈ left, value ∈ valid) (hright : ∀ value ∈ right, value ∈ valid)
    (hlength : left.length = right.length) {rest other : Bytes}
    (heq : left.flatMap frame ++ rest = right.flatMap frame ++ other) :
    left = right ∧ rest = other := by
  induction left generalizing right with
  | nil =>
      cases List.eq_nil_of_length_eq_zero hlength.symm
      exact ⟨rfl, heq⟩
  | cons first firsts ih =>
      cases right with
      | nil => cases hlength
      | cons second seconds =>
          rw [List.forall_mem_cons] at hleft hright
          rw [List.flatMap_cons, List.flatMap_cons, List.append_assoc, List.append_assoc] at heq
          obtain ⟨rfl, htail⟩ := hframe hleft.1 hright.1 heq
          obtain ⟨rfl, hrest⟩ := ih hleft.2 hright.2 (Nat.succ.inj hlength) htail
          exact ⟨rfl, hrest⟩

end SelfDelimiting

end Purse.Bytes
