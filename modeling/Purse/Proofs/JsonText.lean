import Purse.Json.Printer
import Purse.Proofs.JsonLiteral

/-!
# Texts of values

A value may be written in many ways that differ in their blanks only.  All of them are read as that
value, and the compact form and the pretty form are two of them.
-/

namespace Purse.Json

/-! ## Blanks -/

def Blank (gap : List Char) : Prop :=
  ∀ c ∈ gap, isBlank c = true

theorem blank_nil : Blank [] := nofun

theorem blank_space : Blank [' '] := by
  intro c hc
  cases List.mem_singleton.1 hc
  rfl

theorem blank_newline (depth : Nat) : Blank (newline depth) := by
  intro c hc
  rcases List.mem_cons.1 hc with rfl | hspace
  · rfl
  · cases List.eq_of_mem_replicate hspace
    rfl

theorem endsNumber_of_isBlank {c : Char} (hblank : isBlank c = true) : EndsNumber c := by
  simp only [isBlank, Bool.or_eq_true, decide_eq_true_eq] at hblank
  rcases hblank with ((rfl | rfl) | rfl) | rfl <;> decide

theorem isBlank_of_isDigit {c : Char} (hdigit : isDigit c = true) : isBlank c = false := by
  by_contra hblank
  have hends := endsNumber_of_isBlank (Bool.of_not_eq_false hblank)
  exact Bool.false_ne_true (hends.1.symm.trans hdigit)

theorem skipBlanks_cons {c : Char} (hc : isBlank c = false) (rest : List Char) :
    skipBlanks (c :: rest) = c :: rest := by
  rw [skipBlanks, List.dropWhile_cons_of_neg (by rw [hc]; exact Bool.false_ne_true)]

section Gap

variable {gap : List Char} (hgap : Blank gap)
include hgap

theorem skipBlanks_append (rest : List Char) : skipBlanks (gap ++ rest) = skipBlanks rest :=
  List.dropWhile_append_of_pos hgap

theorem stops_append {c : Char} (hc : EndsNumber c) (rest : List Char) :
    Stops (gap ++ c :: rest) := by
  intro first hfirst
  cases gap with
  | nil =>
      cases hfirst
      exact hc
  | cons blank gap =>
      cases hfirst
      exact endsNumber_of_isBlank (hgap _ List.mem_cons_self)

theorem readValue_append (bound : Nat) (rest : List Char) :
    readValue bound (gap ++ rest) = readValue bound rest := by
  cases bound with
  | zero => rw [readValue, readValue]
  | succ bound => rw [readValue, readValue, skipBlanks_append hgap]

theorem readItems_append (bound : Nat) (rest : List Char) :
    readItems bound (gap ++ rest) = readItems bound rest := by
  cases bound with
  | zero => rw [readItems, readItems]
  | succ bound => rw [readItems, readItems, readValue_append hgap]

theorem readMembers_append (bound : Nat) (rest : List Char) :
    readMembers bound (gap ++ rest) = readMembers bound rest := by
  cases bound with
  | zero => rw [readMembers, readMembers]
  | succ bound => rw [readMembers, readMembers, skipBlanks_append hgap]

end Gap

/-! ## Spellings -/

mutual

/-- The characters are a way to write the value, with blanks only inside. Of the numbers, those in
digits alone are written. -/
inductive Spells : Json → List Char → Prop where
  | null : Spells .null ['n', 'u', 'l', 'l']
  | yes : Spells (.bool true) ['t', 'r', 'u', 'e']
  | no : Spells (.bool false) ['f', 'a', 'l', 's', 'e']
  | natural (value : Nat) : Spells (.natural value) (Nat.toDigits 10 value)
  | text {literal : Quoted} (hclosed : literal.Closed) : Spells (.text literal) (quote literal)
  | emptyList {gap : List Char} (hgap : Blank gap) : Spells (.list []) ('[' :: gap ++ [']'])
  | list {gap chars tail : List Char} {item : Json} {items : List Json} (hgap : Blank gap)
      (hitem : Spells item chars) (hitems : SpellsItems items tail) :
      Spells (.list (item :: items)) ('[' :: gap ++ chars ++ tail)
  | emptyRecord {gap : List Char} (hgap : Blank gap) : Spells (.record []) ('{' :: gap ++ ['}'])
  | record {gap chars tail : List Char} {member : Quoted × Json} {members : List (Quoted × Json)}
      (hgap : Blank gap) (hmember : SpellsMember member chars)
      (hmembers : SpellsMembers members tail) :
      Spells (.record (member :: members)) ('{' :: gap ++ chars ++ tail)

/-- What comes after an item of a list, when the given items are left. -/
inductive SpellsItems : List Json → List Char → Prop where
  | close {gap : List Char} (hgap : Blank gap) : SpellsItems [] (gap ++ [']'])
  | next {before after chars tail : List Char} {item : Json} {items : List Json}
      (hbefore : Blank before) (hafter : Blank after) (hitem : Spells item chars)
      (hitems : SpellsItems items tail) :
      SpellsItems (item :: items) (before ++ ',' :: after ++ chars ++ tail)

inductive SpellsMember : Quoted × Json → List Char → Prop where
  | colon {key : Quoted} {value : Json} {before after chars : List Char} (hclosed : key.Closed)
      (hbefore : Blank before) (hafter : Blank after) (hvalue : Spells value chars) :
      SpellsMember (key, value) (quote key ++ before ++ ':' :: after ++ chars)

/-- What comes after a member of a record, when the given members are left. -/
inductive SpellsMembers : List (Quoted × Json) → List Char → Prop where
  | close {gap : List Char} (hgap : Blank gap) : SpellsMembers [] (gap ++ ['}'])
  | next {before after chars tail : List Char} {member : Quoted × Json}
      {members : List (Quoted × Json)} (hbefore : Blank before) (hafter : Blank after)
      (hmember : SpellsMember member chars) (hmembers : SpellsMembers members tail) :
      SpellsMembers (member :: members) (before ++ ',' :: after ++ chars ++ tail)

end

theorem SpellsItems.stops {items : List Json} {tail : List Char} (hitems : SpellsItems items tail)
    (rest : List Char) : Stops (tail ++ rest) := by
  cases hitems with
  | close hgap =>
      rw [List.append_assoc]
      exact stops_append hgap (by decide) _
  | next hbefore hafter hitem hitems =>
      simp only [List.append_assoc, List.cons_append]
      exact stops_append hbefore (by decide) _

theorem SpellsItems.length_pos {items : List Json} {tail : List Char}
    (hitems : SpellsItems items tail) : 0 < tail.length := by
  cases hitems <;> simp

theorem SpellsMembers.stops {members : List (Quoted × Json)} {tail : List Char}
    (hmembers : SpellsMembers members tail) (rest : List Char) : Stops (tail ++ rest) := by
  cases hmembers with
  | close hgap =>
      rw [List.append_assoc]
      exact stops_append hgap (by decide) _
  | next hbefore hafter hmember hmembers =>
      simp only [List.append_assoc, List.cons_append]
      exact stops_append hbefore (by decide) _

theorem exists_toDigits_eq_cons (value : Nat) :
    ∃ c digits, Nat.toDigits 10 value = c :: digits ∧ isDigit c = true := by
  cases hdigits : Nat.toDigits 10 value with
  | nil => exact absurd hdigits Nat.toDigits_ne_nil
  | cons c digits =>
      exact ⟨c, digits, rfl, isDigit_of_mem_toDigits (hdigits ▸ List.mem_cons_self)⟩

/-- No value begins with a blank or with what closes a list. -/
theorem Spells.exists_eq_cons {value : Json} {chars : List Char} (hspells : Spells value chars) :
    ∃ c rest, chars = c :: rest ∧ isBlank c = false ∧ c ≠ ']' := by
  cases hspells with
  | natural value =>
      obtain ⟨c, digits, hdigits, hc⟩ := exists_toDigits_eq_cons value
      refine ⟨c, digits, hdigits, isBlank_of_isDigit hc, ?_⟩
      rintro rfl
      exact Bool.false_ne_true hc
  | null | yes | no | text | emptyList | list | emptyRecord | record =>
      exact ⟨_, _, rfl, rfl, by decide⟩

/-! ## Reading -/

/-- What is spelled is read, as long as the reader may take `bound` steps. -/
structure ReadsWithin (bound : Nat) : Prop where
  value : ∀ {value chars rest}, Spells value chars → chars.length ≤ bound → Stops rest →
    readValue bound (chars ++ rest) = some (value, rest)
  items : ∀ {item items chars tail} (rest), Spells item chars → SpellsItems items tail →
    chars.length + tail.length ≤ bound →
      readItems bound (chars ++ tail ++ rest) = some (item :: items, rest)
  members : ∀ {member members chars tail} (rest), SpellsMember member chars →
    SpellsMembers members tail → chars.length + tail.length ≤ bound →
      readMembers bound (chars ++ tail ++ rest) = some (member :: members, rest)

theorem readValue_digit (bound : Nat) {c : Char} (hc : isDigit c = true) (rest : List Char) :
    readValue (bound + 1) (c :: rest) = readUnsigned (c :: rest) := by
  have hne (other : Char) (hother : isDigit other = false) : c ≠ other := by
    rintro rfl
    exact Bool.false_ne_true (hother.symm.trans hc)
  rw [readValue, skipBlanks_cons (isBlank_of_isDigit hc)]
  simp [readNumber, hne 'n' rfl, hne 't' rfl, hne 'f' rfl, hne '"' rfl, hne '[' rfl, hne '{' rfl,
    hne '-' rfl]

theorem readValue_open (bound : Nat) {gap rest : List Char} {c : Char} (hgap : Blank gap)
    (hblank : isBlank c = false) (hc : c ≠ ']') :
    readValue (bound + 1) ('[' :: (gap ++ c :: rest)) =
      (readItems bound (c :: rest)).map fun (items, rest) => (.list items, rest) := by
  rw [readValue, skipBlanks_cons rfl]
  simp [skipBlanks_append hgap, skipBlanks_cons hblank, hc]

theorem readValue_openRecord (bound : Nat) {gap rest : List Char} {c : Char} (hgap : Blank gap)
    (hblank : isBlank c = false) (hc : c ≠ '}') :
    readValue (bound + 1) ('{' :: (gap ++ c :: rest)) =
      (readMembers bound (c :: rest)).map fun (members, rest) => (.record members, rest) := by
  rw [readValue, skipBlanks_cons rfl]
  simp [skipBlanks_append hgap, skipBlanks_cons hblank, hc]

namespace ReadsWithin

variable {bound : Nat} (hreads : ReadsWithin bound) {rest : List Char}
include hreads

theorem value_succ {value : Json} {chars : List Char} (hspells : Spells value chars)
    (hlength : chars.length ≤ bound + 1) (hstops : Stops rest) :
    readValue (bound + 1) (chars ++ rest) = some (value, rest) := by
  cases hspells with
  | null | yes | no =>
      rw [readValue, List.cons_append, skipBlanks_cons rfl]
      rfl
  | natural value =>
      have hread := readUnsigned_toDigits hstops value
      obtain ⟨c, digits, hdigits, hc⟩ := exists_toDigits_eq_cons value
      rw [hdigits, List.cons_append] at hread ⊢
      rw [readValue_digit bound hc, hread]
  | text hclosed =>
      rw [readValue, quote, List.cons_append, List.cons_append, List.append_assoc,
        skipBlanks_cons rfl]
      simp [hclosed rest]
  | emptyList hgap =>
      rw [readValue, List.cons_append, List.cons_append, List.append_assoc, skipBlanks_cons rfl]
      simp [skipBlanks_append hgap, skipBlanks_cons (rfl : isBlank ']' = false)]
  | emptyRecord hgap =>
      rw [readValue, List.cons_append, List.cons_append, List.append_assoc, skipBlanks_cons rfl]
      simp [skipBlanks_append hgap, skipBlanks_cons (rfl : isBlank '}' = false)]
  | list hgap hitem hitems =>
      obtain ⟨c, more, rfl, hblank, hc⟩ := hitem.exists_eq_cons
      have hread := hreads.items rest hitem hitems (by simp at hlength ⊢; omega)
      simp only [List.cons_append, List.append_assoc] at hread ⊢
      rw [readValue_open bound hgap hblank hc, hread]
      rfl
  | record hgap hmember hmembers =>
      have hread := hreads.members rest hmember hmembers (by simp at hlength ⊢; omega)
      cases hmember with
      | colon hclosed hbefore hafter hvalue =>
          simp only [quote, List.cons_append, List.append_assoc] at hread ⊢
          rw [readValue_openRecord bound hgap rfl (by decide), hread]
          rfl

theorem items_succ {item : Json} {items : List Json} {chars tail : List Char}
    (hitem : Spells item chars) (hitems : SpellsItems items tail)
    (hlength : chars.length + tail.length ≤ bound + 1) :
    readItems (bound + 1) (chars ++ tail ++ rest) = some (item :: items, rest) := by
  have hfirst : readValue bound (chars ++ (tail ++ rest)) = some (item, tail ++ rest) := by
    refine hreads.value hitem ?_ (hitems.stops rest)
    have hpositive : 0 < tail.length := hitems.length_pos
    omega
  rw [readItems, List.append_assoc, hfirst]
  cases hitems with
  | close hgap =>
      rw [List.append_assoc]
      simp [skipBlanks_append hgap, skipBlanks_cons (rfl : isBlank ']' = false)]
  | next hbefore hafter hsecond hmore =>
      have hread := hreads.items rest hsecond hmore (by simp at hlength ⊢; omega)
      simp only [List.append_assoc, List.cons_append] at hread ⊢
      simp [skipBlanks_append hbefore, skipBlanks_cons (rfl : isBlank ',' = false),
        readItems_append hafter, hread]

theorem members_succ {member : Quoted × Json} {members : List (Quoted × Json)}
    {chars tail : List Char} (hmember : SpellsMember member chars)
    (hmembers : SpellsMembers members tail)
    (hlength : chars.length + tail.length ≤ bound + 1) :
    readMembers (bound + 1) (chars ++ tail ++ rest) = some (member :: members, rest) := by
  cases hmember with
  | @colon key value before after chars hclosed hbefore hafter hvalue =>
      have hfirst : readValue bound (chars ++ (tail ++ rest)) = some (value, tail ++ rest) := by
        refine hreads.value hvalue ?_ (hmembers.stops rest)
        simp at hlength
        omega
      have hkey := hclosed (before ++ ':' :: (after ++ (chars ++ (tail ++ rest))))
      simp only [quote, List.append_assoc, List.cons_append, List.nil_append]
      rw [readMembers, skipBlanks_cons rfl]
      simp only [hkey, skipBlanks_append hbefore, skipBlanks_cons (rfl : isBlank ':' = false),
        readValue_append hafter, hfirst]
      cases hmembers with
      | close hgap =>
          rw [List.append_assoc]
          simp [skipBlanks_append hgap, skipBlanks_cons (rfl : isBlank '}' = false)]
      | next hbetween hnext hsecond hmore =>
          have hread := hreads.members rest hsecond hmore (by simp at hlength ⊢; omega)
          simp only [List.append_assoc, List.cons_append] at hread ⊢
          simp [skipBlanks_append hbetween, skipBlanks_cons (rfl : isBlank ',' = false),
            readMembers_append hnext, hread]

end ReadsWithin

/-- Each step of the reader leaves one step less for what is inside, which is shorter too. -/
theorem readsWithin (bound : Nat) : ReadsWithin bound := by
  induction bound with
  | zero =>
      refine ⟨fun hspells hlength _ => ?_, fun rest hitem hitems hlength => ?_,
        fun rest hmember hmembers hlength => ?_⟩
      · obtain ⟨_, _, rfl, _⟩ := hspells.exists_eq_cons
        cases hlength
      · obtain ⟨_, _, rfl, _⟩ := hitem.exists_eq_cons
        simp at hlength
      · cases hmember with
        | colon => simp [quote] at hlength
  | succ bound ih =>
      exact ⟨fun hspells hlength hstops => ih.value_succ hspells hlength hstops,
        fun _ hitem hitems hlength => ih.items_succ hitem hitems hlength,
        fun _ hmember hmembers hlength => ih.members_succ hmember hmembers hlength⟩

/-- Every way to write a value is read as the value, whatever blanks it has in it and around it. -/
theorem parse?_of_spells {value : Json} {before chars after : List Char}
    (hspells : Spells value chars) (hbefore : Blank before) (hafter : Blank after) :
    parse? (String.ofList (before ++ chars ++ after)) = some value := by
  have hstops : Stops after := by
    intro c hc
    exact endsNumber_of_isBlank (hafter c (List.mem_of_mem_head? hc))
  have hread : readValue (2 * (before ++ chars ++ after).length + 2) (before ++ chars ++ after) =
      some (value, after) := by
    rw [List.append_assoc, readValue_append hbefore]
    refine (readsWithin _).value hspells ?_ hstops
    simp only [List.length_append]
    omega
  have hnothing : skipBlanks after = [] := by
    rw [← List.append_nil after, skipBlanks_append hafter]
    rfl
  rw [parse?, String.toList_ofList]
  simp only [hread, hnothing]
  rfl

/-! ## Printing -/

/-- All literals in the value close, and all its numbers are digits. -/
inductive Plain : Json → Prop where
  | null : Plain .null
  | bool (value : Bool) : Plain (.bool value)
  | natural (value : Nat) : Plain (.natural value)
  | text {literal : Quoted} (hclosed : literal.Closed) : Plain (.text literal)
  | list {items : List Json} (hitems : ∀ item ∈ items, Plain item) : Plain (.list items)
  | record {members : List (Quoted × Json)} (hkeys : ∀ member ∈ members, member.1.Closed)
      (hvalues : ∀ member ∈ members, Plain member.2) : Plain (.record members)

theorem spellsItems_compact {items : List Json}
    (hitems : ∀ item ∈ items, Spells item (compactChars item)) :
    SpellsItems items (compactItems items) := by
  induction items with
  | nil => exact .close blank_nil
  | cons item items ih =>
      rw [List.forall_mem_cons] at hitems
      exact .next blank_nil blank_nil hitems.1 (ih hitems.2)

theorem spellsMembers_compact {members : List (Quoted × Json)}
    (hkeys : ∀ member ∈ members, member.1.Closed)
    (hvalues : ∀ member ∈ members, Spells member.2 (compactChars member.2)) :
    SpellsMembers members (compactMembers members) := by
  induction members with
  | nil => exact .close blank_nil
  | cons member members ih =>
      obtain ⟨key, value⟩ := member
      rw [List.forall_mem_cons] at hkeys hvalues
      have htail := SpellsMembers.next blank_nil blank_nil
        (.colon hkeys.1 blank_nil blank_nil hvalues.1) (ih hkeys.2 hvalues.2)
      simpa [compactMembers] using htail

theorem spells_compactChars {value : Json} (hplain : Plain value) :
    Spells value (compactChars value) := by
  induction hplain with
  | null => exact .null
  | bool value => cases value; exacts [.no, .yes]
  | natural value => exact .natural value
  | text hclosed => exact .text hclosed
  | @list items _ ih =>
      cases items with
      | nil => exact .emptyList blank_nil
      | cons item items =>
          rw [List.forall_mem_cons] at ih
          exact .list blank_nil ih.1 (spellsItems_compact ih.2)
  | @record members hkeys _ ih =>
      cases members with
      | nil => exact .emptyRecord blank_nil
      | cons member members =>
          obtain ⟨key, value⟩ := member
          rw [List.forall_mem_cons] at hkeys ih
          have hrecord := Spells.record blank_nil (.colon hkeys.1 blank_nil blank_nil ih.1)
            (spellsMembers_compact hkeys.2 ih.2)
          simpa [compactChars] using hrecord

theorem spellsItems_pretty {depth : Nat} {items : List Json}
    (hitems : ∀ item ∈ items, Spells item (prettyChars (depth + 1) item)) :
    SpellsItems items (prettyItems depth items) := by
  induction items with
  | nil => exact .close (blank_newline depth)
  | cons item items ih =>
      rw [List.forall_mem_cons] at hitems
      exact .next blank_nil (blank_newline (depth + 1)) hitems.1 (ih hitems.2)

theorem spellsMembers_pretty {depth : Nat} {members : List (Quoted × Json)}
    (hkeys : ∀ member ∈ members, member.1.Closed)
    (hvalues : ∀ member ∈ members, Spells member.2 (prettyChars (depth + 1) member.2)) :
    SpellsMembers members (prettyMembers depth members) := by
  induction members with
  | nil => exact .close (blank_newline depth)
  | cons member members ih =>
      obtain ⟨key, value⟩ := member
      rw [List.forall_mem_cons] at hkeys hvalues
      have htail := SpellsMembers.next blank_nil (blank_newline (depth + 1))
        (.colon hkeys.1 blank_nil blank_space hvalues.1) (ih hkeys.2 hvalues.2)
      simpa [prettyMembers] using htail

theorem spells_prettyChars {value : Json} (hplain : Plain value) (depth : Nat) :
    Spells value (prettyChars depth value) := by
  induction hplain generalizing depth with
  | null => exact .null
  | bool value => cases value; exacts [.no, .yes]
  | natural value => exact .natural value
  | text hclosed => exact .text hclosed
  | @list items _ ih =>
      cases items with
      | nil => exact .emptyList blank_nil
      | cons item items =>
          rw [List.forall_mem_cons] at ih
          exact .list (blank_newline (depth + 1)) (ih.1 _)
            (spellsItems_pretty fun item hitem => ih.2 item hitem _)
  | @record members hkeys _ ih =>
      cases members with
      | nil => exact .emptyRecord blank_nil
      | cons member members =>
          obtain ⟨key, value⟩ := member
          rw [List.forall_mem_cons] at hkeys ih
          have hrecord := Spells.record (blank_newline (depth + 1))
            (.colon hkeys.1 blank_nil blank_space (ih.1 (depth + 1)))
            (spellsMembers_pretty hkeys.2 fun member hmember => ih.2 member hmember (depth + 1))
          simpa [prettyChars] using hrecord

theorem parse?_compact {value : Json} (hplain : Plain value) :
    parse? value.compact = some value := by
  have hparse := parse?_of_spells (spells_compactChars hplain) blank_nil blank_nil
  rwa [List.nil_append, List.append_nil] at hparse

theorem parse?_pretty {value : Json} (hplain : Plain value) :
    parse? value.pretty = some value := by
  have hparse := parse?_of_spells (spells_prettyChars hplain 0) blank_nil blank_nil
  rwa [List.nil_append, List.append_nil] at hparse

/-- A file that holds a text is read as the text is. -/
theorem parseContents?_toUTF8 (text : String) : parseContents? text.toUTF8 = parse? text := by
  have hvalid : text.toUTF8.IsValidUTF8 := text.isValidUTF8
  rw [parseContents?, String.fromUTF8?, dif_pos hvalid]
  rfl

end Purse.Json
