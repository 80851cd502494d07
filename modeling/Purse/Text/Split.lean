/-!
# Splitting a text at a separator
-/

namespace Purse.Text

/-- What stands before and after the first `separator`, if there is one. -/
def splitFirst? (separator : Char) : List Char → Option (List Char × List Char)
  | [] => none
  | c :: rest =>
      if c = separator then some ([], rest)
      else (splitFirst? separator rest).map fun (before, after) => (c :: before, after)

/-- What stands before and after the last `separator`, if there is one. -/
def splitLast? (separator : Char) : List Char → Option (List Char × List Char)
  | [] => none
  | c :: rest =>
      match splitLast? separator rest with
      | some (before, after) => some (c :: before, after)
      | none => if c = separator then some ([], rest) else none

/-- What stands between the separators. There is one part more than there are separators. -/
def splitAll (separator : Char) : List Char → List (List Char)
  | [] => [[]]
  | c :: rest =>
      if c = separator then [] :: splitAll separator rest
      else
        match splitAll separator rest with
        | [] => [[c]]
        | part :: parts => (c :: part) :: parts

theorem splitFirst?_eq_some {separator : Char} {text before after : List Char}
    (hsplit : splitFirst? separator text = some (before, after)) :
    text = before ++ separator :: after ∧ separator ∉ before := by
  induction text generalizing before with
  | nil => simp [splitFirst?] at hsplit
  | cons c rest ih =>
      by_cases hc : c = separator
      · simp [splitFirst?, hc] at hsplit
        obtain ⟨rfl, rfl⟩ := hsplit
        simp [hc]
      · simp only [splitFirst?, hc, if_false, Option.map_eq_some_iff, Prod.mk.injEq] at hsplit
        obtain ⟨⟨front, back⟩, hrest, rfl, rfl⟩ := hsplit
        obtain ⟨htext, hfront⟩ := ih hrest
        exact ⟨by simp [htext], by simp [hfront, Ne.symm hc]⟩

theorem splitLast?_eq_some {separator : Char} {text before after : List Char}
    (hsplit : splitLast? separator text = some (before, after)) :
    text = before ++ separator :: after := by
  induction text generalizing before with
  | nil => simp [splitLast?] at hsplit
  | cons c rest ih =>
      simp only [splitLast?] at hsplit
      split at hsplit
      · rename_i front back hrest
        simp only [Option.some.injEq, Prod.mk.injEq] at hsplit
        obtain ⟨rfl, rfl⟩ := hsplit
        simp [ih hrest]
      · split at hsplit
        · simp only [Option.some.injEq, Prod.mk.injEq] at hsplit
          obtain ⟨rfl, rfl⟩ := hsplit
          simp_all
        · cases hsplit

end Purse.Text
