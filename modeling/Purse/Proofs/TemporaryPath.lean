import Mathlib
import Purse.Disk.Path

/-!
# The path beside a path

A path with a new extension ends in a new name, unless the extension was there before.  Paths that
end in no name stay as they are.
-/

namespace Purse

namespace Text

variable {separator : Char}

theorem splitAll_ne_nil (text : List Char) : splitAll separator text ≠ [] := by
  induction text with
  | nil => exact List.cons_ne_nil _ _
  | cons c rest ih =>
      rw [splitAll]
      split_ifs
      · exact List.cons_ne_nil _ _
      · split
        · exact List.cons_ne_nil _ _
        · exact List.cons_ne_nil _ _

theorem splitAll_append_separator (front rest : List Char) :
    splitAll separator (front ++ separator :: rest) =
      splitAll separator front ++ splitAll separator rest := by
  induction front with
  | nil => simp [splitAll]
  | cons c front ih =>
      by_cases hc : c = separator
      · simp [splitAll, hc, ih]
      · rw [List.cons_append, splitAll, if_neg hc, ih, splitAll, if_neg hc]
        cases hfront : splitAll separator front with
        | nil => exact absurd hfront (splitAll_ne_nil front)
        | cons part parts => rfl

theorem splitAll_of_not_mem {part : List Char} (hpart : separator ∉ part) :
    splitAll separator part = [part] := by
  induction part with
  | nil => rfl
  | cons c part ih =>
      rw [List.mem_cons, not_or] at hpart
      rw [splitAll, if_neg (Ne.symm hpart.1), ih hpart.2]

end Text

namespace Path

/-! ## The last step -/

/-- What stands between slashes, empty parts left out. -/
def parts (text : List Char) : List (List Char) :=
  (Text.splitAll '/' text).filter fun part => part ≠ []

theorem steps_eq (path : Path) : path.steps = (parts path.text.toList).map String.ofList := rfl

theorem parts_append_slash (front rest : List Char) :
    parts (front ++ '/' :: rest) = parts front ++ parts rest := by
  rw [parts, Text.splitAll_append_separator, List.filter_append]
  rfl

theorem parts_of_not_mem {name : List Char} (hslash : '/' ∉ name) (hname : name ≠ []) :
    parts name = [name] := by
  rw [parts, Text.splitAll_of_not_mem hslash, List.filter_cons, if_pos (decide_eq_true hname)]
  rfl

/-- A name after a slash, or after nothing, is the last part. -/
theorem getLast?_parts_append {front name : List Char} (hfront : ∀ c ∈ front.getLast?, c = '/')
    (hslash : '/' ∉ name) (hname : name ≠ []) : (parts (front ++ name)).getLast? = some name := by
  rcases List.eq_nil_or_concat front with rfl | ⟨front, c, rfl⟩
  · rw [List.nil_append, parts_of_not_mem hslash hname, List.getLast?_singleton]
  · have hc : c = '/' := hfront c (by simp)
    rw [List.concat_eq_append, List.append_assoc, List.singleton_append, hc, parts_append_slash,
      parts_of_not_mem hslash hname, List.getLast?_append, List.getLast?_singleton,
      Option.some_or]

/-- What stands between the last slashes and those before them. -/
def lastPart (path : Path) : List Char :=
  ((path.text.toList.reverse.dropWhile (· = '/')).takeWhile (· ≠ '/')).reverse

theorem slash_notMem_takeWhile (text : List Char) : '/' ∉ text.takeWhile (· ≠ '/') := by
  intro hslash
  simpa using List.mem_takeWhile_imp hslash

theorem eq_slash_of_mem_getLast?_dropWhile (text : List Char) {c : Char}
    (hc : c ∈ (text.dropWhile (· ≠ '/')).reverse.getLast?) : c = '/' := by
  rw [List.getLast?_reverse] at hc
  have hhead := List.head?_dropWhile_not (· ≠ '/') text
  rw [hc] at hhead
  simpa using hhead

theorem getLast?_parts_reverse (text : List Char) :
    (parts text.reverse).getLast? =
      (some ((text.dropWhile (· = '/')).takeWhile (· ≠ '/')).reverse).filter (· ≠ []) := by
  induction text with
  | nil => rfl
  | cons c rest ih =>
      by_cases hc : c = '/'
      · subst hc
        rw [List.reverse_cons, parts_append_slash, List.dropWhile_cons_of_pos (by simp), ← ih]
        exact congrArg _ (List.append_nil _)
      · have hname : ((c :: rest).takeWhile (· ≠ '/')).reverse ≠ [] := by simp [hc]
        have hsplit : (c :: rest).takeWhile (· ≠ '/') ++ (c :: rest).dropWhile (· ≠ '/') =
            c :: rest := List.takeWhile_append_dropWhile
        have hparts := getLast?_parts_append
          (fun _ => eq_slash_of_mem_getLast?_dropWhile (c :: rest))
          (fun hslash => slash_notMem_takeWhile (c :: rest) (List.mem_reverse.1 hslash)) hname
        rw [← List.reverse_append, hsplit] at hparts
        rw [hparts, List.dropWhile_cons_of_neg (by simpa using hc), Option.filter_some, if_pos]
        exact decide_eq_true hname

theorem getLast?_steps (path : Path) :
    path.steps.getLast? = ((some path.lastPart).filter (· ≠ [])).map String.ofList := by
  have hparts := getLast?_parts_reverse path.text.toList.reverse
  rw [List.reverse_reverse] at hparts
  rw [steps_eq, List.getLast?_map, hparts, lastPart]

/-! ## The extension -/

/-- The name at the end. Slashes and single dots after it do not count. -/
def lastName (path : Path) : List Char :=
  ((dropEndReversed path.text.toList.reverse).takeWhile (· ≠ '/')).reverse

/-- What stands before the name at the end. -/
def front (path : Path) : List Char :=
  ((dropEndReversed path.text.toList.reverse).dropWhile (· ≠ '/')).reverse

/-- What stands after the last dot of the name at the end, unless the name starts with that dot. -/
def extension? (path : Path) : Option String :=
  if path.lastName = ['.', '.'] then none
  else
    match Text.splitLast? '.' path.lastName with
    | some (_ :: _, after) => some (String.ofList after)
    | _ => none

theorem dropEndReversed_eq (text : List Char)
    (hdot : (text.dropWhile (· = '/')).takeWhile (· ≠ '/') ≠ ['.']) :
    dropEndReversed text = text.dropWhile (· = '/') := by
  fun_induction dropEndReversed text with
  | case1 rest ih =>
      rw [List.dropWhile_cons_of_pos (by simp)] at hdot ⊢
      exact ih hdot
  | case2 rest ih =>
      rw [List.dropWhile_cons_of_neg (by simp)] at hdot
      exact absurd rfl hdot
  | case3 text hslash hdots =>
      cases text with
      | nil => rfl
      | cons c rest =>
          have hc : c ≠ '/' := fun heq => hslash rest (heq ▸ rfl)
          rw [List.dropWhile_cons_of_neg (by simpa using hc)]

theorem lastName_eq {path : Path} (hdot : path.lastPart ≠ ['.']) :
    path.lastName = path.lastPart := by
  have hreversed : (path.text.toList.reverse.dropWhile (· = '/')).takeWhile (· ≠ '/') ≠ ['.'] :=
    fun heq => hdot (congrArg List.reverse heq)
  rw [lastName, dropEndReversed_eq _ hreversed, lastPart]

/-- Only names get an extension. -/
theorem withExtension_of_lastName {path : Path} (extension : String)
    (hname : path.lastName = [] ∨ path.lastName = ['.'] ∨ path.lastName = ['.', '.']) :
    path.withExtension extension = path :=
  if_pos hname

theorem withExtension_eq {path : Path} (extension : String)
    (hname : ¬ (path.lastName = [] ∨ path.lastName = ['.'] ∨ path.lastName = ['.', '.'])) :
    path.withExtension extension = ⟨String.ofList (path.front ++ ['.', '.'])⟩ ∨
      path.withExtension extension =
        ⟨String.ofList (path.front ++ (stem path.lastName ++ '.' :: extension.toList))⟩ := by
  have hrest : path.withExtension extension =
      if stem path.lastName = ['.'] ∧
          dropEndReversed path.text.toList.reverse = path.text.toList.reverse then
        ⟨String.ofList (path.front ++ ['.', '.'])⟩
      else ⟨String.ofList (path.front ++ stem path.lastName ++ '.' :: extension.toList)⟩ :=
    if_neg hname
  rw [hrest, List.append_assoc]
  split_ifs
  · exact .inl rfl
  · exact .inr rfl

theorem stem_subset (name : List Char) : stem name ⊆ name := by
  rw [stem]
  split
  · exact List.Subset.refl _
  · rename_i hsplit
    rw [Text.splitLast?_eq_some hsplit]
    exact List.subset_append_left _ _
  · exact List.Subset.refl _

theorem stem_append_ne {name extension : List Char}
    (hextension : ∀ c before, Text.splitLast? '.' name ≠ some (c :: before, extension)) :
    stem name ++ '.' :: extension ≠ name := by
  intro heq
  rw [stem] at heq
  split at heq
  · simpa using congrArg List.length heq
  · rename_i before after hnonempty hsplit
    have hafter : extension = after := by
      simpa using heq.trans (Text.splitLast?_eq_some hsplit)
    cases before with
    | nil => exact hnonempty rfl
    | cons c before => exact hextension c before (hafter ▸ hsplit)
  · simpa using congrArg List.length heq

theorem lastPart_of_getLast?_steps {path : Path} {name : String}
    (hname : path.steps.getLast? = some name) :
    path.lastPart ≠ [] ∧ path.lastPart = name.toList := by
  rw [getLast?_steps] at hname
  obtain ⟨part, hpart, rfl⟩ := Option.map_eq_some_iff.1 hname
  obtain ⟨hsome, hne⟩ := Option.filter_eq_some_iff.1 hpart
  cases hsome
  exact ⟨of_decide_eq_true hne, String.toList_ofList.symm⟩

theorem getLast?_steps_append {path : Path} {name : List Char} (hslash : '/' ∉ name)
    (hname : name ≠ []) :
    (Path.mk (String.ofList (path.front ++ name))).steps.getLast? = some (String.ofList name) := by
  have hparts := getLast?_parts_append
    (fun _ => eq_slash_of_mem_getLast?_dropWhile (dropEndReversed path.text.toList.reverse))
    hslash hname
  rw [steps_eq, List.getLast?_map, String.toList_ofList, front, hparts, Option.map_some]

/-- The new text ends in the name without its old extension and with the new one. Two dots that are
left over are taken for no name. -/
theorem getLast?_steps_withExtension {path : Path} {extension : String}
    (hslash : '/' ∉ extension.toList)
    (hname : ¬ (path.lastName = [] ∨ path.lastName = ['.'] ∨ path.lastName = ['.', '.'])) :
    (path.withExtension extension).steps.getLast? = some ".." ∨
      (path.withExtension extension).steps.getLast? =
        some (String.ofList (stem path.lastName ++ '.' :: extension.toList)) := by
  have hstem : '/' ∉ stem path.lastName ++ '.' :: extension.toList := by
    intro hmem
    rcases List.mem_append.1 hmem with hname | hrest
    · exact slash_notMem_takeWhile _ (List.mem_reverse.1 (stem_subset _ hname))
    · rcases List.mem_cons.1 hrest with hdot | hextension
      · exact absurd hdot (by decide)
      · exact hslash hextension
  rcases withExtension_eq extension hname with htwo | hnew
  · exact .inl (htwo ▸ getLast?_steps_append (by decide) (List.cons_ne_nil _ _))
  · exact .inr (hnew ▸ getLast?_steps_append hstem (by simp))

/-- The new last step, where it is a name, is one that the path did not end in. -/
theorem getLast?_steps_withExtension_ne {path : Path} {extension name : String}
    (hslash : '/' ∉ extension.toList) (hextension : path.extension? ≠ some extension)
    (hname : path.steps.getLast? = some name) (hdot : name ≠ ".") (hdots : name ≠ "..") :
    (path.withExtension extension).steps.getLast? = some ".." ∨
      (path.withExtension extension).steps.getLast? ≠ some name := by
  obtain ⟨hnonempty, hpart⟩ := lastPart_of_getLast?_steps hname
  have hne {part : List Char} (htext : name ≠ String.ofList part) : path.lastPart ≠ part := by
    rintro rfl
    exact htext (by rw [hpart, String.ofList_toList])
  have hlastName := lastName_eq (hne hdot)
  rw [← hlastName] at hnonempty hpart
  have hdotsName : path.lastName ≠ ['.', '.'] := hlastName ▸ hne hdots
  have hdotName : path.lastName ≠ ['.'] := hlastName ▸ hne hdot
  rcases getLast?_steps_withExtension hslash
      (not_or.2 ⟨hnonempty, not_or.2 ⟨hdotName, hdotsName⟩⟩) with htwo | hnew
  · exact .inl htwo
  · right
    rw [hnew]
    intro heq
    refine stem_append_ne (fun c before hsplit => ?_)
      ((String.toList_ofList.symm.trans (congrArg String.toList (Option.some.inj heq))).trans
        hpart.symm)
    rw [extension?, if_neg hdotsName, hsplit] at hextension
    exact hextension (congrArg some String.ofList_toList)

/-- A path that ends in two dots, or in nothing, has no name to change. -/
theorem withExtension_of_getLast?_steps {path : Path} (extension : String)
    (hlast : path.steps.getLast? = none ∨ path.steps.getLast? = some "..") :
    path.withExtension extension = path := by
  apply withExtension_of_lastName
  rcases hlast with hnone | htwo
  · left
    have hpart : path.lastPart = [] := by
      rw [getLast?_steps, Option.map_eq_none_iff, Option.filter_eq_none_iff] at hnone
      simpa using hnone path.lastPart rfl
    rw [lastName_eq (by rw [hpart]; decide), hpart]
  · right
    right
    have hpart : path.lastPart = ['.', '.'] := (lastPart_of_getLast?_steps htwo).2
    rw [lastName_eq (by rw [hpart]; decide), hpart]

end Path

end Purse
