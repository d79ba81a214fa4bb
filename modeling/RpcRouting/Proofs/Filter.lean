import Mathlib
import RpcRouting.Log.Filter
/-!
Log filters. A filter is checked directive by directive, so that filters behind one another are
checked one after the other. A filter that gives levels to targets is accepted exactly if all these
levels are known.
-/

set_option autoImplicit false
set_option relaxedAutoImplicit false

namespace RpcRouting

namespace Text

theorem blankRanges_apart : ∀ r ∈ blankRanges, ∀ s ∈ alphanumericRanges,
    r.2 < s.1 ∨ s.2 < r.1 := by
  decide +kernel

theorem isBlank_eq_false_of_ascii {c : Char} (low : 0x20 < c.toNat) (high : c.toNat < 0x80) :
    isBlank c = false := by
  simp [isBlank, blankRanges]
  omega

theorem isBlank_eq_false_of_isAlphanum {c : Char} (alphanum : c.isAlphanum) :
    isBlank c = false := by
  simp only [Char.isAlphanum, Char.isAlpha, Char.isUpper, Char.isLower, Char.isDigit,
    Bool.or_eq_true, Bool.and_eq_true, decide_eq_true_eq, ge_iff_le, UInt32.le_iff_toNat_le,
    Char.toNat_val, Char.reduceToNat] at alphanum
  apply isBlank_eq_false_of_ascii <;> omega

theorem isBlank_eq_false_of_isAlphanumeric {c : Char} (alphanumeric : isAlphanumeric c) :
    isBlank c = false := by
  rw [isAlphanumeric, Bool.or_eq_true] at alphanumeric
  obtain ascii | wide := alphanumeric
  · exact isBlank_eq_false_of_isAlphanum ascii
  · obtain ⟨s, known, inside⟩ := List.any_eq_true.1 wide
    rw [Bool.and_eq_true, decide_eq_true_eq, decide_eq_true_eq] at inside
    rw [isBlank, List.any_eq_false]
    intro r blank outside
    rw [Bool.and_eq_true, decide_eq_true_eq, decide_eq_true_eq] at outside
    have apart := blankRanges_apart r blank s known
    omega

end Text

namespace LogFilter

theorem parts_eq_splitOn (separator : Char) (cs : List Char) :
    parts separator cs = cs.splitOn separator := by
  induction cs with
  | nil => simp [parts]
  | cons c rest ih =>
    rw [parts, List.splitOn_cons_eq_if_modifyHead, ih]
    by_cases same : c = separator
    · simp [same]
    · obtain ⟨part, others, split⟩ :=
        List.exists_cons_of_ne_nil (List.splitOn_ne_nil separator rest)
      simp [same, split]

/-- Filters behind one another are checked one after the other. -/
theorem check_append (filter filter' : String) :
    check (filter ++ "," ++ filter') = (do check filter; check filter') := by
  have joined : (filter ++ "," ++ filter').toList = filter.toList ++ ',' :: filter'.toList := by
    simp [String.toList_append]
  rw [check, check, check, joined, parts_eq_splitOn, List.splitOn_append_cons_self,
    List.filter_append, List.forM_eq_forM, List.forM_append, parts_eq_splitOn, parts_eq_splitOn]

theorem rdropWhile_append_cons {p : Char → Bool} {c : Char} (kept : p c = false)
    (before after : List Char) :
    (before ++ c :: after).rdropWhile p = before ++ c :: after.rdropWhile p := by
  induction after using List.reverseRecOn with
  | nil => rw [List.rdropWhile_nil, List.rdropWhile_concat_neg _ _ _ (by simp [kept])]
  | append_singleton after last ih =>
    rw [← List.cons_append, ← List.append_assoc, List.rdropWhile_concat, List.rdropWhile_concat, ih]
    split
    · rfl
    · simp

theorem not_blank_of_isLevel {level : List Char} (known : isLevel level) :
    ∀ c ∈ level, Text.isBlank c = false := by
  intro c member
  rw [isLevel, Bool.or_eq_true, Bool.or_eq_true] at known
  obtain (empty | named) | number := known
  · rw [List.isEmpty_iff.1 empty] at member
    cases member
  · obtain ⟨name, listed, same⟩ := List.any_eq_true.1 named
    have letters : ∀ name ∈ levelNames, ∀ d ∈ name.toList, d.isLower := by
      simp [levelNames]
    have lower : c.toLower ∈ name.toList := by
      rw [of_decide_eq_true same]
      exact List.mem_map_of_mem member
    have letter := letters name listed _ lower
    rw [Char.isLower_toLower_eq_isAlpha] at letter
    exact Text.isBlank_eq_false_of_isAlphanum (by simp [Char.isAlphanum, letter])
  · rw [isLevelNumber, Bool.and_eq_true, Bool.and_eq_true, List.all_eq_true] at number
    have figures := number.1.2
    have own : c = '+' ∨ c.isDigit := by
      split at figures
      · next plus =>
        obtain ⟨rest, rfl⟩ := List.head?_eq_some_iff.1 plus
        exact (List.mem_cons.1 member).imp id (figures c)
      · exact .inr (figures c member)
    obtain rfl | digit := own
    · rfl
    · exact Text.isBlank_eq_false_of_isAlphanum (by simp [Char.isAlphanum, digit])

theorem not_blank_of_beginsTarget {c : Char} (begins : beginsTarget c) :
    Text.isBlank c = false := by
  simp only [beginsTarget, Bool.or_eq_true, decide_eq_true_eq] at begins
  obtain ((rfl | rfl) | rfl) | alphanumeric := begins
  · rfl
  · rfl
  · rfl
  · exact Text.isBlank_eq_false_of_isAlphanumeric alphanumeric

/-- The text can stand as a target in front of a level. -/
structure IsTarget (target : List Char) : Prop where
  begins : ∃ c rest, target = c :: rest ∧ beginsTarget c
  inner : ∀ c ∈ target, c ∉ [',', '=', '[']

namespace IsTarget

variable {target : List Char} (isTarget : IsTarget target) (level : List Char)

include isTarget

theorem trimChars_assignment :
    Text.trimChars (target ++ '=' :: level) = target ++ '=' :: level.rdropWhile Text.isBlank := by
  obtain ⟨c, rest, rfl, begins⟩ := isTarget.begins
  have first : (c :: rest ++ '=' :: level).dropWhile Text.isBlank = c :: rest ++ '=' :: level := by
    rw [List.cons_append, List.dropWhile_cons_of_neg]
    simp [not_blank_of_beginsTarget begins]
  rw [Text.trimChars, first]
  exact rdropWhile_append_cons rfl (c :: rest) level

theorem afterTarget?_assignment : afterTarget? (target ++ '=' :: level) = some ('=' :: level) := by
  have passed : (target ++ '=' :: level).dropWhile (fun c => c ≠ '=' && c ≠ '[') =
      '=' :: level := by
    rw [List.dropWhile_append_of_pos]
    · rfl
    · intro c member
      have other := isTarget.inner c member
      simp_all
  rw [afterTarget?, passed]
  rfl

theorem checkDirective_assignment : checkDirective (target ++ '=' :: level) =
    if isLevel level then .ok () else .error .unknownLevel := by
  have begins : (target ++ '=' :: level.rdropWhile Text.isBlank).head?.any
      (fun c => c = '[' || beginsTarget c) = true := by
    obtain ⟨c, rest, rfl, begins⟩ := isTarget.begins
    simp [begins]
  simp only [checkDirective, isTarget.trimChars_assignment, begins,
    isTarget.afterTarget?_assignment, if_true]
  by_cases known : isLevel level
  · have trimmed : level.rdropWhile Text.isBlank = level := by
      apply List.rdropWhile_eq_self_iff.2
      intro full
      simp [not_blank_of_isLevel known _ (List.getLast_mem full)]
    simp [trimmed, known]
  · have refused : ¬ (target ++ '=' :: level.rdropWhile Text.isBlank = target ++ '=' :: level ∧
        isLevel (level.rdropWhile Text.isBlank)) := by
      rintro ⟨same, known'⟩
      have trimmed := (List.cons.inj (List.append_cancel_left same)).2
      exact known (trimmed ▸ known')
    rw [if_neg refused, if_neg known]

end IsTarget

theorem check_assignment {target level : String} (isTarget : IsTarget target.toList)
    (inner : ',' ∉ level.toList) : check (target ++ "=" ++ level) =
      if isLevel level.toList then .ok () else .error .unknownLevel := by
  have chars : (target ++ "=" ++ level).toList = target.toList ++ '=' :: level.toList := by
    simp [String.toList_append]
  have whole : ',' ∉ target.toList ++ '=' :: level.toList := by
    intro member
    obtain own | own : ',' ∈ target.toList ∨ ',' ∈ level.toList := by simpa using member
    · exact isTarget.inner ',' own (by decide)
    · exact inner own
  rw [check, chars, parts_eq_splitOn, List.splitOn_eq_singleton whole]
  simp [isTarget.checkDirective_assignment]

/-- A filter that gives levels to targets is accepted exactly if all the levels are known. Even then
a log is not installed where there is one. -/
theorem install_assignments (installed : Bool) (directives : List (String × String))
    (formed : ∀ d ∈ directives, IsTarget d.1.toList ∧ ',' ∉ d.2.toList) :
    install installed (",".intercalate (directives.map fun d => d.1 ++ "=" ++ d.2)) =
      if ∀ d ∈ directives, isLevel d.2.toList then
        if installed then .error .alreadyInstalled else .ok ()
      else .error .unknownLevel := by
  have checked : check (",".intercalate (directives.map fun d => d.1 ++ "=" ++ d.2)) =
      if ∀ d ∈ directives, isLevel d.2.toList then .ok () else .error .unknownLevel := by
    induction directives with
    | nil => rfl
    | cons d rest ih =>
      obtain ⟨isTarget, inner⟩ := formed d List.mem_cons_self
      have first := check_assignment isTarget inner
      have others := ih fun e member => formed e (List.mem_cons_of_mem d member)
      cases rest with
      | nil => simpa using first
      | cons e rest =>
        rw [List.map_cons, String.intercalate_cons_of_ne_nil (by simp), check_append, first, others]
        by_cases known : isLevel d.2.toList
        · rw [if_pos known]
          simp only [List.forall_mem_cons (a := d), known, true_and]
          rfl
        · have unknown : ¬ ∀ d' ∈ d :: e :: rest, isLevel d'.2.toList :=
            fun all => known (all d List.mem_cons_self)
          rw [if_neg known, if_neg unknown]
          rfl
  rw [install, checked]
  split
  · cases installed <;> rfl
  · rfl

end LogFilter

end RpcRouting
