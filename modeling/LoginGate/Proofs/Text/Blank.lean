import LoginGate.Text.Blank
import Mathlib.Data.List.DropRight

/-!
# Trimmed texts

## Main results

* `trimChars_eq_nil_iff`, `isBlankText_trim` : nothing is left of a blank text, and of no other.
* `trimChars_surrounded`, `trim_trim` : blanks around a text do not matter, and what is trimmed
  stays as it is.
* `sep_eq_false_of_runsOf`, `not_mem_of_splitAt` : separators are in no piece.
-/

namespace LoginGate

variable {c : Char} {cs : List Char}

/-! ### Trimming -/

theorem trimChars_eq (cs : List Char) :
    trimChars cs = (cs.dropWhile isBlank).rdropWhile isBlank := rfl

/-- Nothing is left of blanks, and of nothing else. -/
theorem trimChars_eq_nil_iff : trimChars cs = [] ↔ ∀ c ∈ cs, isBlank c := by
  rw [trimChars_eq, List.rdropWhile_eq_nil_iff]
  constructor
  · intro h
    by_contra hcs
    have hne : cs.dropWhile isBlank ≠ [] := by rwa [ne_eq, List.dropWhile_eq_nil_iff]
    have hhead := List.head_dropWhile_not isBlank hne
    rw [h _ (List.head_mem hne)] at hhead
    cases hhead
  · intro h c hc
    exact h c ((List.dropWhile_sublist _).subset hc)

theorem mem_of_mem_trimChars (h : c ∈ trimChars cs) : c ∈ cs :=
  (List.dropWhile_sublist _).subset ((List.rdropWhile_prefix _ _).subset h)

/-- Blanks around a text are trimmed, whatever they are. -/
theorem trimChars_surrounded {before after : List Char} (hbefore : ∀ c ∈ before, isBlank c)
    (hafter : ∀ c ∈ after, isBlank c) : trimChars (before ++ cs ++ after) = trimChars cs := by
  by_cases hcs : ∀ c ∈ cs, isBlank c
  · have hall : ∀ c ∈ before ++ cs ++ after, isBlank c := by
      simp only [List.forall_mem_append]
      exact ⟨⟨hbefore, hcs⟩, hafter⟩
    rw [trimChars_eq_nil_iff.mpr hall, trimChars_eq_nil_iff.mpr hcs]
  · have hstart : (before ++ cs ++ after).dropWhile isBlank = cs.dropWhile isBlank ++ after := by
      rw [List.append_assoc, List.dropWhile_append_of_pos hbefore, List.dropWhile_append, if_neg]
      rwa [List.isEmpty_iff, List.dropWhile_eq_nil_iff]
    rw [trimChars_eq, hstart, trimChars_eq, List.rdropWhile, List.reverse_append,
      List.dropWhile_append_of_pos fun c hc => hafter c (List.mem_reverse.mp hc), List.rdropWhile]

theorem trimChars_trimChars (cs : List Char) : trimChars (trimChars cs) = trimChars cs := by
  have hstart : (trimChars cs).dropWhile isBlank = trimChars cs := by
    rw [List.dropWhile_eq_self_iff]
    intro hpos
    have hprefix := List.rdropWhile_prefix isBlank (cs.dropWhile isBlank)
    have hhead : (trimChars cs)[0] = _ := hprefix.getElem hpos
    rw [hhead]
    exact List.dropWhile_get_zero_not isBlank cs (Nat.lt_of_lt_of_le hpos hprefix.length_le)
  rw [trimChars_eq (trimChars cs), hstart, trimChars_eq cs, List.rdropWhile_idempotent]

theorem isBlankText_iff {text : String} : isBlankText text ↔ trimChars text.toList = [] := by
  rw [isBlankText, List.all_eq_true, trimChars_eq_nil_iff]

/-- What is trimmed stays as it is. -/
theorem trim_trim (text : String) : trim (trim text) = trim text := by
  simp [trim, trimChars_trimChars]

/-- Trimming makes no text blank, and no blank text anything else. -/
theorem isBlankText_trim (text : String) : isBlankText (trim text) = isBlankText text := by
  rw [Bool.eq_iff_iff, isBlankText_iff, isBlankText_iff, trim, String.toList_ofList,
    trimChars_trimChars]

/-! ### Pieces -/

/-- No separator is in a run. -/
theorem sep_eq_false_of_runsOf (sep : Char → Bool) (cs : List Char) :
    ∀ run ∈ runsOf sep cs, ∀ c ∈ run, sep c = false := by
  fun_induction runsOf sep cs with
  | case1 => simp
  | case2 c rest hc ih => exact ih
  | case3 c hc => simpa using hc
  | case4 c hc d rest hd ih => simpa [hc] using ih
  | case5 c hc d rest hd hruns ih => simpa [hruns] using hc
  | case6 c hc d rest hd run runs hruns ih =>
    rw [hruns, List.forall_mem_cons] at ih
    simp only [hruns, List.forall_mem_cons]
    exact ⟨⟨Bool.eq_false_iff.mpr hc, ih.1⟩, ih.2⟩

/-- No separator is in a piece. -/
theorem not_mem_of_splitAt (sep : Char) (cs : List Char) :
    ∀ piece ∈ splitAt sep cs, sep ∉ piece := by
  fun_induction splitAt sep cs with
  | case1 => simp
  | case2 rest ih => simpa using ih
  | case3 c rest hc hpieces ih => exact absurd hpieces (splitAt_ne_nil sep rest)
  | case4 c rest hc piece pieces hpieces ih =>
    rw [hpieces, List.forall_mem_cons] at ih
    simp only [List.forall_mem_cons]
    exact ⟨List.not_mem_cons_of_ne_of_not_mem (Ne.symm hc) ih.1, ih.2⟩

end LoginGate
