import LoginGate.Proofs.Text.Blank

/-!
# Maximal runs

A place in a text is cut out by what stands before it and what stands behind it. It is a maximal run
outside a class of separators if it is not empty, holds no separator, and cannot be extended in
either direction. The runs that a text is split into are all of its maximal runs, in the order of
their places (`areMaximalRuns_iff`). The proof goes along the recursion of the split: a character at
the start of a text is a separator and in no run, or it is a run of its own, or it extends the run
that begins behind it.

## Main definitions

* `Place`, `Place.IsMaximalRun` : a place in a text, and the maximal runs among them.
* `AreMaximalRuns` : some texts are the maximal runs of a text, in their order.

## Main results

* `areMaximalRuns_runsOf` : a text is split into its maximal runs.
* `areMaximalRuns_iff` : a text is split into its maximal runs, and they determine the split.
* `runsOf_append_of_sep` : the text before some separators and the text behind them are split on
  their own.
* `runsOf_eq_singleton` : a text without separators is one run.
-/

namespace LoginGate

/-- A place in a text: what stands before it, what stands there and what stands behind it. -/
structure Place where
  before : List Char
  run : List Char
  after : List Char

/-- A place of a text is a maximal run outside a class of separators. -/
structure Place.IsMaximalRun (sep : Char → Bool) (cs : List Char) (place : Place) : Prop where
  text : place.before ++ place.run ++ place.after = cs
  ne_nil : place.run ≠ []
  outside : ∀ c ∈ place.run, sep c = false
  /-- What stands right before it is a separator. -/
  left : ∀ c ∈ place.before.getLast?, sep c
  /-- What stands right behind it is a separator. -/
  right : ∀ c ∈ place.after.head?, sep c

/-- Some texts are the maximal runs of a text: each of them stands at its own place, the places are
in their order, and no maximal run is missing. -/
def AreMaximalRuns (sep : Char → Bool) (cs : List Char) (runs : List (List Char)) : Prop :=
  ∃ places : List Place, runs = places.map (·.run) ∧
    places.Pairwise (·.before.length < ·.before.length) ∧
    ∀ place, place ∈ places ↔ place.IsMaximalRun sep cs

variable {sep : Char → Bool} {c d : Char} {cs : List Char} {runs : List (List Char)}

namespace Place

/-- The place in a text with one more character at the start. -/
def cons (c : Char) (place : Place) : Place := { place with before := c :: place.before }

theorem mem_map_cons_iff {places : List Place} {place : Place} :
    place ∈ places.map (cons c) ↔
      ∃ before, place.before = c :: before ∧ ⟨before, place.run, place.after⟩ ∈ places := by
  obtain ⟨before, run, after⟩ := place
  simp only [List.mem_map, cons, mk.injEq]
  constructor
  · rintro ⟨other, hother, hbefore, rfl, rfl⟩
    exact ⟨other.before, hbefore.symm, hother⟩
  · rintro ⟨rest, rfl, hmem⟩
    exact ⟨_, hmem, rfl, rfl, rfl⟩

/-- The maximal runs behind the first character are those of the rest, except for one that could be
extended by that character. -/
theorem isMaximalRun_cons_iff {before run after : List Char} :
    (⟨d :: before, run, after⟩ : Place).IsMaximalRun sep (c :: cs) ↔
      d = c ∧ (⟨before, run, after⟩ : Place).IsMaximalRun sep cs ∧ (before = [] → sep c) := by
  constructor
  · rintro ⟨htext, hne, hout, hleft, hright⟩
    obtain ⟨rfl, hrest⟩ := List.cons.inj htext
    refine ⟨rfl, ⟨hrest, hne, hout, fun x hx => hleft x ?_, hright⟩, ?_⟩
    · rw [Option.mem_def] at hx
      simp [List.getLast?_cons, hx]
    · rintro rfl
      exact hleft d rfl
  · rintro ⟨rfl, ⟨htext, hne, hout, hleft, hright⟩, hsep⟩
    refine ⟨congrArg (List.cons d) htext, hne, hout, fun x hx => ?_, hright⟩
    cases before with
    | nil =>
      obtain rfl : d = x := by simpa using hx
      exact hsep rfl
    | cons b before => exact hleft x (by simpa using hx)

/-- No maximal run is at the start of a text that begins with a separator, or of no text at all. -/
theorem not_isMaximalRun_nil {run after : List Char} (hhead : ∀ d ∈ cs.head?, sep d) :
    ¬ (⟨[], run, after⟩ : Place).IsMaximalRun sep cs := by
  rintro ⟨rfl, hne, hout, -, -⟩
  obtain ⟨first, rest, rfl⟩ := List.exists_cons_of_ne_nil hne
  have hfirst := hout first List.mem_cons_self
  rw [hhead first rfl] at hfirst
  cases hfirst

/-- A maximal run at the start of a text is its first character alone, or that in front of a maximal
run at the start of the rest. -/
theorem isMaximalRun_nil_iff {run after : List Char} :
    (⟨[], run, after⟩ : Place).IsMaximalRun sep (c :: cs) ↔
      sep c = false ∧ ∃ rest, run = c :: rest ∧
        (rest = [] ∧ after = cs ∧ (∀ d ∈ cs.head?, sep d) ∨
          (⟨[], rest, after⟩ : Place).IsMaximalRun sep cs) := by
  constructor
  · rintro ⟨htext, hne, hout, -, hright⟩
    obtain ⟨first, rest, rfl⟩ := List.exists_cons_of_ne_nil hne
    obtain ⟨rfl, rfl⟩ := List.cons.inj htext
    refine ⟨hout first List.mem_cons_self, rest, rfl, ?_⟩
    by_cases hrest : rest = []
    · subst hrest
      exact .inl ⟨rfl, rfl, hright⟩
    · exact .inr ⟨rfl, hrest, fun x hx => hout x (List.mem_cons_of_mem _ hx), nofun, hright⟩
  · rintro ⟨hc, rest, rfl, ⟨rfl, rfl, hhead⟩ | ⟨htext, -, hout, -, hright⟩⟩
    · exact ⟨rfl, List.cons_ne_nil _ _, by simpa using hc, nofun, hhead⟩
    · exact ⟨congrArg (List.cons c) htext, List.cons_ne_nil _ _,
        List.forall_mem_cons.mpr ⟨hc, hout⟩, nofun, hright⟩

/-- A text that does not begin with a separator begins with a maximal run. -/
theorem exists_isMaximalRun (hc : sep c = false) (cs : List Char) :
    ∃ run after, (⟨[], run, after⟩ : Place).IsMaximalRun sep (c :: cs) := by
  refine ⟨(c :: cs).takeWhile (!sep ·), (c :: cs).dropWhile (!sep ·), ?_, ?_, ?_, ?_, ?_⟩
  · exact List.takeWhile_append_dropWhile
  · simp [hc]
  · intro x hx
    simpa using List.mem_takeWhile_imp hx
  · rintro x ⟨⟩
  · intro x hx
    have := List.head?_dropWhile_not (!sep ·) (c :: cs)
    rw [Option.mem_def.mp hx] at this
    simpa using this

end Place

namespace AreMaximalRuns

open Place

theorem nil (sep : Char → Bool) : AreMaximalRuns sep [] [] := by
  refine ⟨[], rfl, List.Pairwise.nil, fun place => ⟨nofun, fun h => absurd ?_ h.ne_nil⟩⟩
  simpa using (List.append_eq_nil_iff.mp (List.append_eq_nil_iff.mp h.text).1).2

theorem pairwise_map_cons {places : List Place}
    (h : places.Pairwise (·.before.length < ·.before.length)) (c : Char) :
    (places.map (cons c)).Pairwise (·.before.length < ·.before.length) :=
  h.map _ fun _ _ hlt => Nat.succ_lt_succ hlt

/-- A separator at the start is in no run. -/
theorem cons_sep (h : AreMaximalRuns sep cs runs) (hc : sep c) :
    AreMaximalRuns sep (c :: cs) runs := by
  obtain ⟨places, rfl, hsorted, hmem⟩ := h
  refine ⟨places.map (cons c), by simp [cons], pairwise_map_cons hsorted c, ?_⟩
  rintro ⟨before, run, after⟩
  rw [mem_map_cons_iff]
  cases before with
  | nil => simp [isMaximalRun_nil_iff, hc]
  | cons d before => simp [isMaximalRun_cons_iff, hmem, hc]

/-- A character between separators is a run. -/
theorem cons_alone (h : AreMaximalRuns sep cs runs) (hc : sep c = false)
    (hhead : ∀ d ∈ cs.head?, sep d) : AreMaximalRuns sep (c :: cs) ([c] :: runs) := by
  obtain ⟨places, rfl, hsorted, hmem⟩ := h
  refine ⟨⟨[], [c], cs⟩ :: places.map (cons c), by simp [cons],
    List.pairwise_cons.mpr ⟨by simp [cons], pairwise_map_cons hsorted c⟩, ?_⟩
  rintro ⟨before, run, after⟩
  rw [List.mem_cons, mem_map_cons_iff]
  cases before with
  | nil => simpa [isMaximalRun_nil_iff, hc, not_isMaximalRun_nil hhead] using fun _ _ => hhead
  | cons d before =>
    -- A run that begins the rest would begin with a separator.
    have hstart (hrun : (⟨before, run, after⟩ : Place).IsMaximalRun sep cs) : before ≠ [] := by
      rintro rfl
      exact not_isMaximalRun_nil hhead hrun
    simp only [isMaximalRun_cons_iff, Place.mk.injEq, List.cons_ne_nil, false_and, false_or,
      List.cons.injEq, hmem]
    constructor
    · rintro ⟨rest, ⟨rfl, rfl⟩, hrun⟩
      exact ⟨rfl, hrun, fun hempty => absurd hempty (hstart hrun)⟩
    · rintro ⟨rfl, hrun, -⟩
      exact ⟨before, ⟨rfl, rfl⟩, hrun⟩

/-- A character before a run extends it. -/
theorem cons_run {run : List Char} (h : AreMaximalRuns sep (d :: cs) (run :: runs))
    (hc : sep c = false) (hd : sep d = false) :
    AreMaximalRuns sep (c :: d :: cs) ((c :: run) :: runs) := by
  obtain ⟨places, hruns, hsorted, hmem⟩ := h
  obtain ⟨first, more, rfl, hfirst, hmore⟩ := List.map_eq_cons_iff.mp hruns.symm
  obtain ⟨hbehind, hincreasing⟩ := List.pairwise_cons.mp hsorted
  -- The run at the start stands at the first place, as no place comes before it.
  have hstart {start after : List Char} :
      (⟨[], start, after⟩ : Place).IsMaximalRun sep (d :: cs) ↔ ⟨[], start, after⟩ = first := by
    rw [← hmem, List.mem_cons, or_iff_left]
    exact fun hlater => absurd (hbehind _ hlater) (Nat.not_lt_zero _)
  obtain ⟨start, after, hrun⟩ := exists_isMaximalRun hd cs
  obtain rfl := hstart.mp hrun
  obtain rfl : start = run := hfirst
  refine ⟨⟨[], c :: start, after⟩ :: more.map (cons c), by simp [cons, ← hmore],
    List.pairwise_cons.mpr ⟨by simp [cons], pairwise_map_cons hincreasing c⟩, ?_⟩
  rintro ⟨before, run, behind⟩
  rw [List.mem_cons, mem_map_cons_iff]
  cases before with
  | nil => simp [isMaximalRun_nil_iff, hc, hd, hstart]
  | cons b before =>
    rw [isMaximalRun_cons_iff, ← hmem, List.mem_cons]
    simp only [mk.injEq, List.cons_ne_nil, false_and, false_or, List.cons.injEq]
    constructor
    · rintro ⟨rest, ⟨rfl, rfl⟩, hlater⟩
      refine ⟨rfl, .inr hlater, ?_⟩
      rintro rfl
      exact absurd (hbehind _ hlater) (Nat.not_lt_zero _)
    · rintro ⟨rfl, ⟨rfl, -, -⟩ | hlater, hsep⟩
      · rw [hc] at hsep
        cases hsep rfl
      · exact ⟨before, ⟨rfl, rfl⟩, hlater⟩

end AreMaximalRuns

/-- A text is split into its maximal runs, in their order. -/
theorem areMaximalRuns_runsOf (sep : Char → Bool) (cs : List Char) :
    AreMaximalRuns sep cs (runsOf sep cs) := by
  fun_induction runsOf sep cs with
  | case1 => exact .nil sep
  | case2 c rest hc ih => exact ih.cons_sep hc
  | case3 c hc =>
    exact (AreMaximalRuns.nil sep).cons_alone (Bool.eq_false_iff.mpr hc) (by simp)
  | case4 c hc d rest hd ih =>
    exact ih.cons_alone (Bool.eq_false_iff.mpr hc) (by simpa using hd)
  | case5 c hc d rest hd hruns ih =>
    -- A text that does not begin with a separator has a run.
    obtain ⟨places, hplaces, -, hmem⟩ := ih
    obtain ⟨run, after, hrun⟩ := Place.exists_isMaximalRun (Bool.eq_false_iff.mpr hd) rest
    rw [hruns, eq_comm, List.map_eq_nil_iff] at hplaces
    rw [← hmem, hplaces] at hrun
    cases hrun
  | case6 c hc d rest hd run runs hruns ih =>
    rw [hruns] at ih ⊢
    exact ih.cons_run (Bool.eq_false_iff.mpr hc) (Bool.eq_false_iff.mpr hd)

/-- The maximal runs of a text are determined by it. -/
theorem AreMaximalRuns.unique {runs' : List (List Char)} (h : AreMaximalRuns sep cs runs)
    (h' : AreMaximalRuns sep cs runs') : runs = runs' := by
  obtain ⟨places, rfl, hsorted, hmem⟩ := h
  obtain ⟨places', rfl, hsorted', hmem'⟩ := h'
  have hnodup {places : List Place} (h : places.Pairwise (·.before.length < ·.before.length)) :
      places.Nodup := by
    refine h.imp fun {first second} hlt heq => ?_
    rw [heq] at hlt
    exact Nat.lt_irrefl _ hlt
  have hperm : places.Perm places' := (List.perm_ext_iff_of_nodup (hnodup hsorted)
    (hnodup hsorted')).mpr fun place => (hmem place).trans (hmem' place).symm
  rw [hperm.eq_of_pairwise (fun _ _ _ _ hlt hgt => absurd hlt (Nat.lt_asymm hgt)) hsorted hsorted']

theorem areMaximalRuns_iff : AreMaximalRuns sep cs runs ↔ runs = runsOf sep cs :=
  ⟨fun h => h.unique (areMaximalRuns_runsOf sep cs), fun h => h ▸ areMaximalRuns_runsOf sep cs⟩

/-! ### Texts that are put together -/

/-- The runs are the pieces between separators that are not empty. -/
theorem runsOf_eq_filter_splitOnP (sep : Char → Bool) (cs : List Char) :
    runsOf sep cs = (cs.splitOnP sep).filter (!·.isEmpty) := by
  fun_induction runsOf sep cs with
  | case1 => simp
  | case2 c rest hc ih => simp [List.splitOnP_cons_eq_if_modifyHead, hc, ih]
  | case3 c hc => simp [List.splitOnP_cons_eq_if_modifyHead, hc]
  | case4 c hc d rest hd ih =>
    simp only [List.splitOnP_cons_eq_if_modifyHead, hd, if_true] at ih
    simp [List.splitOnP_cons_eq_if_modifyHead, hc, hd, ih]
  | case5 c hc d rest hd hruns ih =>
    obtain ⟨piece, pieces, hpieces⟩ := List.exists_cons_of_ne_nil (List.splitOnP_ne_nil sep rest)
    simp [List.splitOnP_cons_eq_if_modifyHead, hd, hpieces, hruns] at ih
  | case6 c hc d rest hd run runs hruns ih =>
    obtain ⟨piece, pieces, hpieces⟩ := List.exists_cons_of_ne_nil (List.splitOnP_ne_nil sep rest)
    have hfirst : run :: runs = (d :: piece) :: pieces.filter (!·.isEmpty) := by
      simpa [List.splitOnP_cons_eq_if_modifyHead, hd, hpieces, hruns] using ih
    obtain ⟨rfl, rfl⟩ := List.cons.inj hfirst
    simp [List.splitOnP_cons_eq_if_modifyHead, hc, hd, hpieces, hruns]

/-- A text without separators is one run, if it is not empty. -/
theorem runsOf_eq_singleton (hne : cs ≠ []) (hcs : ∀ c ∈ cs, sep c = false) :
    runsOf sep cs = [cs] := by
  rw [runsOf_eq_filter_splitOnP, List.splitOnP_eq_singleton hcs]
  simpa using hne

theorem runsOf_cons_of_sep (hc : sep c) (cs : List Char) :
    runsOf sep (c :: cs) = runsOf sep cs := by
  simp [runsOf_eq_filter_splitOnP, List.splitOnP_cons_eq_if_modifyHead, hc]

theorem runsOf_sep_append {gap : List Char} (hgap : ∀ c ∈ gap, sep c) (cs : List Char) :
    runsOf sep (gap ++ cs) = runsOf sep cs := by
  induction gap with
  | nil => rfl
  | cons c gap ih =>
    obtain ⟨hc, hgap⟩ := List.forall_mem_cons.mp hgap
    rw [List.cons_append, runsOf_cons_of_sep hc, ih hgap]

/-- What stands before some separators and what stands behind them are split on their own. -/
theorem runsOf_append_of_sep {gap : List Char} (hne : gap ≠ []) (hgap : ∀ c ∈ gap, sep c)
    (before after : List Char) :
    runsOf sep (before ++ gap ++ after) = runsOf sep before ++ runsOf sep after := by
  obtain ⟨c, gap, rfl⟩ := List.exists_cons_of_ne_nil hne
  obtain ⟨hc, hgap⟩ := List.forall_mem_cons.mp hgap
  calc runsOf sep (before ++ c :: gap ++ after)
      = runsOf sep before ++ runsOf sep (gap ++ after) := by
        rw [List.append_assoc, List.cons_append]
        simp only [runsOf_eq_filter_splitOnP, List.splitOnP_append_cons _ _ hc, List.filter_append]
    _ = runsOf sep before ++ runsOf sep after := by rw [runsOf_sep_append hgap]

end LoginGate
