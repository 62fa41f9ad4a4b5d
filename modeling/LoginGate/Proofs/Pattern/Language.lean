import LoginGate.Pattern.Matcher
import Mathlib.Computability.Language

/-!
# The texts that a plain pattern matches

A matcher tries its choices one after the other and goes back where the continuation fails. For a
pattern without captures, looks, anchors and final choices none of this shows in what is matched:
the pattern stands for a language, put together from single characters by products, sums and stars,
and the matcher succeeds exactly if a text of that language stands at its place and the continuation
succeeds behind it.

The one place where this is not plain to see are repetitions. They count steps, and they do not go
on after a repetition that has stayed where it was. Neither loses a text: a repetition that takes
nothing can be left out, and of those that take something there are no more than characters.

## Main definitions

* `Pattern.Run.Takes` : a matcher takes the texts of a language and no others.
* `Pattern.Node.isPlain`, `Pattern.Node.language` : plain patterns and their languages.

## Main results

* `Pattern.Run.Takes.star` : a matcher that is repeated takes the star of its language.
* `Pattern.Node.takes_run` : a plain pattern takes its language.
* `Pattern.Node.matchesAll_iff` : a plain pattern matches exactly the texts of its language.
-/

namespace LoginGate.Pattern

open scoped Computability

/-! ### Matchers and languages -/

/-- The place behind some characters, with what follows it. -/
def Cursor.behind (cursor : Cursor) (taken rest : List Char) : Cursor :=
  ⟨taken.reverse ++ cursor.before, rest, cursor.captured⟩

theorem Cursor.behind_nil (cursor : Cursor) : cursor.behind [] cursor.rest = cursor := rfl

theorem Cursor.behind_behind (cursor : Cursor) (taken more between rest : List Char) :
    (cursor.behind taken between).behind more rest = cursor.behind (taken ++ more) rest := by
  simp [behind]

/-- A matcher takes the texts of a language and no others: it succeeds exactly if one of them stands
at its place and the continuation succeeds behind it. -/
def Run.Takes (run : Run) (language : Language Char) : Prop :=
  ∀ cursor next, (run cursor next).isSome ↔
    ∃ taken ∈ language, ∃ rest, cursor.rest = taken ++ rest ∧
      (next (cursor.behind taken rest)).isSome

/-- The texts of one character that passes a test. -/
def single (test : Char → Bool) : Language Char := {cs | ∃ c, test c ∧ cs = [c]}

theorem mem_single {test : Char → Bool} {cs : List Char} :
    cs ∈ single test ↔ ∃ c, test c ∧ cs = [c] := Iff.rfl

/-- The texts all of whose characters pass a test. -/
theorem mem_kstar_single {test : Char → Bool} {cs : List Char} :
    cs ∈ (single test)∗ ↔ ∀ c ∈ cs, test c := by
  rw [Language.mem_kstar]
  constructor
  · rintro ⟨pieces, rfl, hpieces⟩ c hc
    obtain ⟨piece, hpiece, hc⟩ := List.mem_flatten.mp hc
    obtain ⟨d, hd, rfl⟩ := hpieces piece hpiece
    rw [List.mem_singleton.mp hc]
    exact hd
  · intro h
    have hflatten : (cs.map ([·])).flatten = cs := by
      rw [← List.flatMap_def, List.flatMap_singleton']
    refine ⟨cs.map ([·]), hflatten.symm, fun piece hpiece => ?_⟩
    obtain ⟨c, hc, rfl⟩ := List.mem_map.mp hpiece
    exact ⟨c, h c hc, rfl⟩

/-- A star starts with a text of the language that is not empty, or is empty itself. -/
theorem mem_kstar_iff {language : Language Char} {cs : List Char} :
    cs ∈ language∗ ↔ cs = [] ∨
      ∃ piece ∈ language, piece ≠ [] ∧ ∃ again ∈ language∗, cs = piece ++ again := by
  rw [Language.mem_kstar_iff_exists_nonempty]
  constructor
  · rintro ⟨pieces, rfl, hpieces⟩
    cases pieces with
    | nil => exact .inl rfl
    | cons piece pieces =>
      obtain ⟨⟨hpiece, hne⟩, hpieces⟩ := List.forall_mem_cons.mp hpieces
      exact .inr ⟨piece, hpiece, hne, pieces.flatten,
        Language.join_mem_kstar fun piece h => (hpieces piece h).1, rfl⟩
  · rintro (rfl | ⟨piece, hpiece, hne, again, hagain, rfl⟩)
    · exact ⟨[], rfl, List.forall_mem_nil _⟩
    · obtain ⟨pieces, rfl, hpieces⟩ := Language.mem_kstar_iff_exists_nonempty.mp hagain
      exact ⟨piece :: pieces, rfl, List.forall_mem_cons.mpr ⟨⟨hpiece, hne⟩, hpieces⟩⟩

namespace Run

variable {run other : Run} {language more : Language Char}

theorem takes_nothing : Takes (fun cursor next => next cursor) 1 := by
  intro cursor next
  constructor
  · intro h
    exact ⟨[], rfl, cursor.rest, rfl, h⟩
  · rintro ⟨taken, htaken, rest, hrest, h⟩
    obtain rfl : taken = [] := htaken
    rw [List.nil_append] at hrest
    rwa [← hrest, cursor.behind_nil] at h

theorem takes_takeChar (test : Char → Bool) : Takes (takeChar test) (single test) := by
  rintro ⟨before, rest, captured⟩ next
  cases rest with
  | nil => simp [takeChar, mem_single]
  | cons c rest =>
    change (if test c then next _ else none).isSome ↔ _
    constructor
    · intro h
      split at h
      · rename_i hc
        exact ⟨[c], ⟨c, hc, rfl⟩, rest, rfl, h⟩
      · cases h
    · rintro ⟨taken, ⟨d, hd, rfl⟩, after, hafter, h⟩
      obtain ⟨rfl, rfl⟩ := List.cons.inj hafter
      rw [if_pos hd]
      exact h

/-- One matcher after the other takes the product of their languages. -/
theorem Takes.mul (hrun : Takes run language) (hother : Takes other more) :
    Takes (fun cursor next => run cursor fun cursor => other cursor next) (language * more) := by
  intro cursor next
  rw [hrun]
  constructor
  · rintro ⟨taken, htaken, between, hbetween, h⟩
    obtain ⟨again, hagain, rest, hrest, h⟩ := (hother _ _).mp h
    obtain rfl : between = again ++ rest := hrest
    refine ⟨taken ++ again, Language.append_mem_mul htaken hagain, rest, ?_, ?_⟩
    · rw [hbetween, List.append_assoc]
    · rwa [cursor.behind_behind] at h
  · rintro ⟨both, hboth, rest, hrest, h⟩
    obtain ⟨taken, htaken, again, hagain, rfl⟩ := Language.mem_mul.mp hboth
    refine ⟨taken, htaken, again ++ rest, by rw [hrest, List.append_assoc], ?_⟩
    refine (hother _ _).mpr ⟨again, hagain, rest, rfl, ?_⟩
    rwa [cursor.behind_behind]

/-- One matcher or else the other takes the sum of their languages. -/
theorem Takes.add (hrun : Takes run language) (hother : Takes other more) :
    Takes (fun cursor next => (run cursor next).or (other cursor next)) (language + more) := by
  intro cursor next
  rw [Option.isSome_or, Bool.or_eq_true, hrun, hother]
  simp only [Language.mem_add, or_and_right, exists_or]

/-! ### Repetitions -/

/-- A repetition that has stayed where it was is not tried again. -/
theorem runGreedy_of_stayed (run : Run) (steps count : Nat) (cursor : Cursor) (next : Next) :
    runGreedy run 0 none (steps + 1) count (some cursor.rest.length) cursor next = next cursor := by
  simp [runGreedy, mayRepeat]

/-- A repetition that may go on takes one more text, or leaves it to the continuation. -/
theorem isSome_runGreedy_succ {steps count : Nat} {last : Option Nat} {cursor : Cursor}
    {next : Next} (hlast : last ≠ some cursor.rest.length) :
    (runGreedy run 0 none (steps + 1) count last cursor next).isSome ↔
      (run cursor fun after => runGreedy run 0 none steps (count + 1) (some cursor.rest.length)
        after next).isSome ∨ (next cursor).isSome := by
  have hrepeat : mayRepeat none count last cursor = true := by simpa [mayRepeat] using hlast
  simp only [runGreedy, if_neg (Nat.not_lt_zero count), if_pos hrepeat]
  cases hmore : run cursor fun after =>
    runGreedy run 0 none steps (count + 1) (some cursor.rest.length) after next with
  | none => simp
  | some found => simp

/-- Repetitions take the star of a language, as long as there are more steps than characters. -/
theorem Takes.isSome_runGreedy_iff (hrun : Takes run language) {steps count : Nat}
    {last : Option Nat} {cursor : Cursor} {next : Next} (hsteps : cursor.rest.length + 2 ≤ steps)
    (hlast : last ≠ some cursor.rest.length) :
    (runGreedy run 0 none steps count last cursor next).isSome ↔
      ∃ taken ∈ language∗, ∃ rest, cursor.rest = taken ++ rest ∧
        (next (cursor.behind taken rest)).isSome := by
  induction steps generalizing count last cursor with
  | zero => omega
  | succ steps ih =>
    rw [isSome_runGreedy_succ hlast, hrun]
    -- Behind a text that is not empty, fewer characters are left than before it.
    have hlater {taken rest : List Char} (hrest : cursor.rest = taken ++ rest) (hne : taken ≠ []) :
        (runGreedy run 0 none steps (count + 1) (some cursor.rest.length)
            (cursor.behind taken rest) next).isSome ↔
          ∃ again ∈ language∗, ∃ left, rest = again ++ left ∧
            (next (cursor.behind (taken ++ again) left)).isSome := by
      have hlength : taken.length + rest.length = cursor.rest.length := by
        rw [hrest, List.length_append]
      have hpos : 0 < taken.length := List.length_pos_iff.mpr hne
      have hshorter : (cursor.behind taken rest).rest.length = rest.length := rfl
      rw [ih (by omega) (by simp; omega)]
      simp only [cursor.behind_behind]
      rfl
    constructor
    · rintro (⟨taken, htaken, rest, hrest, h⟩ | h)
      · by_cases hne : taken = []
        · -- A repetition that takes nothing is left out.
          subst hne
          obtain ⟨steps, rfl⟩ : ∃ n, steps = n + 1 := ⟨steps - 1, by omega⟩
          rw [List.nil_append] at hrest
          rw [← hrest, cursor.behind_nil, runGreedy_of_stayed] at h
          exact ⟨[], Language.nil_mem_kstar _, cursor.rest, rfl, h⟩
        · obtain ⟨again, hagain, left, hleft, hnext⟩ := (hlater hrest hne).mp h
          have hstar := mem_kstar_iff.mpr (.inr ⟨taken, htaken, hne, again, hagain, rfl⟩)
          exact ⟨taken ++ again, hstar, left, by rw [hrest, hleft, List.append_assoc], hnext⟩
      · exact ⟨[], Language.nil_mem_kstar _, cursor.rest, rfl, h⟩
    · rintro ⟨taken, htaken, rest, hrest, h⟩
      rcases mem_kstar_iff.mp htaken with rfl | ⟨piece, hpiece, hne, again, hagain, rfl⟩
      · rw [List.nil_append] at hrest
        rw [← hrest] at h
        exact .inr h
      · rw [List.append_assoc] at hrest
        refine .inl ⟨piece, hpiece, again ++ rest, hrest, (hlater hrest hne).mpr ?_⟩
        exact ⟨again, hagain, rest, rfl, h⟩

/-- A matcher that is repeated as often as possible takes the star of its language. -/
theorem Takes.star (hrun : Takes run language) :
    Takes (runRepeated .greedy run 0 none) language∗ := by
  intro cursor next
  exact hrun.isSome_runGreedy_iff (by omega) nofun

end Run

/-! ### Plain patterns -/

namespace Node

/-- Whether a pattern is plain: made of characters by sequences, alternatives, and repetitions of
any number, as many as possible first. -/
def isPlain : Node → Bool
  | .empty | .char _ | .any | .set .. => true
  | .seq a b | .alt a b => a.isPlain && b.isPlain
  | .repeated .greedy 0 none body => body.isPlain
  | _ => false

/-- The language of a plain pattern; that of any other is of no meaning. -/
def language (flags : Flags) : Node → Language Char
  | .empty => 1
  | .char code => single (matchesCode flags code)
  | .any => single fun c => flags.dotAll || c != '\n'
  | .set negated items => single fun c => (items.any fun item => item.contains flags c) != negated
  | .seq a b => a.language flags * b.language flags
  | .alt a b => a.language flags + b.language flags
  | .repeated _ _ _ body => (body.language flags)∗
  | _ => 0

/-- A plain pattern takes its language. -/
theorem takes_run (flags : Flags) {node : Node} (h : node.isPlain) :
    Run.Takes (node.run flags) (node.language flags) := by
  fun_induction isPlain node with
  | case1 => exact Run.takes_nothing
  | case2 code => exact Run.takes_takeChar _
  | case3 => exact Run.takes_takeChar _
  | case4 negated items => exact Run.takes_takeChar _
  | case5 a b iha ihb =>
    obtain ⟨ha, hb⟩ := Bool.and_eq_true_iff.mp h
    exact (iha ha).mul (ihb hb)
  | case6 a b iha ihb =>
    obtain ⟨ha, hb⟩ := Bool.and_eq_true_iff.mp h
    intro cursor next
    refine Iff.trans ?_ ((iha ha).add (ihb hb) cursor next)
    dsimp only
    rw [run]
    cases a.run flags cursor next <;> rfl
  | case7 body ih => exact (ih h).star
  | case8 => cases h

/-- A plain pattern matches exactly the texts of its language. -/
theorem matchesAll_iff {flags : Flags} {node : Node} (h : node.isPlain) {text : List Char} :
    node.matchesAll flags text ↔ text ∈ node.language flags := by
  rw [matchesAll, takes_run flags h]
  constructor
  · rintro ⟨taken, htaken, rest, rfl, hend⟩
    have hrest : rest = [] := by
      by_contra hne
      simp [Cursor.behind, hne] at hend
    rwa [hrest, List.append_nil]
  · intro htext
    exact ⟨text, htext, [], (List.append_nil text).symm, rfl⟩

end Node

end LoginGate.Pattern
