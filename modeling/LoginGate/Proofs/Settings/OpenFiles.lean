import LoginGate.Proofs.Pattern.Language
import LoginGate.Proofs.Settings.Checked
import LoginGate.Settings.Parameter
import Mathlib.Data.List.Basic

/-!
# What the usual bypass patterns let through

Unless something else is set, style sheets, scripts and images are open to everybody. Each of their
three patterns is plain: some characters on one line, a slash, more characters on one line, and an
ending. So what they match can be said without a matcher, and with it the set of all paths that are
reached without a login.

## Main definitions

* `Pattern.literal`, `Pattern.fileNode` : the pattern of an ending, and that of the files with it.
* `Settings.openEndings`, `Settings.usualPatterns` : the endings of the files that are open, and
  their patterns.

## Main results

* `Pattern.mem_language_fileNode` : what a pattern for files matches.
* `Settings.bypassPatterns_of_load` : when the usual patterns count.
* `Settings.isBypassed_iff_openEnding` : which paths the usual patterns open.
-/

namespace LoginGate

/-! ### Patterns for files -/

namespace Pattern

/-- The pattern of a text that stands for itself. -/
def literal : List Char → Node
  | [] => .empty
  | [c] => .char c.toNat
  | c :: cs => .seq (.char c.toNat) (literal cs)

/-- As many characters of one line as possible. -/
def anyOfLine : Node := .repeated .greedy 0 none .any

/-- The pattern of the files with an ending: there is a slash somewhere before it. -/
def fileNode (ending : List Char) : Node :=
  .seq anyOfLine (.seq (.char '/'.toNat) (.seq anyOfLine (literal ending)))

theorem isPlain_literal (cs : List Char) : (literal cs).isPlain := by
  fun_induction literal cs with
  | case1 => rfl
  | case2 c => rfl
  | case3 c cs _ ih => exact ih

theorem isPlain_fileNode (ending : List Char) : (fileNode ending).isPlain :=
  isPlain_literal ending

theorem mem_single_matchesCode {d : Char} {cs : List Char} :
    cs ∈ single (matchesCode {} d.toNat) ↔ cs = [d] := by
  simp [mem_single, matchesCode, Char.toNat_inj]

theorem language_literal (cs : List Char) : (literal cs).language {} = {cs} := by
  fun_induction literal cs with
  | case1 => rfl
  | case2 c =>
    ext text
    exact mem_single_matchesCode
  | case3 c cs _ ih =>
    ext text
    rw [Node.language, Node.language, ih, Language.mem_mul]
    constructor
    · rintro ⟨first, hfirst, rest, rfl, rfl⟩
      rw [mem_single_matchesCode.mp hfirst]
      rfl
    · rintro rfl
      exact ⟨[c], mem_single_matchesCode.mpr rfl, cs, rfl, rfl⟩

theorem mem_language_anyOfLine {cs : List Char} : cs ∈ anyOfLine.language {} ↔ '\n' ∉ cs := by
  rw [anyOfLine, Node.language, Node.language, mem_kstar_single]
  constructor
  · intro h hline
    simpa using h _ hline
  · intro h c hc
    have hne : c ≠ '\n' := fun heq => h (heq ▸ hc)
    simpa using hne

/-- The pattern of the files with an ending matches what is on one line, has the ending, and has a
slash before it. -/
theorem mem_language_fileNode {ending cs : List Char} (hending : '\n' ∉ ending) :
    cs ∈ (fileNode ending).language {} ↔
      '\n' ∉ cs ∧ ∃ stem, cs = stem ++ ending ∧ '/' ∈ stem := by
  simp only [fileNode, Node.language, language_literal, Language.mem_mul, mem_single_matchesCode,
    mem_language_anyOfLine]
  constructor
  · rintro ⟨first, hfirst, _, ⟨_, rfl, _, ⟨second, hsecond, _, rfl, rfl⟩, rfl⟩, rfl⟩
    refine ⟨by simp [hfirst, hsecond, hending], first ++ '/' :: second, by simp, by simp⟩
  · rintro ⟨hline, stem, rfl, hslash⟩
    obtain ⟨first, second, rfl⟩ := List.append_of_mem hslash
    simp only [List.mem_append, List.mem_cons, not_or] at hline
    obtain ⟨⟨hfirst, -, hsecond⟩, -⟩ := hline
    exact ⟨first, hfirst, _, ⟨['/'], rfl, _, ⟨second, hsecond, ending, rfl, rfl⟩, rfl⟩, by simp⟩

end Pattern

/-! ### Files that are open -/

namespace Settings

/-- The endings of the files that are usually open: style sheets, scripts and images. -/
def openEndings : List String := [".css", ".js", ".png"]

/-- The patterns that count where no others are given. -/
def usualPatterns : List String := [".*/.*\\.css", ".*/.*\\.js", ".*/.*\\.png"]

theorem mem_usualPatterns {text : String} :
    text ∈ usualPatterns ↔ ∃ ending ∈ openEndings, text = ".*/.*\\" ++ ending := by
  simp [usualPatterns, openEndings]

/-- The usual patterns are those of files. -/
theorem compile_usualPattern :
    ∀ ending ∈ openEndings, Pattern.compile (".*/.*\\" ++ ending) =
      .ok ⟨Pattern.fileNode ending.toList, {}⟩ := by
  decide +kernel

theorem exists_name_of_mem_openEndings :
    ∀ ending ∈ openEndings, ∃ name, ending.toList = '.' :: name ∧ '.' ∉ name ∧ '\n' ∉ name := by
  simp [openEndings]

/-- The pattern of an ending matches the paths of one line that have it, and a slash before it. -/
theorem matchesAll_fileNode_iff {ending path : String} (hending : ending ∈ openEndings) :
    (⟨Pattern.fileNode ending.toList, {}⟩ : Pattern.Compiled).matchesAll path ↔
      '\n' ∉ path.toList ∧ ∃ stem, path = stem ++ ending ∧ '/' ∈ stem.toList := by
  obtain ⟨name, hname, -, hline⟩ := exists_name_of_mem_openEndings ending hending
  have hending : '\n' ∉ ending.toList := by simp [hname, hline]
  rw [Pattern.Compiled.matchesAll, Pattern.Node.matchesAll_iff (Pattern.isPlain_fileNode _),
    Pattern.mem_language_fileNode hending]
  refine and_congr_right fun _ => ?_
  constructor
  · rintro ⟨stem, hstem, hslash⟩
    refine ⟨String.ofList stem, ?_, by simpa using hslash⟩
    apply String.toList_injective
    simpa using hstem
  · rintro ⟨stem, rfl, hslash⟩
    exact ⟨stem.toList, String.toList_append, hslash⟩

/-- No ending goes on as another. -/
theorem eq_nil_of_append_openEnding {ending other : String} {more : List Char}
    (hending : ending ∈ openEndings) (hother : other ∈ openEndings)
    (h : other.toList = ending.toList ++ more) : more = [] := by
  simp only [openEndings, List.mem_cons, List.not_mem_nil, or_false] at hending hother
  rcases hending with rfl | rfl | rfl <;> rcases hother with rfl | rfl | rfl <;> simp_all

/-- What stands behind the last of some character. -/
theorem eq_of_behind_last {c : Char} {before before' behind behind' : List Char}
    (hbehind : c ∉ behind) (hbehind' : c ∉ behind')
    (h : before ++ c :: behind = before' ++ c :: behind') : behind = behind' := by
  rcases List.append_eq_append_iff.mp h with ⟨between, -, h⟩ | ⟨between, -, h⟩
  · cases between with
    | nil => exact (List.cons.inj h).2
    | cons d rest =>
      obtain ⟨-, rfl⟩ := List.cons.inj h
      simp at hbehind
  · cases between with
    | nil => exact (List.cons.inj h).2.symm
    | cons d rest =>
      obtain ⟨-, rfl⟩ := List.cons.inj h
      simp at hbehind'

/-- A text with an ending and more behind it has an ending only where the rest has one itself. -/
theorem ending_of_append {ending other : String} {stem stem' more : List Char}
    (hending : ending ∈ openEndings) (hother : other ∈ openEndings)
    (h : stem ++ ending.toList ++ more = stem' ++ other.toList) :
    more = [] ∨ other.toList <:+ more := by
  obtain ⟨name, hname, hpoint, -⟩ := exists_name_of_mem_openEndings ending hending
  obtain ⟨name', hname', hpoint', -⟩ := exists_name_of_mem_openEndings other hother
  rcases List.append_eq_append_iff.mp h with ⟨between, -, hmore⟩ | ⟨between, hstem, hboth⟩
  · exact .inr ⟨between, hmore.symm⟩
  · cases between with
    | nil => exact .inr ⟨[], hboth⟩
    | cons point rest =>
      obtain ⟨rfl, rfl⟩ := List.cons.inj (hname'.symm.trans hboth)
      have hrest : '.' ∉ rest := fun hmem => hpoint' (List.mem_append_left more hmem)
      rw [hname] at hstem
      obtain rfl := eq_of_behind_last hpoint hrest hstem
      exact .inl (eq_nil_of_append_openEnding hending hother (by rw [hname, hboth]))

variable {platform : Platform} {settings : Settings} {checked : CheckedSettings}
  {params environment : NameMap}

/-- Settings that are loaded without a word on patterns have the usual ones. -/
theorem bypassPatterns_of_load (hload : load platform params environment = .ok checked)
    (hparam : given? params Parameter.bypassPatterns.name = none)
    (hvariable : given? environment Parameter.bypassPatterns.environmentName = none) :
    checked.bypassPatterns = usualPatterns := by
  obtain ⟨-, -, text, htext, hpatterns⟩ := texts_of_ofParameters (load_eq_ok_iff.mp hload).1
  rw [Parameter.resolve, hparam, hvariable] at htext
  obtain rfl := Except.ok.inj htext
  rw [hpatterns]
  decide +kernel

/-- A path is open by the usual patterns exactly if it is one line, has one of the endings, and has
a slash before it. So no path is open that goes on behind such an ending, unless with another. -/
theorem isBypassed_iff_openEnding (hcheck : settings.check platform = .ok checked)
    (hpatterns : settings.bypassPatterns = usualPatterns) :
    (∀ path, checked.isBypassed path ↔ '\n' ∉ path.toList ∧
      ∃ stem, ∃ ending ∈ openEndings, path = stem ++ ending ∧ '/' ∈ stem.toList) ∧
    (∀ file more, ∀ ending ∈ openEndings, more ≠ "" →
      (∀ other ∈ openEndings, ¬ other.toList <:+ more.toList) →
      checked.isBypassed (file ++ ending ++ more) = false) := by
  have hopen (path : String) : checked.isBypassed path ↔ '\n' ∉ path.toList ∧
      ∃ stem, ∃ ending ∈ openEndings, path = stem ++ ending ∧ '/' ∈ stem.toList := by
    rw [isBypassed_iff_of_check hcheck, hpatterns]
    constructor
    · rintro ⟨text, htext, pattern, hcompile, hmatch⟩
      obtain ⟨ending, hending, rfl⟩ := mem_usualPatterns.mp htext
      obtain rfl := Except.ok.inj ((compile_usualPattern ending hending).symm.trans hcompile)
      obtain ⟨hline, stem, hstem, hslash⟩ := (matchesAll_fileNode_iff hending).mp hmatch
      exact ⟨hline, stem, ending, hending, hstem, hslash⟩
    · rintro ⟨hline, stem, ending, hending, hstem, hslash⟩
      have hmatch := (matchesAll_fileNode_iff hending).mpr ⟨hline, stem, hstem, hslash⟩
      exact ⟨_, mem_usualPatterns.mpr ⟨ending, hending, rfl⟩, _,
        compile_usualPattern ending hending, hmatch⟩
  refine ⟨hopen, fun file more ending hending hmore hnone => ?_⟩
  rw [Bool.eq_false_iff, ne_eq, hopen]
  rintro ⟨-, stem, other, hother, hpath, -⟩
  have hlist := congrArg String.toList hpath
  simp only [String.toList_append] at hlist
  rcases ending_of_append hending hother hlist with hempty | hsuffix
  · exact hmore (String.toList_eq_nil_iff.mp hempty)
  · exact hnone other hother hsuffix

/-- Parameters of a site that has no word on patterns. -/
def plainParams : NameMap := [("issuer-uri", "https://id.example"), ("client-id", "site"),
  ("redirect-uri", "https://site.example/callback"), ("scope", "openid"),
  ("cookie-cipher-secret-key", "0000000000000000")]

/-- At such a site a style sheet is open, and neither what lies behind its name nor a name of two
lines is. -/
theorem isBypassed_style_sheet :
    ∃ checked, load .standard plainParams [] = .ok checked ∧
      checked.bypassPatterns = usualPatterns ∧
      checked.isBypassed "/static/site.css" ∧
      checked.isBypassed ("/static/site" ++ ".css" ++ "/secret") = false ∧
      checked.isBypassed "/static/a\nb.css" = false := by
  have hload : (load .standard plainParams []).toOption.isSome := by decide +kernel
  obtain ⟨checked, hload⟩ := Result.exists_ok_of_isSome hload
  have hpatterns := bypassPatterns_of_load hload (by decide) (by decide)
  obtain ⟨hopen, hmore⟩ := isBypassed_iff_openEnding (load_eq_ok_iff.mp hload).2 hpatterns
  refine ⟨checked, hload, hpatterns, ?_, ?_, ?_⟩
  · exact (hopen _).mpr ⟨by decide, "/static/site", ".css", by decide, by decide, by decide⟩
  · exact hmore "/static/site" "/secret" ".css" (by decide) (by decide) (by decide)
  · rw [Bool.eq_false_iff, ne_eq, hopen]
    exact fun h => h.1 (by decide)

end Settings

end LoginGate
