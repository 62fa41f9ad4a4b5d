import LoginGate.Proofs.Settings.Usable
import LoginGate.Proofs.Text.Runs

/-!
# Scopes in a text

An administrator writes scopes apart by plus signs, blanks or both, as many as there may be. Each
scope is one maximal run of other characters, so the text may be put together from parts with
anything between them that separates. To the provider the scopes go in one text, with a space
between them, and from that text they can be read back.

## Main results

* `Settings.splitScope_append` : the scopes of a text that is put together.
* `Settings.splitScope_intercalate` : scopes that are written in one text are read back.
* `Settings.splitScope_cuts` : which scopes are read from a text.
-/

namespace LoginGate.Settings

variable {names : List String}

/-- The scopes of a text are its maximal runs of characters other than plus signs and blanks. -/
theorem areMaximalRuns_iff_splitScope {text : String} :
    AreMaximalRuns isScopeSeparator text.toList (names.map String.toList) ↔
      names = splitScope text := by
  have hscopes : (splitScope text).map String.toList = runsOf isScopeSeparator text.toList := by
    simp [splitScope, Function.comp_def]
  rw [areMaximalRuns_iff, ← hscopes]
  exact (List.map_injective_iff.mpr fun _ _ => String.toList_inj.mp).eq_iff

/-- What stands before plus signs and blanks and what stands behind them tell scopes on their
own. -/
theorem splitScope_append {gap : String} (hne : gap ≠ "")
    (hgap : ∀ c ∈ gap.toList, isScopeSeparator c) (before after : String) :
    splitScope (before ++ gap ++ after) = splitScope before ++ splitScope after := by
  have hchars : gap.toList ≠ [] := fun hempty => hne (String.toList_eq_nil_iff.mp hempty)
  rw [splitScope, String.toList_append, String.toList_append, runsOf_append_of_sep hchars hgap,
    List.map_append, splitScope, splitScope]

/-- One scope. -/
theorem splitScope_eq_singleton {name : String} (hne : name ≠ "")
    (hname : ∀ c ∈ name.toList, isScopeSeparator c = false) : splitScope name = [name] := by
  have hchars : name.toList ≠ [] := fun hempty => hne (String.toList_eq_nil_iff.mp hempty)
  rw [splitScope, runsOf_eq_singleton hchars hname, List.map_singleton, String.ofList_toList]

/-- Scopes that are written with a space between them are read back. -/
theorem splitScope_intercalate
    (hnames : ∀ name ∈ names, name ≠ "" ∧ ∀ c ∈ name.toList, isScopeSeparator c = false) :
    splitScope (" ".intercalate names) = names := by
  have hspace : ∀ c ∈ " ".toList, isScopeSeparator c := List.forall_mem_singleton.mpr rfl
  induction names with
  | nil => rfl
  | cons name names ih =>
    obtain ⟨⟨hne, hname⟩, hnames⟩ := List.forall_mem_cons.mp hnames
    have hfirst := splitScope_eq_singleton hne hname
    cases names with
    | nil => rw [String.intercalate_singleton, hfirst]
    | cons next names =>
      rw [String.intercalate_cons_cons, splitScope_append (by decide) hspace, hfirst,
        ih hnames]
      rfl

/-- The scopes of loaded settings are read back from the text that goes to the provider. -/
theorem splitScope_scopeText {platform : Platform} {checked : CheckedSettings}
    {params environment : NameMap} (h : load platform params environment = .ok checked) :
    splitScope checked.scopeText = checked.scope := by
  obtain ⟨hread, -⟩ := load_eq_ok_iff.mp h
  obtain ⟨⟨text, -, hscope⟩, -, -⟩ := texts_of_ofParameters hread
  refine splitScope_intercalate fun name hname => ?_
  obtain ⟨hne, hchars⟩ := of_mem_splitScope (hscope ▸ hname)
  exact ⟨hne, fun c hc => by simpa [isScopeSeparator] using hchars c hc⟩

/-- The scopes of a text are its maximal runs of characters other than plus signs and blanks, in
their order. So parts of a text that are kept apart by any of these tell scopes on their own, and
the scopes of loaded settings are read back from the text that goes to the provider. -/
theorem splitScope_cuts :
    (∀ text names, splitScope text = names ↔
      AreMaximalRuns (fun c => c = '+' || isBlank c) text.toList (names.map String.toList)) ∧
    (∀ before gap after : String, gap ≠ "" → (∀ c ∈ gap.toList, c = '+' || isBlank c) →
      splitScope (before ++ gap ++ after) = splitScope before ++ splitScope after) ∧
    ∀ platform params environment checked, load platform params environment = .ok checked →
      splitScope checked.scopeText = checked.scope := by
  refine ⟨fun text names => ?_, fun before gap after hne hgap => ?_, fun _ _ _ _ => ?_⟩
  · exact eq_comm.trans areMaximalRuns_iff_splitScope.symm
  · exact splitScope_append hne hgap before after
  · exact splitScope_scopeText

/-- So it is for scopes that are kept apart in several ways, with a separator at either end, and for
loaded settings. -/
theorem splitScope_cuts_at_looseParams :
    AreMaximalRuns (fun c => c = '+' || isBlank c) "+openid+ \u2003profile ".toList
        (["openid", "profile"].map String.toList) ∧
      splitScope ("+openid" ++ "+ \u2003" ++ "profile ") =
        splitScope "+openid" ++ splitScope "profile " ∧
      ∃ checked, load .standard looseParams [] = .ok checked ∧
        splitScope checked.scopeText = checked.scope := by
  have hload : (load .standard looseParams []).toOption.isSome := by decide +kernel
  obtain ⟨checked, hload⟩ := Result.exists_ok_of_isSome hload
  exact ⟨(splitScope_cuts.1 "+openid+ \u2003profile " ["openid", "profile"]).mp (by decide +kernel),
    splitScope_cuts.2.1 "+openid" "+ \u2003" "profile " (by decide)
      (List.all_eq_true.mp (by decide +kernel)),
    checked, hload, splitScope_cuts.2.2 _ _ _ _ hload⟩

end LoginGate.Settings
