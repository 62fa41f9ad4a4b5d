import LoginGate.Proofs.Text.Blank
import LoginGate.Settings.Parameter
import Mathlib.Data.List.Nodup

/-!
# Parameters over environment over defaults

The text of a parameter is looked for in three places. What is given as a parameter counts first,
then what the environment variable holds, then the default. An entry without anything but blanks
counts as none, and blanks around an entry do not count.

So the two maps can be put into one that has the parameters by their names, each with the text that
counts. Loading reads nothing else: it gives the same settings from the one map, or refuses them in
the same words.

## Main definitions

* `counted` : the text that an entry of a map counts as.
* `Parameter.chosen` : the text of a parameter or its variable.
* `Settings.merged`, `Settings.IsOverlay` : all that counts, by the names of the parameters.

## Main results

* `Parameter.resolve_eq` : the three levels of a parameter.
* `Settings.isOverlay_merged` : what the one map holds.
* `Settings.load_congr` : loading depends on nothing but what counts.
* `Settings.load_merged` : the two maps may be put into one.
-/

namespace LoginGate

variable {platform : Platform} {params environment params' environment' : NameMap}

/-! ### Entries that count -/

/-- The text that an entry of a map counts as: none if it holds nothing but blanks, or else without
the blanks around it. -/
def counted (entry : Option String) : Option String :=
  (entry.filter (!isBlankText ·)).map trim

theorem counted_of_blank {text : String} (h : isBlankText text) : counted (some text) = none := by
  rw [counted, Option.filter_some_neg (by simpa using h), Option.map_none]

theorem counted_of_not_blank {text : String} (h : isBlankText text = false) :
    counted (some text) = some (trim text) := by
  rw [counted, Option.filter_some_pos (by simpa using h), Option.map_some]

/-- Blanks around an entry do not count. -/
theorem counted_surrounded (text : String) {before after : String}
    (hbefore : isBlankText before) (hafter : isBlankText after) :
    counted (some (before ++ text ++ after)) = counted (some text) := by
  rw [isBlankText, List.all_eq_true] at hbefore hafter
  have htrim : trimChars (before ++ text ++ after).toList = trimChars text.toList := by
    rw [String.toList_append, String.toList_append, trimChars_surrounded hbefore hafter]
  cases hblank : isBlankText text with
  | true =>
    have hall : isBlankText (before ++ text ++ after) := by
      rw [isBlankText_iff, htrim, ← isBlankText_iff, hblank]
    rw [counted_of_blank hall, counted_of_blank hblank]
  | false =>
    have hall : isBlankText (before ++ text ++ after) = false := by
      rw [Bool.eq_false_iff, ne_eq, isBlankText_iff, htrim, ← isBlankText_iff, hblank]
      exact Bool.false_ne_true
    rw [counted_of_not_blank hall, counted_of_not_blank hblank, trim, htrim, trim]

/-- What an entry counts as counts as itself. -/
theorem counted_counted (entry : Option String) : counted (counted entry) = counted entry := by
  cases entry with
  | none => rfl
  | some text =>
    cases hblank : isBlankText text with
    | true => rw [counted_of_blank hblank, counted, Option.filter_none, Option.map_none]
    | false =>
      have htrim : isBlankText (trim text) = false := (isBlankText_trim text).trans hblank
      rw [counted_of_not_blank hblank, counted_of_not_blank htrim, trim_trim]

namespace Parameter

variable {parameter : Parameter}

/-- The text that counts as a parameter's, of the parameter itself or of its variable. -/
def chosen (parameter : Parameter) (params environment : NameMap) : Option String :=
  (counted (params.get? parameter.name)).or (counted (environment.get? parameter.environmentName))

theorem counted_chosen (parameter : Parameter) (params environment : NameMap) :
    counted (parameter.chosen params environment) = parameter.chosen params environment := by
  rw [chosen]
  cases hparam : counted (params.get? parameter.name) with
  | none =>
    rw [Option.none_or, counted_counted]
  | some text =>
    rw [Option.some_or, ← hparam, counted_counted]

/-- A parameter is resolved to what is chosen, or else to its default. -/
theorem resolve_eq (parameter : Parameter) (params environment : NameMap) :
    parameter.resolve params environment =
      match (parameter.chosen params environment).or (parameter.default.map trim) with
      | some text => .ok text
      | none => .error (.fault (.unset parameter.name parameter.environmentName)) := by
  have hchosen : (parameter.chosen params environment).or (parameter.default.map trim) =
      (((given? params parameter.name).or
        (given? environment parameter.environmentName)).or parameter.default).map trim := by
    rw [Option.map_or, Option.map_or]
    rfl
  rw [resolve, hchosen]
  cases ((given? params parameter.name).or
    (given? environment parameter.environmentName)).or parameter.default <;> rfl

theorem resolve_congr (h : parameter.chosen params environment =
    parameter.chosen params' environment') :
    parameter.resolve params environment = parameter.resolve params' environment' := by
  rw [resolve_eq, resolve_eq, h]

end Parameter

namespace Settings

/-! ### Loading depends on what counts -/

theorem ofParameters_congr (h : ∀ parameter ∈ Parameter.all,
    parameter.chosen params environment = parameter.chosen params' environment') :
    ofParameters params environment = ofParameters params' environment' := by
  have hresolve := fun parameter hmem => Parameter.resolve_congr (h parameter hmem)
  simp only [Parameter.all, List.forall_mem_cons] at hresolve
  simp only [ofParameters, hresolve]

/-- Loading depends on nothing but what counts. -/
theorem load_congr (h : ∀ parameter ∈ Parameter.all,
    parameter.chosen params environment = parameter.chosen params' environment') :
    load platform params environment = load platform params' environment' := by
  rw [load, load, ofParameters_congr h]

/-! ### One map -/

/-- All that counts, by the names of the parameters. -/
def merged (params environment : NameMap) : NameMap :=
  Parameter.all.filterMap fun parameter =>
    (parameter.chosen params environment).map (parameter.name, ·)

theorem nodup_names : (Parameter.all.map Parameter.name).Nodup := by decide

/-- What is put under names that come once each is found there, and nothing else. -/
theorem get?_filterMap (f : Parameter → Option String) {parameters : List Parameter}
    (hnodup : (parameters.map Parameter.name).Nodup) (name : String) :
    NameMap.get? (parameters.filterMap fun parameter => (f parameter).map (parameter.name, ·))
        name =
      (parameters.find? (·.name = name)).bind f := by
  induction parameters with
  | nil => rfl
  | cons first rest ih =>
    obtain ⟨hfirst, hrest⟩ := List.nodup_cons.mp hnodup
    have htail := ih hrest
    by_cases hname : first.name = name
    · -- The name does not come again, so nothing else is found under it.
      have hnone : rest.find? (·.name = name) = none := by
        rw [List.find?_eq_none]
        intro other hother heq
        exact hfirst (hname ▸ of_decide_eq_true heq ▸ List.mem_map_of_mem hother)
      rw [hnone] at htail
      rw [List.find?_cons_of_pos (by simpa using hname)]
      cases hf : f first with
      | none => simpa [hf] using htail
      | some text => simp [hf, NameMap.get?_cons, hname]
    · rw [List.find?_cons_of_neg (by simpa using hname), ← htail]
      cases hf : f first with
      | none => simp [hf]
      | some text => simp [hf, NameMap.get?_cons, Ne.symm hname]

/-- A map has for each parameter the text that counts, and nothing else. -/
structure IsOverlay (params environment map : NameMap) : Prop where
  chosen : ∀ parameter ∈ Parameter.all,
    map.get? parameter.name = (counted (params.get? parameter.name)).or
      (counted (environment.get? parameter.environmentName))
  other : ∀ name ∉ Parameter.all.map Parameter.name, map.get? name = none

theorem isOverlay_merged (params environment : NameMap) :
    IsOverlay params environment (merged params environment) where
  chosen parameter hmem := by
    have hfind : Parameter.all.find? (·.name = parameter.name) = some parameter := by
      revert parameter
      decide
    rw [merged, get?_filterMap _ nodup_names, hfind]
    rfl
  other name hname := by
    have hfind : Parameter.all.find? (·.name = name) = none := by
      rw [List.find?_eq_none]
      intro parameter hmem heq
      exact hname (of_decide_eq_true heq ▸ List.mem_map_of_mem hmem)
    rw [merged, get?_filterMap _ nodup_names, hfind]
    rfl

/-- What counts in such a map is what counted before. -/
theorem IsOverlay.load_eq {map : NameMap} (h : IsOverlay params environment map) :
    load platform params environment = load platform map [] := by
  refine load_congr fun parameter hmem => ?_
  have hmap : map.get? parameter.name = parameter.chosen params environment :=
    h.chosen parameter hmem
  have hchosen : parameter.chosen map [] = parameter.chosen params environment := by
    rw [Parameter.chosen, hmap, Parameter.counted_chosen]
    exact Option.or_none
  exact hchosen.symm

/-- Loading reads one map laid over the other: it gives the same from the one map that has for each
parameter the text that counts, and it gives the same from all maps whose entries count the same. So
a blank entry is as good as none, and blanks around an entry and other names do not matter. -/
theorem load_merged (params environment : NameMap) :
    IsOverlay params environment (merged params environment) ∧
    load platform params environment = load platform (merged params environment) [] ∧
    (∀ params' environment' : NameMap, (∀ parameter ∈ Parameter.all,
        counted (params.get? parameter.name) = counted (params'.get? parameter.name) ∧
        counted (environment.get? parameter.environmentName) =
          counted (environment'.get? parameter.environmentName)) →
      load platform params environment = load platform params' environment') ∧
    (∀ text, isBlankText text → counted (some text) = counted none) ∧
    (∀ before text after, isBlankText before → isBlankText after →
      counted (some (before ++ text ++ after)) = counted (some text)) := by
  refine ⟨isOverlay_merged _ _, (isOverlay_merged _ _).load_eq, ?_, fun text => counted_of_blank,
    ?_⟩
  · intro params' environment' h
    refine load_congr fun parameter hmem => ?_
    obtain ⟨hparam, hvariable⟩ := h parameter hmem
    rw [Parameter.chosen, Parameter.chosen, hparam, hvariable]
  · intro before text after hbefore hafter
    exact counted_surrounded text hbefore hafter

/-- Parameters with blanks, a blank entry and a name that nothing has. -/
def untidyParams : NameMap := [("issuer-uri", "\t https://id.example\n"), ("client-id", "  "),
  ("colour", "green"), ("scope", "openid email "), ("http-timeout-seconds", "soon")]

/-- An environment for them. -/
def untidyEnvironment : NameMap := [("AUTH_CLIENT_ID", " site"), ("AUTH_SCOPE", "profile"),
  ("AUTH_REDIRECT_URI", "https://site.example/callback"),
  ("AUTH_COOKIE_ENCRYPTION_KEY", "0000000000000000"), ("AUTH_USE_PKCE", "\u2003")]

/-- Of both of them this is left, in the order of the parameters. The blank client counts as none,
so that of the environment is found, and the scope of the environment is not. -/
theorem load_untidy :
    merged untidyParams untidyEnvironment = [("issuer-uri", "https://id.example"),
      ("client-id", "site"), ("redirect-uri", "https://site.example/callback"),
      ("scope", "openid email"), ("cookie-cipher-secret-key", "0000000000000000"),
      ("http-timeout-seconds", "soon")] ∧
    load .standard untidyParams untidyEnvironment =
      load .standard (merged untidyParams untidyEnvironment) [] ∧
    load .standard untidyParams untidyEnvironment =
      load .standard untidyParams (("USER", "root") :: untidyEnvironment) :=
  ⟨by decide +kernel, (load_merged _ _).2.1, (load_merged _ _).2.2.1 _ _ (by decide +kernel)⟩

end Settings

end LoginGate
