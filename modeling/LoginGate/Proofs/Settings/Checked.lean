import LoginGate.Proofs.Settings.Breakdown

/-!
# What the checks of settings find

Checked settings are the settings they were made from, with the key of the cookie secret and with
the bypass patterns compiled. Each check that passes leaves a fact behind, and the later parts of
the gate rely on these facts without checking again.

## Main results

* `Settings.check_eq_ok_iff`, `Settings.checkedKey_eq_ok_iff` : when settings pass the checks.
* `Settings.isBypassed_iff_of_check` : the paths that are open to everybody are those that the
  patterns of the settings match.
* `Settings.load_eq_ok_iff`, `Settings.texts_of_ofParameters` : where loaded settings come from.
-/

namespace LoginGate.Settings

variable {platform : Platform} {settings : Settings} {checked : CheckedSettings}
  {key : CookieKey} {path text : String}

theorem cookieKey_eq_ok_iff :
    settings.cookieKey = .ok key ↔ key.bytes = Utf8.encode settings.cookieSecret := by
  rw [cookieKey, ← CookieKey.ofSecret_eq_ok_iff]
  split <;> simp_all

/-- Cookies can be secure only over an address with encryption. -/
theorem ensureSecure_eq_ok_iff :
    settings.ensureSecure = .ok () ↔
      (settings.cookieIsSecure → ∃ parts, Url.split? settings.redirectUri = some parts ∧
        parts.isHttps) := by
  rw [ensureSecure]
  cases settings.cookieIsSecure with
  | false => simp
  | true =>
    cases Url.split? settings.redirectUri with
    | none => simp
    | some parts => simp [ensure_eq_ok_iff]

/-- The checks before the patterns pass exactly if what they ask for holds, and they find the key of
the cookie secret. -/
theorem checkedKey_eq_ok_iff :
    settings.checkedKey = .ok key ↔
      settings.Filled ∧ settings.ensureSecure = .ok () ∧ 0 < settings.cookieMaxAgeMinutes ∧
        settings.httpTimeout.isPositiveFinite ∧
        key.bytes = Utf8.encode settings.cookieSecret := by
  simp only [checkedKey, bind, Result.bind_unit_eq_ok_iff, ensureNotBlank_eq_ok_iff,
    ensure_eq_ok_iff, cookieKey_eq_ok_iff, Bool.not_eq_true', List.isEmpty_eq_false_iff,
    decide_eq_true_eq]
  constructor
  · rintro ⟨hissuer, hclient, hredirect, hname, hscope, hrest⟩
    exact ⟨⟨hissuer, hclient, hredirect, hname, hscope⟩, hrest⟩
  · rintro ⟨hfilled, hrest⟩
    exact ⟨hfilled.issuerUri, hfilled.clientId, hfilled.redirectUri, hfilled.cookieName,
      hfilled.scope, hrest⟩

theorem compilePattern_eq_ok_iff {pattern : Pattern.Compiled} :
    compilePattern platform text = .ok pattern ↔
      platform.holdsPattern text ∧ Pattern.compile text = .ok pattern := by
  rw [compilePattern]
  cases platform.holdsPattern text with
  | false => simp
  | true =>
    simp only [Bool.not_true, Bool.false_eq_true, if_false, true_and]
    split <;> simp_all

/-- Settings pass the checks exactly if they pass those before the patterns and every pattern
compiles; the rest of them stays as it is. -/
theorem check_eq_ok_iff :
    settings.check platform = .ok checked ↔
      checked.toSettings = settings ∧ settings.checkedKey = .ok checked.key ∧
        settings.bypassPatterns.mapM (compilePattern platform) = .ok checked.bypass := by
  rw [check_eq]
  constructor
  · intro h
    obtain ⟨key, hkey, h⟩ := Result.bind_eq_ok_iff.mp h
    obtain ⟨bypass, hbypass, h⟩ := Result.bind_eq_ok_iff.mp h
    cases h
    exact ⟨rfl, hkey, hbypass⟩
  · rintro ⟨rfl, hkey, hbypass⟩
    refine Result.bind_eq_ok_iff.mpr ⟨checked.key, hkey, ?_⟩
    exact Result.bind_eq_ok_iff.mpr ⟨checked.bypass, hbypass, rfl⟩

/-- In settings that pass the checks every pattern compiles. -/
theorem exists_compile_of_check (h : settings.check platform = .ok checked)
    (htext : text ∈ settings.bypassPatterns) :
    platform.holdsPattern text ∧ ∃ pattern, Pattern.compile text = .ok pattern := by
  obtain ⟨-, -, hbypass⟩ := check_eq_ok_iff.mp h
  obtain ⟨pattern, hpattern⟩ := Result.exists_mapM_iff.mp ⟨_, hbypass⟩ text htext
  obtain ⟨hheld, hcompile⟩ := compilePattern_eq_ok_iff.mp hpattern
  exact ⟨hheld, pattern, hcompile⟩

/-- A path is open to everybody exactly if one of the patterns of the settings matches all of it. -/
theorem isBypassed_iff_of_check (h : settings.check platform = .ok checked) :
    checked.isBypassed path ↔ ∃ text ∈ settings.bypassPatterns, ∃ pattern,
      Pattern.compile text = .ok pattern ∧ pattern.matchesAll path := by
  obtain ⟨-, -, hbypass⟩ := check_eq_ok_iff.mp h
  simp only [CheckedSettings.isBypassed, List.any_eq_true, Result.mem_iff_of_mapM hbypass,
    compilePattern_eq_ok_iff]
  constructor
  · rintro ⟨pattern, ⟨text, htext, -, hcompile⟩, hmatch⟩
    exact ⟨text, htext, pattern, hcompile, hmatch⟩
  · rintro ⟨text, htext, pattern, hcompile, hmatch⟩
    exact ⟨pattern, ⟨text, htext, (exists_compile_of_check h htext).1, hcompile⟩, hmatch⟩

/-- Checked settings have session cookies kept for some time. -/
theorem maxAge_pos_of_check (h : settings.check platform = .ok checked) :
    0 < checked.cookieMaxAgeSeconds := by
  obtain ⟨rfl, hkey, -⟩ := check_eq_ok_iff.mp h
  obtain ⟨-, -, hage, -⟩ := checkedKey_eq_ok_iff.mp hkey
  rw [cookieMaxAgeSeconds]
  omega

/-- The two cookies have different names. -/
theorem stateCookieName_ne (settings : Settings) :
    settings.stateCookieName ≠ settings.cookieName := by
  intro h
  have hlength := congrArg (fun name : String => name.toList.length) h
  simp [stateCookieName] at hlength

/-! ### Settings that are loaded -/

variable {params environment : NameMap}

theorem load_eq_ok_iff :
    load platform params environment = .ok checked ↔
      ofParameters params environment = .ok checked.toSettings ∧
        checked.toSettings.check platform = .ok checked := by
  rw [load]
  constructor
  · intro h
    obtain ⟨settings, hread, hcheck⟩ := Result.bind_eq_ok_iff.mp h
    obtain ⟨rfl, -, -⟩ := check_eq_ok_iff.mp hcheck
    exact ⟨hread, hcheck⟩
  · rintro ⟨hread, hcheck⟩
    exact Result.bind_eq_ok_iff.mpr ⟨_, hread, hcheck⟩

/-- The settings that hold pieces of a text: the scopes, the client secret and the patterns. -/
theorem texts_of_ofParameters (h : ofParameters params environment = .ok settings) :
    (∃ text, Parameter.scope.resolve params environment = .ok text ∧
      settings.scope = splitScope text) ∧
    (∃ text, Parameter.clientSecret.resolve params environment = .ok text ∧
      settings.clientSecret = nonEmpty? text) ∧
    (∃ text, Parameter.bypassPatterns.resolve params environment = .ok text ∧
      settings.bypassPatterns = splitPatterns text) := by
  simp only [ofParameters, bind, Result.bind_eq_ok_iff] at h
  obtain ⟨_, -, _, -, secret, hsecret, _, -, scope, hscope, _, -, _, -, _, -, _, -, _, -, _, -, _,
    -, _, -, _, -, _, -, _, -, _, -, patterns, hpatterns, _, -, _, -, _, -, h⟩ := h
  obtain rfl := Except.ok.inj h
  exact ⟨⟨scope, hscope, rfl⟩, ⟨secret, hsecret, rfl⟩, ⟨patterns, hpatterns, rfl⟩⟩

end LoginGate.Settings
