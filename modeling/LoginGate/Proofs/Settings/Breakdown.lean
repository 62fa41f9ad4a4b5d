import LoginGate.Proofs.Result
import LoginGate.Settings.Parameter

/-!
# Settings without a verdict

Settings are read and checked, and what is wrong with them is said in a fault. Two things have no
rule: a redirect address that cannot be split into its parts, and a bypass pattern that nests too
deep, counts too far or chooses flags that exclude each other. They are all that leaves settings
without a verdict. The checks come in a fixed order, so each of the two is met only by settings that
have passed the checks before it.

## Main definitions

* `Settled` : a result that is no breakdown.
* `Settings.Filled` : what has to be there is there.
* `Settings.checkedKey` : the checks before the patterns.
* `Settings.PatternBreaks` : what leaves a bypass pattern without a verdict.
* `Settings.Breaks` : what leaves settings without a verdict.

## Main results

* `Settings.settled_ofParameters` : to read settings is always to take them or to refuse them.
* `Settings.check_eq_breakdown_iff` : the checks break down exactly by what breaks them down.
-/

namespace LoginGate

/-! ### Results that are no breakdowns -/

section Settled

variable {F α β : Type} {result : Except (Failure F) α}

/-- A result is no breakdown: it is there, or it is refused with a fault. -/
def Settled (result : Except (Failure F) α) : Prop := ∀ b, result ≠ .error (.breakdown b)

theorem settled_ok (a : α) : Settled (.ok a : Except (Failure F) α) := fun _ => nofun

theorem settled_fault (fault : F) : Settled (.error (.fault fault) : Except (Failure F) α) :=
  fun _ => nofun

theorem Settled.bind {f : α → Except (Failure F) β} (h : Settled result)
    (hf : ∀ a, Settled (f a)) : Settled (result.bind f) := by
  intro b hb
  rcases Result.bind_eq_error_iff.mp hb with hb | ⟨a, -, hb⟩
  · exact h b hb
  · exact hf a b hb

end Settled

/-! ### Reading settings -/

namespace Parameter

variable (parameter : Parameter)

theorem settled_resolve (params environment : NameMap) :
    Settled (parameter.resolve params environment) := by
  rw [resolve]
  split
  · exact settled_ok _
  · exact settled_fault _

theorem settled_readBool (value : String) : Settled (parameter.readBool value) := by
  rw [readBool]
  split
  · exact settled_ok _
  · exact settled_ok _
  · exact settled_fault _

theorem settled_readInt (value : String) : Settled (parameter.readInt value) := by
  rw [readInt]
  split
  · exact settled_ok _
  · exact settled_fault _

theorem settled_readNumber (value : String) : Settled (parameter.readNumber value) := by
  rw [readNumber]
  split
  · exact settled_ok _
  · exact settled_fault _

theorem settled_readNamed {α : Type} (named : List (String × α)) (value : String) :
    Settled (parameter.readNamed named value) := by
  rw [readNamed]
  split
  · exact settled_ok _
  · exact settled_fault _

end Parameter

namespace Settings

/-- Settings are read, or refused with a fault, whatever is given. -/
theorem settled_ofParameters (params environment : NameMap) :
    Settled (ofParameters params environment) := by
  have hresolve (parameter : Parameter) := parameter.settled_resolve params environment
  rw [ofParameters]
  refine (hresolve _).bind fun issuerUri => ?_
  refine (hresolve _).bind fun clientId => ?_
  refine (hresolve _).bind fun clientSecret => ?_
  refine (hresolve _).bind fun redirectUri => ?_
  refine (hresolve _).bind fun scope => ?_
  refine (hresolve _).bind fun pkce => ?_
  refine (Parameter.settled_readNamed _ _ pkce).bind fun pkce => ?_
  refine (hresolve _).bind fun secure => ?_
  refine (Parameter.settled_readBool _ secure).bind fun secure => ?_
  refine (hresolve _).bind fun minutes => ?_
  refine (Parameter.settled_readInt _ minutes).bind fun minutes => ?_
  refine (hresolve _).bind fun cookieSecret => ?_
  refine (hresolve _).bind fun strategy => ?_
  refine (Parameter.settled_readNamed _ _ strategy).bind fun strategy => ?_
  refine (hresolve _).bind fun cookieName => ?_
  refine (hresolve _).bind fun trust => ?_
  refine (Parameter.settled_readNamed _ _ trust).bind fun trust => ?_
  refine (hresolve _).bind fun patterns => ?_
  refine (hresolve _).bind fun postLoginPath => ?_
  refine (hresolve _).bind fun timeout => ?_
  exact (Parameter.settled_readNumber _ timeout).bind fun timeout => settled_ok _

/-! ### Checking settings -/

variable {platform : Platform} {settings : Settings} {b : Breakdown}

/-- What has to be there is there: the issuer, the client, the redirect address, the name of the
cookies, and a scope. -/
structure Filled (settings : Settings) : Prop where
  issuerUri : isBlankText settings.issuerUri = false
  clientId : isBlankText settings.clientId = false
  redirectUri : isBlankText settings.redirectUri = false
  cookieName : isBlankText settings.cookieName = false
  scope : settings.scope ≠ []

/-- The checks before the patterns, with the key that they find. -/
def checkedKey (settings : Settings) : Loaded CookieKey := do
  ensureNotBlank "issuer_uri" settings.issuerUri
  ensureNotBlank "client_id" settings.clientId
  ensureNotBlank "redirect_uri" settings.redirectUri
  ensureNotBlank "cookie_name" settings.cookieName
  ensure (!settings.scope.isEmpty) .noScope
  ensureSecure settings
  ensure (0 < settings.cookieMaxAgeMinutes) .maxAge
  ensure settings.httpTimeout.isPositiveFinite .timeout
  settings.cookieKey

/-- The checks end with the patterns. -/
theorem check_eq (platform : Platform) (settings : Settings) :
    settings.check platform = settings.checkedKey.bind fun key =>
      (settings.bypassPatterns.mapM (compilePattern platform)).bind fun bypass =>
        .ok { settings with key := key, bypass := bypass } := by
  change _ = settings.checkedKey >>= _
  simp only [check, checkedKey, bind_assoc]
  rfl

theorem settled_ensure (condition : Bool) (fault : SettingsFault) :
    Settled (ensure condition fault) := by
  rw [ensure]
  split
  · exact settled_ok _
  · exact settled_fault _

theorem settled_cookieKey (settings : Settings) : Settled settings.cookieKey := by
  rw [cookieKey]
  split
  · exact settled_ok _
  · exact settled_fault _

theorem ensure_eq_ok_iff {condition : Bool} {fault : SettingsFault} :
    ensure condition fault = .ok () ↔ condition := by
  rw [ensure]
  split <;> simp_all

theorem ensureNotBlank_eq_ok_iff {name text : String} :
    ensureNotBlank name text = .ok () ↔ isBlankText text = false := by
  rw [ensureNotBlank, ensure_eq_ok_iff, Bool.not_eq_true']

/-- Secure cookies break down over an address that cannot be split. -/
theorem ensureSecure_eq_breakdown_iff :
    settings.ensureSecure = .error (.breakdown b) ↔
      b = .address ∧ settings.cookieIsSecure ∧ Url.split? settings.redirectUri = none := by
  rw [ensureSecure]
  cases hsecure : settings.cookieIsSecure with
  | false => simp
  | true =>
    cases hparts : Url.split? settings.redirectUri with
    | none => simp [eq_comm]
    | some parts => simpa using settled_ensure _ _ b

/-- What has to be there is checked first, and no check after that of the redirect address breaks
down. -/
theorem checkedKey_eq_breakdown_iff :
    settings.checkedKey = .error (.breakdown b) ↔
      b = .address ∧ settings.Filled ∧ settings.cookieIsSecure ∧
        Url.split? settings.redirectUri = none := by
  have hensure (condition : Bool) (fault : SettingsFault) :
      ensure condition fault ≠ .error (.breakdown b) := settled_ensure condition fault b
  have hblank (name text : String) : ensureNotBlank name text ≠ .error (.breakdown b) :=
    settled_ensure _ _ b
  have hkey : settings.cookieKey ≠ .error (.breakdown b) := settled_cookieKey settings b
  -- Of all the checks one can break down, so of all the places to fail one is left.
  simp only [checkedKey, bind, Result.bind_unit_eq_error_iff, ensureNotBlank_eq_ok_iff,
    ensure_eq_ok_iff, ensureSecure_eq_breakdown_iff, hensure, hblank, hkey, false_or, and_false,
    or_false, Bool.not_eq_true', List.isEmpty_eq_false_iff]
  constructor
  · rintro ⟨hissuer, hclient, hredirect, hname, hscope, rfl, hsecure, haddress⟩
    exact ⟨rfl, ⟨hissuer, hclient, hredirect, hname, hscope⟩, hsecure, haddress⟩
  · rintro ⟨rfl, hfilled, hsecure, haddress⟩
    exact ⟨hfilled.issuerUri, hfilled.clientId, hfilled.redirectUri, hfilled.cookieName,
      hfilled.scope, rfl, hsecure, haddress⟩

/-- What leaves a bypass pattern without a verdict. -/
inductive PatternBreaks (platform : Platform) (text : String) : Breakdown → Prop
  /-- It nests deeper than can be read. -/
  | nesting (hdeep : platform.holdsPattern text = false) :
      PatternBreaks platform text .patternNesting
  /-- It counts too far. -/
  | count (hheld : platform.holdsPattern text)
      (hcompile : Pattern.compile text = .error .repeatOutOfRange) :
      PatternBreaks platform text .patternCount
  /-- It has flags that exclude each other. -/
  | flags (hheld : platform.holdsPattern text)
      (hcompile : Pattern.compile text = .error .scriptFlagsClash) :
      PatternBreaks platform text .patternFlags

theorem compilePattern_eq_breakdown_iff {text : String} :
    compilePattern platform text = .error (.breakdown b) ↔ PatternBreaks platform text b := by
  rw [compilePattern]
  cases hheld : platform.holdsPattern text with
  | false =>
    simp only [Bool.not_false, if_true, Except.error.injEq, Failure.breakdown.injEq]
    constructor
    · rintro rfl
      exact .nesting hheld
    · rintro (_ | hheld' | hheld')
      · rfl
      all_goals exact absurd (hheld.symm.trans hheld') Bool.false_ne_true
  | true =>
    simp only [Bool.not_true, Bool.false_eq_true, if_false]
    constructor
    · intro h
      split at h
      · cases h
      · cases h
      · cases h
        exact .count hheld ‹_›
      · cases h
        exact .flags hheld ‹_›
    · rintro (hdeep | ⟨-, hcompile⟩ | ⟨-, hcompile⟩)
      · cases hheld.symm.trans hdeep
      all_goals simp [hcompile]

/-- Settings pass the checks exactly if they pass those before the patterns and every pattern
compiles. -/
theorem exists_check_iff :
    (∃ checked, settings.check platform = .ok checked) ↔ (∃ key, settings.checkedKey = .ok key) ∧
      ∃ bypass, settings.bypassPatterns.mapM (compilePattern platform) = .ok bypass := by
  rw [check_eq]
  constructor
  · rintro ⟨checked, h⟩
    obtain ⟨key, hkey, h⟩ := Result.bind_eq_ok_iff.mp h
    obtain ⟨bypass, hbypass, -⟩ := Result.bind_eq_ok_iff.mp h
    exact ⟨⟨key, hkey⟩, bypass, hbypass⟩
  · rintro ⟨⟨key, hkey⟩, bypass, hbypass⟩
    refine ⟨{ settings with key := key, bypass := bypass }, ?_⟩
    refine Result.bind_eq_ok_iff.mpr ⟨key, hkey, ?_⟩
    exact Result.bind_eq_ok_iff.mpr ⟨bypass, hbypass, rfl⟩

/-- What leaves settings without a verdict. -/
inductive Breaks (platform : Platform) (settings : Settings) : Breakdown → Prop
  /-- Cookies are to be secure, and the redirect address cannot be split into its parts. -/
  | redirectAddress (hfilled : settings.Filled) (hsecure : settings.cookieIsSecure)
      (haddress : Url.split? settings.redirectUri = none) : Breaks platform settings .address
  /-- All else is in order up to a pattern without a verdict. -/
  | pattern {before after : List String} {text : String} {b : Breakdown}
      (hpatterns : settings.bypassPatterns = before ++ text :: after)
      (hchecked :
        ∃ checked, { settings with bypassPatterns := before }.check platform = .ok checked)
      (hbreaks : PatternBreaks platform text b) : Breaks platform settings b

/-- A pattern breaks the checks down after those before it. -/
theorem check_eq_breakdown_of_pattern {before after : List String} {text : String}
    (hpatterns : settings.bypassPatterns = before ++ text :: after)
    (hchecked : ∃ checked, { settings with bypassPatterns := before }.check platform = .ok checked)
    (hcompile : compilePattern platform text = .error (.breakdown b)) :
    settings.check platform = .error (.breakdown b) := by
  obtain ⟨⟨key, hkey⟩, hbefore⟩ := exists_check_iff.mp hchecked
  rw [check_eq]
  refine Result.bind_eq_error_iff.mpr (.inr ⟨key, hkey, Result.bind_eq_error_iff.mpr (.inl ?_)⟩)
  exact Result.mapM_eq_error_iff.mpr ⟨before, text, after, hpatterns, hbefore, hcompile⟩

/-- The checks break down exactly by what breaks them down. -/
theorem check_eq_breakdown_iff :
    settings.check platform = .error (.breakdown b) ↔ settings.Breaks platform b := by
  constructor
  · intro h
    rw [check_eq] at h
    rcases Result.bind_eq_error_iff.mp h with hkey | ⟨key, hkey, h⟩
    · obtain ⟨rfl, hfilled, hsecure, haddress⟩ := checkedKey_eq_breakdown_iff.mp hkey
      exact .redirectAddress hfilled hsecure haddress
    · rcases Result.bind_eq_error_iff.mp h with h | ⟨bypass, -, h⟩
      · obtain ⟨before, text, after, hpatterns, hbefore, htext⟩ := Result.mapM_eq_error_iff.mp h
        have hchecked : ∃ checked,
            { settings with bypassPatterns := before }.check platform = .ok checked :=
          exists_check_iff.mpr ⟨⟨key, hkey⟩, hbefore⟩
        exact .pattern hpatterns hchecked (compilePattern_eq_breakdown_iff.mp htext)
      · cases h
  · intro h
    cases h with
    | redirectAddress hfilled hsecure haddress =>
      rw [check_eq]
      refine Result.bind_eq_error_iff.mpr (.inl ?_)
      exact checkedKey_eq_breakdown_iff.mpr ⟨rfl, hfilled, hsecure, haddress⟩
    | pattern hpatterns hchecked hbreaks =>
      exact check_eq_breakdown_of_pattern hpatterns hchecked
        (compilePattern_eq_breakdown_iff.mpr hbreaks)

/-- Settings are left without a verdict exactly by what breaks the checks of those that are read. -/
theorem load_eq_breakdown_iff {params environment : NameMap} :
    load platform params environment = .error (.breakdown b) ↔
      ∃ settings, ofParameters params environment = .ok settings ∧ settings.Breaks platform b := by
  have hread : ofParameters params environment ≠ .error (.breakdown b) :=
    settled_ofParameters params environment b
  simp only [load, bind, Result.bind_eq_error_iff, hread, false_or, check_eq_breakdown_iff]

end Settings

end LoginGate
