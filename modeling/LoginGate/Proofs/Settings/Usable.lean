import LoginGate.Proofs.Cookie.Cipher
import LoginGate.Proofs.Settings.Checked
import LoginGate.Proofs.Text.Blank
import LoginGate.Settings.Cookies
import Mathlib.Algebra.Order.Field.Rat

/-!
# Loaded settings are usable

What the later parts of the gate need of its settings is looked after in three places: where a text
is found, where it is read, and where the settings are checked. Together they leave settings on
which the gate can rely without checking again: nothing that has to be there is blank, scopes and
patterns are cut out cleanly, numbers are above zero, the cookie secret has the size of a key, and
secure cookies go over an address with encryption.

## Main definitions

* `CheckedSettings.Usable` : what the gate relies on.

## Main results

* `Binary64.isPositiveFinite_iff` : which numbers can be a duration.
* `Settings.of_mem_splitScope`, `Settings.of_mem_splitPatterns` : the scopes and the patterns in a
  text.
* `Settings.usable_of_load` : loaded settings are usable.
-/

namespace LoginGate

/-! ### Durations -/

namespace Binary64

/-- A finite value is its significand times something above zero, or the negative of that. -/
theorem exists_toRat?_finite (negative : Bool) (significand : Nat) (exponent : Int) :
    ∃ unit : Rat, 0 < unit ∧ (finite negative significand exponent).toRat? =
      some (if negative then -(significand * unit) else significand * unit) := by
  have hpow (k : Nat) : (0 : Rat) < (2 ^ k : Nat) := by exact_mod_cast Nat.two_pow_pos k
  by_cases hexponent : exponent < 0
  · refine ⟨((2 ^ (-exponent).toNat : Nat) : Rat)⁻¹, inv_pos.mpr (hpow _), ?_⟩
    rw [toRat?, if_pos hexponent, Rat.mkRat_eq_div, div_eq_mul_inv]
    rfl
  · refine ⟨(2 ^ exponent.toNat : Nat), hpow _, ?_⟩
    rw [toRat?, if_neg hexponent, Nat.cast_mul]
    rfl

/-- A duration is a finite number above zero. -/
theorem isPositiveFinite_iff {x : Binary64} :
    x.isPositiveFinite ↔ ∃ q, x.toRat? = some q ∧ 0 < q := by
  cases x with
  | nan => simp [isPositiveFinite, toRat?]
  | infinite negative => simp [isPositiveFinite, toRat?]
  | finite negative significand exponent =>
    obtain ⟨unit, hunit, hvalue⟩ := exists_toRat?_finite negative significand exponent
    simp only [hvalue, Option.some.injEq, exists_eq_left']
    cases negative with
    | false => simp [isPositiveFinite, hunit, Nat.pos_iff_ne_zero]
    | true => simp [isPositiveFinite, mul_nonneg, hunit.le]

end Binary64

namespace Settings

/-! ### Scopes, secrets and patterns in a text -/

variable {text name : String}

/-- A scope in a text is not empty, and holds neither plus signs nor blanks. -/
theorem of_mem_splitScope (h : name ∈ splitScope text) :
    name ≠ "" ∧ ∀ c ∈ name.toList, c ≠ '+' ∧ isBlank c = false := by
  obtain ⟨run, hrun, rfl⟩ := List.mem_map.mp h
  constructor
  · intro hempty
    obtain rfl : run = [] := by simpa using hempty
    exact not_mem_nil_runsOf _ _ hrun
  · intro c hc
    rw [String.toList_ofList] at hc
    have hsep := sep_eq_false_of_runsOf _ _ run hrun c hc
    simpa [isScopeSeparator] using hsep

/-- A trimmed text that is there is not blank. -/
theorem isBlankText_of_nonEmpty? {secret : String} (h : nonEmpty? (trim text) = some secret) :
    isBlankText secret = false := by
  rw [nonEmpty?] at h
  split at h
  · cases h
  · rename_i hempty
    obtain rfl := Option.some.inj h
    rw [String.isEmpty_iff, ← String.toList_eq_nil_iff, trim, String.toList_ofList,
      ← isBlankText_iff] at hempty
    rw [isBlankText_trim]
    exact Bool.eq_false_iff.mpr hempty

/-- A pattern in a text is not blank, and holds no comma. -/
theorem of_mem_splitPatterns {pattern : String} (h : pattern ∈ splitPatterns text) :
    isBlankText pattern = false ∧ ',' ∉ pattern.toList := by
  obtain ⟨piece, hpiece, hsome⟩ := List.mem_filterMap.mp h
  obtain ⟨cs, hcs, rfl⟩ := List.mem_map.mp hpiece
  split at hsome
  · cases hsome
  · rename_i hblank
    obtain rfl := Option.some.inj hsome
    rw [isBlankText_trim, trim, String.toList_ofList, String.toList_ofList]
    exact ⟨Bool.eq_false_iff.mpr hblank, fun hcomma =>
      not_mem_of_splitAt ',' _ cs hcs (mem_of_mem_trimChars hcomma)⟩

/-- What a parameter is resolved to has no blanks around it. -/
theorem exists_trim_of_resolve {parameter : Parameter} {params environment : NameMap}
    (h : parameter.resolve params environment = .ok text) : ∃ found, text = trim found := by
  rw [Parameter.resolve] at h
  split at h
  · rename_i found _
    exact ⟨found, (Except.ok.inj h).symm⟩
  · cases h

end Settings

/-! ### Session cookies -/

namespace CookiePlan

variable {plan : CookiePlan} {value : String}

/-- A session cookie with a value is kept, if it is kept for some time. -/
theorem isDeletion_sessionCookie (hage : 0 < plan.settings.cookieMaxAgeSeconds)
    (hvalue : value ≠ "") : (plan.sessionCookie value).isDeletion = false := by
  have hempty : value.isEmpty = false := by simpa using hvalue
  rw [Cookie.isDeletion, sessionCookie, hempty]
  exact beq_eq_false_iff_ne.mpr hage.ne'

/-- So is a cookie that keeps a session, as no session is encrypted to an empty value. -/
theorem isDeletion_session (hage : 0 < plan.settings.cookieMaxAgeSeconds) {iv : Bytes}
    (hiv : iv.length = CookieCipher.ivBytes) (session : Session) :
    (plan.session iv session).isDeletion = false := by
  refine isDeletion_sessionCookie hage fun hempty => ?_
  have hvalue : (session.toCookieValue plan.settings.key iv).isEmpty = false :=
    CookieCipher.encrypt_ne_empty _ hiv _
  rw [hempty] at hvalue
  cases hvalue

end CookiePlan

/-! ### What the gate relies on -/

/-- What the gate relies on. -/
structure CheckedSettings.Usable (settings : CheckedSettings) : Prop where
  /-- The issuer, the client, the redirect address and the name of the cookies are not blank, and
  there is a scope. -/
  filled : settings.Filled
  /-- A scope is one word. -/
  scope : ∀ name ∈ settings.scope, name ≠ "" ∧ ∀ c ∈ name.toList, c ≠ '+' ∧ isBlank c = false
  clientSecret : ∀ secret, settings.clientSecret = some secret → isBlankText secret = false
  /-- The key is the cookie secret, which has one of the three sizes. -/
  key : settings.key.bytes = Utf8.encode settings.cookieSecret ∧
    (Utf8.encode settings.cookieSecret).length ∈ [16, 24, 32]
  maxAge : 0 < settings.cookieMaxAgeMinutes
  /-- The browser is not told to forget what it is given. -/
  sessionCookie : ∀ domain value, value ≠ "" →
    ((⟨settings, domain⟩ : CookiePlan).sessionCookie value).isDeletion = false
  session : ∀ domain iv session, iv.length = CookieCipher.ivBytes →
    ((⟨settings, domain⟩ : CookiePlan).session iv session).isDeletion = false
  httpTimeout : ∃ seconds, settings.httpTimeout.toRat? = some seconds ∧ 0 < seconds
  bypassPatterns : ∀ text ∈ settings.bypassPatterns, isBlankText text = false ∧
    ',' ∉ text.toList ∧ ∃ pattern, Pattern.compile text = .ok pattern
  /-- Secure cookies go over an address with encryption. -/
  redirectUri : settings.cookieIsSecure → ∃ parts, Url.split? settings.redirectUri = some parts ∧
    parts.scheme = "https".toList
  cookieNames : settings.cookieName ≠ settings.stateCookieName
  /-- The patterns may be compiled anew for each path. -/
  isBypassed : ∀ path, (settings.bypassPatterns.mapM Pattern.compile).map
    (·.any (·.matchesAll path)) = .ok (settings.isBypassed path)

namespace Settings

variable {platform : Platform} {checked : CheckedSettings} {params environment : NameMap}

/-- Loaded settings are usable. -/
theorem usable_of_load (h : load platform params environment = .ok checked) : checked.Usable := by
  obtain ⟨hread, hcheck⟩ := load_eq_ok_iff.mp h
  obtain ⟨-, hkey, hbypass⟩ := check_eq_ok_iff.mp hcheck
  obtain ⟨hfilled, hsecure, hage, htimeout, hbytes⟩ := checkedKey_eq_ok_iff.mp hkey
  obtain ⟨⟨scope, -, hscope⟩, ⟨secret, hresolved, hsecret⟩, patterns, -, hpatterns⟩ :=
    texts_of_ofParameters hread
  obtain ⟨found, rfl⟩ := exists_trim_of_resolve hresolved
  have hseconds := maxAge_pos_of_check hcheck
  have hcompile : checked.bypassPatterns.mapM Pattern.compile = .ok checked.bypass :=
    Result.mapM_of_mapM (fun _ _ h => (compilePattern_eq_ok_iff.mp h).2) hbypass
  exact
    { filled := hfilled
      scope := fun name hname => of_mem_splitScope (hscope ▸ hname)
      clientSecret := fun text htext => isBlankText_of_nonEmpty? (hsecret ▸ htext)
      key := ⟨hbytes, hbytes ▸ checked.key.size_mem⟩
      maxAge := hage
      sessionCookie := fun domain value => CookiePlan.isDeletion_sessionCookie hseconds
      session := fun domain iv session hiv => CookiePlan.isDeletion_session hseconds hiv session
      httpTimeout := Binary64.isPositiveFinite_iff.mp htimeout
      bypassPatterns := fun text htext => by
        obtain ⟨hblank, hcomma⟩ := of_mem_splitPatterns (hpatterns ▸ htext)
        exact ⟨hblank, hcomma, (exists_compile_of_check hcheck htext).2⟩
      redirectUri := fun hsecure' => by
        obtain ⟨parts, hparts, hhttps⟩ := ensureSecure_eq_ok_iff.mp hsecure hsecure'
        exact ⟨parts, hparts, of_decide_eq_true hhttps⟩
      cookieNames := checked.stateCookieName_ne.symm
      isBypassed := fun path => by rw [hcompile]; rfl }

/-- Parameters with untidy texts: scopes apart by plus signs and blanks, and patterns with a comma
too many. -/
def looseParams : NameMap := [("issuer-uri", "https://id.example"), ("client-id", "site"),
  ("client-secret", " s3cret "), ("redirect-uri", "HTTPS://site.example/callback"),
  ("scope", "openid+email \u2003profile"), ("cookie-cipher-secret-key", "ääääääää"),
  ("cookie-max-age-minutes", "+1_0"), ("http-timeout-seconds", "1e-3"),
  ("bypass-patterns", "/health , ,/static/.*,")]

/-- They are loaded, and the settings are usable. -/
theorem usable_looseSettings :
    ∃ checked, load .standard looseParams [] = .ok checked ∧ checked.Usable := by
  have hload : (load .standard looseParams []).toOption.isSome := by decide +kernel
  obtain ⟨checked, hload⟩ := Result.exists_ok_of_isSome hload
  exact ⟨checked, hload, usable_of_load hload⟩

end Settings

end LoginGate
