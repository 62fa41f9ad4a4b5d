import LoginGate.Proofs.Gate.Course
import LoginGate.Site.Basic
import Mathlib.Data.List.Basic
import Mathlib.Data.List.TakeWhile

/-!
# Who reaches the application without a user

The application is called for nobody where a bypass pattern matches the path that the gate sees. The
application itself goes by the path of the request. The two differ: the gate takes its path from the
whole address, in which tabs and line ends are dropped, question marks, number signs and backslashes
of the path are coded, and a host with a delimiter has a path of its own.

## Main definitions

* `Site.Request.isRewritten` : the characters of a path that do not stand for themselves.
* `Site.Request.seenPath` : the path that the gate sees.

## Main results

* `Gate.step_eq_pass_iff` : which visits pass on nobody's behalf.
* `Site.Request.addressPath?_eq`, `Site.Request.seenPath_eq_iff` : the path that the gate sees, and
  when it is that of the request.
* `Site.called_for_nobody_iff` : who reaches the application without a user.
-/

namespace LoginGate

/-! ### Visits that pass -/

namespace Gate

variable {gate : Gate}

theorem forward_ne_pass (now : Instant) (memory : GateMemory) (session : Session)
    (cookies : List Cookie) : (gate.forward now memory session cookies).result ≠ .ok .pass := by
  intro h
  rcases gate.result_forward_cases now memory session cookies with
    ⟨location, kept, hredirect⟩ | ⟨userId, -, hforward⟩
  · cases hredirect.symm.trans h
  · rw [hforward] at h
    split at h <;> cases h

/-- The course is to let a visit pass exactly if the path is open to everybody. -/
theorem course_eq_pass_iff {now : Instant} {visit : Visit} :
    gate.course now visit = .pass ↔ gate.settings.isBypassed visit.path := by
  constructor
  · intro h
    have hexplains := gate.explains_course now visit
    rwa [h] at hexplains
  · intro h
    rw [course, if_pos h]

theorem follow_eq_pass_iff {moment : Moment} {memory : GateMemory} {course : Course} :
    (gate.follow moment memory course).result = .ok .pass ↔ course = .pass := by
  cases course with
  | pass => simp [follow]
  | forward session cookies => simp [follow, forward_ne_pass]
  | renew session =>
    simp only [follow, renew, reduceCtorEq, iff_false]
    split
    · nofun
    · exact forward_ne_pass _ _ _ _
    · exact forward_ne_pass _ _ _ _
  | exchange code verifier cookies =>
    simp only [follow, exchange, reduceCtorEq, iff_false]
    split <;> nofun
  | login cookies =>
    obtain ⟨location, kept, hredirect⟩ := gate.result_leadToProvider_cases memory cookies
    simp [follow, hredirect]
  | deny fault cookies => simp [follow]
  | stuck breakdown => simp [follow]

/-- A visit passes on nobody's behalf exactly if the path is open to everybody. -/
theorem step_eq_pass_iff (gate : Gate) (memory : GateMemory) (moment : Moment) (visit : Visit) :
    (gate.step memory moment visit).result = .ok .pass ↔ gate.settings.isBypassed visit.path := by
  rw [step, follow_eq_pass_iff, course_eq_pass_iff]

end Gate

namespace Site

theorem callFor_eq_some_none_iff {decision : Decision} :
    callFor decision = some none ↔ decision = .pass := by
  cases decision <;> simp [callFor]

/-- The application is called for nobody exactly if the path of the address is open to everybody. -/
theorem call_eq_some_none_iff {gate : Gate} {app : App} {memory : GateMemory} {moment : Moment}
    {request : Request} :
    (serve gate app memory moment request).call = some none ↔
      ∃ path, request.addressPath? = some path ∧ gate.settings.isBypassed path := by
  rw [serve, Request.visit?]
  cases request.addressPath? with
  | none => simp
  | some path =>
    have hpass := Gate.step_eq_pass_iff gate memory moment
      ⟨path, request.parameters, CookieHeader.read request.cookieHeaders⟩
    simp only [Option.map_some, Option.some.injEq, exists_eq_left', ← hpass]
    cases (gate.step memory moment _).result with
    | error breakdown => simp
    | ok decision => simp [callFor_eq_some_none_iff]

/-! ### The path that the gate sees -/

namespace Request

/-- The characters of a path that do not stand for themselves in the whole address. -/
def isRewritten (c : Char) : Bool := Url.isDropped c || c = '?' || c = '#' || c = '\\'

/-- A character of a path as the gate sees it. -/
def seenChar (c : Char) : List Char := if Url.isDropped c then [] else addressChar c

/-- The host without the characters that are dropped. -/
def seenHost (request : Request) : List Char := request.host.toList.filter (!Url.isDropped ·)

/-- Whether the address can be split at the host. -/
def hasSoundHost (request : Request) : Bool :=
  Url.isSound (request.seenHost.takeWhile (!Url.endsAuthority ·))

/-- The path that the gate sees: what follows the host's part before the first delimiter, up to the
first character that ends a path. -/
def seenPath (request : Request) : String :=
  String.ofList ((request.seenHost.dropWhile (!Url.endsAuthority ·) ++
    request.path.toList.flatMap seenChar).takeWhile (!endsPath ·))

theorem filter_addressChar (c : Char) :
    (addressChar c).filter (!Url.isDropped ·) = seenChar c := by
  rw [seenChar, addressChar]
  split
  · rename_i h
    rw [Bool.or_eq_true, Bool.or_eq_true, decide_eq_true_eq, decide_eq_true_eq,
      decide_eq_true_eq] at h
    rcases h with (rfl | rfl) | rfl <;> decide
  · cases hc : Url.isDropped c <;> simp [hc]

theorem takeWhile_append_slash (host rest : List Char) :
    (host ++ '/' :: rest).takeWhile (!Url.endsAuthority ·) =
      host.takeWhile (!Url.endsAuthority ·) := by
  induction host with
  | nil => rfl
  | cons c host ih => cases hc : Url.endsAuthority c <;> simp [hc, ih]

theorem dropWhile_append_slash (host rest : List Char) :
    (host ++ '/' :: rest).dropWhile (!Url.endsAuthority ·) =
      host.dropWhile (!Url.endsAuthority ·) ++ '/' :: rest := by
  induction host with
  | nil => rfl
  | cons c host ih => cases hc : Url.endsAuthority c <;> simp [hc, ih]

/-- The path of the whole address. -/
theorem addressPath?_eq {request : Request} (h : request.path.toList.head? = some '/') :
    request.addressPath? = if request.hasSoundHost then some request.seenPath else none := by
  obtain ⟨path, hpath⟩ : ∃ path, request.path.toList.flatMap seenChar = '/' :: path := by
    obtain ⟨rest, hrest⟩ := List.head?_eq_some_iff.mp h
    rw [hrest, List.flatMap_cons]
    exact ⟨_, rfl⟩
  have hchars : request.address.toList.filter (!Url.isDropped ·) =
      "https://".toList ++ (request.seenHost ++ request.path.toList.flatMap seenChar) := by
    simp only [address, String.toList_append, String.toList_ofList, List.filter_append,
      List.filter_flatMap, filter_addressChar, List.append_assoc, seenHost]
    rfl
  have hscheme : ∀ cs, Url.splitScheme ("https://".toList ++ cs) =
      ("https".toList, '/' :: '/' :: cs) := fun cs => rfl
  rw [addressPath?, Url.split?, hchars, hscheme]
  simp only [hpath, takeWhile_append_slash, dropWhile_append_slash, hasSoundHost, seenPath]
  split <;> rfl

/-- A character that does not stand for itself is dropped or coded, so the gate sees none. -/
theorem isRewritten_of_mem_seenChar {c d : Char} (hd : d ∈ seenChar c) : isRewritten d = false := by
  rw [seenChar] at hd
  split at hd
  · cases hd
  · rename_i hdropped
    rw [addressChar] at hd
    split at hd
    · rename_i hmark
      rw [Bool.or_eq_true, Bool.or_eq_true, decide_eq_true_eq, decide_eq_true_eq,
        decide_eq_true_eq] at hmark
      have hcodes : ['?', '#', '\\'].all fun c =>
          (Percent.encodeChar (fun _ => false) c).all fun d => !isRewritten d := by decide
      simp only [List.all_eq_true, Bool.not_eq_true'] at hcodes
      exact hcodes c (by simpa [or_assoc] using hmark) d hd
    · rename_i hmark
      rw [List.mem_singleton] at hd
      subst hd
      simp only [isRewritten, hdropped]
      simpa using hmark

theorem seenChar_of_not_isRewritten {c : Char} (h : isRewritten c = false) : seenChar c = [c] := by
  simp only [isRewritten, Bool.or_eq_false_iff, decide_eq_false_iff_not] at h
  simp [seenChar, addressChar, h]

/-- Where no delimiter stands in the host, the gate sees the characters of the path. -/
theorem seenPath_eq {request : Request}
    (h : ∀ c ∈ request.seenHost, Url.endsAuthority c = false) :
    request.seenPath = String.ofList (request.path.toList.flatMap seenChar) := by
  have hhost : request.seenHost.dropWhile (!Url.endsAuthority ·) = [] :=
    List.dropWhile_eq_nil_iff.mpr fun c hc => by simp [h c hc]
  have hends : ∀ c ∈ request.path.toList.flatMap seenChar, (!endsPath c) = true := by
    intro c hc
    obtain ⟨d, -, hd⟩ := List.mem_flatMap.mp hc
    have hplain := isRewritten_of_mem_seenChar hd
    simp only [isRewritten, Bool.or_eq_false_iff] at hplain
    simp [endsPath, hplain]
  rw [seenPath, hhost, List.nil_append, List.takeWhile_eq_self_iff.mpr hends]

/-- Where no delimiter stands in the host, the gate sees the path as it is exactly if no character
of it is dropped or coded. -/
theorem seenPath_eq_iff {request : Request}
    (h : ∀ c ∈ request.seenHost, Url.endsAuthority c = false) :
    request.seenPath = request.path ↔ ∀ c ∈ request.path.toList, isRewritten c = false := by
  rw [seenPath_eq h]
  constructor
  · intro heq c hc
    have htext := congrArg String.toList heq
    rw [String.toList_ofList] at htext
    rw [← htext] at hc
    obtain ⟨d, -, hd⟩ := List.mem_flatMap.mp hc
    exact isRewritten_of_mem_seenChar hd
  · intro hplain
    rw [List.flatMap_congr fun c hc => seenChar_of_not_isRewritten (hplain c hc)]
    simp

end Request

/-! ### Who reaches the application -/

/-- The application is called for nobody exactly if the path that the gate sees is open to
everybody. If the host holds no delimiter, and the path no character that does not stand for itself,
then the path of the request is open to everybody. -/
theorem called_for_nobody_iff {gate : Gate} {app : App} {memory : GateMemory} {moment : Moment}
    {request : Request} (hpath : request.path.toList.head? = some '/') :
    ((serve gate app memory moment request).call = some none ↔
      request.hasSoundHost ∧ gate.settings.isBypassed request.seenPath) ∧
    ((∀ c ∈ request.seenHost, Url.endsAuthority c = false) →
      (∀ c ∈ request.path.toList, Request.isRewritten c = false) →
      (serve gate app memory moment request).call = some none →
      gate.settings.isBypassed request.path) := by
  have hcall : (serve gate app memory moment request).call = some none ↔
      request.hasSoundHost ∧ gate.settings.isBypassed request.seenPath := by
    rw [call_eq_some_none_iff, Request.addressPath?_eq hpath]
    cases request.hasSoundHost <;> simp
  refine ⟨hcall, fun hhost hplain hnobody => ?_⟩
  rw [← (Request.seenPath_eq_iff hhost).mpr hplain]
  exact (hcall.mp hnobody).2

/-- Settings with the usual bypass patterns. -/
def sampleOpenSettings : Settings where
  issuerUri := "https://id.example"
  clientId := "site"
  redirectUri := "https://site.example/callback"
  scope := ["openid"]
  cookieSecret := "0000000000000000"

/-- What is computed from checked settings tells of the settings that the check gives. -/
theorem exists_checked {platform : Platform} {α : Type} {settings : Settings}
    {f : CheckedSettings → α} {a : α}
    (h : (settings.check platform).toOption.map f = some a) :
    ∃ checked, settings.check platform = .ok checked ∧ f checked = a := by
  obtain ⟨checked, hchecked, hf⟩ := Option.map_eq_some_iff.mp h
  cases hresult : settings.check platform with
  | error failure =>
    rw [hresult] at hchecked
    cases hchecked
  | ok found =>
    rw [hresult] at hchecked
    cases hchecked
    exact ⟨checked, rfl, hf⟩

/-- A style sheet is open to everybody, and a path with a tab in its ending is not. -/
theorem check_sampleOpenSettings :
    ∃ settings, sampleOpenSettings.check .standard = .ok settings ∧
      settings.isBypassed "/x.css" = true ∧ settings.isBypassed "/x.c\tss" = false := by
  have hcheck : (sampleOpenSettings.check .standard).toOption.map (fun settings =>
      (settings.isBypassed "/x.css", settings.isBypassed "/x.c\tss")) = some (true, false) := by
    decide +kernel
  obtain ⟨settings, hsettings, hpaths⟩ := exists_checked hcheck
  exact ⟨settings, hsettings, congrArg Prod.fst hpaths, congrArg Prod.snd hpaths⟩

/-- The gate with some settings, at a site with a small provider. -/
def sampleOpenGate (settings : CheckedSettings) : Gate where
  platform := .standard
  plan := ⟨settings, some "site.example"⟩
  metadata :=
    { issuer := "https://id.example"
      authorizationEndpoint := "https://id.example/login"
      tokenEndpoint := "https://id.example/token" }
  usePkce := true
  verifier := none
  entropy := ⟨fun _ _ _ => 0⟩

/-- A request of the site. -/
def sampleRequest (path : String) : Request := { host := "site.example", path }

/-- A request for a style sheet reaches the application without a user, and it may. -/
theorem called_for_nobody_at_style_sheet :
    ∃ settings, sampleOpenSettings.check .standard = .ok settings ∧ ∀ app memory moment,
      (sampleRequest "/x.css").path.toList.head? = some '/' ∧
        (serve (sampleOpenGate settings) app memory moment (sampleRequest "/x.css")).call =
          some none ∧
        settings.isBypassed (sampleRequest "/x.css").path := by
  obtain ⟨settings, hcheck, hseen, -⟩ := check_sampleOpenSettings
  refine ⟨settings, hcheck, fun app memory moment => ?_⟩
  have hslash : (sampleRequest "/x.css").path.toList.head? = some '/' := by decide
  have hpath : (sampleRequest "/x.css").seenPath = "/x.css" := by decide +kernel
  obtain ⟨hiff, himp⟩ := @called_for_nobody_iff (sampleOpenGate settings) app memory moment _ hslash
  have hcall := hiff.mpr ⟨by decide, by rw [hpath]; exact hseen⟩
  have hhost : (sampleRequest "/x.css").seenHost.all (!Url.endsAuthority ·) := by decide
  have hplain : (sampleRequest "/x.css").path.toList.all (!Request.isRewritten ·) := by decide
  rw [List.all_eq_true] at hhost hplain
  exact ⟨hslash, hcall, himp (by simpa using hhost) (by simpa using hplain) hcall⟩

/-- A request for a path with a tab reaches the application without a user, as the gate sees the
path of a style sheet. No bypass pattern matches the path itself. -/
theorem called_for_nobody_behind_tab :
    ∃ settings, sampleOpenSettings.check .standard = .ok settings ∧
      settings.isBypassed (sampleRequest "/x.c\tss").path = false ∧ ∀ app memory moment,
        (serve (sampleOpenGate settings) app memory moment (sampleRequest "/x.c\tss")).call =
          some none := by
  obtain ⟨settings, hcheck, hseen, hown⟩ := check_sampleOpenSettings
  have haddress : (sampleRequest "/x.c\tss").addressPath? = some "/x.css" := by decide +kernel
  exact ⟨settings, hcheck, hown, fun app memory moment =>
    call_eq_some_none_iff.mpr ⟨_, haddress, hseen⟩⟩

end Site

end LoginGate
