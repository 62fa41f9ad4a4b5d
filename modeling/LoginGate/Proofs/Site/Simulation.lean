import LoginGate.Proofs.Gate.Completion
import LoginGate.Proofs.Site.Bypass
import LoginGate.Proofs.Site.Cookies

/-!
# The site does what the gate does

A browser asks the site for pages. It keeps the cookies that the answers tell, and sends all of them
back in a header. Behind this exchange of headers the gate decides, visit by visit, as if it were
asked by itself, with the same memory, and with a jar that is kept from its decisions. The one
difference is the path: where a path has a backslash, the gate sees its code.

## Main definitions

* `Site.Page` : what a browser asks for, and `Site.Page.click` : what the gate is asked for.
* `Site.Exchange` : a request with the jar that it is made from.
* `Site.browse` : the requests of a browser.
* `Site.Simulates` : a request does what a visit does.

## Main results

* `Site.Page.IsPlain.visit?_request` : what the gate sees of a page.
* `Site.returns_iff` : the site answers a request exactly if the gate decides the visit.
* `Site.browse_simulates` : the requests of a browser do what the visits of its clicks do.
-/

namespace LoginGate.Site

/-! ### Pages -/

/-- What a browser asks the site for, and what the world contributes then. -/
structure Page where
  moment : Moment
  path : String
  /-- The query as it is sent. -/
  query : Bytes := []

namespace Page

/-- The characters that paths are made of: neither question marks nor number signs, and none of
those that are dropped from addresses. -/
def isPathChar (c : Char) : Bool := c ≠ '?' && c ≠ '#' && !Url.isDropped c

/-- A path that begins with a slash, of such characters. -/
structure IsPlain (page : Page) : Prop where
  slash : page.path.toList.head? = some '/'
  chars : page.path.toList.all isPathChar

/-- A character of a path; a backslash is coded. -/
def codedChar (c : Char) : List Char := if c = '\\' then ['%', '5', 'C'] else [c]

/-- A path with codes for its backslashes. -/
def codedPath (path : String) : String := String.ofList (path.toList.flatMap codedChar)

/-- The pairs of a query, every byte of which is a character. -/
def pairs (page : Page) : List (String × String) :=
  Form.decode (page.query.map fun b => Char.ofNat b.toNat)

/-- What the gate is asked for. -/
def click (page : Page) : Click :=
  ⟨page.moment, codedPath page.path, NameMap.ofPairs page.pairs⟩

/-- The request of a browser that sends the whole of a jar, and no header if it is empty. -/
def request (page : Page) (host : String) (jar : CookieJar) : Request where
  host
  path := page.path
  query := page.query
  cookieHeaders := if jar.isEmpty then [] else [CookieHeader.write jar]

theorem codedPath_of_not_mem {path : String} (h : '\\' ∉ path.toList) : codedPath path = path := by
  have hall : ∀ c ∈ path.toList, codedChar c = [c] := by
    intro c hc
    rw [codedChar, if_neg]
    rintro rfl
    exact h hc
  rw [codedPath, List.flatMap_congr hall]
  simp

theorem get?_query_click (page : Page) (name : String) :
    page.click.query.get? name = page.pairs.reverse.lookup name :=
  NameMap.get?_ofPairs page.pairs name

theorem seenChar_eq_codedChar {c : Char} (h : isPathChar c) :
    Request.seenChar c = codedChar c := by
  obtain ⟨⟨hquestion, hnumber⟩, hkept⟩ : (c ≠ '?' ∧ c ≠ '#') ∧ Url.isDropped c = false := by
    simpa [isPathChar] using h
  rw [Request.seenChar, if_neg (by simp [hkept]), Request.addressChar, codedChar]
  by_cases hback : c = '\\'
  · subst hback
    decide
  · simp [hquestion, hnumber, hback]

/-- What the gate sees of a page: the coded path, the last value of each name in the query, and the
jar. -/
theorem IsPlain.visit?_request {page : Page} (hpage : page.IsPlain) {host : String}
    (hhost : host.toList.all (!Url.endsAuthority ·)) {jar : CookieJar}
    (hjar : jar.Writable) :
    (page.request host jar).visit? =
      if (page.request host jar).hasSoundHost then
        some ⟨page.click.path, page.click.query, jar⟩ else none := by
  have hslash : (page.request host jar).path.toList.head? = some '/' := hpage.slash
  have hwhole : ∀ c ∈ (page.request host jar).seenHost, Url.endsAuthority c = false := by
    intro c hc
    simpa using List.all_eq_true.mp hhost c (List.mem_filter.mp hc).1
  have hseen : (page.request host jar).seenPath = codedPath page.path := by
    rw [Request.seenPath_eq hwhole]
    exact congrArg String.ofList
      (List.flatMap_congr fun c hc => seenChar_eq_codedChar (List.all_eq_true.mp hpage.chars c hc))
  have hcookies : CookieHeader.read (page.request host jar).cookieHeaders = jar := by
    rw [request]
    cases hempty : jar.isEmpty with
    | true =>
      rw [List.isEmpty_iff.mp hempty]
      rfl
    | false =>
      rw [if_neg Bool.false_ne_true]
      exact hjar.read_write (by simpa using hempty)
  rw [Request.visit?, Request.addressPath?_eq hslash, hseen, hcookies]
  split <;> rfl

end Page

/-! ### Requests of a browser -/

/-- What a browser keeps after an answer: it stores the cookies one after the other. -/
def storeAnswer (jar : CookieJar) : Except Breakdown Answer → CookieJar
  | .ok answer => answer.cookies.foldl CookieJar.store jar
  | .error _ => jar

/-- A request with the memory of the gate and the jar that it is made from. -/
structure Exchange where
  memory : GateMemory
  moment : Moment
  jar : CookieJar
  request : Request

namespace Exchange

variable (gate : Gate) (app : App)

/-- What comes of it. -/
def outcome (exchange : Exchange) : Outcome :=
  serve gate app exchange.memory exchange.moment exchange.request

/-- The jar after it. -/
def jarAfter (exchange : Exchange) : CookieJar :=
  storeAnswer exchange.jar (exchange.outcome gate app).result

/-- Whether there is an answer. -/
def Returns (exchange : Exchange) : Prop :=
  ∃ answer, (exchange.outcome gate app).result = .ok answer

end Exchange

/-- The request for a page with what is remembered and kept before it. -/
def Page.exchange (page : Page) (host : String) (memory : GateMemory) (jar : CookieJar) :
    Exchange :=
  ⟨memory, page.moment, jar, page.request host jar⟩

/-- The visit of the page's click. -/
def Page.record (page : Page) (memory : GateMemory) (jar : CookieJar) : Record :=
  ⟨memory, page.moment, page.click.path, page.click.query, jar⟩

/-- The requests of a browser, each of which is made from the jar that the one before has left. -/
def browse (gate : Gate) (app : App) (host : String) (memory : GateMemory) (jar : CookieJar) :
    List Page → List Exchange
  | [] => []
  | page :: pages =>
    let exchange := page.exchange host memory jar
    exchange :: browse gate app host (exchange.outcome gate app).memory
      (exchange.jarAfter gate app) pages

/-- On whose behalf the application is called, if it is. -/
inductive CalledFor : Decision → Option (Option User) → Prop
  /-- Nobody's. -/
  | passed : CalledFor .pass (some none)
  /-- That of the forwarded user, who has the groups as scopes. -/
  | forwarded {userId : String} {identity : Identity} {groups : List String}
      {cookies : List Cookie} {user : User} (id : user.userId = userId)
      (profile : user.profile = identity) (scopes : user.scopes = "authenticated" :: groups) :
      CalledFor (.forward userId identity groups cookies) (some (some user))
  /-- It is not called. -/
  | redirected {location : String} {cookies : List Cookie} {clientSide : Bool} :
      CalledFor (.redirect location cookies clientSide) none
  /-- It is not called. -/
  | denied {denial : Denial} {cookies : List Cookie} : CalledFor (.deny denial cookies) none

theorem calledFor_callFor (decision : Decision) : CalledFor decision (callFor decision) := by
  cases decision with
  | pass => exact .passed
  | forward => exact .forwarded rfl rfl rfl
  | redirect => exact .redirected
  | deny => exact .denied

theorem CalledFor.eq_of_pass {call : Option (Option User)} (h : CalledFor .pass call) :
    call = some none := by
  cases h
  rfl

/-- A request does what a visit does. -/
structure Simulates (gate : Gate) (app : App) (exchange : Exchange) (record : Record) : Prop where
  /-- The gate sees the visit. -/
  visit : exchange.request.visit? = some record.visit
  memory : exchange.memory = record.memory
  moment : exchange.moment = record.moment
  jar : exchange.jar = record.visit.cookies
  /-- The answer is that to the decision, and so is the call of the application. -/
  decision : ∃ decision, (gate.outcome record).result = .ok decision ∧
    (exchange.outcome gate app).result = answer app exchange.request decision ∧
    CalledFor decision (exchange.outcome gate app).call
  requests : (exchange.outcome gate app).requests = (gate.outcome record).requests
  fetches : (exchange.outcome gate app).fetches = (gate.outcome record).fetches
  memoryAfter : (exchange.outcome gate app).memory = (gate.outcome record).memory
  jarAfter : exchange.jarAfter gate app = gate.jarAfter record

section

variable {gate : Gate} {app : App}

/-- The site answers a request exactly if the gate decides the visit. The names of the cookies are
legal, and the domain has only characters of one byte. -/
theorem returns_iff (hname : SetCookie.isLegalName gate.settings.cookieName)
    (hdomain : gate.plan.domain.all isOneByte) {request : Request} {record : Record}
    (h : request.visit? = some record.visit) :
    (∃ reply, (serve gate app record.memory record.moment request).result = .ok reply) ↔
      ∃ decision, (gate.outcome record).result = .ok decision := by
  rw [serve, h]
  constructor
  · rintro ⟨reply, hreply⟩
    obtain ⟨decision, hdecision, -⟩ := Result.bind_eq_ok_iff.mp hreply
    exact ⟨decision, hdecision⟩
  · rintro ⟨decision, hdecision⟩
    obtain ⟨told, htold⟩ := Result.exists_mapM_iff.mpr fun cookie hcookie =>
      (Gate.tells_of_mem_cookies hdecision hcookie).exists_ofCookie hname hdomain
    exact ⟨_, Result.bind_eq_ok_iff.mpr ⟨decision, hdecision,
      Result.map_eq_ok_iff.mpr ⟨told, htold, rfl⟩⟩⟩

/-! ### An application without cookies of its own -/

variable (happ : ∀ request user, (app request user).cookies = [])

include happ

theorem cookies_answerFor (request : Request) (decision : Decision) :
    (answerFor app request decision).cookies = [] := by
  cases decision with
  | pass => exact happ request none
  | forward userId identity groups cookies => exact happ request _
  | redirect location cookies clientSide => cases clientSide <;> rfl
  | deny denial cookies => rfl

/-- The cookies of an answer are those of the decision. -/
theorem mapM_of_answer {request : Request} {decision : Decision} {reply : Answer}
    (h : answer app request decision = .ok reply) :
    decision.cookies.mapM SetCookie.ofCookie = .ok reply.cookies := by
  obtain ⟨told, htold, rfl⟩ := Result.map_eq_ok_iff.mp h
  rw [cookies_answerFor happ, List.nil_append]
  exact htold

/-- A request does what the visit does that the gate sees, if there is an answer. -/
theorem simulates_of_returns {exchange : Exchange} {record : Record}
    (hvisit : exchange.request.visit? = some record.visit)
    (hmemory : exchange.memory = record.memory) (hmoment : exchange.moment = record.moment)
    (hjar : exchange.jar = record.visit.cookies) (h : exchange.Returns gate app) :
    Simulates gate app exchange record := by
  obtain ⟨reply, hreply⟩ := h
  have hserve : exchange.outcome gate app =
      serve gate app record.memory record.moment exchange.request := by
    rw [Exchange.outcome, hmemory, hmoment]
  obtain ⟨decision, hdecision, hanswer⟩ : ∃ decision, (gate.outcome record).result = .ok decision ∧
      answer app exchange.request decision = .ok reply := by
    rw [hserve, serve, hvisit] at hreply
    exact Result.bind_eq_ok_iff.mp hreply
  have houtcome : exchange.outcome gate app =
      { result := .ok reply
        memory := (gate.outcome record).memory
        call := callFor decision
        requests := (gate.outcome record).requests
        fetches := (gate.outcome record).fetches } := by
    rw [hserve, serve, hvisit, ← hanswer]
    rw [Gate.outcome] at hdecision ⊢
    simp only [hdecision]
    rfl
  have hstored : reply.cookies.foldl CookieJar.store exchange.jar =
      exchange.jar.applyAll decision.cookies :=
    CookieJar.foldl_store (mapM_of_answer happ hanswer)
      (fun cookie hcookie => (Gate.tells_of_mem_cookies hdecision hcookie).isDeletion_or_isToken) _
  refine ⟨hvisit, hmemory, hmoment, hjar, ⟨decision, hdecision, ?_, ?_⟩, ?_, ?_, ?_, ?_⟩
  · rw [houtcome, hanswer]
  · rw [houtcome]
    exact calledFor_callFor decision
  · rw [houtcome]
  · rw [houtcome]
  · rw [houtcome]
  · rw [Exchange.jarAfter, hreply, Gate.jarAfter, hdecision, ← hjar]
    exact hstored

/-- It leaves a jar that comes back from a header again. -/
theorem writable_jarAfter {exchange : Exchange} {record : Record}
    (h : Simulates gate app exchange record) (hreturns : exchange.Returns gate app)
    (hjar : record.visit.cookies.Writable) : (gate.jarAfter record).Writable := by
  obtain ⟨decision, hdecision, hresult, -⟩ := h.decision
  obtain ⟨reply, hreply⟩ := hreturns
  have hlegal := Result.exists_mapM_iff.mp ⟨_, mapM_of_answer happ (hresult.symm.trans hreply)⟩
  rw [Gate.jarAfter, hdecision]
  refine hjar.applyAll fun cookie hcookie => ?_
  obtain ⟨set, hset⟩ := hlegal cookie hcookie
  exact ⟨SetCookie.isToken_of_isLegalName (SetCookie.ofCookie_eq_ok hset).1,
    (Gate.tells_of_mem_cookies hdecision hcookie).isDeletion_or_isToken⟩

end

/-! ### From page to page -/

section

variable {gate : Gate} {app : App} {host : String}
  (hhost : host.toList.all (!Url.endsAuthority ·)) {page : Page} {pages : List Page}
  {memory : GateMemory} {jar : CookieJar} (hjar : jar.Writable)

include hhost hjar

/-- The gate sees the visit of the click, if the host is sound. -/
theorem visit?_exchange (hpage : page.IsPlain) (hsound : Request.hasSoundHost { host })
    (memory : GateMemory) :
    (page.exchange host memory jar).request.visit? = some (page.record memory jar).visit :=
  (hpage.visit?_request hhost hjar).trans (if_pos hsound)

theorem hasSoundHost_of_returns (hpage : page.IsPlain)
    (h : (page.exchange host memory jar).Returns gate app) : Request.hasSoundHost { host } := by
  by_contra hsound
  have hnone : (page.request host jar).visit? = none :=
    (hpage.visit?_request hhost hjar).trans (if_neg hsound)
  obtain ⟨reply, hreply⟩ := h
  rw [Exchange.outcome, Page.exchange, serve, hnone] at hreply
  cases hreply

variable (happ : ∀ request user, (app request user).cookies = [])

include happ

/-- The request for a page does what the visit of its click does. -/
theorem simulates_exchange (hpage : page.IsPlain)
    (h : (page.exchange host memory jar).Returns gate app) :
    Simulates gate app (page.exchange host memory jar) (page.record memory jar) :=
  have hsound := hasSoundHost_of_returns hhost hjar hpage h
  simulates_of_returns happ (visit?_exchange hhost hjar hpage hsound memory) rfl rfl rfl h

/-- From a jar that comes back from a header, the requests of a browser do what the visits of its
clicks do. -/
theorem simulates_browse (hpages : ∀ page ∈ pages, page.IsPlain)
    (hreturns : ∀ exchange ∈ browse gate app host memory jar pages, exchange.Returns gate app) :
    List.Forall₂ (Simulates gate app) (browse gate app host memory jar pages)
      (gate.browse memory jar (pages.map Page.click)) := by
  -- A request leaves the memory and the jar of its visit, from which both go on with the other
  -- pages.
  induction pages generalizing memory jar with
  | nil => exact .nil
  | cons page pages ih =>
    obtain ⟨hfirst, hlater⟩ := List.forall_mem_cons.mp hreturns
    obtain ⟨hplain, hpages⟩ := List.forall_mem_cons.mp hpages
    have hstep := simulates_exchange hhost hjar happ hplain hfirst
    rw [hstep.memoryAfter, hstep.jarAfter] at hlater
    refine .cons hstep ?_
    rw [hstep.memoryAfter, hstep.jarAfter]
    exact ih (writable_jarAfter happ hstep hfirst hjar) hpages hlater

/-- If the gate decides all visits of the clicks, then the site answers all requests. The host is
sound, the names of the cookies are legal, and the domain has only characters of one byte. -/
theorem returns_browse (hname : SetCookie.isLegalName gate.settings.cookieName)
    (hdomain : gate.plan.domain.all isOneByte) (hsound : Request.hasSoundHost { host })
    (hpages : ∀ page ∈ pages, page.IsPlain)
    (hdecided : ∀ record ∈ gate.browse memory jar (pages.map Page.click),
      ∃ decision, (gate.outcome record).result = .ok decision) :
    ∀ exchange ∈ browse gate app host memory jar pages, exchange.Returns gate app := by
  induction pages generalizing memory jar with
  | nil => exact fun _ hnone => absurd hnone List.not_mem_nil
  | cons page pages ih =>
    obtain ⟨hdecision, hdecided⟩ := List.forall_mem_cons.mp hdecided
    obtain ⟨hplain, hpages⟩ := List.forall_mem_cons.mp hpages
    have hfirst : (page.exchange host memory jar).Returns gate app :=
      (returns_iff hname hdomain (visit?_exchange hhost hjar hplain hsound memory)).mpr hdecision
    have hstep := simulates_exchange hhost hjar happ hplain hfirst
    refine List.forall_mem_cons.mpr ⟨hfirst, ?_⟩
    rw [hstep.memoryAfter, hstep.jarAfter]
    exact ih (writable_jarAfter happ hstep hfirst hjar) hpages hdecided

end

/-- If every request has an answer, then the requests of a browser do what the visits of its clicks
do, one by one: the gate sees the coded path, the last value of each name in the query, and the
jar; the decisions are the same, and the application is called for nobody or for the user of the
decision; the provider is asked the same, and memory and jar are the same afterwards. Every request
has an answer if the gate decides all visits, the host is sound, the names of the cookies are legal
and the domain has only characters of one byte. The application sets no cookies of its own, and
there is no delimiter in the host. -/
theorem browse_simulates (gate : Gate) {app : App}
    (happ : ∀ request user, (app request user).cookies = []) {host : String}
    (hhost : host.toList.all (!Url.endsAuthority ·)) (memory : GateMemory)
    {pages : List Page} (hpages : ∀ page ∈ pages, page.IsPlain) :
    ((∀ exchange ∈ browse gate app host memory [] pages, exchange.Returns gate app) →
      List.Forall₂ (Simulates gate app) (browse gate app host memory [] pages)
        (gate.browse memory [] (pages.map Page.click))) ∧
    (SetCookie.isLegalName gate.settings.cookieName →
      gate.plan.domain.all isOneByte →
      Request.hasSoundHost { host } →
      (∀ record ∈ gate.browse memory [] (pages.map Page.click),
        ∃ decision, (gate.outcome record).result = .ok decision) →
      ∀ exchange ∈ browse gate app host memory [] pages, exchange.Returns gate app) ∧
    ∀ page ∈ pages,
      (∀ name, page.click.query.get? name = page.pairs.reverse.lookup name) ∧
      ('\\' ∉ page.path.toList → page.click.path = page.path) :=
  ⟨simulates_browse hhost CookieJar.writable_nil happ hpages,
    fun hname hdomain hsound =>
      returns_browse hhost CookieJar.writable_nil happ hname hdomain hsound hpages,
    fun page _ => ⟨page.get?_query_click, Page.codedPath_of_not_mem⟩⟩

/-- An application that tells who has come. -/
def sampleApp : App := fun _ user? =>
  { status := 200, headers := [], body := (user?.map User.displayName).getD "" }

/-- A browser is led back with a code, and asks for the first page a microsecond later. -/
def samplePages : List Page :=
  [⟨Gate.sampleCallback.moment, "/callback", Utf8.encode "code=c"⟩,
    ⟨Gate.sampleReturn.moment, "/", []⟩]

theorem map_click_samplePages : samplePages.map Page.click = Gate.sampleClicks := by
  have hpath : Page.codedPath "/callback" = "/callback" := by decide
  have hroot : Page.codedPath "/" = "/" := by decide
  have hquery : ((Utf8.encode "code=c").map fun b => Char.ofNat b.toNat) =
      Form.encodeChars [("code", "c")] := by decide +kernel
  simp only [samplePages, List.map_cons, List.map_nil, Page.click, Page.pairs, hpath, hroot, hquery,
    Form.decode_encodeChars]
  rfl

/-- Both requests of a login do what the two visits do, and the second is forwarded. -/
theorem browse_simulates_after_login :
    (∀ request user, (sampleApp request user).cookies = []) ∧
      "site.example".toList.all (!Url.endsAuthority ·) ∧
      (∀ page ∈ samplePages, page.IsPlain) ∧
      SetCookie.isLegalName (Gate.sampleGate false).settings.cookieName ∧
      (∀ exchange ∈ browse (Gate.sampleGate false) sampleApp "site.example" {} [] samplePages,
        exchange.Returns (Gate.sampleGate false) sampleApp) ∧
      List.Forall₂ (Simulates (Gate.sampleGate false) sampleApp)
        (browse (Gate.sampleGate false) sampleApp "site.example" {} [] samplePages)
        [Gate.sampleCallback, Gate.sampleReturn] ∧
      ((Gate.sampleGate false).outcome Gate.sampleReturn).result =
        .ok (.forward "a@b.c" Gate.sampleSession.identity [] []) := by
  have happ : ∀ request user, (sampleApp request user).cookies = [] := fun _ _ => rfl
  have hhost : "site.example".toList.all (!Url.endsAuthority ·) := by decide
  have hpages : ∀ page ∈ samplePages, page.IsPlain := by
    rw [samplePages, List.forall_mem_cons, List.forall_mem_singleton]
    exact ⟨⟨by decide, by decide⟩, by decide, by decide⟩
  have hname : SetCookie.isLegalName (Gate.sampleGate false).settings.cookieName := by decide
  obtain ⟨hsimulates, hreturns, -⟩ :=
    browse_simulates (Gate.sampleGate false) happ hhost {} hpages
  rw [map_click_samplePages, Gate.browse_sampleClicks] at hsimulates hreturns
  rw [List.forall_mem_cons, List.forall_mem_singleton] at hreturns
  have hall := hreturns hname (by decide) (by decide)
    ⟨⟨_, Gate.result_sampleCallback⟩, _, Gate.result_sampleReturn⟩
  exact ⟨happ, hhost, hpages, hname, hall, hsimulates hall, Gate.result_sampleReturn⟩

/-- Settings that let everybody ask for an a and a b with one character between them. -/
def samplePointSettings : Settings := { sampleOpenSettings with bypassPatterns := ["/a.b"] }

/-- Such a path is open to everybody, and the one with the code of the character is not. -/
theorem check_samplePointSettings :
    ∃ settings, samplePointSettings.check .standard = .ok settings ∧
      SetCookie.isLegalName settings.cookieName ∧
      settings.isBypassed "/a\\b" = true ∧ settings.isBypassed "/a%5Cb" = false := by
  have hcheck : (samplePointSettings.check .standard).toOption.map (fun settings =>
      (SetCookie.isLegalName settings.cookieName, settings.isBypassed "/a\\b",
        settings.isBypassed "/a%5Cb")) = some (true, true, false) := by
    decide +kernel
  obtain ⟨settings, hsettings, hfacts⟩ := exists_checked hcheck
  obtain ⟨hname, hpaths⟩ := Prod.mk.inj hfacts
  exact ⟨settings, hsettings, hname, Prod.mk.inj hpaths⟩

/-- A browser asks for a path with a backslash. -/
def sampleBackslashPage : Page := { moment := ⟨0, .none "", []⟩, path := "/a\\b" }

/-- The gate lets everybody through with a path that has a backslash. The site, of which it sees the
coded path, does not call the application for a request with that path. -/
theorem not_simulated_behind_backslash :
    ∃ settings, samplePointSettings.check .standard = .ok settings ∧
      SetCookie.isLegalName settings.cookieName ∧ sampleBackslashPage.IsPlain ∧
      (∀ exchange ∈
        browse (sampleOpenGate settings) sampleApp "site.example" {} [] [sampleBackslashPage],
          exchange.Returns (sampleOpenGate settings) sampleApp ∧
            (exchange.outcome (sampleOpenGate settings) sampleApp).call ≠ some none) ∧
      ((sampleOpenGate settings).outcome ⟨{}, sampleBackslashPage.moment,
        sampleBackslashPage.path, sampleBackslashPage.click.query, []⟩).result = .ok .pass ∧
      ¬ List.Forall₂ (Simulates (sampleOpenGate settings) sampleApp)
        (browse (sampleOpenGate settings) sampleApp "site.example" {} [] [sampleBackslashPage])
        ((sampleOpenGate settings).browse {} [] [⟨sampleBackslashPage.moment,
          sampleBackslashPage.path, sampleBackslashPage.click.query⟩]) := by
  obtain ⟨settings, hcheck, hname, hopen, hclosed⟩ := check_samplePointSettings
  have hplain : sampleBackslashPage.IsPlain := ⟨by decide, by decide⟩
  have hpass := (Gate.step_eq_pass_iff (sampleOpenGate settings) {} sampleBackslashPage.moment
    ⟨sampleBackslashPage.path, sampleBackslashPage.click.query, []⟩).mpr hopen
  have hstarts : (sampleOpenGate settings).Starts
      ⟨sampleBackslashPage.click.path, sampleBackslashPage.click.query, []⟩ :=
    ⟨hclosed, rfl, by decide, by decide⟩
  obtain ⟨location, cookies, hled⟩ :=
    @Gate.result_of_starts _ (sampleBackslashPage.record {} []) hstarts
  have hcall : ((sampleBackslashPage.exchange "site.example" {} []).outcome
      (sampleOpenGate settings) sampleApp).call ≠ some none := by
    intro hnobody
    obtain ⟨path, hpath, hbypassed⟩ := call_eq_some_none_iff.mp hnobody
    have hcoded : (sampleBackslashPage.request "site.example" []).addressPath? = some "/a%5Cb" := by
      decide +kernel
    cases hcoded.symm.trans hpath
    exact absurd hbypassed (Bool.eq_false_iff.mp hclosed)
  have hvisit : (sampleBackslashPage.request "site.example" []).visit? =
      some (sampleBackslashPage.record {} []).visit :=
    visit?_exchange (by decide) CookieJar.writable_nil hplain (by decide) {}
  refine ⟨settings, hcheck, hname, hplain, ?_, hpass, fun hsimulates => ?_⟩
  · exact List.forall_mem_singleton.mpr
      ⟨(@returns_iff (sampleOpenGate settings) _ hname rfl _ _ hvisit).mpr ⟨_, hled⟩, hcall⟩
  · obtain ⟨decision, hdecision, -, hcalled⟩ := (List.forall₂_cons.mp hsimulates).1.decision
    cases hdecision.symm.trans hpass
    exact hcall hcalled.eq_of_pass

end LoginGate.Site
