import LoginGate.Proofs.Jwt.Claims
import LoginGate.Proofs.Jwt.Header
import LoginGate.Proofs.Jwt.Provenance
import LoginGate.Proofs.Jwt.Segments

/-!
# What a verified token is

A token that a verifier accepts has three segments, of which the first two hold objects. Its header
names an accepted type or none, an algorithm of the provider's, and the id of a key that the
provider has published for signatures; with that key and by that algorithm the token is signed. Its
claims hold at the moment and come from the provider, and they are what the token tells of the
user.

## Main definitions

* `Jwt.KeyAnswer.Signs` : a key that an answer publishes signs a text.
* `Verifier.Vouches` : a provider vouches for a token at a moment.

## Main results

* `Jwt.checkSignature_eq_ok_iff` : the signatures that pass their check.
* `Verifier.verify_eq_ok_iff` : the tokens that are accepted.
* `Verifier.verify_sound` : the provider vouches for a token that is accepted.
* `Verifier.accepted_before_issued` : some tokens are accepted before they are issued.
-/

namespace LoginGate

namespace Jwt

/-- A key that is published in an answer under an id, and for signatures, signs a text: there is a
signature by the algorithm and the key that the algorithm takes the published one for. -/
def KeyAnswer.Signs (platform : Platform) (answer : KeyAnswer) (id : CodeString)
    (algorithm : String) (signed signature : Bytes) : Prop :=
  ∃ set key family used, KeySet.ofAnswer platform answer = .ok set ∧ set.Offers id key ∧
    families.lookup algorithm = some family ∧ key.prepare platform algorithm family = .ok used ∧
    isSignature algorithm used signed signature

/-- What signs is not the algorithm that signs nothing. -/
theorem ne_none_of_lookup_families {algorithm : String} {family : Family}
    (h : families.lookup algorithm = some family) : algorithm ≠ "none" := by
  rintro rfl
  have hnone : families.lookup "none" = none := by decide
  cases hnone.symm.trans h

/-- A signature passes its check exactly if it is one: no algorithm but those that sign is let
through, and no key but those that go with it. -/
theorem checkSignature_eq_ok_iff {platform : Platform} {algorithm : String} {key : Key}
    {signed signature : Bytes} :
    checkSignature platform algorithm key signed signature = .ok () ↔
      ∃ family used, families.lookup algorithm = some family ∧
        key.prepare platform algorithm family = .ok used ∧
        isSignature algorithm used signed signature := by
  rw [checkSignature]
  constructor
  · intro h
    split at h
    · cases h
    · split at h
      · cases h
      · split at h
        · cases h
        · rename_i family hfamily
          obtain ⟨used, hused, h⟩ := Result.bind_eq_ok_iff.mp h
          split at h
          · exact ⟨family, used, hfamily, hused, by assumption⟩
          · cases h
  · rintro ⟨family, used, hfamily, hused, hsignature⟩
    have hempty : ¬ algorithm.isEmpty := by
      intro h
      have hnone : families.lookup "" = none := by decide
      rw [String.isEmpty_iff.mp h] at hfamily
      cases hnone.symm.trans hfamily
    rw [if_neg hempty, if_neg (ne_none_of_lookup_families hfamily), hfamily]
    simp [hused, hsignature, bind, Except.bind]

/-- A token that is put together is read, whatever its signature is. -/
theorem read_compose {platform : Platform} {headerBytes payload : Bytes}
    {header claims : List (String × Json)}
    (hheader : Json.ofBytes platform.nesting headerBytes = .ok (.obj header))
    (hdetached : isDetached (.obj header) = false) (hcheck : checkHeader (.obj header) = .ok ())
    (hclaims : Json.ofBytes platform.nesting payload = .ok (.obj claims)) (signature : Bytes) :
    read platform (compose headerBytes payload signature) = .ok (.obj header, .obj claims) := by
  refine read_eq_ok_iff.mpr ⟨_, load_compose hheader hdetached hcheck, ?_, rfl,
    claims_eq_ok_iff.mpr ⟨claims, rfl, hclaims⟩⟩
  rw [Document.checkAttached, hdetached]
  rfl

end Jwt

namespace Verifier

open Jwt

variable {verifier : Verifier} {now : Instant} {token : String} {errand : Errand}

theorem checkedClaims_eq_ok_iff {algorithm : String} {key : Key} {document : Document}
    {claims : Json} :
    verifier.checkedClaims now algorithm key document = .ok claims ↔
      checkSignature verifier.platform algorithm key document.signed document.signature = .ok () ∧
        document.claims verifier.platform = .ok claims ∧
        Claims.Hold claims verifier.issuer now := by
  rw [← Claims.check_eq_ok_iff verifier.platform, checkedClaims]
  constructor
  · intro h
    obtain ⟨hsignature, h⟩ := Result.bind_unit_eq_ok_iff.mp h
    obtain ⟨found, hclaims, h⟩ := Result.bind_eq_ok_iff.mp h
    obtain ⟨hcheck, h⟩ := Result.bind_unit_eq_ok_iff.mp h
    cases h
    exact ⟨hsignature, hclaims, hcheck⟩
  · rintro ⟨hsignature, hclaims, hcheck⟩
    simp only [hsignature, hclaims, hcheck, bind, Except.bind]
    rfl

/-- A token is accepted if its header is, a key is found for it, and with that key its claims are
checked. -/
theorem verify_eq_ok_iff {profile : Profile CodeString} :
    (verifier.verify now token errand).1 = .ok profile ↔
      ∃ document algorithm key claims, load verifier.platform token = .ok document ∧
        verifier.checkHeader document.header = .ok algorithm ∧
        (verifier.keyFor now token errand).1 = .ok key ∧
        verifier.checkedClaims now algorithm key document = .ok claims ∧
        Claims.profile claims = profile := by
  constructor
  · intro h
    cases hload : load verifier.platform token with
    | error fault =>
      rw [verify, verifiedClaims, hload] at h
      cases h
    | ok document =>
      cases hheader : verifier.checkHeader document.header with
      | error failure =>
        simp only [verify, verifiedClaims, hload, hheader] at h
        cases h
      | ok algorithm =>
        rw [verify_of_checkHeader now errand hload hheader] at h
        obtain ⟨claims, hclaims, rfl⟩ := Result.map_eq_ok_iff.mp h
        obtain ⟨key, hkey, hchecked⟩ := Result.bind_eq_ok_iff.mp hclaims
        exact ⟨document, algorithm, key, claims, rfl, hheader, hkey,
          Result.mapError_eq_ok_iff.mp hchecked, rfl⟩
  · rintro ⟨document, algorithm, key, claims, hload, hheader, hkey, hchecked, rfl⟩
    rw [verify_of_checkHeader now errand hload hheader, hkey]
    simp only [Except.bind, hchecked, Result.mapError_ok]
    rfl

/-- A verifier expects what its provider's document says. -/
theorem make_eq_ok {platform : Platform} {metadata : ProviderMetadata} {timeout : Seconds}
    {maxAttempts : Int} (h : make platform metadata timeout maxAttempts = .ok verifier) :
    verifier.platform = platform ∧ verifier.issuer = metadata.issuer ∧
      verifier.algorithms = metadata.signingAlgorithms := by
  rw [make] at h
  split at h
  · cases h
  · split at h
    · cases h
    · split at h
      · cases h
        exact ⟨rfl, rfl, rfl⟩
      · cases h

/-- A provider vouches for a token at a moment: the token has an accepted type, is signed by one of
the provider's algorithms with a key from one of some answers, and its claims hold and come from
the provider. -/
structure Vouches (platform : Platform) (metadata : ProviderMetadata) (answers : List KeyAnswer)
    (now : Instant) (token : String) (header claims : List (String × Json)) (algorithm : String)
    (id : CodeString) (signed signature : Bytes) : Prop where
  consists : Consists platform token header claims signed signature
  type : HasAcceptedType (.obj header)
  algorithm_eq : (Json.obj header).get? "alg" = some (.str algorithm)
  algorithm_mem : algorithm ∈ metadata.signingAlgorithms.toList
  algorithm_ne : algorithm ≠ "none"
  id_eq : ((Json.obj header).get? "kid").bind Json.codeString? = some id
  signs : ∃ answer ∈ answers, answer.Signs platform id algorithm signed signature
  hold : Claims.Hold (.obj claims) metadata.issuer now

/-! ### A token from half a second later -/

/-- A provider that shares a secret with those who verify its tokens. -/
def sampleProvider : ProviderMetadata where
  issuer := "https://id.example"
  authorizationEndpoint := "https://id.example/login"
  tokenEndpoint := "https://id.example/token"
  jwksUri := some "https://id.example/keys"
  signingAlgorithms := ⟨["HS256"]⟩

/-- The verifier of its tokens. -/
def sampleVerifier : Verifier where
  platform := .standard
  issuer := "https://id.example"
  algorithms := ⟨["HS256"]⟩
  keysUrl := "https://id.example/keys"
  timeout := .binary (.ofInt 30)

theorem make_sampleVerifier :
    make .standard sampleProvider (.binary (.ofInt 30)) 3 = .ok sampleVerifier := by
  have hscheme : (Url.split? "https://id.example/keys").map (·.scheme) = some "https".toList := by
    decide +kernel
  obtain ⟨parts, hparts, hscheme⟩ := Option.map_eq_some_iff.mp hscheme
  have hurl : sampleProvider.jwksUri.filter (!·.isEmpty) = some "https://id.example/keys" := by
    decide
  rw [make, hurl]
  simp only [hparts, hscheme]
  rfl

/-- The secret. -/
def sampleSecret : Bytes := List.replicate 32 48

/-- Its published form. -/
def samplePublished : Json :=
  .obj [("kty", .str "oct"), ("kid", .str "k"), ("k", .str (Base64.encode .urlSafe sampleSecret))]

/-- The answer with the provider's only key. -/
def sampleKeyAnswer : KeyAnswer :=
  .document (Utf8.encode ((Json.obj [("keys", .arr [samplePublished])]).render Json.compact))

/-- The key set with the secret. -/
def sampleKeySet : KeySet := ⟨[⟨.str "k", .null, .secret sampleSecret⟩]⟩

theorem ofAnswer_sampleKeyAnswer :
    KeySet.ofAnswer .standard sampleKeyAnswer = .ok sampleKeySet := by
  have hjson : Json.ofBytes 990 (Utf8.encode
      ((Json.obj [("keys", .arr [samplePublished])]).render Json.compact)) =
        .ok (.obj [("keys", .arr [samplePublished])]) :=
    Json.ofBytes_of_render (.obj [("keys", .arr [samplePublished])]) rfl rfl (by decide +kernel)
  have htype : samplePublished.get? "kty" = some (.str "oct") := rfl
  have hfamily : Key.family? samplePublished "oct" = some .secret := rfl
  have hbytes : Key.bytes? samplePublished "k" = some sampleSecret := by
    have hsegment := segment?_encodeChars sampleSecret
    rw [← String.toList_ofList (l := Base64.encodeChars .urlSafe sampleSecret)] at hsegment
    exact hsegment
  have hkey : KeySet.readKey .standard samplePublished = .usable (.secret sampleSecret) := by
    simp only [KeySet.readKey, Key.ofJson?, htype, Option.bind_eq_bind, Option.bind_some,
      Json.str?, hfamily, hbytes, Option.map_some]
  have husable : KeySet.usableKeys .standard [samplePublished] = .ok sampleKeySet.keys := by
    simp only [KeySet.usableKeys, hkey]
    rfl
  have hset : KeySet.ofJson .standard (.obj [("keys", .arr [samplePublished])]) =
      .ok sampleKeySet := by
    have hlist : Json.lookupLast? "keys" [("keys", .arr [samplePublished])] =
        some (.arr [samplePublished]) := rfl
    simp only [KeySet.ofJson, hlist, husable, bind, Except.bind]
    rfl
  have hnesting : Platform.standard.nesting = 990 := rfl
  simp only [sampleKeyAnswer, KeySet.ofAnswer, hnesting, hjson, hset, Result.mapError_ok]

/-- What is at hand before anything has been fetched. -/
def sampleErrand : Errand := ⟨{}, [sampleKeyAnswer], 0⟩

theorem key_sampleErrand (now : Instant) :
    (sampleErrand.key .standard now (some (.text "k"))).1 = .ok (.secret sampleSecret) := by
  have hset : (sampleErrand.keySet .standard now).1 = .ok sampleKeySet := ofAnswer_sampleKeyAnswer
  have hin : Errand.keyIn (some (.text "k")) sampleKeySet = .ok (some (.secret sampleSecret)) := rfl
  simp only [Errand.key, hset, Except.bind, hin]

/-- The header of tokens that are signed with the secret. -/
def sampleHeader : List (String × Json) := [("alg", .str "HS256"), ("kid", .str "k")]

/-- The bytes of the header. -/
def sampleHeaderBytes : Bytes := Utf8.encode ((Json.obj sampleHeader).render Json.compact)

/-- The signature of a payload. -/
def sampleSignature (payload : Bytes) : Bytes :=
  Hmac.sha256 sampleSecret (Utf8.encode (String.ofList (signedChars sampleHeaderBytes payload)))

/-- The token of a payload. -/
def sampleToken (payload : Bytes) : String :=
  compose sampleHeaderBytes payload (sampleSignature payload)

theorem load_sampleToken (payload : Bytes) :
    load .standard (sampleToken payload) = .ok ⟨.obj sampleHeader, payload, sampleSignature payload,
      Utf8.encode (String.ofList (signedChars sampleHeaderBytes payload))⟩ := by
  have hheader : Json.ofBytes 990 sampleHeaderBytes = .ok (.obj sampleHeader) :=
    Json.ofBytes_of_render (.obj sampleHeader) rfl rfl (by decide +kernel)
  exact load_compose hheader rfl rfl

theorem consists_sampleToken {payload : Bytes} {claims : List (String × Json)}
    (hclaims : Json.ofBytes 990 payload = .ok (.obj claims)) :
    Consists .standard (sampleToken payload) sampleHeader claims
      (Utf8.encode (String.ofList (signedChars sampleHeaderBytes payload)))
      (sampleSignature payload) := by
  obtain ⟨header, members, hheader, hmembers, hconsists⟩ :=
    consists_of_load (load_sampleToken payload) (claims_eq_ok_iff.mpr ⟨claims, rfl, hclaims⟩)
  cases hheader
  cases hmembers
  exact hconsists

/-- A signed token is accepted if its claims hold. -/
theorem verify_sampleToken {payload : Bytes} {claims : List (String × Json)} {now : Instant}
    (hclaims : Json.ofBytes 990 payload = .ok (.obj claims))
    (hhold : Claims.Hold (.obj claims) sampleProvider.issuer now) :
    (sampleVerifier.verify now (sampleToken payload) sampleErrand).1 =
      .ok (Claims.profile (.obj claims)) := by
  have hload := load_sampleToken payload
  have hread : Jwt.read .standard (sampleToken payload) = .ok (.obj sampleHeader, .obj claims) :=
    read_eq_ok_iff.mpr ⟨_, hload, rfl, rfl, claims_eq_ok_iff.mpr ⟨claims, rfl, hclaims⟩⟩
  have hkey : (sampleVerifier.keyFor now (sampleToken payload) sampleErrand).1 =
      .ok (.secret sampleSecret) := by
    have hattempts : ¬ sampleVerifier.maxAttempts ≤ 0 := by decide
    have hcount : sampleVerifier.maxAttempts.toNat = 2 + 1 := rfl
    have hid : ((Json.obj sampleHeader).get? "kid").bind Json.codeString? = some (.text "k") := rfl
    have hfound := key_sampleErrand now
    have hplatform : sampleVerifier.platform = .standard := rfl
    rw [keyFor, if_neg hattempts, hplatform, hread]
    simp only [hid, hcount, findKey]
    generalize sampleErrand.key .standard now (some (.text "k")) = found at hfound ⊢
    obtain ⟨result, after⟩ := found
    cases hfound
    rfl
  refine verify_eq_ok_iff.mpr ⟨_, "HS256", .secret sampleSecret, .obj claims, hload, rfl, hkey,
    checkedClaims_eq_ok_iff.mpr ⟨?_, claims_eq_ok_iff.mpr ⟨claims, rfl, hclaims⟩, hhold⟩, rfl⟩
  refine checkSignature_eq_ok_iff.mpr ⟨.secret, .secret sampleSecret, rfl, rfl, ?_⟩
  rw [isSignature, decide_eq_true_eq]
  rfl

/-- Claims that were issued at half a second past 12:00:00 on 20 February 2024. -/
def sampleClaims : List (String × Json) := [
  ("iat", .float (.ofDecimal false 17084304005 (-1))), ("iss", .str "https://id.example"),
  ("sub", .str "s"), ("exp", .int 1708430700), ("jti", .str "j")]

/-- Their payload. -/
def samplePayload : Bytes := Utf8.encode
  ("\x7b\"iat\":1708430400.5,\"iss\":\"https://id.example\",\"sub\":\"s\"," ++
    "\"exp\":1708430700,\"jti\":\"j\"\x7d")

theorem ofBytes_samplePayload : Json.ofBytes 990 samplePayload = .ok (.obj sampleClaims) := by
  have htime : ∀ rest, Json.value? ⟨990, true⟩ 989
      (Json.symbols "1708430400.5".toList ++ .char ',' :: rest) =
        some (.float (.ofDecimal false 17084304005 (-1)), .char ',' :: rest) := by
    intro rest
    rw [Json.value?, Json.value]
    rfl
  exact Json.ofBytes_of_first htime rfl rfl (by decide) (by decide +kernel)

/-- The moment is 12:00:00 on that day. -/
def sampleNow : Instant := 1708430400000000

theorem time?_sampleClaims :
    Claims.time? (.obj sampleClaims) "iat" = some (3416860801 / 2) := by
  decide +kernel

theorem hold_sampleClaims : Claims.Hold (.obj sampleClaims) sampleProvider.issuer sampleNow where
  present := by
    intro name hname
    simp only [Claims.requiredNames, List.mem_cons, List.not_mem_nil, or_false] at hname
    rcases hname with rfl | rfl | rfl | rfl
    · exact ⟨_, rfl, nofun⟩
    · exact ⟨_, rfl, nofun⟩
    · exact ⟨_, rfl, nofun⟩
    · exact ⟨_, rfl, nofun⟩
  issued := ⟨3416860801 / 2, time?_sampleClaims, by decide +kernel⟩
  started := by decide
  unexpired := ⟨1708430700, by decide +kernel, by decide +kernel⟩
  issuer := rfl
  subject := by
    rintro json ⟨⟩
    rfl
  tokenId := by
    rintro json ⟨⟩
    rfl

/-! ### Soundness -/

/-- The provider vouches for a token that is accepted, with a key that it has published in an
answer that was used in the verification or in an earlier one. The claims tell of the user, and
from 1970 on the token expires later, fraction or not. -/
theorem verify_sound {platform : Platform} {metadata : ProviderMetadata} {timeout : Seconds}
    {maxAttempts : Int} (hmake : make platform metadata timeout maxAttempts = .ok verifier)
    {presented : List Presentation} {past later : List Verification} {v : Verification}
    (hhistory : verifier.verifications {} presented = past ++ v :: later)
    {profile : Profile CodeString} (hok : (verifier.outcome v).1 = .ok profile) :
    ∃ header claims algorithm id signed signature,
      Vouches platform metadata ((past ++ [v]).flatMap verifier.used) v.now v.token header claims
        algorithm id signed signature ∧
      (0 ≤ v.now → ∃ x, Claims.time? (.obj claims) "exp" = some x ∧
        (v.now : ℚ) < x * microsPerSecond) ∧
      profile = Claims.profile (.obj claims) := by
  obtain ⟨rfl, hissuer, halgorithms⟩ := make_eq_ok hmake
  obtain ⟨document, algorithm, key, json, hload, hheader, hkey, hchecked, rfl⟩ :=
    verify_eq_ok_iff.mp hok
  obtain ⟨hsignature, hclaims, hhold⟩ := checkedClaims_eq_ok_iff.mp hchecked
  obtain ⟨family, used, hfamily, hused, hsignature⟩ := checkSignature_eq_ok_iff.mp hsignature
  obtain ⟨header, claims, hobject, rfl, hconsists⟩ := consists_of_load hload hclaims
  obtain ⟨htype, halgorithm, hmem⟩ := checkHeader_eq_ok_iff.mp hheader
  obtain ⟨_, _, hread, time, set, id, hfetched, hid, hoffers⟩ := offers_of_keyFor hkey
  obtain ⟨_, hload', -, rfl, -⟩ := read_eq_ok_iff.mp hread
  cases hload.symm.trans hload'
  rw [hobject] at htype halgorithm hid
  rw [halgorithms] at hmem
  rw [hissuer] at hhold
  -- The key set that offers the key is the one at hand when the verification ends.
  have hsigns : ∃ answer ∈ (past ++ [v]).flatMap verifier.used,
      answer.Signs verifier.platform id algorithm document.signed document.signature := by
    have hfrom : (verifier.outcome v).2.store.From verifier.platform
        ([] ++ past.flatMap verifier.used ++ verifier.used v) :=
      from_outcome (from_verifications (KeyStore.from_empty _ []) hhistory)
    have hend : (verifier.outcome v).2 = (verifier.keyFor v.now v.token v.errand).2 := by
      rw [outcome, verify_of_checkHeader v.now v.errand hload hheader]
    rw [hend] at hfrom
    obtain ⟨answer, hanswer, hset⟩ := hfrom time set hfetched
    exact ⟨answer, by simpa using hanswer, set, key, family, used, hset, hoffers, hfamily, hused,
      hsignature⟩
  exact ⟨header, claims, algorithm, id, document.signed, document.signature,
    ⟨hconsists, htype, halgorithm, hmem, ne_none_of_lookup_families hfamily, hid, hsigns, hhold⟩,
    hhold.expiresAfter, rfl⟩

/-- The first token that is presented, before anything has been fetched. -/
def samplePresentation : Presentation := ⟨sampleNow, sampleToken samplePayload, [sampleKeyAnswer]⟩

/-- Its verification. -/
def sampleVerification : Verification := ⟨sampleNow, sampleToken samplePayload, sampleErrand⟩

theorem outcome_sampleVerification :
    (sampleVerifier.outcome sampleVerification).1 = .ok { sub := some (.text "s") } :=
  verify_sampleToken ofBytes_samplePayload hold_sampleClaims

/-- The provider vouches for a token that is accepted half a second before it is issued. -/
theorem verify_sound_within_second :
    make .standard sampleProvider (.binary (.ofInt 30)) 3 = .ok sampleVerifier ∧
      sampleVerifier.verifications {} [samplePresentation] = [sampleVerification] ∧
      (sampleVerifier.outcome sampleVerification).1 = .ok { sub := some (.text "s") } ∧
      ∃ header claims algorithm id signed signature,
        Vouches .standard sampleProvider ([sampleVerification].flatMap sampleVerifier.used)
          sampleNow (sampleToken samplePayload) header claims algorithm id signed signature ∧
        (0 ≤ sampleNow → ∃ x, Claims.time? (.obj claims) "exp" = some x ∧
          (sampleNow : ℚ) < x * microsPerSecond) ∧
        ({ sub := some (.text "s") } : Profile CodeString) = Claims.profile (.obj claims) := by
  have hhistory : sampleVerifier.verifications {} [samplePresentation] =
      [] ++ sampleVerification :: [] := rfl
  exact ⟨make_sampleVerifier, hhistory, outcome_sampleVerification,
    verify_sound make_sampleVerifier hhistory outcome_sampleVerification⟩

/-- Not every token that is accepted has been issued: there is one that is accepted by the verifier
of a provider and is issued half a second later. -/
theorem accepted_before_issued :
    make .standard sampleProvider (.binary (.ofInt 30)) 3 = .ok sampleVerifier ∧
      (sampleVerifier.verify sampleNow (sampleToken samplePayload) ⟨{}, [sampleKeyAnswer], 0⟩).1 =
        .ok { sub := some (.text "s") } ∧
      ∃ claims, Consists .standard (sampleToken samplePayload) sampleHeader claims
          (Utf8.encode (String.ofList (signedChars sampleHeaderBytes samplePayload)))
          (sampleSignature samplePayload) ∧
        ∃ x, Claims.time? (.obj claims) "iat" = some x ∧ (sampleNow : ℚ) < x * microsPerSecond := by
  exact ⟨make_sampleVerifier, outcome_sampleVerification, sampleClaims,
    consists_sampleToken ofBytes_samplePayload, _, time?_sampleClaims,
    by norm_num [sampleNow, microsPerSecond]⟩

end Verifier

end LoginGate
