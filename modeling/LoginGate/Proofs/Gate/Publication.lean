import LoginGate.Proofs.Gate.Authenticity
import LoginGate.Proofs.Groups.Latest

/-!
# The groups that are published

What users may do is decided elsewhere, by the groups that the gate keeps of the users that it has
let in. It keeps them when it forwards a user, and at no other time: who is led to the provider,
denied or let pass publishes nothing, and neither does a visit without a decision. So the cache
after a run is the one before with the groups of every forwarded user recorded, in order, and what
is found of a user are the groups with which the user was forwarded last.

## Main definitions

* `Gate.Forwards` : a user is forwarded.
* `Gate.publication?`, `Gate.published` : what a visit publishes, and what all visits do.
* `Gate.memoryAfter` : what is remembered after a run.

## Main results

* `Gate.groups_outcome` : a visit records what it publishes.
* `Gate.groups_memoryAfter` : so does a run.
* `Gate.publication?_of_renewed` : a renewed session publishes its own groups.
* `Gate.groups_follow_forwards` : what is found of a user after a run.
-/

namespace LoginGate

namespace Gate

variable {gate : Gate} {record : Record} {memory : GateMemory} {now : Instant}

/-! ### What is published -/

/-- What a result publishes at a time: the groups of the user who is forwarded, if one is. -/
def publicationOf? (now : Instant) : Except Breakdown Decision → Option (Rat × GroupsUse)
  | .ok (.forward userId _ groups _) => some (now, .record userId groups)
  | _ => none

/-- A user is forwarded. -/
def Forwards (gate : Gate) (record : Record) (userId : String) : Prop :=
  ∃ identity groups cookies,
    (gate.outcome record).result = .ok (.forward userId identity groups cookies)

/-- What a visit publishes. -/
def publication? (gate : Gate) (record : Record) : Option (Rat × GroupsUse) :=
  publicationOf? record.moment.now (gate.outcome record).result

/-- What is published in several visits. -/
def published (gate : Gate) (records : List Record) : List (Rat × GroupsUse) :=
  records.filterMap gate.publication?

theorem published_cons (gate : Gate) (record : Record) (records : List Record) :
    gate.published (record :: records) =
      (gate.publication? record).toList ++ gate.published records := by
  rw [published, List.filterMap_cons]
  cases gate.publication? record <;> rfl

theorem publicationOf?_eq_some_iff {result : Except Breakdown Decision} {use : Rat × GroupsUse} :
    publicationOf? now result = some use ↔ ∃ userId identity groups cookies,
      result = .ok (.forward userId identity groups cookies) ∧
        use = (↑now, .record userId groups) := by
  rcases result with breakdown | decision
  · simp [publicationOf?]
  · cases decision <;> simp [publicationOf?, eq_comm]

theorem publication?_of_forward {userId : String} {identity : Identity} {groups : List String}
    {cookies : List Cookie}
    (h : (gate.outcome record).result = .ok (.forward userId identity groups cookies)) :
    gate.publication? record = some (↑record.moment.now, .record userId groups) := by
  rw [publication?, h, publicationOf?]

theorem publication?_eq_none_iff :
    gate.publication? record = none ↔ ∀ userId, ¬ gate.Forwards record userId := by
  rw [← Option.not_isSome_iff_eq_none, Option.isSome_iff_exists]
  simp only [publication?, publicationOf?_eq_some_iff]
  constructor
  · rintro h userId ⟨identity, groups, cookies, hresult⟩
    exact h ⟨_, userId, identity, groups, cookies, hresult, rfl⟩
  · rintro h ⟨_, userId, identity, groups, cookies, hresult, -⟩
    exact h userId ⟨identity, groups, cookies, hresult⟩

/-- What is published are records. -/
theorem isRecord_of_mem_published {records : List Record} {use : Rat × GroupsUse}
    (h : use ∈ gate.published records) : use.2.isRecord := by
  obtain ⟨record, -, hpublished⟩ := List.mem_filterMap.mp h
  obtain ⟨userId, identity, groups, cookies, -, rfl⟩ := publicationOf?_eq_some_iff.mp hpublished
  rfl

/-- The users of whom something is published are those who are forwarded. -/
theorem mem_recordedUsers_published_iff {records : List Record} {user : String} :
    user ∈ recordedUsers (gate.published records) ↔
      ∃ record ∈ records, gate.Forwards record user := by
  rw [recordedUsers, published, List.filterMap_filterMap, List.mem_filterMap]
  constructor
  · rintro ⟨record, hmem, huser⟩
    obtain ⟨use, huse, huser⟩ := Option.bind_eq_some_iff.mp huser
    obtain ⟨userId, identity, groups, cookies, hresult, rfl⟩ :=
      publicationOf?_eq_some_iff.mp huse
    cases huser
    exact ⟨record, hmem, identity, groups, cookies, hresult⟩
  · rintro ⟨record, hmem, identity, groups, cookies, hresult⟩
    exact ⟨record, hmem, by rw [publication?_of_forward hresult]; rfl⟩

theorem not_mem_recordedUsers_published {records : List Record} {user : String}
    (h : ∀ record ∈ records, ¬ gate.Forwards record user) :
    user ∉ recordedUsers (gate.published records) := by
  rw [mem_recordedUsers_published_iff]
  rintro ⟨record, hmem, hforwards⟩
  exact h record hmem hforwards

/-! ### What a visit records -/

/-- A cache records what a result publishes, and is left as it is by another one. -/
def Records (now : Instant) (result : Except Breakdown Decision) (before after : GroupsCache) :
    Prop :=
  after = before.replay (publicationOf? now result).toList

theorem groups_leadToProvider (gate : Gate) (memory : GateMemory) (cookies : List Cookie) :
    (gate.leadToProvider memory cookies).memory.groups = memory.groups := by
  rw [leadToProvider]
  split <;> rfl

/-- A callback keeps no groups. -/
theorem groups_exchange (gate : Gate) (moment : Moment) (memory : GateMemory) (code : String)
    (verifier : Option String) (cookies : List Cookie) :
    (gate.exchange moment memory code verifier cookies).memory.groups = memory.groups := by
  rw [exchange]
  dsimp only
  split <;> rfl

theorem records_leadToProvider (gate : Gate) (now : Instant) (memory : GateMemory)
    (cookies : List Cookie) :
    Records now (gate.leadToProvider memory cookies).result memory.groups
      (gate.leadToProvider memory cookies).memory.groups := by
  obtain ⟨location, kept, hresult⟩ := gate.result_leadToProvider_cases memory cookies
  rw [Records, groups_leadToProvider, hresult]
  rfl

/-- The groups of a user who is forwarded are recorded, if the cache has room for any. Else they are
recorded too, but there is no decision. -/
theorem records_forward (gate : Gate) (now : Instant) (hsize : memory.groups.canRecord)
    (session : Session) (cookies : List Cookie) :
    Records now (gate.forward now memory session cookies).result memory.groups
      (gate.forward now memory session cookies).memory.groups := by
  rw [Gate.forward]
  cases session.userId? with
  | none => exact gate.records_leadToProvider now memory _
  | some userId =>
    simp only [Records, hsize, if_true]
    rfl

theorem records_renew (gate : Gate) (moment : Moment) (hsize : memory.groups.canRecord)
    (session : Session) :
    Records moment.now (gate.renew moment memory session).result memory.groups
      (gate.renew moment memory session).memory.groups := by
  rw [renew]
  dsimp only
  split
  · rfl
  · refine gate.records_forward moment.now ?_ session _
    exact hsize
  · refine gate.records_forward moment.now ?_ _ _
    exact hsize

theorem records_exchange (gate : Gate) (moment : Moment) (memory : GateMemory) (code : String)
    (verifier : Option String) (cookies : List Cookie) :
    Records moment.now (gate.exchange moment memory code verifier cookies).result memory.groups
      (gate.exchange moment memory code verifier cookies).memory.groups := by
  rw [exchange]
  dsimp only
  split <;> rfl

/-- A visit records what it publishes, and nothing else. -/
theorem groups_outcome (hsize : record.memory.groups.canRecord) :
    (gate.outcome record).memory.groups =
      record.memory.groups.replay (gate.publication? record).toList := by
  obtain ⟨memory, moment, visit⟩ := record
  change Records moment.now (gate.step memory moment visit).result memory.groups
    (gate.step memory moment visit).memory.groups
  rw [step]
  cases gate.course moment.now visit with
  | pass => rfl
  | forward session cookies => exact gate.records_forward moment.now hsize session cookies
  | renew session => exact gate.records_renew moment hsize session
  | exchange code verifier cookies =>
    exact gate.records_exchange moment memory code verifier cookies
  | login cookies => exact gate.records_leadToProvider moment.now memory cookies
  | deny fault cookies => rfl
  | stuck breakdown => rfl

/-- A cache that has room keeps it. -/
theorem canRecord_outcome (hsize : record.memory.groups.canRecord) :
    (gate.outcome record).memory.groups.canRecord := by
  rw [groups_outcome hsize, GroupsCache.canRecord, GroupsCache.replay_maxSize]
  exact hsize

/-! ### What a run records -/

/-- What the gate remembers after a run: what its last visit has left, if there is one. -/
def memoryAfter (gate : Gate) (memory : GateMemory) (visits : List (Moment × Visit)) :
    GateMemory :=
  ((gate.run memory visits).getLast?.map (·.memory)).getD memory

theorem memoryAfter_cons (gate : Gate) (memory : GateMemory) (moment : Moment) (visit : Visit)
    (visits : List (Moment × Visit)) :
    gate.memoryAfter memory ((moment, visit) :: visits) =
      gate.memoryAfter (gate.step memory moment visit).memory visits := by
  simp only [memoryAfter, run, List.getLast?_cons]
  cases (gate.run (gate.step memory moment visit).memory visits).getLast? <;> rfl

theorem canRecord_of_mem_history (hsize : memory.groups.canRecord)
    {visits : List (Moment × Visit)} (h : record ∈ gate.history memory visits) :
    record.memory.groups.canRecord := by
  induction visits generalizing memory with
  | nil => cases h
  | cons visit visits ih =>
    rcases List.mem_cons.mp h with rfl | h
    · exact hsize
    · exact ih (@canRecord_outcome gate ⟨memory, visit.1, visit.2⟩ hsize) h

/-- A run records what its visits publish, in their order, and nothing else. -/
theorem groups_memoryAfter (hsize : memory.groups.canRecord) (visits : List (Moment × Visit)) :
    (gate.memoryAfter memory visits).groups =
      memory.groups.replay (gate.published (gate.history memory visits)) := by
  -- The induction is on the visits; that the cache has room is what each of them keeps.
  induction visits generalizing memory with
  | nil => rfl
  | cons visit visits ih =>
    obtain ⟨moment, visit⟩ := visit
    have hfirst := @groups_outcome gate ⟨memory, moment, visit⟩ hsize
    have hnext := @canRecord_outcome gate ⟨memory, moment, visit⟩ hsize
    rw [memoryAfter_cons, history, published_cons, GroupsCache.replay_append, ← hfirst]
    exact ih hnext

/-- A session that is renewed publishes the groups of the new session, not those of the old one. -/
theorem publication?_of_renewed (hsize : record.memory.groups.canRecord) {session renewed : Session}
    (hcourse : gate.course record.moment.now record.visit = .renew session)
    (hrenewed : (gate.obtained record (.refresh (session.refreshToken.getD ""))
      session.refreshToken).result = .ok renewed) :
    ∃ userId, renewed.userId? = some userId ∧ gate.publication? record =
      some (↑record.moment.now, .record userId renewed.identity.groupsAndRoles) := by
  obtain ⟨memory, moment, visit⟩ := record
  obtain ⟨token, hmade⟩ := madeOf_of_obtain hrenewed
  obtain ⟨userId, huser⟩ := Option.isSome_iff_exists.mp hmade.user
  refine ⟨userId, huser, ?_⟩
  simp only [obtained] at hrenewed
  have hsize : memory.groups.canRecord := hsize
  simp only [publication?, outcome, step, hcourse, follow, renew, hrenewed, Gate.forward, huser,
    hsize, if_true]
  rfl

/-- A visit that brings the cookie value of a session comes with that session, if the session ends
in UTC within the years 1 to 9999 and its lifetime does not have too many digits. -/
theorem resumes_of_toCookieValue {visit : Visit} {session : Session} {iv : Bytes} {wall : Int}
    (hclosed : gate.settings.isBypassed visit.path = false)
    (hiv : iv.length = CookieCipher.ivBytes) (hutc : session.expiresAt = .ofInstant wall)
    (hrange : Timestamp.inRange wall) (hreadable : Json.isReadableInt session.expiresIn)
    (hcookie : NameMap.get? visit.cookies gate.settings.cookieName =
      some (session.toCookieValue gate.settings.key iv)) : gate.Resumes visit session := by
  have hread := Session.ofCookieValue_toCookieValue gate.settings.key hiv hutc hrange
  rw [if_pos hreadable] at hread
  have hvalue : (session.toCookieValue gate.settings.key iv).isEmpty = false :=
    CookieCipher.encrypt_ne_empty _ hiv _
  refine ⟨hclosed, _, ?_, hread⟩
  rw [Visit.cookie?, hcookie, Option.filter_some, hvalue]
  rfl

/-! ### Users with groups -/

/-- The session of a user in some groups. -/
def sampleMember (userId : String) (groups : List String) : Session :=
  { sampleSession with identity := { email := some userId, groups } }

/-- The value of the cookie with it. -/
def sampleMemberValue (userId : String) (groups : List String) : String :=
  (sampleMember userId groups).toCookieValue sampleSettings.key (List.replicate 12 0)

/-- The user brings the session. -/
def sampleMemberVisit (userId : String) (groups : List String) : Moment × Visit :=
  (⟨0, .none "", []⟩, { cookies := [("OIDC_AUTH_SESSION", sampleMemberValue userId groups)] })

theorem resumes_sampleMemberVisit (userId : String) (groups : List String) :
    (sampleGate false).Resumes (sampleMemberVisit userId groups).2
      (sampleMember userId groups) := by
  have hiv : (List.replicate 12 0 : Bytes).length = CookieCipher.ivBytes := rfl
  have hutc : (sampleMember userId groups).expiresAt = .ofInstant 43200000000 := rfl
  have hreadable : Json.isReadableInt sampleSession.expiresIn := by decide
  exact resumes_of_toCookieValue rfl hiv hutc (by decide) hreadable rfl

/-- The visit in its place. -/
def sampleMemberRecord (memory : GateMemory) (userId : String) (groups : List String) : Record :=
  ⟨memory, (sampleMemberVisit userId groups).1, (sampleMemberVisit userId groups).2⟩

theorem result_sampleMemberRecord (hsize : memory.groups.canRecord) {userId : String}
    (hblank : isBlankText userId = false) (groups : List String) :
    ((sampleGate false).outcome (sampleMemberRecord memory userId groups)).result =
      .ok (.forward userId { email := some userId, groups } groups []) := by
  have hfresh : sampleSession.isExpired? 0 = some false := by decide
  have huser : (sampleMember userId groups).userId? = some userId := by
    simp [Session.userId?, sampleMember, sampleSession, IdStrategy.userId?, IdStrategy.attribute?,
      hblank]
  have hforward := @result_of_fresh_session (sampleGate false)
    (sampleMemberRecord memory userId groups) _ _ (resumes_sampleMemberVisit userId groups) hfresh
    huser hsize
  rw [hforward]
  simp [Profile.groupsAndRoles, sampleMember]

/-- Ada comes with one group and then with another one, and Bob after her. -/
def sampleMemberVisits : List (Moment × Visit) :=
  [sampleMemberVisit "ada" ["staff"], sampleMemberVisit "ada" ["guest"],
    sampleMemberVisit "bob" ["admin"]]

theorem history_sampleMemberVisit (memory : GateMemory) (userId : String) (groups : List String)
    (visits : List (Moment × Visit)) :
    (sampleGate false).history memory (sampleMemberVisit userId groups :: visits) =
      sampleMemberRecord memory userId groups :: (sampleGate false).history
        ((sampleGate false).outcome (sampleMemberRecord memory userId groups)).memory visits := rfl

theorem canRecord_sampleMemberRecord (hsize : memory.groups.canRecord) (userId : String)
    (groups : List String) :
    ((sampleGate false).outcome
      (sampleMemberRecord memory userId groups)).memory.groups.canRecord :=
  canRecord_outcome hsize

theorem history_sampleMemberVisits :
    ∃ second third : GateMemory, second.groups.canRecord ∧ third.groups.canRecord ∧
      (sampleGate false).history {} sampleMemberVisits =
        [sampleMemberRecord {} "ada" ["staff"], sampleMemberRecord second "ada" ["guest"],
          sampleMemberRecord third "bob" ["admin"]] := by
  have hfirst : ({} : GateMemory).groups.canRecord := by decide
  have hsecond := canRecord_sampleMemberRecord hfirst "ada" ["staff"]
  have hthird := canRecord_sampleMemberRecord hsecond "ada" ["guest"]
  refine ⟨_, _, hsecond, hthird, ?_⟩
  rw [sampleMemberVisits, history_sampleMemberVisit, history_sampleMemberVisit,
    history_sampleMemberVisit, history]

/-- The groups that are found follow the forwards. After a run the cache is the one before in which
every forward has recorded its user with its groups, in order and at its time, and a visit without a
forward has left it as it was. What is found of a user are the groups with which the user was
forwarded last, unless they have expired or too many other users have been forwarded since, and else
nothing; of a user who was never forwarded, nothing but what was there before. A session that is
renewed is forwarded with its new groups. -/
theorem groups_follow_forwards (gate : Gate) (hsize : memory.groups.canRecord)
    (visits : List (Moment × Visit)) :
    let records := gate.history memory visits
    let groups := (gate.memoryAfter memory visits).groups
    groups = memory.groups.replay (gate.published records) ∧
      (∀ record ∈ records,
        (∀ userId, ¬ gate.Forwards record userId) →
        (gate.outcome record).memory.groups = record.memory.groups) ∧
      (∀ past record later userId identity userGroups cookies,
        records = past ++ record :: later →
        (gate.outcome record).result = .ok (.forward userId identity userGroups cookies) →
        (∀ other ∈ later, ¬ gate.Forwards other userId) →
        ∀ now, (groups.lookup now userId).1 =
          if now < record.moment.now + memory.groups.ttl ∧
            ((recordedUsers (gate.published later)).toFinset.card : Int) < memory.groups.maxSize
          then userGroups else []) ∧
      (∀ userId, (∀ record ∈ records, ¬ gate.Forwards record userId) →
        ∀ now, (groups.lookup now userId).1 = [] ∨ ∃ entry ∈ memory.groups.entries,
          entry.user = userId ∧ (groups.lookup now userId).1 = entry.groups) ∧
      ∀ record ∈ records, ∀ session renewed,
        gate.course record.moment.now record.visit = .renew session →
        (gate.obtained record (.refresh (session.refreshToken.getD ""))
          session.refreshToken).result = .ok renewed →
        ∃ userId, renewed.userId? = some userId ∧ gate.publication? record =
          some (↑record.moment.now, .record userId renewed.identity.groupsAndRoles) := by
  intro records groups
  have hgroups : groups = memory.groups.replay (gate.published records) :=
    groups_memoryAfter hsize visits
  refine ⟨hgroups, ?unpublished, ?last, ?never, ?renewed⟩
  case unpublished =>
    intro record hmem hnone
    rw [groups_outcome (canRecord_of_mem_history hsize hmem), publication?_eq_none_iff.mpr hnone]
    rfl
  case last =>
    intro past record later userId identity userGroups cookies hrecords hforward hlast now
    have hpublished : gate.published records = gate.published past ++
        (↑record.moment.now, .record userId userGroups) :: gate.published later := by
      rw [hrecords, published, List.filterMap_append,
        List.filterMap_cons_some (publication?_of_forward hforward)]
      rfl
    have hlast := not_mem_recordedUsers_published hlast
    rw [hgroups, hpublished]
    exact GroupsCache.lookup_fst_replay _ _ _ _ (fun use => isRecord_of_mem_published) hlast now
  case never =>
    intro userId hnever now
    rw [hgroups]
    exact GroupsCache.lookup_fst_replay_of_not_mem (not_mem_recordedUsers_published hnever) now
  case renewed =>
    intro record hmem session renewed hcourse hrenewed
    exact publication?_of_renewed (canRecord_of_mem_history hsize hmem) hcourse hrenewed

/-- Of a user who comes with one group and then with another one, the second one is found, though
somebody else has come since. -/
theorem groups_follow_forwards_of_two_users :
    GroupsCache.canRecord {} ∧
      (((sampleGate false).memoryAfter {} sampleMemberVisits).groups.lookup 1 "ada").1 = ["guest"] ∧
      (((sampleGate false).memoryAfter {} sampleMemberVisits).groups.lookup 1 "bob").1 =
        ["admin"] := by
  have hsize : ({} : GateMemory).groups.canRecord := by decide
  obtain ⟨-, -, hlast, -, -⟩ := groups_follow_forwards (sampleGate false) hsize sampleMemberVisits
  obtain ⟨second, third, hsecond, hthird, hhistory⟩ := history_sampleMemberVisits
  have hada := result_sampleMemberRecord hsecond (by decide : isBlankText "ada" = false) ["guest"]
  have hbob := result_sampleMemberRecord hthird (by decide : isBlankText "bob" = false) ["admin"]
  have hlater : (sampleGate false).published [sampleMemberRecord third "bob" ["admin"]] =
      [(0, .record "bob" ["admin"])] := by
    rw [published_cons, publication?_of_forward hbob]
    rfl
  have hnotAda : ∀ other ∈ [sampleMemberRecord third "bob" ["admin"]],
      ¬ (sampleGate false).Forwards other "ada" := by
    intro other hother
    rw [List.mem_singleton.mp hother]
    rintro ⟨identity, groups, cookies, hresult⟩
    simp [hbob] at hresult
  have hcounts : (1 : Rat) < (0 : Instant) + ({} : GroupsCache).ttl := by decide +kernel
  refine ⟨hsize, ?ada, ?bob⟩
  case ada =>
    have hfound := hlast [_] _ [_] _ _ _ _ hhistory hada hnotAda 1
    rw [hlater] at hfound
    exact hfound.trans (if_pos ⟨hcounts, by decide⟩)
  case bob =>
    have hfound := hlast [_, _] _ [] _ _ _ _ hhistory hbob (List.forall_mem_nil _) 1
    exact hfound.trans (if_pos ⟨hcounts, by decide⟩)

end Gate

end LoginGate
