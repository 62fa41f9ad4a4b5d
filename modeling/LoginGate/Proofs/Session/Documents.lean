import LoginGate.Proofs.Json.Schema
import LoginGate.Session.Basic
import LoginGate.Session.LoginAttempt

/-!
# The documents of sessions and login attempts

What a session has to look like in JSON, member by member, and the same for a login attempt. A
member with a default may be absent, and an optional one may be null as well; other members do not
matter. A document that looks so is read as the session that it describes, and every other one is
refused.

The date of a session is read from texts and numbers of several kinds. Whatever it is read from, it
is a date that exists, with an offset of less than a day.

## Main definitions

* `Timestamp.IsProper` : dates that exist.
* `Timestamp.IsIn`, `Identity.IsIn`, `Session.IsIn`, `LoginAttempt.IsIn` : what a JSON value
  describes.

## Main results

* `Timestamp.IsIn.isProper` : a date that is described is proper.
* `Session.reader_eq_valid_iff`, `LoginAttempt.reader_eq_valid_iff` : what is read is what is
  described.
-/

namespace LoginGate

/-! ### Dates -/

namespace Timestamp

/-- A date lies within the years 1 to 9999, and its offset is less than a day. -/
structure IsProper (t : Timestamp) : Prop where
  inRange : inRange t.wall
  offset : ∀ offset, t.offset = some offset → offset.natAbs < 86400

variable {t found : Timestamp} {cs : List Char} {offset : Int}

theorem checked_eq_ok_iff : checked t = .ok found ↔ inRange t.wall ∧ t = found := by
  rw [checked]
  split <;> simp_all

theorem isProper_of_checked_ofInstant {instant : Instant}
    (h : checked (ofInstant instant) = .ok found) : found.IsProper := by
  obtain ⟨hrange, rfl⟩ := checked_eq_ok_iff.mp h
  refine ⟨hrange, fun offset hoffset => ?_⟩
  obtain rfl := Option.some.inj hoffset
  decide

theorem isProper_of_ofNumber {n : Int} (h : ofNumber n = .ok found) : found.IsProper := by
  rw [ofNumber] at h
  split at h
  · exact isProper_of_checked_ofInstant h
  · exact isProper_of_checked_ofInstant h

theorem isProper_of_ofFloat {x : Binary64} (h : ofFloat x = .ok found) : found.IsProper := by
  rw [ofFloat] at h
  split at h
  · cases h
  · exact isProper_of_checked_ofInstant h

theorem isProper_of_ofNumeric? (h : ofNumeric? cs = some (.ok found)) : found.IsProper := by
  rw [ofNumeric?] at h
  dsimp only at h
  split at h
  · cases h
  · split at h
    · exact isProper_of_ofNumber (Option.some.inj h)
    · split at h
      · exact isProper_of_ofFloat (Option.some.inj h)
      · cases h
    · cases h

theorem natAbs_signed (negative : Bool) (n : Nat) : (Numeral.signed negative n).natAbs = n := by
  rw [Numeral.signed]
  split <;> simp

theorem natAbs_lt_of_offset? {negative : Bool} (h : offset? negative cs = some offset) :
    offset.natAbs < 86400 := by
  obtain ⟨⟨hours, afterHours⟩, -, h⟩ := Option.bind_eq_some_iff.mp h
  obtain ⟨⟨minutes, afterMinutes⟩, -, h⟩ := Option.bind_eq_some_iff.mp h
  dsimp only at h
  split at h
  · cases h
  · rename_i hbounds
    obtain rfl := Option.some.inj h
    rw [natAbs_signed]
    omega

theorem natAbs_lt_of_zone? (h : zone? cs = some (some offset)) : offset.natAbs < 86400 := by
  unfold zone? at h
  split at h
  · cases h
  · split at h
    · split at h
      · obtain rfl := Option.some.inj (Option.some.inj h)
        decide
      · cases h
    · split at h
      · obtain ⟨_, hoffset, h⟩ := Option.map_eq_some_iff.mp h
        exact Option.some.inj h ▸ natAbs_lt_of_offset? hoffset
      · split at h
        · obtain ⟨_, hoffset, h⟩ := Option.map_eq_some_iff.mp h
          exact Option.some.inj h ▸ natAbs_lt_of_offset? hoffset
        · cases h

/-- A date with a time has the offset of its zone. -/
theorem offset_of_dateTime? (h : dateTime? cs = some t) (hoffset : t.offset = some offset) :
    offset.natAbs < 86400 := by
  obtain ⟨⟨date, afterDate⟩, -, h⟩ := Option.bind_eq_some_iff.mp h
  cases afterDate with
  | nil => cases h
  | cons c rest =>
    dsimp only at h
    split at h
    · obtain ⟨⟨micros, afterTime⟩, -, h⟩ := Option.bind_eq_some_iff.mp h
      obtain ⟨zone, hzone, h⟩ := Option.bind_eq_some_iff.mp h
      obtain rfl := Option.some.inj h
      obtain rfl : zone = some offset := hoffset
      exact natAbs_lt_of_zone? hzone
    · cases h

/-- A date alone has no offset. -/
theorem offset_of_dateAlone? (h : dateAlone? cs = some t) : t.offset = none := by
  obtain ⟨⟨date, afterDate⟩, -, h⟩ := Option.bind_eq_some_iff.mp h
  dsimp only at h
  split at h
  · obtain rfl := Option.some.inj h
    rfl
  · cases h

theorem isProper_of_ofText {text : String} (h : ofText text = .ok found) : found.IsProper := by
  rw [ofText] at h
  split at h
  · rename_i hread
    obtain ⟨hrange, rfl⟩ := checked_eq_ok_iff.mp h
    exact ⟨hrange, fun offset hoffset => offset_of_dateTime? hread hoffset⟩
  · split at h
    · rename_i hread
      obtain rfl := Except.ok.inj h
      exact isProper_of_ofNumeric? hread
    · split at h
      · rename_i hread
        obtain ⟨hrange, rfl⟩ := checked_eq_ok_iff.mp h
        refine ⟨hrange, fun offset hoffset => ?_⟩
        rw [offset_of_dateAlone? hread] at hoffset
        cases hoffset
      · cases h

end Timestamp

/-- A JSON value stands for a date: a text, or a number that is not too long. -/
inductive Timestamp.IsIn : Json → Timestamp → Prop
  | text {text : String} {t : Timestamp} (h : ofText text = .ok t) : IsIn (.str text) t
  | number {n : Int} {t : Timestamp} (hsize : n.natAbs < maxNumber) (h : ofNumber n = .ok t) :
      IsIn (.int n) t
  | float {x : Binary64} {t : Timestamp} (h : ofFloat x = .ok t) : IsIn (.float x) t

theorem Timestamp.IsIn.isProper {json : Json} {t : Timestamp} (h : t.IsIn json) : t.IsProper := by
  cases h with
  | text h => exact isProper_of_ofText h
  | number _ h => exact isProper_of_ofNumber h
  | float h => exact isProper_of_ofFloat h

theorem Session.timestampReader_eq_valid_iff {json : Json} {t : Timestamp} :
    timestampReader json = .valid t ↔ t.IsIn json := by
  constructor
  · intro h
    unfold timestampReader at h
    dsimp only at h
    split at h
    · rename_i hread
      obtain rfl := Schema.Checked.valid.inj h
      split at hread
      · exact .text (Option.some.inj hread)
      · split at hread
        · rename_i hsize
          exact .number hsize (Option.some.inj hread)
        · cases hread
      · exact .float (Option.some.inj hread)
      · cases hread
    all_goals cases h
  · intro h
    cases h with
    | text h => simp only [timestampReader, h]
    | number hsize h => simp only [timestampReader, if_pos hsize, h]
    | float h => simp only [timestampReader, h]

/-! ### Identities -/

/-- A member is an optional text: absent, null, or a string. -/
def IsOptionalText (json : Json) (name : String) : Option String → Prop
  | none => json.get? name = none ∨ json.get? name = some .null
  | some text => json.get? name = some (.str text)

/-- A member is a list of texts, none if it is absent. -/
def IsTexts (json : Json) (name : String) (texts : List String) : Prop :=
  (json.get? name = none ∧ texts = []) ∨ json.get? name = some (.arr (texts.map .str))

theorem optional_iff_isOptionalText {json : Json} {name : String} {text : Option String} :
    Schema.optional name Schema.string json = .valid text ↔ IsOptionalText json name text := by
  rw [Schema.optional_string_eq_valid_iff]
  cases text <;> rfl

theorem withDefault_iff_isTexts {json : Json} {name : String} {texts : List String} :
    Schema.withDefault name [] (Schema.list Schema.string) json = .valid texts ↔
      IsTexts json name texts := by
  simp only [Schema.withDefault_eq_valid_iff, Schema.list_string_eq_valid_iff, IsTexts,
    exists_eq_right]

/-- A JSON value describes an identity. -/
structure Identity.IsIn (json : Json) (identity : Identity) : Prop where
  object : ∃ fields, json = .obj fields
  sub : IsOptionalText json "sub" identity.sub
  name : IsOptionalText json "name" identity.name
  email : IsOptionalText json "email" identity.email
  groups : IsTexts json "groups" identity.groups
  roles : IsTexts json "roles" identity.roles

theorem Identity.reader_eq_valid_iff {json : Json} {identity : Identity} :
    reader json = .valid identity ↔ Identity.IsIn json identity := by
  simp only [reader, Schema.object_eq_valid_iff, Schema.Checked.seq_eq_valid_iff,
    Schema.Checked.map_eq_valid_iff, optional_iff_isOptionalText, withDefault_iff_isTexts]
  constructor
  · rintro ⟨hobject, _, roles, ⟨_, groups, ⟨_, email, ⟨_, name, ⟨sub, hsub, rfl⟩, hname, rfl⟩,
      hemail, rfl⟩, hgroups, rfl⟩, hroles, rfl⟩
    exact ⟨hobject, hsub, hname, hemail, hgroups, hroles⟩
  · rintro ⟨hobject, hsub, hname, hemail, hgroups, hroles⟩
    exact ⟨hobject, _, _, ⟨_, _, ⟨_, _, ⟨_, _, ⟨_, hsub, rfl⟩, hname, rfl⟩, hemail, rfl⟩, hgroups,
      rfl⟩, hroles, rfl⟩

/-! ### Sessions -/

/-- A JSON value describes a session. -/
structure Session.IsIn (json : Json) (session : Session) : Prop where
  object : ∃ fields, json = .obj fields
  identity : ∃ member, json.get? "identity" = some member ∧ Identity.IsIn member session.identity
  refreshToken : IsOptionalText json "refresh_token" session.refreshToken
  expiresIn : ∃ member, json.get? "expires_in" = some member ∧
    Schema.integer member = .valid session.expiresIn
  expiresAt : ∃ member, json.get? "expires_at" = some member ∧ session.expiresAt.IsIn member
  strategy : (json.get? "id_strategy" = none ∧ session.strategy = .email) ∨
    json.get? "id_strategy" = some (.str session.strategy.name)

theorem IdStrategy.oneOf_eq_valid_iff {json : Json} {strategy : IdStrategy} :
    Schema.oneOf named json = .valid strategy ↔ json = .str strategy.name := by
  rw [Schema.oneOf_eq_valid_iff]
  constructor
  · rintro ⟨name, rfl, h⟩
    obtain ⟨before, after, hnamed, -⟩ := List.lookup_eq_some_iff.mp h
    have hmem : (name, strategy) ∈ named := by simp [hnamed]
    obtain ⟨_, -, hpair⟩ := List.mem_map.mp hmem
    cases hpair
    rfl
  · rintro rfl
    exact ⟨_, rfl, by cases strategy <;> rfl⟩

/-- What is read as a session is what describes one. -/
theorem Session.reader_eq_valid_iff {json : Json} {session : Session} :
    reader json = .valid session ↔ session.IsIn json := by
  simp only [reader, Schema.object_eq_valid_iff, Schema.Checked.seq_eq_valid_iff,
    Schema.Checked.map_eq_valid_iff, Schema.required_eq_valid_iff, Schema.withDefault_eq_valid_iff,
    optional_iff_isOptionalText, Identity.reader_eq_valid_iff, timestampReader_eq_valid_iff,
    IdStrategy.oneOf_eq_valid_iff, exists_eq_right]
  constructor
  · rintro ⟨hobject, _, strategy, ⟨_, expiresAt, ⟨_, expiresIn, ⟨_, token,
      ⟨identity, hidentity, rfl⟩, htoken, rfl⟩, hin, rfl⟩, hat, rfl⟩, hstrategy, rfl⟩
    exact ⟨hobject, hidentity, htoken, hin, hat, hstrategy⟩
  · rintro ⟨hobject, hidentity, htoken, hin, hat, hstrategy⟩
    exact ⟨hobject, _, _, ⟨_, _, ⟨_, _, ⟨_, _, ⟨_, hidentity, rfl⟩, htoken, rfl⟩, hin, rfl⟩, hat,
      rfl⟩, hstrategy, rfl⟩

/-! ### Login attempts -/

/-- A JSON value describes a login attempt. -/
structure LoginAttempt.IsIn (json : Json) (attempt : LoginAttempt) : Prop where
  object : ∃ fields, json = .obj fields
  state : json.get? "state" = some (.str attempt.state)
  codeVerifier : json.get? "code_verifier" = some (.str attempt.codeVerifier)
  codeChallenge : json.get? "code_challenge" = some (.str attempt.codeChallenge)
  challengeMethod : (json.get? "code_challenge_method" = none ∧ attempt.challengeMethod = "S256") ∨
    json.get? "code_challenge_method" = some (.str attempt.challengeMethod)

/-- What is read as a login attempt is what describes one. -/
theorem LoginAttempt.reader_eq_valid_iff {json : Json} {attempt : LoginAttempt} :
    reader json = .valid attempt ↔ attempt.IsIn json := by
  simp only [reader, Schema.object_eq_valid_iff, Schema.Checked.seq_eq_valid_iff,
    Schema.Checked.map_eq_valid_iff, Schema.required_eq_valid_iff, Schema.withDefault_eq_valid_iff,
    Schema.string_eq_valid_iff, exists_eq_right]
  constructor
  · rintro ⟨hobject, _, method, ⟨_, challenge, ⟨_, verifier, ⟨state, hstate, rfl⟩, hverifier, rfl⟩,
      hchallenge, rfl⟩, hmethod, rfl⟩
    exact ⟨hobject, hstate, hverifier, hchallenge, hmethod⟩
  · rintro ⟨hobject, hstate, hverifier, hchallenge, hmethod⟩
    exact ⟨hobject, _, _, ⟨_, _, ⟨_, _, ⟨_, hstate, rfl⟩, hverifier, rfl⟩, hchallenge, rfl⟩,
      hmethod, rfl⟩

end LoginGate
