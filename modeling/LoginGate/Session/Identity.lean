import LoginGate.Json.Schema
import LoginGate.Text.Blank

/-!
# Identities and user ids

## Main definitions

* `Profile` : what is known of a user, in strings of some kind.
* `Identity` : what is known of a user, in texts.
* `IdStrategy` : which attribute serves as the user id.
* `IdStrategy.userId?` : the user id of an identity.
* `Identity.reader`, `Identity.toJson` : identities in JSON.
-/

namespace LoginGate

/-- What is known of a user, in strings of some kind. -/
structure Profile (α : Type) where
  sub : Option α := none
  name : Option α := none
  email : Option α := none
  groups : List α := []
  roles : List α := []
  deriving DecidableEq, Repr

namespace Profile

/-- Groups, then roles. -/
def groupsAndRoles {α : Type} (profile : Profile α) : List α := profile.groups ++ profile.roles

/-- The profile with every string replaced. -/
def map {α β : Type} (f : α → β) (profile : Profile α) : Profile β :=
  ⟨profile.sub.map f, profile.name.map f, profile.email.map f, profile.groups.map f,
    profile.roles.map f⟩

/-- The profile with every string replaced, if that is possible for all of them. -/
def mapM? {α β : Type} (f : α → Option β) (profile : Profile α) : Option (Profile β) := do
  let sub ← profile.sub.mapM f
  let name ← profile.name.mapM f
  let email ← profile.email.mapM f
  let groups ← profile.groups.mapM f
  let roles ← profile.roles.mapM f
  return { sub, name, email, groups, roles }

end Profile

/-- What is known of a user, in texts. -/
abbrev Identity := Profile String

namespace Identity

/-- Reads an identity. -/
def reader : Schema.Reader Identity :=
  Schema.object fun json =>
    Profile.mk <$> Schema.optional "sub" Schema.string json <*>
      Schema.optional "name" Schema.string json <*>
      Schema.optional "email" Schema.string json <*>
      Schema.withDefault "groups" [] (Schema.list Schema.string) json <*>
      Schema.withDefault "roles" [] (Schema.list Schema.string) json

/-- A text or null. -/
def textJson (text : Option String) : Json := (text.map Json.str).getD .null

/-- An identity in JSON. -/
def toJson (identity : Identity) : Json :=
  .obj [("sub", textJson identity.sub), ("name", textJson identity.name),
    ("email", textJson identity.email), ("groups", .arr (identity.groups.map .str)),
    ("roles", .arr (identity.roles.map .str))]

end Identity

/-- Which attribute serves as the user id. -/
inductive IdStrategy where
  /-- The mail address. -/
  | email
  /-- The subject. -/
  | sub
  /-- The mail address, or else the subject. -/
  | google
  deriving DecidableEq, Repr

namespace IdStrategy

/-- The name of a strategy. -/
def name : IdStrategy → String
  | .email => "email"
  | .sub => "sub"
  | .google => "google"

/-- All strategies by their names. -/
def named : List (String × IdStrategy) := [email, sub, google].map fun s => (s.name, s)

/-- A text that is not empty. -/
def nonEmpty? (text : Option String) : Option String := text.filter (!·.isEmpty)

/-- The attribute that a strategy takes: an empty mail address counts as none where there is a
second choice. -/
def attribute? (strategy : IdStrategy) (identity : Identity) : Option String :=
  match strategy with
  | .email => identity.email
  | .sub => identity.sub
  | .google => (nonEmpty? identity.email).or identity.sub

/-- The user id of an identity: the strategy's attribute, unless it is blank. -/
def userId? (strategy : IdStrategy) (identity : Identity) : Option String :=
  (strategy.attribute? identity).filter (!isBlankText ·)

end IdStrategy

end LoginGate
