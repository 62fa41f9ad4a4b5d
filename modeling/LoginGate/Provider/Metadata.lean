import LoginGate.Json.Schema

/-!
# Provider documents

The part of an OpenID provider's published document that a login needs.

## Main definitions

* `NameSet` : a set of names, kept in order and without repetition.
* `ProviderMetadata` : the document.
-/

namespace LoginGate

/-- A set of names in increasing order. -/
structure NameSet where
  /-- The names, increasing, each once. -/
  toList : List String
  deriving DecidableEq, Repr

namespace NameSet

/-- Puts a name into its place in an increasing list. -/
def insertSorted (name : String) : List String → List String
  | [] => [name]
  | other :: rest =>
    if name < other then name :: other :: rest
    else if name = other then other :: rest
    else other :: insertSorted name rest

/-- The set of the names in a list. -/
def ofList (names : List String) : NameSet := ⟨names.foldr insertSorted []⟩

/-- Whether a name belongs to the set. -/
def contains (set : NameSet) (name : String) : Bool := set.toList.contains name

/-- Whether the set has no names. -/
def isEmpty (set : NameSet) : Bool := set.toList.isEmpty

theorem mem_insertSorted {x name : String} {names : List String} :
    x ∈ insertSorted name names ↔ x = name ∨ x ∈ names := by
  induction names with
  | nil => simp [insertSorted]
  | cons other rest ih =>
    simp only [insertSorted]
    split
    · simp
    · split
      · rename_i h; subst h; simp
      · simp only [List.mem_cons, ih]; grind

/-- Membership is that of the list. -/
@[simp] theorem mem_toList_ofList {x : String} {names : List String} :
    x ∈ (ofList names).toList ↔ x ∈ names := by
  induction names with
  | nil => simp [ofList]
  | cons name names ih =>
    have : (ofList (name :: names)).toList = insertSorted name (ofList names).toList := rfl
    rw [this, mem_insertSorted, ih, List.mem_cons]

end NameSet

/-- The part of a provider's document that a login needs. -/
structure ProviderMetadata where
  issuer : String
  authorizationEndpoint : String
  tokenEndpoint : String
  userinfoEndpoint : Option String := none
  jwksUri : Option String := none
  /-- The scopes on offer; nothing is known when there are none. -/
  scopesSupported : NameSet := ⟨[]⟩
  /-- The ways to hash a code verifier. -/
  challengeMethods : NameSet := ⟨[]⟩
  /-- The algorithms that sign tokens. -/
  signingAlgorithms : NameSet := ⟨["RS256"]⟩
  deriving DecidableEq, Repr

namespace ProviderMetadata

/-- Whether the provider hashes code verifiers at all. -/
def supportsPkce (metadata : ProviderMetadata) : Bool := !metadata.challengeMethods.isEmpty

/-- A set of names. -/
def nameSet : Schema.Reader NameSet := fun json =>
  (Schema.set Schema.string json).map NameSet.ofList

/-- Reads a provider's document. -/
def reader : Schema.Reader ProviderMetadata :=
  Schema.object fun json =>
    ProviderMetadata.mk <$> Schema.required "issuer" Schema.string json <*>
      Schema.required "authorization_endpoint" Schema.string json <*>
      Schema.required "token_endpoint" Schema.string json <*>
      Schema.optional "userinfo_endpoint" Schema.string json <*>
      Schema.optional "jwks_uri" Schema.string json <*>
      Schema.withDefault "scopes_supported" ⟨[]⟩ nameSet json <*>
      Schema.withDefault "code_challenge_methods_supported" ⟨[]⟩ nameSet json <*>
      Schema.withDefault "id_token_signing_alg_values_supported" ⟨["RS256"]⟩ nameSet json

end ProviderMetadata

end LoginGate
