/-!
# Groups of users

The groups of the users that were last let in, for whoever decides what they may do.  An entry
counts for a limited time, and only so many entries are kept.

## Main definitions

* `GroupsCache` : the entries.
* `GroupsCache.record`, `GroupsCache.lookup` : writing and reading.
-/

namespace LoginGate

/-- The groups of a user. -/
structure GroupsEntry where
  user : String
  /-- The first moment at which the entry does not count any more. -/
  expiry : Rat
  groups : List String
  deriving DecidableEq, Repr

/-- The groups of the users that were last let in. -/
structure GroupsCache where
  /-- How many entries are kept. -/
  maxSize : Int := 1000
  /-- For how long an entry counts, in microseconds. -/
  ttl : Rat := 3540000000
  /-- The entries, the oldest first. -/
  entries : List GroupsEntry := []
  deriving DecidableEq, Repr

namespace GroupsCache

/-- The users with entries, the oldest first. -/
def users (cache : GroupsCache) : List String := cache.entries.map (·.user)

/-- The entries without that of a user. -/
def without (cache : GroupsCache) (user : String) : List GroupsEntry :=
  cache.entries.filter (·.user ≠ user)

/-- The youngest entries, as many as are kept. -/
def youngest (cache : GroupsCache) (entries : List GroupsEntry) : List GroupsEntry :=
  entries.drop (entries.length - cache.maxSize.toNat)

/-- Writes the groups of a user.  The entry is the youngest, and the oldest ones go. -/
def record (cache : GroupsCache) (now : Rat) (user : String) (groups : List String) :
    GroupsCache :=
  { cache with
    entries := cache.youngest (cache.without user ++ [⟨user, now + cache.ttl, groups⟩]) }

/-- Whether entries can be evicted until as many are left as are kept: a negative number is never
reached. -/
def canRecord (cache : GroupsCache) : Bool := 0 ≤ cache.maxSize

/-- The entry of a user. -/
def entryOf? (cache : GroupsCache) (user : String) : Option GroupsEntry :=
  cache.entries.find? (·.user = user)

/-- The groups of a user, none if there is no entry that counts.  An entry that counts no more
goes. -/
def lookup (cache : GroupsCache) (now : Rat) (user : String) : List String × GroupsCache :=
  match cache.entryOf? user with
  | none => ([], cache)
  | some entry =>
    if entry.expiry ≤ now then ([], { cache with entries := cache.without user })
    else (entry.groups, cache)

end GroupsCache

end LoginGate
