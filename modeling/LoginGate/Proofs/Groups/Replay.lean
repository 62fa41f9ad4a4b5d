import Mathlib.Algebra.Order.Ring.Unbundled.Rat
import Mathlib.Data.Finset.Card
import Mathlib.Data.List.DropRight
import LoginGate.Groups

/-!
# What a lookup of groups answers

A cache of groups bounds the number of its entries, lets the oldest ones go, and drops an entry
that counts no more only when it is looked up.  The *ledger* of the same uses bounds nothing and
drops nothing: it keeps the last entry of every user, in the order of writing.  As the clock does
not go back, the entries of both stand in the order of their expiry, so the entries that count are
the youngest ones (`counting_rtake`), and what the cache holds of them is what it would keep of
the ledger's (`GroupsCache.Mirrors`).  In the ledger the place of an entry tells how many other
users were recorded after it (`exists_ledger_eq_append`).

## Main definitions

* `GroupsUse` : a use of the cache, `GroupsCache.replay` : the cache after some uses.
* `ledger` : the last entry of every user.
* `InOrder` : one entry for each user, in the order of their expiry.
* `GroupsCache.Mirrors` : the cache and the ledger agree on what counts, from some moment on.

## Main results

* `GroupsCache.mirrors_replay` : they agree after any uses under a clock that does not go back.
* `GroupsCache.lookup_replay` : what a lookup answers.
-/

namespace LoginGate

/-! ### Uses -/

/-- A use of the cache of groups. -/
inductive GroupsUse
  | record (user : String) (groups : List String)
  | lookup (user : String)
  deriving DecidableEq, Repr

namespace GroupsUse

/-- The user whose groups are written. -/
def recorded? : GroupsUse → Option String
  | record user _ => some user
  | lookup _ => none

def isRecord (use : GroupsUse) : Bool := use.recorded?.isSome

@[simp] theorem isRecord_record (user : String) (groups : List String) :
    (record user groups).isRecord = true := rfl

@[simp] theorem isRecord_lookup (user : String) : (lookup user).isRecord = false := rfl

end GroupsUse

/-- The users whose groups are written, as often as they are. -/
def recordedUsers (uses : List (Rat × GroupsUse)) : List String :=
  uses.filterMap (·.2.recorded?)

@[simp] theorem recordedUsers_nil : recordedUsers [] = [] := rfl

@[simp] theorem recordedUsers_append (uses uses' : List (Rat × GroupsUse)) :
    recordedUsers (uses ++ uses') = recordedUsers uses ++ recordedUsers uses' :=
  List.filterMap_append

@[simp] theorem recordedUsers_record (t : Rat) (user : String) (groups : List String) :
    recordedUsers [(t, .record user groups)] = [user] := rfl

@[simp] theorem recordedUsers_lookup (t : Rat) (user : String) :
    recordedUsers [(t, .lookup user)] = [] := rfl

namespace GroupsCache

/-- The cache after one use. -/
def perform (cache : GroupsCache) : Rat × GroupsUse → GroupsCache
  | (now, .record user groups) => cache.record now user groups
  | (now, .lookup user) => (cache.lookup now user).2

/-- The cache after some uses, the first one first. -/
def replay (cache : GroupsCache) (uses : List (Rat × GroupsUse)) : GroupsCache :=
  uses.foldl perform cache

@[simp] theorem replay_concat (cache : GroupsCache) (uses : List (Rat × GroupsUse))
    (use : Rat × GroupsUse) : cache.replay (uses ++ [use]) = (cache.replay uses).perform use :=
  List.foldl_concat ..

end GroupsCache

/-! ### The ledger -/

/-- The last entry of every user after one more use. -/
def enter (ttl : Rat) (entries : List GroupsEntry) : Rat × GroupsUse → List GroupsEntry
  | (now, .record user groups) => entries.filter (·.user ≠ user) ++ [⟨user, now + ttl, groups⟩]
  | (_, .lookup _) => entries

/-- The last entry of every user, in the order of writing. -/
def ledger (ttl : Rat) (uses : List (Rat × GroupsUse)) : List GroupsEntry :=
  uses.foldl (enter ttl) []

@[simp] theorem ledger_concat (ttl : Rat) (uses : List (Rat × GroupsUse))
    (use : Rat × GroupsUse) : ledger ttl (uses ++ [use]) = enter ttl (ledger ttl uses) use :=
  List.foldl_concat ..

/-- A lookup leaves no trace in the ledger. -/
theorem ledger_filter_isRecord (ttl : Rat) (uses : List (Rat × GroupsUse)) :
    ledger ttl (uses.filter (·.2.isRecord)) = ledger ttl uses := by
  induction uses using List.reverseRecOn with
  | nil => rfl
  | append_singleton uses use ih =>
    rcases use with ⟨t, ⟨user, groups⟩ | ⟨user⟩⟩
    · rw [List.filter_append, List.filter_cons_of_pos rfl, List.filter_nil, ledger_concat, ih,
        ledger_concat]
    · rw [List.filter_append, List.filter_cons_of_neg (by simp), List.filter_nil, List.append_nil,
        ih, ledger_concat, enter]

theorem mem_users_ledger_iff {ttl : Rat} {uses : List (Rat × GroupsUse)} {user : String} :
    user ∈ (ledger ttl uses).map (·.user) ↔ user ∈ recordedUsers uses := by
  induction uses using List.reverseRecOn with
  | nil => simp [ledger]
  | append_singleton uses use ih =>
    rcases use with ⟨t, ⟨other, groups⟩ | ⟨other⟩⟩
    · rcases eq_or_ne user other with rfl | hne
      · simp [enter]
      · simp [enter, ← ih, hne]
        grind
    · simp [enter, ← ih]

/-- After its last record, a user's entry stands in the ledger before one entry for each user
recorded since. -/
theorem exists_ledger_eq_append (ttl t : Rat) {user : String} (groups : List String)
    (before : List (Rat × GroupsUse)) {after : List (Rat × GroupsUse)}
    (hlast : user ∉ recordedUsers after) :
    ∃ older younger : List GroupsEntry,
      ledger ttl (before ++ (t, .record user groups) :: after) =
          older ++ ⟨user, t + ttl, groups⟩ :: younger ∧
        ∀ other, other ∈ younger.map (·.user) ↔ other ∈ recordedUsers after := by
  induction after using List.reverseRecOn with
  | nil => exact ⟨(ledger ttl before).filter (·.user ≠ user), [], by simp [enter], by simp⟩
  | append_singleton after use ih =>
    rw [recordedUsers_append, List.mem_append, not_or] at hlast
    obtain ⟨older, younger, hledger, hyounger⟩ := ih hlast.1
    rw [← List.cons_append, ← List.append_assoc, ledger_concat, hledger]
    rcases use with ⟨t', ⟨other, groups'⟩ | ⟨other⟩⟩
    · have hne : user ≠ other := by simpa using hlast.2
      refine ⟨older.filter (·.user ≠ other),
        younger.filter (·.user ≠ other) ++ [⟨other, t' + ttl, groups'⟩], ?_, fun name => ?_⟩
      · simp [enter, hne]
      · rcases eq_or_ne name other with rfl | hname
        · simp
        · simp [← hyounger, hname]
          grind
    · exact ⟨older, younger, rfl, by simpa using hyounger⟩

/-! ### Entries in the order of their expiry -/

/-- There is one entry for each user, and they stand in the order of their expiry, which lies a
`ttl` after some moment up to `now`. -/
structure InOrder (ttl now : Rat) (entries : List GroupsEntry) : Prop where
  nodup : (entries.map (·.user)).Nodup
  sorted : entries.Pairwise (·.expiry ≤ ·.expiry)
  expiry_le : ∀ entry ∈ entries, entry.expiry ≤ now + ttl

namespace InOrder

variable {ttl now later : Rat} {entries entries' : List GroupsEntry}

protected theorem nil : InOrder ttl now [] := ⟨List.nodup_nil, List.Pairwise.nil, by simp⟩

theorem mono (h : InOrder ttl now entries) (hle : now ≤ later) : InOrder ttl later entries :=
  ⟨h.nodup, h.sorted, fun entry hentry => by grind [h.expiry_le entry hentry]⟩

theorem sublist (h : InOrder ttl now entries) (hsub : List.Sublist entries' entries) :
    InOrder ttl now entries' :=
  ⟨h.nodup.sublist (hsub.map _), h.sorted.sublist hsub,
    fun entry hentry => h.expiry_le entry (hsub.subset hentry)⟩

/-- The entry that is written expires last. -/
theorem enter (h : InOrder ttl now entries) (use : GroupsUse) :
    InOrder ttl now (enter ttl entries (now, use)) := by
  cases use with
  | lookup user => exact h
  | record user groups =>
    have hfilter := h.sublist (entries.filter_sublist (p := (·.user ≠ user)))
    refine ⟨?_, ?_, ?_⟩
    · have hnew : user ∉ (entries.filter (·.user ≠ user)).map (·.user) := by simp
      rw [LoginGate.enter, List.map_append]
      exact List.nodup_append.mpr ⟨hfilter.nodup, List.nodup_singleton _, by grind⟩
    · refine List.pairwise_append.mpr ⟨hfilter.sorted, List.pairwise_singleton .., ?_⟩
      simpa using fun entry hentry _ => h.expiry_le entry hentry
    · simpa [LoginGate.enter, or_imp, forall_and] using
        fun entry hentry _ => h.expiry_le entry hentry

/-- The entry of a user is the only one. -/
theorem eq_of_user_eq (h : InOrder ttl now entries) {entry entry' : GroupsEntry}
    (hentry : entry ∈ entries) (hentry' : entry' ∈ entries) (huser : entry.user = entry'.user) :
    entry = entry' :=
  List.inj_on_of_nodup_map h.nodup hentry hentry' huser

end InOrder

/-! ### The entries that count -/

/-- The entries that count at a moment. -/
def counting (now : Rat) (entries : List GroupsEntry) : List GroupsEntry :=
  entries.filter (now < ·.expiry)

section Counting

variable {ttl now : Rat} {entries older younger : List GroupsEntry} {entry : GroupsEntry}

@[simp] theorem mem_counting :
    entry ∈ counting now entries ↔ entry ∈ entries ∧ now < entry.expiry := by
  simp [counting]

@[simp] theorem counting_append :
    counting now (older ++ younger) = counting now older ++ counting now younger :=
  List.filter_append ..

theorem counting_eq_nil (h : ∀ entry ∈ entries, entry.expiry ≤ now) : counting now entries = [] :=
  List.filter_eq_nil_iff.mpr fun entry hentry => by simpa using h entry hentry

theorem counting_eq_self (h : ∀ entry ∈ entries, now < entry.expiry) :
    counting now entries = entries :=
  List.filter_eq_self.mpr fun entry hentry => by simpa using h entry hentry

theorem counting_singleton (now : Rat) (entry : GroupsEntry) :
    counting now [entry] = if now < entry.expiry then [entry] else [] := by
  simp [counting, List.filter_cons]

/-- The entries that go first are those that count no more first. -/
theorem counting_rtake (hsorted : entries.Pairwise (·.expiry ≤ ·.expiry)) (n : Nat) :
    counting now (entries.rtake n) = (counting now entries).rtake n := by
  induction entries using List.reverseRecOn generalizing n with
  | nil => simp [counting]
  | append_singleton entries entry ih =>
    obtain ⟨hsorted, -, hlast⟩ := List.pairwise_append.mp hsorted
    cases n with
    | zero => simp [counting]
    | succ n =>
      rw [List.rtake_concat_succ, counting_append, counting_append, ih hsorted]
      by_cases hcounts : now < entry.expiry
      · rw [counting_singleton, if_pos hcounts, List.rtake_concat_succ]
      · have hnone : counting now entries = [] := counting_eq_nil fun other hother =>
          (hlast other hother entry (by simp)).trans (not_lt.mp hcounts)
        rw [hnone, counting_singleton, if_neg hcounts]
        simp

/-- Whether an entry is among the youngest is told by how many are younger. -/
theorem mem_rtake_iff (hnodup : (older ++ entry :: younger).Nodup) (n : Nat) :
    entry ∈ (older ++ entry :: younger).rtake n ↔ younger.length < n := by
  induction younger using List.reverseRecOn generalizing n with
  | nil => cases n <;> simp
  | append_singleton younger last ih =>
    rw [← List.cons_append, ← List.append_assoc] at hnodup ⊢
    cases n with
    | zero => simp
    | succ n =>
      have hne : entry ≠ last := by
        rintro rfl
        simp [List.nodup_append] at hnodup
      rw [List.rtake_concat_succ, List.mem_append, ih hnodup.of_append_left]
      simp [hne]

/-- Of the youngest entries only one more is needed to replace that of a user. -/
theorem rtake_filter_rtake_succ (hnodup : (entries.map (·.user)).Nodup) (user : String) (n : Nat) :
    ((entries.rtake (n + 1)).filter (·.user ≠ user)).rtake n =
      (entries.filter (·.user ≠ user)).rtake n := by
  induction entries using List.reverseRecOn generalizing n with
  | nil => simp
  | append_singleton entries entry ih =>
    rw [List.map_append, List.nodup_append] at hnodup
    obtain ⟨hnodup, -, hnew⟩ := hnodup
    rw [List.rtake_concat_succ, List.filter_append, List.filter_append]
    by_cases huser : entry.user = user
    · have hother : ∀ other ∈ entries, other.user ≠ user := by
        intro other hother heq
        exact hnew other.user (List.mem_map_of_mem hother) entry.user (by simp)
          (heq.trans huser.symm)
      have hall : entries.filter (·.user ≠ user) = entries :=
        List.filter_eq_self.mpr (by simpa using hother)
      have hyoung : (entries.rtake n).filter (·.user ≠ user) = entries.rtake n :=
        List.filter_eq_self.mpr fun other hmem => by
          simpa using hother other (List.mem_of_mem_drop hmem)
      rw [List.filter_cons_of_neg (by simpa using huser), List.filter_nil, List.append_nil,
        List.append_nil, hall, hyoung, List.rtake, List.rtake, List.drop_drop, List.length_drop]
      congr 1
      omega
    · rw [List.filter_cons_of_pos (by simpa using huser), List.filter_nil]
      cases n with
      | zero => simp
      | succ n => rw [List.rtake_concat_succ, List.rtake_concat_succ, ih hnodup]

end Counting

/-! ### Cache and ledger -/

namespace GroupsCache

variable {cache : GroupsCache} {now later : Rat} {entries : List GroupsEntry}

theorem youngest_eq_rtake (cache : GroupsCache) (entries : List GroupsEntry) :
    cache.youngest entries = entries.rtake cache.maxSize.toNat := rfl

@[simp] theorem lookup_snd_maxSize (cache : GroupsCache) (now : Rat) (user : String) :
    (cache.lookup now user).2.maxSize = cache.maxSize := by
  unfold lookup
  split
  · rfl
  · split <;> rfl

@[simp] theorem lookup_snd_ttl (cache : GroupsCache) (now : Rat) (user : String) :
    (cache.lookup now user).2.ttl = cache.ttl := by
  unfold lookup
  split
  · rfl
  · split <;> rfl

@[simp] theorem perform_maxSize (cache : GroupsCache) (use : Rat × GroupsUse) :
    (cache.perform use).maxSize = cache.maxSize := by
  rcases use with ⟨now, ⟨user, groups⟩ | ⟨user⟩⟩ <;> simp [perform, record]

@[simp] theorem perform_ttl (cache : GroupsCache) (use : Rat × GroupsUse) :
    (cache.perform use).ttl = cache.ttl := by
  rcases use with ⟨now, ⟨user, groups⟩ | ⟨user⟩⟩ <;> simp [perform, record]

@[simp] theorem replay_maxSize (cache : GroupsCache) (uses : List (Rat × GroupsUse)) :
    (cache.replay uses).maxSize = cache.maxSize := by
  induction uses using List.reverseRecOn with
  | nil => rfl
  | append_singleton uses use ih => simp [ih]

@[simp] theorem replay_ttl (cache : GroupsCache) (uses : List (Rat × GroupsUse)) :
    (cache.replay uses).ttl = cache.ttl := by
  induction uses using List.reverseRecOn with
  | nil => rfl
  | append_singleton uses use ih => simp [ih]

/-- From a moment on, the entries of the cache that count are the youngest of the given ones that
do. -/
structure Mirrors (cache : GroupsCache) (now : Rat) (entries : List GroupsEntry) : Prop where
  kept : InOrder cache.ttl now cache.entries
  given : InOrder cache.ttl now entries
  counting_eq : ∀ t, now ≤ t → counting t cache.entries = cache.youngest (counting t entries)

namespace Mirrors

theorem mono (h : cache.Mirrors now entries) (hle : now ≤ later) : cache.Mirrors later entries :=
  ⟨h.kept.mono hle, h.given.mono hle, fun t ht => h.counting_eq t (hle.trans ht)⟩

/-- A record brings the same entry to both, and at most one entry of the user goes. -/
theorem record (h : cache.Mirrors now entries) (user : String) (groups : List String) :
    (cache.record now user groups).Mirrors now
      (enter cache.ttl entries (now, .record user groups)) where
  kept := (h.kept.enter (.record user groups)).sublist (List.drop_sublist ..)
  given := h.given.enter (.record user groups)
  counting_eq t ht := by
    have hentries : (cache.record now user groups).entries =
        (enter cache.ttl cache.entries (now, .record user groups)).rtake cache.maxSize.toNat := rfl
    have hsorted := (h.kept.enter (.record user groups)).sorted
    have hfilter (entries : List GroupsEntry) : counting t (entries.filter (·.user ≠ user)) =
        (counting t entries).filter (·.user ≠ user) := by
      simp [counting, List.filter_filter, Bool.and_comm]
    rw [hentries, counting_rtake hsorted, youngest_eq_rtake]
    change _ = List.rtake _ cache.maxSize.toNat
    simp only [enter, counting_append, hfilter, h.counting_eq t ht, youngest_eq_rtake]
    cases hsize : cache.maxSize.toNat with
    | zero => simp
    | succ n =>
      by_cases hcounts : t < now + cache.ttl
      · have hnodup : ((counting t entries).map (·.user)).Nodup :=
          h.given.nodup.sublist (List.filter_sublist.map _)
        rw [counting_singleton, if_pos hcounts, List.rtake_concat_succ, List.rtake_concat_succ,
          rtake_filter_rtake_succ hnodup]
      · -- The entry that is written expires last, so nothing that was given counts either.
        have hnone : counting t entries = [] := counting_eq_nil fun entry hentry =>
          (h.given.expiry_le entry hentry).trans (not_lt.mp hcounts)
        simp [hnone]

/-- A lookup lets go only what counts no more. -/
theorem lookup (h : cache.Mirrors now entries) (user : String) :
    (cache.lookup now user).2.Mirrors now entries := by
  unfold GroupsCache.lookup
  split
  · exact h
  next entry hfound =>
    split
    · next hexpired =>
      have hmem : entry ∈ cache.entries := List.mem_of_find?_eq_some hfound
      have huser : entry.user = user := by simpa using List.find?_some hfound
      refine ⟨h.kept.sublist List.filter_sublist, h.given, fun t ht => ?_⟩
      have hothers : ∀ other ∈ counting t cache.entries, other.user ≠ user := by
        intro other hother heq
        obtain ⟨hother, hcounts⟩ := mem_counting.mp hother
        obtain rfl := h.kept.eq_of_user_eq hother hmem (heq.trans huser.symm)
        exact absurd (hexpired.trans ht) (not_le.mpr hcounts)
      calc counting t (cache.without user)
          = (counting t cache.entries).filter (·.user ≠ user) := by
            simp [counting, without, List.filter_filter, Bool.and_comm]
        _ = counting t cache.entries := List.filter_eq_self.mpr (by simpa using hothers)
        _ = cache.youngest (counting t entries) := h.counting_eq t ht
    · exact h

theorem perform (h : cache.Mirrors now entries) (use : GroupsUse) :
    (cache.perform (now, use)).Mirrors now (enter cache.ttl entries (now, use)) := by
  cases use with
  | record user groups => exact h.record user groups
  | lookup user => exact h.lookup user

end Mirrors

/-- After any uses under a clock that does not go back, the cache holds of the entries that count
what it would keep of the ledger's. -/
theorem mirrors_replay {cache : GroupsCache} (hempty : cache.entries = []) {now : Rat}
    {uses : List (Rat × GroupsUse)} (hclock : (uses.map Prod.fst ++ [now]).Pairwise (· ≤ ·)) :
    (cache.replay uses).Mirrors now (ledger cache.ttl uses) := by
  induction uses using List.reverseRecOn generalizing now with
  | nil => exact ⟨by simp [replay, hempty, InOrder.nil], InOrder.nil, fun t _ => by
      simp [replay, hempty, counting, ledger, youngest]⟩
  | append_singleton uses use ih =>
    obtain ⟨t, use⟩ := use
    rw [List.map_append] at hclock
    obtain ⟨hclock, -, hle⟩ := List.pairwise_append.mp hclock
    have hperform := (ih hclock).perform use
    rw [replay_ttl] at hperform
    rw [replay_concat, ledger_concat]
    exact hperform.mono (hle t (by simp) now (by simp))

/-! ### Lookups -/

theorem lookup_fst_of_mem_counting {ttl t : Rat} {entry : GroupsEntry}
    (hkept : InOrder ttl t cache.entries) (hentry : entry ∈ counting now cache.entries) :
    (cache.lookup now entry.user).1 = entry.groups := by
  obtain ⟨hmem, hcounts⟩ := mem_counting.mp hentry
  unfold lookup
  split
  next hnone => simpa using List.find?_eq_none.mp hnone entry hmem
  next found hfound =>
    obtain rfl := hkept.eq_of_user_eq (List.mem_of_find?_eq_some hfound) hmem
      (by simpa using List.find?_some hfound)
    rw [if_neg (not_le.mpr hcounts)]

theorem lookup_fst_eq_nil {user : String}
    (hnone : ∀ entry ∈ counting now cache.entries, entry.user ≠ user) :
    (cache.lookup now user).1 = [] := by
  unfold lookup
  split
  · rfl
  next entry hfound =>
    have huser : entry.user = user := by simpa using List.find?_some hfound
    have hexpired : entry.expiry ≤ now := not_lt.mp fun hcounts =>
      hnone entry (mem_counting.mpr ⟨List.mem_of_find?_eq_some hfound, hcounts⟩) huser
    rw [if_pos hexpired]

/-- A lookup answers what the ledger tells. -/
theorem Mirrors.lookup_fst_eq {cache' : GroupsCache} (h : cache.Mirrors now entries)
    (h' : cache'.Mirrors now entries) (hsize : cache.maxSize = cache'.maxSize) (user : String) :
    (cache.lookup now user).1 = (cache'.lookup now user).1 := by
  have hsame : counting now cache.entries = counting now cache'.entries := by
    rw [h.counting_eq now le_rfl, h'.counting_eq now le_rfl, youngest, youngest, hsize]
  by_cases hentry : ∃ entry ∈ counting now cache.entries, entry.user = user
  · obtain ⟨entry, hentry, rfl⟩ := hentry
    rw [lookup_fst_of_mem_counting h.kept hentry,
      lookup_fst_of_mem_counting h'.kept (hsame ▸ hentry)]
  · push Not at hentry
    rw [lookup_fst_eq_nil hentry, lookup_fst_eq_nil (hsame ▸ hentry)]

/-- Looks up the groups of a user whose entry is at a known place of the ledger. -/
theorem Mirrors.lookup_fst_of_eq_append {entry : GroupsEntry} {older younger : List GroupsEntry}
    (h : cache.Mirrors now (older ++ entry :: younger)) :
    (cache.lookup now entry.user).1 =
      if now < entry.expiry ∧ younger.length < cache.maxSize.toNat then entry.groups else [] := by
  have hgiven := h.given
  have hnodup : (older ++ entry :: younger).Nodup := hgiven.nodup.of_map _
  have hmem (hcounts : now < entry.expiry) : entry ∈ counting now cache.entries ↔
      younger.length < cache.maxSize.toNat := by
    -- What is younger than an entry that counts counts as well.
    have hyounger : counting now (entry :: younger) = entry :: younger := by
      refine counting_eq_self fun other hother => ?_
      rcases List.mem_cons.mp hother with rfl | hother
      · exact hcounts
      · obtain ⟨-, hsorted, -⟩ := List.pairwise_append.mp hgiven.sorted
        exact hcounts.trans_le (List.rel_of_pairwise_cons hsorted hother)
    rw [h.counting_eq now le_rfl, youngest_eq_rtake, counting_append, hyounger]
    refine mem_rtake_iff (hnodup.sublist ?_) _
    exact List.filter_sublist.append_right _
  split_ifs with hcond
  · exact lookup_fst_of_mem_counting h.kept ((hmem hcond.1).mpr hcond.2)
  · refine lookup_fst_eq_nil fun other hother huser => hcond ?_
    have hsub : other ∈ counting now (older ++ entry :: younger) := by
      rw [h.counting_eq now le_rfl] at hother
      exact List.mem_of_mem_drop hother
    obtain rfl := hgiven.eq_of_user_eq (mem_counting.mp hsub).1 (by simp) huser
    have hcounts := (mem_counting.mp hsub).2
    exact ⟨hcounts, (hmem hcounts).mp hother⟩

/-- What a lookup answers after any uses of a cache that was empty, under a clock that does not go
back: the groups last recorded for the user if they count and fewer users than the cache keeps
were recorded since, and none in every other case.  The lookups between make no difference. -/
theorem lookup_replay {maxSize : Int} (hsize : 0 ≤ maxSize) (ttl : Rat) {now : Rat}
    {uses : List (Rat × GroupsUse)} (hclock : (uses.map Prod.fst ++ [now]).Pairwise (· ≤ ·))
    (user : String) :
    let cache : GroupsCache := ⟨maxSize, ttl, []⟩
    (∀ before after, uses = before ++ after → (cache.replay before).canRecord) ∧
      (user ∉ recordedUsers uses → ((cache.replay uses).lookup now user).1 = []) ∧
      (∀ before t groups after, uses = before ++ (t, .record user groups) :: after →
        user ∉ recordedUsers after →
        ((cache.replay uses).lookup now user).1 =
          if now < t + ttl ∧ ((recordedUsers after).toFinset.card : Int) < maxSize
          then groups else []) ∧
      ((cache.replay uses).lookup now user).1 =
        ((cache.replay (uses.filter (·.2.isRecord))).lookup now user).1 := by
  intro cache
  have hmirrors : (cache.replay uses).Mirrors now (ledger ttl uses) := mirrors_replay rfl hclock
  refine ⟨fun before _ _ => by simpa [canRecord, cache] using hsize, fun hnever => ?_, ?_, ?_⟩
  · refine lookup_fst_eq_nil fun entry hentry huser => hnever ?_
    rw [hmirrors.counting_eq now le_rfl] at hentry
    have hledger := (mem_counting.mp (List.mem_of_mem_drop hentry)).1
    exact mem_users_ledger_iff.mp (List.mem_map.mpr ⟨entry, hledger, huser⟩)
  · rintro before t groups after rfl hlast
    obtain ⟨older, younger, hledger, hyounger⟩ :=
      exists_ledger_eq_append ttl t groups before hlast
    rw [hledger] at hmirrors
    have hcard : (recordedUsers after).toFinset.card = younger.length := by
      have hnodup : (younger.map (·.user)).Nodup := by
        refine hmirrors.given.nodup.sublist (List.Sublist.map _ ?_)
        exact (List.sublist_cons_self _ _).trans (List.sublist_append_right _ _)
      rw [← List.length_map (·.user), ← List.toFinset_card_of_nodup hnodup]
      congr 1
      ext other
      rw [List.mem_toFinset, List.mem_toFinset, hyounger]
    have hlookup := hmirrors.lookup_fst_of_eq_append
    have hiff : younger.length < (cache.replay
        (before ++ (t, .record user groups) :: after)).maxSize.toNat ↔
        ((recordedUsers after).toFinset.card : Int) < maxSize := by
      rw [hcard, replay_maxSize]
      change younger.length < maxSize.toNat ↔ _
      omega
    rw [hlookup]
    simp only [hiff]
  · refine hmirrors.lookup_fst_eq ?_ (by simp) user
    rw [← ledger_filter_isRecord]
    refine mirrors_replay rfl (hclock.sublist ?_)
    exact (List.filter_sublist.map _).append_right _

/-- Three users whose groups are recorded, with a lookup of the first one between. -/
def sampleUses : List (Rat × GroupsUse) :=
  [(0, .record "ada" ["staff"]), (1, .record "bob" ["admin"]), (1, .lookup "ada"),
    (2, .record "cy" [])]

/-- Of three users a cache for two knows the last two, though the first one was looked up. -/
theorem lookup_replay_after_three_users :
    0 ≤ (2 : Int) ∧ (sampleUses.map Prod.fst ++ [3]).Pairwise (· ≤ ·) ∧
      (((⟨2, 10, []⟩ : GroupsCache).replay sampleUses).lookup 3 "ada").1 = [] ∧
      (((⟨2, 10, []⟩ : GroupsCache).replay sampleUses).lookup 3 "bob").1 = ["admin"] := by
  have hclock : (sampleUses.map Prod.fst ++ [3]).Pairwise (· ≤ ·) := by decide +kernel
  have hada := (lookup_replay (by decide : 0 ≤ (2 : Int)) 10 hclock "ada").2.2.1
    [] 0 ["staff"] _ rfl (by decide)
  have hbob := (lookup_replay (by decide : 0 ≤ (2 : Int)) 10 hclock "bob").2.2.1
    [(0, .record "ada" ["staff"])] 1 ["admin"] _ rfl (by decide)
  refine ⟨by decide, hclock, hada.trans (if_neg (by decide +kernel)),
    hbob.trans (if_pos (by decide +kernel))⟩

end GroupsCache

end LoginGate
