import LoginGate.Proofs.Groups.Replay

/-!
# How a cache of groups is kept

After any uses a cache holds one entry for each of some users, in the order in which these were last
recorded, and not more entries than it is to hold. This needs no clock: a record moves the entry of
its user to the young end, a lookup and an eviction only take entries away. Under a clock that does
not go back the entries then expire in their order as well, and an eviction, which takes the oldest
entry, never takes one that counts while one that does not is kept.

## Main definitions

* `Evicts` : the oldest entry goes while there are too many.
* `IsLastRecord` : an entry was written by the last record of its user.
* `GroupsCache.Orderly` : how a cache is kept.

## Main results

* `exists_evicts_iff` : evictions come to an end exactly in a cache for a number of entries that can
  be reached.
* `GroupsCache.lastRecordsInOrder_replay` : the entries stand in the order of the last records.
* `GroupsCache.orderly_replay` : a cache is kept in order, and so are its evictions.
-/

namespace LoginGate

/-! ### Evictions -/

/-- The oldest entry goes, again and again while there are more than are kept: what goes, and what
stays. Nothing can go where there is no entry, so there is no rule for that. -/
inductive Evicts (maxSize : Int) :
    List GroupsEntry → List GroupsEntry → List GroupsEntry → Prop
  | enough {entries : List GroupsEntry} (h : (entries.length : Int) ≤ maxSize) :
      Evicts maxSize entries [] entries
  | oldest {entry : GroupsEntry} {entries gone kept : List GroupsEntry}
      (h : maxSize < (entry :: entries).length) (hrest : Evicts maxSize entries gone kept) :
      Evicts maxSize (entry :: entries) (entry :: gone) kept

section Evictions

variable {maxSize : Int} {entries gone kept : List GroupsEntry}

/-- The oldest entries go. -/
theorem Evicts.eq_append (h : Evicts maxSize entries gone kept) : entries = gone ++ kept := by
  induction h with
  | enough h => rfl
  | oldest h hrest ih => rw [ih, List.cons_append]

/-- Evictions end with as many entries as are kept. -/
theorem evicts_drop (hsize : 0 ≤ maxSize) (entries : List GroupsEntry) :
    Evicts maxSize entries (entries.take (entries.length - maxSize.toNat))
      (entries.drop (entries.length - maxSize.toNat)) := by
  induction entries with
  | nil =>
    rw [List.take_nil, List.drop_nil]
    exact .enough (by simpa using hsize)
  | cons entry entries ih =>
    by_cases hmany : maxSize < (entry :: entries).length
    · have hcount : (entry :: entries).length - maxSize.toNat =
          entries.length - maxSize.toNat + 1 := by
        rw [List.length_cons] at hmany ⊢
        omega
      rw [hcount]
      exact .oldest hmany ih
    · have hcount : (entry :: entries).length - maxSize.toNat = 0 := by omega
      rw [hcount]
      exact .enough (not_lt.mp hmany)

/-- Evictions come to an end exactly if the number of entries that are kept can be reached. -/
theorem exists_evicts_iff {cache : GroupsCache} :
    (∃ gone kept, Evicts cache.maxSize entries gone kept) ↔ cache.canRecord := by
  rw [GroupsCache.canRecord, decide_eq_true_iff]
  constructor
  · rintro ⟨gone, kept, h⟩
    induction h with
    | enough h => exact (Int.natCast_nonneg _).trans h
    | oldest h hrest ih => exact ih
  · exact fun hsize => ⟨_, _, evicts_drop hsize entries⟩

end Evictions

/-! ### Last records -/

/-- An entry was written at a place among some uses, by the last record of its user. -/
structure IsLastRecord (ttl : Rat) (uses : List (Rat × GroupsUse)) (place : Nat)
    (entry : GroupsEntry) : Prop where
  written : ∃ t, uses[place]? = some (t, .record entry.user entry.groups) ∧ entry.expiry = t + ttl
  last : entry.user ∉ recordedUsers (uses.drop (place + 1))

namespace IsLastRecord

variable {ttl : Rat} {uses : List (Rat × GroupsUse)} {use : Rat × GroupsUse} {place : Nat}
  {entry : GroupsEntry}

theorem lt_length (h : IsLastRecord ttl uses place entry) : place < uses.length := by
  obtain ⟨t, ht, -⟩ := h.written
  exact (List.getElem?_eq_some_iff.mp ht).1

/-- A use that does not record the user leaves its last record what it is. -/
theorem concat (h : IsLastRecord ttl uses place entry) (hother : entry.user ∉ recordedUsers [use]) :
    IsLastRecord ttl (uses ++ [use]) place entry where
  written := by
    obtain ⟨t, ht, hexpiry⟩ := h.written
    exact ⟨t, by rw [List.getElem?_append_left h.lt_length, ht], hexpiry⟩
  last := by
    rw [List.drop_append_of_le_length h.lt_length, recordedUsers_append, List.mem_append, not_or]
    exact ⟨h.last, hother⟩

/-- A record is the last one of its user for now. -/
theorem of_record (ttl : Rat) (uses : List (Rat × GroupsUse)) (now : Rat) (user : String)
    (groups : List String) :
    IsLastRecord ttl (uses ++ [(now, .record user groups)]) uses.length
      ⟨user, now + ttl, groups⟩ where
  written := ⟨now, by simp, rfl⟩
  last := by simp

end IsLastRecord

/-- The users of some entries were last recorded in the order of the entries. -/
structure LastRecordsInOrder (ttl : Rat) (uses : List (Rat × GroupsUse))
    (entries : List GroupsEntry) : Prop where
  written : ∀ entry ∈ entries, ∃ place, IsLastRecord ttl uses place entry
  ordered : entries.Pairwise fun older younger => ∃ place place', place < place' ∧
    IsLastRecord ttl uses place older ∧ IsLastRecord ttl uses place' younger

namespace LastRecordsInOrder

variable {ttl : Rat} {uses : List (Rat × GroupsUse)} {entries entries' : List GroupsEntry}

protected theorem nil (ttl : Rat) : LastRecordsInOrder ttl [] [] := ⟨nofun, List.Pairwise.nil⟩

theorem sublist (h : LastRecordsInOrder ttl uses entries) (hsub : List.Sublist entries' entries) :
    LastRecordsInOrder ttl uses entries' :=
  ⟨fun entry hentry => h.written entry (hsub.subset hentry), h.ordered.sublist hsub⟩

/-- A use that records none of the users leaves their order as it is. -/
theorem concat (h : LastRecordsInOrder ttl uses entries) {use : Rat × GroupsUse}
    (hother : ∀ entry ∈ entries, entry.user ∉ recordedUsers [use]) :
    LastRecordsInOrder ttl (uses ++ [use]) entries where
  written entry hentry := by
    obtain ⟨place, hplace⟩ := h.written entry hentry
    exact ⟨place, hplace.concat (hother entry hentry)⟩
  ordered := by
    refine h.ordered.imp_of_mem fun {older younger} holder hyounger hlast => ?_
    obtain ⟨place, place', hlt, hplace, hplace'⟩ := hlast
    exact ⟨place, place', hlt, hplace.concat (hother older holder),
      hplace'.concat (hother younger hyounger)⟩

/-- The entry that is written is that of the last record of all. -/
theorem enter (h : LastRecordsInOrder ttl uses entries) (use : Rat × GroupsUse) :
    LastRecordsInOrder ttl (uses ++ [use]) (enter ttl entries use) := by
  rcases use with ⟨now, ⟨user, groups⟩ | ⟨user⟩⟩
  · have hlast := IsLastRecord.of_record ttl uses now user groups
    have hothers : LastRecordsInOrder ttl (uses ++ [(now, .record user groups)])
        (entries.filter (·.user ≠ user)) :=
      (h.sublist List.filter_sublist).concat fun entry hentry => by
        simpa using (List.mem_filter.mp hentry).2
    refine ⟨fun entry hentry => ?_, List.pairwise_append.mpr
      ⟨hothers.ordered, List.pairwise_singleton .., fun older holder younger hyounger => ?_⟩⟩
    · rcases List.mem_append.mp hentry with hentry | hentry
      · exact hothers.written entry hentry
      · rw [List.mem_singleton.mp hentry]
        exact ⟨uses.length, hlast⟩
    · rw [List.mem_singleton.mp hyounger]
      obtain ⟨place, hplace⟩ := (h.sublist List.filter_sublist).written older holder
      have holder := (List.mem_filter.mp holder).2
      exact ⟨place, uses.length, hplace.lt_length, hplace.concat (by simpa using holder), hlast⟩
  · exact h.concat fun entry _ => by simp

end LastRecordsInOrder

namespace GroupsCache

variable {cache : GroupsCache} {uses : List (Rat × GroupsUse)}

/-- A use keeps no entries but those that the ledger has after it. -/
theorem entries_perform_sublist (cache : GroupsCache) (use : Rat × GroupsUse) :
    List.Sublist (cache.perform use).entries (enter cache.ttl cache.entries use) := by
  rcases use with ⟨now, ⟨user, groups⟩ | ⟨user⟩⟩
  · exact List.drop_sublist ..
  · rw [perform, lookup, enter]
    split
    · exact List.Sublist.refl _
    · split
      · exact List.filter_sublist
      · exact List.Sublist.refl _

/-- The entries stand in the order of the last records, after any uses. -/
theorem lastRecordsInOrder_replay (hempty : cache.entries = []) (uses : List (Rat × GroupsUse)) :
    LastRecordsInOrder cache.ttl uses (cache.replay uses).entries := by
  induction uses using List.reverseRecOn with
  | nil =>
    rw [replay, List.foldl_nil, hempty]
    exact .nil cache.ttl
  | append_singleton uses use ih =>
    have hsub := (cache.replay uses).entries_perform_sublist use
    rw [replay_ttl] at hsub
    rw [replay_concat]
    exact (ih.enter use).sublist hsub

/-- No more entries are held than are to be. -/
theorem length_entries_replay_le (hempty : cache.entries = []) (hsize : 0 ≤ cache.maxSize)
    (uses : List (Rat × GroupsUse)) :
    ((cache.replay uses).entries.length : Int) ≤ cache.maxSize := by
  induction uses using List.reverseRecOn with
  | nil => simpa [replay, hempty] using hsize
  | append_singleton uses use ih =>
    rw [replay_concat]
    rcases use with ⟨now, ⟨user, groups⟩ | ⟨user⟩⟩
    · rw [perform, record, youngest, List.length_drop, replay_maxSize]
      omega
    · have hsub := ((cache.replay uses).entries_perform_sublist (now, .lookup user)).length_le
      rw [enter] at hsub
      omega

/-- A record evicts one entry at most, if no more are held than are to be. -/
theorem evicts_record (hsize : 0 ≤ cache.maxSize)
    (hlength : (cache.entries.length : Int) ≤ cache.maxSize) (now : Rat) (user : String)
    (groups : List String) :
    ∃ gone, Evicts cache.maxSize (enter cache.ttl cache.entries (now, .record user groups)) gone
      (cache.record now user groups).entries ∧ gone.length ≤ 1 := by
  refine ⟨_, evicts_drop hsize _, ?_⟩
  have hothers := (cache.entries.filter_sublist (p := (·.user ≠ user))).length_le
  rw [List.length_take, enter, List.length_append, List.length_singleton]
  omega

/-- The entries expire in their order after any uses under a clock that does not go back. -/
theorem inOrder_replay (hempty : cache.entries = [])
    (hclock : (uses.map Prod.fst).Pairwise (· ≤ ·)) :
    ∃ now, InOrder cache.ttl now (cache.replay uses).entries := by
  induction uses using List.reverseRecOn with
  | nil =>
    refine ⟨0, ?_⟩
    rw [replay, List.foldl_nil, hempty]
    exact .nil
  | append_singleton uses use ih =>
    rw [List.map_append] at hclock
    have hkept := (mirrors_replay hempty hclock).kept.enter use.2
    rw [replay_concat, ← replay_ttl cache uses]
    exact ⟨_, hkept.sublist ((cache.replay uses).entries_perform_sublist use)⟩

/-- A cache is kept in order over some uses. -/
structure Orderly (cache : GroupsCache) (uses : List (Rat × GroupsUse)) : Prop where
  nodup : cache.users.Nodup
  length_le : (cache.entries.length : Int) ≤ cache.maxSize
  lastRecords : LastRecordsInOrder cache.ttl uses cache.entries
  expiries : cache.entries.Pairwise (·.expiry ≤ ·.expiry)

/-- An eviction is in order: it comes to an end, one entry goes at most, and none goes that counts
while one is kept that does not, at whatever moment. -/
def EvictsInOrder (maxSize : Int) (entries kept : List GroupsEntry) : Prop :=
  ∃ gone, Evicts maxSize entries gone kept ∧ gone.length ≤ 1 ∧
    ∀ t, (∃ entry ∈ gone, t < entry.expiry) → ∀ entry ∈ kept, t < entry.expiry

/-- A cache that was empty is kept in order over any uses under a clock that does not go back, and
each record in them evicts in order. -/
theorem orderly_replay {maxSize : Int} (hsize : 0 ≤ maxSize) (ttl : Rat)
    {uses : List (Rat × GroupsUse)} (hclock : (uses.map Prod.fst).Pairwise (· ≤ ·)) :
    let cache : GroupsCache := ⟨maxSize, ttl, []⟩
    (cache.replay uses).Orderly uses ∧
      ∀ before now user groups after, uses = before ++ (now, .record user groups) :: after →
        EvictsInOrder maxSize (enter ttl (cache.replay before).entries (now, .record user groups))
          (cache.replay (before ++ [(now, .record user groups)])).entries := by
  intro cache
  have hempty : cache.entries = [] := rfl
  refine ⟨?_, ?_⟩
  · obtain ⟨now, hkept⟩ := inOrder_replay hempty hclock
    refine ⟨hkept.nodup, ?_, ?_, hkept.sorted⟩
    · rw [replay_maxSize]
      exact length_entries_replay_le hempty hsize uses
    · rw [replay_ttl]
      exact lastRecordsInOrder_replay hempty uses
  · rintro before now user groups after rfl
    have hbefore : (before.map Prod.fst ++ [now]).Pairwise (· ≤ ·) := by
      refine hclock.sublist ?_
      rw [List.map_append, List.map_cons]
      exact (List.singleton_sublist.mpr List.mem_cons_self).append_left _
    have hlength := length_entries_replay_le hempty hsize before
    obtain ⟨gone, hevicts, hone⟩ := (cache.replay before).evicts_record
      (by rwa [replay_maxSize]) (by rwa [replay_maxSize]) now user groups
    have hsorted := ((mirrors_replay hempty hbefore).kept.enter (.record user groups)).sorted
    rw [hevicts.eq_append] at hsorted
    obtain ⟨-, -, hlater⟩ := List.pairwise_append.mp hsorted
    rw [replay_maxSize, replay_ttl] at hevicts
    rw [replay_concat]
    refine ⟨gone, hevicts, hone, ?_⟩
    rintro t ⟨other, hother, hcounts⟩ entry hentry
    exact hcounts.trans_le (hlater other hother entry hentry)

/-- So is a cache for two users in which three are recorded: the third record evicts the first
user. -/
theorem orderly_replay_of_three_users :
    0 ≤ (2 : Int) ∧ (sampleUses.map Prod.fst).Pairwise (· ≤ ·) ∧
      ((⟨2, 10, []⟩ : GroupsCache).replay sampleUses).Orderly sampleUses ∧
      EvictsInOrder 2 [⟨"ada", 10, ["staff"]⟩, ⟨"bob", 11, ["admin"]⟩, ⟨"cy", 12, []⟩]
        [⟨"bob", 11, ["admin"]⟩, ⟨"cy", 12, []⟩] := by
  have hclock : (sampleUses.map Prod.fst).Pairwise (· ≤ ·) := by decide +kernel
  obtain ⟨horderly, hevicts⟩ := orderly_replay (by decide : 0 ≤ (2 : Int)) 10 hclock
  have hthird := hevicts (sampleUses.take 3) 2 "cy" [] [] rfl
  have hwritten : enter 10 ((⟨2, 10, []⟩ : GroupsCache).replay (sampleUses.take 3)).entries
      (2, .record "cy" []) =
        [⟨"ada", 10, ["staff"]⟩, ⟨"bob", 11, ["admin"]⟩, ⟨"cy", 12, []⟩] := by decide +kernel
  have hkept : ((⟨2, 10, []⟩ : GroupsCache).replay
      (sampleUses.take 3 ++ [(2, .record "cy" [])])).entries =
        [⟨"bob", 11, ["admin"]⟩, ⟨"cy", 12, []⟩] := by decide +kernel
  rw [hwritten, hkept] at hthird
  exact ⟨by decide, hclock, horderly, hthird⟩

end GroupsCache

end LoginGate
