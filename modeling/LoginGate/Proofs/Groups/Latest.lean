import LoginGate.Proofs.Groups.Replay

/-!
# The last record of a user

A cache keeps one entry for each user. The last record of a user puts an entry at the young end, and
each user who is recorded later puts one more behind it. So the entry goes when as many other users
have been recorded as the cache keeps entries, and not before. No clock is needed for this: entries
go by their places alone, and the expiry is looked at only by whoever asks.

## Main definitions

* `GroupsCache.Trails` : an entry stands before those of some other users, or they have driven it
  out.
* `GroupsCache.renewed` : entries in which that of a user has been written anew.

## Main results

* `GroupsCache.trails_replay` : so it is after the last record of a user.
* `GroupsCache.lookup_fst_replay` : what a lookup of the user answers then.
* `GroupsCache.lookup_fst_replay_of_not_mem` : what it answers of a user who was never recorded.
-/

namespace LoginGate

/-- The youngest of a list in which an element stands before some others. -/
theorem rtake_append_cons {α : Type} (older younger : List α) (a : α) (n : Nat) :
    (older ++ a :: younger).rtake n =
      if younger.length < n then older.rtake (n - (younger.length + 1)) ++ a :: younger
      else younger.rtake n := by
  rw [List.rtake, List.length_append, List.length_cons, List.drop_append]
  split_ifs with hlt
  · rw [List.rtake, show older.length + (younger.length + 1) - n - older.length = 0 by omega,
      List.drop_zero]
    congr 2
    omega
  · have hdrop : older.length + (younger.length + 1) - n - older.length =
        younger.length - n + 1 := by omega
    rw [hdrop, List.drop_succ_cons, List.drop_eq_nil_of_le (by omega), List.nil_append, List.rtake]

namespace GroupsCache

variable {cache : GroupsCache} {entry : GroupsEntry} {others : Finset String} {user : String}
  {now t : Rat} {groups : List String}

theorem replay_append (cache : GroupsCache) (uses uses' : List (Rat × GroupsUse)) :
    cache.replay (uses ++ uses') = (cache.replay uses).replay uses' :=
  List.foldl_append

/-- An entry is the only one of its user, and behind it stands one for each of some others, unless
they have filled the cache: then there is none of the user. -/
structure Trails (cache : GroupsCache) (entry : GroupsEntry) (others : Finset String) : Prop where
  kept : (others.card : Int) < cache.maxSize → ∃ older younger,
    cache.entries = older ++ entry :: younger ∧ entry.user ∉ older.map (·.user) ∧
      (younger.map (·.user)).Nodup ∧ (younger.map (·.user)).toFinset = others
  gone : cache.maxSize ≤ others.card → entry.user ∉ cache.users

/-- Entries of which the youngest are kept. -/
theorem trails_youngest {older younger : List GroupsEntry}
    (hentries : cache.entries = cache.youngest (older ++ entry :: younger))
    (holder : entry.user ∉ older.map (·.user)) (hyounger : entry.user ∉ younger.map (·.user))
    (hnodup : (younger.map (·.user)).Nodup) :
    cache.Trails entry (younger.map (·.user)).toFinset := by
  have hcard : (younger.map (·.user)).toFinset.card = younger.length := by
    rw [List.toFinset_card_of_nodup hnodup, List.length_map]
  rw [youngest_eq_rtake, rtake_append_cons] at hentries
  constructor
  · intro hlt
    rw [if_pos (by omega)] at hentries
    refine ⟨_, younger, hentries, fun hmem => holder ?_, hnodup, rfl⟩
    exact (List.drop_sublist ..).map _ |>.subset hmem
  · intro hle
    rw [if_neg (by omega)] at hentries
    rw [users, hentries]
    exact fun hmem => hyounger ((List.drop_sublist ..).map _ |>.subset hmem)

theorem trails_record (cache : GroupsCache) (t : Rat) (user : String) (groups : List String) :
    (cache.record t user groups).Trails ⟨user, t + cache.ttl, groups⟩ ∅ := by
  have hother : user ∉ (cache.without user).map (·.user) := by simp [without]
  exact @trails_youngest _ _ _ [] rfl hother List.not_mem_nil List.nodup_nil

/-- Entries in which that of a user is renewed: it goes from its place, and a last one comes. -/
def renewed (entries : List GroupsEntry) (last : GroupsEntry) : List GroupsEntry :=
  entries.filter (·.user ≠ last.user) ++ [last]

theorem mem_users_renewed_iff {entries : List GroupsEntry} {last : GroupsEntry} {name : String} :
    name ∈ (renewed entries last).map (·.user) ↔
      name = last.user ∨ name ∈ entries.map (·.user) := by
  by_cases hname : name = last.user
  · simp [renewed, hname]
  · simp only [renewed, List.map_append, List.mem_append, List.mem_map, List.mem_filter,
      List.map_cons, List.map_nil, List.mem_singleton, decide_eq_true_iff, hname, false_or,
      or_false]
    constructor
    · rintro ⟨other, ⟨hmem, -⟩, rfl⟩
      exact ⟨other, hmem, rfl⟩
    · rintro ⟨other, hmem, rfl⟩
      exact ⟨other, ⟨hmem, hname⟩, rfl⟩

theorem nodup_users_renewed {entries : List GroupsEntry} (last : GroupsEntry)
    (h : (entries.map (·.user)).Nodup) : ((renewed entries last).map (·.user)).Nodup := by
  rw [renewed, List.map_append]
  refine List.nodup_append.mpr
    ⟨h.sublist (List.filter_sublist.map _), List.nodup_singleton _, ?_⟩
  intro name hname other hother heq
  obtain ⟨found, hfound, rfl⟩ := List.mem_map.mp hname
  rw [List.mem_singleton.mp hother] at heq
  simp [heq] at hfound

/-- One more record of another user, where an entry has been kept up to it. -/
theorem Trails.record_of_lt (h : cache.Trails entry others) (hentry : entry.user ∉ others)
    (hne : entry.user ≠ user) (t : Rat) (groups : List String)
    (hlt : (others.card : Int) < cache.maxSize) :
    (cache.record t user groups).Trails entry (insert user others) := by
  obtain ⟨older, younger, hentries, holder, hnodup, rfl⟩ := h.kept hlt
  have hwritten : (cache.record t user groups).entries =
      (cache.record t user groups).youngest (older.filter (·.user ≠ user) ++
        entry :: renewed younger ⟨user, t + cache.ttl, groups⟩) := by
    simp [GroupsCache.record, renewed, youngest, without, hentries, hne]
  have hothers : insert user (younger.map (·.user)).toFinset =
      ((renewed younger ⟨user, t + cache.ttl, groups⟩).map (·.user)).toFinset := by
    ext name
    simp only [Finset.mem_insert, List.mem_toFinset, mem_users_renewed_iff]
  rw [hothers]
  refine trails_youngest hwritten ?_ ?_ (nodup_users_renewed _ hnodup)
  · exact fun hmem => holder ((List.filter_sublist.map _).subset hmem)
  · rw [mem_users_renewed_iff, not_or]
    exact ⟨hne, fun hmem => hentry (List.mem_toFinset.mpr hmem)⟩

/-- One more record of another user, where an entry has been driven out before. -/
theorem Trails.record_of_le (h : cache.Trails entry others) (hne : entry.user ≠ user) (t : Rat)
    (groups : List String) (hle : cache.maxSize ≤ others.card) :
    (cache.record t user groups).Trails entry (insert user others) := by
  have hcard := Finset.card_le_card (Finset.subset_insert user others)
  have hmany : (cache.record t user groups).maxSize ≤ (insert user others).card := by
    change cache.maxSize ≤ _
    omega
  refine ⟨fun hfew => absurd hfew (not_lt.mpr hmany), fun _ hmem => ?_⟩
  have hrenewed : entry.user ∈
      (renewed cache.entries ⟨user, t + cache.ttl, groups⟩).map (·.user) :=
    ((List.drop_sublist ..).map _).subset hmem
  exact (mem_users_renewed_iff.mp hrenewed).elim hne (h.gone hle)

/-- One more record of another user. -/
theorem Trails.record (h : cache.Trails entry others) (hentry : entry.user ∉ others)
    (hne : entry.user ≠ user) (t : Rat) (groups : List String) :
    (cache.record t user groups).Trails entry (insert user others) := by
  rcases lt_or_ge (others.card : Int) cache.maxSize with hlt | hle
  · exact h.record_of_lt hentry hne t groups hlt
  · exact h.record_of_le hne t groups hle

/-- What a lookup of its user answers. -/
theorem Trails.lookup_fst (h : cache.Trails entry others) (now : Rat) :
    (cache.lookup now entry.user).1 =
      if now < entry.expiry ∧ (others.card : Int) < cache.maxSize then entry.groups else [] := by
  by_cases hlt : (others.card : Int) < cache.maxSize
  · obtain ⟨older, younger, hentries, holder, -⟩ := h.kept hlt
    have hfound : cache.entryOf? entry.user = some entry := by
      have hnone : older.find? (·.user = entry.user) = none := by
        rw [List.find?_eq_none]
        intro other hother heq
        exact holder (List.mem_map.mpr ⟨other, hother, of_decide_eq_true heq⟩)
      rw [entryOf?, hentries, List.find?_append, hnone, Option.none_or]
      simp
    rw [lookup, hfound]
    by_cases hcounts : now < entry.expiry
    · simp [hcounts, not_le.mpr hcounts, hlt]
    · simp [hcounts, not_lt.mp hcounts]
  · have hnone : cache.entryOf? entry.user = none := by
      rw [entryOf?, List.find?_eq_none]
      intro other hother heq
      exact h.gone (not_lt.mp hlt) (List.mem_map.mpr ⟨other, hother, of_decide_eq_true heq⟩)
    rw [lookup, hnone, if_neg fun hcond => hlt hcond.2]

/-- After its last record, the entry of a user stands before those of the users recorded since. -/
theorem trails_replay (cache : GroupsCache) (before : List (Rat × GroupsUse)) (t : Rat)
    {user : String} (groups : List String) {after : List (Rat × GroupsUse)}
    (hrecords : ∀ use ∈ after, use.2.isRecord) (hlast : user ∉ recordedUsers after) :
    (cache.replay (before ++ (t, .record user groups) :: after)).Trails
      ⟨user, t + cache.ttl, groups⟩ (recordedUsers after).toFinset := by
  -- The induction is on the records from the end, since each of them acts on the cache so far.
  induction after using List.reverseRecOn with
  | nil =>
    have htrails := (cache.replay before).trails_record t user groups
    rw [replay_ttl] at htrails
    rw [replay_concat]
    exact htrails
  | append_singleton after use ih =>
    rw [recordedUsers_append, List.mem_append, not_or] at hlast
    have htrails := ih (fun other hmem => hrecords other (List.mem_append_left _ hmem)) hlast.1
    rw [← List.cons_append, ← List.append_assoc, replay_concat]
    rcases use with ⟨t', ⟨other, groups'⟩ | ⟨other⟩⟩
    · have hne : user ≠ other := by simpa using hlast.2
      have hothers : (recordedUsers (after ++ [(t', .record other groups')])).toFinset =
          insert other (recordedUsers after).toFinset := by
        ext name
        simp
      rw [hothers]
      exact htrails.record (by simpa using hlast.1) hne t' groups'
    · exact absurd (hrecords (t', .lookup other) (by simp)) (by simp)

/-- What a lookup of a user answers after its last record. -/
theorem lookup_fst_replay (cache : GroupsCache) (before : List (Rat × GroupsUse)) (t : Rat)
    {user : String} (groups : List String) {after : List (Rat × GroupsUse)}
    (hrecords : ∀ use ∈ after, use.2.isRecord) (hlast : user ∉ recordedUsers after) (now : Rat) :
    ((cache.replay (before ++ (t, .record user groups) :: after)).lookup now user).1 =
      if now < t + cache.ttl ∧ ((recordedUsers after).toFinset.card : Int) < cache.maxSize
      then groups else [] := by
  have hlookup := (cache.trails_replay before t groups hrecords hlast).lookup_fst now
  rwa [replay_maxSize] at hlookup

/-- Where a user has not been recorded, its entries are those that were there before. -/
theorem mem_entries_of_mem_replay {cache : GroupsCache} {uses : List (Rat × GroupsUse)}
    {entry : GroupsEntry} (hentry : entry ∈ (cache.replay uses).entries)
    (hnever : entry.user ∉ recordedUsers uses) : entry ∈ cache.entries := by
  induction uses using List.reverseRecOn with
  | nil => exact hentry
  | append_singleton uses use ih =>
    rw [recordedUsers_append, List.mem_append, not_or] at hnever
    rw [replay_concat] at hentry
    refine ih ?_ hnever.1
    rcases use with ⟨t, ⟨user, groups⟩ | ⟨user⟩⟩
    · have hmem : entry ∈ (cache.replay uses).without user ++
          [⟨user, t + (cache.replay uses).ttl, groups⟩] := List.mem_of_mem_drop hentry
      rcases List.mem_append.mp hmem with hmem | hmem
      · exact List.mem_of_mem_filter hmem
      · rw [List.mem_singleton.mp hmem] at hnever
        simp at hnever
    · rw [perform, lookup] at hentry
      split at hentry
      · exact hentry
      · split at hentry
        · exact List.mem_of_mem_filter hentry
        · exact hentry

/-- A lookup of a user who has not been recorded answers with an entry of before, or with none. -/
theorem lookup_fst_replay_of_not_mem {cache : GroupsCache} {uses : List (Rat × GroupsUse)}
    {user : String} (hnever : user ∉ recordedUsers uses) (now : Rat) :
    ((cache.replay uses).lookup now user).1 = [] ∨
      ∃ entry ∈ cache.entries, entry.user = user ∧
        ((cache.replay uses).lookup now user).1 = entry.groups := by
  rw [lookup]
  split
  · exact .inl rfl
  · rename_i entry hfound
    have huser : entry.user = user := by simpa using List.find?_some hfound
    split
    · exact .inl rfl
    · subst huser
      have hmem := mem_entries_of_mem_replay (List.mem_of_find?_eq_some hfound) hnever
      exact .inr ⟨entry, hmem, rfl, rfl⟩

end GroupsCache
end LoginGate
