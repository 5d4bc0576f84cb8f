import Robumba.Cache.SizeLimit

/-!
# Which cache entries `enforce_size_limit` removes

For a limit `size_limit_mb ≥ 0`, `enforceSizeLimit_oldest_prefix` pins down the attempted
removals.  Let `k` be the number of attempts.  The attempts are `rmtree` on the first
`k` entries sorted by cached-at time.  Each shorter prefix leaves more than the limit in
the entries not successfully removed.  After the first `k` entries the rest is within
the limit, or no entry is left.  Along the loop, `total_size` is the scan's total minus
the bytes removed so far.

The order holds only among the entries the loop never reached: an entry whose removal
raised stays behind, and younger entries after it may still be removed
(`olderFails_survivor_older`).
-/

namespace Robumba.Cache

variable {rmtree : CacheEntry → Bool}

theorem removedBytes_append (attempts more : List (CacheEntry × Bool)) :
    removedBytes (attempts ++ more) = removedBytes attempts + removedBytes more := by
  simp [removedBytes, List.filter_append]

/-- Along the loop, `total_size` is the scan's total less the bytes removed so far. -/
theorem removeOldest_total_size {size_limit_bytes : ℤ} {total : ℕ} {s : Sweep}
    (hs : s.total_size = total - removedBytes s.attempts) (entries : List CacheEntry) :
    (removeOldest size_limit_bytes rmtree s entries).total_size =
      total - removedBytes (removeOldest size_limit_bytes rmtree s entries).attempts := by
  obtain ⟨k, -, hrun, -, -⟩ := removeOldest_spec size_limit_bytes rmtree s entries
  simp only [hrun, removedBytes_append, removedBytes_map, hs]
  omega

variable {size_limit_mb : ℤ}

/-- `enforceSizeLimit` with a non-negative limit is one run of the loop, over the sorted
entries from the scan's total, or no attempt at all when the total is within the limit. -/
theorem enforceSizeLimit_spec (hlimit : 0 ≤ size_limit_mb) (entries : List CacheEntry)
    (rmtree : CacheEntry → Bool) :
    ∃ k ≤ entries.length,
      enforceSizeLimit size_limit_mb entries rmtree =
        ((sortByTime entries).take k).map (fun entry => (entry, rmtree entry)) ∧
      (∀ j < k, sizeLimitBytes size_limit_mb <
        totalSize entries - removedSize rmtree ((sortByTime entries).take j)) ∧
      (totalSize entries - removedSize rmtree ((sortByTime entries).take k) ≤
        sizeLimitBytes size_limit_mb ∨ k = entries.length) := by
  have hne : size_limit_mb ≠ -1 := by omega
  by_cases hwithin : (totalSize entries : ℤ) ≤ sizeLimitBytes size_limit_mb
  · exact ⟨0, Nat.zero_le _, by simp [enforceSizeLimit, hne, hwithin],
      fun j hj => absurd hj j.not_lt_zero, .inl (by simpa using hwithin)⟩
  obtain ⟨k, hk, hrun, hbefore, hafter⟩ := removeOldest_spec (sizeLimitBytes size_limit_mb)
    rmtree ⟨totalSize entries, []⟩ (sortByTime entries)
  rw [(sortByTime_perm entries).length_eq] at hk hafter
  exact ⟨k, hk, by simp [enforceSizeLimit, hne, hwithin, hrun], hbefore, hafter⟩

/-- When every removal succeeds, what is left is within the limit. -/
theorem within_limit_of_all_removed (hlimit : 0 ≤ size_limit_mb) {entries : List CacheEntry}
    (hall : ∀ entry ∈ entries, rmtree entry = true) :
    (totalSize entries : ℤ) - removedBytes (enforceSizeLimit size_limit_mb entries rmtree) ≤
      sizeLimitBytes size_limit_mb := by
  obtain ⟨k, -, hrun, -, hafter⟩ := enforceSizeLimit_spec hlimit entries rmtree
  rw [hrun, removedBytes_map]
  rcases hafter with h | rfl
  · exact h
  · have hsorted : (sortByTime entries).filter rmtree = sortByTime entries :=
      List.filter_eq_self.mpr fun entry h => hall entry ((sortByTime_perm entries).subset h)
    have hsum : removedSize rmtree (sortByTime entries) = totalSize entries := by
      rw [removedSize, hsorted, totalSize, totalSize, ((sortByTime_perm entries).map _).sum_eq]
    rw [← (sortByTime_perm entries).length_eq, List.take_length, hsum, sub_self]
    unfold sizeLimitBytes; omega

/-- The attempts are `rmtree` on a prefix of the entries sorted by time, so no entry the
loop never reached is strictly older than an attempted one. -/
theorem unreached_not_older (hlimit : 0 ≤ size_limit_mb) (entries : List CacheEntry)
    (rmtree : CacheEntry → Bool) :
    ∀ entry ∈ (sortByTime entries).drop (enforceSizeLimit size_limit_mb entries rmtree).length,
      ∀ attempt ∈ enforceSizeLimit size_limit_mb entries rmtree, ¬ entry.time < attempt.1.time := by
  obtain ⟨k, hk, hrun, -, -⟩ := enforceSizeLimit_spec hlimit entries rmtree
  have hk' : k ≤ (sortByTime entries).length := by rwa [(sortByTime_perm entries).length_eq]
  intro entry hentry attempt hattempt
  rw [hrun, List.length_map, List.length_take, min_eq_left hk'] at hentry
  rw [hrun] at hattempt
  obtain ⟨reached, hreached, rfl⟩ := List.mem_map.mp hattempt
  exact not_lt.mpr ((sortByTime_sorted entries).rel_of_mem_take_of_mem_drop hreached hentry)

/-! ## The removals, all at once -/

/-- What `enforce_size_limit` does with a scan `entries`, a limit and the outcomes of
`rmtree`.  `total_tracks` is the loop invariant, stated for the state after every number
of iterations. -/
structure OldestFirstRemoval (size_limit_mb : ℤ) (entries : List CacheEntry)
    (rmtree : CacheEntry → Bool) : Prop where
  attempts_prefix :
    enforceSizeLimit size_limit_mb entries rmtree =
      ((sortByTime entries).take (enforceSizeLimit size_limit_mb entries rmtree).length).map
        fun entry => (entry, rmtree entry)
  above_before : ∀ j < (enforceSizeLimit size_limit_mb entries rmtree).length,
    sizeLimitBytes size_limit_mb <
      totalSize entries - removedSize rmtree ((sortByTime entries).take j)
  within_after :
    totalSize entries - removedSize rmtree
        ((sortByTime entries).take (enforceSizeLimit size_limit_mb entries rmtree).length) ≤
      sizeLimitBytes size_limit_mb ∨
    (enforceSizeLimit size_limit_mb entries rmtree).length = entries.length
  total_tracks : ∀ j,
    (removeOldest (sizeLimitBytes size_limit_mb) rmtree ⟨totalSize entries, []⟩
        ((sortByTime entries).take j)).total_size =
      totalSize entries - removedBytes (removeOldest (sizeLimitBytes size_limit_mb) rmtree
        ⟨totalSize entries, []⟩ ((sortByTime entries).take j)).attempts
  none_within : (totalSize entries : ℤ) ≤ sizeLimitBytes size_limit_mb →
    enforceSizeLimit size_limit_mb entries rmtree = []
  within_of_all_removed : (∀ entry ∈ entries, rmtree entry = true) →
    (totalSize entries : ℤ) - removedBytes (enforceSizeLimit size_limit_mb entries rmtree) ≤
      sizeLimitBytes size_limit_mb
  unreached_not_older :
    ∀ entry ∈ (sortByTime entries).drop (enforceSizeLimit size_limit_mb entries rmtree).length,
      ∀ attempt ∈ enforceSizeLimit size_limit_mb entries rmtree, ¬ entry.time < attempt.1.time

theorem enforceSizeLimit_oldest_prefix (hlimit : 0 ≤ size_limit_mb) (entries : List CacheEntry)
    (rmtree : CacheEntry → Bool) : OldestFirstRemoval size_limit_mb entries rmtree := by
  obtain ⟨k, hk, hrun, hbefore, hafter⟩ := enforceSizeLimit_spec hlimit entries rmtree
  have hlen : (enforceSizeLimit size_limit_mb entries rmtree).length = k := by
    rw [hrun, List.length_map, List.length_take, (sortByTime_perm entries).length_eq,
      min_eq_left hk]
  refine ⟨?_, ?_, ?_, fun j => removeOldest_total_size (by simp [removedBytes]) _,
    fun hwithin => ?_,
    within_limit_of_all_removed hlimit, unreached_not_older hlimit entries rmtree⟩
  · rw [hlen]; exact hrun
  · rw [hlen]; exact hbefore
  · rw [hlen]; exact hafter
  · simp [enforceSizeLimit, show size_limit_mb ≠ -1 by omega, hwithin]

/-- Two one-byte directories, a zero limit, and a removal of the older one that raises. -/
def olderFails : List CacheEntry := [⟨"old", 1, 1⟩, ⟨"new", 1, 2⟩]

theorem enforceSizeLimit_oldest_prefix_olderFails :
    0 ≤ (0 : ℤ) ∧ OldestFirstRemoval 0 olderFails fun entry => entry.path = "new" :=
  ⟨le_rfl, enforceSizeLimit_oldest_prefix le_rfl _ _⟩

/-- The older directory survives, since its removal raised, and the younger one is
removed. -/
theorem olderFails_survivor_older :
    let removed := ((enforceSizeLimit 0 olderFails fun entry => entry.path = "new").filter
      Prod.snd).map Prod.fst
    ¬ ∀ entry ∈ olderFails, entry ∉ removed → ∀ other ∈ removed, ¬ entry.time < other.time := by
  decide

/-! ## A limit below `-1`

`update_size_limit` stores any value, and only `-1` turns the check off.  Below it the
limit in bytes is negative, so no total is ever within it. -/

/-- The bytes removed from any prefix of the sorted entries are at most the scan's total. -/
theorem removedSize_take_le (rmtree : CacheEntry → Bool) (entries : List CacheEntry) (k : ℕ) :
    removedSize rmtree ((sortByTime entries).take k) ≤ totalSize entries := by
  calc removedSize rmtree ((sortByTime entries).take k)
      ≤ totalSize (sortByTime entries) :=
        (((List.filter_sublist _).trans (List.take_sublist _ _)).map _).sum_le_sum
          fun _ _ => Nat.zero_le _
    _ = totalSize entries := ((sortByTime_perm entries).map _).sum_eq

/-- With a limit below `-1`, `enforce_size_limit` tries to remove every cache entry,
oldest first, whatever the sizes. -/
theorem enforceSizeLimit_of_lt_neg_one (hlimit : size_limit_mb < -1) (entries : List CacheEntry)
    (rmtree : CacheEntry → Bool) :
    enforceSizeLimit size_limit_mb entries rmtree =
      (sortByTime entries).map fun entry => (entry, rmtree entry) := by
  have hne : size_limit_mb ≠ -1 := by omega
  have hneg : sizeLimitBytes size_limit_mb < 0 := by unfold sizeLimitBytes; omega
  have hover : ¬ (totalSize entries : ℤ) ≤ sizeLimitBytes size_limit_mb := by omega
  obtain ⟨k, -, hrun, -, hafter⟩ := removeOldest_spec (sizeLimitBytes size_limit_mb)
    rmtree ⟨totalSize entries, []⟩ (sortByTime entries)
  have hall : k = (sortByTime entries).length :=
    hafter.resolve_left fun h => by
      have := removedSize_take_le rmtree entries k
      dsimp only at h
      omega
  simp [enforceSizeLimit, hne, hover, hrun, hall]

theorem enforceSizeLimit_of_lt_neg_one_olderFails :
    (-2 : ℤ) < -1 ∧ enforceSizeLimit (-2) olderFails (fun _ => true) =
      (sortByTime olderFails).map fun entry => (entry, true) :=
  ⟨by decide, enforceSizeLimit_of_lt_neg_one (by decide) olderFails _⟩

end Robumba.Cache
