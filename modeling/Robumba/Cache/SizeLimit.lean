import Mathlib

/-!
# Enforcing the cache size limit

`CacheManager.enforce_size_limit` in `cache.py` scans the node directories of the
cache, sums their sizes, and, when the total exceeds `size_limit_mb` megabytes, walks
the directories oldest first, calling `shutil.rmtree` on each until the running total
is within the limit.  A removal that raises is caught and logged, and the walk goes on
with the next directory.

The scan is the list of `CacheEntry`s in directory order.  An unparsable
`cached_at.txt` has already been replaced by the time of the scan.  The outcome of each
`shutil.rmtree` call is an oracle `rmtree : CacheEntry → Bool`: `true` when the tree
is removed, `false` when the call raises.  The result is the list of attempted removals
with their outcomes, which is what the loop prints.

`removeOldest_spec` describes a whole run of the loop from any state: it attempts a
prefix of the remaining entries.  That prefix is the shortest one after which the total
is within the limit, or the whole list.
-/

namespace Robumba.Cache

/-- A node directory as `enforce_size_limit` records it: path, summed file size, and
cached-at time. -/
structure CacheEntry where
  path : String
  size : ℕ
  time : ℕ
  deriving DecidableEq, Repr

/-- The order of `cache_entries.sort(key=lambda item: item["time"])`. -/
def cachedNoLater (a b : CacheEntry) : Prop := a.time ≤ b.time

instance : DecidableRel cachedNoLater := fun a b => inferInstanceAs (Decidable (a.time ≤ b.time))

instance : IsTotal CacheEntry cachedNoLater := ⟨fun a b => le_total a.time b.time⟩

instance : IsTrans CacheEntry cachedNoLater := ⟨fun _ _ _ => le_trans⟩

/-- The sorted entries.  Python's `list.sort` is stable and so is insertion sort, so both
give the same list. -/
def sortByTime (entries : List CacheEntry) : List CacheEntry :=
  entries.insertionSort cachedNoLater

theorem sortByTime_sorted (entries : List CacheEntry) :
    (sortByTime entries).Sorted cachedNoLater :=
  List.sorted_insertionSort _ _

theorem sortByTime_perm (entries : List CacheEntry) : (sortByTime entries).Perm entries :=
  List.perm_insertionSort _ _

/-- The summed size of a list of entries: the `total_size` of the scan. -/
def totalSize (entries : List CacheEntry) : ℕ :=
  (entries.map CacheEntry.size).sum

/-- The size of the entries of `entries` whose removal succeeds. -/
def removedSize (rmtree : CacheEntry → Bool) (entries : List CacheEntry) : ℕ :=
  totalSize (entries.filter rmtree)

@[simp] theorem removedSize_nil (rmtree : CacheEntry → Bool) : removedSize rmtree [] = 0 := rfl

theorem removedSize_cons (rmtree : CacheEntry → Bool) (entry : CacheEntry)
    (entries : List CacheEntry) :
    removedSize rmtree (entry :: entries) =
      removedSize rmtree [entry] + removedSize rmtree entries := by
  cases h : rmtree entry <;> simp [removedSize, totalSize, List.filter_cons, h]

/-- The size of the successful removals in a log of attempts. -/
def removedBytes (attempts : List (CacheEntry × Bool)) : ℕ :=
  ((attempts.filter Prod.snd).map (fun attempt => attempt.1.size)).sum

theorem removedBytes_map (rmtree : CacheEntry → Bool) (entries : List CacheEntry) :
    removedBytes (entries.map fun entry => (entry, rmtree entry)) = removedSize rmtree entries := by
  induction entries with
  | nil => rfl
  | cons entry entries ih =>
    rw [removedSize_cons]
    cases h : rmtree entry <;>
      simp_all [removedBytes, removedSize, totalSize, List.filter_cons]

/-! ## The removal loop -/

/-- The loop state: `total_size`, and the removals attempted so far with their outcomes. -/
structure Sweep where
  total_size : ℤ
  attempts : List (CacheEntry × Bool)

/-- The body of the loop past its `break` test: `shutil.rmtree`, then
`total_size -= entry["size"]` only if it did not raise. -/
def removeEntry (rmtree : CacheEntry → Bool) (s : Sweep) (entry : CacheEntry) : Sweep :=
  if rmtree entry then ⟨s.total_size - entry.size, s.attempts ++ [(entry, true)]⟩
  else ⟨s.total_size, s.attempts ++ [(entry, false)]⟩

theorem removeEntry_eq (rmtree : CacheEntry → Bool) (s : Sweep) (entry : CacheEntry) :
    removeEntry rmtree s entry =
      ⟨s.total_size - removedSize rmtree [entry], s.attempts ++ [(entry, rmtree entry)]⟩ := by
  cases h : rmtree entry <;> simp [removeEntry, removedSize, totalSize, List.filter_cons, h]

/-- `for entry in cache_entries: if total_size <= size_limit_bytes: break; ...` -/
def removeOldest (size_limit_bytes : ℤ) (rmtree : CacheEntry → Bool) :
    Sweep → List CacheEntry → Sweep
  | s, [] => s
  | s, entry :: rest =>
    if s.total_size ≤ size_limit_bytes then s
    else removeOldest size_limit_bytes rmtree (removeEntry rmtree s entry) rest

/-- `size_limit_mb * 1024 * 1024`. -/
def sizeLimitBytes (size_limit_mb : ℤ) : ℤ := size_limit_mb * 1024 * 1024

/-- `CacheManager.enforce_size_limit`, returning the attempted removals with the outcome
of each.  A missing cache directory is a scan with no entries. -/
def enforceSizeLimit (size_limit_mb : ℤ) (entries : List CacheEntry)
    (rmtree : CacheEntry → Bool) : List (CacheEntry × Bool) :=
  if size_limit_mb = -1 then []
  else if (totalSize entries : ℤ) ≤ sizeLimitBytes size_limit_mb then []
  else
    (removeOldest (sizeLimitBytes size_limit_mb) rmtree ⟨totalSize entries, []⟩
      (sortByTime entries)).attempts

/-! ## A whole run of the loop -/

/-- A run of the loop from any state attempts a prefix `entries.take k`.  Each earlier
prefix leaves the total above the limit.  After `entries.take k` the total is within
the limit, or `k` covers every entry. -/
theorem removeOldest_spec (size_limit_bytes : ℤ) (rmtree : CacheEntry → Bool) (s : Sweep)
    (entries : List CacheEntry) :
    ∃ k ≤ entries.length,
      removeOldest size_limit_bytes rmtree s entries =
        ⟨s.total_size - removedSize rmtree (entries.take k),
          s.attempts ++ (entries.take k).map fun entry => (entry, rmtree entry)⟩ ∧
      (∀ j < k, size_limit_bytes < s.total_size - removedSize rmtree (entries.take j)) ∧
      (s.total_size - removedSize rmtree (entries.take k) ≤ size_limit_bytes ∨
        k = entries.length) := by
  induction entries generalizing s with
  | nil => exact ⟨0, le_rfl, by cases s; simp [removeOldest], fun j hj => absurd hj j.not_lt_zero,
      .inr rfl⟩
  | cons entry rest ih =>
    by_cases hdone : s.total_size ≤ size_limit_bytes
    · exact ⟨0, Nat.zero_le _, by simp [removeOldest, hdone], fun j hj => absurd hj j.not_lt_zero,
        .inl (by simpa using hdone)⟩
    obtain ⟨k, hk, hrun, hbefore, hafter⟩ := ih (removeEntry rmtree s entry)
    rw [removeEntry_eq] at hrun hbefore hafter
    dsimp only at hbefore hafter
    have htake : ∀ j, removedSize rmtree ((entry :: rest).take (j + 1)) =
        removedSize rmtree [entry] + removedSize rmtree (rest.take j) := fun j => by
      rw [List.take_succ_cons, removedSize_cons]
    refine ⟨k + 1, by simpa using hk, ?_, ?_, ?_⟩
    · rw [removeOldest, if_neg hdone, removeEntry_eq, hrun, htake]
      simp only [List.take_succ_cons, List.map_cons, List.append_assoc, List.singleton_append,
        Nat.cast_add]
      congr 1; omega
    · intro j hj
      cases j with
      | zero => simpa using hdone
      | succ j =>
        have hbelow := hbefore j (by omega)
        rw [htake]; omega
    · rw [htake, List.length_cons]
      exact hafter.imp (fun h => by omega) (fun h => by omega)

end Robumba.Cache
