import Robumba.Search.SearchCache

/-!
# The early exits of the search

The search should return the first `search_limit` matches of the whole cache tree.  For
a limit of at least one, it does.  While the results found so far stay below the limit,
each loop keeps taking matches, and since a file adds at most one, a loop stops exactly
when the limit is reached.  So the page loop keeps a prefix of a node's page matches
(`searchPages_eq`), a node keeps a prefix of its matches (`searchNode_eq`), and the node
loop keeps a prefix of all of them (`searchNodes_eq`).  The route then returns
`allMatches.take search_limit` (`apiSearchCache_eq_take`).

A limit of zero or below breaks this: `index.mu` of the first node is tried before any
check, and its match is returned (`apiSearchCache_of_nonpos`).
-/

namespace Robumba.Search

variable {α : Type*}

/-- Taking `n` of a concatenation whose first part fits in `n`. -/
private theorem take_append_of_length_le {xs ys : List α} {n : ℕ} (h : xs.length ≤ n) :
    (xs ++ ys).take n = xs ++ ys.take (n - xs.length) := by
  rw [List.take_append_eq_append_take, List.take_of_length_le h]

/-! ## The page loop and one node -/

section Node

variable {matchFile : CacheFile → List α} {search_limit : ℤ} {found : ℕ}

/-- Past the limit, the page loop stops at once. -/
theorem searchPages_of_le (matchFile : CacheFile → List α) {node_results : List α}
    (pages : List CacheFile)
    (hstop : search_limit ≤ found + node_results.length) :
    searchPages matchFile search_limit found node_results pages = node_results := by
  cases pages <;> simp [searchPages, hstop]

/-- Below the limit, the page loop adds the page matches up to the limit. -/
theorem searchPages_eq (hone : ∀ page, (matchFile page).length ≤ 1) (pages : List CacheFile) :
    ∀ node_results : List α, found + node_results.length ≤ search_limit →
      searchPages matchFile search_limit found node_results pages =
        node_results ++
          (pages.flatMap matchFile).take (search_limit - found - node_results.length).toNat := by
  induction pages with
  | nil => simp [searchPages]
  | cons page pages ih =>
    intro node_results hbelow
    by_cases hstop : search_limit ≤ found + node_results.length
    · have hzero : (search_limit - found - node_results.length).toNat = 0 := by omega
      simp [searchPages, hstop, hzero]
    have hpage := hone page
    rw [searchPages, if_neg hstop, ih _ (by simp; omega), List.flatMap_cons,
      take_append_of_length_le (by omega), List.append_assoc]
    congr 3
    simp; omega

/-- Below the limit, a node gives its matches up to the limit. -/
theorem searchNode_eq (hone : ∀ file, (matchFile file).length ≤ 1) (node : NodeDir)
    (hbelow : found < search_limit) :
    searchNode matchFile node search_limit found =
      (node.files.flatMap matchFile).take (search_limit - found).toNat := by
  have hindex : (node.index.toList.flatMap matchFile).length ≤ 1 := by
    cases node.index <;> simp [hone]
  rw [searchNode, searchPages_eq hone _ _ (by omega), NodeDir.files, List.flatMap_append,
    take_append_of_length_le (by omega)]
  congr 3; omega

end Node

/-! ## The node loop -/

variable {matchFile : NodeDir → CacheFile → List α} {search_limit : ℤ}

/-- Below the limit, the node loop adds the matches of the remaining nodes up to the limit. -/
theorem searchNodes_eq (hone : ∀ node file, (matchFile node file).length ≤ 1)
    (nodes : List NodeDir) :
    ∀ results : List α, results.length < search_limit →
      searchNodes matchFile search_limit results nodes =
        results ++ (allMatches matchFile nodes).take (search_limit - results.length).toNat := by
  induction nodes with
  | nil => simp [searchNodes, allMatches]
  | cons node nodes ih =>
    intro results hbelow
    have hlength := List.length_take (search_limit - results.length).toNat
      (node.files.flatMap (matchFile node))
    simp only [searchNodes, searchNode_eq (hone node) node hbelow, allMatches, List.flatMap_cons,
      List.length_append, hlength]
    split
    · rename_i hstop
      rw [List.take_append_of_le_length (by omega)]
    · rename_i hgo
      rw [ih _ (by simp only [List.length_append, hlength]; omega),
        List.append_assoc, List.take_of_length_le (by omega), take_append_of_length_le (by omega)]
      congr 3
      simp only [List.length_append]; omega

/-- With a positive limit, the node loop returns the first `search_limit` matches. -/
theorem searchNodes_eq_take (hone : ∀ node file, (matchFile node file).length ≤ 1)
    (nodes : List NodeDir) (hlimit : 0 < search_limit) :
    searchNodes matchFile search_limit [] nodes =
      (allMatches matchFile nodes).take search_limit.toNat := by
  simpa using searchNodes_eq hone nodes [] (by simpa using hlimit)

/-- With a limit of zero or below, the node loop returns what the first `index.mu`
matches. -/
theorem searchNodes_of_nonpos (hlimit : search_limit ≤ 0) (node : NodeDir)
    (nodes : List NodeDir) :
    searchNodes matchFile search_limit [] (node :: nodes) =
      node.index.toList.flatMap (matchFile node) := by
  have hindex : search_limit ≤ (0 : ℕ) + (node.index.toList.flatMap (matchFile node)).length := by
    omega
  simp only [searchNodes, searchNode, List.length_nil,
    searchPages_of_le (matchFile node) node.pages hindex, List.nil_append]
  rw [if_pos (by omega)]

/-! ## The route -/

variable {rules : TextRules} {nodes : List NodeDir} {q mode : String}

/-- For a non-empty query and a positive limit, the search returns the first
`search_limit` matches of the cache tree, in order. -/
theorem apiSearchCache_eq_take (hquery : strip rules q ≠ "") (hlimit : 0 < search_limit) :
    apiSearchCache rules nodes q mode search_limit =
      (allMatches (nodeMatches rules (strip rules q) mode) nodes).take search_limit.toNat := by
  rw [apiSearchCache, if_neg hquery]
  exact searchNodes_eq_take (fun _ _ => matchContent_length_le_one ..) nodes hlimit

/-- One node whose `index.mu` holds the query. -/
def helloNode : NodeDir :=
  ⟨"n1", some "Alpha", none, some ⟨"index.mu", some "hello world"⟩, []⟩

theorem apiSearchCache_eq_take_hello :
    strip asciiText "hello" ≠ "" ∧ (0 : ℤ) < 1 ∧
      apiSearchCache asciiText [helloNode] "hello" "partial" 1 =
        (allMatches (nodeMatches asciiText (strip asciiText "hello") "partial") [helloNode]).take
          (1 : ℤ).toNat :=
  ⟨by decide, by decide, apiSearchCache_eq_take (by decide) (by decide)⟩

/-- For a non-empty query and a limit of zero or below, the search returns the match of
the first node's `index.mu`, if any. -/
theorem apiSearchCache_of_nonpos (hquery : strip rules q ≠ "") (hlimit : search_limit ≤ 0)
    (node : NodeDir) :
    apiSearchCache rules (node :: nodes) q mode search_limit =
      node.index.toList.flatMap (nodeMatches rules (strip rules q) mode node) := by
  rw [apiSearchCache, if_neg hquery]
  exact searchNodes_of_nonpos hlimit node nodes

/-- Under `search_limit = 0` the search still returns one result. -/
theorem apiSearchCache_limit_zero_returns_match :
    (apiSearchCache asciiText [helloNode] "hello" "partial" 0).length = 1 := by
  decide

end Robumba.Search
