import Robumba.Search.Snippet
import Mathlib.Data.Rat.Defs

/-!
# The cache search

`api_search_cache` walks the node directories of the cache and, in each,
`_search_node_cache` tries `index.mu` and then every `pages/*.mu` with
`_match_content`, which yields at most one result per file.  Two early exits bound the
results by `search_limit`.  The page loop stops before a page once the results found so
far reach the limit, and the node loop stops after a node once they do.  `index.mu` is
tried with no check.

The loops are written for any file matcher `matchFile`, so that what they keep and drop
can be stated apart from what a match is.  `apiSearchCache` instantiates them with
`matchContent`.  A node directory is read as `NodeDir`; reading `node_name.txt` as UTF-8
is assumed to succeed.
-/

namespace Robumba.Search

/-! ## The cache tree -/

/-- A `.mu` file: its name, and its text, or `none` when `read_text` raises. -/
structure CacheFile where
  name : String
  content : Option String
  deriving DecidableEq, Repr

/-- A parsed `cached_at.txt`: the time formatted by `strftime`, and its age in seconds. -/
structure CachedAt where
  formatted : String
  ageSeconds : ℚ
  deriving DecidableEq, Repr

/-- A node directory: its name (the node hash), `node_name.txt` when it exists,
`cached_at.txt` when it exists and parses, `index.mu` when it exists, and the
`pages/*.mu` files in glob order, none when `pages/` is missing. -/
structure NodeDir where
  name : String
  nodeName : Option String
  cachedAt : Option CachedAt
  index : Option CacheFile
  pages : List CacheFile
  deriving DecidableEq, Repr

/-- The files of a node in the order the search tries them. -/
def NodeDir.files (node : NodeDir) : List CacheFile :=
  node.index.toList ++ node.pages

/-- One search result, with the keys of the JSON object. -/
structure SearchResult where
  nodeHash : String
  nodeName : String
  snippet : String
  url : String
  pageName : String
  pagePath : String
  cachedAt : String
  cacheStatus : String
  cacheAgeDays : Option ℚ
  deriving DecidableEq, Repr

/-! ## Matching one file -/

/-- `_calculate_cache_status`. -/
def calculateCacheStatus (time_since_cache_seconds : ℚ) : String :=
  let cache_age_days := time_since_cache_seconds / 86400
  if cache_age_days ≤ 3 then "fresh"
  else if cache_age_days ≤ 10 then "good"
  else if cache_age_days ≤ 20 then "moderate"
  else "old"

/-- The node fields `_search_node_cache` computes once for all its files. -/
structure NodeInfo where
  nodeName : String
  cachedAt : String
  cacheStatus : String
  cacheAgeDays : Option ℚ

/-- The node fields, with the defaults `"Unknown Node"`, `"Unknown"`, `"unknown"` and
`None`. -/
def nodeInfo (node : NodeDir) : NodeInfo where
  nodeName := node.nodeName.getD "Unknown Node"
  cachedAt := (node.cachedAt.map CachedAt.formatted).getD "Unknown"
  cacheStatus := (node.cachedAt.map fun c => calculateCacheStatus c.ageSeconds).getD "unknown"
  cacheAgeDays := node.cachedAt.map fun c => c.ageSeconds / 86400

/-- Python's `sub in s` on strings. -/
def isIn (sub s : List Char) : Bool := find s sub != -1

/-- `_match_content`: no result for an unreadable file or a file that misses the query,
else one result, its snippet prefixed when the node name matches too. -/
def matchContent (rules : TextRules) (file : CacheFile) (node_hash : String) (info : NodeInfo)
    (query mode : String) : List SearchResult :=
  match file.content with
  | none => []
  | some content =>
    let query_lc := rules.lower query.data
    let node_name_lc := rules.lower info.nodeName.data
    let found :=
      if mode = "exact" then
        rules.wordSearch query.data content.data || rules.wordSearch query.data info.nodeName.data
      else isIn query_lc (rules.lower content.data) || isIn query_lc node_name_lc
    if !found then []
    else
      let snippet := extractSnippet rules content query
      let name_hit :=
        if mode = "exact" then isIn query.data info.nodeName.data else isIn query_lc node_name_lc
      let snippet :=
        if name_hit then "Node name match (" ++ mode ++ "): " ++ info.nodeName ++ "\n\n" ++ snippet
        else snippet
      let page_path := if file.name = "index.mu" then "/page/index.mu" else "/page/" ++ file.name
      [{ nodeHash := node_hash, nodeName := info.nodeName, snippet := snippet,
         url := node_hash ++ ":" ++ page_path, pageName := file.name, pagePath := page_path,
         cachedAt := info.cachedAt, cacheStatus := info.cacheStatus,
         cacheAgeDays := info.cacheAgeDays }]

theorem matchContent_length_le_one (rules : TextRules) (file : CacheFile) (node_hash : String)
    (info : NodeInfo) (query mode : String) :
    (matchContent rules file node_hash info query mode).length ≤ 1 := by
  unfold matchContent
  split
  · simp
  · dsimp only
    split <;> split <;> simp

/-! ## The loops -/

variable {α : Type*}

/-- The page loop of `_search_node_cache`, `found` being `len(results)`:
`if len(results) + len(node_results) >= search_limit: break`. -/
def searchPages (matchFile : CacheFile → List α) (search_limit : ℤ) (found : ℕ) :
    List α → List CacheFile → List α
  | node_results, [] => node_results
  | node_results, page :: pages =>
    if search_limit ≤ found + node_results.length then node_results
    else searchPages matchFile search_limit found (node_results ++ matchFile page) pages

/-- `_search_node_cache` for a file matcher: `index.mu`, then the page loop. -/
def searchNode (matchFile : CacheFile → List α) (node : NodeDir) (search_limit : ℤ)
    (found : ℕ) : List α :=
  searchPages matchFile search_limit found (node.index.toList.flatMap matchFile) node.pages

/-- The node loop of `api_search_cache`:
`results.extend(node_result)`, then `if len(results) >= search_limit: break`. -/
def searchNodes (matchFile : NodeDir → CacheFile → List α) (search_limit : ℤ) :
    List α → List NodeDir → List α
  | results, [] => results
  | results, node :: nodes =>
    let results := results ++ searchNode (matchFile node) node search_limit results.length
    if search_limit ≤ results.length then results
    else searchNodes matchFile search_limit results nodes

/-- Every match of a cache tree, node by node, `index.mu` before the pages. -/
def allMatches (matchFile : NodeDir → CacheFile → List α) (nodes : List NodeDir) : List α :=
  nodes.flatMap fun node => node.files.flatMap (matchFile node)

/-! ## The route -/

/-- `query.strip()`. -/
def strip (rules : TextRules) (s : String) : String :=
  ⟨((s.data.dropWhile rules.isSpace).reverse.dropWhile rules.isSpace).reverse⟩

/-- A text whose first and last characters are not whitespace is its own `strip()`. -/
theorem strip_of_ends (rules : TextRules) {s : String}
    (hhead : ∀ c ∈ s.data.head?, rules.isSpace c = false)
    (hlast : ∀ c ∈ s.data.getLast?, rules.isSpace c = false) : strip rules s = s := by
  have hkeep : ∀ l : List Char, (∀ c ∈ l.head?, rules.isSpace c = false) →
      l.dropWhile rules.isSpace = l := by
    rintro (_ | ⟨c, l⟩) h
    · rfl
    · simp [List.dropWhile_cons, h c rfl]
  rw [strip, hkeep s.data hhead, hkeep s.data.reverse (by rwa [List.head?_reverse]),
    List.reverse_reverse]

/-- `_match_content` as the search calls it, for one node. -/
def nodeMatches (rules : TextRules) (query mode : String) (node : NodeDir) (file : CacheFile) :
    List SearchResult :=
  matchContent rules file node.name (nodeInfo node) query mode

/-- `api_search_cache` over the node directories `nodes`, for the arguments `q` and `mode`
and the setting `search_limit`. -/
def apiSearchCache (rules : TextRules) (nodes : List NodeDir) (q mode : String)
    (search_limit : ℤ) : List SearchResult :=
  let query := strip rules q
  if query = "" then [] else searchNodes (nodeMatches rules query mode) search_limit [] nodes

end Robumba.Search
