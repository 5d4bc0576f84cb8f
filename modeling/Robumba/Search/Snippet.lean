import Mathlib.Data.List.Basic
import Mathlib.Data.Int.Defs
import Mathlib.Order.Basic

/-!
# The search snippet

`extract_snippet` in `routes.py` cuts a window of `context_length` characters around
the first case-insensitive occurrence of the query and highlights the query in it with
`re.sub`.  Strings are lists of code points.  The two Unicode tables the code relies
on, `str.lower` and the character equivalence of `re.IGNORECASE`, are fields of
`TextRules`, with the other Unicode-dependent text primitives of the search.  `asciiText`
is these restricted to ASCII text, where Python's tables agree with `Char.toLower`.

`re.sub` is modelled for the only pattern the code builds.  `re.escape` makes every
character of the query literal, so `({re.escape(query)})` matches the query itself, case
aside, and captures it as group 1.  The replacement is the raw string
`r"<mark>\\1</mark>"`, whose characters include two backslashes.  `re` reads `\\` in a
template as one literal backslash, so the template expands to the text `<mark>\1</mark>`
whatever was matched (`expandTemplate_markTemplate`).
-/

namespace Robumba.Search

/-- The Unicode-dependent text primitives of Python that the search reads. -/
structure TextRules where
  /-- `str.lower`. -/
  lower : List Char → List Char
  /-- Whether two characters match under `re.IGNORECASE`. -/
  sameIgnoringCase : Char → Char → Bool
  /-- `str.isspace` on one character, which `str.strip` removes. -/
  isSpace : Char → Bool
  /-- `re.compile(rf"\b{re.escape(query)}\b").search(text)` succeeds, for `query` then
  `text`. -/
  wordSearch : List Char → List Char → Bool

/-- Whether `pattern` matches at the start of `s`, character by character. -/
def matchesAt (same : Char → Char → Bool) : List Char → List Char → Bool
  | [], _ => true
  | _ :: _, [] => false
  | p :: ps, c :: cs => same p c && matchesAt same ps cs

/-- A `\b` boundary at position `j` of `text`: a word character on exactly one side,
for ASCII word characters. -/
def asciiBoundary (text : List Char) (j : ℕ) : Bool :=
  let isWord (i : ℕ) : Bool := (text.get? i).any fun c => c.isAlphanum || c == '_'
  (j != 0 && isWord (j - 1)) != isWord j

/-- `\b{word}\b` found in `text`, for ASCII text. -/
def asciiWordSearch (word text : List Char) : Bool :=
  (List.range (text.length + 1)).any fun i =>
    matchesAt (· == ·) word (text.drop i) && asciiBoundary text i &&
      asciiBoundary text (i + word.length)

/-- Python's text primitives on ASCII text. -/
def asciiText : TextRules where
  lower := List.map Char.toLower
  sameIgnoringCase a b := a.toLower == b.toLower
  isSpace := Char.isWhitespace
  wordSearch := asciiWordSearch

/-- `s.find(sub)` for a search starting at index `i`: the first index at which `sub`
starts, or `-1`. -/
def findFrom (sub : List Char) (i : ℕ) : List Char → ℤ
  | [] => if sub.isPrefixOf [] then i else -1
  | c :: rest => if sub.isPrefixOf (c :: rest) then i else findFrom sub (i + 1) rest

/-- Python's `s.find(sub)`. -/
def find (s sub : List Char) : ℤ := findFrom sub 0 s

/-- Python's `s[start:stop]` for non-negative bounds. -/
def slice (s : List Char) (start stop : ℕ) : List Char := (s.drop start).take (stop - start)

/-- The scan of `re.sub` for a non-empty literal pattern: at each position, a match is
replaced by `repl` of the matched text and the scan resumes after it (`skip` counts
the matched characters still to pass). -/
def subFrom (same : Char → Char → Bool) (pattern : List Char) (repl : List Char → List Char) :
    ℕ → List Char → List Char
  | _, [] => []
  | skip + 1, _ :: cs => subFrom same pattern repl skip cs
  | 0, c :: cs =>
    if matchesAt same pattern (c :: cs) then
      repl ((c :: cs).take pattern.length) ++ subFrom same pattern repl (pattern.length - 1) cs
    else c :: subFrom same pattern repl 0 cs

/-- `re.sub` with a literal pattern captured as group 1.  An empty pattern matches at
every position, the end included. -/
def reSub (same : Char → Char → Bool) (pattern : List Char) (repl : List Char → List Char)
    (s : List Char) : List Char :=
  if pattern = [] then repl [] ++ s.flatMap fun c => c :: repl []
  else subFrom same pattern repl 0 s

/-- Python's expansion of a replacement template for the escapes it may hold here:
`\\` is one backslash, `\1` is group 1, any other character is itself. -/
def expandTemplate : List Char → List Char → List Char
  | '\\' :: '\\' :: rest, group => '\\' :: expandTemplate rest group
  | '\\' :: '1' :: rest, group => group ++ expandTemplate rest group
  | c :: rest, group => c :: expandTemplate rest group
  | [], _ => []

/-- The raw string `r"<mark>\\1</mark>"` of the code. -/
def markTemplate : List Char := "<mark>\\\\1</mark>".data

/-- The template expands to `<mark>\1</mark>`, whatever the match. -/
theorem expandTemplate_markTemplate (group : List Char) :
    expandTemplate markTemplate group = "<mark>\\1</mark>".data := rfl

/-- `extract_snippet(content, query, context_length)`. -/
def extractSnippet (rules : TextRules) (content query : String) (context_length : ℕ := 150) :
    String :=
  let query_pos := find (rules.lower content.data) (rules.lower query.data)
  if query_pos = -1 then
    ⟨content.data.take context_length ++
      if content.length > context_length then "...".data else []⟩
  else
    let start := max 0 (query_pos - (context_length / 2 : ℕ))
    let stop := min (content.length : ℤ) (query_pos + query.length + (context_length / 2 : ℕ))
    let window := slice content.data start.toNat stop.toNat
    let snippet := if start > 0 then "...".data ++ window else window
    let snippet := if stop < content.length then snippet ++ "...".data else snippet
    ⟨reSub rules.sameIgnoringCase query.data (expandTemplate markTemplate) snippet⟩

/-- The query `a` found in the content `a`: the mark holds a backslash and a `1`, and the
`a` is gone.  With the query `.`, the ellipsis added before the window is highlighted
too. -/
theorem extractSnippet_marks_backslash_one :
    extractSnippet asciiText "a" "a" = "<mark>\\1</mark>" ∧
      extractSnippet asciiText "xxa." "." 0 =
        "<mark>\\1</mark><mark>\\1</mark><mark>\\1</mark><mark>\\1</mark>" := by
  decide

end Robumba.Search
