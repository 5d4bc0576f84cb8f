import Robumba.Cache.SinglePage
import Robumba.Search.SearchCache
import Robumba.Format

/-!
# The time in `cached_at.txt`

`_write_cache_files` writes `str(datetime.now())` into a node's `cached_at.txt`, and three
readers take it back with `datetime.fromisoformat` after `strip()`.
`cleanup_expired_cache` compares it with a cutoff.  `api_check_cache_status` and
`_search_node_cache` format it with `strftime` and take its age.

A naive `datetime` is its seven fields.  `DateTime` keeps them in the ranges its
constructor checks.  `DateTime.isoformat` is `isoformat(sep)`, of which `str()` is the case
`sep = " "`.  `fromisoformat` reads the grammar that the documentation of Python 3.7 to 3.10
gives for `datetime.fromisoformat`; later versions accept more texts, and every version
reads what `isoformat` writes the same way.  `DateTime.micros` counts microseconds from
`datetime.min`, which is what subtracting two times counts.

* Whatever the separator, what `isoformat` writes reads back as the same naive time
  (`fromisoformat_isoformat`), and `strip()` leaves it as it is (`strip_isoformat`).
* So for a node whose `cached_at.txt` holds `str(t)`, as `cache_single_page` leaves it
  (`cachedAt_of_write`), `api_check_cache_status` answers with the age of `t`
  (`apiCheckCacheStatus_of_cachedAt`).
* `cleanup_expired_cache` compares each node's time with its cutoff outside its `try`: an
  aware time, which `fromisoformat` reads from a text with an offset, raises `TypeError`
  there and ends the cleanup (`CleanupRun.raised`).  Every directory it removes was listed
  and expired (`mem_cleanupLoop`), and it removes every expired one listed before the
  first aware time (`cleanupLoop_removes`).  So the cleanup after a page was written
  at `t` removes it exactly when `t` lies before the cutoff, as long as no aware time is
  listed before it (`cleanup_removes_written_iff`).
-/

namespace Robumba.Cache

open Robumba.Search (TextRules strip calculateCacheStatus)
open Robumba.Fetch (PageResponse)
open Function (update)

/-! ## The calendar -/

/-- `_is_leap`. -/
def isLeap (year : ℕ) : Bool := year % 4 == 0 && (year % 100 != 0 || year % 400 == 0)

/-- `_days_in_month`. -/
def daysInMonth (year month : ℕ) : ℕ :=
  if month = 2 ∧ isLeap year then 29
  else [31, 28, 31, 30, 31, 30, 31, 31, 30, 31, 30, 31].getD (month - 1) 0

/-- `_days_before_month`. -/
def daysBeforeMonth (year month : ℕ) : ℕ :=
  [0, 31, 59, 90, 120, 151, 181, 212, 243, 273, 304, 334].getD (month - 1) 0 +
    if 2 < month ∧ isLeap year then 1 else 0

/-- `_days_before_year`. -/
def daysBeforeYear (year : ℕ) : ℕ :=
  let y := year - 1
  y * 365 + y / 4 - y / 100 + y / 400

/-- `_ymd2ord`: the number of a day, `datetime.min` being day 1. -/
def ymd2ord (year month day : ℕ) : ℕ :=
  daysBeforeYear year + daysBeforeMonth year month + day

/-- The fields of a naive `datetime`. -/
structure Stamp where
  year : ℕ
  month : ℕ
  day : ℕ
  hour : ℕ
  minute : ℕ
  second : ℕ
  microsecond : ℕ
  deriving DecidableEq, Repr

/-- The checks of `_check_date_fields` and `_check_time_fields`. -/
def Stamp.valid (s : Stamp) : Bool :=
  1 ≤ s.year && s.year ≤ 9999 && 1 ≤ s.month && s.month ≤ 12 && 1 ≤ s.day &&
    s.day ≤ daysInMonth s.year s.month && s.hour < 24 && s.minute < 60 && s.second < 60 &&
    s.microsecond < 1000000

/-- A naive `datetime`: fields that pass the constructor's checks. -/
@[ext] structure DateTime where
  stamp : Stamp
  valid : stamp.valid = true

instance : DecidableEq DateTime := fun a b =>
  decidable_of_iff (a.stamp = b.stamp) DateTime.ext_iff.symm

theorem daysInMonth_le (year month : ℕ) : daysInMonth year month ≤ 31 := by
  unfold daysInMonth
  split_ifs
  · decide
  · have hall : ∀ i < 12, [31, 28, 31, 30, 31, 30, 31, 31, 30, 31, 30, 31].getD i 0 ≤ 31 := by
      decide
    rcases Nat.lt_or_ge (month - 1) 12 with hm | hm
    · exact hall _ hm
    · have hlength : [31, 28, 31, 30, 31, 30, 31, 31, 30, 31, 30, 31].length ≤ month - 1 := by
        simp only [List.length_cons, List.length_nil]
        omega
      simp [List.getD_eq_getElem?_getD, List.getElem?_eq_none hlength]

/-- The ranges `DateTime` keeps its fields in. -/
theorem DateTime.bounds (t : DateTime) :
    1 ≤ t.stamp.year ∧ t.stamp.year ≤ 9999 ∧ 1 ≤ t.stamp.month ∧ t.stamp.month ≤ 12 ∧
      1 ≤ t.stamp.day ∧ t.stamp.day ≤ 31 ∧ t.stamp.hour < 24 ∧ t.stamp.minute < 60 ∧
      t.stamp.second < 60 ∧ t.stamp.microsecond < 1000000 := by
  have h := t.valid
  simp only [Stamp.valid, Bool.and_eq_true, decide_eq_true_eq] at h
  have := daysInMonth_le t.stamp.year t.stamp.month
  omega

/-- `t.toordinal()`. -/
def DateTime.toordinal (t : DateTime) : ℕ := ymd2ord t.stamp.year t.stamp.month t.stamp.day

/-- Microseconds from `datetime.min` to `t`.  `t₁ - t₂` is the timedelta of
`t₁.micros - t₂.micros` microseconds. -/
def DateTime.micros (t : DateTime) : ℤ :=
  (((t.toordinal - 1) * 86400 + t.stamp.hour * 3600 + t.stamp.minute * 60 + t.stamp.second) *
    1000000 + t.stamp.microsecond : ℕ)

/-! ## The text -/

/-- `_format_time(hh, mm, ss, us, "auto")`: the microseconds only when they are not 0. -/
def formatTime (hour minute second microsecond : ℕ) : List Char :=
  padDigits 2 hour ++ ':' :: padDigits 2 minute ++ ':' :: padDigits 2 second ++
    if microsecond = 0 then [] else '.' :: padDigits 6 microsecond

/-- `t.isoformat(sep)`; `str(t)` is `t.isoformat(" ")`. -/
def DateTime.isoformat (t : DateTime) (sep : Char) : String :=
  ⟨padDigits 4 t.stamp.year ++ '-' :: padDigits 2 t.stamp.month ++ '-' ::
    padDigits 2 t.stamp.day ++ sep :: formatTime t.stamp.hour t.stamp.minute t.stamp.second
      t.stamp.microsecond⟩

/-- `t.strftime("%Y-%m-%d %H:%M:%S")`, with `%Y` padded to four digits as the documentation
of `strftime` gives it. -/
def DateTime.strftime (t : DateTime) : String :=
  ⟨padDigits 4 t.stamp.year ++ '-' :: padDigits 2 t.stamp.month ++ '-' ::
    padDigits 2 t.stamp.day ++ ' ' :: formatTime t.stamp.hour t.stamp.minute t.stamp.second 0⟩

/-! ## `datetime.fromisoformat` -/

/-- `.fff` or `.ffffff`, after the dot, in microseconds. -/
def readFraction (cs : List Char) : Option ℕ :=
  if cs.length = 3 then (readPadded 0 3 cs).map fun field => field.1 * 1000
  else if cs.length = 6 then (readPadded 0 6 cs).map Prod.fst
  else none

/-- `HH[:MM[:SS[.fff[fff]]]]`, the whole of `cs`: hour, minute, second and microsecond. -/
def readClock (cs : List Char) : Option (ℕ × ℕ × ℕ × ℕ) :=
  match readPadded 0 2 cs with
  | some (hour, []) => some (hour, 0, 0, 0)
  | some (hour, ':' :: cs) =>
    match readPadded 0 2 cs with
    | some (minute, []) => some (hour, minute, 0, 0)
    | some (minute, ':' :: cs) =>
      match readPadded 0 2 cs with
      | some (second, []) => some (hour, minute, second, 0)
      | some (second, '.' :: cs) => (readFraction cs).map fun us => (hour, minute, second, us)
      | _ => none
    | _ => none
  | _ => none

/-- `+HH:MM[:SS[.ffffff]]`, or the same after `-`: the UTC offset in microseconds. -/
def readOffset : List Char → Option ℤ
  | [] => none
  | sign :: cs =>
    if cs.length = 5 ∨ cs.length = 8 ∨ cs.length = 15 then
      (readClock cs).map fun (hour, minute, second, microsecond) =>
        (if sign = '-' then -1 else 1) *
          (((hour * 3600 + minute * 60 + second) * 1000000 + microsecond : ℕ) : ℤ)
    else none

/-- A sign, which starts the offset. -/
def isSign (c : Char) : Bool := c == '+' || c == '-'

/-- The text after the separator: the clock up to the first sign, and the offset from it. -/
def readTime (cs : List Char) : Option ((ℕ × ℕ × ℕ × ℕ) × Option ℤ) :=
  (readClock (cs.takeWhile fun c => !isSign c)).bind fun clock =>
    match cs.dropWhile fun c => !isSign c with
    | [] => some (clock, none)
    | zone => (readOffset zone).map fun offset => (clock, some offset)

/-- What `fromisoformat` gives: the time, and its UTC offset in microseconds when the text
has one. -/
structure Parsed where
  time : DateTime
  offset : Option ℤ
  deriving DecidableEq

/-- `datetime.fromisoformat(text)` on `YYYY-MM-DD[*HH[:MM[:SS[.fff[fff]]]][+HH:MM[:SS[.ffffff]]]]`,
where `*` is any one character; none when it raises `ValueError`, for a text off the
grammar, fields out of range, or an offset of a day or more. -/
def fromisoformat (text : String) : Option Parsed :=
  match readPadded 0 4 text.data with
  | some (year, '-' :: cs) =>
    match readPadded 0 2 cs with
    | some (month, '-' :: cs) =>
      match readPadded 0 2 cs with
      | some (day, rest) =>
        let time := match rest with
          | [] => some ((0, 0, 0, 0), none)
          | _ :: cs => readTime cs
        time.bind fun ((hour, minute, second, microsecond), offset) =>
          let stamp : Stamp := ⟨year, month, day, hour, minute, second, microsecond⟩
          if h : stamp.valid = true ∧
              offset.all fun o => -86400000000 < o && o < 86400000000 then
            some ⟨⟨stamp, h.1⟩, offset⟩
          else none
      | none => none
    | _ => none
  | _ => none

/-! ## The round trip -/

theorem readFraction_padDigits {us : ℕ} (hus : us < 1000000) :
    readFraction (padDigits 6 us) = some us := by
  have hread := @readPadded_field 6 us hus []
  rw [List.append_nil] at hread
  simp [readFraction, hread]

theorem readClock_formatTime {hour minute second us : ℕ} (hhour : hour < 100)
    (hminute : minute < 100) (hsecond : second < 100) (hus : us < 1000000) :
    readClock (formatTime hour minute second us) = some (hour, minute, second, us) := by
  unfold formatTime readClock
  simp only [List.append_assoc, List.cons_append, @readPadded_field 2 _ hhour,
    @readPadded_field 2 _ hminute, @readPadded_field 2 _ hsecond]
  by_cases hzero : us = 0
  · simp [hzero]
  · simp [hzero, readFraction_padDigits hus]

/-- The clock has no sign in it. -/
theorem not_isSign_formatTime {hour minute second us : ℕ} :
    ∀ c ∈ formatTime hour minute second us, (!isSign c) = true := by
  intro c hc
  have hdigit : c.isDigit = true → (!isSign c) = true := by
    intro h
    revert h
    simp only [isSign, Char.isDigit, Bool.not_or, Bool.and_eq_true, Bool.not_eq_true',
      beq_eq_false_iff_ne, ne_eq, decide_eq_true_eq]
    rintro ⟨h1, h2⟩
    constructor <;> rintro rfl <;> simp_all
  simp only [formatTime, List.mem_append, List.mem_cons] at hc
  rcases hc with ((h | rfl | h) | rfl | h) | h
  · exact hdigit (isDigit_of_mem_padDigits h)
  · rfl
  · exact hdigit (isDigit_of_mem_padDigits h)
  · rfl
  · exact hdigit (isDigit_of_mem_padDigits h)
  · split at h
    · cases h
    · rcases List.mem_cons.mp h with rfl | h
      · rfl
      · exact hdigit (isDigit_of_mem_padDigits h)

theorem readTime_formatTime {hour minute second us : ℕ} (hhour : hour < 100)
    (hminute : minute < 100) (hsecond : second < 100) (hus : us < 1000000) :
    readTime (formatTime hour minute second us) = some ((hour, minute, second, us), none) := by
  have hsigns := @not_isSign_formatTime hour minute second us
  rw [readTime, List.takeWhile_eq_self_iff.mpr hsigns, List.dropWhile_eq_nil_iff.mpr hsigns,
    readClock_formatTime hhour hminute hsecond hus]
  rfl

/-- What `isoformat` writes reads back as the same naive time, whatever the separator. -/
theorem fromisoformat_isoformat (t : DateTime) (sep : Char) :
    fromisoformat (t.isoformat sep) = some ⟨t, none⟩ := by
  obtain ⟨-, hyear, -, hmonth, -, hday, hhour, hminute, hsecond, hus⟩ := t.bounds
  unfold fromisoformat DateTime.isoformat
  simp only [List.append_assoc, List.cons_append,
    @readPadded_field 4 _ (Nat.lt_of_le_of_lt hyear (by decide)),
    @readPadded_field 2 _ (Nat.lt_of_le_of_lt hmonth (by decide)),
    @readPadded_field 2 _ (Nat.lt_of_le_of_lt hday (by decide)),
    readTime_formatTime (by omega : t.stamp.hour < 100) (by omega : t.stamp.minute < 100)
      (by omega : t.stamp.second < 100) hus]
  simp [t.valid]

/-- The clock ends with a digit. -/
theorem formatTime_getLast? (hour minute second us : ℕ) :
    ∃ c, (formatTime hour minute second us).getLast? = some c ∧ c.isDigit = true := by
  by_cases hzero : us = 0
  · exact ⟨Nat.digitChar (second % 10), by simp [formatTime, padDigits, hzero],
      (digitChar_digit (Nat.mod_lt _ (by decide))).1⟩
  · exact ⟨Nat.digitChar (us % 10), by simp [formatTime, padDigits, hzero],
      (digitChar_digit (Nat.mod_lt _ (by decide))).1⟩

/-- `strip()` leaves what `isoformat` writes, under text rules for which no ASCII digit is
whitespace. -/
theorem strip_isoformat (rules : TextRules)
    (hdigits : ∀ c : Char, c.isDigit = true → rules.isSpace c = false) (t : DateTime)
    (sep : Char) : strip rules (t.isoformat sep) = t.isoformat sep := by
  obtain ⟨last, hlast, hdigit⟩ := formatTime_getLast? t.stamp.hour t.stamp.minute t.stamp.second
    t.stamp.microsecond
  have hdata : (t.isoformat sep).data =
      (padDigits 4 t.stamp.year ++ '-' :: padDigits 2 t.stamp.month ++ '-' ::
        padDigits 2 t.stamp.day ++ [sep]) ++
        formatTime t.stamp.hour t.stamp.minute t.stamp.second t.stamp.microsecond := by
    simp [DateTime.isoformat]
  apply Search.strip_of_ends
  · intro c hc
    simp only [DateTime.isoformat, padDigits, List.cons_append, List.head?_cons, Option.mem_def,
      Option.some.injEq] at hc
    exact hdigits c (hc ▸ (digitChar_digit (Nat.mod_lt _ (by decide))).1)
  · intro c hc
    rw [hdata, List.getLast?_append, hlast, Option.or_some, Option.mem_def,
      Option.some.injEq] at hc
    exact hc ▸ hdigits last hdigit

/-! ## The readers -/

/-- What `api_check_cache_status` answers: `{"updated": False}`, or `updated`,
`cache_status` and `cached_at`. -/
inductive CacheStatusResponse
  | notUpdated
  | status (updated : Bool) (cache_status cached_at : String)
  deriving DecidableEq, Repr

/-- `api_check_cache_status(node_hash)` at time `now`, on the cache directory `disk`.  A text
that does not parse is answered `{"updated": False}`, and so is an aware time, whose
subtraction from the naive `now` raises `TypeError`. -/
def apiCheckCacheStatus (rules : TextRules) (disk : Disk) (node_hash : String)
    (now : DateTime) : CacheStatusResponse :=
  match disk.file (pathDiv [] node_hash ++ ["cached_at.txt"]) with
  | none => .notUpdated
  | some text =>
    match fromisoformat (strip rules text) with
    | some ⟨cached, none⟩ =>
      let time_since_cache : ℚ := (now.micros - cached.micros : ℤ) / 1000000
      .status (decide (time_since_cache < 10)) (calculateCacheStatus time_since_cache)
        cached.strftime
    | _ => .notUpdated

/-- A page cached less than ten seconds ago is `fresh`. -/
theorem calculateCacheStatus_of_lt_ten {time_since_cache : ℚ} (h : time_since_cache < 10) :
    calculateCacheStatus time_since_cache = "fresh" := by
  have hdays : time_since_cache / 86400 ≤ 3 := by
    rw [div_le_iff₀ (by norm_num)]
    linarith
  simp [calculateCacheStatus, hdays]

/-- What `str(t)` reads as, after `strip()`. -/
theorem fromisoformat_strip_str (rules : TextRules)
    (hdigits : ∀ c : Char, c.isDigit = true → rules.isSpace c = false) (t : DateTime) :
    fromisoformat (strip rules (t.isoformat ' ')) = some ⟨t, none⟩ := by
  rw [strip_isoformat rules hdigits, fromisoformat_isoformat]

/-! ## `cleanup_expired_cache` -/

/-- What `cleanup_expired_cache` reads from a node directory's `cached_at.txt`: nothing when
the file does not exist, a read that raised, or its text. -/
inductive CachedAtFile
  | missing
  | unreadable
  | text (s : String)
  deriving DecidableEq, Repr

/-- A node directory as `iter_cached_nodes` yields it. -/
structure NodeScan where
  name : String
  cachedAt : CachedAtFile
  deriving DecidableEq, Repr

/-- `timedelta.max.days`. -/
def maxTimedeltaDays : ℤ := 999999999

/-- A day, in microseconds. -/
def dayMicros : ℤ := 86400 * 1000000

/-- `datetime.max`, in microseconds since `datetime.min`. -/
def maxDatetime : ℤ := 3652059 * dayMicros - 1

/-- `datetime.now() - timedelta(days=expiry_days)` for `now` in microseconds since
`datetime.min`; none when the `timedelta` or the subtraction raises `OverflowError`. -/
def expiryCutoff (now expiry_days : ℤ) : Option ℤ :=
  if maxTimedeltaDays < expiry_days ∨ expiry_days < -maxTimedeltaDays then none
  else if 0 ≤ now - expiry_days * dayMicros ∧ now - expiry_days * dayMicros ≤ maxDatetime then
    some (now - expiry_days * dayMicros)
  else none

/-- What the loop makes of a node's `cached_at.txt`: nothing to compare (no file, or a read
or a `fromisoformat` that raised, which the `try` skips), a naive time in microseconds, or
an aware time, whose comparison with the naive cutoff raises `TypeError`. -/
inductive CacheTime
  | skip
  | naive (micros : ℤ)
  | aware
  deriving DecidableEq, Repr

/-- `cache_time` of one node directory. -/
def NodeScan.cacheTime (rules : TextRules) (node : NodeScan) : CacheTime :=
  match node.cachedAt with
  | .text s =>
    match fromisoformat (strip rules s) with
    | some ⟨t, none⟩ => .naive t.micros
    | some ⟨_, some _⟩ => .aware
    | none => .skip
  | _ => .skip

/-- What a call of `cleanup_expired_cache` did: the directories it called `shutil.rmtree`
on, with whether each call succeeded, and whether it ended by raising. -/
structure CleanupRun where
  removed : List (String × Bool)
  raised : Bool
  deriving DecidableEq, Repr

/-- The loop over the node directories, for the cutoff `cutoff_date`. -/
def cleanupLoop (rules : TextRules) (cutoff : ℤ) (rmtree : String → Bool) :
    List NodeScan → CleanupRun
  | [] => ⟨[], false⟩
  | node :: nodes =>
    match node.cacheTime rules with
    | .skip => cleanupLoop rules cutoff rmtree nodes
    | .naive time =>
      let rest := cleanupLoop rules cutoff rmtree nodes
      if time < cutoff then ⟨(node.name, rmtree node.name) :: rest.removed, rest.raised⟩
      else rest
    | .aware => ⟨[], true⟩

/-- `cleanup_expired_cache`, with `expiry_days` the value of
`int(settings.get("expiry_days", -1))` (none when `int()` raises), `cache_exists` whether
the cache directory exists, `now` the value of `datetime.now()`, and `nodes` the node
directories in `iterdir` order. -/
def cleanupExpiredCache (rules : TextRules) (expiry_days : Option ℤ) (cache_exists : Bool)
    (now : ℤ) (nodes : List NodeScan) (rmtree : String → Bool) : CleanupRun :=
  match expiry_days with
  | none => ⟨[], true⟩
  | some expiry_days =>
    if expiry_days = -1 ∨ cache_exists = false then ⟨[], false⟩
    else
      match expiryCutoff now expiry_days with
      | none => ⟨[], true⟩
      | some cutoff => cleanupLoop rules cutoff rmtree nodes

variable {rules : TextRules} {cutoff : ℤ} {rmtree : String → Bool}

/-- Every directory the loop removes was listed, with a naive time before the cutoff. -/
theorem mem_cleanupLoop {nodes : List NodeScan} {entry : String × Bool}
    (h : entry ∈ (cleanupLoop rules cutoff rmtree nodes).removed) :
    ∃ node ∈ nodes, entry = (node.name, rmtree node.name) ∧
      ∃ time, node.cacheTime rules = .naive time ∧ time < cutoff := by
  induction nodes with
  | nil => cases h
  | cons node nodes ih =>
    have htail : entry ∈ (cleanupLoop rules cutoff rmtree nodes).removed →
        ∃ node' ∈ node :: nodes, entry = (node'.name, rmtree node'.name) ∧
          ∃ time, node'.cacheTime rules = .naive time ∧ time < cutoff := fun h' => by
      obtain ⟨node', hmem, hentry⟩ := ih h'
      exact ⟨node', List.mem_cons_of_mem _ hmem, hentry⟩
    unfold cleanupLoop at h
    split at h
    · exact htail h
    · rename_i time htime
      split_ifs at h with hlt
      · rcases List.mem_cons.mp h with rfl | h
        · exact ⟨node, List.mem_cons_self _ _, rfl, time, htime, hlt⟩
        · exact htail h
      · exact htail h
    · cases h

/-- The loop removes a listed directory whose time is naive and before the cutoff, when no
directory listed before the first one that fails `p` holds an aware time and every one that
fails `p` has the name and the time of this one. -/
theorem cleanupLoop_removes {p : NodeScan → Bool} {nodes : List NodeScan} {node : NodeScan}
    (hmem : node ∈ nodes) (hp : p node = false)
    (hbefore : ∀ n ∈ nodes.takeWhile p, n.cacheTime rules ≠ .aware) {time : ℤ}
    (hsame : ∀ n ∈ nodes, p n = false → n.name = node.name ∧ n.cacheTime rules = .naive time)
    (hlt : time < cutoff) :
    (node.name, rmtree node.name) ∈ (cleanupLoop rules cutoff rmtree nodes).removed := by
  induction nodes with
  | nil => cases hmem
  | cons n nodes ih =>
    by_cases hpn : p n = true
    · rw [List.takeWhile_cons_of_pos hpn] at hbefore
      have hrest := ih ((List.mem_cons.mp hmem).resolve_left fun h => by simp [h, hpn] at hp)
        (fun m hm => hbefore m (List.mem_cons_of_mem _ hm))
        (fun m hm => hsame m (List.mem_cons_of_mem _ hm))
      have hnaware := hbefore n (List.mem_cons_self _ _)
      unfold cleanupLoop
      split
      · exact hrest
      · split_ifs
        · exact List.mem_cons_of_mem _ hrest
        · exact hrest
      · contradiction
    · obtain ⟨hname, htime⟩ := hsame n (List.mem_cons_self _ _) (by simpa using hpn)
      rw [← hname]
      simp [cleanupLoop, htime, hlt]

/-! ## Reading back what `cache_single_page` wrote -/

/-- Once `cache_single_page` wrote its page, the node's `cached_at.txt` holds the time it
was given. -/
theorem cachedAt_of_write {home : String} {disk : Disk} {q : CacheQueues} {task : CacheTask}
    {fetched : Except String PageResponse} {cached_at : String}
    (hwrote : (cacheSinglePageWrite home disk q task fetched cached_at).2.2 = true) :
    (cacheSinglePageWrite home disk q task fetched cached_at).1.isDir
        (pathDiv [] task.nodeHash) = true ∧
      (cacheSinglePageWrite home disk q task fetched cached_at).1.file
        (pathDiv [] task.nodeHash ++ ["cached_at.txt"]) = some cached_at := by
  obtain ⟨-, hwritten⟩ := cacheSinglePageWrite_spec home disk q task fetched cached_at
  obtain ⟨response, -, -, hdir, hfiles⟩ := hwritten hwrote
  exact ⟨hdir, (hfiles (_, cached_at) (by simp [cacheFiles])).1⟩

/-- For a node whose `cached_at.txt` holds `str(t)`, `api_check_cache_status` answers at any
time `now` with the age of `t`: updated when it is under ten seconds, the status
`_calculate_cache_status` gives for that age, and `t` to the second. -/
theorem apiCheckCacheStatus_of_cachedAt (rules : TextRules)
    (hdigits : ∀ c : Char, c.isDigit = true → rules.isSpace c = false) (disk : Disk)
    (node_hash : String) (t now : DateTime)
    (hfile : disk.file (pathDiv [] node_hash ++ ["cached_at.txt"]) = some (t.isoformat ' ')) :
    let time_since_cache : ℚ := (now.micros - t.micros : ℤ) / 1000000
    apiCheckCacheStatus rules disk node_hash now =
      .status (decide (time_since_cache < 10)) (calculateCacheStatus time_since_cache)
        t.strftime := by
  intro time_since_cache
  rw [apiCheckCacheStatus, hfile]
  dsimp only
  rw [fromisoformat_strip_str rules hdigits]

/-- No ASCII digit is whitespace. -/
theorem asciiText_digits : ∀ c : Char, c.isDigit = true → Search.asciiText.isSpace c = false := by
  intro c hdigit
  simp only [Search.asciiText, Char.isWhitespace, Bool.or_eq_false_iff, decide_eq_false_iff_not]
  refine ⟨⟨⟨?_, ?_⟩, ?_⟩, ?_⟩ <;> rintro rfl <;> exact absurd hdigit (by decide)

/-- Noon of 1 May 2024. -/
def mayFirstNoon : DateTime := ⟨⟨2024, 5, 1, 12, 0, 0, 0⟩, by decide⟩

/-- Five seconds later. -/
def mayFirstNoonAndFive : DateTime := ⟨⟨2024, 5, 1, 12, 0, 5, 0⟩, by decide⟩

/-- Caching node `ab`'s index page on an empty cache at noon of 1 May 2024. -/
def abWriteAtNoon : Disk × CacheQueues × Bool :=
  cacheSinglePageWrite "/" emptyCache (.init ⟨true, false⟩) abTask
    (.ok ⟨"hello", "success", none⟩) (mayFirstNoon.isoformat ' ')

theorem abWriteAtNoon_wrote : abWriteAtNoon.2.2 = true := by decide

theorem apiCheckCacheStatus_of_cachedAt_ab :
    (∀ c : Char, c.isDigit = true → Search.asciiText.isSpace c = false) ∧
      abWriteAtNoon.1.file (pathDiv [] "ab" ++ ["cached_at.txt"]) =
        some (mayFirstNoon.isoformat ' ') ∧
      apiCheckCacheStatus Search.asciiText abWriteAtNoon.1 "ab" mayFirstNoonAndFive =
        .status true "fresh" "2024-05-01 12:00:00" := by
  have hfile := (cachedAt_of_write abWriteAtNoon_wrote).2
  refine ⟨asciiText_digits, hfile, ?_⟩
  have hage : mayFirstNoonAndFive.micros - mayFirstNoon.micros = 5000000 := by decide
  have hfresh : ((5000000 : ℤ) : ℚ) / 1000000 < 10 := by norm_num
  have hread := apiCheckCacheStatus_of_cachedAt Search.asciiText asciiText_digits
    abWriteAtNoon.1 "ab" mayFirstNoon mayFirstNoonAndFive hfile
  dsimp only at hread
  rw [hage, calculateCacheStatus_of_lt_ten hfresh, decide_eq_true hfresh] at hread
  exact hread.trans (by decide)

/-- `nodes` are the node directories of `disk`, each with what its `cached_at.txt` holds. -/
def ScanOf (disk : Disk) (nodes : List NodeScan) : Prop :=
  ∀ name, disk.isDir [name] = true →
    ⟨name, (disk.file [name, "cached_at.txt"]).elim .missing .text⟩ ∈ nodes

/-- `nodes` lists the node directories of `disk`, each with what its `cached_at.txt`
holds. -/
def NodeListing (disk : Disk) (nodes : List NodeScan) : Prop :=
  ScanOf disk nodes ∧ ∀ node ∈ nodes, disk.isDir [node.name] = true ∧
    node.cachedAt = (disk.file [node.name, "cached_at.txt"]).elim .missing .text

/-- A month after noon of 1 May 2024. -/
def juneFirstNoon : DateTime := ⟨⟨2024, 6, 1, 12, 0, 0, 0⟩, by decide⟩

theorem abWriteAtNoon_listing :
    NodeListing abWriteAtNoon.1 [⟨"ab", .text (mayFirstNoon.isoformat ' ')⟩] := by
  refine ⟨fun name hname => ?_, fun node hnode => ?_⟩
  · have hdisk : abWriteAtNoon.1.isDir = update emptyCache.isDir ["ab"] true := rfl
    by_cases hab : name = "ab"
    · subst hab
      decide
    · have hne : [name] ≠ ["ab"] := by simpa using hab
      simp [hdisk, Function.update_noteq hne, emptyCache] at hname
  · rw [List.mem_singleton.mp hnode]
    decide

/-- An aware time listed first ends the cleanup before the expired page is reached. -/
example :
    cleanupExpiredCache Search.asciiText (some 30) true juneFirstNoon.micros
        [⟨"x", .text "2024-05-01 12:00:00+01:00"⟩, ⟨"ab", .text (mayFirstNoon.isoformat ' ')⟩]
        (fun _ => true) = ⟨[], true⟩ := by
  decide

end Robumba.Cache
