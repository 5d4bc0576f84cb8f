import Robumba.Cache.Queues
import Robumba.Fetch.Requests
import Mathlib.Data.List.Infix

/-!
# Which additional pages `cache_additional_pages` can write

`CacheManager.cache_additional_pages` in `cache.py` fetches each of `ADDITIONAL_PAGES`
and writes every page that comes back `success` with content that is not blank to
`<node>/pages/<filename>`, with `filename` the page path without `/page/` and `.mu`,
plus `.mu`.  It creates the node directory and `pages`, and nothing below `pages`.

Two of the fourteen paths, `/page/messageboard/messageboard.mu` and
`/page/nomadForum/index.mu`, give a filename with a `/`.  `pathlib` reads it as a
subdirectory of `pages` that nothing creates, so `write_text` raises, the loop's
`except` skips the page, and the page is never cached: its parent lies two levels below
the node directory (`nested_parent_length`), where no step of the workers creates a
directory.
Every one of the other twelve is written with the content the node sent
(`flat_pages_cached`).

The disk is the directories and files below the cache directory, by path; the node's
answers are observations carried by the call.
-/

namespace Robumba.Cache

open Function (update)
open Robumba.Search (TextRules strip)
open Robumba.Fetch (PageResponse)

/-! ## Strings and paths -/

/-- Python's `s.replace(old, new)` on characters, for a non-empty `old`; `fuel` is the
length still to scan. -/
def replaceChars (old new : List Char) : ℕ → List Char → List Char
  | 0, s => s
  | _ + 1, [] => []
  | fuel + 1, c :: s =>
    if old.isPrefixOf (c :: s) then new ++ replaceChars old new fuel ((c :: s).drop old.length)
    else c :: replaceChars old new fuel s

/-- `s.replace(old, new)`. -/
def pyReplace (s old new : String) : String := ⟨replaceChars old.data new.data s.length s.data⟩

/-- A path below the cache directory, as its parts. -/
abbrev CachePath := List String

/-- `path / name` for a `name` that does not start with `/`: `pathlib` splits `name` at each
`/` and drops the empty parts and the `.` parts.  An absolute `name` would replace the path
with one outside the cache directory, which a `CachePath` cannot name. -/
def pathDiv (path : CachePath) (name : String) : CachePath :=
  path ++ ((name.data.splitOn '/').filter fun part => part ≠ [] ∧ part ≠ ['.']).map String.mk

/-! ## The disk -/

/-- The directories and the files below the cache directory. -/
structure Disk where
  isDir : CachePath → Bool
  file : CachePath → Option String

/-- `Path.mkdir(exist_ok=True)`: nothing for an existing directory, and an error for an
existing file or a missing parent. -/
def mkdir (disk : Disk) (path : CachePath) : Except String Disk :=
  if disk.isDir path then .ok disk
  else if (disk.file path).isSome then .error "FileExistsError"
  else if disk.isDir path.dropLast then .ok { disk with isDir := update disk.isDir path true }
  else .error "FileNotFoundError"

/-- `Path.mkdir(parents=True, exist_ok=True)`: each directory from the top, below the
cache directory, which exists. -/
def mkdirParents (disk : Disk) (path : CachePath) : Except String Disk :=
  path.inits.tail.foldlM mkdir disk

/-- `Path.write_text(content)`: an error for a directory or a missing parent. -/
def writeText (disk : Disk) (path : CachePath) (content : String) : Except String Disk :=
  if disk.isDir path then .error "IsADirectoryError"
  else if disk.isDir path.dropLast then .ok { disk with file := update disk.file path (some content) }
  else .error "FileNotFoundError"

/-! ## `cache_additional_pages` -/

/-- `CacheManager.ADDITIONAL_PAGES`. -/
def additionalPages : List String :=
  ["/page/home.mu", "/page/about.mu", "/page/menu.mu", "/page/info.mu", "/page/contact.mu",
    "/page/help.mu", "/page/messageboard/messageboard.mu", "/page/messageboard.mu",
    "/page/links.mu", "/page/faq.mu", "/page/files.mu", "/page/boards.mu",
    "/page/nomadForum/index.mu", "/page/archive.mu"]

/-- `page_path.replace("/page/", "").replace(".mu", "") + ".mu"`. -/
def additionalFilename (page_path : String) : String :=
  pyReplace (pyReplace page_path "/page/" "") ".mu" "" ++ ".mu"

/-- `pages_dir / filename` for a node directory. -/
def additionalTarget (cache_dir : CachePath) (page_path : String) : CachePath :=
  pathDiv (cache_dir ++ ["pages"]) (additionalFilename page_path)

/-- One page of the loop: skipped unless the answer is a `success` that is not blank;
an exception skips the rest of the page, and what ran before it stays. -/
def cacheAdditionalPage (rules : TextRules) (cache_dir : CachePath) (disk : Disk)
    (page_path : String) (response : Except String PageResponse) : Disk :=
  match response with
  | .error _ => disk
  | .ok response =>
    if response.status ≠ "success" ∨ strip rules response.content = "" then disk
    else
      match mkdir disk (cache_dir ++ ["pages"]) with
      | .error _ => disk
      | .ok disk =>
        ((writeText disk (additionalTarget cache_dir page_path) response.content).toOption).getD disk

/-- `CacheManager.cache_additional_pages`: `fetched page_path` is what `fetch_page`
answered for the page, or the message of the exception that creating the browser
raised. -/
def cacheAdditionalPages (rules : TextRules) (cache_additional : Bool) (disk : Disk)
    (node_hash : String) (fetched : String → Except String PageResponse) : Except String Disk :=
  if !cache_additional then .ok disk
  else do
    let cache_dir := pathDiv [] node_hash
    let disk ← mkdirParents disk cache_dir
    pure (additionalPages.foldl (fun disk page_path =>
      cacheAdditionalPage rules cache_dir disk page_path (fetched page_path)) disk)

/-! ## What the disk operations change -/

variable {disk disk' : Disk} {path : CachePath}

/-- `mkdir` creates at most the directory it names, and no file. -/
theorem mkdir_ok (h : mkdir disk path = .ok disk') :
    disk'.file = disk.file ∧ ∀ q, disk'.isDir q = true → disk.isDir q = true ∨ q = path := by
  unfold mkdir at h
  split at h
  · cases h; exact ⟨rfl, fun q hq => .inl hq⟩
  · split at h
    · cases h
    · split at h
      · cases h
        refine ⟨rfl, fun q hq => ?_⟩
        by_cases hq' : q = path
        · exact .inr hq'
        · exact .inl (by simpa [Function.update_noteq hq'] using hq)
      · cases h

/-- `mkdir(parents=True)` creates at most the directories above and at its path. -/
theorem foldlM_mkdir_ok (paths : List CachePath) (h : paths.foldlM mkdir disk = .ok disk') :
    disk'.file = disk.file ∧ ∀ q, disk'.isDir q = true → disk.isDir q = true ∨ q ∈ paths := by
  induction paths generalizing disk with
  | nil => cases h; exact ⟨rfl, fun q hq => .inl hq⟩
  | cons path paths ih =>
    rw [List.foldlM_cons] at h
    cases hmk : mkdir disk path with
    | error e => rw [hmk] at h; cases h
    | ok mid =>
      rw [hmk] at h
      obtain ⟨hfile, hdir⟩ := ih h
      obtain ⟨hfile', hdir'⟩ := mkdir_ok hmk
      refine ⟨hfile.trans hfile', fun q hq => ?_⟩
      rcases hdir q hq with hq | hq
      · rcases hdir' q hq with hq | rfl
        · exact .inl hq
        · exact .inr (List.mem_cons_self _ _)
      · exact .inr (List.mem_cons_of_mem _ hq)

/-- `write_text` creates no directory, writes at most its own path, and needs the
parent directory. -/
theorem writeText_ok {content : String} (h : writeText disk path content = .ok disk') :
    disk'.isDir = disk.isDir ∧ disk.isDir path.dropLast = true ∧
      disk'.file = update disk.file path (some content) := by
  unfold writeText at h
  split at h
  · cases h
  · split at h
    · cases h; exact ⟨rfl, ‹_›, rfl⟩
    · cases h

/-- `write_text` raises for a directory. -/
theorem writeText_not_isDir {content : String} (h : writeText disk path content = .ok disk') :
    disk.isDir path = false := by
  unfold writeText at h
  split at h
  · cases h
  · rename_i hdir
    simpa using hdir

/-- One page of the loop creates at most `pages`, and writes at most its own target, whose
parent then was a directory or is `pages`. -/
theorem cacheAdditionalPage_effect (rules : TextRules) (cache_dir : CachePath) (disk : Disk)
    (page_path : String) (response : Except String PageResponse) (q : CachePath) :
    ((cacheAdditionalPage rules cache_dir disk page_path response).isDir q = true →
        disk.isDir q = true ∨ q = cache_dir ++ ["pages"]) ∧
      ((cacheAdditionalPage rules cache_dir disk page_path response).file q = disk.file q ∨
        (q = additionalTarget cache_dir page_path ∧
          (disk.isDir q.dropLast = true ∨ q.dropLast = cache_dir ++ ["pages"]))) := by
  unfold cacheAdditionalPage
  split
  · exact ⟨.inl, .inl rfl⟩
  · split
    · exact ⟨.inl, .inl rfl⟩
    · split
      · exact ⟨.inl, .inl rfl⟩
      · rename_i mid hmk
        obtain ⟨hfile, hdir⟩ := mkdir_ok hmk
        cases hw : writeText mid (additionalTarget cache_dir page_path) _ with
        | error e => exact ⟨hdir q, .inl (by simp [Except.toOption, hfile])⟩
        | ok written =>
          obtain ⟨hdir', hparent, hfile'⟩ := writeText_ok hw
          simp only [Except.toOption, Option.getD_some]
          refine ⟨fun hq => hdir q (by rwa [hdir'] at hq), ?_⟩
          by_cases hq : q = additionalTarget cache_dir page_path
          · subst hq
            exact .inr ⟨rfl, hdir _ hparent⟩
          · exact .inl (by simp [hfile', hfile, Function.update_noteq hq])

/-! ## The two nested pages -/

/-- The pages of `ADDITIONAL_PAGES` whose filename names a directory below `pages`. -/
def nestedPages : List String :=
  additionalPages.filter fun page_path => '/' ∈ (additionalFilename page_path).data

theorem nestedPages_eq :
    nestedPages = ["/page/messageboard/messageboard.mu", "/page/nomadForum/index.mu"] := by
  decide

/-- Where `cache_additional_pages` writes each page, below the node directory. -/
theorem additionalTargets :
    additionalPages.map (fun page_path => (page_path, additionalTarget [] page_path)) =
      [("/page/home.mu", ["pages", "home.mu"]), ("/page/about.mu", ["pages", "about.mu"]),
        ("/page/menu.mu", ["pages", "menu.mu"]), ("/page/info.mu", ["pages", "info.mu"]),
        ("/page/contact.mu", ["pages", "contact.mu"]), ("/page/help.mu", ["pages", "help.mu"]),
        ("/page/messageboard/messageboard.mu", ["pages", "messageboard", "messageboard.mu"]),
        ("/page/messageboard.mu", ["pages", "messageboard.mu"]),
        ("/page/links.mu", ["pages", "links.mu"]), ("/page/faq.mu", ["pages", "faq.mu"]),
        ("/page/files.mu", ["pages", "files.mu"]), ("/page/boards.mu", ["pages", "boards.mu"]),
        ("/page/nomadForum/index.mu", ["pages", "nomadForum", "index.mu"]),
        ("/page/archive.mu", ["pages", "archive.mu"])] := by
  decide

/-- A fact of every page and its target follows from the table `additionalTargets`. -/
theorem forall_additionalTarget {P : String → CachePath → Prop}
    (h : ∀ entry ∈ additionalPages.map (fun p => (p, additionalTarget [] p)), P entry.1 entry.2)
    (page_path : String) (hpage : page_path ∈ additionalPages) :
    P page_path (additionalTarget [] page_path) :=
  h _ (List.mem_map_of_mem _ hpage)

theorem additionalTarget_eq (cache_dir : CachePath) (page_path : String) :
    additionalTarget cache_dir page_path = cache_dir ++ additionalTarget [] page_path := by
  simp [additionalTarget, pathDiv]

/-- The parent of a nested page's target lies two levels below the node directory. -/
theorem nested_parent_length {page_path : String} (h : page_path ∈ nestedPages)
    (cache_dir : CachePath) :
    (additionalTarget cache_dir page_path).dropLast.length = cache_dir.length + 2 := by
  have hlen : ∀ p ∈ nestedPages, (additionalTarget [] p).dropLast.length = 2 ∧
      additionalTarget [] p ≠ [] := by
    rw [nestedPages_eq]
    decide
  rw [additionalTarget_eq, List.dropLast_append_of_ne_nil _ (hlen page_path h).2, List.length_append,
    (hlen page_path h).1]

/-- An empty cache directory. -/
def emptyCache : Disk := ⟨fun path => path.isEmpty, fun _ => none⟩

/-- A node that answers every page with `hello`. -/
def helloEverywhere : String → Except String PageResponse := fun _ => .ok ⟨"hello", "success", none⟩

/-- The cache after `cache_additional_pages` for node `ab` on an empty cache. -/
def cachedAb : Disk :=
  match cacheAdditionalPages Search.asciiText true emptyCache "ab" helloEverywhere with
  | .ok disk => disk
  | .error _ => emptyCache

/-! ## The twelve flat pages -/

/-- `mkdir`, and so one page of the loop, never removes a directory. -/
theorem mkdir_isDir (h : mkdir disk path = .ok disk') {q : CachePath} (hq : disk.isDir q = true) :
    disk'.isDir q = true := by
  unfold mkdir at h
  split at h
  · cases h; exact hq
  · split at h
    · cases h
    · split at h
      · cases h
        by_cases hq' : q = path
        · subst hq'
          exact Function.update_same _ _ _
        · simpa [Function.update_noteq hq'] using hq
      · cases h

theorem cacheAdditionalPage_isDir (rules : TextRules) (cache_dir : CachePath) (disk : Disk)
    (page_path : String) (response : Except String PageResponse) {q : CachePath}
    (hq : disk.isDir q = true) :
    (cacheAdditionalPage rules cache_dir disk page_path response).isDir q = true := by
  unfold cacheAdditionalPage
  split
  · exact hq
  · split
    · exact hq
    · split
      · exact hq
      · rename_i mid hmk
        have hmid := mkdir_isDir hmk hq
        cases hw : writeText mid (additionalTarget cache_dir page_path) _ with
        | error e => simpa [Except.toOption] using hmid
        | ok written => simpa [Except.toOption, (writeText_ok hw).1] using hmid

/-- The disk a page of the loop can write on: the node directory exists, `pages` is not a
file, and no target is a directory. -/
structure Ready (cache_dir : CachePath) (disk : Disk) : Prop where
  node : disk.isDir cache_dir = true
  pages : disk.file (cache_dir ++ ["pages"]) = none
  targets : ∀ page_path ∈ additionalPages, disk.isDir (additionalTarget cache_dir page_path) = false

theorem additionalTarget_length (page_path : String) (h : page_path ∈ additionalPages)
    (cache_dir : CachePath) : cache_dir.length + 2 ≤ (additionalTarget cache_dir page_path).length := by
  have hlen : ∀ p ∈ additionalPages, 2 ≤ (additionalTarget [] p).length :=
    forall_additionalTarget (P := fun _ target => 2 ≤ target.length)
      (by rw [additionalTargets]; decide)
  rw [additionalTarget_eq, List.length_append]
  have := hlen page_path h
  omega

theorem additionalTarget_ne_pages {page_path : String} (h : page_path ∈ additionalPages)
    (cache_dir : CachePath) : additionalTarget cache_dir page_path ≠ cache_dir ++ ["pages"] :=
  fun heq => by simpa [heq] using additionalTarget_length page_path h cache_dir

/-- One page of the loop keeps the disk ready. -/
theorem Ready.step (h : Ready cache_dir disk) (rules : TextRules) {page_path : String}
    (hpage : page_path ∈ additionalPages) (response : Except String PageResponse) :
    Ready cache_dir (cacheAdditionalPage rules cache_dir disk page_path response) := by
  refine ⟨cacheAdditionalPage_isDir rules cache_dir disk page_path response h.node, ?_, fun p hp => ?_⟩
  · obtain ⟨-, hfile⟩ := cacheAdditionalPage_effect rules cache_dir disk page_path response
      (cache_dir ++ ["pages"])
    rcases hfile with hfile | ⟨heq, -⟩
    · rw [hfile, h.pages]
    · exact absurd heq.symm (additionalTarget_ne_pages hpage cache_dir)
  · obtain ⟨hdir, -⟩ := cacheAdditionalPage_effect rules cache_dir disk page_path response
      (additionalTarget cache_dir p)
    cases hq : (cacheAdditionalPage rules cache_dir disk page_path response).isDir
      (additionalTarget cache_dir p)
    · rfl
    · rcases hdir hq with hq' | hq'
      · rw [h.targets p hp] at hq'; cases hq'
      · exact absurd hq' (additionalTarget_ne_pages hp cache_dir)

/-- The answer `cache_additional_pages` writes: a `success` whose content is not blank. -/
def Written (rules : TextRules) (response : Except String PageResponse) (content : String) : Prop :=
  ∃ r, response = .ok r ∧ r.status = "success" ∧ strip rules r.content ≠ "" ∧ r.content = content

/-- The parent of a flat page's target is `pages`. -/
theorem flat_parent {page_path : String} (hpage : page_path ∈ additionalPages)
    (hflat : page_path ∉ nestedPages) (cache_dir : CachePath) :
    (additionalTarget cache_dir page_path).dropLast = cache_dir ++ ["pages"] := by
  have hflat₀ : ∀ p ∈ additionalPages, p ∉ nestedPages →
      (additionalTarget [] p).dropLast = ["pages"] ∧ additionalTarget [] p ≠ [] :=
    forall_additionalTarget
      (P := fun p target => p ∉ nestedPages → target.dropLast = ["pages"] ∧ target ≠ [])
      (by rw [additionalTargets, nestedPages_eq]; decide)
  obtain ⟨hpages, hne⟩ := hflat₀ page_path hpage hflat
  rw [additionalTarget_eq, List.dropLast_append_of_ne_nil _ hne, hpages]

/-- On a ready disk a flat page that comes back `success` and not blank is written. -/
theorem Ready.write (h : Ready cache_dir disk) (rules : TextRules) {page_path : String}
    (hpage : page_path ∈ additionalPages) (hflat : page_path ∉ nestedPages)
    {response : Except String PageResponse} {content : String}
    (hwritten : Written rules response content) :
    (cacheAdditionalPage rules cache_dir disk page_path response).file
      (additionalTarget cache_dir page_path) = some content := by
  obtain ⟨r, rfl, hstatus, hblank, rfl⟩ := hwritten
  have hmk : ∃ mid, mkdir disk (cache_dir ++ ["pages"]) = .ok mid ∧
      mid.isDir (cache_dir ++ ["pages"]) = true ∧
      mid.isDir (additionalTarget cache_dir page_path) = false := by
    unfold mkdir
    by_cases hpagesDir : disk.isDir (cache_dir ++ ["pages"]) = true
    · exact ⟨disk, by simp [hpagesDir], hpagesDir, h.targets page_path hpage⟩
    · refine ⟨{ disk with isDir := update disk.isDir (cache_dir ++ ["pages"]) true },
        by simp [hpagesDir, h.pages, h.node], by simp, ?_⟩
      simp [Function.update_noteq (additionalTarget_ne_pages hpage cache_dir),
        h.targets page_path hpage]
  obtain ⟨mid, hmid, hpagesDir, htarget⟩ := hmk
  simp only [cacheAdditionalPage, hstatus, hblank, ne_eq, not_true_eq_false, or_self, if_false, hmid]
  simp [writeText, htarget, flat_parent hpage hflat, hpagesDir, Except.toOption]

/-- A page of the loop writes at most its own target. -/
theorem cacheAdditionalPage_file_of_ne (rules : TextRules) (disk : Disk) {page_path : String}
    (response : Except String PageResponse) {q : CachePath}
    (hq : q ≠ additionalTarget cache_dir page_path) :
    (cacheAdditionalPage rules cache_dir disk page_path response).file q = disk.file q := by
  rcases (cacheAdditionalPage_effect rules cache_dir disk page_path response q).2 with h | ⟨h, -⟩
  · exact h
  · exact absurd h hq

/-- The loop leaves every path that is none of its pages' targets. -/
theorem foldl_file_of_not_target (rules : TextRules) (fetched : String → Except String PageResponse)
    (pages : List String) (disk : Disk) {q : CachePath}
    (hq : ∀ p ∈ pages, q ≠ additionalTarget cache_dir p) :
    (pages.foldl (fun disk page_path =>
      cacheAdditionalPage rules cache_dir disk page_path (fetched page_path)) disk).file q = disk.file q := by
  induction pages generalizing disk with
  | nil => rfl
  | cons p rest ih =>
    rw [List.foldl_cons, ih _ fun x hx => hq x (List.mem_cons_of_mem _ hx),
      cacheAdditionalPage_file_of_ne rules disk _ (hq p (List.mem_cons_self _ _))]

/-- Along the loop each flat page that comes back `success` and not blank ends up written,
as no later page has its target. -/
theorem Ready.foldl (h : Ready cache_dir disk) (rules : TextRules)
    (fetched : String → Except String PageResponse) (pages : List String)
    (hpages : ∀ p ∈ pages, p ∈ additionalPages)
    (hnodup : (pages.map (additionalTarget cache_dir)).Nodup) :
    ∀ page_path ∈ pages, page_path ∉ nestedPages → ∀ content, Written rules (fetched page_path) content →
      (pages.foldl (fun disk page_path =>
        cacheAdditionalPage rules cache_dir disk page_path (fetched page_path)) disk).file
          (additionalTarget cache_dir page_path) = some content := by
  induction pages generalizing disk with
  | nil => exact fun _ h => absurd h (List.not_mem_nil _)
  | cons p rest ih =>
    have hp := hpages p (List.mem_cons_self _ _)
    have hrest : ∀ q ∈ rest, q ∈ additionalPages := fun q hq => hpages q (List.mem_cons_of_mem _ hq)
    obtain ⟨hnotin, hnodup'⟩ := List.nodup_cons.mp (List.map_cons _ _ _ ▸ hnodup)
    intro page_path hmem hflat content hwritten
    rw [List.foldl_cons]
    rcases List.mem_cons.mp hmem with rfl | hmem
    · rw [foldl_file_of_not_target rules fetched rest _ fun x hx heq =>
        hnotin (by rw [heq]; exact List.mem_map_of_mem _ hx)]
      exact h.write rules hp hflat hwritten
    · exact ih (h.step rules hp _) hrest hnodup' page_path hmem hflat content hwritten

/-- Every page of `ADDITIONAL_PAGES` but the two nested ones is cached: on a disk where the
node directory can be made, `pages` is not a file and no target is a directory,
`cache_additional_pages` succeeds and writes each flat page that came back `success` and
not blank with the content the node sent. -/
theorem flat_pages_cached (rules : TextRules) (disk : Disk) {node_hash : String}
    (fetched : String → Except String PageResponse) (hhash : pathDiv [] node_hash = [node_hash])
    (hroot : disk.isDir [] = true) (hnode : disk.file [node_hash] = none)
    (hpages : disk.file [node_hash, "pages"] = none)
    (htargets : ∀ page_path ∈ additionalPages, disk.isDir (additionalTarget [node_hash] page_path) = false) :
    ∃ disk', cacheAdditionalPages rules true disk node_hash fetched = .ok disk' ∧
      ∀ page_path ∈ additionalPages, page_path ∉ nestedPages → ∀ content,
        Written rules (fetched page_path) content →
          disk'.file (additionalTarget [node_hash] page_path) = some content := by
  have hnodup : (additionalPages.map (additionalTarget [node_hash])).Nodup := by
    have hnodup₀ : (additionalPages.map (additionalTarget [])).Nodup := by
      rw [show additionalPages.map (additionalTarget []) =
          (additionalPages.map fun p => (p, additionalTarget [] p)).map Prod.snd by
        rw [List.map_map]; rfl, additionalTargets]
      decide
    have hmap : additionalTarget [node_hash] = ([node_hash] ++ ·) ∘ additionalTarget [] :=
      funext fun p => additionalTarget_eq _ p
    rw [hmap, ← List.map_map]
    exact List.Pairwise.map _ (fun a b hab h => hab (List.append_cancel_left h)) hnodup₀
  have hmade : ∃ made, mkdirParents disk [node_hash] = .ok made ∧ Ready [node_hash] made := by
    by_cases hdir : disk.isDir [node_hash] = true
    · exact ⟨disk, by simp [mkdirParents, mkdir, hdir], hdir, hpages, htargets⟩
    · refine ⟨{ disk with isDir := update disk.isDir [node_hash] true },
        by simp [mkdirParents, mkdir, hdir, hnode, hroot], by simp, hpages, fun p hp => ?_⟩
      have hne : additionalTarget [node_hash] p ≠ [node_hash] := fun h => by
        simpa [h] using additionalTarget_length p hp [node_hash]
      simp [Function.update_noteq hne, htargets p hp]
  obtain ⟨made, hmade, hready⟩ := hmade
  refine ⟨additionalPages.foldl (fun d p => cacheAdditionalPage rules [node_hash] d p (fetched p)) made,
    ?_, hready.foldl rules fetched additionalPages (fun p hp => hp) hnodup⟩
  simp [cacheAdditionalPages, hhash, hmade, bind, Except.bind, pure, Except.pure]

theorem flat_pages_cached_ab :
    pathDiv [] "ab" = ["ab"] ∧ emptyCache.isDir [] = true ∧ emptyCache.file ["ab"] = none ∧
      emptyCache.file ["ab", "pages"] = none ∧
      (∀ page_path ∈ additionalPages, emptyCache.isDir (additionalTarget ["ab"] page_path) = false) ∧
      ∃ disk', cacheAdditionalPages Search.asciiText true emptyCache "ab" helloEverywhere = .ok disk' ∧
        ∀ page_path ∈ additionalPages, page_path ∉ nestedPages → ∀ content,
          Written Search.asciiText (helloEverywhere page_path) content →
            disk'.file (additionalTarget ["ab"] page_path) = some content :=
  have hhash : pathDiv [] "ab" = ["ab"] := by decide
  have hroot : emptyCache.isDir [] = true := rfl
  have hnode : emptyCache.file ["ab"] = none := rfl
  have hpages : emptyCache.file ["ab", "pages"] = none := rfl
  have htargets : ∀ page_path ∈ additionalPages,
      emptyCache.isDir (additionalTarget ["ab"] page_path) = false :=
    fun page_path _ => by rw [additionalTarget_eq]; rfl
  ⟨hhash, hroot, hnode, hpages, htargets,
    flat_pages_cached Search.asciiText emptyCache helloEverywhere hhash hroot hnode hpages htargets⟩

/-- On an empty cache, `home.mu` is written and `messageboard/messageboard.mu` is not. -/
example :
    cachedAb.file ["ab", "pages", "home.mu"] = some "hello" ∧
      cachedAb.file ["ab", "pages", "messageboard", "messageboard.mu"] = none := by
  decide

end Robumba.Cache
