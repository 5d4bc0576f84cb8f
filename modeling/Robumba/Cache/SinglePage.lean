import Robumba.Cache.AdditionalPages

/-!
# Caching one page

`CacheManager.cache_single_page` in `cache.py` fetches a page, creates the node
directory, writes `index.mu`, `node_name.txt` and `cached_at.txt` with
`_write_cache_files`, queues the node's additional pages when `cache_additional` is set and
the page is the index page, and then runs `enforce_size_limit` and
`cleanup_expired_cache`.  An exception ends the call, and what it wrote before stays.

The queue model takes whether the cache worker cached its page as an observation
(`QueueEvent.cacheWorker`).  On the disk that observation is exactly whether the three
files were written (`cacheWorkerOnDisk_refines`): the worker moves the queues as the
queue model's event with that flag, and a set flag means that the node's directory holds
the content, the name and the time.

`schedule_node` reads the node back from the disk (`nodeOnDisk`): once the page is
written, it finds the node cached with the content that was fetched
(`nodeOnDisk_of_write`).
-/

namespace Robumba.Cache

open Function (update)
open Robumba.Search (TextRules strip)
open Robumba.Fetch (PageResponse)

/-! ## `cache_single_page` -/

/-- Writes one after another: a write that raises stops the rest, and what was written
before stays.  The disk after, and whether every write ran. -/
def writeAll : Disk → List (CachePath × String) → Disk × Bool
  | disk, [] => (disk, true)
  | disk, (path, text) :: rest =>
    match writeText disk path text with
    | .error _ => (disk, false)
    | .ok written => writeAll written rest

/-- The files `_write_cache_files` writes into a node directory, in order. -/
def cacheFiles (cache_dir : CachePath) (node_name content cached_at : String) :
    List (CachePath × String) :=
  [(cache_dir ++ ["index.mu"], content), (cache_dir ++ ["node_name.txt"], node_name),
    (cache_dir ++ ["cached_at.txt"], cached_at)]

/-- `_write_cache_files(cache_dir, node_name, content)`, with `cached_at` the text of
`str(datetime.now())`. -/
def writeCacheFiles (disk : Disk) (cache_dir : CachePath) (node_name content cached_at : String) :
    Disk × Bool :=
  writeAll disk (cacheFiles cache_dir node_name content cached_at)

/-- `cache_single_page(node_hash, node_name, page_path)` up to its size and expiry checks:
the disk and the queues after it, and whether it wrote the page.  `fetched` is what
`fetch_page` answered, or the message of the exception creating the browser raised. -/
def cacheSinglePageWrite (home : String) (disk : Disk) (q : CacheQueues) (task : CacheTask)
    (fetched : Except String PageResponse) (cached_at : String) : Disk × CacheQueues × Bool :=
  match fetched with
  | .error _ => (disk, q, false)
  | .ok response =>
    if response.status ≠ "success" then (disk, q, false)
    else
      let cache_dir := pathDiv [] task.nodeHash
      match mkdirParents disk cache_dir with
      | .error _ => (disk, q, false)
      | .ok made =>
        let written := writeCacheFiles made cache_dir task.nodeName response.content cached_at
        (written.1, cacheSinglePage home q task written.2, written.2)

/-- One task of `_cache_worker`: the next task of `cache_queue`, if there is one, through
`cache_single_page`. -/
def cacheWorkerOnDisk (home : String) (disk : Disk) (q : CacheQueues)
    (fetched : Except String PageResponse) (cached_at : String) : Disk × CacheQueues × Bool :=
  match q.cacheQueue with
  | [] => (disk, q, false)
  | task :: rest =>
    cacheSinglePageWrite home disk { q with cacheQueue := rest } task fetched cached_at

/-! ## Writes -/

theorem writeAll_isDir (files : List (CachePath × String)) (disk : Disk) :
    (writeAll disk files).1.isDir = disk.isDir := by
  induction files generalizing disk with
  | nil => rfl
  | cons file rest ih =>
    obtain ⟨path, text⟩ := file
    simp only [writeAll]
    cases hwrite : writeText disk path text with
    | error e => rfl
    | ok written => exact (ih written).trans (writeText_ok hwrite).1

/-- A sequence of writes leaves the files of other paths. -/
theorem writeAll_file_of_not_mem (files : List (CachePath × String)) (disk : Disk)
    {q : CachePath} (hq : q ∉ files.map Prod.fst) : (writeAll disk files).1.file q = disk.file q := by
  induction files generalizing disk with
  | nil => rfl
  | cons file rest ih =>
    obtain ⟨path, text⟩ := file
    simp only [List.map_cons, List.mem_cons, not_or] at hq
    simp only [writeAll]
    cases hwrite : writeText disk path text with
    | error e => rfl
    | ok written =>
      rw [ih written hq.2, (writeText_ok hwrite).2.2, Function.update_noteq hq.1]

/-- When every write ran, each path holds its text. -/
theorem writeAll_written {files : List (CachePath × String)} (hnodup : (files.map Prod.fst).Nodup)
    {disk : Disk} (hran : (writeAll disk files).2 = true) :
    ∀ file ∈ files, (writeAll disk files).1.file file.1 = some file.2 := by
  induction files generalizing disk with
  | nil => exact fun _ h => absurd h (List.not_mem_nil _)
  | cons file rest ih =>
    obtain ⟨path, text⟩ := file
    obtain ⟨hfresh, hrest⟩ := List.nodup_cons.mp hnodup
    simp only [writeAll] at hran ⊢
    cases hwrite : writeText disk path text with
    | error e => rw [hwrite] at hran; cases hran
    | ok written =>
      rw [hwrite] at hran
      intro f hf
      rcases List.mem_cons.mp hf with rfl | hf
      · rw [writeAll_file_of_not_mem rest written hfresh, (writeText_ok hwrite).2.2]
        exact Function.update_same _ _ _
      · exact ih hrest hran f hf

/-- When every write ran, the parent of each path is a directory and the path is not. -/
theorem writeAll_dirs {files : List (CachePath × String)} {disk : Disk}
    (hran : (writeAll disk files).2 = true) :
    ∀ file ∈ files, (writeAll disk files).1.isDir file.1.dropLast = true ∧
      (writeAll disk files).1.isDir file.1 = false := by
  rw [writeAll_isDir]
  induction files generalizing disk with
  | nil => exact fun _ h => absurd h (List.not_mem_nil _)
  | cons file rest ih =>
    obtain ⟨path, text⟩ := file
    simp only [writeAll] at hran
    cases hwrite : writeText disk path text with
    | error e => rw [hwrite] at hran; cases hran
    | ok written =>
      rw [hwrite] at hran
      obtain ⟨hdir, hparent, -⟩ := writeText_ok hwrite
      intro f hf
      rcases List.mem_cons.mp hf with rfl | hf
      · exact ⟨hparent, writeText_not_isDir hwrite⟩
      · exact hdir ▸ ih hran f hf

/-- On a disk where every parent exists and no path is a directory, every write runs. -/
theorem writeAll_ran (files : List (CachePath × String)) {disk : Disk}
    (hready : ∀ file ∈ files, disk.isDir file.1.dropLast = true ∧ disk.isDir file.1 = false) :
    (writeAll disk files).2 = true := by
  induction files generalizing disk with
  | nil => rfl
  | cons file rest ih =>
    obtain ⟨path, text⟩ := file
    obtain ⟨hparent, hdir⟩ := hready _ (List.mem_cons_self _ _)
    have hwrite : writeText disk path text =
        .ok { disk with file := update disk.file path (some text) } := by
      simp [writeText, hparent, hdir]
    simp only [writeAll, hwrite]
    exact ih fun f hf => hready f (List.mem_cons_of_mem _ hf)

theorem cacheFiles_nodup (cache_dir : CachePath) (node_name content cached_at : String) :
    ((cacheFiles cache_dir node_name content cached_at).map Prod.fst).Nodup := by
  simp [cacheFiles]

/-! ## The worker refines the queue model -/

@[simp] theorem cacheSinglePage_false (home : String) (q : CacheQueues) (task : CacheTask) :
    cacheSinglePage home q task false = q := rfl

/-- What `cache_single_page` did when it wrote the page: the fetch answered `success`, and
the node's directory exists and holds the three files, none of them a directory. -/
def WrotePage (task : CacheTask) (fetched : Except String PageResponse) (cached_at : String)
    (disk : Disk) : Prop :=
  ∃ response, fetched = .ok response ∧ response.status = "success" ∧
    disk.isDir (pathDiv [] task.nodeHash) = true ∧
    ∀ file ∈ cacheFiles (pathDiv [] task.nodeHash) task.nodeName response.content cached_at,
      disk.file file.1 = some file.2 ∧ disk.isDir file.1 = false

/-- `cache_single_page` moves the queues as the queue model's step with the flag it
returns, and a set flag means it wrote the page. -/
theorem cacheSinglePageWrite_spec (home : String) (disk : Disk) (q : CacheQueues)
    (task : CacheTask) (fetched : Except String PageResponse) (cached_at : String) :
    (cacheSinglePageWrite home disk q task fetched cached_at).2.1 =
        cacheSinglePage home q task (cacheSinglePageWrite home disk q task fetched cached_at).2.2 ∧
      ((cacheSinglePageWrite home disk q task fetched cached_at).2.2 = true →
        WrotePage task fetched cached_at (cacheSinglePageWrite home disk q task fetched cached_at).1) := by
  unfold cacheSinglePageWrite
  split
  · exact ⟨rfl, nofun⟩
  · rename_i response
    split
    · exact ⟨rfl, nofun⟩
    · rename_i hsuccess
      dsimp only
      split
      · exact ⟨rfl, nofun⟩
      · refine ⟨rfl, fun hran => ⟨response, rfl, not_not.mp hsuccess, ?_, fun file hfile =>
          ⟨writeAll_written (cacheFiles_nodup _ _ _ _) hran file hfile,
            (writeAll_dirs hran file hfile).2⟩⟩⟩
        simpa [cacheFiles] using (writeAll_dirs hran _ (List.mem_cons_self _ _)).1

/-- The cache worker moves the queues exactly as the queue model's `cacheWorker` event with
the flag it returns, and a set flag means that the task it took was fetched with status
`success` and its node's directory holds the three files. -/
theorem cacheWorkerOnDisk_refines (rules : TextRules) (home : String) (disk : Disk)
    (q : CacheQueues) (fetched : Except String PageResponse) (cached_at : String) :
    (cacheWorkerOnDisk home disk q fetched cached_at).2.1 =
        queueStep rules home q (.cacheWorker (cacheWorkerOnDisk home disk q fetched cached_at).2.2) ∧
      ((cacheWorkerOnDisk home disk q fetched cached_at).2.2 = true →
        ∃ task ∈ q.cacheQueue.head?,
          WrotePage task fetched cached_at (cacheWorkerOnDisk home disk q fetched cached_at).1) := by
  unfold cacheWorkerOnDisk queueStep
  cases hqueue : q.cacheQueue with
  | nil => exact ⟨rfl, nofun⟩
  | cons task rest =>
    obtain ⟨hqueues, hwrote⟩ := cacheSinglePageWrite_spec home disk { q with cacheQueue := rest }
      task fetched cached_at
    exact ⟨hqueues, fun hran => ⟨task, rfl, hwrote hran⟩⟩

/-! ## What `schedule_node` finds -/

/-- What `schedule_node(node_hash, node_name)` finds on `disk`: `cache_path.exists()`, then
`index_file.exists()`, then `read_text`, which raises for a directory.  `has_pages` is
whether `pages_dir.glob("*.mu")` finds a file, which the disk model does not list. -/
def nodeOnDisk (disk : Disk) (node_hash : String) (has_pages : Bool) : NodeOnDisk :=
  let cache_path := pathDiv [] node_hash
  let index_file := cache_path ++ ["index.mu"]
  if !(disk.isDir cache_path || (disk.file cache_path).isSome) then .missing
  else if disk.isDir index_file then .readError
  else
    match disk.file index_file with
    | none => .noIndex
    | some content => .cached content has_pages

/-- Once `cache_single_page` wrote its page, `schedule_node` finds the node cached with the
content that was fetched. -/
theorem nodeOnDisk_of_write {home : String} {disk : Disk} {q : CacheQueues} {task : CacheTask}
    {fetched : Except String PageResponse} {cached_at : String}
    (hwrote : (cacheSinglePageWrite home disk q task fetched cached_at).2.2 = true) :
    ∃ response, fetched = .ok response ∧
      (cacheSinglePageWrite home disk q task fetched cached_at).1.file
        (pathDiv [] task.nodeHash ++ ["index.mu"]) = some response.content ∧
      ∀ has_pages, nodeOnDisk (cacheSinglePageWrite home disk q task fetched cached_at).1
        task.nodeHash has_pages = .cached response.content has_pages := by
  obtain ⟨response, hfetched, -, hdir, hfiles⟩ :=
    (cacheSinglePageWrite_spec home disk q task fetched cached_at).2 hwrote
  obtain ⟨hindex, hnotDir⟩ := hfiles (_, response.content) (List.mem_cons_self _ _)
  exact ⟨response, hfetched, hindex, fun _ => by simp [nodeOnDisk, hdir, hnotDir, hindex]⟩

/-- The index page of node `ab`. -/
def abTask : CacheTask := ⟨"ab", "Alpha", "/page/index.mu"⟩

end Robumba.Cache
