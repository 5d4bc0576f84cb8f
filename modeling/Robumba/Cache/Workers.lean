import Robumba.Cache.SinglePage

/-!
# The cache and its two workers

`CacheManager` runs two threads on the cache directory.  `_cache_worker` takes the next
task of `cache_queue` and runs `cache_single_page` on it.  `_additional_cache_worker` takes
the next node of `additional_cache_queue` and runs `cache_additional_pages`, whose
exception it catches.  Announces, the routes and the settings actions only add to the
queues or switch the settings.  A `CacheEvent` is one of these steps, with what the nodes
answered, and any interleaving of them is a run (`cacheRun`).

* Every run is a run of the queue model (`cacheRun_refines`): a route is its own event, a
  page task is `cacheWorker` with whether the three files were written, and a node of the
  additional queue is `additionalWorker`.
* Every step changes the disk only near the top (`Shallow`).  It creates no directory
  three levels below the cache directory, and writes no file four levels below whose parent
  was no directory.  This holds as long as every queued node hash names one directory, as a
  hexadecimal hash does (`SingleLevel`).  So along every run, whatever the nodes answer,
  the two nested `ADDITIONAL_PAGES` are cached for no node
  (`nested_pages_never_cached_run`).
-/

namespace Robumba.Cache

open Robumba.Search (TextRules)
open Robumba.Fetch (PageResponse)

/-! ## Runs -/

/-- `_additional_cache_worker`, one node of `additional_cache_queue`: `cache_additional_pages`
with the current `cache_additional` setting.  The loop catches what it raises, and what the
pages wrote before stays. -/
def additionalWorkerOnDisk (rules : TextRules) (disk : Disk) (q : CacheQueues)
    (fetched : String → Except String PageResponse) : Disk × CacheQueues :=
  match q.additionalQueue with
  | [] => (disk, q)
  | (node_hash, _) :: rest =>
    ((cacheAdditionalPages rules q.settings.cacheAdditional disk node_hash fetched).toOption.getD
      disk, { q with additionalQueue := rest })

/-- What changes the cache: a step that only touches the queues (an announce, a route or a
settings action), one task of the cache worker, or one node of the additional worker. -/
inductive CacheEvent
  | route (e : QueueEvent)
  | cacheTask (fetched : Except String PageResponse) (cached_at : String)
  | additionalTask (fetched : String → Except String PageResponse)

/-- One step: the disk and the queues after it, and the queue-model event it amounts to. -/
def cacheStep (rules : TextRules) (home : String) (s : Disk × CacheQueues) :
    CacheEvent → (Disk × CacheQueues) × QueueEvent
  | .route e => ((s.1, queueStep rules home s.2 e), e)
  | .cacheTask fetched cached_at =>
    let r := cacheWorkerOnDisk home s.1 s.2 fetched cached_at
    ((r.1, r.2.1), .cacheWorker r.2.2)
  | .additionalTask fetched => (additionalWorkerOnDisk rules s.1 s.2 fetched, .additionalWorker)

/-- A run: the disk and the queues at its end, and the queue-model events it amounts to. -/
def cacheRun (rules : TextRules) (home : String) :
    Disk × CacheQueues → List CacheEvent → (Disk × CacheQueues) × List QueueEvent
  | s, [] => (s, [])
  | s, e :: es =>
    let step := cacheStep rules home s e
    let rest := cacheRun rules home step.1 es
    (rest.1, step.2 :: rest.2)

/-! ## The queues -/

theorem cacheStep_queues (rules : TextRules) (home : String) (s : Disk × CacheQueues)
    (e : CacheEvent) :
    (cacheStep rules home s e).1.2 = queueStep rules home s.2 (cacheStep rules home s e).2 := by
  cases e with
  | route e => rfl
  | cacheTask fetched cached_at =>
    exact (cacheWorkerOnDisk_refines rules home s.1 s.2 fetched cached_at).1
  | additionalTask fetched =>
    obtain ⟨disk, settings, cacheQueue, additionalQueue⟩ := s
    cases additionalQueue <;> rfl

/-- Every run moves the queues as the queue model's run of the events it amounts to. -/
theorem cacheRun_refines (rules : TextRules) (home : String) (s : Disk × CacheQueues)
    (events : List CacheEvent) :
    (cacheRun rules home s events).1.2 =
      queueRun rules home s.2 (cacheRun rules home s events).2 := by
  induction events generalizing s with
  | nil => rfl
  | cons e events ih =>
    simp only [cacheRun, queueRun]
    rw [ih, cacheStep_queues]

/-! ## Node hashes of one level -/

/-- The node hashes an event queues. -/
def QueueEvent.hashes : QueueEvent → List String
  | .announce node_hash _ _ => [node_hash]
  | .refresh node_hash _ => [node_hash]
  | .refreshAll nodes => nodes.map Prod.fst
  | .cacheAdditionalAll nodes => nodes.map Prod.fst
  | _ => []

/-- A node hash that names one directory below the cache directory. -/
def OneLevel (node_hash : String) : Prop := pathDiv [] node_hash = [node_hash]

instance (node_hash : String) : Decidable (OneLevel node_hash) :=
  inferInstanceAs (Decidable (pathDiv [] node_hash = [node_hash]))

/-- Every queued node hash names one directory. -/
def SingleLevel (q : CacheQueues) : Prop :=
  (∀ task ∈ q.cacheQueue, OneLevel task.nodeHash) ∧ ∀ node ∈ q.additionalQueue, OneLevel node.1

theorem SingleLevel.enqueueCache {q : CacheQueues} (h : SingleLevel q) {node_hash : String}
    (hnode : OneLevel node_hash) (node_name page_path : String) :
    SingleLevel (enqueueCache q node_hash node_name page_path) := by
  refine ⟨fun task htask => ?_, h.2⟩
  rcases List.mem_append.mp htask with htask | htask
  · exact h.1 task htask
  · rw [List.mem_singleton.mp htask]
    exact hnode

theorem SingleLevel.enqueueAdditional {q : CacheQueues} (h : SingleLevel q) {node_hash : String}
    (hnode : OneLevel node_hash) (node_name : String) :
    SingleLevel (enqueueAdditional q node_hash node_name) := by
  refine ⟨h.1, fun node hmem => ?_⟩
  rcases List.mem_append.mp hmem with hmem | hmem
  · exact h.2 node hmem
  · rw [List.mem_singleton.mp hmem]
    exact hnode

/-- An event whose hashes name one directory each keeps the queues so. -/
theorem SingleLevel.queueStep {q : CacheQueues} (h : SingleLevel q) (rules : TextRules)
    (home : String) {e : QueueEvent} (he : ∀ node_hash ∈ e.hashes, OneLevel node_hash) :
    SingleLevel (queueStep rules home q e) := by
  have hfold : ∀ (add : CacheQueues → String → String → CacheQueues),
      (∀ q n name, SingleLevel q → OneLevel n → SingleLevel (add q n name)) →
      ∀ (nodes : List (String × String)) (q : CacheQueues), SingleLevel q →
        (∀ node ∈ nodes, OneLevel node.1) →
        SingleLevel (nodes.foldl (fun q node => add q node.1 node.2) q) := by
    intro add hadd nodes
    induction nodes with
    | nil => exact fun q hq _ => hq
    | cons node nodes ih =>
      exact fun q hq hnodes => ih _ (hadd q _ _ hq (hnodes node (List.mem_cons_self _ _)))
        (fun n hn => hnodes n (List.mem_cons_of_mem _ hn))
  cases e with
  | announce node_hash node_name disk =>
    have hnode := he node_hash (List.mem_singleton_self _)
    simp only [Cache.queueStep, scheduleNode]
    split_ifs
    · exact h.enqueueCache hnode _ _
    · exact h.enqueueAdditional hnode _
    · exact h
  | refresh node_hash node_name => exact h.enqueueCache (he _ (List.mem_singleton_self _)) _ _
  | refreshAll nodes =>
    exact hfold (fun q n name => Cache.enqueueCache q n name (defaultPagePath home))
      (fun q _ _ hq hn => hq.enqueueCache hn _ _) nodes q h
      (fun node hmem => he _ (List.mem_map_of_mem _ hmem))
  | cacheAdditionalAll nodes =>
    simp only [Cache.queueStep]
    split
    · exact hfold (fun q n name => Cache.enqueueAdditional q n name)
        (fun q _ _ hq hn => hq.enqueueAdditional hn _) nodes q h
        (fun node hmem => he _ (List.mem_map_of_mem _ hmem))
    · exact h
  | setAutoCache enabled => exact h
  | setCacheAdditional enabled => exact h
  | cacheWorker cached =>
    simp only [Cache.queueStep]
    split
    · exact h
    · rename_i task rest hqueue
      have htask : OneLevel task.nodeHash := h.1 task (by rw [hqueue]; exact List.mem_cons_self _ _)
      have hrest : SingleLevel { q with cacheQueue := rest } :=
        ⟨fun t ht => h.1 t (by rw [hqueue]; exact List.mem_cons_of_mem _ ht), h.2⟩
      unfold cacheSinglePage
      split
      · exact hrest.enqueueAdditional htask _
      · exact hrest
  | additionalWorker => exact ⟨h.1, fun node hmem => h.2 node (List.mem_of_mem_drop hmem)⟩

/-! ## The disk below the `pages` directories -/

/-- `after` differs from `before` only near the top: a path three levels down is a
directory in both or in neither, and a file four levels down whose parent is no directory
in `before` is the same in both. -/
structure Shallow (before after : Disk) : Prop where
  isDir : ∀ p : CachePath, 3 ≤ p.length → after.isDir p = before.isDir p
  file : ∀ p : CachePath, 4 ≤ p.length → before.isDir p.dropLast = false →
    after.file p = before.file p

theorem Shallow.refl (disk : Disk) : Shallow disk disk := ⟨fun _ _ => rfl, fun _ _ _ => rfl⟩

theorem Shallow.trans {a b c : Disk} (hab : Shallow a b) (hbc : Shallow b c) : Shallow a c := by
  refine ⟨fun p hp => (hbc.isDir p hp).trans (hab.isDir p hp), fun p hp hparent => ?_⟩
  have hlen : 3 ≤ p.dropLast.length := by rw [List.length_dropLast]; omega
  rw [hbc.file p hp (by rw [hab.isDir _ hlen, hparent]), hab.file p hp hparent]

/-- Creating the directory of a one-level node hash. -/
theorem Shallow.mkdirParents {disk disk' : Disk} {node_hash : String}
    (h : Cache.mkdirParents disk [node_hash] = .ok disk') : Shallow disk disk' := by
  have hone : Cache.mkdirParents disk [node_hash] = mkdir disk [node_hash] := by
    cases hmk : mkdir disk [node_hash] <;> simp [Cache.mkdirParents, hmk, List.inits]
  rw [hone] at h
  obtain ⟨hfile, hdir⟩ := mkdir_ok h
  refine ⟨fun p hp => ?_, fun p _ _ => by rw [hfile]⟩
  cases hafter : disk'.isDir p
  · cases hbefore : disk.isDir p
    · rfl
    · rw [mkdir_isDir h hbefore] at hafter
      cases hafter
  · rcases hdir p hafter with hbefore | rfl
    · exact hbefore.symm
    · simp at hp

/-- One page of `cache_additional_pages`, for a one-level node directory. -/
theorem Shallow.cacheAdditionalPage (rules : TextRules) (node_hash : String) (disk : Disk)
    (page_path : String) (response : Except String PageResponse) :
    Shallow disk (Cache.cacheAdditionalPage rules [node_hash] disk page_path response) := by
  refine ⟨fun p hp => ?_, fun p hp hparent => ?_⟩
  · obtain ⟨hdir, -⟩ := cacheAdditionalPage_effect rules [node_hash] disk page_path response p
    cases hafter : (Cache.cacheAdditionalPage rules [node_hash] disk page_path response).isDir p
    · cases hbefore : disk.isDir p
      · rfl
      · rw [cacheAdditionalPage_isDir rules [node_hash] disk page_path response hbefore] at hafter
        cases hafter
    · rcases hdir hafter with hbefore | rfl
      · exact hbefore.symm
      · simp at hp
  · obtain ⟨-, hfile⟩ := cacheAdditionalPage_effect rules [node_hash] disk page_path response p
    rcases hfile with hfile | ⟨-, hdir | hpages⟩
    · exact hfile
    · rw [hparent] at hdir
      cases hdir
    · have hlen := congrArg List.length hpages
      simp only [List.length_dropLast, List.length_append, List.length_singleton] at hlen
      omega

/-- `cache_additional_pages` for a one-level node hash, whether it returns or raises. -/
theorem Shallow.cacheAdditionalPages (rules : TextRules) (cache_additional : Bool) (disk : Disk)
    {node_hash : String} (hnode : OneLevel node_hash)
    (fetched : String → Except String PageResponse) :
    Shallow disk
      ((Cache.cacheAdditionalPages rules cache_additional disk node_hash fetched).toOption.getD
        disk) := by
  have hfold : ∀ (pages : List String) (d : Disk), Shallow disk d →
      Shallow disk (pages.foldl (fun d page_path =>
        Cache.cacheAdditionalPage rules [node_hash] d page_path (fetched page_path)) d) := by
    intro pages
    induction pages with
    | nil => exact fun _ h => h
    | cons page_path pages ih =>
      exact fun d h => ih _ (h.trans (Shallow.cacheAdditionalPage rules node_hash d page_path _))
  cases cache_additional with
  | false => exact Shallow.refl disk
  | true =>
    simp only [Cache.cacheAdditionalPages, Bool.not_true, Bool.false_eq_true, if_false,
      show pathDiv [] node_hash = [node_hash] from hnode]
    cases hmade : Cache.mkdirParents disk [node_hash] with
    | error e => exact Shallow.refl disk
    | ok made => exact hfold additionalPages made (Shallow.mkdirParents hmade)

/-- `cache_single_page` for a one-level node hash. -/
theorem Shallow.cacheSinglePageWrite (home : String) (disk : Disk) (q : CacheQueues)
    {task : CacheTask} (hnode : OneLevel task.nodeHash) (fetched : Except String PageResponse)
    (cached_at : String) :
    Shallow disk (Cache.cacheSinglePageWrite home disk q task fetched cached_at).1 := by
  unfold Cache.cacheSinglePageWrite
  split
  · exact Shallow.refl disk
  · split
    · exact Shallow.refl disk
    · dsimp only
      rw [hnode]
      split
      · exact Shallow.refl disk
      · rename_i made hmade
        refine (Shallow.mkdirParents hmade).trans ⟨fun p _ => by rw [writeCacheFiles,
          writeAll_isDir], fun p hp _ => writeAll_file_of_not_mem _ _ ?_⟩
        intro hmem
        simp only [cacheFiles, List.map_cons, List.map_nil, List.mem_cons,
          List.not_mem_nil, or_false] at hmem
        rcases hmem with rfl | rfl | rfl <;> simp at hp

/-- Every step from queues of one-level node hashes changes the disk only near the top. -/
theorem Shallow.cacheStep (rules : TextRules) (home : String) {s : Disk × CacheQueues}
    (hqueues : SingleLevel s.2) (e : CacheEvent) : Shallow s.1 (cacheStep rules home s e).1.1 := by
  cases e with
  | route e => exact Shallow.refl s.1
  | cacheTask fetched cached_at =>
    simp only [Cache.cacheStep, cacheWorkerOnDisk]
    split
    · exact Shallow.refl s.1
    · rename_i task rest hqueue
      exact Shallow.cacheSinglePageWrite home s.1 _
        (hqueues.1 task (by rw [hqueue]; exact List.mem_cons_self _ _)) fetched cached_at
  | additionalTask fetched =>
    simp only [Cache.cacheStep, additionalWorkerOnDisk]
    split
    · exact Shallow.refl s.1
    · rename_i node_hash node_name rest hqueue
      exact Shallow.cacheAdditionalPages rules _ s.1
        (hqueues.2 (node_hash, node_name) (by rw [hqueue]; exact List.mem_cons_self _ _)) fetched

/-- Every event keeps the queued node hashes one level deep, when its own are. -/
theorem SingleLevel.cacheStep {s : Disk × CacheQueues} (h : SingleLevel s.2) (rules : TextRules)
    (home : String) {e : CacheEvent}
    (he : ∀ e', e = .route e' → ∀ node_hash ∈ e'.hashes, OneLevel node_hash) :
    SingleLevel (Cache.cacheStep rules home s e).1.2 := by
  rw [cacheStep_queues]
  apply h.queueStep rules home
  cases e with
  | route e' => exact he e' rfl
  | cacheTask fetched cached_at =>
    exact fun _ h => by simp [Cache.cacheStep, QueueEvent.hashes] at h
  | additionalTask fetched => exact fun _ h => by simp [Cache.cacheStep, QueueEvent.hashes] at h

/-- Along every run whose routes queue one-level node hashes only, from queues of such hashes,
the disk changes only near the top. -/
theorem Shallow.cacheRun (rules : TextRules) (home : String) {s : Disk × CacheQueues}
    (hqueues : SingleLevel s.2) {events : List CacheEvent}
    (hevents : ∀ e, CacheEvent.route e ∈ events → ∀ node_hash ∈ e.hashes, OneLevel node_hash) :
    Shallow s.1 (Cache.cacheRun rules home s events).1.1 := by
  induction events generalizing s with
  | nil => exact Shallow.refl s.1
  | cons e events ih =>
    have hstep := SingleLevel.cacheStep hqueues rules home
      (fun e' he' => hevents e' (he' ▸ List.mem_cons_self _ _))
    exact (Shallow.cacheStep rules home hqueues e).trans
      (ih hstep fun e' hmem => hevents e' (List.mem_cons_of_mem _ hmem))

/-- Along every interleaving of announces, routes, settings actions and the two workers,
whatever the nodes answer, the two nested `ADDITIONAL_PAGES` are cached for no node: while
no node directory had their subdirectory of `pages` at the start, none has it at the end, and
their target files hold what they held.  The queued node hashes must name one directory
each, as the hexadecimal hashes of announces do. -/
theorem nested_pages_never_cached_run (rules : TextRules) (home : String) (disk : Disk)
    (q : CacheQueues) (events : List CacheEvent) (hqueues : SingleLevel q)
    (hevents : ∀ e, CacheEvent.route e ∈ events → ∀ node_hash ∈ e.hashes, OneLevel node_hash)
    (habsent : ∀ (node_hash : String), ∀ page_path ∈ nestedPages,
      disk.isDir (additionalTarget [node_hash] page_path).dropLast = false) :
    ∀ (node_hash : String), ∀ page_path ∈ nestedPages,
      (cacheRun rules home (disk, q) events).1.1.file (additionalTarget [node_hash] page_path) =
          disk.file (additionalTarget [node_hash] page_path) ∧
        (cacheRun rules home (disk, q) events).1.1.isDir
          (additionalTarget [node_hash] page_path).dropLast = false := by
  intro node_hash page_path hnested
  have hshallow := Shallow.cacheRun rules home (s := (disk, q)) hqueues hevents
  have hparent := nested_parent_length hnested [node_hash]
  have htarget : 4 ≤ (additionalTarget [node_hash] page_path).length := by
    rw [List.length_dropLast] at hparent
    simp only [List.length_singleton] at hparent
    omega
  refine ⟨hshallow.file _ htarget (habsent node_hash page_path hnested), ?_⟩
  rw [hshallow.isDir _ (by rw [hparent]; simp), habsent node_hash page_path hnested]

/-- Node `ab` refreshed, its index page cached, then its additional pages, on a node that
answers every page with `hello`. -/
def abEvents : List CacheEvent :=
  [.route (.refresh "ab" "Alpha"), .cacheTask (.ok ⟨"hello", "success", none⟩) "5",
    .additionalTask helloEverywhere]

theorem nested_pages_never_cached_run_ab :
    SingleLevel (.init ⟨true, true⟩) ∧
      (∀ e, CacheEvent.route e ∈ abEvents → ∀ node_hash ∈ e.hashes, OneLevel node_hash) ∧
      (∀ (node_hash : String), ∀ page_path ∈ nestedPages,
        emptyCache.isDir (additionalTarget [node_hash] page_path).dropLast = false) ∧
      ∀ (node_hash : String), ∀ page_path ∈ nestedPages,
        (cacheRun Search.asciiText "/" (emptyCache, .init ⟨true, true⟩) abEvents).1.1.file
            (additionalTarget [node_hash] page_path) =
          emptyCache.file (additionalTarget [node_hash] page_path) ∧
        (cacheRun Search.asciiText "/" (emptyCache, .init ⟨true, true⟩) abEvents).1.1.isDir
          (additionalTarget [node_hash] page_path).dropLast = false :=
  have hqueues : SingleLevel (.init ⟨true, true⟩) :=
    ⟨fun _ h => (nomatch h), fun _ h => (nomatch h)⟩
  have hevents : ∀ e, CacheEvent.route e ∈ abEvents →
      ∀ node_hash ∈ e.hashes, OneLevel node_hash := by
    intro e he node_hash hnode
    simp only [abEvents, List.mem_cons, CacheEvent.route.injEq, reduceCtorEq,
      List.not_mem_nil, or_false] at he
    subst he
    rw [List.mem_singleton.mp hnode]
    decide
  have habsent : ∀ (node_hash : String), ∀ page_path ∈ nestedPages,
      emptyCache.isDir (additionalTarget [node_hash] page_path).dropLast = false :=
    fun node_hash page_path hnested => by
      have hlen := nested_parent_length hnested [node_hash]
      cases hparent : (additionalTarget [node_hash] page_path).dropLast with
      | nil => rw [hparent] at hlen; cases hlen
      | cons _ _ => rfl
  ⟨hqueues, hevents, habsent, nested_pages_never_cached_run Search.asciiText "/" emptyCache _
    abEvents hqueues hevents habsent⟩

end Robumba.Cache
