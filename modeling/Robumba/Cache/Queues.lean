import Robumba.Search.SearchCache

/-!
# The caching queues

`CacheManager` keeps two queues, each drained by a worker thread: `cache_queue` of
`(node_hash, node_name, page_path)` tasks and `additional_cache_queue` of
`(node_hash, node_name)` tasks.  `schedule_node`, called on every node announce, queues
a node whose cache is missing or thin, or else its additional pages.
`api_refresh_node_cache` and the `refresh_cache` action queue nodes with `enqueue_cache`,
and the `cache_additional_all` action queues the additional pages of every cached node.
After caching a page, `cache_single_page` queues the node's additional pages when
`cache_additional` is set and the page is the node's index.

Every call of `enqueue_cache` leaves `page_path` at its default
`join(os.environ["HOME"], "/page/index.mu")`.  Its second part is absolute, so
`posixpath.join` drops `HOME` and the default is `/page/index.mu`.  `cache_single_page`
compares `page_path` with `join(os.environ["HOME"], "page/index.mu")`, which is under
`HOME`.  The two agree only when `HOME` is `/` (`defaultPagePath_eq_indexPagePath_iff`).
So, along every run, every task of `cache_queue` carries the default path
(`DefaultPaths.run`), and unless `HOME` is `/` the cache worker never queues additional
pages (`cacheWorker_keeps_additionalQueue`).

The disk is observed, not modelled: an announce carries what `schedule_node` finds, and
a cache worker step carries whether `cache_single_page` fetched and wrote the page.
-/

namespace Robumba.Cache

open Robumba.Search (TextRules strip)

/-! ## `posixpath.join` -/

/-- `posixpath.join(a, b)`: an absolute `b` replaces `a`, and otherwise `b` follows `a`
after a separator, unless `a` is empty or already ends with one. -/
def pathJoin (a b : String) : String :=
  if "/".data.isPrefixOf b.data then b
  else if a.data = [] ∨ a.data.getLast? = some '/' then a ++ b
  else a ++ "/" ++ b

/-- The default `page_path` of `enqueue_cache`. -/
def defaultPagePath (home : String) : String := pathJoin home "/page/index.mu"

/-- The index path `cache_single_page` compares `page_path` with. -/
def indexPagePath (home : String) : String := pathJoin home "page/index.mu"

theorem defaultPagePath_eq (home : String) : defaultPagePath home = "/page/index.mu" := by
  rw [defaultPagePath, pathJoin, if_pos (by decide)]

/-- The default page path is the index path only for `HOME = "/"`. -/
theorem defaultPagePath_eq_indexPagePath_iff (home : String) :
    defaultPagePath home = indexPagePath home ↔ home = "/" := by
  have hpage : "/page/index.mu".data = ['/'] ++ "page/index.mu".data := rfl
  rw [defaultPagePath_eq, indexPagePath, pathJoin, if_neg (by decide)]
  split
  · rw [String.ext_iff, String.ext_iff, String.data_append, hpage, List.append_left_inj]
    exact eq_comm
  · rename_i hsep
    rw [String.ext_iff, String.data_append, String.data_append, hpage, List.append_assoc]
    constructor
    · intro h
      have hempty := List.append_cancel_right (h.symm.trans (List.nil_append _).symm)
      exact absurd (.inl hempty) hsep
    · rintro rfl
      exact absurd (.inr rfl) hsep

/-! ## The queues -/

/-- A task of `cache_queue`. -/
structure CacheTask where
  nodeHash : String
  nodeName : String
  pagePath : String
  deriving DecidableEq, Repr

/-- The settings the queues read: `auto_cache_enabled` and `cache_additional`. -/
structure QueueSettings where
  autoCacheEnabled : Bool
  cacheAdditional : Bool
  deriving DecidableEq, Repr

/-- The two queues and the settings they read. -/
structure CacheQueues where
  settings : QueueSettings
  cacheQueue : List CacheTask
  additionalQueue : List (String × String)
  deriving DecidableEq, Repr

/-- Both queues empty. -/
def CacheQueues.init (settings : QueueSettings) : CacheQueues := ⟨settings, [], []⟩

/-- `enqueue_cache(node_hash, node_name, page_path)`. -/
def enqueueCache (q : CacheQueues) (node_hash node_name page_path : String) : CacheQueues :=
  { q with cacheQueue := q.cacheQueue ++ [⟨node_hash, node_name, page_path⟩] }

/-- `enqueue_additional(node_hash, node_name)`. -/
def enqueueAdditional (q : CacheQueues) (node_hash node_name : String) : CacheQueues :=
  { q with additionalQueue := q.additionalQueue ++ [(node_hash, node_name)] }

@[simp] theorem enqueueCache_additionalQueue (q : CacheQueues)
    (node_hash node_name page_path : String) :
    (enqueueCache q node_hash node_name page_path).additionalQueue = q.additionalQueue := rfl

@[simp] theorem enqueueAdditional_cacheQueue (q : CacheQueues) (node_hash node_name : String) :
    (enqueueAdditional q node_hash node_name).cacheQueue = q.cacheQueue := rfl

/-- What `schedule_node` finds for a node: no directory, a directory without `index.mu`,
a read of `index.mu` or of `pages/` that raised, or the text of `index.mu` and whether
`pages/` holds a `.mu` file. -/
inductive NodeOnDisk
  | missing
  | noIndex
  | readError
  | cached (content : String) (has_pages : Bool)
  deriving DecidableEq, Repr

/-- `should_cache` and `should_cache_additional` of `schedule_node`. -/
def scheduleNeeds (rules : TextRules) (cache_additional : Bool) : NodeOnDisk → Bool × Bool
  | .missing | .noIndex | .readError => (true, false)
  | .cached content has_pages =>
    if (strip rules content).length < 10 then (true, false)
    else (false, cache_additional && !has_pages)

/-- `schedule_node(node_hash, node_name)`: the queue the node goes to, if auto-caching is
on. -/
def scheduleNode (rules : TextRules) (home : String) (q : CacheQueues)
    (node_hash node_name : String) (disk : NodeOnDisk) : CacheQueues :=
  let needs := scheduleNeeds rules q.settings.cacheAdditional disk
  if needs.1 && q.settings.autoCacheEnabled then
    enqueueCache q node_hash node_name (defaultPagePath home)
  else if needs.2 && q.settings.autoCacheEnabled then enqueueAdditional q node_hash node_name
  else q

/-- An announce that finds an `index.mu` of at least ten characters once stripped does not
queue the node for caching. -/
theorem scheduleNode_cacheQueue_of_cached {rules : TextRules} {content : String}
    (hlong : 10 ≤ (strip rules content).length) (home : String) (q : CacheQueues)
    (node_hash node_name : String) (has_pages : Bool) :
    (scheduleNode rules home q node_hash node_name (.cached content has_pages)).cacheQueue =
      q.cacheQueue := by
  have hneeds : (scheduleNeeds rules q.settings.cacheAdditional (.cached content has_pages)).1 =
      false := by
    simp [scheduleNeeds, Nat.not_lt.mpr hlong]
  simp only [scheduleNode, hneeds, Bool.false_and, Bool.false_eq_true, if_false]
  split <;> rfl

/-- The queue effect of `cache_single_page(node_hash, node_name, page_path)`, for whether
it fetched and wrote the page: the additional pages are queued if `cache_additional` is
set and `page_path` is the node's index page. -/
def cacheSinglePage (home : String) (q : CacheQueues) (task : CacheTask) (cached : Bool) :
    CacheQueues :=
  if cached && q.settings.cacheAdditional && task.pagePath == indexPagePath home then
    enqueueAdditional q task.nodeHash task.nodeName
  else q

/-! ## Events -/

/-- What touches the queues: an announce, the refresh route, the `refresh_cache`,
`cache_additional_all`, `toggle_auto_cache` and `toggle_additional_pages` actions (with the
known nodes, or the cached node directories), and one task taken by each worker. -/
inductive QueueEvent
  | announce (node_hash node_name : String) (disk : NodeOnDisk)
  | refresh (node_hash node_name : String)
  | refreshAll (nodes : List (String × String))
  | cacheAdditionalAll (nodes : List (String × String))
  | setAutoCache (enabled : Bool)
  | setCacheAdditional (enabled : Bool)
  | cacheWorker (cached : Bool)
  | additionalWorker
  deriving DecidableEq, Repr

/-- The effect of one event on the queues. -/
def queueStep (rules : TextRules) (home : String) (q : CacheQueues) : QueueEvent → CacheQueues
  | .announce node_hash node_name disk => scheduleNode rules home q node_hash node_name disk
  | .refresh node_hash node_name => enqueueCache q node_hash node_name (defaultPagePath home)
  | .refreshAll nodes =>
    nodes.foldl (fun q node => enqueueCache q node.1 node.2 (defaultPagePath home)) q
  | .cacheAdditionalAll nodes =>
    if q.settings.cacheAdditional then
      nodes.foldl (fun q node => enqueueAdditional q node.1 node.2) q
    else q
  | .setAutoCache enabled => { q with settings := { q.settings with autoCacheEnabled := enabled } }
  | .setCacheAdditional enabled =>
    { q with settings := { q.settings with cacheAdditional := enabled } }
  | .cacheWorker cached =>
    match q.cacheQueue with
    | [] => q
    | task :: rest => cacheSinglePage home { q with cacheQueue := rest } task cached
  | .additionalWorker => { q with additionalQueue := q.additionalQueue.drop 1 }

/-- The queues after a sequence of events. -/
def queueRun (rules : TextRules) (home : String) : CacheQueues → List QueueEvent → CacheQueues
  | q, [] => q
  | q, e :: es => queueRun rules home (queueStep rules home q e) es

/-! ## Every cache task carries the default path -/

/-- Every task of `cache_queue` has the default `page_path`. -/
def DefaultPaths (home : String) (q : CacheQueues) : Prop :=
  ∀ task ∈ q.cacheQueue, task.pagePath = defaultPagePath home

variable {rules : TextRules} {home : String} {q : CacheQueues}

theorem DefaultPaths.enqueueCache (h : DefaultPaths home q) (node_hash node_name : String) :
    DefaultPaths home (enqueueCache q node_hash node_name (defaultPagePath home)) := by
  intro task htask
  rcases List.mem_append.mp htask with htask | htask
  · exact h task htask
  · rw [List.mem_singleton.mp htask]

theorem DefaultPaths.refreshAll (nodes : List (String × String)) :
    ∀ q, DefaultPaths home q →
      DefaultPaths home
        (nodes.foldl (fun q node => Cache.enqueueCache q node.1 node.2 (defaultPagePath home))
          q) := by
  induction nodes with
  | nil => exact fun _ h => h
  | cons node nodes ih => exact fun q h => ih _ (h.enqueueCache node.1 node.2)

/-- `enqueue_additional` leaves `cache_queue` as it is. -/
theorem cacheAdditionalAll_cacheQueue (nodes : List (String × String)) (q : CacheQueues) :
    (nodes.foldl (fun q node => enqueueAdditional q node.1 node.2) q).cacheQueue =
      q.cacheQueue := by
  induction nodes generalizing q with
  | nil => rfl
  | cons node nodes ih => exact ih _

theorem cacheSinglePage_cacheQueue (q : CacheQueues) (task : CacheTask) (cached : Bool) :
    (cacheSinglePage home q task cached).cacheQueue = q.cacheQueue := by
  unfold cacheSinglePage
  split <;> rfl

/-- One event keeps every cache task on the default path. -/
theorem DefaultPaths.queueStep (h : DefaultPaths home q) (e : QueueEvent) :
    DefaultPaths home (queueStep rules home q e) := by
  cases e with
  | announce node_hash node_name disk =>
    simp only [Cache.queueStep, scheduleNode]
    split
    · exact h.enqueueCache _ _
    · split <;> exact h
  | refresh node_hash node_name => exact h.enqueueCache _ _
  | refreshAll nodes => exact DefaultPaths.refreshAll nodes q h
  | cacheAdditionalAll nodes =>
    simp only [Cache.queueStep]
    split
    · intro task htask
      rw [cacheAdditionalAll_cacheQueue] at htask
      exact h task htask
    · exact h
  | setAutoCache enabled => exact h
  | setCacheAdditional enabled => exact h
  | cacheWorker cached =>
    simp only [Cache.queueStep]
    split
    · exact h
    · rename_i task rest hqueue
      intro t ht
      rw [cacheSinglePage_cacheQueue] at ht
      exact h t (by rw [hqueue]; exact List.mem_cons_of_mem _ ht)
  | additionalWorker => exact h

/-- A whole run keeps every cache task on the default path. -/
theorem DefaultPaths.run (h : DefaultPaths home q) (events : List QueueEvent) :
    DefaultPaths home (queueRun rules home q events) := by
  induction events generalizing q with
  | nil => exact h
  | cons e events ih => exact ih (h.queueStep e)

/-! ## The cache worker and the additional pages -/

/-- A cache worker step on a task with the default path queues nothing, unless `HOME` is
`/`. -/
theorem cacheWorker_eq_of_defaultPaths (hhome : home ≠ "/") (h : DefaultPaths home q)
    (cached : Bool) :
    (queueStep rules home q (.cacheWorker cached)).additionalQueue = q.additionalQueue := by
  simp only [queueStep]
  split
  · rfl
  · rename_i task rest hqueue
    have hpath : task.pagePath = defaultPagePath home := h task (by simp [hqueue])
    have hne : (task.pagePath == indexPagePath home) = false := by
      rw [hpath, beq_eq_false_iff_ne]
      exact fun heq => hhome ((defaultPagePath_eq_indexPagePath_iff home).mp heq)
    simp [cacheSinglePage, hne]

/-- Unless `HOME` is `/`, along every run from empty queues the cache worker never queues
additional pages: they are queued only by `schedule_node` and the `cache_additional_all`
action. -/
theorem cacheWorker_keeps_additionalQueue (hhome : home ≠ "/") (settings : QueueSettings)
    (events : List QueueEvent) (cached : Bool) :
    (queueStep rules home (queueRun rules home (.init settings) events)
        (.cacheWorker cached)).additionalQueue =
      (queueRun rules home (.init settings) events).additionalQueue :=
  cacheWorker_eq_of_defaultPaths hhome
    (DefaultPaths.run (fun _ h => absurd h (List.not_mem_nil _)) events) cached

theorem cacheWorker_keeps_additionalQueue_root :
    "/root" ≠ "/" ∧
      (queueStep Search.asciiText "/root"
          (queueRun Search.asciiText "/root" (.init ⟨true, true⟩)
            [.announce "n1" "Alpha" .missing]) (.cacheWorker true)).additionalQueue =
        (queueRun Search.asciiText "/root" (.init ⟨true, true⟩)
          [.announce "n1" "Alpha" .missing]).additionalQueue :=
  ⟨by decide, cacheWorker_keeps_additionalQueue (by decide) _ _ _⟩

end Robumba.Cache
