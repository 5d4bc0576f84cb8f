import Robumba.Format
import Robumba.Downloads.Handlers
import Robumba.Downloads.Bookkeeping
import Robumba.Downloads.Progress
import Robumba.Cache.SizeLimit
import Robumba.Cache.Eviction
import Robumba.Cache.Queues
import Robumba.Cache.AdditionalPages
import Robumba.Cache.SinglePage
import Robumba.Cache.Workers
import Robumba.Cache.Timestamps
import Robumba.Cache.Stats
import Robumba.Search.Snippet
import Robumba.Search.SearchCache
import Robumba.Search.SearchLimit
import Robumba.Calls.CallManager
import Robumba.Calls.CallState
import Robumba.Calls.CallChecks
import Robumba.Fetch.Requests
import Robumba.Fetch.FailedRequests
import Robumba.Browser.PyDict
import Robumba.Browser.Announces
import Robumba.Browser.Links
import Robumba.Browser.Status
import Robumba.Browser.Refresh
import Robumba.Browser.CacheSettings
import Robumba.Browser.Ping
