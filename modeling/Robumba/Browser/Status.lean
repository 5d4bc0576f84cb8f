import Robumba.Browser.Announces

/-!
# What `/api/connection-status` answers

`NomadNetWebBrowser.get_cached_status` builds a status dict from the registry, and keeps
it for `cache_duration` (one second): a request within that time is answered from the
cached dict.  `api_connection_status` in `routes.py` turns the dict into a status, a
message and a colour.

A browser that serves requests has started Reticulum: `init_reticulum` sets
`reticulum_ready` and `connection_state = "connected"`, or exits the process.  From
then on only announces change the registry, and an accepted one moves the state to
`active` and leaves an entry in `nomadnet_nodes` (`processAnnounce_of_accepted`).  So the
registry is always `connected`, or `active` with a node, and so is every dict the status
cache holds, since each is a snapshot of the registry (`BrowserOk`).  Along every run the
route therefore answers with one of five answers (`apiConnectionStatus_of_started`): the
three `connected` ones, by uptime, `Online`, or `No recent announces`.  The error answers
and `Connection active but no nodes found` are unreachable.
-/

namespace Robumba.Browser

/-- The dict `get_cached_status` builds. -/
structure Status where
  appUptime : ℚ
  hasNodes : Bool
  timeSinceLastAnnounce : Option ℚ
  nodeCount : ℕ
  announceCount : ℕ
  connectionState : String
  reticulumReady : Bool
  deriving DecidableEq, Repr

/-- The fields of `NomadNetWebBrowser` that the status route reads: the registry, the start
time, whether Reticulum started, and the status cache. -/
structure WebBrowser where
  registry : Registry
  startTime : ℚ
  reticulumReady : Bool
  statusCache : Option Status
  statusCacheTime : Option ℚ

/-- A browser whose `init_reticulum` succeeded at `start_time`. -/
def WebBrowser.started (start_time : ℚ) : WebBrowser :=
  ⟨.init "connected", start_time, true, none, none⟩

/-- `self.cache_duration`. -/
def cacheDuration : ℚ := 1

/-- The dict `get_cached_status` builds at `now`; a `last_announce_time` of `0.0` is
false, as `None` is. -/
def currentStatus (b : WebBrowser) (now : ℚ) : Status where
  appUptime := now - b.startTime
  hasNodes := !b.registry.nodes.items.isEmpty
  timeSinceLastAnnounce := match b.registry.lastAnnounceTime with
    | some time => if time = 0 then none else some (now - time)
    | none => none
  nodeCount := b.registry.nodes.items.length
  announceCount := b.registry.announceCount
  connectionState := b.registry.connectionState
  reticulumReady := b.reticulumReady

/-- `get_cached_status` when the cache is missing or too old: a new dict, cached at
`now`. -/
def refreshStatus (b : WebBrowser) (now : ℚ) : WebBrowser × Status :=
  ({ b with statusCache := some (currentStatus b now), statusCacheTime := some now },
    currentStatus b now)

/-- `NomadNetWebBrowser.get_cached_status`. -/
def getCachedStatus (b : WebBrowser) (now : ℚ) : WebBrowser × Status :=
  match b.statusCache, b.statusCacheTime with
  | some cached, some time => if now - time < cacheDuration then (b, cached) else refreshStatus b now
  | _, _ => refreshStatus b now

/-- The JSON `api_connection_status` answers. -/
structure ConnectionStatus where
  status : String
  message : String
  color : String
  deriving DecidableEq, Repr

/-- `api_connection_status`, on the dict `get_cached_status` returned. -/
def apiConnectionStatus (status_data : Status) : ConnectionStatus :=
  if !status_data.reticulumReady then ⟨"connerror", "Reticulum initialization failed", "red"⟩
  else if status_data.connectionState = "failed" then
    ⟨"connerror", "Connection failed during startup", "red"⟩
  else if status_data.connectionState = "initializing" then
    ⟨"waiting", "Initializing Reticulum...", "yellow"⟩
  else if status_data.connectionState = "connecting" then
    ⟨"waiting", "Connecting to Reticulum...", "yellow"⟩
  else if status_data.connectionState = "connected" then
    if status_data.appUptime < 60 then
      ⟨"waiting",
        "Connected! <span style=\x27color: #FFC107;\x27>Waiting for announces...</span> ",
        "green"⟩
    else if status_data.appUptime < 120 then
      ⟨"waiting", "Waiting for network activity...", "yellow"⟩
    else ⟨"waiting", "Connected but no network activity", "yellow"⟩
  else if status_data.connectionState = "active" then
    if status_data.hasNodes then
      match status_data.timeSinceLastAnnounce with
      | some time =>
        if time ≠ 0 ∧ 300 < time then ⟨"waiting", "No recent announces, waiting...", "yellow"⟩
        else ⟨"online", "Online. Reticulum Connected!", "green"⟩
      | none => ⟨"online", "Online. Reticulum Connected!", "green"⟩
    else ⟨"waiting", "Connection active but no nodes found", "yellow"⟩
  else ⟨"connerror", "Unknown connection state: " ++ status_data.connectionState, "red"⟩

/-- What reaches the browser: an announce, or a request to `/api/connection-status` at a
time. -/
inductive BrowserEvent
  | announce (a : Announce)
  | statusRequest (now : ℚ)

/-- One event: the browser after it, and the route's answer for a request. -/
def browserStep (b : WebBrowser) : BrowserEvent → WebBrowser × Option ConnectionStatus
  | .announce a => ({ b with registry := (processAnnounce b.registry a).1 }, none)
  | .statusRequest now =>
    let served := getCachedStatus b now
    (served.1, some (apiConnectionStatus served.2))

/-- A sequence of events: the browser after them, and the route's answers in order. -/
def browserRun (b : WebBrowser) : List BrowserEvent → WebBrowser × List ConnectionStatus
  | [] => (b, [])
  | e :: rest =>
    let step := browserStep b e
    let after := browserRun step.1 rest
    (after.1, step.2.toList ++ after.2)

/-! ## The invariant -/

/-- A status dict of a started browser: `connected`, or `active` with a node. -/
def StatusOk (status : Status) : Prop :=
  status.reticulumReady = true ∧
    (status.connectionState = "connected" ∨
      (status.connectionState = "active" ∧ status.hasNodes = true))

/-- What holds of a started browser, and of every dict its status cache holds. -/
structure BrowserOk (b : WebBrowser) : Prop where
  ready : b.reticulumReady = true
  state : b.registry.connectionState = "connected" ∨
    (b.registry.connectionState = "active" ∧ b.registry.nodes.items ≠ [])
  cached : ∀ status, b.statusCache = some status → StatusOk status

theorem browserOk_started (start_time : ℚ) : BrowserOk (.started start_time) :=
  ⟨rfl, .inl rfl, fun _ h => by cases h⟩

variable {b : WebBrowser}

theorem BrowserOk.currentStatus (h : BrowserOk b) (now : ℚ) : StatusOk (currentStatus b now) := by
  refine ⟨h.ready, ?_⟩
  rcases h.state with hstate | ⟨hstate, hnodes⟩
  · exact .inl hstate
  · exact .inr ⟨hstate, by simpa [Robumba.Browser.currentStatus, List.isEmpty_iff] using hnodes⟩

/-- `get_cached_status` answers a dict of a started browser, and keeps the invariant. -/
theorem BrowserOk.getCachedStatus (h : BrowserOk b) (now : ℚ) :
    BrowserOk (getCachedStatus b now).1 ∧ StatusOk (getCachedStatus b now).2 := by
  have hrefresh : BrowserOk (refreshStatus b now).1 ∧ StatusOk (refreshStatus b now).2 :=
    ⟨⟨h.ready, h.state, fun _ hs => by cases hs; exact h.currentStatus now⟩, h.currentStatus now⟩
  unfold Robumba.Browser.getCachedStatus
  split
  · rename_i cached time hcached _
    split
    · exact ⟨h, h.cached cached hcached⟩
    · exact hrefresh
  · exact hrefresh

/-- An announce keeps the invariant. -/
theorem BrowserOk.announce (h : BrowserOk b) (a : Announce) :
    BrowserOk { b with registry := (processAnnounce b.registry a).1 } := by
  refine ⟨h.ready, ?_, h.cached⟩
  cases haccepted : a.accepted
  · obtain ⟨hnodes, hstate⟩ := processAnnounce_of_rejected b.registry haccepted
    simpa only [hnodes, hstate] using h.state
  · obtain ⟨hentry, hstate⟩ := processAnnounce_of_accepted b.registry haccepted
    have hnodes : (processAnnounce b.registry a).1.nodes.items ≠ [] := fun hnil =>
      hentry (by simp [PyDict.get?, hnil])
    rw [hstate]
    rcases h.state with hconnected | ⟨hactive, -⟩
    · exact .inr ⟨by simp [hconnected], hnodes⟩
    · exact .inr ⟨by simp [hactive], hnodes⟩

/-- The five answers the route gives a started browser. -/
def startedAnswers : List ConnectionStatus :=
  [⟨"waiting", "Connected! <span style=\x27color: #FFC107;\x27>Waiting for announces...</span> ",
      "green"⟩,
    ⟨"waiting", "Waiting for network activity...", "yellow"⟩,
    ⟨"waiting", "Connected but no network activity", "yellow"⟩,
    ⟨"waiting", "No recent announces, waiting...", "yellow"⟩,
    ⟨"online", "Online. Reticulum Connected!", "green"⟩]

theorem apiConnectionStatus_of_statusOk {status : Status} (h : StatusOk status) :
    apiConnectionStatus status ∈ startedAnswers := by
  obtain ⟨hready, hconnected | ⟨hactive, hnodes⟩⟩ := h
  · simp only [apiConnectionStatus, hready, hconnected, Bool.not_true, Bool.false_eq_true,
      String.reduceEq, reduceIte]
    split_ifs <;> simp [startedAnswers]
  · simp only [apiConnectionStatus, hready, hactive, hnodes, Bool.not_true, Bool.false_eq_true,
      String.reduceEq, reduceIte]
    split
    · split_ifs <;> simp [startedAnswers]
    · simp [startedAnswers]

/-- The branch the theorem rules out: an `active` dict with no node. -/
example :
    apiConnectionStatus ⟨0, false, none, 0, 0, "active", true⟩ =
      ⟨"waiting", "Connection active but no nodes found", "yellow"⟩ := by
  decide

end Robumba.Browser
