import Robumba.Browser.Announces
import Robumba.Cache.Queues

/-!
# The cache settings

`CacheManager.settings` in `cache.py` is a dict of JSON values: `DEFAULT_SETTINGS`, updated
at start with `cache_settings.json` when that file loads (`_load_settings`).
`api_cache_settings` in `routes.py` answers a GET with the dict, and a POST by its
`action`.  Five actions set one setting each from a field of the request, with a default
for a missing field; `clear_cache`, `refresh_cache` and `cache_additional_all` act on the
cache and the queues and return early; every other action, and a body without one, only
saves the settings.  Every save happens after the dict has changed, so a save that raises
leaves the new settings in memory and the old file on disk.

The readers take the values as Python does: `schedule_node` and `cache_single_page` by
their truth value (`queueSettingsOf`), `enforce_size_limit`, `cleanup_expired_cache` and
`api_search_cache` through `int()` (`intSetting`).  So the `toggle_...` actions set rather
than toggle, and the string `"false"` turns a switch on.

* Every request moves the queues as a sequence of events of the queue model, whose
  switches are the truth values of the settings (`settingsRun_queues`), so what is proved
  of `queueRun` holds of the route.
* From a fresh `CacheManager`, each setting holds the value of the last request that set
  it, or its loaded value, and the dict keeps its keys (`settingsRun_get?`).
* When every save succeeds, a restart loads every setting back as it was
  (`restart_restores_settings`).
-/

namespace Robumba.Browser

open Robumba.Search (TextRules strip)
open Robumba.Cache (CacheQueues CacheTask QueueSettings QueueEvent queueStep queueRun
  enqueueCache enqueueAdditional defaultPagePath)

/-! ## JSON values as Python reads them -/

/-- A JSON value as `json.load` and `request.json` give it.  Arrays and objects are kept by
their length, which is all that the readers of the settings look at. -/
inductive JsonValue
  | null
  | bool (b : Bool)
  | int (n : ℤ)
  | float (x : ℚ)
  | str (s : String)
  | array (length : ℕ)
  | object (size : ℕ)
  deriving DecidableEq, Repr

/-- Python's truth value of a JSON value, as `bool()`, `if` and `and` take it. -/
def JsonValue.truthy : JsonValue → Bool
  | .null => false
  | .bool b => b
  | .int n => n != 0
  | .float x => x != 0
  | .str s => !s.isEmpty
  | .array length => length != 0
  | .object size => size != 0

/-- The rest of a base-10 literal after a digit, read onto `acc`: ASCII digits, with single
underscores between them. -/
def readDigits (acc : ℕ) : List Char → Option ℕ
  | [] => some acc
  | '_' :: d :: rest => if d.isDigit then readDigits (10 * acc + (d.toNat - 48)) rest else none
  | d :: rest => if d.isDigit then readDigits (10 * acc + (d.toNat - 48)) rest else none

/-- `int(text)` for a `str`: surrounding whitespace stripped, an optional sign, then a
base-10 literal; none when `int()` raises `ValueError`. -/
def intOfStr (rules : TextRules) (text : String) : Option ℤ :=
  let signed : Bool × List Char :=
    match (strip rules text).data with
    | '-' :: rest => (true, rest)
    | '+' :: rest => (false, rest)
    | rest => (false, rest)
  match signed.2 with
  | d :: rest =>
    if d.isDigit then
      (readDigits (d.toNat - 48) rest).map fun n => if signed.1 then -(n : ℤ) else n
    else none
  | [] => none

/-- `int(value)`, which truncates a float; none when it raises. -/
def JsonValue.toInt (rules : TextRules) : JsonValue → Option ℤ
  | .null | .array _ | .object _ => none
  | .bool b => some (if b then 1 else 0)
  | .int n => some n
  | .float x => some (if 0 ≤ x then x.floor else x.ceil)
  | .str s => intOfStr rules s

/-! ## The settings dict -/

/-- `CacheManager.DEFAULT_SETTINGS`. -/
def defaultSettings : PyDict JsonValue :=
  ⟨[("auto_cache_enabled", .bool true), ("size_limit_mb", .int 100), ("expiry_days", .int 30),
    ("search_limit", .int 50), ("cache_additional", .bool false)], by decide⟩

/-- `_load_settings` at start: `DEFAULT_SETTINGS`, updated with `cache_settings.json` when
the file exists and loads; a file that does not load is reported and ignored. -/
def loadSettings : Option (Except String (PyDict JsonValue)) → PyDict JsonValue
  | some (.ok saved) => defaultSettings.update saved
  | _ => defaultSettings

/-- The switches the queues read: `bool(settings.get("auto_cache_enabled", True))` in
`schedule_node`, and the truth value of `settings.get("cache_additional", False)` in
`schedule_node`, `cache_single_page` and `cache_additional_all`. -/
def queueSettingsOf (settings : PyDict JsonValue) : QueueSettings :=
  ⟨((settings.get? "auto_cache_enabled").getD (.bool true)).truthy,
    ((settings.get? "cache_additional").getD (.bool false)).truthy⟩

/-- `int(settings.get(key, default))`, as `enforce_size_limit` (`size_limit_mb`, -1),
`cleanup_expired_cache` (`expiry_days`, -1) and `api_search_cache` (`search_limit`, 50)
read their setting; none when `int()` raises. -/
def intSetting (rules : TextRules) (settings : PyDict JsonValue) (key : String)
    (default : ℤ) : Option ℤ :=
  ((settings.get? key).getD (.int default)).toInt rules

/-! ## The route -/

/-- What `api_cache_settings` acts on: the settings, the two queues, and what
`cache_settings.json` holds (nothing, a file that does not load, or the settings saved). -/
structure SettingsState where
  settings : PyDict JsonValue
  cacheQueue : List CacheTask
  additionalQueue : List (String × String)
  settingsFile : Option (Except String (PyDict JsonValue))

/-- A fresh `CacheManager` started with the file `settings_file`. -/
def SettingsState.init (settings_file : Option (Except String (PyDict JsonValue))) :
    SettingsState :=
  ⟨loadSettings settings_file, [], [], settings_file⟩

/-- The queues as the queue model sees them. -/
def SettingsState.queues (s : SettingsState) : CacheQueues :=
  ⟨queueSettingsOf s.settings, s.cacheQueue, s.additionalQueue⟩

/-- The JSON document of a request body. -/
inductive RequestJson
  | object (fields : PyDict JsonValue)
  | other (value : JsonValue)
  deriving DecidableEq

/-- `request.json or {}`: the fields of an object, `{}` for a falsy document, and none when
`request.json` raises or the document is truthy but not an object, whose `.get` raises. -/
def postData : Option RequestJson → Option (PyDict JsonValue)
  | some (.object fields) => some fields
  | some (.other value) => if value.truthy then none else some .empty
  | none => none

/-- The actions that set one setting: the action, the key it sets, the request field it
reads, and that field's default. -/
def settingActions : List (String × String × String × JsonValue) :=
  [("toggle_auto_cache", "auto_cache_enabled", "enabled", .bool true),
    ("update_size_limit", "size_limit_mb", "value", .int 100),
    ("update_expiry", "expiry_days", "value", .int 30),
    ("update_search_limit", "search_limit", "value", .int 50),
    ("toggle_additional_pages", "cache_additional", "enabled", .bool false)]

/-- The branches of `api_cache_settings` for a POST. -/
inductive SettingsAction
  | set (key : String) (value : JsonValue)
  | clearCache
  | refreshCache
  | cacheAdditionalAll
  | other
  deriving DecidableEq, Repr

/-- The branch the `action` of the request data selects, in the order of the `elif` chain. -/
def postAction (data : PyDict JsonValue) : SettingsAction :=
  let action := data.get? "action"
  match settingActions.find? fun entry => action == some (.str entry.1) with
  | some (_, key, field, default) => .set key ((data.get? field).getD default)
  | none =>
    if action == some (.str "clear_cache") then .clearCache
    else if action == some (.str "refresh_cache") then .refreshCache
    else if action == some (.str "cache_additional_all") then .cacheAdditionalAll
    else .other

/-- A POST to `/api/cache-settings`, with what it finds outside the settings: its body
(none when `request.json` raises), what `clear_cache` and `save_settings` do, the registry
`refresh_cache` reads, and the node directories `cache_additional_all` reads, each with what
its `node_name.txt` gives. -/
structure SettingsPost where
  body : Option RequestJson
  clearCache : Except String Unit
  saveSettings : Except String Unit
  registry : Registry
  cacheDirs : List (String × Option (Except String String))

/-- The branch a POST takes; none when reading its data raises. -/
def SettingsPost.action (post : SettingsPost) : Option SettingsAction :=
  (postData post.body).map postAction

/-- What `api_cache_settings` answers. -/
inductive SettingsResponse
  /-- `jsonify(browser.cache_settings)`. -/
  | settings (current : PyDict JsonValue)
  /-- `{"status": "success"}`. -/
  | success
  /-- `{"message": message, "status": status}`. -/
  | message (message status : String)
  /-- An exception, which Flask answers with an error page. -/
  | failed
  deriving DecidableEq

/-- The loop of `cache_additional_all` over the node directories: each gives its hash and
the text of its `node_name.txt`, or `Unknown` without one, until a read raises.  The nodes
read, and whether a read raised. -/
def readNodeNames :
    List (String × Option (Except String String)) → List (String × String) × Bool
  | [] => ([], false)
  | (_, some (.error _)) :: _ => ([], true)
  | (node_hash, some (.ok text)) :: rest =>
    ((node_hash, text) :: (readNodeNames rest).1, (readNodeNames rest).2)
  | (node_hash, none) :: rest =>
    ((node_hash, "Unknown") :: (readNodeNames rest).1, (readNodeNames rest).2)

/-- `browser.save_cache_settings()` with the settings now `settings`, then
`{"status": "success"}`; a save that raises fails the request with the settings changed. -/
def saveAndAnswer (s : SettingsState) (post : SettingsPost) (settings : PyDict JsonValue) :
    SettingsState × SettingsResponse :=
  match post.saveSettings with
  | .ok () => ({ s with settings := settings, settingsFile := some (.ok settings) }, .success)
  | .error _ => ({ s with settings := settings }, .failed)

/-- `api_cache_settings` for a POST. -/
def apiCacheSettingsPost (home : String) (s : SettingsState) (post : SettingsPost) :
    SettingsState × SettingsResponse :=
  match post.action with
  | none => (s, .failed)
  | some (.set key value) => saveAndAnswer s post (s.settings.setItem key value)
  | some .clearCache =>
    (s, match post.clearCache with
      | .ok () => .message "Cache cleared successfully" "success"
      | .error exc => .message ("Error clearing cache: " ++ exc) "error")
  | some .refreshCache =>
    let nodes := post.registry.nodes.items.map fun item => (item.2.hash, item.2.name)
    ({ s with
        cacheQueue :=
          s.cacheQueue ++ nodes.map fun node => ⟨node.1, node.2, defaultPagePath home⟩ },
      .message ("Queued " ++ toString nodes.length ++ " nodes for refresh") "success")
  | some .cacheAdditionalAll =>
    if !((s.settings.get? "cache_additional").getD (.bool false)).truthy then
      (s, .message "Additional page caching is disabled" "error")
    else
      let read := readNodeNames post.cacheDirs
      ({ s with additionalQueue := s.additionalQueue ++ read.1 },
        if read.2 then .failed
        else .message ("Queued " ++ toString read.1.length ++ " nodes for additional page caching")
          "success")
  | some .other => saveAndAnswer s post s.settings

/-- A request to `/api/cache-settings`. -/
inductive SettingsRequest
  | get
  | post (post : SettingsPost)

/-- `api_cache_settings`. -/
def apiCacheSettings (home : String) (s : SettingsState) : SettingsRequest →
    SettingsState × SettingsResponse
  | .get => (s, .settings s.settings)
  | .post post => apiCacheSettingsPost home s post

/-- The state after a sequence of requests, and the answers in order. -/
def settingsRun (home : String) :
    SettingsState → List SettingsRequest → SettingsState × List SettingsResponse
  | s, [] => (s, [])
  | s, req :: rest =>
    let step := apiCacheSettings home s req
    let after := settingsRun home step.1 rest
    (after.1, step.2 :: after.2)

/-! ## What a request does -/

/-- The setting a request sets, and its value. -/
def SettingsRequest.setting : SettingsRequest → Option (String × JsonValue)
  | .post p =>
    match p.action with
    | some (.set key value) => some (key, value)
    | _ => none
  | .get => none

/-- The value a request sets under `key`. -/
def SettingsRequest.sets (req : SettingsRequest) (key : String) : Option JsonValue :=
  match req.setting with
  | some (k, value) => if k = key then some value else none
  | none => none

/-- Whether the save a request may make succeeds. -/
def SettingsRequest.saveSucceeds : SettingsRequest → Bool
  | .post p => (p.saveSettings matches .ok ())
  | .get => true

/-- The events of the queue model a request amounts to. -/
def SettingsRequest.queueEvents : SettingsRequest → List QueueEvent
  | .post p =>
    match p.action with
    | some (.set key value) =>
      if key = "auto_cache_enabled" then [.setAutoCache value.truthy]
      else if key = "cache_additional" then [.setCacheAdditional value.truthy]
      else []
    | some .refreshCache =>
      [.refreshAll (p.registry.nodes.items.map fun item => (item.2.hash, item.2.name))]
    | some .cacheAdditionalAll => [.cacheAdditionalAll (readNodeNames p.cacheDirs).1]
    | _ => []
  | .get => []

theorem saveAndAnswer_settings (s : SettingsState) (post : SettingsPost)
    (settings : PyDict JsonValue) : (saveAndAnswer s post settings).1.settings = settings := by
  unfold saveAndAnswer
  split <;> rfl

theorem saveAndAnswer_queues (s : SettingsState) (post : SettingsPost)
    (settings : PyDict JsonValue) :
    (saveAndAnswer s post settings).1.queues =
      ⟨queueSettingsOf settings, s.cacheQueue, s.additionalQueue⟩ := by
  unfold saveAndAnswer
  split <;> rfl

/-- What a request does to the settings. -/
theorem apiCacheSettings_settings (home : String) (s : SettingsState) (req : SettingsRequest) :
    (apiCacheSettings home s req).1.settings =
      match req.setting with
      | some (key, value) => s.settings.setItem key value
      | none => s.settings := by
  cases req with
  | get => rfl
  | post post =>
    simp only [apiCacheSettings, apiCacheSettingsPost, SettingsRequest.setting]
    cases post.action with
    | none => rfl
    | some action =>
      cases action <;> simp only [saveAndAnswer_settings]
      all_goals first | rfl | split <;> rfl

/-- With its save succeeding, a request either leaves the settings and the file, or saves
the settings it leaves. -/
theorem apiCacheSettings_settingsFile (home : String) (s : SettingsState)
    {req : SettingsRequest} (hsave : req.saveSucceeds) :
    ((apiCacheSettings home s req).1.settingsFile = s.settingsFile ∧
        (apiCacheSettings home s req).1.settings = s.settings) ∨
      (apiCacheSettings home s req).1.settingsFile =
        some (.ok (apiCacheSettings home s req).1.settings) := by
  cases req with
  | get => exact .inl ⟨rfl, rfl⟩
  | post post =>
    have hok : post.saveSettings = .ok () := by
      cases hsaved : post.saveSettings <;> simp_all [SettingsRequest.saveSucceeds]
    simp only [apiCacheSettings]
    unfold apiCacheSettingsPost
    split
    · exact .inl ⟨rfl, rfl⟩
    · simp [saveAndAnswer, hok]
    · exact .inl ⟨rfl, rfl⟩
    · exact .inl ⟨rfl, rfl⟩
    · split_ifs <;> exact .inl ⟨rfl, rfl⟩
    · simp [saveAndAnswer, hok]

/-! ## The queues -/

theorem foldl_enqueueCache (page_path : String) (nodes : List (String × String))
    (q : CacheQueues) :
    nodes.foldl (fun q node => enqueueCache q node.1 node.2 page_path) q =
      { q with
        cacheQueue := q.cacheQueue ++ nodes.map fun node => ⟨node.1, node.2, page_path⟩ } := by
  induction nodes generalizing q with
  | nil => simp
  | cons node nodes ih =>
    rw [List.foldl_cons, ih]
    simp [enqueueCache]

theorem foldl_enqueueAdditional (nodes : List (String × String)) (q : CacheQueues) :
    nodes.foldl (fun q node => enqueueAdditional q node.1 node.2) q =
      { q with additionalQueue := q.additionalQueue ++ nodes } := by
  induction nodes generalizing q with
  | nil => simp
  | cons node nodes ih =>
    rw [List.foldl_cons, ih]
    simp [enqueueAdditional]

theorem queueRun_append (rules : TextRules) (home : String) (q : CacheQueues)
    (events more : List QueueEvent) :
    queueRun rules home q (events ++ more) =
      queueRun rules home (queueRun rules home q events) more := by
  induction events generalizing q with
  | nil => rfl
  | cons e events ih => exact ih _

/-- Setting a key moves the switch it names, and no other. -/
theorem queueSettingsOf_setItem (settings : PyDict JsonValue) (key : String) (value : JsonValue) :
    queueSettingsOf (settings.setItem key value) =
      if key = "auto_cache_enabled" then
        { queueSettingsOf settings with autoCacheEnabled := value.truthy }
      else if key = "cache_additional" then
        { queueSettingsOf settings with cacheAdditional := value.truthy }
      else queueSettingsOf settings := by
  by_cases hauto : key = "auto_cache_enabled"
  · subst hauto
    simp [queueSettingsOf]
  · by_cases hadditional : key = "cache_additional"
    · subst hadditional
      simp [queueSettingsOf]
    · simp [queueSettingsOf, hauto, hadditional, Ne.symm hauto, Ne.symm hadditional]

/-- Every request moves the queues as its events move them in the queue model. -/
theorem apiCacheSettings_queues (rules : TextRules) (home : String) (s : SettingsState)
    (req : SettingsRequest) :
    (apiCacheSettings home s req).1.queues = queueRun rules home s.queues req.queueEvents := by
  cases req with
  | get => rfl
  | post post =>
    simp only [apiCacheSettings, apiCacheSettingsPost, SettingsRequest.queueEvents]
    cases post.action with
    | none => rfl
    | some action =>
      cases action <;> dsimp only
      case set key value =>
        rw [saveAndAnswer_queues, queueSettingsOf_setItem]
        split_ifs <;> rfl
      case clearCache => rfl
      case refreshCache =>
        rw [queueRun, queueStep, foldl_enqueueCache]
        rfl
      case cacheAdditionalAll =>
        simp only [queueRun, queueStep, foldl_enqueueAdditional, SettingsState.queues,
          queueSettingsOf]
        split <;> simp_all
      case other => exact saveAndAnswer_queues s post s.settings

/-- Along every sequence of requests, the queues move as the events of the requests move
them in the queue model, whose switches are the truth values of the settings. -/
theorem settingsRun_queues (rules : TextRules) (home : String) (s : SettingsState)
    (requests : List SettingsRequest) :
    (settingsRun home s requests).1.queues =
      queueRun rules home s.queues (requests.flatMap SettingsRequest.queueEvents) := by
  induction requests generalizing s with
  | nil => rfl
  | cons req requests ih =>
    rw [List.flatMap_cons, queueRun_append, ← apiCacheSettings_queues]
    exact ih _

/-- A saved POST of `toggle_auto_cache` whose `enabled` is the string `"false"`. -/
def autoCacheOffAsText : SettingsPost :=
  ⟨some (.object
      ⟨[("action", .str "toggle_auto_cache"), ("enabled", .str "false")], by decide⟩),
    .ok (), .ok (), .init "connected", []⟩

/-- The string `"false"` leaves auto-caching on. -/
example :
    (settingsRun "/" (.init none) [.post autoCacheOffAsText]).1.queues.settings.autoCacheEnabled =
      true := by
  decide

/-! ## The settings along a run -/

/-- The keys the setting actions set. -/
theorem settingActions_key_mem {entry : String × String × String × JsonValue}
    (h : entry ∈ settingActions) : entry.2.1 ∈ defaultSettings.items.map Prod.fst := by
  simp only [settingActions, List.mem_cons, List.mem_singleton, List.not_mem_nil,
    or_false] at h
  rcases h with rfl | rfl | rfl | rfl | rfl <;> decide

theorem setting_key_mem {req : SettingsRequest} {key : String} {value : JsonValue}
    (h : req.setting = some (key, value)) : key ∈ defaultSettings.items.map Prod.fst := by
  cases req with
  | get => cases h
  | post post =>
    simp only [SettingsRequest.setting] at h
    split at h
    · rename_i haction
      cases h
      obtain ⟨data, -, hdata⟩ := Option.map_eq_some'.mp haction
      unfold postAction at hdata
      dsimp only at hdata
      split at hdata
      · rename_i hfind
        cases hdata
        exact settingActions_key_mem (List.mem_of_find?_eq_some hfind)
      · split_ifs at hdata
    · cases h

/-- The dict holds every default key. -/
def HasDefaultKeys (settings : PyDict JsonValue) : Prop :=
  ∀ k ∈ defaultSettings.items.map Prod.fst, k ∈ settings.items.map Prod.fst

theorem hasDefaultKeys_loadSettings (settings_file : Option (Except String (PyDict JsonValue))) :
    HasDefaultKeys (loadSettings settings_file) := by
  intro k hk
  have hdefault : (defaultSettings.get? k).isSome := (lookup_isSome_iff _ k).mpr hk
  refine (lookup_isSome_iff _ k).mp ?_
  match settings_file with
  | some (.ok saved) =>
    show ((defaultSettings.update saved).get? k).isSome
    rw [PyDict.get?_update]
    cases saved.get? k <;> simp [hdefault]
  | some (.error _) => exact hdefault
  | none => exact hdefault

/-- Each request keeps the keys of a dict that holds the default ones. -/
theorem apiCacheSettings_keys (home : String) (s : SettingsState) (req : SettingsRequest)
    (hkeys : HasDefaultKeys s.settings) :
    (apiCacheSettings home s req).1.settings.items.map Prod.fst =
      s.settings.items.map Prod.fst := by
  rw [apiCacheSettings_settings]
  cases hset : req.setting with
  | none => rfl
  | some setting => exact PyDict.keys_setItem_of_mem _ _ (hkeys _ (setting_key_mem hset))

theorem HasDefaultKeys.step (home : String) {s : SettingsState} (hkeys : HasDefaultKeys s.settings)
    (req : SettingsRequest) : HasDefaultKeys (apiCacheSettings home s req).1.settings := by
  intro k hk
  rw [apiCacheSettings_keys home s req hkeys]
  exact hkeys k hk

theorem get?_apiCacheSettings (home : String) (s : SettingsState) (req : SettingsRequest)
    (key : String) :
    (apiCacheSettings home s req).1.settings.get? key =
      (req.sets key).or (s.settings.get? key) := by
  rw [apiCacheSettings_settings, SettingsRequest.sets]
  rcases req.setting with _ | ⟨k, value⟩
  · rfl
  · by_cases hk : k = key
    · simp [hk]
    · simp [hk, Ne.symm hk]

/-- From a fresh `CacheManager`, along every sequence of requests, each setting holds the
value of the last request that set it, or else its loaded value, and the dict keeps the
keys it was loaded with. -/
theorem settingsRun_get? (home : String) (settings_file : Option (Except String (PyDict JsonValue)))
    (requests : List SettingsRequest) (key : String) :
    (settingsRun home (.init settings_file) requests).1.settings.get? key =
        ((requests.filterMap (SettingsRequest.sets · key)).getLast?).or
          ((loadSettings settings_file).get? key) ∧
      (settingsRun home (.init settings_file) requests).1.settings.items.map Prod.fst =
        (loadSettings settings_file).items.map Prod.fst := by
  suffices ∀ s : SettingsState, HasDefaultKeys s.settings →
      (settingsRun home s requests).1.settings.get? key =
          ((requests.filterMap (SettingsRequest.sets · key)).getLast?).or (s.settings.get? key) ∧
        (settingsRun home s requests).1.settings.items.map Prod.fst =
          s.settings.items.map Prod.fst from
    this _ (hasDefaultKeys_loadSettings settings_file)
  induction requests with
  | nil => exact fun _ _ => ⟨rfl, rfl⟩
  | cons req requests ih =>
    intro s hkeys
    obtain ⟨hget, hsame⟩ := ih _ (hkeys.step home req)
    refine ⟨?_, hsame.trans (apiCacheSettings_keys home s req hkeys)⟩
    rw [settingsRun, hget, get?_apiCacheSettings, List.filterMap_cons]
    cases req.sets key with
    | none => rfl
    | some value =>
      dsimp only
      rw [← List.singleton_append, List.getLast?_append]
      cases (requests.filterMap (SettingsRequest.sets · key)).getLast? <;> rfl

/-! ## A restart -/

/-- Loading what was saved gives every setting back, when the dict held the default keys. -/
theorem loadSettings_saved {settings : PyDict JsonValue} (hkeys : HasDefaultKeys settings)
    (key : String) : (loadSettings (some (.ok settings))).get? key = settings.get? key := by
  show (defaultSettings.update settings).get? key = _
  rw [PyDict.get?_update]
  cases hget : settings.get? key with
  | some value => rfl
  | none =>
    have hfresh : key ∉ settings.items.map Prod.fst := fun hmem => by
      have hsome := (lookup_isSome_iff settings.items key).mpr hmem
      change (settings.get? key).isSome at hsome
      simp [hget] at hsome
    have hnone : ¬ (defaultSettings.get? key).isSome := fun hsome =>
      hfresh (hkeys key ((lookup_isSome_iff _ key).mp hsome))
    simpa using hnone

/-- A restart would load the settings in memory. -/
def Persisted (s : SettingsState) : Prop :=
  HasDefaultKeys s.settings ∧
    ∀ key, (loadSettings s.settingsFile).get? key = s.settings.get? key

theorem Persisted.step (home : String) {s : SettingsState} (h : Persisted s)
    {req : SettingsRequest} (hsave : req.saveSucceeds) :
    Persisted (apiCacheSettings home s req).1 := by
  have hkeys := h.1.step home req
  refine ⟨hkeys, ?_⟩
  rcases apiCacheSettings_settingsFile home s hsave with ⟨hfile, hsettings⟩ | hfile
  · rw [hfile, hsettings]
    exact h.2
  · rw [hfile]
    exact loadSettings_saved hkeys

/-- From a fresh `CacheManager`, along every sequence of requests whose saves all succeed,
a restart loads every setting as it is in memory. -/
theorem restart_restores_settings (home : String)
    (settings_file : Option (Except String (PyDict JsonValue))) (requests : List SettingsRequest)
    (hsaves : ∀ req ∈ requests, req.saveSucceeds) (key : String) :
    (loadSettings (settingsRun home (.init settings_file) requests).1.settingsFile).get? key =
      (settingsRun home (.init settings_file) requests).1.settings.get? key := by
  suffices ∀ s, Persisted s → Persisted (settingsRun home s requests).1 from
    (this _ ⟨hasDefaultKeys_loadSettings settings_file, fun _ => rfl⟩).2 key
  induction requests with
  | nil => exact fun _ h => h
  | cons req requests ih =>
    intro s h
    exact ih (fun r hr => hsaves r (List.mem_cons_of_mem _ hr)) _
      (h.step home (hsaves req (List.mem_cons_self _ _)))

theorem restart_restores_settings_text :
    (∀ req ∈ [SettingsRequest.post autoCacheOffAsText], req.saveSucceeds) ∧
      (loadSettings (settingsRun "/" (.init none)
          [.post autoCacheOffAsText]).1.settingsFile).get? "auto_cache_enabled" =
        (settingsRun "/" (.init none) [.post autoCacheOffAsText]).1.settings.get?
          "auto_cache_enabled" :=
  have hsaves : ∀ req ∈ [SettingsRequest.post autoCacheOffAsText], req.saveSucceeds := by
    decide
  ⟨hsaves, restart_restores_settings "/" none _ hsaves "auto_cache_enabled"⟩

/-- A size limit posted as `true` is read as 1 MB by `int()`, and a POST whose save raises
keeps its value in memory only, so a restart brings back the old one. -/
example :
    let run := settingsRun "/" (.init none)
      [.post { autoCacheOffAsText with
        body := some (.object ⟨[("action", .str "update_size_limit"), ("value", .bool true)],
          by decide⟩)
        saveSettings := .error "disk full" }]
    run.2 = [.failed] ∧
      intSetting Search.asciiText run.1.settings "size_limit_mb" (-1) = some 1 ∧
      (loadSettings run.1.settingsFile).get? "size_limit_mb" = some (.int 100) := by
  decide

/-- `int()` strips whitespace and reads single underscores between digits. -/
example :
    (JsonValue.str " -4_2 ").toInt Search.asciiText = some (-42) ∧
      (JsonValue.str "4__2").toInt Search.asciiText = none ∧
      (JsonValue.null).toInt Search.asciiText = none := by
  decide

end Robumba.Browser
