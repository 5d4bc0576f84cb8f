import Robumba.Browser.Announces
import Robumba.Browser.PyDict
import Robumba.Fetch.Requests

/-!
# Cached links, form data and the fingerprint

`NomadNetWebBrowser.fetch_page` in `web_browser.py` keeps one Reticulum link per node in
`nomadnet_cached_links`.  A request to a node whose cached link is active goes over that
link (`_request_via_cached_link`); otherwise a fresh `NomadNetBrowser` opens a link, and
a `success` stores it in the cache.  The two paths send a form differently:

* over a fresh link, `_build_prefixed_form_data` sends every field twice, as `var_<key>`
  and as `field_<key>`, with `str(value)`, and loses none
  (`buildPrefixedFormData_keeps_fields`);
* over a cached link, `_prepare_form_data` sends each field once, under its own key when
  that starts with `field_` or `var_` and as `field_<key>` otherwise, so two fields can
  land on one key, the later one winning (`requestData_cached_get?`); the link's
  `fingerprint_data` is then added.

`send_fingerprint` identifies on the node's cached link, opening one through `fetch_page`
when there is none (`sendFingerprint_new_link`), and stores `{"dest": <LXMF hash>}` as the
link's `fingerprint_data`.  Every event touches only the link of the destination it names
(`linkStep_frame`), so from then on every request over that link carries `dest`, a plain
page load included, whatever else happens (`fingerprint_sent_until_closed`), until the
link closes.  The next request then opens a fresh link, which sends no `dest`, and the
link it stores carries no fingerprint (`closeLink_forgets_fingerprint`).

Python dicts are lists of items with distinct keys (`PyDict`); the network's side of a
request is an observation carried by the event, as in `Fetch.Requests`.
-/

namespace Robumba.Browser

open Function (update)
open Robumba.Fetch (Attempt PagePayload PageResponse)

/-! ## Form data -/

/-- A value of the JSON body `api_fetch_page` passes on: a string, or any other JSON value
with the text `str()` gives it. -/
inductive FormValue
  | text (s : String)
  | other (shown : String)
  deriving DecidableEq, Repr

/-- `str(value)`. -/
def FormValue.str : FormValue → String
  | .text s => s
  | .other shown => shown

/-- `NomadNetWebBrowser._prepare_form_data`. -/
def prepareFormData (form_data : Option (PyDict FormValue)) : PyDict FormValue :=
  match form_data with
  | none => .empty
  | some form =>
    if form.items = [] then .empty
    else form.items.foldl (fun processed item =>
      if Downloads.startswith item.1 "field_" || Downloads.startswith item.1 "var_" then
        processed.setItem item.1 item.2
      else processed.setItem ("field_" ++ item.1) item.2) .empty

/-- `NomadNetBrowser._build_prefixed_form_data`. -/
def buildPrefixedFormData (form_data : PyDict FormValue) : PyDict FormValue :=
  form_data.items.foldl (fun prefixed item =>
    (prefixed.setItem ("var_" ++ item.1) (.text item.2.str)).setItem ("field_" ++ item.1)
      (.text item.2.str)) .empty

/-- The key `_prepare_form_data` files a field under. -/
def preparedKey (key : String) : String :=
  if Downloads.startswith key "field_" || Downloads.startswith key "var_" then key
  else "field_" ++ key

theorem startswith_append (pre key : String) : Downloads.startswith (pre ++ key) pre = true := by
  simp [Downloads.startswith, String.data_append, List.isPrefixOf_iff_prefix]

theorem var_ne_field (k k' : String) : "var_" ++ k ≠ "field_" ++ k' := fun h => by
  simpa [String.data_append] using congrArg (fun s : String => s.data.head?) h

theorem prefix_append_inj (pre k k' : String) : pre ++ k = pre ++ k' ↔ k = k' := by
  simp [String.ext_iff, String.data_append]

/-- Under each key `_prepare_form_data` holds the value of the last field filed under it. -/
theorem prepareFormData_get? (form_data : Option (PyDict FormValue)) (k : String) :
    (prepareFormData form_data).get? k =
      match form_data with
      | none => none
      | some form => ((form.items.filter fun item => preparedKey item.1 = k).getLast?).map Prod.snd := by
  cases form_data with
  | none => rfl
  | some form =>
    by_cases hempty : form.items = []
    · simp [prepareFormData, hempty]
    · rw [prepareFormData, if_neg hempty, PyDict.get?_foldl _ (fun item k => preparedKey item.1 = k)
        Prod.snd (fun d item k => by
          cases h : (Downloads.startswith item.1 "field_" || Downloads.startswith item.1 "var_") <;>
            simp only [preparedKey, h, if_true, if_false, Bool.false_eq_true, PyDict.get?_setItem,
              @eq_comm _ k, decide_eq_true_eq])]
      simp

/-- Every key `_prepare_form_data` fills starts with `field_` or `var_`. -/
theorem prepareFormData_key (form_data : Option (PyDict FormValue)) {k : String}
    (hk : (prepareFormData form_data).get? k ≠ none) :
    Downloads.startswith k "field_" = true ∨ Downloads.startswith k "var_" = true := by
  rw [prepareFormData_get?] at hk
  cases form_data with
  | none => exact absurd rfl hk
  | some form =>
    obtain ⟨item, hitem⟩ := Option.ne_none_iff_exists'.mp hk
    obtain ⟨_, hlast, -⟩ := Option.map_eq_some'.mp hitem
    have hkey := (List.mem_filter.mp (List.mem_of_getLast?_eq_some hlast)).2
    rw [decide_eq_true_iff] at hkey
    subst hkey
    unfold preparedKey
    split
    · rename_i h
      simpa using h
    · exact .inl (startswith_append _ _)

/-- `_build_prefixed_form_data` files each field under `var_<key>` and `field_<key>`. -/
theorem get?_buildPrefixedFormData (form_data : PyDict FormValue) (k : String) :
    (buildPrefixedFormData form_data).get? k =
      ((form_data.items.filter fun item => k = "var_" ++ item.1 ∨ k = "field_" ++ item.1).getLast?).map
        fun item => .text item.2.str := by
  rw [buildPrefixedFormData, PyDict.get?_foldl _
    (fun item k => k = "var_" ++ item.1 ∨ k = "field_" ++ item.1) (fun item => .text item.2.str)
    (fun d item k => by by_cases h1 : k = "field_" ++ item.1 <;> simp [h1])]
  simp

/-! ## Cached links -/

/-- A cached `RNS.Link`: whether its status is `ACTIVE`, and its `fingerprint_data`
attribute, which `_identify_over_link` sets. -/
structure Link where
  active : Bool
  fingerprintData : Option (PyDict FormValue)

/-- The fields of `NomadNetWebBrowser` that `fetch_page` and `send_fingerprint` use: the
link cache, and the hash of the browser identity's LXMF delivery destination. -/
structure LinkCache where
  cachedLinks : List UInt8 → Option Link
  lxmfDestHash : List UInt8

/-- `receipt.response` as the `on_response` of `_request_via_cached_link` tells it apart:
a false value, bytes that decode as UTF-8, bytes whose decoding raises (with the
exception's message), or any other true value as `str(data)` shows it. -/
inductive CachedPayload
  | falsy
  | utf8 (decoded : String)
  | undecodable (message : String)
  | other (shown : String)
  deriving DecidableEq, Repr

/-- A callback of a request over a cached link. -/
inductive CachedCallback
  | response (payload : CachedPayload)
  | failed
  deriving DecidableEq, Repr

/-- How a request over a cached link ends: `link.request` raising, or the callbacks that
ran before the wait returned. -/
inductive CachedOutcome
  | raised (message : String)
  | callbacks (callbacks : List CachedCallback)
  deriving DecidableEq, Repr

/-- What `on_response` and `on_failed` store in `result["data"]`. -/
def cachedCallbackData : CachedCallback → String
  | .response .falsy => "Empty response"
  | .response (.utf8 decoded) => decoded
  | .response (.undecodable message) => "Response error: " ++ message
  | .response (.other shown) => shown
  | .failed => "Request failed"

/-- `result` after the callbacks: each stores its data and marks it received. -/
def cachedResult (callbacks : List CachedCallback) : Option String × Bool :=
  callbacks.foldl (fun _ cb => (some (cachedCallbackData cb), true)) (none, false)

/-- The answer of `_request_via_cached_link`; every callback sets the event. -/
def requestViaCachedLink (callbacks : List CachedCallback) : PageResponse :=
  let result := cachedResult callbacks
  if !callbacks.isEmpty && result.2 then
    ⟨match result.1 with
      | some data => if data = "" then "Empty response" else data
      | none => "Empty response", "success", none⟩
  else ⟨"Request timeout on cached link", "error", some "Timeout"⟩

/-- The `data` that `_request_via_cached_link` passes to `link.request`:
`final_form_data or None`. -/
def cachedRequestData (link : Link) (form_data : Option (PyDict FormValue)) :
    Option (PyDict FormValue) :=
  let final_form_data := prepareFormData form_data
  let final_form_data := match link.fingerprintData with
    | some fingerprint =>
      if fingerprint.items = [] then final_form_data else final_form_data.update fingerprint
    | none => final_form_data
  if final_form_data.items = [] then none else some final_form_data

/-- The `data` that a fresh `NomadNetBrowser` passes to `link.request`. -/
def freshRequestData (form_data : Option (PyDict FormValue)) : Option (PyDict FormValue) :=
  match form_data with
  | some form => if form.items = [] then none else some (buildPrefixedFormData form)
  | none => none

/-- Whether `browser.link` is set when a fresh fetch returns with a response: the link is
opened once a path and an identity are found. -/
def opensLink {ρ : Type} : Attempt ρ → Bool
  | .linked _ => true
  | _ => false

/-- The text of the `ValueError` that `bytes.fromhex` raises at position `i`. -/
def fromhexError (i : ℕ) : String :=
  "non-hexadecimal number found in fromhex() arg at position " ++ toString i

/-- A fresh `NomadNetBrowser` fetches the page, and a `success` stores its link. -/
def freshFetch (s : LinkCache) (destination_hash : List UInt8) (fresh : Attempt PagePayload) :
    LinkCache × PageResponse :=
  let response := Fetch.fetchPage fresh
  if response.status = "success" && opensLink fresh then
    ({ s with cachedLinks := update s.cachedLinks destination_hash (some ⟨true, none⟩) }, response)
  else (s, response)

/-- `NomadNetWebBrowser.fetch_page`: the link cache after it, and its answer.  The page
path and the form go to `link.request` (`requestData`) and the answer is the node's, so
neither is an argument here. -/
def webFetchPage (s : LinkCache) (node_hash : String) (cached : CachedOutcome) (fresh : Attempt PagePayload) : LinkCache × PageResponse :=
  match cleanHashBytes node_hash with
  | .error i => (s, ⟨"", "error", some ("Fetch failed: " ++ fromhexError i)⟩)
  | .ok destination_hash =>
    match s.cachedLinks destination_hash with
    | some link =>
      if link.active then
        match cached with
        | .raised message => (s, ⟨"", "error", some ("Fetch failed: " ++ message)⟩)
        | .callbacks callbacks => (s, requestViaCachedLink callbacks)
      else freshFetch s destination_hash fresh
    | none => freshFetch s destination_hash fresh

/-- The `data` of the request `fetch_page` makes to `destination_hash`. -/
def requestData (s : LinkCache) (destination_hash : List UInt8)
    (form_data : Option (PyDict FormValue)) : Option (PyDict FormValue) :=
  match s.cachedLinks destination_hash with
  | some link => if link.active then cachedRequestData link form_data else freshRequestData form_data
  | none => freshRequestData form_data

/-- The answer of `send_fingerprint`. -/
structure FingerprintResponse where
  message : String
  status : String
  error : Option String
  deriving DecidableEq, Repr

/-- `{"dest": lxmf_dest_hash.hex()}`. -/
def fingerprintData (s : LinkCache) : PyDict FormValue :=
  PyDict.empty.setItem "dest" (.text (Calls.bytesHex s.lxmfDestHash))

/-- `_identify_over_link`: the cached link of `destination_hash` gets the fingerprint. -/
def identifyOverLink (s : LinkCache) (destination_hash : List UInt8) (link : Link) : LinkCache :=
  let identified := { link with fingerprintData := some (fingerprintData s) }
  { s with cachedLinks := update s.cachedLinks destination_hash (some identified) }

/-- The answer of `send_fingerprint` when no link could be identified. -/
def linkNotEstablished : FingerprintResponse :=
  ⟨"Could not create or identify on link", "error", some "Failed to establish link"⟩

/-- The part of `send_fingerprint` without an active cached link: `fetch_page` of the
destination's hex, then an identify on the link it cached.  The cached link is not active,
so the fetch opens a fresh one and its outcome over a cached link is never read. -/
def establishAndIdentify (s : LinkCache) (destination_hash : List UInt8)
    (fresh : Attempt PagePayload) : LinkCache × FingerprintResponse :=
  let fetched := webFetchPage s (Calls.bytesHex destination_hash) (.callbacks []) fresh
  if fetched.2.status = "success" then
    match fetched.1.cachedLinks destination_hash with
    | some link =>
      (identifyOverLink fetched.1 destination_hash link,
        ⟨"Identity established on new link", "success", none⟩)
    | none => (fetched.1, linkNotEstablished)
  else (fetched.1, linkNotEstablished)

/-- `NomadNetWebBrowser.send_fingerprint`, through `NomadNetBrowser.send_fingerprint`. -/
def sendFingerprint (s : LinkCache) (node_hash : String) (fresh : Attempt PagePayload) :
    LinkCache × FingerprintResponse :=
  match cleanHashBytes node_hash with
  | .error i => (s, ⟨"", "error", some ("Identity fingerprint send failed: " ++ fromhexError i)⟩)
  | .ok destination_hash =>
    match s.cachedLinks destination_hash with
    | some link =>
      if link.active then
        (identifyOverLink s destination_hash link,
          ⟨"Identity established on existing link", "success", none⟩)
      else establishAndIdentify s destination_hash fresh
    | none => establishAndIdentify s destination_hash fresh

/-- Reticulum closing the link of `destination_hash`: its status is no longer `ACTIVE`. -/
def closeLink (s : LinkCache) (destination_hash : List UInt8) : LinkCache :=
  match s.cachedLinks destination_hash with
  | some link =>
    let closed := { link with active := false }
    { s with cachedLinks := update s.cachedLinks destination_hash (some closed) }
  | none => s

/-- What changes the link cache: a page fetch, a fingerprint send, or a link closing. -/
inductive LinkEvent
  | fetchPage (node_hash : String) (cached : CachedOutcome) (fresh : Attempt PagePayload)
  | sendFingerprint (node_hash : String) (fresh : Attempt PagePayload)
  | linkClosed (destination_hash : List UInt8)

/-- One event. -/
def linkStep (s : LinkCache) : LinkEvent → LinkCache
  | .fetchPage node_hash cached fresh => (webFetchPage s node_hash cached fresh).1
  | .sendFingerprint node_hash fresh => (sendFingerprint s node_hash fresh).1
  | .linkClosed destination_hash => closeLink s destination_hash

/-- A sequence of events. -/
def linkRun (s : LinkCache) (events : List LinkEvent) : LinkCache := events.foldl linkStep s

/-! ## What each operation does to the cache -/

variable {s : LinkCache} {node_hash : String} {d d' : List UInt8}

/-- Whether a destination has an active cached link. -/
def LinkCache.activeAt (s : LinkCache) (d : List UInt8) : Bool :=
  match s.cachedLinks d with
  | some link => link.active
  | none => false

/-- `s` with a new link, without fingerprint, cached for `d`. -/
def LinkCache.withFreshLink (s : LinkCache) (d : List UInt8) : LinkCache :=
  { s with cachedLinks := update s.cachedLinks d (some ⟨true, none⟩) }

theorem opensLink_of_success {fresh : Attempt PagePayload}
    (h : (Fetch.fetchPage fresh).status = "success") : opensLink fresh = true := by
  cases fresh with
  | linked callbacks => rfl
  | _ => simp [Fetch.fetchPage] at h

/-- A fresh fetch answers what the node answers, and a `success` caches a new link. -/
theorem freshFetch_eq (s : LinkCache) (d : List UInt8) (fresh : Attempt PagePayload) :
    freshFetch s d fresh =
      if (Fetch.fetchPage fresh).status = "success" then (s.withFreshLink d, Fetch.fetchPage fresh)
      else (s, Fetch.fetchPage fresh) := by
  unfold freshFetch
  by_cases h : (Fetch.fetchPage fresh).status = "success"
  · simp [h, opensLink_of_success h, LinkCache.withFreshLink]
  · simp [h]

theorem webFetchPage_of_error {i : ℕ} (hclean : cleanHashBytes node_hash = .error i)
    (cached : CachedOutcome) (fresh : Attempt PagePayload) :
    (webFetchPage s node_hash cached fresh).1 = s := by
  simp only [webFetchPage, hclean]

/-- Without an active cached link, `fetch_page` is a fresh fetch. -/
theorem webFetchPage_of_inactive (hclean : cleanHashBytes node_hash = .ok d)
    (hinactive : s.activeAt d = false) (cached : CachedOutcome) (fresh : Attempt PagePayload) :
    webFetchPage s node_hash cached fresh = freshFetch s d fresh := by
  simp only [webFetchPage, hclean]
  cases hlink : s.cachedLinks d with
  | none => rfl
  | some link =>
    simp only [LinkCache.activeAt, hlink] at hinactive
    simp [hinactive]

/-- Over an active cached link, `fetch_page` leaves the cache. -/
theorem webFetchPage_of_active (hclean : cleanHashBytes node_hash = .ok d)
    (hactive : s.activeAt d = true) (cached : CachedOutcome) (fresh : Attempt PagePayload) :
    (webFetchPage s node_hash cached fresh).1 = s := by
  simp only [webFetchPage, hclean]
  cases hlink : s.cachedLinks d with
  | none => simp [LinkCache.activeAt, hlink] at hactive
  | some link =>
    simp only [LinkCache.activeAt, hlink] at hactive
    simp only [hactive, if_true]
    cases cached <;> rfl

/-- Without an active cached link, `send_fingerprint` opens one with a fresh fetch of the
destination's hex and identifies on it, exactly when that fetch succeeds. -/
theorem establishAndIdentify_eq (hinactive : s.activeAt d = false) (fresh : Attempt PagePayload) :
    establishAndIdentify s d fresh =
      if (Fetch.fetchPage fresh).status = "success" then
        (identifyOverLink (s.withFreshLink d) d ⟨true, none⟩,
          ⟨"Identity established on new link", "success", none⟩)
      else (s, linkNotEstablished) := by
  unfold establishAndIdentify
  rw [webFetchPage_of_inactive (cleanHashBytes_bytesHex d) hinactive, freshFetch_eq]
  by_cases hfetch : (Fetch.fetchPage fresh).status = "success"
  · simp [hfetch, LinkCache.withFreshLink]
  · simp [hfetch]

theorem sendFingerprint_of_error {i : ℕ} (hclean : cleanHashBytes node_hash = .error i)
    (fresh : Attempt PagePayload) : (sendFingerprint s node_hash fresh).1 = s := by
  simp only [sendFingerprint, hclean]

theorem sendFingerprint_of_inactive (hclean : cleanHashBytes node_hash = .ok d)
    (hinactive : s.activeAt d = false) (fresh : Attempt PagePayload) :
    sendFingerprint s node_hash fresh = establishAndIdentify s d fresh := by
  simp only [sendFingerprint, hclean]
  cases hlink : s.cachedLinks d with
  | none => rfl
  | some link =>
    simp only [LinkCache.activeAt, hlink] at hinactive
    simp [hinactive]

theorem sendFingerprint_of_active (hclean : cleanHashBytes node_hash = .ok d) {link : Link}
    (hlink : s.cachedLinks d = some link) (hactive : link.active = true)
    (fresh : Attempt PagePayload) :
    sendFingerprint s node_hash fresh =
      (identifyOverLink s d link, ⟨"Identity established on existing link", "success", none⟩) := by
  simp only [sendFingerprint, hclean, hlink, hactive, if_true]

/-- The destination an event names. -/
def LinkEvent.destination : LinkEvent → Option (List UInt8)
  | .fetchPage node_hash _ _ => (cleanHashBytes node_hash).toOption
  | .sendFingerprint node_hash _ => (cleanHashBytes node_hash).toOption
  | .linkClosed destination_hash => some destination_hash

theorem LinkCache.activeAt_eq_true :
    s.activeAt d = true ↔ ∃ link, s.cachedLinks d = some link ∧ link.active = true := by
  unfold LinkCache.activeAt
  split <;> simp_all

theorem destination_of_cleanHashBytes (hclean : cleanHashBytes node_hash = .ok d) :
    (cleanHashBytes node_hash).toOption = some d := by
  rw [hclean]
  rfl

/-- What one event can do: leave the cache, or set the cached link of the destination it
names. -/
theorem linkStep_eq (s : LinkCache) (e : LinkEvent) :
    linkStep s e = s ∨ ∃ d v, e.destination = some d ∧
      linkStep s e = { s with cachedLinks := update s.cachedLinks d v } := by
  cases e with
  | fetchPage node_hash cached fresh =>
    cases hclean : cleanHashBytes node_hash with
    | error i => exact .inl (webFetchPage_of_error hclean cached fresh)
    | ok d =>
      cases hactive : s.activeAt d
      · rw [linkStep, webFetchPage_of_inactive hclean hactive, freshFetch_eq]
        split
        · exact .inr ⟨d, _, destination_of_cleanHashBytes hclean, rfl⟩
        · exact .inl rfl
      · exact .inl (webFetchPage_of_active hclean hactive cached fresh)
  | sendFingerprint node_hash fresh =>
    cases hclean : cleanHashBytes node_hash with
    | error i => exact .inl (sendFingerprint_of_error hclean fresh)
    | ok d =>
      cases hactive : s.activeAt d
      · rw [linkStep, sendFingerprint_of_inactive hclean hactive, establishAndIdentify_eq hactive]
        split
        · refine .inr ⟨d, some ⟨true, some (fingerprintData s)⟩, destination_of_cleanHashBytes hclean, ?_⟩
          simp [identifyOverLink, LinkCache.withFreshLink, fingerprintData]
        · exact .inl rfl
      · obtain ⟨link, hlink, hlinkActive⟩ := LinkCache.activeAt_eq_true.mp hactive
        rw [linkStep, sendFingerprint_of_active hclean hlink hlinkActive]
        exact .inr ⟨d, _, destination_of_cleanHashBytes hclean, rfl⟩
  | linkClosed d =>
    cases hlink : s.cachedLinks d with
    | none => exact .inl (by simp [linkStep, closeLink, hlink])
    | some link =>
      exact .inr ⟨d, some { link with active := false }, rfl, by simp [linkStep, closeLink, hlink]⟩

/-- Every event keeps the browser's identity. -/
theorem linkStep_lxmfDestHash (s : LinkCache) (e : LinkEvent) :
    (linkStep s e).lxmfDestHash = s.lxmfDestHash := by
  rcases linkStep_eq s e with h | ⟨d, v, -, h⟩ <;> rw [h]

/-- Every event touches only the cached link of the destination it names. -/
theorem linkStep_frame (e : LinkEvent) (hd : e.destination ≠ some d') :
    (linkStep s e).cachedLinks d' = s.cachedLinks d' := by
  rcases linkStep_eq s e with h | ⟨d, v, he, h⟩
  · rw [h]
  · have hne : d' ≠ d := fun h' => hd (by rw [h']; exact he)
    rw [h]
    exact Function.update_noteq hne _ _

/-! ## The fingerprint rides along until the link closes -/

/-- The destination has an active cached link that carries the browser's fingerprint. -/
def Identified (s : LinkCache) (d : List UInt8) : Prop :=
  ∃ link, s.cachedLinks d = some link ∧ link.active = true ∧
    link.fingerprintData = some (fingerprintData s)

theorem Identified.activeAt (h : Identified s d) : s.activeAt d = true :=
  let ⟨link, hlink, hactive, _⟩ := h
  LinkCache.activeAt_eq_true.mpr ⟨link, hlink, hactive⟩

theorem identified_identifyOverLink {link : Link} (hactive : link.active = true) :
    Identified (identifyOverLink s d link) d :=
  ⟨{ link with fingerprintData := some (fingerprintData s) }, by simp [identifyOverLink], hactive,
    rfl⟩

/-- A successful `send_fingerprint` leaves its destination identified. -/
theorem identified_of_sendFingerprint (hclean : cleanHashBytes node_hash = .ok d)
    {fresh : Attempt PagePayload} (hsent : (sendFingerprint s node_hash fresh).2.status = "success") :
    Identified (sendFingerprint s node_hash fresh).1 d := by
  cases hactive : s.activeAt d
  · rw [sendFingerprint_of_inactive hclean hactive, establishAndIdentify_eq hactive] at hsent ⊢
    by_cases hfetch : (Fetch.fetchPage fresh).status = "success"
    · rw [if_pos hfetch]
      exact identified_identifyOverLink rfl
    · simp [hfetch, linkNotEstablished] at hsent
  · obtain ⟨link, hlink, hlinkActive⟩ := LinkCache.activeAt_eq_true.mp hactive
    rw [sendFingerprint_of_active hclean hlink hlinkActive]
    exact identified_identifyOverLink hlinkActive

theorem cleanHashBytes_of_destination {node_hash : String}
    (hd : (cleanHashBytes node_hash).toOption = some d) : cleanHashBytes node_hash = .ok d := by
  cases hc : cleanHashBytes node_hash <;> simp_all [Except.toOption]

/-- Every event other than the closing of its link keeps a destination identified. -/
theorem Identified.step (h : Identified s d) (e : LinkEvent) (hopen : e ≠ .linkClosed d) :
    Identified (linkStep s e) d := by
  by_cases hd : e.destination = some d
  · cases e with
    | fetchPage node_hash cached fresh =>
      rwa [linkStep, webFetchPage_of_active (cleanHashBytes_of_destination hd) h.activeAt]
    | sendFingerprint node_hash fresh =>
      obtain ⟨link, hlink, hactive, -⟩ := h
      rw [linkStep, sendFingerprint_of_active (cleanHashBytes_of_destination hd) hlink hactive]
      exact identified_identifyOverLink hactive
    | linkClosed destination_hash =>
      simp only [LinkEvent.destination, Option.some.injEq] at hd
      exact absurd (hd ▸ rfl) hopen
  · obtain ⟨link, hlink, hactive, hfingerprint⟩ := h
    refine ⟨link, (linkStep_frame e hd).trans hlink, hactive, ?_⟩
    rw [hfingerprint, fingerprintData, fingerprintData, linkStep_lxmfDestHash]

/-- A destination stays identified along every run in which its link does not close. -/
theorem Identified.run (h : Identified s d) (events : List LinkEvent)
    (hopen : ∀ e ∈ events, e ≠ .linkClosed d) : Identified (linkRun s events) d := by
  induction events generalizing s with
  | nil => exact h
  | cons e events ih =>
    exact ih (h.step e (hopen e (List.mem_cons_self _ _)))
      fun e' he' => hopen e' (List.mem_cons_of_mem _ he')

theorem linkRun_lxmfDestHash (s : LinkCache) (events : List LinkEvent) :
    (linkRun s events).lxmfDestHash = s.lxmfDestHash := by
  induction events generalizing s with
  | nil => rfl
  | cons e events ih => exact (ih (linkStep s e)).trans (linkStep_lxmfDestHash s e)

/-- The data of a request over an identified link: the prepared form, and `dest`. -/
theorem requestData_of_identified (h : Identified s d) (form_data : Option (PyDict FormValue)) :
    ∃ final, requestData s d form_data = some final ∧
      final.get? "dest" = some (.text (Calls.bytesHex s.lxmfDestHash)) ∧
      ∀ k, k ≠ "dest" → final.get? k = (prepareFormData form_data).get? k := by
  obtain ⟨link, hlink, hactive, hfingerprint⟩ := h
  have hupdate : ∀ k, ((prepareFormData form_data).update (fingerprintData s)).get? k =
      if k = "dest" then some (.text (Calls.bytesHex s.lxmfDestHash))
      else (prepareFormData form_data).get? k := fun k => PyDict.get?_setItem _ _ _ k
  have hdest := hupdate "dest"
  rw [if_pos rfl] at hdest
  refine ⟨_, ?_, hdest, fun k hk => by rw [hupdate, if_neg hk]⟩
  have hnonempty : (fingerprintData s).items ≠ [] := List.cons_ne_nil _ _
  simp [requestData, cachedRequestData, hlink, hactive, hfingerprint, hnonempty,
    PyDict.items_ne_nil_of_get? hdest]


/-- Once `send_fingerprint` has succeeded for a node, every request that `fetch_page` then
makes to the node carries `dest`, the hex of the browser's LXMF destination, beside the
prepared form, whatever form it sends and along every run of fetches, fingerprint sends
and link closings in which the node's own link does not close. -/
theorem fingerprint_sent_until_closed {s : LinkCache} {node_hash : String} {d : List UInt8}
    (hclean : cleanHashBytes node_hash = .ok d) {fresh : Attempt PagePayload}
    (hsent : (sendFingerprint s node_hash fresh).2.status = "success")
    (events : List LinkEvent) (hopen : ∀ e ∈ events, e ≠ .linkClosed d)
    (form_data : Option (PyDict FormValue)) :
    ∃ final, requestData (linkRun (sendFingerprint s node_hash fresh).1 events) d form_data = some final ∧
      final.get? "dest" = some (.text (Calls.bytesHex s.lxmfDestHash)) ∧
      ∀ k, k ≠ "dest" → final.get? k = (prepareFormData form_data).get? k := by
  have hidentified := (identified_of_sendFingerprint hclean hsent).run events hopen
  have hlxmf : (linkRun (sendFingerprint s node_hash fresh).1 events).lxmfDestHash = s.lxmfDestHash :=
    (linkRun_lxmfDestHash _ events).trans (linkStep_lxmfDestHash s (.sendFingerprint node_hash fresh))
  simpa only [hlxmf] using requestData_of_identified hidentified form_data

/-- A browser with no cached link, whose LXMF destination hash is `cd`. -/
def freshBrowser : LinkCache := ⟨fun _ => none, [205]⟩

/-- A fetch whose link is established and whose page comes back as UTF-8. -/
def pageAnswered : Attempt PagePayload :=
  .linked [.linkEstablished none, .response (.bytes [104, 105] (some "hi"))]

theorem fingerprint_sent_until_closed_ab :
    cleanHashBytes "ab" = .ok [171] ∧
      (sendFingerprint freshBrowser "ab" pageAnswered).2.status = "success" ∧
      (∀ e ∈ ([] : List LinkEvent), e ≠ .linkClosed [171]) ∧
      ∃ final, requestData (linkRun (sendFingerprint freshBrowser "ab" pageAnswered).1 []) [171]
          none = some final ∧
        final.get? "dest" = some (.text (Calls.bytesHex freshBrowser.lxmfDestHash)) ∧
        ∀ k, k ≠ "dest" → final.get? k = (prepareFormData none).get? k :=
  have hclean : cleanHashBytes "ab" = .ok [171] := rfl
  have hsent : (sendFingerprint freshBrowser "ab" pageAnswered).2.status = "success" := by decide
  have hopen : ∀ e ∈ ([] : List LinkEvent), e ≠ .linkClosed [171] := nofun
  ⟨hclean, hsent, hopen, fingerprint_sent_until_closed hclean hsent [] hopen none⟩

theorem closeLink_activeAt (s : LinkCache) (d : List UInt8) : (closeLink s d).activeAt d = false := by
  unfold closeLink
  cases hlink : s.cachedLinks d with
  | none => simp [LinkCache.activeAt, hlink]
  | some link => simp [LinkCache.activeAt]

theorem requestData_of_inactive (hinactive : s.activeAt d = false)
    (form_data : Option (PyDict FormValue)) : requestData s d form_data = freshRequestData form_data := by
  unfold requestData
  cases hlink : s.cachedLinks d with
  | none => rfl
  | some link =>
    simp only [LinkCache.activeAt, hlink] at hinactive
    simp [hinactive]

/-- `_build_prefixed_form_data` never fills `dest`: its keys start with `var_` or
`field_`. -/
theorem buildPrefixedFormData_get?_dest (form_data : PyDict FormValue) :
    (buildPrefixedFormData form_data).get? "dest" = none := by
  have hhead : ∀ k : String, "dest" ≠ "var_" ++ k ∧ "dest" ≠ "field_" ++ k := fun k =>
    ⟨fun h => by simpa [String.data_append] using congrArg (fun s : String => s.data.head?) h,
      fun h => by simpa [String.data_append] using congrArg (fun s : String => s.data.head?) h⟩
  have hnone : form_data.items.filter (fun item => "dest" = "var_" ++ item.1 ∨
      "dest" = "field_" ++ item.1) = [] :=
    List.filter_eq_nil_iff.mpr fun item _ => by simp [(hhead item.1).1, (hhead item.1).2]
  rw [get?_buildPrefixedFormData, hnone]
  rfl

/-- Every key `_build_prefixed_form_data` files starts with `var_` or `field_`. -/
theorem buildPrefixedFormData_keys (form_data : PyDict FormValue) {key : String}
    {value : FormValue} (hmem : (key, value) ∈ (buildPrefixedFormData form_data).items) :
    Downloads.startswith key "var_" = true ∨ Downloads.startswith key "field_" = true := by
  have hget := PyDict.get?_of_mem hmem
  rw [get?_buildPrefixedFormData] at hget
  obtain ⟨item, hitem, -⟩ := Option.map_eq_some'.mp hget
  have hkey := (List.mem_filter.mp (List.mem_of_getLast?_eq_some hitem)).2
  simp only [decide_eq_true_eq] at hkey
  rcases hkey with rfl | rfl
  · exact .inl (startswith_append _ _)
  · exact .inr (startswith_append _ _)

/-- Once the node's link has closed, the next request opens a fresh link and sends the
form with `var_` and `field_` keys and no `dest`; if it succeeds, the link it caches
carries no fingerprint, so later requests send no `dest` either until the next
`send_fingerprint`. -/
theorem closeLink_forgets_fingerprint (s : LinkCache) {node_hash : String} {d : List UInt8}
    (hclean : cleanHashBytes node_hash = .ok d) (form_data : Option (PyDict FormValue))
    (cached : CachedOutcome) (fresh : Attempt PagePayload) :
    requestData (closeLink s d) d form_data = freshRequestData form_data ∧
      (∀ final, freshRequestData form_data = some final →
        (∀ key value, (key, value) ∈ final.items →
          Downloads.startswith key "var_" = true ∨ Downloads.startswith key "field_" = true) ∧
        final.get? "dest" = none) ∧
      ((webFetchPage (closeLink s d) node_hash cached fresh).2.status = "success" →
        (webFetchPage (closeLink s d) node_hash cached fresh).1.cachedLinks d = some ⟨true, none⟩) := by
  have hinactive := closeLink_activeAt s d
  refine ⟨requestData_of_inactive hinactive form_data, fun final hfinal => ?_, fun hok => ?_⟩
  · cases form_data with
    | none => cases hfinal
    | some form =>
      simp only [freshRequestData] at hfinal
      split at hfinal
      · cases hfinal
      · cases hfinal
        exact ⟨fun _ _ hmem => buildPrefixedFormData_keys form hmem,
          buildPrefixedFormData_get?_dest form⟩
  · rw [webFetchPage_of_inactive hclean hinactive, freshFetch_eq] at hok ⊢
    by_cases hfetch : (Fetch.fetchPage fresh).status = "success"
    · simp [hfetch, LinkCache.withFreshLink]
    · simp [hfetch] at hok

theorem closeLink_forgets_fingerprint_ab :
    cleanHashBytes "ab" = .ok [171] ∧
      (requestData (closeLink freshBrowser [171]) [171] none = freshRequestData none ∧
        (∀ final, freshRequestData none = some final →
          (∀ key value, (key, value) ∈ final.items →
            Downloads.startswith key "var_" = true ∨ Downloads.startswith key "field_" = true) ∧
          final.get? "dest" = none) ∧
        ((webFetchPage (closeLink freshBrowser [171]) "ab" (.callbacks []) pageAnswered).2.status =
            "success" →
          (webFetchPage (closeLink freshBrowser [171]) "ab" (.callbacks []) pageAnswered).1.cachedLinks
            [171] = some ⟨true, none⟩)) :=
  have hclean : cleanHashBytes "ab" = .ok [171] := rfl
  ⟨hclean, closeLink_forgets_fingerprint freshBrowser hclean none (.callbacks []) pageAnswered⟩

/-- Without an active cached link, `send_fingerprint` succeeds exactly when the page fetch
it makes of the destination's hex does: `_clean_hash` reads that hex back as the
destination, so the link the fetch caches is the one it then identifies on. -/
theorem sendFingerprint_new_link {s : LinkCache} {node_hash : String} {d : List UInt8}
    (hclean : cleanHashBytes node_hash = .ok d) (hinactive : s.activeAt d = false)
    (fresh : Attempt PagePayload) :
    (sendFingerprint s node_hash fresh).2 =
      if (Fetch.fetchPage fresh).status = "success" then
        ⟨"Identity established on new link", "success", none⟩
      else ⟨"Could not create or identify on link", "error", some "Failed to establish link"⟩ := by
  rw [sendFingerprint_of_inactive hclean hinactive, establishAndIdentify_eq hinactive]
  split <;> rfl

/-- A fresh browser identifies on a new link to a node that answers the page. -/
example : (sendFingerprint freshBrowser "ab" pageAnswered).2 =
    ⟨"Identity established on new link", "success", none⟩ := by
  have hclean : cleanHashBytes "ab" = .ok [171] := rfl
  have hinactive : freshBrowser.activeAt [171] = false := rfl
  rw [sendFingerprint_new_link hclean hinactive pageAnswered]
  rfl

/-- Over a fresh link no field is lost: each field `k` of the form is sent as `var_k` and
as `field_k`, with `str(value)`. -/
theorem buildPrefixedFormData_keeps_fields (form_data : PyDict FormValue) (k : String) :
    (buildPrefixedFormData form_data).get? ("var_" ++ k) =
        (form_data.get? k).map (fun v => .text v.str) ∧
      (buildPrefixedFormData form_data).get? ("field_" ++ k) =
        (form_data.get? k).map (fun v => .text v.str) := by
  have hkey : ∀ key, (∀ item : String × FormValue,
      (key = "var_" ++ item.1 ∨ key = "field_" ++ item.1) ↔ item.1 = k) →
      (buildPrefixedFormData form_data).get? key = (form_data.get? k).map fun v => .text v.str := by
    intro key hiff
    rw [get?_buildPrefixedFormData, PyDict.get?, ← getLast?_filter_key _ form_data.nodup k,
      Option.map_map, List.filter_congr fun item _ => decide_eq_decide.mpr (hiff item)]
    rfl
  refine ⟨hkey _ fun item => ⟨fun h => ?_, fun h => .inl (by rw [h])⟩,
    hkey _ fun item => ⟨fun h => ?_, fun h => .inr (by rw [h])⟩⟩
  · rcases h with h | h
    · exact ((prefix_append_inj _ _ _).mp h).symm
    · exact absurd h (var_ne_field _ _)
  · rcases h with h | h
    · exact absurd h.symm (var_ne_field _ _)
    · exact ((prefix_append_inj _ _ _).mp h).symm

/-- Over an active cached link without fingerprint, the node receives under each key the
value of the last form field that `_prepare_form_data` files under it: a field `k` and a
field `field_k` of one form land on one key, and only the later one is sent. -/
theorem requestData_cached_get? {s : LinkCache} {d : List UInt8}
    (hlink : s.cachedLinks d = some ⟨true, none⟩) (form_data : Option (PyDict FormValue))
    (k : String) :
    (requestData s d form_data).bind (fun data => data.get? k) =
      match form_data with
      | none => none
      | some form => ((form.items.filter fun item => preparedKey item.1 = k).getLast?).map Prod.snd := by
  rw [← prepareFormData_get?]
  simp only [requestData, hlink, if_true, cachedRequestData]
  split
  · rename_i hempty
    simp [PyDict.get?, hempty]
  · rfl

/-- A browser whose link to `ab` is cached and has no fingerprint. -/
def cachedBrowser : LinkCache := ⟨update (fun _ => none) [171] (some ⟨true, none⟩), [205]⟩

theorem requestData_cached_get?_ab :
    cachedBrowser.cachedLinks [171] = some ⟨true, none⟩ ∧
      (requestData cachedBrowser [171] none).bind (fun data => data.get? "field_x") = none :=
  have hlink : cachedBrowser.cachedLinks [171] = some ⟨true, none⟩ := by
    simp [cachedBrowser]
  ⟨hlink, requestData_cached_get? hlink none "field_x"⟩

end Robumba.Browser
