import Robumba.Calls.CallManager
import Robumba.Downloads.Handlers

/-!
# Requests to a NomadNet node

`NomadNetBrowser.fetch_page` and `NomadNetFileBrowser.fetch_file` in `nomadnet.py` share
one protocol.  The fetching thread clears a `RequestResult` and a `response_event`,
opens a link, and waits on the event.  Reticulum then runs callbacks on its own thread:
`_on_link_established` sends the request, or, when `link.request` raises, stores an
error and sets the event; `_on_response` stores the converted response and sets the
event; `_on_request_failed` stores a failure value and sets the event.  When the wait
returns, the fetch answers `success` with the stored data if the event is set and the
result received, and `Timeout` otherwise.

Every callback that sets the event has marked the result received first
(`RequestState.received_of_eventSet`), and the event is set exactly when a callback
other than a sent request has run (`runCallbacks_eventSet`).  So a fetch answers
`success` whenever such a callback ran before the wait returned, a failed request
included (`fetchPage_status_success_iff`): a page request that the node fails is
answered `success` with the text `Request failed` (`fetchPage_failed`), and a file
request with empty content (`fetchFile_failed`).

The two requesters differ only in what they store, which `Requester` holds.  The
callbacks of a fetch are those that ran before the wait returned, and the result is
read as they left it.
-/

namespace Robumba.Fetch

/-! ## The protocol -/

/-- A callback of Reticulum on the request's link: the link established, with the
message `link.request` raised or `none` when it sent the request; a response; or the
request failing. -/
inductive Callback (ρ : Type)
  | linkEstablished (request_error : Option String)
  | response (payload : ρ)
  | requestFailed
  deriving DecidableEq, Repr

/-- Whether a callback sets `response_event`: all but a request sent without error. -/
def Callback.setsEvent {ρ : Type} : Callback ρ → Bool
  | .linkEstablished none => false
  | _ => true

/-- What a requester stores: the data `_on_response` makes of a response, the data of a
failed request, and the data of a request that raised. -/
structure Requester (α ρ : Type) where
  responseData : ρ → α
  failedData : α
  requestErrorData : String → α

/-- `RequestResult.data`, `RequestResult.received`, and whether `response_event` is set. -/
structure RequestState (α : Type) where
  data : Option α
  received : Bool
  eventSet : Bool
  deriving DecidableEq, Repr

variable {α ρ : Type}

/-- `self.result = RequestResult()` and `self.response_event.clear()`. -/
def RequestState.cleared : RequestState α := ⟨none, false, false⟩

/-- The effect of one callback. -/
def onCallback (req : Requester α ρ) (r : RequestState α) : Callback ρ → RequestState α
  | .linkEstablished none => r
  | .linkEstablished (some e) => ⟨some (req.requestErrorData e), true, true⟩
  | .response payload => ⟨some (req.responseData payload), true, true⟩
  | .requestFailed => ⟨some req.failedData, true, true⟩

/-- The state after the callbacks that ran before the wait returned. -/
def runCallbacks (req : Requester α ρ) (callbacks : List (Callback ρ)) : RequestState α :=
  callbacks.foldl (onCallback req) .cleared

/-- How far a fetch gets before it waits: no path, no identity, an exception raised while
opening the link, or a link whose callbacks run. -/
inductive Attempt (ρ : Type)
  | noPath
  | noIdentity
  | raised (message : String)
  | linked (callbacks : List (Callback ρ))
  deriving DecidableEq, Repr

/-! ## What one callback and a run of them do -/

variable (req : Requester α ρ)

/-- A callback that sets the event stores its data and marks it received. -/
theorem onCallback_of_setsEvent (r : RequestState α) {cb : Callback ρ}
    (hsets : cb.setsEvent = true) :
    (onCallback req r cb).received = true ∧ (onCallback req r cb).eventSet = true := by
  cases cb with
  | linkEstablished request_error =>
    cases request_error <;> simp_all [Callback.setsEvent, onCallback]
  | response payload => exact ⟨rfl, rfl⟩
  | requestFailed => exact ⟨rfl, rfl⟩

/-- A callback that does not set the event changes nothing. -/
theorem onCallback_of_not_setsEvent (r : RequestState α) {cb : Callback ρ}
    (hsets : cb.setsEvent = false) : onCallback req r cb = r := by
  cases cb with
  | linkEstablished request_error =>
    cases request_error <;> simp_all [Callback.setsEvent, onCallback]
  | response payload => cases hsets
  | requestFailed => cases hsets

/-- The event is set after a run exactly when it was set before or a callback that sets
it ran. -/
theorem foldl_onCallback_eventSet (callbacks : List (Callback ρ)) (r : RequestState α) :
    (callbacks.foldl (onCallback req) r).eventSet =
      (r.eventSet || callbacks.any Callback.setsEvent) := by
  induction callbacks generalizing r with
  | nil => simp
  | cons cb callbacks ih =>
    rw [List.foldl_cons, ih]
    cases hsets : cb.setsEvent
    · simp [onCallback_of_not_setsEvent req r hsets, hsets]
    · simp [(onCallback_of_setsEvent req r hsets).2, hsets]

theorem runCallbacks_eventSet (callbacks : List (Callback ρ)) :
    (runCallbacks req callbacks).eventSet = callbacks.any Callback.setsEvent := by
  simp [runCallbacks, foldl_onCallback_eventSet, RequestState.cleared]

/-- The event is never set before the result is received: one callback keeps this. -/
theorem RequestState.received_of_eventSet_step {r : RequestState α}
    (h : r.eventSet = true → r.received = true) (cb : Callback ρ) :
    (onCallback req r cb).eventSet = true → (onCallback req r cb).received = true := by
  cases hsets : cb.setsEvent
  · rw [onCallback_of_not_setsEvent req r hsets]; exact h
  · exact fun _ => (onCallback_of_setsEvent req r hsets).1

/-- The event is never set before the result is received, along every run of callbacks. -/
theorem RequestState.received_of_eventSet (callbacks : List (Callback ρ)) :
    (runCallbacks req callbacks).eventSet = true →
      (runCallbacks req callbacks).received = true := by
  suffices ∀ r : RequestState α, (r.eventSet = true → r.received = true) →
      (callbacks.foldl (onCallback req) r).eventSet = true →
        (callbacks.foldl (onCallback req) r).received = true from
    this .cleared nofun
  induction callbacks with
  | nil => exact fun _ h => h
  | cons cb callbacks ih => exact fun r h => ih _ (received_of_eventSet_step req h cb)

/-- The last callback that sets the event decides the data. -/
theorem runCallbacks_append_of_setsEvent (callbacks : List (Callback ρ)) (cb : Callback ρ)
    (hsets : cb.setsEvent = true) :
    runCallbacks req (callbacks ++ [cb]) =
      onCallback req .cleared cb := by
  cases cb with
  | linkEstablished request_error =>
    cases request_error <;> simp_all [Callback.setsEvent, runCallbacks, onCallback]
  | response payload => simp [runCallbacks, onCallback]
  | requestFailed => simp [runCallbacks, onCallback]

/-! ## Pages -/

/-- `receipt.response` as `NomadNetBrowser._on_response` tells it apart: a false value
(`None`, `b""`, `""`, ...), non-empty bytes with their UTF-8 decoding (`none` when
decoding raises), or any other true value, as `str(data)` shows it. -/
inductive PagePayload
  | falsy
  | bytes (data : List UInt8) (utf8 : Option String)
  | other (shown : String)
  deriving DecidableEq, Repr

/-- The text `NomadNetBrowser._on_response` stores. -/
def pageResponseData : PagePayload → String
  | .falsy => "Empty response"
  | .bytes _ (some decoded) => decoded
  | .bytes data none => "Binary data: " ++ ⟨(Calls.bytesHex data).data.take 200⟩ ++ "..."
  | .other shown => shown

/-- What `NomadNetBrowser` stores. -/
def pageRequester : Requester String PagePayload where
  responseData := pageResponseData
  failedData := "Request failed"
  requestErrorData e := "Request error: " ++ e

/-- The dictionary `fetch_page` answers. -/
structure PageResponse where
  content : String
  status : String
  error : Option String
  deriving DecidableEq, Repr

/-- `NomadNetBrowser.fetch_page`: `self.result.data or "Empty response"` on success. -/
def fetchPage : Attempt PagePayload → PageResponse
  | .noPath => ⟨"No path to destination", "error", some "No path"⟩
  | .noIdentity => ⟨"Could not recall identity", "error", some "No identity"⟩
  | .raised message => ⟨"Exception: " ++ message, "error", some message⟩
  | .linked callbacks =>
    let r := runCallbacks pageRequester callbacks
    if r.eventSet && r.received then
      ⟨match r.data with
        | some data => if data = "" then "Empty response" else data
        | none => "Empty response", "success", none⟩
    else ⟨"Request timeout", "error", some "Timeout"⟩

/-- `fetch_page` answers `success` exactly when a callback that sets the event ran
before the wait returned. -/
theorem fetchPage_status_success_iff (attempt : Attempt PagePayload) :
    (fetchPage attempt).status = "success" ↔
      ∃ callbacks, attempt = .linked callbacks ∧ callbacks.any Callback.setsEvent = true := by
  cases attempt with
  | linked callbacks =>
    have hreceived := RequestState.received_of_eventSet pageRequester callbacks
    rw [runCallbacks_eventSet] at hreceived
    cases hany : callbacks.any Callback.setsEvent <;>
      simp [fetchPage, runCallbacks_eventSet, hany, hreceived, -List.any_eq_true]
  | _ => simp [fetchPage]

/-- A page request that the node fails is answered `success` with the text
`Request failed`, whatever ran before. -/
theorem fetchPage_failed (callbacks : List (Callback PagePayload)) :
    fetchPage (.linked (callbacks ++ [.requestFailed])) = ⟨"Request failed", "success", none⟩ := by
  rw [fetchPage, runCallbacks_append_of_setsEvent pageRequester callbacks .requestFailed rfl]
  rfl

/-! ## Files -/

/-- What a file-like response's `read()` gives. -/
inductive FileContent
  | bytes (data : List UInt8)
  | str (text : String)
  deriving DecidableEq, Repr

/-- An item of a list response. -/
inductive ListItem
  | bytes (data : List UInt8)
  | str (text : String)
  | other
  deriving DecidableEq, Repr

/-- `receipt.response` as `NomadNetFileBrowser._on_response` tells it apart. -/
inductive FilePayload
  | bytes (data : List UInt8)
  | str (text : String)
  | list (items : List ListItem)
  | fileObject (content : FileContent)
  | other
  deriving DecidableEq, Repr

/-- `s.encode("latin1")`, `none` when a character is above `U+00FF`. -/
def latin1 (s : String) : Option (List UInt8) :=
  s.data.mapM fun c => if c.toNat < 256 then some c.toNat.toUInt8 else none

/-- The bytes of one list item, as the loop of `_handle_list_response` takes them. -/
def listItemBytes : ListItem → Option (List UInt8)
  | .bytes data => some data
  | .str text => latin1 text
  | .other => some []

/-- `_handle_list_response`: bytes items joined, or, when some item is not bytes, bytes
and Latin-1 text kept and the rest dropped; `b""` when an encoding raises. -/
def handleListResponse (items : List ListItem) : List UInt8 :=
  if items.all fun | .bytes _ => true | _ => false then
    (items.filterMap fun | .bytes data => some data | _ => none).flatten
  else ((items.mapM listItemBytes).map List.flatten).getD []

/-- `_read_file_object`. -/
def readFileObject : FileContent → List UInt8
  | .bytes data => data
  | .str text => (latin1 text).getD []

/-- The bytes `NomadNetFileBrowser._on_response` stores. -/
def fileResponseData : FilePayload → List UInt8
  | .bytes data => data
  | .str text => text.toUTF8.data.toList
  | .list items => handleListResponse items
  | .fileObject content => readFileObject content
  | .other => []

/-- What `NomadNetFileBrowser` stores: `b""` for a failed or raising request. -/
def fileRequester : Requester (List UInt8) FilePayload where
  responseData := fileResponseData
  failedData := []
  requestErrorData _ := []

/-- `NomadNetFileBrowser.fetch_file`: `self.result.data or b""` on success. -/
def fetchFile : Attempt FilePayload → Downloads.FetchResponse
  | .noPath => ⟨"error", [], some "No path"⟩
  | .noIdentity => ⟨"error", [], some "No identity"⟩
  | .raised message => ⟨"error", [], some message⟩
  | .linked callbacks =>
    let r := runCallbacks fileRequester callbacks
    if r.eventSet && r.received then ⟨"success", r.data.getD [], none⟩
    else ⟨"error", [], some "Timeout"⟩

/-- A file request that the node fails is answered `success` with no content, whatever
ran before. -/
theorem fetchFile_failed (callbacks : List (Callback FilePayload)) :
    fetchFile (.linked (callbacks ++ [.requestFailed])) = ⟨"success", [], none⟩ := by
  rw [fetchFile, runCallbacks_append_of_setsEvent fileRequester callbacks .requestFailed rfl]
  rfl

end Robumba.Fetch
