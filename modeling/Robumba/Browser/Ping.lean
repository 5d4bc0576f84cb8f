import Robumba.Browser.Links
import Robumba.Format

/-!
# Pinging a node

`NomadNetBrowser.send_ping` in `nomadnet.py` runs the protocol of a page request
(`Robumba.Fetch`) on a link of its own.  It clears a `RequestResult` and the
`response_event`, notes the time, opens a link, and waits on the event.  Three callbacks
set the event: `_on_ping_link_established` when `link.request` raises, `_on_ping_response`
after storing the round-trip time, and `_on_ping_failed`.  Each of them marks the result
received, and only the response stores a time.  When the wait returns, the ping answers
`Pong received!` if the event is set and the result received, with the stored time or
`0.0`, and `Ping timeout` otherwise.

Along every run of callbacks the result is received exactly when the event is set
(`PingState.received_eq_eventSet`), and the stored time is that of the last response
(`runPingCallbacks_rtt`).  So a ping answers `success` exactly when a callback that sets the
event ran, and then reports the time of the last response, `0.0` when none came
(`sendPing_linked`): a ping whose request failed or raised before any response is reported
as a pong after `0.00s`.
-/

namespace Robumba.Browser

open Robumba.Fetch (Callback Attempt)

/-! ## The protocol -/

/-- `self.result.rtt`, `self.result.received`, and whether `response_event` is set. -/
structure PingState where
  rtt : Option ℚ
  received : Bool
  eventSet : Bool
  deriving DecidableEq, Repr

/-- `self.result = RequestResult()` and `self.response_event.clear()`. -/
def PingState.cleared : PingState := ⟨none, false, false⟩

/-- The effect of one callback.  A response carries the round-trip time
`time.time() - self.ping_start_time` measured when it ran. -/
def onPingCallback (r : PingState) : Callback ℚ → PingState
  | .linkEstablished none => r
  | .linkEstablished (some _) => { r with received := true, eventSet := true }
  | .response rtt => ⟨some rtt, true, true⟩
  | .requestFailed => { r with received := true, eventSet := true }

/-- The state after the callbacks that ran before the wait returned. -/
def runPingCallbacks (callbacks : List (Callback ℚ)) : PingState :=
  callbacks.foldl onPingCallback .cleared

/-- The round-trip time a callback stores. -/
def storedRtt : Callback ℚ → Option ℚ
  | .response rtt => some rtt
  | _ => none

/-- What `send_ping` answers; `rtt` only on success. -/
structure PingResponse where
  message : String
  rtt : Option ℚ
  status : String
  error : Option String
  deriving DecidableEq, Repr

/-- `NomadNetBrowser.send_ping`. -/
def sendPing : Attempt ℚ → PingResponse
  | .noPath => ⟨"No path to destination", none, "error", some "No path"⟩
  | .noIdentity => ⟨"Could not recall identity", none, "error", some "No identity"⟩
  | .raised message => ⟨"Exception: " ++ message, none, "error", some message⟩
  | .linked callbacks =>
    let r := runPingCallbacks callbacks
    if r.eventSet && r.received then
      let rtt := r.rtt.getD 0
      ⟨"Pong received! Round-trip time: " ++ formatFixed 2 rtt ++ "s", some rtt, "success", none⟩
    else ⟨"Ping timeout", none, "error", some "Timeout"⟩

/-- `NomadNetWebBrowser.ping_node(node_hash)`, behind `/api/ping/<node_hash>`: building the
`NomadNetBrowser` raises when `_clean_hash` does. -/
def pingNode (node_hash : String) (attempt : Attempt ℚ) : PingResponse :=
  match cleanHashBytes node_hash with
  | .error i => ⟨"", none, "error", some ("Ping failed: " ++ fromhexError i)⟩
  | .ok _ => sendPing attempt

/-! ## Runs of callbacks -/

/-- One callback keeps the result received exactly when the event is set. -/
theorem PingState.received_eq_eventSet_step {r : PingState} (h : r.received = r.eventSet)
    (cb : Callback ℚ) : (onPingCallback r cb).received = (onPingCallback r cb).eventSet := by
  cases cb with
  | linkEstablished request_error => cases request_error <;> simp [onPingCallback, h]
  | response rtt => rfl
  | requestFailed => rfl

/-- A callback sets the event, or leaves the state as it was. -/
theorem onPingCallback_eventSet (r : PingState) (cb : Callback ℚ) :
    (onPingCallback r cb).eventSet = (r.eventSet || cb.setsEvent) := by
  cases cb with
  | linkEstablished request_error =>
    cases request_error <;> simp [onPingCallback, Callback.setsEvent]
  | response rtt => simp [onPingCallback, Callback.setsEvent]
  | requestFailed => simp [onPingCallback, Callback.setsEvent]

/-- A callback stores its round-trip time, or keeps the one stored. -/
theorem onPingCallback_rtt (r : PingState) (cb : Callback ℚ) :
    (onPingCallback r cb).rtt = (storedRtt cb).or r.rtt := by
  cases cb with
  | linkEstablished request_error => cases request_error <;> rfl
  | response rtt => rfl
  | requestFailed => rfl

theorem foldl_onPingCallback (callbacks : List (Callback ℚ)) (r : PingState) :
    (callbacks.foldl onPingCallback r).eventSet = (r.eventSet || callbacks.any Callback.setsEvent) ∧
      (callbacks.foldl onPingCallback r).rtt =
        ((callbacks.filterMap storedRtt).getLast?).or r.rtt ∧
      (r.received = r.eventSet →
        (callbacks.foldl onPingCallback r).received =
          (callbacks.foldl onPingCallback r).eventSet) := by
  induction callbacks generalizing r with
  | nil => simp
  | cons cb callbacks ih =>
    obtain ⟨hevent, hrtt, hreceived⟩ := ih (onPingCallback r cb)
    refine ⟨by rw [List.foldl_cons, hevent, onPingCallback_eventSet, List.any_cons,
      Bool.or_assoc], ?_, fun h => hreceived (PingState.received_eq_eventSet_step h cb)⟩
    rw [List.foldl_cons, hrtt, onPingCallback_rtt]
    cases hcb : storedRtt cb with
    | none => simp only [List.filterMap_cons, hcb, Option.none_or]
    | some rtt =>
      simp only [List.filterMap_cons, hcb, Option.or_some, List.getLast?_cons]
      cases (callbacks.filterMap storedRtt).getLast? <;> rfl

/-- Along every run, the result is received exactly when the event is set. -/
theorem PingState.received_eq_eventSet (callbacks : List (Callback ℚ)) :
    (runPingCallbacks callbacks).received = (runPingCallbacks callbacks).eventSet :=
  (foldl_onPingCallback callbacks .cleared).2.2 rfl

/-- The stored time is that of the last response. -/
theorem runPingCallbacks_rtt (callbacks : List (Callback ℚ)) :
    (runPingCallbacks callbacks).rtt = (callbacks.filterMap storedRtt).getLast? := by
  rw [runPingCallbacks, (foldl_onPingCallback callbacks .cleared).2.1]
  simp [PingState.cleared]

/-- Over every run of callbacks before the wait returned, `send_ping` answers `Pong
received!` exactly when a callback that sets the event ran, with the round-trip time of the
last response, `0.0` when none came; otherwise it answers `Ping timeout`. -/
theorem sendPing_linked (callbacks : List (Callback ℚ)) :
    sendPing (.linked callbacks) =
      if callbacks.any Callback.setsEvent then
        let rtt := ((callbacks.filterMap storedRtt).getLast?).getD 0
        ⟨"Pong received! Round-trip time: " ++ formatFixed 2 rtt ++ "s", some rtt, "success",
          none⟩
      else ⟨"Ping timeout", none, "error", some "Timeout"⟩ := by
  have hevent : (runPingCallbacks callbacks).eventSet = callbacks.any Callback.setsEvent := by
    simpa [PingState.cleared] using (foldl_onPingCallback callbacks .cleared).1
  rw [sendPing, PingState.received_eq_eventSet, hevent, Bool.and_self, runPingCallbacks_rtt]

/-- A failed request after the link opened, with no response, is reported as a pong. -/
example : sendPing (.linked [.linkEstablished none, .requestFailed]) =
    ⟨"Pong received! Round-trip time: 0.00s", some 0, "success", none⟩ := by
  decide

end Robumba.Browser
