import Mathlib.Data.Rat.Defs

/-!
# The call manager

`CallManager` in `lxst_modules/call_manager.py` wraps an LXST `Telephone`.  Its state
here is what its methods read and write: whether a `Telephone` is held, the
`_initialized` flag, whether a Kotlin call bridge is set, `_active_call_identity` and
`_call_start_time`.

The `Telephone`, `RNS.Identity.recall` and the rest of LXST are oracles.  Every event
carries the outcome of each oracle call it makes: the value returned, or the exception
raised.  An event is one of the manager's methods or one of the LXST callbacks, and
`step` gives the new state and what the method returns.  The notifications to the
Kotlin bridge are caught when they raise, so their outcome changes nothing and events
do not carry it.

`landmark` names the events that bear on the call identity and the call start time.
`run` collects them, in order, along a sequence of events.
-/

namespace Robumba.Calls

/-- An exception raised by an oracle: a `ValueError` or any other. -/
inductive PyException
  | valueError (message : String)
  | other (message : String)
  deriving DecidableEq, Repr

/-- What one call of an oracle method does. -/
inductive Outcome (α : Type)
  | returns (value : α)
  | raises (e : PyException)
  deriving DecidableEq, Repr

/-- A Reticulum identity, as the manager reads it: `identity.hash.hex()`. -/
structure Identity where
  hashHex : String
  deriving DecidableEq, Repr

/-- The manager's state. -/
structure CallManager where
  telephone : Bool
  initialized : Bool
  kotlinCallBridge : Bool
  activeCallIdentity : Option String
  callStartTime : Option ℚ
  deriving DecidableEq, Repr

/-- `CallManager(identity)`. -/
def CallManager.new : CallManager :=
  ⟨false, false, false, none, none⟩

/-! ## `bytes.fromhex` and `bytes.hex()` -/

/-- The value of a hexadecimal digit. -/
def hexDigit (c : Char) : Option ℕ :=
  if '0' ≤ c ∧ c ≤ '9' then some (c.toNat - '0'.toNat)
  else if 'a' ≤ c ∧ c ≤ 'f' then some (c.toNat - 'a'.toNat + 10)
  else if 'A' ≤ c ∧ c ≤ 'F' then some (c.toNat - 'A'.toNat + 10)
  else none

/-- The ASCII whitespace `bytes.fromhex` skips between bytes. -/
def isAsciiSpace (c : Char) : Bool :=
  c = ' ' || c = '\t' || c = '\n' || c = '\x0b' || c = '\x0c' || c = '\r'

/-- CPython's scan of `bytes.fromhex` from position `i`: skip whitespace, then read two
digits, failing at the position of the first that is not one (the end included). -/
def fromhexFrom (i : ℕ) : List Char → Except ℕ (List UInt8)
  | [] => .ok []
  | [c] =>
    if isAsciiSpace c then .ok [] else if (hexDigit c).isSome then .error (i + 1) else .error i
  | c :: d :: rest =>
    if isAsciiSpace c then fromhexFrom (i + 1) (d :: rest)
    else match hexDigit c, hexDigit d with
      | some top, some bot =>
        (fromhexFrom (i + 2) rest).map fun bytes => (top * 16 + bot).toUInt8 :: bytes
      | none, _ => .error i
      | some _, none => .error (i + 1)

/-- `bytes.fromhex(s)`: the bytes, or the position the `ValueError` names.  A text that is
not all ASCII fails at its first non-ASCII character, before any scan. -/
def fromhex (s : String) : Except ℕ (List UInt8) :=
  match s.data.findIdx? fun c => 128 ≤ c.toNat with
  | some i => .error i
  | none => fromhexFrom 0 s.data

/-- On an ASCII text `bytes.fromhex` is the scan. -/
theorem fromhex_of_ascii {s : String} (hascii : ∀ c ∈ s.data, c.toNat < 128) :
    fromhex s = fromhexFrom 0 s.data := by
  have hnone : s.data.findIdx? (fun c => 128 ≤ c.toNat) = none :=
    List.findIdx?_eq_none_iff.mpr fun c hc => by simpa using hascii c hc
  rw [fromhex, hnone]

/-- The digit `bytes.hex()` writes for a value below sixteen: `0` to `9`, then `a` to
`f`. -/
def hexChar (d : ℕ) : Char :=
  if d < 10 then Char.ofNat ('0'.toNat + d) else Char.ofNat ('a'.toNat + (d - 10))

/-- The two digits of one byte, the high half first. -/
def hexPair (byte : UInt8) : List Char :=
  [hexChar (byte.toNat / 16), hexChar (byte.toNat % 16)]

/-- Python's `bytes.hex()`. -/
def bytesHex (bytes : List UInt8) : String :=
  ⟨bytes.flatMap hexPair⟩

/-! ## The methods -/

/-- How the LXST part of `initialize` ends: `set_kotlin_audio_bridge` raising (which
escapes the method), the LXST import failing, the `Telephone` constructor raising, one
of the callback setters raising (after `self.telephone` is set), or success. -/
inductive InitOutcome
  | backendRaises (e : PyException)
  | lxstMissing
  | telephoneRaises
  | wiringRaises
  | ok
  deriving DecidableEq, Repr

/-- A call of the Kotlin `CallBridge`, with the identity hash it passes. -/
inductive Notification
  | incomingCall (identity_hash : Option String)
  | callEstablished (identity_hash : Option String)
  | callEnded (identity_hash : Option String)
  | callBusy
  | callRejected
  deriving DecidableEq, Repr

/-- What a method returns: `None`, an exception escaping it, the dictionary of `call`,
the value of `answer`, or, for a callback, the notification sent to Kotlin, if any. -/
inductive CallOutput
  | none
  | raised (e : PyException)
  | callResult (success : Bool) (error : Option String)
  | answered (result : Bool)
  | notified (notification : Option Notification)
  deriving DecidableEq, Repr

/-- `initialize(audio_bridge, kotlin_call_bridge)`, which sets up the `Telephone`. -/
def initializeTelephone (m : CallManager) (kotlin_call_bridge : Bool) (outcome : InitOutcome) :
    CallManager × CallOutput :=
  if m.initialized then (m, .none)
  else
    let m := { m with kotlinCallBridge := kotlin_call_bridge }
    match outcome with
    | .backendRaises e => (m, .raised e)
    | .lxstMissing | .telephoneRaises => ({ m with initialized := false }, .none)
    | .wiringRaises => ({ m with telephone := true, initialized := false }, .none)
    | .ok => ({ m with telephone := true, initialized := true }, .none)

/-- `teardown()`: an exception of `telephone.teardown()` is caught and logged. -/
def teardown (m : CallManager) : CallManager :=
  { m with telephone := false, initialized := false }

/-- How far `call()` gets before it returns. -/
inductive CallPath
  | notInitialized
  | invalidHash (position : ℕ)
  | raised (e : PyException)
  | unknownIdentity
  | telephoneRaised (e : PyException)
  | started
  deriving DecidableEq, Repr

/-- The path of `call(destination_hash_hex)`, for the outcomes of
`RNS.Identity.recall` and `telephone.call`. -/
def callPath (m : CallManager) (destination_hash_hex : String)
    (identity_recall : Outcome (Option Identity)) (telephone_call : Outcome Unit) : CallPath :=
  if !m.initialized || !m.telephone then .notInitialized
  else match fromhex destination_hash_hex, identity_recall, telephone_call with
    | .error position, _, _ => .invalidHash position
    | .ok _, .raises e, _ => .raised e
    | .ok _, .returns none, _ => .unknownIdentity
    | .ok _, .returns (some _), .raises e => .telephoneRaised e
    | .ok _, .returns (some _), .returns () => .started

/-- The `{"success": False, "error": ...}` of an exception caught by `call()`:
`except ValueError` first, then `except Exception`. -/
def callError : PyException → CallOutput
  | .valueError message => .callResult false (some ("Invalid hash: " ++ message))
  | .other message => .callResult false (some message)

/-- `call(destination_hash_hex)`: the identity is recorded just before `telephone.call`. -/
def call (m : CallManager) (destination_hash_hex : String)
    (identity_recall : Outcome (Option Identity)) (telephone_call : Outcome Unit) :
    CallManager × CallOutput :=
  match callPath m destination_hash_hex identity_recall telephone_call with
  | .notInitialized => (m, .callResult false (some "CallManager not initialized"))
  | .invalidHash position =>
    (m, .callResult false
      (some ("Invalid hash: non-hexadecimal number found in fromhex() arg at position " ++
        toString position)))
  | .raised e => (m, callError e)
  | .unknownIdentity => (m, .callResult false (some "Unknown identity"))
  | .telephoneRaised e => ({ m with activeCallIdentity := some destination_hash_hex }, callError e)
  | .started => ({ m with activeCallIdentity := some destination_hash_hex }, .callResult true none)

/-- `answer()`, for whether `telephone.active_call` is set and the outcomes of
`get_remote_identity()` and `telephone.answer(identity)` (its truth value). -/
def answer (m : CallManager) (active_call : Bool) (remote : Outcome (Option Identity))
    (telephone_answer : Outcome Bool) : CallManager × CallOutput :=
  if !m.initialized || !m.telephone || !active_call then (m, .answered false)
  else match remote, telephone_answer with
    | .returns (some identity), .returns true =>
      ({ m with activeCallIdentity := some identity.hashHex }, .answered true)
    | .returns (some _), .returns false => (m, .answered false)
    | _, _ => (m, .answered false)

/-- A notification to Kotlin, sent only when a call bridge is set. -/
def notify (m : CallManager) (notification : Notification) : CallOutput :=
  .notified (if m.kotlinCallBridge then some notification else none)

/-- `_handle_established(identity)` at the time `now` of `time.time()`. -/
def handleEstablished (m : CallManager) (identity : Option Identity) (now : ℚ) :
    CallManager × CallOutput :=
  ({ m with activeCallIdentity := identity.map Identity.hashHex, callStartTime := some now },
    notify m (.callEstablished (identity.map Identity.hashHex)))

/-- `_handle_ended(identity)`: the identity passed on falls back to the recorded one, and
both fields are cleared. -/
def handleEnded (m : CallManager) (identity : Option Identity) : CallManager × CallOutput :=
  let identity_hash := match identity with
    | some identity => some identity.hashHex
    | none => m.activeCallIdentity
  ({ m with activeCallIdentity := none, callStartTime := none },
    notify m (.callEnded identity_hash))

/-! ## Events -/

/-- A method call or an LXST callback, with the outcomes of its oracle calls.  `hangup`
and `mute_microphone` catch whatever the `Telephone` raises and change nothing. -/
inductive CallEvent
  | initializeTelephone (kotlin_call_bridge : Bool) (outcome : InitOutcome)
  | teardown
  | setKotlinCallBridge (bridge : Bool)
  | call (destination_hash_hex : String) (identity_recall : Outcome (Option Identity))
      (telephone_call : Outcome Unit)
  | answer (active_call : Bool) (remote : Outcome (Option Identity))
      (telephone_answer : Outcome Bool)
  | hangup
  | muteMicrophone (muted : Bool)
  | ringing (identity : Option Identity)
  | established (identity : Option Identity) (now : ℚ)
  | ended (identity : Option Identity)
  | busy
  | rejected
  deriving DecidableEq, Repr

/-- The effect of one event, and what it returns. -/
def step (m : CallManager) : CallEvent → CallManager × CallOutput
  | .initializeTelephone kotlin_call_bridge outcome =>
    initializeTelephone m kotlin_call_bridge outcome
  | .teardown => (teardown m, .none)
  | .setKotlinCallBridge bridge => ({ m with kotlinCallBridge := bridge }, .none)
  | .call destination_hash_hex identity_recall telephone_call =>
    call m destination_hash_hex identity_recall telephone_call
  | .answer active_call remote telephone_answer => answer m active_call remote telephone_answer
  | .hangup | .muteMicrophone _ => (m, .none)
  | .ringing identity => (m, notify m (.incomingCall (identity.map Identity.hashHex)))
  | .established identity now => handleEstablished m identity now
  | .ended identity => handleEnded m identity
  | .busy => (m, notify m .callBusy)
  | .rejected => (m, notify m .callRejected)

/-- The events that bear on the call identity or the call start time. -/
inductive Landmark
  | callSucceeded
  | callRaised
  | answered
  | established
  | ended
  | teardown
  deriving DecidableEq, Repr

/-- Which landmark an event is, from the state it happens in: a `call()` that returns
`success=True`, a `call()` whose `telephone.call` raised, an `answer()` that returns
`True`, and the callbacks and `teardown` themselves. -/
def landmark (m : CallManager) : CallEvent → Option Landmark
  | .call destination_hash_hex identity_recall telephone_call =>
    match callPath m destination_hash_hex identity_recall telephone_call with
    | .started => some .callSucceeded
    | .telephoneRaised _ => some .callRaised
    | _ => none
  | e@(.answer ..) => if (step m e).2 = .answered true then some .answered else none
  | .established .. => some .established
  | .ended _ => some .ended
  | .teardown => some .teardown
  | _ => none

/-- The final state of a sequence of events, and its landmarks in order. -/
def run (m : CallManager) : List CallEvent → CallManager × List Landmark
  | [] => (m, [])
  | e :: es =>
    let rest := run (step m e).1 es
    (rest.1, (landmark m e).toList ++ rest.2)

/-- The most recent landmark among those `relevant` picks. -/
def lastAmong (relevant : Landmark → Bool) (landmarks : List Landmark) : Option Landmark :=
  (landmarks.filter relevant).getLast?

end Robumba.Calls
