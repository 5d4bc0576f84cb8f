import Robumba.Calls.CallManager

/-!
# What the call identity and the call start time remember

Along every sequence of events from a new manager, `_active_call_identity` is set only
when the most recent event that bears on it set it.  The events that set it are a
successful `call()`, a `call()` whose `telephone.call` raised (the identity is recorded
just before that call and left in place), an `answer()` returning `True`, and
`_handle_established`.  Only `_handle_ended` clears it.  Likewise
`_call_start_time` is set only when the most recent of `_handle_established` and
`_handle_ended` is the former.  `teardown` touches neither field, so both outlive it
(`teardown_leaves_call_state`).

The proof is an invariant of a state together with the landmarks seen so far:
`CallInv.step` checks one event, and `CallInv.run` a whole sequence.
-/

namespace Robumba.Calls

/-! ## Landmark classes -/

/-- The landmarks that bear on `_active_call_identity`: all but `teardown`. -/
def identityEvent : Landmark → Bool
  | .teardown => false
  | _ => true

/-- The landmarks after which `_active_call_identity` may be set. -/
def setsIdentity : Landmark → Bool
  | .callSucceeded | .callRaised | .answered | .established => true
  | .ended | .teardown => false

/-- The landmarks that bear on `_call_start_time`. -/
def startEvent : Landmark → Bool
  | .established | .ended => true
  | _ => false

@[simp] theorem lastAmong_append_singleton (relevant : Landmark → Bool)
    (landmarks : List Landmark) (l : Landmark) :
    lastAmong relevant (landmarks ++ [l]) =
      if relevant l then some l else lastAmong relevant landmarks := by
  by_cases h : relevant l <;> simp [lastAmong, List.filter_append, h]

/-! ## What one event does to the two fields -/

theorem initializeTelephone_fields (m : CallManager) (kotlin_call_bridge : Bool)
    (outcome : InitOutcome) :
    (initializeTelephone m kotlin_call_bridge outcome).1.activeCallIdentity =
        m.activeCallIdentity ∧
      (initializeTelephone m kotlin_call_bridge outcome).1.callStartTime = m.callStartTime := by
  unfold initializeTelephone
  split
  · exact ⟨rfl, rfl⟩
  · cases outcome <;> exact ⟨rfl, rfl⟩

/-- `call()` leaves the state as it is, unless it reached `telephone.call`, in which case it
only records the destination. -/
theorem call_eq (m : CallManager) (destination_hash_hex : String)
    (identity_recall : Outcome (Option Identity)) (telephone_call : Outcome Unit) :
    (call m destination_hash_hex identity_recall telephone_call).1 =
      match landmark m (.call destination_hash_hex identity_recall telephone_call) with
      | some _ => { m with activeCallIdentity := some destination_hash_hex }
      | none => m := by
  simp only [call, landmark]
  split <;> simp_all

/-- `answer()` either changes nothing and answers `False`, or records the caller and
answers `True`. -/
theorem answer_cases (m : CallManager) (active_call : Bool) (remote : Outcome (Option Identity))
    (telephone_answer : Outcome Bool) :
    answer m active_call remote telephone_answer = (m, .answered false) ∨
      ∃ identity_hash, answer m active_call remote telephone_answer =
        ({ m with activeCallIdentity := some identity_hash }, .answered true) := by
  unfold answer
  split
  · exact .inl rfl
  · split
    · exact .inr ⟨_, rfl⟩
    · exact .inl rfl
    · exact .inl rfl

/-- A `call()` that returns `success=False` leaves the manager as it was, unless its
`telephone.call` raised. -/
theorem call_keeps_of_failed (m : CallManager) (destination_hash_hex : String)
    (identity_recall : Outcome (Option Identity)) (telephone_call : Outcome Unit)
    {error : Option String}
    (h : (call m destination_hash_hex identity_recall telephone_call).2 = .callResult false error) :
    (call m destination_hash_hex identity_recall telephone_call).1 = m ∨
      ∃ e, callPath m destination_hash_hex identity_recall telephone_call = .telephoneRaised e := by
  cases hp : callPath m destination_hash_hex identity_recall telephone_call <;> simp_all [call]

/-! ## The invariant -/

/-- The two fields agree with the landmarks seen so far. -/
structure CallInv (m : CallManager) (landmarks : List Landmark) : Prop where
  identity : m.activeCallIdentity ≠ none →
    ∃ l, lastAmong identityEvent landmarks = some l ∧ setsIdentity l
  start : m.callStartTime ≠ none → lastAmong startEvent landmarks = some .established

theorem callInv_new : CallInv .new [] := ⟨fun h => absurd rfl h, fun h => absurd rfl h⟩

variable {m : CallManager}

/-- An event without an identity or start landmark leaves the invariant to the fields it
does not touch. -/
private theorem CallInv.frame {landmarks : List Landmark} (h : CallInv m landmarks)
    {m' : CallManager} {l : Option Landmark} (hl : ∀ x ∈ l, identityEvent x = false)
    (hidentity : m'.activeCallIdentity = m.activeCallIdentity)
    (hstart : m'.callStartTime = m.callStartTime) :
    CallInv m' (landmarks ++ l.toList) := by
  have hnone : ∀ x ∈ l, startEvent x = false := fun x hx => by
    cases x <;> simp_all [identityEvent, startEvent]
  constructor
  · intro hset
    rw [hidentity] at hset
    rcases l with _ | x
    · simpa using h.identity hset
    · simpa [hl x rfl] using h.identity hset
  · intro hset
    rw [hstart] at hset
    rcases l with _ | x
    · simpa using h.start hset
    · simpa [hnone x rfl] using h.start hset

/-- A landmark that records the caller, without touching the start time, keeps the
invariant. -/
private theorem CallInv.record {landmarks : List Landmark} (h : CallInv m landmarks)
    {l : Landmark} (hsets : setsIdentity l = true) (hstart : startEvent l = false)
    (identity_hash : String) :
    CallInv { m with activeCallIdentity := some identity_hash } (landmarks ++ [l]) := by
  have hidentity : identityEvent l = true := by cases l <;> simp_all [identityEvent, setsIdentity]
  exact ⟨fun _ => ⟨l, by simp [hidentity], hsets⟩,
    fun hset => by simpa [hstart] using h.start hset⟩

/-- One event keeps the invariant. -/
theorem CallInv.step {landmarks : List Landmark} (h : CallInv m landmarks) (e : CallEvent) :
    CallInv (step m e).1 (landmarks ++ (landmark m e).toList) := by
  cases e with
  | initializeTelephone kotlin_call_bridge outcome =>
    exact h.frame (by simp [landmark]) (initializeTelephone_fields m _ _).1
      (initializeTelephone_fields m _ _).2
  | teardown => exact h.frame (by simp [landmark, identityEvent]) rfl rfl
  | setKotlinCallBridge bridge => exact h.frame (by simp [landmark]) rfl rfl
  | call destination_hash_hex identity_recall telephone_call =>
    simp only [Robumba.Calls.step]
    rw [call_eq]
    cases hl : landmark m (.call destination_hash_hex identity_recall telephone_call) with
    | none => exact h.frame (by simp) rfl rfl
    | some l =>
      have hcalls : l = .callSucceeded ∨ l = .callRaised := by
        simp only [landmark] at hl; split at hl <;> simp_all
      rcases hcalls with rfl | rfl <;> exact h.record (by rfl) (by rfl) _
  | answer active_call remote telephone_answer =>
    rcases answer_cases m active_call remote telephone_answer with hanswer | ⟨_, hanswer⟩
    · have hl : landmark m (.answer active_call remote telephone_answer) = none := by
        simp [landmark, Robumba.Calls.step, hanswer]
      simpa [Robumba.Calls.step, hanswer, hl] using h
    · have hl : landmark m (.answer active_call remote telephone_answer) = some .answered := by
        simp [landmark, Robumba.Calls.step, hanswer]
      simp only [Robumba.Calls.step, hanswer, hl]
      exact h.record (by rfl) (by rfl) _
  | hangup => exact h.frame (by simp [landmark]) rfl rfl
  | muteMicrophone muted => exact h.frame (by simp [landmark]) rfl rfl
  | ringing identity => exact h.frame (by simp [landmark]) rfl rfl
  | established identity now =>
    exact ⟨fun _ => ⟨.established, by simp [landmark, identityEvent], rfl⟩,
      fun _ => by simp [landmark, startEvent]⟩
  | ended identity =>
    exact ⟨fun hset => absurd rfl hset, fun hset => absurd rfl hset⟩
  | busy => exact h.frame (by simp [landmark]) rfl rfl
  | rejected => exact h.frame (by simp [landmark]) rfl rfl

/-- A whole sequence of events keeps the invariant. -/
theorem CallInv.run {landmarks : List Landmark} (h : CallInv m landmarks)
    (events : List CallEvent) :
    CallInv (run m events).1 (landmarks ++ (run m events).2) := by
  induction events generalizing m landmarks with
  | nil => simpa [Robumba.Calls.run] using h
  | cons e events ih => simpa [Robumba.Calls.run] using ih (h.step e)

/-! ## From a new manager -/

/-- From a new manager, along every sequence of events, the identity and the start time
are set only when the most recent landmark bearing on them set them.  `teardown` keeps
both fields, and a `call()` that returns `success=False` changes nothing unless its
`telephone.call` raised. -/
theorem callState_follows_landmarks (events : List CallEvent) :
    CallInv (run .new events).1 (run .new events).2 ∧
      (∀ m, (teardown m).activeCallIdentity = m.activeCallIdentity ∧
        (teardown m).callStartTime = m.callStartTime) ∧
      ∀ m destination_hash_hex identity_recall telephone_call error,
        (call m destination_hash_hex identity_recall telephone_call).2 = .callResult false error →
          (call m destination_hash_hex identity_recall telephone_call).1 = m ∨
            ∃ e, callPath m destination_hash_hex identity_recall telephone_call =
              .telephoneRaised e :=
  ⟨by simpa using callInv_new.run events, fun _ => ⟨rfl, rfl⟩,
    fun m _ _ _ _ h => call_keeps_of_failed m _ _ _ h⟩

/-- The landmarks that would bear on `_active_call_identity` if `teardown` cleared it and
a raising `telephone.call` did not record it. -/
def statedIdentityEvent : Landmark → Bool
  | .callRaised => false
  | _ => true

/-- The landmarks that would bear on `_call_start_time` if `teardown` cleared it. -/
def statedStartEvent : Landmark → Bool
  | .established | .ended | .teardown => true
  | _ => false

/-- A call established on an initialized manager, which is then torn down. -/
def tornDownCall : List CallEvent :=
  [.initializeTelephone false .ok, .established (some ⟨"ab"⟩) 5, .teardown]

/-- After `tornDownCall` both fields are still set, though the most recent landmark is
`teardown`.  A `call()` whose `telephone.call` raises answers `success=False` and still
records the destination. -/
theorem teardown_keeps_call_state :
    (run .new tornDownCall).1.activeCallIdentity = some "ab" ∧
      lastAmong statedIdentityEvent (run .new tornDownCall).2 = some .teardown ∧
      (run .new tornDownCall).1.callStartTime = some 5 ∧
      lastAmong statedStartEvent (run .new tornDownCall).2 = some .teardown ∧
      (call (initializeTelephone .new false .ok).1 "ab" (.returns (some ⟨"cd"⟩))
        (.raises (.other "no link"))) =
        ({ (initializeTelephone .new false .ok).1 with activeCallIdentity := some "ab" },
          .callResult false (some "no link")) := by
  decide

end Robumba.Calls
