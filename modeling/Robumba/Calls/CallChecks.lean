import Robumba.Calls.CallState

/-!
# What `call()` checks before it dials

`call()` returns early unless `self._initialized` is set and `self.telephone` is not
`None`, and it then reads the destination with `bytes.fromhex`.

* `initialized_telephone`: along every sequence of events from a new manager,
  `_initialized` is set only while a `Telephone` is held.  `initialize` sets the flag
  after the `Telephone`, and `teardown` drops both, so the `self.telephone is None` half
  of the guard never decides it.
* `fromhex_bytesHex`: `bytes.fromhex` reads back what `bytes.hex()` writes, so a
  destination written as `identity.hash.hex()` never fails at that conversion.  An
  `Invalid hash` answer can still come from a `ValueError` of `RNS.Identity.recall` or
  `telephone.call`, which the same `except ValueError` catches.
* `call_odd_hex`: a destination of hexadecimal digits of odd length is refused, and the
  message names the position one past its end, where CPython looks for the missing digit.
-/

namespace Robumba.Calls

/-! ## The `Telephone` behind `_initialized` -/

variable {m : CallManager}

/-- One event keeps `_initialized` from outliving the `Telephone`. -/
theorem step_keeps_telephone (h : m.initialized = true → m.telephone = true) (e : CallEvent) :
    (step m e).1.initialized = true → (step m e).1.telephone = true := by
  cases e with
  | initializeTelephone kotlin_call_bridge outcome =>
    simp only [step, initializeTelephone]
    split
    · exact h
    · cases outcome with
      | backendRaises => exact h
      | _ => simp
  | teardown => simp [step, teardown]
  | call destination_hash_hex identity_recall telephone_call =>
    simp only [step, call_eq]
    split <;> exact h
  | answer active_call remote telephone_answer =>
    rcases answer_cases m active_call remote telephone_answer with hanswer | ⟨_, hanswer⟩ <;>
      simpa [step, hanswer] using h
  | _ => exact h

/-- From a new manager, `_initialized` is set only while a `Telephone` is held. -/
theorem initialized_telephone (events : List CallEvent) :
    (run .new events).1.initialized = true → (run .new events).1.telephone = true := by
  suffices ∀ m : CallManager, (m.initialized = true → m.telephone = true) →
      (run m events).1.initialized = true → (run m events).1.telephone = true from
    this .new nofun
  induction events with
  | nil => exact fun _ h => h
  | cons e events ih => exact fun m h => ih _ (step_keeps_telephone h e)

theorem initialized_telephone_ok :
    (run .new [.initializeTelephone false .ok]).1.initialized = true ∧
      (run .new [.initializeTelephone false .ok]).1.telephone = true :=
  ⟨rfl, initialized_telephone _ rfl⟩

/-! ## `bytes.hex()` and `bytes.fromhex` -/

theorem hexDigit_hexChar : ∀ d < 16, hexDigit (hexChar d) = some d := by
  decide

theorem isAsciiSpace_hexChar : ∀ d < 16, isAsciiSpace (hexChar d) = false := by
  decide

theorem hexChar_ascii : ∀ d < 16, (hexChar d).toNat < 128 := by
  decide

/-- `bytes.hex()` writes ASCII. -/
theorem bytesHex_ascii (bytes : List UInt8) : ∀ c ∈ (bytesHex bytes).data, c.toNat < 128 := by
  intro c hc
  obtain ⟨byte, -, hpair⟩ := List.mem_flatMap.mp hc
  have hhigh : byte.toNat / 16 < 16 := (Nat.div_lt_iff_lt_mul (by decide)).2 byte.toNat_lt_size
  simp only [hexPair, List.mem_cons, List.mem_singleton, List.not_mem_nil, or_false] at hpair
  rcases hpair with rfl | rfl
  · exact hexChar_ascii _ hhigh
  · exact hexChar_ascii _ (Nat.mod_lt _ (by decide))

theorem hexDigit_eq_none_of_isAsciiSpace {c : Char} (h : isAsciiSpace c = true) :
    hexDigit c = none := by
  simp only [isAsciiSpace, Bool.or_eq_true, decide_eq_true_eq] at h
  rcases h with ((((rfl | rfl) | rfl) | rfl) | rfl) | rfl <;> decide

private theorem toUInt8_toNat (byte : UInt8) : byte.toNat.toUInt8 = byte := by
  simp [Nat.toUInt8, UInt8.ofNat, UInt8.toNat]

/-- The scan reads two digits back as the byte they were written from. -/
theorem fromhexFrom_hexPairs (bytes : List UInt8) (i : ℕ) :
    fromhexFrom i (bytes.flatMap hexPair) = .ok bytes := by
  induction bytes generalizing i with
  | nil => rfl
  | cons byte bytes ih =>
    have hhigh : byte.toNat / 16 < 16 := by
      have := byte.toNat_lt_size
      simp only [UInt8.size] at this
      omega
    have hlow : byte.toNat % 16 < 16 := Nat.mod_lt _ (by decide)
    have hcons : (byte :: bytes).flatMap hexPair =
        hexChar (byte.toNat / 16) :: hexChar (byte.toNat % 16) :: bytes.flatMap hexPair := rfl
    rw [hcons, fromhexFrom, isAsciiSpace_hexChar _ hhigh, hexDigit_hexChar _ hhigh,
      hexDigit_hexChar _ hlow, ih]
    simp [Except.map, Nat.div_add_mod', toUInt8_toNat]

/-- `bytes.fromhex(b.hex()) == b`, so `call()` on a destination written by `bytes.hex()`
gets past its `bytes.fromhex`: whatever `RNS.Identity.recall` and `telephone.call` do, it
never takes the path of a `ValueError` from that conversion. -/
theorem fromhex_bytesHex (bytes : List UInt8) :
    fromhex (bytesHex bytes) = .ok bytes ∧
      ∀ m identity_recall telephone_call position,
        callPath m (bytesHex bytes) identity_recall telephone_call ≠ .invalidHash position := by
  have hbytes : fromhex (bytesHex bytes) = .ok bytes := by
    rw [fromhex_of_ascii (bytesHex_ascii bytes)]
    exact fromhexFrom_hexPairs bytes 0
  refine ⟨hbytes, fun m identity_recall telephone_call position => ?_⟩
  unfold callPath
  rw [hbytes]
  split
  · exact nofun
  · rcases identity_recall with (_ | _) | _ <;> rcases telephone_call with _ | _ <;> exact nofun

/-! ## A destination of odd length -/

/-- A hexadecimal digit is ASCII. -/
theorem ascii_of_hexDigit {c : Char} (h : (hexDigit c).isSome) : c.toNat < 128 := by
  unfold hexDigit at h
  split_ifs at h with hdec hlower hupper
  · exact lt_of_le_of_lt hdec.2 (by decide)
  · exact lt_of_le_of_lt hlower.2 (by decide)
  · exact lt_of_le_of_lt hupper.2 (by decide)
  · cases h

/-- A run of digits of odd length fails one past its end. -/
theorem fromhexFrom_odd (i : ℕ) (cs : List Char) (hdigits : ∀ c ∈ cs, (hexDigit c).isSome)
    (hodd : cs.length % 2 = 1) : fromhexFrom i cs = .error (i + cs.length) := by
  induction i, cs using fromhexFrom.induct with
  | case1 i => simp at hodd
  | case2 i c hspace =>
    simpa [hexDigit_eq_none_of_isAsciiSpace hspace] using hdigits c
  | case3 i c hspace hdigit => simp [fromhexFrom, hspace, hdigit]
  | case4 i c hspace hdigit => exact absurd (hdigits c (by simp)) hdigit
  | case5 i c d rest hspace =>
    simpa [hexDigit_eq_none_of_isAsciiSpace hspace] using hdigits c
  | case6 i c d rest hspace top bot hbot htop ih =>
    have hrest := ih (fun x hx => hdigits x (by simp [hx]))
      (by simp only [List.length_cons] at hodd; omega)
    simp only [fromhexFrom, hspace, hbot, htop, hrest, List.length_cons]
    simp only [Bool.false_eq_true, if_false, Except.map]
    congr 1; omega
  | case7 i c d rest hspace hc => simpa [hc] using hdigits c
  | case8 i c d rest hspace top hd hc => simpa [hd] using hdigits d

/-- On a ready manager, a destination of hexadecimal digits of odd length is refused, and
the message names its length as the position of the missing digit. -/
theorem call_odd_hex (hready : m.initialized = true ∧ m.telephone = true)
    {destination_hash_hex : String}
    (hdigits : ∀ c ∈ destination_hash_hex.data, (hexDigit c).isSome)
    (hodd : destination_hash_hex.length % 2 = 1) (identity_recall : Outcome (Option Identity))
    (telephone_call : Outcome Unit) :
    call m destination_hash_hex identity_recall telephone_call =
      (m, .callResult false (some
        ("Invalid hash: non-hexadecimal number found in fromhex() arg at position " ++
          toString destination_hash_hex.length))) := by
  have hparse : fromhex destination_hash_hex = .error destination_hash_hex.length := by
    rw [fromhex_of_ascii fun c hc => ascii_of_hexDigit (hdigits c hc)]
    simpa using fromhexFrom_odd 0 destination_hash_hex.data hdigits hodd
  simp [call, callPath, hready, hparse]

/-- The ready manager of `initialize` with a working LXST. -/
def readyManager : CallManager := (initializeTelephone .new false .ok).1

example :
    (readyManager.initialized = true ∧ readyManager.telephone = true) ∧
      (∀ c ∈ "abc".data, (hexDigit c).isSome) ∧ "abc".length % 2 = 1 ∧
      call readyManager "abc" (.returns none) (.returns ()) =
        (readyManager, .callResult false (some
          ("Invalid hash: non-hexadecimal number found in fromhex() arg at position " ++
            toString "abc".length))) :=
  ⟨⟨rfl, rfl⟩, by decide, by decide, call_odd_hex ⟨rfl, rfl⟩ (by decide) (by decide) _ _⟩

end Robumba.Calls
