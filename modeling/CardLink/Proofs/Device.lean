import CardLink.BusLaws
import CardLink.Device

/-! The target check in numbers, and what a program does that runs with the bus lock held. -/

namespace CardLink

/-- A target is checked against the widths of its two fields, the function first. -/
theorem checkTarget_eq (function : UInt8) (address : UInt32) :
    checkTarget function address =
      if 7 < function.toNat then .error .functionInvalid
      else if 0x1FFFF < address.toNat then .error .addressInvalid
      else .ok () := by
  -- Comparisons of machine words are comparisons of their numbers.
  simp only [checkTarget, maxFunction, maxAddress, GT.gt, UInt8.lt_iff_toNat_lt,
    UInt32.lt_iff_toNat_lt]
  rfl

/-- Both fields of a target fit their places. -/
structure ValidTarget (function : UInt8) (address : UInt32) : Prop where
  /-- A card has eight functions. -/
  function_le : function.toNat ≤ 7
  /-- Seventeen bits hold the address. -/
  address_le : address.toNat ≤ 0x1FFFF

/-- A valid target passes the check. -/
theorem ValidTarget.check {function : UInt8} {address : UInt32} (valid : ValidTarget function address) :
    checkTarget function address = .ok () := by
  rw [checkTarget_eq, if_neg (Nat.not_lt.mpr valid.function_le),
    if_neg (Nat.not_lt.mpr valid.address_le)]

/-- Any other target is refused. -/
theorem check_of_not_validTarget {function : UInt8} {address : UInt32}
    (invalid : ¬ ValidTarget function address) :
    ∃ cause, checkTarget function address = .error cause := by
  -- If neither field were too great, the target would be valid.
  rw [checkTarget_eq]
  split
  · exact ⟨_, rfl⟩
  · split
    · exact ⟨_, rfl⟩
    · exact absurd ⟨by omega, by omega⟩ invalid

/-- Only a valid target passes the check. -/
theorem ValidTarget.of_check {function : UInt8} {address : UInt32}
    (checked : checkTarget function address = .ok ()) : ValidTarget function address := by
  rw [checkTarget_eq] at checked
  split at checked
  · cases checked
  · split at checked
    · cases checked
    · exact ⟨by omega, by omega⟩

/-- Why a policy refuses a caller that holds the bus itself. -/
def LockPolicy.refusal : LockPolicy → DeviceError
  | .waitForever => .selfBlocked
  | .giveUpAfter _ _ => .lockTimeout

section Lock

variable {σ α β μ : Type} (model : HostModel σ) {state : BusState σ} (config : DeviceConfig)

/-- The first attempt at a free lock takes it, whatever the policy is. -/
theorem run_acquire_free (policy : LockPolicy) (free : state.locked = false) :
    Bus.run model (acquire policy).run state = ⟨.ok (), { state with locked := true }, [], []⟩ := by
  -- No attempt after the first one is made.
  cases state
  subst free
  rfl

/-- No attempt at a lock that is held succeeds, and a caller that gives up leaves a record at most. -/
theorem run_acquire_held (policy : LockPolicy) (held : state.locked = true) :
    let asked := Bus.run model (acquire policy).run state
    asked.value = .error policy.refusal ∧ asked.state.host = state.host
      ∧ asked.state.locked = true ∧ asked.exchanges = [] := by
  cases state
  subst held
  cases policy with
  | waitForever => exact ⟨rfl, rfl, rfl, rfl⟩
  | giveUpAfter attempts positive =>
    -- What is left besides the refusal is a record.
    simp only [acquire, Bus.run_bind_lift, Bus.run_attemptLock, Bool.not_true, Bool.false_eq_true,
      if_false, Bus.run_log]
    exact ⟨rfl, rfl, rfl, rfl⟩

/-- Takes the lock for a program and gives it back; without the lock, the reason is the answer. -/
def locking (refuse : DeviceError → α) (body : Bus α) : Bus α := do
  match ← (acquire config.lockPolicy).run with
  | .error cause => return refuse cause
  | .ok () =>
    let result ← body
    Bus.release
    return result

/-- A program on a memory that holds the bus is one that locks. -/
theorem holdingBus_eq (memory : μ) (body : Bus (Except DeviceError α × μ)) :
    holdingBus config memory body = locking config (fun cause => (.error cause, memory)) body := rfl

/-- A function on the answer of a program that locks is one on both of its ways to answer. -/
theorem map_locking (change : α → β) (refuse : DeviceError → α) (body : Bus α) :
    change <$> locking config refuse body =
      locking config (fun cause => change (refuse cause)) (change <$> body) := by
  -- The lock is taken in the same way before either answer is known.
  simp only [locking, map_bind]
  congr 1
  funext acquired
  cases acquired <;> simp

/-- With a free bus, a program runs with the lock held and gives it back. -/
theorem run_locking_free (refuse : DeviceError → α) (body : Bus α) (free : state.locked = false) :
    (locking config refuse body).run model state =
      let held := body.run model { state with locked := true }
      ⟨held.value, { held.state with locked := false }, held.exchanges, held.lines⟩ := by
  -- The lock is taken before the program and released after it, and neither is an exchange.
  rw [locking, Bus.run_bind, run_acquire_free model config.lockPolicy free]
  simp only [Bus.run_bind, Bus.run_release, Bus.run_pure, List.nil_append, List.append_nil]

/-- With the bus held already, the program does not run and the host is left alone. -/
theorem run_locking_held (refuse : DeviceError → α) (body : Bus α) (held : state.locked = true) :
    let ran := (locking config refuse body).run model state
    ran.value = refuse config.lockPolicy.refusal ∧ ran.state.host = state.host
      ∧ ran.state.locked = true ∧ ran.exchanges = [] := by
  -- Nothing follows the answer that the policy gives.
  obtain ⟨value, host, locked, exchanges⟩ := run_acquire_held model config.lockPolicy held
  rw [locking, Bus.run_bind]
  simp only [value, Bus.run_pure]
  exact ⟨trivial, host, locked, by rw [exchanges]; rfl⟩

/-- With a free bus, a program on a memory runs with the lock held and gives it back. -/
theorem run_holdingBus_free (memory : μ) (body : Bus (Except DeviceError α × μ))
    (free : state.locked = false) :
    (holdingBus config memory body).run model state =
      let held := body.run model { state with locked := true }
      ⟨held.value, { held.state with locked := false }, held.exchanges, held.lines⟩ :=
  run_locking_free model config _ body free

end Lock

end CardLink
