import Keylo.Foundation.System

/-!
# Locks

A request that locks a row keeps it locked until its transaction ends; a statement that needs a row
locked by another request is not possible until then. A lock table names the holder of every row.

## Main definitions

* `Locks` : the holder of the lock of every row.
* `Locks.acquire`, `Locks.release` : a request locks rows, and its transaction ends.
* `Locks.Keeps` : a step leaves the locks of all other requests alone.
* `AdvisoryLock` : a lock that a session keeps until it gives it back or ends.
-/

namespace Transition

/-- The holder of the lock of every row. -/
abbrev Locks (κ ι : Type*) := κ → Option ι

namespace Locks

variable {κ ι : Type*} (L : Locks κ ι) (i : ι)

/-- The request does not have to wait for the row. -/
def available [DecidableEq ι] (k : κ) : Bool := (L k).all (· == i)

/-- The request locks the rows. -/
def acquire [DecidableEq κ] (ks : List κ) : Locks κ ι := fun k => if k ∈ ks then some i else L k

/-- The transaction of the request ends. -/
def release [DecidableEq ι] : Locks κ ι := fun k => if L k = some i then none else L k

/-- A step of `mover`, if it is a step of a request, leaves the locks of all others alone. -/
def Keeps (mover : Option ι) (L L' : Locks κ ι) : Prop :=
  ∀ k j, L k = some j → some j ≠ mover → L' k = some j

variable {L i} {k : κ} {ks : List κ}

theorem eq_of_available [DecidableEq ι] (h : L.available i k = true) {j : ι} (hk : L k = some j) :
    j = i := by
  simpa [available, hk] using h

theorem available_of_held [DecidableEq ι] (h : L k = some i) : L.available i k = true := by
  simp [available, h]

theorem acquire_of_mem [DecidableEq κ] (h : k ∈ ks) : L.acquire i ks k = some i := if_pos h

theorem acquire_of_held [DecidableEq κ] (h : L k = some i) : L.acquire i ks k = some i := by
  unfold acquire
  split_ifs
  · rfl
  · exact h

theorem Keeps.refl {mover : Option ι} : Keeps mover L L := fun _ _ h _ => h

theorem keeps_acquire [DecidableEq κ] [DecidableEq ι] (h : ∀ k ∈ ks, L.available i k = true) :
    Keeps (some i) L (L.acquire i ks) := by
  intro k j hk hj
  have hmem : k ∉ ks := fun hmem => hj (congrArg some (eq_of_available (h k hmem) hk))
  rw [acquire, if_neg hmem, hk]

theorem keeps_release [DecidableEq ι] : Keeps (some i) L (L.release i) := by
  intro k j hk hj
  rw [release, if_neg (by rwa [hk]), hk]

end Locks

/-! ### Advisory locks -/

/-- The session that holds the lock, and how many times more it has taken it. -/
abbrev AdvisoryLock (κ : Type*) := Option (κ × ℕ)

namespace AdvisoryLock

variable {κ : Type*}

/-- The session `k` holds the lock, once or several times. -/
def HeldBy (L : AdvisoryLock κ) (k : κ) : Prop := ∃ n, L = some (k, n)

variable [DecidableEq κ]

/-- The lock after it has been taken, unless another session holds it. -/
def tryLock (k : κ) : AdvisoryLock κ → Option (AdvisoryLock κ)
  | none => some (some (k, 0))
  | some (k', n) => if k' = k then some (some (k, n + 1)) else none

/-- The session gives the lock back once. -/
def unlock (k : κ) : AdvisoryLock κ → AdvisoryLock κ
  | some (k', n + 1) => if k' = k then some (k, n) else some (k', n + 1)
  | some (k', 0) => if k' = k then none else some (k', 0)
  | none => none

/-- The session ends, and all its locks with it. -/
def disconnect (k : κ) : AdvisoryLock κ → AdvisoryLock κ
  | some (k', n) => if k' = k then none else some (k', n)
  | none => none

variable {L L' : AdvisoryLock κ} {k k' : κ}

omit [DecidableEq κ] in
theorem HeldBy.unique (h : L.HeldBy k) (h' : L.HeldBy k') : k = k' := by
  obtain ⟨n, rfl⟩ := h
  obtain ⟨n', h'⟩ := h'
  exact congrArg Prod.fst (Option.some.inj h')

/-- The session has the lock, and no other session has had it. -/
theorem heldBy_tryLock (h : tryLock k L = some L') : L'.HeldBy k ∧ ∀ k', L.HeldBy k' → k' = k := by
  unfold tryLock at h
  split at h
  · cases h
    exact ⟨⟨0, rfl⟩, fun _ ⟨_, h⟩ => by cases h⟩
  split_ifs at h with hk
  cases h
  exact ⟨⟨_, rfl⟩, fun _ ⟨_, h⟩ => by cases h; exact hk⟩

theorem HeldBy.unlock_of_ne (h : L.HeldBy k) (hne : k ≠ k') : (unlock k' L).HeldBy k := by
  obtain ⟨n, rfl⟩ := h
  cases n with
  | zero => exact ⟨0, if_neg hne⟩
  | succ n => exact ⟨n + 1, if_neg hne⟩

theorem HeldBy.disconnect_of_ne (h : L.HeldBy k) (hne : k ≠ k') : (disconnect k' L).HeldBy k := by
  obtain ⟨n, rfl⟩ := h
  exact ⟨n, if_neg hne⟩

end AdvisoryLock

end Transition
