import Keylo.Foundation.System

/-!
# Failed logins and the account lock

Without Redis the failed logins of a principal are kept in this process: a count and the end of
the last lock, which is zero before the first one. The check of a lock removes entries as well.
Against this stands a `Tally`, which counts failures and locks and which a check never changes.

## Main definitions

* `isLoginLocked`, `recordLoginFailure`, `clearLoginFailures` : the functions of the source.
* `Tally` : the failures that count for the next lock, and the end of the last one.

## Main results

* `isLoginLocked_run` : the check reports the lock of the tally, in all runs in which no failure is
  recorded on an entry with a lock that is over.
* `expired_lock_drops_failure` : the check drops a failure recorded on such an entry.
-/

namespace Keylo.Limits

open Function Transition

/-! ### The functions of the source -/

/-- The count of failures of each principal and the end of its lock. -/
abbrev Attempts := String → Option (ℕ × Int)

/-- The remaining seconds of the lock of a principal. -/
def isLoginLocked (attempts : Attempts) (now : Int) (principal : String) :
    Option Int × Attempts :=
  let attempts : Attempts := fun key => (attempts key).filter fun entry =>
    entry.2 > now || entry.1 > 0
  match attempts principal with
  | some (_, lockedUntil) =>
    if lockedUntil > now then (some (lockedUntil - now), attempts)
    else if lockedUntil > 0 then (none, update attempts principal none)
    else (none, attempts)
  | none => (none, attempts)

def recordLoginFailure (attempts : Attempts) (now : Int) (principal : String)
    (maxFailedAttempts : ℕ) (lockoutSeconds : Int) : Attempts :=
  let entry := (attempts principal).getD (0, 0)
  if entry.2 > now then attempts
  else if entry.1 + 1 ≥ maxFailedAttempts then
    update attempts principal (some (0, now + lockoutSeconds))
  else update attempts principal (some (entry.1 + 1, entry.2))

def clearLoginFailures (attempts : Attempts) (principal : String) : Attempts :=
  update attempts principal none

/-! ### Runs -/

inductive Call
  | isLoginLocked (principal : String)
  | recordLoginFailure (principal : String)
  | clearLoginFailures (principal : String)

/-- The entries of this process and its clock. -/
structure State where
  clock : ℕ
  attempts : Attempts := fun _ => none

variable (maxFailedAttempts : ℕ) (lockoutSeconds : Int) (principal : String)

/-- A call after some seconds. -/
def State.perform (s : State) (call : ℕ × Call) : State :=
  let now : ℕ := s.clock + call.1
  ⟨now, match call.2 with
    | .isLoginLocked key => (isLoginLocked s.attempts now key).2
    | .recordLoginFailure key =>
      recordLoginFailure s.attempts now key maxFailedAttempts lockoutSeconds
    | .clearLoginFailures key => clearLoginFailures s.attempts key⟩

/-- The failures of a principal since it was last cleared or locked, and the end of its last
lock. -/
structure Tally where
  failures : ℕ := 0
  lockedUntil : Option Int := none

/-- The principal is locked at the time. -/
def Tally.isLocked (tally : Tally) (now : Int) : Bool := tally.lockedUntil.any (now < ·)

/-- A failure counts unless the principal is locked, and the last of them locks it. A check does
not count. -/
def Tally.perform (tally : Tally) (now : Int) : Call → Tally
  | .recordLoginFailure key =>
    if key ≠ principal ∨ tally.isLocked now then tally
    else if tally.failures + 1 ≥ maxFailedAttempts then ⟨0, some (now + lockoutSeconds)⟩
    else { tally with failures := tally.failures + 1 }
  | .clearLoginFailures key => if key = principal then {} else tally
  | .isLoginLocked _ => tally

/-- All calls, with the tally of one principal beside them. -/
def system : System (State × Tally) (ℕ × Call) :=
  System.observe ⟨fun s call => some (s.perform maxFailedAttempts lockoutSeconds call)⟩
    fun tally _ call s' =>
      tally.perform maxFailedAttempts lockoutSeconds principal s'.clock call.2

/-- A failure of the principal is not recorded on an entry with a lock that is over. -/
def Fresh (s : State × Tally) (call : ℕ × Call) (s' : State × Tally) : Prop :=
  call.2 = .recordLoginFailure principal → ∀ entry, s.1.attempts principal = some entry →
    entry.2 ≤ s'.1.clock → entry.2 ≤ 0

/-! ### The entry of a principal -/

/-- The entry of a principal agrees with its tally. -/
def Agrees (entry : Option (ℕ × Int)) (now : Int) (tally : Tally) : Prop :=
  match entry with
  | none => tally.failures = 0 ∧ tally.isLocked now = false
  | some (count, lockedUntil) => count = tally.failures ∧ (0 < lockedUntil → count = 0) ∧
      (tally.lockedUntil = some lockedUntil ∨ lockedUntil = 0 ∧ tally.isLocked now = false)

variable {maxFailedAttempts lockoutSeconds principal} {attempts : Attempts} {tally : Tally}
  {now now' : Int} {key : String} {entry : Option (ℕ × Int)}

theorem Tally.isLocked_mono (h : tally.isLocked now = false) (hle : now ≤ now') :
    tally.isLocked now' = false := by
  obtain ⟨failures, _ | lockedUntil⟩ := tally
  · rfl
  · simp only [isLocked, Option.any_some, decide_eq_false_iff_not] at h ⊢
    omega

theorem Agrees.mono (h : Agrees entry now tally) (hle : now ≤ now') : Agrees entry now' tally := by
  cases entry with
  | none => exact ⟨h.1, Tally.isLocked_mono h.2 hle⟩
  | some => exact ⟨h.1, h.2.1, h.2.2.imp_right fun h => ⟨h.1, Tally.isLocked_mono h.2 hle⟩⟩

theorem Agrees.isLocked {entry : ℕ × Int} (h : Agrees (some entry) now tally) (hnow : 0 ≤ now) :
    tally.isLocked now = decide (now < entry.2) := by
  obtain ⟨-, -, hlock | ⟨hzero, hlock⟩⟩ := h
  · simp only [Tally.isLocked, hlock, Option.any_some]
  · rw [hlock, hzero, eq_comm, decide_eq_false_iff_not]
    omega

theorem Agrees.filter (h : Agrees entry now tally) (hnow : 0 ≤ now) :
    Agrees (entry.filter fun entry => entry.2 > now || entry.1 > 0) now tally := by
  cases entry with
  | none => exact h
  | some =>
    rw [Option.filter_some]
    split_ifs with hkept
    · exact h
    simp only [Bool.or_eq_true, decide_eq_true_eq, not_or] at hkept
    have hlocked := h.isLocked hnow
    rw [decide_eq_false hkept.1] at hlocked
    exact ⟨by have := h.1; omega, hlocked⟩

/-- A check leaves the entry of a principal in agreement, and reports its lock. -/
theorem Agrees.isLoginLocked (h : Agrees (attempts principal) now tally) (hnow : 0 ≤ now) :
    Agrees ((isLoginLocked attempts now key).2 principal) now tally ∧
      (isLoginLocked attempts now principal).1.isSome = tally.isLocked now := by
  have hkept := h.filter hnow
  constructor
  · simp only [Limits.isLoginLocked]
    split
    case h_1 entry lockedUntil hentry =>
      split_ifs with hlocked hpast
      · exact hkept
      · by_cases hkey : principal = key
        · -- an entry that was kept without a lock has failures, so its lock is not over
          subst hkey
          have hcount := (Option.filter_eq_some_iff.1 hentry).2
          rw [hentry] at hkept
          simp [hkept.2.1 hpast, hlocked] at hcount
        · simpa only [update_of_ne hkey] using hkept
      · exact hkept
    · exact hkept
  · simp only [Limits.isLoginLocked]
    split
    case h_1 entry lockedUntil hentry =>
      rw [hentry] at hkept
      rw [hkept.isLocked hnow]
      split_ifs <;> simp_all
    case h_2 hentry =>
      rw [hentry] at hkept
      exact hkept.2.symm

theorem Agrees.getD (h : Agrees entry now tally) : Agrees (some (entry.getD (0, 0))) now tally := by
  cases entry with
  | none => exact ⟨h.1.symm, fun _ => rfl, .inr ⟨rfl, h.2⟩⟩
  | some => exact h

theorem Agrees.recordLoginFailure (h : Agrees (attempts principal) now tally) (hnow : 0 ≤ now)
    (hfresh : key = principal → ∀ entry, attempts principal = some entry → entry.2 ≤ now →
      entry.2 ≤ 0) :
    Agrees (recordLoginFailure attempts now key maxFailedAttempts lockoutSeconds principal) now
      (tally.perform maxFailedAttempts lockoutSeconds principal now (.recordLoginFailure key)) := by
  by_cases hkey : key = principal
  · subst hkey
    have hentry := h.getD
    have hpast : ((attempts key).getD (0, 0)).2 ≤ now → ((attempts key).getD (0, 0)).2 ≤ 0 := by
      cases hattempts : attempts key with
      | none => exact fun _ => Int.le_refl 0
      | some entry => exact hfresh rfl entry hattempts
    generalize hget : (attempts key).getD (0, 0) = entry at hentry hpast
    simp only [Limits.recordLoginFailure, Tally.perform, hget, hentry.isLocked hnow, ← hentry.1,
      ne_eq, not_true_eq_false, false_or, decide_eq_true_eq, gt_iff_lt]
    split_ifs with hlocked hlast
    · exact h
    · rw [update_self]
      exact ⟨rfl, fun _ => rfl, .inl rfl⟩
    · rw [update_self]
      exact ⟨rfl, fun hlater => absurd hlater (by omega), hentry.2.2⟩
  · simp only [Limits.recordLoginFailure, Tally.perform, ne_eq, hkey, not_false_eq_true, true_or,
      if_true]
    split_ifs <;> simpa only [update_of_ne (Ne.symm hkey)] using h

theorem Agrees.clearLoginFailures (h : Agrees (attempts principal) now tally) :
    Agrees (clearLoginFailures attempts key principal) now
      (if key = principal then {} else tally) := by
  rw [Limits.clearLoginFailures]
  split_ifs with hkey
  · rw [hkey, update_self]
    exact ⟨rfl, rfl⟩
  · rwa [update_of_ne (Ne.symm hkey)]

/-- The check reports the lock of the tally after every run in which no failure of the principal is
recorded on an entry with a lock that is over. -/
theorem isLoginLocked_run {clock : ℕ} {calls : List (ℕ × Call)} {s : State × Tally}
    (hfresh : (system maxFailedAttempts lockoutSeconds principal).Along (Fresh principal)
      (⟨clock, fun _ => none⟩, {}) calls)
    (hrun : (system maxFailedAttempts lockoutSeconds principal).run (⟨clock, fun _ => none⟩, {})
      calls = some s) (later : ℕ) :
    (isLoginLocked s.1.attempts (s.1.clock + later) principal).1.isSome =
      s.2.isLocked (s.1.clock + later) := by
  have hagrees := (system maxFailedAttempts lockoutSeconds principal).run_invariant_along
    (I := fun s => Agrees (s.1.attempts principal) s.1.clock s.2) (P := Fresh principal)
    ?_ ?_ hfresh hrun
  · exact (@Agrees.isLoginLocked principal _ _ _ principal (hagrees.mono (by omega)) (by omega)).2
  · intro s call s' hagrees hfresh hstep
    cases hstep
    replace hagrees := hagrees.mono (Int.ofNat_le.2 (Nat.le_add_right s.1.clock call.1))
    obtain ⟨elapsed, key | key | key⟩ := call
    · exact (hagrees.isLoginLocked (by omega)).1
    · exact hagrees.recordLoginFailure (by omega) fun hkey => hfresh (congrArg _ hkey)
    · exact hagrees.clearLoginFailures
  · exact ⟨rfl, rfl⟩

theorem isLoginLocked_run_one : ∃ s, (system 1 10 "u").run (⟨100, fun _ => none⟩, {})
    [(0, .recordLoginFailure "u")] = some s ∧
      (isLoginLocked s.1.attempts (s.1.clock + (5 : ℕ)) "u").1.isSome =
        s.2.isLocked (s.1.clock + (5 : ℕ)) :=
  ⟨_, rfl, @isLoginLocked_run 1 10 "u" 100 [_] _ ⟨fun _ _ h => (nomatch h), trivial⟩ rfl 5⟩

/-- Two failures lock the principal until 110. The first of two more failures is recorded before
the next check, which drops it, so that the second one does not lock the principal. -/
theorem expired_lock_drops_failure : ∃ s, (system 2 10 "u").run (⟨100, fun _ => none⟩, {})
    [(0, .recordLoginFailure "u"), (0, .recordLoginFailure "u"), (10, .recordLoginFailure "u"),
      (0, .isLoginLocked "u"), (1, .recordLoginFailure "u")] = some s ∧
      s.2.isLocked s.1.clock = true ∧ (isLoginLocked s.1.attempts s.1.clock "u").1 = none :=
  ⟨_, rfl, by decide +kernel, by decide +kernel⟩

end Keylo.Limits
