import Keylo.Setup.Once

/-!
# The release of the setup lock

The lock of a call belongs to a session of the database and is given back by a statement at the end
of the call. A call that is cancelled before gives its connection back to the pool with the lock on
it, and so does a call whose lock or unlock statement fails on one side only. Without such a step,
the lock is free whenever no call is running.

## Main definitions

* `releases` : the step leaves no lock with a connection of the pool.
* `IsReleased` : the lock is free, unless a call is running.

## Main results

* `setup_lock_released` : the lock is released in runs without such steps.
* `cancelled_call_keeps_lock` : a call is refused after another one was cancelled.
-/

namespace Keylo.Setup

open Transition Function

variable {κ ι : Type*} {c c' : Config ι (Store κ ι) (Phase κ)}

/-- The step leaves no lock behind. -/
def releases (c : Config ι (Store κ ι) (Phase κ)) : Action ι (Input κ) (Event κ) → Bool
  | .request i a => !strands c.shared a (c.request i)
  | .environment _ => true

/-- If all calls have ended, the lock is free. -/
def IsReleased (c : Config ι (Store κ ι) (Phase κ)) : Prop :=
  (∀ i, (c.request i).isReady = true) → c.shared.lock = none

/-- The lock has been taken once, by a call that is running and has not lost it. -/
structure Held (c : Config ι (Store κ ι) (Phase κ)) : Prop where
  owns : ∀ i, Owns c.shared i (c.request i)
  holder : ∀ k n, c.shared.lock = some (k, n) →
    n = 0 ∧ c.shared.lost k = false ∧ ∃ i, (c.request i).connection = some k

theorem Held.isReleased (h : Held c) : IsReleased c := by
  intro hready
  refine Option.eq_none_iff_forall_ne_some.2 fun held hlock => ?_
  obtain ⟨-, -, i, hi⟩ := h.holder held.1 held.2 hlock
  rw [connection_of_isReady (hready i)] at hi
  cases hi

variable [DecidableEq κ] [DecidableEq ι] {crates : Crates} {config : SetupConfig} {i : ι}
  {s' : Store κ ι} {phase' : Phase κ} {a : Input κ} {l : Action ι (Input κ) (Event κ)}

theorem Held.request (h : Held c) (hstrands : strands c.shared a (c.request i) = false)
    (hnext : next config crates i a c.shared (c.request i) = some (s', phase')) :
    Held ⟨s', update c.request i phase'⟩ := by
  have hfacts := stepFacts_of_next (h.owns i) hnext
  refine ⟨owns_update h.owns hfacts.keeps hfacts.owns, fun k n hlock => ?_⟩
  dsimp only at hlock ⊢
  rw [hfacts.keeps.lost]
  have hstay : ∀ {j}, j ≠ i → (c.request j).connection = some k →
      ∃ j, (update c.request i phase' j).connection = some k :=
    fun {j} hj hk => ⟨j, by rwa [update_of_ne hj]⟩
  cases hfacts.locks hstrands with
  | same hsame hkeep =>
    obtain ⟨hn, hlost, j, hj⟩ := h.holder k n (hsame ▸ hlock)
    refine ⟨hn, hlost, ?_⟩
    by_cases hji : j = i
    · subst hji
      exact ⟨j, by rw [update_self]; exact hkeep k hj hlost⟩
    · exact hstay hji hj
  | @taken k₁ htaken hlost hk₁ htry =>
    -- a session that had the lock already would be a call's
    have hnone : c.shared.lock = none := by
      refine Option.eq_none_iff_forall_ne_some.2 fun held hheld => ?_
      obtain ⟨-, -, j, hj⟩ := h.holder held.1 held.2 hheld
      have hsame : held.1 = k₁ := (AdvisoryLock.heldBy_tryLock htry).2 _ ⟨held.2, hheld⟩
      rw [(h.owns j).taken k₁ (hsame ▸ hj)] at htaken
      cases htaken
    rw [hnone, hlock] at htry
    cases htry
    exact ⟨rfl, hlost, i, by rwa [update_self]⟩
  | @released k₁ hk₁ hunlock =>
    rw [hlock] at hunlock
    cases hheld : c.shared.lock with
    | none =>
      rw [hheld] at hunlock
      cases hunlock
    | some held =>
      obtain ⟨k₂, m⟩ := held
      obtain ⟨rfl, hlost, j, hj⟩ := h.holder k₂ m hheld
      rw [hheld, AdvisoryLock.unlock] at hunlock
      split_ifs at hunlock with hk
      cases hunlock
      refine ⟨rfl, hlost, hstay ?_ hj⟩
      rintro rfl
      exact hk (Option.some.inj (hj.symm.trans hk₁))

theorem Held.step (h : Held c) (hreleases : releases c l = true)
    (hstep : (protocol config κ ι crates).system.step c l = some c') : Held c' := by
  obtain ⟨event, s', rfl, henv, rfl⟩ | ⟨i, a, s', phase', rfl, hnext, rfl⟩ :=
    Protocol.step_cases hstep
  · refine ⟨fun j => (h.owns j).surroundings henv, fun k n hlock => ?_⟩
    cases event with
    | disconnect k₁ =>
      cases henv
      dsimp only at hlock ⊢
      cases hheld : c.shared.lock with
      | none =>
        rw [hheld] at hlock
        cases hlock
      | some held =>
        rw [hheld, AdvisoryLock.disconnect] at hlock
        split_ifs at hlock with hk
        cases hlock
        rw [update_of_ne hk]
        exact h.holder _ _ hheld
    | other =>
      cases henv
      exact h.holder k n hlock
  · exact h.request (by simpa [releases] using hreleases) hnext

/-- In every run without such steps that begins before the first call, the lock is free whenever no
call is running. -/
theorem setup_lock_released (config : SetupConfig) (crates : Crates)
    (c c' : Config ι (Store κ ι) (Phase κ)) (steps : List (Action ι (Input κ) (Event κ)))
    (hidle : ∀ i, c.request i = .idle) (hlock : c.shared.lock = none)
    (hreleases : (protocol config κ ι crates).system.Along (fun c l _ => releases c l = true) c
      steps)
    (hrun : (protocol config κ ι crates).system.run c steps = some c') : IsReleased c' := by
  refine Held.isReleased (System.run_invariant_along _ (fun _ _ _ h hr hs => h.step hr hs)
    ⟨fun i => ?_, fun k n h => ?_⟩ hreleases hrun)
  · rw [hidle i]
    exact ⟨nofun, nofun, nofun⟩
  · rw [hlock] at h
    cases h

theorem setup_lock_released_call :
    ∃ c, (protocol sampleServer (Fin 2) (Fin 2) Crates.readable).system.run sampleConfig
        (sampleCall 0) = some c ∧ (∀ i, (c.request i).isReady = true) ∧ IsReleased c := by
  refine ⟨_, rfl, by decide, ?_⟩
  exact setup_lock_released sampleServer Crates.readable sampleConfig _ (sampleCall 0)
    (fun _ => rfl) rfl (by decide +kernel) rfl

/-- A call is cancelled while it has the lock: the lock stays with its connection, and the next call
is refused. -/
theorem cancelled_call_keeps_lock :
    ∃ c c', (protocol sampleServer (Fin 2) (Fin 2) Crates.readable).system.run sampleConfig
        (sampleStart 0 ++ [.request 0 .cancel]) = some c ∧ ¬ IsReleased c ∧
      (protocol sampleServer (Fin 2) (Fin 2) Crates.readable).system.run c
        (sampleStart 1).dropLast = some c' ∧
      c'.request 1 = .answered (.error (.conflict "Setup initialization is already running")) := by
  refine ⟨_, _, rfl, fun h => ?_, rfl, rfl⟩
  cases h (by decide)

end Keylo.Setup
