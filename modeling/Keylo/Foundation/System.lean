import Mathlib.Algebra.GroupWithZero.Nat
import Mathlib.Logic.Function.Basic
import Mathlib.Data.List.Basic

/-!
# Transition systems and interleavings

A system is a guarded step function: `step s l` is the state after the step labelled `l`, and
`none` if that step is not possible in `s`. Labels carry everything a step does not determine
itself, such as random values, clock readings and failures, so that a run is a list of labels
and can be evaluated.

Concurrent programs are protocols: every request has a local state, and an atomic step of a
request acts on the shared state and on its own local state. The system of a protocol
interleaves the steps of all requests and of the environment in any order.

History variables are added to a system by an observer. They are updated along a run and never
read by a step.

## Main definitions

* `System.run` : the state reached by a list of labels.
* `System.Along` : a property of every step of a run.
* `System.observe` : a system with history variables.
* `Protocol.system` : the interleaving of the requests of a protocol.
* `Machine.outputs` : the answers of a machine to a list of inputs.

## Main results

* `System.run_invariant`, `System.run_invariant_along` : what every step preserves holds at the end
  of every run.
* `System.along_of_invariant` : a property that follows from an invariant holds at every step.
* `Protocol.forall_request_step` : how an assertion about all requests is preserved.
* `System.observe_along` : history variables do not restrict the runs of a system.
* `Machine.outputs_eq_of_unwinding` : two runs with the same answers.
-/

namespace Transition

/-- A labelled transition system given by a guarded step function. -/
structure System (S L : Type*) where
  step : S → L → Option S

namespace System

variable {S L H : Type*} (M : System S L) {s s' s₁ : S} {l : L} {ls ls' : List L}

/-! ### Runs -/

/-- The state reached from `s` by the steps `ls`, if all of them are possible. -/
def run (s : S) : List L → Option S
  | [] => some s
  | l :: ls => (M.step s l).bind fun s' => run s' ls

theorem run_cons_eq_some :
    M.run s (l :: ls) = some s' ↔ ∃ s₁, M.step s l = some s₁ ∧ M.run s₁ ls = some s' :=
  Option.bind_eq_some_iff

variable {I : S → Prop}

/-- What every step preserves, a run preserves. -/
theorem run_invariant (hstep : ∀ s l s', I s → M.step s l = some s' → I s') (hs : I s)
    (h : M.run s ls = some s') : I s' := by
  induction ls generalizing s with
  | nil =>
    cases h
    exact hs
  | cons l ls ih =>
    obtain ⟨s₁, h₁, h⟩ := M.run_cons_eq_some.1 h
    exact ih (hstep _ _ _ hs h₁) h

/-! ### Properties of every step -/

/-- Every step of the run `ls` from `s` satisfies `P`, a property of the state before the step,
its label and the state after it. -/
def Along (P : S → L → S → Prop) (s : S) : List L → Prop
  | [] => True
  | l :: ls =>
    match M.step s l with
    | none => True
    | some s' => P s l s' ∧ Along P s' ls

instance decidableAlong (P : S → L → S → Prop) [∀ s l s', Decidable (P s l s')] :
    ∀ (s : S) (ls : List L), Decidable (M.Along P s ls)
  | _, [] => .isTrue trivial
  | s, l :: ls =>
    match h : M.step s l with
    | none => .isTrue (by simp only [Along, h])
    | some s' =>
      have := decidableAlong P s' ls
      decidable_of_iff (P s l s' ∧ M.Along P s' ls) (by simp only [Along, h])

variable {P Q : S → L → S → Prop}

@[simp] theorem along_nil : M.Along P s [] := trivial

theorem along_cons (h : M.step s l = some s₁) :
    M.Along P s (l :: ls) ↔ P s l s₁ ∧ M.Along P s₁ ls := by
  simp only [Along, h]

theorem along_append (h : M.run s ls = some s₁) :
    M.Along P s (ls ++ ls') ↔ M.Along P s ls ∧ M.Along P s₁ ls' := by
  induction ls generalizing s with
  | nil =>
    cases h
    simp
  | cons l ls ih =>
    obtain ⟨s₂, h₂, h⟩ := M.run_cons_eq_some.1 h
    rw [List.cons_append, M.along_cons h₂, M.along_cons h₂, ih h, and_assoc]

variable {M} in
/-- A property of every step of a run is a property of its last step. -/
theorem Along.last {s₂ : S} (h : M.Along P s (ls ++ [l])) (hrun : M.run s ls = some s₁)
    (hstep : M.step s₁ l = some s₂) : P s₁ l s₂ :=
  ((M.along_cons hstep).1 ((M.along_append hrun).1 h).2).1

/-- What every step with the property `P` preserves is preserved by a run of such steps. -/
theorem run_invariant_along (hstep : ∀ s l s', I s → P s l s' → M.step s l = some s' → I s')
    (hs : I s) (hP : M.Along P s ls) (h : M.run s ls = some s') : I s' := by
  induction ls generalizing s with
  | nil =>
    cases h
    exact hs
  | cons l ls ih =>
    obtain ⟨s₁, h₁, h⟩ := M.run_cons_eq_some.1 h
    obtain ⟨hP₁, hP⟩ := (M.along_cons h₁).1 hP
    exact ih (hstep _ _ _ hs hP₁ h₁) hP h

/-- Two properties of steps are equivalent along every run from a state with the invariant `I`, if
they are in states with the invariant and the steps with one of them preserve it. -/
theorem along_congr_of_invariant (hstep : ∀ s l s', I s → Q s l s' → M.step s l = some s' → I s')
    (hPQ : ∀ s l s', I s → M.step s l = some s' → (P s l s' ↔ Q s l s')) (hs : I s) :
    M.Along P s ls ↔ M.Along Q s ls := by
  induction ls generalizing s with
  | nil => simp
  | cons l ls ih =>
    cases h₁ : M.step s l with
    | none => simp only [Along, h₁]
    | some s₁ =>
      rw [M.along_cons h₁, M.along_cons h₁, hPQ s l s₁ hs h₁]
      exact and_congr_right fun hQ => ih (hstep s l s₁ hs hQ h₁)

/-- If the steps with the property `P` preserve `I` and have the property `Q` in states with
`I`, then every run of steps with `P` consists of steps with `Q`. -/
theorem along_of_invariant
    (hstep : ∀ s l s', I s → P s l s' → M.step s l = some s' → I s' ∧ Q s l s') (hs : I s)
    (hP : M.Along P s ls) : M.Along Q s ls := by
  induction ls generalizing s with
  | nil => trivial
  | cons l ls ih =>
    cases h₁ : M.step s l with
    | none => simp only [Along, h₁]
    | some s₁ =>
      obtain ⟨hP₁, hP⟩ := (M.along_cons h₁).1 hP
      obtain ⟨hI, hQ⟩ := hstep s l s₁ hs hP₁ h₁
      exact (M.along_cons h₁).2 ⟨hQ, ih hI hP⟩

theorem along_true : M.Along (fun _ _ _ => True) s ls := by
  induction ls generalizing s with
  | nil => trivial
  | cons l ls ih =>
    cases h₁ : M.step s l with
    | none => simp only [Along, h₁]
    | some => exact (M.along_cons h₁).2 ⟨trivial, ih⟩

theorem along_and (hP : M.Along P s ls) (hQ : M.Along Q s ls) :
    M.Along (fun s l s' => P s l s' ∧ Q s l s') s ls := by
  induction ls generalizing s with
  | nil => trivial
  | cons l ls ih =>
    cases h₁ : M.step s l with
    | none => simp only [Along, h₁]
    | some =>
      obtain ⟨hP₁, hP⟩ := (M.along_cons h₁).1 hP
      obtain ⟨hQ₁, hQ⟩ := (M.along_cons h₁).1 hQ
      exact (M.along_cons h₁).2 ⟨⟨hP₁, hQ₁⟩, ih hP hQ⟩

/-- A property of states that every step keeps backwards holds after every step of a run at whose
end it holds. -/
theorem along_of_final {N : S → Prop} (hback : ∀ s l s', M.step s l = some s' → N s' → N s)
    (h : M.run s ls = some s') (hs' : N s') : N s ∧ M.Along (fun _ _ s' => N s') s ls := by
  induction ls generalizing s with
  | nil =>
    cases h
    exact ⟨hs', trivial⟩
  | cons l ls ih =>
    obtain ⟨s₁, h₁, h⟩ := M.run_cons_eq_some.1 h
    obtain ⟨hs₁, halong⟩ := ih h
    exact ⟨hback s l s₁ h₁ hs₁, (M.along_cons h₁).2 ⟨hs₁, halong⟩⟩

/-! ### History variables -/

/-- The system `M` with a history variable, updated by `record` at every step. -/
def observe (record : H → S → L → S → H) : System (S × H) L where
  step c l := (M.step c.1 l).map fun s' => (s', record c.2 c.1 l s')

variable {record : H → S → L → S → H} {c c' : S × H}

variable {M} in
theorem observe_step_eq_some :
    (M.observe record).step c l = some c' ↔
      ∃ s', M.step c.1 l = some s' ∧ (s', record c.2 c.1 l s') = c' :=
  Option.map_eq_some_iff

variable (record) in
/-- A property of the steps of a system is the same with history variables. -/
theorem observe_along (ls : List L) (c : S × H) :
    (M.observe record).Along (fun c l c' => P c.1 l c'.1) c ls ↔ M.Along P c.1 ls := by
  induction ls generalizing c with
  | nil => simp
  | cons l ls ih =>
    cases h₁ : M.step c.1 l with
    | none => simp [Along, observe, h₁]
    | some s₁ =>
      have h₂ : (M.observe record).step c l = some (s₁, record c.2 c.1 l s₁) :=
        observe_step_eq_some.2 ⟨s₁, h₁, rfl⟩
      rw [along_cons _ h₂, along_cons _ h₁, ih]

variable {M} in
/-- What every step with the property `P` preserves, of a state and its history, is preserved by a
run of such steps. -/
theorem observe_run_invariant {I : S → H → Prop} (hrun : (M.observe record).run c ls = some c')
    (hI : I c.1 c.2) (hP : M.Along P c.1 ls)
    (hstep : ∀ s h l s', I s h → P s l s' → M.step s l = some s' →
      I s' (record h s l s') ∧ Q s l s') : I c'.1 c'.2 ∧ M.Along Q c.1 ls := by
  induction ls generalizing c with
  | nil =>
    cases hrun
    exact ⟨hI, trivial⟩
  | cons l ls ih =>
    obtain ⟨_, h₁, hrun⟩ := (M.observe record).run_cons_eq_some.1 hrun
    obtain ⟨s₁, hs₁, rfl⟩ := observe_step_eq_some.1 h₁
    obtain ⟨hP₁, hP⟩ := (M.along_cons hs₁).1 hP
    obtain ⟨hI, hQ⟩ := hstep _ _ _ _ hI hP₁ hs₁
    exact (ih hrun hI hP).imp_right fun h => (M.along_cons hs₁).2 ⟨hQ, h⟩

end System

/-! ### Interleavings -/

/-- A concurrent program. Requests are named by `ι` and have a local state in `τ`; `next i a`
is an atomic step of request `i` with input `a`, and `env b` a step of the environment. -/
structure Protocol (ι σ τ α β : Type*) where
  next : ι → α → σ → τ → Option (σ × τ)
  env : β → σ → Option σ

/-- The shared state and the local states of all requests. -/
@[ext] structure Config (ι σ τ : Type*) where
  shared : σ
  request : ι → τ

/-- Who makes the next step of an interleaving. -/
inductive Action (ι α β : Type*)
  | request (i : ι) (a : α)
  | environment (b : β)
deriving DecidableEq

/-! The requests of a small system are numbered. With these instances the numerals are the same
terms in every module. -/

instance neZeroTwo : NeZero 2 := ⟨Nat.succ_ne_zero _⟩

instance neZeroThree : NeZero 3 := ⟨Nat.succ_ne_zero _⟩

instance neZeroFour : NeZero 4 := ⟨Nat.succ_ne_zero _⟩

namespace Protocol

variable {ι σ τ α β : Type*} [DecidableEq ι] (P : Protocol ι σ τ α β)

/-- The interleavings of all requests and of the environment. -/
def system : System (Config ι σ τ) (Action ι α β) where
  step c
    | .request i a =>
      (P.next i a c.shared (c.request i)).map fun r => ⟨r.1, Function.update c.request i r.2⟩
    | .environment b => (P.env b c.shared).map fun s => { c with shared := s }

variable {c c' : Config ι σ τ} {i : ι} {a : α} {b : β} {l : Action ι α β}

theorem step_request_eq_some :
    P.system.step c (.request i a) = some c' ↔
      ∃ s t, P.next i a c.shared (c.request i) = some (s, t) ∧
        c' = ⟨s, Function.update c.request i t⟩ := by
  simp only [system, Option.map_eq_some_iff, Prod.exists, eq_comm (a := c')]

theorem step_environment_eq_some :
    P.system.step c (.environment b) = some c' ↔
      ∃ s, P.env b c.shared = some s ∧ c' = { c with shared := s } := by
  simp only [system, Option.map_eq_some_iff, eq_comm (a := c')]

variable {P} in
/-- A step is one of the environment or one of a request. -/
theorem step_cases (h : P.system.step c l = some c') :
    (∃ b s, l = .environment b ∧ P.env b c.shared = some s ∧ c' = { c with shared := s }) ∨
      ∃ i a s t, l = .request i a ∧ P.next i a c.shared (c.request i) = some (s, t) ∧
        c' = ⟨s, Function.update c.request i t⟩ := by
  cases l with
  | environment b =>
    obtain ⟨s, hs⟩ := P.step_environment_eq_some.1 h
    exact .inl ⟨b, s, rfl, hs⟩
  | request i a =>
    obtain ⟨s, t, hs⟩ := P.step_request_eq_some.1 h
    exact .inr ⟨i, a, s, t, rfl, hs⟩

/-- An assertion about every request holds after a step if the request that makes the step
establishes it and the other requests, whose local states do not change, keep it. `J` and `K`
are the assertion before and after the step; they may differ in the shared state they are
about. -/
theorem forall_request_step {J K : ι → τ → Prop} (h : P.system.step c l = some c')
    (hJ : ∀ i, J i (c.request i))
    (hrely : ∀ i, (∀ a, l ≠ .request i a) → J i (c.request i) → K i (c.request i))
    (hown : ∀ i a t, l = .request i a →
      P.next i a c.shared (c.request i) = some (c'.shared, t) → J i (c.request i) → K i t) :
    ∀ i, K i (c'.request i) := by
  obtain ⟨b, s, rfl, -, rfl⟩ | ⟨i, a, s, t, rfl, hnext, rfl⟩ := step_cases h
  · exact fun i => hrely i (fun _ => nofun) (hJ i)
  exact (Function.forall_update_iff _ K).2 ⟨hown i a t rfl hnext (hJ i), fun j hji =>
    hrely j (fun b hb => hji (Action.request.inj hb).1.symm) (hJ j)⟩

end Protocol

/-! ### Machines with outputs -/

/-- A machine that answers every input and changes its state. -/
structure Machine (S I O : Type*) where
  step : S → I → O × S

namespace Machine

variable {S I O : Type*} (M : Machine S I O)

/-- The answers to a list of inputs. -/
def outputs (s : S) : List I → List O
  | [] => []
  | i :: is => (M.step s i).1 :: outputs (M.step s i).2 is

/-- Every input has the property `P` in the state in which it arrives. -/
def Always (P : S → I → Prop) (s : S) : List I → Prop
  | [] => True
  | i :: is => P s i ∧ Always P (M.step s i).2 is

/-- Two runs on paired inputs give the same answers if a relation between their states, which may
depend on the inputs to come, forces equal answers and is kept by the steps. -/
theorem outputs_eq_of_unwinding {R : List (I × I) → S → S → Prop}
    (hstep : ∀ p ps s s', R (p :: ps) s s' →
      (M.step s p.1).1 = (M.step s' p.2).1 ∧ R ps (M.step s p.1).2 (M.step s' p.2).2)
    {ps : List (I × I)} {s s' : S} (h : R ps s s') :
    M.outputs s (ps.map Prod.fst) = M.outputs s' (ps.map Prod.snd) := by
  induction ps generalizing s s' with
  | nil => rfl
  | cons p ps ih =>
    obtain ⟨hout, hnext⟩ := hstep p ps s s' h
    simp only [List.map_cons, outputs, hout, ih hnext]

end Machine

end Transition
