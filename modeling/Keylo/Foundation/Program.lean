import Keylo.Foundation.System

/-!
# Programs of atomic statements

A program runs atomic statements on a shared state, one after the other, and returns a value. What
a statement does not determine itself, such as random values and failures, is its input. Programs
form a monad; with `ExceptT` on top of it they can fail, and what a program has written before it
fails stays written.

A program is run on its own with the inputs of its statements (`run`), or its statements are
interleaved with the ones of other programs (`next`). The rules for the first are those of weakest
preconditions. The second is about what every single statement guarantees.

## Main definitions

* `Program` : trees of statements.
* `run` : the result of a program that runs on its own.
* `wp` : the weakest precondition.
* `wpWith` : the weakest precondition of runs whose inputs are restricted.
* `Guarantees` : a relation between the states before and after every statement.
* `Results` : a property of every result.
* `Ensures` : both, for the results that are not failures.
* `advance` : the next statement of a program that is a part of a request.

## Main results

* `run_of_wp` : weakest preconditions are sound.
* `wp_bind`, `wp_bindExcept` : the rules of composition.
* `wpWith_bind`, `wpWith_bindExcept` : the same for runs whose inputs are restricted.
* `Guarantees.wp` : what all statements guarantee, the program does.
-/

universe u v w

/-- A program over the state `σ`. The input of a statement is in `ι`; the statement changes the
state by `write`, and the program goes on with `next`, which may depend on what the statement has
read. -/
inductive Program (ι : Type u) (σ : Type v) (α : Type w)
  | done (a : α)
  | statement (write : ι → σ → σ) (next : ι → σ → Program ι σ α)

namespace Program

variable {ι : Type u} {σ : Type v} {α β ε : Type w}

/-! ### Composition -/

protected def bind : Program ι σ α → (α → Program ι σ β) → Program ι σ β
  | done a, f => f a
  | statement write next, f => statement write fun i s => (next i s).bind f

instance : Monad (Program ι σ) where
  pure := done
  bind := Program.bind

/-! ### Execution -/

/-- The result and the final state of a program that runs on its own, where the inputs of its
statements are the terms of the sequence `o`. -/
def run : Program ι σ α → (ℕ → ι) → σ → α × σ
  | done a, _, s => (a, s)
  | statement write next, o, s => (next (o 0) s).run (fun n => o (n + 1)) (write (o 0) s)

/-- One statement of a program, as a step of an interleaving. -/
def next (i : ι) (s : σ) : Program ι σ α → Option (σ × Program ι σ α)
  | done _ => none
  | statement write next => some (write i s, next i s)

/-! ### Weakest preconditions -/

/-- From the state `s`, the program ends with a result and a state that satisfy `Q`, for all
inputs of its statements. -/
def wp : Program ι σ α → σ → (α → σ → Prop) → Prop
  | done a, s, Q => Q a s
  | statement write next, s, Q => ∀ i, (next i s).wp (write i s) Q

section Programs

variable {s : σ} {Q Q' : α → σ → Prop} {x x' : Program ι σ α} {f : α → Program ι σ β}

theorem run_of_wp (h : x.wp s Q) (o : ℕ → ι) :
    Q (x.run o s).1 (x.run o s).2 := by
  induction x generalizing s o with
  | done => exact h
  | statement write next ih => exact ih (o 0) s (h (o 0)) fun n => o (n + 1)

theorem wp_mono (h : x.wp s Q) (hQ : ∀ a s, Q a s → Q' a s) :
    x.wp s Q' := by
  induction x generalizing s with
  | done a => exact hQ a s h
  | statement write next ih => exact fun i => ih i s (h i)

theorem wp_and (h : x.wp s Q) (h' : x.wp s Q') :
    x.wp s fun a s => Q a s ∧ Q' a s := by
  induction x generalizing s with
  | done => exact ⟨h, h'⟩
  | statement write next ih => exact fun i => ih i s (h i) (h' i)

theorem wp_of_forall (x : Program ι σ α) (hQ : ∀ a s, Q a s) : x.wp s Q := by
  induction x generalizing s with
  | done a => exact hQ a s
  | statement write next ih => exact fun i => ih i s

@[simp] theorem wp_pure {a : α} : (pure a : Program ι σ α).wp s Q ↔ Q a s := Iff.rfl

@[simp] theorem wp_statement {write : ι → σ → σ} {next : ι → σ → Program ι σ α} :
    (statement write next).wp s Q ↔ ∀ i, (next i s).wp (write i s) Q := Iff.rfl

@[simp] theorem wp_bind {Q : β → σ → Prop} :
    (x >>= f).wp s Q ↔ x.wp s fun a s => (f a).wp s Q := by
  induction x generalizing s with
  | done => rfl
  | statement write next ih => exact forall_congr' fun i => ih i s

@[simp] theorem wp_map {f : α → β} {Q : β → σ → Prop} :
    (f <$> x).wp s Q ↔ x.wp s fun a s => Q (f a) s :=
  wp_bind

/-! ### Guarantees -/

/-- Every statement of the program relates the states before and after it by `G`. -/
def Guarantees (G : σ → σ → Prop) : Program ι σ α → Prop
  | done _ => True
  | statement write next => ∀ i s, G s (write i s) ∧ (next i s).Guarantees G

variable {G : σ → σ → Prop}

theorem guarantees_pure (a : α) : (pure a : Program ι σ α).Guarantees G := trivial

theorem guarantees_statement {write : ι → σ → σ} {next : ι → σ → Program ι σ α} :
    (statement write next).Guarantees G ↔
      ∀ i s, G s (write i s) ∧ (next i s).Guarantees G := Iff.rfl

theorem Guarantees.bind (hx : x.Guarantees G)
    (hf : ∀ a, (f a).Guarantees G) : (x >>= f).Guarantees G := by
  induction x with
  | done a => exact hf a
  | statement write next ih => exact fun i s => ⟨(hx i s).1, ih i s (hx i s).2⟩

theorem Guarantees.mono {G' : σ → σ → Prop} (hx : x.Guarantees G)
    (hG : ∀ s s', G s s' → G' s s') : x.Guarantees G' := by
  induction x with
  | done => trivial
  | statement write next ih => exact fun i s => ⟨hG _ _ (hx i s).1, ih i s (hx i s).2⟩

/-- The guarantee of a statement, and of the program after it. -/
theorem Guarantees.next {i : ι} {s' : σ} (h : x.Guarantees G)
    (hnext : x.next i s = some (s', x')) : G s s' ∧ x'.Guarantees G := by
  cases x with
  | done => cases hnext
  | statement =>
    cases hnext
    exact h i s

/-- What every statement guarantees, the whole program does. -/
theorem Guarantees.wp (h : x.Guarantees G) (hrefl : ∀ s, G s s)
    (htrans : ∀ s s₁ s₂, G s s₁ → G s₁ s₂ → G s s₂) : x.wp s fun _ s' => G s s' := by
  induction x generalizing s with
  | done => exact hrefl s
  | statement write next ih =>
    intro i
    exact wp_mono (ih i s (h i s).2) fun _ s' => htrans s (write i s) s' (h i s).1

/-! ### Results -/

/-- Every result of the program satisfies `Q`, whatever its statements read. -/
def Results (Q : α → Prop) : Program ι σ α → Prop
  | done a => Q a
  | statement _ next => ∀ i s, (next i s).Results Q

theorem results_pure {a : α} {Q : α → Prop} (h : Q a) : (pure a : Program ι σ α).Results Q := h

theorem results_done {a : α} {Q : α → Prop} : (done a : Program ι σ α).Results Q ↔ Q a := Iff.rfl

theorem results_statement {write : ι → σ → σ} {next : ι → σ → Program ι σ α} {Q : α → Prop} :
    (statement write next).Results Q ↔ ∀ i s, (next i s).Results Q := Iff.rfl

theorem results_of_forall (x : Program ι σ α) {Q : α → Prop} (h : ∀ a, Q a) : x.Results Q := by
  induction x with
  | done a => exact h a
  | statement write next ih => exact fun i s => ih i s

theorem Results.mono {P Q : α → Prop} (h : x.Results P)
    (hPQ : ∀ a, P a → Q a) : x.Results Q := by
  induction x with
  | done a => exact hPQ a h
  | statement write next ih => exact fun i s => ih i s (h i s)

/-- The results of a program after its next statement. -/
theorem Results.next {Q : α → Prop} {i : ι} {s' : σ} (h : x.Results Q)
    (hnext : x.next i s = some (s', x')) : x'.Results Q := by
  cases x with
  | done => cases hnext
  | statement =>
    cases hnext
    exact h i s

theorem Results.bind {P : α → Prop} {Q : β → Prop}
    (hx : x.Results P) (hf : ∀ a, P a → (f a).Results Q) : (x >>= f).Results Q := by
  induction x with
  | done a => exact hf a hx
  | statement write next ih => exact fun i s => ih i s (hx i s)

/-- A composition whose second part is run on the results of the first only. -/
theorem Guarantees.bind_results {P : α → Prop}
    (hx : x.Guarantees G) (hr : x.Results P) (hf : ∀ a, P a → (f a).Guarantees G) :
    (x >>= f).Guarantees G := by
  induction x with
  | done a => exact hf a hr
  | statement write next ih => exact fun i s => ⟨(hx i s).1, ih i s (hx i s).2 (hr i s)⟩

end Programs

/-! ### Programs that fail -/

variable {ε' : Type w} {s : σ} {G : σ → σ → Prop} {x : ExceptT ε (Program ι σ) α}
  {f : α → ExceptT ε (Program ι σ) β}

/-- Runs a program that may fail, and returns how it has ended. -/
def attempt (x : ExceptT ε (Program ι σ) α) : ExceptT ε' (Program ι σ) (Except ε α) :=
  ExceptT.lift x.run

@[simp] theorem wp_okExcept {a : α} {Q : Except ε α → σ → Prop} :
    (pure a : ExceptT ε (Program ι σ) α).run.wp s Q ↔ Q (.ok a) s := Iff.rfl

@[simp] theorem wp_throw {e : ε} {Q : Except ε α → σ → Prop} :
    (throw e : ExceptT ε (Program ι σ) α).run.wp s Q ↔ Q (.error e) s := Iff.rfl

/-- A composition goes on where its first part returns and ends where it fails. -/
@[simp] theorem wp_bindExcept {Q : Except ε β → σ → Prop} :
    (x >>= f).run.wp s Q ↔ x.run.wp s fun r s =>
      match r with
      | .ok a => (f a).run.wp s Q
      | .error e => Q (.error e) s := by
  refine wp_bind.trans ⟨fun h => wp_mono h ?_, fun h => wp_mono h ?_⟩ <;>
    intro r s hr <;> cases r <;> exact hr

/-- A composition whose second part does not depend on what the first has done. -/
theorem wp_bindExcept_of_forall {Q : Except ε β → σ → Prop}
    (herror : ∀ e s, Q (.error e) s) (hok : ∀ a s, (f a).run.wp s Q) : (x >>= f).run.wp s Q := by
  refine wp_bindExcept.2 (wp_of_forall _ fun r s => ?_)
  cases r with
  | ok a => exact hok a s
  | error e => exact herror e s

@[simp] theorem wp_liftExcept {x : Program ι σ α} {Q : Except ε α → σ → Prop} :
    (liftM x : ExceptT ε (Program ι σ) α).run.wp s Q ↔ x.wp s fun a s => Q (.ok a) s :=
  wp_bind

@[simp] theorem wp_attempt {Q : Except ε' (Except ε α) → σ → Prop} :
    (attempt x).run.wp s Q ↔ x.run.wp s fun r s => Q (.ok r) s :=
  wp_bind

@[simp] theorem wp_adapt {h : ε → ε'}
    {Q : Except ε' α → σ → Prop} :
    (ExceptT.adapt h x).run.wp s Q ↔ x.run.wp s fun r s => Q (r.mapError h) s :=
  wp_bind

-- proofs go through the rules, so that no program is run to compare two preconditions
attribute [irreducible] wp Guarantees Results

theorem Guarantees.bindExcept (hx : x.run.Guarantees G) (hf : ∀ a, (f a).run.Guarantees G) :
    (x >>= f).run.Guarantees G := by
  refine Guarantees.bind hx fun r => ?_
  cases r with
  | ok a => exact hf a
  | error e => exact guarantees_pure (Except.error e)

theorem Guarantees.liftExcept {x : Program ι σ α} (hx : x.Guarantees G) :
    (liftM x : ExceptT ε (Program ι σ) α).run.Guarantees G :=
  hx.bind fun _ => guarantees_pure _

theorem Guarantees.attempt (hx : x.run.Guarantees G) :
    (Program.attempt x : ExceptT ε' (Program ι σ) (Except ε α)).run.Guarantees G :=
  hx.bind fun _ => guarantees_pure _

theorem Guarantees.adapt {h : ε → ε'} (hx : x.run.Guarantees G) :
    (ExceptT.adapt h x).run.Guarantees G :=
  hx.bind fun _ => guarantees_pure _

theorem results_return {a : α} {Q : α → Prop} (h : Q a) :
    (pure a : ExceptT ε (Program ι σ) α).run.Results fun r => ∀ a, r = .ok a → Q a := by
  have hvalue (a' : α) (ha : (Except.ok a : Except ε α) = .ok a') : Q a' := by cases ha; exact h
  exact @results_pure ι σ (Except ε α) (.ok a) (fun r => ∀ a, r = .ok a → Q a) hvalue

theorem results_throw {e : ε} {Q : α → Prop} :
    (throw e : ExceptT ε (Program ι σ) α).run.Results fun r => ∀ a, r = .ok a → Q a := by
  have hnone : ∀ a, (Except.error e : Except ε α) = .ok a → Q a := fun a ha => by cases ha
  exact @results_pure ι σ (Except ε α) (.error e) (fun r => ∀ a, r = .ok a → Q a) hnone

/-- The values that a composition returns. -/
theorem Results.bindExcept {P : α → Prop} {Q : β → Prop}
    (hx : x.run.Results fun r => ∀ a, r = .ok a → P a)
    (hf : ∀ a, P a → (f a).run.Results fun r => ∀ b, r = .ok b → Q b) :
    (x >>= f).run.Results fun r => ∀ b, r = .ok b → Q b := by
  refine Results.bind hx fun r hr => ?_
  cases r with
  | ok a => exact hf a (hr a rfl)
  | error => exact results_throw

theorem Guarantees.bindExcept_results {P : α → Prop} (hx : x.run.Guarantees G)
    (hr : x.run.Results fun r => ∀ a, r = .ok a → P a) (hf : ∀ a, P a → (f a).run.Guarantees G) :
    (x >>= f).run.Guarantees G := by
  refine Guarantees.bind_results hx hr fun r hr => ?_
  cases r with
  | ok a => exact hf a (hr a rfl)
  | error e => exact guarantees_pure (Except.error e)

theorem Results.adapt {h : ε → ε'} {Q : α → Prop}
    (hx : x.run.Results fun r => ∀ a, r = .ok a → Q a) :
    (ExceptT.adapt h x).run.Results fun r => ∀ a, r = .ok a → Q a := by
  refine Results.bind hx fun r hr => ?_
  cases r with
  | ok a => exact results_return (hr a rfl)
  | error => exact results_throw

/-- The values of a composition whose first part may return anything. -/
theorem Results.bindExcept_of_forall {Q : β → Prop}
    (hf : ∀ a, (f a).run.Results fun r => ∀ b, r = .ok b → Q b) :
    (x >>= f).run.Results fun r => ∀ b, r = .ok b → Q b :=
  have hx : x.run.Results fun r => ∀ a, r = .ok a → True :=
    results_of_forall x.run fun _ _ _ => trivial
  Results.bindExcept hx fun a _ => hf a

/-- Every statement of the program relates the states by `G`, and what it returns satisfies `Q`. -/
def Ensures (G : σ → σ → Prop) (Q : α → Prop) (x : ExceptT ε (Program ι σ) α) : Prop :=
  x.run.Guarantees G ∧ x.run.Results fun r => ∀ a, r = .ok a → Q a

variable {P : α → Prop} {Q : β → Prop}

theorem ensures_return {b : β} (h : Q b) :
    Ensures G Q (pure b : ExceptT ε (Program ι σ) β) := ⟨guarantees_pure _, results_return h⟩

theorem ensures_throw {e : ε} : Ensures G Q (throw e : ExceptT ε (Program ι σ) β) :=
  ⟨guarantees_pure _, results_throw⟩

theorem Ensures.bind (hx : Ensures G P x) (hf : ∀ a, P a → Ensures G Q (f a)) :
    Ensures G Q (x >>= f) :=
  ⟨.bindExcept_results hx.1 hx.2 fun a h => (hf a h).1, .bindExcept hx.2 fun a h => (hf a h).2⟩

/-- A composition whose first part may return anything. -/
theorem Ensures.of_guarantees (hx : x.run.Guarantees G) (hf : ∀ a, Ensures G Q (f a)) :
    Ensures G Q (x >>= f) :=
  ⟨.bindExcept hx fun a => (hf a).1, .bindExcept_of_forall fun a => (hf a).2⟩

/-! ### Parts of requests -/

/-- The next statement of a part of a request. The request is in the phase `part x` while `x` is
left of the part, and goes on in the phase `failed e` or `done a`. -/
def advance {π : Type*} (i : ι) (s : σ) (part : Program ι σ (Except ε α) → π) (failed : ε → π)
    (done : α → π) : Program ι σ (Except ε α) → σ × π
  | .done (.ok a) => (s, done a)
  | .done (.error e) => (s, failed e)
  | .statement write next => (write i s, part (next i s))

/-- A part fails, returns or goes on. -/
theorem advance_cases {π : Type*} {i : ι} {part : Program ι σ (Except ε α) → π} {failed : ε → π}
    {done : α → π} {x : Program ι σ (Except ε α)} {C : σ × π → Prop}
    (hfailed : ∀ e, C (s, failed e)) (hdone : ∀ a, x = .done (.ok a) → C (s, done a))
    (hpart : ∀ s' x', x.next i s = some (s', x') → C (s', part x')) :
    C (x.advance i s part failed done) := by
  cases x with
  | done r =>
    cases r with
    | ok a => exact hdone a rfl
    | error e => exact hfailed e
  | statement => exact hpart _ _ rfl

/-! ### Runs with restricted inputs -/

section Restricted

variable {P : ι → Prop}

/-- From the state `s`, the program ends with a result and a state that satisfy `Q`, for all
inputs of its statements that satisfy `P`. -/
def wpWith (P : ι → Prop) (x : Program ι σ α) (s : σ) (Q : α → σ → Prop) : Prop :=
  ∀ o : ℕ → ι, (∀ n, P (o n)) → Q (x.run o s).1 (x.run o s).2

/-- The second part of a composition runs with the inputs that the first has left. -/
theorem exists_run_bind (x : Program ι σ α) (f : α → Program ι σ β) (o : ℕ → ι) (s : σ) :
    ∃ n, (x >>= f).run o s = (f (x.run o s).1).run (fun k => o (n + k)) (x.run o s).2 := by
  induction x generalizing o s with
  | done a => exact ⟨0, by simp only [Nat.zero_add]; rfl⟩
  | statement write next ih =>
    obtain ⟨n, hn⟩ := ih (o 0) s (fun k => o (k + 1)) (write (o 0) s)
    refine ⟨n + 1, hn.trans ?_⟩
    simp only [Nat.add_right_comm n _ 1]
    rfl

theorem wpWith_bind {x : Program ι σ α} {f : α → Program ι σ β} {Q : β → σ → Prop}
    (h : x.wpWith P s fun a s => (f a).wpWith P s Q) : (x >>= f).wpWith P s Q := by
  intro o ho
  obtain ⟨n, hn⟩ := exists_run_bind x f o s
  rw [hn]
  exact h o ho _ fun k => ho (n + k)

theorem wpWith_pure {a : α} {Q : α → σ → Prop} (h : Q a s) :
    (pure a : Program ι σ α).wpWith P s Q := fun _ _ => h

theorem wpWith_statement {write : ι → σ → σ} {next : ι → σ → Program ι σ α} {Q : α → σ → Prop}
    (h : ∀ i, P i → (next i s).wpWith P (write i s) Q) : (statement write next).wpWith P s Q :=
  fun o ho => h (o 0) (ho 0) _ fun n => ho (n + 1)

theorem wpWith_mono {x : Program ι σ α} {Q Q' : α → σ → Prop} (h : x.wpWith P s Q)
    (hQ : ∀ a s, Q a s → Q' a s) : x.wpWith P s Q' := fun o ho => hQ _ _ (h o ho)

theorem wpWith_bindExcept {f : α → ExceptT ε (Program ι σ) β} {Q : Except ε β → σ → Prop}
    (h : x.run.wpWith P s fun r s =>
      match r with
      | .ok a => (f a).run.wpWith P s Q
      | .error e => Q (.error e) s) : (x >>= f).run.wpWith P s Q := by
  refine wpWith_bind (wpWith_mono h fun r s hr => ?_)
  cases r with
  | ok a => exact hr
  | error e => exact wpWith_pure hr

theorem wpWith_lift {x : Program ι σ α} {Q : Except ε α → σ → Prop}
    (h : x.wpWith P s fun a s => Q (.ok a) s) :
    (liftM x : ExceptT ε (Program ι σ) α).run.wpWith P s Q :=
  wpWith_bind (wpWith_mono h fun _ _ => wpWith_pure)

theorem wpWith_attempt {Q : Except ε' (Except ε α) → σ → Prop}
    (h : x.run.wpWith P s fun r s => Q (.ok r) s) : (attempt x).run.wpWith P s Q :=
  wpWith_bind (wpWith_mono h fun _ _ => wpWith_pure)

theorem wpWith_adapt {h : ε → ε'} {Q : Except ε' α → σ → Prop}
    (hx : x.run.wpWith P s fun r s => Q (r.mapError h) s) :
    (ExceptT.adapt h x).run.wpWith P s Q :=
  wpWith_bind (wpWith_mono hx fun _ _ => wpWith_pure)

end Restricted

end Program
