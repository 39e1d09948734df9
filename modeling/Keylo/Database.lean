import Keylo.Foundation.Program
import Keylo.Schema

/-!
# Statements of request handlers

A handler that is verified as a whole is a program whose statements are the database calls of the
source. Every call may fail with an error of the database, time passes between the calls, and
random values are drawn as they are needed; all of this is the `Oracle` of a statement.

## Main definitions

* `Oracle` : what a statement does not determine itself.
* `DbM` : programs that fail with an error.
* `fetch`, `atomically` : reads and transactions.
* `Oracle.Prompt` : the inputs of a statement that does not fail and takes no time.

## Main results

* `wp_fetch`, `wp_atomically` : their weakest preconditions.
* `wpWith_fetch`, `wpWith_atomically` : those of runs in which no statement fails.
* `guarantees_fetch`, `guarantees_atomically` : what they do to the database.
-/

namespace Keylo

/-- What a statement of a handler does not determine itself. -/
structure Oracle where
  /-- The error of a statement that the database does not carry out. -/
  fault : Option String := none
  /-- The time since the previous statement, in microseconds. -/
  elapsed : Nat := 0
  /-- The random identifiers that are drawn for the statement. -/
  uuid : String := ""
  /-- A second identifier, for the statements that need two. -/
  uuid' : String := ""
  salt : String := ""
  /-- The verdict of the rate limiter, the login lock or the mail server. -/
  accepted : Bool := true

/-- Programs over the database. -/
abbrev Statements := Program Oracle Db

/-- Programs over the database that may fail; what they have written before stays. -/
abbrev DbM (ε : Type) := ExceptT ε Statements

/-- The database after some time. -/
def Db.tick (db : Db) (elapsed : Nat) : Db := { db with clock := db.clock + elapsed }

variable {ε ε' α β : Type}

/-- The outcome of a transaction. -/
def outcome (f : Oracle → Db → Except String (α × Db)) (o : Oracle) (db : Db) :
    Except String (α × Db) :=
  match o.fault with
  | some e => .error e
  | none => f o (db.tick o.elapsed)

/-- A transaction; one that fails changes nothing. -/
def atomically (f : Oracle → Db → Except String (α × Db)) : DbM String α :=
  ExceptT.mk (.statement
    (fun o db =>
      match outcome f o db with
      | .ok (_, db') => db'
      | .error _ => db.tick o.elapsed)
    fun o db => .done ((outcome f o db).map Prod.fst))

/-- A statement that only reads. -/
def fetch (q : Db → α) : DbM String α := atomically fun _ db => .ok (q db, db)

/-- The verdict of a part of the server other than the database. -/
def consult : Statements Bool :=
  .statement (fun o db => db.tick o.elapsed) fun o _ => .done o.accepted

/-- A random identifier. -/
def draw : Statements String := .statement (fun o db => db.tick o.elapsed) fun o _ => .done o.uuid

/-- The time of the server. -/
def now : Statements Time :=
  .statement (fun o db => db.tick o.elapsed) fun o db => .done (db.tick o.elapsed).clock

/-- A program that begins with a read: the read fails and ends it, or the rest is run on what is
stored. -/
theorem next_fetch_bind {q : Db → α} {f : α → DbM String β} {o : Oracle} {db : Db} :
    (fetch q >>= f).run.next o db = some (db.tick o.elapsed,
      match o.fault with
      | some e => .done (.error e)
      | none => (f (q (db.tick o.elapsed))).run) := by
  obtain ⟨fault, _, _, _, _, _⟩ := o
  cases fault <;> rfl

variable {db : Db} {f : Oracle → Db → Except String (α × Db)} {q : Db → α}
  {Q : Except String α → Db → Prop}

theorem outcome_eq_ok {o : Oracle} {r : α × Db} (h : outcome f o db = .ok r) :
    f o (db.tick o.elapsed) = .ok r := by
  unfold outcome at h
  split at h
  · cases h
  · exact h

/-! ### Weakest preconditions -/

@[simp] theorem wp_atomically :
    (atomically f).run.wp db Q ↔ ∀ o,
      match outcome f o db with
      | .ok (a, db') => Q (.ok a) db'
      | .error e => Q (.error e) (db.tick o.elapsed) := by
  refine Program.wp_statement.trans (forall_congr' fun o => Program.wp_pure.trans ?_)
  cases h : outcome f o db <;> simp [Except.map]

/-- A transaction fails and changes nothing, or it succeeds. -/
theorem wp_atomically_of (herror : ∀ e n, Q (.error e) (db.tick n))
    (hok : ∀ o n a db', f o (db.tick n) = .ok (a, db') → Q (.ok a) db') :
    (atomically f).run.wp db Q := by
  refine wp_atomically.2 fun o => ?_
  cases h : outcome f o db with
  | error e => exact herror e o.elapsed
  | ok r => exact hok o o.elapsed r.1 r.2 (outcome_eq_ok h)

/-- A read fails, or it returns what is stored. -/
theorem wp_fetch (herror : ∀ e n, Q (.error e) (db.tick n))
    (hok : ∀ n, Q (.ok (q (db.tick n))) (db.tick n)) : (fetch q).run.wp db Q :=
  wp_atomically_of herror fun _ n _ _ h => by
    cases h
    exact hok n

/-! ### Guarantees -/

/-- The relation allows time to pass. -/
class Ticks (G : Db → Db → Prop) : Prop where
  tick (db : Db) (n : ℕ) : G db (db.tick n)

variable {G : Db → Db → Prop} [Ticks G]

theorem guarantees_atomically
    (hf : ∀ o db n a db', f o (db.tick n) = .ok (a, db') → G db db') :
    (atomically f).run.Guarantees G := by
  refine Program.guarantees_statement.2 fun o db => ⟨?_, Program.guarantees_pure _⟩
  cases h : outcome f o db with
  | error => exact Ticks.tick db o.elapsed
  | ok r => exact hf o db o.elapsed r.1 r.2 (outcome_eq_ok h)

theorem guarantees_fetch : (fetch q).run.Guarantees G :=
  guarantees_atomically fun _ db n _ _ h => by
    cases h
    exact Ticks.tick db n

theorem guarantees_consult : consult.Guarantees G :=
  Program.guarantees_statement.2 fun o db => ⟨Ticks.tick db o.elapsed, Program.guarantees_pure _⟩

theorem guarantees_draw : draw.Guarantees G :=
  Program.guarantees_statement.2 fun o db => ⟨Ticks.tick db o.elapsed, Program.guarantees_pure _⟩

theorem guarantees_now : now.Guarantees G :=
  Program.guarantees_statement.2 fun o db => ⟨Ticks.tick db o.elapsed, Program.guarantees_pure _⟩

/-! ### Undisturbed statements -/

/-- The statement is carried out at once. -/
def Oracle.Prompt (o : Oracle) : Prop := o.fault = none ∧ o.elapsed = 0

variable {P : Oracle → Prop}

theorem Db.tick_zero : db.tick 0 = db := by
  simp [Db.tick]

theorem wpWith_atomically (hP : ∀ o, P o → o.Prompt) {f : Oracle → Db → Except String (α × Db)}
    {Q : Except String α → Db → Prop}
    (h : ∀ o, P o →
      match f o db with
      | .ok (a, db') => Q (.ok a) db'
      | .error e => Q (.error e) db) : (atomically f).run.wpWith P db Q := by
  refine Program.wpWith_statement fun o ho => Program.wpWith_pure ?_
  have hoe := h o ho
  obtain ⟨hfault, helapsed⟩ := hP o ho
  simp only [outcome, hfault, helapsed, Db.tick_zero]
  cases hf : f o db <;> simpa [hf, Except.map] using hoe

theorem wpWith_fetch (hP : ∀ o, P o → o.Prompt) {q : Db → α} {Q : Except String α → Db → Prop}
    (h : Q (.ok (q db)) db) : (fetch q).run.wpWith P db Q := wpWith_atomically hP fun _ _ => h

theorem wpWith_draw (hP : ∀ o, P o → o.Prompt) {Q : String → Db → Prop}
    (h : ∀ o, P o → Q o.uuid db) : draw.wpWith P db Q :=
  Program.wpWith_statement fun o ho =>
    Program.wpWith_pure (by simpa [(hP o ho).2, Db.tick_zero] using h o ho)

theorem wpWith_now (hP : ∀ o, P o → o.Prompt) {Q : Time → Db → Prop}
    (h : Q db.clock db) : now.wpWith P db Q :=
  Program.wpWith_statement fun o ho =>
    Program.wpWith_pure (by simpa [(hP o ho).2, Db.tick_zero] using h)

end Keylo
