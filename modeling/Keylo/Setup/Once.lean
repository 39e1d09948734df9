import Keylo.Setup.Initialize

/-!
# Setup happens once

A call that is answered with success has kept its lock from the second look at the setting to the
release, so that no two calls are. A call that fails may have seeded one or both of the default
clients. A call that loses the connection of its lock goes on without it, and may then mark the
setup as completed while another one seeds clients.

## Main definitions

* `Invariant` : what holds of all calls and of the lock.
* `KeepsConnections` : no call loses the connection on which it has taken the lock.

## Main results

* `setup_initialized_once` : at most one call succeeds, errors leave seeded clients at most, and as
  long as no call loses its lock nothing is seeded after the setup has been completed.
* `setup_calls_exclusive` : no two calls have the lock, except on a lost connection.
* `setup_not_atomic` : a call that fails has changed clients, and a call changes clients although
  the setup is completed.
-/

namespace Keylo.Setup

open Relational Transition Function

/-! ### Statements -/

section Statements

variable {κ : Type*} {crates : Crates} {db db' : Db} {r : Credentials} {reply : Reply κ}

theorem setupCompleted_congr (h : db'.systemSettings = db.systemSettings) :
    setupCompleted db' = setupCompleted db := by
  simp only [setupCompleted, getSetting, h]

theorem setupCompleted_markCompleted :
    setupCompleted (upsertSetting db "setup.completed" (.bool true)) = true := by
  unfold setupCompleted getSetting upsertSetting
  rw [Table.lookup_upsert (fun _ => rfl) (fun a b h => by simpa [clash] using h), if_pos rfl]
  cases db.systemSettings.lookup Setting.key "setup.completed" <;> rfl

theorem setupCompleted_upsert_of_ne {key : String} {value : SettingValue}
    (hkey : key ≠ "setup.completed") :
    setupCompleted (upsertSetting db key value) = setupCompleted db := by
  unfold setupCompleted getSetting upsertSetting
  rw [Table.lookup_upsert (fun _ => rfl) (fun a b h => by simpa [clash] using h), if_neg hkey]

/-- A change of at most one client, to what the seed writes. -/
inductive Seeds (crates : Crates) (r : Credentials) (db : Db) : Table Client → Prop
  | same : Seeds crates r db db.clients
  | web {salt hash} (h : crates.bcryptHash salt "web-secret" = some hash) :
      Seeds crates r db (seedWebClient db hash).clients
  | admin {salt hash} (h : crates.bcryptHash salt r.adminClientSecret = some hash) :
      Seeds crates r db (seedAdminClient db r.adminClientId hash).clients

/-- What a statement of the initialization does. -/
structure Executed (crates : Crates) (r : Credentials) (statement : Statement) (db db' : Db)
    (next : Option Statement) : Prop where
  seeds : Seeds crates r db db'.clients
  completed : setupCompleted db' = true → setupCompleted db = true ∨ statement = .markCompleted
  mono : setupCompleted db = true → setupCompleted db' = true
  marked : statement = .markCompleted → setupCompleted db' = true
  last : next = none ∨ next = some .markCompletedAt →
    statement = .markCompleted ∨ statement = .markCompletedAt
  late : statement = .markCompletedAt → next = none ∧ db'.clients = db.clients
  follows : statement = .markCompleted → next = some .markCompletedAt

theorem executed_of_execute {statement : Statement} {next : Option Statement}
    (h : execute crates r reply db statement = .ok (db', next)) :
    Executed crates r statement db db' next := by
  -- all statements but the last two leave the settings alone
  have hother : ∀ (statement : Statement) (db' : Db) (next : Statement),
      statement ≠ .markCompleted → statement ≠ .markCompletedAt →
      db'.systemSettings = db.systemSettings → Seeds crates r db db'.clients →
      next ≠ .markCompletedAt → Executed crates r statement db db' (some next) := by
    intro statement db' next hstatement hlate hsettings hseeds hnext
    have hcompleted := setupCompleted_congr hsettings
    refine ⟨hseeds, fun h => .inl (hcompleted ▸ h), fun h => hcompleted.trans h,
      fun h => absurd h hstatement, ?_, fun h => absurd h hlate, fun h => absurd h hstatement⟩
    rintro (h | h)
    · cases h
    · exact absurd (Option.some.inj h) hnext
  cases statement with
  | seedWeb =>
    simp only [execute] at h
    split at h
    · cases h
    rename_i hash hhash
    cases h
    exact hother _ _ _ nofun nofun rfl (.web hhash) nofun
  | seedAdmin =>
    simp only [execute] at h
    split at h
    · cases h
    rename_i hash hhash
    cases h
    exact hother _ _ _ nofun nofun rfl (.admin hhash) nofun
  | readWeb | readAdmin =>
    simp only [execute] at h
    split at h <;> cases h <;> exact hother _ _ _ nofun nofun rfl .same nofun
  | mirrorWeb | mirrorAdmin =>
    cases h
    exact hother _ _ _ nofun nofun rfl .same nofun
  | markCompleted =>
    cases h
    exact ⟨.same, fun _ => .inr rfl, fun _ => setupCompleted_markCompleted,
      fun _ => setupCompleted_markCompleted, fun _ => .inl rfl, nofun, fun _ => rfl⟩
  | markCompletedAt =>
    cases h
    have hcompleted : setupCompleted (upsertSetting db "setup.completed_at"
        (.string reply.completedAt)) = setupCompleted db :=
      setupCompleted_upsert_of_ne (by decide)
    exact ⟨.same, fun h => .inl (hcompleted ▸ h), fun h => hcompleted.trans h, nofun,
      fun _ => .inr rfl, fun _ => ⟨rfl, rfl⟩, nofun⟩

end Statements

/-! ### Steps of calls -/

/-- The connection of a call that has found, under its lock, that the setup is not completed. -/
def Phase.seeding {κ : Type*} : Phase κ → Option κ
  | .initializing k _ _ | .releasing k _ .initialized => some k
  | _ => none

/-- The call has marked the setup as completed. -/
def Phase.hasMarked {κ : Type*} : Phase κ → Bool
  | .initializing _ _ .markCompletedAt | .releasing _ _ .initialized => true
  | _ => false

/-- The call may have changed clients. -/
def Phase.mayHaveSeeded {κ : Type*} : Phase κ → Bool
  | .idle | .answered _ | .initializing .. | .releasing _ _ .initialized
  | .releasing _ _ (.failed (.databaseError _)) => true
  | _ => false

section Steps

variable {κ ι : Type*} {crates : Crates} {config : SetupConfig} {i : ι} {s s' : Store κ ι}
  {phase phase' : Phase κ} {reply : Reply κ} {k : κ} {r : Credentials}
  {payload : SetupInitializeRequest} {e : AuthError} {a : Input κ}

/-- What a call knows about its connection. -/
structure Owns (s : Store κ ι) (i : ι) (phase : Phase κ) : Prop where
  taken : ∀ k, phase.connection = some k → s.taken k = some i
  held : ∀ k, phase.connection = some k → s.lost k = false → s.lock.HeldBy k
  marked : phase.hasMarked = true → setupCompleted s.db = true

/-- The step leaves the connections and locks of all other calls alone. -/
structure Keeps (i : ι) (s s' : Store κ ι) : Prop where
  lost : s'.lost = s.lost
  taken : ∀ k j, j ≠ i → s.taken k = some j → s'.taken k = some j
  held : ∀ k j, j ≠ i → s.taken k = some j → s.lock.HeldBy k → s'.lock.HeldBy k
  completed : setupCompleted s.db = true → setupCompleted s'.db = true

theorem Keeps.refl : Keeps i s s := ⟨rfl, fun _ _ _ h => h, fun _ _ _ _ h => h, fun h => h⟩

theorem connection_of_isReady (h : phase.isReady = true) : phase.connection = none := by
  cases phase with
  | idle | answered => rfl
  | _ => cases h

theorem Owns.mono {db : Db} (h : Owns s i phase)
    (hconnection : phase'.connection = phase.connection)
    (hmarked : phase'.hasMarked = true → setupCompleted db = true) :
    Owns { s with db := db } i phase' :=
  ⟨fun k hk => h.taken k (hconnection ▸ hk), fun k hk => h.held k (hconnection ▸ hk), hmarked⟩

theorem connection_of_seeding (h : phase.seeding = some k) : phase.connection = some k := by
  cases phase with
  | initializing => exact h
  | releasing k' r ending =>
    cases ending with
    | initialized => exact h
    | _ => cases h
  | _ => cases h

variable {ending : Ending} {released : Except String Unit}

theorem conclude_eq_ok {answer : SetupInitializeResponse}
    (h : conclude config r released ending = .ok answer) :
    ending = .initialized ∧ released = .ok () := by
  cases ending with
  | failed => cases h
  | refused => cases released <;> cases h
  | initialized =>
    cases released with
    | ok => exact ⟨rfl, rfl⟩
    | error => cases h

theorem conclude_eq_error (h : conclude config r released ending = .error e)
    (hseeded : (Phase.releasing k r ending).mayHaveSeeded = true) :
    ∃ message, e = .databaseError message := by
  cases ending with
  | failed =>
    cases h
    cases e with
    | databaseError message => exact ⟨message, rfl⟩
    | _ => cases hseeded
  | refused => cases hseeded
  | initialized =>
    cases released with
    | ok => cases h
    | error message =>
      cases h
      exact ⟨message, rfl⟩

/-- The call is cancelled while it has the lock, the answer to its lock statement is lost, or its
unlock statement is not carried out although its session is there. -/
def strands (s : Store κ ι) : Input κ → Phase κ → Bool
  | .cancel, phase => phase.connection.any fun k => !s.lost k
  | .proceed reply, .locking _ => reply.verdict == .lost
  | .proceed reply, .releasing k _ _ => reply.verdict == .failed && !s.lost k
  | _, _ => false

/-- What a step does to the lock: nothing, with the connection of the call kept unless it is lost;
or the call takes it on a connection of the pool, or gives it back. -/
inductive LockStep [DecidableEq κ] (s s' : Store κ ι) (phase phase' : Phase κ) : Prop
  | same (hlock : s'.lock = s.lock)
      (hkeep : ∀ k, phase.connection = some k → s.lost k = false → phase'.connection = some k)
  | taken {k : κ} (htaken : s.taken k = none) (hlost : s.lost k = false)
      (hk : phase'.connection = some k) (htry : AdvisoryLock.tryLock k s.lock = some s'.lock)
  | released {k : κ} (hk : phase.connection = some k)
      (hunlock : s'.lock = AdvisoryLock.unlock k s.lock)

variable [DecidableEq κ]

/-- What a step of a call does. -/
structure StepFacts (crates : Crates) (i : ι) (a : Input κ) (s s' : Store κ ι)
    (phase phase' : Phase κ) : Prop where
  keeps : Keeps i s s'
  owns : Owns s' i phase'
  /-- The connection is an old one, or has not been lost. -/
  connects : ∀ k, phase'.connection = some k → phase.connection = some k ∨ s.lost k = false
  /-- Only a call that has not found the setup completed completes it. -/
  completes : setupCompleted s'.db = true → setupCompleted s.db = true ∨
    phase.seeding.isSome = true ∧ phase.hasMarked = false ∧
      (phase'.seeding.isSome = true → phase'.hasMarked = true)
  /-- Only a call that has not marked the setup seeds clients. -/
  seeds : s'.db.clients = s.db.clients ∨
    ∃ k r statement, phase = .initializing k r statement ∧ phase.hasMarked = false ∧
      Seeds crates r s.db s'.db.clients
  /-- A call seeds clients only after it has found, under its lock, that nothing is completed. -/
  looks : ∀ k, phase'.seeding = some k → phase.seeding = some k ∨
    phase.connection = some k ∧ setupCompleted s.db = false
  early : phase'.seeding.isSome = true → phase'.hasMarked = false → phase.hasMarked = false
  succeeds : ∀ answer, phase' = .answered (.ok answer) →
    ∃ k, phase.seeding = some k ∧ s.lost k = false ∧ phase.hasMarked = true
  /-- An error of a call that may have seeded clients is a database error. -/
  fails : phase.isReady = false → phase.mayHaveSeeded = true → phase'.mayHaveSeeded = true
  errs : ∀ e, phase' = .answered (.error e) → phase.isReady = false → phase.mayHaveSeeded = true →
    ∃ message, e = .databaseError message
  locks : strands s a phase = false → LockStep s s' phase phase'

/-- What a step of a call to another store and phase does. -/
abbrev StepTo (crates : Crates) (i : ι) (a : Input κ) (s : Store κ ι) (phase : Phase κ)
    (r : Store κ ι × Phase κ) : Prop := StepFacts crates i a s r.1 phase r.2

theorem StepTo.of_some {r : Store κ ι × Phase κ} (h : some r = some (s', phase'))
    (hr : StepTo crates i a s phase r) : StepFacts crates i a s s' phase phase' := by
  obtain rfl := Option.some.inj h
  exact hr

/-- A step that leaves the database alone, of a call that does not go on to seed clients. An error
is answered only if the call has not seeded any. -/
theorem stepFacts_quiet (hkeeps : Keeps i s s') (hdb : s'.db = s.db)
    (howns : Owns s' i phase')
    (hconnects : ∀ k, phase'.connection = some k → phase.connection = some k ∨ s.lost k = false)
    (hseeding : phase'.seeding = none)
    (hanswered : ∀ answer, phase' ≠ .answered (.ok answer))
    (hfails : phase.isReady = true ∨ phase.mayHaveSeeded = false ∨
      phase'.mayHaveSeeded = true ∧ ∀ e, phase' ≠ .answered (.error e))
    (hlocks : strands s a phase = false → LockStep s s' phase phase') :
    StepFacts crates i a s s' phase phase' where
  keeps := hkeeps
  owns := howns
  connects := hconnects
  completes h := .inl (hdb ▸ h)
  seeds := .inl (by rw [hdb])
  looks k h := by rw [hseeding] at h; cases h
  early h := by rw [hseeding] at h; cases h
  succeeds answer h := absurd h (hanswered answer)
  fails hready hseeded := by
    simp only [hready, hseeded, Bool.false_eq_true, reduceCtorEq, false_or] at hfails
    exact hfails.1
  errs e he hready hseeded := by
    simp only [hready, hseeded, Bool.false_eq_true, reduceCtorEq, false_or] at hfails
    exact absurd he (hfails.2 e)
  locks := hlocks

theorem stepFacts_reject (hconnection : phase.connection = none)
    (h : phase.isReady = true ∨ phase.mayHaveSeeded = false) :
    StepTo crates i a s phase (reject s e) :=
  stepFacts_quiet .refl rfl ⟨nofun, nofun, nofun⟩ nofun rfl nofun (h.imp_right .inl) fun _ =>
    .same rfl (by simp [hconnection])

theorem stepFacts_stay (hbefore : phase.connection = none) (hconnection : phase'.connection = none)
    (hanswered : ∀ result, phase' ≠ .answered result)
    (hseeded : phase.isReady = true ∨ phase.mayHaveSeeded = false) :
    StepFacts crates i a s s phase phase' := by
  obtain ⟨hseeding, hmarked⟩ : phase'.seeding = none ∧ phase'.hasMarked = false := by
    cases phase' with
    | rechecking | initializing | releasing => cases hconnection
    | _ => exact ⟨rfl, rfl⟩
  refine stepFacts_quiet .refl rfl ⟨?_, ?_, ?_⟩ ?_ hseeding (fun _ => hanswered _)
    (hseeded.imp_right .inl) fun _ => .same rfl ?_
  all_goals simp [hbefore, hconnection, hmarked]

theorem stepFacts_start (hready : phase.isReady = true) :
    StepTo crates i a s phase (start config s payload) := by
  have hconnection := connection_of_isReady hready
  unfold start
  split_ifs
  · exact stepFacts_stay hconnection rfl nofun (.inl hready)
  · exact stepFacts_reject hconnection (.inl hready)

theorem stepFacts_executed {statement : Statement} {db : Db} {next : Option Statement}
    (h : Owns s i (.initializing k r statement))
    (hexecuted : Executed crates r statement s.db db next)
    (hconnection : phase'.connection = some k) (hseeded : phase'.mayHaveSeeded = true)
    (hanswered : ∀ result, phase' ≠ .answered result)
    (hmarked : phase'.hasMarked = true → next = none ∨ next = some .markCompletedAt)
    (hearly : phase'.seeding.isSome = true → phase'.hasMarked = false →
      next ≠ none ∧ next ≠ some .markCompletedAt) :
    StepFacts crates i a s { s with db := db } (.initializing k r statement) phase' := by
  have hlate : ∀ hmarked : (Phase.initializing k r statement).hasMarked = true,
      statement = .markCompletedAt := by
    intro hmarked
    cases statement with
    | markCompletedAt => rfl
    | _ => cases hmarked
  refine ⟨⟨rfl, fun _ _ _ h => h, fun _ _ _ _ h => h, hexecuted.mono⟩,
    h.mono hconnection fun hphase => ?_, fun k' hk' => .inl (hconnection.symm.trans hk'),
    fun hcompleted => ?_, ?_, fun k' hk' => .inl (hconnection.symm.trans
      (connection_of_seeding hk')), fun hseeding hphase => ?_,
    fun _ h => absurd h (hanswered _), fun _ _ => hseeded, fun _ h => absurd h (hanswered _),
    fun _ => .same rfl fun _ hk _ => hconnection.trans hk⟩
  · obtain rfl | rfl := hexecuted.last (hmarked hphase)
    · exact hexecuted.marked rfl
    · exact hexecuted.mono (h.marked rfl)
  · refine (hexecuted.completed hcompleted).imp_right ?_
    rintro rfl
    refine ⟨rfl, rfl, fun hseeding => Bool.not_eq_false _ ▸ fun hphase => ?_⟩
    exact (hearly hseeding hphase).2 (hexecuted.follows rfl)
  · obtain hphase | hphase :=
      Bool.eq_false_or_eq_true (Phase.initializing k r statement).hasMarked
    · exact .inl (hexecuted.late (hlate hphase)).2
    · exact .inr ⟨k, r, statement, rfl, hphase, hexecuted.seeds⟩
  · refine Bool.eq_false_iff.2 fun hmarked => ?_
    exact (hearly hseeding hphase).1 (hexecuted.late (hlate hmarked)).1

theorem stepFacts_check :
    StepTo crates i a s (.checking payload) (check config s payload reply) := by
  unfold check
  split_ifs
  · exact stepFacts_reject rfl (.inr rfl)
  split
  · exact stepFacts_reject rfl (.inr rfl)
  · exact stepFacts_stay rfl rfl nofun (.inr rfl)

theorem stepFacts_connect : StepTo crates i a s (.connecting r) (connect config s r reply) := by
  unfold connect
  split_ifs
  · exact stepFacts_stay rfl rfl nofun (.inr rfl)
  · exact stepFacts_reject rfl (.inr rfl)
  · exact stepFacts_stay rfl rfl nofun (.inr rfl)
  · exact stepFacts_reject rfl (.inr rfl)

theorem stepFacts_migrate : StepTo crates i a s (.migrating r) (migrate config s r reply) := by
  unfold migrate
  split_ifs
  · exact stepFacts_reject rfl (.inr rfl)
  · exact stepFacts_reject rfl (.inr rfl)
  · exact stepFacts_stay rfl rfl nofun (.inr rfl)

theorem stepFacts_recheck (h : Owns s i (.rechecking k r)) :
    StepTo crates i a s (.rechecking k r) (recheck s k r reply) := by
  unfold recheck
  split_ifs with hverdict hcompleted
  · exact stepFacts_quiet .refl rfl ⟨h.taken, h.held, nofun⟩ (fun _ => .inl) rfl nofun
      (.inr (.inl rfl)) fun _ => .same rfl fun _ hk _ => hk
  · exact stepFacts_quiet .refl rfl ⟨h.taken, h.held, nofun⟩ (fun _ => .inl) rfl nofun
      (.inr (.inl rfl)) fun _ => .same rfl fun _ hk _ => hk
  exact {
    keeps := .refl
    owns := ⟨h.taken, h.held, nofun⟩
    connects := fun _ => .inl
    completes := .inl
    seeds := .inl rfl
    looks := fun _ hk => .inr ⟨hk, Bool.not_eq_true _ ▸ hcompleted⟩
    early := fun _ _ => rfl
    succeeds := nofun
    fails := nofun
    errs := nofun
    locks := fun _ => .same rfl fun _ hk _ => hk }

theorem stepFacts_runStatement {statement : Statement}
    (h : Owns s i (.initializing k r statement)) :
    StepTo crates i a s (.initializing k r statement)
      (runStatement crates s k r statement reply) := by
  have hfailed : ∀ message, StepFacts crates i a s s (.initializing k r statement)
      (.releasing k r (.failed (.databaseError message))) := fun message =>
    stepFacts_quiet .refl rfl ⟨h.taken, h.held, nofun⟩ (fun _ => .inl) rfl nofun
      (.inr (.inr ⟨rfl, nofun⟩)) fun _ => .same rfl fun _ hk _ => hk
  unfold runStatement
  split
  · exact hfailed _
  · exact hfailed _
  · rename_i hexecute _
    exact stepFacts_executed h (executed_of_execute hexecute) rfl rfl nofun nofun nofun
  · rename_i db next hexecute _
    refine stepFacts_executed h (executed_of_execute hexecute) rfl rfl nofun (fun hmarked => ?_)
      fun _ hunmarked => ⟨nofun, ?_⟩
    · cases next with
      | markCompletedAt => exact .inr rfl
      | _ => cases hmarked
    · rintro ⟨⟩
      cases hunmarked
  · rename_i db hexecute _
    exact stepFacts_executed h (executed_of_execute hexecute) rfl rfl nofun (fun _ => .inl rfl)
      nofun

theorem stepFacts_acquire (h : acquire i s r reply = some (s', phase')) :
    StepFacts crates i (.proceed reply) s s' (.locking r) phase' := by
  unfold acquire at h
  dsimp only at h
  split_ifs at h with hused
  obtain ⟨hlost, htaken⟩ : s.lost reply.connection = false ∧ s.taken reply.connection = none := by
    simpa using hused
  have hfree : ∀ k j, s.taken k = some j → k ≠ reply.connection := by
    rintro k j hk rfl
    rw [htaken] at hk
    cases hk
  split at h
  · cases h
    exact stepFacts_reject rfl (.inr rfl)
  · rename_i hverdict
    cases h
    refine stepFacts_quiet ⟨rfl, fun _ _ _ h => h, fun k j hj hk hold => ?_, fun h => h⟩ rfl
      ⟨nofun, nofun, nofun⟩ nofun rfl nofun (.inr (.inl rfl)) (by simp [strands, hverdict])
    change ((AdvisoryLock.tryLock reply.connection s.lock).getD s.lock).HeldBy k
    cases hlock : AdvisoryLock.tryLock reply.connection s.lock with
    | none => exact hold
    | some => exact absurd ((AdvisoryLock.heldBy_tryLock hlock).2 k hold) (hfree k j hk)
  · cases h
    exact stepFacts_reject rfl (.inr rfl)
  · rename_i lock hlock
    cases h
    obtain ⟨hheld, hunique⟩ := AdvisoryLock.heldBy_tryLock hlock
    refine stepFacts_quiet ⟨rfl, fun k j hj hk => ?_, fun k j hj hk hold => ?_, fun h => h⟩ rfl
      ⟨?_, ?_, nofun⟩ ?_ rfl nofun (.inr (.inl rfl)) fun _ => .taken htaken hlost rfl hlock
    · simpa [hfree k j hk] using hk
    · exact absurd (hunique k hold) (hfree k j hk)
    · rintro _ ⟨⟩
      simp
    · rintro _ ⟨⟩ _
      exact hheld
    · rintro _ ⟨⟩
      exact .inr hlost

/-- Giving a connection back leaves those of all other calls alone. -/
theorem Keeps.giveBack (hk : s.taken k = some i) {lock : AdvisoryLock κ}
    (hlock : ∀ k', k' ≠ k → s.lock.HeldBy k' → lock.HeldBy k') :
    Keeps i s { Setup.giveBack s k with lock := lock } := by
  have hne : ∀ k' j, j ≠ i → s.taken k' = some j → k' ≠ k := by
    rintro k' j hj hk' rfl
    exact hj (Option.some.inj (hk'.symm.trans hk))
  refine ⟨rfl, fun k' j hj hk' => ?_, fun k' j hj hk' => hlock k' (hne k' j hj hk'), fun h => h⟩
  simpa [Setup.giveBack, hne k' j hj hk'] using hk'

theorem stepFacts_release (h : Owns s i (.releasing k r ending)) :
    StepTo crates i (.proceed reply) s (.releasing k r ending)
      (release config s k r ending reply) := by
  have hk := h.taken k rfl
  -- a call that is answered has no connection any more
  have hanswered : ∀ (lock : AdvisoryLock κ) (released : Except String Unit),
      (∀ k', k' ≠ k → s.lock.HeldBy k' → lock.HeldBy k') →
      (released = .ok () → s.lost k = false) →
      (strands s (.proceed reply) (.releasing k r ending) = false →
        lock = AdvisoryLock.unlock k s.lock ∨ lock = s.lock ∧ s.lost k = true) →
      StepFacts crates i (.proceed reply) s { giveBack s k with lock := lock }
        (.releasing k r ending) (.answered (conclude config r released ending)) := by
    intro lock released hlock hlost hunlock
    exact {
      keeps := .giveBack hk hlock
      owns := ⟨nofun, nofun, nofun⟩
      connects := nofun
      completes := .inl
      seeds := .inl rfl
      looks := nofun
      early := nofun
      succeeds := fun answer hanswer => by
        obtain ⟨rfl, hreleased⟩ := conclude_eq_ok (Phase.answered.inj hanswer)
        exact ⟨k, rfl, hlost hreleased, rfl⟩
      fails := fun _ _ => rfl
      errs := fun e he _ hseeded => conclude_eq_error (Phase.answered.inj he) hseeded
      locks := fun hstrands => by
        obtain hunlock | ⟨hsame, hgone⟩ := hunlock hstrands
        · exact .released rfl hunlock
        · refine .same hsame ?_
          rintro _ ⟨⟩ hlost
          rw [hgone] at hlost
          cases hlost }
  unfold release
  split
  · rename_i hfailed
    refine hanswered s.lock _ (fun _ _ h => h) nofun fun hstrands => .inr ⟨rfl, ?_⟩
    cases hlost : s.lost k with
    | true => rfl
    | false => simp_all [strands]
  · refine hanswered _ _ (fun k' hne hheld => hheld.unlock_of_ne hne) (fun _ => ?_)
      fun _ => .inl rfl
    simp_all

theorem stepFacts_cancel (h : Owns s i phase) :
    StepFacts crates i .cancel s (phase.connection.elim s (giveBack s)) phase .idle := by
  cases hconnection : phase.connection with
  | none =>
    exact stepFacts_quiet .refl rfl ⟨nofun, nofun, nofun⟩ nofun rfl nofun (.inr (.inr ⟨rfl, nofun⟩))
      fun _ => .same rfl (by simp [hconnection])
  | some k =>
    refine stepFacts_quiet (.giveBack (h.taken k hconnection) fun _ _ h => h) rfl
      ⟨nofun, nofun, nofun⟩ nofun rfl nofun (.inr (.inr ⟨rfl, nofun⟩)) fun hstrands => .same rfl ?_
    simp_all [strands]

theorem stepFacts_of_next (h : Owns s i phase)
    (hnext : next config crates i a s phase = some (s', phase')) :
    StepFacts crates i a s s' phase phase' := by
  cases a with
  | call =>
    simp only [next] at hnext
    split_ifs at hnext with hready
    exact StepTo.of_some hnext (stepFacts_start hready)
  | cancel =>
    simp only [next] at hnext
    split_ifs at hnext
    exact StepTo.of_some hnext (stepFacts_cancel h)
  | proceed =>
    cases phase with
    | idle | answered => cases hnext
    | locking => exact stepFacts_acquire hnext
    | checking => exact StepTo.of_some hnext stepFacts_check
    | connecting => exact StepTo.of_some hnext stepFacts_connect
    | migrating => exact StepTo.of_some hnext stepFacts_migrate
    | rechecking => exact StepTo.of_some hnext (stepFacts_recheck h)
    | initializing => exact StepTo.of_some hnext (stepFacts_runStatement h)
    | releasing => exact StepTo.of_some hnext (stepFacts_release h)

end Steps

/-! ### Runs -/

section Runs

variable {κ ι : Type*} {crates : Crates} {config : SetupConfig}

/-- What holds of all calls, of the lock and of the answers. -/
structure Invariant (c : Config ι (Store κ ι) (Phase κ) × History ι) : Prop where
  owns : ∀ i, Owns c.1.shared i (c.1.request i)
  /-- The setup of a call that has succeeded is completed. -/
  completed : 0 < c.2.successes → setupCompleted c.1.shared.db = true
  /-- No call has succeeded while another one seeds clients under its lock. -/
  exclusive : ∀ i k, (c.1.request i).seeding = some k → c.1.shared.lost k = false →
    c.2.successes = 0
  once : c.2.successes ≤ 1
  changed : ∀ i, c.2.changed i = true → (c.1.request i).mayHaveSeeded = true
  failures : ∀ failure ∈ c.2.failures, failure.2 = true →
    ∃ message, failure.1 = .databaseError message

/-- No call loses the connection on which it has taken the lock. -/
def KeepsConnections (c : Config ι (Store κ ι) (Phase κ)) (l : Action ι (Input κ) (Event κ))
    (_ : Config ι (Store κ ι) (Phase κ)) : Prop :=
  ∀ k, l = .environment (.disconnect k) → c.shared.taken k = none

/-- A step of a call changes at most one client, to what the seed writes. -/
def SeedsAtMost (crates : Crates) (c : Config ι (Store κ ι) (Phase κ))
    (l : Action ι (Input κ) (Event κ)) (c' : Config ι (Store κ ι) (Phase κ)) : Prop :=
  ∀ i a, l = .request i a → c'.shared.db.clients = c.shared.db.clients ∨
    ∃ k r statement, c.request i = .initializing k r statement ∧
      Seeds crates r c.shared.db c'.shared.db.clients

/-- No call changes clients once the setup is completed. -/
def SeedsOnlyBefore (c : Config ι (Store κ ι) (Phase κ)) (l : Action ι (Input κ) (Event κ))
    (c' : Config ι (Store κ ι) (Phase κ)) : Prop :=
  ∀ i a, l = .request i a → setupCompleted c.shared.db = true →
    c'.shared.db.clients = c.shared.db.clients

/-- All connections of calls are there, and a call that has still to mark the setup is the only
one that can. -/
structure Connected (c : Config ι (Store κ ι) (Phase κ)) : Prop where
  owns : ∀ i, Owns c.shared i (c.request i)
  connected : ∀ i k, (c.request i).connection = some k → c.shared.lost k = false
  before : ∀ i, (c.request i).seeding.isSome = true → (c.request i).hasMarked = false →
    setupCompleted c.shared.db = false

variable {c : Config ι (Store κ ι) (Phase κ)} {i j : ι} {s s' : Store κ ι} {phase phase' : Phase κ}
  {history : History ι}

/-- No two calls have the lock. -/
theorem eq_of_connected {k k' : κ} (hi : Owns c.shared i (c.request i))
    (hj : Owns c.shared j (c.request j)) (hk : (c.request i).connection = some k)
    (hk' : (c.request j).connection = some k') (hlost : c.shared.lost k = false)
    (hlost' : c.shared.lost k' = false) : i = j := by
  obtain rfl : k = k' := (hi.held k hk hlost).unique (hj.held k' hk' hlost')
  exact Option.some.inj ((hi.taken k hk).symm.trans (hj.taken k hk'))

theorem Owns.keeps (h : Owns s j phase) (hkeeps : Keeps i s s') (hj : j ≠ i) : Owns s' j phase where
  taken k hk := hkeeps.taken k j hj (h.taken k hk)
  held k hk hlost := by
    rw [hkeeps.lost] at hlost
    exact hkeeps.held k j hj (h.taken k hk) (h.held k hk hlost)
  marked hmarked := hkeeps.completed (h.marked hmarked)

theorem Owns.surroundings [DecidableEq κ] {event : Event κ} (h : Owns s i phase)
    (henv : Setup.surroundings event s = some s') : Owns s' i phase := by
  cases event with
  | disconnect k =>
    cases henv
    refine ⟨h.taken, fun k' hk' hlost => ?_, h.marked⟩
    have hne : k' ≠ k := by
      rintro rfl
      simp at hlost
    have hlost' : s.lost k' = false := by simpa [hne] using hlost
    exact (h.held k' hk' hlost').disconnect_of_ne hne
  | other =>
    cases henv
    exact ⟨h.taken, h.held, fun hmarked => (setupCompleted_congr rfl).trans (h.marked hmarked)⟩

theorem isReady_of_next [DecidableEq κ] {a : Input κ} (ha : ∀ payload, a ≠ .call payload)
    (h : next config crates i a s phase = some (s', phase')) : phase.isReady = false := by
  cases a with
  | call payload => exact absurd rfl (ha payload)
  | proceed =>
    cases phase with
    | idle | answered => cases h
    | _ => rfl
  | cancel =>
    simp only [next] at h
    split_ifs at h with hready
    exact Bool.not_eq_true _ ▸ hready

theorem successes_answer (history : History ι) (phase : Phase κ) :
    (∃ answer, phase = .answered (.ok answer)) ∧
        (history.answer i phase).successes = history.successes + 1 ∨
      (∀ answer, phase ≠ .answered (.ok answer)) ∧
        (history.answer i phase).successes = history.successes := by
  cases phase with
  | answered result =>
    cases result with
    | ok answer => exact .inl ⟨⟨answer, rfl⟩, rfl⟩
    | error => exact .inr ⟨nofun, rfl⟩
  | _ => exact .inr ⟨nofun, rfl⟩

theorem changed_answer (history : History ι) (phase : Phase κ) :
    (history.answer i phase).changed = history.changed := by
  cases phase with
  | answered result => cases result <;> rfl
  | _ => rfl

theorem mem_failures_answer {failure : AuthError × Bool}
    (h : failure ∈ (history.answer i phase).failures) :
    failure ∈ history.failures ∨
      ∃ e, phase = .answered (.error e) ∧ failure = (e, history.changed i) := by
  cases phase with
  | answered result =>
    cases result with
    | ok => exact .inl h
    | error e =>
      obtain rfl | h := List.mem_cons.1 h
      · exact .inr ⟨e, rfl, rfl⟩
      · exact .inl h
  | _ => exact .inl h

section Update

variable [DecidableEq κ] [DecidableEq ι] {a : Input κ}

omit [DecidableEq κ] in
theorem owns_update (h : ∀ j, Owns c.shared j (c.request j)) (hkeeps : Keeps i c.shared s')
    (hown : Owns s' i phase') : ∀ j, Owns s' j (update c.request i phase' j) :=
  (forall_update_iff _ _).2 ⟨hown, fun j hj => (h j).keeps hkeeps hj⟩

theorem Connected.request (h : Connected c)
    (hfacts : StepFacts crates i a c.shared s' (c.request i) phase') :
    Connected ⟨s', update c.request i phase'⟩ := by
  have hlost := hfacts.keeps.lost
  have hconnection : ∀ {j}, (c.request j).seeding.isSome = true →
      ∃ k, (c.request j).connection = some k ∧ c.shared.lost k = false := by
    intro j hseeding
    obtain ⟨k, hk⟩ := Option.isSome_iff_exists.1 hseeding
    have hk := connection_of_seeding hk
    exact ⟨k, hk, h.connected j k hk⟩
  refine ⟨owns_update h.owns hfacts.keeps hfacts.owns,
    (forall_update_iff _ fun _ (t : Phase κ) =>
      ∀ k, t.connection = some k → s'.lost k = false).2 ⟨?_, ?_⟩, fun j hseeding hmarked => ?_⟩
  · exact fun k hk => hlost ▸ (hfacts.connects k hk).elim (h.connected i k) id
  · exact fun j _ k hk => hlost ▸ h.connected j k hk
  · refine Bool.eq_false_iff.2 fun hcompleted => ?_
    by_cases hj : j = i
    · subst hj
      simp only [update_self] at hseeding hmarked
      obtain ⟨k, hk⟩ := Option.isSome_iff_exists.1 hseeding
      have hbefore : setupCompleted c.shared.db = false := by
        obtain hold | ⟨-, hbefore⟩ := hfacts.looks k hk
        · exact h.before j (Option.isSome_iff_exists.2 ⟨k, hold⟩) (hfacts.early hseeding hmarked)
        · exact hbefore
      obtain hold | ⟨-, -, hlate⟩ := hfacts.completes hcompleted
      · rw [hbefore] at hold
        cases hold
      · rw [hlate hseeding] at hmarked
        cases hmarked
    · simp only [update_of_ne hj] at hseeding hmarked
      have hbefore := h.before j hseeding hmarked
      obtain hold | ⟨hown, -, -⟩ := hfacts.completes hcompleted
      · rw [hbefore] at hold
        cases hold
      obtain ⟨k, hk, hkept⟩ := hconnection hseeding
      obtain ⟨k', hk', hkept'⟩ := hconnection hown
      exact hj (eq_of_connected (h.owns j) (h.owns i) hk hk' hkept hkept')

variable {changed : Bool} (h : Invariant (c, history))
  (hfacts : StepFacts crates i a c.shared s' (c.request i) phase')
  (hready : changed = true → (c.request i).isReady = false)
  (hchanged : changed = true → history.changed i = true ∨
    s'.db.clients ≠ c.shared.db.clients)

include h hfacts hready hchanged

omit [DecidableEq ι] in
/-- The call whose step has changed clients, now or before. -/
theorem mayHaveSeeded_of_changed (htrue : changed = true) :
    (c.request i).isReady = false ∧ (c.request i).mayHaveSeeded = true := by
  refine ⟨hready htrue, (hchanged htrue).elim (h.changed i) fun hne => ?_⟩
  obtain hsame | ⟨k, r, statement, hphase, -⟩ := hfacts.seeds
  · exact absurd hsame hne
  · rw [hphase]
    rfl

theorem Invariant.request :
    Invariant (⟨s', update c.request i phase'⟩,
      { history with changed := update history.changed i changed }.answer i phase') := by
  have hseeded := mayHaveSeeded_of_changed h hfacts hready hchanged
  have hlost := hfacts.keeps.lost
  have hsuccess := successes_answer (i := i)
    { history with changed := update history.changed i changed } phase'
  -- at the time of a success nobody else has the lock
  have hwins : ∀ answer, phase' = .answered (.ok answer) → history.successes = 0 ∧
      setupCompleted c.shared.db = true ∧ ∀ j k, j ≠ i → (c.request j).seeding = some k →
        c.shared.lost k = true := by
    intro answer hanswer
    obtain ⟨k, hk, hkept, hmarked⟩ := hfacts.succeeds answer hanswer
    refine ⟨h.exclusive i k hk hkept, (h.owns i).marked hmarked, fun j k' hj hk' => ?_⟩
    refine Bool.not_eq_false _ ▸ fun hkept' => hj ?_
    exact eq_of_connected (h.owns j) (h.owns i) (connection_of_seeding hk')
      (connection_of_seeding hk) hkept' hkept
  refine ⟨owns_update h.owns hfacts.keeps hfacts.owns, fun hpos => ?_, fun j k hk hkept => ?_, ?_,
    fun j hj => ?_, fun failure hfailure htrue => ?_⟩
  · obtain ⟨⟨answer, hanswer⟩, -⟩ | ⟨-, hsame⟩ := hsuccess
    · exact hfacts.keeps.completed (hwins answer hanswer).2.1
    · exact hfacts.keeps.completed (h.completed (hsame ▸ hpos))
  · dsimp only at hk hkept ⊢
    rw [hlost] at hkept
    by_cases hj : j = i
    · subst hj
      rw [update_self] at hk
      obtain ⟨⟨answer, rfl⟩, -⟩ | ⟨-, hsame⟩ := hsuccess
      · cases hk
      rw [hsame]
      obtain hold | ⟨-, hbefore⟩ := hfacts.looks k hk
      · exact h.exclusive j k hold hkept
      refine Nat.eq_zero_of_not_pos fun hpos => ?_
      rw [h.completed hpos] at hbefore
      cases hbefore
    · rw [update_of_ne hj] at hk
      obtain ⟨⟨answer, hanswer⟩, -⟩ | ⟨-, hsame⟩ := hsuccess
      · rw [(hwins answer hanswer).2.2 j k hj hk] at hkept
        cases hkept
      · rw [hsame]
        exact h.exclusive j k hk hkept
  · obtain ⟨⟨answer, hanswer⟩, hmore⟩ | ⟨-, hsame⟩ := hsuccess
    · rw [hmore, (hwins answer hanswer).1]
    · rw [hsame]
      exact h.once
  · rw [changed_answer] at hj
    dsimp only at hj ⊢
    by_cases hji : j = i
    · subst hji
      rw [update_self] at hj ⊢
      obtain ⟨hrunning, hmay⟩ := hseeded hj
      exact hfacts.fails hrunning hmay
    · rw [update_of_ne hji] at hj ⊢
      exact h.changed j hj
  · obtain hold | ⟨e, hanswer, rfl⟩ := mem_failures_answer hfailure
    · exact h.failures failure hold htrue
    · simp only [update_self] at htrue
      obtain ⟨hrunning, hmay⟩ := hseeded htrue
      exact hfacts.errs e hanswer hrunning hmay

end Update

variable [DecidableEq κ] [DecidableEq ι] {c' : Config ι (Store κ ι) (Phase κ)}
  {l : Action ι (Input κ) (Event κ)}

theorem Connected.step (h : Connected c) (hkeeps : KeepsConnections c l c')
    (hstep : (protocol config κ ι crates).system.step c l = some c') :
    Connected c' ∧ SeedsOnlyBefore c l c' := by
  obtain ⟨event, s', rfl, henv, rfl⟩ | ⟨i, a, s', phase', rfl, hnext, rfl⟩ :=
    Protocol.step_cases hstep
  · refine ⟨⟨fun j => (h.owns j).surroundings henv, fun j k hk => ?_, fun j hseeding hmarked => ?_⟩,
      nofun⟩
    · cases event with
      | disconnect k' =>
        cases henv
        have hne : k ≠ k' := by
          rintro rfl
          have htaken := (h.owns j).taken k hk
          rw [hkeeps k rfl] at htaken
          cases htaken
        simpa [hne] using h.connected j k hk
      | other =>
        cases henv
        exact h.connected j k hk
    · have hbefore := h.before j hseeding hmarked
      cases event with
      | disconnect =>
        cases henv
        exact hbefore
      | other =>
        cases henv
        exact (setupCompleted_congr rfl).trans hbefore
  have hfacts := stepFacts_of_next (h.owns i) hnext
  refine ⟨h.request hfacts, ?_⟩
  rintro j b ⟨⟩ hcompleted
  obtain hsame | ⟨k, r, statement, hphase, hmarked, -⟩ := hfacts.seeds
  · exact hsame
  have hbefore := h.before i (by rw [hphase]; rfl) hmarked
  rw [hbefore] at hcompleted
  cases hcompleted

theorem Invariant.step (h : Invariant (c, history))
    (hstep : (protocol config κ ι crates).system.step c l = some c') :
    Invariant (c', record history c l c') ∧ SeedsAtMost crates c l c' := by
  obtain ⟨event, s', rfl, henv, rfl⟩ | ⟨i, a, s', phase', rfl, hnext, rfl⟩ :=
    Protocol.step_cases hstep
  · have howns : ∀ i, Owns s' i (c.request i) := fun i => (h.owns i).surroundings henv
    refine ⟨?_, nofun⟩
    cases event with
    | disconnect k =>
      cases henv
      refine ⟨howns, h.completed, fun i k' hk' hkept => ?_, h.once, h.changed, h.failures⟩
      have hne : k' ≠ k := by
        rintro rfl
        simp at hkept
      exact h.exclusive i k' hk' (by simpa [hne] using hkept)
    | other =>
      cases henv
      exact ⟨howns, fun hpos => (setupCompleted_congr rfl).trans (h.completed hpos), h.exclusive,
        h.once, h.changed, h.failures⟩
  have hfacts := stepFacts_of_next (h.owns i) hnext
  have hready : (∀ payload, a ≠ .call payload) → (c.request i).isReady = false :=
    fun ha => isReady_of_next ha hnext
  refine ⟨?_, ?_⟩
  · simp only [record, update_self]
    cases a with
    | call => exact h.request hfacts nofun nofun
    | proceed | cancel =>
      exact h.request hfacts (fun _ => hready nofun) fun hchanged => by simpa using hchanged
  · rintro j b ⟨⟩
    exact hfacts.seeds.imp_right fun ⟨k, r, statement, hphase, _, hseeds⟩ =>
      ⟨k, r, statement, hphase, hseeds⟩

/-- In every run at most one call is answered with success; a call changes at most the client `web`
and its own admin client, to what the seed writes, and a call that has changed clients before it is
answered with an error is answered with a database error; and if no call loses the connection on
which it has taken the lock, no call changes clients once the setup is completed. -/
theorem setup_initialized_once (config : SetupConfig) (crates : Crates)
    (c₀ c : Config ι (Store κ ι) (Phase κ)) (ls : List (Action ι (Input κ) (Event κ)))
    (history : History ι) (hidle : ∀ i, c₀.request i = .idle)
    (hrun : ((protocol config κ ι crates).system.observe record).run (c₀, {}) ls =
      some (c, history)) :
    history.successes ≤ 1 ∧
      (∀ failure ∈ history.failures, failure.2 = true →
        ∃ message, failure.1 = .databaseError message) ∧
      (protocol config κ ι crates).system.Along (SeedsAtMost crates) c₀ ls ∧
      ((protocol config κ ι crates).system.Along KeepsConnections c₀ ls →
        (protocol config κ ι crates).system.Along SeedsOnlyBefore c₀ ls) := by
  have howns : ∀ i, Owns c₀.shared i (c₀.request i) := by
    intro i
    rw [hidle i]
    exact ⟨nofun, nofun, nofun⟩
  have hc₀ : Invariant (c₀, {}) := by
    refine ⟨howns, nofun, fun i k hk => ?_, Nat.zero_le _, nofun, nofun⟩
    rw [hidle i] at hk
    cases hk
  obtain ⟨hc, halong⟩ := System.observe_run_invariant
    (I := fun c history => Invariant (c, history)) hrun hc₀ (System.along_true _)
    fun _ _ _ _ hc _ hstep => hc.step hstep
  refine ⟨hc.once, hc.failures, halong, fun hkeeps => ?_⟩
  refine System.along_of_invariant _ (I := Connected)
    (fun c l c' hc hkeeps h => hc.step hkeeps h) ⟨howns, fun i k hk => ?_, fun i hseeding => ?_⟩
    hkeeps
  · rw [hidle i] at hk
    cases hk
  · rw [hidle i] at hseeding
    cases hseeding

/-- In every run, no two calls have the lock, except on a connection that has been lost. -/
theorem setup_calls_exclusive {c₀ : Config ι (Store κ ι) (Phase κ)}
    {ls : List (Action ι (Input κ) (Event κ))} (hidle : ∀ i, c₀.request i = .idle)
    (hrun : (protocol config κ ι crates).system.run c₀ ls = some c) {k k' : κ}
    (hi : (c.request i).connection = some k) (hj : (c.request j).connection = some k')
    (hk : c.shared.lost k = false) (hk' : c.shared.lost k' = false) : i = j := by
  have howns : ∀ i, Owns c.shared i (c.request i) := by
    refine (protocol config κ ι crates).system.run_invariant
      (I := fun c => ∀ i, Owns c.shared i (c.request i)) (fun c l c' h hstep => ?_)
      (fun i => by rw [hidle i]; exact ⟨nofun, nofun, nofun⟩) hrun
    obtain ⟨_, _, rfl, henv, rfl⟩ | ⟨i, _, _, _, rfl, hnext, rfl⟩ := Protocol.step_cases hstep
    · exact fun i => (h i).surroundings henv
    · have hfacts := stepFacts_of_next (h i) hnext
      exact owns_update h hfacts.keeps hfacts.owns
  exact eq_of_connected (howns i) (howns j) hi hj hk hk'

end Runs

/-! ### Two calls -/

/-- A server with a database and keys. -/
def sampleServer : SetupConfig where
  jwtPrivateKeyPem := "private"
  jwtPublicKeyPem := "public"
  oidcIssuer := "https://id"

def sampleConfig : Config (Fin 2) (Store (Fin 2) (Fin 2)) (Phase (Fin 2)) where
  shared := ⟨{}, none, fun _ => false, fun _ => none⟩
  request _ := .idle

abbrev SampleAction := Action (Fin 2) (Input (Fin 2)) (Event (Fin 2))

/-- The call `i` goes on, on the connection with its own number. -/
def go (i : Fin 2) : SampleAction := .request i (.proceed { connection := i })

/-- A call up to the first look at the setting under the lock. -/
def sampleStart (i : Fin 2) : List SampleAction :=
  [.request i (.call ⟨some "admin", some "secret"⟩), go i, go i, go i, go i, go i]

/-- A second call comes to the lock, which the first one has. -/
def sampleRefused : List SampleAction :=
  sampleStart 0 ++ (sampleStart 1).dropLast

theorem setup_calls_exclusive_start :
    ∃ c, (protocol sampleServer (Fin 2) (Fin 2) Crates.readable).system.run sampleConfig
        sampleRefused = some c ∧ (c.request 0).connection = some 0 ∧
      c.request 1 = .answered (.error (.conflict "Setup initialization is already running")) ∧
      ∀ i, (c.request i).connection = some 0 → i = 0 :=
  ⟨_, rfl, rfl, rfl, fun _ hi => @setup_calls_exclusive _ _ Crates.readable sampleServer _ _ _ _ _
    sampleConfig sampleRefused (fun _ => rfl) rfl 0 0 hi rfl rfl rfl⟩

/-- A whole call that succeeds. -/
def sampleCall (i : Fin 2) : List SampleAction :=
  sampleStart i ++ List.replicate 9 (go i)

/-- A second call, after the setup has been completed. -/
def sampleRetry : List SampleAction :=
  sampleCall 0 ++ [.request 1 (.call ⟨some "admin", some "secret"⟩), go 1]

theorem setup_initialized_once_retry :
    ∃ c history,
      ((protocol sampleServer (Fin 2) (Fin 2) Crates.readable).system.observe record).run
        (sampleConfig, {}) sampleRetry = some (c, history) ∧
      history.successes = 1 ∧ history.failures = [(.forbidden, false)] ∧ history.successes ≤ 1 := by
  refine ⟨_, _, rfl, rfl, rfl, ?_⟩
  exact (setup_initialized_once sampleServer Crates.readable sampleConfig _ sampleRetry _
    (fun _ => rfl) rfl).1

/-- The seed of the admin client fails. -/
def sampleFailure : List SampleAction :=
  sampleStart 0 ++ [go 0, go 0, go 0,
    .request 0 (.proceed { connection := 0, verdict := .failed, message := "timeout" }), go 0]

/-- The first call loses the connection of its lock after its look at the setting, and seeds clients
after the second one has completed the setup. -/
def sampleDisconnect : List SampleAction :=
  sampleStart 0 ++ [.environment (.disconnect 0)] ++ sampleCall 1

/-- A call that is answered with an error has changed clients, and a call changes clients although
the setup has been completed. -/
theorem setup_not_atomic :
    (∃ c history,
      ((protocol sampleServer (Fin 2) (Fin 2) Crates.readable).system.observe record).run
        (sampleConfig, {}) sampleFailure = some (c, history) ∧
      history.failures = [(.databaseError "timeout", true)] ∧
      sampleConfig.shared.db.clients = ∅ ∧ c.shared.db.clients ≠ ∅) ∧
    ∃ c₁ history c₂,
      ((protocol sampleServer (Fin 2) (Fin 2) Crates.readable).system.observe record).run
        (sampleConfig, {}) sampleDisconnect = some (c₁, history) ∧
      history.successes = 1 ∧ setupCompleted c₁.shared.db = true ∧
      (protocol sampleServer (Fin 2) (Fin 2) Crates.readable).system.step c₁
        (.request 0 (.proceed { connection := 0, salt := "other" })) = some c₂ ∧
      c₂.shared.db.clients ≠ c₁.shared.db.clients := by
  refine ⟨⟨_, _, rfl, rfl, rfl, ?_⟩, ⟨_, _, _, rfl, rfl, ?_, rfl, ?_⟩⟩
  · decide
  · decide
  · decide

end Keylo.Setup
