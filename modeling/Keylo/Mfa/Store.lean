import Keylo.Schema
import Keylo.Mfa.Factors

/-!
# Statements on the MFA tables

The functions of `db/mfa.rs`. Each of them is one statement or one transaction, and all their
writes are to rows the transaction has locked, so that it acts on the database at once when it
commits; a transaction that fails or is rolled back leaves the database alone. A result `none`
is a failed transaction.

## Main results

For every function, the credential, the recovery codes and the proofs it leaves behind:
`getTotpCredential_savePending`, `enable_eq_some`, `consumeTotpStep_eq`,
`consumeRecoveryCode_eq_some` and `deleteTotpCredential_eq`.
-/

namespace Keylo.Mfa

open Relational Table

variable {C : Crates} {db db' : Db} {u v : String}

/-! ### Credentials -/

def getTotpCredential (db : Db) (userId : String) : Option TotpCredential :=
  db.totpCredentials.lookup TotpCredential.userId userId

/-- The user has an enabled credential. -/
def IsEnabled (db : Db) (userId : String) : Prop :=
  ∃ c, getTotpCredential db userId = some c ∧ c.enabledAt ≠ none

instance : Decidable (IsEnabled db u) :=
  match h : getTotpCredential db u with
  | none => .isFalse (by simp [IsEnabled, h])
  | some c => decidable_of_iff (c.enabledAt ≠ none) (by simp [IsEnabled, h])

/-- Stores a new seed that is not enabled, in place of any stored one. -/
def savePendingTotpCredential (db : Db) (userId encryptedSeed : String) : Db :=
  { db with
    totpCredentials := db.totpCredentials.upsert { userId, encryptedSeed }
      ⟨fun c => { c with encryptedSeed, enabledAt := none, lastVerifiedStep := none },
        fun _ _ => rfl⟩ }

@[simp] theorem getTotpCredential_savePending (seed : String) :
    getTotpCredential (savePendingTotpCredential db u seed) v =
      if u = v then some { userId := u, encryptedSeed := seed } else getTotpCredential db v := by
  have hc : ∀ a b : TotpCredential, clash a b = true → a.userId = b.userId := by
    intro a b h
    simpa [clash] using h
  refine (lookup_upsert (fun _ => rfl) hc).trans ?_
  by_cases huv : u = v
  · subst huv
    cases hl : db.totpCredentials.lookup TotpCredential.userId u with
    | none => simp
    | some =>
      have := (lookup_eq_some_iff.1 hl).2
      simp [this]
  · simp [huv, getTotpCredential]

/-- Whether the credential still waits for its first verification. -/
def isPending (userId : String) (c : TotpCredential) : Bool :=
  c.userId == userId && c.enabledAt.isNone

theorem any_isPending :
    db.totpCredentials.any (isPending u) = true ↔
      ∃ c, getTotpCredential db u = some c ∧ c.enabledAt = none := by
  simp only [any_eq_true, isPending, getTotpCredential, lookup_eq_some_iff,
    Bool.and_eq_true, beq_iff_eq, Option.isNone_iff_eq_none, and_assoc]

/-- The rows of new recovery codes, with the ids and salts drawn for them. -/
def recoveryCodeRows (C : Crates) (userId : String) (ids salts : Nat → String) :
    List String → Nat → Option (List RecoveryCode)
  | [], _ => some []
  | code :: codes, n => do
    let normalized ← normalizeRecoveryCode code
    let codeHash ← C.bcryptHash (salts n) normalized
    let rows ← recoveryCodeRows C userId ids salts codes (n + 1)
    some ({ id := ids n, userId, codeHash } :: rows)

/-- Enables a pending credential and replaces the recovery codes of the user. -/
def enableTotpCredentialWithRecoveryCodes (C : Crates) (db : Db) (userId : String) (step : Int)
    (recoveryCodes : List String) (ids salts : Nat → String) : Option (Bool × Db) :=
  if recoveryCodes.length != recoveryCodeCount then
    none
  else do
    let rows ← recoveryCodeRows C userId ids salts recoveryCodes 0
    if db.totpCredentials.any (isPending userId) then
      let totpCredentials := db.totpCredentials.update (isPending userId)
        ⟨fun c => { c with enabledAt := some db.clock, lastVerifiedStep := some step },
          fun _ _ => rfl⟩
      let kept := db.recoveryCodes.delete (·.userId == userId)
      let recoveryCodes ← rows.foldlM Table.insert kept
      some (true, { db with totpCredentials, recoveryCodes })
    else
      some (false, db)

variable {rows : List RecoveryCode} {codes : List String} {r : RecoveryCode}

theorem mem_foldlM_insert {t t' : Table RecoveryCode} (h : rows.foldlM Table.insert t = some t')
    (r : RecoveryCode) :
    r ∈ t' ↔ r ∈ rows ∨ r ∈ t := by
  induction rows generalizing t with
  | nil =>
    cases h
    simp
  | cons row rows ih =>
    obtain ⟨t₁, h₁, h⟩ := Option.bind_eq_some_iff.1 h
    rw [ih h, mem_of_insert_eq_some h₁, List.mem_cons]
    tauto

theorem of_mem_recoveryCodeRows {ids salts : Nat → String} {n : Nat}
    (h : recoveryCodeRows C u ids salts codes n = some rows) (hr : r ∈ rows) :
    r.userId = u ∧ r.usedAt = none := by
  induction codes generalizing n rows with
  | nil =>
    cases h
    simp at hr
  | cons code codes ih =>
    obtain ⟨normalized, -, h⟩ := Option.bind_eq_some_iff.1 h
    obtain ⟨codeHash, -, h⟩ := Option.bind_eq_some_iff.1 h
    obtain ⟨rest, hrest, h⟩ := Option.bind_eq_some_iff.1 h
    cases h
    rcases List.mem_cons.1 hr with rfl | hr
    · exact ⟨rfl, rfl⟩
    · exact ih hrest hr

variable {b : Bool}

/-- The effect of enabling a credential: an enabled credential stays as it is, and otherwise the
pending one is enabled and the recovery codes are replaced. -/
theorem enable_eq_some {step : Int} {ids salts : Nat → String}
    (h : enableTotpCredentialWithRecoveryCodes C db u step codes ids salts = some (b, db')) :
    (b = false ∧ db' = db) ∨
      b = true ∧ db'.recentVerifications = db.recentVerifications ∧
        (∃ c, getTotpCredential db u = some c ∧ c.enabledAt = none ∧
          ∀ v, getTotpCredential db' v =
            if u = v then
              some { c with enabledAt := some db.clock, lastVerifiedStep := some step }
            else getTotpCredential db v) ∧
        ∃ rows, recoveryCodeRows C u ids salts codes 0 = some rows ∧
          ∀ r, r ∈ db'.recoveryCodes ↔ r ∈ rows ∨ r ∈ db.recoveryCodes ∧ r.userId ≠ u := by
  unfold enableTotpCredentialWithRecoveryCodes at h
  split at h
  · cases h
  obtain ⟨rows, hrows, h⟩ := Option.bind_eq_some_iff.1 h
  split at h
  case isFalse =>
    cases h
    exact .inl ⟨rfl, rfl⟩
  case isTrue hpending =>
    obtain ⟨t, ht, h⟩ := Option.bind_eq_some_iff.1 h
    cases h
    obtain ⟨c, hc, hnone⟩ := any_isPending.1 hpending
    refine .inr ⟨rfl, rfl, ⟨c, hc, hnone, fun v => ?_⟩, rows, hrows, fun r => ?_⟩
    · refine lookup_update_of_key (fun _ => rfl) ?_ hc ?_ v
      · simp only [isPending, Bool.and_eq_true, beq_iff_eq]
        exact fun _ h => h.1
      · have hid := (lookup_eq_some_iff.1 hc).2
        simp [isPending, hid, hnone]
    · rw [mem_foldlM_insert ht, mem_delete]
      simp

/-! ### Proofs of recent verification -/

/-- The proof of an access token, expired or not. -/
def recentVerification (db : Db) (userId tokenJti : String) : Option RecentVerification :=
  db.recentVerifications.lookup RecentVerification.key (userId, tokenJti)

/-- Whether the access token has a proof that has not expired. -/
def hasRecentMfaVerification (db : Db) (userId tokenJti : String) : Bool :=
  db.recentVerifications.any fun r =>
    r.userId == userId && r.tokenJti == tokenJti && decide (db.clock < r.expiresAt)

variable {jti : String}

/-- Inserts or extends the proof of an access token, inside the transaction of its caller. -/
def saveRecentVerification (db : Db) (userId tokenJti : String) (expiresAt : Int) : Db :=
  { db with
    recentVerifications := db.recentVerifications.upsert
      { userId, tokenJti, verifiedAt := db.clock, expiresAt := Time.ofTimestamp expiresAt }
      ⟨fun r => { r with verifiedAt := db.clock, expiresAt := Time.ofTimestamp expiresAt },
        fun _ _ => rfl⟩ }

variable {e : Int}

/-- The proof `r` of the access token has been recorded. -/
def RecordsProof (db db' : Db) (u jti : String) (r : RecentVerification) : Prop :=
  ∀ v k, recentVerification db' v k =
    if (u, jti) = (v, k) then some r else recentVerification db v k

theorem recordsProof_save :
    RecordsProof db (saveRecentVerification db u jti e) u jti
      ⟨u, jti, db.clock, .ofTimestamp e⟩ := by
  intro v k
  have hc : ∀ a b : RecentVerification, clash a b = true → a.key = b.key := by
    intro a b h
    simpa [clash] using h
  refine (lookup_upsert (fun _ => rfl) hc).trans ?_
  by_cases hk : (u, jti) = (v, k)
  · have hk' : RecentVerification.key ⟨u, jti, db.clock, .ofTimestamp e⟩ = (v, k) := hk
    rw [if_pos hk', if_pos hk]
    cases hl : db.recentVerifications.lookup RecentVerification.key (v, k) with
    | none => rfl
    | some r =>
      have hr : r.key = (u, jti) := by rw [hk, (lookup_eq_some_iff.1 hl).2]
      simp only [RecentVerification.key, Prod.mk.injEq] at hr
      simp [hr]
  · exact (if_neg hk).trans (if_neg hk).symm

/-- Whether a time step may still be consumed. -/
def isFreshStep (userId : String) (step : Int) (c : TotpCredential) : Bool :=
  c.userId == userId && c.enabledAt.isSome && c.lastVerifiedStep.all (· < step)

/-- Consumes a time step and records the proof of the access token. -/
def consumeTotpStepAndRecordRecentVerification (db : Db) (userId : String) (step : Int)
    (tokenJti : String) (expiresAt : Int) : Bool × Db :=
  if db.totpCredentials.any (isFreshStep userId step) then
    let consumed := { db with
      totpCredentials := db.totpCredentials.update (isFreshStep userId step)
        ⟨fun c => { c with lastVerifiedStep := some step }, fun _ _ => rfl⟩ }
    (true, saveRecentVerification consumed userId tokenJti expiresAt)
  else
    (false, db)

/-- A time step is consumed only by an enabled credential whose last step is smaller, together
with the record of the proof. -/
theorem consumeTotpStep_eq {step : Int}
    (h : consumeTotpStepAndRecordRecentVerification db u step jti e = (b, db')) :
    (b = false ∧ db' = db) ∨
      b = true ∧ db'.recoveryCodes = db.recoveryCodes ∧
        (∃ c, getTotpCredential db u = some c ∧ c.enabledAt ≠ none ∧
          (∀ last ∈ c.lastVerifiedStep, last < step) ∧
          ∀ v, getTotpCredential db' v =
            if u = v then some { c with lastVerifiedStep := some step }
            else getTotpCredential db v) ∧
        RecordsProof db db' u jti ⟨u, jti, db.clock, .ofTimestamp e⟩ := by
  unfold consumeTotpStepAndRecordRecentVerification at h
  split at h
  case isFalse =>
    cases h
    exact .inl ⟨rfl, rfl⟩
  case isTrue hfresh =>
    cases h
    obtain ⟨c, hmem, hc⟩ := any_eq_true.1 hfresh
    have hfresh := hc
    simp only [isFreshStep, Bool.and_eq_true, beq_iff_eq, Option.isSome_iff_ne_none,
      Option.all_eq_true, decide_eq_true_eq] at hc
    have hget : getTotpCredential db u = some c :=
      lookup_eq_some_iff.2 ⟨hmem, hc.1.1⟩
    refine .inr ⟨rfl, rfl, ⟨c, hget, hc.1.2, fun last hl => hc.2 last hl, fun v => ?_⟩,
      recordsProof_save⟩
    refine lookup_update_of_key (fun _ => rfl) ?_ hget hfresh v
    simp only [isFreshStep, Bool.and_eq_true, beq_iff_eq]
    exact fun _ h => h.1.1

/-- The first row whose hash matches a code; a failing comparison fails the transaction. -/
def matchingId (C : Crates) (normalized : String) : List RecoveryCode → Option (Option String)
  | [] => some none
  | row :: rows =>
    match C.bcryptVerify normalized row.codeHash with
    | none => none
    | some true => some (some row.id)
    | some false => matchingId C normalized rows

theorem matchingId_eq_some {code id : String} (h : matchingId C code rows = some (some id)) :
    ∃ r ∈ rows, r.id = id ∧ C.bcryptVerify code r.codeHash = some true := by
  induction rows with
  | nil => cases h
  | cons row rows ih =>
    unfold matchingId at h
    split at h
    · cases h
    case h_2 hmatch =>
      cases h
      exact ⟨row, List.mem_cons_self, rfl, hmatch⟩
    · obtain ⟨r, hr, hid⟩ := ih h
      exact ⟨r, List.mem_cons_of_mem _ hr, hid⟩

/-- Consumes a recovery code and records the proof of the access token. The unused codes of
the user are locked while they are compared. -/
def consumeRecoveryCodeAndRecordRecentVerification (C : Crates) (db : Db)
    (userId code tokenJti : String) (expiresAt : Int) : Option (Bool × Db) :=
  match normalizeRecoveryCode code with
  | none => some (false, db)
  | some normalized =>
    match matchingId C normalized
        (db.recoveryCodes.select fun r => r.userId == userId && r.usedAt.isNone) with
    | none => none
    | some none => some (false, db)
    | some (some id) =>
      let consumed := { db with
        recoveryCodes := db.recoveryCodes.update (·.id == id)
          ⟨fun r => { r with usedAt := some db.clock }, fun _ _ => rfl⟩ }
      some (true, saveRecentVerification consumed userId tokenJti expiresAt)

/-- A recovery code is consumed only if a row of the user that matches it is unused, together
with the record of the proof. -/
theorem consumeRecoveryCode_eq_some {code : String}
    (h : consumeRecoveryCodeAndRecordRecentVerification C db u code jti e = some (b, db')) :
    (b = false ∧ db' = db) ∨
      b = true ∧ db'.totpCredentials = db.totpCredentials ∧
        (∃ r ∈ db.recoveryCodes, r.userId = u ∧ r.usedAt = none ∧
          (∃ normalized, normalizeRecoveryCode code = some normalized ∧
            C.bcryptVerify normalized r.codeHash = some true) ∧
          ∀ r', r' ∈ db'.recoveryCodes ↔
            r' = { r with usedAt := some db.clock } ∨ r' ∈ db.recoveryCodes ∧ r'.id ≠ r.id) ∧
        RecordsProof db db' u jti ⟨u, jti, db.clock, .ofTimestamp e⟩ := by
  unfold consumeRecoveryCodeAndRecordRecentVerification at h
  split at h
  · cases h
    exact .inl ⟨rfl, rfl⟩
  case h_2 normalized hnorm =>
    split at h
    · cases h
    · cases h
      exact .inl ⟨rfl, rfl⟩
    case h_3 id hid =>
      cases h
      obtain ⟨r, hr, rfl, hmatch⟩ := matchingId_eq_some hid
      simp only [mem_select, Bool.and_eq_true, beq_iff_eq, Option.isNone_iff_eq_none] at hr
      obtain ⟨hmem, huser, hunused⟩ := hr
      refine .inr ⟨rfl, rfl, ⟨r, hmem, huser, hunused, ⟨normalized, hnorm, hmatch⟩,
        fun r' => ?_⟩, recordsProof_save⟩
      refine mem_update.trans ?_
      constructor
      · rintro ⟨s, hs, rfl⟩
        by_cases hsr : s.id = r.id
        · left
          simp [eq_of_key hs hmem hsr]
        · right
          simpa [hsr] using hs
      · rintro (rfl | ⟨hr', hne⟩)
        · exact ⟨r, hmem, by simp⟩
        · exact ⟨r', hr', by simp [hne]⟩

/-- The recovery code that a transaction has marked as used. -/
def usedCode (db db' : Db) : Option RecoveryCode :=
  db.recoveryCodes.find? fun r =>
    r.usedAt.isNone && db'.recoveryCodes.any fun r' => r'.id == r.id && r'.usedAt.isSome

/-- A consumed recovery code is the one that the transaction has marked as used. -/
theorem usedCode_eq_some (hr : r ∈ db.recoveryCodes) (hunused : r.usedAt = none)
    (hmem : ∀ r', r' ∈ db'.recoveryCodes ↔
      r' = { r with usedAt := some db.clock } ∨ r' ∈ db.recoveryCodes ∧ r'.id ≠ r.id) :
    usedCode db db' = some r := by
  cases h : usedCode db db' with
  | none =>
    have := List.find?_eq_none.1 h r hr
    simp only [hunused, Option.isNone_none, Bool.true_and, any_eq_true, not_exists,
      not_and] at this
    exact absurd (by simp) (this _ ((hmem _).2 (.inl rfl)))
  | some r₀ =>
    have hr₀ : r₀ ∈ db.recoveryCodes := List.mem_of_find?_eq_some h
    have hfound := List.find?_some h
    simp only [Bool.and_eq_true, Option.isNone_iff_eq_none, any_eq_true, beq_iff_eq] at hfound
    obtain ⟨hunused₀, r', hr', hid, hused⟩ := hfound
    rcases (hmem r').1 hr' with rfl | ⟨hr', -⟩
    · rw [eq_of_key hr₀ hr hid.symm]
    · rw [eq_of_key hr' hr₀ hid, hunused₀] at hused
      cases hused

/-! ### Reset -/

/-- Removes the credential of a user and with it all proofs; the recovery codes stay. -/
def deleteTotpCredential (db : Db) (userId : String) : Bool × Db :=
  if db.totpCredentials.any (·.userId == userId) then
    (true, { db with
      totpCredentials := db.totpCredentials.delete (·.userId == userId)
      recentVerifications := db.recentVerifications.delete (·.userId == userId) })
  else
    (false, db)

/-- The effect of a reset: if the user has a credential, it goes and every proof with it. -/
theorem deleteTotpCredential_eq (h : deleteTotpCredential db u = (b, db')) :
    (b = false ∧ db' = db) ∨
      b = true ∧ db'.recoveryCodes = db.recoveryCodes ∧
        (∀ v, getTotpCredential db' v = if u = v then none else getTotpCredential db v) ∧
        ∀ v k, recentVerification db' v k =
          if u = v then none else recentVerification db v k := by
  unfold deleteTotpCredential at h
  split at h
  case isFalse =>
    cases h
    exact .inl ⟨rfl, rfl⟩
  case isTrue =>
    cases h
    refine .inr ⟨rfl, rfl, fun v => ?_, fun v k => ?_⟩
    · split_ifs with huv
      · exact lookup_delete_of_forall fun c hc => by simp [huv, hc]
      · exact lookup_delete_of_forall_not fun c hc => by simp [hc, Ne.symm huv]
    · split_ifs with huv
      · refine lookup_delete_of_forall fun r hr => ?_
        simp only [RecentVerification.key, Prod.mk.injEq] at hr
        simp [huv, hr.1]
      · refine lookup_delete_of_forall_not fun r hr => ?_
        simp only [RecentVerification.key, Prod.mk.injEq] at hr
        simp [hr.1, Ne.symm huv]

end Keylo.Mfa
