import Keylo.Mfa.Requests

/-!
# Enrollments under concurrent requests

An enabled TOTP credential should go away only by a reset whose token has a proof, and a seed
should become enabled only by a code of that seed. The handlers read the credential in one
statement and write it in a later one without comparing it again, so both fail if another
request changes the credential in between (`enabled_credential_overwritten`). They hold in every
run in which the credential is still as the writing request has found it
(`credential_guarded`).

## Main definitions

* `Check`, `record` : the checks the requests have passed, as a history variable.
* `Guarded` : the property of a step.
* `undisturbed` : the writing request finds what it has read.
-/

namespace Keylo.Mfa

open Relational Transition

variable {ι : Type*}

/-- A check that a request has passed. -/
inductive Check (ι : Type*)
  /-- Request `i` has found a live proof of the token `jti`. -/
  | proof (i : ι) (userId jti : String)
  /-- Request `i` has accepted `code` as a code of the stored seed. -/
  | code (i : ι) (userId encryptedSeed code : String)

/-- Records the checks that the requests pass. -/
def record (S : Server) (checks : List (Check ι)) (c : Config ι Db Phase) :
    Action ι Input Nat → Config ι Db Phase → List (Check ι)
  | .environment _, _ => checks
  | .request i a, _ =>
    match c.request i with
    | .resetProof u jti =>
      if a.fault = false ∧ hasRecentMfaVerification c.shared u jti = true then
        .proof i u jti :: checks
      else checks
    | .enrollCheck u code credential =>
      if (seedStep S.crates (S.key.getD []) credential.encryptedSeed code
          c.shared.clock.timestamp).isSome then
        .code i u credential.encryptedSeed code :: checks
      else checks
    | _ => checks

/-- An enabled credential is kept unless the step belongs to a reset whose own token had a live
proof, and a seed is enabled only by a request that has accepted a code of this seed. -/
structure Guarded (r : ι → Request) (s : Config ι Db Phase × List (Check ι))
    (l : Action ι Input Nat) (s' : Config ι Db Phase × List (Check ι)) : Prop where
  kept : ∀ u credential, getTotpCredential s.1.shared u = some credential →
    credential.enabledAt ≠ none →
      (∃ credential', getTotpCredential s'.1.shared u = some credential' ∧
        credential'.encryptedSeed = credential.encryptedSeed ∧
        credential'.enabledAt = credential.enabledAt) ∨
      ∃ i a claims, l = .request i a ∧ r i = .resetTotpEnrollment claims ∧
        requireUserId claims = .ok u ∧ .proof i u claims.jti ∈ s.2
  enabled : ∀ u credential', getTotpCredential s'.1.shared u = some credential' →
    credential'.enabledAt ≠ none →
      (∃ credential, getTotpCredential s.1.shared u = some credential ∧
        credential.enabledAt ≠ none ∧
        credential.encryptedSeed = credential'.encryptedSeed) ∨
      ∃ i a claims code, l = .request i a ∧ r i = .verifyTotpEnrollment claims code ∧
        requireUserId claims = .ok u ∧ .code i u credential'.encryptedSeed code ∈ s.2

/-- The credential is still as the writing request has found it: a new seed and an unproved
reset meet no enabled credential, and a code enables the seed it was checked against. -/
def undisturbed (c : Config ι Db Phase) : Action ι Input Nat → Bool
  | .environment _ => true
  | .request i a =>
    a.fault ||
      match c.request i with
      | .startSave u _ _ _ | .resetDelete u _ false => !decide (IsEnabled c.shared u)
      | .enrollEnable u encryptedSeed _ =>
        (getTotpCredential c.shared u).all fun credential =>
          credential.enabledAt.isSome || credential.encryptedSeed == encryptedSeed
      | _ => true

variable {S : Server} {r : ι → Request} {l : Action ι Input Nat}
  {s s' : Config ι Db Phase × List (Check ι)} {checks : List (Check ι)}

/-! ### The checks behind a phase -/

variable {c c' : Config ι Db Phase}

theorem mem_record {x : Check ι} (hx : x ∈ checks) :
    x ∈ record S checks c l c' := by
  unfold record
  split
  · exact hx
  split
  · split_ifs <;> simp [hx]
  · split_ifs <;> simp [hx]
  · exact hx

/-- The request `i` has passed the checks that its phase presupposes. -/
structure Tracked (r : ι → Request) (checks : List (Check ι)) (i : ι) (p : Phase) : Prop where
  origin : p.Origin (r i)
  proof : ∀ u jti, p = .resetDelete u jti true → .proof i u jti ∈ checks
  code : ∀ u encryptedSeed step, p = .enrollEnable u encryptedSeed step →
    ∃ claims code, r i = .verifyTotpEnrollment claims code ∧ requireUserId claims = .ok u ∧
      .code i u encryptedSeed code ∈ checks

theorem tracked_received (i : ι) : Tracked r [] i (.received (r i)) where
  origin := rfl
  proof _ _ h := by cases h
  code _ _ _ h := by cases h

variable {i : ι}

theorem Tracked.mono {p : Phase} (ht : Tracked r checks i p) :
    Tracked r (record S checks c l c') i p where
  origin := ht.origin
  proof u jti hp := mem_record (ht.proof u jti hp)
  code u enc step hp := by
    obtain ⟨claims, code, hr, hu, hmem⟩ := ht.code u enc step hp
    exact ⟨claims, code, hr, hu, mem_record hmem⟩

theorem Tracked.next {a : Input} {db' : Db} {p' : Phase} (ht : Tracked r checks i (c.request i))
    (h : next S a c.shared (c.request i) = some (db', p')) :
    Tracked r (record S checks c (.request i a) c') i p' := by
  refine ⟨ht.origin.next h, fun u jti hp => ?_, fun u enc step hp => ?_⟩
  · subst hp
    generalize hq : c.request i = q at h
    cases outcome_of_next h with
    | advance hadv =>
      cases hadv with
      | resetProved hfault hproof => simp [record, hq, hfault, hproof]
    | write hfault hw => cases hw.eq_done.choose_spec
  · subst hp
    have horigin := ht.origin
    generalize hq : c.request i = q at h horigin
    cases outcome_of_next h with
    | advance hadv =>
      cases hadv with
      | @enrollCode u code seed credential step hseed hstep =>
        obtain ⟨claims, hr, hu⟩ := horigin
        exact ⟨claims, code, hr, hu, by simp [record, hq, seedStep, hseed, hstep]⟩
    | write hfault hw => cases hw.eq_done.choose_spec

/-! ### Guarded steps -/

theorem guarded_of_shared_eq
    (h : ∀ u, getTotpCredential s'.1.shared u = getTotpCredential s.1.shared u) :
    Guarded r s l s' where
  kept u credential hc _ := .inl ⟨credential, by rw [h, hc], rfl, rfl⟩
  enabled u credential hc he := .inl ⟨credential, by rw [← h, hc], he, rfl⟩

/-- A write that finds the credential as its request has found it is guarded. -/
theorem guarded_of_write {a : Input} {p' : Phase} (ht : Tracked r s.2 i (s.1.request i))
    (hfault : a.fault = false) (hw : Write S a s.1.shared (s.1.request i) s'.1.shared p')
    (hun : undisturbed s.1 (.request i a) = true) : Guarded r s (.request i a) s' := by
  simp only [undisturbed, hfault, Bool.false_or] at hun
  generalize s.1.request i = q at hun ht hw
  generalize hdb' : s'.1.shared = db' at hw
  cases hw with
  | save u seed =>
    -- The new seed replaces a credential that is not enabled.
    have hno : ¬ IsEnabled s.1.shared u := by simpa using hun
    constructor
    · intro v credential hc he
      have hvu : u ≠ v := fun hvu => hno ⟨credential, hvu ▸ hc, he⟩
      exact .inl ⟨credential, by rw [hdb', getTotpCredential_savePending, if_neg hvu, hc], rfl, rfl⟩
    · intro v credential hc he
      rw [hdb', getTotpCredential_savePending] at hc
      split_ifs at hc with hvu
      · cases hc
        exact absurd rfl he
      · exact .inl ⟨credential, hc, he, rfl⟩
  | @enable u enc step _ h =>
    -- The pending credential is the one whose code was checked.
    obtain ⟨⟨⟩, -⟩ | ⟨-, -, ⟨pending, hp, hnone, hget⟩, -⟩ := enable_eq_some h
    have henc : pending.encryptedSeed = enc := by simpa [hp, hnone] using hun
    obtain ⟨claims, code, hr, hu, hmem⟩ := ht.code u enc step rfl
    constructor
    · intro v credential hc he
      have hvu : u ≠ v := by
        rintro rfl
        rw [hp] at hc
        cases hc
        exact he hnone
      exact .inl ⟨credential, by rw [hdb', hget, if_neg hvu, hc], rfl, rfl⟩
    · intro v credential hc he
      rw [hdb', hget] at hc
      split_ifs at hc with hvu
      · cases hc
        subst hvu
        exact .inr ⟨i, a, claims, code, rfl, hr, hu, henc ▸ hmem⟩
      · exact .inl ⟨credential, hc, he, rfl⟩
  | @delete u jti proved _ h =>
    obtain ⟨⟨⟩, -⟩ | ⟨-, -, hget, -⟩ := deleteTotpCredential_eq h
    constructor
    · intro v credential hc he
      by_cases hvu : u = v
      · subst hvu
        cases proved with
        | false =>
          have hno : ¬ IsEnabled s.1.shared u := by simpa using hun
          exact absurd ⟨credential, hc, he⟩ hno
        | true =>
          obtain ⟨claims, hr, hu, rfl⟩ := ht.origin
          exact .inr ⟨i, a, claims, rfl, hr, hu, ht.proof u _ rfl⟩
      · exact .inl ⟨credential, by rw [hdb', hget, if_neg hvu, hc], rfl, rfl⟩
    · intro v credential hc he
      rw [hdb', hget] at hc
      split_ifs at hc with hvu
      exact .inl ⟨credential, hc, he, rfl⟩
  | @totp u jti enc step verifiedUntil _ h =>
    obtain ⟨⟨⟩, -⟩ | ⟨-, -, ⟨current, hcur, hen, -, hget⟩, -⟩ := consumeTotpStep_eq h
    constructor
    · intro v credential hc he
      rw [hdb', hget]
      split_ifs with hvu
      · subst hvu
        rw [hcur] at hc
        cases hc
        exact .inl ⟨_, rfl, rfl, rfl⟩
      · exact .inl ⟨credential, hc, rfl, rfl⟩
    · intro v credential hc he
      rw [hdb', hget] at hc
      split_ifs at hc with hvu
      · subst hvu
        cases hc
        exact .inl ⟨current, hcur, hen, rfl⟩
      · exact .inl ⟨credential, hc, he, rfl⟩
  | recovery h =>
    obtain ⟨⟨⟩, -⟩ | ⟨-, hcred, -⟩ := consumeRecoveryCode_eq_some h
    · exact guarded_of_shared_eq fun u => by rw [hdb', getTotpCredential, hcred, getTotpCredential]

variable [DecidableEq ι]

/-- **Guarded credentials.**  In every run in which the credential is still as the writing
request has found it, an enabled credential goes away only by a reset whose own token had a live
proof, and a seed is enabled only by a request that has accepted a code of this seed. -/
theorem credential_guarded (S : Server) (r : ι → Request) (db : Db)
    (ls : List (Action ι Input Nat))
    (h : (protocol S ι).system.Along (fun c l _ => undisturbed c l = true) (received db r) ls) :
    ((protocol S ι).system.observe (record S)).Along (Guarded r) (received db r, []) ls := by
  rw [← System.observe_along _ (record S) ls (received db r, [])] at h
  refine System.along_of_invariant _ (I := fun s => ∀ i, Tracked r s.2 i (s.1.request i)) ?_
    (fun i => tracked_received i) h
  intro s l s' ht hun hstep
  obtain ⟨c', hbase, rfl⟩ := System.observe_step_eq_some.1 hstep
  constructor
  · refine Protocol.forall_request_step _ hbase ht (fun i _ hi => hi.mono) ?_
    rintro i a t rfl hnext hi
    exact @Tracked.next ι S r s.2 s.1 c' i a _ t hi hnext
  · rcases step_cases hbase with
      ⟨elapsed, rfl, hs'⟩ | ⟨i, a, rfl, hshared, -⟩ | ⟨i, a, rfl, hfault, hw⟩
    · exact guarded_of_shared_eq fun u => by rw [hs']; rfl
    · exact guarded_of_shared_eq fun u => by rw [hshared]
    · exact guarded_of_write (ht i) hfault hw hun

/-! ### Concrete runs -/

/-- A server with a configured key. -/
def sampleServer : Server := ⟨.readable, some (List.replicate 32 0)⟩

/-- The claims of an access token of the user `u`. -/
def sampleClaims : Claims := { uid := some "u", jti := "t" }

/-- Random values for one phase. -/
def sampleInput : Input where
  seed := "A"
  nonce := List.replicate 12 97
  uuids _ := "0123456789abcdef0123456789abcdef"
  ids n := String.ofList (List.replicate n 'i')
  salts n := String.ofList (List.replicate n 's')

/-- The user `u` without a second factor. -/
def sampleDb : Db where
  users := .single { id := "u", username := "u", email := "e" }

/-- An enabled credential of the user `u`. -/
def enrolledCredential : TotpCredential where
  userId := "u"
  encryptedSeed := "v1.aaaaaaaaaaaa.A"
  enabledAt := some 0
  lastVerifiedStep := some 0

/-- The user `u` with an enabled credential and a live proof of the token `t`. -/
def enrolledDb : Db where
  users := sampleDb.users
  totpCredentials := .single enrolledCredential
  recentVerifications :=
    .single { userId := "u", tokenJti := "t", verifiedAt := 0, expiresAt := 9 }

/-- One request resets the credential. -/
def resetRequests (_ : ℕ) : Request := .resetTotpEnrollment sampleClaims

/-- The three phases of a reset. -/
def resetRun : List (Action ℕ Input ℕ) := [.request 0 {}, .request 0 {}, .request 0 {}]

/-- A reset with a live proof meets the hypothesis, and it deletes the credential. -/
theorem credential_guarded_reset :
    ((protocol sampleServer ℕ).system.run (received enrolledDb resetRequests) resetRun).map
        (fun c => getTotpCredential c.shared "u") = some none ∧
      ((protocol sampleServer ℕ).system.observe (record sampleServer)).Along
        (Guarded resetRequests) (received enrolledDb resetRequests, []) resetRun :=
  ⟨by decide +kernel, credential_guarded _ _ _ _ (by decide +kernel)⟩

/-- Two requests start an enrollment, a third one verifies. -/
def overwriteRequests : ℕ → Request
  | 2 => .verifyTotpEnrollment sampleClaims "666666"
  | _ => .startTotpEnrollment sampleClaims

/-- Request 0 finds no enabled credential and draws a seed; requests 1 and 2 then enroll another
seed and enable it. -/
def overwriteRun : List (Action ℕ Input ℕ) :=
  [.request 0 {}, .request 0 sampleInput, .request 1 {},
    .request 1 { sampleInput with seed := "B" }, .request 1 {}, .request 2 {}, .request 2 {},
    .request 2 sampleInput]

/-- An enrollment that was started before another one was enabled replaces the enabled
credential, although no request held a proof. -/
theorem enabled_credential_overwritten :
    ¬ ((protocol sampleServer ℕ).system.observe (record sampleServer)).Along
      (Guarded overwriteRequests) (received sampleDb overwriteRequests, [])
      (overwriteRun ++ [.request 0 {}]) := by
  intro h
  let M := (protocol sampleServer ℕ).system.observe (record sampleServer)
  -- The credential is enabled before the last step and not enabled after it.
  have heval : (M.run (received sampleDb overwriteRequests, []) overwriteRun).map (fun s =>
      (decide (IsEnabled s.1.shared "u"),
        (M.step s (.request 0 {})).map fun s' => decide (IsEnabled s'.1.shared "u"))) =
      some (true, some false) := by
    decide +kernel
  obtain ⟨s₁, hrun, heval⟩ := Option.map_eq_some_iff.1 heval
  obtain ⟨hbefore, hafter⟩ := Prod.mk.inj heval
  obtain ⟨s₂, hstep, hafter⟩ := Option.map_eq_some_iff.1 hafter
  obtain ⟨credential, hc, he⟩ := of_decide_eq_true hbefore
  rcases (h.last hrun hstep).kept "u" credential hc he with
    ⟨credential', hc', -, he'⟩ | ⟨i, a, claims, hl, hr, -, -⟩
  · exact of_decide_eq_false hafter ⟨credential', hc', he' ▸ he⟩
  · cases hl
    cases hr

end Keylo.Mfa
