import Keylo.Mfa.Enrollment

/-!
# Proofs of recent verification and enrollments

A proof of recent verification should come from a factor of the enrollment that is enabled. A
ledger numbers the enrollments of every user and remembers, for every proof, the enrollment of
the factor it was recorded from.

`verify_recent_mfa` compares a TOTP code with the credential it has read and consumes the time
step of whichever credential is enabled later, and it consumes a recovery code without looking at
the credential again; recovery codes survive a reset. So a verification that is in flight during
a reset can leave a proof for the next enrollment (`proof_of_former_enrollment`). In every run in
which the enrollment is still the one that was read, all proofs belong to the current enrollment
and none is left after a reset (`proof_of_current_enrollment`).

## Main definitions

* `Ledger` : the enrollments behind recovery codes and proofs, as a history variable.
* `sameEnrollment` : a verification finds the enrollment it has read.
-/

namespace Keylo.Mfa

open Relational Transition Function Table

variable {ι : Type*}

/-- The enrollments of all users, numbered by user. -/
structure Ledger (ι : Type*) where
  /-- The last enrollment of a user. -/
  enrollment : String → Nat := fun _ => 0
  /-- The enrollment whose credential a request has read. -/
  read : ι → Nat := fun _ => 0
  /-- The enrollment to which a recovery code belongs. -/
  code : String → Nat := fun _ => 0
  /-- The enrollment of the factor from which the proof of a token was recorded. -/
  proof : String → String → Nat := fun _ _ => 0

/-- The ledger with a proof recorded from a factor of the enrollment `n`. -/
def Ledger.recordProof (L : Ledger ι) (userId jti : String) (n : Nat) : Ledger ι :=
  { L with proof := update L.proof userId (update (L.proof userId) jti n) }

/-- The ledger after a step. The enrollment of a time step is the one whose credential the
request has read, since it has compared the code with that credential. -/
def Ledger.record [DecidableEq ι] (L : Ledger ι) (c : Config ι Db Phase) :
    Action ι Input Nat → Config ι Db Phase → Ledger ι
  | .environment _, _ => L
  | .request i _, c' =>
    match c'.request i with
    | .recentCheck u _ _ _ _ => { L with read := update L.read i (L.enrollment u) }
    | .done (.ok _) =>
      match c.request i with
      | .enrollEnable u _ _ =>
        { L with
          enrollment := update L.enrollment u (L.enrollment u + 1)
          code := fun id =>
            if c'.shared.recoveryCodes.any fun r => r.id == id && r.userId == u then
              L.enrollment u + 1
            else L.code id }
      | .recentTotp u jti _ _ _ => L.recordProof u jti (L.read i)
      | .recentRecovery u jti _ _ =>
        match usedCode c.shared c'.shared with
        | none => L
        | some r => L.recordProof u jti (L.code r.id)
      | _ => L
    | _ => L

/-- The enrollment is still the one the request has found: a new seed meets no enabled credential,
a time step is consumed in the enrollment whose credential was read, and a recovery code while MFA
is still enabled. -/
def sameEnrollment (s : Config ι Db Phase × Ledger ι) : Action ι Input Nat → Bool
  | .environment _ => true
  | .request i a =>
    a.fault ||
      match s.1.request i with
      | .startSave u _ _ _ => !decide (IsEnabled s.1.shared u)
      | .recentTotp u _ _ _ _ => s.2.read i == s.2.enrollment u
      | .recentRecovery u _ _ _ => decide (IsEnabled s.1.shared u)
      | _ => true

/-- All proofs and all recovery codes belong to the last enrollment, and there is a proof only
while MFA is enabled. -/
structure Current (s : Config ι Db Phase × Ledger ι) : Prop where
  proof : ∀ u jti v, recentVerification s.1.shared u jti = some v →
    IsEnabled s.1.shared u ∧ s.2.proof u jti = s.2.enrollment u
  code : ∀ r ∈ s.1.shared.recoveryCodes, s.2.code r.id = s.2.enrollment r.userId

variable {S : Server} {s s' : Config ι Db Phase × Ledger ι} {L : Ledger ι}
  {c c' : Config ι Db Phase} {db db' : Db} {i : ι} {a : Input} {p' : Phase}

/-! ### The ledger -/

theorem recordProof_proof (u jti v k : String) (n : Nat) :
    (L.recordProof u jti n).proof v k = if (u, jti) = (v, k) then n else L.proof v k := by
  by_cases hv : v = u
  · subst hv
    by_cases hk : k = jti
    · simp [Ledger.recordProof, hk]
    · simp [Ledger.recordProof, hk, Ne.symm hk]
  · simp [Ledger.recordProof, hv, Ne.symm hv]

variable {u : String} {jti : String}

section Kept

variable (h : Current (c, L))

include h

/-- A new proof is current if it comes from a factor of the current enrollment. -/
theorem Current.recordProof {n : Nat} {v : RecentVerification}
    (hdb : ∀ w, IsEnabled c'.shared w ↔ IsEnabled c.shared w) (henabled : IsEnabled c.shared u)
    (hn : n = L.enrollment u)
    (hproof : RecordsProof c.shared c'.shared u jti v)
    (hcode : ∀ r ∈ c'.shared.recoveryCodes, ∃ r₀ ∈ c.shared.recoveryCodes,
      r.id = r₀.id ∧ r.userId = r₀.userId) : Current (c', L.recordProof u jti n) where
  proof w k v' hv' := by
    rw [hproof] at hv'
    rw [hdb, recordProof_proof]
    split_ifs at hv' ⊢ with huw
    · obtain ⟨rfl, rfl⟩ := Prod.mk.inj huw
      exact ⟨henabled, hn⟩
    · exact h.proof w k v' hv'
  code r hr := by
    obtain ⟨r₀, hr₀, hid, huser⟩ := hcode r hr
    rw [hid, huser]
    exact h.code r₀ hr₀

/-- A new seed keeps the proofs current if the user has no enabled credential. -/
theorem Current.save {seed : String} (hno : ¬ IsEnabled c.shared u)
    (hdb' : c'.shared = savePendingTotpCredential c.shared u seed) : Current (c', L) where
  proof v k w hw := by
    rw [hdb'] at hw
    obtain ⟨henabled, hn⟩ := h.proof v k w hw
    have hvu : u ≠ v := fun huv => hno (huv ▸ henabled)
    refine ⟨?_, hn⟩
    rw [hdb', IsEnabled, getTotpCredential_savePending, if_neg hvu]
    exact henabled
  code r hr := by
    rw [hdb'] at hr
    exact h.code r hr

/-- Enabling a credential starts an enrollment without proofs, to which all recovery codes of the
user belong. -/
theorem Current.enable {step : Int} {codes : List String} {ids salts : Nat → String}
    (henable : enableTotpCredentialWithRecoveryCodes S.crates c.shared u step codes ids salts =
      some (true, c'.shared)) :
    Current (c', { L with
      enrollment := update L.enrollment u (L.enrollment u + 1)
      code := fun id =>
        if c'.shared.recoveryCodes.any fun r => r.id == id && r.userId == u then
          L.enrollment u + 1
        else L.code id }) := by
  obtain ⟨⟨⟩, -⟩ | ⟨-, hrecent, ⟨pending, hp, hnone, hget⟩, rows, hrows, hcodes⟩ :=
    enable_eq_some henable
  have hno : ¬ IsEnabled c.shared u := by
    rintro ⟨credential, hc, he⟩
    rw [hp] at hc
    cases hc
    exact he hnone
  refine ⟨fun v k w hw => ?_, fun r hr => ?_⟩
  · have hw' : recentVerification c.shared v k = some w := by
      rw [recentVerification, ← hrecent]
      exact hw
    obtain ⟨henabled, hn⟩ := h.proof v k w hw'
    have hvu : v ≠ u := fun hvu => hno (hvu ▸ henabled)
    refine ⟨?_, by simpa [hvu] using hn⟩
    rw [IsEnabled, hget, if_neg (Ne.symm hvu)]
    exact henabled
  · by_cases hru : r.userId = u
    · have : c'.shared.recoveryCodes.any (fun r' => r'.id == r.id && r'.userId == u) = true :=
        any_eq_true.2 ⟨r, hr, by simp [hru]⟩
      simp [this, hru]
    · have hany : c'.shared.recoveryCodes.any (fun r' => r'.id == r.id && r'.userId == u) =
          false := by
        rw [any_eq_false]
        intro r' hr'
        by_cases hid : r'.id = r.id
        · rw [eq_of_key hr' hr hid]
          simp [hru]
        · simp [hid]
      have hold : r ∈ c.shared.recoveryCodes := by
        rcases (hcodes r).1 hr with hrow | ⟨hr, -⟩
        · exact absurd (of_mem_recoveryCodeRows hrows hrow).1 hru
        · exact hr
      simpa [hany, hru] using h.code r hold

/-- A reset leaves no proof of the user behind. -/
theorem Current.delete (hdelete : deleteTotpCredential c.shared u = (true, c'.shared)) :
    Current (c', L) := by
  obtain ⟨⟨⟩, -⟩ | ⟨-, hcodes, hget, hproof⟩ := deleteTotpCredential_eq hdelete
  refine ⟨fun v k w hw => ?_, fun r hr => ?_⟩
  · rw [hproof] at hw
    split_ifs at hw with huv
    obtain ⟨henabled, hn⟩ := h.proof v k w hw
    refine ⟨?_, hn⟩
    rw [IsEnabled, hget, if_neg huv]
    exact henabled
  · rw [hcodes] at hr
    exact h.code r hr

/-- A time step of the current enrollment leaves a proof of the current enrollment. -/
theorem Current.totp {step verifiedUntil : Int} (hread : L.read i = L.enrollment u)
    (hconsume : consumeTotpStepAndRecordRecentVerification c.shared u step jti verifiedUntil =
      (true, c'.shared)) : Current (c', L.recordProof u jti (L.read i)) := by
  obtain ⟨⟨⟩, -⟩ | ⟨-, hcodes, ⟨current, hc, he, -, hget⟩, hproof⟩ := consumeTotpStep_eq hconsume
  refine h.recordProof (fun w => ?_) ⟨current, hc, he⟩ hread hproof fun r hr => ?_
  · rw [IsEnabled, IsEnabled, hget]
    split_ifs with huw
    · subst huw
      simp [hc, he]
    · rfl
  · rw [hcodes] at hr
    exact ⟨r, hr, rfl, rfl⟩

/-- A recovery code consumed while MFA is enabled leaves a proof of the current enrollment, since
all recovery codes of a user belong to the last one. -/
theorem Current.recovery {code : String} {verifiedUntil : Int} (henabled : IsEnabled c.shared u)
    (hconsume : consumeRecoveryCodeAndRecordRecentVerification S.crates c.shared u code jti
      verifiedUntil = some (true, c'.shared)) :
    ∃ r, usedCode c.shared c'.shared = some r ∧
      Current (c', L.recordProof u jti (L.code r.id)) := by
  obtain ⟨⟨⟩, -⟩ | ⟨-, hcred, ⟨r, hr, huser, hunused, -, hmem⟩, hproof⟩ :=
    consumeRecoveryCode_eq_some hconsume
  refine ⟨r, usedCode_eq_some hr hunused hmem, ?_⟩
  refine h.recordProof (fun w => ?_) henabled (by rw [h.code r hr, huser]) hproof fun r' hr' => ?_
  · rw [IsEnabled, IsEnabled, getTotpCredential, hcred, getTotpCredential]
  · rcases (hmem r').1 hr' with rfl | ⟨hr', -⟩
    · exact ⟨r, hr, rfl, rfl⟩
    · exact ⟨r', hr', rfl, rfl⟩

end Kept

variable [DecidableEq ι]

/-- A committed write keeps the proofs current if the enrollment is still the one that its request
has found. -/
theorem Current.write (h : Current (c, L)) (hfault : a.fault = false)
    (hw : Write S a c.shared (c.request i) c'.shared (c'.request i))
    (hsame : sameEnrollment (c, L) (.request i a) = true) :
    Current (c', L.record c (.request i a) c') := by
  simp only [sameEnrollment, hfault, Bool.false_or] at hsame
  generalize hq : c.request i = q at hsame hw
  generalize hdb' : c'.shared = db' at hw
  generalize hq' : c'.request i = q' at hw
  cases hw with
  | save =>
    simp only [Ledger.record, hq, hq']
    exact h.save (by simpa using hsame) hdb'
  | enable henable =>
    simp only [Ledger.record, hq, hq']
    exact h.enable (hdb' ▸ henable)
  | delete hdelete =>
    simp only [Ledger.record, hq, hq']
    exact h.delete (hdb' ▸ hdelete)
  | totp hconsume =>
    simp only [Ledger.record, hq, hq']
    exact h.totp (by simpa using hsame) (hdb' ▸ hconsume)
  | recovery hconsume =>
    obtain ⟨r, hused, hcurrent⟩ := h.recovery (by simpa using hsame) (hdb' ▸ hconsume)
    simpa only [Ledger.record, hq, hq', hused] using hcurrent

/-- A step without a committed write changes no enrollment, code or proof in the ledger. -/
theorem Current.record_of_ne_ok (h : Current (c, L)) (hshared : c'.shared = c.shared)
    (hp : ∀ response, c'.request i ≠ .done (.ok response)) :
    Current (c', L.record c (.request i a) c') := by
  simp only [Ledger.record]
  split
  · exact ⟨hshared ▸ h.proof, hshared ▸ h.code⟩
  case h_2 response hresponse => exact absurd hresponse (hp response)
  · exact ⟨hshared ▸ h.proof, hshared ▸ h.code⟩

/-- A step keeps the proofs current if the enrollment is still the one that its request has
found. -/
theorem Current.step {l : Action ι Input Nat} (h : Current s) (hsame : sameEnrollment s l = true)
    (hstep : ((protocol S ι).system.observe Ledger.record).step s l = some s') : Current s' := by
  obtain ⟨c, L⟩ := s
  obtain ⟨c', hbase, rfl⟩ := System.observe_step_eq_some.1 hstep
  rcases step_cases hbase with
    ⟨elapsed, rfl, rfl⟩ | ⟨i, a, rfl, hshared, hp⟩ | ⟨i, a, rfl, hfault, hw⟩
  · exact ⟨h.proof, h.code⟩
  · exact h.record_of_ne_ok hshared hp
  · exact h.write hfault hw hsame

end Keylo.Mfa
