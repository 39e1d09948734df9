import Mathlib.Data.List.Nodup
import Keylo.Mfa.RecentProof

/-!
# Factors are accepted once

A journal keeps, for every user, the time steps and the recovery codes accepted in the current
enrollment, with the requests that were accepted. A recovery code stands in it for the stored codes
that it matches, whether they have been used before or not. In every run the accepted time steps
strictly increase, beginning with the step that enabled the enrollment, every accepted recovery code
takes a stored code of its own, and a step or a code is consumed only by a request that records the
proof of its token in the same transaction (`factors_one_time`).

## Main definitions

* `Journal` : the factors accepted in the current enrollments, as a history variable.
* `Spent` : accepted recovery codes take different stored ones.
* `Recorded` : what a step consumes comes with a proof.
-/

namespace Keylo.Mfa

open Relational Transition Function Table

variable {ι : Type*}

/-- The factors accepted in the current enrollment of every user, newest first. -/
structure Journal (ι : Type*) where
  /-- The accepted time steps. The oldest entry is the verification that enabled the credential;
  for an enrollment from before the run it is the last step verified then, without a request. -/
  steps : String → List (Option ι × Int)
  /-- The requests accepted with a recovery code, and the ids of the stored codes it matches. -/
  codes : String → List (ι × List String)

/-- The ids of the stored codes of a user that a recovery code matches, used or not. -/
def matchingIds (C : Crates) (db : Db) (userId code : String) : List String :=
  match normalizeRecoveryCode code with
  | none => []
  | some normalized =>
    (db.recoveryCodes.select fun r =>
      r.userId == userId && C.bcryptVerify normalized r.codeHash == some true).map RecoveryCode.id

/-- The journal at the beginning of a run. -/
def Journal.initial (db : Db) : Journal ι where
  steps u :=
    match getTotpCredential db u with
    | none => []
    | some credential =>
      if credential.enabledAt.isSome then credential.lastVerifiedStep.toList.map fun n => (none, n)
      else []
  codes _ := []

/-- The journal after a step. A request is accepted if its response reports success. -/
def Journal.record (S : Server) (J : Journal ι) (c : Config ι Db Phase) :
    Action ι Input Nat → Config ι Db Phase → Journal ι
  | .environment _, _ => J
  | .request i _, c' =>
    match c'.request i with
    | .done (.ok _) =>
      match c.request i with
      | .startSave u _ _ _ | .resetDelete u _ _ =>
        { J with steps := update J.steps u [] }
      | .enrollEnable u _ step =>
        { steps := update J.steps u [(some i, step)], codes := update J.codes u [] }
      | .recentTotp u _ _ step _ =>
        { J with steps := update J.steps u ((some i, step) :: J.steps u) }
      | .recentRecovery u _ code _ =>
        { J with
          codes := update J.codes u ((i, matchingIds S.crates c.shared u code) :: J.codes u) }
      | _ => J
    | _ => J

/-- The step belongs to a verification by the user `u` and leaves a proof of its token. -/
def Proves (r : ι → Request) (u : String) (c : Config ι Db Phase) (l : Action ι Input Nat)
    (c' : Config ι Db Phase) : Prop :=
  ∃ i a claims totpCode recoveryCode, l = .request i a ∧
    r i = .verifyRecentMfa claims totpCode recoveryCode ∧ requireUserId claims = .ok u ∧
    ∃ v, recentVerification c'.shared u claims.jti = some v ∧ v.verifiedAt = c.shared.clock

/-- Whatever a step consumes, the last verified step of an enabled credential or a recovery code,
comes with a proof. -/
structure Recorded (r : ι → Request) (c : Config ι Db Phase) (l : Action ι Input Nat)
    (c' : Config ι Db Phase) : Prop where
  step : ∀ u credential credential', getTotpCredential c.shared u = some credential →
    credential.enabledAt ≠ none → getTotpCredential c'.shared u = some credential' →
    credential'.enabledAt ≠ none → credential'.lastVerifiedStep ≠ credential.lastVerifiedStep →
      Proves r u c l c'
  code : ∀ row ∈ c.shared.recoveryCodes, row.usedAt = none → ∀ row' ∈ c'.shared.recoveryCodes,
    row'.id = row.id → row'.usedAt ≠ none → Proves r row.userId c l c'

/-- The accepted recovery codes match stored codes of the user that are different from each other
and marked as used. -/
def Spent (db : Db) (u : String) (accepted : List (ι × List String)) : Prop :=
  ∃ ids : List String, ids.Nodup ∧ List.Forall₂ (fun x id => id ∈ x.2) accepted ids ∧
    ∀ id ∈ ids, ∃ row ∈ db.recoveryCodes, row.id = id ∧ row.userId = u ∧ row.usedAt ≠ none

/-- Accepted steps increase up to the last verified step of the credential, and accepted recovery
codes take different stored ones. -/
structure Once (s : Config ι Db Phase × Journal ι) : Prop where
  increasing : ∀ u, (s.2.steps u).Pairwise fun newer older => older.2 < newer.2
  bounded : ∀ u credential, getTotpCredential s.1.shared u = some credential →
    credential.enabledAt ≠ none →
      ∀ x ∈ s.2.steps u, ∃ last ∈ credential.lastVerifiedStep, x.2 ≤ last
  spent : ∀ u, Spent s.1.shared u (s.2.codes u)

variable {S : Server} {s s' : Config ι Db Phase × Journal ι} {J : Journal ι}
  {c c' : Config ι Db Phase} {i : ι} {a : Input} {db db' : Db} {u : String}
  {accepted : List (ι × List String)}

/-! ### Recovery codes -/

theorem mem_matchingIds {code normalized : String} {r : RecoveryCode} (hr : r ∈ db.recoveryCodes)
    (huser : r.userId = u) (hnormalized : normalizeRecoveryCode code = some normalized)
    (hmatch : S.crates.bcryptVerify normalized r.codeHash = some true) :
    r.id ∈ matchingIds S.crates db u code := by
  simp only [matchingIds, hnormalized]
  exact List.mem_map_of_mem (mem_select.2 ⟨hr, by simp [huser, hmatch]⟩)

theorem Spent.mono (h : Spent db u accepted) (hkept : ∀ row ∈ db.recoveryCodes, row.userId = u →
    row.usedAt ≠ none → row ∈ db'.recoveryCodes) : Spent db' u accepted := by
  obtain ⟨ids, hnodup, hmatch, hused⟩ := h
  refine ⟨ids, hnodup, hmatch, fun id hid => ?_⟩
  obtain ⟨row, hrow, heq, huser, husedAt⟩ := hused id hid
  exact ⟨row, hkept row hrow huser husedAt, heq, huser, husedAt⟩

/-- A code that matches one stored code only is accepted at most once. -/
theorem Spent.unique {i j : ι} {id : String} (h : Spent db u accepted) (hi : (i, [id]) ∈ accepted)
    (hj : (j, [id]) ∈ accepted) : i = j := by
  obtain ⟨ids, hnodup, hmatch, -⟩ := h
  obtain ⟨hlength, hmem⟩ := List.forall₂_iff_get.1 hmatch
  obtain ⟨m, hm⟩ := List.get_of_mem hi
  obtain ⟨n, hn⟩ := List.get_of_mem hj
  have hmid := hmem m m.2 (hlength ▸ m.2)
  have hnid := hmem n n.2 (hlength ▸ n.2)
  simp only [hm, hn, List.mem_singleton] at hmid hnid
  have hmn : (m : ℕ) = n := by
    simpa using (List.nodup_iff_injective_get.1 hnodup) (hmid.trans hnid.symm)
  rw [Fin.ext hmn, hn] at hm
  exact congrArg Prod.fst hm.symm

/-! ### Accepted factors -/

theorem once_initial (r : ι → Request) (db : Db) : Once (received db r, Journal.initial db) where
  increasing u := by
    simp only [Journal.initial]
    split
    · exact .nil
    case h_2 credential _ =>
      split_ifs
      · cases credential.lastVerifiedStep <;> simp
      · exact .nil
  bounded u credential hc he x hx := by
    have hc' : getTotpCredential db u = some credential := hc
    simp only [Journal.initial, hc', Option.isSome_iff_ne_none.2 he, if_true, List.mem_map,
      Option.mem_toList] at hx
    obtain ⟨n, hn, rfl⟩ := hx
    exact ⟨n, hn, by simp⟩
  spent _ := ⟨[], .nil, .nil, by simp⟩

section Kept

variable (h : Once (c, J))

include h

theorem Once.congr (hcred : c'.shared.totpCredentials = c.shared.totpCredentials)
    (hcodes : c'.shared.recoveryCodes = c.shared.recoveryCodes) : Once (c', J) where
  increasing := h.increasing
  bounded u credential hc := by
    rw [getTotpCredential, hcred] at hc
    exact h.bounded u credential hc
  spent u := (h.spent u).mono fun _ hrow _ _ => hcodes ▸ hrow

variable {jti : String}

/-- The end of an enrollment ends its list of accepted steps. -/
theorem Once.drop (hget : ∀ v, u ≠ v → getTotpCredential c'.shared v = getTotpCredential c.shared v)
    (hcodes : c'.shared.recoveryCodes = c.shared.recoveryCodes) :
    Once (c', { J with steps := update J.steps u [] }) where
  increasing v := by
    by_cases hv : v = u
    · simp [hv]
    · simpa [hv] using h.increasing v
  bounded v credential hc he x hx := by
    by_cases hv : v = u
    · simp [hv] at hx
    · rw [hget v (Ne.symm hv)] at hc
      exact h.bounded v credential hc he x (by simpa [hv] using hx)
  spent v := (h.spent v).mono fun _ hrow _ _ => hcodes ▸ hrow

/-- The accepted steps of a new enrollment begin with the step that enabled it. -/
theorem Once.enable {step : Int} {codes : List String} {ids salts : Nat → String}
    (henable : enableTotpCredentialWithRecoveryCodes S.crates c.shared u step codes ids salts =
      some (true, c'.shared)) :
    Once (c', { steps := update J.steps u [(some i, step)]
                codes := update J.codes u [] }) := by
  obtain ⟨⟨⟩, -⟩ | ⟨-, -, ⟨pending, hp, hnone, hget⟩, rows, hrows, hcodes⟩ := enable_eq_some henable
  refine ⟨fun v => ?_, fun v credential hc he x hx => ?_, fun v => ?_⟩
  all_goals by_cases hv : v = u
  · simp [hv]
  · simpa [hv] using h.increasing v
  · subst hv
    rw [hget, if_pos rfl] at hc
    cases hc
    simp only [update_self, List.mem_singleton] at hx
    subst hx
    exact ⟨step, rfl, by omega⟩
  · rw [hget, if_neg (Ne.symm hv)] at hc
    exact h.bounded v credential hc he x (by simpa [hv] using hx)
  · simpa [hv] using ⟨[], .nil, .nil, by simp⟩
  · simpa [hv] using (h.spent v).mono fun row hrow huser _ =>
      (hcodes row).2 (.inr ⟨hrow, huser ▸ hv⟩)

/-- An accepted time step is larger than all accepted before it. -/
theorem Once.totp {step verifiedUntil : Int}
    (hconsume : consumeTotpStepAndRecordRecentVerification c.shared u step jti verifiedUntil =
      (true, c'.shared)) :
    Once (c', { J with steps := update J.steps u ((some i, step) :: J.steps u) }) := by
  obtain ⟨⟨⟩, -⟩ | ⟨-, hcodes, ⟨current, hc, he, hlt, hget⟩, -⟩ := consumeTotpStep_eq hconsume
  have hsmaller : ∀ x ∈ J.steps u, x.2 < step := by
    intro x hx
    obtain ⟨last, hlast, hle⟩ := h.bounded u current hc he x hx
    have := hlt last hlast
    omega
  refine ⟨fun v => ?_, fun v credential hc' he' x hx => ?_,
    fun v => (h.spent v).mono fun _ hrow _ _ => hcodes ▸ hrow⟩
  · by_cases hv : v = u
    · subst hv
      simpa using ⟨fun j n hx => hsmaller (j, n) hx, h.increasing v⟩
    · simpa [hv] using h.increasing v
  · by_cases hv : v = u
    · subst hv
      rw [hget, if_pos rfl] at hc'
      cases hc'
      refine ⟨step, rfl, ?_⟩
      simp only [update_self, List.mem_cons] at hx
      rcases hx with rfl | hx
      · exact Int.le_refl step
      · exact Int.le_of_lt (hsmaller x hx)
    · rw [hget, if_neg (Ne.symm hv)] at hc'
      exact h.bounded v credential hc' he' x (by simpa [hv] using hx)

/-- An accepted recovery code takes a stored code that was not used before. -/
theorem Once.recovery {code : String} {verifiedUntil : Int}
    (hconsume : consumeRecoveryCodeAndRecordRecentVerification S.crates c.shared u code jti
      verifiedUntil = some (true, c'.shared)) :
    Once (c', { J with
      codes := update J.codes u ((i, matchingIds S.crates c.shared u code) :: J.codes u) }) := by
  obtain ⟨⟨⟩, -⟩ |
    ⟨-, hcred, ⟨r, hr, huser, hunused, ⟨normalized, hnormalized, hmatch⟩, hmem⟩, -⟩ :=
    consumeRecoveryCode_eq_some hconsume
  have hne : ∀ row ∈ c.shared.recoveryCodes, row.usedAt ≠ none → row.id ≠ r.id :=
    fun row hrow hused hid => hused (eq_of_key hrow hr hid ▸ hunused)
  have hkept v : Spent c'.shared v (J.codes v) := (h.spent v).mono fun row hrow _ hused =>
    (hmem row).2 (.inr ⟨hrow, hne row hrow hused⟩)
  refine ⟨h.increasing, fun v credential hc => ?_, fun v => ?_⟩
  · rw [getTotpCredential, hcred] at hc
    exact h.bounded v credential hc
  by_cases hv : v = u
  · subst hv
    obtain ⟨ids, hnodup, hids, hused⟩ := h.spent v
    have hnew : r.id ∉ ids := fun hid => by
      obtain ⟨row, hrow, heq, -, husedAt⟩ := hused r.id hid
      exact hne row hrow husedAt heq
    simp only [update_self]
    refine ⟨r.id :: ids, List.nodup_cons.2 ⟨hnew, hnodup⟩,
      .cons (mem_matchingIds hr huser hnormalized hmatch) hids, fun id hid => ?_⟩
    rcases List.mem_cons.1 hid with rfl | hid
    · exact ⟨_, (hmem _).2 (.inl rfl), rfl, huser, by simp⟩
    · obtain ⟨row, hrow, heq, hrowUser, husedAt⟩ := hused id hid
      exact ⟨row, (hmem row).2 (.inr ⟨hrow, hne row hrow husedAt⟩), heq, hrowUser, husedAt⟩
  · simpa [hv] using hkept v

theorem Once.write (hw : Write S a c.shared (c.request i) c'.shared (c'.request i)) :
    Once (c', J.record S c (.request i a) c') := by
  generalize hq : c.request i = q at hw
  generalize hdb' : c'.shared = db' at hw
  generalize hq' : c'.request i = q' at hw
  cases hw with
  | save =>
    simp only [Journal.record, hq, hq']
    refine h.drop (fun v hv => ?_) (by rw [hdb']; rfl)
    rw [hdb', getTotpCredential_savePending, if_neg hv]
  | enable henable =>
    simp only [Journal.record, hq, hq']
    exact h.enable (hdb' ▸ henable)
  | delete hdelete =>
    simp only [Journal.record, hq, hq']
    obtain ⟨⟨⟩, -⟩ | ⟨-, hcodes, hget, -⟩ := deleteTotpCredential_eq hdelete
    refine h.drop (fun v hv => ?_) (by rw [hdb', hcodes])
    rw [hdb', hget, if_neg hv]
  | totp hconsume =>
    simp only [Journal.record, hq, hq']
    exact h.totp (hdb' ▸ hconsume)
  | recovery hconsume =>
    simp only [Journal.record, hq, hq']
    exact h.recovery (hdb' ▸ hconsume)

end Kept

theorem record_of_ne_ok (hp : ∀ response, c'.request i ≠ .done (.ok response)) :
    J.record S c (.request i a) c' = J := by
  simp only [Journal.record]

/-! ### Consumption -/

variable {r : ι → Request}

/-- Codes that were used before, or are new and unused, have not been consumed by the step. -/
theorem not_consumed_of_mem {row row' : RecoveryCode} (hrow : row ∈ c.shared.recoveryCodes)
    (hunused : row.usedAt = none) (hrow' : row' ∈ c.shared.recoveryCodes) (hid : row'.id = row.id) :
    row'.usedAt = none := by
  rw [eq_of_key hrow' hrow hid, hunused]

theorem recorded_of_eq (hcred : c'.shared.totpCredentials = c.shared.totpCredentials)
    (hcodes : c'.shared.recoveryCodes = c.shared.recoveryCodes) : Recorded r c l c' where
  step u credential credential' hc _ hc' _ hne := by
    rw [getTotpCredential, hcred] at hc'
    rw [getTotpCredential, hc', Option.some.injEq] at hc
    exact absurd (by rw [hc]) hne
  code row hrow hunused row' hrow' hid hused := by
    rw [hcodes] at hrow'
    exact absurd (not_consumed_of_mem hrow hunused hrow' hid) hused

/-- A write that leaves the recovery codes alone, and of all credentials changes only the one of
`u`, consumes nothing unless it changes the last verified step of this credential. -/
theorem recorded_of_user (hcodes : c'.shared.recoveryCodes = c.shared.recoveryCodes)
    (hget : ∀ v, u ≠ v → getTotpCredential c'.shared v = getTotpCredential c.shared v)
    (hu : ∀ credential credential', getTotpCredential c.shared u = some credential →
      credential.enabledAt ≠ none → getTotpCredential c'.shared u = some credential' →
      credential'.enabledAt ≠ none → Proves r u c l c') : Recorded r c l c' where
  step v credential credential' hc he hc' he' hne := by
    by_cases huv : u = v
    · subst huv
      exact hu credential credential' hc he hc' he'
    · rw [hget v huv, hc, Option.some.injEq] at hc'
      exact absurd (by rw [hc']) hne
  code row hrow hunused row' hrow' hid hused := by
    rw [hcodes] at hrow'
    exact absurd (not_consumed_of_mem hrow hunused hrow' hid) hused

/-- A committed write that consumes a factor records the proof of its token. -/
theorem recorded_of_write (horigin : (c.request i).Origin (r i))
    (hw : Write S a c.shared (c.request i) c'.shared (c'.request i)) :
    Recorded r c (.request i a) c' := by
  generalize c.request i = q at horigin hw
  generalize hdb' : c'.shared = db' at hw
  generalize c'.request i = q' at hw
  cases hw with
  | save u =>
    refine recorded_of_user (u := u) (by rw [hdb']; rfl) (fun v huv => ?_)
      fun _ credential' _ _ hc' he' => ?_
    · rw [hdb', getTotpCredential_savePending, if_neg huv]
    · rw [hdb', getTotpCredential_savePending, if_pos rfl] at hc'
      cases hc'
      exact absurd rfl he'
  | @enable u _ _ _ henable =>
    obtain ⟨⟨⟩, -⟩ | ⟨-, -, ⟨pending, hp, hnone, hget⟩, rows, hrows, hcodes⟩ :=
      enable_eq_some henable
    constructor
    · intro v credential credential' hc he hc' he' hne
      rw [hdb', hget] at hc'
      split_ifs at hc' with huv
      · subst huv
        rw [hp] at hc
        cases hc
        exact absurd hnone he
      · rw [hc, Option.some.injEq] at hc'
        exact absurd (by rw [hc']) hne
    · intro row hrow hunused row' hrow' hid hused
      rw [hdb'] at hrow'
      rcases (hcodes row').1 hrow' with hnew | ⟨hold, -⟩
      · exact absurd (of_mem_recoveryCodeRows hrows hnew).2 hused
      · exact absurd (not_consumed_of_mem hrow hunused hold hid) hused
  | @delete u _ _ _ hdelete =>
    obtain ⟨⟨⟩, -⟩ | ⟨-, hcodes, hget, -⟩ := deleteTotpCredential_eq hdelete
    refine recorded_of_user (u := u) (by rw [hdb', hcodes]) (fun v huv => ?_)
      fun _ credential' _ _ hc' _ => ?_
    · rw [hdb', hget, if_neg huv]
    · rw [hdb', hget, if_pos rfl] at hc'
      cases hc'
  | @totp u jti _ _ _ _ hconsume =>
    obtain ⟨⟨⟩, -⟩ | ⟨-, hcodes, ⟨current, -, -, -, hget⟩, hproof⟩ := consumeTotpStep_eq hconsume
    obtain ⟨claims, t, k, hr, hu, rfl⟩ := horigin
    refine recorded_of_user (u := u) (by rw [hdb', hcodes]) (fun v huv => ?_)
      fun _ _ _ _ _ _ => ?_
    · rw [hdb', hget, if_neg huv]
    · exact ⟨i, a, claims, t, k, rfl, hr, hu, _, by rw [hdb', hproof, if_pos rfl], rfl⟩
  | @recovery u jti _ _ _ hconsume =>
    obtain ⟨⟨⟩, -⟩ | ⟨-, hcred, ⟨consumed, hmem, huser, hunused, -, hcodes⟩, hproof⟩ :=
      consumeRecoveryCode_eq_some hconsume
    obtain ⟨claims, t, k, hr, hu, rfl⟩ := horigin
    constructor
    · intro v credential credential' hc _ hc' _ hne
      rw [hdb', getTotpCredential, hcred] at hc'
      rw [getTotpCredential, hc', Option.some.injEq] at hc
      exact absurd (by rw [hc]) hne
    · intro row hrow hrowUnused row' hrow' hid hused
      rw [hdb'] at hrow'
      rcases (hcodes row').1 hrow' with rfl | ⟨hold, -⟩
      · have : row = consumed := eq_of_key hrow hmem hid.symm
        subst this
        rw [huser]
        exact ⟨i, a, claims, t, k, rfl, hr, hu, _, by rw [hdb', hproof, if_pos rfl], rfl⟩
      · exact absurd (not_consumed_of_mem hrow hrowUnused hold hid) hused

/-! ### Runs -/

variable [DecidableEq ι] {l : Action ι Input Nat}

theorem Once.step (h : Once s)
    (hstep : ((protocol S ι).system.observe (Journal.record S)).step s l = some s') : Once s' := by
  obtain ⟨c, J⟩ := s
  obtain ⟨c', hbase, rfl⟩ := System.observe_step_eq_some.1 hstep
  rcases step_cases hbase with
    ⟨elapsed, rfl, rfl⟩ | ⟨i, a, rfl, hshared, hp⟩ | ⟨i, a, rfl, -, hw⟩
  · exact h.congr rfl rfl
  · rw [record_of_ne_ok hp]
    exact h.congr (by rw [hshared]) (by rw [hshared])
  · exact h.write hw

theorem recorded_along (S : Server) (r : ι → Request) (db : Db) (ls : List (Action ι Input Nat)) :
    (protocol S ι).system.Along (Recorded r) (received db r) ls := by
  refine System.along_of_invariant _ (I := fun c => ∀ i, (c.request i).Origin (r i)) ?_
    (fun _ => rfl) (System.along_true _)
  intro c l c' horigin _ hstep
  constructor
  · refine Protocol.forall_request_step _ hstep horigin (fun i _ hi => hi) ?_
    rintro i a t rfl hnext hi
    exact hi.next hnext
  · rcases step_cases hstep with
      ⟨elapsed, rfl, rfl⟩ | ⟨i, a, rfl, hshared, -⟩ | ⟨i, a, rfl, -, hw⟩
    · exact recorded_of_eq rfl rfl
    · exact recorded_of_eq (by rw [hshared]) (by rw [hshared])
    · exact recorded_of_write (horigin i) hw

/-- **Factors are accepted once.**  In every run, the time steps accepted in an enrollment
strictly increase from the one that enabled it, so that no two requests are accepted with one step;
the requests that are accepted with a recovery code take different stored codes, so that one stored
code serves one request; and a step or a code is consumed only by a request that records the proof
of its token. -/
theorem factors_one_time (S : Server) (r : ι → Request) (db : Db)
    (ls : List (Action ι Input Nat)) (s : Config ι Db Phase × Journal ι)
    (hrun : ((protocol S ι).system.observe (Journal.record S)).run
      (received db r, Journal.initial db) ls = some s) :
    (∀ u, (s.2.steps u).Pairwise fun newer older => older.2 < newer.2) ∧
    (∀ u i j step, (some i, step) ∈ s.2.steps u → (some j, step) ∈ s.2.steps u → i = j) ∧
    (∀ u, Spent s.1.shared u (s.2.codes u)) ∧
    (∀ u i j id, (i, [id]) ∈ s.2.codes u → (j, [id]) ∈ s.2.codes u → i = j) ∧
    (protocol S ι).system.Along (Recorded r) (received db r) ls := by
  have honce : Once s :=
    System.run_invariant _ (fun _ _ _ h hstep => h.step hstep) (once_initial r db) hrun
  refine ⟨honce.increasing, fun u i j step hi hj => ?_, honce.spent,
    fun u i j id => (honce.spent u).unique, recorded_along S r db ls⟩
  have hnodup : ((s.2.steps u).map Prod.snd).Nodup :=
    List.pairwise_map.2 ((honce.increasing u).imp fun h => (Int.ne_of_lt h).symm)
  exact Option.some.inj (Prod.mk.inj (List.inj_on_of_nodup_map hnodup hi hj rfl)).1

/-- Two requests present the same code in the same time step, and two the same recovery code. -/
def sameCodeRequests (i : ℕ) : Request :=
  if i < 2 then .verifyRecentMfa sampleClaims (some "666666") none
  else .verifyRecentMfa sampleClaims none (some "0123456789abcdef0123456789abcdef")

/-- An enrollment with one stored recovery code. -/
def recoverableDb : Db :=
  { enrolledDb with
    recoveryCodes := .single
      { id := "c", userId := "u", codeHash := "s$0123456789abcdef0123456789abcdef" } }

/-- Both requests of a kind check their code before either of them consumes it. -/
def sameCodeRun : List (Action ℕ Input ℕ) :=
  ([0, 1, 0, 1, 1, 0] ++ [2, 3, 2, 3, 3, 2]).map fun i => .request i {}

/-- Of two requests with the same code only one is accepted. -/
theorem factors_one_time_sameCode :
    ∃ s, ((protocol sampleServer ℕ).system.observe (Journal.record sampleServer)).run
        (received recoverableDb sameCodeRequests, Journal.initial recoverableDb) sameCodeRun =
          some s ∧
      s.2.steps "u" = [(some 1, 1), (none, 0)] ∧ s.2.codes "u" = [(3, ["c"])] ∧
      ((s.2.steps "u").Pairwise fun newer older => older.2 < newer.2) ∧
      Spent s.1.shared "u" (s.2.codes "u") := by
  have heval : (((protocol sampleServer ℕ).system.observe (Journal.record sampleServer)).run
      (received recoverableDb sameCodeRequests, Journal.initial recoverableDb) sameCodeRun).map
        (fun s => (s.2.steps "u", s.2.codes "u")) =
          some ([(some 1, 1), (none, 0)], [(3, ["c"])]) := by
    decide +kernel
  obtain ⟨s, hrun, heq⟩ := Option.map_eq_some_iff.1 heval
  obtain ⟨hsteps, hcodes⟩ := Prod.mk.inj heq
  obtain ⟨hincreasing, -, hspent, -⟩ := factors_one_time _ _ recoverableDb _ s hrun
  exact ⟨s, hrun, hsteps, hcodes, hincreasing "u", hspent "u"⟩

end Keylo.Mfa
