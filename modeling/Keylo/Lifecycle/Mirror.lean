import Keylo.Lifecycle.Requests
import Keylo.Middleware

/-!
# Principals as mirrors of their owners

The authentication middleware trusts the active flag of a principal, which is a copy of the flag of
its owner. A refresh that was overtaken by another write stores an old flag
(`stale_refresh_reenables`), and two functions change an owner without a refresh. If neither
happens, principals and owners agree whenever no request is under way, and a token of a disabled
owner is refused from the moment the disabling request has returned (`disabled_owner_rejected`).

## Main definitions

* `Steady` : the step does not leave a principal behind its owner for good.
* `Effect` : what a step does to one owner.

## Main results

* `effect_of_step` : every steady step has such an effect.
* `disabled_owner_rejected` : in steady runs, tokens of disabled owners are refused.
-/

namespace Keylo.Lifecycle

open Relational Transition Table

/-- The statement leaves no principal behind its owner for good: what a refresh writes is still
what its owner says, a refresh only fails if it is not needed, and calls are steady. -/
def steadyStep (db : Db) : Phase → Input → Bool
  | _, .call c => steadyCall db c
  | .upserting owner displayName active, .proceed =>
    readOwner db owner.1 owner.2 == some (displayName, active)
  | .reading owner, .fail => mirrored db owner
  | .upserting owner _ _, .fail => mirrored db owner
  | _, _ => true

variable {ι : Type*}

/-- The step does not leave a principal behind its owner for good. -/
def Steady (c : Config ι Db Phase) : Action ι Input Db → Bool
  | .request i a => steadyStep c.shared (c.request i) a
  | .environment _ => true

/-- The owner exists and is active. -/
def enabled (db : Db) (owner : Owner) : Bool := (readOwner db owner.1 owner.2).any Prod.snd

/-! ### Steps -/

/-- What a steady step does to the owner `k`: its principal agrees with it afterwards, or the
principal stays as it is, requests that have to refresh it still do, and the owner has changed only
if there is such a request. -/
inductive Effect (k : Owner) (c c' : Config ι Db Phase) : Prop
  | mirrored (h : mirrored c'.shared k = true)
  | kept
      (hprincipal : c'.shared.principals.lookup Principal.owner k =
        c.shared.principals.lookup Principal.owner k)
      (hrefreshes : ∀ i, (c.request i).refreshes k = true → (c'.request i).refreshes k = true)
      (howner : readOwner c'.shared k.1 k.2 = readOwner c.shared k.1 k.2 ∨
        (readOwner c'.shared k.1 k.2).isSome ∧ ∃ i, (c'.request i).refreshes k = true)

variable {k : Owner} {db : Db}

theorem mirrored_upsertPrincipal {n : String} {a : Bool} (h : readOwner db k.1 k.2 = some (n, a)) :
    mirrored (upsertPrincipal db k.1 k.2 n a) k = true := by
  refine mirrored_of_lookup (n := n) (a := a) ?_ ?_
  · exact (lookup_upsertPrincipal db k.1 k.2 n a k).trans (if_pos rfl)
  · rw [← h]
    cases k.1 <;> rfl

theorem readOwner_upsertPrincipal (db : Db) (k : Owner) (n : String) (a : Bool)
    (t : PrincipalType) (refId : String) :
    readOwner (upsertPrincipal db k.1 k.2 n a) t refId = readOwner db t refId := by
  cases t <;> rfl

variable [DecidableEq ι] {crates : Crates} {c c' : Config ι Db Phase}
  {ls : List (Action ι Input Db)} {l : Action ι Input Db} {i : ι}

theorem effect_of_next {a : Input} {db' : Db} {t' : Phase} (howned : Owned c.shared)
    (hsteady : steadyStep c.shared (c.request i) a = true)
    (h : next crates a c.shared (c.request i) = some (db', t')) (k : Owner) :
    Effect k c ⟨db', Function.update c.request i t'⟩ := by
  -- a request other than `i` has the same refreshes to do as before
  have hothers : ((c.request i).refreshes k = true → t'.refreshes k = true) → ∀ j,
      (c.request j).refreshes k = true →
        (Function.update c.request i t' j).refreshes k = true := by
    intro hi j hj
    by_cases hji : j = i
    · subst hji
      simpa using hi hj
    · simpa [hji] using hj
  unfold next at h
  generalize hphase : c.request i = t at h hsteady hothers
  split at h
  case h_1 call =>
    cases h
    cases callEffect crates howned call hsteady k with
    | mirrored hm => exact .mirrored hm
    | kept hprincipal howner => exact .kept hprincipal (hothers nofun) (.inl howner)
    | written hprincipal hsome hrefresh =>
      refine .kept hprincipal (hothers nofun) (.inr ⟨hsome, i, ?_⟩)
      simp [hrefresh, Phase.refreshes]
  case h_2 owner =>
    split at h
    · rename_i hnone
      cases h
      by_cases hk : k = owner
      · subst hk
        by_cases hdevice : k.1 = .device
        · exact .mirrored (by simp [Lifecycle.mirrored, hdevice])
        refine .mirrored (mirrored_of_none ?_)
        by_contra hsome
        have := howned k hdevice (Option.isSome_iff_ne_none.2 hsome)
        simp [hnone] at this
      · exact .kept rfl (hothers fun hr => by simp [Phase.refreshes, Ne.symm hk] at hr) (.inl rfl)
    · cases h
      exact .kept rfl (hothers id) (.inl rfl)
  case h_3 owner displayName active =>
    cases h
    by_cases hk : k = owner
    · subst hk
      exact .mirrored (mirrored_upsertPrincipal (by simpa [steadyStep] using hsteady))
    refine .kept ?_ (hothers fun hr => by simp [Phase.refreshes, Ne.symm hk] at hr)
      (.inl (readOwner_upsertPrincipal ..))
    exact (lookup_upsertPrincipal ..).trans (if_neg (Ne.symm hk))
  case h_4 owner =>
    cases h
    by_cases hk : k = owner
    · subst hk
      exact .mirrored hsteady
    · exact .kept rfl (hothers fun hr => by simp [Phase.refreshes, Ne.symm hk] at hr) (.inl rfl)
  case h_5 owner displayName active =>
    cases h
    by_cases hk : k = owner
    · subst hk
      exact .mirrored hsteady
    · exact .kept rfl (hothers fun hr => by simp [Phase.refreshes, Ne.symm hk] at hr) (.inl rfl)
  case h_6 => cases h

theorem effect_of_step (howned : Owned c.shared) (hsteady : Steady c l = true)
    (h : (protocol crates ι).system.step c l = some c') (k : Owner) : Effect k c c' := by
  obtain ⟨other, db', rfl, henv, rfl⟩ | ⟨i, a, db', t', rfl, hnext, rfl⟩ := Protocol.step_cases h
  · cases henv
    refine .kept rfl (fun _ => id) (.inl ?_)
    cases k.1 <;> rfl
  exact effect_of_next howned hsteady hnext k

/-! ### Agreement -/

omit [DecidableEq ι] in
theorem owned_of_effect (howned : Owned c.shared) (h : ∀ k, Effect k c c') : Owned c'.shared := by
  intro k hdevice hsome
  cases h k with
  | mirrored hm =>
    obtain ⟨p, hp⟩ := Option.isSome_iff_exists.1 hsome
    simp [(mirrored_iff hdevice).1 hm p hp]
  | kept hprincipal _ howner =>
    obtain hsame | ⟨hwritten, -⟩ := howner
    · rw [hsame]
      exact howned k hdevice (hprincipal ▸ hsome)
    · exact hwritten

/-- The principal of every owner agrees with it, or a request has still to refresh it. -/
structure Settled (c : Config ι Db Phase) : Prop where
  owned : Owned c.shared
  agree : ∀ k, mirrored c.shared k = true ∨ ∃ i, (c.request i).refreshes k = true

omit [DecidableEq ι] in
theorem mirrored_of_eq (h : mirrored c.shared k = true)
    (hprincipal : c'.shared.principals.lookup Principal.owner k =
      c.shared.principals.lookup Principal.owner k)
    (howner : readOwner c'.shared k.1 k.2 = readOwner c.shared k.1 k.2) :
    mirrored c'.shared k = true := by
  simpa only [mirrored, hprincipal, howner] using h

theorem Settled.step (h : Settled c) (hsteady : Steady c l = true)
    (hstep : (protocol crates ι).system.step c l = some c') : Settled c' := by
  have heffect := effect_of_step h.owned hsteady hstep
  refine ⟨owned_of_effect h.owned heffect, fun k => ?_⟩
  cases heffect k with
  | mirrored hm => exact .inl hm
  | kept hprincipal hrefreshes howner =>
    obtain hm | ⟨i, hi⟩ := h.agree k
    · obtain hsame | ⟨-, hi⟩ := howner
      · exact .inl (mirrored_of_eq hm hprincipal hsame)
      · exact .inr hi
    · exact .inr ⟨i, hrefreshes i hi⟩

theorem settled_of_run (h : Settled c)
    (hsteady : (protocol crates ι).system.Along (fun c l _ => Steady c l = true) c ls)
    (hrun : (protocol crates ι).system.run c ls = some c') : Settled c' :=
  (protocol crates ι).system.run_invariant_along (fun _ _ _ hs hP hstep => hs.step hP hstep) h
    hsteady hrun

/-- Every principal has the name and the flag of its owner. -/
def Agree (db : Db) : Prop :=
  ∀ p ∈ db.principals, p.principalType ≠ .device →
    readOwner db p.principalType p.refId = some (p.displayName, p.active)

theorem agree_iff : Agree db ↔ ∀ k, mirrored db k = true := by
  constructor
  · intro h k
    by_cases hdevice : k.1 = .device
    · simp [mirrored, hdevice]
    refine (mirrored_iff hdevice).2 fun p hp => ?_
    obtain ⟨hmem, rfl⟩ := lookup_eq_some_iff.1 hp
    exact h p hmem hdevice
  · intro h p hp hdevice
    exact (mirrored_iff (k := p.owner) hdevice).1 (h p.owner) p
      (lookup_eq_some_iff.2 ⟨hp, rfl⟩)

omit [DecidableEq ι] in
theorem settled_of_agree (h : Agree c.shared) : Settled c where
  owned k hdevice hsome := by
    obtain ⟨p, hp⟩ := Option.isSome_iff_exists.1 hsome
    simp [(mirrored_iff hdevice).1 (agree_iff.1 h k) p hp]
  agree k := .inl (agree_iff.1 h k)

/-! ### Disabled owners -/

/-- The principal of the owner is missing or inactive. -/
def Inactive (db : Db) (k : Owner) : Prop :=
  ∀ p, db.principals.lookup Principal.owner k = some p → p.active = false

theorem inactive_of_mirrored (hdevice : k.1 ≠ .device) (h : mirrored db k = true)
    (henabled : enabled db k = false) : Inactive db k := by
  intro p hp
  simpa [enabled, (mirrored_iff hdevice).1 h p hp] using henabled

section Disabled

variable {l : Action ι Input Db} (hdevice : k.1 ≠ .device) (hsettled : Settled c)
  (hsteady : Steady c l = true) (hstep : (protocol crates ι).system.step c l = some c')
  (henabled : enabled c'.shared k = false)

include hdevice hsettled hsteady hstep henabled

/-- An inactive principal stays inactive while its owner is disabled. -/
theorem inactive_step (h : Inactive c.shared k) : Inactive c'.shared k := by
  cases effect_of_step hsettled.owned hsteady hstep k with
  | mirrored hm => exact inactive_of_mirrored hdevice hm henabled
  | kept hprincipal => exact fun p hp => h p (hprincipal ▸ hp)

/-- A request that has to refresh the principal of a disabled owner does so, or leaves it
inactive. -/
theorem refreshes_step (h : (c.request i).refreshes k = true) :
    Inactive c'.shared k ∨ (c'.request i).refreshes k = true := by
  cases effect_of_step hsettled.owned hsteady hstep k with
  | mirrored hm => exact .inl (inactive_of_mirrored hdevice hm henabled)
  | kept _ hrefreshes => exact .inr (hrefreshes i h)

end Disabled

theorem disabled_run {I : Config ι Db Phase → Prop}
    (hI : ∀ c l c', Settled c → Steady c l = true →
      (protocol crates ι).system.step c l = some c' → enabled c'.shared k = false → I c → I c')
    (hsettled : Settled c)
    (hsteady : (protocol crates ι).system.Along (fun c l _ => Steady c l = true) c ls)
    (henabled : (protocol crates ι).system.Along (fun _ _ c' => enabled c'.shared k = false) c ls)
    (hrun : (protocol crates ι).system.run c ls = some c') (h : I c) : I c' := by
  refine ((protocol crates ι).system.run_invariant_along (I := fun c => Settled c ∧ I c)
    (fun s l s' hs hP hstep => ?_) ⟨hsettled, h⟩
    ((protocol crates ι).system.along_and hsteady henabled) hrun).2
  exact ⟨hs.1.step hP.1 hstep, hI s l s' hs.1 hP.1 hstep hP.2 hs.2⟩

variable {call : Call}

/-- A call that disables an owner refreshes its principal next, or the principal agrees with the
owner already. -/
theorem refresh_or_mirrored_of_disables (hsteady : steadyCall db call = true)
    (h : disables crates db call = some k) :
    (transaction crates db call).2 = some k ∨
      (transaction crates db call).2 = none ∧ mirrored db k = true := by
  cases call with
  | updateUser | updateManagementClient | updateServiceClient =>
    simp only [disables] at h
    split_ifs at h
    exact .inl h
  | setUserActive =>
    simp only [disables] at h
    split_ifs at h
    obtain ⟨user, -, rfl⟩ := Option.map_eq_some_iff.1 h
    simp only [steadyCall, Bool.and_eq_true] at hsteady
    exact .inr ⟨rfl, hsteady.2⟩
  | updateServiceClientAsOrganizationManager o actor serviceId name active =>
    simp only [disables] at h
    split_ifs at h with hactive
    obtain ⟨service, -, rfl⟩ := Option.map_eq_some_iff.1 h
    simp only [steadyCall, hactive.1, Bool.and_eq_true, Option.isNone_some, Bool.false_or]
      at hsteady
    refine .inr ⟨?_, hsteady.2⟩
    simp only [transaction]
    cases updateServiceClientAsOrganizationManager db o actor serviceId name active <;> rfl
  | _ => cases h

theorem disables_ne_device (h : disables crates db call = some k) :
    k.1 ≠ .device := by
  cases call with
  | updateUser | updateManagementClient | updateServiceClient =>
    simp only [disables, transaction] at h
    split_ifs at h
    split at h <;> cases h
    rintro ⟨⟩
  | setUserActive | updateServiceClientAsOrganizationManager =>
    simp only [disables] at h
    split_ifs at h
    obtain ⟨-, -, rfl⟩ := Option.map_eq_some_iff.1 h
    rintro ⟨⟩
  | _ => cases h

/-- Right after the transaction of a disabling call, the principal is inactive or about to be
refreshed by the same request. -/
theorem inactive_or_refreshes_of_disables (hsettled : Settled c)
    (hsteady : Steady c (.request i (.call call)) = true)
    (h : disables crates c.shared call = some k)
    (hstep : (protocol crates ι).system.step c (.request i (.call call)) = some c')
    (henabled : enabled c'.shared k = false) :
    Inactive c'.shared k ∨ (c'.request i).refreshes k = true := by
  have hdevice := disables_ne_device h
  have hcall : steadyCall c.shared call = true := hsteady
  obtain ⟨db', t', hnext, rfl⟩ := (protocol crates ι).step_request_eq_some.1 hstep
  have hidle : c.request i = .idle ∧ db' = (transaction crates c.shared call).1 ∧
      t' = (transaction crates c.shared call).2.elim .idle .reading := by
    cases hphase : c.request i with
    | idle =>
      rw [hphase] at hnext
      cases hnext
      exact ⟨rfl, rfl, rfl⟩
    | reading | upserting =>
      rw [hphase] at hnext
      cases hnext
  obtain ⟨-, rfl, rfl⟩ := hidle
  obtain hrefresh | ⟨hnone, hm⟩ := refresh_or_mirrored_of_disables hcall h
  · exact .inr (by simp [hrefresh, Phase.refreshes])
  cases callEffect crates hsettled.owned call hcall k with
  | mirrored hm => exact .inl (inactive_of_mirrored hdevice hm henabled)
  | kept hprincipal howner =>
    refine .inl (inactive_of_mirrored hdevice ?_ henabled)
    simpa only [mirrored, hprincipal, howner] using hm
  | written _ _ hrefresh => simp [hnone] at hrefresh

omit [DecidableEq ι] in
theorem not_accepted_of_inactive (h : Inactive db k) {checks : TokenChecks} {path : String}
    {bearer : Option String} {claims : Claims}
    (haccept : authMiddleware checks (some db) path bearer = .ok claims) :
    claims.principalId ≠ some (principalId k.1 k.2) := by
  intro hid
  obtain ⟨p, hp, hactive⟩ := exists_principal_of_authMiddleware haccept hid
  rw [lookup_id_eq] at hp
  simp [h p hp] at hactive

/-- In every run of steady steps from a state in which principals and owners agree: they agree
again in every state without requests under way; and once a request that has disabled an owner has
returned, no token of its principal is accepted as long as the owner has not been enabled again. -/
theorem disabled_owner_rejected (crates : Crates) (c₀ : Config ι Db Phase)
    (hagree : Agree c₀.shared) :
    (∀ ls c, (protocol crates ι).system.run c₀ ls = some c →
      (protocol crates ι).system.Along (fun c l _ => Steady c l = true) c₀ ls →
      (∀ i, c.request i = .idle) → Agree c.shared) ∧
    ∀ before c₁ i call k during c₂ after c₃,
      (protocol crates ι).system.run c₀ before = some c₁ →
      disables crates c₁.shared call = some k →
      (protocol crates ι).system.run c₁ (.request i (.call call) :: during) = some c₂ →
      c₂.request i = .idle →
      (protocol crates ι).system.run c₂ after = some c₃ →
      (protocol crates ι).system.Along (fun c l _ => Steady c l = true) c₀
        (before ++ (.request i (.call call) :: during ++ after)) →
      (protocol crates ι).system.Along (fun _ _ c' => enabled c'.shared k = false) c₁
        (.request i (.call call) :: during ++ after) →
      ∀ checks path bearer claims,
        authMiddleware checks (some c₃.shared) path bearer = .ok claims →
        claims.principalId ≠ some (principalId k.1 k.2) := by
  have hsettled₀ : Settled c₀ := settled_of_agree hagree
  constructor
  · intro ls c hrun hsteady hidle
    refine agree_iff.2 fun k => ?_
    refine ((settled_of_run hsettled₀ hsteady hrun).agree k).resolve_right ?_
    rintro ⟨i, hi⟩
    simp [hidle i, Phase.refreshes] at hi
  · intro before c₁ i call k during c₂ after c₃ hbefore hdisables hduring hreturned hafter hsteady
      henabled checks path bearer claims haccept
    have hdevice := disables_ne_device hdisables
    obtain ⟨hsteady₀, hsteady₁⟩ := ((protocol crates ι).system.along_append hbefore).1 hsteady
    obtain ⟨hsteady₁, hsteady₂⟩ := ((protocol crates ι).system.along_append hduring).1 hsteady₁
    obtain ⟨henabled₁, henabled₂⟩ := ((protocol crates ι).system.along_append hduring).1 henabled
    have hsettled₁ := settled_of_run hsettled₀ hsteady₀ hbefore
    -- the transaction of the disabling call, and what the request does until it returns
    obtain ⟨c', hcall, hrest⟩ := (protocol crates ι).system.run_cons_eq_some.1 hduring
    obtain ⟨hsteadyCall, hsteadyRest⟩ := ((protocol crates ι).system.along_cons hcall).1 hsteady₁
    obtain ⟨henabledCall, henabledRest⟩ :=
      ((protocol crates ι).system.along_cons hcall).1 henabled₁
    have hinactive₂ : Inactive c₂.shared k := by
      have hstart := inactive_or_refreshes_of_disables hsettled₁ hsteadyCall hdisables hcall
        henabledCall
      have hend := disabled_run
        (I := fun c => Inactive c.shared k ∨ (c.request i).refreshes k = true)
        (fun c l c' hsettled hsteady hstep henabled h => h.elim
          (fun h => .inl (inactive_step hdevice hsettled hsteady hstep henabled h))
          (refreshes_step hdevice hsettled hsteady hstep henabled))
        (hsettled₁.step hsteadyCall hcall) hsteadyRest henabledRest hrest hstart
      exact hend.resolve_right (by simp [hreturned, Phase.refreshes])
    -- from then on the principal stays inactive, whatever other requests do
    have hinactive₃ : Inactive c₃.shared k :=
      disabled_run (I := fun c => Inactive c.shared k)
        (fun c l c' hsettled hsteady hstep henabled h =>
          inactive_step hdevice hsettled hsteady hstep henabled h)
        (settled_of_run hsettled₁ hsteady₁ hduring) hsteady₂ henabled₂ hafter hinactive₂
    exact not_accepted_of_inactive hinactive₃ haccept

/-- Tokens that all carry the principal of the user `u`. -/
def userClaims : Claims := { principalId := some (principalId .user "u"), jti := "t" }

def userChecks : TokenChecks where
  decodeToken _ := .ok userClaims
  isTokenBlacklisted _ := some false

/-- Request `0` creates the user `u` and refreshes its principal. -/
def createRun : List (Action (Fin 2) Input Db) :=
  [.request 0 (.call (.createUser "" "u" { username := "u", email := "e" })),
    .request 0 .proceed, .request 0 .proceed]

/-- Disables the user `u`. -/
def disableCall : Call := .updateUser "" "u" { active := some false }

/-- Request `1` refreshes the principal of the user it has disabled. -/
def disableRun : List (Action (Fin 2) Input Db) := [.request 1 .proceed, .request 1 .proceed]

/-- A login by request `0`. -/
def loginRun : List (Action (Fin 2) Input Db) :=
  [.request 0 (.call (.ensureUserPrincipal "u")), .request 0 .proceed, .request 0 .proceed]

def emptyConfig : Config (Fin 2) Db Phase := ⟨{}, fun _ => .idle⟩

/-- The user is created and disabled, and a login refreshes the principal afterwards. -/
theorem disabled_owner_rejected_login :
    ∃ c, (protocol Crates.readable (Fin 2)).system.run emptyConfig
        (createRun ++ (.request 1 (.call disableCall) :: disableRun ++ loginRun)) = some c ∧
      Agree c.shared ∧
      ∀ path claims, authMiddleware userChecks (some c.shared) path (some "t") = .ok claims →
        claims.principalId ≠ some (principalId .user "u") := by
  have hagree : Agree emptyConfig.shared := fun p hp => absurd hp not_mem_empty
  have h := disabled_owner_rejected Crates.readable emptyConfig hagree
  refine ⟨_, rfl, ?_, fun path claims haccept => ?_⟩
  · exact h.1 (createRun ++ (.request 1 (.call disableCall) :: disableRun ++ loginRun)) _ rfl
      (by decide +kernel) (by decide +kernel)
  · exact h.2 createRun _ 1 disableCall (.user, "u") disableRun _ loginRun _ rfl
      (by decide +kernel) rfl (by decide +kernel) rfl (by decide +kernel) (by decide +kernel)
      userChecks path (some "t") claims haccept

/-- A login reads the user, then the user is disabled and the principal refreshed, and then the
login stores what it has read: the principal of the disabled user is active again. -/
theorem stale_refresh_reenables :
    ∃ c, (protocol Crates.readable (Fin 2)).system.run emptyConfig
        (createRun ++ [.request 0 (.call (.ensureUserPrincipal "u")), .request 0 .proceed,
          .request 1 (.call disableCall), .request 1 .proceed, .request 1 .proceed,
          .request 0 .proceed]) = some c ∧
      (∀ i, c.request i = .idle) ∧ readOwner c.shared .user "u" = some ("u", false) ∧
      c.shared.principals.lookup Principal.owner (.user, "u") = some ⟨.user, "u", "u", true⟩ ∧
      authMiddleware userChecks (some c.shared) "/v1/auth/me" (some "t") = .ok userClaims := by
  refine ⟨_, rfl, ?_, ?_, ?_, ?_⟩ <;> decide +kernel

end Keylo.Lifecycle
