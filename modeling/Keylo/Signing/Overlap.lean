import Keylo.Signing.Published

/-!
# The overlaps that rotations promise

A rotation or a rollback takes the active key out of use and says for how long its tokens stay
valid. There is one passive key only: the next rotation puts another key in its place, whether or
not the overlap of the first has ended.

## Main definitions

* `promise` : the overlaps that have been promised, as a history variable.
* `Honoured` : tokens of a key whose overlap is running are accepted.
* `Patient` : the step does not take a key out of use while another overlap is running.

## Main results

* `overlap_honoured` : promises are honoured in every run of patient steps.
* `overlap_cut_short` : a run with a second rotation.
-/

namespace Keylo.Signing

open Transition

/-- A key that was taken out of use, and when its overlap ends. -/
structure Promise where
  keyId : String
  key : RsaPublicKey
  deadline : Int

/-- Records the overlap of every rotation and rollback that succeeds; a key that is retired has
none any more. -/
def promise (reader : KeyReader) (promises : List Promise) (s : RingState) (step : Step)
    (_ : RingState) : List Promise :=
  match step with
  | .call (.retirePassive keyId) => promises.filter fun p => p.keyId != keyId
  | .call (.rotate keyId privateKeyPem publicKeyPem overlapSeconds) =>
    if (s.keys.call reader s.now (.rotate keyId privateKeyPem publicKeyPem overlapSeconds)).1 then
      ⟨s.keys.active.keyId, s.keys.active.decoding, s.now + overlapSeconds⟩ :: promises
    else promises
  | .call (.rollback keyId overlapSeconds) =>
    if (s.keys.call reader s.now (.rollback keyId overlapSeconds)).1 then
      ⟨s.keys.active.keyId, s.keys.active.decoding, s.now + overlapSeconds⟩ :: promises
    else promises
  | .tick _ => promises

/-- Every token of a key whose overlap is running is accepted, unless it has expired or is of
another issuer or audience. -/
def Honoured (s : RingState) (promises : List Promise) : Prop :=
  ∀ p ∈ promises, s.now < p.deadline → ∀ token : SignedToken, token.kid = some p.keyId →
    token.key = p.key → s.keys.Admits s.now token.claims →
    s.keys.decodeToken s.now token = .ok token.claims

/-- A rotation is called after all promised overlaps have ended, a rollback after all but that of
the key it promotes; and the end of the new overlap is a machine integer. -/
def Patient (s : RingState) (promises : List Promise) : Step → Prop
  | .call (.rotate _ _ _ overlapSeconds) =>
    (∀ p ∈ promises, p.deadline ≤ s.now) ∧ overlapEnd s.now overlapSeconds = s.now + overlapSeconds
  | .call (.rollback keyId overlapSeconds) =>
    (∀ p ∈ promises, p.deadline ≤ s.now ∨ p.keyId = keyId) ∧
      overlapEnd s.now overlapSeconds = s.now + overlapSeconds
  | _ => True

/-- The key of a promise is active, or passive until the promised time. -/
def Keys.Keeps (keys : Keys) (p : Promise) : Prop :=
  keys.active.keyId = p.keyId ∧ keys.active.decoding = p.key ∨
    ∃ pair ∈ keys.passive, pair.keyId = p.keyId ∧ pair.decoding = p.key ∧
      ∃ expiresAt, pair.expiresAt = some expiresAt ∧ p.deadline ≤ expiresAt

/-- The ring is valid and keeps every promise until its deadline. -/
structure Kept (reader : KeyReader) (s : RingState) (promises : List Promise) : Prop where
  valid : s.keys.Valid reader
  keeps : ∀ p ∈ promises, s.now < p.deadline → s.keys.Keeps p

variable {reader : KeyReader} {s s' : RingState} {promises : List Promise} {step : Step}

theorem Kept.honoured (h : Kept reader s promises) : Honoured s promises := by
  intro p hp hrunning token hkid hkey hadmits
  refine decodeToken_eq_ok_iff.2 ((decodeWithKey_eq_ok_iff h.valid hkid).2 ⟨?_, hadmits, rfl⟩)
  obtain ⟨hid, hactive⟩ | ⟨pair, hmem, hid, hpair, expiresAt, hexpires, hlate⟩ :=
    h.keeps p hp hrunning
  · exact .inl ⟨hid, hactive.trans hkey.symm⟩
  · refine .inr ⟨pair, hmem, ?_, hid, hpair.trans hkey.symm⟩
    simp only [KeyPair.isLive, hexpires, Option.all_some, decide_eq_true_eq]
    exact hrunning.trans_le hlate

/-- The key that was active is passive for the new overlap. -/
theorem keeps_demoted {keys : Keys} {active : KeyPair} {now overlapSeconds : Int}
    (hend : overlapEnd now overlapSeconds = now + overlapSeconds) :
    (keys.promote now active overlapSeconds).Keeps
      ⟨keys.active.keyId, keys.active.decoding, now + overlapSeconds⟩ :=
  .inr ⟨_, List.mem_singleton_self _, rfl, rfl, _, rfl, hend.ge⟩

theorem Kept.of_step (h : Kept reader s promises) (hpatient : Patient s promises step)
    (hstep : (system reader).step s step = some s') :
    Kept reader s' (promise reader promises s step s') := by
  have hvalid := (valid_step hstep h.valid).1
  obtain ⟨c, rfl, rfl⟩ | ⟨now, rfl, rfl⟩ := step_eq_some hstep
  · refine ⟨hvalid, ?_⟩
    generalize hresult : s.keys.call reader s.now c = result
    cases effect_call hresult with
    | failed =>
      have hsame : ∀ p ∈ promise reader promises s (.call c) s, p ∈ promises := by
        cases c <;> simp +contextual [promise, hresult]
      exact fun p hp => h.keeps p (hsame p hp)
    | rotated =>
      simp only [promise, hresult, if_true]
      intro p hp hrunning
      obtain rfl | hp := List.mem_cons.1 hp
      · exact keeps_demoted hpatient.2
      · exact absurd (hpatient.1 p hp) (not_le.2 hrunning)
    | rolledBack hmem hlive hid =>
      simp only [promise, hresult, if_true]
      intro p hp hrunning
      obtain rfl | hp := List.mem_cons.1 hp
      · exact keeps_demoted hpatient.2
      have hkeyId := (hpatient.1 p hp).resolve_left (not_le.2 hrunning)
      obtain ⟨hactive, -⟩ | ⟨pair, hpair, hpairId, hkey, -⟩ := h.keeps p hp hrunning
      · exact absurd (hid.trans (hkeyId.symm.trans hactive.symm)) (h.valid.passive_keyId _ hmem)
      · obtain rfl := eq_of_mem_of_length_le_one h.valid.passive_length hmem hpair
        exact .inl ⟨hpairId, hkey⟩
    | retired =>
      intro p hp hrunning
      obtain ⟨hp, hne⟩ := List.mem_filter.1 hp
      refine (h.keeps p hp hrunning).imp_right ?_
      rintro ⟨pair, hpair, hpairId, hrest⟩
      exact ⟨pair, List.mem_filter.2 ⟨hpair, hpairId ▸ hne⟩, hpairId, hrest⟩
  · have hlater : s.now ≤ now := by
      by_contra hearlier
      simp [system, hearlier] at hstep
    exact ⟨hvalid, fun p hp hrunning => h.keeps p hp (hlater.trans_lt hrunning)⟩

/-- From a configured ring, in every run of patient steps the promised overlaps are honoured. -/
theorem overlap_honoured {config : KeyConfig} {start : Int} {keys : Keys} {steps : List Step}
    (hconfig : validateCommon config = [])
    (hkeys : Keys.fromConfig reader config start = .ok keys)
    (hpatient : ((system reader).observe (promise reader)).Along
      (fun c step _ => Patient c.1 c.2 step) (⟨keys, start⟩, []) steps)
    (hrun : ((system reader).observe (promise reader)).run (⟨keys, start⟩, []) steps =
      some (s, promises)) : Honoured s promises := by
  have hstart : Kept reader ⟨keys, start⟩ [] :=
    ⟨valid_fromConfig hkeys hconfig, fun _ hp => absurd hp List.not_mem_nil⟩
  have hkept : Kept reader s promises := System.run_invariant_along _
    (I := fun c => Kept reader c.1 c.2) (fun c step c' h hpatient hstep => by
      obtain ⟨_, hbase, rfl⟩ := System.observe_step_eq_some.1 hstep
      exact h.of_step hpatient hbase) hstart hpatient hrun
  exact hkept.honoured

/-- A rotation, a rollback within its overlap, and a rotation when both overlaps have ended. -/
def patientSteps : List Step :=
  [rotation, .tick 100, .call (.rollback "k1" 300), .tick 400, .call (.rotate "k3" "ppp" "ppp" 300),
    .tick 600]

theorem overlap_honoured_rollback :
    ∃ s promises, ((system lengthReader).observe (promise lengthReader)).run (⟨ring, 0⟩, [])
      patientSteps = some (s, promises) ∧ promises.length = 3 ∧ Honoured s promises := by
  have hpatient : ((system lengthReader).observe (promise lengthReader)).Along
      (fun c step _ => Patient c.1 c.2 step) (⟨ring, 0⟩, []) patientSteps := by
    refine ⟨⟨nofun, rfl⟩, trivial, ⟨?_, rfl⟩, trivial, ⟨?_, rfl⟩, trivial, trivial⟩
    · decide +kernel
    · decide +kernel
  have hconfig : validateCommon ringConfig = [] := by decide
  exact ⟨_, _, rfl, rfl, overlap_honoured hconfig rfl hpatient rfl⟩

/-- Two rotations within the overlap of the first key: its tokens are rejected, although the overlap
is running and the key was not retired. -/
theorem overlap_cut_short :
    ∃ s promises, ((system lengthReader).observe (promise lengthReader)).run (⟨ring, 0⟩, [])
        [rotation, .tick 10, .call (.rotate "k3" "ppp" "ppp" 300)] = some (s, promises) ∧
      ⟨"k1", ⟨1, 3⟩, 300⟩ ∈ promises ∧ s.now = 10 ∧
      ring.signToken ringClaims = .ok ⟨some "k1", ringClaims, ⟨1, 3⟩⟩ ∧
      s.keys.decodeToken s.now ⟨some "k1", ringClaims, ⟨1, 3⟩⟩ = .error .invalidToken ∧
      ¬ Honoured s promises := by
  refine ⟨_, _, rfl, .tail _ (.head _), rfl, rfl, by decide, fun h => ?_⟩
  have haccepted := h ⟨"k1", ⟨1, 3⟩, 300⟩ (.tail _ (.head _)) (by decide)
    ⟨some "k1", ringClaims, ⟨1, 3⟩⟩ rfl rfl ⟨by decide, rfl, by decide⟩
  exact absurd haccepted (by decide)

end Keylo.Signing
