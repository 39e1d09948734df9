import Keylo.Signing.Restarts

/-!
# The files of a request that fails

A request that rotates, rolls back or retires a key writes files and changes the keys in memory.
Nothing undoes the files that are written when a later one cannot be, or when the keys are not
changed.

## Main definitions

* `Keys.persisted` : the files that hold the keys of a ring.
* `alone` : one request by itself, with the failures of its steps.

## Main results

* `files_hold_keys_iff_refuses` : the files hold the keys of the ring whenever a request has ended
  if and only if the request is refused before it writes.
* `files_split_by_rotation` : a rotation to the id of the active key.
-/

namespace Keylo.Signing

open Transition

/-- The files that hold the keys of a ring, which has one passive key at most. -/
def Keys.persisted (keys : Keys) : KeyFiles
  | .privateKey => keys.active.privateKeyPem
  | .publicKey => some keys.active.publicKeyPem
  | .keyId => some keys.active.keyId
  | .passivePrivateKey => keys.passive.head?.bind KeyPair.privateKeyPem
  | .passivePublicKey => keys.passive.head?.map KeyPair.publicKeyPem
  | .passiveKeyId => keys.passive.head?.map KeyPair.keyId

/-- The files are those of the keys in memory. -/
def Host.HoldsKeys (host : Host) : Prop := host.files = host.keys.persisted

def Input.isRequest : Input → Bool
  | .rotate .. | .rollback _ | .retire _ => true
  | _ => false

variable (settings : KeySettings) (reader : KeyReader)

/-- One request by itself: its steps, each of which may fail. -/
def alone : System (Host × Phase) Input where
  step s input := nextPhase settings reader input s.1 s.2

/-- The request comes to the end, with whatever failures. -/
def Ends (host : Host) (request : Input) (host' : Host) : Prop :=
  ∃ inputs result, (∀ input ∈ inputs, input.isRequest = false) ∧
    (alone settings reader).run (host, .idle) (request :: inputs) = some (host', .answered result)

/-- The checks that a request makes before it writes. -/
def Input.refuses (host : Host) : Input → Bool
  | .rotate request uuid => !(checkRotation settings host.keys request uuid).toBool
  | .rollback keyId => (host.keys.passiveKeyMaterial host.now keyId).isNone
  | .retire keyId => !(host.keys.retirePassive keyId).1
  | _ => false

variable {settings reader} {host host' : Host} {request : Input}

theorem run_answered {result : Except AuthError KeyResponse} {inputs : List Input}
    {s : Host × Phase} (hinputs : ∀ input ∈ inputs, input.isRequest = false)
    (h : (alone settings reader).run (host, .answered result) inputs = some s) :
    s = (host, .answered result) := by
  cases inputs with
  | nil => exact (Option.some.inj h).symm
  | cons input =>
    have hinput := hinputs input List.mem_cons_self
    cases input with
    | rotate | rollback | retire => cases hinput
    | _ => cases h

/-- A request that is refused has written nothing. -/
theorem holdsKeys_of_refuses (hfiles : host.HoldsKeys) (hrefuses : request.refuses settings host)
    (hends : Ends settings reader host request host') : host'.HoldsKeys := by
  obtain ⟨inputs, result, hinputs, hrun⟩ := hends
  have hanswered : ∃ e, receive settings host request = some (host, .answered e) := by
    cases request with
    | rotate request uuid =>
      simp only [Input.refuses] at hrefuses
      simp only [receive]
      cases hcheck : checkRotation settings host.keys request uuid with
      | error => exact ⟨_, rfl⟩
      | ok =>
        rw [hcheck] at hrefuses
        cases hrefuses
    | rollback =>
      simp only [Input.refuses, Option.isNone_iff_eq_none] at hrefuses
      simp only [receive, hrefuses]
      exact ⟨_, rfl⟩
    | retire =>
      simp only [Input.refuses, Bool.not_eq_true'] at hrefuses
      simp only [receive]
      split
      · exact ⟨_, rfl⟩
      rename_i hretire
      rw [hretire] at hrefuses
      cases hrefuses
    | _ => cases hrefuses
  obtain ⟨e, he⟩ := hanswered
  have hstep : (alone settings reader).step (host, .idle) request = some (host, .answered e) := by
    cases request <;> exact he
  obtain ⟨s, hs, hrest⟩ := (alone settings reader).run_cons_eq_some.1 hrun
  obtain rfl := Option.some.inj (hstep.symm.trans hs)
  cases run_answered hinputs hrest
  exact hfiles

/-- The file with the passive id is removed, and a passive public key written; no ring has these
files. -/
theorem not_holdsKeys (hid : host.files .passiveKeyId = none)
    (hkey : (host.files .passivePublicKey).isSome = true) : ¬ host.HoldsKeys := by
  intro hfiles
  rw [Host.HoldsKeys] at hfiles
  rw [hfiles] at hid hkey
  rw [Keys.persisted, Option.map_eq_none_iff] at hid
  rw [Keys.persisted, hid] at hkey
  cases hkey

/-- The handler stops before the sixth of its steps on files. -/
def stops : List Input := List.replicate 5 (.write none) ++ [.write (some "")]

theorem passive_of_retired {keyId : String} (hvalid : host.keys.Valid reader)
    (hretired : (host.keys.retirePassive keyId).1 = true) :
    ∃ pair, host.keys.passive = [pair] ∧ (host.keys.retirePassive keyId).2.passive = [] := by
  have hlength := hvalid.passive_length
  simp only [Keys.retirePassive, bne_iff_ne] at hretired ⊢
  cases hpassive : host.keys.passive with
  | nil =>
    rw [hpassive] at hretired
    exact absurd rfl hretired
  | cons pair rest =>
    rw [hpassive, List.length_cons] at hlength
    obtain rfl : rest = [] := List.length_eq_zero_iff.1 (by omega)
    refine ⟨pair, rfl, ?_⟩
    rw [hpassive] at hretired
    by_cases hkeyId : (pair.keyId != keyId) = true
    · simp [hkeyId] at hretired
    · simp [hkeyId]

/-- A request that passes its checks may leave other files. -/
theorem exists_ends_not_holdsKeys (hvalid : host.keys.Valid reader) (hfiles : host.HoldsKeys)
    (hrequest : request.isRequest = true) (hrefuses : request.refuses settings host = false) :
    ∃ host', Ends settings reader host request host' ∧ ¬ host'.HoldsKeys := by
  obtain ⟨activePrivate, hprivate⟩ : ∃ pem, host.keys.active.privateKeyPem = some pem :=
    Option.isSome_iff_exists.1 (hvalid.active_wellFormed.private_iff ▸ hvalid.active_signs)
  let M := alone settings reader
  let reads := Input.read (.ok ("", ""))
  have hinputs : ∀ input ∈ reads :: reads :: stops, input.isRequest = false := by decide
  cases request with
  | rotate request uuid =>
    have hreceive : ∃ keyId overlapSeconds, M.step (host, .idle) (.rotate request uuid) =
        some (host, .rotationChecked keyId overlapSeconds) := by
      simp only [Input.refuses] at hrefuses
      simp only [M, alone, nextPhase, isReady, receive]
      cases hcheck : checkRotation settings host.keys request uuid with
      | error =>
        rw [hcheck] at hrefuses
        cases hrefuses
      | ok => exact ⟨_, _, rfl⟩
    obtain ⟨keyId, overlapSeconds, hreceive⟩ := hreceive
    have hread : M.step (host, .rotationNamed keyId overlapSeconds host.keys.active.keyId) reads =
        some (host, .writing (persistPairs activePrivate host.keys.active.publicKeyPem
          host.keys.active.keyId "" "" keyId) (some (.rotate keyId "" "" overlapSeconds))
          (some overlapSeconds)) := by
      simp only [M, alone, nextPhase, readKeys, hprivate, reads]
    refine ⟨_, ⟨_, _, hinputs, M.run_cons_eq_some.2 ⟨_, hreceive, M.run_cons_eq_some.2 ⟨_, rfl,
      M.run_cons_eq_some.2 ⟨_, hread, rfl⟩⟩⟩⟩, not_holdsKeys rfl rfl⟩
  | rollback keyId =>
    obtain ⟨⟨passivePrivate, passivePublic⟩, hmaterial⟩ :=
      Option.isSome_iff_exists.1 (Option.isNone_eq_false_iff.1 hrefuses)
    have hreceive : M.step (host, .idle) (.rollback keyId) =
        some (host, .rollbackFound keyId passivePrivate passivePublic) := by
      simp only [M, alone, nextPhase, isReady, receive, hmaterial, if_true]
    have hread : M.step (host, .rollbackFound keyId passivePrivate passivePublic) reads =
        some (host, .rollbackRead keyId passivePrivate passivePublic activePrivate
          host.keys.active.publicKeyPem) := by
      simp only [M, alone, nextPhase, readKeys, hprivate, Option.map_some, reads]
    exact ⟨_, ⟨_, _, hinputs, M.run_cons_eq_some.2 ⟨_, hreceive, M.run_cons_eq_some.2 ⟨_, hread,
      M.run_cons_eq_some.2 ⟨_, rfl, rfl⟩⟩⟩⟩, not_holdsKeys rfl rfl⟩
  | retire keyId =>
    have hretired : (host.keys.retirePassive keyId).1 = true := by
      simpa [Input.refuses] using hrefuses
    have hreceive : M.step (host, .idle) (.retire keyId) =
        some ({ host with keys := (host.keys.retirePassive keyId).2 },
          .writing removePassiveFiles none none) := by
      simp only [M, alone, nextPhase, isReady, receive, if_true]
      split
      · rename_i hretire
        rw [hretire] at hretired
        cases hretired
      · rename_i keys hretire
        rw [hretire]
    -- the file of the public key exists, and is not removed
    refine ⟨_, ⟨[.write none, .write (some "")], _, by decide, M.run_cons_eq_some.2
      ⟨_, hreceive, rfl⟩⟩, fun hholds => ?_⟩
    obtain ⟨pair, hpassive, hnone⟩ := passive_of_retired hvalid hretired
    have hid : host.files .passiveKeyId = ((host.keys.retirePassive keyId).2.passive.head?.map
      KeyPair.keyId) := congrFun hholds .passiveKeyId
    rw [hfiles, Keys.persisted, hpassive, hnone] at hid
    cases hid
  | _ => cases hrequest

/-- The files hold the keys of the ring whenever the request has ended, if and only if it is refused
before it writes. -/
theorem files_hold_keys_iff_refuses (hvalid : host.keys.Valid reader) (hfiles : host.HoldsKeys)
    (hrequest : request.isRequest = true) :
    (∀ host', Ends settings reader host request host' → host'.HoldsKeys) ↔
      request.refuses settings host = true := by
  refine ⟨fun h => ?_, fun hrefuses host' => holdsKeys_of_refuses hfiles hrefuses⟩
  by_contra hrefuses
  obtain ⟨host', hends, hsplit⟩ :=
    exists_ends_not_holdsKeys hvalid hfiles hrequest (Bool.eq_false_iff.2 hrefuses)
  exact hsplit (h host' hends)

theorem valid_started : started.shared.keys.Valid lengthReader := booted_started.valid

theorem holdsKeys_started : started.shared.HoldsKeys := by
  funext slot
  cases slot <;> rfl

/-- A rollback to a key that is not there. -/
theorem files_hold_keys_iff_refuses_rollback :
    (Input.rollback "k2").refuses {} started.shared = true ∧
      ∀ host', Ends {} lengthReader started.shared (.rollback "k2") host' → host'.HoldsKeys :=
  ⟨rfl, (files_hold_keys_iff_refuses valid_started holdsKeys_started rfl).2 rfl⟩

/-- A rotation to the id of the active key is refused after its files have been written, all of them
without a failure. -/
theorem files_split_by_rotation :
    started.shared.keys.Valid lengthReader ∧ started.shared.HoldsKeys ∧
      ∃ host' result, (alone {} lengthReader).run (started.shared, .idle)
          (.rotate ⟨some "k1", some 300⟩ "" :: .read (.ok ("pp", "pp")) ::
            .read (.ok ("pp", "pp")) :: List.replicate 13 (.write none)) =
              some (host', .answered result) ∧
        ¬ host'.HoldsKeys := by
  refine ⟨valid_started, holdsKeys_started, _, _, rfl, fun hholds => ?_⟩
  have hid := congrFun hholds .passiveKeyId
  cases hid

end Keylo.Signing
