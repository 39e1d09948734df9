import Keylo.Signing.Published

/-!
# Keys across restarts

The handlers of `handlers/auth.rs` that rotate, roll back and retire signing keys, with the files
that they write, and the start of a process that reads the files again (`Config::from_env`). The
files hold keys and their ids. When the overlap of a passive key ends is held in memory only, and
a process that starts begins a new overlap for the key that it finds.

A handler writes its files one by one, may fail at each of them, and changes the keys in memory
before or after; a process may be stopped at any time.

## Main definitions

* `KeyFiles`, `fromEnv` : the files, and the configuration that is read from them.
* `protocol` : interleaved requests, restarts and the clock.
* `StartsAsStopped` : a start that finds in the files what the process had in memory.

## Main results

* `lost_key_stays_lost` : if every start finds the files as such, keys that are no longer accepted
  stay so.
-/

namespace Keylo.Signing

open Transition Function

/-! ### Files -/

/-- The six files. -/
inductive Slot
  | privateKey
  | publicKey
  | keyId
  | passivePrivateKey
  | passivePublicKey
  | passiveKeyId
deriving DecidableEq, Repr

/-- The contents of the files that exist. -/
abbrev KeyFiles := Slot → Option String

/-- A file with contents that are not blank. -/
def readNonEmpty (files : KeyFiles) (slot : Slot) : Option String :=
  (files slot).filter fun contents => !isBlank contents

def readKeyId (files : KeyFiles) (slot : Slot) (fallback : String) : String :=
  trim ((readNonEmpty files slot).getD fallback)

/-- What the configuration takes from elsewhere. -/
structure KeySettings where
  jwtIssuer : String := "keylo"
  jwtAudiences : List String := ["admin-backend", "crawler"]
  jwtKeyOverlapSeconds : Int := 300
  production : Bool := false
deriving Repr

/-- `load_or_generate_jwt_keys`: the pair in the files, or a new one that is stored there. A pair
of which one half is missing, and in production a missing pair, stop the start. -/
def loadOrGenerateJwtKeys (settings : KeySettings) (generated : String × String)
    (files : KeyFiles) : Option ((String × String) × KeyFiles) :=
  match readNonEmpty files .privateKey, readNonEmpty files .publicKey with
  | some privateKey, some publicKey => some ((privateKey, publicKey), files)
  | none, none =>
    if settings.production then none
    else
      some (generated, update (update files .privateKey (some generated.1))
        .publicKey (some generated.2))
  | _, _ => none

/-- The configuration of the keys, from the files. -/
def fromEnv (settings : KeySettings) (generated : String × String) (files : KeyFiles) :
    Option (KeyConfig × KeyFiles) :=
  (loadOrGenerateJwtKeys settings generated files).map fun (pair, files') =>
    ({ jwtIssuer := settings.jwtIssuer
       jwtAudiences := settings.jwtAudiences
       jwtKeyId := readKeyId files .keyId "keylo-rs256-1"
       jwtPrivateKeyPem := pair.1
       jwtPublicKeyPem := pair.2
       jwtPassiveKeyId := some (readKeyId files .passiveKeyId "") |>.filter fun id => !isBlank id
       jwtPassivePublicKeyPem := readNonEmpty files .passivePublicKey
       jwtPassivePrivateKeyPem := readNonEmpty files .passivePrivateKey
       jwtKeyOverlapSeconds := settings.jwtKeyOverlapSeconds }, files')

/-! ### Requests -/

structure RotateJwtKeyRequest where
  keyId : Option String := none
  overlapSeconds : Option Int := none
deriving Repr

structure KeyResponse where
  activeKeyId : String
  passiveKeyIds : List String
  overlapSeconds : Option Int
deriving DecidableEq, Repr

/-- A step on a file. A file is replaced by removing it and putting a new one in its place. -/
inductive FileStep
  | remove (slot : Slot)
  | put (slot : Slot) (contents : String)
deriving DecidableEq, Repr

def FileStep.apply (files : KeyFiles) : FileStep → KeyFiles
  | .remove slot => update files slot none
  | .put slot contents => update files slot (some contents)

/-- `persist_rotation_file`. -/
def persistRotationFile (slot : Slot) (contents : String) : List FileStep :=
  [.remove slot, .put slot contents]

/-- The files of a passive and of an active pair, in the order in which they are written. -/
def persistPairs (passivePrivate passivePublic passiveId activePrivate activePublic activeId :
    String) : List FileStep :=
  persistRotationFile .passivePrivateKey passivePrivate ++
    persistRotationFile .passivePublicKey passivePublic ++
    persistRotationFile .passiveKeyId passiveId ++
    persistRotationFile .privateKey activePrivate ++
    persistRotationFile .publicKey activePublic ++ persistRotationFile .keyId activeId

inductive Phase
  | idle
  /-- `auth_rotate_jwt_key` with the new id; the id of the active key is read next. -/
  | rotationChecked (keyId : String) (overlapSeconds : Int)
  | rotationNamed (keyId : String) (overlapSeconds : Int) (oldKeyId : String)
  /-- `auth_rollback_jwt_key` with the passive pair; the active pair is read next. -/
  | rollbackFound (keyId passivePrivate passivePublic : String)
  | rollbackRead (keyId passivePrivate passivePublic activePrivate activePublic : String)
  /-- The files are written, and the keys are then changed by the call, if there is one. -/
  | writing (steps : List FileStep) (call : Option Call) (overlapSeconds : Option Int)
  | auditing (overlapSeconds : Option Int)
  | answered (result : Except AuthError KeyResponse)

inductive Input
  | rotate (request : RotateJwtKeyRequest) (uuid : String)
  | rollback (keyId : String)
  | retire (keyId : String)
  /-- A step that reads the keys; a rotation also generates a new pair. -/
  | read (generated : Except String (String × String))
  /-- A step on a file, or the call that follows the last one. -/
  | write (error : Option String)
  | audit (error : Option String)

/-- The files, the keys in the memory of the process, whether it is running, how often it was
stopped, and the clock. The keys of a process that was stopped are those that it had. -/
structure Host where
  files : KeyFiles
  keys : Keys
  running : Bool
  stops : ℕ
  now : Int

/-- How far a request has come that the process has received after so many stops. -/
structure Request where
  stops : ℕ
  phase : Phase

/-- Requests end with the process that has received them. -/
def Request.current (request : Request) (host : Host) : Phase :=
  if request.stops = host.stops then request.phase else .idle

def isKeyIdByte (c : Char) : Bool := isAsciiAlphanumeric c || c == '.' || c == '_' || c == '-'

/-- The id and the overlap of a rotation. -/
def checkRotation (settings : KeySettings) (keys : Keys) (request : RotateJwtKeyRequest)
    (uuid : String) : Except AuthError (String × Int) :=
  let keyId := request.keyId.getD (keys.active.keyId ++ "-" ++ uuid)
  let overlapSeconds := request.overlapSeconds.getD settings.jwtKeyOverlapSeconds
  if 128 < keyId.utf8ByteSize || keyId.isEmpty || !keyId.toList.all isKeyIdByte then
    .error (.invalidRequest ("key_id must contain only ASCII letters, digits, '.', '_' or '-' " ++
      "and be at most 128 characters"))
  else if !(1 ≤ overlapSeconds && overlapSeconds ≤ 2592000) then
    .error (.invalidRequest "overlap_seconds must be between 1 and 2592000")
  else .ok (keyId, overlapSeconds)

def Keys.passiveKeyMaterial (keys : Keys) (now : Int) (keyId : String) : Option (String × String) :=
  (keys.passive.find? fun pair => pair.keyId == keyId && pair.isLive now).bind fun pair =>
    pair.privateKeyPem.map fun privateKeyPem => (privateKeyPem, pair.publicKeyPem)

def Keys.passiveKeyIds (keys : Keys) (now : Int) : List String :=
  (keys.passive.filter fun pair => pair.isLive now).map KeyPair.keyId

/-- The files of a passive pair that is retired. -/
def removePassiveFiles : List FileStep :=
  [.remove .passivePrivateKey, .remove .passivePublicKey, .remove .passiveKeyId]

variable (settings : KeySettings) (reader : KeyReader)

variable (host : Host)

/-- A request that comes in. -/
def receive : Input → Option (Host × Phase)
  | .rotate request uuid =>
    match checkRotation settings host.keys request uuid with
    | .error e => some (host, .answered (.error e))
    | .ok (keyId, overlapSeconds) => some (host, .rotationChecked keyId overlapSeconds)
  | .rollback keyId =>
    match host.keys.passiveKeyMaterial host.now keyId with
    | none =>
      some (host, .answered (.error (.conflict "passive key private material is unavailable")))
    | some (passivePrivate, passivePublic) =>
      some (host, .rollbackFound keyId passivePrivate passivePublic)
  | .retire keyId =>
    match host.keys.retirePassive keyId with
    | (false, _) => some (host, .answered (.error .notFound))
    | (true, keys) => some ({ host with keys := keys }, .writing removePassiveFiles none none)
  | _ => none

/-- A step that reads the keys. The active pair always has the text of its private key, so that
reading it does not fail. -/
def readKeys (generated : Except String (String × String)) : Phase → Option (Host × Phase)
  | .rotationChecked keyId overlapSeconds =>
    some (host, .rotationNamed keyId overlapSeconds host.keys.active.keyId)
  | .rotationNamed keyId overlapSeconds oldKeyId =>
    match host.keys.active.privateKeyPem, generated with
    | none, _ => none
    | some _, .error e => some (host, .answered (.error (.internalServerError e)))
    | some oldPrivate, .ok (newPrivate, newPublic) =>
      some (host, .writing
        (persistPairs oldPrivate host.keys.active.publicKeyPem oldKeyId newPrivate newPublic keyId)
        (some (.rotate keyId newPrivate newPublic overlapSeconds)) (some overlapSeconds))
  | .rollbackFound keyId passivePrivate passivePublic =>
    host.keys.active.privateKeyPem.map fun activePrivate =>
      (host, .rollbackRead keyId passivePrivate passivePublic activePrivate
        host.keys.active.publicKeyPem)
  | .rollbackRead keyId passivePrivate passivePublic activePrivate activePublic =>
    some (host, .writing
      (persistPairs activePrivate activePublic host.keys.active.keyId passivePrivate passivePublic
        keyId)
      (some (.rollback keyId settings.jwtKeyOverlapSeconds)) none)
  | _ => none

/-- The call of a handler on the keys in memory. -/
def Keys.runCall (keys : Keys) (now : Int) : Call → Except String Unit × Keys
  | .rotate keyId privateKeyPem publicKeyPem overlapSeconds =>
    keys.rotate reader now keyId privateKeyPem publicKeyPem overlapSeconds
  | .rollback keyId overlapSeconds => keys.rollback now keyId overlapSeconds
  | .retirePassive keyId => (.ok (), (keys.retirePassive keyId).2)

/-- The next step on a file, or the call once the files are written. -/
def writeFiles (error : Option String) : Phase → Option (Host × Phase)
  | .writing (step :: steps) call overlapSeconds =>
    match error with
    | some e => some (host, .answered (.error (.internalServerError e)))
    | none =>
      some ({ host with files := step.apply host.files }, .writing steps call overlapSeconds)
  | .writing [] none overlapSeconds => some (host, .auditing overlapSeconds)
  | .writing [] (some call) overlapSeconds =>
    match host.keys.runCall reader host.now call with
    | (.ok (), keys) => some ({ host with keys := keys }, .auditing overlapSeconds)
    | (.error e, keys) =>
      some ({ host with keys := keys }, .answered (.error (.internalServerError e)))
  | _ => none

def auditKeys (error : Option String) : Phase → Option (Host × Phase)
  | .auditing overlapSeconds =>
    match error with
    | some e => some (host, .answered (.error (.databaseError e)))
    | none =>
      some (host, .answered (.ok
        ⟨host.keys.active.keyId, host.keys.passiveKeyIds host.now, overlapSeconds⟩))
  | _ => none

def isReady : Phase → Bool
  | .idle | .answered _ => true
  | _ => false

def nextPhase (input : Input) (host : Host) (phase : Phase) : Option (Host × Phase) :=
  match input with
  | .rotate _ _ | .rollback _ | .retire _ =>
    if isReady phase then receive settings host input else none
  | .read generated => readKeys settings host generated phase
  | .write error => writeFiles reader host error phase
  | .audit error => auditKeys host error phase

/-- A step of a request; there is none unless the process is running. -/
def next (input : Input) (host : Host) (request : Request) : Option (Host × Request) :=
  if host.running then
    (nextPhase settings reader input host (request.current host)).map fun (host', phase) =>
      (host', ⟨host.stops, phase⟩)
  else none

/-! ### Restarts -/

inductive Event
  | stop
  /-- A start, with the pair that is generated if there is none. -/
  | start (generated : String × String)
  | tick (now : Int)

/-- `Keys::from_config` of a configuration that passes the checks of the start. -/
def startKeys (config : KeyConfig) (now : Int) : Option Keys :=
  if validateCommon config ≠ [] then none
  else (Keys.fromConfig reader config now).toOption

/-- A process that cannot start leaves the files as reading the configuration has left them. -/
def occur : Event → Option Host
  | .stop => some { host with running := false, stops := host.stops + 1 }
  | .start generated =>
    if host.running then none
    else
      match fromEnv settings generated host.files with
      | none => some host
      | some (config, files) =>
        match startKeys reader config host.now with
        | none => some { host with files := files }
        | some keys => some { host with keys := keys, files := files, running := true }
  | .tick now => if host.now ≤ now then some { host with now := now } else none

/-- Requests of all three kinds, restarts, and a clock that does not go back. -/
def protocol (ι : Type*) : Protocol ι Host Request Input Event where
  next _ := next settings reader
  env event host := occur settings reader host event

/-! ### Keys that are no longer accepted -/

/-- The process accepts tokens with the given id under the key. -/
def Host.Accepts (kid : String) (key : RsaPublicKey) : Prop :=
  host.running = true ∧ host.keys.AcceptsUnder host.now kid key

/-- The files hold the keys of the process that was stopped: its active key, and as a passive key
none or one whose overlap has not ended. -/
def AsStopped (config : KeyConfig) : Prop :=
  config.jwtKeyId = host.keys.active.keyId ∧
    config.jwtPublicKeyPem = host.keys.active.publicKeyPem ∧
    ∀ keyId ∈ config.jwtPassiveKeyId, ∃ pair ∈ host.keys.passive,
      pair.isLive host.now = true ∧ pair.keyId = keyId ∧
        config.jwtPassivePublicKeyPem = some pair.publicKeyPem

variable {ι : Type*} [DecidableEq ι] {settings reader}

/-- A start finds the files as the process had its keys when it was stopped. -/
def StartsAsStopped (settings : KeySettings) (c : Config ι Host Request)
    (a : Action ι Input Event) : Prop :=
  ∀ generated config files, a = .environment (.start generated) →
    fromEnv settings generated c.shared.files = some (config, files) → AsStopped c.shared config

/-- The key is not the new one of a rotation. -/
def RotatesToAnother (reader : KeyReader) (key : RsaPublicKey) (c : Config ι Host Request)
    (a : Action ι Input Event) : Prop :=
  ∀ i error keyId privateKeyPem publicKeyPem overlapSeconds overlap,
    a = .request i (.write error) →
    (c.request i).current c.shared =
      .writing [] (some (.rotate keyId privateKeyPem publicKeyPem overlapSeconds)) overlap →
    reader.decodingKey publicKeyPem ≠ .ok key

variable {kid : String} {key : RsaPublicKey} {host host' : Host} {phase phase' : Phase}
  {input : Input} {keys keys' : Keys} {now now' : Int} {call : Call}

theorem runCall_keys : (keys.runCall reader now call).2 = (keys.call reader now call).2 := by
  cases call <;> simp only [Keys.runCall, Keys.call]

/-- The clock stands still, and the keys are as before or changed by a call that is allowed. -/
def ChangesBy (reader : KeyReader) (host host' : Host) (allowed : Call → Prop) : Prop :=
  host'.now = host.now ∧ (host'.keys = host.keys ∨
    ∃ call, allowed call ∧ host'.keys = (host.keys.call reader host.now call).2)

variable {allowed : Call → Prop} {error : Option String} {config : KeyConfig}

theorem ChangesBy.refl : ChangesBy reader host host allowed :=
  ⟨rfl, .inl rfl⟩

theorem receive_changesBy (h : receive settings host input = some (host', phase')) :
    ChangesBy reader host host' fun call => ∃ keyId, call = .retirePassive keyId := by
  unfold receive at h
  split at h
  · split at h <;> cases h <;> exact .refl
  · split at h <;> cases h <;> exact .refl
  · rename_i keyId
    split at h
    · cases h
      exact .refl
    rename_i keys hretire
    cases h
    refine ⟨rfl, .inr ⟨.retirePassive keyId, ⟨keyId, rfl⟩, ?_⟩⟩
    rw [Keys.call, hretire]
  · cases h

theorem readKeys_changesBy {generated : Except String (String × String)}
    (h : readKeys settings host generated phase = some (host', phase')) :
    ChangesBy reader host host' allowed := by
  unfold readKeys at h
  split at h
  · cases h
    exact .refl
  · split at h <;> cases h <;> exact .refl
  · obtain ⟨activePrivate, -, heq⟩ := Option.map_eq_some_iff.1 h
    cases heq
    exact .refl
  · cases h
    exact .refl
  · cases h

theorem writeFiles_changesBy (h : writeFiles reader host error phase = some (host', phase')) :
    ChangesBy reader host host' fun call => ∃ overlap, phase = .writing [] (some call) overlap := by
  unfold writeFiles at h
  split at h
  · split at h <;> cases h
    · exact .refl
    · exact ⟨rfl, .inl rfl⟩
  · cases h
    exact .refl
  · rename_i call overlap
    have hkeys : (host.keys.runCall reader host.now call).2 =
        (host.keys.call reader host.now call).2 := runCall_keys
    split at h <;> rename_i keys hcall <;> cases h <;> rw [hcall] at hkeys
    · exact ⟨rfl, .inr ⟨call, ⟨overlap, rfl⟩, hkeys⟩⟩
    · exact ⟨rfl, .inr ⟨call, ⟨overlap, rfl⟩, hkeys⟩⟩
  · cases h

theorem auditKeys_changesBy (h : auditKeys host error phase = some (host', phase')) :
    ChangesBy reader host host' allowed := by
  unfold auditKeys at h
  split at h
  · split at h <;> cases h <;> exact .refl
  · cases h

/-- A request changes the keys by one call at most, and by a rotation only after its files. -/
theorem nextPhase_changesBy
    (h : nextPhase settings reader input host phase = some (host', phase')) :
    ChangesBy reader host host' fun call => (∃ keyId, call = .retirePassive keyId) ∨
      ∃ error overlap, input = .write error ∧ phase = .writing [] (some call) overlap := by
  unfold nextPhase at h
  have hreceive : (if isReady phase then receive settings host input else none) =
      some (host', phase') → ChangesBy reader host host' fun call =>
        (∃ keyId, call = .retirePassive keyId) ∨
          ∃ error overlap, input = .write error ∧ phase = .writing [] (some call) overlap := by
    intro h
    split at h
    · have hreceived : ChangesBy reader host host' _ := receive_changesBy h
      obtain ⟨hnow, hkeys⟩ := hreceived
      exact ⟨hnow, hkeys.imp_right fun ⟨call, hcall, hkeys⟩ => ⟨call, .inl hcall, hkeys⟩⟩
    · cases h
  split at h
  · exact hreceive h
  · exact hreceive h
  · exact hreceive h
  · exact readKeys_changesBy h
  · obtain ⟨hnow, hkeys⟩ := writeFiles_changesBy h
    exact ⟨hnow, hkeys.imp_right fun ⟨call, ⟨overlap, hphase⟩, hkeys⟩ =>
      ⟨call, .inr ⟨_, overlap, rfl, hphase⟩, hkeys⟩⟩
  · exact auditKeys_changesBy h

theorem isLive_anti {pair : KeyPair} (hnow : now ≤ now') (h : pair.isLive now' = true) :
    pair.isLive now = true := by
  unfold KeyPair.isLive at h ⊢
  cases hexpires : pair.expiresAt with
  | none => rfl
  | some =>
    simp only [hexpires, Option.all_some, decide_eq_true_eq] at h ⊢
    exact hnow.trans_lt h

theorem uses_anti (hnow : now ≤ now') (h : keys.Uses now' kid key) : keys.Uses now kid key :=
  h.imp_right fun ⟨pair, hmem, hlive, hpair⟩ => ⟨pair, hmem, isLive_anti hnow hlive, hpair⟩

/-- A call brings no key back, unless it is the new one of a rotation. -/
theorem uses_of_uses_call (h : (keys.call reader now call).2.Uses now kid key)
    (hnew : ∀ keyId privateKeyPem publicKeyPem overlapSeconds,
      call = .rotate keyId privateKeyPem publicKeyPem overlapSeconds →
        reader.decodingKey publicKeyPem ≠ .ok key) : keys.Uses now kid key := by
  generalize hresult : keys.call reader now call = result at h
  cases effect_call hresult with
  | failed => exact h
  | rotated hid hnext =>
    obtain ⟨hwell, -, -, -, rfl, -⟩ := fromPem_eq_ok hnext
    rcases h with ⟨-, rfl⟩ | ⟨pair, hmem, -, hpair⟩
    · exact absurd hwell.decoding_eq (hnew _ _ _ _ rfl)
    · obtain rfl := List.mem_singleton.1 hmem
      exact .inl hpair
  | rolledBack hmem hlive =>
    rcases h with hactive | ⟨pair, hmem', -, hpair⟩
    · exact .inr ⟨_, hmem, hlive, hactive⟩
    · obtain rfl := List.mem_singleton.1 hmem'
      exact .inl hpair
  | retired =>
    exact h.imp_right fun ⟨pair, hmem, hpair⟩ => ⟨pair, (List.mem_filter.1 hmem).1, hpair⟩

/-- A process that starts as another was stopped accepts what that one would accept. -/
theorem uses_of_asStopped (hvalid : host.keys.Valid reader) (hstopped : AsStopped host config)
    (hkeys : Keys.fromConfig reader config host.now = .ok keys) (h : keys.Uses host.now kid key) :
    host.keys.Uses host.now kid key := by
  obtain ⟨hid, hpublic, hpassive⟩ := hstopped
  obtain ⟨-, hactive, hpassives⟩ := fromConfig_eq_ok hkeys
  rcases h with ⟨hkid, hkey⟩ | ⟨pair, hmem, -, hkid, hkey⟩
  · obtain ⟨hwell, hactiveId, -, -, hactivePem, -⟩ := fromPem_eq_ok hactive
    refine .inl ⟨hid.symm.trans (hactiveId.symm.trans hkid), ?_⟩
    have hread := hwell.decoding_eq
    rw [hactivePem, hpublic, hvalid.active_wellFormed.decoding_eq] at hread
    exact (Except.ok.inj hread).trans hkey
  · obtain ⟨-, keyId, hkeyId, publicKeyPem, hpem, hpair⟩ := hpassives pair hmem
    obtain ⟨hwell, hpairId, -, -, rfl, -⟩ := fromPem_eq_ok hpair
    obtain ⟨old, hold, hlive, rfl, holdPem⟩ := hpassive keyId hkeyId
    refine .inr ⟨old, hold, hlive, hpairId.symm.trans hkid, ?_⟩
    have hread := hwell.decoding_eq
    rw [Option.some.inj (hpem.symm.trans holdPem), (hvalid.passive_wellFormed old hold).decoding_eq]
      at hread
    exact (Except.ok.inj hread).trans hkey

variable {c c' : Config ι Host Request} {a : Action ι Input Event}

/-- How a step may change the keys of the process. -/
inductive KeyChange (settings : KeySettings) (reader : KeyReader) (c : Config ι Host Request)
    (a : Action ι Input Event) (host : Host) : Prop
  /-- Not at all, while time may pass. -/
  | kept (hkeys : host.keys = c.shared.keys) (hnow : c.shared.now ≤ host.now)
  | called (call : Call) (hkeys : host.keys = (c.shared.keys.call reader c.shared.now call).2)
      (hnow : host.now = c.shared.now)
      (hallowed : (∃ keyId, call = .retirePassive keyId) ∨ ∃ i error overlap,
        a = .request i (.write error) ∧
          (c.request i).current c.shared = .writing [] (some call) overlap)
  | started (generated : String × String) (config : KeyConfig) (files : KeyFiles)
      (ha : a = .environment (.start generated))
      (hconfig : fromEnv settings generated c.shared.files = some (config, files))
      (hvalid : validateCommon config = [])
      (hkeys : Keys.fromConfig reader config c.shared.now = .ok host.keys)
      (hnow : host.now = c.shared.now)

theorem startKeys_eq_some (h : startKeys reader config now = some keys) :
    validateCommon config = [] ∧ Keys.fromConfig reader config now = .ok keys := by
  unfold startKeys at h
  split_ifs at h with hvalid
  refine ⟨not_not.1 hvalid, ?_⟩
  cases hfrom : Keys.fromConfig reader config now with
  | error =>
    rw [hfrom] at h
    cases h
  | ok =>
    rw [hfrom] at h
    cases h
    rfl

section Step

variable (hstep : (protocol settings reader ι).system.step c a = some c')

include hstep

theorem keyChange_of_step : KeyChange settings reader c a c'.shared := by
  obtain ⟨event, host', rfl, henv, rfl⟩ | ⟨i, input, host', request', rfl, hnext, rfl⟩ :=
    Protocol.step_cases hstep
  · simp only [protocol, occur] at henv
    cases event with
    | stop =>
      cases henv
      exact .kept rfl le_rfl
    | tick =>
      simp only at henv
      split at henv
      · cases henv
        exact .kept rfl ‹_›
      · cases henv
    | start generated =>
      simp only at henv
      split at henv
      · cases henv
      split at henv
      · cases henv
        exact .kept rfl le_rfl
      rename_i config files hconfig
      split at henv
      · cases henv
        exact .kept rfl le_rfl
      rename_i keys hkeys
      cases henv
      obtain ⟨hvalid, hfrom⟩ := startKeys_eq_some hkeys
      exact .started generated config files rfl hconfig hvalid hfrom rfl
  simp only [protocol, next] at hnext
  split at hnext
  · obtain ⟨⟨host'', phase'⟩, hphase, heq⟩ := Option.map_eq_some_iff.1 hnext
    cases heq
    obtain ⟨hnow, hkeys | ⟨call, hallowed, hkeys⟩⟩ := nextPhase_changesBy hphase
    · exact .kept hkeys hnow.ge
    refine .called call hkeys hnow (hallowed.imp_right ?_)
    rintro ⟨error, overlap, rfl, hwriting⟩
    exact ⟨i, error, overlap, rfl, hwriting⟩
  · cases hnext

theorem valid_of_step (h : c.shared.keys.Valid reader) : c'.shared.keys.Valid reader := by
  cases keyChange_of_step hstep with
  | kept hkeys => exact hkeys ▸ h
  | called call hkeys => exact hkeys ▸ valid_call h call
  | started generated config files ha hconfig hvalid hkeys => exact valid_fromConfig hkeys hvalid

/-- A key that is not used stays so, if the process starts as it was stopped. -/
theorem not_uses_of_step (hvalid : c.shared.keys.Valid reader)
    (h : ¬ c.shared.keys.Uses c.shared.now kid key) (hstart : StartsAsStopped settings c a)
    (hnew : RotatesToAnother reader key c a) : ¬ c'.shared.keys.Uses c'.shared.now kid key := by
  refine fun huses => h ?_
  cases keyChange_of_step hstep with
  | kept hkeys hnow => exact uses_anti hnow (hkeys ▸ huses)
  | called call hkeys hnow hallowed =>
    rw [hkeys, hnow] at huses
    refine uses_of_uses_call huses ?_
    rintro keyId privateKeyPem publicKeyPem overlapSeconds rfl
    obtain ⟨_, hretire⟩ | ⟨i, error, overlap, ha, hwriting⟩ := hallowed
    · cases hretire
    · exact hnew i error keyId privateKeyPem publicKeyPem overlapSeconds overlap ha hwriting
  | started generated config files ha hconfig _ hkeys hnow =>
    rw [hnow] at huses
    exact uses_of_asStopped hvalid (hstart generated config files ha hconfig) hkeys huses

end Step

instance : Decidable (keys.Uses now kid key) :=
  inferInstanceAs (Decidable (_ ∧ _ ∨ ∃ pair ∈ keys.passive, _))

theorem accepts_iff_uses (hvalid : keys.Valid reader) :
    keys.AcceptsUnder now kid key ↔ keys.Uses now kid key := by
  rw [← jwkOf_mem_jwks_iff hvalid, jwkOf_mem_jwks_iff_uses hvalid]

/-- The process has been started from its files. -/
def Booted (settings : KeySettings) (reader : KeyReader) (host : Host) : Prop :=
  host.running = true ∧ ∃ generated config files, fromEnv settings generated files =
    some (config, host.files) ∧ startKeys reader config host.now = some host.keys

theorem Booted.valid (h : Booted settings reader host) : host.keys.Valid reader := by
  obtain ⟨-, generated, config, files, -, hkeys⟩ := h
  obtain ⟨hvalid, hfrom⟩ := startKeys_eq_some hkeys
  exact valid_fromConfig hfrom hvalid

theorem valid_of_run {start : Config ι Host Request} {actions : List (Action ι Input Event)}
    (hstart : Booted settings reader start.shared)
    (hrun : (protocol settings reader ι).system.run start actions = some c) :
    c.shared.keys.Valid reader :=
  (protocol settings reader ι).system.run_invariant (I := fun c => c.shared.keys.Valid reader)
    (fun _ _ _ h hstep => valid_of_step hstep h) hstart.valid hrun

/-- If from some time on the process starts only as it was stopped, and rotations bring new keys,
then a key that the running process does not accept at that time is never accepted again. -/
theorem lost_key_stays_lost {start : Config ι Host Request}
    {before after : List (Action ι Input Event)}
    (hstart : Booted settings reader start.shared)
    (hbefore : (protocol settings reader ι).system.run start before = some c)
    (hrunning : c.shared.running = true) (hlost : ¬ c.shared.Accepts kid key)
    (hstarts : (protocol settings reader ι).system.Along
      (fun c a _ => StartsAsStopped settings c a) c after)
    (hnew : (protocol settings reader ι).system.Along
      (fun c a _ => RotatesToAnother reader key c a) c after)
    (hafter : (protocol settings reader ι).system.run c after = some c') :
    ¬ c'.shared.Accepts kid key := by
  have hvalid : c.shared.keys.Valid reader := valid_of_run hstart hbefore
  have hnot : ¬ c.shared.keys.Uses c.shared.now kid key := fun huses =>
    hlost ⟨hrunning, (accepts_iff_uses hvalid).2 huses⟩
  obtain ⟨hvalid', hnot'⟩ := (protocol settings reader ι).system.run_invariant_along
    (I := fun c => c.shared.keys.Valid reader ∧ ¬ c.shared.keys.Uses c.shared.now kid key)
    (fun c a c' ⟨hvalid, hnot⟩ ⟨hstarts, hnew⟩ hstep =>
      ⟨valid_of_step hstep hvalid, not_uses_of_step hstep hvalid hnot hstarts hnew⟩)
    ⟨hvalid, hnot⟩ (System.along_and _ hstarts hnew) hafter
  exact fun haccepts => hnot' ((accepts_iff_uses hvalid').1 haccepts.2)

/-- The files of one pair. -/
def pairFiles : KeyFiles
  | .privateKey => some "p"
  | .publicKey => some "p"
  | .keyId => some "k1"
  | _ => none

/-- A process that was started with this pair. -/
def started : Config Unit Host Request where
  shared := ⟨pairFiles, { ring with audiences := ["admin-backend", "crawler"] }, true, 0, 0⟩
  request _ := ⟨0, .idle⟩

/-- A rotation with an overlap of one second, from the request to the response. -/
def shortRotation : List (Action Unit Input Event) :=
  .request () (.rotate ⟨some "k2", some 1⟩ "") :: .request () (.read (.ok ("pp", "pp"))) ::
    .request () (.read (.ok ("pp", "pp"))) ::
    (List.replicate 13 (.request () (.write none)) ++ [.request () (.audit none)])

/-- The retirement of the first key. -/
def retirement : List (Action Unit Input Event) :=
  .request () (.retire "k1") :: (List.replicate 4 (.request () (.write none)) ++
    [.request () (.audit none)])

def restart : List (Action Unit Input Event) :=
  [.environment .stop, .environment (.start ("", ""))]

theorem booted_started : Booted {} lengthReader started.shared :=
  ⟨rfl, ("", ""), _, pairFiles, rfl, rfl⟩

/-- The process after a rotation whose overlap has ended, and after the retirement of the key that
it has replaced and a restart. -/
theorem lost_key_stays_lost_retired :
    ∃ c c', (protocol {} lengthReader Unit).system.run started
        (shortRotation ++ [.environment (.tick 2)]) = some c ∧
      (protocol {} lengthReader Unit).system.run c (retirement ++ restart) = some c' ∧
      c'.shared.running = true ∧ ¬ c'.shared.Accepts "k1" ⟨1, 3⟩ := by
  obtain ⟨c, hc⟩ : ∃ c, (protocol {} lengthReader Unit).system.run started
      (shortRotation ++ [.environment (.tick 2)]) = some c := ⟨_, rfl⟩
  have hvalid : c.shared.keys.Valid lengthReader := valid_of_run booted_started hc
  obtain ⟨c', hc'⟩ : ∃ c', (protocol {} lengthReader Unit).system.run c
      (retirement ++ restart) = some c' := by
    cases hc
    exact ⟨_, rfl⟩
  have hrunning : c.shared.running = true := by
    cases hc
    rfl
  have hlost : ¬ c.shared.Accepts "k1" ⟨1, 3⟩ := by
    intro haccepts
    cases hc
    exact absurd ((accepts_iff_uses hvalid).1 haccepts.2) (by decide)
  have hstarts : (protocol {} lengthReader Unit).system.Along
      (fun c a _ => StartsAsStopped {} c a) c (retirement ++ restart) := by
    cases hc
    refine ⟨?_, ?_, ?_, ?_, ?_, ?_, ?_, ?_, trivial⟩
    case refine_8 =>
      rintro generated config files ⟨⟩ ⟨⟩
      exact ⟨rfl, rfl, by rintro keyId ⟨⟩⟩
    all_goals rintro generated config files ⟨⟩
  have hnew : (protocol {} lengthReader Unit).system.Along
      (fun c a _ => RotatesToAnother lengthReader ⟨1, 3⟩ c a) c (retirement ++ restart) := by
    cases hc
    refine ⟨?_, ?_, ?_, ?_, ?_, ?_, ?_, ?_, trivial⟩
    all_goals rintro i error keyId privateKeyPem publicKeyPem overlapSeconds overlap ⟨⟩
    all_goals rintro ⟨⟩
  refine ⟨c, c', hc, hc', ?_, lost_key_stays_lost booted_started hc hrunning hlost hstarts hnew hc'⟩
  cases hc
  cases hc'
  rfl

/-- A restart brings back a key whose overlap has ended, with an overlap of its own. -/
theorem expired_key_accepted_after_restart :
    Booted {} lengthReader started.shared ∧
    ∃ c c', (protocol {} lengthReader Unit).system.run started
        (shortRotation ++ [.environment (.tick 2)]) = some c ∧
      (protocol {} lengthReader Unit).system.run c restart = some c' ∧
      c.shared.running = true ∧ c'.shared.now = c.shared.now ∧
      ¬ c.shared.Accepts "k1" ⟨1, 3⟩ ∧ c'.shared.Accepts "k1" ⟨1, 3⟩ := by
  obtain ⟨c, hc⟩ : ∃ c, (protocol {} lengthReader Unit).system.run started
      (shortRotation ++ [.environment (.tick 2)]) = some c := ⟨_, rfl⟩
  have hvalid : c.shared.keys.Valid lengthReader := valid_of_run booted_started hc
  obtain ⟨c', hc'⟩ : ∃ c', (protocol {} lengthReader Unit).system.run c restart = some c' := by
    cases hc
    exact ⟨_, rfl⟩
  have hvalid' : c'.shared.keys.Valid lengthReader :=
    (protocol {} lengthReader Unit).system.run_invariant
      (I := fun c => c.shared.keys.Valid lengthReader)
      (fun _ _ _ h hstep => valid_of_step hstep h) hvalid hc'
  cases hc
  cases hc'
  refine ⟨booted_started, _, _, rfl, rfl, rfl, rfl, ?_, rfl, ?_⟩
  · intro haccepts
    exact absurd ((accepts_iff_uses hvalid).1 haccepts.2) (by decide)
  · exact (accepts_iff_uses hvalid').2 (by decide)

end Keylo.Signing
