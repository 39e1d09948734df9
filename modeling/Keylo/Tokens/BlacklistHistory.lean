import Keylo.Tokens.Blacklist

/-!
# The entries of the blacklist against the calls that made them

The requests to blacklist a token say until when. As long as the token has a row, the statement
that stores a request does nothing and the call succeeds all the same: the row keeps the expiry of
the first request, or of the first since the last removal of the row.

## Main definitions

* `record` : the requests that were answered with success, as a history variable.
* `Exact` : at the present and at any later time, exactly the tokens with a request for a time that
  has not come are on the blacklist.
* `lasting` : a request for a token that has a row is not for a later time, unless it is for a time
  that has passed.

## Main results

* `exact_iff_lasting` : the blacklist is exact all along a run if and only if all requests of the
  run are lasting.
* `request_shortened` : after a request for 20 seconds, one for an hour is lost.
-/

namespace Keylo.Blacklist

open Relational Transition Table

variable (crates : Crates)

/-! ### Requests -/

/-- The tokens and the times of the requests that were answered with success. -/
abbrev Requests := List (String × Time)

/-- The requests that were answered with success. -/
def record (requests : Requests) (db : Db) (operation : Operation) (_ : Db) : Requests :=
  match operation with
  | .blacklistToken id token reason expiresAt =>
    match Keylo.blacklistToken crates db id token reason expiresAt with
    | .ok _ => (token, .ofTimestamp expiresAt) :: requests
    | .error _ => requests
  | _ => requests

/-- The query for a token finds an entry exactly until the latest of the times of its requests. -/
def Exact (db : Db) (requests : Requests) : Prop :=
  ∀ token now, db.clock ≤ now →
    (isTokenBlacklisted crates { db with clock := now } token = true ↔
      ∃ expiry, (token, expiry) ∈ requests ∧ now < expiry)

/-- The request is not for a later time than the row that the token already has. -/
def lasting (db : Db) : Operation → Bool
  | .blacklistToken _ token _ expiresAt =>
    (db.blacklistedTokens.lookup BlacklistedToken.tokenHash (tokenHash crates token)).all fun row =>
      decide (Time.ofTimestamp expiresAt ≤ row.expiresAt) ||
        decide (Time.ofTimestamp expiresAt ≤ db.clock)
  | _ => true

variable {crates} {db db' : Db} {requests : Requests} {operation : Operation}
  {reason : Option String} {expiresAt : Int}

/-! ### Rows and requests -/

/-- Every row was made by a request. -/
def Requested (crates : Crates) (db : Db) (requests : Requests) : Prop :=
  ∀ row ∈ db.blacklistedTokens, ∃ token, row.tokenHash = tokenHash crates token ∧
    (token, row.expiresAt) ∈ requests

/-- Every request has a row that lasts as long, or its time has passed. -/
def Kept (crates : Crates) (db : Db) (requests : Requests) : Prop :=
  ∀ token expiry, (token, expiry) ∈ requests → Covered crates token expiry db

theorem mem_record {entry : String × Time} (h : entry ∈ requests) :
    entry ∈ record crates requests db operation db' := by
  unfold record
  split
  · split
    · exact List.mem_cons_of_mem _ h
    · exact h
  · exact h

theorem Requested.perform (h : Requested crates db requests) :
    Requested crates (perform crates db operation)
      (record crates requests db operation (perform crates db operation)) := by
  have hold : ∀ row ∈ db.blacklistedTokens, ∃ token, row.tokenHash = tokenHash crates token ∧
      (token, row.expiresAt) ∈ record crates requests db operation
        (Blacklist.perform crates db operation) := by
    intro row hrow
    obtain ⟨token, hhash, hmem⟩ := h row hrow
    exact ⟨token, hhash, mem_record hmem⟩
  intro row hrow
  cases operation with
  | blacklistToken id token reason expiresAt =>
    simp only [Blacklist.perform] at hrow
    cases hresult : Keylo.blacklistToken crates db id token reason expiresAt with
    | error =>
      rw [hresult] at hrow
      exact hold row hrow
    | ok =>
      rw [hresult] at hrow
      obtain ⟨_, -, rfl⟩ | ⟨tokens, htokens, rfl⟩ := blacklistToken_eq_ok hresult
      · exact hold row hrow
      obtain rfl | hrow := (mem_of_insert_eq_some htokens).1 hrow
      · refine ⟨token, rfl, ?_⟩
        simp only [record, hresult, List.mem_cons, true_or]
      · exact hold row hrow
  | cleanupExpiredBlacklistedTokens => exact hold row (mem_delete.1 hrow).1
  | other => exact hold row hrow

/-- The blacklist is exact if and only if every request is kept. -/
theorem exact_iff_kept (hinjective : Function.Injective (tokenHash crates))
    (hrequested : Requested crates db requests) :
    Exact crates db requests ↔ Kept crates db requests := by
  constructor
  · intro hexact token expiry hmem
    by_contra hnot
    obtain ⟨hshort, hfuture⟩ := not_or.1 hnot
    push Not at hshort hfuture
    -- At the moment before the time of the request, no row of the token is in force any more.
    have hlisted := (hexact token (expiry - 1) (Int.le_sub_one_of_lt hfuture)).2
      ⟨expiry, hmem, Int.sub_one_lt_of_le le_rfl⟩
    obtain ⟨row, hrow, hfound⟩ := any_eq_true.1 hlisted
    simp only [Bool.and_eq_true, beq_iff_eq, decide_eq_true_eq] at hfound
    exact absurd (hshort row hrow hfound.1) (not_lt.2 (Int.le_of_sub_one_lt hfound.2))
  · intro hkept token now hnow
    constructor
    · intro hlisted
      obtain ⟨row, hrow, hfound⟩ := any_eq_true.1 hlisted
      simp only [Bool.and_eq_true, beq_iff_eq, decide_eq_true_eq] at hfound
      obtain ⟨token', hhash, hmem⟩ := hrequested row hrow
      obtain rfl : token' = token := hinjective (hhash.symm.trans hfound.1)
      exact ⟨row.expiresAt, hmem, hfound.2⟩
    · rintro ⟨expiry, hmem, hlt⟩
      have hcovered : Covered crates token expiry { db with clock := now } :=
        (hkept token expiry hmem).imp id fun hpassed => hpassed.trans hnow
      exact hcovered.isTokenBlacklisted hlt

/-! ### Steps -/

theorem Kept.perform_old (h : Kept crates db requests) :
    Kept crates (perform crates db operation) requests :=
  fun token expiry hmem => (h token expiry hmem).perform operation

/-- After a request, its token has a row that lasts as long if and only if the request is
lasting. -/
theorem covered_iff_lasting {id token : String}
    (h : blacklistToken crates db id token reason expiresAt = .ok db') :
    Covered crates token (.ofTimestamp expiresAt) db' ↔
      lasting crates db (.blacklistToken id token reason expiresAt) = true := by
  obtain ⟨row, hrow, rfl⟩ | ⟨tokens, htokens, rfl⟩ := blacklistToken_eq_ok h
  · simp only [lasting, hrow, Option.all_some, Bool.or_eq_true, decide_eq_true_eq]
    obtain ⟨hmem, hhash⟩ := lookup_eq_some_iff.1 hrow
    refine or_congr_left ⟨?_, fun hle => ⟨row, hmem, hhash, hle⟩⟩
    rintro ⟨row', hmem', hhash', hle⟩
    obtain rfl : row' = row := eq_of_key hmem' hmem (hhash'.trans hhash.symm)
    exact hle
  · have hfresh : db.blacklistedTokens.lookup BlacklistedToken.tokenHash
        (tokenHash crates token) = none :=
      lookup_eq_none_iff.2 fun row hmem => key_ne_of_insert htokens hmem
    refine iff_of_true ?_ (by simp only [lasting, hfresh, Option.all_none])
    exact .inl ⟨_, (mem_of_insert_eq_some htokens).2 (.inl rfl), rfl, le_rfl⟩

/-- A request fails only if there is another token with the identifier of its row. -/
theorem lasting_of_error {id token e : String}
    (h : blacklistToken crates db id token reason expiresAt = .error e) :
    lasting crates db (.blacklistToken id token reason expiresAt) = true := by
  unfold blacklistToken at h
  split at h
  · cases h
  · rename_i hfresh
    simp only [lasting, hfresh, Option.all_none]

/-- A step keeps the requests if and only if it is lasting. -/
theorem kept_perform_iff (h : Kept crates db requests) :
    Kept crates (perform crates db operation)
        (record crates requests db operation (perform crates db operation)) ↔
      lasting crates db operation = true := by
  have hold : Kept crates (perform crates db operation) requests := h.perform_old
  cases operation with
  | blacklistToken id token reason expiresAt =>
    cases hresult : Keylo.blacklistToken crates db id token reason expiresAt with
    | error =>
      refine iff_of_true ?_ (lasting_of_error hresult)
      simpa only [record, hresult] using hold
    | ok db' =>
      have hperform : perform crates db (.blacklistToken id token reason expiresAt) = db' := by
        simp only [perform, hresult, commit]
      rw [hperform] at hold ⊢
      rw [← covered_iff_lasting hresult]
      simp only [record, hresult]
      refine ⟨fun hkept => hkept token _ (List.mem_cons_self ..), fun hcovered => ?_⟩
      rintro token' expiry hmem
      obtain heq | hmem := List.mem_cons.1 hmem
      · cases heq
        exact hcovered
      · exact hold token' expiry hmem
  | cleanupExpiredBlacklistedTokens | other => exact iff_of_true hold rfl

/-! ### Runs -/

theorem observe_step {c' : Db × Requests}
    (h : ((system crates).observe (record crates)).step (db, requests) operation = some c') :
    c' = (perform crates db operation,
      record crates requests db operation (perform crates db operation)) :=
  (Option.some.inj h).symm

/-- The blacklist starts empty. It is exact after every step of a run if and only if every request
of the run is lasting: no row of its token has an earlier expiry, or the time of the request has
passed. -/
theorem exact_iff_lasting (crates : Crates) (hinjective : Function.Injective (tokenHash crates))
    (db : Db) (hempty : db.blacklistedTokens = ∅) (operations : List Operation) :
    ((system crates).observe (record crates)).Along (fun _ _ c => Exact crates c.1 c.2) (db, [])
        operations ↔
      (system crates).Along (fun db operation _ => lasting crates db operation = true) db
        operations := by
  rw [← (system crates).observe_along (record crates) operations (db, [])]
  refine System.along_congr_of_invariant _
    (I := fun c => Requested crates c.1 c.2 ∧ Kept crates c.1 c.2) ?_ ?_ ⟨?_, nofun⟩
  · rintro ⟨db, requests⟩ operation c' ⟨hrequested, hkept⟩ hlasting hstep
    obtain rfl := observe_step hstep
    exact ⟨hrequested.perform, (kept_perform_iff hkept).2 hlasting⟩
  · rintro ⟨db, requests⟩ operation c' ⟨hrequested, hkept⟩ hstep
    obtain rfl := observe_step hstep
    exact (exact_iff_kept hinjective hrequested.perform).trans (kept_perform_iff hkept)
  · intro row hrow
    rw [hempty] at hrow
    exact absurd hrow not_mem_empty

/-- Two requests, the second for a later time, before and after the first has been removed. -/
def renewed : List Operation :=
  [.other (atSeconds 5 {}), .blacklistToken "1" "access" none 20, .other (atSeconds 30 {}),
    .cleanupExpiredBlacklistedTokens, .blacklistToken "2" "access" none 1000]

theorem exact_iff_lasting_renewed :
    ((system .readable).observe (record .readable)).Along (fun _ _ c => Exact .readable c.1 c.2)
      ({}, []) renewed :=
  (exact_iff_lasting .readable (Crates.readable.text_injective.comp Crates.readable.bytes_injective)
    {} rfl renewed).2 (by decide +kernel)

/-- A token is put on the blacklist for fifteen seconds and then for longer; after twenty seconds it
is not on the blacklist any more, although the second request was answered with success. -/
theorem request_shortened :
    ∃ db requests,
      ((system .readable).observe (record .readable)).run ({}, [])
          [.other (atSeconds 5 {}), .blacklistToken "1" "access" none 20,
            .blacklistToken "2" "access" none 1000] = some (db, requests) ∧
        ("access", Time.ofTimestamp 1000) ∈ requests ∧
        isTokenBlacklisted .readable (atSeconds 25 db) "access" = false ∧
        ¬ Exact .readable db requests := by
  refine ⟨_, _, rfl, by decide +kernel, by decide +kernel, fun hexact => ?_⟩
  have hlisted := (hexact "access" (.ofTimestamp 25) (by decide +kernel)).2
    ⟨.ofTimestamp 1000, by decide +kernel, by decide⟩
  exact absurd hlisted (by decide +kernel)

end Keylo.Blacklist
