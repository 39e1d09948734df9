import Mathlib.Data.List.Basic

/-!
# Connection strings in the log

The server writes the addresses of its database and of Redis to the log while it waits for them.
The user-info is replaced there: `redact_dsn` looks for the first `@` after `://`, but the user-info
of a URL goes up to the last `@` of its authority. A password that contains an `@` is hidden only
in part. Texts are lists of characters.

## Main definitions

* `redactDsn` : the text that is written to the log.
* `Dsn` : a connection string in the reading of a URL parser.
* `Dsn.shown` : the part of the user-info that the log shows.

## Main results

* `dsn_redaction_hides_user_info` : the log distinguishes two connection strings by this part only.
* `password_with_at_sign_shown` : two passwords that the log distinguishes.
-/

namespace Keylo

/-- `str::split_once` on a text. -/
def splitOnceText (sep : List Char) : List Char → Option (List Char × List Char)
  | [] => if sep = [] then some ([], []) else none
  | c :: l =>
    if sep <+: c :: l then some ([], (c :: l).drop sep.length)
    else (splitOnceText sep l).map fun (before, after) => (c :: before, after)

/-- `redact_dsn`. -/
def redactDsn (input : List Char) : List Char :=
  match splitOnceText [':', '/', '/'] input with
  | none => input
  | some (scheme, rest) =>
    match rest.dropWhile (· != '@') with
    | [] => input
    | _ :: tail => scheme ++ "://***@".toList ++ tail

/-- A connection string in the reading of a URL parser: the scheme with the slashes after it, the
user-info, which ends at the last `@` of the authority, and the rest. -/
structure Dsn where
  start : List Char
  userInfo : List Char
  rest : List Char
  start_plain : '@' ∉ start
  userInfo_plain : ∀ c ∈ ['/', '?', '#'], c ∉ userInfo
  rest_plain : '@' ∉ rest.takeWhile (· ∉ ['/', '?', '#'])

namespace Dsn

def text (d : Dsn) : List Char := d.start ++ (d.userInfo ++ '@' :: d.rest)

/-- The user-info after its first `@`. -/
def shown (d : Dsn) : List Char := ((d.userInfo ++ ['@']).dropWhile (· != '@')).tail

end Dsn

variable {sep l before after : List Char}

theorem eq_of_splitOnceText (h : splitOnceText sep l = some (before, after)) :
    l = before ++ sep ++ after := by
  induction l generalizing before with
  | nil =>
    rw [splitOnceText] at h
    split_ifs at h with hsep
    cases h
    simp [hsep]
  | cons c l ih =>
    rw [splitOnceText] at h
    split_ifs at h with hsep
    · cases h
      exact (List.prefix_iff_eq_append.1 hsep).symm
    · obtain ⟨⟨before, after⟩, hl, heq⟩ := Option.map_eq_some_iff.1 h
      cases heq
      rw [ih hl]
      rfl

theorem not_infix_of_splitOnceText (h : splitOnceText sep l = none) : ¬ sep <:+: l := by
  induction l with
  | nil =>
    rw [splitOnceText] at h
    split_ifs at h with hsep
    rwa [List.infix_nil]
  | cons c l ih =>
    rw [splitOnceText] at h
    split_ifs at h with hsep
    rw [List.infix_cons_iff, not_or]
    exact ⟨hsep, ih (Option.map_eq_none_iff.1 h)⟩

theorem splitOnceText_append (hsep : sep ≠ []) (h : splitOnceText sep l = some (before, after))
    (r : List Char) : splitOnceText sep (l ++ r) = some (before, after ++ r) := by
  induction l generalizing before with
  | nil =>
    rw [splitOnceText, if_neg hsep] at h
    cases h
  | cons c l ih =>
    have hlength := congrArg List.length (eq_of_splitOnceText h)
    simp only [List.length_append] at hlength
    have hfirst : sep <+: c :: (l ++ r) ↔ sep <+: c :: l := by
      refine ⟨fun hl => ?_, fun hl => hl.trans (List.prefix_append (c :: l) r)⟩
      exact List.prefix_of_prefix_length_le hl (List.prefix_append (c :: l) r) (by omega)
    rw [splitOnceText] at h
    simp only [List.cons_append, splitOnceText, hfirst]
    split_ifs at h ⊢ with hl
    · cases h
      rw [← List.cons_append, List.drop_append_of_le_length hl.length_le]
    · obtain ⟨⟨before, after⟩, hl, heq⟩ := Option.map_eq_some_iff.1 h
      cases heq
      rw [ih hl]
      rfl

/-- If the scheme is not followed by `://`, only what follows the user-info is changed. -/
theorem redactDsn_skip {u : List Char} (hl : splitOnceText [':', '/', '/'] l = none)
    (hu : '/' ∉ u) (r : List Char) :
    redactDsn (l ++ (u ++ '@' :: r)) = l ++ (u ++ '@' :: redactDsn r) := by
  have hsplit : splitOnceText [':', '/', '/'] (l ++ (u ++ '@' :: r)) =
      (splitOnceText [':', '/', '/'] r).map fun (before, after) =>
        (l ++ (u ++ '@' :: before), after) := by
    induction l with
    | nil =>
      induction u with
      | nil => simp [splitOnceText]
      | cons c u ih =>
        rw [List.mem_cons, not_or] at hu
        have hfirst : ¬ [':', '/', '/'] <+: c :: (u ++ '@' :: r) := by
          cases u <;> simp_all
        rw [List.nil_append] at ih ⊢
        rw [List.cons_append, splitOnceText, if_neg hfirst, ih hu.2, Option.map_map]
        rfl
    | cons c l ih =>
      rw [splitOnceText] at hl
      split_ifs at hl with hfirst
      have hfirst : ¬ [':', '/', '/'] <+: c :: (l ++ (u ++ '@' :: r)) := by
        rcases l with _ | ⟨d, _ | ⟨e, l⟩⟩
        · cases u <;> simp_all
        · cases u <;> simp_all
        · simpa using hfirst
      rw [List.cons_append, splitOnceText, if_neg hfirst, ih (Option.map_eq_none_iff.1 hl),
        Option.map_map]
      rfl
  rw [redactDsn, redactDsn, hsplit]
  cases splitOnceText [':', '/', '/'] r with
  | none => rfl
  | some parts =>
    dsimp only [Option.map_some]
    split <;> simp

theorem Dsn.redactDsn_text {d : Dsn} {scheme after : List Char}
    (h : splitOnceText [':', '/', '/'] d.start = some (scheme, after)) :
    redactDsn d.text = scheme ++ "://***@".toList ++ (d.shown ++ d.rest) := by
  have hafter : '@' ∉ after := fun hmem =>
    d.start_plain (eq_of_splitOnceText h ▸ List.mem_append_right _ hmem)
  have hdrop : (after ++ (d.userInfo ++ '@' :: d.rest)).dropWhile (· != '@') =
      '@' :: (d.shown ++ d.rest) := by
    have hinfo : (d.userInfo ++ ['@']).dropWhile (· != '@') = '@' :: d.shown := by
      rw [Dsn.shown]
      induction d.userInfo with
      | nil => rfl
      | cons c l ih =>
        rw [List.cons_append, List.dropWhile_cons]
        split_ifs with hc
        · exact ih
        · simpa using hc
    rw [List.dropWhile_append_of_pos (by grind), List.append_cons, List.dropWhile_append, hinfo]
    rfl
  rw [redactDsn, text, splitOnceText_append (by simp) h]
  dsimp only
  rw [hdrop]

/-- Two connection strings that differ in the user-info only are the same in the log if and only if
the user-info is the same, or the scheme is followed by `://` and the user-info after the first `@`
is the same. -/
theorem dsn_redaction_hides_user_info (d d' : Dsn) (hstart : d.start = d'.start)
    (hrest : d.rest = d'.rest) :
    redactDsn d.text = redactDsn d'.text ↔
      d.userInfo = d'.userInfo ∨ [':', '/', '/'] <:+: d.start ∧ d.shown = d'.shown := by
  cases h : splitOnceText [':', '/', '/'] d.start with
  | none =>
    rw [Dsn.text, Dsn.text, redactDsn_skip h (d.userInfo_plain _ (by simp)),
      redactDsn_skip (hstart ▸ h) (d'.userInfo_plain _ (by simp)), hstart, hrest]
    simp [not_infix_of_splitOnceText (hstart ▸ h)]
  | some parts =>
    have hinfix : [':', '/', '/'] <:+: d.start := ⟨_, _, (eq_of_splitOnceText h).symm⟩
    rw [Dsn.redactDsn_text h, Dsn.redactDsn_text (hstart ▸ h), hrest]
    simp only [List.append_cancel_left_eq, List.append_cancel_right_eq, hinfix, true_and]
    refine ⟨.inr, ?_⟩
    rintro (heq | heq)
    · rw [Dsn.shown, heq, Dsn.shown]
    · exact heq

def sampleDsn (password : List Char) (h : ∀ c ∈ ['/', '?', '#'], c ∉ 'u' :: ':' :: password) :
    Dsn :=
  ⟨"postgres://".toList, 'u' :: ':' :: password, "db/keylo".toList, by decide, h, by decide⟩

theorem dsn_redaction_hides_user_info_postgres :
    redactDsn (sampleDsn "one".toList (by simp)).text = "postgres://***@db/keylo".toList ∧
      redactDsn (sampleDsn "one".toList (by simp)).text =
        redactDsn (sampleDsn "two".toList (by simp)).text :=
  ⟨by decide +kernel, (dsn_redaction_hides_user_info _ _ rfl rfl).2 (.inr (by decide +kernel))⟩

/-- The log shows the end of a password that contains an `@`. -/
theorem password_with_at_sign_shown :
    redactDsn (sampleDsn "p@one".toList (by simp)).text = "postgres://***@one@db/keylo".toList ∧
      redactDsn (sampleDsn "p@one".toList (by simp)).text ≠
        redactDsn (sampleDsn "p@two".toList (by simp)).text := by
  decide +kernel

end Keylo
