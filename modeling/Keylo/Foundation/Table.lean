import Mathlib.Data.List.Basic
import Mathlib.Data.List.MinMax
import Mathlib.Data.List.Pairwise

/-!
# Tables with unique constraints

A table is a list of rows no two of which violate a unique constraint. The constraints of a
row type are given by one symmetric relation `clash`, so that primary keys, composite keys and
partial unique indexes are all instances of the same notion. The operations follow the
statements of a relational database: `insert` fails on a violated constraint, `insertIgnore`
is `ON CONFLICT DO NOTHING`, `upsert` is `ON CONFLICT DO UPDATE`, and `update` and `delete`
act on the rows selected by a predicate.

## Main definitions

* `Keyed` : the unique constraints of a row type.
* `IsKey` : a column, or tuple of columns, on which two stored rows never agree.
* `Table` : a list of rows that satisfies the constraints.

## Main results

* `Table.lookup_eq_some_iff` : looking up a key returns the only row with that key.
* `Table.lookup_update`, `Table.lookup_insert`, `Table.lookup_upsert` : the lookups after a
  statement.
-/

namespace Relational

/-- The unique constraints of a row type: `clash r s` says that `r` and `s` may not be stored
in one table. -/
class Keyed (R : Type*) where
  clash : R → R → Bool
  clash_comm : ∀ r s, clash r s = clash s r := by intros; simp only [Bool.beq_comm]

export Keyed (clash clash_comm)

/-- Constraints given by a single key. -/
@[reducible] def Keyed.ofKey {R K : Type*} [DecidableEq K] (key : R → K) : Keyed R where
  clash r s := key r == key s
  clash_comm _ _ := Bool.beq_comm

theorem Keyed.ofKey_clash_eq_false {R K : Type*} [DecidableEq K] {key : R → K} {r s : R} :
    (Keyed.ofKey key).clash r s = false ↔ key r ≠ key s := by
  simp [clash]

/-- The columns `key` form a key: rows that agree on them violate a constraint. -/
class IsKey {R K : Type*} [Keyed R] (key : R → K) : Prop where
  clash_of_eq : ∀ {r s : R}, key r = key s → clash r s = true := by intro _ _ h; simp [clash, h]

/-- The `SET` clause of an update that leaves the constrained columns of a row alone. -/
structure Assignment (R : Type*) [Keyed R] where
  apply : R → R
  clash_apply : ∀ r s, clash (apply r) s = clash r s

/-- A least element of a list, the result of `ORDER BY … LIMIT 1`, depends only on the members of
the list, if they differ in `f`. -/
theorem argmin_congr {α β : Type*} [LinearOrder β] {f : α → β} {l l' : List α}
    (hmem : ∀ x, x ∈ l ↔ x ∈ l') (hinj : ∀ x ∈ l, ∀ y ∈ l, f x = f y → x = y) :
    l.argmin f = l'.argmin f := by
  cases h : l.argmin f with
  | none =>
    have hnil : l = [] := List.argmin_eq_none.1 h
    have hnil' : l' = [] := List.eq_nil_iff_forall_not_mem.2 fun x hx => by
      simpa [hnil] using (hmem x).2 hx
    rw [hnil']
    rfl
  | some m =>
    cases h' : l'.argmin f with
    | none =>
      have hm : m ∈ l' := (hmem m).1 (List.argmin_mem h)
      rw [List.argmin_eq_none.1 h'] at hm
      cases hm
    | some m' =>
      have hm : m ∈ l := List.argmin_mem h
      have hm' : m' ∈ l := (hmem m').2 (List.argmin_mem h')
      have hle : f m ≤ f m' := List.le_of_mem_argmin hm' h
      have hle' : f m' ≤ f m := List.le_of_mem_argmin ((hmem m).1 hm) h'
      rw [hinj m hm m' hm' (le_antisymm hle hle')]

/-- The rows of a table; no two of them violate a unique constraint. -/
structure Table (R : Type*) [Keyed R] where
  rows : List R
  unique : rows.Pairwise fun r s => clash r s = false

namespace Table

variable {R K : Type*} [Keyed R] {t t' : Table R} {r s : R} {p q : R → Bool}

@[ext] theorem ext (h : t.rows = t'.rows) : t = t' := by
  cases t
  cases t'
  cases h
  rfl

instance [DecidableEq R] : DecidableEq (Table R) := fun _ _ =>
  decidable_of_iff _ Table.ext_iff.symm

instance : EmptyCollection (Table R) := ⟨⟨[], .nil⟩⟩

instance : Inhabited (Table R) := ⟨∅⟩

instance : Membership R (Table R) := ⟨fun t r => r ∈ t.rows⟩

instance [DecidableEq R] : Decidable (r ∈ t) := inferInstanceAs (Decidable (r ∈ t.rows))

theorem mem_def : r ∈ t ↔ r ∈ t.rows := Iff.rfl

@[simp] theorem not_mem_empty : r ∉ (∅ : Table R) := List.not_mem_nil

/-- The table of one row. -/
def single (r : R) : Table R := ⟨[r], List.pairwise_singleton ..⟩

@[simp] theorem mem_single : s ∈ single r ↔ s = r := List.mem_singleton

/-! ### Statements -/

/-- `SELECT` without a limit. -/
def select (t : Table R) (p : R → Bool) : List R := t.rows.filter p

/-- `SELECT EXISTS`. -/
def any (t : Table R) (p : R → Bool) : Bool := t.rows.any p

/-- `SELECT` of one row. -/
def find? (t : Table R) (p : R → Bool) : Option R := t.rows.find? p

/-- `SELECT` of the row with the given key. -/
def lookup [DecidableEq K] (t : Table R) (key : R → K) (k : K) : Option R :=
  t.find? fun r => key r == k

/-- `DELETE` of the rows selected by `p`. -/
def delete (t : Table R) (p : R → Bool) : Table R where
  rows := t.rows.filter fun r => !p r
  unique := t.unique.filter _

/-- `INSERT`; the statement fails when a unique constraint would be violated. -/
def insert (t : Table R) (r : R) : Option (Table R) :=
  if h : ∀ s ∈ t.rows, clash r s = false then
    some ⟨r :: t.rows, List.pairwise_cons.2 ⟨h, t.unique⟩⟩
  else
    none

/-- `INSERT … ON CONFLICT DO NOTHING`. -/
def insertIgnore (t : Table R) (r : R) : Table R := (t.insert r).getD t

/-- `UPDATE` of the rows selected by `p` that leaves the constrained columns alone. -/
def update (t : Table R) (p : R → Bool) (f : Assignment R) : Table R where
  rows := t.rows.map fun r => if p r then f.apply r else r
  unique := by
    have h₁ : ∀ a b, clash (if p a then f.apply a else a) b = clash a b := by
      intro a b
      split <;> simp [f.clash_apply]
    refine List.Pairwise.map _ (fun a b hab => ?_) t.unique
    rw [h₁, clash_comm, h₁, clash_comm, hab]

/-- `UPDATE` of the rows selected by `p`; the statement fails when a unique constraint would be
violated. -/
def tryUpdate (t : Table R) (p : R → Bool) (f : R → R) : Option (Table R) :=
  if h : (t.rows.map fun r => if p r then f r else r).Pairwise fun r s => clash r s = false then
    some ⟨_, h⟩
  else
    none

/-- `INSERT … ON CONFLICT DO UPDATE`: rows that clash with `r` are changed by `f`, and `r` is
inserted if there are none. -/
def upsert (t : Table R) (r : R) (f : Assignment R) : Table R :=
  (t.insert r).getD (t.update (clash r) f)

/-! ### Membership -/

@[simp] theorem mem_select : r ∈ t.select p ↔ r ∈ t ∧ p r = true := List.mem_filter

@[simp] theorem any_eq_true : t.any p = true ↔ ∃ r ∈ t, p r = true := List.any_eq_true

@[simp] theorem any_eq_false : t.any p = false ↔ ∀ r ∈ t, p r = false := by
  simp [any, mem_def]

@[simp] theorem mem_delete : r ∈ t.delete p ↔ r ∈ t ∧ p r = false := by
  simp [delete, mem_def]

theorem delete_congr (h : ∀ r ∈ t, p r = q r) : t.delete p = t.delete q :=
  Table.ext (List.filter_congr fun r hr => by rw [h r hr])

variable {f : Assignment R}

theorem mem_update :
    r ∈ t.update p f ↔ ∃ s ∈ t, (if p s then f.apply s else s) = r := List.mem_map

theorem mem_of_insert_eq_some (h : t.insert r = some t') : s ∈ t' ↔ s = r ∨ s ∈ t := by
  unfold insert at h
  split at h
  · cases h
    exact List.mem_cons
  · cases h

/-- An insert succeeds exactly if the new row clashes with no stored one. -/
theorem exists_insert_iff : (∃ t', t.insert r = some t') ↔ ∀ s ∈ t, clash r s = false := by
  constructor
  · rintro ⟨t', h⟩
    unfold insert at h
    split at h
    case isTrue hall => exact hall
    case isFalse => cases h
  · intro h
    exact ⟨_, dif_pos h⟩

/-- An update leaves the keys alone, and so which rows can be inserted. -/
theorem exists_insert_update :
    (∃ t', (t.update p f).insert r = some t') ↔ ∃ t', t.insert r = some t' := by
  have hkeys (s : R) : clash r (if p s then f.apply s else s) = clash r s := by
    split
    · rw [clash_comm, f.clash_apply, clash_comm]
    · rfl
  simp only [exists_insert_iff, mem_update]
  constructor
  · intro h s hs
    exact hkeys s ▸ h _ ⟨s, hs, rfl⟩
  · rintro h _ ⟨s, hs, rfl⟩
    exact (hkeys s).trans (h s hs)

/-- An ignored conflict is with the new row itself, if all columns are constrained. -/
theorem mem_insertIgnore (hr : ∀ s ∈ t, clash r s = true → s = r) :
    s ∈ t.insertIgnore r ↔ s = r ∨ s ∈ t := by
  cases h : t.insert r with
  | some => simpa only [insertIgnore, h, Option.getD_some] using mem_of_insert_eq_some h
  | none =>
    simp only [insertIgnore, h, Option.getD_none]
    refine ⟨.inr, ?_⟩
    rintro (rfl | hs)
    · by_contra hmem
      obtain ⟨t', ht'⟩ := exists_insert_iff.2 fun q hq => by
        by_contra hclash
        exact hmem (hr q hq (by simpa using hclash) ▸ hq)
      simp [h] at ht'
    · exact hs

/-- An upsert stores the new row and keeps the rows that do not clash with it, if it makes every row
that does the new one. -/
theorem mem_upsert (hf : ∀ s ∈ t, clash r s = true → f.apply s = r) :
    s ∈ t.upsert r f ↔ s = r ∨ s ∈ t ∧ clash r s = false := by
  cases h : t.insert r with
  | some t' =>
    have hfree : ∀ s ∈ t, clash r s = false := exists_insert_iff.1 ⟨t', h⟩
    simp only [upsert, h, Option.getD_some, mem_of_insert_eq_some h]
    exact or_congr_right ⟨fun hs => ⟨hs, hfree s hs⟩, And.left⟩
  | none =>
    simp only [upsert, h, Option.getD_none, mem_update]
    constructor
    · rintro ⟨a, ha, rfl⟩
      split_ifs with hclash
      · exact .inl (hf a ha hclash)
      · exact .inr ⟨ha, by simpa using hclash⟩
    · rintro (rfl | ⟨hs, hclash⟩)
      · have hno : ¬ ∀ a ∈ t, clash s a = false := fun hall => by
          obtain ⟨t', ht'⟩ := exists_insert_iff.2 hall
          simp [h] at ht'
        push Not at hno
        obtain ⟨a, ha, hclash⟩ := hno
        have hclash : clash s a = true := by simpa using hclash
        exact ⟨a, ha, by rw [if_pos hclash, hf a ha hclash]⟩
      · exact ⟨s, hs, by simp [hclash]⟩

theorem mem_of_tryUpdate_eq_some {f : R → R} (h : t.tryUpdate p f = some t') :
    r ∈ t' ↔ ∃ s ∈ t, (if p s then f s else s) = r := by
  unfold tryUpdate at h
  split at h
  · cases h
    exact List.mem_map
  · cases h

theorem update_eq_self (h : ∀ r ∈ t, p r = false) : t.update p f = t := by
  refine Table.ext ((List.map_congr_left fun r hr => ?_).trans (List.map_id _))
  simp [h r hr]

/-- An update of a single row replaces it. -/
theorem mem_update_of_unique (hr : r ∈ t) (hp : p r = true)
    (hunique : ∀ s ∈ t, p s = true → s = r) :
    s ∈ t.update p f ↔ s = f.apply r ∨ s ∈ t ∧ s ≠ r := by
  rw [mem_update]
  constructor
  · rintro ⟨a, ha, rfl⟩
    by_cases hpa : p a = true
    · rw [if_pos hpa, hunique a ha hpa]
      exact .inl rfl
    · rw [if_neg hpa]
      exact .inr ⟨ha, fun har => hpa (har ▸ hp)⟩
  · rintro (rfl | ⟨hs, hne⟩)
    · exact ⟨r, hr, if_pos hp⟩
    · exact ⟨s, hs, if_neg fun hps => hne (hunique s hs hps)⟩

/-- Stored rows that violate a constraint together are the same row. -/
theorem eq_of_clash (hr : r ∈ t) (hs : s ∈ t) (h : clash r s = true) : r = s := by
  by_contra hne
  have hsym : Std.Symm fun r s : R => clash r s = false := ⟨fun a b hab => by rw [clash_comm, hab]⟩
  have := t.unique.forall hr hs hne
  simp [h] at this

/-! ### Tables that agree -/

/-- The two tables have the same rows with the property `q`. -/
def AgreeOn (q : R → Prop) (t t' : Table R) : Prop := ∀ r, q r → (r ∈ t ↔ r ∈ t')

theorem AgreeOn.mem_select_iff {q : R → Prop} (h : AgreeOn q t t') (hp : ∀ r, p r = true → q r) :
    r ∈ t.select p ↔ r ∈ t'.select p := by
  rw [mem_select, mem_select]
  exact and_congr_left fun hpr => h r (hp r hpr)

/-- A query that selects only rows on which two tables agree has the same answer on both. -/
theorem AgreeOn.any_eq {q : R → Prop} (h : AgreeOn q t t') (hp : ∀ r, p r = true → q r) :
    t.any p = t'.any p := by
  have hsome : ∀ t : Table R, t.any p = true ↔ ∃ r, r ∈ t.select p := fun t => by simp
  rw [Bool.eq_iff_iff, hsome, hsome]
  exact exists_congr fun r => h.mem_select_iff hp

theorem AgreeOn.any (h : AgreeOn (fun _ => True) t t') (p : R → Bool) : t.any p = t'.any p :=
  h.any_eq fun _ _ => trivial

/-! ### Lookups -/

section Lookup

variable [DecidableEq K] {key : R → K} [IsKey key] {k : K}

omit [DecidableEq K] in
theorem eq_of_key (hr : r ∈ t) (hs : s ∈ t) (h : key r = key s) : r = s :=
  eq_of_clash hr hs (IsKey.clash_of_eq h)

omit [DecidableEq K] in
theorem key_ne_of_insert (h : t.insert r = some t') (hs : s ∈ t) : key s ≠ key r := by
  intro hkey
  have hfree := exists_insert_iff.1 ⟨t', h⟩ s hs
  simp [IsKey.clash_of_eq hkey.symm] at hfree

/-- The lookup of a key finds a row exactly if it is the stored row with that key. -/
theorem lookup_eq_some_iff : t.lookup key k = some r ↔ r ∈ t ∧ key r = k := by
  constructor
  · intro h
    exact ⟨List.mem_of_find?_eq_some h, by simpa using List.find?_some h⟩
  · rintro ⟨hr, rfl⟩
    cases h : t.lookup key (key r) with
    | none => simpa using List.find?_eq_none.1 h r hr
    | some s =>
      have hs : s ∈ t := List.mem_of_find?_eq_some h
      have hk : key s = key r := by simpa using List.find?_some h
      rw [eq_of_key hs hr hk]

variable (key) in
theorem mem_iff_lookup : r ∈ t ↔ t.lookup key (key r) = some r := by
  simp [lookup_eq_some_iff]

omit [IsKey key] in
theorem lookup_eq_none_iff : t.lookup key k = none ↔ ∀ r ∈ t, key r ≠ k := by
  simp [lookup, find?, mem_def]

omit [IsKey key] in
@[simp] theorem lookup_empty : (∅ : Table R).lookup key k = none := rfl

variable {f : Assignment R}

omit [IsKey key] in
/-- A statement that keeps the key of every row changes the row found and nothing else. -/
theorem lookup_update (hk : ∀ r, key (f.apply r) = key r) :
    (t.update p f).lookup key k =
      (t.lookup key k).map fun r => if p r then f.apply r else r := by
  have h : ((fun r => key r == k) ∘ fun r => if p r then f.apply r else r) =
      fun r => key r == k := by
    funext r
    by_cases hp : p r = true <;> simp [hp, hk]
  simp only [lookup, find?, update, List.find?_map, h]

omit [IsKey key] in
/-- An update of the only row with the key `k` changes the lookup of `k` and no other. -/
theorem lookup_update_of_key (hk : ∀ r, key (f.apply r) = key r)
    (hp : ∀ r, p r = true → key r = k) (hr : t.lookup key k = some r) (hpr : p r = true) (k' : K) :
    (t.update p f).lookup key k' = if k = k' then some (f.apply r) else t.lookup key k' := by
  rw [lookup_update hk]
  split_ifs with hkk
  · subst hkk
    simp [hr, hpr]
  cases hl : t.lookup key k' with
  | none => rfl
  | some s =>
    have hs : key s = k' := by simpa using List.find?_some hl
    have : p s ≠ true := fun hps => hkk (by rw [← hp s hps, hs])
    simp [this]

/-- An update that keeps the keys of the rows changes what is found under them. -/
theorem lookup_tryUpdate {f : R → R} (h : t.tryUpdate p f = some t')
    (hk : ∀ r, key (f r) = key r) :
    t'.lookup key k = (t.lookup key k).map fun r => if p r then f r else r := by
  ext r
  rw [lookup_eq_some_iff, mem_of_tryUpdate_eq_some h, Option.map_eq_some_iff]
  constructor
  · rintro ⟨⟨s, hs, rfl⟩, hsk⟩
    refine ⟨s, lookup_eq_some_iff.2 ⟨hs, ?_⟩, rfl⟩
    rw [← hsk]
    split_ifs <;> simp only [hk]
  · rintro ⟨s, hs, rfl⟩
    obtain ⟨hs, hsk⟩ := lookup_eq_some_iff.1 hs
    refine ⟨⟨s, hs, rfl⟩, ?_⟩
    rw [← hsk]
    split_ifs <;> simp only [hk]

omit [IsKey key] in
theorem lookup_delete_of_forall (h : ∀ r, key r = k → p r = true) :
    (t.delete p).lookup key k = none := by
  rw [lookup_eq_none_iff]
  intro r hr hk
  simp [mem_delete, h r hk] at hr

theorem lookup_delete_of_forall_not (h : ∀ r, key r = k → p r = false) :
    (t.delete p).lookup key k = t.lookup key k := by
  ext r
  simp only [lookup_eq_some_iff, mem_delete, and_assoc]
  exact ⟨fun hr => ⟨hr.1, hr.2.2⟩, fun hr => ⟨hr.1, h r hr.2, hr.2⟩⟩

theorem lookup_insert (h : t.insert r = some t') :
    t'.lookup key k = if key r = k then some r else t.lookup key k := by
  have hr : r ∈ t' := (mem_of_insert_eq_some h).2 (.inl rfl)
  split_ifs with hk
  · exact lookup_eq_some_iff.2 ⟨hr, hk⟩
  ext s
  rw [lookup_eq_some_iff, lookup_eq_some_iff, mem_of_insert_eq_some h]
  constructor
  · rintro ⟨rfl | hs, hks⟩
    · exact absurd hks hk
    · exact ⟨hs, hks⟩
  · rintro ⟨hs, hks⟩
    exact ⟨.inr hs, hks⟩

/-- An upsert on a key stores the inserted row, or the changed one if the key was taken. -/
theorem lookup_upsert (hk : ∀ r, key (f.apply r) = key r)
    (hc : ∀ a b : R, clash a b = true → key a = key b) :
    (t.upsert r f).lookup key k =
      if key r = k then some ((t.lookup key k).elim r f.apply) else t.lookup key k := by
  cases h : t.insert r with
  | some t' =>
    have hnone : t.lookup key (key r) = none := by
      rw [lookup_eq_none_iff]
      intro s hs he
      have := exists_insert_iff.1 ⟨t', h⟩ s hs
      rw [IsKey.clash_of_eq he.symm] at this
      cases this
    simp only [upsert, h, Option.getD_some, lookup_insert h]
    split_ifs with hrk
    · rw [← hrk, hnone, Option.elim_none]
    · rfl
  | none =>
    have hex : ∃ s ∈ t, clash r s = true := by
      by_contra hno
      have hall : ∀ s ∈ t, clash r s = false := fun s hs => by
        by_contra hne
        exact hno ⟨s, hs, by simpa using hne⟩
      obtain ⟨t', ht'⟩ := exists_insert_iff.2 hall
      simp [h] at ht'
    obtain ⟨s, hs, hrs⟩ := hex
    simp only [upsert, h, Option.getD_none, lookup_update hk]
    split_ifs with hrk
    · have hl : t.lookup key k = some s := lookup_eq_some_iff.2 ⟨hs, by rw [← hrk, hc r s hrs]⟩
      simp [hl, hrs]
    cases hl : t.lookup key k with
    | none => rfl
    | some s' =>
      have hs' := lookup_eq_some_iff.1 hl
      have : clash r s' ≠ true := fun hcl => hrk (by rw [hc r s' hcl, hs'.2])
      simp [this]

end Lookup

end Table

end Relational
