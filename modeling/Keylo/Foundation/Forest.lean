import Mathlib.Data.Finset.Basic
import Mathlib.Data.Fintype.EquivFin
import Mathlib.Data.Finite.Prod
import Mathlib.Logic.Function.Basic
import Mathlib.Logic.Relation
import Mathlib.Order.WellFounded

/-!
# Forests given by parent pointers

A forest on a type is given by a function that sends every element to its parent. Nothing in
such a function forbids that an element is its own ancestor; the function describes a forest if
it is acyclic.

## Main definitions

* `Ancestor` : the proper ancestors of an element.
* `Acyclic` : no element is its own ancestor.

## Main results

* `Acyclic.update` : an element can be moved below any element that is not itself and not one of its
  descendants.
* `Acyclic.induction` : induction from the roots of a finite part of a forest.
-/

namespace Forest

open Function

variable {α : Type*} {parent : α → Option α} {a b q x : α} {p : Option α}

/-- `a` is a proper ancestor of `b`. -/
def Ancestor (parent : α → Option α) : α → α → Prop :=
  Relation.TransGen fun a b => parent b = some a

/-- No element is its own ancestor. -/
def Acyclic (parent : α → Option α) : Prop := ∀ a, ¬ Ancestor parent a a

theorem ancestor_of_parent (h : parent b = some a) : Ancestor parent a b :=
  Relation.TransGen.single h

theorem Ancestor.trans {c : α} (hab : Ancestor parent a b) (hbc : Ancestor parent b c) :
    Ancestor parent a c :=
  Relation.TransGen.trans hab hbc

/-- A root has no ancestors. -/
theorem not_ancestor_of_root (h : parent b = none) : ¬ Ancestor parent a b := by
  intro hab
  obtain ⟨c, -, hc⟩ := Relation.TransGen.tail'_iff.1 hab
  rw [h] at hc
  cases hc

/-- A rank that is smaller at every parent. -/
theorem acyclic_of_rank (rank : α → ℕ) (h : ∀ a b, parent b = some a → rank a < rank b) :
    Acyclic parent := by
  have hlt : ∀ a b, Ancestor parent a b → rank a < rank b := fun a b hab =>
    Relation.TransGen.trans_induction_on hab (fun hb => h _ _ hb) fun _ _ hac hcb => hac.trans hcb
  exact fun a haa => lt_irrefl _ (hlt a a haa)

/-- Fewer parents, fewer ancestors. -/
theorem Ancestor.mono {parent' : α → Option α} (h : ∀ a b, parent b = some a → parent' b = some a)
    (hab : Ancestor parent a b) : Ancestor parent' a b :=
  Relation.TransGen.mono h _ _ hab

/-! ### Moving an element -/

variable [DecidableEq α]

/-- An ancestor after `x` was moved below `q` is an ancestor as before, or the path between the
two passes from `x` to `q`. -/
theorem Ancestor.of_update (h : Ancestor (update parent x (some q)) a b) :
    Ancestor parent a b ∨
      ((x = b ∨ Ancestor parent x b) ∧ (a = q ∨ Ancestor parent a q)) := by
  induction h with
  | @single b hb =>
    by_cases hx : b = x
    · subst hx
      rw [update_self, Option.some.injEq] at hb
      exact .inr ⟨.inl rfl, .inl hb.symm⟩
    · rw [update_of_ne hx] at hb
      exact .inl (ancestor_of_parent hb)
  | @tail c b _ hb ih =>
    by_cases hx : b = x
    · subst hx
      rw [update_self, Option.some.injEq] at hb
      subst hb
      rcases ih with hac | ⟨-, hac⟩
      · exact .inr ⟨.inl rfl, .inr hac⟩
      · exact .inr ⟨.inl rfl, hac⟩
    · rw [update_of_ne hx] at hb
      rcases ih with hac | ⟨hxc, haq⟩
      · exact .inl (hac.trans (ancestor_of_parent hb))
      refine .inr ⟨.inr ?_, haq⟩
      rcases hxc with rfl | hxc
      · exact ancestor_of_parent hb
      · exact hxc.trans (ancestor_of_parent hb)

/-- Moving an element below one that is neither itself nor a descendant makes no cycle. -/
theorem Acyclic.update (h : Acyclic parent)
    (hp : ∀ q, p = some q → q ≠ x ∧ ¬ Ancestor parent x q) :
    Acyclic (update parent x p) := by
  cases p with
  | none =>
    intro a ha
    refine h a (ha.mono fun c b hb => ?_)
    by_cases hx : b = x
    · simp [hx] at hb
    · rwa [update_of_ne hx] at hb
  | some q =>
    obtain ⟨hqx, hxq⟩ := hp q rfl
    intro a ha
    rcases ha.of_update with ha | ⟨rfl | hxa, rfl | haq⟩
    · exact h a ha
    · exact hqx rfl
    · exact hxq haq
    · exact hxq hxa
    · exact hxq (hxa.trans haq)

omit [DecidableEq α] in
/-- What passes from parents to children within a finite part of a forest holds on all of it. -/
theorem Acyclic.induction (h : Acyclic parent) (s : Finset α) {P : α → Prop}
    (hs : ∀ a ∈ s, (∀ b ∈ s, parent a = some b → P b) → P a) : ∀ a ∈ s, P a := by
  -- On the finite part the ancestors of an element are well-founded.
  let below : s → s → Prop := fun a b => Ancestor parent a b
  have : IsTrans s below := ⟨fun _ _ _ hab hbc => hab.trans hbc⟩
  have : Std.Irrefl below := ⟨fun a => h a⟩
  have hwf : WellFounded below := Finite.wellFounded_of_trans_of_irrefl below
  have hall : ∀ a : s, P a := fun a =>
    hwf.induction a fun a ih =>
      hs a a.2 fun b hb hab => ih ⟨b, hb⟩ (ancestor_of_parent hab)
  exact fun a ha => hall ⟨a, ha⟩

end Forest
