/-
# Grants that last for a time

A cache of positive answers keeps for each key until when the last one counts. Whatever
else such a cache does with its entries, two laws bound how long an answer outlives its
withdrawal: an entry is an old one or that of an input which was vouched for just now, and
an input is granted only on an entry that still counts or when it is vouched for itself.
The keys are kept apart by the laws, so the bound holds for each key by itself.
-/

import ImageStream.Base.Machine
import Mathlib.Algebra.Order.Group.Defs
import Mathlib.Algebra.Order.Sub.Basic

namespace ImageStream.Base

universe u v w x y

variable {σ : Type u} {ι : Type v} {ο : Type w}

/-- A machine whose grants last for a lifetime. -/
structure Granting (κ : Type x) (τ : Type y) [Add τ] [LT τ] (step : σ → ι → σ × ο) where
  key : ι → κ
  time : ι → τ
  lifetime : σ → τ
  /-- Until when a key is granted without being vouched for again. -/
  expiry? : σ → κ → Option τ
  /-- Whether an input makes the machine ask, and the answer is positive. -/
  Vouched : σ → ι → Prop
  Granted : ο → Prop
  lifetime_step : ∀ s i, lifetime (step s i).1 = lifetime s
  expiry_step : ∀ s i k expiry, expiry? (step s i).1 k = some expiry →
    expiry? s k = some expiry ∨ (Vouched s i ∧ key i = k ∧ expiry = time i + lifetime s)
  granted_step : ∀ s i, Granted (step s i).2 →
    Vouched s i ∨ ∃ expiry, expiry? s (key i) = some expiry ∧ time i < expiry

namespace Granting

variable {κ : Type x} {τ : Type y} [AddCommGroup τ] [LinearOrder τ] {step : σ → ι → σ × ο}
  (grants : Granting κ τ step)

/-- Every entry is that of an input of its key that was vouched for. -/
def Backed (lifetime : τ) (past : List (Exchange σ ι ο)) (s : σ) : Prop :=
  grants.lifetime s = lifetime ∧
    ∀ k expiry, grants.expiry? s k = some expiry → ∃ e ∈ past,
      grants.Vouched e.before e.input ∧ grants.key e.input = k ∧
        expiry = grants.time e.input + lifetime

theorem Backed.snoc {grants : Granting κ τ step} {lifetime : τ}
    {past : List (Exchange σ ι ο)} {s : σ} (h : grants.Backed lifetime past s) (i : ι) :
    grants.Backed lifetime (past ++ [Machine.exchange step s i]) (step s i).1 := by
  obtain ⟨hlifetime, hbacked⟩ := h
  refine ⟨(grants.lifetime_step s i).trans hlifetime, fun k expiry hexpiry => ?_⟩
  rcases grants.expiry_step s i k expiry hexpiry with hold | ⟨hvouched, hkey, hnew⟩
  · obtain ⟨e, he, hsource⟩ := hbacked k expiry hold
    exact ⟨e, List.mem_append_left _ he, hsource⟩
  · refine ⟨Machine.exchange step s i, List.mem_append_right _ List.mem_cons_self, hvouched, hkey, ?_⟩
    rw [hnew, hlifetime]
    rfl

variable {s : σ}

theorem backed_history (hinit : ∀ k, grants.expiry? s k = none) (is : List ι) :
    grants.Backed (grants.lifetime s) (Machine.history step s is) (Machine.after step s is) := by
  apply Machine.history_invariant step (I := grants.Backed (grants.lifetime s))
  · refine ⟨rfl, fun k expiry hexpiry => ?_⟩
    rw [hinit] at hexpiry
    cases hexpiry
  · exact fun past t i h => h.snoc i

variable [IsOrderedAddMonoid τ]

/-- **The lifetime of a grant.** An input is granted only if one of its key, this one or an
earlier one, was vouched for less than a lifetime ago. -/
theorem vouched_recently (hinit : ∀ k, grants.expiry? s k = none)
    (hpos : 0 < grants.lifetime s) (is : List ι) :
    Machine.EachStep step (fun past t i => grants.Granted (step t i).2 →
      ∃ e ∈ past ++ [Machine.exchange step t i], grants.Vouched e.before e.input ∧
        grants.key e.input = grants.key i ∧
          grants.time i - grants.time e.input < grants.lifetime s) s is := by
  rintro first i second rfl hgranted
  obtain ⟨-, hbacked⟩ := grants.backed_history hinit first
  rcases grants.granted_step _ i hgranted with hvouched | ⟨expiry, hexpiry, hlate⟩
  · refine ⟨_, List.mem_append_right _ List.mem_cons_self, hvouched, rfl, ?_⟩
    show grants.time i - grants.time i < grants.lifetime s
    rwa [sub_self]
  · obtain ⟨e, he, hvouched, hkey, rfl⟩ := hbacked _ expiry hexpiry
    exact ⟨e, List.mem_append_left _ he, hvouched, hkey, sub_left_lt_of_lt_add hlate⟩

/-- **Withdrawal.** A key that is not vouched for from some time on is not granted once a
lifetime has passed. -/
theorem refused_after_lifetime (hinit : ∀ k, grants.expiry? s k = none)
    (hpos : 0 < grants.lifetime s) {is : List ι} {k : κ} {withdrawn : τ}
    (hwithdrawn : ∀ e ∈ Machine.history step s is, grants.key e.input = k →
      withdrawn ≤ grants.time e.input → ¬grants.Vouched e.before e.input) :
    ∀ e ∈ Machine.history step s is, grants.key e.input = k →
      withdrawn + grants.lifetime s ≤ grants.time e.input → ¬grants.Granted e.output := by
  intro e he hkey hlate hgranted
  obtain ⟨first, i, second, rfl, rfl⟩ := Machine.exists_split_of_mem_history step he
  obtain ⟨source, hsource, hvouched, hsame, hrecent⟩ :=
    grants.vouched_recently hinit hpos _ first i second rfl hgranted
  have hmem : source ∈ Machine.history step s (first ++ i :: second) := by
    rw [List.append_cons, Machine.history_append, Machine.history_snoc]
    exact List.mem_append_left _ hsource
  refine hwithdrawn source hmem (hsame.trans hkey) ?_ hvouched
  have hsum : withdrawn + grants.lifetime s < grants.time source.input + grants.lifetime s :=
    hlate.trans_lt (lt_add_of_sub_left_lt hrecent)
  exact (lt_of_add_lt_add_right hsum).le

end Granting

end ImageStream.Base
