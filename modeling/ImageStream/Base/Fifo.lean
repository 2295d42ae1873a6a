/-
# First in, first out

A part of a machine's state is a queue if every step takes from its front and puts at its
end: what the step finds, followed by what it puts, is what it takes, followed by what it
leaves. Then the same equation holds of every run. Nothing is lost in the queue, nothing is
taken twice, and the order of taking is the order of putting.
-/

import ImageStream.Base.Machine

namespace ImageStream.Base.Fifo

universe u v w t

variable {σ : Type u} {ι : Type v} {ο : Type w} {α : Type t} (step : σ → ι → σ × ο)

/-- What an exchange does to a queue. -/
structure Moves (held : σ → List α) (put taken : Exchange σ ι ο → List α)
    (e : Exchange σ ι ο) : Prop where
  balance : held e.before ++ put e = taken e ++ held e.after

variable {step} {held : σ → List α} {put taken : Exchange σ ι ο → List α}

/-- **A run of a queue.** -/
theorem history_balance (hstep : ∀ s i, Moves held put taken (Machine.exchange step s i))
    (s : σ) (is : List ι) :
    held s ++ (Machine.history step s is).flatMap put =
      (Machine.history step s is).flatMap taken ++ held (Machine.after step s is) := by
  induction is generalizing s with
  | nil => simp
  | cons i is ih =>
      have hbalance := (hstep s i).balance
      have hnext := ih (step s i).1
      rw [Machine.history, Machine.after_cons, List.flatMap_cons, List.flatMap_cons]
      calc held s ++ (put (Machine.exchange step s i) ++ _)
          = (held s ++ put (Machine.exchange step s i)) ++ _ := (List.append_assoc _ _ _).symm
        _ = taken (Machine.exchange step s i) ++ (held (step s i).1 ++ _) := by
            rw [← List.append_assoc]
            exact congrArg (· ++ _) hbalance
        _ = taken (Machine.exchange step s i) ++ (_ ++ held _) := congrArg _ hnext
        _ = (taken (Machine.exchange step s i) ++ _) ++ held _ := (List.append_assoc _ _ _).symm

end ImageStream.Base.Fifo
