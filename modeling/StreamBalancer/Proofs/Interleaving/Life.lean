import StreamBalancer.Proofs.Interleaving.Requests

/-!
# StreamBalancer.Proofs.Interleaving.Life

Histories in which shutdown may be signalled.  The signal ends sessions, and the
scheduler heeds it only between two messages, so it may handle messages after it.
`Life` is a `Run` with such signals in it; it lasts until the scheduler tears down.

* `Life.sound`, `Life.apart` — tables agree, and a request is in one place at most,
  whether or not shutdown was signalled.
-/

namespace StreamBalancer

open Scheduler

/-- A history up to the end of the scheduler, the present first. -/
inductive Life (settings : Settings) (permits : Nat) : List World → Prop where
  | start : Life settings permits [World.initial settings permits]
  | step {w w' : World} {past : List World} (life : Life settings permits (w :: past))
      (h : w.Step w') : Life settings permits (w' :: w :: past)
  /-- Shutdown is signalled. -/
  | signal {w : World} {past : List World} (life : Life settings permits (w :: past)) :
      Life settings permits ({ w with scheduler := w.scheduler.signal } :: w :: past)

/-- A history that goes on with the tasks at hand, so many of them at most. -/
def World.settle : Nat → World → List World → World × List World
  | 0, w, past => (w, past)
  | n + 1, w, past => if w.tasks = [] then (w, past) else settle n w.next (w :: past)

/-- A history before shutdown is a history. -/
theorem Run.life {settings : Settings} {permits : Nat} {h : List World}
    (run : Run settings permits h) : Life settings permits h := by
  induction run with
  | start => exact .start
  | step _ step ih => exact ih.step step

namespace Life

/-- What holds at first and is kept by every step and by the signal holds of every
history. -/
theorem induct {settings : Settings} {permits : Nat}
    {P : ∀ {w : World} {past : List World}, Life settings permits (w :: past) → Prop}
    (initial : P .start)
    (kept : ∀ {w w' : World} {past : List World} (life : Life settings permits (w :: past))
      (h : w.Step w'), P life → P (life.step h))
    (signalled : ∀ {w : World} {past : List World} (life : Life settings permits (w :: past)),
      P life → P life.signal)
    {w : World} {past : List World} (life : Life settings permits (w :: past)) : P life :=
  match w, past, life with
  | _, _, .start => initial
  | _, _, .step life h => kept life h (induct initial kept signalled life)
  | _, _, .signal life => signalled life (induct initial kept signalled life)

variable {settings : Settings} {permits : Nat} {w : World} {past : List World}

/-- A history without its last step. -/
theorem earlier {w' : World} (life : Life settings permits (w' :: w :: past)) :
    Life settings permits (w :: past) := by
  cases life with
  | step life | signal life => exact life

/-- The tasks at hand may be done one after the other. -/
theorem settle (life : Life settings permits (w :: past)) (n : Nat) :
    Life settings permits ((w.settle n past).1 :: (w.settle n past).2) := by
  induction n generalizing w past with
  | zero => exact life
  | succ n ih =>
      rw [World.settle]
      split
      · exact life
      · next htasks => exact ih (life.step (World.step_next htasks))

/-- Settings never change, and the scheduler is there. -/
theorem steady (life : Life settings permits (w :: past)) :
    w.scheduler.settings = settings ∧ w.scheduler.stopped = false := by
  induction life using Life.induct with
  | initial => exact ⟨rfl, rfl⟩
  | signalled _ ih => exact ih
  | @kept w w' _ _ step ih =>
      have hfixed : w'.scheduler.fixed = w.scheduler.fixed := by
        cases step with
        | perform => exact fixed_perform _ _
        | receive _ hreceives => exact hreceives.fixed_eq
        | query => rfl
        | arrive _ haccept => rw [accept?_eq haccept]; rfl
        | work h => exact h.fixed_eq
      simp only [Scheduler.fixed, Prod.mk.injEq] at hfixed
      exact ⟨hfixed.1.trans ih.1, hfixed.2.2.trans ih.2⟩

/-- Tables, pool and identities agree at every moment. -/
theorem sound (life : Life settings permits (w :: past)) : w.Sound := by
  induction life using Life.induct with
  | initial => exact World.sound_initial settings permits
  | kept _ step ih => exact ih.step step
  | signalled _ ih => exact ⟨ih.roster, ih.ordered, ih.live, ih.emptying, ih.arriving⟩

/-- A request is in one place at most at every moment. -/
theorem apart (life : Life settings permits (w :: past)) : w.Apart := by
  induction life using Life.induct with
  | initial => exact World.apart_initial settings permits
  | kept life step ih => exact ih.step life.sound step
  | signalled _ ih => exact ⟨ih.own, ih.once⟩

end Life

end StreamBalancer
