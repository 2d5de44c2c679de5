import StreamBalancer.Proofs.Interleaving.Books
import StreamBalancer.Proofs.Interleaving.Tally

/-!
# StreamBalancer.Proofs.Interleaving.Account

What became of every request that the scheduler took up, between any two messages of
every history before shutdown (`Run.none_lost`).

1. A report names the instance and how the forward ended, but not the request if that is
   over.  So the history is asked: a forward that reports is the one whose request is
   carried no longer (`World.tells`), and reports are handled in the order in which they
   were made (`World.heard`, `World.unheard`).
2. The books are in balance after every entry (`Ledger`, `World.Moves.ledger`).
3. Between two messages the scheduler has nothing in its hands, and the loads of the
   instances add up to the forwards under way and the reports that wait
   (`Run.sum_ongoing`).
-/

namespace StreamBalancer

/-- What is left over where one element was taken out of the midst. -/
theorem diff_middle {α : Type} [BEq α] [LawfulBEq α] (front back : List α) (x : α) :
    (front ++ x :: back).diff (front ++ back) = [x] := by
  induction front with
  | cons y rest ih => simpa using ih
  | nil =>
      induction back generalizing x with
      | nil => rfl
      | cons y rest ih =>
          by_cases hx : x = y
          · simpa [hx] using ih y
          · simpa [hx] using ih x

/-- The requests whose forwards ended with a verdict. -/
def endedAs (verdict : Verdict) (reports : List (Nat × Finished)) : List Nat :=
  (reports.filter fun x => x.2.outcome.verdict == verdict).map Prod.fst

theorem endedAs_append (verdict : Verdict) (l m : List (Nat × Finished)) :
    endedAs verdict (l ++ m) = endedAs verdict l ++ endedAs verdict m := by
  rw [endedAs, List.filter_append, List.map_append]
  rfl

/-- The request of a report is handed back, or its forward was completed or failed. -/
theorem count_endedAs {x : Nat × Finished} (hown : ∀ r, x.2.outcome.request? = some r → r = x.1)
    (q : Nat) : x.2.outcome.request?.toList.count q + (endedAs .completed [x]).count q +
      (endedAs .failed [x]).count q = [x.1].count q := by
  obtain ⟨r, b, outcome⟩ := x
  cases outcome with
  | completed | failed => simp [endedAs, Outcome.verdict, Outcome.request?]
  | dialFailed p =>
      obtain rfl : p = r := hown p rfl
      simp [endedAs, Outcome.verdict, Outcome.request?]

namespace World

/-- The request that the scheduler takes up. -/
def takes (w w' : World) : Option Nat := lost? w.books.jobs w'.books.jobs

/-- The request of the forward that reports, and its report. -/
def tells (w w' : World) : Option (Nat × Finished) :=
  (gained? w.books.outcomes w'.books.outcomes).bind fun f =>
    (w.books.carried.diff w'.books.carried).head?.map fun x => (x.1, f)

/-- The reports of a history that were handled, with the requests. -/
def heard (h : List World) : List (Nat × Finished) :=
  (gather tells h).take (gather handles h).length

/-- The reports of a history that were not handled, with the requests. -/
def unheard (h : List World) : List (Nat × Finished) :=
  (gather tells h).drop (gather handles h).length

end World

/-- The books are in balance. -/
structure Ledger (k : Books) (taken : List Nat) (heard unheard : List (Nat × Finished)) : Prop where
  /-- What was taken up, followed by what was not, is what arrived. -/
  accepted : taken ++ k.jobs = k.arrived.reverse
  /-- No request arrives twice. -/
  distinct : k.arrived.Nodup
  /-- The reports that were not handled. -/
  reports : unheard.map Prod.snd = k.ended ++ k.outcomes
  /-- A report hands back the request of its forward. -/
  own : ∀ x ∈ unheard, ∀ r, x.2.outcome.request? = some r → r = x.1
  /-- A request is in as many places as it was taken up. -/
  count : ∀ r, (k.hand.map Prod.fst).count r + k.pending.count r +
    (k.carried.map Prod.fst).count r + (unheard.map Prod.fst).count r + k.dropped.count r +
    (endedAs .completed heard).count r + (endedAs .failed heard).count r = taken.count r
  /-- Refusals, reports and requests that are scheduled again are counted. -/
  rejected : k.counts .rejected = k.dropped.length
  verdicts : ∀ v, k.counts (.requests v) = (endedAs v heard).length
  rescheduled : k.counts .rescheduled = (endedAs .dialFailed heard).length

namespace World

variable {w w' : World}

/-- **Every entry keeps the books in balance**: a report that is made joins those that wait,
and one that is handled leaves them. -/
theorem Moves.ledger (h : w.Moves w') {taken : List Nat} {heard unheard : List (Nat × Finished)}
    (hledger : Ledger w.books taken heard unheard) :
    ∃ heard' unheard', heard' ++ unheard' = heard ++ unheard ++ (w.tells w').toList ∧
      heard'.map Prod.snd = heard.map Prod.snd ++ (w.handles w').toList ∧
      Ledger w'.books (taken ++ (w.takes w').toList) heard' unheard' := by
  rw [World.takes, World.tells, World.handles]
  cases h with
  | same h =>
      refine ⟨heard, unheard, by simp [h], by simp [h], ?_⟩
      simpa [h] using hledger
  | @arrives r hnew h =>
      refine ⟨heard, unheard, by simp [h], by simp [h], ?_⟩
      simp only [h, lost?_concat, Option.toList_none, List.append_nil]
      exact { hledger with
        accepted := by rw [← List.append_assoc, hledger.accepted, List.reverse_cons]
        distinct := hledger.distinct.cons hnew }
  | @takes r t hbefore hafter =>
      rw [hbefore] at hledger ⊢
      rw [hafter]
      refine ⟨heard, unheard, by simp, by simp, ?_⟩
      simp only [lost?_cons, Option.toList_some]
      exact { hledger with
        accepted := by simpa using hledger.accepted
        count := fun q => by
          have hcount := hledger.count q
          simp only [List.map_cons, List.map_nil, List.count_append, List.count_cons,
            List.count_nil] at hcount ⊢
          omega }
  | @waits r t _ hbefore hafter | @calls r t hbefore hafter
  | @assigns r b _ _ t _ _ hbefore hafter =>
      rw [hbefore] at hledger ⊢
      rw [hafter]
      refine ⟨heard, unheard, by simp, by simp, ?_⟩
      simp only [lost?_self, Option.toList_none, List.append_nil]
      exact { hledger with
        count := fun q => by
          have hcount := hledger.count q
          simp only [List.map_append, List.map_cons, List.map_nil, List.count_append,
            List.count_cons, List.count_nil] at hcount ⊢
          omega }
  | @refuses r q rest t _ hbefore hafter =>
      rw [hbefore] at hledger ⊢
      rw [hafter]
      refine ⟨heard, unheard, by simp, by simp, ?_⟩
      simp only [lost?_self, Option.toList_none, List.append_nil]
      exact { hledger with
        count := fun q => by
          have hcount := hledger.count q
          simp only [List.map_cons, List.map_nil, List.count_append, List.count_cons,
            List.count_nil] at hcount ⊢
          omega
        rejected := by simpa [bump] using hledger.rejected
        verdicts := fun v => by simpa [bump] using hledger.verdicts v
        rescheduled := by simpa [bump] using hledger.rescheduled }
  | @tells r b front back outcome t hown hbefore hafter =>
      rw [hbefore] at hledger ⊢
      rw [hafter]
      refine ⟨heard, unheard ++ [(r, ⟨b, outcome⟩)], ?_, by simp, ?_⟩
      · simp [gained?_concat, diff_middle, -List.diff_append]
      simp only [lost?_self, Option.toList_none, List.append_nil]
      exact { hledger with
        reports := by simp [hledger.reports]
        own := fun x hx => by
          rw [List.mem_append, List.mem_singleton] at hx
          obtain hx | rfl := hx
          · exact hledger.own x hx
          · exact hown
        count := fun q => by
          have hcount := hledger.count q
          simp only [List.map_append, List.map_cons, List.map_nil, List.count_append,
            List.count_cons, List.count_nil] at hcount ⊢
          omega }
  | @hears f t hbefore hafter =>
      rw [hbefore] at hledger ⊢
      rw [hafter]
      refine ⟨heard, unheard, by simp, by simp [lost?], ?_⟩
      simp only [lost?_self, Option.toList_none, List.append_nil]
      exact { hledger with reports := hledger.reports }
  | @handles f rest t _ _ hbefore hafter =>
      rw [hbefore] at hledger ⊢
      rw [hafter]
      obtain ⟨x, unheard, rfl, rfl, hreports⟩ := List.map_eq_cons_iff.1 hledger.reports
      refine ⟨heard ++ [x], unheard, by simp, by simp, ?_⟩
      simp only [lost?_self, Option.toList_none, List.append_nil]
      have hown := hledger.own _ List.mem_cons_self
      exact { hledger with
        reports := hreports
        own := fun y hy => hledger.own y (List.mem_cons_of_mem _ hy)
        count := fun q => by
          have hcount := hledger.count q
          have hhanded := count_endedAs hown q
          simp only [endedAs_append, List.map_map, Function.comp_def, List.map_id_fun', id_eq,
            List.map_cons, List.map_nil, List.count_append, List.count_cons, List.count_nil]
            at hcount hhanded ⊢
          omega
        rejected := by
          have hbefore := hledger.rejected
          cases x.2.outcome <;> simpa [bump] using hbefore
        verdicts := fun v => by
          have hbefore := hledger.verdicts v
          rw [endedAs_append]
          cases houtcome : x.2.outcome <;> cases v <;>
            simpa [bump, endedAs, Outcome.verdict, houtcome] using hbefore
        rescheduled := by
          have hbefore := hledger.rescheduled
          rw [endedAs_append]
          cases houtcome : x.2.outcome <;>
            simpa [bump, endedAs, Outcome.verdict, houtcome] using hbefore }

/-- The reports of a history are those that were handled, followed by others, and the
books are in balance. -/
def Balanced (w : World) (past : List World) : Prop :=
  ∃ heard unheard, gather World.tells (w :: past) = heard ++ unheard ∧
    heard.map Prod.snd = gather World.handles (w :: past) ∧
    Ledger w.books (gather World.takes (w :: past)) heard unheard

theorem balanced_initial {settings : Scheduler.Settings} {permits : Nat} :
    (initial settings permits).Balanced [] :=
  ⟨[], [], rfl, rfl, rfl, List.nodup_nil, rfl, by simp, fun _ => rfl, rfl, fun _ => rfl, rfl⟩

theorem Moves.balanced {past : List World} (h : w.Moves w') (hbalanced : w.Balanced past) :
    w'.Balanced (w :: past) := by
  obtain ⟨heard, unheard, htold, hhandled, hledger⟩ := hbalanced
  obtain ⟨heard', unheard', htold', hhandled', hledger'⟩ := h.ledger hledger
  refine ⟨heard', unheard', ?_, ?_, hledger'⟩
  · rw [gather_cons, htold, htold']
  · rw [gather_cons, ← hhandled, hhandled']

/-- The reports that were handled are the earliest ones made. -/
theorem Balanced.ledger {past : List World} (h : w.Balanced past) :
    (World.heard (w :: past)).map Prod.snd = gather World.handles (w :: past) ∧
      Ledger w.books (gather World.takes (w :: past)) (World.heard (w :: past))
        (World.unheard (w :: past)) := by
  obtain ⟨heard, unheard, htold, hhandled, hledger⟩ := h
  have hlength : (gather World.handles (w :: past)).length = heard.length := by
    rw [← hhandled, List.length_map]
  rw [World.heard, World.unheard, htold, hlength, List.take_left, List.drop_left]
  exact ⟨hhandled, hledger⟩

/-- What became of the requests of a history, between two messages. -/
structure Accounted (w : World) (past : List World) : Prop where
  /-- What was taken up, followed by what was not, is what arrived. -/
  accepted : gather takes (w :: past) ++ w.scheduler.jobs = w.arrived.reverse
  /-- No request arrives twice. -/
  distinct : w.arrived.Nodup
  /-- Reports are handled in the order in which they were made. -/
  handled : (heard (w :: past)).map Prod.snd = gather handles (w :: past)
  /-- The reports that were not handled wait. -/
  reports : (unheard (w :: past)).map Prod.snd = w.scheduler.outcomes
  /-- A report that hands a request back hands back that of its forward. -/
  own : ∀ x ∈ unheard (w :: past), ∀ r, x.2.outcome.request? = some r → r = x.1
  /-- A request that was taken up is in one place, and once: it waits, or a forward carries
  it, or the report of its forward waits, or it was refused, completed or failed. -/
  once : ∀ r ∈ gather takes (w :: past),
    w.scheduler.pending.count r + (w.scheduler.forwards.map Forward.request).count r +
      ((unheard (w :: past)).map Prod.fst).count r + w.scheduler.dropped.count r +
      (endedAs .completed (heard (w :: past))).count r +
      (endedAs .failed (heard (w :: past))).count r = 1
  /-- Refusals are counted. -/
  refusals : w.scheduler.fleet.metrics.value .rejected = w.scheduler.dropped.length
  /-- Reports that were handled are counted by verdicts. -/
  verdicts : ∀ v, w.scheduler.fleet.metrics.value (.requests v) =
    (endedAs v (heard (w :: past))).length
  /-- The requests taken up are those that wait, the loads of all instances, and those
  counted as refused, completed or failed. -/
  balance : (gather takes (w :: past)).length = w.scheduler.pending.length +
    ∑ b ∈ Finset.range w.scheduler.fleet.backends.size, w.scheduler.ongoing b +
    w.scheduler.fleet.metrics.value .rejected +
    w.scheduler.fleet.metrics.value (.requests .completed) +
    w.scheduler.fleet.metrics.value (.requests .failed)
  /-- Every request that could not be dialed is scheduled again. -/
  again : w.scheduler.fleet.metrics.value (.requests .dialFailed) =
    w.scheduler.fleet.metrics.value .rescheduled

end World

/-- **The books are in balance** at every moment. -/
theorem Life.balanced {settings : Scheduler.Settings} {permits : Nat} {w : World}
    {past : List World} (life : Life settings permits (w :: past)) : w.Balanced past :=
  life.induct_moves World.balanced_initial fun _ h ih => h.balanced ih

namespace Run

open Scheduler World

variable {settings : Settings} {permits : Nat} {w : World} {past : List World}

/-- Between two messages the loads of all instances add up to the forwards under way and
the reports that wait. -/
theorem sum_ongoing (run : Run settings permits (w :: past)) (h : w.tasks = []) :
    ∑ b ∈ Finset.range w.scheduler.fleet.backends.size, w.scheduler.ongoing b =
      w.scheduler.forwards.length + w.scheduler.outcomes.length := by
  let places :=
    w.scheduler.forwards.map Forward.backend ++ w.scheduler.outcomes.map Finished.backend
  have hcount : ∀ b, w.scheduler.ongoing b = places.count b := by
    intro b
    have hexact : w.scheduler.ongoing b = _ := (run.exact b).count
    rw [hexact]
    simp [tally, h, places, List.count, List.countP_map, Function.comp_def]
  have hplaces : ∀ b ∈ places, b < w.scheduler.fleet.backends.size := fun b hb =>
    lt_size_of_ongoing (hcount b ▸ List.count_pos_iff.2 hb)
  calc ∑ b ∈ Finset.range w.scheduler.fleet.backends.size, w.scheduler.ongoing b
      = ∑ b ∈ Finset.range w.scheduler.fleet.backends.size, places.count b :=
        Finset.sum_congr rfl fun b _ => hcount b
    _ = places.length := (length_eq_sum_count hplaces).symm
    _ = w.scheduler.forwards.length + w.scheduler.outcomes.length := by simp [places]

/-- **No request is lost or duplicated.**  Between two messages of a history before
shutdown every request that was taken up is in one place, and once; so the gauges and
counters add up to the requests taken up, and every request that could not be dialed was
scheduled again. -/
theorem none_lost (run : Run settings permits (w :: past)) (h : w.tasks = []) :
    w.Accounted past := by
  obtain ⟨hhandled, hledger⟩ := run.life.balanced.ledger
  have hbooks : w.books = w.scheduler.books [] w.arrived := by rw [World.books, h]
  rw [hbooks, books_rest _ rfl rfl] at hledger
  obtain ⟨haccepted, hdistinct, hreports, hown, hcount, hrejected, hverdicts, hrescheduled⟩ :=
    hledger
  have hroutes : w.scheduler.routes.map Prod.fst = w.scheduler.forwards.map Forward.request := by
    simp [routes, Function.comp_def]
  simp only [List.filterMap_nil, List.append_nil, List.nil_append, List.map_nil, List.count_nil,
    Nat.zero_add, hroutes] at hcount hreports
  have htaken : (gather takes (w :: past)).Nodup := by
    have hall := List.nodup_reverse.2 hdistinct
    rw [← haccepted] at hall
    exact hall.of_append_left
  have hperm : (gather takes (w :: past)).Perm (w.scheduler.pending ++
      (w.scheduler.forwards.map Forward.request ++ ((unheard (w :: past)).map Prod.fst ++
        (w.scheduler.dropped ++ (endedAs .completed (heard (w :: past)) ++
          endedAs .failed (heard (w :: past))))))) := by
    rw [List.perm_iff_count]
    intro r
    simp only [List.count_append]
    rw [← hcount]
    omega
  refine ⟨haccepted, hdistinct, hhandled, hreports, hown, fun r hr => ?_, hrejected, hverdicts, ?_,
    (hverdicts .dialFailed).trans hrescheduled.symm⟩
  · rw [hcount]
    exact List.count_eq_one_of_mem htaken hr
  · have hlength := hperm.length_eq
    have hwaiting := congrArg List.length hreports
    have hcompleted : w.scheduler.fleet.metrics.value (.requests .completed) = _ :=
      hverdicts .completed
    have hfailed : w.scheduler.fleet.metrics.value (.requests .failed) = _ := hverdicts .failed
    have hrefused : w.scheduler.fleet.metrics.value .rejected = _ := hrejected
    rw [run.sum_ongoing h, hcompleted, hfailed, hrefused, hlength]
    simp only [List.length_append, List.length_map] at hwaiting ⊢
    omega

/-- A history in which a request was dispatched to an instance that could not be dialed:
it waits again. -/
theorem none_lost_of_dial_failure :
    ∃ w past, Run ⟨.leastLoaded, false, 1, 1, 0, ⟨0, 0⟩, default⟩ 1 (w :: past) ∧
      w.tasks = [] ∧ w.Accounted past ∧ gather takes (w :: past) = [0] ∧
      w.scheduler.pending = [0] ∧ w.scheduler.fleet.metrics.value .rescheduled = 1 := by
  have begun := @Run.start ⟨.leastLoaded, false, 1, 1, 0, ⟨0, 0⟩, default⟩ 1
  -- a snapshot makes an instance, which has no slots and takes requests at once
  have posted := begun.step (.work (.post (.ofHealthy ["a"])))
  have opened := posted.step
    (.receive rfl (.snapshot rfl) (.snapshot _ (by decide) .rfl .rfl (.inl rfl)))
  have arrived := (opened.step (step_next (by decide +kernel))).step (step_next (by decide +kernel))
  have ready := (arrived.step (step_next (by decide +kernel))).step (step_next (by decide +kernel))
  -- a request comes and is dispatched, and its forward started
  have accepted := ready.step (@Step.arrive _ 0 _ (by decide +kernel) (if_neg (by decide +kernel)))
  have taken := accepted.step
    (.receive (by decide +kernel) (@Receives.request _ 0 [] (by decide +kernel)) (.request 0))
  have chosen := (taken.step (step_next (by decide +kernel))).step (step_next (by decide +kernel))
  have started := (chosen.step (step_next (by decide +kernel))).step (step_next (by decide +kernel))
  have idle := started.step (step_next (by decide +kernel))
  -- nobody answers the dial, and the forward reports it
  have opening := idle.step (step_forward (fun _ => false) 0 (by decide +kernel))
  have dialing := opening.step (step_forward (fun _ => false) 0 (by decide +kernel))
  have failed := dialing.step (step_forward (fun _ => false) 0 (by decide +kernel))
  have ended := failed.step (step_forward (fun _ => false) 0 (by decide +kernel))
  have released := ended.step (step_forward (fun _ => false) 0 (by decide +kernel))
  have reported := released.step (step_forward (fun _ => false) 0 (by decide +kernel))
  -- the report is handled, and the request joins the queue
  have heard := reported.step (.receive (by decide +kernel)
    (@Receives.finished _ ⟨0, .dialFailed 0⟩ [] (by decide +kernel)) (.finished _))
  have back := (heard.step (step_next (by decide +kernel))).step (step_next (by decide +kernel))
  have done := back.step (step_next (by decide +kernel))
  obtain ⟨w, past, run, htasks, htaken, hpending, hfailed⟩ :
      ∃ w past, Run ⟨.leastLoaded, false, 1, 1, 0, ⟨0, 0⟩, default⟩ 1 (w :: past) ∧
        w.tasks = [] ∧ gather takes (w :: past) = [0] ∧ w.scheduler.pending = [0] ∧
        w.scheduler.fleet.metrics.value (.requests .dialFailed) = 1 :=
    ⟨_, _, done, by decide +kernel, by decide +kernel, by decide +kernel, by decide +kernel⟩
  have haccounted := none_lost run htasks
  exact ⟨w, past, run, htasks, haccounted, htaken, hpending, haccounted.again ▸ hfailed⟩

end Run

end StreamBalancer
