import StreamBalancer.Proofs.Interleaving.Chronicle
import StreamBalancer.Proofs.Interleaving.Plan
import StreamBalancer.Proofs.Interleaving.Record

/-!
# StreamBalancer.Proofs.Interleaving.Books

Where requests are, seen from outside: accepted and not seen by the scheduler, in its
hands, waiting, carried by a forward, reported, given up (`Books`).

A step of the whole moves one request from one of these places to another, or handles
one report, or does nothing to any of them (`World.Moves`, `World.Step.moves`).
-/

namespace StreamBalancer

/-- Where requests are. -/
@[ext]
structure Books where
  /-- The requests that ever arrived, the last first. -/
  arrived : List Nat
  /-- Accepted requests that the scheduler has not seen. -/
  jobs : List Nat
  /-- The request in the scheduler's hands, and whether it comes from the queue. -/
  hand : List (Nat × Bool)
  /-- The queue. -/
  pending : List Nat
  /-- Requests carried by forwards, with the instances. -/
  carried : List (Nat × Nat)
  /-- Reports that the scheduler has not seen. -/
  outcomes : List Finished
  /-- The report in the scheduler's hands. -/
  ended : List Finished
  /-- Requests given up. -/
  dropped : List Nat
  /-- The counters of requests. -/
  counts : Series → Nat

/-- One more in a counter. -/
def bump (x : Series) (counts : Series → Nat) (y : Series) : Nat :=
  if y = x then counts y + 1 else counts y

theorem Metrics.requestCounts_count (m : Metrics) {x : Series} (hx : x.isRequest = true) :
    (m.count x).requestCounts = bump x m.requestCounts := by
  funext y
  rw [bump, requestCounts, requestCounts, value_count]
  by_cases hy : y = x
  · rw [if_pos hy, if_pos hy, hy, hx]
    rfl
  · rw [if_neg hy, if_neg hy]

/-- In how many places a request is, those where it has ended apart. -/
def Books.held (k : Books) (r : Nat) : Nat :=
  k.jobs.count r + (k.hand.map Prod.fst).count r + k.pending.count r +
    (k.carried.map Prod.fst).count r +
    (k.outcomes ++ k.ended).countP fun f => f.outcome.request? == some r

namespace Scheduler

/-! ## Reading tasks -/

/-- The request in the scheduler's hands. -/
def Task.asked? : Task → Option Nat
  | .request r | .dispatch r => some r
  | _ => none

/-- The forward that is about to be started. -/
def Task.started? : Task → Option (Nat × Nat)
  | .start r b => some (r, b)
  | _ => none

/-- The report in the scheduler's hands. -/
def Task.ended? : Task → Option Finished
  | .finished f => some f
  | _ => none

/-- The requests of forwards under way, with the instances. -/
def routes (s : Scheduler) : List (Nat × Nat) := s.forwards.map fun f => (f.request, f.backend)

/-- Where requests are. -/
def books (s : Scheduler) (tasks : List Task) (arrived : List Nat) : Books where
  arrived
  jobs := s.jobs
  hand := (tasks.filterMap Task.asked?).map fun r => (r, decide (.drain ∈ tasks))
  pending := s.pending
  carried := s.routes ++ tasks.filterMap Task.started?
  outcomes := s.outcomes
  ended := tasks.filterMap Task.ended?
  dropped := s.dropped
  counts := s.fleet.metrics.requestCounts

theorem filterMap_of_owes_none {tasks : List Task}
    (h : ∀ x ∈ tasks, x.request? = none ∧ x.owes? = none) :
    tasks.filterMap Task.asked? = [] ∧ tasks.filterMap Task.started? = [] ∧
      tasks.filterMap Task.ended? = [] := by
  simp only [List.filterMap_eq_nil_iff]
  refine ⟨fun x hx => ?_, fun x hx => ?_, fun x hx => ?_⟩
  all_goals
    obtain ⟨hrequest, howes⟩ := h x hx
    cases x <;> first | rfl | contradiction

/-- Behind the next task of a plan there is no request and no report. -/
theorem filterMap_of_head {tasks : List Task} (h : ∀ x ∈ tasks, x.isHead = false) :
    tasks.filterMap Task.asked? = [] ∧ tasks.filterMap Task.ended? = [] := by
  simp only [List.filterMap_eq_nil_iff]
  refine ⟨fun x hx => ?_, fun x hx => ?_⟩
  all_goals
    have hhead := h x hx
    cases x <;> first | rfl | contradiction

theorem filterMap_of_start {tasks : List Task} (h : ∀ x ∈ tasks, x.isStart = false) :
    tasks.filterMap Task.started? = [] := by
  simp only [List.filterMap_eq_nil_iff]
  intro x hx
  have hstart := h x hx
  cases x <;> first | rfl | contradiction

/-- Where requests are when nothing is left to do that holds one or a report. -/
theorem books_rest (s : Scheduler) {rest : List Task} (hasked : rest.filterMap Task.asked? = [])
    (hended : rest.filterMap Task.ended? = []) (arrived : List Nat) :
    s.books rest arrived =
      { arrived
        jobs := s.jobs
        hand := []
        pending := s.pending
        carried := s.routes ++ rest.filterMap Task.started?
        outcomes := s.outcomes
        ended := []
        dropped := s.dropped
        counts := s.fleet.metrics.requestCounts } := by
  rw [books, hasked, hended, List.map_nil]

/-- Where requests are when only the next task holds one or a report. -/
theorem books_cons (s : Scheduler) (x : Task) {rest : List Task}
    (hasked : rest.filterMap Task.asked? = []) (hended : rest.filterMap Task.ended? = [])
    (arrived : List Nat) :
    s.books (x :: rest) arrived =
      { arrived
        jobs := s.jobs
        hand := x.asked?.toList.map fun r => (r, decide (.drain ∈ x :: rest))
        pending := s.pending
        carried := s.routes ++ (x.started?.toList ++ rest.filterMap Task.started?)
        outcomes := s.outcomes
        ended := x.ended?.toList
        dropped := s.dropped
        counts := s.fleet.metrics.requestCounts } := by
  have hcons : ∀ {α : Type} (f : Task → Option α),
      (x :: rest).filterMap f = (f x).toList ++ rest.filterMap f := by
    intro α f
    rw [List.filterMap_cons]
    cases f x <;> rfl
  rw [books, hcons, hcons, hcons, hasked, hended, List.append_nil, List.append_nil]

/-- In how many tasks a request is, by kinds of tasks. -/
theorem atHand_eq (tasks : List Task) (r : Nat) :
    atHand tasks r = (tasks.filterMap Task.asked?).count r +
      ((tasks.filterMap Task.started?).map Prod.fst).count r +
      (tasks.filterMap Task.ended?).countP fun f => f.outcome.request? == some r := by
  induction tasks with
  | nil => rfl
  | cons x rest ih =>
      rw [atHand] at ih ⊢
      rw [List.countP_cons, ih]
      cases x with
      | request q | dispatch q | start q b | finished f =>
          simp [Task.request?, Task.asked?, Task.started?, Task.ended?, List.filterMap_cons,
            List.count_cons, List.countP_cons]
          omega
      | _ =>
          simp [Task.request?, Task.asked?, Task.started?, Task.ended?, List.filterMap_cons]

/-- The requests that nobody works on. -/
def waiting (s : Scheduler) : List Nat × List Nat := (s.jobs, s.pending)

/-- Only the scheduler and those who send requests change which of them wait. -/
theorem Work.waiting_eq {s t : Scheduler} (h : s.Work t) : t.waiting = s.waiting := by
  cases h with
  | post | retune | tick | dialed | undialed => rfl
  | session h =>
      obtain ⟨x, -, hmoves⟩ := stepSession?_cases h
      cases hmoves with
      | hands =>
          unfold handOver
          split <;> rfl
      | ends | goes => rfl
  | spliced moved h =>
      obtain ⟨g, outcome, heq, -⟩ := endSplice_eq h moved
      rw [heq]
      rfl
  | forward reach h =>
      obtain ⟨f, -, hmoves⟩ := stepForward?_cases h
      cases hmoves with
      | advances | releases => rfl
      | reports => exact report_keeps waiting (fun _ _ _ _ => rfl) _ _

end Scheduler

namespace World

open Scheduler

/-- Where requests are. -/
def books (w : World) : Books := w.scheduler.books w.tasks w.arrived

/-- What a step can do to requests. -/
inductive Moves (w w' : World) : Prop where
  /-- Nothing. -/
  | same (h : w'.books = w.books)
  /-- A request arrives. -/
  | arrives {r : Nat} (hnew : r ∉ w.books.arrived) (h : w'.books =
      { w.books with arrived := r :: w.books.arrived, jobs := w.books.jobs ++ [r] })
  /-- The scheduler takes it up. -/
  | takes {r : Nat} {t : Books} (hbefore : w.books = { t with jobs := r :: t.jobs, hand := [] })
      (hafter : w'.books = { t with hand := [(r, false)] })
  /-- It joins the queue. -/
  | waits {r : Nat} {t : Books} (hpool : w.scheduler.pool.isEmpty = true)
      (hbefore : w.books = { t with hand := [(r, false)] })
      (hafter : w'.books = { t with hand := [], pending := t.pending ++ [r] })
  /-- It leaves the queue. -/
  | calls {r : Nat} {t : Books}
      (hbefore : w.books = { t with hand := [], pending := r :: t.pending })
      (hafter : w'.books = { t with hand := [(r, true)] })
  /-- It is dispatched to an instance. -/
  | assigns {r b : Nat} {q : Bool} {rest : List Task} {t : Books}
      (htasks : w.tasks = .dispatch r :: rest) (hb : b ∈ w.scheduler.pool.items)
      (hbefore : w.books = { t with hand := [(r, q)] })
      (hafter : w'.books = { t with hand := [], carried := t.carried ++ [(r, b)] })
  /-- It is refused. -/
  | refuses {r : Nat} {q : Bool} {rest : List Task} {t : Books}
      (htasks : w.tasks = .dispatch r :: rest) (hbefore : w.books = { t with hand := [(r, q)] })
      (hafter : w'.books =
        { t with hand := [], dropped := t.dropped ++ [r], counts := bump .rejected t.counts })
  /-- Its forward reports, and may hand it back. -/
  | tells {r b : Nat} {front back : List (Nat × Nat)} {outcome : Outcome} {t : Books}
      (hown : ∀ q, outcome.request? = some q → q = r)
      (hbefore : w.books = { t with carried := front ++ (r, b) :: back })
      (hafter : w'.books =
        { t with carried := front ++ back, outcomes := t.outcomes ++ [⟨b, outcome⟩] })
  /-- The scheduler takes up the report. -/
  | hears {f : Finished} {t : Books}
      (hbefore : w.books = { t with outcomes := f :: t.outcomes, ended := [] })
      (hafter : w'.books = { t with ended := [f] })
  /-- It handles the report; an instance that could not be dialed is out of the pool then. -/
  | handles {f : Finished} {rest : List Task} {t : Books} (htasks : w.tasks = .finished f :: rest)
      (hout : ∀ r, f.outcome = .dialFailed r → f.backend ∉ w'.scheduler.pool.items)
      (hbefore : w.books = { t with hand := [], ended := [f] })
      (hafter : w'.books =
        { t with
          hand := f.outcome.request?.toList.map (·, false)
          ended := []
          counts :=
            match f.outcome with
            | .dialFailed _ => bump .rescheduled (bump (.requests .dialFailed) t.counts)
            | outcome => bump (.requests outcome.verdict) t.counts })

/-- The signal to shut down moves no request. -/
theorem books_signal (w : World) :
    World.books { w with scheduler := w.scheduler.signal } = w.books := rfl

/-- The request that is dispatched, and the instance to which it is. -/
def assigns (w w' : World) : Option (Nat × Nat) := gained? w.books.carried w'.books.carried

/-- The report of a forward that is handled. -/
def handles (w w' : World) : Option Finished := lost? w.books.ended w'.books.ended

theorem held_books (w : World) (r : Nat) :
    w.books.held r = w.scheduler.copies r + atHand w.tasks r := by
  have hroutes : (w.scheduler.routes.map Prod.fst).count r =
      w.scheduler.forwards.countP fun f => f.request == r := by
    rw [routes, List.map_map, List.count, List.countP_map]
    rfl
  have hhand : w.books.hand.map Prod.fst = w.tasks.filterMap Task.asked? := by
    simp [World.books, Scheduler.books, Function.comp_def]
  rw [Books.held, hhand, copies, atHand_eq]
  simp only [World.books, Scheduler.books, List.map_append, List.count_append, List.countP_append,
    hroutes]
  omega

/-- A request is held in one place at most. -/
theorem Apart.held_le {w : World} (h : w.Apart) (r : Nat) :
    w.books.held r ≤ if r ∈ w.arrived then 1 else 0 := by
  rw [held_books]
  exact h.once r

variable {w w' : World}

/-! ## Tasks -/

/-- A task is next, and only it holds a request or a report. -/
structure Next (w : World) (x : Task) (rest : List Task) : Prop where
  tasks : w.tasks = x :: rest
  asked : rest.filterMap Task.asked? = []
  ended : rest.filterMap Task.ended? = []
  started : x.isInspection = false → rest.filterMap Task.started? = []
  drain : x.isLast = true → .drain ∉ rest

theorem next_of_planned (hplan : w.tasks.Pairwise Task.Then) {x : Task} {rest : List Task}
    (htasks : w.tasks = x :: rest) : w.Next x rest := by
  rw [htasks, List.pairwise_cons] at hplan
  obtain ⟨hthen, -⟩ := hplan
  obtain ⟨hasked, hended⟩ := filterMap_of_head fun y hy => (hthen y hy).head
  refine ⟨htasks, hasked, hended, fun hx => ?_, fun hx hmem => ?_⟩
  · refine filterMap_of_start fun y hy => ?_
    rw [← Bool.not_eq_true]
    intro hstart
    rw [(hthen y hy).start hstart] at hx
    contradiction
  · have hpublish := (hthen _ hmem).last hx
    contradiction

namespace Next

variable {x : Task} {rest : List Task}

theorem books_eq (h : w.Next x rest) : w.books =
    { arrived := w.arrived
      jobs := w.scheduler.jobs
      hand := x.asked?.toList.map fun r => (r, decide (.drain ∈ x :: rest))
      pending := w.scheduler.pending
      carried := w.scheduler.routes ++ (x.started?.toList ++ rest.filterMap Task.started?)
      outcomes := w.scheduler.outcomes
      ended := x.ended?.toList
      dropped := w.scheduler.dropped
      counts := w.scheduler.fleet.metrics.requestCounts } := by
  rw [World.books, h.tasks, books_cons _ _ h.asked h.ended]

theorem quiet_moves (h : w.Next x rest) (hx : x.movesRequest = false) :
    w.Moves { w with
      scheduler := (w.scheduler.perform x).1, tasks := (w.scheduler.perform x).2 ++ rest } := by
  obtain ⟨hrequests, hnone⟩ := requests_perform w.scheduler hx
  obtain ⟨hnewAsked, hnewStarted, hnewEnded⟩ := filterMap_of_owes_none hnone
  have hholds : x.asked? = none ∧ x.started? = none ∧ x.ended? = none := by
    cases x <;> first | exact ⟨rfl, rfl, rfl⟩ | contradiction
  have hrecord := @record_perform w.scheduler x (by cases x <;> first | rfl | contradiction)
  simp only [requests, Prod.mk.injEq] at hrequests
  obtain ⟨hjobs, hpending, hforwards, houtcomes, -⟩ := hrequests
  obtain ⟨hdropped, hcounts⟩ := Prod.mk.inj hrecord
  apply Moves.same
  rw [h.books_eq]
  simp [World.books, Scheduler.books, routes, hjobs, hpending, hforwards, houtcomes, hdropped,
    hcounts, h.asked, h.ended, hnewAsked, hnewStarted, hnewEnded, hholds]

theorem request_moves {r : Nat} (h : w.Next (.request r) rest) :
    w.Moves { w with
      scheduler := (w.scheduler.perform (.request r)).1
      tasks := (w.scheduler.perform (.request r)).2 ++ rest } := by
  have hrest := h.drain rfl
  simp only [perform]
  split
  · next hempty =>
    refine .waits (r := r) (t := w.books) hempty ?_ ?_
    · simp [h.books_eq, Task.asked?, hrest]
    · rw [h.books_eq]
      exact books_rest _ h.asked h.ended w.arrived
  · apply Moves.same
    rw [h.books_eq]
    refine (books_cons _ _ h.asked h.ended w.arrived).trans ?_
    simp [Task.asked?, Task.started?, Task.ended?]

theorem dispatch_moves {r : Nat} (h : w.Next (.dispatch r) rest) (hsound : w.Sound)
    (hpool : w.scheduler.pool.isEmpty = false) :
    w.Moves { w with
      scheduler := (w.scheduler.perform (.dispatch r)).1
      tasks := (w.scheduler.perform (.dispatch r)).2 ++ rest } := by
  obtain ⟨b, pool, hb, -, -, ⟨-, heq⟩ | ⟨-, heq⟩⟩ :=
    perform_dispatch_of_pool hsound.roster hpool r
  · have hcounts := w.scheduler.fleet.metrics.requestCounts_count (x := .rejected) rfl
    rw [heq]
    refine .refuses (r := r) (q := decide (.drain ∈ rest)) (t := w.books) h.tasks ?_ ?_
    · simp [h.books_eq, Task.asked?]
    · rw [h.books_eq]
      refine (books_rest _ h.asked h.ended w.arrived).trans ?_
      exact congrArg (Books.mk _ _ _ _ _ _ _ _) hcounts
  · rw [heq]
    refine .assigns (r := r) (b := b) (q := decide (.drain ∈ rest)) (t := w.books) h.tasks hb ?_ ?_
    · simp [h.books_eq, Task.asked?]
    · rw [h.books_eq]
      simp [World.books, Scheduler.books, routes, List.filterMap_cons, Task.asked?,
        Task.started?, Task.ended?, h.asked, h.ended, h.started rfl, modifyBackend,
        Fleet.modifyBackend]

theorem start_moves {r b : Nat} (h : w.Next (.start r b) rest) :
    w.Moves { w with
      scheduler := (w.scheduler.perform (.start r b)).1
      tasks := (w.scheduler.perform (.start r b)).2 ++ rest } := by
  have hcounts : (w.scheduler.showOngoing b).fleet.metrics.requestCounts =
      w.scheduler.fleet.metrics.requestCounts := Metrics.among_set _ _ rfl
  have hroutes : (w.scheduler.perform (.start r b)).1.routes = w.scheduler.routes ++ [(r, b)] := by
    simp [routes, perform, startForward, showOngoing, setOngoingGauge]
  apply Moves.same
  rw [h.books_eq]
  refine (books_rest _ h.asked h.ended w.arrived).trans ?_
  rw [hroutes, List.append_assoc]
  exact congrArg (Books.mk _ _ _ _ _ _ _ _) hcounts

theorem finished_moves {f : Finished} (h : w.Next (.finished f) rest) (hsound : w.Sound) :
    w.Moves { w with
      scheduler := (w.scheduler.perform (.finished f)).1
      tasks := (w.scheduler.perform (.finished f)).2 ++ rest } := by
  obtain ⟨b, outcome⟩ := f
  let s := (w.scheduler.modifyBackend b Backend.finish).count (.requests outcome.verdict)
  have hcounts : (s.showOngoing b).fleet.metrics.requestCounts =
      bump (.requests outcome.verdict) w.scheduler.fleet.metrics.requestCounts :=
    (Metrics.among_set _ _ rfl).trans (Metrics.requestCounts_count _ rfl)
  refine .handles (f := ⟨b, outcome⟩) (t := w.books) h.tasks (fun r hr hmem => ?_)
    (by rw [h.books_eq]; rfl) ?_
  · obtain rfl : outcome = .dialFailed r := hr
    exact ((Pool.mem_erase _ hsound.roster.indexed b b).1 hmem).2 rfl
  rw [h.books_eq]
  cases outcome with
  | completed | failed =>
      refine (books_rest _ h.asked h.ended w.arrived).trans ?_
      exact congrArg (Books.mk _ _ _ _ _ _ _ _) hcounts
  | dialFailed r =>
      have hbump := ((s.showOngoing b).withdraw b).fleet.metrics.requestCounts_count
        (x := .rescheduled) rfl
      refine (books_cons _ (.request r) h.asked h.ended w.arrived).trans ?_
      have hrest : decide (Task.drain ∈ .request r :: rest) = false := by simp [h.drain rfl]
      rw [hrest]
      exact congrArg (Books.mk _ _ _ _ _ _ _ _)
        (hbump.trans (congrArg (bump .rescheduled) hcounts))

theorem drain_moves (h : w.Next .drain rest) :
    w.Moves { w with
      scheduler := (w.scheduler.perform .drain).1
      tasks := (w.scheduler.perform .drain).2 ++ rest } := by
  simp only [perform]
  split
  · exact .same (by rw [h.books_eq]; exact books_rest _ h.asked h.ended w.arrived)
  · next r pending hsome =>
    split
    · exact .same (by rw [h.books_eq]; exact books_rest _ h.asked h.ended w.arrived)
    · refine .calls (r := r) (t := { w.books with pending }) ?_ ?_
      · rw [h.books_eq, hsome]
        rfl
      · rw [h.books_eq]
        simp [World.books, Scheduler.books, routes, List.filterMap_cons, Task.asked?,
          Task.started?, Task.ended?, h.asked, h.ended]

end Next

theorem perform_moves (hsound : w.Sound) (hplan : w.tasks.Pairwise Task.Then)
    (hpool : ∀ r, .dispatch r ∈ w.tasks → w.scheduler.pool.isEmpty = false) {x : Task}
    {rest : List Task} (htasks : w.tasks = x :: rest) :
    w.Moves { w with
      scheduler := (w.scheduler.perform x).1, tasks := (w.scheduler.perform x).2 ++ rest } := by
  have hnext := next_of_planned hplan htasks
  cases x with
  | request r => exact hnext.request_moves
  | dispatch r => exact hnext.dispatch_moves hsound (hpool r (htasks ▸ List.mem_cons_self))
  | start r b => exact hnext.start_moves
  | finished f => exact hnext.finished_moves hsound
  | drain => exact hnext.drain_moves
  | _ => exact hnext.quiet_moves rfl

/-! ## Helpers -/

theorem routes_setForward (s : Scheduler) (r : Nat) (stage : Forward.Stage) :
    (s.setForward r stage).routes = s.routes := by
  rw [routes, setForward, List.map_map]
  refine List.map_congr_left fun f _ => ?_
  simp only [Function.comp_apply]
  split <;> rfl

/-- Whoever leaves requests and record alone moves no request. -/
theorem Moves.of_eq {s : Scheduler} (hwaiting : s.waiting = w.scheduler.waiting)
    (hroutes : s.routes = w.scheduler.routes) (houtcomes : s.outcomes = w.scheduler.outcomes)
    (hrecord : s.record = w.scheduler.record) : w.Moves { w with scheduler := s } := by
  obtain ⟨hjobs, hpending⟩ := Prod.mk.inj hwaiting
  obtain ⟨hdropped, hcounts⟩ := Prod.mk.inj hrecord
  apply Moves.same
  simp only [World.books, Scheduler.books, hjobs, hpending, hroutes, houtcomes, hdropped, hcounts]

theorem work_moves (hapart : w.Apart) (hstopped : w.scheduler.stopped = false) {s : Scheduler}
    (h : w.scheduler.Work s) : w.Moves { w with scheduler := s } := by
  have hrecord := h.record_eq hstopped
  have hwaiting := h.waiting_eq
  cases h with
  | post | retune | tick | dialed | undialed => exact .of_eq hwaiting rfl rfl hrecord
  | session h =>
      obtain ⟨x, -, hmoves⟩ := stepSession?_cases h
      cases hmoves with
      | hands =>
          have hsame : ∀ (t : Scheduler) (v : Handover), (t.handOver v).routes = t.routes ∧
              (t.handOver v).outcomes = t.outcomes := by
            intro t v
            unfold handOver
            split <;> exact ⟨rfl, rfl⟩
          obtain ⟨hroutes, houtcomes⟩ := hsame (w.scheduler.removeSession x.number) _
          exact .of_eq hwaiting hroutes houtcomes hrecord
      | ends | goes => exact .of_eq hwaiting rfl rfl hrecord
  | spliced moved h =>
      obtain ⟨g, outcome, heq, -⟩ := endSplice_eq h moved
      rw [heq] at hrecord hwaiting ⊢
      exact .of_eq hwaiting (routes_setForward _ _ _) rfl hrecord
  | forward reach h =>
      obtain ⟨f, hfind, hmoves⟩ := stepForward?_cases h
      cases hmoves with
      | advances | releases => exact .of_eq hwaiting (routes_setForward _ _ _) rfl hrecord
      | @reports outcome hstage =>
          obtain rfl := request_of_forward? hfind
          obtain ⟨front, back, hforwards, -, hremove⟩ := hapart.split_forwards hfind
          have hmem : f ∈ w.scheduler.forwards := List.mem_of_find?_eq_some hfind
          have hreport : (w.scheduler.removeForward f.request).report ⟨f.backend, outcome⟩ =
              { w.scheduler.removeForward f.request with
                outcomes := w.scheduler.outcomes ++ [⟨f.backend, outcome⟩] } :=
            if_neg (by simp [removeForward, hstopped])
          refine @Moves.tells _ _ f.request f.backend (front.map fun g => (g.request, g.backend))
            (back.map (fun g => (g.request, g.backend)) ++ w.tasks.filterMap Task.started?) outcome
            w.books (fun q hq => ?_) ?_ ?_
          · cases outcome with
            | completed | failed => contradiction
            | dialFailed r =>
                obtain rfl := Option.some.inj hq
                exact hapart.own f hmem r (.inr hstage)
          · simp [World.books, Scheduler.books, routes, hforwards]
          · rw [hreport]
            simp [World.books, Scheduler.books, routes, hremove]
            exact ⟨rfl, rfl, rfl, rfl⟩

/-- **A step moves one request at most**, from one place to another, or handles one
report. -/
theorem Step.moves (hsound : w.Sound) (hapart : w.Apart) (hplan : w.tasks.Pairwise Task.Then)
    (hpool : ∀ r, .dispatch r ∈ w.tasks → w.scheduler.pool.isEmpty = false)
    (hstopped : w.scheduler.stopped = false) (step : w.Step w') : w.Moves w' := by
  cases step with
  | perform htasks => exact perform_moves hsound hplan hpool htasks
  | query htasks =>
      apply Moves.same
      rw [World.books, World.books, htasks]
      rfl
  | @arrive r s hnew haccept =>
      obtain rfl := accept?_eq haccept
      exact .arrives hnew rfl
  | @receive _ _ tasks htasks hreceives hopens =>
      cases hreceives with
      | @request r rest hjobs =>
          cases hopens
          refine .takes (r := r) (t := { w.books with jobs := rest }) ?_ ?_
          · simp [World.books, Scheduler.books, htasks, hjobs]
          · simp [World.books, Scheduler.books, routes, htasks, List.filterMap_cons, Task.asked?,
              Task.started?, Task.ended?]
      | @finished f rest houtcomes =>
          cases hopens
          refine .hears (f := f) (t := { w.books with outcomes := rest }) ?_ ?_
          · simp [World.books, Scheduler.books, htasks, houtcomes]
          · simp [World.books, Scheduler.books, routes, htasks, List.filterMap_cons, Task.asked?,
              Task.started?, Task.ended?]
      | snapshot =>
          have hnone : ∀ x ∈ tasks ++ [Task.publish], x.request? = none ∧ x.owes? = none := by
            intro x hx
            cases hopens with
            | ignored =>
                rw [List.mem_singleton.1 hx]
                exact ⟨rfl, rfl⟩
            | snapshot =>
                obtain ⟨a, rfl⟩ | ⟨a, rfl⟩ | ⟨a, -, rfl⟩ | rfl | rfl := World.Sound.mem_sweep hx <;>
                  exact ⟨rfl, rfl⟩
          obtain ⟨hasked, hstarted, hended⟩ := filterMap_of_owes_none hnone
          apply Moves.same
          simp [World.books, Scheduler.books, routes, htasks, hasked, hstarted, hended]
      | failure =>
          cases hopens
          apply Moves.same
          rw [World.books, World.books, htasks]
          rfl
      | handover =>
          cases hopens
          apply Moves.same
          rw [World.books, World.books, htasks]
          rfl
  | work hwork => exact work_moves hapart hstopped hwork

end World

namespace Life

open Scheduler

variable {settings : Settings} {permits : Nat} {w w' : World} {past : List World}

/-- A step of a history moves one request at most. -/
theorem moves (life : Life settings permits (w :: past)) (step : w.Step w') : w.Moves w' :=
  step.moves life.sound life.apart life.planned (fun _ => life.pool_of_dispatch) life.steady.2

/-- What holds at first and is kept by whatever happens to requests holds of every
history. -/
theorem induct_moves {P : World → List World → Prop} (initial : P (World.initial settings permits) [])
    (kept : ∀ {w w' : World} {past : List World}, w.Apart → w.Moves w' → P w past →
      P w' (w :: past)) (life : Life settings permits (w :: past)) : P w past := by
  induction life using Life.induct with
  | initial => exact initial
  | signalled life ih => exact kept life.apart (.same (World.books_signal _)) ih
  | kept life step ih => exact kept life.apart (life.moves step) ih

end Life

end StreamBalancer
