import StreamBalancer.Proofs.Startup.Course
import StreamBalancer.Proofs.Startup.Failure

/-!
# StreamBalancer.Proofs.Startup

A start that fails leaves nothing behind.

1. `Startup.run` is a start during which nobody else does anything: a course with the same outcome
   is told step by step (`Startup.exists_failed`).
2. Whatever happens during a start, once it has failed, nothing that was started runs, the
   scheduler has run its teardown, and what is bound is what others have bound
   (`Startup.leaves_nothing`).
-/

namespace StreamBalancer

/-! ## The end of a quiet site -/

namespace Site

/-- Listeners that were asked to stop while they waited for connections end, one after the other. -/
theorem exists_ended (x : Site) (waiting ended : List Listeners.Entry)
    (hwaiting : ∀ e ∈ waiting, e.listener.stage = .accepting ∧ e.listener.signalled = true)
    (hended : ∀ e ∈ ended, e.listener.isRunning = false) :
    ∃ entries, Relation.ReflTransGen Step { x with listeners := ⟨waiting ++ ended⟩ }
        { x with listeners := ⟨entries⟩ } ∧
      ∀ e ∈ entries, e.listener.isRunning = false := by
  induction waiting generalizing ended with
  | nil => exact ⟨ended, .refl, hended⟩
  | cons e rest ih =>
      obtain ⟨hstage, hsignalled⟩ := hwaiting e List.mem_cons_self
      let before : Site := { x with listeners := ⟨e :: rest ++ ended⟩ }
      let l : Listener := { e.listener with stage := .ended, backlog := [] }
      have hstep : e.listener.step? before.entrance = some (e.listener.finish before.entrance []) := by
        simp [Listener.step?, hstage, hsignalled]
      -- the first one ends and goes behind the others
      have hfirst := @Step.listen before [] (rest ++ ended) e l _ rfl (.heeds hstep)
      obtain ⟨entries, hrest, hnone⟩ := ih (ended ++ [{ e with listener := l }])
        (fun e he => hwaiting e (List.mem_cons_of_mem _ he)) (fun d hd => by
          obtain hold | hnew := List.mem_append.1 hd
          · exact hended d hold
          · obtain rfl := List.mem_singleton.1 hnew
            rfl)
      refine ⟨entries, .head hfirst ?_, hnone⟩
      rw [takeOver_same rfl, List.nil_append, List.append_assoc]
      exact hrest

/-- A site at which nothing has happened comes to its end when it is asked to stop. -/
theorem exists_quit (settings : Scheduler.Settings) (max : Nat) (addresses : List ListenAddress) :
    ∃ x, Relation.ReflTransGen Step (initial settings max addresses).signal x ∧
      x.tenure.HasEnded ∧ x.listeners.alive = [] ∧
      x.scheduler = ({ settings, permits := max } : Scheduler).signal.stop := by
  let begun := (initial settings max addresses).signal
  have hwaiting : ∀ e ∈ begun.listeners.entries,
      e.listener.stage = .accepting ∧ e.listener.signalled = true := by
    intro e he
    obtain ⟨d, hd, rfl⟩ := List.mem_map.1 he
    obtain ⟨a, -, rfl⟩ := List.mem_map.1 hd
    exact ⟨rfl, rfl⟩
  obtain ⟨entries, hlisteners, hended⟩ := begun.exists_ended begun.listeners.entries [] hwaiting
    (fun _ h => absurd h List.not_mem_nil)
  -- the scheduler stops when all of them have ended
  have hstop := Tenure.Steps.stop (s := ({ settings, permits := max } : Scheduler).signal) rfl rfl []
  have hscheduler := hstop.lift (p := Step)
    (fun c => { begun with tenure := c, listeners := ⟨entries⟩ }) fun _ _ h => .inner h
  rw [List.append_nil] at hlisteners
  refine ⟨_, hlisteners.trans hscheduler, ⟨rfl, rfl⟩, ?_, rfl⟩
  rw [Listeners.alive, List.map_eq_nil_iff, List.filter_eq_nil_iff]
  exact fun e he => by simp [hended e he]

theorem initial_extend (settings : Scheduler.Settings) (max : Nat) (addresses : List ListenAddress)
    (e : ListenAddress) : (initial settings max addresses).extend e =
      initial settings max (addresses ++ [e]) := by
  simp [initial, extend, Listeners.ofAddresses, List.zipIdx_append]

end Site

namespace Startup

open Course

variable {system : Binding} {c : Config} {file : WatchedFile} {b : Bound} {s : Startup} {x : Course}

/-! ## A start that nobody disturbs -/

/-- The scheduler and the listeners as they are started. -/
def siteOf (c : Config) (addresses : List ListenAddress) : Site :=
  .initial (.ofConfig c) c.scheduler.maxForwarders addresses

/-- Nothing has happened in a start but what it does itself. -/
structure Course.Quiet (c : Config) (b : Bound) (s : Startup) (x : Course) : Prop where
  bound : x.bound = s.bound
  theirs : x.theirs = b.endpoints
  site : x.site = some (siteOf c s.endpoints)
  monitor : ∀ m, x.monitor = some m → m.activity = .idle

/-- A start that has failed after nobody disturbed it. -/
def Course.FailsQuietly (c : Config) (file : WatchedFile) (b : Bound) (error : StartupError) : Prop :=
  ∃ x, Reached c file b x ∧ x.phase = .failed error ∧ x.theirs = b.endpoints ∧
    x.site.map Site.scheduler = some (Scheduler.ofConfig c).signal.stop

namespace Course

/-- What the scheduler, the listeners and clients do, step after step. -/
theorem Reached.works {s' t : Site} (reached : Reached c file b x) (hsite : x.site = some t)
    (h : Relation.ReflTransGen Site.Step t s') :
    ∃ bound, Reached c file b { x with bound, site := some s' } := by
  induction h with
  | refl => exact ⟨x.bound, by rw [← hsite]; exact reached⟩
  | tail _ step ih =>
      obtain ⟨bound, ih⟩ := ih
      exact ⟨_, ih.step (.work rfl step)⟩

/-- When nothing runs any more, all waiting comes to its end. -/
theorem Reached.fails {error : StartupError} {awaited : List Party} (reached : Reached c file b x)
    (hphase : x.phase = .abandoning error awaited) (hended : ∀ p, ¬x.Runs p) :
    Reached c file b { x with phase := .failed error } := by
  induction awaited generalizing x with
  | nil => exact reached.step (.fail hphase)
  | cons p rest ih =>
      exact ih (x := { x with phase := .abandoning error rest })
        (reached.step (.await hphase (hended p))) rfl hended

/-- A monitor that waits for the next round stops when it is asked to. -/
theorem Reached.halts (reached : Reached c file b x)
    (hidle : ∀ m, x.monitor = some m → m.activity = .idle ∧ m.signalled = true) :
    ∃ monitor, Reached c file b { x with monitor } ∧
      ∀ m, monitor = some m → m.isRunning = false := by
  cases hmonitor : x.monitor with
  | none => exact ⟨none, hmonitor ▸ reached, fun _ h => by contradiction⟩
  | some m =>
      obtain ⟨hactivity, hsignalled⟩ := hidle m hmonitor
      refine ⟨_, reached.step (.halt hmonitor hactivity hsignalled), fun m' hm => ?_⟩
      obtain rfl := Option.some.inj hm
      rfl

/-- The admin interface ends. -/
theorem Reached.closes (reached : Reached c file b x) :
    ∃ bound, Reached c file b { x with bound, admin := none } := by
  cases hadmin : x.admin with
  | none => exact ⟨x.bound, hadmin ▸ reached⟩
  | some address => exact ⟨_, reached.step (.close hadmin)⟩

theorem Quiet.fails (h : x.Quiet c b s) (reached : Reached c file b x) {error : StartupError}
    (step : x.Step c file (x.abandon error)) : FailsQuietly c file b error := by
  obtain ⟨t, hworks, hended, halive, hscheduler⟩ := Site.exists_quit (.ofConfig c)
    c.scheduler.maxForwarders s.endpoints
  have hsite : (x.abandon error).site = some (siteOf c s.endpoints).signal :=
    congrArg (Option.map Site.signal) h.site
  obtain ⟨bound, hworked⟩ := (reached.step step).works hsite hworks
  obtain ⟨monitor, hhalted, hstopped⟩ := hworked.halts fun m hm => by
    obtain ⟨m', hm', rfl⟩ := Option.map_eq_some_iff.1 hm
    exact ⟨h.monitor m' hm', rfl⟩
  obtain ⟨bound, hclosed⟩ := hhalted.closes
  refine ⟨_, hclosed.fails rfl fun p hruns => ?_, rfl, h.theirs, congrArg some hscheduler⟩
  cases p with
  | scheduler =>
      obtain ⟨s', hs, hnot⟩ := hruns
      obtain rfl := Option.some.inj hs
      exact hnot hended
  | monitor =>
      obtain ⟨m, hm, hrunning⟩ := hruns
      rw [hstopped m hm] at hrunning
      contradiction
  | admin => exact hruns rfl
  | listener number =>
      obtain ⟨s', hs, hmem⟩ := hruns
      obtain rfl := Option.some.inj hs
      rw [halive] at hmem
      contradiction

/-! ### The steps of a start -/

/-- Something is bound and started. -/
theorem Quiet.spawnAt (h : x.Quiet c b s) {bound : Bound} {task : Task} {site : Option Site}
    {phase : Phase} {admin : Option String}
    (hsite : site = some (siteOf c (s.spawnAt bound task).endpoints)) :
    Quiet c b (s.spawnAt bound task) { x with phase, bound, site, admin } where
  bound := rfl
  theirs := h.theirs
  site := hsite
  monitor := h.monitor

/-- The scheduler is started. -/
theorem exists_begun (file : WatchedFile) (b : Bound) {addresses : List ListenAddress} {probe : Probe}
    (hprepare : prepare c = .ok (addresses, probe)) :
    ∃ x, Reached c file b x ∧ x.phase = .watching addresses probe ∧
      x.Quiet c b (startScheduler c probe file b) :=
  ⟨_, .step .start (.begin rfl hprepare), rfl, rfl, rfl, rfl, fun _ h => by contradiction⟩

/-- The monitor is started. -/
theorem Quiet.watch (h : x.Quiet c b s) {phase : Phase} {m : Monitor} (hidle : m.activity = .idle) :
    Quiet c b (s.spawn .monitor) { x with phase, monitor := some m } where
  bound := h.bound
  theirs := h.theirs
  site := h.site.trans (by simp [spawn, endpoints])
  monitor m' hm := by
    obtain rfl := Option.some.inj hm
    exact hidle

theorem Quiet.startListeners {addresses : List ListenAddress} {others : List Party}
    (h : x.Quiet c b s) (reached : Reached c file b x)
    (hphase : x.phase = .listening others addresses) {f : Failure}
    (hfails : startListeners system addresses s = .error f) : FailsQuietly c file b f.error := by
  induction addresses generalizing s x others with
  | nil => contradiction
  | cons a rest ih =>
      rw [Startup.startListeners, ← h.bound] at hfails
      split at hfails
      · next cause _ =>
        obtain rfl := Except.error.inj hfails
        exact h.fails reached (.unbound cause hphase)
      · next endpoint bound hbind =>
        obtain ⟨has, hbinds⟩ := system.binds hbind
        have hstep := reached.step (.listen hphase h.site has hbinds)
        refine ih (h.spawnAt ?_) hstep rfl hfails
        have hendpoints : (s.spawnAt bound (.listener endpoint)).endpoints =
            s.endpoints ++ [endpoint] := List.filterMap_append
        rw [hendpoints]
        exact congrArg some (Site.initial_extend ..)

theorem Quiet.startAdmin {addresses : List ListenAddress} (h : x.Quiet c b s)
    (reached : Reached c file b x) (hphase : x.phase = .administering addresses) {f : Failure}
    (hfails : (startAdmin system c.admin s >>= Startup.startListeners system addresses) = .error f) :
    FailsQuietly c file b f.error := by
  unfold Startup.startAdmin at hfails
  rw [← h.bound] at hfails
  split at hfails
  · next henabled =>
    refine Quiet.startListeners (x := { x with phase := .listening [.monitor] addresses })
      ⟨h.bound, h.theirs, h.site, h.monitor⟩ (reached.step (.skip hphase ?_)) rfl hfails
    simpa using henabled
  · next henabled =>
    have hon : c.admin.enabled = true := by simpa using henabled
    split at hfails
    · next cause _ =>
      obtain rfl := Except.error.inj hfails
      exact h.fails reached (.unadministered cause hphase hon)
    · next endpoint bound hbind =>
      obtain ⟨has, hbinds⟩ := system.binds hbind
      rw [has.eq_tcp] at hbinds
      refine (h.spawnAt ?_).startListeners (reached.step (.administer hphase hon hbinds)) rfl hfails
      exact h.site.trans (by simp [Startup.spawnAt, spawn, endpoints])

end Course

/-- **A start that fails is one that nobody disturbs.** -/
theorem exists_failed {f : Failure} (h : run system c file b = .error f) :
    ∃ x, Reached c file b x ∧ x.phase = .failed f.error ∧ x.theirs = b.endpoints ∧
      x.site.map Site.scheduler = f.scheduler := by
  cases hprepare : prepare c with
  | error error =>
      rw [run_of_unprepared hprepare] at h
      obtain rfl := Except.error.inj h
      exact ⟨_, Reached.start.step (.refuse rfl hprepare), rfl, rfl, rfl⟩
  | ok prepared =>
      obtain ⟨addresses, probe⟩ := prepared
      have hleft := run_error_of_prepared hprepare h
      have hquiet : FailsQuietly c file b f.error := by
        obtain ⟨x, begun, hphase, hbegun⟩ := exists_begun file b hprepare
        rw [run_of_prepared hprepare, startMonitor] at h
        split at h
        · next hfile =>
          obtain rfl := Except.error.inj h
          exact hbegun.fails begun (.unwatched hphase (by simp [hfile]))
        · next hfile =>
          exact (hbegun.watch rfl).startAdmin (begun.step (.watch hphase hfile)) rfl h
      rw [hleft]
      exact hquiet

/-! ## Nothing left -/

/-- What a start hands back that has failed and left nothing. -/
structure Failure.LeavesNothing (b : Bound) (f : Failure) : Prop where
  /-- Nothing that was started runs. -/
  ended : f.running = []
  /-- What is bound is what was bound before. -/
  bound : f.bound = b
  /-- The scheduler has run its teardown, if it was started. -/
  emptied : ∀ s, f.scheduler = some s → s.stopped = true ∧ s.Emptied

/-- **A failed start leaves nothing behind.**

* At every moment of every start, whoever acts in between and wherever endpoints come to be bound,
  what is bound is what the start has and what others have.  When it has failed, in whichever step,
  nothing that was started runs, the scheduler has run its teardown, and only what others have is
  bound.
* In every system, what `run` hands back is bound as before, and it is what a course hands back that
  nobody disturbs. -/
theorem leaves_nothing (c : Config) (file : WatchedFile) (b : Bound) :
    (∀ x, Reached c file b x →
      x.bound.endpoints.Perm (x.ours ++ x.theirs) ∧
      ∀ error, x.phase = .failed error → x.LeavesNothing) ∧
    ∀ system f, run system c file b = .error f → f.LeavesNothing b ∧
      ∃ x, Reached c file b x ∧ x.phase = .failed f.error ∧ x.theirs = b.endpoints ∧
        x.site.map Site.scheduler = f.scheduler := by
  have hleaves : ∀ x, Reached c file b x → ∀ error, x.phase = .failed error → x.LeavesNothing :=
    fun x reached error hphase => reached.kept.leavesNothing (by rw [hphase]; rfl)
  refine ⟨fun x reached => ⟨reached.kept.endpoints, hleaves x reached⟩, fun system f h => ?_⟩
  obtain ⟨x, reached, hphase, htheirs, hscheduler⟩ := exists_failed h
  refine ⟨?_, x, reached, hphase, htheirs, hscheduler⟩
  have hemptied : ∀ s, f.scheduler = some s → s.stopped = true ∧ s.Emptied := by
    intro s hs
    obtain ⟨t, ht, rfl⟩ := Option.map_eq_some_iff.1 (hscheduler.trans hs)
    exact (hleaves x reached _ hphase).emptied t ht
  cases hprepare : prepare c with
  | error error =>
      rw [run_of_unprepared hprepare] at h
      obtain rfl := Except.error.inj h
      exact ⟨rfl, rfl, hemptied⟩
  | ok =>
      have hleft := run_error_of_prepared hprepare h
      exact ⟨congrArg Failure.running hleft, congrArg Failure.bound hleft, hemptied⟩

/-- A system that chooses a port where none is named, and makes socket files anywhere. -/
def choosing : Binding where
  bind b a :=
    match a with
    | .tcp named =>
      match hostAndPort named with
      | .error fault => .error fault.message
      | .ok (host, port) =>
        let chosen := (40000 + b.addresses.length).toUInt16
        b.occupy (.tcp (joinAddress host (if port = 0 then chosen else port)))
    | .unix path => b.occupy (.unix path)
  binds := by
    intro b a e b' h
    cases a with
    | tcp named =>
        dsimp only at h
        split at h
        · contradiction
        · obtain ⟨rfl, hbinds⟩ := Bound.binds_of_occupy h
          exact ⟨.tcp _ _, hbinds⟩
    | unix path =>
        obtain ⟨rfl, hbinds⟩ := Bound.binds_of_occupy h
        exact ⟨.unix _, hbinds⟩

/-- Two ports to be chosen, socket files in two folders and a socket file of somebody else. -/
def crowded : Config where
  listen := ["tcp://127.0.0.1:0", "tcp://127.0.0.1:0", "unix:///run/own.sock", "unix:///tmp/own.sock",
    "unix:///run/other.sock"]
  backends := ["a"]

/-- A port and a socket file of somebody else. -/
def occupied : Bound where
  addresses := ["127.0.0.1:80"]
  files := ["/run/other.sock"]

/-- The last listener is not bound, and then neither are the four before it. -/
theorem leaves_nothing_of_crowded :
    ∃ f x, run choosing crowded .present occupied = .error f ∧
      f.error = .listener ⟨.unix "/run/other.sock", Bound.inUse⟩ ∧ f.LeavesNothing occupied ∧
      Reached crowded .present occupied x ∧ x.phase = .failed f.error ∧ x.LeavesNothing ∧
      x.bound.endpoints.Perm [.tcp "127.0.0.1:80", .unix "/run/other.sock"] := by
  have hfails : (match run choosing crowded .present occupied with
      | .error f => decide (f.error = .listener ⟨.unix "/run/other.sock", Bound.inUse⟩)
      | .ok _ => false) = true := by
    decide +kernel
  obtain ⟨hcourses, hruns⟩ := leaves_nothing crowded .present occupied
  cases h : run choosing crowded .present occupied with
  | ok s =>
      rw [h] at hfails
      contradiction
  | error f =>
      rw [h] at hfails
      obtain ⟨hleft, x, reached, hphase, htheirs, -⟩ := hruns choosing f h
      have hnothing := (hcourses x reached).2 _ hphase
      have hbound := hnothing.bound
      rw [htheirs] at hbound
      exact ⟨f, x, rfl, of_decide_eq_true hfails, hleft, reached, hphase, hnothing, hbound⟩

end Startup

end StreamBalancer
