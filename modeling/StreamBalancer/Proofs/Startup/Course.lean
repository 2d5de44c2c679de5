import StreamBalancer.Proofs.Health.Pace
import StreamBalancer.Proofs.Startup.Endpoints
import StreamBalancer.Proofs.Startup.Tidy

/-!
# StreamBalancer.Proofs.Startup.Course

A start under way, among others that bind endpoints as well.

1. What was started is at work while the start goes on: clients connect, requests are forwarded,
   rounds of probes are made.  Each step of a start may fail, and what is bound may be bound
   anywhere where nobody is (`Course.Step`).
2. A start that has failed asks all to stop, and waits for the end of each that was started
   (`Phase.started`).  It has failed when it has waited for all.
3. Whoever runs was started, and is waited for (`Course.Kept.waited`).
4. What is bound is what the start has, and what others have (`Course.Kept.endpoints`).
-/

namespace StreamBalancer

namespace Monitor

variable {m m' : Monitor}

/-- Only a monitor that has not stopped acts. -/
theorem Acts.isRunning (h : m.Acts m') : m.isRunning = true := by
  cases h with
  | startup _ h | tick _ h | reload _ h | answer _ _ h | send h | lose h => simp [Monitor.isRunning, h]

/-- Nobody else makes a monitor run. -/
theorem Meets.isRunning_eq (h : m.Meets m') : m'.isRunning = m.isRunning := by
  cases h with
  | list l =>
      unfold sendList
      split <;> rfl
  | advance | read | close | signal => rfl

end Monitor

namespace Startup

/-- Whoever can be waited for. -/
inductive Party where
  | scheduler
  | monitor
  | admin
  /-- The listener with a number. -/
  | listener (number : Nat)
deriving DecidableEq, Repr

/-- How far a start has come. -/
inductive Phase where
  /-- Nothing was started. -/
  | checking
  /-- The scheduler was started, and the configuration file is to be watched. -/
  | watching (addresses : List ListenAddress) (probe : Probe)
  /-- The monitor was started as well, and the admin interface is to be. -/
  | administering (addresses : List ListenAddress)
  /-- Listeners are to be bound at some addresses.  Others were started, and the scheduler. -/
  | listening (others : List Party) (addresses : List ListenAddress)
  /-- The start is given up, and some are waited for. -/
  | abandoning (error : StartupError) (awaited : List Party)
  /-- The start has failed. -/
  | failed (error : StartupError)

/-- Whoever was started and was not waited for. -/
def Phase.started : Phase → List Party
  | checking | failed _ => []
  | watching _ _ => [.scheduler]
  | administering _ => [.monitor, .scheduler]
  | listening others _ => others ++ [.scheduler]
  | abandoning _ awaited => awaited

/-- A start among others. -/
structure Course where
  /-- How far it has come. -/
  phase : Phase := .checking
  /-- What is bound. -/
  bound : Bound
  /-- The endpoints at which others are. -/
  theirs : List ListenAddress := bound.endpoints
  /-- The scheduler and the listeners, if it was started. -/
  site : Option Site := none
  /-- The monitor, if it was started. -/
  monitor : Option Monitor := none
  /-- The address of the admin interface, as long as it runs. -/
  admin : Option String := none

namespace Course

/-- The endpoints of what was started and runs. -/
def ours (x : Course) : List ListenAddress :=
  (x.site.elim [] fun s => s.listeners.running) ++ x.admin.toList.map .tcp

/-- Who runs. -/
def Runs (x : Course) : Party → Prop
  | .scheduler => ∃ s, x.site = some s ∧ ¬s.tenure.HasEnded
  | .monitor => ∃ m, x.monitor = some m ∧ m.isRunning = true
  | .admin => x.admin ≠ none
  | .listener number => ∃ s, x.site = some s ∧ number ∈ s.listeners.alive.map Prod.fst

/-- Give up: all are asked to stop. -/
def abandon (x : Course) (error : StartupError) : Course :=
  { x with
    phase := .abandoning error x.phase.started
    site := x.site.map Site.signal
    monitor := x.monitor.map fun m => m.signal.2 }

/-- The scheduler and the listeners have come to be others.  A listener that has ended releases its
endpoint. -/
def become (x : Course) (s s' : Site) : Course :=
  { x with
    bound := (s.listeners.running.diff s'.listeners.running).foldl Bound.release x.bound
    site := some s' }

/-- One step of the start or of anybody else. -/
inductive Step (c : Config) (file : WatchedFile) (x : Course) : Course → Prop where
  /-- The checks fail. -/
  | refuse {error : StartupError} (hphase : x.phase = .checking)
      (hprepare : prepare c = .error error) : Step c file x { x with phase := .failed error }
  /-- The scheduler is started. -/
  | begin {addresses : List ListenAddress} {probe : Probe} (hphase : x.phase = .checking)
      (hprepare : prepare c = .ok (addresses, probe)) :
      Step c file x { x with
        phase := .watching addresses probe
        site := some (.initial (.ofConfig c) c.scheduler.maxForwarders []) }
  /-- The configuration file cannot be watched. -/
  | unwatched {addresses : List ListenAddress} {probe : Probe}
      (hphase : x.phase = .watching addresses probe) (hfile : file ≠ .unwatched) :
      Step c file x (x.abandon .watch)
  /-- The configuration file is watched, if it is to be, and the monitor is started. -/
  | watch {addresses : List ListenAddress} {probe : Probe}
      (hphase : x.phase = .watching addresses probe) (hfile : file ≠ .missing) :
      Step c file x { x with
        phase := .administering addresses
        monitor := some { Monitor.ofConfig c.healthCheck probe c.backends with
          takesLists := file ≠ .unwatched } }
  /-- There is to be no admin interface. -/
  | skip {addresses : List ListenAddress} (hphase : x.phase = .administering addresses)
      (henabled : c.admin.enabled = false) :
      Step c file x { x with phase := .listening [.monitor] addresses }
  /-- The admin interface is not bound. -/
  | unadministered {addresses : List ListenAddress} (cause : String)
      (hphase : x.phase = .administering addresses) (henabled : c.admin.enabled = true) :
      Step c file x (x.abandon (.admin cause))
  /-- The admin interface is bound at some address where nobody is, and started. -/
  | administer {addresses : List ListenAddress} {address : String} {bound : Bound}
      (hphase : x.phase = .administering addresses) (henabled : c.admin.enabled = true)
      (hbinds : x.bound.Binds (.tcp address) bound) :
      Step c file x { x with
        phase := .listening [.monitor, .admin] addresses
        bound
        admin := some address }
  /-- A listener is not bound. -/
  | unbound {others : List Party} {a : ListenAddress} {rest : List ListenAddress} (cause : String)
      (hphase : x.phase = .listening others (a :: rest)) :
      Step c file x (x.abandon (.listener ⟨a, cause⟩))
  /-- A listener is bound where nobody is, and started. -/
  | listen {others : List Party} {a e : ListenAddress} {rest : List ListenAddress} {bound : Bound}
      {s : Site} (hphase : x.phase = .listening others (a :: rest)) (hsite : x.site = some s)
      (has : a.BoundAs e) (hbinds : x.bound.Binds e bound) :
      Step c file x { x with
        phase := .listening (others ++ [.listener s.listeners.entries.length]) rest
        bound
        site := some (s.extend e) }
  /-- One that was waited for has ended. -/
  | await {error : StartupError} {p : Party} {rest : List Party}
      (hphase : x.phase = .abandoning error (p :: rest)) (hended : ¬x.Runs p) :
      Step c file x { x with phase := .abandoning error rest }
  /-- All have ended. -/
  | fail {error : StartupError} (hphase : x.phase = .abandoning error []) :
      Step c file x { x with phase := .failed error }
  /-- Scheduler, listeners or helpers act, or a client connects. -/
  | work {s s' : Site} (hsite : x.site = some s) (h : s.Step s') : Step c file x (x.become s s')
  /-- The monitor acts. -/
  | probe {m m' : Monitor} (hmonitor : x.monitor = some m) (h : m.Acts m') :
      Step c file x { x with monitor := some m' }
  /-- Something happens to the monitor. -/
  | meet {m m' : Monitor} (hmonitor : x.monitor = some m) (h : m.Meets m') :
      Step c file x { x with monitor := some m' }
  /-- The monitor stops. -/
  | halt {m : Monitor} (hmonitor : x.monitor = some m) (hidle : m.activity = .idle)
      (hsignalled : m.signalled = true) :
      Step c file x { x with monitor := some { m with activity := .stopped } }
  /-- The admin interface ends, and its address is released. -/
  | close {address : String} (hadmin : x.admin = some address) :
      Step c file x { x with bound := x.bound.release (.tcp address), admin := none }
  /-- Somebody else binds an endpoint. -/
  | take {e : ListenAddress} {bound : Bound} (h : x.bound.Binds e bound) :
      Step c file x { x with bound, theirs := e :: x.theirs }
  /-- Somebody else releases one. -/
  | leave {e : ListenAddress} (h : e ∈ x.theirs) :
      Step c file x { x with bound := x.bound.release e, theirs := x.theirs.erase e }

/-- What can be so at some moment of a start. -/
inductive Reached (c : Config) (file : WatchedFile) (b : Bound) : Course → Prop where
  | start : Reached c file b { bound := b }
  | step {x x' : Course} (past : Reached c file b x) (h : x.Step c file x') : Reached c file b x'

/-! ## What is so at every moment -/

/-- What is true at every moment of a start. -/
structure Kept (x : Course) : Prop where
  site : ∀ s, x.site = some s → s.Tidy
  /-- Whoever runs was started, and was not waited for. -/
  waited : ∀ p, x.Runs p → p ∈ x.phase.started
  /-- What is bound is what the start has, and what others have. -/
  endpoints : x.bound.endpoints.Perm (x.ours ++ x.theirs)

variable {c : Config} {file : WatchedFile} {x x' : Course} {p : Party}

/-- Nobody comes to run by being asked to stop. -/
theorem runs_of_abandon {error : StartupError} (h : (x.abandon error).Runs p) : x.Runs p := by
  cases p with
  | scheduler =>
      obtain ⟨t, ht, hnot⟩ := h
      obtain ⟨s, hs, rfl⟩ := Option.map_eq_some_iff.1 ht
      exact ⟨s, hs, hnot⟩
  | monitor =>
      obtain ⟨t, ht, hrunning⟩ := h
      obtain ⟨m, hm, rfl⟩ := Option.map_eq_some_iff.1 ht
      exact ⟨m, hm, hrunning⟩
  | admin => exact h
  | listener number =>
      obtain ⟨t, ht, hmem⟩ := h
      obtain ⟨s, hs, rfl⟩ := Option.map_eq_some_iff.1 ht
      rw [Site.alive_signal] at hmem
      exact ⟨s, hs, hmem⟩

theorem ours_abandon (x : Course) (error : StartupError) : (x.abandon error).ours = x.ours := by
  unfold ours abandon
  cases x.site with
  | none => rfl
  | some s =>
      simp only [Option.map_some, Option.elim_some, Listeners.running_eq, Site.alive_signal]

/-- Nobody comes to run by what happens at the site. -/
theorem runs_of_become {s s' : Site} (hsite : x.site = some s) (htidy : s.Tidy) (step : s.Step s')
    (h : (x.become s s').Runs p) : x.Runs p := by
  cases p with
  | scheduler =>
      obtain ⟨t, ht, hnot⟩ := h
      obtain rfl := Option.some.inj ht
      exact ⟨s, hsite, fun hended => hnot (step.hasEnded htidy hended)⟩
  | monitor | admin => exact h
  | listener number =>
      obtain ⟨t, ht, hmem⟩ := h
      obtain rfl := Option.some.inj ht
      exact ⟨s, hsite, List.map_subset Prod.fst step.alive_subperm.subset hmem⟩

/-- Another listener is the only one that comes to run. -/
theorem runs_of_extend {s : Site} (hsite : x.site = some s) {e : ListenAddress}
    (h : Runs { x with site := some (s.extend e) } p) :
    x.Runs p ∨ p = .listener s.listeners.entries.length := by
  cases p with
  | scheduler =>
      obtain ⟨t, ht, hnot⟩ := h
      obtain rfl := Option.some.inj ht
      exact .inl ⟨s, hsite, hnot⟩
  | monitor | admin => exact .inl h
  | listener number =>
      obtain ⟨t, ht, hmem⟩ := h
      obtain rfl := Option.some.inj ht
      rw [Site.alive_extend, List.map_append] at hmem
      obtain hmem | hnew := List.mem_append.1 hmem
      · exact .inl ⟨s, hsite, hmem⟩
      · exact .inr (congrArg Party.listener (List.mem_singleton.1 hnew))

/-- A monitor that has stopped stays so. -/
theorem runs_of_monitor {m m' : Monitor} (hmonitor : x.monitor = some m)
    (hstays : m'.isRunning = true → m.isRunning = true)
    (h : Runs { x with monitor := some m' } p) : x.Runs p := by
  cases p with
  | monitor =>
      obtain ⟨t, ht, hrunning⟩ := h
      obtain rfl := Option.some.inj ht
      exact ⟨m, hmonitor, hstays hrunning⟩
  | scheduler | admin | listener => exact h

namespace Kept

/-- As long as no listener was started, none is bound. -/
theorem running_eq_nil (h : x.Kept) (hnone : ∀ n, .listener n ∉ x.phase.started) :
    (x.site.elim [] fun s => s.listeners.running) = [] := by
  cases hsite : x.site with
  | none => rfl
  | some s =>
      rw [Option.elim_some, Listeners.running_eq, List.map_eq_nil_iff]
      refine List.eq_nil_iff_forall_not_mem.2 fun a ha => hnone a.1 ?_
      exact h.waited _ ⟨s, hsite, List.mem_map_of_mem ha⟩

theorem step_site (h : x.Kept) (step : x.Step c file x') : ∀ s, x'.site = some s → s.Tidy := by
  intro t ht
  cases step with
  | begin =>
      obtain rfl := Option.some.inj ht
      exact Site.tidy_initial _ _
  | unwatched | unadministered | unbound =>
      obtain ⟨s, hs, rfl⟩ := Option.map_eq_some_iff.1 ht
      exact (h.site s hs).signal
  | listen _ hsite =>
      obtain rfl := Option.some.inj ht
      exact (h.site _ hsite).extend _
  | work hsite step =>
      obtain rfl := Option.some.inj ht
      exact (h.site _ hsite).step step
  | refuse | watch | skip | administer | await | fail | probe | meet | halt | close | take | leave =>
      exact h.site t ht

theorem waited_of_phase (h : x.Kept) {phase : Phase} (hphase : x.phase = phase) :
    x.Runs p → p ∈ phase.started := by
  subst hphase
  exact h.waited p

theorem step_waited (h : x.Kept) (step : x.Step c file x') :
    ∀ p, x'.Runs p → p ∈ x'.phase.started := by
  intro p hruns
  cases step with
  | refuse hphase | skip hphase | fail hphase =>
      have hold := h.waited_of_phase hphase hruns
      exact hold
  | begin hphase =>
      -- nobody has run so far
      have hnone := h.waited_of_phase (p := p) hphase
      cases p with
      | scheduler => exact List.mem_cons_self
      | monitor | admin => exact absurd (hnone hruns) List.not_mem_nil
      | listener number =>
          obtain ⟨s, hs, hmem⟩ := hruns
          obtain rfl := Option.some.inj hs
          contradiction
  | unwatched | unadministered | unbound => exact h.waited p (runs_of_abandon hruns)
  | watch hphase =>
      have hold := h.waited_of_phase (p := p) hphase
      cases p with
      | monitor => exact List.mem_cons_self
      | scheduler | admin | listener => exact List.mem_cons_of_mem _ (hold hruns)
  | administer hphase =>
      have hold := h.waited_of_phase (p := p) hphase
      cases p with
      | scheduler | monitor | admin => simp [Phase.started]
      | listener => exact absurd (hold hruns) (by simp [Phase.started])
  | listen hphase hsite =>
      obtain hold | rfl := runs_of_extend hsite hruns
      · have hmem := h.waited_of_phase hphase hold
        simp only [Phase.started, List.mem_append] at hmem ⊢
        exact hmem.imp_left .inl
      · simp [Phase.started]
  | await hphase hended =>
      obtain rfl | hrest := List.mem_cons.1 (h.waited_of_phase hphase hruns)
      · exact absurd hruns hended
      · exact hrest
  | work hsite step => exact h.waited p (runs_of_become hsite (h.site _ hsite) step hruns)
  | probe hmonitor hacts =>
      exact h.waited p (runs_of_monitor hmonitor (fun _ => hacts.isRunning) hruns)
  | meet hmonitor hmeets =>
      exact h.waited p (runs_of_monitor hmonitor (hmeets.isRunning_eq ▸ id) hruns)
  | halt hmonitor =>
      exact h.waited p (runs_of_monitor hmonitor (fun hrunning => by contradiction) hruns)
  | close =>
      have hold := h.waited p
      cases p with
      | admin => exact absurd rfl hruns
      | scheduler | monitor | listener => exact hold hruns
  | take | leave => exact h.waited p hruns

theorem step_endpoints (h : x.Kept) (step : x.Step c file x') :
    x'.bound.endpoints.Perm (x'.ours ++ x'.theirs) := by
  have hbound := h.endpoints
  cases step with
  | refuse | watch | skip | await | fail | probe | meet | halt => exact hbound
  | unwatched | unadministered | unbound =>
      rw [ours_abandon]
      exact hbound
  | begin hphase =>
      have hnone := h.running_eq_nil (by simp [hphase, Phase.started])
      rw [ours, hnone] at hbound
      exact hbound
  | @administer addresses address bound hphase _ hbinds =>
      have hnone : x.admin = none := by
        by_contra hadmin
        have hmem := h.waited_of_phase (p := .admin) hphase hadmin
        simp [Phase.started] at hmem
      have hours : (x.ours ++ [ListenAddress.tcp address]).Perm (.tcp address :: x.ours) :=
        List.perm_append_singleton ..
      have hall := hbinds.endpoints_perm.trans (hbound.cons _)
      simpa [ours, hnone] using hall.trans (hours.symm.append_right x.theirs)
  | @listen others a e rest bound s hphase hsite _ hbinds =>
      have hours : (ours { x with site := some (s.extend e) }).Perm (e :: x.ours) := by
        simp [ours, hsite, Listeners.running_eq, Site.alive_extend]
      have hall := hbinds.endpoints_perm.trans (hbound.cons _)
      exact hall.trans (hours.symm.append_right x.theirs)
  | @work s s' hsite step =>
      -- the endpoints that are released are those of the listeners that have ended
      rw [ours, hsite, Option.elim_some, List.append_assoc] at hbound
      have hleft := Bound.endpoints_release_diff hbound step.running_subperm
      rw [← List.append_assoc] at hleft
      exact hleft
  | @close address hadmin =>
      have hours : x.ours.Perm (.tcp address :: ours { x with admin := none }) := by
        simp [ours, hadmin]
      exact Bound.endpoints_release_perm (hbound.trans (hours.append_right x.theirs))
  | take htake =>
      refine htake.endpoints_perm.trans ?_
      exact (hbound.cons _).trans List.perm_middle.symm
  | leave hmem =>
      have htheirs := (List.perm_cons_erase hmem).append_left x.ours
      exact Bound.endpoints_release_perm ((hbound.trans htheirs).trans List.perm_middle)

theorem step (h : x.Kept) (step : x.Step c file x') : x'.Kept :=
  ⟨h.step_site step, h.step_waited step, h.step_endpoints step⟩

end Kept

theorem Reached.kept {b : Bound} (reached : Reached c file b x) : x.Kept := by
  induction reached with
  | start =>
      refine ⟨fun _ hs => by contradiction, fun p hruns => ?_, .refl _⟩
      cases p with
      | scheduler | monitor | listener =>
          obtain ⟨_, hsome, -⟩ := hruns
          contradiction
      | admin => exact absurd rfl hruns
  | step _ step ih => exact ih.step step

/-! ## The end -/

/-- What a failed start leaves. -/
structure LeavesNothing (x : Course) : Prop where
  /-- Nothing that was started runs. -/
  ended : ∀ p, ¬x.Runs p
  /-- No listener is bound, and neither is the admin interface. -/
  ours : x.ours = []
  /-- What is bound is what others have. -/
  bound : x.bound.endpoints.Perm x.theirs
  /-- The scheduler has run its teardown, if it was started. -/
  emptied : ∀ s, x.site = some s → s.scheduler.stopped = true ∧ s.scheduler.Emptied

theorem Kept.leavesNothing (h : x.Kept) (hnone : x.phase.started = []) : x.LeavesNothing := by
  have hended : ∀ p, ¬x.Runs p := fun p hruns => by
    have hmem := h.waited p hruns
    rw [hnone] at hmem
    contradiction
  have hadmin : x.admin = none := by
    by_contra hadmin
    exact hended .admin hadmin
  have hours : x.ours = [] := by
    rw [Course.ours, h.running_eq_nil (by simp [hnone]), hadmin]
    rfl
  refine ⟨hended, hours, ?_, fun s hs => ?_⟩
  · have hall := h.endpoints
    rwa [hours] at hall
  · have hgone : s.tenure.HasEnded := by
      by_contra hruns
      exact hended .scheduler ⟨s, hs, hruns⟩
    exact ⟨hgone.1, (h.site s hs).emptied hgone⟩

end Course

end Startup

end StreamBalancer
