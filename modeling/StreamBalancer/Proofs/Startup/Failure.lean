import StreamBalancer.Proofs.Startup.Endpoints
import StreamBalancer.Startup

/-!
# StreamBalancer.Proofs.Startup.Failure

What a start that fails hands back.

1. Whatever is bound and started ends first when the start is given up, and leaves everything as it
   was before (`Startup.finish_spawn`).
2. So it does not matter how many listeners were bound: giving up then is giving up before
   (`Startup.abandon_spawn`).
3. All failures with anything started look alike (`Startup.run_error_of_prepared`).
-/

namespace StreamBalancer.Startup

/-- The endpoint at which a task is. -/
def Task.endpoint? : Task → Option ListenAddress
  | .scheduler | .monitor => none
  | .admin address => some (.tcp address)
  | .listener endpoint => some endpoint

/-- All that was started is at endpoints that are bound. -/
def Owns (s : Startup) : Prop :=
  ∀ task ∈ s.running, ∀ e, task.endpoint? = some e → e ∈ s.bound.endpoints

variable {system : Binding} {s : Startup} {b : Bound} {e : ListenAddress} {task : Task}

/-- Something is started at an endpoint as bound. -/
def spawnAt (s : Startup) (b : Bound) (task : Task) : Startup := { s with bound := b }.spawn task

/-- **What was started last leaves everything as it was before.** -/
theorem finish_spawnAt (howns : s.Owns) (hbinds : s.bound.Binds e b)
    (htask : task.endpoint? = some e) : (s.spawnAt b task).finish task = s := by
  have hnew : task ∉ s.running := fun hmem => hbinds.not_mem (howns task hmem e htask)
  have hrunning : (s.running ++ [task]).erase task = s.running := by
    rw [List.erase_append_right _ hnew, List.erase_cons_head, List.append_nil]
  have hrelease := hbinds.release_eq
  cases task with
  | scheduler | monitor => contradiction
  | admin address | listener endpoint =>
      obtain rfl := Option.some.inj htask
      simp only [finish, spawnAt, spawn, hrunning, hrelease]

theorem owns_spawnAt (howns : s.Owns) (hbinds : s.bound.Binds e b)
    (htask : task.endpoint? = some e) : (s.spawnAt b task).Owns := by
  intro t ht a ha
  refine hbinds.endpoints_perm.mem_iff.2 ?_
  obtain hold | hnew := List.mem_append.1 ht
  · exact List.mem_cons_of_mem _ (howns t hold a ha)
  · obtain rfl := List.mem_singleton.1 hnew
    rw [htask] at ha
    exact List.mem_cons.2 (.inl (Option.some.inj ha).symm)

/-- **Giving up later is giving up before.** -/
theorem abandon_spawnAt (howns : s.Owns) (hbinds : s.bound.Binds e b)
    (htask : task.endpoint? = some e) (error : StartupError) :
    (s.spawnAt b task).abandon error = s.abandon error := by
  have hreverse : (s.spawnAt b task).running.reverse = task :: s.running.reverse :=
    List.reverse_append
  rw [abandon, hreverse, List.foldl_cons, finish_spawnAt howns hbinds htask]
  rfl

/-- However many listeners were bound, they are all given up. -/
theorem startListeners_error {addresses : List ListenAddress} (howns : s.Owns) {f : Failure}
    (h : startListeners system addresses s = .error f) : f = s.abandon f.error := by
  induction addresses generalizing s with
  | nil => contradiction
  | cons a rest ih =>
      rw [startListeners] at h
      split at h
      · obtain rfl := Except.error.inj h
        rfl
      · next endpoint bound hbind =>
        have hbinds := (system.binds hbind).2
        have hafter := ih (owns_spawnAt howns hbinds rfl) h
        rwa [abandon_spawnAt howns hbinds rfl] at hafter

theorem startAdmin_error {a : AdminConfig} {f : Failure} (h : startAdmin system a s = .error f) :
    f = s.abandon f.error := by
  unfold startAdmin at h
  split at h
  · contradiction
  · split at h
    · obtain rfl := Except.error.inj h
      rfl
    · contradiction

/-- So is the admin interface. -/
theorem abandon_of_startAdmin {a : AdminConfig} {s' : Startup} (howns : s.Owns)
    (h : startAdmin system a s = .ok s') :
    s'.Owns ∧ ∀ error, s'.abandon error = s.abandon error := by
  unfold startAdmin at h
  split at h
  · obtain rfl := Except.ok.inj h
    exact ⟨howns, fun _ => rfl⟩
  · split at h
    · contradiction
    · next endpoint bound hbind =>
      obtain rfl := Except.ok.inj h
      obtain ⟨has, hbinds⟩ := system.binds hbind
      have htask : (Task.admin endpoint.address).endpoint? = some endpoint :=
        congrArg some has.eq_tcp.symm
      exact ⟨owns_spawnAt howns hbinds htask, abandon_spawnAt howns hbinds htask⟩

variable {c : Config} {file : WatchedFile} {f : Failure}

/-- A start that fails before anything is started. -/
theorem run_of_unprepared {error : StartupError} (hprepare : prepare c = .error error) :
    run system c file b = .error { error, bound := b } := by
  rw [run, hprepare]

/-- A start that goes on. -/
theorem run_of_prepared {addresses : List ListenAddress} {probe : Probe}
    (hprepare : prepare c = .ok (addresses, probe)) :
    run system c file b = startMonitor file (startScheduler c probe file b) >>= fun s =>
      startAdmin system c.admin s >>= startListeners system addresses := by
  rw [run, hprepare]

/-- **What a start hands back that fails later**: nothing runs, and what is bound is what was bound
before. -/
theorem run_error_of_prepared {addresses : List ListenAddress} {probe : Probe}
    (hprepare : prepare c = .ok (addresses, probe)) (h : run system c file b = .error f) :
    f = { error := f.error, bound := b, scheduler := some (Scheduler.ofConfig c).signal.stop } := by
  rw [run_of_prepared hprepare, startMonitor] at h
  split at h
  · obtain rfl := Except.error.inj h
    rfl
  · let started := (startScheduler c probe file b).spawn .monitor
    have howns : started.Owns := by simp [Owns, started, startScheduler, spawn, Task.endpoint?]
    have hgone : ∀ error, started.abandon error =
        { error, bound := b, scheduler := some (Scheduler.ofConfig c).signal.stop } :=
      fun _ => rfl
    change (startAdmin system c.admin started >>= startListeners system addresses) = .error f at h
    cases hadmin : startAdmin system c.admin started with
    | error f' =>
        rw [hadmin] at h
        obtain rfl := Except.error.inj h
        exact (startAdmin_error hadmin).trans (hgone _)
    | ok s =>
        rw [hadmin] at h
        obtain ⟨howned, hsame⟩ := abandon_of_startAdmin howns hadmin
        exact (startListeners_error howned h).trans ((hsame _).trans (hgone _))

end StreamBalancer.Startup
