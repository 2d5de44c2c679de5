import StreamBalancer.Proofs.Interleaving.Numbers
import StreamBalancer.Proofs.Interleaving.Requests
import StreamBalancer.Proofs.Traffic

/-!
# StreamBalancer.Proofs.Interleaving.Tunnels

Where tunnels are while the scheduler and its helpers are at work
(`Scheduler.traffic`), and that a step of anybody is a step of the traffic
(`World.Step.move`).

1. Most tasks leave the traffic alone (`traffic_of_quiet`); the others have one
   lemma each.
2. A session is told from others by its number, and a forward by its request, so
   what one of them does touches no other.
-/

namespace StreamBalancer

/-- An instance as its tunnels see it. -/
def Backend.stand (x : Backend) : Traffic.Instance := ⟨x.retired, x.slots⟩

/-- The tunnel of a session, as it is handed over. -/
def Session.handover? (x : Session) : Option Handover :=
  x.tunnel?.map fun t => ⟨x.backend, x.slot, t⟩

/-- The slot for which a session looks for a tunnel. -/
def Session.seeks? (x : Session) : Option (Nat × Nat) :=
  match x.tunnel? with
  | some _ => none
  | none => some (x.backend, x.slot)

namespace Scheduler

/-! ## Tasks -/

namespace Task

/-- The tunnel that a task is about to install. -/
def handover? : Task → Option Handover
  | handover h => some h
  | _ => none

/-- The report that a task is about to look at. -/
def failure? : Task → Option Failure
  | failure f => some f
  | _ => none

/-- The slot that a task is about to ask a tunnel for. -/
def mark? : Task → Option (Nat × Nat)
  | mark b slot => some (b, slot)
  | _ => none

/-- The slot whose tunnel a task is about to weigh. -/
def weigh? : Task → Option (Nat × Nat)
  | weigh b slot _ => some (b, slot)
  | _ => none

/-- The slot that a task is about to empty. -/
def empty? : Task → Option (Nat × Nat)
  | empty b slot => some (b, slot)
  | _ => none

/-- The tunnel that a task is about to close. -/
def close? : Task → Option Nat
  | close t => some t
  | _ => none

/-- Whether a task is not about a slot or a tunnel that the tasks before it found. -/
def isQuiet : Task → Bool
  | handover _ | failure _ | mark _ _ | weigh _ _ _ | empty _ _ | close _ => false
  | _ => true

end Task

/-! ## Traffic -/

/-- Where tunnels are, and where they are wanted. -/
def traffic (s : Scheduler) (tasks : List Task) : Traffic where
  instances := s.fleet.backends.toList.map Backend.stand
  closes := s.fleet.tunnels.toList.map Tunnel.closes
  seeking := s.sessions.filterMap Session.seeks?
  carried := tasks.filterMap Task.handover? ++ s.handovers ++ s.sessions.filterMap Session.handover?
  taken := s.forwards.filterMap fun f => f.stage.taken?
  owed := s.forwards.filterMap fun f => f.stage.owed?
  told := tasks.filterMap Task.failure? ++ s.fleet.failures
  marks := tasks.filterMap Task.mark?
  weighs := tasks.filterMap Task.weigh?
  empties := tasks.filterMap Task.empty?
  closing := tasks.filterMap Task.close?

/-- What of a scheduler the traffic depends on. -/
def stock (s : Scheduler) : List Traffic.Instance × List Nat × List Session × List Handover ×
    List Failure × List Failure × List Failure :=
  (s.fleet.backends.toList.map Backend.stand, s.fleet.tunnels.toList.map Tunnel.closes, s.sessions,
    s.handovers, s.forwards.filterMap fun f => f.stage.taken?,
    s.forwards.filterMap fun f => f.stage.owed?, s.fleet.failures)

theorem traffic_congr {s t : Scheduler} (h : t.stock = s.stock) (tasks : List Task) :
    t.traffic tasks = s.traffic tasks := by
  simp only [stock, Prod.mk.injEq] at h
  obtain ⟨hinstances, hcloses, hsessions, hhandovers, htaken, howed, hfailures⟩ := h
  simp only [traffic, hinstances, hcloses, hsessions, hhandovers, htaken, howed, hfailures]

theorem traffic_cons_quiet (s : Scheduler) {task : Task} (h : task.isQuiet = true)
    (rest : List Task) : s.traffic (task :: rest) = s.traffic rest := by
  cases task with
  | handover | failure | mark | weigh | empty | close => contradiction
  | _ => rfl

/-- Quiet tasks do not count. -/
theorem traffic_append_quiet (s : Scheduler) {tasks : List Task} (h : ∀ x ∈ tasks, x.isQuiet = true)
    (rest : List Task) : s.traffic (tasks ++ rest) = s.traffic rest := by
  induction tasks with
  | nil => rfl
  | cons task tasks ih =>
      rw [List.cons_append, traffic_cons_quiet s (h task List.mem_cons_self)]
      exact ih fun x hx => h x (List.mem_cons_of_mem task hx)

/-! ### Reading the traffic -/

theorem slot?_traffic (s : Scheduler) (tasks : List Task) (b i : Nat) :
    (s.traffic tasks).slot? b i = s.slot? b i := by
  simp only [Traffic.slot?, traffic, List.getElem?_map, Array.getElem?_toList, Option.bind_map]
  rfl

theorem tunnelAt_traffic (s : Scheduler) (tasks : List Task) (b i : Nat) :
    (s.traffic tasks).tunnelAt b i = s.tunnelAt b i := by
  rw [Traffic.tunnelAt, slot?_traffic]
  rfl

theorem live_traffic (s : Scheduler) (tasks : List Task) (b : Nat) :
    (s.traffic tasks).Live b ↔ s.isRetired b = false := by
  simp only [Traffic.Live, traffic, List.getElem?_map, Array.getElem?_toList, isRetired,
    Fleet.backend?]
  cases s.fleet.backends[b]? with
  | none => simp
  | some x => simp [Backend.stand]

theorem instance_traffic (s : Scheduler) (tasks : List Task) (b : Nat) :
    (s.traffic tasks).instances[b]? = (s.fleet.backend? b).map Backend.stand := by
  rw [traffic, List.getElem?_map, Array.getElem?_toList]
  rfl

/-! ## Tasks that leave the traffic alone -/

/-- Whether a task may look at or change a slot or a tunnel. -/
def Task.movesTunnels : Task → Bool
  | .request _ | .dispatch _ | .check _ | .start _ _ | .finished _ | .revive _ | .drain
  | .connected _ | .publish => false
  | _ => true

theorem stock_modifyBackend (s : Scheduler) (b : Nat) (change : Backend → Backend)
    (h : ∀ x, (change x).stand = x.stand) : (s.modifyBackend b change).stock = s.stock := by
  have hstands : (s.modifyBackend b change).fleet.backends.toList.map Backend.stand =
      s.fleet.backends.toList.map Backend.stand := Fleet.map_modifyBackend _ fun x _ => h x
  rw [stock, hstands]
  rfl

theorem perform_of_quiet (s : Scheduler) {task : Task} (h : task.movesTunnels = false) :
    (s.perform task).1.stock = s.stock ∧ ∀ x ∈ (s.perform task).2, x.isQuiet = true := by
  have hnil : ∀ x ∈ ([] : List Task), x.isQuiet = true := fun _ h => absurd h List.not_mem_nil
  cases task with
  | inspect | weigh | remove | empty | close | arrive | failure | mark | handover => contradiction
  | publish => exact ⟨rfl, hnil⟩
  | request r =>
      simp only [perform]
      split
      · exact ⟨rfl, hnil⟩
      · exact ⟨rfl, by simp [Task.isQuiet]⟩
  | dispatch r =>
      simp only [perform]
      split
      · exact ⟨rfl, hnil⟩
      · next b pool _ =>
        split
        · exact ⟨rfl, hnil⟩
        · exact ⟨stock_modifyBackend { s with pool } b Backend.begin fun _ => rfl,
            by simp [Task.isQuiet]⟩
  | check b =>
      simp only [perform]
      split
      · exact ⟨rfl, hnil⟩
      · split
        · exact ⟨stock_modifyBackend s b _ fun _ => rfl, by simp [Task.isQuiet]⟩
        · exact ⟨stock_modifyBackend s b _ fun _ => rfl, hnil⟩
  | start r b =>
      refine ⟨?_, hnil⟩
      simp [perform, stock, startForward, showOngoing, setOngoingGauge, Fleet.setGauge,
        Forward.Stage.taken?, Forward.Stage.owed?]
  | finished f =>
      have hfinish := stock_modifyBackend s f.backend Backend.finish fun _ => rfl
      obtain ⟨b, outcome⟩ := f
      cases outcome with
      | completed | failed => exact ⟨hfinish, hnil⟩
      | dialFailed r => exact ⟨hfinish, by simp [perform, Task.isQuiet]⟩
  | revive a =>
      simp only [perform, revive]
      split
      · split <;> exact ⟨rfl, hnil⟩
      · exact ⟨rfl, hnil⟩
  | drain =>
      simp only [perform]
      split
      · exact ⟨rfl, hnil⟩
      · split
        · exact ⟨rfl, hnil⟩
        · exact ⟨rfl, by simp [Task.isQuiet]⟩
  | connected b =>
      simp only [perform]
      split
      · exact ⟨rfl, by simp [Task.isQuiet]⟩
      · exact ⟨rfl, hnil⟩

/-- A task that neither looks at nor changes a slot or a tunnel leaves the traffic
alone. -/
theorem traffic_perform_of_quiet (s : Scheduler) {task : Task} (h : task.movesTunnels = false)
    (rest : List Task) :
    (s.perform task).1.traffic ((s.perform task).2 ++ rest) = s.traffic (task :: rest) := by
  obtain ⟨hstock, hquiet⟩ := perform_of_quiet s h
  have htask : task.isQuiet = true := by
    cases task <;> first | rfl | contradiction
  rw [traffic_append_quiet _ hquiet, traffic_congr hstock, traffic_cons_quiet s htask]

/-! ## Slots -/

theorem stands_modifySlot (f : Fleet) (b i : Nat) (change : Slot → Slot) :
    (f.modifySlot b i change).backends.toList.map Backend.stand =
      (f.backends.toList.map Backend.stand).modify b fun x =>
        { x with slots := x.slots.modify i change } := by
  apply List.ext_getElem?
  intro c
  simp only [Fleet.modifySlot, Fleet.modifyBackend, List.getElem?_map, Array.getElem?_toList,
    Array.getElem?_modify, List.getElem?_modify]
  cases f.backends[c]? with
  | none => simp
  | some x =>
      by_cases hc : b = c
      · simp [hc, Backend.stand]
      · simp [hc]

theorem traffic_modifySlot (s : Scheduler) (b i : Nat) (change : Slot → Slot) (tasks : List Task) :
    ({ s with fleet := s.fleet.modifySlot b i change }).traffic tasks =
      (s.traffic tasks).setSlot b i change := by
  ext1
  · exact stands_modifySlot s.fleet b i change
  all_goals rfl

/-- Asking for a tunnel adds a session that looks for one. -/
theorem traffic_requestSession (s : Scheduler) (b i : Nat) (tasks : List Task) :
    (({ s with fleet := s.fleet.modifySlot b i fun x => { x with replacing := true } }).requestSession
      b i).traffic tasks = (s.traffic tasks).ask b i := by
  ext1
  · exact stands_modifySlot s.fleet b i _
  · rfl
  · refine Multiset.coe_eq_coe.2 ?_
    rw [requestSession, List.filterMap_append]
    exact List.perm_append_singleton _ _
  · refine Multiset.coe_eq_coe.2 (List.Perm.of_eq ?_)
    rw [requestSession, List.filterMap_append]
    exact congrArg _ (List.append_nil _)
  all_goals rfl

/-! ## Tasks that move tunnels -/

section Tasks

variable (s : Scheduler) (rest : List Task)

/-- The traffic after a task and before the tasks it leads to. -/
def trafficAfter (task : Task) : Traffic :=
  (s.perform task).1.traffic ((s.perform task).2 ++ rest)

theorem inspect_move (b i : Nat) :
    (s.traffic (.inspect b i :: rest)).Move (s.trafficAfter rest (.inspect b i)) := by
  simp only [trafficAfter, perform]
  cases ht : s.tunnelAt b i with
  | none => exact .same (s.traffic rest)
  | some t =>
      exact .looks (s.traffic rest) (b := b) (i := i) (by rw [tunnelAt_traffic]; exact ht)

theorem weigh_move {b : Nat} (i t : Nat) (hlive : s.isRetired b = false) :
    (s.traffic (.weigh b i t :: rest)).Move (s.trafficAfter rest (.weigh b i t)) := by
  have hpasses : (s.traffic (.weigh b i t :: rest)).Move (s.traffic rest) :=
    .passes (s.traffic rest) b i
  simp only [trafficAfter, perform]
  split
  · obtain ⟨-, hmark⟩ | ⟨x, -, -, hmark⟩ | ⟨x, hslot, hflag, hmark⟩ := s.fleet.markReplacing_cases b i
    · rw [hmark]
      exact hpasses
    · rw [hmark]
      exact hpasses
    · rw [hmark]
      have hask := s.traffic_requestSession b i rest
      have hmove := Traffic.Move.replaces (s.traffic rest) (by rw [slot?_traffic]; exact hslot) hflag
        ((s.live_traffic rest b).2 hlive)
      rw [← hask] at hmove
      exact hmove
  · exact hpasses

theorem mark_move {b : Nat} (i : Nat) (hlive : s.isRetired b = false) :
    (s.traffic (.mark b i :: rest)).Move (s.trafficAfter rest (.mark b i)) := by
  have hunmarks : (∀ x, s.slot? b i = some x → x.replacing = true) →
      (s.traffic (.mark b i :: rest)).Move (s.traffic rest) := by
    intro hflag
    exact .unmarks (s.traffic rest) (by rw [slot?_traffic]; exact hflag)
  simp only [trafficAfter, perform]
  obtain ⟨hnone, hmark⟩ | ⟨x, hslot, hflag, hmark⟩ | ⟨x, hslot, hflag, hmark⟩ :=
    s.fleet.markReplacing_cases b i
  · rw [hmark]
    refine hunmarks fun x hx => ?_
    rw [slot?, hnone] at hx
    contradiction
  · rw [hmark]
    refine hunmarks fun y hy => ?_
    rw [slot?, hslot] at hy
    exact Option.some.inj hy ▸ hflag
  · rw [hmark]
    have hask := s.traffic_requestSession b i rest
    have hmove := Traffic.Move.asks (s.traffic rest) (by rw [slot?_traffic]; exact hslot) hflag
      ((s.live_traffic rest b).2 hlive)
    rw [← hask] at hmove
    exact hmove

theorem failure_move {most : Nat} (h : s.roster.Sound most) (f : Failure) :
    (s.traffic (.failure f :: rest)).Move (s.trafficAfter rest (.failure f)) := by
  simp only [trafficAfter, perform]
  split
  · next hwhy =>
    refine .ignores (s.traffic rest) f fun hlive => ?_
    rw [tunnelAt_traffic]
    rw [live_traffic] at hlive
    rw [isCurrent_eq h, hlive] at hwhy
    cases ht : s.tunnelAt f.backend f.slot with
    | some t => rfl
    | none =>
        have hnone : ((s.fleet.backend? f.backend).bind fun x => x.tunnel? f.slot) = none := by
          rw [← ht, tunnelAt, Fleet.tunnelAt, Fleet.slot?, Option.bind_assoc]
          rfl
        simp [holdsAnother, hnone] at hwhy
  · exact .heeds (s.traffic rest) f

theorem traffic_close (t : Nat) :
    ({ s with fleet := s.fleet.close t }).traffic rest = (s.traffic rest).close t := by
  ext1
  case closes =>
    apply List.ext_getElem?
    intro i
    simp only [Fleet.close, Fleet.modifyTunnel, traffic, Traffic.close, List.getElem?_map,
      Array.getElem?_toList, Array.getElem?_modify, List.getElem?_modify]
    cases s.fleet.tunnels[i]? with
    | none => simp
    | some x =>
        by_cases hi : t = i
        · simp [hi, Tunnel.close]
        · simp [hi]
  all_goals rfl

theorem close_move (t : Nat) :
    (s.traffic (.close t :: rest)).Move (s.trafficAfter rest (.close t)) := by
  have hmove := Traffic.Move.closes (s.traffic rest) t
  rw [← traffic_close] at hmove
  exact hmove

theorem empty_move (b i : Nat) (hdead : s.isRetired b = true) :
    (s.traffic (.empty b i :: rest)).Move (s.trafficAfter rest (.empty b i)) := by
  simp only [trafficAfter, perform]
  cases ht : s.tunnelAt b i with
  | none => exact .skips (s.traffic rest) (by rw [tunnelAt_traffic]; exact ht)
  | some t =>
      obtain ⟨-, hevict⟩ | ⟨hne, -⟩ := s.fleet.evict_cases b i t
      · dsimp only
        rw [hevict]
        have hset := s.traffic_modifySlot b i (fun x => { x with tunnel := none }) rest
        have hlive : ¬(s.traffic rest).Live b := by simp [live_traffic, hdead]
        have hmove := Traffic.Move.empties (s.traffic rest) (by rw [tunnelAt_traffic]; exact ht) hlive
        rw [← hset] at hmove
        exact hmove
      · exact absurd ht hne

theorem handover_move {most : Nat} (h : s.roster.Sound most) (v : Handover) :
    (s.traffic (.handover v :: rest)).Move (s.trafficAfter rest (.handover v)) := by
  have hrefuses : ((s.traffic rest).Live v.backend → s.slot? v.backend v.slot = none) →
      (s.traffic (.handover v :: rest)).Move (s.traffic (.close v.tunnel :: rest)) := by
    intro hwhy
    exact .refuses (s.traffic rest) v (by rw [slot?_traffic]; exact hwhy)
  simp only [trafficAfter, perform, isCurrent_eq h, Bool.not_not]
  split
  · next hdead =>
    refine hrefuses fun hlive => ?_
    rw [live_traffic, hdead] at hlive
    contradiction
  · next hlive =>
    split
    · next x hslot =>
      have hinstall : s.modifyBackend v.backend (fun y => y.install v.slot v.tunnel) =
          { s with fleet := s.fleet.modifySlot v.backend v.slot fun _ => ⟨some v.tunnel, false⟩ } := by
        rw [modifyBackend, Fleet.modifyBackend_install]
      have hset := s.traffic_modifySlot v.backend v.slot (fun _ => ⟨some v.tunnel, false⟩)
        (x.tunnel.toList.map .close ++ rest)
      have hmove := Traffic.Move.installs (s.traffic rest) v (by rw [slot?_traffic]; exact hslot)
        ((s.live_traffic rest _).2 (Bool.eq_false_iff.2 hlive))
      rw [hinstall]
      cases ht : x.tunnel with
      | none =>
          rw [ht] at hset hmove
          exact hset ▸ hmove
      | some t =>
          rw [ht] at hset hmove
          exact hset ▸ hmove
    · next hnone => exact hrefuses fun _ => hnone

theorem traffic_empties (b n : Nat) :
    s.traffic ((List.range n).map (.empty b) ++ rest) =
      { s.traffic rest with
        empties := ((List.range n).map fun i => (b, i) : Multiset (Nat × Nat)) +
          (s.traffic rest).empties } := by
  generalize List.range n = slots
  induction slots with
  | nil => rfl
  | cons i slots ih =>
      have hcons : s.traffic (.empty b i :: (slots.map (Task.empty b) ++ rest)) =
          { s.traffic (slots.map (.empty b) ++ rest) with
            empties := (b, i) ::ₘ (s.traffic (slots.map (.empty b) ++ rest)).empties } := rfl
      rw [List.map_cons, List.cons_append, hcons, ih]
      rfl

theorem remove_move {most : Nat} (h : s.roster.Sound most) (a : String) :
    (s.traffic (.remove a :: rest)).Move (s.trafficAfter rest (.remove a)) := by
  rw [trafficAfter]
  cases hb : s.tracked? a with
  | none =>
      rw [perform_remove_none s hb]
      exact .same (s.traffic rest)
  | some b =>
      obtain ⟨hlive, -⟩ := (tracked_iff h a b).1 hb
      rw [(perform_remove s hb).2, traffic_empties]
      cases hx : s.fleet.backend? b with
      | none => simp [isRetired, hx] at hlive
      | some x =>
          have hretired : x.retired = false := by simpa [isRetired, hx] using hlive
          have hmove := Traffic.Move.strikes (s.traffic rest) (b := b) (x := x.stand)
            (by rw [instance_traffic, hx]; rfl) hretired
          have hinstances : (s.perform (.remove a)).1.fleet.backends.toList.map Backend.stand =
              (s.fleet.backends.toList.map Backend.stand).modify b fun y =>
                { y with retired := true } := by
            simp only [perform, hb]
            apply List.ext_getElem?
            intro c
            simp only [strike, withdraw, modifyBackend, setOngoingGauge, Fleet.setGauge,
              Fleet.modifyBackend, List.getElem?_map, Array.getElem?_toList, Array.getElem?_modify,
              List.getElem?_modify]
            cases s.fleet.backends[c]? with
            | none => simp
            | some y =>
                by_cases hc : b = c
                · simp [hc, Backend.stand]
                · simp [hc]
          have hretire : { (s.perform (.remove a)).1.traffic rest with
              empties := ((List.range x.slots.length).map fun i => (b, i) : Multiset (Nat × Nat)) +
                ((s.perform (.remove a)).1.traffic rest).empties } =
              (s.traffic rest).retire b x.slots.length := by
            ext1
            · exact hinstances
            all_goals simp only [perform, hb]; rfl
          exact hretire ▸ hmove

/-- Sessions that were just asked for look for a tunnel, and have none. -/
theorem filterMap_newSessions (b first : Nat) (slots : List Nat) :
    (newSessions b first slots).filterMap Session.seeks? = slots.map (fun i => (b, i)) ∧
      (newSessions b first slots).filterMap Session.handover? = [] := by
  induction slots generalizing first with
  | nil => exact ⟨rfl, rfl⟩
  | cons i slots ih =>
      obtain ⟨hseeks, hhandovers⟩ := ih (first + 1)
      exact ⟨congrArg _ hseeks, hhandovers⟩

/-- A new instance comes with a session for each of its slots. -/
theorem traffic_withBackend (a : String) (count : Nat) :
    ({ s.withBackend a with
      sessions := s.sessions ++ newSessions s.fleet.backends.size s.sessionCount
        (List.range s.settings.tunnelCount)
      sessionCount := count }).traffic rest = (s.traffic rest).add s.settings.tunnelCount := by
  obtain ⟨hseeks, hhandovers⟩ := filterMap_newSessions s.fleet.backends.size s.sessionCount
    (List.range s.settings.tunnelCount)
  have hlength : (s.traffic rest).instances.length = s.fleet.backends.size := by
    rw [traffic, List.length_map, Array.length_toList]
  ext1
  · simp only [traffic, Traffic.add, withBackend, Fleet.addBackend, Array.toList_push,
      List.map_append, List.map_singleton]
    rfl
  · rfl
  · rw [Traffic.add, hlength]
    refine Multiset.coe_eq_coe.2 ?_
    rw [List.filterMap_append, hseeks]
    exact List.perm_append_comm
  · refine Multiset.coe_eq_coe.2 (List.Perm.of_eq ?_)
    rw [List.filterMap_append, hhandovers, List.append_nil]
    rfl
  all_goals rfl

theorem arrive_move (a : String) :
    (s.traffic (.arrive a :: rest)).Move (s.trafficAfter rest (.arrive a)) := by
  have hadds := Traffic.Move.adds (s.traffic rest) s.settings.tunnelCount
  rw [trafficAfter]
  obtain ⟨-, heq⟩ | ⟨-, hnone, heq⟩ | ⟨-, -, heq⟩ := s.perform_arrive_cases a
  · rw [heq]
    exact .same (s.traffic rest)
  · rw [heq]
    rw [← s.traffic_withBackend rest a s.sessionCount, hnone] at hadds
    have hnew : ({ s.withBackend a with sessions := s.sessions ++ [] }).traffic rest =
        (s.withBackend a).traffic rest := by
      rw [List.append_nil]
      rfl
    exact hnew ▸ hadds
  · rw [heq]
    rw [← s.traffic_withBackend rest a (s.sessionCount + s.settings.tunnelCount)] at hadds
    exact hadds

/-- A task is a step of the traffic. -/
theorem perform_move {most : Nat} (h : s.roster.Sound most) (task : Task)
    (hlive : ∀ b, task.live? = some b → s.isRetired b = false)
    (hdead : ∀ b i, task = .empty b i → s.isRetired b = true) :
    (s.traffic (task :: rest)).Move (s.trafficAfter rest task) := by
  by_cases hmoves : task.movesTunnels = false
  · rw [trafficAfter, traffic_perform_of_quiet s hmoves]
    exact .same _
  cases task with
  | inspect b i => exact s.inspect_move rest b i
  | weigh b i t => exact s.weigh_move rest i t (hlive b rfl)
  | mark b i => exact s.mark_move rest i (hlive b rfl)
  | failure f => exact s.failure_move rest h f
  | close t => exact s.close_move rest t
  | empty b i => exact s.empty_move rest b i (hdead b i rfl)
  | handover v => exact s.handover_move rest h v
  | remove a => exact s.remove_move rest h a
  | arrive a => exact s.arrive_move rest a
  | _ => exact absurd rfl hmoves

end Tasks

end Scheduler

end StreamBalancer
