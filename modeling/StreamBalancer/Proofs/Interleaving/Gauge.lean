import StreamBalancer.Proofs.Interleaving.Eligible
import StreamBalancer.Proofs.Interleaving.Load

/-!
# StreamBalancer.Proofs.Interleaving.Gauge

What the gauge of an address shows.

1. The gauge is set when a forward is started and when its report is handled, to the load
   of the instance that the forward was dispatched to, and to zero when the instance that
   is known under the address is given up (`Scheduler.gauge_perform`).
2. A report may come late, when its instance was given up and another one is known under
   the address.  So the gauge shows the load of the instance for which it was last set
   (`World.lastShown`), and that need not be the instance that is known
   (`Life.gauge_astray`).
3. If it was last set for the instance that is known, or was not set since an instance
   was given up, it shows the load of the one that is known (`Life.gauge_shown`).
-/

namespace StreamBalancer

namespace Scheduler

/-! ## Tasks -/

/-- The gauge of an address. -/
def gauge (s : Scheduler) (a : String) : Nat := s.fleet.metrics.value (.ongoing a)

/-- The instance whose load a task shows under an address; a removal shows that there is
none. -/
def Task.shows (s : Scheduler) (a : String) : Task → Option (Option Nat)
  | .start _ b => if s.address b = a then some (some b) else none
  | .finished f => if s.address f.backend = a then some (some f.backend) else none
  | .remove k => if k = a ∧ (s.tracked? a).isSome then some none else none
  | _ => none

/-- Only a removal shows that there is no instance. -/
theorem Task.shows_none {s : Scheduler} {a : String} {task : Task}
    (h : task.shows s a = some none) : task = .remove a := by
  cases task with
  | remove k =>
      simp only [shows, Option.ite_none_right_eq_some] at h
      rw [h.1.1]
  | start | finished => simp [shows] at h
  | _ => contradiction

/-- Starts and reports show the load of their instance under its address. -/
theorem Task.shows_some {s : Scheduler} {a : String} {task : Task} {b : Nat}
    (h : task.shows s a = some (some b)) : task.owes? = some b ∧ s.address b = a := by
  cases task with
  | start r c =>
      simp only [shows, Option.ite_none_right_eq_some, Option.some.injEq] at h
      obtain ⟨ha, rfl⟩ := h
      exact ⟨rfl, ha⟩
  | finished f =>
      simp only [shows, Option.ite_none_right_eq_some, Option.some.injEq] at h
      obtain ⟨ha, rfl⟩ := h
      exact ⟨rfl, ha⟩
  | remove => simp [shows] at h
  | _ => contradiction

theorem gauge_setOngoingGauge (s : Scheduler) (k : String) (n : Nat) (a : String) :
    (s.setOngoingGauge k n).gauge a = if k = a then n else s.gauge a := by
  refine (Metrics.value_set _ _ _ _).trans ?_
  simp only [Series.ongoing.injEq, eq_comm (a := a)]
  rfl

/-- Whoever keeps the series that show loads keeps the gauge. -/
theorem gauge_of_kept {s t : Scheduler} (h : t.kept Series.isOngoing = s.kept Series.isOngoing)
    (a : String) : t.gauge a = s.gauge a :=
  congrFun (congrArg Prod.snd h) (.ongoing a)

theorem gauge_count (s : Scheduler) {x : Series} (hx : x.isOngoing = false) (a : String) :
    (s.count x).gauge a = s.gauge a :=
  gauge_of_kept (s.kept_count hx) a

theorem Work.gauge_eq {s t : Scheduler} (hstopped : s.stopped = false) (h : s.Work t) (a : String) :
    t.gauge a = s.gauge a :=
  gauge_of_kept (h.kept_eq (by intro x hx; cases x <;> first | rfl | contradiction) hstopped) a

/-- **A task sets the gauge of an address to what it shows**, and leaves it alone if it
shows nothing there. -/
theorem gauge_perform {s : Scheduler} {most : Nat} (h : s.roster.Sound most) (task : Task)
    (a : String) :
    (s.perform task).1.gauge a =
      match task.shows s a with
      | none => s.gauge a
      | some none => 0
      | some (some b) => (s.perform task).1.ongoing b := by
  cases task with
  | dispatch r =>
      obtain heq | ⟨b, pool, -, -, -, ⟨-, heq⟩ | ⟨-, heq⟩⟩ := perform_dispatch_cases h r
      · rw [heq]
        rfl
      · rw [heq]
        exact ({ s with pool }).gauge_count (x := .rejected) rfl a
      · rw [heq]
        rfl
  | start r b =>
      refine (s.gauge_setOngoingGauge (s.address b) (s.ongoing b) a).trans ?_
      simp only [Task.shows]
      split <;> rfl
  | finished f =>
      obtain ⟨b, outcome⟩ := f
      let t := (s.modifyBackend b Backend.finish).count (.requests outcome.verdict)
      have haddress : t.address b = s.address b := by
        have hroster : t.roster = s.roster := roster_modifyBackend s b _ fun _ => rfl
        rw [address_eq, address_eq, hroster]
      have hshown : (t.showOngoing b).gauge a =
          if s.address b = a then t.ongoing b else s.gauge a := by
        rw [showOngoing, gauge_setOngoingGauge, haddress,
          gauge_count (s.modifyBackend b Backend.finish) (x := .requests outcome.verdict) rfl]
        rfl
      have hkept : (s.perform (.finished ⟨b, outcome⟩)).1.gauge a = (t.showOngoing b).gauge a ∧
          (s.perform (.finished ⟨b, outcome⟩)).1.ongoing b = t.ongoing b := by
        cases outcome with
        | completed | failed => exact ⟨rfl, rfl⟩
        | dialFailed r =>
            exact ⟨gauge_count ((t.showOngoing b).withdraw b) (x := .rescheduled) rfl a, rfl⟩
      rw [hkept.1, hshown, ← hkept.2]
      simp only [Task.shows]
      split <;> rfl
  | remove k =>
      cases hb : s.tracked? k with
      | none =>
          have hnone : ¬(k = a ∧ (s.tracked? a).isSome = true) := by
            rintro ⟨rfl, hsome⟩
            rw [hb] at hsome
            contradiction
          rw [perform_remove_none s hb, Task.shows, if_neg hnone]
      | some b =>
          have hset : (s.perform (.remove k)).1.gauge a = if k = a then 0 else s.gauge a := by
            simp only [perform, hb]
            exact (s.withdraw b).gauge_setOngoingGauge k 0 a
          rw [hset]
          by_cases hk : k = a
          · subst hk
            simp [Task.shows, hb]
          · simp [Task.shows, hk]
  | _ =>
      refine gauge_of_kept (kept_perform s (fun x hx => ?_) (by simp)) a
      cases x <;> first | rfl | contradiction

/-- What is known of instances stays: they keep their addresses, and none that was given up
comes back. -/
structure Survives (s t : Scheduler) : Prop where
  size : s.fleet.backends.size ≤ t.fleet.backends.size
  address : ∀ b < s.fleet.backends.size, t.address b = s.address b
  retired : ∀ b < s.fleet.backends.size, t.isRetired b = false → s.isRetired b = false

theorem survives_of_roster_eq {s t : Scheduler} (h : t.roster = s.roster) : s.Survives t where
  size := by rw [← length_identities, ← length_identities, h]
  address b _ := by rw [address_eq, address_eq, h]
  retired b _ := by
    rw [isRetired_eq, isRetired_eq, h]
    exact id

theorem survives_perform {s : Scheduler} {most : Nat} (h : s.roster.Sound most) (task : Task) :
    s.Survives (s.perform task).1 := by
  obtain heq | ⟨a, c, -, -, heq⟩ | ⟨a, -, heq⟩ := identities_perform h task
  · constructor
    · rw [← length_identities, ← length_identities, heq]
    · intro b _
      rw [address_eq, address_eq, heq]
    · intro b _
      rw [isRetired_eq, isRetired_eq, heq]
      exact id
  · constructor
    · rw [← length_identities, ← length_identities, heq, List.length_modify]
    · intro b _
      rw [address_eq, address_eq, heq, Roster.getElem?_retire]
      split
      · rw [Option.map_map]
        rfl
      · rfl
    · intro b _
      rw [isRetired_eq, isRetired_eq, heq, Roster.getElem?_retire]
      split
      · cases s.roster.identities[b]? <;> simp
      · exact id
  · have hold : ∀ b < s.fleet.backends.size,
        (s.perform task).1.roster.identities[b]? = s.roster.identities[b]? := by
      intro b hb
      rw [heq, List.getElem?_append_left (s.length_identities ▸ hb)]
    constructor
    · rw [← length_identities, ← length_identities, heq, List.length_append]
      exact Nat.le_add_right _ _
    · intro b hb
      rw [address_eq, address_eq, hold b hb]
    · intro b hb
      rw [isRetired_eq, isRetired_eq, hold b hb]
      exact id

/-- An instance that was not created has no load. -/
theorem ongoing_of_size_le {s : Scheduler} {b : Nat} (h : s.fleet.backends.size ≤ b) :
    s.ongoing b = 0 := by
  rw [ongoing, Fleet.backend?, Array.getElem?_eq_none h]
  rfl

/-! ## What is shown -/

/-- A forward to an instance is about to be started. -/
def Starting (tasks : List Task) (b : Nat) : Prop := ∃ r, Task.start r b ∈ tasks

/-- The gauge of an address shows the load of an instance, or of none, unless a forward is
about to be started. -/
structure Shows (s : Scheduler) (tasks : List Task) (a : String) (last : Option Nat) : Prop where
  /-- Nothing was shown for the instance that is known. -/
  nothing : last = none → s.gauge a = 0 ∧
    ∀ b, s.isRetired b = false → s.address b = a → s.ongoing b = 0 ∨ Starting tasks b
  /-- The instance was created with this address. -/
  load : ∀ b, last = some b → b < s.fleet.backends.size ∧ s.address b = a ∧
    (s.gauge a = s.ongoing b ∨ Starting tasks b)

/-- What is shown stays as long as gauge and loads do. -/
theorem Shows.survives {s t : Scheduler} {tasks tasks' : List Task} {a : String} {last : Option Nat}
    (h : s.Shows tasks a last) (hsurvives : s.Survives t) (hgauge : t.gauge a = s.gauge a)
    (hload : ∀ b, t.address b = a → t.ongoing b = s.ongoing b ∨ Starting tasks' b)
    (hstarting : ∀ b, t.address b = a → Starting tasks b → Starting tasks' b) :
    t.Shows tasks' a last where
  nothing hlast := by
    obtain ⟨hzero, hnone⟩ := h.nothing hlast
    refine ⟨hgauge.trans hzero, fun b hb ha => ?_⟩
    obtain hsame | hstart := hload b ha
    · rw [hsame]
      by_cases hnew : b < s.fleet.backends.size
      · have haddress := hsurvives.address b hnew
        exact (hnone b (hsurvives.retired b hnew hb) (haddress ▸ ha)).imp_right (hstarting b ha)
      · exact .inl (ongoing_of_size_le (Nat.le_of_not_lt hnew))
    · exact .inr hstart
  load b hlast := by
    obtain ⟨hold, haddress, hshown⟩ := h.load b hlast
    have ha : t.address b = a := (hsurvives.address b hold).trans haddress
    refine ⟨Nat.lt_of_lt_of_le hold hsurvives.size, ha, ?_⟩
    obtain hsame | hstart := hload b ha
    · rw [hgauge, hsame]
      exact hshown.imp_right (hstarting b ha)
    · exact .inr hstart

/-- The load of an instance changes with its dispatches, which are followed by starts, and
with its reports. -/
theorem load_perform {s : Scheduler} {most : Nat} (h : s.roster.Sound most) (task : Task)
    (b : Nat) : (s.perform task).1.ongoing b = s.ongoing b ∨
      Starting (s.perform task).2 b ∨ ∃ f, task = .finished f ∧ f.backend = b := by
  by_cases hkeeps : task.keepsLoads = true
  · exact .inl (ongoing_perform s hkeeps b)
  cases task with
  | dispatch r =>
      obtain heq | ⟨c, pool, hc, -, -, ⟨-, heq⟩ | ⟨-, heq⟩⟩ := perform_dispatch_cases h r
      · exact .inl (by rw [heq]; rfl)
      · exact .inl (by rw [heq]; rfl)
      · rw [heq]
        dsimp only
        rw [ongoing_begin h hc]
        split
        · next hb => exact .inr (.inl ⟨r, by simp [hb]⟩)
        · exact .inl rfl
  | finished f =>
      by_cases hb : f.backend = b
      · exact .inr (.inr ⟨f, rfl, hb⟩)
      · left
        have hfinish := ongoing_finish s f.backend b
        rw [if_neg (Ne.symm hb)] at hfinish
        obtain ⟨c, outcome⟩ := f
        cases outcome <;> exact hfinish
  | _ => exact absurd rfl hkeeps

end Scheduler

namespace World

open Scheduler

/-- The task that is done. -/
def done? (w w' : World) : Option Task := if w'.tasks = w.tasks then none else w.tasks.head?

/-- The instance for which the gauge of an address was last set, since an instance of the
address was given up. -/
def lastShown (a : String) (h : List World) : Option Nat :=
  ((gather (fun w w' => (w.done? w').bind (Task.shows w.scheduler a)) h).getLast?).join

variable {w w' : World} {past : List World}

theorem lastShown_cons (a : String) (w' w : World) (past : List World) :
    lastShown a (w' :: w :: past) =
      ((w.done? w').bind (Task.shows w.scheduler a)).getD (lastShown a (w :: past)) := by
  rw [lastShown, gather_cons, List.getLast?_append, lastShown]
  cases (w.done? w').bind (Task.shows w.scheduler a) <;> rfl

/-- Nothing is shown by those who leave the tasks at hand alone, or find none. -/
theorem lastShown_of_rest (h : w'.tasks = w.tasks ∨ w.tasks = []) (a : String) :
    lastShown a (w' :: w :: past) = lastShown a (w :: past) := by
  have hnone : w.done? w' = none := by
    unfold done?
    split
    · rfl
    · next hne =>
      rw [h.resolve_left hne]
      rfl
  rw [lastShown_cons, hnone]
  rfl

/-- A task that shows something does not lead to itself. -/
theorem lastShown_perform {x : Task} {rest : List Task} (htasks : w.tasks = x :: rest) (a : String) :
    lastShown a ({ w with
        scheduler := (w.scheduler.perform x).1
        tasks := (w.scheduler.perform x).2 ++ rest } :: w :: past) =
      (x.shows w.scheduler a).getD (lastShown a (w :: past)) := by
  rw [lastShown_cons, done?]
  split
  · next hsame =>
    have hmem : x ∈ (w.scheduler.perform x).2 := by
      rw [htasks] at hsame
      have hself : (w.scheduler.perform x).2 = [x] := List.append_cancel_right hsame
      rw [hself]
      exact List.mem_singleton_self x
    have hnone : x.shows w.scheduler a = none := by
      cases x with
      | start => contradiction
      | finished f =>
          obtain ⟨b, outcome⟩ := f
          cases outcome <;> simp [perform] at hmem
      | remove k =>
          cases hk : w.scheduler.tracked? k with
          | none =>
              rw [perform_remove_none _ hk] at hmem
              contradiction
          | some b =>
              rw [(perform_remove _ hk).2] at hmem
              obtain ⟨_, -, hempty⟩ := List.mem_map.1 hmem
              contradiction
      | _ => rfl
    rw [hnone]
    rfl
  · rw [htasks]
    rfl

/-! ## Steps -/

/-- What a task shows was created, if it is a start or a report. -/
theorem shows_perform (hsound : w.Sound) {x : Task} {rest : List Task} (htasks : w.tasks = x :: rest)
    (hcreated : ∀ b, x.owes? = some b → b < w.scheduler.fleet.backends.size) {a : String}
    {last : Option Nat} (h : w.scheduler.Shows w.tasks a last) :
    (w.scheduler.perform x).1.Shows ((w.scheduler.perform x).2 ++ rest) a
      ((x.shows w.scheduler a).getD last) := by
  have hgauge := gauge_perform hsound.roster x a
  have hsurvives := survives_perform hsound.roster x
  cases hshows : x.shows w.scheduler a with
  | none =>
      rw [hshows] at hgauge
      refine h.survives hsurvives hgauge (fun b hb => ?_) fun b hb hstart => ?_
      · obtain hsame | ⟨r, hr⟩ | ⟨f, rfl, rfl⟩ := load_perform hsound.roster x b
        · exact .inl hsame
        · exact .inr ⟨r, List.mem_append_left _ hr⟩
        · -- the report would show the load
          have haddress := hsurvives.address _ (hcreated _ rfl)
          rw [Task.shows, if_pos (haddress ▸ hb)] at hshows
          contradiction
      · obtain ⟨r, hr⟩ := hstart
        rw [htasks] at hr
        obtain rfl | hrest := List.mem_cons.1 hr
        · have haddress := hsurvives.address _ (hcreated _ rfl)
          rw [Task.shows, if_pos (haddress ▸ hb)] at hshows
          contradiction
        · exact ⟨r, List.mem_append_right _ hrest⟩
  | some shown =>
      rw [hshows] at hgauge
      cases shown with
      | none =>
          obtain rfl := Task.shows_none hshows
          refine ⟨fun _ => ⟨hgauge, fun b hb ha => ?_⟩, fun b hb => by contradiction⟩
          -- the address is known no longer
          have htracked := (tracked_iff (hsound.roster_perform htasks) a b).2 ⟨hb, ha⟩
          rw [tracked?_perform_remove hsound.roster] at htracked
          contradiction
      | some b =>
          obtain ⟨howes, haddress⟩ := Task.shows_some hshows
          refine ⟨fun hlast => by contradiction, fun c hc => ?_⟩
          obtain rfl : b = c := Option.some.inj hc
          have hold := hcreated b howes
          exact ⟨Nat.lt_of_lt_of_le hold hsurvives.size, (hsurvives.address b hold).trans haddress,
            .inl hgauge⟩

/-- What is shown stays when somebody else acts, or the scheduler turns to a message. -/
theorem shows_of_rest {a : String} (h : w.scheduler.Shows w.tasks a (lastShown a (w :: past)))
    (htasks : w'.tasks = w.tasks ∨ w.tasks = [])
    (hroster : w'.scheduler.roster = w.scheduler.roster)
    (hgauge : w'.scheduler.gauge a = w.scheduler.gauge a)
    (hload : ∀ b, w'.scheduler.ongoing b = w.scheduler.ongoing b) :
    w'.scheduler.Shows w'.tasks a (lastShown a (w' :: w :: past)) := by
  rw [lastShown_of_rest htasks]
  refine h.survives (survives_of_roster_eq hroster) hgauge (fun b _ => .inl (hload b)) ?_
  rintro b - ⟨r, hr⟩
  obtain hsame | hnil := htasks
  · exact ⟨r, hsame.symm ▸ hr⟩
  · rw [hnil] at hr
    contradiction

end World

namespace Life

open Scheduler World

variable {settings : Settings} {permits : Nat} {w : World} {past : List World}

/-- The instances of forwards that are about to be started, and of reports, were created. -/
theorem created_of_owes (life : Life settings permits (w :: past)) {x : Task} (hx : x ∈ w.tasks)
    {b : Nat} (hb : x.owes? = some b) : b < w.scheduler.fleet.backends.size := by
  cases x with
  | start r c =>
      obtain rfl : c = b := Option.some.inj hb
      have hcarried : (r, c) ∈ w.books.carried :=
        List.mem_append_right _ (List.mem_filterMap.2 ⟨_, hx, rfl⟩)
      exact (life.opened_of_assigns (life.traced.carried _ hcarried)).1
  | finished f =>
      obtain rfl : f.backend = b := Option.some.inj hb
      have hended : f ∈ w.books.ended := List.mem_filterMap.2 ⟨_, hx, rfl⟩
      obtain ⟨r, hr⟩ := life.traced.reported f (List.mem_append_right _ hended)
      exact (life.opened_of_assigns hr).1
  | _ => contradiction

/-- At every moment the gauge of an address shows the load of the instance for which it was
last set, unless a forward is about to be started. -/
theorem shows (life : Life settings permits (w :: past)) (a : String) :
    w.scheduler.Shows w.tasks a (lastShown a (w :: past)) := by
  induction life using Life.induct with
  | initial =>
      exact ⟨fun _ => ⟨rfl, fun _ _ _ => .inl rfl⟩, fun b hb => by contradiction⟩
  | signalled _ ih => exact shows_of_rest ih (.inl rfl) rfl rfl fun _ => rfl
  | @kept w w' past life step ih =>
      cases step with
      | @perform x rest htasks =>
          rw [lastShown_perform htasks]
          exact shows_perform life.sound htasks
            (fun b => life.created_of_owes (htasks ▸ List.mem_cons_self)) ih
      | receive htasks hreceives =>
          exact shows_of_rest ih (.inr htasks) hreceives.roster_eq (by cases hreceives <;> rfl)
            fun b => by cases hreceives <;> rfl
      | query htasks => exact shows_of_rest ih (.inr htasks) rfl rfl fun _ => rfl
      | arrive _ haccept =>
          obtain rfl := accept?_eq haccept
          exact shows_of_rest ih (.inl rfl) rfl rfl fun _ => rfl
      | work hwork =>
          exact shows_of_rest ih (.inl rfl) hwork.roster_eq (hwork.gauge_eq life.steady.2 a)
            hwork.ongoing_eq

/-- **What a gauge shows between two messages.**  Let an instance be known under an address.

* The gauge of the address is the load of the instance for which it was last set.
* It is the load of the instance that is known, if it was last set for that one, or was not
  set since an instance of the address was given up.
* Otherwise it was set for an instance of the same address that was given up. -/
theorem gauge_shown (life : Life settings permits (w :: past)) (hrest : w.tasks = []) {a : String}
    {b : Nat} (hb : w.scheduler.tracked? a = some b) :
    w.scheduler.gauge a = ((lastShown a (w :: past)).map w.scheduler.ongoing).getD 0 ∧
    ((∀ c, lastShown a (w :: past) = some c → c = b) →
      w.scheduler.gauge a = w.scheduler.ongoing b) ∧
    ∀ c, lastShown a (w :: past) = some c → c ≠ b →
      w.scheduler.isRetired c = true ∧ w.scheduler.address c = a := by
  obtain ⟨hnothing, hload⟩ := life.shows a
  obtain ⟨hlive, haddress⟩ := (tracked_iff life.sound.roster a b).1 hb
  have hcalm : ∀ c, ¬ Starting w.tasks c := by
    rintro c ⟨r, hr⟩
    rw [hrest] at hr
    contradiction
  cases hlast : lastShown a (w :: past) with
  | none =>
      obtain ⟨hzero, hnone⟩ := hnothing hlast
      refine ⟨hzero, fun _ => ?_, fun c hc => by contradiction⟩
      rw [hzero, (hnone b hlive haddress).resolve_right (hcalm b)]
  | some c =>
      obtain ⟨-, hc, hshown⟩ := hload c hlast
      have hgauge := hshown.resolve_right (hcalm c)
      refine ⟨hgauge, fun hsame => ?_, fun d hd hne => ?_⟩
      · rw [hgauge, hsame c rfl]
      · obtain rfl : c = d := Option.some.inj hd
        refine ⟨?_, hc⟩
        -- only one instance of an address is not given up
        by_contra hretired
        have hc' := (tracked_iff life.sound.roster a c).2 ⟨by simpa using hretired, hc⟩
        rw [hb] at hc'
        exact hne (Option.some.inj hc').symm

/-- An address goes and comes while a forward is under way.  A request is dispatched to the
new instance, and then the forward of the old one ends. -/
theorem early_and_late :
    ∃ w past w' past',
      Life ⟨.leastLoaded, false, 8, 8, 0, ⟨0, 100⟩, default⟩ 8 (w :: past) ∧
      Life ⟨.leastLoaded, false, 8, 8, 0, ⟨0, 100⟩, default⟩ 8 (w' :: past') ∧
      (w.tasks = [] ∧ w.scheduler.tracked? "a" = some 2 ∧ w.scheduler.ongoing 0 = 1 ∧
        lastShown "a" (w :: past) = some 2 ∧ w.scheduler.ongoing 2 = 1) ∧
      w'.tasks = [] ∧ w'.scheduler.tracked? "a" = some 2 ∧ w'.scheduler.gauge "a" = 0 ∧
        w'.scheduler.ongoing 2 = 1 := by
  have begun := @Life.start ⟨.leastLoaded, false, 8, 8, 0, ⟨0, 100⟩, default⟩ 8
  -- an instance is created, and a request is dispatched to it
  have posted := begun.step (.work (.post (.ofHealthy ["a"])))
  have first := (posted.step
    (.receive rfl (.snapshot rfl) (.snapshot _ (by decide) .rfl .rfl (.inl rfl)))).settle 4
  have accepted := first.step (@Step.arrive _ 0 _ (by decide +kernel) (if_neg (by decide +kernel)))
  have carried := (accepted.step (.receive (by decide +kernel)
    (@Receives.request _ 0 [] (by decide +kernel)) (.request 0))).settle 9
  -- the address goes and comes
  have elsewhere := carried.step (.work (.post (.ofHealthy ["b"])))
  have gone := (elsewhere.step (.receive (by decide +kernel)
    (@Receives.snapshot _ (.ofHealthy ["b"]) [] (by decide +kernel))
    (.snapshot _ (by decide) .rfl .rfl (.inl rfl)))).settle 9
  have again := gone.step (.work (.post (.ofHealthy ["a"])))
  have back := (again.step (.receive (by decide +kernel)
    (@Receives.snapshot _ (.ofHealthy ["a"]) [] (by decide +kernel))
    (.snapshot _ (by decide) .rfl .rfl (.inl rfl)))).settle 9
  -- a request is dispatched to the new instance
  have asked := back.step (@Step.arrive _ 1 _ (by decide +kernel) (if_neg (by decide +kernel)))
  have served := (asked.step (.receive (by decide +kernel)
    (@Receives.request _ 1 [] (by decide +kernel)) (.request 1))).settle 9
  -- the forward of the old one ends
  let reach : ListenAddress → Bool := fun _ => true
  have found := ((served.step (step_forward reach 0 (by decide +kernel))).step
    (step_forward reach 0 (by decide +kernel))).step (step_forward reach 0 (by decide +kernel))
  have spliced := found.step (step_forward reach 0 (by decide +kernel))
  have ended := spliced.step (.work
    (@Work.spliced _ 0 ⟨0, 0, .splicing .direct⟩ .direct (some (0, 0)) (by decide +kernel) rfl))
  have reported := (ended.step (step_forward reach 0 (by decide +kernel))).step
    (step_forward reach 0 (by decide +kernel))
  have late := (reported.step (.receive (by decide +kernel)
    (@Receives.finished _ ⟨0, .completed⟩ [] (by decide +kernel)) (.finished _))).settle 9
  exact ⟨_, _, _, _, served, late, by decide +kernel, by decide +kernel⟩

/-- While the forward of the old instance is under way, the gauge shows the load of the new
one. -/
theorem gauge_shown_of_return :
    ∃ w past, Life ⟨.leastLoaded, false, 8, 8, 0, ⟨0, 100⟩, default⟩ 8 (w :: past) ∧
      w.tasks = [] ∧ w.scheduler.tracked? "a" = some 2 ∧ w.scheduler.ongoing 0 = 1 ∧
      w.scheduler.gauge "a" = w.scheduler.ongoing 2 ∧ w.scheduler.ongoing 2 = 1 := by
  obtain ⟨w, past, -, -, life, -, ⟨hrest, htracked, hold, hlast, hload⟩, -⟩ := early_and_late
  have hshown := (gauge_shown life hrest htracked).2.1 fun c hc => by
    rw [hlast] at hc
    exact (Option.some.inj hc).symm
  exact ⟨w, past, life, hrest, htracked, hold, hshown, hload⟩

/-- **A gauge may be wrong**: a late report for an instance that was given up sets it to the
load of that instance, though another one is known under the address. -/
theorem gauge_astray :
    ¬ ∀ (settings : Settings) (permits : Nat) (w : World) (past : List World) (a : String) (b : Nat),
      Life settings permits (w :: past) → w.tasks = [] → w.scheduler.tracked? a = some b →
        w.scheduler.gauge a = w.scheduler.ongoing b := by
  intro h
  obtain ⟨-, -, w, past, -, life, -, hrest, htracked, hgauge, hload⟩ := early_and_late
  have heq := h _ _ w past "a" 2 life hrest htracked
  rw [hgauge, hload] at heq
  contradiction

end Life

end StreamBalancer
