import StreamBalancer.Proofs.Interleaving.Transit
import StreamBalancer.Proofs.Traffic.Journey

/-!
# StreamBalancer.Proofs.Interleaving.Ownership

Each tunnel has one owner and is closed at most once (`Run.one_owner`).

1. Histories add up: a tunnel is put into a slot at most once, so it is taken out at
   most once, by a forward or by the scheduler (`Run.installed_add_bearers`,
   `Run.seats_add_displaced`).
2. A forward that is told that a tunnel broke evicts it if it is still where the
   forward found it; else it was taken out before (`Run.evicted_of_break`).
3. Once the slots of an instance that was given up are emptied, they stay empty
   (`Run.emptied_later`).
-/

namespace StreamBalancer

namespace World

open Scheduler

/-! ## The journey of a tunnel -/

/-- How often a step puts a tunnel into a slot. -/
def installed (t : Nat) (w w' : World) : Nat := Traffic.installed t w.traffic w'.traffic

/-- How often a step takes a tunnel out of its slot. -/
def displaced (t : Nat) (w w' : World) : Nat := Traffic.displaced t w.traffic w'.traffic

/-- How many forwards take a tunnel out of its slot in a step. -/
def evicted (t : Nat) (w w' : World) : Nat := Traffic.evicted t w.traffic w'.traffic

/-- How many reports of a tunnel a step sends. -/
def reported (t : Nat) (w w' : World) : Nat := Traffic.reported t w.traffic w'.traffic

/-- How often a tunnel was closed. -/
def closesOf (w : World) (t : Nat) : Nat :=
  ((w.scheduler.fleet.tunnels[t]?).map Tunnel.closes).getD 0

theorem closesOf_traffic (w : World) (t : Nat) : w.traffic.closesOf t = w.closesOf t := by
  rw [Traffic.closesOf, traffic, Scheduler.traffic, List.getElem?_map, Array.getElem?_toList]
  rfl

theorem length_closes (w : World) : w.traffic.closes.length = w.scheduler.fleet.tunnels.size := by
  rw [traffic, Scheduler.traffic, List.length_map, Array.length_toList]

theorem empty_mem_of_place {tasks : List Task} {b i : Nat}
    (h : (b, i) ∈ tasks.filterMap Task.empty?) : .empty b i ∈ tasks := by
  obtain ⟨task, htask, hplace⟩ := List.mem_filterMap.1 h
  cases task with
  | empty c j =>
      obtain ⟨rfl, rfl⟩ := Prod.mk.inj (Option.some.inj hplace)
      exact htask
  | _ => contradiction

/-- An instance was given up and its slots were emptied. -/
def Emptied (w : World) (b : Nat) : Prop := w.scheduler.gaveUp b ∧ ∀ i, .empty b i ∉ w.tasks

theorem emptied_traffic {w : World} {b : Nat} (h : w.Emptied b) : w.traffic.Emptied b := by
  obtain ⟨⟨x, hx, hretired⟩, hempties⟩ := h
  rw [getElem?_identities] at hx
  obtain ⟨y, hy, rfl⟩ := Option.map_eq_some_iff.1 hx
  have hstand : w.traffic.instances[b]? = some y.stand := by
    rw [traffic, instance_traffic, hy]
    rfl
  exact ⟨⟨y.stand, hstand, hretired⟩, fun i hi => hempties i (empty_mem_of_place hi)⟩

/-! ## Who has a tunnel -/

/-- Who has a tunnel that was not closed. -/
inductive Held (w : World) (t : Nat) : Prop where
  /-- It is in a slot of a known instance. -/
  | slot {a : String} {b i : Nat} (htracked : w.scheduler.tracked? a = some b)
      (htunnel : w.scheduler.tunnelAt b i = some t)
  /-- A session has it. -/
  | session {x : Session} (hx : x ∈ w.scheduler.sessions) (htunnel : x.tunnel? = some t)
  /-- It was handed over. -/
  | queued {h : Handover} (hh : h ∈ w.scheduler.handovers) (htunnel : h.tunnel = t)
  /-- A forward has just taken it out and is about to close it. -/
  | taken {f : Forward} {x : Failure} (hf : f ∈ w.scheduler.forwards)
      (hstage : f.stage.taken? = some x) (htunnel : x.tunnel = t)
  /-- The scheduler is about to put it into its slot. -/
  | handled {h : Handover} (htask : .handover h ∈ w.tasks) (htunnel : h.tunnel = t)
  /-- The scheduler is about to close it. -/
  | closing (htask : .close t ∈ w.tasks)
  /-- The scheduler is about to take it out of a slot of an instance that was just
  given up. -/
  | emptying {b i : Nat} (htask : .empty b i ∈ w.tasks) (htunnel : w.scheduler.tunnelAt b i = some t)

theorem held_of_seat {most : Nat} {w : World} (hroster : w.scheduler.roster.Sound most)
    (howned : w.traffic.Owned) {t : Nat} (h : 0 < w.traffic.seats t) : w.Held t := by
  obtain ⟨b, i, ht⟩ := w.traffic.exists_of_seats_pos h
  have htunnel : w.scheduler.tunnelAt b i = some t := by
    rw [← tunnelAt_traffic w.scheduler w.tasks]
    exact ht
  by_cases hlive : w.traffic.Live b
  · have hretired := (live_traffic w.scheduler w.tasks b).1 hlive
    exact .slot ((tracked_iff hroster _ b).2 ⟨hretired, rfl⟩) htunnel
  · have hempties := howned.emptying b i hlive (by rw [ht]; rfl)
    exact .emptying (empty_mem_of_place hempties) htunnel

theorem held_of_bearer {w : World} {t : Nat} (h : 0 < w.traffic.bearers t) : w.Held t := by
  obtain ⟨x, hx, htunnel⟩ := Multiset.mem_map.1 (Multiset.count_pos.1 h)
  obtain hx | hx := List.mem_append.1 hx
  · obtain hx | hx := List.mem_append.1 hx
    · obtain ⟨task, htask, hhandover⟩ := List.mem_filterMap.1 hx
      cases task with
      | handover y =>
          obtain rfl := Option.some.inj hhandover
          exact .handled htask htunnel
      | _ => contradiction
    · exact .queued hx htunnel
  · obtain ⟨y, hy, hhandover⟩ := List.mem_filterMap.1 hx
    obtain ⟨c, hc, rfl⟩ := Option.map_eq_some_iff.1 hhandover
    exact .session hy (hc.trans (congrArg some htunnel))

theorem held_of_closer {w : World} {t : Nat} (h : 0 < w.traffic.closers t) : w.Held t := by
  rw [Traffic.closers] at h
  obtain hclosing | htaken := Nat.add_pos_iff_pos_or_pos.1 h
  · obtain ⟨task, htask, htunnel⟩ := List.mem_filterMap.1 (Multiset.count_pos.1 hclosing)
    cases task with
    | close c =>
        obtain rfl := Option.some.inj htunnel
        exact .closing htask
    | _ => contradiction
  · obtain ⟨x, hx, htunnel⟩ := Multiset.mem_map.1 (Multiset.count_pos.1 htaken)
    obtain ⟨f, hf, hstage⟩ := List.mem_filterMap.1 hx
    exact .taken hf hstage htunnel

/-! ## Visits -/

theorem ForwardMoves.visits {s s' : Scheduler} {f : Forward} (h : s.ForwardMoves f s')
    (hf : f ∈ s.forwards) :
    ∀ g ∈ s'.forwards, ∀ x, g.stage.visit? = some x →
      (∃ f ∈ s.forwards, f.stage.visit? = some x) ∨
        s'.tunnelAt x.1 x.2.slot = some x.2.tunnel := by
  intro g hg x hx
  cases h with
  | advances _ _ _ hvisits =>
      obtain hold | ⟨-, hnew⟩ := mem_setForward hg
      · exact .inl ⟨g, hold, hx⟩
      · exact (hvisits x (hnew ▸ hx)).imp_left fun hsame => ⟨f, hf, hsame⟩
  | releases =>
      obtain hold | ⟨-, hnew⟩ := mem_setForward hg
      · exact .inl ⟨g, hold, hx⟩
      · rw [hnew] at hx
        contradiction
  | reports =>
      rw [report_keeps forwards fun _ _ _ _ => rfl] at hg
      exact .inl ⟨g, (List.mem_filter.1 hg).1, hx⟩

variable {settings : Settings} {permits : Nat} {w w' : World} {past : List World}

/-- A forward that visits a slot did so before, or finds the tunnel there. -/
theorem Step.visits (run : Run settings permits (w :: past)) (h : w.Step w') :
    ∀ g ∈ w'.scheduler.forwards, ∀ x, g.stage.visit? = some x →
      (∃ f ∈ w.scheduler.forwards, f.stage.visit? = some x) ∨
        w'.scheduler.tunnelAt x.1 x.2.slot = some x.2.tunnel := by
  intro g hg x hx
  obtain hold | ⟨-, hstage⟩ | ⟨reach, hstep⟩ | ⟨outcome, -, hstage⟩ := h.forward_cases run.sound hg
  · exact .inl ⟨g, hold, hx⟩
  · rw [hstage] at hx
    contradiction
  · obtain ⟨f, hfind, hmoves⟩ := stepForward?_cases hstep
    exact ForwardMoves.visits hmoves (List.mem_of_find?_eq_some hfind) g hg x hx
  · rw [hstage] at hx
    contradiction

end World

namespace Run

open Scheduler World

variable {settings : Settings} {permits : Nat} {w : World} {past : List World}

/-! ## Histories -/

/-- A tunnel is put into a slot at most once, by its only bearer. -/
theorem installed_add_bearers (run : Run settings permits (w :: past)) (t : Nat) :
    total (installed t) (w :: past) + w.traffic.bearers t ≤
      if t < w.traffic.closes.length then 1 else 0 := by
  induction run using Run.induct with
  | initial => exact (Nat.zero_le _)
  | @kept w w' past run step ih =>
      obtain ⟨hinstalled, hlength⟩ := (step.move run).installed_add_bearers t
      simp only [total, installed]
      split_ifs at * <;> omega

theorem installed_le_one (run : Run settings permits (w :: past)) (t : Nat) :
    total (installed t) (w :: past) ≤ 1 := by
  have hbearers := run.installed_add_bearers t
  split at hbearers <;> omega

/-- A tunnel that was put into a slot is there, or was taken out. -/
theorem seats_add_displaced (run : Run settings permits (w :: past)) (t : Nat) :
    w.traffic.seats t + total (displaced t) (w :: past) = total (installed t) (w :: past) := by
  induction run using Run.induct with
  | initial => exact rfl
  | @kept w w' past run step ih =>
      have hseats := Traffic.seats_add_installed t w.traffic w'.traffic
      simp only [total, installed, displaced] at *
      omega

theorem displaced_le_one (run : Run settings permits (w :: past)) (t : Nat) :
    total (displaced t) (w :: past) ≤ 1 := by
  have hseats := run.seats_add_displaced t
  have hinstalled := run.installed_le_one t
  omega

/-- What a forward takes out of a slot is taken out. -/
theorem evicted_le_displaced (run : Run settings permits (w :: past)) (t : Nat) :
    total (evicted t) (w :: past) ≤ total (displaced t) (w :: past) :=
  run.total_le fun run step => (step.move run).evicted_le_displaced t

/-- A tunnel that a forward took out is to be closed, or to be reported, or was
reported. -/
theorem reported_eq (run : Run settings permits (w :: past)) (t : Nat) :
    w.traffic.takenOf t + w.traffic.owedOf t + total (reported t) (w :: past) =
      total (evicted t) (w :: past) := by
  induction run using Run.induct with
  | initial => exact rfl
  | @kept w w' past run step ih =>
      have hreported := (step.move run).reported_eq t
      simp only [total, reported, evicted] at *
      omega

theorem reported_le_closes (run : Run settings permits (w :: past)) (t : Nat) :
    w.traffic.owedOf t + total (reported t) (w :: past) ≤ w.closesOf t := by
  rw [← closesOf_traffic]
  induction run using Run.induct with
  | initial => exact (Nat.le_refl _)
  | @kept w w' past run step ih =>
      have hcloses := (step.move run).reported_le_closes run.owned t
      simp only [total, reported] at *
      omega

/-- A tunnel that a forward found in a slot and asks for a stream is still there, or
was taken out. -/
theorem visits (run : Run settings permits (w :: past)) :
    ∀ f ∈ w.scheduler.forwards, ∀ x, f.stage.visit? = some x →
      w.scheduler.tunnelAt x.1 x.2.slot = some x.2.tunnel ∨
        total (displaced x.2.tunnel) (w :: past) = 1 := by
  induction run using Run.induct with
  | initial => exact (fun _ h => absurd h List.not_mem_nil)
  | @kept w w' past run step ih =>
      intro g hg x hx
      have hmost := (run.step step).displaced_le_one x.2.tunnel
      obtain ⟨f, hf, hold⟩ | hthere := step.visits run g hg x hx
      · obtain hthere | hgone := ih f hf x hold
        · rw [← tunnelAt_traffic w.scheduler w.tasks] at hthere
          obtain hstays | hpos := (step.move run).stays run.owned hthere
          · left
            rw [← tunnelAt_traffic w'.scheduler w'.tasks]
            exact hstays
          · right
            simp only [total, displaced] at *
            omega
        · right
          simp only [total] at *
          omega
      · exact .inl hthere

/-- Slots that were emptied for good are empty ever after. -/
theorem emptied_later (run : Run settings permits (w :: past)) {b : Nat} {w₁ : World}
    (h₁ : w₁ ∈ w :: past) (hemptied : w₁.Emptied b) : w.traffic.Emptied b := by
  induction run using Run.induct with
  | initial =>
      obtain rfl := List.mem_singleton.1 h₁
      exact emptied_traffic hemptied
  | kept run step ih =>
      obtain rfl | h₁ := List.mem_cons.1 h₁
      · exact emptied_traffic hemptied
      · exact (ih h₁).moves (step.move run)

end Run

namespace World

open Scheduler

/-! ## Broken tunnels -/

/-- The forward of a request asks the tunnel that it found in a slot for a stream, and
the answer is that the tunnel broke. -/
def SeesBreak (w : World) (reach : ListenAddress → Bool) (r b : Nat) (v : Opening.Visit) : Prop :=
  ∃ f start held error tunnel, w.scheduler.forward? r = some f ∧
    f.stage = .opening ⟨b, start, .asking v held⟩ ∧
    Opening.ask reach w.scheduler.fleet v held = (some (.error error), tunnel) ∧
    error.breaksSession = true

variable {settings : Settings} {permits : Nat} {w : World} {past : List World}

/-- A forward evicts the tunnel if it is still where the forward found it, and then
it holds one tunnel more. -/
theorem evicted_eq_of_break (run : Run settings permits (w :: past)) {reach : ListenAddress → Bool}
    {r b : Nat} {v : Opening.Visit} (h : w.SeesBreak reach r b v) :
    ∃ s, w.scheduler.stepForward? reach r = some s ∧
      evicted v.tunnel w { w with scheduler := s } =
        if w.scheduler.tunnelAt b v.slot = some v.tunnel then 1 else 0 := by
  obtain ⟨f, start, held, error, tunnel, hfind, hstage, hask, hbreaks⟩ := h
  obtain ⟨front, back, hsplit, hchange, -⟩ := run.apart.split_forwards hfind
  have hstep : w.scheduler.stepForward? reach r = some (({ w.scheduler with
      fleet := (Opening.failed (w.scheduler.fleet.modifyTunnel v.tunnel fun _ => tunnel)
        ⟨b, start, .asking v held⟩ v error).2 }).setForward r
      (.opening (Opening.failed (w.scheduler.fleet.modifyTunnel v.tunnel fun _ => tunnel)
        ⟨b, start, .asking v held⟩ v error).1)) := by
    simp only [stepForward?, hfind, hstage, Opening.step?, hask, Option.map_some]
  refine ⟨_, hstep, ?_⟩
  -- what forwards hold before and after, the forward of the request told apart
  have hbefore : w.traffic.taken =
      ((front ++ back).filterMap fun g => g.stage.taken? : Multiset Failure) := by
    rw [traffic, traffic_forwards w.tasks hsplit, trafficWith, hstage]
    rfl
  have hafter : ∀ (g : Fleet) (stage : Forward.Stage),
      (World.traffic { w with scheduler := ({ w.scheduler with fleet := g }).setForward r stage }).taken =
        (stage.taken?.toList ++ (front ++ back).filterMap fun g => g.stage.taken? : List Failure) := by
    intro g stage
    have hset : (({ w.scheduler with fleet := g }).setForward r stage).forwards =
        front ++ { f with stage } :: back := hchange stage
    rw [traffic, traffic_forwards w.tasks hset]
    rfl
  rw [evicted, Traffic.evicted, Traffic.takenOf, Traffic.takenOf, hbefore, hafter]
  obtain ⟨-, htaken, -, -, hgone⟩ | ⟨hsearch, hslot, -⟩ :=
    Opening.failed_cases (w.scheduler.fleet.modifyTunnel v.tunnel fun _ => tunnel)
      ⟨b, start, .asking v held⟩ v error
  · have hnone : ¬w.scheduler.tunnelAt b v.slot = some v.tunnel := hgone hbreaks
    rw [if_neg hnone, Forward.Stage.taken?, htaken]
    exact Nat.sub_self _
  · have hthere : w.scheduler.tunnelAt b v.slot = some v.tunnel := hslot
    rw [if_pos hthere, hsearch]
    change ((⟨b, v.slot, v.tunnel⟩ ::ₘ ((front ++ back).filterMap fun g => g.stage.taken? :
      Multiset Failure)).map Failure.tunnel).count v.tunnel - _ = 1
    rw [Multiset.map_cons, Multiset.count_cons_self]
    exact Nat.add_sub_cancel_left _ 1

end World

namespace Run

open Scheduler World

variable {settings : Settings} {permits : Nat} {w : World} {past : List World}

/-- A forward that is told that a tunnel broke evicts it, unless somebody has taken it
out before. -/
theorem evicted_of_break (run : Run settings permits (w :: past)) {reach : ListenAddress → Bool}
    {r b : Nat} {v : Opening.Visit} (h : w.SeesBreak reach r b v) :
    ∃ s, w.scheduler.stepForward? reach r = some s ∧
      evicted v.tunnel w { w with scheduler := s } =
        1 - total (displaced v.tunnel) (w :: past) := by
  obtain ⟨s, hstep, hevicted⟩ := evicted_eq_of_break run h
  refine ⟨s, hstep, hevicted.trans ?_⟩
  obtain ⟨f, start, held, error, tunnel, hfind, hstage, -, -⟩ := h
  by_cases hthere : w.scheduler.tunnelAt b v.slot = some v.tunnel
  · rw [← tunnelAt_traffic w.scheduler w.tasks] at hthere
    have hseat : 0 < w.traffic.seats v.tunnel := Traffic.seats_pos _ hthere
    have hseats := run.seats_add_displaced v.tunnel
    have hmost := run.installed_le_one v.tunnel
    rw [tunnelAt_traffic] at hthere
    rw [if_pos hthere]
    omega
  · have hvisit : f.stage.visit? = some (b, v) := by
      rw [hstage]
      rfl
    have hgone := (run.visits f (List.mem_of_find?_eq_some hfind) (b, v) hvisit).resolve_left hthere
    rw [if_neg hthere, hgone]

/-- After that, exactly one party has taken it out. -/
theorem displaced_of_break (run : Run settings permits (w :: past)) {reach : ListenAddress → Bool}
    {r b : Nat} {v : Opening.Visit} (h : w.SeesBreak reach r b v) {s : Scheduler}
    (hstep : w.scheduler.stepForward? reach r = some s) :
    total (displaced v.tunnel) ({ w with scheduler := s } :: w :: past) = 1 := by
  have step : w.Step { w with scheduler := s } := .work (.forward reach hstep)
  have hmost := (run.step step).displaced_le_one v.tunnel
  have hle := (step.move run).evicted_le_displaced v.tunnel
  obtain ⟨s', hstep', hevicted⟩ := run.evicted_of_break h
  obtain rfl := Option.some.inj (hstep.symm.trans hstep')
  simp only [total, evicted, displaced] at *
  omega

/-! ## The whole -/

end Run

/-- What is true of tunnels at a moment of a history. -/
structure World.OneOwner (w : World) (past : List World) : Prop where
  /-- A tunnel is closed at most once, and has one owner as long as it is not. -/
  owner : ∀ t < w.scheduler.fleet.tunnels.size,
    w.traffic.seats t + w.traffic.bearers t + w.traffic.closers t + w.closesOf t = 1
  /-- Who has a tunnel that was not closed is known. -/
  held : ∀ t < w.scheduler.fleet.tunnels.size, w.closesOf t = 0 → w.Held t
  /-- No tunnel is put into a slot twice. -/
  installed_once : ∀ t, Run.total (World.installed t) (w :: past) ≤ 1
  /-- No tunnel is in two slots. -/
  one_slot : ∀ t b i c j, w.scheduler.tunnelAt b i = some t → w.scheduler.tunnelAt c j = some t →
    (b, i) = (c, j)
  /-- At most one forward takes a tunnel out. -/
  evicted_once : ∀ t, Run.total (World.evicted t) (w :: past) ≤ 1
  /-- It is yet to close it, or has closed it and is yet to report it, or has
  reported it. -/
  reported : ∀ t, w.traffic.takenOf t + w.traffic.owedOf t + Run.total (World.reported t) (w :: past) =
    Run.total (World.evicted t) (w :: past)
  /-- What it has closed counts as closed. -/
  closed : ∀ t, w.traffic.owedOf t + Run.total (World.reported t) (w :: past) ≤ w.closesOf t
  /-- A forward that is told that a tunnel broke takes it out, if nobody took it out
  before; either way exactly one party has taken it out. -/
  broken : ∀ reach r b v, w.SeesBreak reach r b v →
    ∃ s, w.scheduler.stepForward? reach r = some s ∧
      World.evicted v.tunnel w { w with scheduler := s } =
        1 - Run.total (World.displaced v.tunnel) (w :: past) ∧
      Run.total (World.displaced v.tunnel) ({ w with scheduler := s } :: w :: past) = 1
  /-- Once the slots of an instance that was given up are emptied, none of them holds a
  tunnel again. -/
  emptied : ∀ w₁ ∈ w :: past, ∀ b, w₁.Emptied b → ∀ i, w.scheduler.tunnelAt b i = none

namespace Run

open Scheduler World

variable {settings : Settings} {permits : Nat} {w : World} {past : List World}

/-- **Each tunnel has one owner and is closed at most once**, at every moment of every
history. -/
theorem one_owner (run : Run settings permits (w :: past)) : w.OneOwner past where
  owner t ht := by
    have honce := run.owned.once t
    rw [length_closes, if_pos ht, closesOf_traffic] at honce
    exact honce
  held t ht hopen := by
    have honce := run.owned.once t
    rw [length_closes, if_pos ht, closesOf_traffic, hopen] at honce
    have hsome : 0 < w.traffic.seats t ∨ 0 < w.traffic.bearers t ∨ 0 < w.traffic.closers t := by
      omega
    obtain hseat | hbearer | hcloser := hsome
    · exact held_of_seat run.sound.roster run.owned hseat
    · exact held_of_bearer hbearer
    · exact held_of_closer hcloser
  installed_once := run.installed_le_one
  one_slot t b i c j hb hc := by
    rw [← tunnelAt_traffic w.scheduler w.tasks] at hb hc
    by_contra hne
    have htwo : 1 < w.traffic.seats t := Traffic.one_lt_seats _ hb hc hne
    have honce := run.owned.once t
    split at honce <;> omega
  evicted_once t := Nat.le_trans (run.evicted_le_displaced t) (run.displaced_le_one t)
  reported := run.reported_eq
  closed := run.reported_le_closes
  broken reach r b v h := by
    obtain ⟨s, hstep, hevicted⟩ := run.evicted_of_break h
    exact ⟨s, hstep, hevicted, run.displaced_of_break h hstep⟩
  emptied w₁ h₁ b hemptied i := by
    rw [← tunnelAt_traffic w.scheduler w.tasks]
    exact (run.emptied_later h₁ hemptied).tunnelAt_eq_none run.owned i

/-- A history in which a forward was told that a tunnel broke: it took the tunnel out,
closed it and reported it. -/
theorem one_owner_of_break :
    ∃ w past, Run ⟨.leastLoaded, false, 1, 1, 1, ⟨0, 100⟩, default⟩ 1 (w :: past) ∧
      w.closesOf 0 = 1 ∧ total (evicted 0) (w :: past) = 1 ∧ total (reported 0) (w :: past) = 1 := by
  have begun := @Run.start ⟨.leastLoaded, false, 1, 1, 1, ⟨0, 100⟩, default⟩ 1
  -- a snapshot makes an instance, and a session is asked for
  have posted := begun.step (.work (.post (.ofHealthy ["a"])))
  have opened := posted.step
    (.receive rfl (.snapshot rfl) (.snapshot _ (by decide) .rfl .rfl (.inl rfl)))
  have arrived := (opened.step (step_next (by decide +kernel))).step (step_next (by decide +kernel))
  have ready := (arrived.step (step_next (by decide +kernel))).step (step_next (by decide +kernel))
  -- the session gets a tunnel that breaks at once, which is put into the slot
  have looked := (ready.step (step_session 0 0 (by decide +kernel))).step
    (step_session 0 0 (by decide +kernel))
  have dialing := looked.step (step_session 0 0 (by decide +kernel))
  have dialed := dialing.step (.work (@Work.dialed _ 0 ⟨0, 0, 0, .dialing 0⟩
    { answer := .fail .streamsExhausted } (by decide +kernel) rfl rfl))
  have handed := dialed.step (step_session 0 0 (by decide +kernel))
  have heard := handed.step
    (.receive (by decide +kernel) (@Receives.handover _ ⟨0, 0, 0⟩ [] (by decide +kernel)) (.handover _))
  have filled := (heard.step (step_next (by decide +kernel))).step (step_next (by decide +kernel))
  have idle := (filled.step (step_next (by decide +kernel))).step (step_next (by decide +kernel))
  -- a request comes and is dispatched, and its forward started
  have accepted := idle.step (@Step.arrive _ 0 _ (by decide +kernel) (if_neg (by decide +kernel)))
  have taken := accepted.step
    (.receive (by decide +kernel) (@Receives.request _ 0 [] (by decide +kernel)) (.request 0))
  have chosen := (taken.step (step_next (by decide +kernel))).step (step_next (by decide +kernel))
  have checked := (chosen.step (step_next (by decide +kernel))).step (step_next (by decide +kernel))
  have weighed := checked.step (step_next (by decide +kernel))
  have started := (weighed.step (step_next (by decide +kernel))).step (step_next (by decide +kernel))
  -- the forward visits the slot, evicts the tunnel, closes it and reports it
  have opening := started.step (step_forward (fun _ => false) 0 (by decide +kernel))
  have asking := opening.step (step_forward (fun _ => false) 0 (by decide +kernel))
  have evicted := asking.step (step_forward (fun _ => false) 0 (by decide +kernel))
  have closed := evicted.step (step_forward (fun _ => false) 0 (by decide +kernel))
  have reported := closed.step (step_forward (fun _ => false) 0 (by decide +kernel))
  obtain ⟨w, past, run, htunnel, hevicted, howed⟩ :
      ∃ w past, Run ⟨.leastLoaded, false, 1, 1, 1, ⟨0, 100⟩, default⟩ 1 (w :: past) ∧
        0 < w.scheduler.fleet.tunnels.size ∧ total (World.evicted 0) (w :: past) = 1 ∧
        w.traffic.takenOf 0 + w.traffic.owedOf 0 = 0 :=
    ⟨_, _, reported, by decide +kernel, by decide +kernel, by decide +kernel⟩
  have howner := one_owner run
  have hreported := howner.reported 0
  have hclosed := howner.closed 0
  have hone := howner.owner 0 htunnel
  exact ⟨w, past, run, by omega, hevicted, by omega⟩

end Run

end StreamBalancer
