import StreamBalancer.Proofs.Interleaving.Dispatches

/-!
# StreamBalancer.Proofs.Interleaving.Turns

Which slots the streams of successive requests are opened on.

1. A search starts at the slot that the count of dispatches selects when it begins, not
   when its request was dispatched (`Opening.begin`).  If the tunnel there gives a stream
   no other slot is visited (`Scheduler.forward_onTurn`).
2. So a stream is opened on the slot of a dispatch that was counted between the dispatch of
   its request and the present (`Life.tracked`).
3. Requests take turns as long as each search begins before the next dispatch is counted
   (`Life.in_turn`).  They do not if two requests are dispatched before either search begins:
   both searches start at one slot (`Life.not_in_turn`).
-/

namespace StreamBalancer

/-- The slot at which a search starts after so many dispatches; the count wraps. -/
def turn (k count : Nat) : Nat := count % 2 ^ 64 % k

theorem turn_lt {k : Nat} (hk : 0 < k) (count : Nat) : turn k count < k := Nat.mod_lt _ hk

/-- Within a round no slot comes twice, unless the count wraps. -/
theorem turn_ne {k m n : Nat} (hlt : m < n) (hround : n < m + k) (hwrap : n < 2 ^ 64) :
    turn k m ≠ turn k n := by
  rw [turn, turn, Nat.mod_eq_of_lt hwrap, Nat.mod_eq_of_lt (Nat.lt_trans hlt hwrap)]
  intro heq
  have hdvd : k ∣ n - m := Nat.dvd_of_mod_eq_zero (Nat.sub_mod_eq_zero_of_mod_eq heq.symm)
  have hle := Nat.le_of_dvd (Nat.sub_pos_of_lt hlt) hdvd
  omega

namespace Forward.Stage

/-- The route of a forward that has found one. -/
def route? : Stage → Option Route
  | .opening ⟨_, _, .found route⟩ => some route
  | .splicing route => some route
  | _ => none

/-- A forward to an instance whose slots hold tunnels that give streams: its search begins,
or began, when the count of dispatches was one of those that are `due`. -/
inductive OnTurn (b k : Nat) (tunnel : Nat → Nat) (due : Nat → Prop) (count : Nat) :
    Stage → Prop where
  | starting (h : due count) : OnTurn b k tunnel due count .starting
  | seeking {n : Nat} (h : due n) :
      OnTurn b k tunnel due count (.opening ⟨b, n % 2 ^ 64, .seeking 0⟩)
  | asking {n : Nat} (h : due n) (held : Bool) :
      OnTurn b k tunnel due count
        (.opening ⟨b, n % 2 ^ 64, .asking ⟨0, turn k n, tunnel (turn k n)⟩ held⟩)
  | found {n : Nat} (h : due n) :
      OnTurn b k tunnel due count (.opening ⟨b, n % 2 ^ 64, .found (.stream (tunnel (turn k n)))⟩)
  | splicing {n : Nat} (h : due n) :
      OnTurn b k tunnel due count (.splicing (.stream (tunnel (turn k n))))
  | ended {outcome : Outcome} (h : outcome.request? = none) :
      OnTurn b k tunnel due count (.ended outcome)
  | reporting {outcome : Outcome} (h : outcome.request? = none) :
      OnTurn b k tunnel due count (.reporting outcome)

variable {b k count count' : Nat} {tunnel : Nat → Nat} {due due' : Nat → Prop} {stage : Stage}

/-- A route is a stream on the slot of a count that was due. -/
theorem OnTurn.of_route (h : stage.OnTurn b k tunnel due count) {route : Route}
    (hroute : stage.route? = some route) : ∃ n, due n ∧ route = .stream (tunnel (turn k n)) := by
  cases h with
  | @found n hdue | @splicing n hdue => exact ⟨n, hdue, (Option.some.inj hroute).symm⟩
  | _ => contradiction

theorem OnTurn.mono (h : stage.OnTurn b k tunnel due count) (hdue : ∀ n, due n → due' n)
    (hstarting : stage = .starting → due' count') : stage.OnTurn b k tunnel due' count' := by
  cases h with
  | starting => exact .starting (hstarting rfl)
  | seeking h => exact .seeking (hdue _ h)
  | asking h held => exact .asking (hdue _ h) held
  | found h => exact .found (hdue _ h)
  | splicing h => exact .splicing (hdue _ h)
  | ended h => exact .ended h
  | reporting h => exact .reporting h

end Forward.Stage

namespace Scheduler

variable {s t : Scheduler} {b k r : Nat} {tunnel : Nat → Nat}

/-- The slots of an instance hold these tunnels. -/
def Holds (s : Scheduler) (b k : Nat) (tunnel : Nat → Nat) : Prop :=
  (s.fleet.backend? b).map (fun x => x.slots.map Slot.tunnel) =
    some ((List.range k).map fun i => some (tunnel i))

instance (s : Scheduler) (b k : Nat) (tunnel : Nat → Nat) : Decidable (s.Holds b k tunnel) :=
  inferInstanceAs (Decidable (_ = _))

theorem Holds.slots (h : s.Holds b k tunnel) (start : Nat) (phase : Opening.Phase) :
    (Opening.slots s.fleet ⟨b, start, phase⟩).map Slot.tunnel =
      (List.range k).map fun i => some (tunnel i) := by
  obtain ⟨x, hx, hslots⟩ := Option.map_eq_some_iff.1 h
  rw [Opening.slots, hx]
  exact hslots

/-- A search begins with the count of dispatches. -/
theorem begin_of_counted {count : Nat} (h : s.counted b = UInt64.ofNat count) :
    Opening.begin s.fleet b = ⟨b, count % 2 ^ 64, .seeking 0⟩ := by
  have hstart : ((s.fleet.backend? b).map fun x => x.dispatches.toNat).getD 0 =
      (s.counted b).toNat := by
    rw [counted]
    cases s.fleet.backend? b <;> rfl
  rw [Opening.begin, hstart, h, UInt64.toNat_ofNat']

/-- A search that begins finds the tunnel of its first slot. -/
theorem Holds.seek (h : s.Holds b k tunnel) (hk : 0 < k) (n : Nat) :
    Opening.seek s.fleet ⟨b, n % 2 ^ 64, .seeking 0⟩ 0 =
      ⟨b, n % 2 ^ 64, .asking ⟨0, turn k n, tunnel (turn k n)⟩ false⟩ := by
  have hslots := h.slots (n % 2 ^ 64) (.seeking 0)
  have hlength : (Opening.slots s.fleet ⟨b, n % 2 ^ 64, .seeking 0⟩).length = k := by
    simpa using congrArg List.length hslots
  have hslot : Opening.slotAt s.fleet ⟨b, n % 2 ^ 64, .seeking 0⟩ 0 = turn k n := by
    rw [Opening.slotAt, hlength]
    rfl
  have htunnel : (Opening.slots s.fleet ⟨b, n % 2 ^ 64, .seeking 0⟩)[turn k n]?.bind Slot.tunnel =
      some (tunnel (turn k n)) := by
    have hget := congrArg (fun l => l[turn k n]?) hslots
    simp only [List.getElem?_map, List.getElem?_range (turn_lt hk n), Option.map_some] at hget
    obtain ⟨x, hx, hxt⟩ := Option.map_eq_some_iff.1 hget
    rw [hx]
    exact hxt
  rw [Opening.seek, if_neg (by omega)]
  simp only [hslot, htunnel]

/-- No task leads to a report. -/
theorem finished_not_mem_perform (s : Scheduler) (x : Task) (f : Finished) :
    .finished f ∉ (s.perform x).2 := by
  intro h
  cases x with
  | inspect c i =>
      obtain ⟨t, -, heq⟩ := Option.map_eq_some_iff.1 (Option.mem_toList.1 h)
      contradiction
  | _ => grind [perform]

/-- Only a dispatch leads to the start of a forward. -/
theorem dispatch_of_start {x : Task} {b : Nat} (h : .start r b ∈ (s.perform x).2) :
    x = .dispatch r := by
  cases x with
  | inspect c i =>
      obtain ⟨t, -, heq⟩ := Option.map_eq_some_iff.1 (Option.mem_toList.1 h)
      contradiction
  | _ => grind [perform]

/-- A report was there before, or a forward makes it. -/
theorem Work.outcomes_cases (h : s.Work t) {f : Finished} (hf : f ∈ t.outcomes) :
    f ∈ s.outcomes ∨ ∃ g ∈ s.forwards, g.stage = .reporting f.outcome := by
  cases h with
  | post | dialed | undialed | retune | tick => exact .inl hf
  | session h =>
      obtain ⟨x, -, hmoves⟩ := stepSession?_cases h
      cases hmoves with
      | hands =>
          unfold handOver at hf
          split at hf <;> exact .inl hf
      | ends | goes => exact .inl hf
  | spliced moved h =>
      obtain ⟨fleet, outcome, heq, -⟩ := endSplice_eq h moved
      rw [heq] at hf
      exact .inl hf
  | forward reach h =>
      obtain ⟨g, hfind, hmoves⟩ := stepForward?_cases h
      cases hmoves with
      | advances | releases => exact .inl hf
      | @reports outcome hstage =>
          unfold report at hf
          split at hf
          · split at hf <;> exact .inl hf
          · obtain hf | hf := List.mem_append.1 hf
            · exact .inl hf
            · rw [List.mem_singleton.1 hf]
              exact .inr ⟨g, List.mem_of_find?_eq_some hfind, hstage⟩

/-- Whoever is refused a stream asks no longer and has no route. -/
theorem ends_of_failed (f : Fleet) (o : Opening) (v : Opening.Visit) (e : TunnelError) :
    Forward.Stage.visit? (.opening (o.failed f v e).1) = none ∧
      Forward.Stage.route? (.opening (o.failed f v e).1) = none := by
  unfold Opening.failed
  split
  · split <;> exact ⟨rfl, rfl⟩
  · exact ⟨rfl, rfl⟩

/-- **A forward to an instance whose tunnels give streams keeps to its slot.** -/
theorem forward_onTurn {f : Forward} {reach : ListenAddress → Bool} {count : Nat} {due : Nat → Prop}
    (hfind : s.forward? r = some f) (hb : f.backend = b)
    (hcounted : s.counted b = UInt64.ofNat count) (hholds : s.Holds b k tunnel) (hk : 0 < k)
    (h : f.stage.OnTurn b k tunnel due count) (hstep : s.stepForward? reach r = some t)
    (hgrants : ∀ g ∈ t.forwards, g.request = r → f.stage.visit?.isSome = true →
      g.stage.visit?.isSome = true ∨ g.stage.route?.isSome = true) :
    ∀ g ∈ t.forwards, g.request = r → g.stage.OnTurn b k tunnel due count := by
  have hset : ∀ {u : Scheduler} {stage : Forward.Stage}, stage.OnTurn b k tunnel due count →
      ∀ g ∈ (u.setForward r stage).forwards, g.request = r →
        g.stage.OnTurn b k tunnel due count := by
    intro u stage hstage g hg hr
    obtain ⟨-, rfl⟩ | ⟨hne, -⟩ := setForward_cases hg
    · exact hstage
    · exact absurd hr hne
  obtain ⟨q, c, stage⟩ := f
  obtain rfl : c = b := hb
  rw [stepForward?, hfind] at hstep
  dsimp only at h hstep hgrants
  cases h with
  | starting hdue =>
      obtain rfl := Option.some.inj hstep
      rw [begin_of_counted hcounted]
      exact hset (.seeking hdue)
  | @seeking n hdue =>
      dsimp only [Opening.step?] at hstep
      rw [hholds.seek hk n] at hstep
      obtain rfl := Option.some.inj hstep
      exact hset (.asking hdue false)
  | @asking n hdue held =>
      dsimp only [Opening.step?] at hstep
      split at hstep
      · split at hstep
        · contradiction
        · obtain rfl := Option.some.inj hstep
          exact hset (.asking hdue true)
      · obtain rfl := Option.some.inj hstep
        exact hset (.found hdue)
      · next e _ _ =>
        obtain rfl := Option.some.inj hstep
        intro g hg hr
        obtain ⟨-, hstage⟩ | ⟨hne, -⟩ := setForward_cases hg
        · have hends := hgrants g hg hr rfl
          rw [hstage, (ends_of_failed _ _ _ e).1, (ends_of_failed _ _ _ e).2] at hends
          obtain hends | hends := hends <;> contradiction
        · exact absurd hr hne
  | @found n hdue =>
      obtain rfl := Option.some.inj hstep
      exact hset (.splicing hdue)
  | splicing => contradiction
  | ended houtcome =>
      obtain rfl := Option.some.inj hstep
      exact hset (.reporting houtcome)
  | reporting =>
      obtain rfl := Option.some.inj hstep
      intro g hg hr
      rw [report_keeps forwards fun _ _ _ _ => rfl] at hg
      exact absurd hr (of_decide_eq_true (List.mem_filter.1 hg).2)

end Scheduler

namespace World

open Scheduler

variable {w w' : World} {past : List World}

theorem mem_ended_iff {f : Finished} : f ∈ w.books.ended ↔ .finished f ∈ w.tasks := by
  constructor
  · intro hf
    obtain ⟨x, hx, hxf⟩ := List.mem_filterMap.1 hf
    cases x with
    | finished g =>
        obtain rfl := Option.some.inj hxf
        exact hx
    | _ => contradiction
  · exact fun hf => List.mem_filterMap.2 ⟨_, hf, rfl⟩

/-- A report was there before, or a forward makes it. -/
theorem Step.report_cases (step : w.Step w') {f : Finished}
    (hf : f ∈ w'.books.outcomes ++ w'.books.ended) :
    f ∈ w.books.outcomes ++ w.books.ended ∨
      ∃ g ∈ w.scheduler.forwards, g.stage = .reporting f.outcome := by
  simp only [List.mem_append, mem_ended_iff] at hf ⊢
  change f ∈ w'.scheduler.outcomes ∨ _ at hf
  change (f ∈ w.scheduler.outcomes ∨ _) ∨ _
  cases step with
  | @perform x rest htasks =>
      left
      dsimp only at hf
      rw [(unread_perform w.scheduler x).2] at hf
      refine hf.imp_right fun hmem => ?_
      obtain hnew | hrest := List.mem_append.1 hmem
      · exact absurd hnew (finished_not_mem_perform w.scheduler x f)
      · exact htasks ▸ List.mem_cons_of_mem x hrest
  | @receive e s tasks htasks hreceives hopens =>
      left
      left
      obtain hf | hmem := hf
      · cases hreceives with
        | finished h => exact h ▸ List.mem_cons_of_mem _ hf
        | _ => exact hf
      · have hopened : .finished f ∈ tasks := by simpa using hmem
        cases hopens with
        | finished g =>
            obtain rfl : f = g := by simpa using hopened
            cases hreceives with
            | finished h => exact h ▸ List.mem_cons_self
        | snapshot => simp [sweep] at hopened
        | request | failure | handover | ignored => simp at hopened
  | query htasks => exact .inl (hf.imp_right fun hmem => absurd hmem (by simp))
  | arrive _ haccept =>
      obtain rfl := accept?_eq haccept
      exact .inl hf
  | work h =>
      obtain hf | hmem := hf
      · exact (h.outcomes_cases hf).imp_left .inl
      · exact .inl (.inr hmem)

/-- The forward that is about to be started is the only place of its request. -/
theorem Apart.of_start (h : w.Apart) {r b : Nat} (hstart : .start r b ∈ w.tasks) :
    (∀ f ∈ w.scheduler.forwards, f.request ≠ r) ∧
      ∀ c, ⟨c, .dialFailed r⟩ ∉ w.books.outcomes ++ w.books.ended := by
  have hheld := h.held_le r
  have hcarried : w.books.carried = w.scheduler.routes ++ w.tasks.filterMap Task.started? := rfl
  have hmem : (r, b) ∈ w.tasks.filterMap Task.started? := List.mem_filterMap.2 ⟨_, hstart, rfl⟩
  have hpos : 0 < ((w.tasks.filterMap Task.started?).map Prod.fst).count r :=
    List.count_pos_iff.2 (List.mem_map_of_mem hmem)
  have hle : w.books.held r ≤ 1 := by split at hheld <;> omega
  rw [Books.held, hcarried, List.map_append, List.count_append] at hle
  refine ⟨fun f hf hr => ?_, fun c hc => ?_⟩
  · have hroute : 0 < (w.scheduler.routes.map Prod.fst).count r :=
      List.count_pos_iff.2 (List.mem_map.2 ⟨_, List.mem_map_of_mem hf, hr⟩)
    omega
  · have hreport : 0 < (w.books.outcomes ++ w.books.ended).countP fun f =>
        f.outcome.request? == some r :=
      List.countP_pos_iff.2 ⟨_, hc, beq_self_eq_true _⟩
    omega

/-- A forward is about to be started if it was before, or if its request is dispatched. -/
theorem Step.start_cases (step : w.Step w') {r b : Nat} (h : .start r b ∈ w'.tasks) :
    .start r b ∈ w.tasks ∨ ∃ rest, w.tasks = .dispatch r :: rest := by
  cases step with
  | @perform x rest htasks =>
      obtain hnew | hrest := List.mem_append.1 h
      · exact .inr ⟨rest, dispatch_of_start hnew ▸ htasks⟩
      · exact .inl (htasks ▸ List.mem_cons_of_mem x hrest)
  | receive _ _ hopens =>
      cases hopens with
      | snapshot => simp [sweep] at h
      | request | finished | failure | handover | ignored => simp at h
  | query => simp at h
  | arrive | work => exact .inl h

/-! ## Calm stretches -/

/-- The routes that forwards under way have found, with their requests. -/
def found (w : World) : List (Nat × Route) :=
  w.scheduler.forwards.filterMap fun f => f.stage.route?.map (f.request, ·)

theorem mem_found_iff {r : Nat} {route : Route} :
    (r, route) ∈ w.found ↔ ∃ f ∈ w.scheduler.forwards, f.request = r ∧ f.stage.route? = some route := by
  simp only [found, List.mem_filterMap, Option.map_eq_some_iff, Prod.mk.injEq]
  constructor
  · rintro ⟨f, hf, x, hx, rfl, rfl⟩
    exact ⟨f, hf, rfl, hx⟩
  · rintro ⟨f, hf, rfl, hx⟩
    exact ⟨f, hf, route, hx, rfl, rfl⟩

/-- A forward to an instance that asks a tunnel for a stream goes on asking, or has a
route. -/
def Grants (b : Nat) (w w' : World) : Prop :=
  ∀ f ∈ w.scheduler.forwards, f.backend = b → f.stage.visit?.isSome = true →
    ∀ g ∈ w'.scheduler.forwards, g.request = f.request →
      g.stage.visit?.isSome = true ∨ g.stage.route?.isSome = true

instance (b : Nat) : DecidableRel fun w' w : World => Grants b w w' := fun w' w =>
  inferInstanceAs (Decidable (∀ f ∈ w.scheduler.forwards, f.backend = b →
    f.stage.visit?.isSome = true → ∀ g ∈ w'.scheduler.forwards, g.request = f.request →
      g.stage.visit?.isSome = true ∨ g.stage.route?.isSome = true))

/-- In a stretch of a history the slots of an instance hold these tunnels, and those give
streams. -/
structure Calm (b k : Nat) (tunnel : Nat → Nat) (recent : List World) : Prop where
  holds : ∀ w ∈ recent, w.scheduler.Holds b k tunnel
  grants : recent.IsChain fun w' w => Grants b w w'

instance (b k : Nat) (tunnel : Nat → Nat) (recent : List World) :
    Decidable (Calm b k tunnel recent) :=
  decidable_of_iff ((∀ w ∈ recent, w.scheduler.Holds b k tunnel) ∧
    recent.IsChain fun w' w => Grants b w w') ⟨fun ⟨h, g⟩ => ⟨h, g⟩, fun h => ⟨h.holds, h.grants⟩⟩

/-- When a dispatch to an instance is about to be counted, the searches of the earlier ones
have begun. -/
def Prompt (b : Nat) (w : World) : Prop :=
  .check b ∈ w.tasks → ∀ f ∈ w.scheduler.forwards, f.backend = b → f.stage ≠ .starting

instance (b : Nat) (w : World) : Decidable (w.Prompt b) :=
  inferInstanceAs (Decidable (.check b ∈ w.tasks →
    ∀ f ∈ w.scheduler.forwards, f.backend = b → f.stage ≠ .starting))

/-! ## Where a request is that was dispatched in a calm stretch -/

/-- The counts at which the search of the `n`th request may begin: those since it was
counted, or only that one if it is `prompt`. -/
def Due (prompt : Prop) (n count m : Nat) : Prop := n < m ∧ m ≤ count ∧ (prompt → m = n + 1)

/-- The `n`th request that was dispatched to an instance is with it, and opens its stream
on a slot that is due. -/
structure Tracked (w : World) (past : List World) (b k : Nat) (tunnel : Nat → Nat) (prompt : Prop)
    (count n r : Nat) : Prop where
  bound : w.books.Bound r b
  unfailed : ∀ c, ⟨c, .dialFailed r⟩ ∉ w.books.outcomes ++ w.books.ended
  /-- It is the last one until its forward is started. -/
  started : ∀ c, .start r c ∈ w.tasks → n + 1 = (sentTo b (w :: past)).length
  forwards : ∀ f ∈ w.scheduler.forwards, f.request = r →
    f.stage.OnTurn b k tunnel (Due prompt n count) count

namespace Tracked

variable {b k count n r : Nat} {tunnel : Nat → Nat} {prompt : Prop}

theorem signal (h : w.Tracked past b k tunnel prompt count n r) :
    World.Tracked { w with scheduler := w.scheduler.signal } (w :: past) b k tunnel prompt count n r :=
  ⟨h.bound, h.unfailed, fun c hc => (h.started c hc).trans (by rw [sentTo_of_none w.assigns_signal]),
    h.forwards⟩

theorem backend_eq (h : w.Tracked past b k tunnel prompt count n r) {f : Forward}
    (hf : f ∈ w.scheduler.forwards) (hr : f.request = r) : f.backend = b :=
  h.bound.carried f.backend (List.mem_append_left _ (hr ▸ List.mem_map_of_mem hf))

end Tracked

end World

namespace Life

open Scheduler World

variable {settings : Settings} {permits : Nat} {w w' : World} {past : List World}
  {b k count count' n r : Nat} {tunnel : Nat → Nat} {prompt : Prop}

/-- A request that is dispatched is with the instance to which it is. -/
theorem tracked_of_assigns (life : Life settings permits (w :: past)) (step : w.Step w')
    (h : w.assigns w' = some (r, b)) :
    w'.Tracked (w :: past) b k tunnel prompt count (sentTo b (w :: past)).length r := by
  obtain ⟨hforwards, hreports⟩ := (life.step step).apart.of_start (life.start_of_assigns step h)
  refine ⟨(life.moves step).bound_of_assigns life.apart h, hreports, fun _ _ => ?_,
    fun f hf hr => absurd hr (hforwards f hf)⟩
  rw [sentTo_of_some h, if_pos rfl, List.length_append, List.length_singleton]

/-- Its forward keeps to the slots that are due. -/
theorem forwards_tracked (life : Life settings permits (w :: past)) (step : w.Step w') (hk : 0 < k)
    (hholds : w.scheduler.Holds b k tunnel) (hgrants : w.Grants b w')
    (hprompt : prompt → w.Prompt b) (hcounted : w.Counted past b count)
    (hcount : count' = count ∨ count' = count + 1 ∧ .check b ∈ w.tasks ∧
      w'.scheduler.forwards = w.scheduler.forwards)
    (h : w.Tracked past b k tunnel prompt count n r) :
    ∀ f ∈ w'.scheduler.forwards, f.request = r →
      f.stage.OnTurn b k tunnel (Due prompt n count') count' := by
  intro g hg hr
  obtain rfl | ⟨rfl, hcheck, hforwards⟩ := hcount
  · obtain hold | ⟨⟨rest, htasks⟩, hstage⟩ | ⟨reach, hstep⟩ | ⟨outcome, hnone, hstage⟩ :=
      step.forward_cases life.sound hg
    · exact h.forwards g hold hr
    · -- all dispatches are counted, and this is the last one
      have hlast := h.started g.backend (by rw [htasks, hr]; exact List.mem_cons_self)
      have hsent := hcounted.sent
      have hnext := hcounted.next
      rw [htasks] at hsent hnext
      rw [List.count_cons_of_ne (by simp), @count_check_eq_zero rest hnext] at hsent
      rw [hstage]
      exact .starting ⟨by omega, Nat.le_refl _, fun _ => by omega⟩
    · obtain ⟨f, hfind, -⟩ := stepForward?_cases hstep
      rw [hr] at hfind hstep
      have hf : f ∈ w.scheduler.forwards := List.mem_of_find?_eq_some hfind
      have hfr := request_of_forward? hfind
      have hb := h.backend_eq hf hfr
      refine forward_onTurn hfind hb hcounted.counted hholds hk (h.forwards f hf hfr) hstep ?_ g hg hr
      exact fun x hx hxr hasking => hgrants f hf hb hasking x hx (hxr.trans hfr.symm)
    · rw [hstage]
      exact .ended hnone
  · have hold : g ∈ w.scheduler.forwards := hforwards ▸ hg
    have hturn := h.forwards g hold hr
    refine hturn.mono (fun m hm => ⟨hm.1, Nat.le_succ_of_le hm.2.1, hm.2.2⟩) fun hstarting => ?_
    rw [hstarting] at hturn
    cases hturn with
    | starting hdue =>
        refine ⟨Nat.lt_succ_of_lt hdue.1, Nat.le_refl _, fun hp => ?_⟩
        exact absurd hstarting (hprompt hp hcheck g hold (h.backend_eq hold hr))

/-- **A step keeps a request with its instance** as long as the tunnels give streams. -/
theorem tracked_step (life : Life settings permits (w :: past)) (step : w.Step w') (hk : 0 < k)
    (hholds : w.scheduler.Holds b k tunnel) (hgrants : w.Grants b w')
    (hprompt : prompt → w.Prompt b) (hcounted : w.Counted past b count)
    (hcount : count' = count ∨ count' = count + 1 ∧ .check b ∈ w.tasks ∧
      w'.scheduler.forwards = w.scheduler.forwards)
    (h : w.Tracked past b k tunnel prompt count n r) :
    w'.Tracked (w :: past) b k tunnel prompt count' n r where
  bound := by
    obtain hbound | hhandles := (life.moves step).bound h.bound
    · exact hbound
    · exact absurd (List.mem_append_right _ (mem_of_lost? hhandles)) (h.unfailed b)
  unfailed c hc := by
    obtain hold | ⟨g, hg, hstage⟩ := step.report_cases hc
    · exact h.unfailed c hold
    · have hr := life.apart.own g hg r (.inr hstage)
      have hturn := h.forwards g hg hr.symm
      rw [hstage] at hturn
      cases hturn with
      | reporting hnone => contradiction
  started c hc := by
    obtain hold | ⟨rest, htasks⟩ := step.start_cases hc
    · rw [h.started c hold]
      cases hassigns : w.assigns w' with
      | none => rw [sentTo_of_none hassigns]
      | some x =>
          -- no forward is about to be started when a request is dispatched
          obtain ⟨-, rest, htasks⟩ := (life.moves step).dispatch_of_assigns hassigns
          have hnone := (next_of_planned life.planned htasks).started rfl
          rw [htasks] at hold
          have hrest := (List.mem_cons.1 hold).resolve_left (by simp)
          have hmem : (r, c) ∈ rest.filterMap Task.started? :=
            List.mem_filterMap.2 ⟨_, hrest, rfl⟩
          rw [hnone] at hmem
          contradiction
    · obtain ⟨queued, hhand⟩ := hand_of_dispatch htasks
      exact absurd hhand (h.bound.hand queued)
  forwards := life.forwards_tracked step hk hholds hgrants hprompt hcounted hcount h

/-- **What was dispatched in a calm stretch is with its instance**, and opens its stream on
a slot that is due. -/
theorem tracked {before recent : List World} (life : Life settings permits (w :: (recent ++ before)))
    (hk : 0 < k) (hcalm : Calm b k tunnel (w :: recent))
    (hprompt : prompt → ∀ v ∈ w :: recent, v.Prompt b) :
    ∃ count, w.Counted (recent ++ before) b count ∧
      ∀ n r, (sentTo b before).length ≤ n → (sentTo b (w :: (recent ++ before)))[n]? = some r →
        w.Tracked (recent ++ before) b k tunnel prompt count n r := by
  induction recent generalizing w with
  | nil =>
      obtain ⟨count, hcounted⟩ := life.counted b
      refine ⟨count, hcounted, fun n r hn hr => ?_⟩
      cases life with
      | start => contradiction
      | step life step =>
          obtain ⟨hold, -⟩ | ⟨rfl, hassigns⟩ := getElem?_sentTo hr
          · exact absurd hn (Nat.not_le.2 hold)
          · exact life.tracked_of_assigns step hassigns
      | signal life =>
          rw [List.nil_append, sentTo_of_none (assigns_signal _), List.getElem?_eq_none hn] at hr
          contradiction
  | cons w₀ recent ih =>
      obtain ⟨hgrants, hchain⟩ := List.isChain_cons_cons.1 hcalm.grants
      have hcalm₀ : Calm b k tunnel (w₀ :: recent) :=
        ⟨fun v hv => hcalm.holds v (List.mem_cons_of_mem _ hv), hchain⟩
      have hprompt₀ : prompt → ∀ v ∈ w₀ :: recent, v.Prompt b :=
        fun hp v hv => hprompt hp v (List.mem_cons_of_mem _ hv)
      cases life with
      | step life step =>
          obtain ⟨count, hcounted, htracked⟩ := ih life hcalm₀ hprompt₀
          obtain ⟨count', hcounted', hcount⟩ := life.counted_step step hcounted
          refine ⟨count', hcounted', fun n r hn hr => ?_⟩
          obtain ⟨-, hold⟩ | ⟨rfl, hassigns⟩ := getElem?_sentTo hr
          · exact life.tracked_step step hk (hcalm₀.holds w₀ List.mem_cons_self) hgrants
              (fun hp => hprompt₀ hp w₀ List.mem_cons_self) hcounted hcount (htracked n r hn hold)
          · exact life.tracked_of_assigns step hassigns
      | signal life =>
          obtain ⟨count, hcounted, htracked⟩ := ih life hcalm₀ hprompt₀
          refine ⟨count, counted_signal hcounted, fun n r hn hr => ?_⟩
          rw [List.cons_append, sentTo_of_none (assigns_signal _)] at hr
          exact (htracked n r hn hr).signal

/-- **Requests take turns.**  Let the slots of an instance hold tunnels that give streams,
throughout a stretch of a history, and let requests be dispatched to it.

* Each of them opens its stream on the slot of a dispatch that was counted from its own one
  up to the present.
* It is the slot of its own dispatch if searches begin before the next dispatch is counted.
* The slots of as many successive dispatches as there are slots differ, unless the count
  wraps. -/
theorem in_turn {before recent : List World} (life : Life settings permits (w :: (recent ++ before)))
    (hk : 0 < k) (hcalm : Calm b k tunnel (w :: recent)) :
    (∀ n r route, (sentTo b before).length ≤ n →
      (sentTo b (w :: (recent ++ before)))[n]? = some r → (r, route) ∈ w.found →
        (∃ m, n < m ∧ m ≤ (sentTo b (w :: (recent ++ before))).length ∧
          route = .stream (tunnel (turn k m))) ∧
        ((∀ v ∈ w :: recent, v.Prompt b) → route = .stream (tunnel (turn k (n + 1))))) ∧
    ∀ m n, m < n → n < m + k → n + 1 < 2 ^ 64 → turn k (m + 1) ≠ turn k (n + 1) := by
  refine ⟨fun n r route hn hr hroute => ?_, fun m n hlt hround hwrap =>
    turn_ne (by omega) (by omega) hwrap⟩
  obtain ⟨f, hf, hfr, hroute⟩ := mem_found_iff.1 hroute
  obtain ⟨count, hcounted, htracked⟩ :=
    @tracked _ _ w b k tunnel (∀ v ∈ w :: recent, v.Prompt b) _ _ life hk hcalm id
  obtain ⟨m, ⟨hnm, hm, hprompt⟩, rfl⟩ := ((htracked n r hn hr).forwards f hf hfr).of_route hroute
  have hsent := hcounted.sent
  exact ⟨⟨m, hnm, by omega, rfl⟩, fun hp => by rw [hprompt hp]⟩

/-- A history, cut in two. -/
theorem split (life : Life settings permits (w :: past)) (m : Nat) :
    Life settings permits (w :: (past.take m ++ past.drop m)) :=
  (List.take_append_drop m past).symm ▸ life

/-- Two requests go to an instance with two tunnels.  In one history the first search begins
at once, in the other one both requests are dispatched before. -/
theorem two_ways :
    ∃ w recent before w' recent' before',
      Life ⟨.leastLoaded, false, 1, 8, 2, ⟨0, 100⟩, default⟩ 8 (w :: (recent ++ before)) ∧
      Life ⟨.leastLoaded, false, 1, 8, 2, ⟨0, 100⟩, default⟩ 8 (w' :: (recent' ++ before')) ∧
      (Calm 0 2 id (w :: recent) ∧ (∀ v ∈ w :: recent, v.Prompt 0) ∧ sentTo 0 before = [] ∧
        sentTo 0 (w :: (recent ++ before)) = [0, 1] ∧
        w.found = [(0, .stream 1), (1, .stream 0)]) ∧
      Calm 0 2 id (w' :: recent') ∧ sentTo 0 before' = [] ∧
        sentTo 0 (w' :: (recent' ++ before')) = [0, 1] ∧
        w'.found = [(0, .stream 0), (1, .stream 0)] := by
  have begun := @Life.start ⟨.leastLoaded, false, 1, 8, 2, ⟨0, 100⟩, default⟩ 8
  -- a snapshot makes an instance, and two sessions are asked for
  have posted := begun.step (.work (.post (.ofHealthy ["a"])))
  have opened := (posted.step
    (.receive rfl (.snapshot rfl) (.snapshot _ (by decide) .rfl .rfl (.inl rfl)))).settle 4
  -- each gets a tunnel, which is put into its slot
  have looked := ((opened.step (step_session 0 0 (by decide +kernel))).step
    (step_session 0 0 (by decide +kernel))).step (step_session 0 1 (by decide +kernel))
  have dialing := ((looked.step (step_session 0 1 (by decide +kernel))).step
    (step_session 0 0 (by decide +kernel))).step (step_session 0 1 (by decide +kernel))
  have dialed := (dialing.step (.work
    (@Work.dialed _ 0 ⟨0, 0, 0, .dialing 0⟩ {} (by decide +kernel) rfl rfl))).step (.work
    (@Work.dialed _ 1 ⟨1, 0, 1, .dialing 0⟩ {} (by decide +kernel) rfl rfl))
  have handed := (dialed.step (step_session 0 0 (by decide +kernel))).step
    (step_session 0 1 (by decide +kernel))
  have half := (handed.step (.receive (by decide +kernel)
    (@Receives.handover _ ⟨0, 0, 0⟩ [⟨0, 1, 1⟩] (by decide +kernel)) (.handover _))).settle 4
  have filled := (half.step (.receive (by decide +kernel)
    (@Receives.handover _ ⟨0, 1, 1⟩ [] (by decide +kernel)) (.handover _))).settle 4
  -- two requests come, and one is dispatched
  have accepted := (filled.step
    (@Step.arrive _ 0 _ (by decide +kernel) (if_neg (by decide +kernel)))).step
    (@Step.arrive _ 1 _ (by decide +kernel) (if_neg (by decide +kernel)))
  have served := (accepted.step (.receive (by decide +kernel)
    (@Receives.request _ 0 [1] (by decide +kernel)) (.request 0))).settle 9
  let reach : ListenAddress → Bool := fun _ => false
  -- its stream is opened before the other one is dispatched
  have first := ((served.step (step_forward reach 0 (by decide +kernel))).step
    (step_forward reach 0 (by decide +kernel))).step (step_forward reach 0 (by decide +kernel))
  have next := (first.step (.receive (by decide +kernel)
    (@Receives.request _ 1 [] (by decide +kernel)) (.request 1))).settle 9
  have apart := ((next.step (step_forward reach 1 (by decide +kernel))).step
    (step_forward reach 1 (by decide +kernel))).step (step_forward reach 1 (by decide +kernel))
  -- or after that
  have both := (served.step (.receive (by decide +kernel)
    (@Receives.request _ 1 [] (by decide +kernel)) (.request 1))).settle 9
  have once := ((both.step (step_forward reach 0 (by decide +kernel))).step
    (step_forward reach 0 (by decide +kernel))).step (step_forward reach 0 (by decide +kernel))
  have twice := ((once.step (step_forward reach 1 (by decide +kernel))).step
    (step_forward reach 1 (by decide +kernel))).step (step_forward reach 1 (by decide +kernel))
  exact ⟨_, _, _, _, _, _, apart.split 26, twice.split 26, by decide +kernel, by decide +kernel⟩

/-- Of two requests whose searches begin at once, the second opens its stream on the slot of
the second dispatch. -/
theorem in_turn_of_two :
    ∃ w recent before,
      Life ⟨.leastLoaded, false, 1, 8, 2, ⟨0, 100⟩, default⟩ 8 (w :: (recent ++ before)) ∧
      Calm 0 2 id (w :: recent) ∧ (1, .stream 0) ∈ w.found ∧
      ∀ route, (1, route) ∈ w.found → route = .stream (id (turn 2 2)) := by
  obtain ⟨w, recent, before, -, -, -, life, -, ⟨hcalm, hprompt, hbefore, hsent, hfound⟩, -⟩ := two_ways
  refine ⟨w, recent, before, life, hcalm, by simp [hfound], fun route hroute => ?_⟩
  exact ((in_turn life (by decide) hcalm).1 1 1 route (by simp [hbefore]) (by simp [hsent])
    hroute).2 hprompt

/-- **Requests need not take turns**: two that are dispatched one after the other may open
their streams on one slot of two, though both slots hold tunnels that give streams. -/
theorem not_in_turn :
    ¬ ∀ (settings : Settings) (permits : Nat) (w : World) (recent before : List World) (b k : Nat)
      (tunnel : Nat → Nat), Life settings permits (w :: (recent ++ before)) →
      Calm b k tunnel (w :: recent) → Function.Injective tunnel →
      ∀ m n r q route, (sentTo b before).length ≤ m → m < n → n < m + k →
        (sentTo b (w :: (recent ++ before)))[m]? = some r →
        (sentTo b (w :: (recent ++ before)))[n]? = some q →
        (r, route) ∈ w.found → (q, route) ∉ w.found := by
  intro h
  obtain ⟨-, -, -, w, recent, before, -, life, -, hcalm, hbefore, hsent, hfound⟩ := two_ways
  refine h _ _ w recent before 0 2 id life hcalm Function.injective_id 0 1 0 1 (.stream 0)
    (by simp [hbefore]) (by decide) (by decide) ?_ ?_ ?_ ?_
  · simp [hsent]
  · simp [hsent]
  · simp [hfound]
  · simp [hfound]

end Life


end StreamBalancer
