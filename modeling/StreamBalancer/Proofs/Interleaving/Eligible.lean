import Mathlib.Data.Finset.Card
import StreamBalancer.Proofs.Interleaving.Books
import StreamBalancer.Proofs.Interleaving.Stretch
import StreamBalancer.Proofs.Interleaving.Tables

/-!
# StreamBalancer.Proofs.Interleaving.Eligible

Which instances requests are dispatched to, at every moment of every history
(`Life.only_eligible`).

1. An instance to which no dial succeeded is out of the pool until the scheduler turns to
   the next snapshot (`Life.out_of_failed`): nothing else puts instances back, and an
   instance that waits for its first tunnel was never dialed (`Scheduler.Opened`).
2. A request that was dispatched to an instance in this stretch of the history is with
   that instance, or nowhere, or the instance could not be dialed (`Books.Bound`).
3. So a request is dispatched to an instance once in a stretch at most.
-/

namespace StreamBalancer

namespace Scheduler

/-! ## Instances that wait no longer -/

/-- An instance was created and does not wait for its first tunnel. -/
def Opened (s : Scheduler) (b : Nat) : Prop :=
  b < s.fleet.backends.size ∧ ∀ a, s.connecting.find? a ≠ some b

theorem opened_of_pooled {s : Scheduler} {most : Nat} (h : s.roster.Sound most) {b : Nat}
    (hb : b ∈ s.pool.items) : s.Opened b := by
  obtain ⟨a, ha⟩ := h.pooled b hb
  have htracked : s.roster.tracked? a = some b := Roster.Sound.tracked_of_schedulable ha
  refine ⟨s.length_identities ▸ h.lt_of_tracked htracked, fun k hk => ?_⟩
  have hsame := h.tracked_address (h.tracked_of_connecting hk) htracked
  have hnone := h.find?_schedulable_eq_none hk
  rw [hsame, ha] at hnone
  contradiction

theorem opened_congr {s t : Scheduler} (h : t.roster = s.roster) (b : Nat) :
    t.Opened b ↔ s.Opened b := by
  have hsize : t.fleet.backends.size = s.fleet.backends.size := by
    rw [← length_identities, h, length_identities]
  have hconnecting : t.connecting = s.connecting := congrArg Roster.connecting h
  rw [Opened, Opened, hsize, hconnecting]

theorem Opened.perform {s : Scheduler} {most : Nat} (h : s.roster.Sound most) {b : Nat}
    (hb : s.Opened b) (task : Task) : (s.perform task).1.Opened b := by
  have hsize : s.fleet.backends.size ≤ (s.perform task).1.fleet.backends.size := by
    rw [← length_identities, ← length_identities]
    obtain heq | ⟨a, c, -, -, heq⟩ | ⟨a, -, heq⟩ := identities_perform h task <;> rw [heq] <;> simp
  refine ⟨Nat.lt_of_lt_of_le hb.1 hsize, fun a ha => ?_⟩
  obtain ⟨hold, -⟩ | hnew := connecting_perform h task ha
  · exact hb.2 a hold
  · exact absurd hb.1 (by omega)

end Scheduler

namespace World

open Scheduler

variable {w w' : World} {past : List World}

theorem opened_step (hsound : w.Sound) (step : w.Step w') {b : Nat} (hb : w.scheduler.Opened b) :
    w'.scheduler.Opened b := by
  cases step with
  | perform => exact hb.perform hsound.roster _
  | receive _ hreceives => exact (opened_congr hreceives.roster_eq b).2 hb
  | query => exact hb
  | arrive _ haccept =>
      obtain rfl := accept?_eq haccept
      exact hb
  | work hwork => exact (opened_congr hwork.roster_eq b).2 hb

/-! ## Dispatches and reports -/

theorem Moves.dispatch_of_assigns (h : w.Moves w') {r b : Nat} (hr : w.assigns w' = some (r, b)) :
    b ∈ w.scheduler.pool.items ∧ ∃ rest, w.tasks = .dispatch r :: rest := by
  rw [World.assigns] at hr
  cases h with
  | @assigns q c _ rest t htasks hb hbefore hafter =>
      simp only [hbefore, hafter, gained?_concat, Option.some.injEq, Prod.mk.injEq] at hr
      obtain ⟨rfl, rfl⟩ := hr
      exact ⟨hb, rest, htasks⟩
  | same h | arrives _ h => simp [h] at hr
  | waits _ hbefore hafter | calls hbefore hafter | takes hbefore hafter | refuses _ hbefore hafter
  | tells _ hbefore hafter | hears hbefore hafter | handles _ _ hbefore hafter =>
      simp [hbefore, hafter] at hr

theorem hand_of_dispatch {r : Nat} {rest : List Task} (h : w.tasks = .dispatch r :: rest) :
    ∃ queued, (r, queued) ∈ w.books.hand := by
  simp [World.books, Scheduler.books, h, List.filterMap_cons, Task.asked?]

/-- The report that is handled was in the scheduler's hands, and an instance that could not
be dialed is out of the pool then. -/
theorem Moves.finished_of_handles (h : w.Moves w') {f : Finished} (hf : w.handles w' = some f) :
    (∃ rest, w.tasks = .finished f :: rest) ∧
      ∀ r, f.outcome = .dialFailed r → f.backend ∉ w'.scheduler.pool.items := by
  rw [World.handles] at hf
  cases h with
  | @handles g rest t htasks hout hbefore hafter =>
      simp only [hbefore, hafter, lost?_cons, Option.some.injEq] at hf
      subst hf
      exact ⟨⟨rest, htasks⟩, hout⟩
  | same h | arrives _ h => simp [h] at hf
  | waits _ hbefore hafter | calls hbefore hafter | takes hbefore hafter
  | assigns _ _ hbefore hafter | refuses _ hbefore hafter | tells _ hbefore hafter =>
      simp [hbefore, hafter] at hf
  | @hears g t hbefore hafter => simp [hbefore, hafter, lost?] at hf

/-- What forwards carry was carried before, or is dispatched now. -/
theorem Moves.carried_cases (h : w.Moves w') {x : Nat × Nat} (hx : x ∈ w'.books.carried) :
    x ∈ w.books.carried ∨ w.assigns w' = some x := by
  rw [World.assigns]
  cases h with
  | same h | arrives _ h => exact .inl (by rw [h] at hx; exact hx)
  | assigns _ _ hbefore hafter =>
      rw [hafter] at hx
      rw [hbefore, hafter]
      simpa [eq_comm] using hx
  | tells _ hbefore hafter =>
      rw [hafter] at hx
      rw [hbefore]
      left
      simp at hx ⊢
      tauto
  | waits _ hbefore hafter | calls hbefore hafter | takes hbefore hafter | refuses _ hbefore hafter
  | hears hbefore hafter | handles _ _ hbefore hafter =>
      rw [hafter] at hx
      rw [hbefore]
      exact .inl hx

/-- A report was there before, or is of a forward that carried a request. -/
theorem Moves.reported_cases (h : w.Moves w') {f : Finished}
    (hf : f ∈ w'.books.outcomes ++ w'.books.ended) :
    f ∈ w.books.outcomes ++ w.books.ended ∨ ∃ r, (r, f.backend) ∈ w.books.carried := by
  cases h with
  | same h | arrives _ h => exact .inl (by rw [h] at hf; exact hf)
  | @tells r b front back outcome t _ hbefore hafter =>
      rw [hafter] at hf
      rw [hbefore]
      simp at hf ⊢
      obtain hf | rfl | hf := hf
      · exact .inl (.inl hf)
      · exact .inr ⟨r, by simp⟩
      · exact .inl (.inr hf)
  | hears hbefore hafter =>
      rw [hafter] at hf
      rw [hbefore]
      left
      simp at hf ⊢
      tauto
  | handles _ _ hbefore hafter =>
      rw [hafter] at hf
      rw [hbefore]
      left
      simp at hf ⊢
      exact .inl hf
  | waits _ hbefore hafter | calls hbefore hafter | takes hbefore hafter
  | assigns _ _ hbefore hafter | refuses _ hbefore hafter =>
      rw [hafter] at hf
      rw [hbefore]
      exact .inl hf

/-! ## Where a request is that was dispatched -/

end World

/-- A request that arrived is with an instance, or nowhere. -/
structure Books.Bound (k : Books) (r b : Nat) : Prop where
  arrived : r ∈ k.arrived
  jobs : r ∉ k.jobs
  hand : ∀ queued, (r, queued) ∉ k.hand
  pending : r ∉ k.pending
  carried : ∀ c, (r, c) ∈ k.carried → c = b
  reported : ∀ c, ⟨c, .dialFailed r⟩ ∈ k.outcomes ++ k.ended → c = b

namespace World

open Scheduler

variable {w w' : World} {past : List World}

/-- A request stays with an instance, unless the scheduler hears that it could not be
dialed. -/
theorem Moves.bound (h : w.Moves w') {r b : Nat} (hb : w.books.Bound r b) :
    w'.books.Bound r b ∨ w.handles w' = some ⟨b, .dialFailed r⟩ := by
  rw [World.handles]
  obtain ⟨harrived, hjobs, hhand, hpending, hcarried, hreported⟩ := hb
  cases h with
  | same h =>
      rw [h]
      exact .inl ⟨harrived, hjobs, hhand, hpending, hcarried, hreported⟩
  | arrives hnew h =>
      left
      rw [h]
      constructor <;> grind
  | @handles f _ _ _ _ hbefore hafter =>
      rw [hbefore] at harrived hjobs hhand hpending hcarried hreported
      rw [hbefore, hafter]
      obtain ⟨c, outcome⟩ := f
      by_cases hfailed : outcome = .dialFailed r
      · subst hfailed
        obtain rfl := hreported c (by simp)
        exact .inr (lost?_cons _ _)
      · left
        cases outcome <;> constructor <;> grind [Outcome.request?]
  | tells hown hbefore hafter =>
      rw [hbefore] at harrived hjobs hhand hpending hcarried hreported
      left
      rw [hafter]
      refine ⟨harrived, hjobs, hhand, hpending, by grind, fun c hc => ?_⟩
      simp only [List.mem_append, List.mem_singleton, Finished.mk.injEq] at hc hreported
      obtain (hc | ⟨rfl, rfl⟩) | hc := hc
      · exact hreported c (.inl hc)
      · obtain rfl := hown r rfl
        exact hcarried c (by simp)
      · exact hreported c (.inr hc)
  | waits _ hbefore hafter | calls hbefore hafter | takes hbefore hafter
  | assigns _ _ hbefore hafter | refuses _ hbefore hafter | hears hbefore hafter =>
      rw [hbefore] at harrived hjobs hhand hpending hcarried hreported
      left
      rw [hafter]
      constructor <;> grind

/-- A request is with the instance to which it is dispatched. -/
theorem Moves.bound_of_assigns (h : w.Moves w') (hapart : w.Apart) {r b : Nat}
    (hr : w.assigns w' = some (r, b)) : w'.books.Bound r b := by
  have hheld := hapart.held_le r
  rw [World.assigns] at hr
  cases h with
  | @assigns q c flag rest t htasks hpooled hbefore hafter =>
      simp only [hbefore, hafter, gained?_concat, Option.some.injEq, Prod.mk.injEq] at hr
      obtain ⟨rfl, rfl⟩ := hr
      have harrived : w.arrived = t.arrived := congrArg Books.arrived hbefore
      -- the request is in the scheduler's hands, hence nowhere else
      rw [hbefore, harrived, Books.held] at hheld
      simp only [List.map_cons, List.map_nil, List.count_cons_self, List.count_nil] at hheld
      have hmem : q ∈ t.arrived := by
        by_contra hnot
        rw [if_neg hnot] at hheld
        omega
      rw [if_pos hmem] at hheld
      have hjobs : q ∉ t.jobs := List.count_eq_zero.1 (by omega)
      have hpending : q ∉ t.pending := List.count_eq_zero.1 (by omega)
      have hcarried : q ∉ t.carried.map Prod.fst := List.count_eq_zero.1 (by omega)
      have hreported := List.countP_eq_zero.1 (Nat.le_zero.1 (by omega) :
        (t.outcomes ++ t.ended).countP (fun f => f.outcome.request? == some q) = 0)
      rw [hafter]
      refine ⟨hmem, hjobs, by simp, hpending, fun d hd => ?_, fun d hd => ?_⟩
      · simp only [List.mem_append, List.mem_singleton, Prod.mk.injEq, true_and] at hd
        exact hd.resolve_left fun hd => hcarried (List.mem_map_of_mem hd)
      · exact absurd (hreported _ hd) (by simp [Outcome.request?])
  | same h | arrives _ h => simp [h] at hr
  | waits _ hbefore hafter | calls hbefore hafter | takes hbefore hafter | refuses _ hbefore hafter
  | tells _ hbefore hafter | hears hbefore hafter | handles _ _ hbefore hafter =>
      simp [hbefore, hafter] at hr

/-! ## Stretches -/

/-- No dial to an instance was reported as failed in the present stretch. -/
def Unfailed (h : List World) (b : Nat) : Prop :=
  ∀ r, ⟨b, .dialFailed r⟩ ∉ gather handles (stretch h)

/-- The instances to which a request was dispatched in the present stretch. -/
def chain (r : Nat) (h : List World) : List Nat :=
  ((gather assigns (stretch h)).filter fun x => x.1 = r).map Prod.snd

/-- No instance is about to be removed. -/
def swept (w : World) : Bool := w.tasks.all fun x => !x.isRemoval

/-- The instances that took requests at some moment of the present stretch, after the
removals with which it began. -/
def takers (h : List World) : Finset Nat :=
  (((stretch h).filter swept).flatMap fun w =>
    w.scheduler.schedulable.entries.map Prod.snd).toFinset

/-- Requests may be dispatched to an instance. -/
structure Eligible (w : World) (past : List World) (b : Nat) : Prop where
  live : w.scheduler.isRetired b = false
  /-- It was up in the snapshot to which the scheduler last turned. -/
  up : Up (w :: past) (w.scheduler.address b)
  /-- No dial to it was reported as failed since then. -/
  unfailed : Unfailed (w :: past) b
  /-- There was a tunnel in one of its slots, if it has slots. -/
  opened : w.scheduler.settings.tunnelCount ≠ 0 →
    ∃ v ∈ w :: past, ∃ i, (v.scheduler.tunnelAt b i).isSome = true

/-- Whatever a forward carries, or has reported, was dispatched. -/
structure Traced (w : World) (past : List World) : Prop where
  carried : ∀ x ∈ w.books.carried, x ∈ gather assigns (w :: past)
  reported : ∀ f ∈ w.books.outcomes ++ w.books.ended,
    ∃ r, (r, f.backend) ∈ gather assigns (w :: past)

theorem traced_initial {settings : Settings} {permits : Nat} : (initial settings permits).Traced [] :=
  ⟨fun _ h => absurd h List.not_mem_nil, fun _ h => absurd h List.not_mem_nil⟩

theorem Moves.traced (h : w.Moves w') (htraced : w.Traced past) : w'.Traced (w :: past) where
  carried x hx := by
    obtain hx | hnew := h.carried_cases hx
    · exact List.mem_append_left _ (htraced.carried x hx)
    · exact List.mem_append_right _ (Option.mem_toList.2 hnew)
  reported f hf := by
    obtain hf | ⟨r, hr⟩ := h.reported_cases hf
    · obtain ⟨r, hr⟩ := htraced.reported f hf
      exact ⟨r, List.mem_append_left _ hr⟩
    · exact ⟨r, List.mem_append_left _ (htraced.carried _ hr)⟩

/-- A request that was dispatched to an instance in this stretch is with that instance, or
nowhere, or the instance could not be dialed. -/
def Placed (w : World) (past : List World) (r b : Nat) : Prop :=
  (r, b) ∈ gather assigns (stretch (w :: past)) → w.books.Bound r b ∨ ¬Unfailed (w :: past) b

theorem Moves.placed (h : w.Moves w') (hapart : w.Apart) {r b : Nat} (hplaced : w.Placed past r b) :
    w'.Placed (w :: past) r b := by
  intro hassigned
  rw [gather_stretch] at hassigned
  rw [Unfailed, gather_stretch]
  split at hassigned
  · contradiction
  next hturns =>
  rw [if_neg hturns]
  obtain hold | hnew := List.mem_append.1 hassigned
  · obtain hbound | hfailed := hplaced hold
    · obtain hbound | hhandles := h.bound hbound
      · exact .inl hbound
      · refine .inr fun hnone => hnone r ?_
        exact List.mem_append_right _ (Option.mem_toList.2 hhandles)
    · exact .inr fun hnone => hfailed fun q hq => hnone q (List.mem_append_left _ hq)
  · exact .inl (h.bound_of_assigns hapart (Option.mem_toList.1 hnew))

end World

namespace Life

open Scheduler World

variable {settings : Settings} {permits : Nat} {w w' : World} {past : List World}

/-- Whatever a forward carries, or has reported, was dispatched. -/
theorem traced (life : Life settings permits (w :: past)) : w.Traced past :=
  life.induct_moves traced_initial fun _ h ih => h.traced ih

/-- An instance to which a request was dispatched waits no longer. -/
theorem opened_of_assigns (life : Life settings permits (w :: past)) {x : Nat × Nat}
    (hx : x ∈ gather assigns (w :: past)) : w.scheduler.Opened x.2 := by
  induction life using Life.induct with
  | initial => contradiction
  | @signalled w _ _ ih =>
      obtain hx | hx := List.mem_append.1 hx
      · exact ih hx
      · simp [assigns, books_signal] at hx
  | kept life step ih =>
      apply opened_step life.sound step
      obtain hx | hx := List.mem_append.1 hx
      · exact ih hx
      · obtain ⟨hpooled, -⟩ := (life.moves step).dispatch_of_assigns (Option.mem_toList.1 hx)
        exact opened_of_pooled life.sound.roster hpooled

/-- An instance whose report was handled waits no longer. -/
theorem opened_of_handles (life : Life settings permits (w :: past)) {f : Finished}
    (hf : f ∈ gather handles (w :: past)) : w.scheduler.Opened f.backend := by
  induction life using Life.induct with
  | initial => contradiction
  | signalled _ ih =>
      obtain hf | hf := List.mem_append.1 hf
      · exact ih hf
      · simp [handles, books_signal] at hf
  | kept life step ih =>
      apply opened_step life.sound step
      obtain hf | hf := List.mem_append.1 hf
      · exact ih hf
      · have hended := mem_of_lost? (Option.mem_toList.1 hf)
        obtain ⟨r, hr⟩ := life.traced.reported f (List.mem_append_right _ hended)
        exact life.opened_of_assigns hr

/-- As long as instances are to be put into the pool, no report was handled since the
scheduler turned to the snapshot. -/
theorem unreported (life : Life settings permits (w :: past)) {x : Task} (hx : x ∈ w.tasks)
    (hfilling : x.isFilling = true) : gather handles (stretch (w :: past)) = [] := by
  induction life using Life.induct with
  | initial => contradiction
  | signalled _ ih => simp [gather_stretch, turns_signal, handles, books_signal, ih hx]
  | @kept w w' past life step ih =>
      rw [gather_stretch]
      split
      · rfl
      · next hturns =>
        have hold : x ∈ w.tasks := by
          cases step with
          | perform htasks =>
              obtain hnew | hrest := List.mem_append.1 hx
              · rw [isFilling_perform _ _ x hnew] at hfilling
                contradiction
              · exact htasks ▸ List.mem_cons_of_mem _ hrest
          | receive htasks hreceives hopens =>
              cases hopens with
              | snapshot _ hhealthy =>
                  rw [turns_of_receive hreceives hhealthy] at hturns
                  exact absurd rfl hturns
              | request | finished | failure | handover | ignored =>
                  simp only [List.mem_append, List.mem_singleton, List.not_mem_nil, false_or] at hx
                  grind [Task.isFilling]
          | query =>
              rw [List.mem_singleton.1 hx] at hfilling
              contradiction
          | arrive | work => exact hx
        rw [ih hold]
        cases hf : w.handles w' with
        | none => rfl
        | some f =>
            -- after a report only the gauges are left to be set
            obtain ⟨⟨rest, htasks⟩, -⟩ := (life.moves step).finished_of_handles hf
            have hplan := life.planned
            rw [htasks] at hold
            rw [htasks, List.pairwise_cons] at hplan
            obtain rfl | hrest := List.mem_cons.1 hold
            · contradiction
            · rw [(hplan.1 x hrest).last rfl] at hfilling
              contradiction

/-- **An instance that could not be dialed is out of the pool** for the rest of the
stretch. -/
theorem out_of_failed (life : Life settings permits (w :: past)) {r b : Nat}
    (h : ⟨b, .dialFailed r⟩ ∈ gather handles (stretch (w :: past))) :
    b ∉ w.scheduler.pool.items := by
  induction life using Life.induct with
  | initial => contradiction
  | signalled _ ih =>
      simp [gather_stretch, turns_signal, handles, books_signal] at h
      exact ih h
  | @kept w w' past life step ih =>
      rw [gather_stretch] at h
      split at h
      · contradiction
      obtain hold | hnew := List.mem_append.1 h
      · have hout := ih hold
        cases step with
        | perform htasks =>
            have hmem : _ ∈ w.tasks := htasks ▸ List.mem_cons_self
            intro hb
            obtain hb | ⟨a, rfl, -⟩ | ⟨a, rfl, -⟩ | ⟨rfl, hc⟩ :=
              mem_pool_perform life.sound.roster hb
            · exact hout hb
            · rw [life.unreported hmem rfl] at hold
              contradiction
            · rw [life.unreported hmem rfl] at hold
              contradiction
            · obtain ⟨c, hfind⟩ := Option.isSome_iff_exists.1 hc
              have htracked := (tracked_iff life.sound.roster _ b).2
                ⟨life.sound.live _ hmem b rfl, rfl⟩
              have hsame : w.scheduler.tracked? (w.scheduler.address b) = some c :=
                life.sound.roster.tracked_of_connecting hfind
              rw [htracked] at hsame
              obtain rfl := Option.some.inj hsame
              exact (life.opened_of_handles (mem_gather_stretch hold)).2 _ hfind
        | @receive _ s _ _ hreceives _ =>
            have hpool : s.pool = w.scheduler.pool := congrArg Roster.pool hreceives.roster_eq
            exact fun hb => hout (hpool ▸ hb)
        | query => exact hout
        | arrive _ haccept =>
            obtain rfl := accept?_eq haccept
            exact hout
        | @work s hwork =>
            have hpool : s.pool = w.scheduler.pool := congrArg Roster.pool hwork.roster_eq
            exact fun hb => hout (hpool ▸ hb)
      · exact ((life.moves step).finished_of_handles (Option.mem_toList.1 hnew)).2 r rfl

/-- A request stays with the instance to which it was dispatched in this stretch, unless
that could not be dialed. -/
theorem placed (life : Life settings permits (w :: past)) (r b : Nat) : w.Placed past r b :=
  life.induct_moves (P := fun w past => w.Placed past r b) (fun h => absurd h List.not_mem_nil)
    fun hapart h ih => h.placed hapart ih

/-- A dispatch is not made before a removal. -/
theorem swept_of_dispatch (life : Life settings permits (w :: past)) {r : Nat} {rest : List Task}
    (htasks : w.tasks = .dispatch r :: rest) : w.swept = true := by
  have hplan := life.planned
  rw [htasks, List.pairwise_cons] at hplan
  rw [swept, htasks, List.all_cons, List.all_eq_true.2]
  · rfl
  · intro x hx
    obtain hdispatching | rfl | rfl := (hplan.1 x hx).dispatching rfl
    · cases x <;> first | rfl | contradiction
    · rfl
    · rfl

/-- **Only eligible instances get requests.** -/
theorem eligible (life : Life settings permits (w :: past)) (step : w.Step w') {r b : Nat}
    (h : w.assigns w' = some (r, b)) : w.Eligible past b := by
  obtain ⟨hpooled, rest, htasks⟩ := (life.moves step).dispatch_of_assigns h
  have hroster := life.sound.roster
  have hlive := pooled_isRetired hroster hpooled
  refine ⟨hlive, ?_, fun q hq => life.out_of_failed hq hpooled, fun hcount => ?_⟩
  · have htracked := (tracked_iff hroster _ b).2 ⟨hlive, rfl⟩
    refine (life.covered.tracked _ (by simp [htracked])).resolve_right fun hmem => ?_
    have hkept := List.all_eq_true.1 (life.swept_of_dispatch htasks) _ hmem
    contradiction
  · rw [life.steady.1] at hcount
    exact life.opened hcount (.inl (hroster.pooled b hpooled))

/-- **No request is dispatched twice to one instance in a stretch.** -/
theorem chain_nodup (life : Life settings permits (w :: past)) (r : Nat) :
    (chain r (w :: past)).Nodup := by
  induction life using Life.induct with
  | initial => exact List.nodup_nil
  | signalled _ ih => simpa [chain, gather_stretch, turns_signal, assigns, books_signal] using ih
  | @kept w w' past life step ih =>
      rw [chain, gather_stretch]
      split
      · exact List.nodup_nil
      cases hassigns : w.assigns w' with
      | none => simpa [chain] using ih
      | some x =>
          obtain ⟨q, b⟩ := x
          by_cases hq : q = r
          · subst hq
            have hnew : b ∉ chain q (w :: past) := by
              intro hmem
              obtain ⟨⟨_, _⟩, hx, rfl⟩ := List.mem_map.1 hmem
              obtain ⟨hassigned, hxq⟩ := List.mem_filter.1 hx
              obtain rfl := of_decide_eq_true hxq
              obtain hbound | hfailed := life.placed _ _ hassigned
              · obtain ⟨-, rest, htasks⟩ := (life.moves step).dispatch_of_assigns hassigns
                obtain ⟨queued, hhand⟩ := hand_of_dispatch htasks
                exact hbound.hand queued hhand
              · exact hfailed (life.eligible step hassigns).unfailed
            have hchain := List.Nodup.concat hnew ih
            simpa [chain] using hchain
          · simpa [chain, hq] using ih

/-- A request is dispatched only to instances that take requests. -/
theorem chain_subset (life : Life settings permits (w :: past)) {r b : Nat}
    (h : b ∈ chain r (w :: past)) : b ∈ takers (w :: past) := by
  obtain ⟨⟨_, _⟩, hx, rfl⟩ := List.mem_map.1 h
  have hassigned := (List.mem_filter.1 hx).1
  clear hx h
  rw [takers, List.mem_toFinset, List.mem_flatMap]
  induction life using Life.induct with
  | initial => contradiction
  | signalled _ ih =>
      obtain ⟨v, hv, hb⟩ :=
        ih (by simpa [gather_stretch, turns_signal, assigns, books_signal] using hassigned)
      rw [List.mem_filter] at hv
      exact ⟨v, List.mem_filter.2 ⟨by simp [stretch, turns_signal, hv.1], hv.2⟩, hb⟩
  | @kept w w' past life step ih =>
      rw [gather_stretch] at hassigned
      rw [stretch]
      split at hassigned
      · contradiction
      next hturns =>
      rw [if_neg hturns]
      obtain hold | hnew := List.mem_append.1 hassigned
      · obtain ⟨v, hv, hb⟩ := ih hold
        rw [List.mem_filter] at hv
        exact ⟨v, List.mem_filter.2 ⟨List.mem_cons_of_mem _ hv.1, hv.2⟩, hb⟩
      · obtain ⟨hpooled, rest, htasks⟩ :=
          (life.moves step).dispatch_of_assigns (Option.mem_toList.1 hnew)
        obtain ⟨a, ha⟩ := life.sound.roster.pooled _ hpooled
        obtain ⟨before, hbefore⟩ := stretch_cons w past
        have hmem : w ∈ w' :: stretch (w :: past) :=
          List.mem_cons_of_mem _ (hbefore ▸ List.mem_cons_self)
        refine ⟨w, List.mem_filter.2 ⟨hmem, life.swept_of_dispatch htasks⟩, List.mem_map.2 ?_⟩
        exact ⟨_, Directory.mem_entries_of_find? ha, rfl⟩

/-- **Only eligible instances get requests.**  In every history:

* whatever a forward carries was dispatched;
* a request is dispatched only to an instance that was not given up, that is up in the
  snapshot to which the scheduler last turned, to which no dial was reported as failed
  since, and, if it has slots, in which there was a tunnel;
* so in the stretch since that snapshot a request is dispatched to an instance once at
  most, and to no more of them than took requests in that stretch, those apart that were
  removed because of that snapshot. -/
theorem only_eligible (life : Life settings permits (w :: past)) :
    (∀ f ∈ w.scheduler.forwards, (f.request, f.backend) ∈ gather assigns (w :: past)) ∧
    (∀ w' r b, w.Step w' → w.assigns w' = some (r, b) → w.Eligible past b) ∧
    ∀ r, (chain r (w :: past)).Nodup ∧
      (chain r (w :: past)).length ≤ (takers (w :: past)).card := by
  refine ⟨fun f hf => ?_, fun w' r b step => life.eligible step, fun r => ?_⟩
  · exact life.traced.carried _ (List.mem_append_left _ (List.mem_map_of_mem hf))
  · have hnodup := life.chain_nodup r
    refine ⟨hnodup, ?_⟩
    rw [← List.toFinset_card_of_nodup hnodup]
    exact Finset.card_le_card fun b hb => life.chain_subset (List.mem_toFinset.1 hb)

/-- A history in which a request is about to be dispatched to an instance that got its
first tunnel. -/
theorem only_eligible_of_first_tunnel :
    ∃ w past, Life ⟨.leastLoaded, false, 1, 1, 1, ⟨0, 100⟩, default⟩ 1 (w :: past) ∧
      w.assigns w.next = some (0, 0) ∧ w.Eligible past 0 ∧ chain 0 (w.next :: w :: past) = [0] := by
  have begun := @Life.start ⟨.leastLoaded, false, 1, 1, 1, ⟨0, 100⟩, default⟩ 1
  -- a snapshot makes an instance, and a session is asked for
  have posted := begun.step (.work (.post (.ofHealthy ["a"])))
  have opened := posted.step
    (.receive rfl (.snapshot rfl) (.snapshot _ (by decide) .rfl .rfl (.inl rfl)))
  have arrived := (opened.step (step_next (by decide +kernel))).step (step_next (by decide +kernel))
  have ready := (arrived.step (step_next (by decide +kernel))).step (step_next (by decide +kernel))
  -- the session gets a tunnel, which is put into the slot
  have looked := (ready.step (step_session 0 0 (by decide +kernel))).step
    (step_session 0 0 (by decide +kernel))
  have dialing := looked.step (step_session 0 0 (by decide +kernel))
  have dialed := dialing.step (.work (@Work.dialed _ 0 ⟨0, 0, 0, .dialing 0⟩
    { answer := .fail .streamsExhausted } (by decide +kernel) rfl rfl))
  have handed := dialed.step (step_session 0 0 (by decide +kernel))
  have heard := handed.step
    (.receive (by decide +kernel) (@Receives.handover _ ⟨0, 0, 0⟩ [] (by decide +kernel))
      (.handover _))
  have filled := (heard.step (step_next (by decide +kernel))).step (step_next (by decide +kernel))
  have idle := (filled.step (step_next (by decide +kernel))).step (step_next (by decide +kernel))
  -- a request comes
  have accepted := idle.step (@Step.arrive _ 0 _ (by decide +kernel) (if_neg (by decide +kernel)))
  have taken := accepted.step
    (.receive (by decide +kernel) (@Receives.request _ 0 [] (by decide +kernel)) (.request 0))
  have called := taken.step (step_next (by decide +kernel))
  obtain ⟨w, past, life, htasks, hassigns, hchain⟩ :
      ∃ w past, Life ⟨.leastLoaded, false, 1, 1, 1, ⟨0, 100⟩, default⟩ 1 (w :: past) ∧
        w.tasks ≠ [] ∧ w.assigns w.next = some (0, 0) ∧ chain 0 (w.next :: w :: past) = [0] :=
    ⟨_, _, called, by decide +kernel, by decide +kernel, by decide +kernel⟩
  have heligible := (only_eligible life).2.1 _ 0 0 (step_next htasks) hassigns
  exact ⟨w, past, life, hassigns, heligible, hchain⟩

end Life

end StreamBalancer
