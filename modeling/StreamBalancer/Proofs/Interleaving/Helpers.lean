import StreamBalancer.Proofs.Interleaving

/-!
# StreamBalancer.Proofs.Interleaving.Helpers

What one step of a forward or of a session can do, said once for all that is
proved about them.

* `stepForward?_cases` — a forward moves on, leaves the count of forwards in
  flight, or reports;
* `stepSession?_cases` — a session hands its tunnel over, ends without one, or
  goes on.
-/

namespace StreamBalancer

/-! ## Broken tunnels in the hands of a forward -/

/-- The tunnel that a search has taken out of its slot and not yet closed. -/
def Opening.taken? (o : Opening) : Option Failure :=
  match o.phase with
  | .evicted v => some ⟨o.backend, v.slot, v.tunnel⟩
  | _ => none

/-- The tunnel that a search has closed and not yet reported. -/
def Opening.owed? (o : Opening) : Option Failure :=
  match o.phase with
  | .reporting v => some ⟨o.backend, v.slot, v.tunnel⟩
  | _ => none

namespace Forward

/-- The tunnel that a forward has taken out of its slot and not yet closed. -/
def Stage.taken? : Stage → Option Failure
  | .opening o => o.taken?
  | _ => none

/-- The tunnel that a forward has closed and not yet reported. -/
def Stage.owed? : Stage → Option Failure
  | .opening o => o.owed?
  | _ => none

/-- The instance and the slot that a forward visits, with the tunnel it found there and
asks for a stream. -/
def Stage.visit? : Stage → Option (Nat × Opening.Visit)
  | .opening ⟨b, _, .asking v _⟩ => some (b, v)
  | _ => none

/-- What a step of a forward does to slots, tunnels and reports. -/
inductive Touches (f : Fleet) (old new : Stage) (g : Fleet) : Prop where
  | nothing (holdTaken : old.taken? = none) (holdOwed : old.owed? = none)
      (hnewTaken : new.taken? = none) (hnewOwed : new.owed? = none)
      (hbackends : g.backends = f.backends) (hfailures : g.failures = f.failures)
      (hcloses : g.tunnels.toList.map Tunnel.closes = f.tunnels.toList.map Tunnel.closes)
  | evicts (x : Failure) (holdTaken : old.taken? = none) (holdOwed : old.owed? = none)
      (hnewTaken : new.taken? = some x) (hnewOwed : new.owed? = none)
      (hslot : f.tunnelAt x.backend x.slot = some x.tunnel)
      (hbackends : g.backends =
        (f.modifySlot x.backend x.slot fun y => { y with tunnel := none }).backends)
      (hfailures : g.failures = f.failures)
      (hcloses : g.tunnels.toList.map Tunnel.closes = f.tunnels.toList.map Tunnel.closes)
  | closes (x : Failure) (holdTaken : old.taken? = some x) (holdOwed : old.owed? = none)
      (hnewTaken : new.taken? = none) (hnewOwed : new.owed? = some x) (hfleet : g = f.close x.tunnel)
  | reports (x : Failure) (holdTaken : old.taken? = none) (holdOwed : old.owed? = some x)
      (hnewTaken : new.taken? = none) (hnewOwed : new.owed? = none)
      (hbackends : g.backends = f.backends) (hfailures : g.failures = f.failures ++ [x])
      (hcloses : g.tunnels.toList.map Tunnel.closes = f.tunnels.toList.map Tunnel.closes)

end Forward

theorem Tunnel.closes_reply (t : Tunnel) (held : Bool) (reach : ListenAddress → Bool) :
    (t.reply held reach).2.closes = t.closes := by
  unfold reply
  split
  · rfl
  · split
    · rfl
    · rfl
    · rfl
    · split <;> rfl

/-- How often a tunnel was told to close. -/
def Fleet.closesOf (f : Fleet) (t : Nat) : Nat := ((f.tunnels[t]?).map Tunnel.closes).getD 0

theorem Fleet.closesOf_congr {f g : Fleet}
    (h : g.tunnels.toList.map Tunnel.closes = f.tunnels.toList.map Tunnel.closes) (t : Nat) :
    g.closesOf t = f.closesOf t := by
  have hentry := congrArg (·[t]?) h
  simp only [List.getElem?_map, Array.getElem?_toList] at hentry
  rw [closesOf, closesOf, hentry]

theorem Fleet.closesOf_close {f : Fleet} {t : Nat} (ht : t < f.tunnels.size) (u : Nat) :
    (f.close t).closesOf u = f.closesOf u + [t].count u := by
  simp only [closesOf, close, modifyTunnel, Array.getElem?_modify]
  by_cases hu : t = u
  · subst hu
    simp [ht, Tunnel.close]
  · simp [hu]

/-- A tunnel that there is not is not closed. -/
theorem Fleet.close_of_size_le {f : Fleet} {t : Nat} (ht : f.tunnels.size ≤ t) : f.close t = f := by
  have hsame : f.tunnels.modify t Tunnel.close = f.tunnels := by
    refine Array.ext_getElem? fun u => ?_
    rw [Array.getElem?_modify]
    split
    · next htu => rw [← htu, Array.getElem?_eq_none ht, Option.map_none]
    · rfl
  rw [close, modifyTunnel, hsame]

/-- A change of a tunnel that leaves its count of closes leaves all of them. -/
theorem Fleet.closes_modifyTunnel (f : Fleet) (t : Nat) (change : Tunnel → Tunnel)
    (h : ∀ x, f.tunnels[t]? = some x → (change x).closes = x.closes) :
    (f.modifyTunnel t change).tunnels.toList.map Tunnel.closes =
      f.tunnels.toList.map Tunnel.closes := by
  apply List.ext_getElem?
  intro i
  simp only [modifyTunnel, List.getElem?_map, Array.getElem?_toList, Array.getElem?_modify]
  split
  · next hi =>
    subst hi
    cases hx : f.tunnels[t]? with
    | none => rfl
    | some x => exact congrArg some (h x hx)
  · rfl

namespace Opening

theorem ask_closes {reach : ListenAddress → Bool} {f : Fleet} {v : Visit} {held : Bool} {x : Tunnel}
    (h : f.tunnels[v.tunnel]? = some x) : (ask reach f v held).2.closes = x.closes := by
  simp only [ask, h]
  exact x.closes_reply held reach

theorem closes_ask (reach : ListenAddress → Bool) (f : Fleet) (v : Visit) (held : Bool) :
    (f.modifyTunnel v.tunnel fun _ => (ask reach f v held).2).tunnels.toList.map Tunnel.closes =
      f.tunnels.toList.map Tunnel.closes :=
  f.closes_modifyTunnel _ _ fun _ hx => ask_closes hx

/-- An error evicts the tunnel if it breaks the session and the tunnel is still
in its slot; otherwise it changes nothing but the search, which goes on elsewhere. -/
theorem failed_cases (f : Fleet) (o : Opening) (v : Visit) (e : TunnelError) :
    ((o.failed f v e).2 = f ∧ (o.failed f v e).1.taken? = none ∧ (o.failed f v e).1.owed? = none ∧
        Forward.Stage.visit? (.opening (o.failed f v e).1) = none ∧
        (e.breaksSession = true → f.tunnelAt o.backend v.slot ≠ some v.tunnel)) ∨
      ((o.failed f v e).1 = { o with phase := .evicted v } ∧
        f.tunnelAt o.backend v.slot = some v.tunnel ∧
        (o.failed f v e).2 =
          f.modifySlot o.backend v.slot fun y => { y with tunnel := none }) := by
  unfold failed
  split
  · obtain ⟨hslot, hevict⟩ | ⟨hslot, hevict⟩ := f.evict_cases o.backend v.slot v.tunnel
    · rw [hevict]
      exact .inr ⟨rfl, hslot, rfl⟩
    · rw [hevict]
      exact .inl ⟨rfl, rfl, rfl, rfl, fun _ => hslot⟩
  · next hbreak => exact .inl ⟨rfl, rfl, rfl, rfl, fun h => absurd h hbreak⟩

theorem seek_holds_nothing (f : Fleet) (o : Opening) (visited : Nat) :
    (o.seek f visited).taken? = none ∧ (o.seek f visited).owed? = none := by
  unfold seek
  split
  · exact ⟨rfl, rfl⟩
  · dsimp only
    split <;> exact ⟨rfl, rfl⟩

theorem dialed_holds_nothing (o : Opening) (accepted : Bool) :
    (o.dialed accepted).taken? = none ∧ (o.dialed accepted).owed? = none := by
  cases accepted <;> exact ⟨rfl, rfl⟩

/-- A step of a search keeps its instance and touches the fleet in one of four
ways. -/
theorem step?_touches {reach : ListenAddress → Bool} {f g : Fleet} {o o' : Opening}
    (h : o.step? reach f = some (o', g)) : Forward.Touches f (.opening o) (.opening o') g := by
  obtain ⟨b, start, phase⟩ := o
  cases phase with
  | seeking visited =>
      obtain ⟨rfl, rfl⟩ := Prod.mk.inj (Option.some.inj h)
      obtain ⟨htaken, howed⟩ := seek_holds_nothing f ⟨b, start, .seeking visited⟩ visited
      exact .nothing rfl rfl htaken howed rfl rfl rfl
  | asking v held =>
      have hcloses := closes_ask reach f v held
      simp only [step?] at h
      split at h
      · split at h
        · contradiction
        · obtain ⟨rfl, rfl⟩ := Prod.mk.inj (Option.some.inj h)
          exact .nothing rfl rfl rfl rfl rfl rfl rfl
      · next t hask =>
        obtain ⟨rfl, rfl⟩ := Prod.mk.inj (Option.some.inj h)
        rw [hask] at hcloses
        exact .nothing rfl rfl rfl rfl rfl rfl hcloses
      · next e t hask =>
        obtain rfl := congrArg Prod.fst (Option.some.inj h)
        obtain rfl := congrArg Prod.snd (Option.some.inj h)
        rw [hask] at hcloses
        obtain ⟨hfleet, htaken, howed, -, -⟩ | ⟨hsearch, hslot, hfleet⟩ :=
          failed_cases (f.modifyTunnel v.tunnel fun _ => t) ⟨b, start, .asking v held⟩ v e
        · rw [hfleet]
          exact .nothing rfl rfl htaken howed rfl rfl hcloses
        · rw [hsearch, hfleet]
          exact .evicts ⟨b, v.slot, v.tunnel⟩ rfl rfl rfl rfl hslot rfl rfl hcloses
  | evicted v =>
      obtain ⟨rfl, rfl⟩ := Prod.mk.inj (Option.some.inj h)
      exact .closes ⟨b, v.slot, v.tunnel⟩ rfl rfl rfl rfl rfl
  | reporting v =>
      obtain ⟨rfl, rfl⟩ := Prod.mk.inj (Option.some.inj h)
      exact .reports ⟨b, v.slot, v.tunnel⟩ rfl rfl rfl rfl rfl rfl rfl
  | dialing =>
      obtain ⟨rfl, rfl⟩ := Prod.mk.inj (Option.some.inj h)
      obtain ⟨htaken, howed⟩ := dialed_holds_nothing ⟨b, start, .dialing⟩
        (reach (.tcp (address f ⟨b, start, .dialing⟩)))
      exact .nothing rfl rfl htaken howed rfl rfl rfl
  | found route => contradiction
  | unreachable => contradiction

/-- A search that turns to a slot has found a tunnel there. -/
theorem seek_visits {f : Fleet} {o : Opening} {visited : Nat} {x : Nat × Visit}
    (h : Forward.Stage.visit? (.opening (o.seek f visited)) = some x) :
    f.tunnelAt x.1 x.2.slot = some x.2.tunnel := by
  unfold seek at h
  split at h
  · contradiction
  · dsimp only at h
    split at h
    · next t ht =>
      obtain rfl := Option.some.inj h
      rw [slots] at ht
      rw [Fleet.tunnelAt, Fleet.slot?]
      cases hb : f.backend? o.backend with
      | none => simp [hb] at ht
      | some y =>
          rw [hb] at ht
          exact ht
    · contradiction

/-- A search that turns to a slot has found a tunnel there; the others go on with
their visit or end it. -/
theorem step?_visits {reach : ListenAddress → Bool} {f g : Fleet} {o o' : Opening}
    (h : o.step? reach f = some (o', g)) {x : Nat × Visit}
    (hx : Forward.Stage.visit? (.opening o') = some x) :
    Forward.Stage.visit? (.opening o) = some x ∨ g.tunnelAt x.1 x.2.slot = some x.2.tunnel := by
  obtain ⟨b, start, phase⟩ := o
  cases phase with
  | seeking visited =>
      obtain ⟨rfl, rfl⟩ := Prod.mk.inj (Option.some.inj h)
      exact .inr (seek_visits hx)
  | asking v held =>
      simp only [step?] at h
      split at h
      · split at h
        · contradiction
        · obtain ⟨rfl, rfl⟩ := Prod.mk.inj (Option.some.inj h)
          exact .inl hx
      · obtain ⟨rfl, rfl⟩ := Prod.mk.inj (Option.some.inj h)
        contradiction
      · next e t _ =>
        obtain rfl := congrArg Prod.fst (Option.some.inj h)
        obtain ⟨-, -, -, hnone, -⟩ | ⟨hsearch, -, -⟩ :=
          failed_cases (f.modifyTunnel v.tunnel fun _ => t) ⟨b, start, .asking v held⟩ v e
        · rw [hnone] at hx
          contradiction
        · rw [hsearch] at hx
          contradiction
  | evicted v | reporting v =>
      obtain ⟨rfl, rfl⟩ := Prod.mk.inj (Option.some.inj h)
      contradiction
  | dialing =>
      obtain ⟨rfl, rfl⟩ := Prod.mk.inj (Option.some.inj h)
      simp only [dialed] at hx
      split at hx <;> contradiction
  | found route => contradiction
  | unreachable => contradiction

end Opening

/-! ## Forwards -/

/-- Whether a forward has ended, its guard apart. -/
def Forward.Stage.isOver : Forward.Stage → Bool
  | .ended _ | .reporting _ => true
  | _ => false

namespace Scheduler

/-- A step of a forward. -/
inductive ForwardMoves (s : Scheduler) (f : Forward) : Scheduler → Prop where
  /-- It looks for a route, or finds one, or finds none. -/
  | advances {stage : Forward.Stage} {g : Fleet} (hold : f.stage.isOver = false)
      (hnew : stage.isOver = true → stage = .ended (.dialFailed f.request))
      (htouches : Forward.Touches s.fleet f.stage stage g)
      (hvisits : ∀ x, stage.visit? = some x →
        f.stage.visit? = some x ∨ g.tunnelAt x.1 x.2.slot = some x.2.tunnel) :
      ForwardMoves s f (({ s with fleet := g }).setForward f.request stage)
  /-- It leaves the count of forwards in flight. -/
  | releases {outcome : Outcome} (hold : f.stage = .ended outcome) :
      ForwardMoves s f
        (({ s with inFlight := s.inFlight - 1 }).setForward f.request (.reporting outcome))
  /-- It reports how it ended. -/
  | reports {outcome : Outcome} (hold : f.stage = .reporting outcome) :
      ForwardMoves s f ((s.removeForward f.request).report ⟨f.backend, outcome⟩)

/-- A report gives up a request or joins the other reports, and leaves the rest alone. -/
theorem report_keeps {α : Type} (view : Scheduler → α)
    (h : ∀ s permits dropped outcomes, view { s with permits, dropped, outcomes } = view s)
    (s : Scheduler) (f : Finished) : view (s.report f) = view s := by
  unfold report
  split
  · split
    · exact h s _ _ s.outcomes
    · rfl
  · exact h s s.permits s.dropped _

theorem request_of_forward? {s : Scheduler} {r : Nat} {f : Forward} (h : s.forward? r = some f) :
    f.request = r := by
  have := List.find?_some h
  simpa using this

theorem stepForward?_cases {s t : Scheduler} {reach : ListenAddress → Bool} {r : Nat}
    (h : s.stepForward? reach r = some t) : ∃ f, s.forward? r = some f ∧ s.ForwardMoves f t := by
  unfold stepForward? at h
  cases hf : s.forward? r with
  | none =>
      rw [hf] at h
      contradiction
  | some f =>
      refine ⟨f, rfl, ?_⟩
      obtain rfl := request_of_forward? hf
      rw [hf] at h
      obtain ⟨r, b, stage⟩ := f
      cases stage with
      | starting =>
          obtain rfl := Option.some.inj h
          exact .advances rfl (by simp [Forward.Stage.isOver]) (.nothing rfl rfl rfl rfl rfl rfl rfl)
            fun _ hx => by contradiction
      | opening search =>
          obtain ⟨b', start, phase⟩ := search
          cases phase with
          | found route =>
              obtain rfl := Option.some.inj h
              exact .advances rfl (by simp [Forward.Stage.isOver])
                (.nothing rfl rfl rfl rfl rfl rfl rfl) fun _ hx => by contradiction
          | unreachable =>
              obtain rfl := Option.some.inj h
              exact .advances rfl (fun _ => rfl) (.nothing rfl rfl rfl rfl rfl rfl rfl)
                fun _ hx => by contradiction
          | _ =>
              obtain ⟨⟨search, g⟩, hstep, rfl⟩ := Option.map_eq_some_iff.1 h
              exact .advances rfl (by simp [Forward.Stage.isOver]) (Opening.step?_touches hstep)
                fun _ hx => Opening.step?_visits hstep hx
      | splicing route => contradiction
      | ended outcome =>
          obtain rfl := Option.some.inj h
          exact .releases rfl
      | reporting outcome =>
          obtain rfl := Option.some.inj h
          exact .reports rfl

/-- The end of a splice credits bytes to an instance at most, and leaves everything
else of the fleet that is not a measurement. -/
theorem endSplice_eq {s : Scheduler} {r : Nat} {f : Forward} (h : s.forward? r = some f)
    (moved : Option (Nat × Nat)) :
    ∃ g outcome, s.endSplice r moved =
        (({ s with fleet := g }).returnPermit).setForward r (.ended outcome) ∧
      outcome.request? = none ∧ g.tunnels = s.fleet.tunnels ∧ g.failures = s.fleet.failures ∧
      ∀ {α : Type} (view : Backend → α), (∀ x m n, view (x.credit m n) = view x) →
        g.backends.toList.map view = s.fleet.backends.toList.map view := by
  unfold endSplice
  rw [h]
  dsimp only
  split
  · exact ⟨_, .completed, rfl, rfl, rfl, rfl,
      fun view hview => Fleet.map_modifyBackend view fun x _ => hview x _ _⟩
  · exact ⟨s.fleet, .failed, rfl, rfl, rfl, rfl, fun _ _ => rfl⟩

/-! ## Sessions -/

end Scheduler

/-- The tunnel that a session has and has not handed over. -/
def Session.tunnel? (x : Session) : Option Nat :=
  match x.stage with
  | .established t => some t
  | _ => none

namespace Scheduler

/-- A step of a session. -/
inductive SessionMoves (s : Scheduler) (x : Session) : Scheduler → Prop where
  /-- It hands its tunnel over. -/
  | hands {t : Nat} (hold : x.tunnel? = some t) :
      SessionMoves s x ((s.removeSession x.number).handOver ⟨x.backend, x.slot, t⟩)
  /-- It ends without a tunnel, which nobody wants. -/
  | ends (hold : x.tunnel? = none) (hwhy : s.signalled = true ∨ s.isRetired x.backend = true) :
      SessionMoves s x (s.removeSession x.number)
  /-- It goes on without a tunnel. -/
  | goes (metrics : Metrics) {change : Session → Session} (hold : x.tunnel? = none)
      (hnew : (change x).tunnel? = none)
      (hkeeps : ∀ y, (change y).number = y.number ∧ (change y).backend = y.backend ∧
        (change y).slot = y.slot) :
      SessionMoves s x
        (({ s with fleet := { s.fleet with metrics } }).modifySession x.number change)

theorem number_of_session? {s : Scheduler} {n : Nat} {x : Session} (h : s.session? n = some x) :
    x.number = n := by
  have := List.find?_some h
  simpa using this

theorem dialFailed_moves {s : Scheduler} {x : Session} (draw : Nat) (hold : x.tunnel? = none) :
    s.SessionMoves x (s.dialFailed x.number draw) :=
  .goes _ hold rfl fun _ => ⟨rfl, rfl, rfl⟩

theorem stepSession?_cases {s t : Scheduler} {draw n : Nat} (h : s.stepSession? draw n = some t) :
    ∃ x, s.session? n = some x ∧ s.SessionMoves x t := by
  unfold stepSession? at h
  cases hx : s.session? n with
  | none =>
      rw [hx] at h
      contradiction
  | some x =>
      refine ⟨x, rfl, ?_⟩
      obtain rfl := number_of_session? hx
      rw [hx] at h
      obtain ⟨n, b, slot, stage⟩ := x
      have hgoes : ∀ stage', Session.tunnel? ⟨n, b, slot, stage⟩ = none →
          Session.tunnel? ⟨n, b, slot, stage'⟩ = none →
          s.SessionMoves ⟨n, b, slot, stage⟩ (s.modifySession n fun y => { y with stage := stage' }) :=
        fun _ hold hnew => .goes s.fleet.metrics hold hnew fun _ => ⟨rfl, rfl, rfl⟩
      cases stage with
      | established tunnel =>
          obtain rfl := Option.some.inj h
          exact .hands rfl
      | idle =>
          dsimp only at h
          split at h
          · next hretired =>
            obtain rfl := Option.some.inj h
            exact .ends rfl (.inr hretired)
          · obtain rfl := Option.some.inj h
            exact hgoes _ rfl rfl
      | retained =>
          dsimp only at h
          split at h
          · next hend =>
            obtain rfl := Option.some.inj h
            exact .ends rfl (.inl hend)
          · obtain rfl := Option.some.inj h
            exact hgoes _ rfl rfl
      | cleared =>
          dsimp only at h
          split at h
          · next hend =>
            obtain rfl := Option.some.inj h
            exact .ends rfl (.inl (Bool.and_eq_true_iff.1 hend).1)
          · obtain rfl := Option.some.inj h
            exact hgoes _ rfl rfl
      | dialing since =>
          dsimp only at h
          split at h
          · next hend =>
            obtain rfl := Option.some.inj h
            exact .ends rfl (.inl hend)
          · split at h
            · obtain rfl := Option.some.inj h
              exact dialFailed_moves draw rfl
            · contradiction
      | waiting wakeup =>
          dsimp only at h
          split at h
          · next hend =>
            obtain rfl := Option.some.inj h
            exact .ends rfl (.inl hend)
          · split at h
            · obtain rfl := Option.some.inj h
              exact hgoes _ rfl rfl
            · contradiction

end Scheduler

end StreamBalancer
