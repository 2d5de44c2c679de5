import StreamBalancer.Proofs.Interleaving.Roster

/-!
# StreamBalancer.Proofs.Interleaving.Handlers

The tasks of a message, done one after the other without interruption, are what the
handler of the message does (`does_handle`).  So whatever the scheduler does by its
handlers is a history (`Run.of_handle`).

Two handlers go through the slots of an instance: the inspection of its tunnels
(`foldl_replace`) and its removal (`foldl_vacate`).  There the tasks take one slot at a
time, and the handler all of them at once.
-/

namespace StreamBalancer

namespace Scheduler

/-- Tasks, done one after the other, take a scheduler to another one. -/
inductive Does : Scheduler → List Task → Scheduler → Prop where
  | nil (s : Scheduler) : Does s [] s
  | cons {s t : Scheduler} {task : Task} {rest : List Task}
      (h : Does (s.perform task).1 ((s.perform task).2 ++ rest) t) : Does s (task :: rest) t

namespace Does

variable {s t u : Scheduler} {xs ys : List Task} {task : Task}

theorem append (h : Does s xs t) (h' : Does t ys u) : Does s (xs ++ ys) u := by
  induction h with
  | nil => exact h'
  | cons _ ih =>
      rw [List.cons_append]
      apply Does.cons
      rw [← List.append_assoc]
      exact ih h'

/-- What comes of tasks is settled. -/
theorem unique (h : Does s xs t) (h' : Does s xs u) : t = u := by
  induction h with
  | nil => cases h'; rfl
  | cons _ ih =>
      cases h' with
      | cons h' => exact ih h'

/-- The first of the tasks are done before the others. -/
theorem split (h : Does s (xs ++ ys) u) : ∃ t, Does s xs t ∧ Does t ys u := by
  generalize htasks : xs ++ ys = tasks at h
  induction h generalizing xs with
  | nil s =>
      obtain ⟨rfl, rfl⟩ := List.append_eq_nil_iff.1 htasks
      exact ⟨s, .nil s, .nil s⟩
  | @cons s u task rest h ih =>
      cases xs with
      | nil =>
          obtain rfl : ys = task :: rest := htasks
          exact ⟨s, .nil s, .cons h⟩
      | cons x xs =>
          obtain ⟨rfl, rfl⟩ := List.cons.inj htasks
          obtain ⟨t, hfirst, hthen⟩ := ih (List.append_assoc _ _ _)
          exact ⟨t, .cons hfirst, hthen⟩

/-- What tasks of a kind keep, if they lead to tasks of that kind only, is kept in the end. -/
theorem kept (P : Scheduler → Prop) (kind : Task → Bool)
    (hkept : ∀ s x, kind x = true → P s →
      P (s.perform x).1 ∧ ∀ y ∈ (s.perform x).2, kind y = true)
    (h : Does s xs t) (hxs : ∀ x ∈ xs, kind x = true) (hs : P s) : P t := by
  induction h with
  | nil => exact hs
  | cons _ ih =>
      obtain ⟨hnow, hnew⟩ := hkept _ _ (hxs _ List.mem_cons_self) hs
      refine ih (fun y hy => ?_) hnow
      obtain hy | hy := List.mem_append.1 hy
      · exact hnew y hy
      · exact hxs y (List.mem_cons_of_mem _ hy)

/-- A task is done when the tasks it leads to are done. -/
theorem of_perform (h : s.perform task = (t, xs)) (h' : Does t xs u) : Does s [task] u := by
  apply Does.cons
  rw [h, List.append_nil]
  exact h'

/-- A task that leads to no other. -/
theorem single (h : s.perform task = (t, [])) : Does s [task] t := of_perform h (.nil t)

/-- One task for each element of a list. -/
theorem map {α : Type} {toTask : α → Task} {f : Scheduler → α → Scheduler}
    (h : ∀ s x, Does s [toTask x] (f s x)) (l : List α) (s : Scheduler) :
    Does s (l.map toTask) (l.foldl f s) := by
  induction l generalizing s with
  | nil => exact .nil s
  | cons x rest ih => exact (h s x).append (ih (f s x))

end Does

/-! ## Slots, one by one -/

theorem modifyBackend_const (f : Fleet) {b : Nat} {x : Backend} (hx : f.backend? b = some x)
    (change : Backend → Backend) :
    f.modifyBackend b change = f.modifyBackend b fun _ => change x := by
  apply Fleet.modifyBackend_congr
  intro y hy
  rw [hx] at hy
  rw [Option.some.inj hy]

theorem modifyBackend_self {f : Fleet} {b : Nat} {x : Backend} (hx : f.backend? b = some x) :
    (f.modifyBackend b fun _ => x) = f :=
  Fleet.modifyBackend_eq_self fun _ hy => Option.some.inj (hx.symm.trans hy)

theorem modifyBackend_modifyBackend (f : Fleet) (b : Nat) (change : Backend → Backend) (x : Backend) :
    (f.modifyBackend b change).modifyBackend b (fun _ => x) = f.modifyBackend b fun _ => x := by
  have hsame : (f.backends.modify b change).modify b (fun _ => x) = f.backends.modify b fun _ => x := by
    apply Array.ext_getElem?
    intro i
    simp only [Array.getElem?_modify]
    split
    · rw [Option.map_map]
      rfl
    · rfl
  rw [Fleet.modifyBackend, Fleet.modifyBackend, Fleet.modifyBackend, hsame]

theorem modify_middle {α : Type} (front back : List α) (y : α) (change : α → α) :
    (front ++ y :: back).modify front.length change = front ++ change y :: back := by
  induction front with
  | nil => rfl
  | cons x front ih => exact congrArg (x :: ·) ih

/-- The instance after a change of the slot that follows on others. -/
theorem backend?_modifySlot_middle {f : Fleet} {b : Nat} {x : Backend} {front back : List Slot}
    {y : Slot} (hx : f.backend? b = some x) (hslots : x.slots = front ++ y :: back)
    (change : Slot → Slot) :
    (f.modifySlot b front.length change).backend? b =
      some { x with slots := front ++ change y :: back } := by
  rw [Fleet.modifySlot, Fleet.backend?_modifyBackend, if_pos rfl, hx, Option.map_some, hslots,
    modify_middle]

theorem slot?_middle {f : Fleet} {b : Nat} {x : Backend} {front back : List Slot} {y : Slot}
    (hx : f.backend? b = some x) (hslots : x.slots = front ++ y :: back) :
    f.slot? b front.length = some y := by
  rw [Fleet.slot?, hx, Option.bind_some, hslots]
  simp

/-! ## Inspection -/

/-- Whether the tunnel of a slot is to be replaced. -/
def isWorn (s : Scheduler) (x : Slot) : Bool := Backend.Slot.isWorn s.settings.policy s.fleet.nextId x

/-- Ask to replace the tunnel of a slot, if it is worn. -/
def replace (b : Nat) (s : Scheduler) (i : Nat) : Scheduler :=
  if (s.slot? b i).any s.isWorn then
    (({ s with fleet := s.fleet.modifySlot b i fun x => { x with replacing := true } }).count
      (.sessions .replaced)).requestSession b i
  else s

theorem does_inspect (b : Nat) (s : Scheduler) (i : Nat) :
    Does s [.inspect b i] (s.replace b i) := by
  have hslot : s.slot? b i = s.fleet.slot? b i := rfl
  have hperform : s.perform (.inspect b i) =
      (s, ((s.tunnelAt b i).map (.weigh b i)).toList) := rfl
  refine .of_perform hperform ?_
  rw [replace, tunnelAt, Fleet.tunnelAt, hslot]
  cases hx : s.fleet.slot? b i with
  | none => exact .nil s
  | some x =>
      rw [Option.bind_some, Option.any_some, isWorn, Backend.Slot.isWorn]
      cases ht : x.tunnel with
      | none =>
          rw [Bool.and_false, if_neg Bool.false_ne_true]
          exact .nil s
      | some t =>
          refine .single ?_
          simp only [perform]
          by_cases hworn : s.settings.policy.highWater < s.fleet.nextId t
          · obtain ⟨hnone, -⟩ | ⟨y, hy, hflag, hmark⟩ | ⟨y, hy, hflag, hmark⟩ :=
              s.fleet.markReplacing_cases b i
            · rw [hx] at hnone
              contradiction
            · obtain rfl := Option.some.inj (hx.symm.trans hy)
              simp [hworn, hmark, hflag]
            · obtain rfl := Option.some.inj (hx.symm.trans hy)
              simp [hworn, hmark, hflag]
          · simp [hworn]

/-- Ask to replace the tunnels of some slots of an instance, all at once. -/
def replaceAll (s : Scheduler) (b : Nat) (worn : List Nat) (x : Backend) : Scheduler :=
  worn.foldl (fun s i => s.requestSession b i)
    { s with
      fleet := worn.foldl (fun f _ => f.count (.sessions .replaced))
        (s.fleet.modifyBackend b fun _ => x) }

/-- The first of the slots may be taken before the others. -/
theorem replaceAll_cons (s : Scheduler) (b slot : Nat) (worn : List Nat) (x : Backend)
    (change : Backend → Backend) :
    s.replaceAll b (slot :: worn) x =
      ((((s.modifyBackend b change).count (.sessions .replaced)).requestSession b slot).replaceAll b
        worn x) := by
  have hlast : ((s.fleet.modifyBackend b change).count (.sessions .replaced)).modifyBackend b
      (fun _ => x) = (s.fleet.modifyBackend b fun _ => x).count (.sessions .replaced) :=
    congrArg (Fleet.count · (.sessions .replaced)) (modifyBackend_modifyBackend s.fleet b change x)
  have hfleet : (((s.modifyBackend b change).count (.sessions .replaced)).requestSession b
      slot).fleet = (s.fleet.modifyBackend b change).count (.sessions .replaced) := rfl
  rw [replaceAll, replaceAll, hfleet, hlast]
  rfl

/-- A slot after its inspection. -/
def inspected (s : Scheduler) (y : Slot) : Slot :=
  if s.isWorn y then { y with replacing := true } else y

/-- The slots of an instance from some slot on are inspected one by one. -/
theorem foldl_replace {b : Nat} (front back : List Slot) {s : Scheduler} {x : Backend} {n : Nat}
    (hn : front.length = n) (hx : s.fleet.backend? b = some x)
    (hslots : x.slots = front ++ back) :
    (List.range' n back.length).foldl (replace b) s =
      s.replaceAll b (((back.zipIdx n).filter fun y => s.isWorn y.1).map Prod.snd)
        { x with slots := front ++ back.map s.inspected } := by
  induction back generalizing s x front n with
  | nil =>
      have hsame : s.fleet.modifyBackend b (fun _ => { x with slots := front ++ [] }) = s.fleet := by
        rw [← hslots]
        exact modifyBackend_self hx
      rw [replaceAll, List.map_nil]
      simp only [List.zipIdx_nil, List.filter_nil, List.map_nil, List.foldl_nil]
      rw [hsame]
      rfl
  | cons y back ih =>
      subst hn
      have hslot : s.slot? b front.length = some y := slot?_middle hx hslots
      have hlength (z : Slot) : (front ++ [z]).length = front.length + 1 := by
        rw [List.length_append, List.length_singleton]
      rw [List.length_cons, List.range'_succ, List.foldl_cons, List.zipIdx_cons, List.filter_cons,
        List.map_cons]
      cases hy : s.isWorn y with
      | false =>
          have hsame : s.replace b front.length = s := by simp [replace, hslot, hy]
          have hkept : s.inspected y = y := by simp [inspected, hy]
          rw [hsame, if_neg Bool.false_ne_true, hkept, List.append_cons front y]
          exact ih _ (hlength y) hx (by rw [hslots, List.append_cons])
      | true =>
          let mark (z : Slot) : Slot := { z with replacing := true }
          have hreplace : replace b s front.length =
              (({ s with fleet := s.fleet.modifySlot b front.length mark }).count
                (.sessions .replaced)).requestSession b front.length := by
            simp [replace, hslot, hy, mark]
          have hmarked : s.inspected y = mark y := by simp [inspected, hy, mark]
          have hx' := backend?_modifySlot_middle hx hslots mark
          rw [List.append_cons] at hx'
          rw [hreplace, if_pos rfl, List.map_cons, hmarked, List.append_cons front,
            s.replaceAll_cons b front.length _ _ fun x => { x with slots := x.slots.modify front.length mark }]
          exact ih (x := { x with slots := front ++ [mark y] ++ back }) _ (hlength (mark y)) hx' rfl

/-- What an instance was before does not matter for what it becomes. -/
theorem replaceAll_modifyBackend (s : Scheduler) (b : Nat) (worn : List Nat) (x : Backend)
    (change : Backend → Backend) :
    (s.modifyBackend b change).replaceAll b worn x = s.replaceAll b worn x := by
  have hfleet := modifyBackend_modifyBackend s.fleet b change x
  rw [replaceAll, replaceAll, ← hfleet]
  rfl

theorem checkTunnels_eq (s : Scheduler) {b : Nat} {x : Backend} (hx : s.fleet.backend? b = some x) :
    s.checkTunnels b =
      s.replaceAll b (x.countDispatch.inspect s.settings.policy s.uptime s.fleet.nextId).1
        (x.countDispatch.inspect s.settings.policy s.uptime s.fleet.nextId).2 := by
  have hconst := modifyBackend_const s.fleet hx fun x =>
    (x.countDispatch.inspect s.settings.policy s.uptime s.fleet.nextId).2
  rw [checkTunnels, Fleet.checkTunnels, hx, replaceAll, ← hconst]

theorem does_check (s : Scheduler) (b : Nat) : Does s [.check b] (s.checkTunnels b) := by
  cases hx : s.fleet.backend? b with
  | none =>
      have hsame : s.checkTunnels b = s := by rw [checkTunnels, Fleet.checkTunnels, hx]; rfl
      rw [hsame]
      exact .single (by rw [perform, hx])
  | some x =>
      rw [checkTunnels_eq s hx]
      have hdue : x.countDispatch.inspectionDue s.settings.policy s.uptime =
          x.inspectionDue s.settings.policy s.uptime := rfl
      by_cases h : x.inspectionDue s.settings.policy s.uptime
      · let count (x : Backend) : Backend := { x.countDispatch with inspected := some s.uptime }
        have hperform : s.perform (.check b) =
            (s.modifyBackend b count, (List.range x.slots.length).map (.inspect b)) := by
          rw [perform, hx]
          exact if_pos h
        have hcounted : (s.modifyBackend b count).fleet.backend? b = some (count x) := by
          rw [modifyBackend, Fleet.backend?_modifyBackend, if_pos rfl, hx, Option.map_some]
        have hslots := foldl_replace [] x.slots (n := 0) rfl hcounted rfl
        have hinspect : x.countDispatch.inspect s.settings.policy s.uptime s.fleet.nextId =
            (((x.slots.zipIdx 0).filter fun y => s.isWorn y.1).map Prod.snd,
              { count x with slots := x.slots.map s.inspected }) := if_pos (hdue.trans h)
        rw [hinspect, ← replaceAll_modifyBackend s b _ _ count]
        have hdone := Does.map (does_inspect b) (List.range x.slots.length) (s.modifyBackend b count)
        rw [List.range_eq_range', hslots] at hdone
        rw [List.range_eq_range'] at hperform
        exact .of_perform hperform hdone
      · have hconst := modifyBackend_const s.fleet hx Backend.countDispatch
        have hinspect : x.countDispatch.inspect s.settings.policy s.uptime s.fleet.nextId =
            ([], x.countDispatch) := if_neg (hdue ▸ h)
        have hperform : s.perform (.check b) = (s.modifyBackend b Backend.countDispatch, []) := by
          rw [perform, hx]
          exact if_neg h
        rw [hinspect]
        refine .single (hperform.trans ?_)
        rw [modifyBackend, hconst]
        rfl

/-! ## Requests -/

/-- Giving requests up gives their permits back. -/
theorem foldl_drop (requests : List Nat) (s : Scheduler) :
    requests.foldl drop s =
      { s with permits := s.permits + requests.length, dropped := s.dropped ++ requests } := by
  induction requests generalizing s with
  | nil => simp
  | cons r rest ih =>
      rw [List.foldl_cons, ih]
      simp [drop, returnPermit, Nat.add_assoc, Nat.add_comm 1]

theorem pending_checkTunnels (s : Scheduler) (b : Nat) : (s.checkTunnels b).pending = s.pending := by
  rw [checkTunnels]
  split
  rw [foldl_requestSession]

/-- While the pool has instances no request is put back. -/
theorem pending_dispatch {s : Scheduler} (h : s.pool.isEmpty = false) (r : Nat) :
    (s.dispatch r).pending = s.pending := by
  obtain ⟨b, pool, hpop⟩ := Pool.exists_pop s.less h
  simp only [dispatch, hpop]
  split
  · rfl
  · exact pending_checkTunnels _ b

theorem does_dispatch (s : Scheduler) (r : Nat) : Does s [.dispatch r] (s.dispatch r) := by
  rw [dispatch]
  split
  · next hpop => exact .single (by simp only [perform, hpop])
  · next b pool hpop =>
    by_cases hfull : ({ s with pool } : Scheduler).settings.ceiling ≤ ({ s with pool }).ongoing b
    · exact .single (by simp only [perform, hpop, hfull, if_true])
    · rw [if_neg hfull]
      have hperform : s.perform (.dispatch r) =
          ((({ s with pool }).modifyBackend b Backend.begin).enlist b, [.check b, .start r b]) := by
        simp only [perform, hpop, hfull, if_false]
      exact .of_perform hperform ((does_check _ b).append (.single rfl))

theorem does_request (s : Scheduler) (r : Nat) : Does s [.request r] (s.onRequest r) := by
  rw [onRequest]
  split
  · next hempty => exact .single (by simp only [perform, hempty, if_true])
  · next hsome =>
    refine .of_perform ?_ (does_dispatch s r)
    rw [perform, if_neg hsome]

theorem does_finished (s : Scheduler) (f : Finished) : Does s [.finished f] (s.onFinished f) := by
  obtain ⟨b, outcome⟩ := f
  cases outcome with
  | completed => exact .single rfl
  | failed => exact .single rfl
  | dialFailed r => exact .of_perform rfl (does_request _ r)

/-- As many dispatches as there are pending requests are enough. -/
theorem does_drainSome (n : Nat) {s : Scheduler} (h : s.pending.length ≤ n) :
    Does s [.drain] (drainSome n s) := by
  induction n generalizing s with
  | zero =>
      rw [Nat.le_zero, List.length_eq_zero_iff] at h
      exact .single (by simp only [perform, h, drainSome])
  | succ n ih =>
      cases hpending : s.pending with
      | nil => exact .single (by simp only [perform, hpending, drainSome])
      | cons r rest =>
          rw [hpending, List.length_cons, Nat.succ_le_succ_iff] at h
          simp only [drainSome, hpending]
          cases hempty : s.pool.isEmpty with
          | true => exact .single (by simp only [perform, hpending, hempty, if_true])
          | false =>
              have hrest : (({ s with pending := rest }).dispatch r).pending = rest :=
                pending_dispatch (s := { s with pending := rest }) hempty r
              have hperform : s.perform .drain =
                  ({ s with pending := rest }, [.dispatch r] ++ [.drain]) := by
                simp only [perform, hpending, hempty]
                rfl
              rw [← hrest] at h
              exact .of_perform hperform ((does_dispatch _ r).append (ih h))

theorem does_drain (s : Scheduler) : Does s [.drain] s.drainPending :=
  does_drainSome s.pending.length (Nat.le_refl _)

/-! ## Removals -/

/-- Empty a slot and close the tunnel that was in it. -/
def vacate (b : Nat) (s : Scheduler) (i : Nat) : Scheduler :=
  match s.tunnelAt b i with
  | some t => { s with fleet := (s.fleet.evict b i t).2.close t }
  | none => s

theorem does_empty (b : Nat) (s : Scheduler) (i : Nat) : Does s [.empty b i] (s.vacate b i) := by
  rw [vacate]
  split
  · next t ht =>
    have hperform : s.perform (.empty b i) =
        ({ s with fleet := (s.fleet.evict b i t).2 }, [.close t]) := by simp only [perform, ht]
    exact .of_perform hperform (.single rfl)
  · next ht => exact .single (by simp only [perform, ht])

/-- The slots of an instance from some slot on are emptied one by one. -/
theorem foldl_vacate {b : Nat} (front back : List Slot) {s : Scheduler} {x : Backend} {n : Nat}
    (hn : front.length = n) (hx : s.fleet.backend? b = some x)
    (hslots : x.slots = front ++ back) :
    (List.range' n back.length).foldl (vacate b) s =
      { s with
        fleet := (s.fleet.modifyBackend b fun _ =>
          { x with slots := front ++ back.map fun y => { y with tunnel := none } }).closeAll
            (back.filterMap Slot.tunnel) } := by
  induction back generalizing s x front n with
  | nil =>
      have hsame : s.fleet.modifyBackend b (fun _ => { x with slots := front ++ [] }) = s.fleet := by
        rw [← hslots]
        exact modifyBackend_self hx
      rw [List.map_nil, hsame]
      rfl
  | cons y back ih =>
      subst hn
      have hslot : s.slot? b front.length = some y := slot?_middle hx hslots
      have hlength (z : Slot) : (front ++ [z]).length = front.length + 1 := by
        rw [List.length_append, List.length_singleton]
      have htunnel : s.tunnelAt b front.length = y.tunnel := congrArg (·.bind Slot.tunnel) hslot
      rw [List.length_cons, List.range'_succ, List.foldl_cons, List.map_cons]
      cases hy : y.tunnel with
      | none =>
          have hsame : s.vacate b front.length = s := by rw [vacate, htunnel, hy]
          have hkept : { y with tunnel := none } = y := by rw [← hy]
          rw [hsame, List.filterMap_cons_none hy, hkept, List.append_cons front y]
          exact ih _ (hlength y) hx (by rw [hslots, List.append_cons])
      | some t =>
          let clear (z : Slot) : Slot := { z with tunnel := none }
          have hvacate : s.vacate b front.length =
              { s with fleet := (s.fleet.modifySlot b front.length clear).close t } := by
            have hevict : s.fleet.evict b front.length t =
                (true, s.fleet.modifySlot b front.length clear) := by
              obtain ⟨-, h⟩ | ⟨h, -⟩ := s.fleet.evict_cases b front.length t
              · exact h
              · exact absurd (htunnel.trans hy) h
            rw [vacate, htunnel, hy]
            simp only [hevict]
          have hx' := backend?_modifySlot_middle hx hslots clear
          rw [List.append_cons] at hx'
          have hlast (z : Backend) :
              ((s.fleet.modifySlot b front.length clear).close t).modifyBackend b (fun _ => z) =
                (s.fleet.modifyBackend b fun _ => z).close t :=
            congrArg (Fleet.close · t) (modifyBackend_modifyBackend s.fleet b _ z)
          rw [hvacate, List.filterMap_cons_some hy, List.append_cons front, Fleet.closeAll,
            List.foldl_cons, ← hlast]
          exact ih (x := { x with slots := front ++ [clear y] ++ back }) _ (hlength (clear y)) hx' rfl

theorem closeAll_setGauge (f : Fleet) (series : Series) (n : Nat) (ts : List Nat) :
    (f.setGauge series n).closeAll ts = (f.closeAll ts).setGauge series n := by
  induction ts generalizing f with
  | nil => rfl
  | cons t rest ih => exact ih (f.close t)

theorem removeBackend_eq (s : Scheduler) {a : String} {b : Nat} (h : s.tracked? a = some b) :
    s.removeBackend a =
      { s.strike a b with fleet := (s.fleet.retire b).setGauge (.ongoing a) 0 } := by
  simp only [removeBackend, h]
  rfl

/-- Giving an instance up is to mark it and then to empty its slots. -/
theorem foldl_vacate_strike (s : Scheduler) (a : String) (b : Nat) :
    (List.range (((s.fleet.backend? b).map fun x => x.slots.length).getD 0)).foldl (vacate b)
        (s.strike a b) =
      { s.strike a b with fleet := (s.fleet.retire b).setGauge (.ongoing a) 0 } := by
  let mark (x : Backend) : Backend := { x with retired := true }
  have hstrike : (s.strike a b).fleet = (s.fleet.modifyBackend b mark).setGauge (.ongoing a) 0 := rfl
  cases hx : s.fleet.backend? b with
  | none =>
      have hsame : s.fleet.modifyBackend b mark = s.fleet := by
        apply Fleet.modifyBackend_eq_self
        intro x hx'
        rw [hx] at hx'
        contradiction
      rw [Fleet.retire, hx]
      dsimp only
      rw [← hsame, ← hstrike]
      rfl
  | some x =>
      have hmarked : (s.strike a b).fleet.backend? b = some (mark x) := by
        change (s.fleet.modifyBackend b mark).backend? b = _
        rw [Fleet.backend?_modifyBackend, if_pos rfl, hx, Option.map_some]
      have hlast : (s.strike a b).fleet.modifyBackend b (fun _ => x.retire) =
          (s.fleet.modifyBackend b Backend.retire).setGauge (.ongoing a) 0 := by
        rw [modifyBackend_const s.fleet hx, ← modifyBackend_modifyBackend s.fleet b mark]
        rfl
      have hslots := foldl_vacate [] x.slots (n := 0) rfl hmarked rfl
      rw [Fleet.retire, hx]
      dsimp only
      rw [← closeAll_setGauge, ← hlast]
      rw [← List.range_eq_range'] at hslots
      exact hslots

theorem does_remove (s : Scheduler) (a : String) : Does s [.remove a] (s.removeBackend a) := by
  cases htracked : s.tracked? a with
  | none =>
      have hsame : s.removeBackend a = s := by simp only [removeBackend, htracked]
      rw [hsame]
      exact .single (perform_remove_none s htracked)
  | some b =>
      have hperform : s.perform (.remove a) = (s.strike a b,
          (List.range (((s.fleet.backend? b).map fun x => x.slots.length).getD 0)).map
            (.empty b)) := by
        simp only [perform, htracked]
      rw [removeBackend_eq s htracked, ← foldl_vacate_strike]
      exact .of_perform hperform (.map (does_empty b) _ _)

/-- The changes of a snapshot are made in any order that is given. -/
theorem does_sweep (s : Scheduler) (removals revivals arrivals : List String) :
    Does s (sweep removals revivals arrivals) (s.applySnapshot removals revivals arrivals) := by
  have hrevive (s : Scheduler) (a : String) : Does s [.revive a] (s.revive a) := .single rfl
  have harrive (s : Scheduler) (a : String) : Does s [.arrive a] (s.addIfRoom a) := .single rfl
  refine (Does.map does_remove removals s).append ?_
  refine (Does.map hrevive revivals _).append ?_
  exact (Does.map harrive arrivals _).append (does_drain _)

/-! ## Tunnels -/

theorem does_failure (s : Scheduler) (f : Failure) : Does s [.failure f] (s.onFailure f) := by
  rw [onFailure]
  split
  · next hskip => exact .single (if_pos hskip)
  · next hgo =>
    refine .of_perform (if_neg hgo) ?_
    obtain ⟨-, hmark⟩ | ⟨x, -, -, hmark⟩ | ⟨x, -, -, hmark⟩ :=
      s.fleet.markReplacing_cases f.backend f.slot
    all_goals
      rw [hmark]
      exact .single (by simp only [perform, hmark])

theorem does_connected (s : Scheduler) (b : Nat) :
    Does s [.connected b]
      (if s.connecting.contains (s.address b) then
        (({ s with connecting := s.connecting.erase (s.address b) }).makeSchedulable b).drainPending
      else s) := by
  split
  · next hfirst => exact .of_perform (if_pos hfirst) (does_drain _)
  · next hknown => exact .single (if_neg hknown)

theorem does_handover (s : Scheduler) (h : Handover) : Does s [.handover h] (s.onHandover h) := by
  rw [onHandover]
  split
  · next hgone => exact .of_perform (if_pos hgone) (.single rfl)
  · next hcurrent =>
    cases hx : s.slot? h.backend h.slot with
    | none =>
        have hperform : s.perform (.handover h) =
            (s, [.close h.tunnel] ++ [.connected h.backend]) := by
          rw [perform, if_neg hcurrent, hx]
          rfl
        have hinstall : s.fleet.install h.backend h.slot h.tunnel = s.fleet.close h.tunnel := by
          rw [slot?, Fleet.slot?] at hx
          rw [Fleet.install, hx]
        rw [hinstall]
        exact .of_perform hperform ((Does.single rfl).append (does_connected _ h.backend))
    | some x =>
        have hperform : s.perform (.handover h) =
            (s.modifyBackend h.backend fun y => y.install h.slot h.tunnel,
              x.tunnel.toList.map .close ++ [.connected h.backend]) := by
          rw [perform, if_neg hcurrent, hx]
        have hinstall : s.fleet.install h.backend h.slot h.tunnel =
            (s.fleet.modifyBackend h.backend fun y => y.install h.slot h.tunnel).closeAll
              x.tunnel.toList := by
          rw [slot?, Fleet.slot?] at hx
          rw [Fleet.install, hx]
        rw [hinstall]
        refine .of_perform hperform (Does.append ?_ (does_connected _ h.backend))
        cases x.tunnel with
        | none => exact .nil _
        | some t => exact .single rfl

/-! ## Messages -/

/-- **What the tasks of a message do**, done without interruption, is what the
handler of the message does. -/
theorem does_handle (s : Scheduler) (e : Event) :
    ∃ tasks, s.Opens e tasks ∧ Does s (tasks ++ [.publish]) (s.handle e) := by
  have hpublish (s : Scheduler) : Does s [.publish] s.publishGauges := .single rfl
  cases e with
  | request r => exact ⟨_, .request r, (does_request s r).append (hpublish _)⟩
  | finished f => exact ⟨_, .finished f, (does_finished s f).append (hpublish _)⟩
  | failure f => exact ⟨_, .failure f, (does_failure s f).append (hpublish _)⟩
  | handover h => exact ⟨_, .handover h, (does_handover s h).append (hpublish _)⟩
  | snapshot x =>
      rw [handle, onSnapshot]
      by_cases hnone : x.healthy = []
      · refine ⟨[], .ignored x hnone, ?_⟩
        simp only [hnone, List.isEmpty_nil, if_true]
        exact hpublish s
      · have hsome : x.healthy.isEmpty ≠ true := fun h => hnone (List.isEmpty_iff.1 h)
        refine ⟨_, .snapshot x hnone .rfl .rfl (.inl rfl), ?_⟩
        simp only [hsome]
        exact (does_sweep s _ _ _).append (hpublish _)

/-- The message that comes first is one that the scheduler may turn to. -/
theorem receives_of_receive? {s t : Scheduler} {e : Event} (h : s.receive? = some (e, t)) :
    s.Receives e t := by
  unfold receive? at h
  split at h
  · next hf =>
    cases h
    exact .failure hf
  · split at h
    · next hh =>
      cases h
      exact .handover hh
    · split at h
      · next ho =>
        cases h
        exact .finished ho
      · split at h
        · next hs =>
          cases h
          exact .snapshot hs
        · split at h
          · next hj =>
            cases h
            exact .request hj
          · contradiction

end Scheduler

namespace Run

open Scheduler

variable {settings : Settings} {permits : Nat} {w : World} {past : List World}

/-- Tasks that are done without interruption are steps of a history. -/
theorem of_does {s t : Scheduler} {tasks : List Task} {arrived : List Nat} (h : Does s tasks t)
    {past : List World} (run : Run settings permits (⟨s, tasks, arrived⟩ :: past)) :
    ∃ past', Run settings permits (⟨t, [], arrived⟩ :: past') := by
  induction h generalizing past with
  | nil => exact ⟨past, run⟩
  | cons _ ih => exact ih (run.step (.perform rfl))

/-- **What the handler of a message does** to a scheduler at rest is a history. -/
theorem of_handle (run : Run settings permits (w :: past)) (hrest : w.tasks = []) {e : Event}
    {s : Scheduler} (h : w.scheduler.Receives e s) :
    ∃ past', Run settings permits (⟨s.handle e, [], w.arrived⟩ :: past') := by
  obtain ⟨tasks, hopens, hdoes⟩ := s.does_handle e
  exact (run.step (.receive hrest h hopens)).of_does hdoes

/-- So is the handling of all messages. -/
theorem of_handleSome (n : Nat) {s : Scheduler} {arrived : List Nat}
    {past : List World} (run : Run settings permits (⟨s, [], arrived⟩ :: past)) :
    ∃ past', Run settings permits (⟨s.handleSome n, [], arrived⟩ :: past') := by
  induction n generalizing s past with
  | zero => exact ⟨past, run⟩
  | succ n ih =>
      rw [handleSome]
      split
      · next hreceive =>
        obtain ⟨_, run⟩ := run.of_handle rfl (receives_of_receive? hreceive)
        exact ih run
      · exact ⟨past, run⟩

end Run

end StreamBalancer
