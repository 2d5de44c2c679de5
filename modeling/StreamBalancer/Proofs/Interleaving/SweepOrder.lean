import Mathlib.Data.List.Perm.Basic
import StreamBalancer.Proofs.Interleaving.Replay

/-!
# StreamBalancer.Proofs.Interleaving.SweepOrder

The order in which a snapshot's removals and revivals are made does not decide who is
served (`Life.order_indifferent`).

1. Different orders leave different heaps behind, and of instances with equally many
   forwards different heaps offer different ones.  `Alike` is what agrees nevertheless.
2. Until the queue is gone through, the desks agree (`Does.desk_eq`), and so states are
   alike (`alike_of_desk`).
3. In states that are alike the instances that are offered have equally many forwards.
   So a dispatch keeps states alike (`Alike.dispatch`), and so does going through the
   queue (`Alike.drain`).
-/

namespace StreamBalancer

namespace World

open Scheduler

/-- The tables and what is left to do fit, and the pool is in order. -/
structure Tidy (w : World) : Prop where
  sound : w.Sound
  ordered : w.scheduler.pool.Ordered w.scheduler.less

namespace Tidy

variable {s t : Scheduler} {xs rest : List Task} {arrived : List Nat}

theorem perform {x : Task} (h : Tidy ⟨s, x :: rest, arrived⟩) :
    Tidy ⟨(s.perform x).1, (s.perform x).2 ++ rest, arrived⟩ where
  sound := h.sound.perform rfl
  ordered := ordered_perform h.sound.roster h.ordered x (h.sound.live x List.mem_cons_self)

/-- A world stays tidy while tasks are done. -/
theorem does (h : Tidy ⟨s, xs ++ rest, arrived⟩) (hdoes : Does s xs t) : Tidy ⟨t, rest, arrived⟩ := by
  induction hdoes with
  | nil => exact h
  | cons _ ih =>
      refine ih ?_
      rw [List.append_assoc]
      exact h.perform

end Tidy

end World

namespace Scheduler

open World

variable {s t : Scheduler} {most : Nat}

/-! ## States that are alike -/

/-- Two states that differ in nothing that matters to clients.  In the least-loaded mode
instances with equally many forwards may have changed places. -/
structure Alike (s t : Scheduler) : Prop where
  settings : t.settings = s.settings
  /-- The same addresses are known, each with the same instance, and every instance has
  the same weight. -/
  roster : t.roster = { s.roster with pool := t.pool }
  pooled : ∀ b, b ∈ t.pool.items ↔ b ∈ s.pool.items
  /-- The same requests are dispatched, -/
  dispatched : t.forwards.map Forward.request = s.forwards.map Forward.request
  /-- the same are refused, -/
  refused : t.dropped = s.dropped
  /-- and the same are waiting. -/
  pending : t.pending = s.pending
  failover : s.settings.mode = .failover → t.forwards = s.forwards ∧ ∀ b, t.ongoing b = s.ongoing b
  leastLoaded : s.settings.mode = .leastLoaded →
    (t.pool.items.toList.map t.ongoing).Perm (s.pool.items.toList.map s.ongoing)

namespace Alike

theorem refl (s : Scheduler) : s.Alike s :=
  ⟨rfl, rfl, fun _ => Iff.rfl, rfl, rfl, rfl, fun _ => ⟨rfl, fun _ => rfl⟩, fun _ => .rfl⟩

theorem isEmpty_eq (h : s.Alike t) : t.pool.isEmpty = s.pool.isEmpty := by
  have hmem : (∃ b, b ∈ t.pool.items) ↔ ∃ b, b ∈ s.pool.items := exists_congr h.pooled
  rw [Bool.eq_iff_iff, Pool.isEmpty, Pool.isEmpty, Array.isEmpty_iff, Array.isEmpty_iff,
    Array.eq_empty_iff_forall_not_mem, Array.eq_empty_iff_forall_not_mem, ← not_exists, ← not_exists,
    hmem]

theorem weight_eq (h : s.Alike t) (hs : s.roster.Sound most) (ht : t.roster.Sound most) (b : Nat) :
    t.weight b = s.weight b := by
  have hsize : t.fleet.backends.size = s.fleet.backends.size := by
    rw [← length_identities, h.roster, ← length_identities]
  rw [Scheduler.weight_eq hs, Scheduler.weight_eq ht, hsize]

/-- The instances that are offered have equally many forwards, and in the failover mode
they are the same. -/
theorem best_eq (h : s.Alike t) (hs : s.roster.Sound most) (ht : t.roster.Sound most) {b c : Nat}
    (hb : s.Best b) (hc : t.Best c) :
    t.ongoing c = s.ongoing b ∧ (s.settings.mode = .failover → c = b) := by
  have hsettings := h.settings
  have hsame : s.settings.mode = .failover → c = b := by
    intro hmode
    by_contra hne
    have hless := hb.failover hmode c ((h.pooled c).1 hc.pooled) hne
    have hless' := hc.failover (hsettings ▸ hmode) b ((h.pooled b).2 hb.pooled) (Ne.symm hne)
    rw [h.weight_eq hs ht, h.weight_eq hs ht] at hless'
    exact Nat.lt_asymm hless hless'
  refine ⟨?_, hsame⟩
  cases hmode : s.settings.mode with
  | failover => rw [(h.failover hmode).2, hsame hmode]
  | leastLoaded =>
      have hloads := h.leastLoaded hmode
      -- each of the two loads is among the loads of the other pool, and no less than the least
      have hle : t.ongoing c ≤ s.ongoing b := by
        have hmem : s.ongoing b ∈ t.pool.items.toList.map t.ongoing :=
          hloads.mem_iff.2 (List.mem_map_of_mem (Array.mem_toList_iff.2 hb.pooled))
        obtain ⟨d, hd, heq⟩ := List.mem_map.1 hmem
        exact heq ▸ hc.leastLoaded (hsettings ▸ hmode) d (Array.mem_toList_iff.1 hd)
      have hge : s.ongoing b ≤ t.ongoing c := by
        have hmem : t.ongoing c ∈ s.pool.items.toList.map s.ongoing :=
          hloads.mem_iff.1 (List.mem_map_of_mem (Array.mem_toList_iff.2 hc.pooled))
        obtain ⟨d, hd, heq⟩ := List.mem_map.1 hmem
        exact heq ▸ hb.leastLoaded hmode d (Array.mem_toList_iff.1 hd)
      exact Nat.le_antisymm hle hge

end Alike

/-! ## Before the queue is gone through -/

/-- Whether a task is a change of a snapshot, or part of one. -/
def Task.isChange : Task → Bool
  | .remove _ | .revive _ | .arrive _ | .empty _ _ | .close _ => true
  | _ => false

/-- A change leads to changes only. -/
theorem isChange_perform (s : Scheduler) {x : Task} (hx : x.isChange = true) :
    ∀ y ∈ (s.perform x).2, y.isChange = true := by
  cases x with
  | revive | arrive | close => exact fun _ h => absurd h List.not_mem_nil
  | remove | empty => grind [perform, Task.isChange]
  | _ => contradiction

/-- **Changes of a snapshot** do to the desk what the desk says, and move no request. -/
theorem Does.desk_eq {xs rest : List Task} {arrived : List Nat} {log : List (Nat × Nat)}
    (h : Does s xs t) (hs : Tidy ⟨s, xs ++ rest, arrived⟩) (hxs : ∀ x ∈ xs, x.isChange = true) :
    t.desk log = (s.desk log).actAll s.settings xs ∧ t.requests = s.requests ∧
      t.record = s.record ∧ t.settings = s.settings := by
  induction h with
  | nil => exact ⟨rfl, rfl, rfl, rfl⟩
  | @cons s t x others _ ih =>
      have hx := hxs x List.mem_cons_self
      have hnew : ∀ y ∈ (s.perform x).2 ++ others, y.isChange = true := by
        intro y hy
        obtain hy | hy := List.mem_append.1 hy
        · exact isChange_perform s hx y hy
        · exact hxs y (List.mem_cons_of_mem x hy)
      have hsettings : (s.perform x).1.settings = s.settings := congrArg Prod.fst (fixed_perform s x)
      have hrequests := @requests_perform s x (by cases x <;> first | rfl | contradiction)
      have hrecord := @record_perform s x (by cases x <;> first | rfl | contradiction)
      have hact := @act_perform s _ log hs.sound.roster x (by rintro r rfl; contradiction)
      obtain ⟨hdesk, hrequests', hrecord', hsettings'⟩ :=
        ih (by rw [List.append_assoc]; exact hs.perform) hnew
      refine ⟨?_, hrequests'.trans hrequests.1, hrecord'.trans hrecord, hsettings'.trans hsettings⟩
      rw [hdesk, hsettings, Desk.actAll_append, hact]
      rfl

/-- States with the same desk are alike. -/
theorem alike_of_desk (hs : s.roster.Sound most) (ht : t.roster.Sound most)
    (hdesk : t.desk [] = s.desk []) (hrequests : t.requests = s.requests)
    (hrecord : t.record = s.record) (hsettings : t.settings = s.settings) : s.Alike t := by
  have hpool := congrArg Desk.pool hdesk
  have hloads : t.ongoing = s.ongoing := congrArg Desk.loads hdesk
  have hforwards : t.forwards = s.forwards := congrArg (fun x => x.2.2.1) hrequests
  refine ⟨hsettings, ?_, fun b => ?_, by rw [hforwards], congrArg Prod.fst hrecord,
    congrArg Desk.pending hdesk, fun _ => ⟨hforwards, congrFun hloads⟩, fun _ => ?_⟩
  · exact hs.eq_of_tables ht (congrArg Desk.schedulable hdesk) (congrArg Desk.connecting hdesk)
      (congrArg Desk.addresses hdesk)
  · rw [← mem_pool_desk t [], ← mem_pool_desk s [], hpool]
  · rw [hloads]
    exact (List.perm_of_nodup_nodup_toFinset_eq ht.indexed.nodup hs.indexed.nodup hpool).map _

/-! ## Dispatches -/

/-- A dispatch rearranges the pool at most, and leaves tables and identities. -/
theorem repools_dispatch (h : s.roster.Sound most) (r : Nat) :
    s.roster.Repools (s.dispatch r).roster := by
  cases does_dispatch s r with
  | cons hrest =>
      have hroster : (s.dispatch r).roster = (s.perform (.dispatch r)).1.roster := by
        refine hrest.kept (fun u => u.roster = (s.perform (.dispatch r)).1.roster)
          Task.leavesDesk (fun u x hx hu => ⟨?_, (@desk_quiet u [] x hx).2⟩) ?_ rfl
        · rw [roster_perform u (by cases x <;> first | rfl | contradiction), hu]
        · rw [List.append_nil]
          obtain heq | ⟨b, pool, -, -, -, ⟨-, heq⟩ | ⟨-, heq⟩⟩ := perform_dispatch_cases h r <;>
            rw [heq] <;> simp [Task.leavesDesk]
      rw [hroster]
      exact perform_repools h rfl

/-- Settings never change. -/
theorem Does.settings_eq {xs : List Task} (h : Does s xs t) : t.settings = s.settings :=
  h.kept (fun u => u.settings = s.settings) (fun _ => true)
    (fun u x _ hu => ⟨(congrArg Prod.fst (fixed_perform u x)).trans hu, fun _ _ => rfl⟩)
    (fun _ _ => rfl) rfl

theorem settings_dispatch (s : Scheduler) (r : Nat) : (s.dispatch r).settings = s.settings :=
  (does_dispatch s r).settings_eq

/-- The loads of a pool one of which has changed. -/
theorem perm_map_update {l : List Nat} (hl : l.Nodup) {b : Nat} (hb : b ∈ l) (f : Nat → Nat)
    (n : Nat) : (l.map (Function.update f b n)).Perm (n :: (l.map f).erase (f b)) := by
  have hsplit := List.perm_cons_erase hb
  have hrest : (l.erase b).map (Function.update f b n) = (l.erase b).map f :=
    List.map_congr_left fun c hc => Function.update_of_ne (hl.mem_erase_iff.1 hc).1 n f
  have herase : ((l.map f).erase (f b)).Perm ((l.erase b).map f) := by
    have hmap := (hsplit.map f).erase (f b)
    rwa [List.map_cons, List.erase_cons_head] at hmap
  have hmap := hsplit.map (Function.update f b n)
  rw [List.map_cons, Function.update_self, hrest] at hmap
  exact hmap.trans (herase.symm.cons n)

namespace Alike

variable {s' t' : Scheduler} {r : Nat}

theorem roster_of_repools (h : s.Alike t) (hs : s.roster.Repools s'.roster)
    (ht : t.roster.Repools t'.roster) : t'.roster = { s'.roster with pool := t'.pool } := by
  obtain ⟨p, hp, -⟩ := hs
  obtain ⟨q, hq, -⟩ := ht
  have hpool : t'.pool = q := congrArg Roster.pool hq
  rw [hp, hq, h.roster, hpool]

/-- Both refuse a request. -/
theorem of_refuses (h : s.Alike t) (hs : s.Refuses r s') (ht : t.Refuses r t')
    (hsettings : s'.settings = s.settings) (hsettings' : t'.settings = t.settings)
    (hroster : t'.roster = { s'.roster with pool := t'.pool }) : s'.Alike t' := by
  have hperm := Array.perm_iff_toList_perm.1 hs.pool
  have hperm' := Array.perm_iff_toList_perm.1 ht.pool
  refine ⟨by rw [hsettings', hsettings, h.settings], hroster, fun d => ?_, ?_, ?_, ?_,
    fun hfailover => ?_, fun hleast => ?_⟩
  · rw [ht.pool.mem_iff, hs.pool.mem_iff, h.pooled]
  · rw [ht.forwards, hs.forwards, h.dispatched]
  · rw [ht.dropped, hs.dropped, h.refused]
  · rw [ht.pending, hs.pending, h.pending]
  · obtain ⟨hforwards, hloads⟩ := h.failover (hsettings ▸ hfailover)
    refine ⟨by rw [ht.forwards, hs.forwards, hforwards], fun d => ?_⟩
    rw [ht.ongoing, hs.ongoing, hloads]
  · rw [funext ht.ongoing, funext hs.ongoing]
    exact (hperm'.map _).trans ((h.leastLoaded (hsettings ▸ hleast)).trans (hperm.map _).symm)

/-- Both hand a request to an instance, and the two have equally many forwards. -/
theorem of_hands {b c : Nat} (h : s.Alike t) (hs : s.Hands r b s') (ht : t.Hands r c t')
    (hb : b ∈ s.pool.items.toList) (hc : c ∈ t.pool.items.toList)
    (hnodup : s.pool.items.toList.Nodup) (hnodup' : t.pool.items.toList.Nodup)
    (hload : t.ongoing c = s.ongoing b) (hsame : s.settings.mode = .failover → c = b)
    (hsettings : s'.settings = s.settings) (hsettings' : t'.settings = t.settings)
    (hroster : t'.roster = { s'.roster with pool := t'.pool }) : s'.Alike t' := by
  have hperm := Array.perm_iff_toList_perm.1 hs.pool
  have hperm' := Array.perm_iff_toList_perm.1 ht.pool
  refine ⟨by rw [hsettings', hsettings, h.settings], hroster, fun d => ?_, ?_, ?_, ?_,
    fun hfailover => ?_, fun hleast => ?_⟩
  · rw [ht.pool.mem_iff, hs.pool.mem_iff, h.pooled]
  · rw [ht.forwards, hs.forwards, List.map_append, List.map_append, h.dispatched]
    rfl
  · rw [ht.dropped, hs.dropped, h.refused]
  · rw [ht.pending, hs.pending, h.pending]
  · obtain ⟨hforwards, hloads⟩ := h.failover (hsettings ▸ hfailover)
    obtain rfl := hsame (hsettings ▸ hfailover)
    refine ⟨by rw [ht.forwards, hs.forwards, hforwards], fun d => ?_⟩
    rw [ht.ongoing, hs.ongoing, hloads, hloads]
  · -- one load of each pool has grown by one, and it was the same load
    have hloads := h.leastLoaded (hsettings ▸ hleast)
    have hgrown : s'.ongoing = Function.update s.ongoing b (s.ongoing b + 1) :=
      funext fun d => (hs.ongoing d).trans (Function.update_apply _ _ _ _).symm
    have hgrown' : t'.ongoing = Function.update t.ongoing c (s.ongoing b + 1) :=
      funext fun d => (ht.ongoing d).trans (hload ▸ (Function.update_apply _ _ _ _).symm)
    have hold := (hperm.map s'.ongoing).trans
      (hgrown ▸ perm_map_update hnodup hb s.ongoing (s.ongoing b + 1))
    have hnew := (hperm'.map t'.ongoing).trans
      (hgrown' ▸ perm_map_update hnodup' hc t.ongoing (s.ongoing b + 1))
    rw [hload] at hnew
    exact hnew.trans (((hloads.erase _).cons _).trans hold.symm)

/-- **A dispatch keeps states alike.** -/
theorem dispatch (h : s.Alike t) (hs : s.roster.Sound most) (ht : t.roster.Sound most)
    (hsorder : s.pool.Ordered s.less) (htorder : t.pool.Ordered t.less)
    (hpool : s.pool.isEmpty = false) (r : Nat) : (s.dispatch r).Alike (t.dispatch r) := by
  have hpool' := h.isEmpty_eq.trans hpool
  obtain ⟨b, hb⟩ := Pool.exists_top hpool
  obtain ⟨c, hc⟩ := Pool.exists_top hpool'
  obtain ⟨hload, hsame⟩ := h.best_eq hs ht (best_of_top hs hsorder hb) (best_of_top ht htorder hc)
  have hroster := h.roster_of_repools (repools_dispatch hs r) (repools_dispatch ht r)
  have hends := onRequest_of_top hs hb r
  have hends' := onRequest_of_top ht hc r
  have heq : s.onRequest r = s.dispatch r := if_neg (by simp [hpool])
  have heq' : t.onRequest r = t.dispatch r := if_neg (by simp [hpool'])
  rw [heq] at hends
  rw [heq', h.settings, hload] at hends'
  by_cases hfull : s.settings.ceiling ≤ s.ongoing b
  · rw [if_pos hfull] at hends hends'
    exact h.of_refuses hends hends' (settings_dispatch s r) (settings_dispatch t r) hroster
  · rw [if_neg hfull] at hends hends'
    exact h.of_hands hends hends' (Array.mem_toList_iff.2 (Array.mem_of_getElem? hb))
      (Array.mem_toList_iff.2 (Array.mem_of_getElem? hc)) hs.indexed.nodup ht.indexed.nodup hload
      hsame (settings_dispatch s r) (settings_dispatch t r) hroster

/-- **Going through the queue keeps states alike.** -/
theorem drain (h : s.Alike t) (n : Nat) {rest : List Task} {arrived : List Nat}
    (hs : Tidy ⟨s, .drain :: rest, arrived⟩) (ht : Tidy ⟨t, .drain :: rest, arrived⟩) :
    (drainSome n s).Alike (drainSome n t) := by
  induction n generalizing s t with
  | zero => exact h
  | succ n ih =>
      cases hqueue : s.pending with
      | nil =>
          simp only [drainSome, h.pending, hqueue]
          exact h
      | cons r queue =>
          simp only [drainSome, h.pending, hqueue, h.isEmpty_eq]
          cases hpool : s.pool.isEmpty with
          | true => exact h
          | false =>
              have hcall : ∀ {u : Scheduler}, u.pending = r :: queue → u.pool.isEmpty = false →
                  Tidy ⟨u, .drain :: rest, arrived⟩ →
                    Tidy ⟨{ u with pending := queue }, .dispatch r :: .drain :: rest, arrived⟩ := by
                intro u hpending hsome hu
                have hperform : u.perform .drain =
                    ({ u with pending := queue }, [.dispatch r, .drain]) := by
                  simp only [Scheduler.perform, hpending, hsome]
                  rfl
                have hu := hu.perform
                rwa [hperform] at hu
              have hs' := hcall hqueue hpool hs
              have ht' := hcall (h.pending.trans hqueue) (h.isEmpty_eq.trans hpool) ht
              have h' : ({ s with pending := queue } : Scheduler).Alike { t with pending := queue } :=
                ⟨h.settings, h.roster, h.pooled, h.dispatched, h.refused, rfl, h.failover,
                  h.leastLoaded⟩
              have hmost := congrArg Settings.maxBackends h.settings
              have hkept := h'.dispatch hs'.sound.roster (hmost ▸ ht'.sound.roster) hs'.ordered ht'.ordered
                hpool r
              exact ih hkept (@Tidy.does _ _ [.dispatch r] _ _ hs' (does_dispatch _ r))
                (@Tidy.does _ _ [.dispatch r] _ _ ht' (does_dispatch _ r))

end Alike

/-! ## Snapshots -/

/-- The changes of a snapshot are made, and then the queue is gone through. -/
theorem Does.of_sweep {removals revivals arrivals : List String} {rest : List Task}
    {arrived : List Nat} (h : Does s (sweep removals revivals arrivals) t)
    (hs : Tidy ⟨s, sweep removals revivals arrivals ++ rest, arrived⟩) :
    ∃ u, t = u.drainPending ∧ Tidy ⟨u, .drain :: rest, arrived⟩ ∧
      u.desk [] = (s.desk []).sweep s.settings removals revivals arrivals ∧
      u.requests = s.requests ∧ u.record = s.record ∧ u.settings = s.settings := by
  rw [sweep_eq_changes] at h hs
  rw [List.append_assoc] at hs
  obtain ⟨u, hchanges, hdrain⟩ := h.split
  have hkind : ∀ x ∈ changes removals revivals arrivals, x.isChange = true := by
    simp only [changes, List.mem_append, List.mem_map]
    rintro x (⟨a, -, rfl⟩ | ⟨a, -, rfl⟩ | ⟨a, -, rfl⟩) <;> rfl
  have hsame := @Does.desk_eq _ _ _ _ _ [] hchanges hs hkind
  rw [actAll_changes] at hsame
  exact ⟨u, hdrain.unique (does_drain u), hs.does hchanges, hsame⟩

/-- **A snapshot leads to states that are alike**, in whatever order its removals and
revivals are made, unless arrivals are shuffled. -/
theorem alike_of_orders {t' : Scheduler} {w : World} (hw : w.Tidy)
    (hshuffle : w.scheduler.settings.shuffle = false) {x : Snapshot} {tasks tasks' : List Task}
    (hopens : w.scheduler.Opens (.snapshot x) tasks) (hopens' : w.scheduler.Opens (.snapshot x) tasks')
    (h : Does w.scheduler tasks t) (h' : Does w.scheduler tasks' t') : t.Alike t' := by
  have htidy : Tidy { w with tasks := tasks ++ [.publish] } := ⟨hw.sound.opens rfl rfl hopens, hw.ordered⟩
  have htidy' : Tidy { w with tasks := tasks' ++ [.publish] } :=
    ⟨hw.sound.opens rfl rfl hopens', hw.ordered⟩
  have hsorted : ∀ {fresh arrivals}, w.scheduler.MayArrive fresh arrivals → arrivals = fresh := by
    rintro fresh arrivals (heq | ⟨-, hshuffled, -⟩)
    · exact heq
    · rw [hshuffle] at hshuffled
      contradiction
  cases hopens with
  | ignored _ hnone =>
      cases hopens' with
      | ignored => exact h.unique h' ▸ Alike.refl t
      | snapshot _ hsome => exact absurd hnone hsome
  | snapshot _ hsome hremovals hrevivals harrivals =>
      cases hopens' with
      | ignored _ hnone => exact absurd hnone hsome
      | snapshot _ _ hremovals' hrevivals' harrivals' =>
          obtain rfl := hsorted harrivals
          obtain rfl := hsorted harrivals'
          obtain ⟨u, rfl, hu, hdesk, hrequests, hrecord, hsettings⟩ := h.of_sweep htidy
          obtain ⟨u', rfl, hu', hdesk', hrequests', hrecord', hsettings'⟩ := h'.of_sweep htidy'
          have horder := (w.scheduler.desk []).sweep_eq_of_perm w.scheduler.settings
            (hremovals.trans hremovals'.symm) (hrevivals.trans hrevivals'.symm)
            (w.scheduler.fresh x.healthy)
          have hsame := hsettings'.trans hsettings.symm
          have halike := alike_of_desk hu.sound.roster (hsame ▸ hu'.sound.roster)
            (hdesk'.trans (horder.symm.trans hdesk.symm)) (hrequests'.trans hrequests.symm)
            (hrecord'.trans hrecord.symm) hsame
          rw [drainPending, drainPending, halike.pending]
          exact halike.drain _ hu hu'

end Scheduler

namespace Life

open Scheduler World

variable {settings : Settings} {permits : Nat} {w : World} {past : List World}

/-- **The order of removals and revivals does not decide who is served.**  At every moment
of every history:

* whatever the order in which the scheduler makes the changes of a snapshot, it comes to
  states that are alike, unless arrivals are shuffled: addresses, weights and members of
  the pool agree, the same requests are dispatched, refused and waiting, in the failover
  mode they are dispatched to the same instances, and in the least-loaded mode the loads
  of the pool are the same up to order;
* in the failover mode, any other history with the same messages has made the same
  dispatches, when both are at rest. -/
theorem order_indifferent (life : Life settings permits (w :: past)) :
    (settings.shuffle = false → ∀ x tasks tasks' t t', w.scheduler.Opens (.snapshot x) tasks →
      w.scheduler.Opens (.snapshot x) tasks' → Does w.scheduler tasks t →
      Does w.scheduler tasks' t' → t.Alike t') ∧
    (settings.mode = .failover → w.tasks = [] → ∀ permits' v before,
      Life settings permits' (v :: before) → v.tasks = [] →
      gather hears (w :: past) = gather hears (v :: before) →
      gather assigns (w :: past) = gather assigns (v :: before)) := by
  refine ⟨fun hshuffle x tasks tasks' t t' hopens hopens' h h' => ?_,
    fun hmode hrest _ v before life' hrest' => life.dispatches_eq life' hmode hrest hrest'⟩
  exact alike_of_orders ⟨life.sound, life.pool_ordered⟩ (life.steady.1 ▸ hshuffle) hopens hopens' h h'

/-- Of six instances two are removed in one order and in the other, which leaves different
heaps.  The states are alike, and the request that comes then goes to the same instance. -/
theorem order_indifferent_of_six :
    ∃ (w v : World) (past before : List World) (t t' : Scheduler),
      Life ⟨.failover, false, 6, 1, 0, ⟨0, 0⟩, default⟩ 1 (w :: past) ∧
      Life ⟨.failover, false, 6, 1, 0, ⟨0, 0⟩, default⟩ 1 (v :: before) ∧
      t.pool.items.toList = [1, 3, 4, 5] ∧ t'.pool.items.toList = [1, 3, 5, 4] ∧ t.Alike t' ∧
      gather assigns (w :: past) = gather assigns (v :: before) ∧
      gather assigns (w :: past) = [(0, 1)] := by
  have begun := @Life.start ⟨.failover, false, 6, 1, 0, ⟨0, 0⟩, default⟩ 1
  have posted := begun.step (.work (.post (.ofHealthy ["a", "b", "c", "d", "e", "f"])))
  have filled := (posted.step
    (.receive rfl (.snapshot rfl) (.snapshot _ (by decide) .rfl .rfl (.inl rfl)))).settle 14
  -- a snapshot without the first instance and the third, and a request
  have renewed := filled.step (.work (.post (.ofHealthy ["b", "d", "e", "f"])))
  have accepted := renewed.step
    (@Step.arrive _ 0 _ (by decide +kernel) (if_neg (by decide +kernel)))
  have halike := (order_indifferent accepted).1 rfl (.ofHealthy ["b", "d", "e", "f"]) _ _ _ _
    (@Opens.snapshot _ _ ["a", "c"] ["b", "d", "e", "f"] [] (by decide) (by decide +kernel) .rfl
      (.inl (by decide +kernel)))
    (@Opens.snapshot _ _ ["c", "a"] ["b", "d", "e", "f"] [] (by decide) (by decide +kernel) .rfl
      (.inl (by decide +kernel)))
    (does_sweep _ _ _ _) (does_sweep _ _ _ _)
  -- the snapshot is gone through in the one order and in the other, and then the request is heard
  have swept := (accepted.step (.receive (by decide +kernel)
    (@Receives.snapshot _ (.ofHealthy ["b", "d", "e", "f"]) [] (by decide +kernel))
    (@Opens.snapshot _ _ ["a", "c"] ["b", "d", "e", "f"] [] (by decide) (by decide +kernel) .rfl
      (.inl (by decide +kernel))))).settle 8
  have swept' := (accepted.step (.receive (by decide +kernel)
    (@Receives.snapshot _ (.ofHealthy ["b", "d", "e", "f"]) [] (by decide +kernel))
    (@Opens.snapshot _ _ ["c", "a"] ["b", "d", "e", "f"] [] (by decide) (by decide +kernel) .rfl
      (.inl (by decide +kernel))))).settle 8
  have served := (swept.step (.receive (by decide +kernel)
    (@Receives.request _ 0 [] (by decide +kernel)) (.request 0))).settle 5
  have served' := (swept'.step (.receive (by decide +kernel)
    (@Receives.request _ 0 [] (by decide +kernel)) (.request 0))).settle 5
  have hsame := (order_indifferent served).2 rfl (by decide +kernel) _ _ _ served' (by decide +kernel)
    (by decide +kernel)
  exact ⟨_, _, _, _, _, _, served, served', by decide +kernel, by decide +kernel, halike, hsame,
    by decide +kernel⟩

end Life

end StreamBalancer
