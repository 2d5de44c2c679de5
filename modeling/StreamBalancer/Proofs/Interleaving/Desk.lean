import Mathlib.Data.Finset.Basic
import Mathlib.Data.List.Perm.Basic
import StreamBalancer.Proofs.Interleaving.Books
import StreamBalancer.Proofs.Interleaving.Choice

/-!
# StreamBalancer.Proofs.Interleaving.Desk

What the scheduler has before it when it chooses an instance: the tables, the loads,
the waiting requests, and the pool as a mere set (`Desk`).  What is left out is the
order of the heap, and all that other parties touch.

1. Removals and revivals do the same to a desk in any order (`Desk.sweep_eq_of_perm`),
   though they leave other heaps behind.
2. What a task does to the desk depends on the desk alone, as long as no instance is
   chosen: `desk_remove`, `desk_revive`, `desk_arrive`, and `desk_quiet` for the tasks
   that do nothing to it.
3. Helpers do nothing to it (`Work.desk_eq`).
-/

namespace StreamBalancer

/-- What the scheduler has before it when it chooses an instance. -/
@[ext]
structure Desk where
  /-- Instances that take requests. -/
  schedulable : Directory
  /-- Instances without a first tunnel. -/
  connecting : Directory
  /-- The address of every instance ever created. -/
  addresses : List String
  /-- The instances among which requests are divided. -/
  pool : Finset Nat
  /-- The forwards of each instance. -/
  loads : Nat → Nat
  /-- Requests that wait, the oldest first. -/
  pending : List Nat
  /-- The requests that were dispatched, with the instances, the first one first. -/
  assigned : List (Nat × Nat)

namespace Desk

/-- The instance known under an address. -/
def tracked? (d : Desk) (address : String) : Option Nat :=
  (d.schedulable.find? address).or (d.connecting.find? address)

/-- Strike an address, and take its instance out of the pool. -/
def remove (d : Desk) (address : String) : Desk :=
  match d.tracked? address with
  | none => d
  | some b =>
    { d with
      schedulable := d.schedulable.erase address
      connecting :=
        if d.schedulable.contains address then d.connecting else d.connecting.erase address
      pool := d.pool.erase b }

/-- Put the schedulable instance of an address into the pool. -/
def revive (d : Desk) (address : String) : Desk :=
  match d.schedulable.find? address with
  | some b => { d with pool := insert b d.pool }
  | none => d

/-- Create an instance for an address if there is room. -/
def arrive (settings : Scheduler.Settings) (d : Desk) (address : String) : Desk :=
  let b := d.addresses.length
  if settings.maxBackends ≤ d.schedulable.size + d.connecting.size then d
  else if settings.tunnelCount = 0 then
    { d with
      schedulable := d.schedulable.insert address b
      addresses := d.addresses ++ [address]
      pool := insert b d.pool }
  else
    { d with
      connecting := d.connecting.insert address b
      addresses := d.addresses ++ [address] }

/-- Make the changes of a snapshot, each in the order given. -/
def sweep (settings : Scheduler.Settings) (d : Desk) (removals revivals arrivals : List String) :
    Desk :=
  arrivals.foldl (arrive settings) (revivals.foldl revive (removals.foldl remove d))

/-! ## Order -/

/-- The removal of another address leaves the instance of an address. -/
theorem tracked?_remove {d : Desk} {a k : String} (h : k ≠ a) :
    (d.remove a).tracked? k = d.tracked? k := by
  unfold remove
  split
  · rfl
  · rw [tracked?, Directory.find?_erase, if_neg h, tracked?]
    dsimp only
    split
    · rfl
    · rw [Directory.find?_erase, if_neg h]

theorem remove_of_tracked {d : Desk} {a : String} {b : Nat} (h : d.tracked? a = some b) :
    d.remove a = { d with
      schedulable := d.schedulable.erase a
      connecting := if d.schedulable.contains a then d.connecting else d.connecting.erase a
      pool := d.pool.erase b } := by
  rw [remove, h]

theorem remove_of_tracked_none {d : Desk} {a : String} (h : d.tracked? a = none) :
    d.remove a = d := by
  rw [remove, h]

instance : RightCommutative remove where
  right_comm d a k := by
    by_cases hak : a = k
    · rw [hak]
    have hk := tracked?_remove (d := d) (Ne.symm hak)
    have ha := tracked?_remove (d := d) hak
    cases hka : d.tracked? k with
    | none => rw [remove_of_tracked_none (hk.trans hka), remove_of_tracked_none hka]
    | some c =>
        cases hab : d.tracked? a with
        | none => rw [remove_of_tracked_none (ha.trans hab), remove_of_tracked_none hab]
        | some b =>
            rw [remove_of_tracked (hk.trans hka), remove_of_tracked (ha.trans hab),
              remove_of_tracked hka, remove_of_tracked hab]
            simp only [Directory.contains_erase _ hak, Directory.contains_erase _ (Ne.symm hak),
              Directory.erase_comm _ a k, Finset.erase_right_comm, mk.injEq, true_and, and_true]
            split <;> split <;> first | rfl | exact Directory.erase_comm _ a k

instance : RightCommutative revive where
  right_comm d a k := by
    have hsame : ∀ c, (d.revive c).schedulable = d.schedulable := by
      intro c
      unfold revive
      split <;> rfl
    rw [revive, revive.eq_1 (d.revive k), hsame, hsame]
    cases hka : d.schedulable.find? k <;> cases hab : d.schedulable.find? a <;>
      simp only [revive, hka, hab, Finset.insert_comm]

/-- **The order of removals and of revivals** makes no difference. -/
theorem sweep_eq_of_perm (settings : Scheduler.Settings) (d : Desk) {r r' v v' : List String}
    (hremovals : r.Perm r') (hrevivals : v.Perm v') (arrivals : List String) :
    d.sweep settings r v arrivals = d.sweep settings r' v' arrivals := by
  rw [sweep, sweep, hremovals.foldl_eq, hrevivals.foldl_eq]

end Desk

namespace Scheduler

/-- The desk of a scheduler that made some dispatches. -/
def desk (s : Scheduler) (assigned : List (Nat × Nat)) : Desk where
  schedulable := s.schedulable
  connecting := s.connecting
  addresses := s.roster.identities.map Identity.address
  pool := s.pool.items.toList.toFinset
  loads := s.ongoing
  pending := s.pending
  assigned

section Reading

variable {s t : Scheduler} {log : List (Nat × Nat)}

theorem mem_pool_desk (s : Scheduler) (log : List (Nat × Nat)) (b : Nat) :
    b ∈ (s.desk log).pool ↔ b ∈ s.pool.items := by
  rw [desk, List.mem_toFinset, Array.mem_toList_iff]

theorem length_addresses_desk (s : Scheduler) (log : List (Nat × Nat)) :
    (s.desk log).addresses.length = s.fleet.backends.size := by
  rw [desk, List.length_map, length_identities]

theorem address_desk (s : Scheduler) (log : List (Nat × Nat)) (b : Nat) :
    ((s.desk log).addresses[b]?).getD "" = s.address b := by
  rw [desk, List.getElem?_map, address_eq]

/-- Whoever leaves tables, pool, loads and waiting requests alone leaves the desk. -/
theorem desk_congr (hroster : t.roster = s.roster) (hloads : ∀ b, t.ongoing b = s.ongoing b)
    (hpending : t.pending = s.pending) : t.desk log = s.desk log := by
  have hpool : t.pool = s.pool := congrArg Roster.pool hroster
  have hschedulable : t.schedulable = s.schedulable := congrArg Roster.schedulable hroster
  have hconnecting : t.connecting = s.connecting := congrArg Roster.connecting hroster
  rw [desk, desk, hroster, hpool, hschedulable, hconnecting, hpending, funext hloads]

/-- Nobody but the scheduler changes what is on its desk. -/
theorem Work.desk_eq (h : s.Work t) : t.desk log = s.desk log :=
  desk_congr h.roster_eq h.ongoing_eq (congrArg Prod.snd h.waiting_eq)

end Reading

/-! ## Tasks -/

/-- Whether a task does nothing to the desk. -/
def Task.leavesDesk : Task → Bool
  | .check _ | .inspect _ _ | .weigh _ _ _ | .start _ _ | .empty _ _ | .close _ | .failure _
  | .mark _ _ | .publish => true
  | _ => false

section Tasks

variable {s : Scheduler} {most : Nat} {log : List (Nat × Nat)}

theorem pending_of_not_moves (s : Scheduler) {x : Task} (hx : x.movesRequest = false) :
    (s.perform x).1.pending = s.pending := by
  have hrequests := (requests_perform s hx).1
  simp only [requests, Prod.mk.injEq] at hrequests
  exact hrequests.2.1

/-- A quiet task leads to quiet tasks. -/
theorem desk_quiet {x : Task} (hx : x.leavesDesk = true) :
    (s.perform x).1.desk log = s.desk log ∧ ∀ y ∈ (s.perform x).2, y.leavesDesk = true := by
  have hroster := @roster_perform s x (by cases x <;> first | rfl | contradiction)
  have hloads := @ongoing_perform s x (by cases x <;> first | rfl | contradiction)
  have hpending : (s.perform x).1.pending = s.pending := by
    cases x with
    | start => rfl
    | request | dispatch | finished | remove | revive | arrive | drain | handover | connected =>
        contradiction
    | _ => exact pending_of_not_moves s rfl
  refine ⟨desk_congr hroster hloads hpending, fun y hy => ?_⟩
  cases x with
  | inspect b slot =>
      obtain ⟨t, -, rfl⟩ := Option.map_eq_some_iff.1 (Option.mem_toList.1 hy)
      rfl
  | _ => grind [perform, Task.leavesDesk]

/-- Giving an instance up leaves the addresses. -/
theorem addresses_strike (r : Roster) (a : String) (b : Nat) (pool : Pool) :
    (r.strike a b pool).identities.map Identity.address = r.identities.map Identity.address := by
  apply List.ext_getElem?
  intro i
  rw [Roster.strike, List.getElem?_map, Roster.getElem?_retire, List.getElem?_map]
  split
  · rw [Option.map_map]
    rfl
  · rfl

theorem desk_remove (h : s.roster.Sound most) (a : String) :
    (s.perform (.remove a)).1.desk log = (s.desk log).remove a ∧
      ∀ y ∈ (s.perform (.remove a)).2, y.leavesDesk = true := by
  have htracked : (s.desk log).tracked? a = s.tracked? a := rfl
  cases hb : s.tracked? a with
  | none =>
      rw [perform_remove_none s hb, Desk.remove_of_tracked_none (htracked.trans hb)]
      exact ⟨rfl, fun _ h => absurd h List.not_mem_nil⟩
  | some b =>
      obtain ⟨hroster, htasks⟩ := perform_remove s hb
      rw [Desk.remove_of_tracked (htracked.trans hb), htasks]
      refine ⟨?_, fun y hy => ?_⟩
      · apply Desk.ext
        · exact congrArg Roster.schedulable hroster
        · exact congrArg Roster.connecting hroster
        · exact (congrArg (fun r => r.identities.map Identity.address) hroster).trans
            (addresses_strike _ _ _ _)
        · ext c
          have hpool : (s.perform (.remove a)).1.pool = s.pool.erase s.less b :=
            congrArg Roster.pool hroster
          rw [mem_pool_desk, hpool, Finset.mem_erase, mem_pool_desk, and_comm]
          exact Pool.mem_erase s.less h.indexed b c
        · exact funext (ongoing_perform s rfl)
        · exact pending_of_not_moves s rfl
        · rfl
      · obtain ⟨slot, -, rfl⟩ := List.mem_map.1 hy
        rfl

/-- The pool of a desk when an instance is put in. -/
theorem toFinset_push (less : Nat → Nat → Bool) (p : Pool) (b : Nat) :
    (p.push less b).items.toList.toFinset = insert b p.items.toList.toFinset := by
  ext c
  rw [List.mem_toFinset, Array.mem_toList_iff, Finset.mem_insert, List.mem_toFinset,
    Array.mem_toList_iff, or_comm]
  exact Pool.mem_push less p b c

theorem desk_revive (h : s.roster.Sound most) (a : String) :
    (s.revive a).desk log = (s.desk log).revive a := by
  have hfind : (s.desk log).schedulable.find? a = s.schedulable.find? a := rfl
  rw [revive, Desk.revive, hfind]
  cases s.schedulable.find? a with
  | none => rfl
  | some b =>
      dsimp only
      split
      · next hin =>
        have hmem : b ∈ (s.desk log).pool := (mem_pool_desk s log b).2 ((h.indexed.contains_iff b).1 hin)
        rw [Finset.insert_eq_of_mem hmem]
      · exact congrArg (fun pool => { s.desk log with pool }) (toFinset_push s.less s.pool b)

theorem desk_arrive (s : Scheduler) (log : List (Nat × Nat)) (a : String) :
    (s.perform (.arrive a)).1.desk log = (s.desk log).arrive s.settings a := by
  have hnew : (s.withBackend a).roster.identities.map Identity.address =
      s.roster.identities.map Identity.address ++ [a] := by
    have happend : (s.withBackend a).roster.identities =
        s.roster.identities ++ [⟨a, s.nextWeight, false⟩] := identities_addBackend _ _
    rw [happend, List.map_append]
    rfl
  have hcount : (s.desk log).schedulable.size + (s.desk log).connecting.size = s.trackedCount := rfl
  rw [Desk.arrive, hcount, length_addresses_desk]
  obtain ⟨hfull, heq⟩ | ⟨hroom, hslots, heq⟩ | ⟨hroom, hslots, heq⟩ := perform_arrive_cases s a
  · rw [heq, if_pos hfull]
  · rw [heq, if_neg (Nat.not_le.2 hroom), if_pos hslots]
    apply Desk.ext
    · exact congrArg (s.schedulable.insert · s.fleet.backends.size) (address_withBackend s a)
    · rfl
    · exact hnew
    · exact toFinset_push _ s.pool _
    · exact funext (ongoing_withBackend s a)
    · rfl
    · rfl
  · rw [heq, if_neg (Nat.not_le.2 hroom), if_neg hslots]
    apply Desk.ext
    · rfl
    · rfl
    · exact hnew
    · rfl
    · exact funext (ongoing_withBackend s a)
    · rfl
    · rfl

end Tasks

end Scheduler

end StreamBalancer
