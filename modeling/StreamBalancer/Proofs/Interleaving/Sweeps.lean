import Mathlib.Data.List.Induction
import Mathlib.Data.List.Perm.Basic
import StreamBalancer.Proofs.Interleaving.Handlers
import StreamBalancer.Proofs.Interleaving.Queue

/-!
# StreamBalancer.Proofs.Interleaving.Sweeps

The four loops of a snapshot, each taken as a whole.

1. Removals strike addresses and close the tunnels of their instances
   (`GivesUp`, `givesUp_foldl`).
2. Revivals put instances into the pool (`foldl_revive`).
3. Arrivals create instances as far as there is room (`foldl_addIfRoom`, `Adds`,
   `adds_foldl`).
4. Going through the queue dispatches or refuses the requests one after the other
   (`Serves`, `serves_drain`).
-/

namespace StreamBalancer

/-- What an instance is and has, apart from its load and the inspections of its
tunnels. -/
@[ext]
structure Holdings where
  /-- What tells it from the others. -/
  identity : Identity
  /-- The tunnel in each slot. -/
  tunnels : List (Option Nat)
  /-- Bytes sent by the backend to clients. -/
  received : UInt64
  /-- Bytes sent by clients to the backend. -/
  sent : UInt64
deriving DecidableEq, Repr

/-- The holdings of an instance. -/
def Backend.holdings (x : Backend) : Holdings :=
  ⟨x.identity, x.slots.map Slot.tunnel, x.received, x.sent⟩

/-- Tell a tunnel so many times to close. -/
def Tunnel.closeTimes (n : Nat) (x : Tunnel) : Tunnel := { x with closes := x.closes + n }

theorem Tunnel.closeTimes_zero : closeTimes 0 = id := rfl

theorem Tunnel.closeTimes_add (m n : Nat) : closeTimes (m + n) = closeTimes n ∘ closeTimes m := by
  funext x
  rw [Function.comp_apply, closeTimes, closeTimes, closeTimes, Nat.add_assoc]

namespace Fleet

/-! ## Giving an instance up -/

theorem backends_closeAll (f : Fleet) (ts : List Nat) : (f.closeAll ts).backends = f.backends := by
  induction ts generalizing f with
  | nil => rfl
  | cons t rest ih => exact ih (f.close t)

/-- A tunnel is told to close as often as it is listed. -/
theorem tunnels_closeAll (f : Fleet) (ts : List Nat) (k : Nat) :
    (f.closeAll ts).tunnels[k]? =
      (f.tunnels[k]?).map (Tunnel.closeTimes (ts.count k)) := by
  induction ts generalizing f with
  | nil => rw [List.count_nil, Tunnel.closeTimes_zero, Option.map_id]; rfl
  | cons t rest ih =>
      have hclose : (f.close t).tunnels[k]? =
          if t = k then (f.tunnels[k]?).map Tunnel.close else f.tunnels[k]? :=
        Array.getElem?_modify
      have hrest : (f.closeAll (t :: rest)).tunnels[k]? = ((f.close t).closeAll rest).tunnels[k]? := rfl
      rw [hrest, ih, hclose, List.count_cons]
      by_cases ht : t = k
      · subst ht
        rw [if_pos rfl, Option.map_map, beq_self_eq_true, if_pos rfl, Nat.add_comm,
          Tunnel.closeTimes_add]
        rfl
      · rw [if_neg ht, beq_eq_false_iff_ne.2 ht]
        rfl

theorem backend?_retire (f : Fleet) (b c : Nat) :
    (f.retire b).backend? c = if c = b then (f.backend? c).map Backend.retire else f.backend? c := by
  rw [retire]
  cases hb : f.backend? b with
  | none =>
      by_cases hc : c = b
      · subst hc
        rw [if_pos rfl, hb, Option.map_none]
      · rw [if_neg hc]
  | some x =>
      have hsame : ((f.modifyBackend b Backend.retire).closeAll x.tunnels).backend? c =
          (f.modifyBackend b Backend.retire).backend? c := by
        rw [backend?, backends_closeAll, backend?]
      exact hsame.trans (backend?_modifyBackend f b c Backend.retire)

end Fleet

namespace Scheduler

/-- The known addresses. -/
def known (s : Scheduler) : List String := s.schedulable.addresses ++ s.connecting.addresses

/-- The tunnels in the slots of an instance. -/
def tunnelsOf (s : Scheduler) (b : Nat) : List Nat := ((s.fleet.backend? b).map Backend.tunnels).getD []

/-- The tunnels in the slots of the instance of an address. -/
def tunnelsUnder (s : Scheduler) (a : String) : List Nat := ((s.tracked? a).map s.tunnelsOf).getD []

/-- What the instance with a number is and has. -/
def holdings? (s : Scheduler) (b : Nat) : Option Holdings := (s.fleet.backend? b).map Backend.holdings

variable {s t u : Scheduler} {most : Nat}

theorem tunnels_retire (s : Scheduler) (b k : Nat) :
    (s.fleet.retire b).tunnels[k]? =
      (s.fleet.tunnels[k]?).map (Tunnel.closeTimes ((s.tunnelsOf b).count k)) := by
  rw [Fleet.retire, tunnelsOf]
  cases s.fleet.backend? b with
  | none => rw [Option.map_none, Option.getD_none, List.count_nil, Tunnel.closeTimes_zero, Option.map_id]; rfl
  | some x => exact Fleet.tunnels_closeAll _ _ k

/-! ## Removals -/

/-- Some addresses are struck and their instances given up, and nothing else changes but
the pool. -/
structure GivesUp (s : Scheduler) (gone : List String) (t : Scheduler) : Prop where
  schedulable : ∀ a, t.schedulable.find? a = if a ∈ gone then none else s.schedulable.find? a
  connecting : ∀ a, t.connecting.find? a = if a ∈ gone then none else s.connecting.find? a
  known : t.known = s.known.filter fun a => a ∉ gone
  /-- Their instances are marked, and their slots emptied. -/
  backend : ∀ b, t.fleet.backend? b =
    if ∃ a ∈ gone, s.tracked? a = some b then (s.fleet.backend? b).map Backend.retire
    else s.fleet.backend? b
  /-- The tunnels that were in these slots are closed. -/
  tunnels : ∀ k, t.fleet.tunnels[k]? =
    (s.fleet.tunnels[k]?).map (Tunnel.closeTimes ((gone.flatMap s.tunnelsUnder).count k))
  size : t.fleet.backends.size = s.fleet.backends.size
  rest : ∃ fleet schedulable connecting pool,
    t = { s with fleet, schedulable, connecting, pool }

theorem roster_removeBackend {a : String} {b : Nat} (h : s.tracked? a = some b) :
    (s.removeBackend a).roster = s.roster.strike a b (s.pool.erase s.less b) := by
  have hidentities : ((s.fleet.retire b).setGauge (.ongoing a) 0).backends.toList.map
      Backend.identity =
        (s.strike a b).fleet.backends.toList.map Backend.identity := by
    apply List.ext_getElem?
    intro c
    have hretire := s.fleet.backend?_retire b c
    have hmark := s.fleet.backend?_modifyBackend b c fun x => { x with retired := true }
    simp only [List.getElem?_map, Array.getElem?_toList]
    refine (congrArg (Option.map Backend.identity) hretire).trans
      (Eq.trans ?_ (congrArg (Option.map Backend.identity) hmark).symm)
    split
    · rw [Option.map_map, Option.map_map]
      rfl
    · rfl
  rw [removeBackend_eq s h, roster_withFleet _ hidentities, ← (perform_remove s h).1]
  simp only [perform, h]

theorem sound_removeBackend (h : s.roster.Sound most) (a : String) :
    (s.removeBackend a).roster.Sound most := by
  cases hb : s.tracked? a with
  | none =>
      have hsame : s.removeBackend a = s := by simp only [Scheduler.removeBackend, hb]
      rwa [hsame]
  | some b =>
      rw [roster_removeBackend hb]
      exact h.strike hb (Pool.erase_indexed s.less h.indexed b) fun c hc =>
        (Pool.mem_erase s.less h.indexed b c).1 hc

theorem GivesUp.tracked? {l : List String} (h : s.GivesUp l t) (a : String) :
    t.tracked? a = if a ∈ l then none else s.tracked? a := by
  rw [Scheduler.tracked?, h.schedulable, h.connecting]
  split <;> rfl

theorem givesUp_nil (s : Scheduler) : s.GivesUp [] s where
  schedulable a := by simp
  connecting a := by simp
  known := by simp
  backend b := by simp
  tunnels k := by
    rw [List.flatMap_nil, List.count_nil, Tunnel.closeTimes_zero, Option.map_id]
    rfl
  size := rfl
  rest := ⟨_, _, _, _, rfl⟩

namespace GivesUp

variable {a : String} {b : Nat} {l l' : List String}

theorem tracked?_of_other (h : s.GivesUp l t) (ha : a ∉ l) : t.tracked? a = s.tracked? a :=
  (h.tracked? a).trans (if_neg ha)

/-- No instance is known under two addresses, so those of other addresses stay. -/
theorem backend?_of_other (hs : s.roster.Sound most) (h : s.GivesUp l t) (ha : a ∉ l)
    (hb : s.tracked? a = some b) : t.fleet.backend? b = s.fleet.backend? b := by
  rw [h.backend, if_neg]
  rintro ⟨k, hk, hkb⟩
  obtain rfl := hs.tracked_address hkb hb
  exact ha hk

theorem tunnelsUnder_of_other (hs : s.roster.Sound most) (h : s.GivesUp l t) (ha : a ∉ l) :
    t.tunnelsUnder a = s.tunnelsUnder a := by
  rw [tunnelsUnder, h.tracked?_of_other ha, tunnelsUnder]
  cases hb : s.tracked? a with
  | none => rfl
  | some b =>
      rw [Option.map_some, Option.map_some, tunnelsOf, h.backend?_of_other hs ha hb]
      rfl

/-- Giving up some addresses and then others is giving up both. -/
theorem append (hs : s.roster.Sound most) (h : s.GivesUp l t) (h' : t.GivesUp l' u)
    (hother : ∀ a ∈ l', a ∉ l) : s.GivesUp (l ++ l') u := by
  have htracked : ∀ a ∈ l', t.tracked? a = s.tracked? a := fun a ha =>
    h.tracked?_of_other (hother a ha)
  have hunder : l'.flatMap t.tunnelsUnder = l'.flatMap s.tunnelsUnder :=
    List.flatMap_congr fun a ha => h.tunnelsUnder_of_other hs (hother a ha)
  refine ⟨fun a => ?_, fun a => ?_, ?_, fun b => ?_, fun k => ?_, h'.size.trans h.size, ?_⟩
  · rw [h'.schedulable, h.schedulable]
    simp only [List.mem_append]
    grind
  · rw [h'.connecting, h.connecting]
    simp only [List.mem_append]
    grind
  · rw [h'.known, h.known, List.filter_filter]
    refine List.filter_congr fun a _ => ?_
    simp [Bool.and_comm]
  · rw [h'.backend]
    by_cases hlater : ∃ a ∈ l', t.tracked? a = some b
    · obtain ⟨a, ha, hb⟩ := hlater
      have hb' := (htracked a ha).symm.trans hb
      rw [if_pos ⟨a, ha, hb⟩, if_pos ⟨a, List.mem_append_right _ ha, hb'⟩,
        h.backend?_of_other hs (hother a ha) hb']
    · rw [if_neg hlater, h.backend]
      refine if_congr ⟨?_, ?_⟩ rfl rfl
      · rintro ⟨a, ha, hb⟩
        exact ⟨a, List.mem_append_left _ ha, hb⟩
      · rintro ⟨a, ha, hb⟩
        obtain ha | ha := List.mem_append.1 ha
        · exact ⟨a, ha, hb⟩
        · exact absurd ⟨a, ha, (htracked a ha).trans hb⟩ hlater
  · rw [h'.tunnels, h.tunnels, hunder, Option.map_map, ← Tunnel.closeTimes_add, List.flatMap_append,
      List.count_append]
  · obtain ⟨_, _, _, _, ht⟩ := h.rest
    obtain ⟨_, _, _, _, hu⟩ := h'.rest
    rw [hu, ht]
    exact ⟨_, _, _, _, rfl⟩

end GivesUp

theorem tables_removeBackend (h : s.roster.Sound most) (a : String) :
    (s.removeBackend a).schedulable = s.schedulable.erase a ∧
      (s.removeBackend a).connecting = s.connecting.erase a := by
  cases hb : s.tracked? a with
  | none =>
      have hsame : s.removeBackend a = s := by simp only [removeBackend, hb]
      obtain ⟨hout, hout'⟩ := Roster.Sound.not_mem_of_tracked_none (r := s.roster) hb
      rw [hsame]
      exact ⟨(Directory.erase_of_not_mem hout).symm, (Directory.erase_of_not_mem hout').symm⟩
  | some b =>
      have hroster := roster_removeBackend hb
      refine ⟨congrArg Roster.schedulable hroster, (congrArg Roster.connecting hroster).trans ?_⟩
      refine ite_eq_right_iff.2 fun hc => ?_
      have hout := h.disjoint a ((Directory.contains_iff _ _).1 hc)
      exact (Directory.erase_of_not_mem hout).symm

theorem givesUp_removeBackend (h : s.roster.Sound most) (a : String) :
    s.GivesUp [a] (s.removeBackend a) := by
  obtain ⟨hschedulable, hconnecting⟩ := tables_removeBackend h a
  have hknown : (s.removeBackend a).known = s.known.filter fun k => k ∉ [a] := by
    rw [known, hschedulable, hconnecting, Directory.addresses_erase, Directory.addresses_erase, known,
      List.filter_append]
    simp only [List.mem_singleton, ne_eq]
  have hfind : ∀ (d : Directory) k, (d.erase a).find? k = if k ∈ [a] then none else d.find? k := by
    intro d k
    rw [Directory.find?_erase]
    simp only [List.mem_singleton]
  have hfirst := fun k => hschedulable ▸ hfind s.schedulable k
  have hsecond := fun k => hconnecting ▸ hfind s.connecting k
  cases hb : s.tracked? a with
  | none =>
      have hsame : s.removeBackend a = s := by simp only [removeBackend, hb]
      have hunder : [a].flatMap s.tunnelsUnder = [] := by simp [tunnelsUnder, hb]
      refine ⟨hfirst, hsecond, hknown, ?_, ?_, by rw [hsame], ⟨_, _, _, _, hsame⟩⟩
      · simp [hsame, hb]
      · simp [hsame, hunder, Tunnel.closeTimes_zero]
  | some b =>
      have heq := removeBackend_eq s hb
      have hroster := roster_removeBackend hb
      have hunder : [a].flatMap s.tunnelsUnder = s.tunnelsOf b := by simp [tunnelsUnder, hb]
      refine ⟨hfirst, hsecond, hknown, ?_, ?_, ?_, ⟨_, _, _, _, heq⟩⟩
      · intro c
        rw [heq]
        refine (s.fleet.backend?_retire b c).trans (if_congr ?_ rfl rfl)
        simp [hb, eq_comm]
      · intro k
        rw [heq, hunder]
        exact tunnels_retire s b k
      · rw [← length_identities, ← length_identities, hroster, Roster.strike, List.length_modify]

/-- The order of the addresses makes no difference. -/
theorem GivesUp.of_perm {l l' : List String} (h : s.GivesUp l t) (hperm : l.Perm l') :
    s.GivesUp l' t := by
  have hmem : ∀ a, a ∈ l ↔ a ∈ l' := fun a => hperm.mem_iff
  have hcount := fun k : Nat => (hperm.flatMap_right s.tunnelsUnder).count_eq k
  obtain ⟨hschedulable, hconnecting, hknown, hbackend, htunnels, hsize, hrest⟩ := h
  simp only [hmem] at hschedulable hconnecting hknown hbackend
  exact ⟨hschedulable, hconnecting, hknown, hbackend, fun k => hcount k ▸ htunnels k, hsize, hrest⟩

/-- Nor does the pool. -/
theorem GivesUp.setPool {l : List String} (h : s.GivesUp l t) (pool : Pool) :
    s.GivesUp l { t with pool } := by
  obtain ⟨_, _, _, _, ht⟩ := h.rest
  exact ⟨h.schedulable, h.connecting, h.known, h.backend, h.tunnels, h.size, _, _, _, pool, by rw [ht]⟩

/-- **Removals** give up the addresses listed. -/
theorem givesUp_foldl (h : s.roster.Sound most) {l : List String} (hl : l.Nodup) :
    s.GivesUp l (l.foldl removeBackend s) ∧ (l.foldl removeBackend s).roster.Sound most := by
  induction l generalizing s with
  | nil => exact ⟨givesUp_nil s, h⟩
  | cons a rest ih =>
      obtain ⟨hnot, hrest⟩ := List.nodup_cons.1 hl
      obtain ⟨hothers, hsound⟩ := ih (sound_removeBackend h a) hrest
      refine ⟨(givesUp_removeBackend h a).append h hothers fun k hk hka => ?_, hsound⟩
      exact hnot (List.mem_singleton.1 hka ▸ hk)

/-! ## Revivals -/

/-- **Revivals** put the schedulable instances of the addresses listed into the pool. -/
theorem foldl_revive (h : s.pool.Indexed) (l : List String) :
    ∃ pool, l.foldl revive s = { s with pool } ∧
      ∀ b, b ∈ pool.items ↔ b ∈ s.pool.items ∨ ∃ a ∈ l, s.schedulable.find? a = some b := by
  induction l generalizing s with
  | nil => exact ⟨s.pool, rfl, by simp⟩
  | cons a rest ih =>
      have hone : ∃ pool, s.revive a = { s with pool } ∧ pool.Indexed ∧
          ∀ b, b ∈ pool.items ↔ b ∈ s.pool.items ∨ s.schedulable.find? a = some b := by
        rw [revive]
        split
        · next b hb =>
          split
          · next hin =>
            refine ⟨s.pool, rfl, h, fun c => ?_⟩
            have hmem := (h.contains_iff b).1 hin
            grind
          · next hout =>
            have hnot : b ∉ s.pool.items := fun hmem => hout ((h.contains_iff b).2 hmem)
            refine ⟨_, rfl, (Pool.push_indexed s.less h hnot).1, fun c => ?_⟩
            rw [Pool.mem_push, hb, Option.some_inj, eq_comm]
        · next hnone => exact ⟨s.pool, rfl, h, by simp [hnone]⟩
      obtain ⟨pool, heq, hindexed, hmem⟩ := hone
      obtain ⟨pool', heq', hmem'⟩ := ih (s := { s with pool }) hindexed
      refine ⟨pool', ?_, fun b => ?_⟩
      · rw [List.foldl_cons, heq, heq']
      · rw [hmem', hmem]
        simp [or_assoc]

/-! ## Arrivals -/

/-- New instances for some addresses, in that order, with the sessions for their slots.
Those without slots take requests at once, and the others wait for their first tunnel. -/
def withBackends (s : Scheduler) (new : List String) (pool : Pool) : Scheduler :=
  let entries := new.zipIdx s.fleet.backends.size
  let created := (new.zipIdx s.nextWeight).map fun x =>
    Backend.create x.1 s.settings.tunnelCount x.2
  let asked := (List.range new.length).flatMap fun i =>
    newSessions (s.fleet.backends.size + i) (s.sessionCount + i * s.settings.tunnelCount)
      (List.range s.settings.tunnelCount)
  { s with
    fleet := { s.fleet with backends := s.fleet.backends ++ created.toArray }
    schedulable := if s.settings.tunnelCount = 0 then ⟨s.schedulable.entries ++ entries⟩ else s.schedulable
    connecting := if s.settings.tunnelCount = 0 then s.connecting else ⟨s.connecting.entries ++ entries⟩
    pool
    nextWeight := s.nextWeight + new.length
    sessions := s.sessions ++ asked
    sessionCount := s.sessionCount + new.length * s.settings.tunnelCount }

theorem addBackend_of_no_slots (h : s.settings.tunnelCount = 0) (a : String) :
    s.addBackend a = (s.withBackend a).makeSchedulable s.fleet.backends.size := if_pos h

theorem addBackend_of_slots (h : s.settings.tunnelCount ≠ 0) (a : String) :
    s.addBackend a =
      { s.withBackend a with
        sessions := s.sessions ++ newSessions s.fleet.backends.size s.sessionCount
          (List.range s.settings.tunnelCount)
        sessionCount := s.sessionCount + s.settings.tunnelCount
        connecting := s.connecting.insert a s.fleet.backends.size } := by
  rw [addBackend, if_neg h, foldl_requestSession, List.length_range]
  rfl

theorem withBackends_nil (s : Scheduler) : s.withBackends [] s.pool = s := by
  simp [withBackends]

theorem size_withBackends (s : Scheduler) (l : List String) (pool : Pool) :
    (s.withBackends l pool).fleet.backends.size = s.fleet.backends.size + l.length := by
  simp [withBackends]

/-- The entry of an address that is new goes to the end. -/
theorem insert_append {d : Directory} {l : List String} {a : String} (first b : Nat)
    (h : a ∉ d.addresses) (hl : a ∉ l) :
    (Directory.mk (d.entries ++ l.zipIdx first)).insert a b =
      ⟨d.entries ++ (l.zipIdx first ++ [(a, b)])⟩ := by
  have hout : a ∉ (Directory.mk (d.entries ++ l.zipIdx first)).addresses := by
    simpa [Directory.addresses, List.zipIdx_map_fst] using ⟨fun b hb => h (List.mem_map_of_mem hb), hl⟩
  rw [Directory.insert, Directory.erase_of_not_mem hout, List.append_assoc]

theorem addBackend_withBackends {l : List String} {a : String} {pool : Pool}
    (hnew : s.tracked? a = none) (hout : a ∉ l) :
    (s.withBackends l pool).addBackend a = s.withBackends (l ++ [a])
      (if s.settings.tunnelCount = 0 then
        pool.push ((s.withBackends l pool).withBackend a).less (s.fleet.backends.size + l.length)
      else pool) := by
  obtain ⟨hfirst, hsecond⟩ := Roster.Sound.not_mem_of_tracked_none (r := s.roster) hnew
  have hsize := s.size_withBackends l pool
  have haddress := (s.withBackends l pool).address_withBackend a
  rw [hsize] at haddress
  by_cases hslots : s.settings.tunnelCount = 0
  · have hinsert := insert_append s.fleet.backends.size (s.fleet.backends.size + l.length) hfirst hout
    rw [addBackend_of_no_slots (s := s.withBackends l pool) hslots, makeSchedulable, enlist, hsize,
      if_pos hslots, haddress]
    simpa [withBackends, withBackend, hslots, List.zipIdx_append, List.range_succ, Fleet.addBackend, newSessions, roster,
      Nat.add_assoc] using hinsert
  · have hinsert := insert_append s.fleet.backends.size (s.fleet.backends.size + l.length) hsecond hout
    rw [addBackend_of_slots (s := s.withBackends l pool) hslots, hsize, if_neg hslots]
    simpa [withBackends, withBackend, hslots, List.zipIdx_append, List.range_succ, Fleet.addBackend, roster, Nat.add_assoc,
      Nat.succ_mul] using hinsert

theorem find?_append_of_not_mem (d : Directory) {l : List String} {a : String} (n : Nat) (h : a ∉ l) :
    (Directory.mk (d.entries ++ l.zipIdx n)).find? a = d.find? a := by
  have hnone : (l.zipIdx n).lookup a = none := by
    have hout := Directory.find?_eq_none_iff (Directory.mk (l.zipIdx n)) a
    simp only [Directory.addresses, List.zipIdx_map_fst] at hout
    exact hout.2 h
  rw [Directory.find?, List.lookup_append, hnone, Option.or_none, Directory.find?]

theorem find?_append_of_getElem? {d : Directory} {l : List String} {a : String} {i : Nat} (n : Nat)
    (h : a ∉ d.addresses) (hl : l.Nodup) (ha : l[i]? = some a) :
    (Directory.mk (d.entries ++ l.zipIdx n)).find? a = some (n + i) := by
  have hunique : (Directory.mk (l.zipIdx n)).Unique := by
    simpa [Directory.Unique, Directory.addresses, List.zipIdx_map_fst] using hl
  have hentry : (a, n + i) ∈ l.zipIdx n := by
    rw [List.mk_mem_zipIdx_iff_le_and_getElem?_sub]
    simpa using ha
  have hlookup := (hunique.find?_eq_some_iff a (n + i)).2 hentry
  rw [Directory.find?] at hlookup
  rw [Directory.find?, List.lookup_append, hlookup]
  rw [← Directory.find?_eq_none_iff, Directory.find?] at h
  rw [h, Option.none_or]

theorem known_withBackends (s : Scheduler) (l : List String) (pool : Pool) :
    (s.withBackends l pool).known.Perm (s.known ++ l) := by
  simp only [known, withBackends]
  split
  · simp only [Directory.addresses, List.map_append, List.zipIdx_map_fst, List.append_assoc]
    exact List.Perm.append_left _ List.perm_append_comm
  · simp only [Directory.addresses, List.map_append, List.zipIdx_map_fst, List.append_assoc]
    exact .rfl

/-- The instances that were there before are what they were. -/
theorem holdings?_withBackends_of_lt {b : Nat} (h : b < s.fleet.backends.size) (l : List String)
    (pool : Pool) : (s.withBackends l pool).holdings? b = s.holdings? b := by
  simp [holdings?, withBackends, Fleet.backend?, Array.getElem?_append_left h]

theorem holdings?_withBackends {l : List String} {a : String} {i : Nat} (h : l[i]? = some a)
    (pool : Pool) : (s.withBackends l pool).holdings? (s.fleet.backends.size + i) =
      some ⟨⟨a, s.nextWeight + i, false⟩, List.replicate s.settings.tunnelCount none, 0, 0⟩ := by
  simp [holdings?, withBackends, Fleet.backend?, Array.getElem?_append_right, h, Backend.create,
    Backend.holdings, Backend.identity]

theorem tables_withBackends_of_not_mem {l : List String} {a : String} (h : a ∉ l) (pool : Pool) :
    (s.withBackends l pool).schedulable.find? a = s.schedulable.find? a ∧
      (s.withBackends l pool).connecting.find? a = s.connecting.find? a := by
  simp only [withBackends]
  split
  · exact ⟨find?_append_of_not_mem s.schedulable _ h, rfl⟩
  · exact ⟨rfl, find?_append_of_not_mem s.connecting _ h⟩

theorem tables_withBackends {l : List String} (hl : l.Nodup) {a : String} {i : Nat}
    (ha : l[i]? = some a) (hnew : s.tracked? a = none) (pool : Pool) :
    if s.settings.tunnelCount = 0 then
      (s.withBackends l pool).schedulable.find? a = some (s.fleet.backends.size + i)
    else (s.withBackends l pool).schedulable.find? a = none ∧
      (s.withBackends l pool).connecting.find? a = some (s.fleet.backends.size + i) := by
  obtain ⟨hfirst, hsecond⟩ := Roster.Sound.not_mem_of_tracked_none (r := s.roster) hnew
  split
  · next hslots =>
    simp only [withBackends, if_pos hslots]
    exact find?_append_of_getElem? _ hfirst hl ha
  · next hslots =>
    simp only [withBackends, if_neg hslots]
    exact ⟨(Directory.find?_eq_none_iff _ _).2 hfirst, find?_append_of_getElem? _ hsecond hl ha⟩

theorem filter_newSessions (b c first : Nat) (slots : List Nat) :
    (newSessions b first slots).filter (fun x => x.backend = c) =
      if c = b then newSessions b first slots else [] := by
  split
  · next hc =>
    refine List.filter_eq_self.2 fun x hx => ?_
    obtain ⟨y, -, rfl⟩ := List.mem_map.1 hx
    exact decide_eq_true hc.symm
  · next hc =>
    refine List.filter_eq_nil_iff.2 fun x hx => ?_
    obtain ⟨y, -, rfl⟩ := List.mem_map.1 hx
    simpa using Ne.symm hc

/-- Of lists for numbers one is picked. -/
theorem flatMap_range_of_lt {α : Type} (f : Nat → List α) {i n : Nat} (h : i < n) :
    ((List.range n).flatMap fun j => if i = j then f j else []) = f i := by
  induction n with
  | zero => contradiction
  | succ n ih =>
      rw [List.range_succ, List.flatMap_append, List.flatMap_singleton]
      by_cases hlast : i = n
      · subst hlast
        have hnone : ((List.range i).flatMap fun j => if i = j then f j else []) = [] := by
          rw [List.flatMap_eq_nil_iff]
          intro j hj
          exact if_neg (Nat.ne_of_gt (List.mem_range.1 hj))
        rw [hnone, if_pos rfl, List.nil_append]
      · rw [ih (by omega), if_neg hlast, List.append_nil]

/-- For each new instance one session is asked for per slot. -/
theorem asked_withBackends (s : Scheduler) (l : List String) (pool : Pool) :
    ∃ asked, (s.withBackends l pool).sessions = s.sessions ++ asked ∧
      (∀ i < l.length, (asked.filter fun x => x.backend = s.fleet.backends.size + i) =
        newSessions (s.fleet.backends.size + i) (s.sessionCount + i * s.settings.tunnelCount)
          (List.range s.settings.tunnelCount)) ∧
      ∀ x ∈ asked, s.fleet.backends.size ≤ x.backend := by
  refine ⟨_, rfl, fun i hi => ?_, fun x hx => ?_⟩
  · simp only [List.filter_flatMap, filter_newSessions, Nat.add_left_cancel_iff]
    exact flatMap_range_of_lt (fun j => newSessions (s.fleet.backends.size + j)
      (s.sessionCount + j * s.settings.tunnelCount) (List.range s.settings.tunnelCount)) hi
  · obtain ⟨i, -, hx⟩ := List.mem_flatMap.1 hx
    obtain ⟨y, -, rfl⟩ := List.mem_map.1 hx
    exact Nat.le_add_right _ _

theorem trackedCount_withBackends (s : Scheduler) (l : List String) (pool : Pool) :
    (s.withBackends l pool).trackedCount = s.trackedCount + l.length := by
  simp only [trackedCount, withBackends, Directory.size]
  split
  · simp
    omega
  · simp
    omega

/-- **Arrivals** create instances for the first addresses listed, as many as there is
room for.  Those without slots join the pool. -/
theorem foldl_addIfRoom {l : List String} (hl : l.Nodup) (hnew : ∀ a ∈ l, s.tracked? a = none) :
    ∃ pool,
      l.foldl addIfRoom s = s.withBackends (l.take (s.settings.maxBackends - s.trackedCount)) pool ∧
      ∀ b, b ∈ pool.items ↔ b ∈ s.pool.items ∨ s.settings.tunnelCount = 0 ∧
        s.fleet.backends.size ≤ b ∧ b < s.fleet.backends.size +
          (l.take (s.settings.maxBackends - s.trackedCount)).length := by
  induction l using List.reverseRecOn with
  | nil => exact ⟨s.pool, by simp [withBackends_nil], fun b => by simp⟩
  | append_singleton l a ih =>
      generalize hroom : s.settings.maxBackends - s.trackedCount = room at ih ⊢
      obtain ⟨hout, hl⟩ := List.nodup_cons.1 ((List.perm_append_singleton a l).nodup_iff.1 hl)
      obtain ⟨pool, heq, hmem⟩ := ih hl fun k hk => hnew k (List.mem_append_left _ hk)
      have hcount := s.trackedCount_withBackends (l.take room) pool
      have hsettings : (s.withBackends (l.take room) pool).settings = s.settings := rfl
      rw [List.foldl_append, List.foldl_cons, List.foldl_nil, heq, addIfRoom, hcount, hsettings]
      by_cases hfull : room ≤ l.length
      · rw [if_pos (by rw [List.length_take]; omega), List.take_append_of_le_length hfull]
        exact ⟨pool, rfl, hmem⟩
      · have hall : l.take room = l := List.take_of_length_le (by omega)
        have hall' : (l ++ [a]).take room = l ++ [a] := List.take_of_length_le (by simp; omega)
        rw [hall] at hmem ⊢
        rw [if_neg (by omega), hall', addBackend_withBackends (hnew a (by simp)) hout]
        refine ⟨_, rfl, fun b => ?_⟩
        split
        · next hslots =>
          rw [Pool.mem_push, hmem, List.length_append, List.length_singleton]
          grind
        · next hslots => simp [hmem, hslots]

/-! ## The queue -/

/-- The forwards of requests that are dispatched, each with its instance. -/
def launched (fates : List (Nat × Option Nat)) : List Forward :=
  fates.filterMap fun x => x.2.map fun b => { request := x.1, backend := b }

/-- The requests that are refused. -/
def refused (fates : List (Nat × Option Nat)) : List Nat :=
  (fates.filter fun x => x.2.isNone).map Prod.fst

/-- Requests meet their fates one after the other: each is dispatched to an instance of
the pool, or refused. -/
structure Serves (s : Scheduler) (fates : List (Nat × Option Nat)) (t : Scheduler) : Prop where
  tables : t.schedulable = s.schedulable ∧ t.connecting = s.connecting
  nextWeight : t.nextWeight = s.nextWeight
  pool : t.pool.items.Perm s.pool.items
  holdings : ∀ b, t.holdings? b = s.holdings? b
  tunnels : t.fleet.tunnels = s.fleet.tunnels
  members : ∀ x ∈ fates, ∀ b, x.2 = some b → b ∈ s.pool.items
  forwards : t.forwards = s.forwards ++ launched fates
  dropped : t.dropped = s.dropped ++ refused fates
  /-- New tunnels may be asked for, for instances of the pool. -/
  sessions : ∃ more, t.sessions = s.sessions ++ more ∧ ∀ x ∈ more, x.backend ∈ s.pool.items

theorem serves_nil (s : Scheduler) : s.Serves [] s where
  tables := ⟨rfl, rfl⟩
  nextWeight := rfl
  pool := .rfl
  holdings _ := rfl
  tunnels := rfl
  members := by simp
  forwards := by simp [launched]
  dropped := by simp [refused]
  sessions := ⟨[], by simp⟩

theorem Serves.append {l l' : List (Nat × Option Nat)} (h : s.Serves l t) (h' : t.Serves l' u) :
    s.Serves (l ++ l') u where
  tables := ⟨h'.tables.1.trans h.tables.1, h'.tables.2.trans h.tables.2⟩
  nextWeight := h'.nextWeight.trans h.nextWeight
  pool := h'.pool.trans h.pool
  holdings b := (h'.holdings b).trans (h.holdings b)
  tunnels := h'.tunnels.trans h.tunnels
  members x hx b hb := by
    obtain hx | hx := List.mem_append.1 hx
    · exact h.members x hx b hb
    · exact h.pool.mem_iff.1 (h'.members x hx b hb)
  forwards := by
    rw [h'.forwards, h.forwards, launched, launched, launched, List.filterMap_append,
      List.append_assoc]
  dropped := by
    rw [h'.dropped, h.dropped, refused, refused, refused, List.filter_append, List.map_append,
      List.append_assoc]
  sessions := by
    obtain ⟨more, heq, hmore⟩ := h.sessions
    obtain ⟨more', heq', hmore'⟩ := h'.sessions
    refine ⟨more ++ more', by rw [heq', heq, List.append_assoc], fun x hx => ?_⟩
    obtain hx | hx := List.mem_append.1 hx
    · exact hmore x hx
    · exact h.pool.mem_iff.1 (hmore' x hx)

theorem holdings?_modifyBackend (s : Scheduler) (b c : Nat) {change : Backend → Backend}
    (h : ∀ x, (change x).holdings = x.holdings) :
    (s.modifyBackend b change).holdings? c = s.holdings? c := by
  refine (congrArg (Option.map Backend.holdings) (s.fleet.backend?_modifyBackend b c change)).trans ?_
  split
  · rw [Option.map_map]
    exact Option.map_congr fun x _ => h x
  · rfl

/-- An inspection marks slots, and leaves their tunnels where they are. -/
theorem holdings_inspect (x : Backend) (policy : TunnelPolicy) (now : Nat) (ids : Nat → UInt32) :
    (x.countDispatch.inspect policy now ids).2.holdings = x.holdings := by
  unfold Backend.inspect
  split
  · simp only [Backend.holdings, Backend.identity, Backend.countDispatch, List.map_map,
      Holdings.mk.injEq, true_and, and_true]
    refine List.map_congr_left fun y _ => ?_
    simp only [Function.comp_apply]
    split <;> rfl
  · rfl

/-- An inspection leaves every instance what it is and has. -/
theorem checkTunnels_holds (s : Scheduler) (b : Nat) :
    ∃ fleet worn,
      s.checkTunnels b =
        { s with
          fleet
          sessions := s.sessions ++ newSessions b s.sessionCount worn
          sessionCount := s.sessionCount + worn.length } ∧
      fleet.tunnels = s.fleet.tunnels ∧
      ∀ c, ({ s with fleet }).holdings? c = s.holdings? c := by
  rw [checkTunnels, Fleet.checkTunnels]
  cases s.fleet.backend? b with
  | none => exact ⟨s.fleet, [], by simp [newSessions], rfl, fun _ => rfl⟩
  | some x =>
      dsimp only
      rw [foldl_requestSession]
      have hcount := Fleet.foldl_count_replaced
        (x.countDispatch.inspect s.settings.policy s.uptime s.fleet.nextId).1
        (s.fleet.modifyBackend b fun x =>
          (x.countDispatch.inspect s.settings.policy s.uptime s.fleet.nextId).2)
      refine ⟨_, _, rfl, hcount.2, fun c => ?_⟩
      rw [holdings?, Fleet.backend?, hcount.1]
      exact s.holdings?_modifyBackend b c fun x => holdings_inspect x _ _ _

theorem serves_dispatch (h : s.pool.Indexed) (hpool : s.pool.isEmpty = false) (r : Nat) :
    ∃ fate, s.Serves [(r, fate)] (s.dispatch r) := by
  have hperm := (dispatch_keeps h hpool r).2.1
  obtain ⟨b, htop⟩ := Pool.exists_top hpool
  have hb := Array.mem_of_getElem? htop
  obtain ⟨q, hpop, -, -⟩ := Pool.pop_some s.less h htop
  by_cases hfull : s.settings.ceiling ≤ s.ongoing b
  · have heq : s.dispatch r = (({ s with pool := q } : Scheduler).enlist b).refuse r := by
      rw [dispatch, hpop]
      exact if_pos hfull
    rw [heq] at hperm ⊢
    exact ⟨none, ⟨rfl, rfl⟩, rfl, hperm, fun _ => rfl, rfl, by simp, (List.append_nil _).symm, rfl,
      ⟨[], (List.append_nil _).symm, by simp⟩⟩
  · have heq : s.dispatch r = ({ s with pool := q } : Scheduler).assign r b := by
      rw [dispatch, hpop]
      exact if_neg hfull
    obtain ⟨fleet, worn, hcheck, htunnels, hholdings⟩ :=
      ((({ s with pool := q } : Scheduler).modifyBackend b Backend.begin).enlist b).checkTunnels_holds b
    have hbegin (c : Nat) := @holdings?_modifyBackend { s with pool := q } b c Backend.begin
    rw [heq, assign, hcheck] at hperm ⊢
    refine ⟨some b, ⟨rfl, rfl⟩, rfl, hperm, fun c => (hholdings c).trans (hbegin c fun _ => rfl),
      htunnels, by simpa using hb, rfl, (List.append_nil _).symm, ⟨_, rfl, fun x hx => ?_⟩⟩
    obtain ⟨y, -, rfl⟩ := List.mem_map.1 hx
    exact hb

/-- Who waits behind makes no difference. -/
theorem Serves.of_pending {queue : List Nat} {l : List (Nat × Option Nat)}
    (h : ({ s with pending := queue } : Scheduler).Serves l t) : s.Serves l t :=
  ⟨h.tables, h.nextWeight, h.pool, h.holdings, h.tunnels, h.members, h.forwards, h.dropped, h.sessions⟩

theorem drainPending_of_isEmpty (h : s.pool.isEmpty = true) : s.drainPending = s := by
  rw [drainPending]
  cases hpending : s.pending with
  | nil => rfl
  | cons r rest => simp [drainSome, hpending, h]

/-- **Going through the queue** while the pool has instances serves all who wait, in the
order in which they came. -/
theorem serves_drain (h : s.pool.Indexed) (hpool : s.pool.isEmpty = false) :
    ∃ fates, fates.map Prod.fst = s.pending ∧ s.Serves fates s.drainPending := by
  generalize hn : s.pending = queue
  rw [drainPending, hn]
  induction queue generalizing s with
  | nil => exact ⟨[], rfl, serves_nil s⟩
  | cons r rest ih =>
      obtain ⟨hindexed, hperm, hpending⟩ := dispatch_keeps (s := { s with pending := rest }) h hpool r
      obtain ⟨fate, hfirst⟩ := serves_dispatch (s := { s with pending := rest }) h hpool r
      have hmore : (({ s with pending := rest } : Scheduler).dispatch r).pool.isEmpty = false := by
        obtain ⟨b, htop⟩ := Pool.exists_top hpool
        exact Pool.isEmpty_eq_false_of_mem (hperm.mem_iff.2 (Array.mem_of_getElem? htop))
      obtain ⟨fates, hfates, hthen⟩ := ih hindexed hmore hpending
      have hstep : drainSome (r :: rest).length s =
          drainSome rest.length (({ s with pending := rest }).dispatch r) := by
        simp [drainSome, hn, hpool]
      refine ⟨(r, fate) :: fates, by rw [List.map_cons, hfates], ?_⟩
      rw [hstep]
      exact hfirst.of_pending.append hthen

end Scheduler

end StreamBalancer
