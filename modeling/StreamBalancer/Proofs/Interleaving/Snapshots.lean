import StreamBalancer.Proofs.Interleaving.Stretch
import StreamBalancer.Proofs.Interleaving.SweepOrder
import StreamBalancer.Proofs.Interleaving.Sweeps
import StreamBalancer.Proofs.Interleaving.Transit

/-!
# StreamBalancer.Proofs.Interleaving.Snapshots

What a snapshot does, if arrivals are not shuffled (`Life.snapshot_taken`).

1. Each tunnel has one owner, also after the signal to shut down (`Life.owned`), so a
   tunnel is in one slot at most and those of the instances that go are closed once.
2. `Swept` is what tables, pool and instances are like after removals, revivals and
   arrivals, and going through the queue leaves it (`Swept.serves`).
3. `Takes` is the whole (`takes_of_opens`).
-/

namespace StreamBalancer

namespace Life

open Scheduler World

variable {settings : Settings} {permits : Nat} {w : World} {past : List World}

/-! ## Owners -/

/-- Sessions are told apart by number. -/
theorem numbered (life : Life settings permits (w :: past)) : w.scheduler.Numbered := by
  induction life using Life.induct with
  | initial => exact ⟨List.nodup_nil, by simp [World.initial]⟩
  | kept _ step ih => exact step.numbered ih
  | signalled _ ih => exact ih

/-- Each tunnel has one owner. -/
theorem owned (life : Life settings permits (w :: past)) : w.traffic.Owned := by
  induction life using Life.induct with
  | initial => exact ⟨fun _ => rfl, fun _ _ _ hsome => by contradiction⟩
  | kept life step ih => exact ih.drifts (step.drift life.sound life.apart life.numbered)
  | signalled _ ih => exact ih

/-- A tunnel is in one slot at most. -/
theorem seat_unique (life : Life settings permits (w :: past)) {b c i j k : Nat}
    (hb : w.scheduler.tunnelAt b i = some k) (hc : w.scheduler.tunnelAt c j = some k) :
    b = c ∧ i = j := by
  by_contra hne
  have hseats := w.traffic.one_lt_seats ((tunnelAt_traffic _ _ b i).trans hb)
    ((tunnelAt_traffic _ _ c j).trans hc) (by simpa using hne)
  have honce := life.owned.once k
  split at honce <;> omega

end Life

namespace Scheduler

variable {s t u : Scheduler} {most : Nat} {healthy : List String}

/-! ## What a snapshot leaves behind -/

/-- The healthy addresses that are known. -/
def staying (s : Scheduler) (healthy : List String) : List String :=
  healthy.filter fun a => (s.tracked? a).isSome

/-- The new addresses for which there is room, in byte order. -/
def admitted (s : Scheduler) (healthy : List String) : List String :=
  (s.fresh healthy).take (s.settings.maxBackends - (s.staying healthy).length)

/-- The tunnels in the slots of the instances that go. -/
def leftover (s : Scheduler) (healthy : List String) : List Nat :=
  (s.gone healthy).flatMap s.tunnelsUnder

/-- Tables, pool and instances after the removals, revivals and arrivals of a snapshot. -/
structure Swept (s : Scheduler) (healthy : List String) (t : Scheduler) : Prop where
  /-- Of the addresses that were known the healthy ones are, and as many new ones as there
  is room for. -/
  known : t.known.Perm (s.staying healthy ++ s.admitted healthy)
  /-- An instance of a healthy address stays where it is, with its tunnels and bytes. -/
  stays : ∀ a ∈ healthy, ∀ b, s.tracked? a = some b →
    t.schedulable.find? a = s.schedulable.find? a ∧ t.connecting.find? a = s.connecting.find? a ∧
    t.holdings? b = s.holdings? b
  /-- Any other instance is given up: it is in neither table and not in the pool, it is
  marked, and its slots are empty. -/
  goes : ∀ a ∉ healthy, ∀ b, s.tracked? a = some b →
    t.tracked? a = none ∧ b ∉ t.pool.items ∧
    ∃ x, t.holdings? b = some x ∧ x.identity.retired = true ∧ ∀ y ∈ x.tunnels, y = none
  /-- The tunnels of those that go are told to close, and no others are. -/
  closes : ∀ k : Nat, t.fleet.tunnels[k]? = (s.fleet.tunnels[k]?).map fun x =>
    if k ∈ s.leftover healthy then x.close else x
  /-- Those that take requests are in the pool. -/
  pooled : ∀ b, b ∈ t.pool.items ↔ ∃ a, t.schedulable.find? a = some b
  /-- New instances get the next numbers and weights in the order of their addresses.  They
  take requests at once if they have no slots, and wait for a first tunnel otherwise. -/
  comes : ∀ i a, (s.admitted healthy)[i]? = some a →
    t.holdings? (s.fleet.backends.size + i) = some ⟨⟨a, s.nextWeight + i, false⟩,
      List.replicate s.settings.tunnelCount none, 0, 0⟩ ∧
    if s.settings.tunnelCount = 0 then t.schedulable.find? a = some (s.fleet.backends.size + i)
    else t.schedulable.find? a = none ∧ t.connecting.find? a = some (s.fleet.backends.size + i)
  nextWeight : t.nextWeight = s.nextWeight + (s.admitted healthy).length
  /-- For one that waits, one session is asked for per slot.  For the others, sessions are
  asked for only if they are in the pool. -/
  asks : ∃ asked, t.sessions = s.sessions ++ asked ∧
    (s.settings.tunnelCount ≠ 0 → ∀ i < (s.admitted healthy).length,
      (asked.filter fun x => x.backend = s.fleet.backends.size + i) =
        newSessions (s.fleet.backends.size + i) (s.sessionCount + i * s.settings.tunnelCount)
          (List.range s.settings.tunnelCount)) ∧
    ∀ x ∈ asked, x.backend < s.fleet.backends.size → x.backend ∈ t.pool.items

/-- **What a snapshot does.** -/
structure Takes (s : Scheduler) (healthy : List String) (t : Scheduler) : Prop where
  swept : s.Swept healthy t
  /-- While the pool has instances all who wait are dispatched or refused, in the order in
  which they came. -/
  served : t.pool.isEmpty = false → t.pending = [] ∧
    ∃ fates, fates.map Prod.fst = s.pending ∧ (∀ x ∈ fates, ∀ b, x.2 = some b → b ∈ t.pool.items) ∧
      t.forwards = s.forwards ++ launched fates ∧ t.dropped = s.dropped ++ refused fates
  /-- While it has none nobody is. -/
  unserved : t.pool.isEmpty = true →
    t.pending = s.pending ∧ t.forwards = s.forwards ∧ t.dropped = s.dropped

theorem Serves.tracked? {fates : List (Nat × Option Nat)} (h : t.Serves fates u) (a : String) :
    u.tracked? a = t.tracked? a := by
  rw [Scheduler.tracked?, h.tables.1, h.tables.2]
  rfl

/-- Going through the queue leaves tables, instances and the members of the pool. -/
theorem Swept.serves {fates : List (Nat × Option Nat)} (h : s.Swept healthy t) (h' : t.Serves fates u)
    (hnew : ∀ b ∈ t.pool.items, s.settings.tunnelCount ≠ 0 → b < s.fleet.backends.size) :
    s.Swept healthy u := by
  obtain ⟨hschedulable, hconnecting⟩ := h'.tables
  have hknown : u.known = t.known := by
    rw [Scheduler.known, hschedulable, hconnecting, Scheduler.known]
  obtain ⟨asked, hsessions, hslots, hpooled⟩ := h.asks
  obtain ⟨more, hmore, hmembers⟩ := h'.sessions
  refine
    { known := hknown ▸ h.known
      stays := fun a ha b hb => ?_
      goes := fun a ha b hb => ?_
      closes := h'.tunnels ▸ h.closes
      pooled := fun b => ?_
      comes := fun i a ha => ?_
      nextWeight := h'.nextWeight.trans h.nextWeight
      asks := ⟨asked ++ more, by rw [hmore, hsessions, List.append_assoc], fun hcount i hi => ?_,
        fun x hx hold => ?_⟩ }
  · rw [hschedulable, hconnecting, h'.holdings]
    exact h.stays a ha b hb
  · rw [h'.tracked?, h'.holdings, h'.pool.mem_iff]
    exact h.goes a ha b hb
  · rw [h'.pool.mem_iff, hschedulable]
    exact h.pooled b
  · rw [hschedulable, hconnecting, h'.holdings]
    exact h.comes i a ha
  · have hnone : (more.filter fun x => x.backend = s.fleet.backends.size + i) = [] := by
      refine List.filter_eq_nil_iff.2 fun x hx hb => ?_
      have hlt := hnew _ (hmembers x hx) hcount
      have heq := of_decide_eq_true hb
      omega
    rw [List.filter_append, hnone, List.append_nil]
    exact hslots hcount i hi
  · rw [h'.pool.mem_iff]
    obtain hx | hx := List.mem_append.1 hx
    · exact hpooled x hx hold
    · exact hmembers x hx

/-! ## The loops, one after the other -/

theorem isSome_tracked?_iff (s : Scheduler) (a : String) :
    (s.tracked? a).isSome = true ↔ a ∈ s.known := by
  rw [known, List.mem_append, ← Directory.contains_iff, ← Directory.contains_iff, tracked?,
    Option.isSome_or, Bool.or_eq_true, Directory.contains, Directory.contains]

theorem length_known (s : Scheduler) : s.known.length = s.trackedCount := by
  simp [known, trackedCount, Directory.size, Directory.addresses]

theorem nodup_known (h : s.roster.Sound most) : s.known.Nodup :=
  List.nodup_append.2 ⟨h.schedulable_unique, h.connecting_unique, fun a ha _ hb hab =>
    h.disjoint a ha (hab ▸ hb)⟩

theorem mem_gone_iff (s : Scheduler) (healthy : List String) (a : String) :
    a ∈ s.gone healthy ↔ (s.tracked? a).isSome = true ∧ a ∉ healthy := by
  rw [isSome_tracked?_iff, gone, List.mem_filter, decide_eq_true_eq, known]

/-- The addresses that stay, in the order of the tables and in that of the bytes. -/
theorem perm_staying (h : s.roster.Sound most) (hhealthy : healthy.Nodup) :
    (s.known.filter fun a => a ∉ s.gone healthy).Perm (s.staying healthy) := by
  refine (List.perm_ext_iff_of_nodup ((nodup_known h).filter _) (hhealthy.filter _)).2 fun a => ?_
  simp only [List.mem_filter, decide_eq_true_eq, mem_gone_iff, ← isSome_tracked?_iff]
  grind

theorem exists_slot_of_mem {b k : Nat} (h : k ∈ s.tunnelsOf b) : ∃ i, s.tunnelAt b i = some k := by
  rw [tunnelsOf] at h
  cases hx : s.fleet.backend? b with
  | none =>
      rw [hx] at h
      contradiction
  | some x =>
      rw [hx] at h
      obtain ⟨slot, hslot, hk⟩ := List.mem_filterMap.1 h
      obtain ⟨i, hi⟩ := List.mem_iff_getElem?.1 hslot
      exact ⟨i, by simp [tunnelAt, Fleet.tunnelAt, Fleet.slot?, hx, hi, hk]⟩

theorem mem_tunnelsUnder {a : String} {k : Nat} (h : k ∈ s.tunnelsUnder a) :
    ∃ b, s.tracked? a = some b ∧ k ∈ s.tunnelsOf b := by
  rw [tunnelsUnder] at h
  cases hb : s.tracked? a with
  | none =>
      rw [hb] at h
      contradiction
  | some b =>
      rw [hb] at h
      exact ⟨b, rfl, h⟩

section Seats

variable (hseat : ∀ {b c i j k}, s.tunnelAt b i = some k → s.tunnelAt c j = some k → b = c ∧ i = j)
include hseat

theorem nodup_tunnelsOf (b : Nat) : (s.tunnelsOf b).Nodup := by
  rw [tunnelsOf]
  cases hx : s.fleet.backend? b with
  | none => exact List.nodup_nil
  | some x =>
      have hat : ∀ {i k}, (x.slots[i]?).bind Slot.tunnel = some k → s.tunnelAt b i = some k := by
        intro i k hk
        rw [tunnelAt, Fleet.tunnelAt, Fleet.slot?, hx]
        exact hk
      rw [Option.map_some, Option.getD_some, Backend.tunnels, List.Nodup, List.pairwise_filterMap,
        List.pairwise_iff_getElem]
      rintro i j hi hj hlt k hk _ hk' rfl
      have hsame := hseat (hat (i := i) (by simpa [hi] using hk)) (hat (i := j) (by simpa [hj] using hk'))
      omega

/-- The instances that go have no tunnel twice. -/
theorem nodup_leftover (h : s.roster.Sound most) (healthy : List String) :
    (s.leftover healthy).Nodup := by
  refine List.nodup_flatMap.2 ⟨fun a _ => ?_, ?_⟩
  · rw [tunnelsUnder]
    cases s.tracked? a with
    | none => exact List.nodup_nil
    | some b => exact nodup_tunnelsOf hseat b
  · refine ((nodup_known h).filter _).imp fun {a c} hne k hk hk' => ?_
    obtain ⟨b, hb, hk⟩ := mem_tunnelsUnder hk
    obtain ⟨d, hd, hk'⟩ := mem_tunnelsUnder hk'
    obtain ⟨i, hi⟩ := exists_slot_of_mem hk
    obtain ⟨j, hj⟩ := exists_slot_of_mem hk'
    obtain ⟨rfl, -⟩ := hseat hi hj
    exact hne (h.tracked_address hb hd)

end Seats

theorem admitted_new (s : Scheduler) (healthy : List String) :
    ∀ a ∈ s.admitted healthy, a ∈ healthy ∧ s.tracked? a = none := by
  intro a ha
  have hfresh := List.mem_filter.1 (List.mem_of_mem_take ha)
  exact ⟨hfresh.1, Option.isNone_iff_eq_none.1 hfresh.2⟩

theorem not_mem_admitted {a : String} {b : Nat} (h : s.tracked? a = some b) :
    a ∉ s.admitted healthy := by
  intro ha
  rw [(s.admitted_new healthy a ha).2] at h
  contradiction

/-- The removals and revivals of a snapshot are made. -/
structure Readied (s : Scheduler) (healthy : List String) (t : Scheduler) : Prop where
  givesUp : s.GivesUp (s.gone healthy) t
  pooled : ∀ b, b ∈ t.pool.items ↔ ∃ a, t.schedulable.find? a = some b

namespace Readied

variable {pool : Pool} {a : String} {b : Nat}

theorem keeps (h : s.Readied healthy t) :
    t.settings = s.settings ∧ t.nextWeight = s.nextWeight ∧ t.sessions = s.sessions ∧
      t.sessionCount = s.sessionCount ∧ t.pending = s.pending ∧ t.forwards = s.forwards ∧
      t.dropped = s.dropped := by
  obtain ⟨_, _, _, _, heq⟩ := h.givesUp.rest
  simp [heq]

/-- An address that takes requests did so before. -/
theorem find?_eq (h : s.Readied healthy t) (ha : t.schedulable.find? a = some b) :
    a ∉ s.gone healthy ∧ s.schedulable.find? a = some b := by
  rw [h.givesUp.schedulable] at ha
  split at ha
  · contradiction
  · next hstays => exact ⟨hstays, ha⟩

theorem tracked?_admitted (h : s.Readied healthy t) (ha : a ∈ s.admitted healthy) :
    t.tracked? a = none := by
  rw [h.givesUp.tracked?, (s.admitted_new healthy a ha).2, ite_self]

theorem trackedCount_eq (h : s.Readied healthy t) (hs : s.roster.Sound most)
    (hhealthy : healthy.Nodup) : t.trackedCount = (s.staying healthy).length := by
  rw [← length_known, h.givesUp.known]
  exact (perm_staying hs hhealthy).length_eq

theorem stays (h : s.Readied healthy t) (hs : s.roster.Sound most) (ha : a ∈ healthy)
    (hb : s.tracked? a = some b) (pool : Pool) :
    (t.withBackends (s.admitted healthy) pool).schedulable.find? a = s.schedulable.find? a ∧
      (t.withBackends (s.admitted healthy) pool).connecting.find? a = s.connecting.find? a ∧
      (t.withBackends (s.admitted healthy) pool).holdings? b = s.holdings? b := by
  obtain ⟨hfirst, hsecond⟩ := tables_withBackends_of_not_mem (s := t) (not_mem_admitted hb) pool
  have hlt := hs.lt_of_tracked hb
  rw [length_identities, ← h.givesUp.size] at hlt
  have hstays : a ∉ s.gone healthy := fun hmem => ((s.mem_gone_iff healthy a).1 hmem).2 ha
  refine ⟨hfirst.trans ?_, hsecond.trans ?_, (holdings?_withBackends_of_lt hlt _ pool).trans ?_⟩
  · exact (h.givesUp.schedulable a).trans (if_neg hstays)
  · exact (h.givesUp.connecting a).trans (if_neg hstays)
  · refine congrArg (Option.map Backend.holdings) ((h.givesUp.backend b).trans (if_neg ?_))
    rintro ⟨k, hk, hkb⟩
    exact hstays (hs.tracked_address hb hkb ▸ hk)

theorem goes (h : s.Readied healthy t) (hs : s.roster.Sound most) (ha : a ∉ healthy)
    (hb : s.tracked? a = some b) (pool : Pool) :
    (t.withBackends (s.admitted healthy) pool).tracked? a = none ∧
      ∃ x, (t.withBackends (s.admitted healthy) pool).holdings? b = some x ∧
        x.identity.retired = true ∧ ∀ y ∈ x.tunnels, y = none := by
  obtain ⟨hfirst, hsecond⟩ := tables_withBackends_of_not_mem (s := t) (not_mem_admitted hb) pool
  have hmem : a ∈ s.gone healthy := (s.mem_gone_iff healthy a).2 ⟨by rw [hb]; rfl, ha⟩
  have hlt := hs.lt_of_tracked hb
  rw [length_identities] at hlt
  refine ⟨?_, ?_⟩
  · rw [Scheduler.tracked?, hfirst, hsecond]
    exact (h.givesUp.tracked? a).trans (if_pos hmem)
  · have hretired := (h.givesUp.backend b).trans (if_pos ⟨a, hmem, hb⟩)
    obtain ⟨x, hx⟩ : ∃ x, s.fleet.backend? b = some x := ⟨_, Array.getElem?_eq_getElem hlt⟩
    rw [hx] at hretired
    refine ⟨x.retire.holdings, ?_, rfl, by simp [Backend.retire, Backend.holdings]⟩
    rw [holdings?_withBackends_of_lt (h.givesUp.size ▸ hlt), holdings?, hretired]
    rfl

theorem comes (h : s.Readied healthy t) (hhealthy : healthy.Nodup) {i : Nat}
    (ha : (s.admitted healthy)[i]? = some a) (pool : Pool) :
    (t.withBackends (s.admitted healthy) pool).holdings? (s.fleet.backends.size + i) =
        some ⟨⟨a, s.nextWeight + i, false⟩, List.replicate s.settings.tunnelCount none, 0, 0⟩ ∧
      if s.settings.tunnelCount = 0 then
        (t.withBackends (s.admitted healthy) pool).schedulable.find? a =
          some (s.fleet.backends.size + i)
      else (t.withBackends (s.admitted healthy) pool).schedulable.find? a = none ∧
        (t.withBackends (s.admitted healthy) pool).connecting.find? a =
          some (s.fleet.backends.size + i) := by
  obtain ⟨hsettings, hweight, -⟩ := h.keeps
  have hnodup : (s.admitted healthy).Nodup := (hhealthy.filter _).sublist (List.take_sublist _ _)
  have hnew := h.tracked?_admitted (List.mem_of_getElem? ha)
  have htables := tables_withBackends hnodup ha hnew pool
  have hholdings := holdings?_withBackends (s := t) ha pool
  rw [hsettings, h.givesUp.size] at htables
  rw [hsettings, h.givesUp.size, hweight] at hholdings
  exact ⟨hholdings, htables⟩

/-- New instances without slots join the pool, so that all that take requests are in it. -/
theorem pooled_iff (h : s.Readied healthy t) (hhealthy : healthy.Nodup)
    (hpool : ∀ b, b ∈ pool.items ↔ b ∈ t.pool.items ∨ s.settings.tunnelCount = 0 ∧
      s.fleet.backends.size ≤ b ∧ b < s.fleet.backends.size + (s.admitted healthy).length) (b : Nat) :
    b ∈ pool.items ↔
      ∃ a, (t.withBackends (s.admitted healthy) pool).schedulable.find? a = some b := by
  rw [hpool, h.pooled]
  constructor
  · rintro (⟨a, ha⟩ | ⟨hslots, hle, hlt⟩)
    · have hnot : a ∉ s.admitted healthy :=
        not_mem_admitted (Roster.Sound.tracked_of_schedulable (r := s.roster) (h.find?_eq ha).2)
      exact ⟨a, (tables_withBackends_of_not_mem hnot pool).1.trans ha⟩
    · obtain ⟨i, rfl⟩ := Nat.exists_eq_add_of_le hle
      have hi : i < (s.admitted healthy).length := by omega
      have hready := (h.comes hhealthy (List.getElem?_eq_getElem hi) pool).2
      rw [if_pos hslots] at hready
      exact ⟨_, hready⟩
  · rintro ⟨a, ha⟩
    by_cases hmem : a ∈ s.admitted healthy
    · obtain ⟨i, hi⟩ := List.mem_iff_getElem?.1 hmem
      have hlt := (List.getElem?_eq_some_iff.1 hi).1
      have hready := (h.comes hhealthy hi pool).2
      split at hready
      · next hslots =>
        obtain rfl := Option.some.inj (ha.symm.trans hready)
        exact .inr ⟨hslots, by omega, by omega⟩
      · rw [hready.1] at ha
        contradiction
    · exact .inl ⟨a, (tables_withBackends_of_not_mem hmem pool).1.symm.trans ha⟩

/-- The arrivals complete what the removals and revivals have begun. -/
theorem swept (h : s.Readied healthy t) (hs : s.roster.Sound most) (hhealthy : healthy.Nodup)
    (hleftover : (s.leftover healthy).Nodup)
    (hpool : ∀ b, b ∈ pool.items ↔ b ∈ t.pool.items ∨ s.settings.tunnelCount = 0 ∧
      s.fleet.backends.size ≤ b ∧ b < s.fleet.backends.size + (s.admitted healthy).length) :
    s.Swept healthy (t.withBackends (s.admitted healthy) pool) := by
  obtain ⟨hsettings, hweight, hsessions, hsessionCount, -⟩ := h.keeps
  have hpooled := h.pooled_iff hhealthy hpool
  obtain ⟨asked, heq, hslots, hlater⟩ := t.asked_withBackends (s.admitted healthy) pool
  rw [hsessions] at heq
  rw [hsettings, h.givesUp.size, hsessionCount] at hslots
  rw [h.givesUp.size] at hlater
  refine
    { known := ?_
      stays := fun a ha b hb => h.stays hs ha hb pool
      goes := fun a ha b hb => ?_
      closes := fun k => ?_
      pooled := hpooled
      comes := fun i a ha => h.comes hhealthy ha pool
      nextWeight := congrArg (· + (s.admitted healthy).length) hweight
      asks := ⟨asked, heq, fun _ => hslots, fun x hx hlt => absurd (hlater x hx) (Nat.not_le.2 hlt)⟩ }
  · refine (t.known_withBackends (s.admitted healthy) pool).trans (List.Perm.append_right _ ?_)
    exact h.givesUp.known ▸ perm_staying hs hhealthy
  · obtain ⟨hnone, hretired⟩ := h.goes hs ha hb pool
    refine ⟨hnone, fun hin => ?_, hretired⟩
    obtain hin | ⟨-, hle, -⟩ := (hpool b).1 hin
    · obtain ⟨k, hk⟩ := (h.pooled b).1 hin
      obtain ⟨hstays, hbefore⟩ := h.find?_eq hk
      obtain rfl := hs.tracked_address (Roster.Sound.tracked_of_schedulable hbefore) hb
      exact hstays ((s.mem_gone_iff healthy k).2 ⟨by rw [hb]; rfl, ha⟩)
    · have hlt := hs.lt_of_tracked hb
      rw [length_identities] at hlt
      exact absurd hle (Nat.not_le.2 hlt)
  · refine (h.givesUp.tunnels k).trans (Option.map_congr fun x _ => ?_)
    have hcount : ((s.gone healthy).flatMap s.tunnelsUnder).count k =
        if k ∈ s.leftover healthy then 1 else 0 := hleftover.count
    rw [hcount]
    split <;> rfl

/-- Of the new addresses those are added for which there is room. -/
theorem arrivals (h : s.Readied healthy t) (hs : s.roster.Sound most) (hhealthy : healthy.Nodup) :
    ∃ pool, (s.fresh healthy).foldl addIfRoom t = t.withBackends (s.admitted healthy) pool ∧
      ∀ b, b ∈ pool.items ↔ b ∈ t.pool.items ∨ s.settings.tunnelCount = 0 ∧
        s.fleet.backends.size ≤ b ∧ b < s.fleet.backends.size + (s.admitted healthy).length := by
  obtain ⟨hsettings, -⟩ := h.keeps
  have hnew : ∀ a ∈ s.fresh healthy, t.tracked? a = none := by
    intro a ha
    rw [h.givesUp.tracked?, Option.isNone_iff_eq_none.1 (List.mem_filter.1 ha).2, ite_self]
  have hadds := foldl_addIfRoom (hhealthy.filter _) hnew
  rwa [hsettings, h.trackedCount_eq hs hhealthy, h.givesUp.size] at hadds

end Readied

/-- Removals and revivals, one after the other. -/
theorem readied_foldl {removals revivals : List String} (h : s.roster.Sound most)
    (hremovals : removals.Perm (s.gone healthy)) (hrevivals : revivals.Perm healthy) :
    s.Readied healthy (revivals.foldl revive (removals.foldl removeBackend s)) := by
  have hnodup := hremovals.nodup_iff.2 ((nodup_known h).filter _)
  obtain ⟨hgone, hsound⟩ := givesUp_foldl h hnodup
  obtain ⟨pool, heq, hpool⟩ := foldl_revive (s := removals.foldl removeBackend s) hsound.indexed revivals
  have hgone := hgone.of_perm hremovals
  rw [heq]
  refine ⟨hgone.setPool pool, fun b => (hpool b).trans ⟨?_, ?_⟩⟩
  · rintro (hb | ⟨a, -, ha⟩)
    · exact hsound.pooled b hb
    · exact ⟨a, ha⟩
  · rintro ⟨a, ha⟩
    refine .inr ⟨a, ?_, ha⟩
    by_contra hnot
    have hgoes : a ∈ s.gone healthy := by
      have hbefore := ha
      rw [hgone.schedulable] at hbefore
      split at hbefore
      · contradiction
      · refine (s.mem_gone_iff healthy a).2 ⟨?_, fun hmem => hnot (hrevivals.mem_iff.2 hmem)⟩
        rw [Scheduler.tracked?, hbefore]
        rfl
    rw [hgone.schedulable, if_pos hgoes] at ha
    contradiction

theorem does_changes (s : Scheduler) (removals revivals arrivals : List String) :
    Does s (changes removals revivals arrivals)
      (arrivals.foldl addIfRoom (revivals.foldl revive (removals.foldl removeBackend s))) := by
  have hrevive : ∀ (s : Scheduler) a, Does s [.revive a] (s.revive a) := fun _ _ => .single rfl
  have harrive : ∀ (s : Scheduler) a, Does s [.arrive a] (s.addIfRoom a) := fun _ _ => .single rfl
  exact (Does.map does_remove removals s).append
    ((Does.map hrevive revivals _).append (Does.map harrive arrivals _))

/-- Going through the queue completes what the arrivals leave. -/
theorem Swept.drain (h : s.Swept healthy t) (hindexed : t.pool.Indexed)
    (hnew : ∀ b ∈ t.pool.items, s.settings.tunnelCount ≠ 0 → b < s.fleet.backends.size)
    (hpending : t.pending = s.pending) (hforwards : t.forwards = s.forwards)
    (hdropped : t.dropped = s.dropped) : s.Takes healthy t.drainPending := by
  obtain ⟨hends, hperm⟩ := drainPending_ends hindexed
  cases hpool : t.pool.isEmpty with
  | true =>
      rw [drainPending_of_isEmpty hpool]
      refine ⟨h, fun hsome => ?_, fun _ => ⟨hpending, hforwards, hdropped⟩⟩
      rw [hpool] at hsome
      contradiction
  | false =>
      obtain ⟨fates, hfates, hserves⟩ := serves_drain hindexed hpool
      have hsome : t.drainPending.pool.isEmpty = false := by
        obtain ⟨b, htop⟩ := Pool.exists_top hpool
        exact Pool.isEmpty_eq_false_of_mem (hperm.mem_iff.2 (Array.mem_of_getElem? htop))
      refine ⟨h.serves hserves hnew, fun _ => ⟨?_, fates, hfates.trans hpending, ?_, ?_, ?_⟩,
        fun hnone => ?_⟩
      · rw [hsome] at hends
        exact hends.resolve_right Bool.false_ne_true
      · exact fun x hx b hb => hperm.mem_iff.2 (hserves.members x hx b hb)
      · rw [hserves.forwards, hforwards]
      · rw [hserves.dropped, hdropped]
      · rw [hsome] at hnone
        contradiction

/-- **What a snapshot does**, in whatever order its removals and revivals are made. -/
theorem takes_of_opens {w : World} (hw : w.Tidy) {x : Snapshot} {removals revivals : List String}
    (hleftover : (w.scheduler.leftover x.healthy).Nodup)
    (hremovals : removals.Perm (w.scheduler.gone x.healthy)) (hrevivals : revivals.Perm x.healthy)
    (hopens : w.scheduler.Opens (.snapshot x)
      (sweep removals revivals (w.scheduler.fresh x.healthy))) :
    w.scheduler.Takes x.healthy
      (w.scheduler.applySnapshot removals revivals (w.scheduler.fresh x.healthy)) := by
  have hs := hw.sound.roster
  have hhealthy : x.healthy.Nodup := Addresses.nodup_ofList _
  have hready := readied_foldl hs hremovals hrevivals
  obtain ⟨-, -, -, -, hpending, hforwards, hdropped⟩ := hready.keeps
  obtain ⟨pool, heq, hpool⟩ := hready.arrivals hs hhealthy
  have hindexed : ((w.scheduler.fresh x.healthy).foldl addIfRoom
      (revivals.foldl revive (removals.foldl removeBackend w.scheduler))).pool.Indexed := by
    have htidy : World.Tidy { w with tasks := _ ++ [.publish] } :=
      ⟨hw.sound.opens rfl rfl hopens, hw.ordered⟩
    rw [sweep_eq_changes, List.append_assoc] at htidy
    exact (htidy.does (w.scheduler.does_changes _ _ _)).sound.roster.indexed
  have hnew : ∀ b ∈ pool.items, w.scheduler.settings.tunnelCount ≠ 0 →
      b < w.scheduler.fleet.backends.size := by
    intro b hb hslots
    obtain hb | ⟨hnone, -⟩ := (hpool b).1 hb
    · obtain ⟨a, ha⟩ := (hready.pooled b).1 hb
      rw [← length_identities]
      exact hs.lt_of_tracked (Roster.Sound.tracked_of_schedulable (hready.find?_eq ha).2)
    · exact absurd hnone hslots
  rw [applySnapshot]
  rw [heq] at hindexed ⊢
  exact (hready.swept hs hhealthy hleftover hpool).drain hindexed hnew hpending hforwards hdropped

end Scheduler

namespace Life

open Scheduler World

variable {settings : Settings} {permits : Nat} {w : World} {past : List World}

theorem tidy (life : Life settings permits (w :: past)) : w.Tidy := ⟨life.sound, life.pool_ordered⟩

/-- A snapshot is ignored, or its changes are made in some order. -/
theorem takes (life : Life settings permits (w :: past)) (hshuffle : settings.shuffle = false)
    {x : Snapshot} {tasks : List Task} (hopens : w.scheduler.Opens (.snapshot x) tasks) :
    (x.healthy = [] ∧ tasks = []) ∨
      ∃ t, Does w.scheduler tasks t ∧ w.scheduler.Takes x.healthy t := by
  have hopens' := hopens
  cases hopens with
  | ignored _ hnone => exact .inl ⟨hnone, rfl⟩
  | snapshot _ _ hremovals hrevivals harrivals =>
      obtain rfl | ⟨-, hshuffled, -⟩ := harrivals
      · refine .inr ⟨_, does_sweep _ _ _ _, takes_of_opens life.tidy ?_ hremovals hrevivals hopens'⟩
        exact nodup_leftover life.seat_unique life.sound.roster _
      · rw [life.steady.1, hshuffle] at hshuffled
        contradiction

/-- **What a snapshot does.**  At every moment of every history, and in whatever order the
scheduler makes the changes of a snapshot, if arrivals are not shuffled:

* a snapshot without a healthy address changes nothing;
* after any other one the healthy addresses that were known are known, and the first new
  ones in byte order, as many as there is room for; instances that stay are what they
  were, those that go are given up, those that come are ready or wait for a tunnel, all
  that take requests are in the pool, and if there are any the queue is served. -/
theorem snapshot_taken (life : Life settings permits (w :: past))
    (hshuffle : settings.shuffle = false) (x : Snapshot) {tasks : List Task}
    (hopens : w.scheduler.Opens (.snapshot x) tasks) :
    (x.healthy.Pairwise (· < ·) ∧ ∀ a, a ∈ x.healthy ↔ (a, .up) ∈ x.entries) ∧
    ∃ t, Does w.scheduler tasks t ∧ ((∀ a, (a, .up) ∉ x.entries) → t = w.scheduler) ∧
      ((∃ a, (a, .up) ∈ x.entries) → w.scheduler.Takes x.healthy t) := by
  refine ⟨⟨Addresses.sorted_ofList _, x.mem_healthy⟩, ?_⟩
  obtain ⟨hnone, rfl⟩ | ⟨t, hdoes, htakes⟩ := life.takes hshuffle hopens
  · refine ⟨_, .nil _, fun _ => rfl, fun ⟨a, ha⟩ => ?_⟩
    have hmem := (x.mem_healthy a).2 ha
    rw [hnone] at hmem
    contradiction
  · refine ⟨t, hdoes, fun hnone => ?_, fun _ => htakes⟩
    cases hopens with
    | ignored => cases hdoes; rfl
    | snapshot _ hsome =>
        obtain ⟨a, ha⟩ := List.exists_mem_of_ne_nil _ hsome
        exact absurd ((x.mem_healthy a).1 ha) (hnone a)

/-- A history in which of two instances one has a tunnel and takes requests, and the other
waits for its first one.  There is room for one of two new addresses if the first goes. -/
theorem exists_half_ready :
    ∃ w past, Life ⟨.leastLoaded, false, 2, 1, 1, ⟨0, 100⟩, default⟩ 1 (w :: past) ∧
      w.scheduler.schedulable.entries = [("a", 0)] ∧ w.scheduler.connecting.entries = [("b", 1)] ∧
      w.scheduler.gone ["b", "c", "d"] = ["a"] ∧ w.scheduler.fresh ["b", "c", "d"] = ["c", "d"] ∧
      w.scheduler.leftover ["b", "c", "d"] = [0] ∧
      ((w.scheduler.applySnapshot ["a"] ["b", "c", "d"] ["c", "d"]).publishGauges.gone
        ["b", "c", "d"] = [] ∧
      (w.scheduler.applySnapshot ["a"] ["b", "c", "d"] ["c", "d"]).publishGauges.fresh
        ["b", "c", "d"] = ["d"]) := by
  have begun := @Life.start ⟨.leastLoaded, false, 2, 1, 1, ⟨0, 100⟩, default⟩ 1
  -- a snapshot makes two instances, and a session is asked for for each
  have posted := begun.step (.work (.post (.ofHealthy ["a", "b"])))
  have opened := (posted.step
    (.receive rfl (.snapshot rfl) (.snapshot _ (by decide) .rfl .rfl (.inl rfl)))).settle 6
  -- the first gets its tunnel
  have looked := (opened.step (step_session 0 0 (by decide +kernel))).step
    (step_session 0 0 (by decide +kernel))
  have dialing := looked.step (step_session 0 0 (by decide +kernel))
  have dialed := dialing.step (.work (@Work.dialed _ 0 ⟨0, 0, 0, .dialing 0⟩ {}
    (by decide +kernel) rfl rfl))
  have handed := dialed.step (step_session 0 0 (by decide +kernel))
  have heard := (handed.step (.receive (by decide +kernel)
    (@Receives.handover _ ⟨0, 0, 0⟩ [] (by decide +kernel)) (.handover _))).settle 6
  exact ⟨_, _, heard, by decide +kernel, by decide +kernel, by decide +kernel, by decide +kernel,
    by decide +kernel, by decide +kernel, by decide +kernel⟩

/-- The first instance goes with its tunnel, the second goes on waiting, and of two new
addresses one is added. -/
theorem snapshot_taken_of_three :
    ∃ w past t, Life ⟨.leastLoaded, false, 2, 1, 1, ⟨0, 100⟩, default⟩ 1 (w :: past) ∧
      w.scheduler.schedulable.entries = [("a", 0)] ∧ w.scheduler.connecting.entries = [("b", 1)] ∧
      Does w.scheduler (sweep ["a"] ["b", "c", "d"] ["c", "d"]) t ∧
      w.scheduler.Takes ["b", "c", "d"] t ∧ w.scheduler.leftover ["b", "c", "d"] = [0] := by
  obtain ⟨w, past, life, hready, hwaiting, hgone, hfresh, hleftover, -⟩ := exists_half_ready
  have hopens := @Opens.snapshot w.scheduler (.ofHealthy ["b", "c", "d"]) ["a"] ["b", "c", "d"]
    ["c", "d"] (by decide) (.of_eq hgone.symm) .rfl (.inl hfresh.symm)
  obtain ⟨-, t, hdoes, -, htakes⟩ := snapshot_taken life rfl (.ofHealthy ["b", "c", "d"]) hopens
  exact ⟨w, past, t, life, hready, hwaiting, hdoes, htakes ⟨"b", by decide⟩, hleftover⟩

end Life

end StreamBalancer
