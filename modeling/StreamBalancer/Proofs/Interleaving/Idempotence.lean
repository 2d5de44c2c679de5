import StreamBalancer.Proofs.Interleaving.Snapshots

/-!
# StreamBalancer.Proofs.Interleaving.Idempotence

A snapshot that comes a second time does nothing at all, if arrivals are not shuffled
(`Life.snapshot_twice`).

1. The first one leaves nothing to remove, bring back, add or dispatch
   (`Takes.settled`): a new address that is still unknown found no room, and while a
   request waits the pool is empty.
2. For such a scheduler each of the four loops changes nothing (`Settled.idle`), and to
   publish the gauges again changes nothing either (`publishGauges_idem`).
-/

namespace StreamBalancer

namespace Scheduler

variable {s t : Scheduler} {healthy : List String}

/-- A scheduler for which a snapshot has nothing to do. -/
structure Settled (s : Scheduler) (healthy : List String) : Prop where
  known : ∀ a ∈ s.known, a ∈ healthy
  pooled : ∀ a b, s.schedulable.find? a = some b → s.pool.contains b = true
  fresh : s.fresh healthy = [] ∨ s.settings.maxBackends ≤ s.trackedCount
  drained : s.pending = [] ∨ s.pool.isEmpty = true

theorem Takes.settled (h : s.Takes healthy t) (hindexed : t.pool.Indexed)
    (hsettings : t.settings = s.settings) : t.Settled healthy where
  known a ha := by
    obtain ha | ha := List.mem_append.1 (h.swept.known.mem_iff.1 ha)
    · exact (List.mem_filter.1 ha).1
    · exact (s.admitted_new healthy a ha).1
  pooled a b hb := (hindexed.contains_iff b).2 ((h.swept.pooled b).2 ⟨a, hb⟩)
  fresh := by
    have hknown := h.swept.known
    have hlength := hknown.length_eq
    rw [length_known, List.length_append] at hlength
    by_cases hall : (s.fresh healthy).length ≤ s.settings.maxBackends - (s.staying healthy).length
    · left
      refine List.filter_eq_nil_iff.2 fun a ha => ?_
      have hmem : a ∈ t.known := by
        refine hknown.mem_iff.2 (List.mem_append.2 ?_)
        rw [admitted, List.take_of_length_le hall, staying, Scheduler.fresh, List.mem_filter,
          List.mem_filter]
        cases s.tracked? a <;> simp [ha]
      have hsome := (t.isSome_tracked?_iff a).2 hmem
      simpa using Option.isSome_iff_ne_none.1 hsome
    · right
      rw [hsettings, hlength, admitted, List.length_take]
      omega
  drained := by
    cases hpool : t.pool.isEmpty with
    | true => exact .inr rfl
    | false => exact .inl (h.served hpool).1

/-- A snapshot that has nothing to do does nothing. -/
theorem Settled.idle (h : s.Settled healthy) {removals revivals : List String}
    (hremovals : removals.Perm (s.gone healthy)) :
    s.applySnapshot removals revivals (s.fresh healthy) = s := by
  have hnone : s.gone healthy = [] := by
    refine List.filter_eq_nil_iff.2 fun a ha => ?_
    simpa using h.known a ha
  have hrevivals : revivals.foldl revive s = s := by
    have hone : ∀ a, s.revive a = s := by
      intro a
      rw [revive]
      split
      · next b hb => exact if_pos (h.pooled a b hb)
      · rfl
    exact List.foldl_fixed' hone revivals
  have harrivals : (s.fresh healthy).foldl addIfRoom s = s := by
    obtain hfresh | hfull := h.fresh
    · rw [hfresh]
      rfl
    · have hone : ∀ a, s.addIfRoom a = s := fun a => if_pos hfull
      exact List.foldl_fixed' hone _
  have hdrain : s.drainPending = s := by
    obtain hpending | hpool := h.drained
    · rw [drainPending, hpending]
      rfl
    · exact drainPending_of_isEmpty hpool
  rw [hnone] at hremovals
  rw [applySnapshot, hremovals.eq_nil, List.foldl_nil, hrevivals, harrivals, hdrain]

/-- To publish the gauges twice is to publish them once. -/
theorem publishGauges_idem (s : Scheduler) : s.publishGauges.publishGauges = s.publishGauges := by
  let m := ((s.fleet.metrics.set .backends s.trackedCount).set .poolSize s.pool.size).set
    .pending s.pending.length
  have hbackends : m.set .backends s.trackedCount = m :=
    Metrics.set_of_value? (by simp [m, Metrics.value?_set])
  have hpool : m.set .poolSize s.pool.size = m :=
    Metrics.set_of_value? (by simp [m, Metrics.value?_set])
  have hpending : m.set .pending s.pending.length = m :=
    Metrics.set_of_value? (by simp [m, Metrics.value?_set])
  have hall : ((m.set .backends s.trackedCount).set .poolSize s.pool.size).set .pending
      s.pending.length = m := by rw [hbackends, hpool, hpending]
  exact congrArg (fun metrics => { s with fleet := { s.fleet with metrics } }) hall

end Scheduler

namespace Life

open Scheduler World

variable {settings : Settings} {permits : Nat} {w : World} {past : List World}

/-- **A second snapshot like the first does nothing at all**, in whatever orders the changes of
the two are made. -/
theorem snapshot_twice (life : Life settings permits (w :: past)) (hshuffle : settings.shuffle = false)
    (x : Snapshot) {tasks tasks' : List Task} {t : Scheduler}
    (hopens : w.scheduler.Opens (.snapshot x) tasks)
    (hdoes : Does w.scheduler (tasks ++ [.publish]) t) (hopens' : t.Opens (.snapshot x) tasks') :
    Does t (tasks' ++ [.publish]) t ∧ ∀ u, Does t (tasks' ++ [.publish]) u → u = t := by
  have htidy : Tidy { w with tasks := tasks ++ [.publish] } :=
    ⟨life.sound.opens rfl rfl hopens, life.pool_ordered⟩
  obtain ⟨mid, hchanges, hpublish⟩ := hdoes.split
  obtain rfl : t = mid.publishGauges := hpublish.unique (.single rfl)
  have hagain : Does mid.publishGauges [.publish] mid.publishGauges :=
    .single (congrArg (·, []) (publishGauges_idem mid))
  suffices hsame : Does mid.publishGauges tasks' mid.publishGauges from
    ⟨hsame.append hagain, fun u hu => hu.unique (hsame.append hagain)⟩
  have hsettings := hchanges.settings_eq
  cases hopens' with
  | ignored => exact .nil _
  | @snapshot _ removals revivals _ hsome hremovals hrevivals harrivals =>
      obtain ⟨hnone, -⟩ | ⟨t, hdoes, htakes⟩ := life.takes hshuffle hopens
      · exact absurd hnone hsome
      obtain rfl := hchanges.unique hdoes
      obtain rfl | ⟨-, hshuffled, -⟩ := harrivals
      · have hindexed := (htidy.does hchanges).sound.roster.indexed
        obtain ⟨hknown, hpooled, hfresh, hdrained⟩ := htakes.settled hindexed hsettings
        have hsettled : mid.publishGauges.Settled x.healthy := ⟨hknown, hpooled, hfresh, hdrained⟩
        have hsweep := mid.publishGauges.does_sweep removals revivals
          (mid.publishGauges.fresh x.healthy)
        rwa [hsettled.idle hremovals] at hsweep
      · have hsorted : mid.publishGauges.settings.shuffle = false := by
          rw [← hshuffle, ← life.steady.1, ← hsettings]
          rfl
        exact absurd (hsorted.symm.trans hshuffled) Bool.false_ne_true

/-- One address found no room, and the same snapshot finds none for it again. -/
theorem snapshot_twice_of_three :
    ∃ w past t, Life ⟨.leastLoaded, false, 2, 1, 1, ⟨0, 100⟩, default⟩ 1 (w :: past) ∧
      Does w.scheduler (sweep ["a"] ["b", "c", "d"] ["c", "d"] ++ [.publish]) t ∧
      t.fresh ["b", "c", "d"] = ["d"] ∧
      Does t (sweep [] ["d", "c", "b"] ["d"] ++ [.publish]) t := by
  obtain ⟨w, past, life, -, -, hgone, hfresh, -, hgone', hfresh'⟩ := exists_half_ready
  have hopens := @Opens.snapshot w.scheduler (.ofHealthy ["b", "c", "d"]) ["a"] ["b", "c", "d"]
    ["c", "d"] (by decide) (.of_eq hgone.symm) .rfl (.inl hfresh.symm)
  have hdoes := (w.scheduler.does_sweep ["a"] ["b", "c", "d"] ["c", "d"]).append
    (@Does.single _ _ .publish rfl)
  generalize (w.scheduler.applySnapshot ["a"] ["b", "c", "d"] ["c", "d"]).publishGauges = t
    at hdoes hgone' hfresh'
  have hopens' := @Opens.snapshot t (.ofHealthy ["b", "c", "d"]) [] ["d", "c", "b"] ["d"] (by decide)
    (.of_eq hgone'.symm) (by decide) (.inl hfresh'.symm)
  exact ⟨w, past, _, life, hdoes, hfresh',
    (snapshot_twice life rfl (.ofHealthy ["b", "c", "d"]) hopens hdoes hopens').1⟩

end Life

end StreamBalancer
