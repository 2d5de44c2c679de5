import Mathlib.Data.String.Basic
import StreamBalancer.Proofs.Interleaving.Roster
import StreamBalancer.Scheduler.Stats

/-!
# StreamBalancer.Proofs.Stats

What the statistics show, if tables, pool and identities agree: the addresses in
strict byte order (`stats_sorted`), and as many entries in the pool as the pool has
members (`stats_poolSize`).
-/

namespace StreamBalancer.Scheduler

variable {s : Scheduler} {most : Nat}

/-- The entries of both tables. -/
def entries (s : Scheduler) : List (String × Nat) := s.schedulable.entries ++ s.connecting.entries

/-- The entries are those under which an instance is known. -/
theorem mem_entries_iff (h : s.roster.Sound most) (a : String) (b : Nat) :
    (a, b) ∈ s.entries ↔ s.tracked? a = some b := by
  have hsched : s.schedulable.find? a = some b ↔ (a, b) ∈ s.schedulable.entries :=
    h.schedulable_unique.find?_eq_some_iff a b
  have hconn : s.connecting.find? a = some b ↔ (a, b) ∈ s.connecting.entries :=
    h.connecting_unique.find?_eq_some_iff a b
  rw [entries, List.mem_append, ← hsched, ← hconn]
  constructor
  · rintro (hfind | hfind)
    · exact Roster.Sound.tracked_of_schedulable (r := s.roster) hfind
    · exact h.tracked_of_connecting hfind
  · intro htracked
    obtain hfind | ⟨-, hfind⟩ := Option.or_eq_some_iff.1 htracked
    · exact .inl hfind
    · exact .inr hfind

/-- Each entry is about an instance that exists and has the address. -/
theorem backend?_of_mem_entries (h : s.roster.Sound most) {e : String × Nat} (he : e ∈ s.entries) :
    ∃ x, s.fleet.backend? e.2 = some x ∧ x.address = e.1 := by
  obtain ⟨y, hy, haddress, -⟩ := (h.tracked_iff e.1 e.2).1 ((mem_entries_iff h e.1 e.2).1 he)
  rw [getElem?_identities] at hy
  obtain ⟨x, hx, rfl⟩ := Option.map_eq_some_iff.1 hy
  exact ⟨x, hx, haddress⟩

theorem nodup_addresses (h : s.roster.Sound most) : (s.entries.map Prod.fst).Nodup := by
  rw [entries, List.map_append, List.nodup_append]
  refine ⟨h.schedulable_unique, h.connecting_unique, fun a ha c hc heq => ?_⟩
  exact h.disjoint a ha (heq ▸ hc)

/-- No instance has two entries, for it has one address. -/
theorem nodup_instances (h : s.roster.Sound most) : (s.entries.map Prod.snd).Nodup := by
  have hmap : (s.entries.map Prod.snd).map s.address = s.entries.map Prod.fst := by
    rw [List.map_map]
    apply List.map_congr_left
    intro e he
    obtain ⟨x, hx, haddress⟩ := backend?_of_mem_entries h he
    rw [Function.comp_apply, address, hx]
    exact haddress
  apply List.Nodup.of_map s.address
  rw [hmap]
  exact nodup_addresses h

/-! ## What is shown -/

/-- What is shown of the entries of a table. -/
def shown (s : Scheduler) (connecting : Bool) (l : List (String × Nat)) : List BackendStats :=
  (l.map Prod.snd).filterMap (s.describe connecting)

theorem stats_perm (s : Scheduler) :
    s.stats.backends.Perm (s.shown false s.schedulable.entries ++ s.shown true s.connecting.entries) :=
  List.mergeSort_perm _ _

/-- Every entry is shown, under its address and with the word of the pool. -/
theorem shown_eq {l : List (String × Nat)}
    (h : ∀ e ∈ l, ∃ x, s.fleet.backend? e.2 = some x ∧ x.address = e.1) (connecting : Bool) :
    (s.shown connecting l).map BackendStats.address = l.map Prod.fst ∧
      (s.shown connecting l).countP BackendStats.inPool = (l.map Prod.snd).countP s.pool.contains := by
  induction l with
  | nil => exact ⟨rfl, rfl⟩
  | cons e rest ih =>
      obtain ⟨haddresses, hcount⟩ := ih fun e he => h e (List.mem_cons_of_mem _ he)
      obtain ⟨x, hx, haddress⟩ := h e List.mem_cons_self
      obtain ⟨d, hd, haddress', hpool⟩ : ∃ d, s.describe connecting e.2 = some d ∧
          d.address = x.address ∧ d.inPool = s.pool.contains e.2 := by
        rw [describe, hx]
        exact ⟨_, rfl, rfl, rfl⟩
      have hshown : s.shown connecting (e :: rest) = d :: s.shown connecting rest := by
        rw [shown, List.map_cons, List.filterMap_cons_some hd, shown]
      rw [hshown, List.map_cons, List.map_cons, List.map_cons, List.countP_cons, List.countP_cons,
        haddresses, hcount, haddress', haddress, hpool]
      exact ⟨rfl, rfl⟩

theorem shown_entries (h : s.roster.Sound most) :
    (s.shown false s.schedulable.entries ++ s.shown true s.connecting.entries).map
        BackendStats.address = s.entries.map Prod.fst ∧
      (s.shown false s.schedulable.entries ++ s.shown true s.connecting.entries).countP
        BackendStats.inPool = (s.entries.map Prod.snd).countP s.pool.contains := by
  obtain ⟨hsched, hscount⟩ := shown_eq
    (fun e he => backend?_of_mem_entries h (List.mem_append_left _ he)) false
  obtain ⟨hconn, hccount⟩ := shown_eq
    (fun e he => backend?_of_mem_entries h (List.mem_append_right _ he)) true
  rw [List.map_append, List.countP_append, hsched, hscount, hconn, hccount, entries,
    List.map_append, List.map_append, List.countP_append]
  exact ⟨rfl, rfl⟩

/-- The addresses are shown in byte order, each once. -/
theorem stats_sorted (h : s.roster.Sound most) :
    (s.stats.backends.map BackendStats.address).Pairwise (· < ·) := by
  let le (x y : BackendStats) : Bool := !decide (y.address < x.address)
  have hle_iff (x y : BackendStats) : le x y = true ↔ x.address ≤ y.address := by
    rw [Bool.not_eq_true', decide_eq_false_iff_not, not_lt]
  have htrans (x y z : BackendStats) (hxy : le x y = true) (hyz : le y z = true) : le x z = true :=
    (hle_iff x z).2 (((hle_iff x y).1 hxy).trans ((hle_iff y z).1 hyz))
  have htotal (x y : BackendStats) : (le x y || le y x) = true := by
    rw [Bool.or_eq_true, hle_iff, hle_iff]
    exact le_total _ _
  have hsorted : s.stats.backends.Pairwise fun x y => x.address ≤ y.address := by
    have hmerged := List.pairwise_mergeSort htrans htotal
      (s.shown false s.schedulable.entries ++ s.shown true s.connecting.entries)
    exact hmerged.imp fun hxy => (hle_iff _ _).1 hxy
  have hnodup : (s.stats.backends.map BackendStats.address).Nodup := by
    rw [((stats_perm s).map _).nodup_iff, (shown_entries h).1]
    exact nodup_addresses h
  refine (List.pairwise_map.2 hsorted).imp₂ ?_ hnodup
  exact fun x y hle hne => lt_of_le_of_ne hle hne

/-- As many entries are shown to be in the pool as the pool has members. -/
theorem stats_poolSize (h : s.roster.Sound most) :
    s.stats.poolSize = s.stats.backends.countP BackendStats.inPool := by
  have hindexed : s.pool.Indexed := h.indexed
  have hperm : ((s.entries.map Prod.snd).filter s.pool.contains).Perm s.pool.items.toList := by
    refine (List.perm_ext_iff_of_nodup ((nodup_instances h).filter _) hindexed.nodup).2 fun b => ?_
    rw [List.mem_filter, hindexed.contains_iff]
    refine ⟨fun hb => Array.mem_toList_iff.2 hb.2, fun hb => ?_⟩
    obtain ⟨a, ha⟩ := h.pooled b (Array.mem_toList_iff.1 hb)
    have hmem := (mem_entries_iff h a b).2 (Roster.Sound.tracked_of_schedulable ha)
    exact ⟨List.mem_map_of_mem (f := Prod.snd) hmem, Array.mem_toList_iff.1 hb⟩
  rw [(stats_perm s).countP_eq, (shown_entries h).2, List.countP_eq_length_filter, hperm.length_eq,
    Array.length_toList]
  rfl

end StreamBalancer.Scheduler
