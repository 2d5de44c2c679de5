import StreamBalancer.Proofs.Addresses
import StreamBalancer.Proofs.Interleaving.Helpers
import StreamBalancer.Proofs.Roster

/-!
# StreamBalancer.Proofs.Interleaving.Roster

What the steps of an interleaving do to tables, pool and identities.

1. Helpers leave the roster alone (`Work.roster_eq`).
2. All tasks but three change the pool at most, and leave in it only instances
   that take requests (`perform_repools`).
3. The three are the removal of an instance (`perform_remove`), its arrival
   (`perform_arrive`) and its first tunnel (`perform_connected`).
4. What other parties send, and what is fixed, no task touches (`perform_keeps`).
-/

namespace StreamBalancer

namespace Scheduler

/-- Tables, pool and identities of a scheduler. -/
def roster (s : Scheduler) : Roster where
  schedulable := s.schedulable
  connecting := s.connecting
  pool := s.pool
  nextWeight := s.nextWeight
  identities := s.fleet.backends.toList.map Backend.identity

/-! ## Reading the roster -/

theorem getElem?_identities (s : Scheduler) (b : Nat) :
    s.roster.identities[b]? = (s.fleet.backend? b).map Backend.identity := by
  rw [roster, List.getElem?_map, Array.getElem?_toList]
  rfl

theorem length_identities (s : Scheduler) : s.roster.identities.length = s.fleet.backends.size := by
  rw [roster, List.length_map, Array.length_toList]

theorem isRetired_eq (s : Scheduler) (b : Nat) :
    s.isRetired b = ((s.roster.identities[b]?).map Identity.retired).getD true := by
  rw [getElem?_identities, Option.map_map]
  rfl

theorem address_eq (s : Scheduler) (b : Nat) :
    s.address b = ((s.roster.identities[b]?).map Identity.address).getD "" := by
  rw [getElem?_identities, Option.map_map]
  rfl

theorem isRetired_eq_false_iff (s : Scheduler) (b : Nat) :
    s.isRetired b = false ↔ ∃ x, s.roster.identities[b]? = some x ∧ x.retired = false := by
  rw [isRetired_eq]
  cases s.roster.identities[b]? with
  | none => simp
  | some x => simp

/-- The instances that were not given up are the known ones. -/
theorem tracked_iff {s : Scheduler} {most : Nat} (h : s.roster.Sound most) (a : String) (b : Nat) :
    s.tracked? a = some b ↔ s.isRetired b = false ∧ s.address b = a := by
  refine (h.tracked_iff a b).trans ?_
  rw [isRetired_eq_false_iff, address_eq]
  constructor
  · rintro ⟨x, hx, hxa, hxr⟩
    refine ⟨⟨x, hx, hxr⟩, ?_⟩
    rw [hx]
    exact hxa
  · rintro ⟨⟨x, hx, hxr⟩, hxa⟩
    rw [hx] at hxa
    exact ⟨x, hx, hxa, hxr⟩

/-- An instance is current as long as it was not given up. -/
theorem isCurrent_eq {s : Scheduler} {most : Nat} (h : s.roster.Sound most) (b : Nat) :
    s.isCurrent b = !s.isRetired b := by
  rw [isCurrent]
  cases hr : s.isRetired b with
  | true => rfl
  | false =>
      rw [(tracked_iff h (s.address b) b).2 ⟨hr, rfl⟩]
      simp

theorem pooled_isRetired {s : Scheduler} {most : Nat} (h : s.roster.Sound most) {b : Nat}
    (hb : b ∈ s.pool.items) : s.isRetired b = false := by
  obtain ⟨a, ha⟩ := h.pooled b hb
  exact ((tracked_iff h a b).1 (Roster.Sound.tracked_of_schedulable ha)).1

/-! ## Changes that leave the roster alone -/

theorem roster_withFleet (s : Scheduler) {g : Fleet}
    (h : g.backends.toList.map Backend.identity = s.fleet.backends.toList.map Backend.identity) :
    ({ s with fleet := g }).roster = s.roster := by
  rw [roster, roster, h]

theorem roster_modifyBackend (s : Scheduler) (b : Nat) (change : Backend → Backend)
    (h : ∀ x, (change x).identity = x.identity) : (s.modifyBackend b change).roster = s.roster :=
  roster_withFleet s (Fleet.map_modifyBackend _ fun x _ => h x)

theorem identities_modifySlot (f : Fleet) (b slot : Nat) (change : Slot → Slot) :
    (f.modifySlot b slot change).backends.toList.map Backend.identity =
      f.backends.toList.map Backend.identity :=
  Fleet.map_modifyBackend _ fun _ _ => rfl

/-- The sessions that are asked for when an instance is created. -/
def newSessions (b first : Nat) (slots : List Nat) : List Session :=
  (slots.zipIdx first).map fun x => { number := x.2, backend := b, slot := x.1 }

theorem foldl_requestSession (s : Scheduler) (b : Nat) (slots : List Nat) :
    slots.foldl (fun s slot => s.requestSession b slot) s =
      { s with
        sessions := s.sessions ++ newSessions b s.sessionCount slots
        sessionCount := s.sessionCount + slots.length } := by
  induction slots generalizing s with
  | nil => simp [newSessions]
  | cons slot rest ih =>
      rw [List.foldl_cons, ih]
      simp only [requestSession, newSessions, List.zipIdx_cons, List.map_cons, List.append_assoc,
        List.singleton_append, List.length_cons, Nat.add_assoc, Nat.add_comm 1]

/-! ## Helpers -/

theorem roster_touches {s : Scheduler} {old new : Forward.Stage} {g : Fleet}
    (h : Forward.Touches s.fleet old new g) : ({ s with fleet := g }).roster = s.roster := by
  apply roster_withFleet
  cases h with
  | nothing _ _ _ _ hbackends => rw [hbackends]
  | evicts x _ _ _ _ _ hbackends => rw [hbackends, identities_modifySlot]
  | closes x _ _ _ _ hfleet => rw [hfleet]; rfl
  | reports x _ _ _ _ hbackends => rw [hbackends]

theorem ForwardMoves.roster_eq {s t : Scheduler} {f : Forward} (h : s.ForwardMoves f t) :
    t.roster = s.roster := by
  cases h with
  | advances _ _ htouches => exact roster_touches htouches
  | releases => rfl
  | reports => exact report_keeps roster (fun _ _ _ _ => rfl) _ _

theorem SessionMoves.roster_eq {s t : Scheduler} {x : Session} (h : s.SessionMoves x t) :
    t.roster = s.roster := by
  cases h with
  | hands =>
      unfold handOver
      split <;> rfl
  | ends => rfl
  | goes => rfl

theorem Work.roster_eq {s t : Scheduler} (h : s.Work t) : t.roster = s.roster := by
  cases h with
  | post => rfl
  | session h =>
      obtain ⟨x, -, hmoves⟩ := stepSession?_cases h
      exact hmoves.roster_eq
  | dialed => rfl
  | undialed => rfl
  | forward reach h =>
      obtain ⟨f, -, hmoves⟩ := stepForward?_cases h
      exact hmoves.roster_eq
  | spliced moved h =>
      obtain ⟨g, outcome, heq, -, -, -, hview⟩ := endSplice_eq h moved
      rw [heq]
      exact roster_withFleet s (hview Backend.identity fun _ _ _ => rfl)
  | retune => rfl
  | tick => rfl

/-! ## Tasks -/

/-- Whether a task changes neither tables nor pool. -/
def Task.keepsRoster : Task → Bool
  | .dispatch _ | .finished _ | .remove _ | .revive _ | .arrive _ | .connected _ => false
  | _ => true

theorem roster_perform (s : Scheduler) {task : Task} (h : task.keepsRoster = true) :
    (s.perform task).1.roster = s.roster := by
  cases task with
  | dispatch | finished | remove | revive | arrive | connected => contradiction
  | inspect | start | close | publish => rfl
  | request r =>
      rw [perform]
      split <;> rfl
  | check b =>
      simp only [perform]
      split
      · rfl
      · split
        · exact roster_modifyBackend s b _ fun _ => rfl
        · exact roster_modifyBackend s b _ fun _ => rfl
  | weigh b slot tunnel =>
      simp only [perform]
      split
      · obtain ⟨-, hmark⟩ | ⟨x, -, -, hmark⟩ | ⟨x, -, -, hmark⟩ :=
          s.fleet.markReplacing_cases b slot
        · rw [hmark]
        · rw [hmark]
        · rw [hmark]
          exact roster_withFleet s (identities_modifySlot _ _ _ _)
      · rfl
  | empty b slot =>
      simp only [perform]
      split
      · next t ht =>
        obtain ⟨-, hevict⟩ | ⟨-, hevict⟩ := s.fleet.evict_cases b slot t
        · rw [hevict]
          exact roster_withFleet s (identities_modifySlot _ _ _ _)
        · rw [hevict]
      · rfl
  | drain =>
      simp only [perform]
      split
      · rfl
      · split <;> rfl
  | failure f =>
      simp only [perform]
      split <;> rfl
  | mark b slot =>
      simp only [perform]
      obtain ⟨-, hmark⟩ | ⟨x, -, -, hmark⟩ | ⟨x, -, -, hmark⟩ := s.fleet.markReplacing_cases b slot
      · rw [hmark]
      · rw [hmark]
      · rw [hmark]
        exact roster_withFleet s (identities_modifySlot _ _ _ _)
  | handover h =>
      simp only [perform]
      split
      · rfl
      · split
        · exact roster_modifyBackend s _ _ fun _ => rfl
        · rfl

/-! ### Dispatch -/

/-- The instance on top of the pool is chosen, and the request is refused or goes
there. -/
theorem perform_dispatch_of_top {s : Scheduler} {most : Nat} (h : s.roster.Sound most) {b : Nat}
    (htop : s.pool.items[0]? = some b) (r : Nat) :
    ∃ pool, pool.Indexed ∧ pool.items.Perm s.pool.items ∧
      ((s.settings.ceiling ≤ s.ongoing b ∧
          s.perform (.dispatch r) = (({ s with pool }).refuse r, [])) ∨
        (s.ongoing b < s.settings.ceiling ∧
          s.perform (.dispatch r) =
            (({ s with pool }).modifyBackend b Backend.begin, [.check b, .start r b]))) := by
  have hindexed : s.pool.Indexed := h.indexed
  obtain ⟨q, hpop, hq, hperm⟩ := Pool.pop_some s.less hindexed htop
  have hb : b ∉ q.items := hindexed.not_mem_of_perm hperm
  have hpush : ∀ less, (q.push less b).Indexed ∧ (q.push less b).items.Perm s.pool.items := by
    intro less
    obtain ⟨hindexed, hpushed⟩ := Pool.push_indexed less hq hb
    exact ⟨hindexed, hpushed.trans hperm.symm⟩
  simp only [perform]
  rw [hpop]
  dsimp only
  split
  · next hfull => exact ⟨_, (hpush _).1, (hpush _).2, .inl ⟨hfull, rfl⟩⟩
  · next hroom => exact ⟨_, (hpush _).1, (hpush _).2, .inr ⟨Nat.lt_of_not_le hroom, rfl⟩⟩

/-- While the pool has instances, one of them is chosen, and the request is refused or
goes there. -/
theorem perform_dispatch_of_pool {s : Scheduler} {most : Nat} (h : s.roster.Sound most)
    (hpool : s.pool.isEmpty = false) (r : Nat) :
    ∃ b pool, b ∈ s.pool.items ∧ pool.Indexed ∧ pool.items.Perm s.pool.items ∧
      ((s.settings.ceiling ≤ s.ongoing b ∧
          s.perform (.dispatch r) = (({ s with pool }).refuse r, [])) ∨
        (s.ongoing b < s.settings.ceiling ∧
          s.perform (.dispatch r) =
            (({ s with pool }).modifyBackend b Backend.begin, [.check b, .start r b]))) := by
  obtain ⟨b, htop⟩ := Pool.exists_top hpool
  obtain ⟨pool, hcases⟩ := perform_dispatch_of_top h htop r
  exact ⟨b, pool, Array.mem_of_getElem? htop, hcases⟩

/-- A request waits if the pool is empty.  Otherwise an instance of the pool is
chosen, and the request is refused or goes there. -/
theorem perform_dispatch_cases {s : Scheduler} {most : Nat} (h : s.roster.Sound most) (r : Nat) :
    s.perform (.dispatch r) = ({ s with pending := s.pending ++ [r] }, []) ∨
      ∃ b pool, b ∈ s.pool.items ∧ pool.Indexed ∧ pool.items.Perm s.pool.items ∧
        ((s.settings.ceiling ≤ s.ongoing b ∧
            s.perform (.dispatch r) = (({ s with pool }).refuse r, [])) ∨
          (s.ongoing b < s.settings.ceiling ∧
            s.perform (.dispatch r) =
              (({ s with pool }).modifyBackend b Backend.begin, [.check b, .start r b]))) := by
  cases hpool : s.pool.isEmpty with
  | true =>
      left
      rw [perform, Pool.pop_none s.less hpool]
  | false => exact .inr (perform_dispatch_of_pool h hpool r)

/-! ### Tasks that change the pool -/

/-- Whether a task changes the tables. -/
def Task.keepsTables : Task → Bool
  | .remove _ | .arrive _ | .connected _ => false
  | _ => true

theorem perform_repools {s : Scheduler} {most : Nat} (h : s.roster.Sound most) {task : Task}
    (hkeeps : task.keepsTables = true) : s.roster.Repools (s.perform task).1.roster := by
  by_cases hroster : task.keepsRoster = true
  · rw [roster_perform s hroster]
    exact h.repools_refl
  cases task with
  | remove | arrive | connected => contradiction
  | request | check | inspect | weigh | start | empty | close | drain | failure | mark | handover
  | publish => exact absurd rfl hroster
  | dispatch r =>
      obtain heq | ⟨b, pool, -, hindexed, hperm, hcases⟩ := perform_dispatch_cases h r
      · rw [heq]
        exact h.repools_refl
      · obtain ⟨-, heq⟩ | ⟨-, heq⟩ := hcases
        · rw [heq]
          exact h.repools_perm hindexed hperm
        · rw [heq]
          dsimp only
          rw [roster_modifyBackend _ b Backend.begin fun _ => rfl]
          exact h.repools_perm hindexed hperm
  | finished f =>
      have hfinish := roster_modifyBackend s f.backend Backend.finish fun _ => rfl
      obtain ⟨b, outcome⟩ := f
      have hresort : ∀ t : Scheduler, t.roster = s.roster → s.roster.Repools (t.resort b).roster := by
        intro t ht
        rw [← ht] at h ⊢
        obtain ⟨hindexed, hperm⟩ := Pool.update_indexed t.less h.indexed b
        exact h.repools_perm hindexed hperm
      have hwithdraw : ∀ t : Scheduler, t.roster = s.roster →
          s.roster.Repools (t.withdraw b).roster := by
        intro t ht
        rw [← ht] at h ⊢
        refine ⟨_, rfl, Pool.erase_indexed t.less h.indexed b, fun c hc => ?_⟩
        exact h.pooled c ((Pool.mem_erase t.less h.indexed b c).1 hc).1
      cases outcome with
      | completed => exact hresort _ hfinish
      | failed => exact hresort _ hfinish
      | dialFailed r => exact hwithdraw _ hfinish
  | revive a =>
      simp only [perform, revive]
      split
      · next b hb =>
        split
        · exact h.repools_refl
        · next hout =>
          have hnot : b ∉ s.pool.items := fun hmem => hout ((h.indexed.contains_iff b).2 hmem)
          obtain ⟨hindexed, hperm⟩ := Pool.push_indexed s.less h.indexed hnot
          refine ⟨_, rfl, hindexed, fun c hc => ?_⟩
          obtain hmem | rfl := Array.mem_push.1 (hperm.mem_iff.1 hc)
          · exact h.pooled c hmem
          · exact ⟨a, hb⟩
      · exact h.repools_refl

/-! ### Tasks that change the tables -/

theorem identities_retire (f : Fleet) (b : Nat) :
    (f.modifyBackend b fun x => { x with retired := true }).backends.toList.map Backend.identity =
      (f.backends.toList.map Backend.identity).modify b fun x => { x with retired := true } := by
  apply List.ext_getElem?
  intro i
  simp only [Fleet.modifyBackend, List.getElem?_map, Array.getElem?_toList, Array.getElem?_modify,
    List.getElem?_modify]
  cases f.backends[i]? with
  | none => simp
  | some x =>
      by_cases hi : b = i
      · simp [hi, Backend.identity]
      · simp [hi]

/-- An instance that is known is struck from the tables and given up, and then its
slots are emptied. -/
theorem perform_remove (s : Scheduler) {a : String} {b : Nat} (h : s.tracked? a = some b) :
    (s.perform (.remove a)).1.roster = s.roster.strike a b (s.pool.erase s.less b) ∧
      (s.perform (.remove a)).2 =
        (List.range (((s.fleet.backend? b).map fun x => x.slots.length).getD 0)).map (.empty b) := by
  simp only [perform, h]
  refine ⟨?_, trivial⟩
  rw [roster, Roster.strike, roster]
  congr 1
  exact identities_retire s.fleet b

theorem perform_remove_none (s : Scheduler) {a : String} (h : s.tracked? a = none) :
    s.perform (.remove a) = (s, []) := by
  simp only [perform, h]

theorem identities_addBackend (f : Fleet) (x : Backend) :
    (f.addBackend x).backends.toList.map Backend.identity =
      f.backends.toList.map Backend.identity ++ [x.identity] := by
  rw [Fleet.addBackend, Array.toList_push, List.map_append, List.map_singleton]

/-- A new instance of an address, known or not yet. -/
def withBackend (s : Scheduler) (a : String) : Scheduler :=
  { s with
    fleet := s.fleet.addBackend (.create a s.settings.tunnelCount s.nextWeight)
    nextWeight := s.nextWeight + 1 }

/-- The last instance created is the one with the address. -/
theorem address_withBackend (s : Scheduler) (a : String) :
    (s.withBackend a).address s.fleet.backends.size = a := by
  rw [address, withBackend, Fleet.addBackend, Fleet.backend?, Array.getElem?_push_size]
  rfl

/-- An address finds no room, or its instance takes requests at once for want of
slots, or waits for its first tunnel. -/
theorem perform_arrive_cases (s : Scheduler) (a : String) :
    (s.settings.maxBackends ≤ s.trackedCount ∧ s.perform (.arrive a) = (s, [])) ∨
      (s.trackedCount < s.settings.maxBackends ∧ s.settings.tunnelCount = 0 ∧
        s.perform (.arrive a) = ((s.withBackend a).makeSchedulable s.fleet.backends.size, [])) ∨
      (s.trackedCount < s.settings.maxBackends ∧ s.settings.tunnelCount ≠ 0 ∧
        s.perform (.arrive a) =
          ({ s.withBackend a with
            sessions := s.sessions ++ newSessions s.fleet.backends.size s.sessionCount
              (List.range s.settings.tunnelCount)
            sessionCount := s.sessionCount + s.settings.tunnelCount
            connecting := s.connecting.insert a s.fleet.backends.size }, [])) := by
  simp only [perform, addIfRoom]
  split
  · next hfull => exact .inl ⟨hfull, rfl⟩
  · next hroom =>
    rw [not_le] at hroom
    refine .inr ?_
    unfold addBackend
    dsimp only
    split
    · next hnone => exact .inl ⟨hroom, hnone, rfl⟩
    · next hsome =>
      refine .inr ⟨hroom, hsome, ?_⟩
      rw [foldl_requestSession, List.length_range]
      rfl

theorem perform_arrive {s : Scheduler} {most : Nat} (h : s.roster.Sound most)
    (hmost : s.settings.maxBackends = most) {a : String} (hnew : s.tracked? a = none) :
    (s.perform (.arrive a)).1.roster.Sound most ∧
      ∀ k, k ≠ a → (s.perform (.arrive a)).1.tracked? k = s.tracked? k := by
  have hsize : s.roster.identities.length = s.fleet.backends.size := length_identities s
  obtain ⟨-, heq⟩ | ⟨hroom, -, heq⟩ | ⟨hroom, -, heq⟩ := perform_arrive_cases s a
  · rw [heq]
    exact ⟨h, fun _ _ => rfl⟩
  · have hnot : s.fleet.backends.size ∉ s.pool.items := by
      intro hmem
      obtain ⟨k, hk⟩ := h.pooled _ hmem
      have := h.lt_of_tracked (Roster.Sound.tracked_of_schedulable hk)
      omega
    obtain ⟨hindexed, hperm⟩ := Pool.push_indexed (s.withBackend a).less (p := s.pool) h.indexed hnot
    have hroster : (s.perform (.arrive a)).1.roster = s.roster.addSchedulable a
        (s.pool.push (s.withBackend a).less s.fleet.backends.size) := by
      rw [heq, roster, Roster.addSchedulable]
      simp only [makeSchedulable, enlist, address_withBackend, hsize]
      rw [withBackend, identities_addBackend]
      rfl
    refine ⟨?_, fun k hk => ?_⟩
    · rw [hroster]
      apply h.addSchedulable hnew (hmost ▸ hroom) hindexed
      intro c hc
      rw [hsize]
      exact Array.mem_push.1 (hperm.mem_iff.1 hc)
    · change (s.perform (.arrive a)).1.roster.tracked? k = _
      rw [hroster, Roster.addSchedulable, Roster.tracked?, Directory.find?_insert, if_neg hk]
      rfl
  · have hroster : (s.perform (.arrive a)).1.roster = s.roster.addConnecting a := by
      rw [heq, roster, Roster.addConnecting, hsize, withBackend, identities_addBackend]
      rfl
    refine ⟨?_, fun k hk => ?_⟩
    · rw [hroster]
      exact h.addConnecting hnew (hmost ▸ hroom)
    · change (s.perform (.arrive a)).1.roster.tracked? k = _
      rw [hroster, Roster.addConnecting, Roster.tracked?, Directory.find?_insert, if_neg hk]
      rfl

/-- The first tunnel of an instance moves it to the other table. -/
theorem perform_connected {s : Scheduler} {most : Nat} (h : s.roster.Sound most) {b : Nat}
    (hlive : s.isRetired b = false) :
    (s.perform (.connected b)).1.roster.Sound most ∧
      ∀ k, (s.perform (.connected b)).1.tracked? k = s.tracked? k := by
  simp only [perform]
  split
  · next hc =>
    have htracked : s.tracked? (s.address b) = some b := (tracked_iff h _ b).2 ⟨hlive, rfl⟩
    obtain ⟨c, hfind⟩ := Option.isSome_iff_exists.1 hc
    have hb : c = b := by
      have hother : s.tracked? (s.address b) = some c := h.tracked_of_connecting hfind
      rw [htracked] at hother
      exact (Option.some.inj hother).symm
    subst hb
    have hnot : c ∉ s.pool.items := by
      intro hmem
      obtain ⟨k, hk⟩ := h.pooled c hmem
      have hsame := h.tracked_address (Roster.Sound.tracked_of_schedulable hk) htracked
      rw [hsame, h.find?_schedulable_eq_none hfind] at hk
      contradiction
    obtain ⟨hindexed, hperm⟩ := Pool.push_indexed s.less (p := s.pool) h.indexed hnot
    refine ⟨h.promote hfind hindexed fun d hd => Array.mem_push.1 (hperm.mem_iff.1 hd), ?_⟩
    exact h.tracked?_promote hfind (s.pool.push s.less c)
  · exact ⟨h, fun _ => rfl⟩

/-- Identities stay, but for an instance that is given up and one that is new. -/
theorem identities_perform {s : Scheduler} {most : Nat} (h : s.roster.Sound most) (task : Task) :
    (s.perform task).1.roster.identities = s.roster.identities ∨
      (∃ a b, task = .remove a ∧ s.tracked? a = some b ∧
        (s.perform task).1.roster.identities =
          s.roster.identities.modify b fun x => { x with retired := true }) ∨
      (∃ a, task = .arrive a ∧
        (s.perform task).1.roster.identities = s.roster.identities ++ [⟨a, s.nextWeight, false⟩]) := by
  by_cases hkeeps : task.keepsTables = true
  · exact .inl (perform_repools h hkeeps).identities_eq
  cases task with
  | remove a =>
      cases hb : s.tracked? a with
      | none => exact .inl (by rw [perform_remove_none s hb])
      | some b => exact .inr (.inl ⟨a, b, rfl, hb, by rw [(perform_remove s hb).1]; rfl⟩)
  | arrive a =>
      have hnew : ((s.withBackend a).fleet.backends.toList.map Backend.identity) =
          s.roster.identities ++ [⟨a, s.nextWeight, false⟩] := identities_addBackend _ _
      obtain ⟨-, heq⟩ | ⟨-, -, heq⟩ | ⟨-, -, heq⟩ := perform_arrive_cases s a
      · exact .inl (by rw [heq])
      · exact .inr (.inr ⟨a, rfl, by rw [heq]; exact hnew⟩)
      · exact .inr (.inr ⟨a, rfl, by rw [heq]; exact hnew⟩)
  | connected b =>
      left
      simp only [perform]
      split <;> rfl
  | _ => exact absurd rfl hkeeps

/-- **What fills the pool**: an instance is put back, or is new and has no slots, or
has its first tunnel. -/
theorem mem_pool_perform {s : Scheduler} {most : Nat} (h : s.roster.Sound most) {task : Task}
    {b : Nat} (hb : b ∈ (s.perform task).1.pool.items) :
    b ∈ s.pool.items ∨ (∃ a, task = .revive a ∧ s.schedulable.find? a = some b) ∨
      (∃ a, task = .arrive a ∧ b = s.fleet.backends.size ∧ s.settings.tunnelCount = 0) ∨
      (task = .connected b ∧ s.connecting.contains (s.address b) = true) := by
  by_cases hroster : task.keepsRoster = true
  · have hpool : (s.perform task).1.pool = s.pool := congrArg Roster.pool (roster_perform s hroster)
    exact .inl (hpool ▸ hb)
  cases task with
  | dispatch r =>
      obtain heq | ⟨c, pool, -, -, hperm, ⟨-, heq⟩ | ⟨-, heq⟩⟩ := perform_dispatch_cases h r
      · rw [heq] at hb
        exact .inl hb
      · rw [heq] at hb
        exact .inl (hperm.mem_iff.1 hb)
      · rw [heq] at hb
        exact .inl (hperm.mem_iff.1 hb)
  | finished f =>
      obtain ⟨c, outcome⟩ := f
      cases outcome with
      | completed | failed => exact .inl ((Pool.update_indexed _ h.indexed c).2.mem_iff.1 hb)
      | dialFailed r => exact .inl ((Pool.mem_erase _ h.indexed c b).1 hb).1
  | remove a =>
      cases hc : s.tracked? a with
      | none =>
          rw [perform_remove_none s hc] at hb
          exact .inl hb
      | some c =>
          have hpool := congrArg Roster.pool (perform_remove s hc).1
          change (s.perform (.remove a)).1.pool = s.pool.erase s.less c at hpool
          rw [hpool] at hb
          exact .inl ((Pool.mem_erase _ h.indexed c b).1 hb).1
  | revive a =>
      simp only [perform, revive] at hb
      split at hb
      · next c hc =>
        split at hb
        · exact .inl hb
        · obtain hb | rfl := (Pool.mem_push _ _ _ _).1 hb
          · exact .inl hb
          · exact .inr (.inl ⟨a, rfl, hc⟩)
      · exact .inl hb
  | arrive a =>
      obtain ⟨-, heq⟩ | ⟨-, hnone, heq⟩ | ⟨-, -, heq⟩ := perform_arrive_cases s a
      · rw [heq] at hb
        exact .inl hb
      · rw [heq] at hb
        obtain hb | rfl := (Pool.mem_push _ _ _ _).1 hb
        · exact .inl hb
        · exact .inr (.inr (.inl ⟨a, rfl, rfl, hnone⟩))
      · rw [heq] at hb
        exact .inl hb
  | connected c =>
      simp only [perform] at hb
      split at hb
      · next hc =>
        obtain hb | rfl := (Pool.mem_push _ _ _ _).1 hb
        · exact .inl hb
        · exact .inr (.inr (.inr ⟨rfl, hc⟩))
      · exact .inl hb
  | _ => exact absurd rfl hroster

/-! ### What tasks leave alone -/

/-- No task touches settings, unread requests, snapshots, tunnels and reports, clocks and the
marks of shutdown, and only a dispatch gives a request and its permit up. -/
theorem perform_keeps {α : Type} (view : Scheduler → α)
    (h : ∀ s fleet schedulable connecting pool pending nextWeight inFlight sessions sessionCount
      forwards, view { s with
        fleet, schedulable, connecting, pool, pending, nextWeight, inFlight, sessions,
        sessionCount, forwards } = view s)
    (s : Scheduler) {task : Task}
    (hdrop : (∀ r, task ≠ .dispatch r) ∨ ∀ s permits dropped,
      view { s with permits, dropped } = view s) :
    view (s.perform task).1 = view s := by
  have hkeeps : ∀ t : Scheduler, t = { s with
      fleet := t.fleet, schedulable := t.schedulable, connecting := t.connecting, pool := t.pool,
      pending := t.pending, nextWeight := t.nextWeight, inFlight := t.inFlight,
      sessions := t.sessions, sessionCount := t.sessionCount, forwards := t.forwards } →
      view t = view s := by
    intro t ht
    rw [ht]
    exact h s _ _ _ _ _ _ _ _ _ _
  cases task with
  | inspect | start | close | publish => exact hkeeps _ rfl
  | dispatch r =>
      obtain hdrop | hdrop := hdrop
      · exact absurd rfl (hdrop r)
      simp only [perform]
      split
      · exact hkeeps _ rfl
      · next b pool _ =>
        split
        · exact (hdrop (({ s with pool }.enlist b).count .rejected) _ _).trans (hkeeps _ rfl)
        · exact hkeeps _ rfl
  | finished f =>
      obtain ⟨b, outcome⟩ := f
      cases outcome <;> exact hkeeps _ rfl
  | arrive a =>
      obtain ⟨-, heq⟩ | ⟨-, -, heq⟩ | ⟨-, -, heq⟩ := perform_arrive_cases s a <;> rw [heq] <;>
        exact hkeeps _ rfl
  | remove a =>
      cases hb : s.tracked? a with
      | none => rw [perform_remove_none s hb]
      | some b =>
          simp only [perform, hb]
          exact hkeeps _ rfl
  | revive a =>
      simp only [perform, revive]
      split
      · split <;> exact hkeeps _ rfl
      · rfl
  | request | failure | connected =>
      simp only [perform]
      split <;> exact hkeeps _ rfl
  | check | empty | drain | weigh | mark | handover =>
      simp only [perform]
      split
      · first | exact hkeeps _ rfl | (split <;> exact hkeeps _ rfl)
      · first | exact hkeeps _ rfl | (split <;> exact hkeeps _ rfl)

end Scheduler

end StreamBalancer
