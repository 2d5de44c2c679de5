import StreamBalancer.Proofs.Interleaving.Requests

/-!
# StreamBalancer.Proofs.Interleaving.Load

Who changes the load of an instance, and who its count of dispatches.

1. What one reads of an instance is a count if it starts at zero and neither slots nor
   traffic nor the end of the instance change it (`Backend.Counts`).  Most tasks leave
   counts alone (`read_perform`), and all helpers do (`Work.read_eq`).
2. Only the dispatch of a request (`ongoing_begin`) and the report of a forward
   (`ongoing_finish`) change the load (`ongoing_perform`).
3. Only the check that follows on a dispatch changes the count of dispatches
   (`counted_check`, `counted_perform`).
-/

namespace StreamBalancer

/-- What one reads of an instance counts what the scheduler does with it. -/
structure Backend.Counts {α : Type} (view : Backend → α) (zero : α) : Prop where
  created : ∀ address slots weight, view (.create address slots weight) = zero
  slots : ∀ x l, view { x with slots := l } = view x
  retired : ∀ x, view { x with retired := true } = view x
  credit : ∀ x m n, view (x.credit m n) = view x

theorem Backend.counts_ongoing : Counts ongoing 0 :=
  ⟨fun _ _ _ => rfl, fun _ _ => rfl, fun _ => rfl, fun _ _ _ => rfl⟩

theorem Backend.counts_dispatches : Counts dispatches 0 :=
  ⟨fun _ _ _ => rfl, fun _ _ => rfl, fun _ => rfl, fun _ _ _ => rfl⟩

namespace Scheduler

/-! ## Counts -/

section Counts

variable {α : Type} {view : Backend → α} {zero : α}

/-- What one reads of an instance, and `zero` if there is none. -/
def read (s : Scheduler) (view : Backend → α) (zero : α) (b : Nat) : α :=
  ((s.fleet.backend? b).map view).getD zero

theorem read_eq (s : Scheduler) (b : Nat) :
    s.read view zero b = ((s.fleet.backends.toList.map view)[b]?).getD zero := by
  rw [List.getElem?_map, Array.getElem?_toList]
  rfl

theorem read_withFleet (s : Scheduler) {g : Fleet} (b : Nat)
    (h : g.backends.toList.map view = s.fleet.backends.toList.map view) :
    ({ s with fleet := g }).read view zero b = s.read view zero b := by
  rw [read_eq, read_eq, h]

/-- A change that leaves the count of its instance leaves all of them. -/
theorem read_keeps (s : Scheduler) (b : Nat) (change : Backend → Backend) (c : Nat)
    (h : ∀ x, view (change x) = view x) :
    (s.modifyBackend b change).read view zero c = s.read view zero c :=
  read_withFleet s c (Fleet.map_modifyBackend _ fun x _ => h x)

theorem read_modifySlot (hview : Backend.Counts view zero) (s : Scheduler) (b slot : Nat)
    (change : Slot → Slot) (c : Nat) :
    ({ s with fleet := s.fleet.modifySlot b slot change }).read view zero c = s.read view zero c :=
  read_keeps s b _ c fun x => hview.slots x _

/-- What a change does to the count of its instance, and that the others keep theirs. -/
theorem read_modifyBackend (s : Scheduler) (b c : Nat) (change : Backend → Backend) :
    (s.modifyBackend b change).read view zero c =
      if c = b then ((s.fleet.backend? b).map fun x => view (change x)).getD zero
      else s.read view zero c := by
  rw [read, modifyBackend, Fleet.backend?_modifyBackend]
  split
  · next hc =>
    rw [hc, Option.map_map]
    rfl
  · rfl

theorem read_withBackend (hview : Backend.Counts view zero) (s : Scheduler) (a : String) (b : Nat) :
    (s.withBackend a).read view zero b = s.read view zero b := by
  have hcounts : (s.withBackend a).fleet.backends.toList.map view =
      s.fleet.backends.toList.map view ++ [zero] := by
    rw [withBackend, Fleet.addBackend, Array.toList_push, List.map_append, List.map_singleton,
      hview.created]
  rw [read_eq, read_eq, hcounts, List.getElem?_append]
  split
  · rfl
  · next hlt =>
    rw [List.getElem?_eq_none (Nat.le_of_not_lt hlt), List.getElem?_singleton]
    split <;> rfl

/-! ### Tasks -/

/-- Whether a task changes no count. -/
def Task.keepsCounts : Task → Bool
  | .dispatch _ | .finished _ | .check _ => false
  | _ => true

theorem read_perform (hview : Backend.Counts view zero) (s : Scheduler) {task : Task}
    (h : task.keepsCounts = true) (b : Nat) :
    (s.perform task).1.read view zero b = s.read view zero b := by
  cases task with
  | dispatch | finished | check => contradiction
  | inspect | start | close | publish => rfl
  | arrive a =>
      obtain ⟨-, heq⟩ | ⟨-, -, heq⟩ | ⟨-, -, heq⟩ := perform_arrive_cases s a
      · rw [heq]
      · rw [heq]
        exact read_withBackend hview s a b
      · rw [heq]
        exact read_withBackend hview s a b
  | remove a =>
      cases hb : s.tracked? a with
      | none => rw [perform_remove_none s hb]
      | some c =>
          simp only [perform, hb]
          exact read_keeps (s.withdraw c) c (fun x => { x with retired := true }) b hview.retired
  | revive a =>
      simp only [perform, revive]
      split
      · split <;> rfl
      · rfl
  | weigh c slot t =>
      simp only [perform]
      split
      · obtain ⟨-, hmark⟩ | ⟨x, -, -, hmark⟩ | ⟨x, -, -, hmark⟩ := s.fleet.markReplacing_cases c slot
        · rw [hmark]
        · rw [hmark]
        · rw [hmark]
          exact read_modifySlot hview s c slot _ b
      · rfl
  | mark c slot =>
      simp only [perform]
      obtain ⟨-, hmark⟩ | ⟨x, -, -, hmark⟩ | ⟨x, -, -, hmark⟩ := s.fleet.markReplacing_cases c slot
      · rw [hmark]
      · rw [hmark]
      · rw [hmark]
        exact read_modifySlot hview s c slot _ b
  | empty c slot =>
      simp only [perform]
      split
      · next t ht =>
        obtain ⟨-, hevict⟩ | ⟨-, hevict⟩ := s.fleet.evict_cases c slot t
        · rw [hevict]
          exact read_modifySlot hview s c slot _ b
        · rw [hevict]
      · rfl
  | handover v =>
      simp only [perform]
      split
      · rfl
      · split
        · exact read_keeps s v.backend _ b fun x => hview.slots x _
        · rfl
  | request | failure | connected =>
      simp only [perform]
      split <;> rfl
  | drain =>
      simp only [perform]
      split
      · rfl
      · split <;> rfl

/-! ### Helpers -/

theorem read_touches (hview : Backend.Counts view zero) {s : Scheduler} {old new : Forward.Stage}
    {g : Fleet} (h : Forward.Touches s.fleet old new g) (b : Nat) :
    ({ s with fleet := g }).read view zero b = s.read view zero b := by
  apply read_withFleet
  cases h with
  | nothing _ _ _ _ hbackends => rw [hbackends]
  | evicts x _ _ _ _ _ hbackends =>
      rw [hbackends]
      exact Fleet.map_modifyBackend _ fun y _ => hview.slots y _
  | closes x _ _ _ _ hfleet => rw [hfleet]; rfl
  | reports x _ _ _ _ hbackends => rw [hbackends]

theorem ForwardMoves.read_eq (hview : Backend.Counts view zero) {s t : Scheduler} {f : Forward}
    (h : s.ForwardMoves f t) (b : Nat) : t.read view zero b = s.read view zero b := by
  cases h with
  | advances _ _ htouches => exact read_touches hview htouches b
  | releases => rfl
  | reports => exact report_keeps (·.read view zero b) (fun _ _ _ _ => rfl) _ _

theorem SessionMoves.read_eq {s t : Scheduler} {x : Session} (h : s.SessionMoves x t) (b : Nat) :
    t.read view zero b = s.read view zero b := by
  cases h with
  | hands =>
      unfold handOver
      split <;> rfl
  | ends | goes => rfl

/-- Nobody but the scheduler changes a count. -/
theorem Work.read_eq (hview : Backend.Counts view zero) {s t : Scheduler} (h : s.Work t) (b : Nat) :
    t.read view zero b = s.read view zero b := by
  cases h with
  | post | dialed | undialed | retune | tick => rfl
  | session h =>
      obtain ⟨x, -, hmoves⟩ := stepSession?_cases h
      exact hmoves.read_eq b
  | forward reach h =>
      obtain ⟨f, -, hmoves⟩ := stepForward?_cases h
      exact hmoves.read_eq hview b
  | spliced moved h =>
      obtain ⟨g, outcome, heq, -, -, -, hcredit⟩ := endSplice_eq h moved
      rw [heq]
      exact read_withFleet s b (hcredit view hview.credit)

end Counts

/-! ## Loads -/

theorem ongoing_withFleet (s : Scheduler) {g : Fleet} (b : Nat)
    (h : g.backends.toList.map Backend.ongoing = s.fleet.backends.toList.map Backend.ongoing) :
    ({ s with fleet := g }).ongoing b = s.ongoing b := read_withFleet s b h

theorem ongoing_withBackend (s : Scheduler) (a : String) (b : Nat) :
    (s.withBackend a).ongoing b = s.ongoing b := read_withBackend Backend.counts_ongoing s a b

/-- Whether a task changes no load. -/
def Task.keepsLoads : Task → Bool
  | .dispatch _ | .finished _ => false
  | _ => true

theorem ongoing_perform (s : Scheduler) {task : Task} (h : task.keepsLoads = true) (b : Nat) :
    (s.perform task).1.ongoing b = s.ongoing b := by
  cases task with
  | dispatch | finished => contradiction
  | check c =>
      simp only [perform]
      split
      · rfl
      · split
        · exact read_keeps s c _ b fun _ => rfl
        · exact read_keeps s c _ b fun _ => rfl
  | _ => exact read_perform Backend.counts_ongoing s rfl b

theorem ongoing_begin {s : Scheduler} {most : Nat} (h : s.roster.Sound most) {b : Nat}
    (hb : b ∈ s.pool.items) (pool : Pool) (c : Nat) :
    (({ s with pool }).modifyBackend b Backend.begin).ongoing c =
      if c = b then s.ongoing b + 1 else s.ongoing c := by
  have hself : ((s.fleet.backend? b).map fun x => x.begin.ongoing).getD 0 = s.ongoing b + 1 := by
    obtain ⟨x, hx, -⟩ := (isRetired_eq_false_iff s b).1 (pooled_isRetired h hb)
    rw [getElem?_identities, Option.map_eq_some_iff] at hx
    obtain ⟨y, hy, -⟩ := hx
    rw [ongoing, hy]
    rfl
  exact (read_modifyBackend { s with pool } b c Backend.begin).trans (by rw [hself]; rfl)

theorem ongoing_finish (s : Scheduler) (b c : Nat) :
    (s.modifyBackend b Backend.finish).ongoing c =
      if c = b then s.ongoing b - 1 else s.ongoing c := by
  have hself : ((s.fleet.backend? b).map fun x => x.finish.ongoing).getD 0 = s.ongoing b - 1 := by
    rw [ongoing]
    cases s.fleet.backend? b <;> rfl
  exact (read_modifyBackend s b c Backend.finish).trans (by rw [hself]; rfl)

/-- Nobody but the scheduler changes a load. -/
theorem Work.ongoing_eq {s t : Scheduler} (h : s.Work t) (b : Nat) : t.ongoing b = s.ongoing b :=
  h.read_eq Backend.counts_ongoing b

/-! ## Dispatches -/

/-- The dispatches to an instance that were counted; the count wraps. -/
def counted (s : Scheduler) (b : Nat) : UInt64 :=
  ((s.fleet.backend? b).map Backend.dispatches).getD 0

/-- Whether a task counts a dispatch. -/
def Task.isCheck : Task → Bool
  | .check _ => true
  | _ => false

theorem counted_perform (s : Scheduler) {task : Task} (h : task.isCheck = false) (b : Nat) :
    (s.perform task).1.counted b = s.counted b := by
  cases task with
  | check => contradiction
  | dispatch r =>
      simp only [perform]
      split
      · rfl
      · next c pool _ =>
        split
        · rfl
        · exact read_keeps { s with pool } c Backend.begin b fun _ => rfl
  | finished f =>
      obtain ⟨c, outcome⟩ := f
      cases outcome <;> exact read_keeps s c Backend.finish b fun _ => rfl
  | _ => exact read_perform Backend.counts_dispatches s rfl b

/-- The check that follows on a dispatch counts it. -/
theorem counted_check (s : Scheduler) {b : Nat} (hb : s.isRetired b = false) (c : Nat) :
    (s.perform (.check b)).1.counted c = if c = b then s.counted b + 1 else s.counted c := by
  obtain ⟨x, hx⟩ : ∃ x, s.fleet.backend? b = some x := by
    rw [isRetired] at hb
    cases hx : s.fleet.backend? b with
    | none => simp [hx] at hb
    | some x => exact ⟨x, rfl⟩
  have hself : s.counted b = x.dispatches := by rw [counted, hx]; rfl
  simp only [perform, hx]
  split
  · exact (read_modifyBackend s b c _).trans (by rw [hx, hself]; rfl)
  · exact (read_modifyBackend s b c _).trans (by rw [hx, hself]; rfl)

theorem Work.counted_eq {s t : Scheduler} (h : s.Work t) (b : Nat) : t.counted b = s.counted b :=
  h.read_eq Backend.counts_dispatches b

end Scheduler

end StreamBalancer
