import StreamBalancer.Proofs.Interleaving.Sound

/-!
# StreamBalancer.Proofs.Interleaving.Numbers

Sessions are told apart by number at every moment of every history
(`Run.sessions_numbered`), and only three tasks ask for one (`sessions_perform`).
-/

namespace StreamBalancer

namespace Scheduler

/-! ## Sessions -/

/-- Sessions have numbers of their own, all below the next one. -/
def Numbered (s : Scheduler) : Prop :=
  (s.sessions.map Session.number).Nodup ∧ ∀ x ∈ s.sessions, x.number < s.sessionCount

/-- Sessions may go, and may change but for their numbers. -/
theorem Numbered.of_sublist {s t : Scheduler} (h : s.Numbered)
    (hsessions : (t.sessions.map Session.number).Sublist (s.sessions.map Session.number))
    (hcount : t.sessionCount = s.sessionCount) : t.Numbered := by
  refine ⟨h.1.sublist hsessions, fun x hx => ?_⟩
  obtain ⟨y, hy, hnumber⟩ := List.mem_map.1 (hsessions.subset (List.mem_map_of_mem hx))
  rw [hcount, ← hnumber]
  exact h.2 y hy

theorem number_newSessions (b first : Nat) (slots : List Nat) :
    (newSessions b first slots).map Session.number = List.range' first slots.length := by
  rw [← List.zipIdx_map_snd first slots, newSessions, List.map_map]
  rfl

/-- Sessions that are asked for get the next numbers. -/
theorem Numbered.append {s t : Scheduler} (h : s.Numbered) {b : Nat} {slots : List Nat}
    (hsessions : t.sessions = s.sessions ++ newSessions b s.sessionCount slots)
    (hcount : t.sessionCount = s.sessionCount + slots.length) : t.Numbered := by
  rw [Numbered, hsessions, hcount]
  constructor
  · rw [List.map_append, number_newSessions, List.nodup_append]
    refine ⟨h.1, List.nodup_range', fun n hn m hm => ?_⟩
    obtain ⟨x, hx, rfl⟩ := List.mem_map.1 hn
    have hlt := h.2 x hx
    have hle := (List.mem_range'_1.1 hm).1
    omega
  · intro x hx
    obtain hx | hx := List.mem_append.1 hx
    · have hlt := h.2 x hx
      omega
    · have hmem := List.mem_map_of_mem (f := Session.number) hx
      rw [number_newSessions, List.mem_range'_1] at hmem
      exact hmem.2

/-- Whether a task may ask for tunnels. -/
def Task.mayAsk : Task → Bool
  | .weigh _ _ _ | .mark _ _ | .arrive _ => true
  | _ => false

theorem sessions_perform_of_not_asking (s : Scheduler) {task : Task} (h : task.mayAsk = false) :
    (s.perform task).1.sessions = s.sessions ∧
      (s.perform task).1.sessionCount = s.sessionCount := by
  cases task with
  | weigh | mark | arrive => contradiction
  | inspect | start | close | publish => exact ⟨rfl, rfl⟩
  | finished f =>
      obtain ⟨b, outcome⟩ := f
      cases outcome <;> exact ⟨rfl, rfl⟩
  | remove a =>
      cases hb : s.tracked? a with
      | none =>
          rw [perform_remove_none s hb]
          exact ⟨rfl, rfl⟩
      | some b =>
          simp only [perform, hb]
          exact ⟨rfl, rfl⟩
  | revive a =>
      simp only [perform, revive]
      split
      · split <;> exact ⟨rfl, rfl⟩
      · exact ⟨rfl, rfl⟩
  | request | empty | failure | connected =>
      simp only [perform]
      split <;> exact ⟨rfl, rfl⟩
  | check | drain | dispatch | handover =>
      simp only [perform]
      split
      · exact ⟨rfl, rfl⟩
      · split <;> exact ⟨rfl, rfl⟩

/-- The slots that a task asks for: none, one of an instance that there is, or those of a new
one. -/
inductive Orders (s t : Scheduler) : Nat → List Nat → Prop where
  | nothing (b : Nat) : Orders s t b []
  | one {b i : Nat} (h : (s.slot? b i).isSome = true) : Orders s t b [i]
  | every (hsize : t.fleet.backends.size = s.fleet.backends.size + 1) :
      Orders s t s.fleet.backends.size (List.range s.settings.tunnelCount)

/-- A task asks for some slots of an instance, or for none. -/
theorem orders_perform (s : Scheduler) (task : Task) :
    ∃ b slots, (s.perform task).1.sessions = s.sessions ++ newSessions b s.sessionCount slots ∧
      (s.perform task).1.sessionCount = s.sessionCount + slots.length ∧
      s.Orders (s.perform task).1 b slots := by
  have hnone : ∀ t : Scheduler, t.sessions = s.sessions ∧ t.sessionCount = s.sessionCount →
      ∃ b slots, t.sessions = s.sessions ++ newSessions b s.sessionCount slots ∧
        t.sessionCount = s.sessionCount + slots.length ∧ s.Orders t b slots := by
    rintro t ⟨hsessions, hcount⟩
    exact ⟨0, [], by rw [hsessions]; exact (List.append_nil _).symm, hcount, .nothing 0⟩
  have hmark : ∀ {b i : Nat} {g : Fleet}, s.fleet.markReplacing b i = (some true, g) →
      (s.slot? b i).isSome = true := by
    intro b i g hmark
    obtain ⟨-, heq⟩ | ⟨y, hy, -, -⟩ | ⟨y, hy, -, -⟩ := s.fleet.markReplacing_cases b i
    · simp [heq] at hmark
    · exact Option.isSome_iff_exists.2 ⟨y, hy⟩
    · exact Option.isSome_iff_exists.2 ⟨y, hy⟩
  cases task with
  | weigh b slot t =>
      simp only [perform]
      split
      · split
        · next hnew => exact ⟨b, [slot], rfl, rfl, .one (hmark hnew)⟩
        · exact hnone s ⟨rfl, rfl⟩
      · exact hnone s ⟨rfl, rfl⟩
  | mark b slot =>
      simp only [perform]
      split
      · next hnew => exact ⟨b, [slot], rfl, rfl, .one (hmark hnew)⟩
      · exact hnone _ ⟨rfl, rfl⟩
  | arrive a =>
      obtain ⟨-, heq⟩ | ⟨-, -, heq⟩ | ⟨-, -, heq⟩ := perform_arrive_cases s a
      · rw [heq]
        exact hnone s ⟨rfl, rfl⟩
      · rw [heq]
        exact hnone _ ⟨rfl, rfl⟩
      · rw [heq]
        exact ⟨_, List.range s.settings.tunnelCount, rfl, by rw [List.length_range],
          .every (Array.size_push _)⟩
  | _ => exact hnone _ (sessions_perform_of_not_asking s rfl)

theorem sessions_perform (s : Scheduler) (task : Task) :
    ∃ b slots, (s.perform task).1.sessions = s.sessions ++ newSessions b s.sessionCount slots ∧
      (s.perform task).1.sessionCount = s.sessionCount + slots.length := by
  obtain ⟨b, slots, hsessions, hcount, -⟩ := s.orders_perform task
  exact ⟨b, slots, hsessions, hcount⟩

/-! ### Helpers -/

theorem ForwardMoves.sessions_eq {s t : Scheduler} {f : Forward} (h : s.ForwardMoves f t) :
    t.sessions = s.sessions ∧ t.sessionCount = s.sessionCount := by
  cases h with
  | advances | releases => exact ⟨rfl, rfl⟩
  | reports =>
      exact ⟨report_keeps Scheduler.sessions (fun _ _ _ _ => rfl) _ _,
        report_keeps sessionCount (fun _ _ _ _ => rfl) _ _⟩

theorem numbers_modifySession (s : Scheduler) (n : Nat) {change : Session → Session}
    (h : ∀ x, (change x).number = x.number) :
    ((s.modifySession n change).sessions.map Session.number).Sublist
      (s.sessions.map Session.number) := by
  have heq : (s.modifySession n change).sessions.map Session.number =
      s.sessions.map Session.number := by
    rw [modifySession, List.map_map]
    apply List.map_congr_left
    intro x _
    simp only [Function.comp_apply]
    split
    · exact h x
    · rfl
  rw [heq]

theorem numbers_removeSession (s : Scheduler) (n : Nat) :
    ((s.removeSession n).sessions.map Session.number).Sublist (s.sessions.map Session.number) :=
  List.filter_sublist.map _

theorem SessionMoves.numbers {s t : Scheduler} {x : Session} (h : s.SessionMoves x t) :
    (t.sessions.map Session.number).Sublist (s.sessions.map Session.number) ∧
      t.sessionCount = s.sessionCount := by
  cases h with
  | hands =>
      unfold handOver
      split <;> exact ⟨numbers_removeSession s _, rfl⟩
  | ends => exact ⟨numbers_removeSession s _, rfl⟩
  | goes metrics hold hnew hkeeps =>
      exact ⟨numbers_modifySession _ _ fun y => (hkeeps y).1, rfl⟩

/-- Nobody but the scheduler asks for tunnels. -/
theorem Work.numbers {s t : Scheduler} (h : s.Work t) :
    (t.sessions.map Session.number).Sublist (s.sessions.map Session.number) ∧
      t.sessionCount = s.sessionCount := by
  cases h with
  | post | retune | tick => exact ⟨.refl _, rfl⟩
  | session h =>
      obtain ⟨x, -, hmoves⟩ := stepSession?_cases h
      exact hmoves.numbers
  | dialed => exact ⟨numbers_modifySession _ _ fun _ => rfl, rfl⟩
  | undialed => exact ⟨numbers_modifySession _ _ fun _ => rfl, rfl⟩
  | forward reach h =>
      obtain ⟨f, -, hmoves⟩ := stepForward?_cases h
      rw [hmoves.sessions_eq.1, hmoves.sessions_eq.2]
      exact ⟨.refl _, rfl⟩
  | spliced moved =>
      unfold endSplice
      split
      · exact ⟨.refl _, rfl⟩
      · split <;> exact ⟨.refl _, rfl⟩

theorem Receives.sessions_eq {s t : Scheduler} {e : Event} (h : s.Receives e t) :
    t.sessions = s.sessions ∧ t.sessionCount = s.sessionCount := by
  cases h <;> exact ⟨rfl, rfl⟩

end Scheduler

open Scheduler in
/-- No step gives two sessions one number. -/
theorem World.Step.numbered {w w' : World} (step : w.Step w') (h : w.scheduler.Numbered) :
    w'.scheduler.Numbered := by
  have hsame : ∀ t : Scheduler, t.sessions = w.scheduler.sessions ∧
      t.sessionCount = w.scheduler.sessionCount → t.Numbered := by
    rintro t ⟨hsessions, hcount⟩
    exact h.of_sublist (by rw [hsessions]) hcount
  cases step with
  | perform =>
      obtain ⟨b, slots, hsessions, hcount⟩ := sessions_perform w.scheduler _
      exact h.append hsessions hcount
  | receive _ hreceives => exact hsame _ hreceives.sessions_eq
  | query => exact h
  | arrive _ haccept =>
      rw [accept?_eq haccept]
      exact hsame _ ⟨rfl, rfl⟩
  | work hwork => exact h.of_sublist hwork.numbers.1 hwork.numbers.2

namespace Run

open Scheduler

variable {settings : Settings} {permits : Nat} {w : World} {past : List World}

/-- No two sessions have one number, and the numbers yet to be given are new. -/
theorem sessions_numbered (run : Run settings permits (w :: past)) : w.scheduler.Numbered := by
  induction run using Run.induct with
  | initial => exact ⟨List.nodup_nil, fun _ h => absurd h List.not_mem_nil⟩
  | kept _ step ih => exact step.numbered ih

end Run

end StreamBalancer
