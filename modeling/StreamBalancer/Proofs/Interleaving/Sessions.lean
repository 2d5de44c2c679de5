import StreamBalancer.Proofs.Interleaving.Gauge
import StreamBalancer.Proofs.Interleaving.Teardown

/-!
# StreamBalancer.Proofs.Interleaving.Sessions

What a step of anybody is for the sessions.

1. A session does one thing at a time, and what it does is noted (`Scheduler.SessionActs`).
2. In a step either one session acts, or sessions are asked for and none acts, most often of
   neither any (`Tenure.Goes.tends`).
3. What was done can be read off the states before and after (`Scheduler.deed?`,
   `SessionActs.deed?_eq`).
-/

namespace StreamBalancer

/-! ## Deeds -/

namespace Session

/-- Whether a session is about to dial, and to look before that whether its tunnel is wanted. -/
def Stage.isLooking : Stage → Bool
  | .idle | .retained | .cleared => true
  | _ => false

/-- How a session ended. -/
structure End where
  /-- The messages that it left. -/
  handed : List Handover
  /-- The tunnels that it closed. -/
  closed : List Nat
  /-- Whether shutdown was signalled. -/
  signalled : Bool
  /-- Whether its instance was given up. -/
  retired : Bool
  /-- Whether the scheduler was gone. -/
  stopped : Bool
deriving DecidableEq, Repr

/-- What happens to a session. -/
inductive Deed where
  /-- It is asked for, for a slot of an instance. -/
  | asked (backend slot : Nat)
  /-- It begins to dial an agent. -/
  | dials (now : Nat) (agent : String)
  /-- Its dial gives a tunnel, the next one in number. -/
  | gains (now tunnel : Nat)
  /-- Its dial fails, and it waits up to a point in time. -/
  | fails (now wakeup : Nat)
  /-- It ends. -/
  | ends (how : End)
deriving DecidableEq, Repr

/-- The messages that are left with a deed. -/
def Deed.handed : Deed → List Handover
  | .ends how => how.handed
  | _ => []

end Session

namespace Scheduler

/-- The messages about tunnels that came in from one state to the next. -/
def posted (s t : Scheduler) : List Handover := t.handovers.drop s.handovers.length

/-- The tunnel of a session, if it was closed from one state to the next. -/
def shut (s t : Scheduler) (x : Session) : List Nat :=
  match x.stage with
  | .established tunnel => if s.fleet.closesOf tunnel < t.fleet.closesOf tunnel then [tunnel] else []
  | _ => []

/-- What happened to the session with a number from one state to the next. -/
def deed? (s t : Scheduler) (n : Nat) : Option Session.Deed :=
  match s.session? n, t.session? n with
  | none, some y => some (.asked y.backend y.slot)
  | some x, none =>
    some (.ends ⟨s.posted t, s.shut t x, t.signalled, t.isRetired x.backend, t.stopped⟩)
  | some x, some y =>
    match x.stage, y.stage with
    | .cleared, .dialing since => some (.dials since (t.agent x))
    | .dialing _, .established _ => some (.gains t.now s.fleet.tunnels.size)
    | .dialing _, .waiting wakeup => some (.fails t.now wakeup)
    | _, _ => none
  | none, none => none

/-- Nothing is noted of a session that stays as it is. -/
theorem deed?_of_same {s t : Scheduler} {n : Nat} (h : t.session? n = s.session? n) :
    s.deed? t n = none := by
  rw [deed?, h]
  cases s.session? n with
  | none => rfl
  | some x => cases hstage : x.stage <;> simp [hstage]

/-! ## One session -/

theorem session?_modifySession (s : Scheduler) (m n : Nat) {change : Session → Session}
    (h : ∀ x, (change x).number = x.number) :
    (s.modifySession m change).session? n =
      (s.session? n).map fun x => if x.number = m then change x else x := by
  have hnumber : ∀ x : Session, (if x.number = m then change x else x).number = x.number := by
    intro x
    split
    · exact h x
    · rfl
  simp only [session?, modifySession, List.find?_map, Function.comp_def, hnumber]

theorem session?_removeSession (s : Scheduler) (m n : Nat) :
    (s.removeSession m).session? n = if n = m then none else s.session? n := by
  simp only [session?, removeSession, List.find?_filter]
  split
  · next h =>
    rw [List.find?_eq_none]
    intro x _
    simp [h]
  · next h =>
    congr 1
    funext x
    by_cases hx : x.number = n <;> simp [hx, h]

theorem shut_eq_nil {x : Session} (h : ∀ tunnel, x.stage ≠ .established tunnel)
    (s t : Scheduler) : s.shut t x = [] := by
  unfold shut
  split
  · next tunnel hstage => exact absurd hstage (h tunnel)
  · rfl

/-- A session closes the tunnel that it hands over just if the scheduler is gone. -/
theorem shut_handOver {x : Session} {tunnel : Nat} (h : x.stage = .established tunnel)
    (s : Scheduler) (n : Nat) : s.shut ((s.removeSession n).handOver ⟨x.backend, x.slot, tunnel⟩) x =
      if s.stopped = true ∧ tunnel < s.fleet.tunnels.size then [tunnel] else [] := by
  have hfleet : ((s.removeSession n).handOver ⟨x.backend, x.slot, tunnel⟩).fleet =
      if s.stopped then s.fleet.close tunnel else s.fleet := by
    unfold handOver
    split <;> next hstopped => simp only [removeSession] at hstopped ⊢; simp [hstopped]
  simp only [shut, h, hfleet]
  cases s.stopped with
  | false => simp
  | true =>
      by_cases ht : tunnel < s.fleet.tunnels.size
      · simp [Fleet.closesOf_close ht, ht]
      · simp [Fleet.close_of_size_le (Nat.le_of_not_lt ht), ht]

/-- What a session may do: what is noted of it, what the session is afterwards, `none` if it has
ended, and what the scheduler is. -/
inductive SessionActs (s : Scheduler) (x : Session) :
    Option Session.Deed → Option Session → Scheduler → Prop where
  /-- It sees that its instance was not given up. -/
  | looks (hstage : x.stage = .idle) (hretired : s.isRetired x.backend = false) :
      SessionActs s x none (some { x with stage := .retained })
        (s.modifySession x.number fun y => { y with stage := .retained })
  /-- It sees that shutdown was not signalled. -/
  | clears (hstage : x.stage = .retained) (hsignalled : s.signalled = false) :
      SessionActs s x none (some { x with stage := .cleared })
        (s.modifySession x.number fun y => { y with stage := .cleared })
  /-- It begins to dial, whatever has happened since. -/
  | dials (hstage : x.stage = .cleared) :
      SessionActs s x (some (.dials s.now (s.agent x))) (some { x with stage := .dialing s.now })
        (s.modifySession x.number fun y => { y with stage := .dialing s.now })
  /-- It gets the tunnel that its dial gave. -/
  | gains {since : Nat} (tunnel : Tunnel) (hstage : x.stage = .dialing since) :
      SessionActs s x (some (.gains s.now s.fleet.tunnels.size))
        (some { x with stage := .established s.fleet.tunnels.size })
        (s.dialSucceeded x.number tunnel)
  /-- It learns that its dial failed. -/
  | fails {since : Nat} (draw : Nat) (hstage : x.stage = .dialing since) :
      SessionActs s x
        (some (.fails s.now (s.now + Delay.retry draw s.settings.session.retryInterval)))
        (some (x.retry s.settings.session s.now draw)) (s.dialFailed x.number draw)
  /-- It has waited. -/
  | wakes {wakeup : Nat} (hstage : x.stage = .waiting wakeup) (h : wakeup ≤ s.now) :
      SessionActs s x none (some { x with stage := .idle })
        (s.modifySession x.number fun y => { y with stage := .idle })
  /-- It hands its tunnel over and ends, or closes it if nobody is there to take it. -/
  | hands {tunnel : Nat} (hstage : x.stage = .established tunnel) :
      SessionActs s x
        (some (.ends ⟨if s.stopped then [] else [⟨x.backend, x.slot, tunnel⟩],
          if s.stopped = true ∧ tunnel < s.fleet.tunnels.size then [tunnel] else [], s.signalled,
          s.isRetired x.backend, s.stopped⟩))
        none ((s.removeSession x.number).handOver ⟨x.backend, x.slot, tunnel⟩)
  /-- It ends without a tunnel, for nobody wants one. -/
  | quits (hstage : ∀ tunnel, x.stage ≠ .established tunnel)
      (hwhy : s.signalled = true ∨ x.stage = .idle ∧ s.isRetired x.backend = true) :
      SessionActs s x (some (.ends ⟨[], [], s.signalled, s.isRetired x.backend, s.stopped⟩)) none
        (s.removeSession x.number)

/-- A session that goes on by itself acts. -/
theorem stepSession?_acts {s t : Scheduler} {draw n : Nat} (h : s.stepSession? draw n = some t) :
    ∃ x d y, s.session? x.number = some x ∧ s.SessionActs x d y t := by
  unfold stepSession? at h
  cases hx : s.session? n with
  | none => simp [hx] at h
  | some x =>
      obtain rfl := number_of_session? hx
      rw [hx] at h
      refine ⟨x, ?_⟩
      dsimp only at h
      split at h
      · next tunnel hstage =>
        obtain rfl := Option.some.inj h
        exact ⟨_, _, hx, .hands hstage⟩
      · next hstage =>
        split at h
        · next hend =>
          obtain rfl := Option.some.inj h
          exact ⟨_, _, hx, .quits (by simp [hstage]) (.inr ⟨hstage, hend⟩)⟩
        · next hretired =>
          obtain rfl := Option.some.inj h
          exact ⟨_, _, hx, .looks hstage (Bool.eq_false_iff.2 hretired)⟩
      · next hstage =>
        split at h
        · next hend =>
          obtain rfl := Option.some.inj h
          exact ⟨_, _, hx, .quits (by simp [hstage]) (.inl hend)⟩
        · next hsignalled =>
          obtain rfl := Option.some.inj h
          exact ⟨_, _, hx, .clears hstage (Bool.eq_false_iff.2 hsignalled)⟩
      · next hstage =>
        split at h
        · next hend =>
          obtain rfl := Option.some.inj h
          exact ⟨_, _, hx, .quits (by simp [hstage]) (.inl (Bool.and_eq_true_iff.1 hend).1)⟩
        · obtain rfl := Option.some.inj h
          exact ⟨_, _, hx, .dials hstage⟩
      · next since hstage =>
        split at h
        · next hend =>
          obtain rfl := Option.some.inj h
          exact ⟨_, _, hx, .quits (by simp [hstage]) (.inl hend)⟩
        · split at h
          · obtain rfl := Option.some.inj h
            exact ⟨_, _, hx, .fails draw hstage⟩
          · contradiction
      · next wakeup hstage =>
        split at h
        · next hend =>
          obtain rfl := Option.some.inj h
          exact ⟨_, _, hx, .quits (by simp [hstage]) (.inl hend)⟩
        · split at h
          · next hwakeup =>
            obtain rfl := Option.some.inj h
            exact ⟨_, _, hx, .wakes hstage hwakeup⟩
          · contradiction

namespace SessionActs

variable {s t : Scheduler} {x : Session} {d : Option Session.Deed} {y : Option Session}

/-- A session touches nothing that was agreed on, and no instance. -/
theorem keeps (h : s.SessionActs x d y t) :
    t.fixed = s.fixed ∧ t.roster = s.roster ∧ t.now = s.now ∧ t.sessionCount = s.sessionCount := by
  cases h with
  | hands =>
      unfold handOver
      split <;> exact ⟨rfl, rfl, rfl, rfl⟩
  | looks | clears | dials | gains | fails | wakes | quits => exact ⟨rfl, rfl, rfl, rfl⟩

/-- Its messages are noted. -/
theorem posted_eq (h : s.SessionActs x d y t) : s.posted t = (d.map Session.Deed.handed).getD [] := by
  cases h with
  | @hands tunnel =>
      change s.posted ((s.removeSession x.number).handOver _) = if s.stopped then [] else _
      cases hstopped : s.stopped with
      | true =>
          rw [handOver, if_pos (by exact hstopped)]
          exact List.drop_length
      | false =>
          rw [handOver, if_neg (by simp [removeSession, hstopped])]
          exact List.drop_left
  | looks | clears | dials | gains | fails | wakes | quits => exact List.drop_length

/-- The others are left alone. -/
theorem session?_eq (h : s.SessionActs x d y t) (hx : s.session? x.number = some x) (n : Nat) :
    t.session? n = if n = x.number then y else s.session? n := by
  have hmodify : ∀ {s' : Scheduler} {change : Session → Session}, s'.session? = s.session? →
      (∀ z, (change z).number = z.number) → (s'.modifySession x.number change).session? n =
        if n = x.number then some (change x) else s.session? n := by
    intro s' change hsame hchange
    rw [session?_modifySession _ _ _ hchange, hsame]
    split
    · next hn =>
      rw [hn, hx]
      exact congrArg some (if_pos rfl)
    · next hn =>
      cases hz : s.session? n with
      | none => rfl
      | some z => rw [Option.map_some, if_neg (number_of_session? hz ▸ hn)]
  cases h with
  | looks | clears | dials | gains | fails | wakes => exact hmodify rfl fun _ => rfl
  | quits => exact session?_removeSession s x.number n
  | hands =>
      unfold handOver
      split <;> exact session?_removeSession s x.number n

/-- What is noted of it can be read off, and of the others nothing. -/
theorem deed?_eq (h : s.SessionActs x d y t) (hx : s.session? x.number = some x) (n : Nat) :
    s.deed? t n = if n = x.number then d else none := by
  have hsession := h.session?_eq hx n
  have hposted := h.posted_eq
  obtain ⟨hfixed, hroster, hnow, -⟩ := h.keeps
  have hsignalled : t.signalled = s.signalled := congrArg (·.2.1) hfixed
  have hstopped : t.stopped = s.stopped := congrArg (·.2.2) hfixed
  have hsettings : t.settings = s.settings := congrArg (·.1) hfixed
  have hretired : t.isRetired x.backend = s.isRetired x.backend := by
    rw [isRetired_eq, isRetired_eq, hroster]
  have hagent : t.agent x = s.agent x := by
    rw [agent, agent, address_eq, address_eq, hroster, hsettings]
  by_cases hn : n = x.number
  · subst hn
    rw [if_pos rfl] at hsession ⊢
    rw [deed?, hx, hsession]
    cases h with
    | dials hstage => simp [hstage, hagent]
    | gains tunnel hstage => simp [hstage, hnow]
    | fails draw hstage => simp [hstage, hnow, Session.retry]
    | looks hstage | clears hstage | wakes hstage => simp [hstage]
    | hands hstage =>
        simp [hposted, shut_handOver hstage, hsignalled, hretired, hstopped, Session.Deed.handed]
    | quits hstage =>
        simp [hposted, shut_eq_nil hstage, hsignalled, hretired, hstopped, Session.Deed.handed]
  · rw [if_neg hn] at hsession ⊢
    exact deed?_of_same hsession

end SessionActs

/-- The dials of all sessions that are counted, by how they ended. -/
def dialCounts (s : Scheduler) : Series → Nat := s.fleet.metrics.among Series.isDial

/-- Sessions are asked for, or none, and no session acts. -/
structure Asks (s t : Scheduler) (b : Nat) (slots : List Nat) : Prop where
  sessions : t.sessions = s.sessions ++ newSessions b s.sessionCount slots
  count : t.sessionCount = s.sessionCount + slots.length
  /-- They are for an instance that there is. -/
  created : slots ≠ [] → b < t.fleet.backends.size
  posted : s.posted t = []
  dialCounts : t.dialCounts = s.dialCounts

/-- A session that there is has a number that was given. -/
theorem Numbered.lt_of_session? {s : Scheduler} (h : s.Numbered) {n : Nat} {x : Session}
    (hx : s.session? n = some x) : n < s.sessionCount :=
  number_of_session? hx ▸ h.2 x (List.mem_of_find?_eq_some hx)

/-- Sessions that are asked for get the next numbers, and the others are left alone. -/
theorem Asks.session?_cases {s t : Scheduler} {b : Nat} {slots : List Nat} (h : s.Asks t b slots)
    (hnumbered : s.Numbered) (n : Nat) :
    (t.session? n = s.session? n ∧ (n < t.sessionCount → n < s.sessionCount)) ∨
      (s.session? n = none ∧ s.sessionCount ≤ n ∧ n < t.sessionCount ∧
        b < t.fleet.backends.size ∧ ∃ i, t.session? n = some ⟨n, b, i, .idle⟩) := by
  have hfind : t.session? n = (s.session? n).or
      ((newSessions b s.sessionCount slots).find? fun x => x.number == n) := by
    rw [session?, h.sessions, List.find?_append]
    rfl
  have hnew : ∀ x ∈ newSessions b s.sessionCount slots,
      (∃ i, x = ⟨x.number, b, i, .idle⟩) ∧ s.sessionCount ≤ x.number ∧ x.number < t.sessionCount := by
    intro x hx
    have hnumber := List.mem_map_of_mem (f := Session.number) hx
    rw [number_newSessions, List.mem_range'_1, ← h.count] at hnumber
    obtain ⟨⟨i, k⟩, -, rfl⟩ := List.mem_map.1 hx
    exact ⟨⟨i, rfl⟩, hnumber⟩
  by_cases hn : s.sessionCount ≤ n ∧ n < t.sessionCount
  · have hmem : n ∈ (newSessions b s.sessionCount slots).map Session.number := by
      rw [number_newSessions, List.mem_range'_1, ← h.count]
      exact hn
    have hnone : s.session? n = none := by
      by_contra hsome
      obtain ⟨x, hx⟩ := Option.ne_none_iff_exists'.1 hsome
      exact absurd (hnumbered.lt_of_session? hx) (Nat.not_lt.2 hn.1)
    obtain ⟨x, hx, hxn⟩ := List.mem_map.1 hmem
    have hsome : ((newSessions b s.sessionCount slots).find? fun x => x.number == n).isSome :=
      List.find?_isSome.2 ⟨x, hx, by simp [hxn]⟩
    obtain ⟨y, hy⟩ := Option.isSome_iff_exists.1 hsome
    obtain ⟨⟨i, hi⟩, -⟩ := hnew y (List.mem_of_find?_eq_some hy)
    have hyn : y.number = n := by simpa using List.find?_some hy
    have hslots : slots ≠ [] := by
      rintro rfl
      contradiction
    refine .inr ⟨hnone, hn.1, hn.2, h.created hslots, i, ?_⟩
    rw [hfind, hnone, hy, Option.none_or, hi, hyn]
  · have hnone : (newSessions b s.sessionCount slots).find? (fun x => x.number == n) = none := by
      refine List.find?_eq_none.2 fun x hx heq => hn ?_
      rw [← beq_iff_eq.1 heq]
      exact (hnew x hx).2
    rw [hfind, hnone, Option.or_none]
    exact .inl ⟨rfl, fun hlt => by omega⟩

/-- All that is noted then is that a session was asked for. -/
theorem Asks.deed?_cases {s t : Scheduler} {b : Nat} {slots : List Nat} (h : s.Asks t b slots)
    (hnumbered : s.Numbered) (n : Nat) :
    s.deed? t n = none ∨ ∃ i, s.deed? t n = some (.asked b i) := by
  obtain ⟨hsession, -⟩ | ⟨hold, -, -, -, i, hnew⟩ := h.session?_cases hnumbered n
  · exact .inl (deed?_of_same hsession)
  · rw [deed?, hold, hnew]
    exact .inr ⟨i, rfl⟩

/-- What a step of anybody is for the sessions. -/
inductive Tends (s t : Scheduler) : Prop where
  | asks {b : Nat} {slots : List Nat} (h : s.Asks t b slots)
  | acts {x : Session} {d : Option Session.Deed} {y : Option Session}
      (hx : s.session? x.number = some x) (h : s.SessionActs x d y t)

/-- Whoever leaves sessions, messages and counters alone. -/
theorem Tends.of_same {s t : Scheduler}
    (hsessions : t.sessions = s.sessions ∧ t.sessionCount = s.sessionCount)
    (hposted : s.posted t = []) (hcounts : t.dialCounts = s.dialCounts) : s.Tends t := by
  have hnone : t.sessions = s.sessions ++ newSessions 0 s.sessionCount [] := by
    rw [hsessions.1]
    exact (List.append_nil _).symm
  exact .asks ⟨hnone, hsessions.2, fun h => absurd rfl h, hposted, hcounts⟩

theorem posted_of_eq {s t : Scheduler} (h : t.handovers = s.handovers) : s.posted t = [] := by
  rw [posted, h, List.drop_length]

/-- A task asks for sessions at most. -/
theorem tends_perform {s : Scheduler} {most : Nat} (hsound : s.roster.Sound most) (task : Task) :
    s.Tends (s.perform task).1 := by
  obtain ⟨b, slots, hsessions, hcount, horders⟩ := s.orders_perform task
  refine .asks ⟨hsessions, hcount, fun hslots => ?_, ?_, ?_⟩
  · cases horders with
    | nothing => contradiction
    | one h =>
        have hlt : b < s.fleet.backends.size := by
          by_contra hb
          rw [slot?, Fleet.slot?, Fleet.backend?, Array.getElem?_eq_none (Nat.le_of_not_lt hb)] at h
          contradiction
        exact hlt.trans_le (survives_perform hsound task).size
    | every hsize => omega
  · exact posted_of_eq (congrArg Prod.snd (inbox_perform s task))
  · exact among_perform s fun _ => task.touches_of_isDial

/-- Whoever acts beside the scheduler is a session, or leaves the sessions alone. -/
theorem Work.tends {s t : Scheduler} (h : s.Work t) : s.Tends t := by
  have hdialing : ∀ {x : Session}, x.isDialing = true → ∃ since, x.stage = .dialing since := by
    intro x h
    cases hstage : x.stage <;> simp_all [Session.isDialing]
  cases h with
  | post | retune | tick => exact .of_same ⟨rfl, rfl⟩ List.drop_length rfl
  | session h =>
      obtain ⟨x, d, y, hx, hacts⟩ := stepSession?_acts h
      exact .acts hx hacts
  | dialed tunnel hx h =>
      obtain ⟨since, hstage⟩ := hdialing h
      obtain rfl := number_of_session? hx
      exact .acts hx (.gains tunnel hstage)
  | undialed draw hx h =>
      obtain ⟨since, hstage⟩ := hdialing h
      obtain rfl := number_of_session? hx
      exact .acts hx (.fails draw hstage)
  | forward reach h =>
      have hcounts := among_stepForward (p := Series.isDial) rfl h
      obtain ⟨f, -, hmoves⟩ := stepForward?_cases h
      refine .of_same hmoves.sessions_eq (posted_of_eq ?_) hcounts
      cases hmoves with
      | advances | releases => rfl
      | reports => exact report_keeps handovers (fun _ _ _ _ => rfl) _ _
  | @spliced r _ _ moved h =>
      have hcounts := among_endSplice (p := Series.isDial) rfl rfl s r moved
      obtain ⟨g, outcome, heq, -⟩ := endSplice_eq h moved
      rw [heq] at hcounts ⊢
      exact .of_same ⟨rfl, rfl⟩ List.drop_length hcounts

/-- What sessions rely on from one state to the next. -/
structure Continues (s t : Scheduler) : Prop where
  settings : t.settings = s.settings
  now : s.now ≤ t.now
  survives : s.Survives t
  signalled : s.signalled = true → t.signalled = true

theorem gaveUp_iff (s : Scheduler) (b : Nat) :
    s.gaveUp b ↔ b < s.fleet.backends.size ∧ s.isRetired b = true := by
  rw [gaveUp, isRetired_eq, ← length_identities]
  cases hx : s.roster.identities[b]? with
  | none => simpa using hx
  | some x => simp [(List.getElem?_eq_some_iff.1 hx).1]

/-- An instance that was given up stays so. -/
theorem Continues.gaveUp {s t : Scheduler} (h : s.Continues t) {b : Nat} (hb : s.gaveUp b) :
    t.gaveUp b := by
  obtain ⟨hlt, hretired⟩ := (gaveUp_iff s b).1 hb
  refine (gaveUp_iff t b).2 ⟨hlt.trans_le h.survives.size, ?_⟩
  by_contra hlive
  rw [h.survives.retired b hlt (Bool.eq_false_iff.2 hlive)] at hretired
  contradiction

/-- Whoever leaves settings, clock, instances and the mark of shutdown alone. -/
theorem Continues.of_same {s t : Scheduler} (hsettings : t.settings = s.settings)
    (hnow : t.now = s.now) (hroster : t.roster = s.roster) (hsignalled : t.signalled = s.signalled) :
    s.Continues t :=
  ⟨hsettings, hnow.ge, survives_of_roster_eq hroster, hsignalled.trans⟩

theorem Work.now_le {s t : Scheduler} (h : s.Work t) : s.now ≤ t.now := by
  cases h with
  | post | dialed | undialed | retune => exact Nat.le_refl _
  | tick hnow => exact hnow
  | session h =>
      obtain ⟨x, d, y, -, hacts⟩ := stepSession?_acts h
      exact hacts.keeps.2.2.1.ge
  | forward reach h =>
      obtain ⟨f, -, hmoves⟩ := stepForward?_cases h
      cases hmoves with
      | advances | releases => exact Nat.le_refl _
      | reports => exact (report_keeps now (fun _ _ _ _ => rfl) (s.removeForward f.request) _).ge
  | spliced moved h =>
      obtain ⟨g, outcome, heq, -⟩ := endSplice_eq h moved
      rw [heq]
      exact Nat.le_refl _

end Scheduler

namespace Tenure

open Scheduler

variable {c c' : Tenure}

/-- **What sessions rely on stays.** -/
theorem Goes.continues (h : c.Goes c') (horderly : c.Orderly) :
    c.world.scheduler.Continues c'.world.scheduler := by
  cases h with
  | arrive _ _ haccept =>
      obtain rfl := accept?_eq haccept
      exact .of_same rfl rfl rfl rfl
  | step h =>
      cases h with
      | perform h =>
          unfold World.next
          split
          · exact .of_same rfl rfl rfl rfl
          · next task _ _ =>
            have hfixed := fixed_perform c.world.scheduler task
            have hnow : (c.world.scheduler.perform task).1.now = c.world.scheduler.now :=
              perform_keeps now (fun _ _ _ _ _ _ _ _ _ _ _ => rfl) _ (.inr fun _ _ _ => rfl)
            exact ⟨congrArg (·.1) hfixed, hnow.ge, survives_perform horderly.sound.roster task,
              (congrArg (·.2.1) hfixed).trans⟩
      | receive _ _ hreceives => cases hreceives <;> exact .of_same rfl rfl rfl rfl
      | work h =>
          exact ⟨congrArg (·.1) h.fixed_eq, h.now_le, survives_of_roster_eq h.roster_eq,
            (congrArg (·.2.1) h.fixed_eq).trans⟩
      | @forget f rest =>
          have hkept := report_keeps (fun s => (s.settings, s.now, s.roster, s.signalled))
            (fun _ _ _ _ => rfl) { c.world.scheduler with outcomes := rest } f
          simp only [Prod.mk.injEq] at hkept
          exact .of_same hkept.1 hkept.2.1 hkept.2.2.1 hkept.2.2.2
      | signal => exact ⟨rfl, Nat.le_refl _, survives_of_roster_eq rfl, fun _ => rfl⟩
      | query | leave | clear | close | lose | shut | discard => exact .of_same rfl rfl rfl rfl

/-- **In a step one session acts, or none does.** -/
theorem Goes.tends (h : c.Goes c') (horderly : c.Orderly) :
    c.world.scheduler.Tends c'.world.scheduler := by
  have hsame : c.world.scheduler.Tends c.world.scheduler :=
    .of_same ⟨rfl, rfl⟩ List.drop_length rfl
  cases h with
  | arrive _ _ haccept =>
      obtain rfl := accept?_eq haccept
      exact .of_same ⟨rfl, rfl⟩ List.drop_length rfl
  | step h =>
      cases h with
      | perform h =>
          unfold World.next
          split
          · exact hsame
          · exact tends_perform horderly.sound.roster _
      | receive _ _ hreceives =>
          cases hreceives with
          | handover hh =>
              refine .of_same ⟨rfl, rfl⟩ ?_ rfl
              rw [posted, hh]
              exact List.drop_eq_nil_of_le (Nat.le_succ _)
          | _ => exact .of_same ⟨rfl, rfl⟩ List.drop_length rfl
      | work h => exact h.tends
      | @forget f rest =>
          have hkept := report_keeps
            (fun s => (s.sessions, s.sessionCount, s.handovers, s.dialCounts)) (fun _ _ _ _ => rfl)
            { c.world.scheduler with outcomes := rest } f
          simp only [Prod.mk.injEq] at hkept
          obtain ⟨hsessions, hcount, hhandovers, hcounts⟩ := hkept
          exact .of_same ⟨hsessions, hcount⟩ (posted_of_eq hhandovers) hcounts
      | lose => exact .of_same ⟨rfl, rfl⟩ List.drop_nil rfl
      | query | leave => exact hsame
      | close =>
          have hcounts := among_perform c.world.scheduler fun _ => Task.publish.touches_of_isDial
          exact .of_same ⟨rfl, rfl⟩ List.drop_length hcounts
      | signal | clear | shut | discard => exact .of_same ⟨rfl, rfl⟩ List.drop_length rfl

end Tenure

end StreamBalancer
