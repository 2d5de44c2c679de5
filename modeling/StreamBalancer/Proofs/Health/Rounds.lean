import StreamBalancer.Health.Monitor
import StreamBalancer.Proofs.Health.Discovery

/-!
# StreamBalancer.Proofs.Health.Rounds

Which list of backends a monitor asks.

1. `Monitor.Acts` is one step of a monitor that was not asked to stop, whatever the
   probes find.  A tick and a new list may both be due, and either may come first.
2. `Monitor.History` goes on with such steps, while lists are sent, snapshots are read
   and the clock moves.
3. New lists are taken in order, and only between regular rounds (`History.orderly`).
4. At a moment when nothing can happen unless the clock moves, all lists were taken if a
   startup round has succeeded; the next round asks the last one (`History.lists_taken`).
   Before that none was taken, and the next round asks the first list again
   (`lists_left`).
-/

namespace StreamBalancer.Monitor

/-! ## Rounds -/

/-- Whether the list in force is the given one.  A discovery may have put another director
to its front. -/
def Heeds (m : Monitor) (backends : List String) : Prop :=
  m.backends.Perm backends ∧ (m.isCluster = false → m.backends = backends)

/-- A round keeps all backends. -/
theorem directors_roundOf (m : Monitor) (answers : Galera.Answers) :
    (m.roundOf answers).directors.Perm m.backends ∧
      (m.isCluster = false → (m.roundOf answers).directors = m.backends) := by
  unfold roundOf
  split
  · next hcluster => exact ⟨Galera.discover_perm answers m.backends, fun h => by simp_all⟩
  · exact ⟨.rfl, fun _ => rfl⟩

/-- What a round leaves alone. -/
structure Keeps (m m' : Monitor) : Prop where
  probe : m'.probe = m.probe
  takesLists : m'.takesLists = m.takesLists
  lists : m'.lists = m.lists
  heeds : ∀ {backends}, m.Heeds backends → m'.Heeds backends

namespace Keeps

/-- Whoever changes neither probe nor lists keeps to a list. -/
theorem of_eq {m m' : Monitor} (hprobe : m'.probe = m.probe) (htakes : m'.takesLists = m.takesLists)
    (hlists : m'.lists = m.lists) (hbackends : m'.backends = m.backends) : m.Keeps m' where
  probe := hprobe
  takesLists := htakes
  lists := hlists
  heeds h := by
    rw [Heeds, isCluster, hprobe, hbackends]
    exact h

theorem trans {m m' m'' : Monitor} (h : m.Keeps m') (h' : m'.Keeps m'') : m.Keeps m'' where
  probe := h'.probe.trans h.probe
  takesLists := h'.takesLists.trans h.takesLists
  lists := h'.lists.trans h.lists
  heeds hheeds := h'.heeds (h.heeds hheeds)

end Keeps

theorem keeps_endRound (m : Monitor) (sent : Bool) : m.Keeps (m.endRound sent) := by
  unfold endRound
  split
  · exact .of_eq rfl rfl rfl rfl
  · split <;> exact .of_eq rfl rfl rfl rfl

theorem keeps_conclude (m : Monitor) (answers : Galera.Answers) :
    m.Keeps (m.conclude (m.roundOf answers)) := by
  obtain ⟨hperm, hplain⟩ := m.directors_roundOf answers
  have hround : m.Keeps { m with
      backends := (m.roundOf answers).directors
      record := (m.record.observe (m.roundOf answers).results).1 } :=
    { probe := rfl
      takesLists := rfl
      lists := rfl
      heeds := fun h => ⟨hperm.trans h.1, fun hcluster => (hplain hcluster).trans (h.2 hcluster)⟩ }
  unfold conclude
  dsimp only
  split
  · exact hround.trans (keeps_endRound _ false)
  · exact hround.trans (.of_eq rfl rfl rfl rfl)

theorem keeps_proceed (m : Monitor) (answering : Answering) (answered : List Answered) :
    m.Keeps (m.proceed answering answered) := by
  unfold proceed
  dsimp only
  split
  · exact keeps_conclude m _
  · exact .of_eq rfl rfl rfl rfl

@[simp] theorem started_conclude (m : Monitor) (round : Galera.Discovery) :
    (m.conclude round).started = m.started := by
  unfold conclude
  dsimp only
  split
  · unfold endRound
    split <;> rfl
  · rfl

/-- A startup round is not over when it begins. -/
@[simp] theorem started_proceed (m : Monitor) (answering : Answering) (answered : List Answered) :
    (m.proceed answering answered).started = m.started := by
  unfold proceed
  dsimp only
  split
  · exact started_conclude m _
  · rfl

/-! ## Steps -/

/-- A step of a monitor that was not asked to stop. -/
inductive Acts (m : Monitor) : Monitor → Prop where
  /-- A startup round begins. -/
  | startup (answering : Answering) (h : m.activity = .idle) (hstarted : m.started = false)
      (hdue : m.due ≤ m.now) : Acts m (m.proceed answering [])
  /-- A regular round begins with a tick. -/
  | tick (answering : Answering) (h : m.activity = .idle) (hstarted : m.started = true)
      (hdue : m.due ≤ m.now) : Acts m (m.tick answering)
  /-- A regular round begins with a new list. -/
  | reload (answering : Answering) {backends : List String} {rest : List (List String)}
      (h : m.activity = .idle) (hstarted : m.started = true) (htakes : m.takesLists = true)
      (hlists : m.lists = backends :: rest) :
      Acts m ({ m with backends, lists := rest }.proceed answering [])
  /-- Questions of a round are answered, or their time is over. -/
  | answer (answering : Answering) (more : List Answered) {answered : List Answered}
      {unanswered : List Galera.Query} {deadline : Nat}
      (h : m.activity = .probing answered unanswered deadline) :
      Acts m (m.proceed answering (answered ++ more))
  /-- A snapshot is sent. -/
  | send {snapshot : Snapshot} (h : m.activity = .sending snapshot)
      (hread : m.channel.isRead = true) (hroom : m.channel.queue.length < m.channel.capacity) :
      Acts m (({ m with channel := { m.channel with
        queue := m.channel.queue ++ [snapshot] } } : Monitor).endRound true)
  /-- Nobody takes a snapshot. -/
  | lose {snapshot : Snapshot} (h : m.activity = .sending snapshot)
      (hread : m.channel.isRead = false) : Acts m (m.endRound false)

/-- Between two rounds, nothing can happen unless the clock moves or somebody else acts. -/
def Waits (m : Monitor) : Prop := m.activity = .idle ∧ ∀ m', ¬ m.Acts m'

/-- A monitor waits if no round is due, and no new list is there for it. -/
theorem waits_iff (m : Monitor) :
    m.Waits ↔ m.activity = .idle ∧ m.now < m.due ∧
      (m.started = true → m.takesLists = true → m.lists = []) := by
  refine and_congr_right fun hidle => ⟨fun hstill => ⟨?_, fun hstarted htakes => ?_⟩, ?_⟩
  · by_contra hdue
    rw [not_lt] at hdue
    cases hstarted : m.started with
    | false => exact hstill _ (.startup (fun _ => none) hidle hstarted hdue)
    | true => exact hstill _ (.tick (fun _ => none) hidle hstarted hdue)
  · by_contra hlists
    obtain ⟨backends, rest, hlists⟩ := List.exists_cons_of_ne_nil hlists
    exact hstill _ (.reload (fun _ => none) hidle hstarted htakes hlists)
  · rintro ⟨hdue, hlists⟩ m' act
    cases act with
    | startup _ _ _ h | tick _ _ _ h => omega
    | reload _ _ hstarted htakes h => exact absurd (hlists hstarted htakes) (by simp [h])
    | answer _ _ h | send h | lose h =>
        rw [hidle] at h
        contradiction

instance (a : Activity) : Decidable (a = .idle) :=
  match a with
  | .idle => .isTrue rfl
  | .probing .. | .sending _ | .stopped => .isFalse (by simp)

instance (m : Monitor) : Decidable m.Waits := decidable_of_iff _ m.waits_iff.symm

/-- The steps of a monitor are such steps. -/
theorem acts_of_step? {m m' : Monitor} {answering : Answering}
    (hsignalled : m.activity = .idle → m.signalled = false)
    (h : m.step? answering = some m') : m.Acts m' := by
  unfold step? at h
  split at h
  · contradiction
  · next answered unanswered deadline hactivity =>
      split at h
      · rw [← Option.some.inj h]
        exact .answer answering _ hactivity
      · contradiction
  · next snapshot hactivity =>
      split at h
      · next hread =>
          rw [← Option.some.inj h]
          exact .lose hactivity (by simpa using hread)
      · next hread =>
          split at h
          · next hroom =>
              rw [← Option.some.inj h]
              exact .send hactivity (by simpa using hread) hroom
          · contradiction
  · next hidle =>
      rw [if_neg (by simp [hsignalled hidle])] at h
      split at h
      · next hstarted =>
          split at h
          · next hdue =>
              rw [← Option.some.inj h]
              exact .tick answering hidle hstarted hdue
          · split at h
            · next htakes hlists =>
                rw [← Option.some.inj h]
                exact .reload answering hidle hstarted htakes hlists
            · contradiction
      · next hstarted =>
          split at h
          · next hdue =>
              rw [← Option.some.inj h]
              exact .startup answering hidle (by simpa using hstarted) hdue
          · contradiction

/-- A monitor waits if it is between two rounds and has no next step. -/
theorem waits_iff_step? {m : Monitor} (hsignalled : m.signalled = false) (answering : Answering) :
    m.Waits ↔ m.activity = .idle ∧ m.step? answering = none := by
  constructor
  · rintro ⟨hidle, hstill⟩
    refine ⟨hidle, ?_⟩
    cases hstep : m.step? answering with
    | none => rfl
    | some m' => exact absurd (acts_of_step? (fun _ => hsignalled) hstep) (hstill m')
  · rintro ⟨hidle, hnone⟩
    rw [waits_iff]
    simp only [step?, hidle, hsignalled, Bool.false_eq_true, if_false] at hnone
    refine ⟨hidle, ?_⟩
    split at hnone
    · split at hnone
      · contradiction
      · next hdue =>
          refine ⟨not_le.1 hdue, fun _ htakes => ?_⟩
          by_contra hlists
          obtain ⟨backends, rest, hlists⟩ := List.exists_cons_of_ne_nil hlists
          rw [htakes, hlists] at hnone
          contradiction
    · next hstarted =>
        split at hnone
        · contradiction
        · next hdue => exact ⟨not_le.1 hdue, fun h => absurd h hstarted⟩

/-- A monitor that waits begins, when time has passed, a round over the list in force. -/
theorem Waits.next {m m' : Monitor} (h : m.Waits) {ms : Nat} (act : (m.advance ms).Acts m') :
    ∃ (answering : Answering) (m₀ : Monitor), m₀.probe = m.probe ∧ m₀.backends = m.backends ∧
      m' = m₀.proceed answering [] := by
  obtain ⟨hidle, -, hlists⟩ := m.waits_iff.1 h
  cases act with
  | startup answering => exact ⟨answering, m.advance ms, rfl, rfl, rfl⟩
  | tick answering =>
      exact ⟨answering, { m.advance ms with
        due := (if m.due + tickSlack < m.now + ms then m.now + ms else m.due) + m.interval },
        rfl, rfl, rfl⟩
  | reload _ _ hstarted htakes h =>
      replace h : m.lists = _ := h
      rw [hlists hstarted htakes] at h
      contradiction
  | answer _ _ h | send h | lose h =>
      replace h : m.activity = _ := h
      rw [hidle] at h
      contradiction

/-! ## Histories -/

/-- A monitor that looks at new lists, after some lists were sent to it, the last one last,
and before it is asked to stop. -/
inductive History (h : HealthCheckConfig) (probe : Probe) (backends : List String)
    (capacity : Nat) : List (List String) → Monitor → Prop where
  | start : History h probe backends capacity []
      { ofConfig h probe backends with channel := { capacity } }
  /-- The monitor goes on. -/
  | act {sent : List (List String)} {m m' : Monitor} (past : History h probe backends capacity sent m)
      (act : m.Acts m') : History h probe backends capacity sent m'
  /-- A list is sent. -/
  | list {sent : List (List String)} {m : Monitor} (past : History h probe backends capacity sent m)
      (l : List String) : History h probe backends capacity (sent ++ [l]) (m.sendList l).2
  /-- The clock moves. -/
  | advance {sent : List (List String)} {m : Monitor}
      (past : History h probe backends capacity sent m) (ms : Nat) :
      History h probe backends capacity sent (m.advance ms)
  /-- A snapshot is read. -/
  | read {sent : List (List String)} {m : Monitor} {snapshot : Snapshot} {rest : List Snapshot}
      (past : History h probe backends capacity sent m) (hqueue : m.channel.queue = snapshot :: rest) :
      History h probe backends capacity sent { m with channel := { m.channel with queue := rest } }
  /-- The reader of snapshots is gone. -/
  | close {sent : List (List String)} {m : Monitor}
      (past : History h probe backends capacity sent m) :
      History h probe backends capacity sent m.closeChannel.2

/-- Some of the lists that were sent were taken, the last of them is in force, and none is
taken before a startup round has succeeded. -/
structure Orderly (backends : List String) (sent : List (List String)) (m : Monitor) : Prop where
  takesLists : m.takesLists = true
  running : m.isRunning = true
  split : ∃ taken, sent = taken ++ m.lists ∧ m.Heeds (taken.getLastD backends) ∧
    (m.started = false → taken = [])

namespace Orderly

variable {backends : List String} {sent : List (List String)} {m m' : Monitor}

/-- What a round leaves alone stays in order. -/
theorem keeps (h : Orderly backends sent m) (hkeeps : m.Keeps m')
    (hstarted : m'.started = false → m.started = false) (hrunning : m'.isRunning = true) :
    Orderly backends sent m' := by
  obtain ⟨taken, hsent, hheeds, hnone⟩ := h.split
  refine ⟨hkeeps.takesLists.trans h.takesLists, hrunning, taken, ?_, hkeeps.heeds hheeds,
    fun h => hnone (hstarted h)⟩
  rw [hkeeps.lists]
  exact hsent

theorem isRunning_endRound (m : Monitor) (sent : Bool) : (m.endRound sent).isRunning = true := by
  unfold endRound
  split
  · rfl
  · split <;> rfl

theorem isRunning_proceed (m : Monitor) (answering : Answering) (answered : List Answered) :
    (m.proceed answering answered).isRunning = true := by
  unfold proceed
  dsimp only
  split
  · unfold conclude
    dsimp only
    split
    · exact isRunning_endRound _ false
    · rfl
  · rfl

/-- A round over the list in force. -/
theorem proceed (h : Orderly backends sent m) (answering : Answering) (answered : List Answered) :
    Orderly backends sent (m.proceed answering answered) :=
  h.keeps (keeps_proceed m answering answered) (fun hstarted => by simpa using hstarted)
    (isRunning_proceed m answering answered)

theorem endRound (h : Orderly backends sent m) (sending : Bool) :
    Orderly backends sent (m.endRound sending) := by
  refine h.keeps (keeps_endRound m sending) (fun hstarted => ?_) (isRunning_endRound m sending)
  unfold Monitor.endRound at hstarted
  split at hstarted
  · exact hstarted
  · next hnot => simpa using hnot

/-- A change of clocks and channel. -/
theorem of_eq (h : Orderly backends sent m) (hkeeps : m.Keeps m')
    (hstarted : m'.started = m.started) (hactivity : m'.activity = m.activity) :
    Orderly backends sent m' := by
  refine h.keeps hkeeps (fun h => hstarted ▸ h) ?_
  rw [isRunning, hactivity]
  exact h.running

/-- Every step takes at most the first of the lists that are left, between two rounds. -/
theorem act (h : Orderly backends sent m) (act : m.Acts m') : Orderly backends sent m' := by
  cases act with
  | startup answering => exact h.proceed answering []
  | tick answering =>
      have hdue : Orderly backends sent { m with
          due := (if m.due + tickSlack < m.now then m.now else m.due) + m.interval } :=
        h.of_eq (.of_eq rfl rfl rfl rfl) rfl rfl
      exact hdue.proceed answering []
  | @reload answering l rest _ hstarted _ hlists =>
      obtain ⟨taken, hsent, -, -⟩ := h.split
      have htaken : Orderly backends sent { m with backends := l, lists := rest } := by
        refine ⟨h.takesLists, h.running, taken ++ [l], ?_, ?_, fun hnot => ?_⟩
        · rw [hsent, hlists, List.append_assoc]
          rfl
        · rw [List.getLastD_concat]
          exact ⟨.rfl, fun _ => rfl⟩
        · replace hnot : m.started = false := hnot
          rw [hstarted] at hnot
          contradiction
      exact htaken.proceed answering []
  | answer answering more => exact h.proceed answering _
  | @send snapshot =>
      have hsent : Orderly backends sent { m with channel := { m.channel with
          queue := m.channel.queue ++ [snapshot] } } := h.of_eq (.of_eq rfl rfl rfl rfl) rfl rfl
      exact hsent.endRound true
  | lose => exact h.endRound false

/-- A list that is sent is left for later. -/
theorem list (h : Orderly backends sent m) (l : List String) :
    Orderly backends (sent ++ [l]) (m.sendList l).2 := by
  obtain ⟨taken, hsent, hheeds, hnone⟩ := h.split
  have hlists : (m.sendList l).2 = { m with lists := m.lists ++ [l] } := by
    simp [sendList, h.running]
  rw [hlists]
  refine ⟨h.takesLists, h.running, taken, ?_, hheeds, hnone⟩
  rw [hsent, List.append_assoc]

end Orderly

namespace History

variable {h : HealthCheckConfig} {probe : Probe} {backends : List String} {capacity : Nat}
  {sent : List (List String)} {m : Monitor}

/-- **Lists are taken in order**, and none before a startup round has succeeded. -/
theorem orderly (history : History h probe backends capacity sent m) : Orderly backends sent m := by
  induction history with
  | start => exact ⟨rfl, rfl, [], rfl, ⟨.rfl, fun _ => rfl⟩, fun _ => rfl⟩
  | act _ act ih => exact ih.act act
  | list _ l ih => exact ih.list l
  | advance | read | close => rename_i ih; exact ih.of_eq (.of_eq rfl rfl rfl rfl) rfl rfl

/-- **No list is left while a monitor waits that has started.**  Let nothing be able to
happen between two rounds unless the clock moves.

* If a startup round has succeeded, all lists were taken and the last one is in force.
* Otherwise none was taken, and the first list is still in force.
* What happens when the clock has moved is a round over the list in force. -/
theorem lists_taken (history : History h probe backends capacity sent m) (hwaits : m.Waits) :
    (m.started = true → m.lists = [] ∧ m.Heeds (sent.getLastD backends)) ∧
    (m.started = false → m.lists = sent ∧ m.Heeds backends) ∧
    ∀ ms m', (m.advance ms).Acts m' →
      ∃ (answering : Answering) (m₀ : Monitor), m₀.probe = m.probe ∧ m₀.backends = m.backends ∧
        m' = m₀.proceed answering [] := by
  obtain ⟨htakes, -, taken, hsent, hheeds, hnone⟩ := history.orderly
  refine ⟨fun hstarted => ?_, fun hstarted => ?_, fun ms m' act => hwaits.next act⟩
  · have hlists := (m.waits_iff.1 hwaits).2.2 hstarted htakes
    rw [hlists, List.append_nil] at hsent
    exact ⟨hlists, hsent ▸ hheeds⟩
  · rw [hnone hstarted] at hsent hheeds
    exact ⟨hsent.symm, hheeds⟩

/-- A list that is sent after the first snapshot is in force when the monitor waits again. -/
theorem lists_taken_of_reload :
    ∃ m, History {} .tcp ["a"] 1 [["b"]] m ∧ m.Waits ∧ m.started = true ∧
      m.lists = [] ∧ m.Heeds ["b"] := by
  let healthy : Answering := fun _ => some (.ok {})
  let silent : Answering := fun _ => none
  have begun := @start {} .tcp ["a"] 1
  -- the startup round succeeds
  have found := begun.act (.startup healthy rfl rfl (Nat.zero_le 0))
  have sent := found.act (.send rfl rfl (by decide))
  -- a list is sent, and its backend does not answer in time
  have probing := (sent.list ["b"]).act (.reload silent rfl rfl rfl rfl)
  have idle := (probing.advance 1000).act
    (.answer silent [(.director 0 "b", .error (.timeout 1000))] rfl)
  obtain ⟨m, history, hwaits, hstarted⟩ :
      ∃ m, History {} .tcp ["a"] 1 [["b"]] m ∧ m.Waits ∧ m.started = true :=
    ⟨_, idle, by decide +kernel, by decide +kernel⟩
  exact ⟨m, history, hwaits, hstarted, (lists_taken history hwaits).1 hstarted⟩

/-- **A list may be left while the monitor waits**, and not be in force in the next round:
before a startup round has succeeded. -/
theorem lists_left :
    (¬ ∀ {h probe backends capacity sent m}, History h probe backends capacity sent m →
      m.Waits → m.lists = []) ∧
    ¬ ∀ {h probe backends capacity sent m}, History h probe backends capacity sent m →
      m.Waits → m.Heeds (sent.getLastD backends) := by
  have begun := @start {} .tcp ["a"] 1
  have idle := begun.act
    (.startup (fun _ => some (.error (.connect "refused"))) rfl rfl (Nat.zero_le 0))
  obtain ⟨m, history, hwaits, hlists, hbackends, hplain⟩ :
      ∃ m, History {} .tcp ["a"] 1 [["b"]] m ∧ m.Waits ∧ m.lists = [["b"]] ∧
        m.backends = ["a"] ∧ m.isCluster = false :=
    ⟨_, idle.list ["b"], by decide +kernel, rfl, rfl, rfl⟩
  constructor
  · intro h
    have hnone := h history hwaits
    rw [hlists] at hnone
    contradiction
  · intro h
    have hlast := (h history hwaits).2 hplain
    rw [hbackends] at hlast
    exact absurd hlast (by decide)

end History

end StreamBalancer.Monitor
