import Mathlib.Data.List.Chain
import StreamBalancer.Proofs.Health.Rounds
import StreamBalancer.Proofs.Spacing

/-!
# StreamBalancer.Proofs.Health.Pace

How fast rounds follow each other.

1. `Monitor.Diary` is everything that can happen to a monitor, with its rounds, the last one
   first: why each began, when, and when it was over.
2. A startup round begins a delay after the one before it was over, and the first tick comes an
   interval after the startup round that has succeeded (`Monitor.Lap.Follows`).
3. Ticks come an interval apart, but for a slack that does not add up.  A round that takes longer
   than that is followed at once by the next one.
4. All of it holds of every diary (`Diary.paced`), and the program keeps one (`Diary.of_step?`).
-/

namespace StreamBalancer.Monitor

/-! ## Diaries -/

/-- Why a round begins. -/
inductive Cause where
  /-- No round has sent a snapshot. -/
  | startup
  /-- A tick. -/
  | tick
  /-- A new list. -/
  | list
deriving DecidableEq, Repr

/-- A round. -/
structure Lap where
  /-- Why it began. -/
  cause : Cause
  /-- When it began. -/
  began : Nat
  /-- When it was over, if it is. -/
  ended : Option Nat
deriving DecidableEq, Repr

/-- A round begins. -/
inductive Begins (m : Monitor) : Cause → Monitor → Prop where
  | startup (answering : Answering) (h : m.activity = .idle) (hstarted : m.started = false)
      (hdue : m.due ≤ m.now) : Begins m .startup (m.proceed answering [])
  | tick (answering : Answering) (h : m.activity = .idle) (hstarted : m.started = true)
      (hdue : m.due ≤ m.now) : Begins m .tick (m.tick answering)
  | list (answering : Answering) {backends : List String} {rest : List (List String)}
      (h : m.activity = .idle) (hstarted : m.started = true) (htakes : m.takesLists = true)
      (hlists : m.lists = backends :: rest) :
      Begins m .list ({ m with backends, lists := rest }.proceed answering [])

/-- Between two rounds a monitor can only begin one. -/
theorem Acts.begins {m m' : Monitor} (act : m.Acts m') (hidle : m.activity = .idle) :
    ∃ cause, m.Begins cause m' := by
  cases act with
  | startup answering _ hstarted hdue => exact ⟨_, .startup answering hidle hstarted hdue⟩
  | tick answering _ hstarted hdue => exact ⟨_, .tick answering hidle hstarted hdue⟩
  | reload answering _ hstarted htakes hlists =>
      exact ⟨_, .list answering hidle hstarted htakes hlists⟩
  | answer _ _ h | send h | lose h => simp [hidle] at h

/-- What others do to a monitor. -/
inductive Meets (m : Monitor) : Monitor → Prop where
  /-- A list is sent. -/
  | list (l : List String) : Meets m (m.sendList l).2
  /-- The clock moves. -/
  | advance (ms : Nat) : Meets m (m.advance ms)
  /-- A snapshot is read. -/
  | read {snapshot : Snapshot} {rest : List Snapshot} (hqueue : m.channel.queue = snapshot :: rest) :
      Meets m { m with channel := { m.channel with queue := rest } }
  /-- The reader of snapshots is gone. -/
  | close : Meets m m.closeChannel.2
  /-- The monitor is asked to stop. -/
  | signal : Meets m m.signal.2

/-- The present, if no round is under way. -/
def over? (m : Monitor) : Option Nat := if m.activity = .idle then some m.now else none

/-- A monitor and its rounds, the last one first. -/
inductive Diary (h : HealthCheckConfig) (probe : Probe) (backends : List String) :
    List Lap → Monitor → Prop where
  | start (takesLists : Bool) (capacity : Nat) :
      Diary h probe backends [] { ofConfig h probe backends with takesLists, channel := { capacity } }
  /-- A round begins, and may be over in the same step. -/
  | begin {laps : List Lap} {m m' : Monitor} {cause : Cause} (past : Diary h probe backends laps m)
      (begins : m.Begins cause m') :
      Diary h probe backends (⟨cause, m.now, m'.over?⟩ :: laps) m'
  /-- A round goes on. -/
  | act {lap : Lap} {laps : List Lap} {m m' : Monitor} (past : Diary h probe backends (lap :: laps) m)
      (hbusy : m.activity ≠ .idle) (act : m.Acts m') :
      Diary h probe backends ({ lap with ended := m'.over? } :: laps) m'
  /-- The monitor stops. -/
  | stop {laps : List Lap} {m : Monitor} (past : Diary h probe backends laps m)
      (hidle : m.activity = .idle) (hsignalled : m.signalled = true) :
      Diary h probe backends laps { m with activity := .stopped }
  /-- Somebody else acts. -/
  | meet {laps : List Lap} {m m' : Monitor} (past : Diary h probe backends laps m)
      (meets : m.Meets m') : Diary h probe backends laps m'

/-! ## What follows what -/

namespace Lap

/-- The rounds that did not begin with a new list. -/
def own (laps : List Lap) : List Lap := laps.filter fun l => l.cause ≠ .list

/-- When the rounds of one kind began. -/
def starts (cause : Cause) (laps : List Lap) : List Nat :=
  (laps.filter fun l => l.cause = cause).map Lap.began

/-- What there is between the end of a round and the begin of the next that no new list made. -/
structure Follows (retry interval : Nat) (next previous : Lap) : Prop where
  /-- It was over by then. -/
  finished : ∃ t, previous.ended = some t ∧ previous.began ≤ t ∧ t ≤ next.began
  /-- Startup rounds follow startup rounds, a delay after their end. -/
  startup : next.cause = .startup →
    previous.cause = .startup ∧ ∀ t, previous.ended = some t → t + retry ≤ next.began
  /-- The first tick comes an interval after the last startup round. -/
  first : next.cause = .tick → previous.cause = .startup →
    ∀ t, previous.ended = some t → t + interval ≤ next.began
  /-- The others come an interval after the tick before. -/
  tick : next.cause = .tick → previous.cause ≠ .startup →
    previous.began + interval ≤ next.began + tickSlack

/-- Whether there is a moment between the end of a round and the begin of the next. -/
def Apart (next previous : Lap) : Prop := ∃ t, previous.ended = some t ∧ t < next.began

/-- Whether a round is over well before the next tick. -/
def IsBrief (interval : Nat) (l : Lap) : Prop :=
  ∀ t, l.ended = some t → t + tickSlack < l.began + interval

/-- There is such a moment before a tick if the round before was brief. -/
theorem Follows.apart {retry interval : Nat} {next previous : Lap}
    (h : Follows retry interval next previous) (htick : next.cause = .tick) (hpos : 0 < interval)
    (hbrief : previous.IsBrief interval) : next.Apart previous := by
  obtain ⟨t, hended, -⟩ := h.finished
  refine ⟨t, hended, ?_⟩
  by_cases hcause : previous.cause = .startup
  · have := h.first htick hcause t hended
    omega
  · have := h.tick htick hcause
    have := hbrief t hended
    omega

/-- There is such a moment before a startup round if the delay is positive. -/
theorem Follows.apart_of_startup {retry interval : Nat} {next previous : Lap}
    (h : Follows retry interval next previous) (hstartup : next.cause = .startup)
    (hpos : 0 < retry) : next.Apart previous := by
  obtain ⟨t, hended, -⟩ := h.finished
  have hlater := (h.startup hstartup).2 t hended
  exact ⟨t, hended, by omega⟩

/-- Rounds as far apart as they should be. -/
structure Paced (retry interval : Nat) (laps : List Lap) : Prop where
  follows : (own laps).IsChain (Follows retry interval)
  startups : Spaced retry 0 (starts .startup laps)
  ticks : Spaced interval tickSlack (starts .tick laps)

/-- A round that is over. -/
def IsOver (now : Nat) (l : Lap) : Prop := ∃ t, l.ended = some t ∧ l.began ≤ t ∧ t ≤ now

theorem starts_cons (cause : Cause) (l : Lap) (laps : List Lap) :
    starts cause (l :: laps) =
      if l.cause = cause then l.began :: starts cause laps else starts cause laps := by
  unfold starts
  split <;> simp_all

theorem own_cons (l : Lap) (laps : List Lap) :
    own (l :: laps) = if l.cause = .list then own laps else l :: own laps := by
  unfold own
  split <;> simp_all

theorem mem_starts {cause : Cause} {laps : List Lap} {t : Nat} :
    t ∈ starts cause laps ↔ ∃ l ∈ laps, l.cause = cause ∧ l.began = t := by
  simp [starts, and_assoc]

theorem IsOver.later {now later : Nat} {l : Lap} (h : l.IsOver now) (hle : now ≤ later) :
    l.IsOver later := by
  obtain ⟨t, hended, hbegan, ht⟩ := h
  exact ⟨t, hended, hbegan, ht.trans hle⟩

/-- The last round without a new list, if it is no startup round, is the last that came with a
tick. -/
theorem starts_of_own {laps : List Lap} {l : Lap} (h : l ∈ (own laps).head?)
    (hcause : l.cause ≠ .startup) : ∃ earlier, starts .tick laps = l.began :: earlier := by
  induction laps with
  | nil => simp [own] at h
  | cons x laps ih =>
      rw [own_cons] at h
      rw [starts_cons]
      split at h
      · next hlist =>
        rw [if_neg (by simp [hlist])]
        exact ih h
      · next hlist =>
        obtain rfl := Option.some.inj h
        cases htick : x.cause with
        | startup => exact absurd htick hcause
        | list => exact absurd htick hlist
        | tick => exact ⟨_, if_pos rfl⟩

/-- Startup rounds follow each other also if the others are left out. -/
theorem startups_follow {retry interval : Nat} {laps : List Lap}
    (h : laps.IsChain (Follows retry interval)) :
    (laps.filter fun l => l.cause = .startup).IsChain (Follows retry interval) := by
  induction laps with
  | nil => exact .nil
  | cons l laps ih =>
      rw [List.isChain_cons] at h
      obtain ⟨hfirst, hrest⟩ := h
      by_cases hstartup : l.cause = .startup
      · rw [List.filter_cons_of_pos (by simpa using hstartup), List.isChain_cons]
        refine ⟨?_, ih hrest⟩
        cases laps with
        | nil => simp
        | cons previous laps =>
            have hfollows := hfirst previous rfl
            have hprevious := (hfollows.startup hstartup).1
            simpa [hprevious] using hfollows
      · rw [List.filter_cons_of_neg (by simpa using hstartup)]
        exact ih hrest

namespace Paced

variable {retry interval : Nat} {l : Lap} {laps : List Lap}

/-- There is a moment between any two startup rounds if the delay is positive. -/
theorem startups_apart (h : Paced retry interval laps) (hpos : 0 < retry) :
    (laps.filter fun l => l.cause = .startup).IsChain Apart := by
  have hown : laps.filter (fun l => l.cause = .startup) =
      (own laps).filter fun l => l.cause = .startup := by
    rw [own, List.filter_filter]
    refine List.filter_congr fun l _ => ?_
    cases l.cause <;> rfl
  rw [hown]
  refine (startups_follow h.follows).imp_of_mem_imp fun next previous hnext _ hfollows => ?_
  exact hfollows.apart_of_startup (by simpa using List.of_mem_filter hnext) hpos

/-- It does not matter when the last round is over. -/
theorem ended (h : Paced retry interval (l :: laps)) (t : Option Nat) :
    Paced retry interval ({ l with ended := t } :: laps) := by
  obtain ⟨hfollows, hstartups, hticks⟩ := h
  refine ⟨?_, by simpa [starts_cons] using hstartups, by simpa [starts_cons] using hticks⟩
  rw [own_cons] at hfollows ⊢
  by_cases hlist : l.cause = .list
  · simpa [hlist] using hfollows
  · rw [if_neg hlist, List.isChain_cons] at hfollows
    rw [if_neg (by exact hlist), List.isChain_cons]
    exact ⟨fun p hp => ⟨(hfollows.1 p hp).finished, (hfollows.1 p hp).startup, (hfollows.1 p hp).first,
      (hfollows.1 p hp).tick⟩, hfollows.2⟩

/-- A round that a new list made keeps no distance. -/
theorem list (h : Paced retry interval laps) (hlist : l.cause = .list) :
    Paced retry interval (l :: laps) := by
  obtain ⟨hfollows, hstartups, hticks⟩ := h
  constructor <;> simpa [own_cons, starts_cons, hlist]

end Paced

end Lap

/-! ## What holds at every moment -/

open Lap

/-- When the next tick may come. -/
structure NextTick (m : Monitor) (laps : List Lap) : Prop where
  ticks : ClearOf m.interval tickSlack (starts .tick laps) m.due
  first : ∀ l ∈ (own laps).head?, l.cause = .startup → ∀ t ∈ l.ended, t + m.interval ≤ m.due

/-- What is so of all rounds between two of them. -/
structure Between (m : Monitor) (laps : List Lap) : Prop where
  paced : Paced m.startupRetry m.interval laps
  finished : ∀ l ∈ laps, l.IsOver m.now
  fresh : m.started = false → ∀ l ∈ laps, l.cause = .startup
  retry : m.started = false → ∀ l ∈ laps.head?, ∀ t ∈ l.ended, t + m.startupRetry ≤ m.due
  next : m.started = true → m.NextTick laps

/-- What is so of a round under way and those before it. -/
structure Under (m : Monitor) (l : Lap) (laps : List Lap) : Prop where
  paced : Paced m.startupRetry m.interval (l :: laps)
  finished : ∀ l ∈ laps, l.IsOver m.now
  began : l.began ≤ m.now
  cause : l.cause = .startup ↔ m.started = false
  fresh : m.started = false → ∀ l ∈ laps, l.cause = .startup
  next : m.started = true → m.NextTick (l :: laps)

/-- What is so of the rounds at every moment. -/
inductive Timely (m : Monitor) : List Lap → Prop where
  | between {laps : List Lap} (hrest : m.activity = .idle ∨ m.activity = .stopped)
      (h : m.Between laps) : Timely m laps
  | under {l : Lap} {laps : List Lap} (hbusy : m.activity ≠ .idle ∧ m.activity ≠ .stopped)
      (h : m.Under l laps) : Timely m (l :: laps)

/-! ## Steps -/

/-- The delays between rounds. -/
def delays (m : Monitor) : Nat × Nat := (m.interval, m.startupRetry)

/-- Clock and delays. -/
def times (m : Monitor) : Nat × Nat × Nat := (m.now, m.delays)

/-- When the next round is due after one that is over. -/
def dueAfter (m : Monitor) (sent : Bool) : Nat :=
  if m.started then m.due else m.now + if sent then m.interval else m.startupRetry

/-- A round goes on, or is over. -/
inductive Carries (m m' : Monitor) : Prop where
  | on (htimes : m'.times = m.times) (hbusy : m'.activity ≠ .idle ∧ m'.activity ≠ .stopped)
      (hstarted : m'.started = m.started) (hdue : m'.due = m.due)
  | ends (sent : Bool) (htimes : m'.times = m.times) (hidle : m'.activity = .idle)
      (hstarted : m'.started = (m.started || sent)) (hdue : m'.due = m.dueAfter sent)

/-- A round is over that has changed neither clock nor delays. -/
theorem carries_endRound {m m₀ : Monitor} (htimes : m₀.times = m.times)
    (hstarted : m₀.started = m.started) (hdue : m₀.due = m.due) (sent : Bool) :
    m.Carries (m₀.endRound sent) := by
  obtain ⟨hnow, hinterval, hretry⟩ : m₀.now = m.now ∧ m₀.interval = m.interval ∧
      m₀.startupRetry = m.startupRetry := by simpa [times, delays] using htimes
  cases h : m.started with
  | true =>
      have hend : m₀.endRound sent = { m₀ with activity := .idle } := by simp [endRound, hstarted, h]
      rw [hend]
      exact .ends sent htimes rfl (by simp [hstarted, h]) (by simp [dueAfter, hdue, h])
  | false =>
      cases sent with
      | true =>
          have hend : m₀.endRound true =
              { m₀ with activity := .idle, started := true, due := m₀.now + m₀.interval } := by
            simp [endRound, hstarted, h]
          rw [hend]
          exact .ends true htimes rfl (by simp) (by simp [dueAfter, hnow, hinterval, h])
      | false =>
          have hend : m₀.endRound false =
              { m₀ with activity := .idle, due := m₀.now + m₀.startupRetry } := by
            simp [endRound, hstarted, h]
          rw [hend]
          exact .ends false htimes rfl (by simp [hstarted]) (by simp [dueAfter, hnow, hretry, h])

theorem carries_proceed (m : Monitor) (answering : Answering) (answered : List Answered) :
    m.Carries (m.proceed answering answered) := by
  unfold proceed
  dsimp only
  split
  · unfold conclude
    dsimp only
    split
    · exact carries_endRound (by rfl) (by rfl) (by rfl) false
    · exact .on rfl ⟨by simp, by simp⟩ rfl rfl
  · exact .on rfl ⟨by simp, by simp⟩ rfl rfl

/-- A round under way is carried further. -/
theorem Acts.carries {m m' : Monitor} (act : m.Acts m') (hbusy : m.activity ≠ .idle) :
    m.Carries m' := by
  cases act with
  | startup _ h | tick _ h | reload _ h => exact absurd h hbusy
  | answer answering more => exact m.carries_proceed answering _
  | send => exact carries_endRound (by rfl) (by rfl) (by rfl) true
  | lose => exact carries_endRound (by rfl) (by rfl) (by rfl) false

/-! ## Rounds under way -/

variable {m m' : Monitor} {l : Lap} {laps : List Lap}

/-- While there are only startup rounds, none came with a tick. -/
theorem starts_tick_of_fresh (h : ∀ l ∈ laps, l.cause = .startup) : starts .tick laps = [] := by
  rw [List.eq_nil_iff_forall_not_mem]
  intro t ht
  obtain ⟨x, hx, hcause, -⟩ := mem_starts.1 ht
  simp [h x hx] at hcause

/-- It does not matter when the last round is over, if it is no startup round. -/
theorem NextTick.ended (h : m.NextTick (l :: laps)) (hcause : l.cause ≠ .startup) (t : Option Nat) :
    m.NextTick ({ l with ended := t } :: laps) := by
  obtain ⟨hticks, hfirst⟩ := h
  refine ⟨by simpa [starts_cons] using hticks, fun x hx hstartup => ?_⟩
  rw [own_cons] at hfirst hx
  split at hx
  · next hlist =>
    rw [if_pos hlist] at hfirst
    exact hfirst x hx hstartup
  · obtain rfl := Option.some.inj hx
    exact absurd hstartup hcause

/-- The next tick after the startup round that has succeeded. -/
theorem NextTick.of_startup {t : Nat} (hcause : l.cause = .startup)
    (hfresh : ∀ l ∈ laps, l.cause = .startup) (hdue : t + m.interval ≤ m.due) :
    m.NextTick ({ l with ended := some t } :: laps) := by
  constructor
  · rw [starts_tick_of_fresh (by simpa [hcause] using hfresh)]
    exact .nil
  · intro x hx _ u hu
    rw [own_cons, if_neg (by simp [hcause])] at hx
    obtain rfl := Option.some.inj hx
    obtain rfl := Option.some.inj hu
    exact hdue

/-- **A round that goes on or is over leaves all rounds in time.** -/
theorem Under.carries (h : m.Under l laps) (carries : m.Carries m') :
    m'.Timely ({ l with ended := m'.over? } :: laps) := by
  obtain ⟨hnow, hinterval, hretry⟩ : m'.now = m.now ∧ m'.interval = m.interval ∧
      m'.startupRetry = m.startupRetry := by
    cases carries <;> simpa [times, delays] using ‹m'.times = m.times›
  have hpaced : Paced m'.startupRetry m'.interval ({ l with ended := m'.over? } :: laps) := by
    rw [hinterval, hretry]
    exact h.paced.ended _
  have hnext : m.started = true → m'.due = m.due →
      m'.NextTick ({ l with ended := m'.over? } :: laps) := by
    intro hstarted hdue
    have hcause : l.cause ≠ .startup := by simp [h.cause, hstarted]
    obtain ⟨hticks, hfirst⟩ := (h.next hstarted).ended hcause m'.over?
    constructor <;> rwa [hinterval, hdue]
  cases carries with
  | on _ hbusy hstarted hdue =>
      refine .under hbusy ⟨hpaced, ?_, ?_, ?_, ?_, fun h => hnext (hstarted ▸ h) hdue⟩
      · rw [hnow]
        exact h.finished
      · rw [hnow]
        exact h.began
      · rw [hstarted]
        exact h.cause
      · rw [hstarted]
        exact h.fresh
  | ends sent _ hidle hstarted hdue =>
      have hover : m'.over? = some m.now := by simp [over?, hidle, hnow]
      refine .between (.inl hidle) ⟨hpaced, ?_, fun hnot => ?_, fun hnot => ?_, fun hyes => ?_⟩
      · rw [hnow]
        exact List.forall_mem_cons.2 ⟨⟨m.now, hover, h.began, Nat.le_refl _⟩, h.finished⟩
      · have hfresh : m.started = false := by simp_all
        exact List.forall_mem_cons.2 ⟨h.cause.2 hfresh, h.fresh hfresh⟩
      · have hfresh : m.started = false := by simp_all
        have hsent : sent = false := by simp_all
        simp [hover, hdue, hretry, dueAfter, hfresh, hsent]
      · cases hm : m.started with
        | true => exact hnext hm (by simp [hdue, dueAfter, hm])
        | false =>
            have hsent : sent = true := by simp_all
            rw [hover]
            refine .of_startup (h.cause.2 hm) (h.fresh hm) ?_
            simp [hdue, dueAfter, hm, hsent, hinterval]

/-! ## Rounds that begin -/

/-- As long as there are only startup rounds, all of them count. -/
theorem own_of_fresh (h : ∀ l ∈ laps, l.cause = .startup) : own laps = laps := by
  refine List.filter_eq_self.2 fun l hl => ?_
  simp [h l hl]

namespace Between

/-- A startup round begins. -/
theorem startup (h : m.Between laps) (hstarted : m.started = false) (hdue : m.due ≤ m.now) :
    m.Under ⟨.startup, m.now, none⟩ laps := by
  have hretry : ∀ l ∈ laps.head?, ∃ t, l.ended = some t ∧ l.began ≤ t ∧ t + m.startupRetry ≤ m.now := by
    intro l hl
    obtain ⟨t, hended, hbegan, -⟩ := h.finished l (List.mem_of_mem_head? hl)
    exact ⟨t, hended, hbegan, (h.retry hstarted l hl t hended).trans hdue⟩
  refine ⟨⟨?_, ?_, ?_⟩, h.finished, Nat.le_refl _, by simp [hstarted], h.fresh, by simp [hstarted]⟩
  · rw [own_cons, if_neg (by simp), List.isChain_cons]
    refine ⟨fun l hl => ?_, h.paced.follows⟩
    rw [own_of_fresh (h.fresh hstarted)] at hl
    obtain ⟨t, hended, hbegan, hlater⟩ := hretry l hl
    refine ⟨⟨t, hended, hbegan, by dsimp only; omega⟩, fun _ => ?_, nofun, nofun⟩
    refine ⟨h.fresh hstarted l (List.mem_of_mem_head? hl), fun u hu => ?_⟩
    obtain rfl := Option.some.inj (hended.symm.trans hu)
    exact hlater
  · rw [starts_cons, if_pos rfl]
    refine ⟨?_, h.paced.startups⟩
    have hspaced := h.paced.startups
    cases laps with
    | nil => exact .nil
    | cons l laps =>
        obtain ⟨t, -, hbegan, hlater⟩ := hretry l rfl
        rw [starts_cons, if_pos (h.fresh hstarted l List.mem_cons_self)] at hspaced ⊢
        exact hspaced.1.cons (by dsimp only; omega) (by dsimp only; omega)
  · rw [starts_cons, if_neg (by simp)]
    exact h.paced.ticks

/-- A regular round begins with a tick, and the next one is put off by an interval. -/
theorem tick (h : m.Between laps) (hstarted : m.started = true) (hdue : m.due ≤ m.now) {due : Nat}
    (hgap : m.due + m.interval ≤ due) (hlatest : m.now + m.interval ≤ due + tickSlack) :
    ({ m with due } : Monitor).Under ⟨.tick, m.now, none⟩ laps := by
  obtain ⟨hticks, hfirst⟩ := h.next hstarted
  refine ⟨⟨?_, ?_, ?_⟩, h.finished, Nat.le_refl _, by simp [hstarted], h.fresh, fun _ => ⟨?_, ?_⟩⟩
  · rw [own_cons, if_neg (by simp), List.isChain_cons]
    refine ⟨fun l hl => ?_, h.paced.follows⟩
    have hmem : l ∈ laps := List.mem_of_mem_filter (List.mem_of_mem_head? hl)
    refine ⟨h.finished l hmem, nofun, fun _ hcause t ht => ?_, fun _ hcause => ?_⟩
    · exact (hfirst l hl hcause t ht).trans hdue
    · obtain ⟨earlier, hearlier⟩ := starts_of_own hl hcause
      rw [hearlier] at hticks
      have hhead := hticks.head_le
      dsimp only
      omega
  · rw [starts_cons, if_neg (by simp)]
    exact h.paced.startups
  · rw [starts_cons, if_pos rfl]
    exact ⟨hticks.mono hdue, h.paced.ticks⟩
  · rw [starts_cons, if_pos rfl]
    exact hticks.cons hlatest hgap
  · intro l hl hcause
    rw [own_cons, if_neg (by simp)] at hl
    obtain rfl := Option.some.inj hl
    contradiction

/-- A regular round begins with a new list. -/
theorem list (h : m.Between laps) (hstarted : m.started = true) (backends : List String)
    (lists : List (List String)) :
    ({ m with backends, lists } : Monitor).Under ⟨.list, m.now, none⟩ laps := by
  obtain ⟨hticks, hfirst⟩ := h.next hstarted
  refine ⟨h.paced.list rfl, h.finished, Nat.le_refl _, by simp [hstarted], h.fresh, fun _ => ⟨?_, ?_⟩⟩
  · rwa [starts_cons, if_neg (by simp)]
  · rwa [own_cons, if_pos rfl]

end Between

namespace Timely

/-- Between two rounds none is under way. -/
theorem resting (h : m.Timely laps) (hidle : m.activity = .idle) : m.Between laps := by
  cases h with
  | between _ h => exact h
  | under hbusy => exact absurd hidle hbusy.1

/-- **A round begins in time.** -/
theorem begins {cause : Cause} (h : m.Timely laps) (begins : m.Begins cause m') :
    m'.Timely (⟨cause, m.now, m'.over?⟩ :: laps) := by
  cases begins with
  | startup answering hidle hstarted hdue =>
      exact ((h.resting hidle).startup hstarted hdue).carries (carries_proceed m answering [])
  | tick answering hidle hstarted hdue =>
      refine ((h.resting hidle).tick hstarted hdue ?_ ?_).carries (carries_proceed _ answering [])
      · split <;> omega
      · split <;> omega
  | @list answering backends rest hidle hstarted =>
      exact ((h.resting hidle).list hstarted backends rest).carries (carries_proceed _ answering [])

/-- A round goes on in time. -/
theorem act (h : m.Timely (l :: laps)) (hbusy : m.activity ≠ .idle) (act : m.Acts m') :
    m'.Timely ({ l with ended := m'.over? } :: laps) := by
  cases h with
  | between hrest =>
      have hstopped : m.activity = .stopped := hrest.resolve_left hbusy
      cases act with
      | startup _ h | tick _ h | reload _ h | answer _ _ h | send h | lose h => simp [hstopped] at h
  | under _ h => exact h.carries (act.carries hbusy)

/-- Whoever leaves a monitor its rounds leaves them in time. -/
theorem of_same (h : m.Timely laps) (hactivity : m'.activity = m.activity)
    (hstarted : m'.started = m.started) (hdue : m'.due = m.due) (hinterval : m'.interval = m.interval)
    (hretry : m'.startupRetry = m.startupRetry) (hnow : m.now ≤ m'.now) : m'.Timely laps := by
  have hnext : ∀ {laps}, (m.started = true → m.NextTick laps) →
      m'.started = true → m'.NextTick laps := by
    intro laps h hyes
    obtain ⟨hticks, hfirst⟩ := h (hstarted ▸ hyes)
    constructor <;> rwa [hinterval, hdue]
  cases h with
  | between hrest h =>
      refine .between (by rwa [hactivity]) ⟨?_, fun l hl => (h.finished l hl).later hnow, ?_, ?_,
        hnext h.next⟩
      · rw [hinterval, hretry]
        exact h.paced
      · rw [hstarted]
        exact h.fresh
      · rw [hstarted, hretry, hdue]
        exact h.retry
  | under hbusy h =>
      refine .under (by rwa [hactivity]) ⟨?_, fun l hl => (h.finished l hl).later hnow,
        h.began.trans hnow, ?_, ?_, hnext h.next⟩
      · rw [hinterval, hretry]
        exact h.paced
      · rw [hstarted]
        exact h.cause
      · rw [hstarted]
        exact h.fresh

theorem meets (h : m.Timely laps) (meets : m.Meets m') : m'.Timely laps := by
  cases meets with
  | list l =>
      unfold sendList
      split
      · exact h
      · exact h.of_same rfl rfl rfl rfl rfl (Nat.le_refl _)
  | advance ms => exact h.of_same rfl rfl rfl rfl rfl (Nat.le_add_right ..)
  | read | close | signal => exact h.of_same rfl rfl rfl rfl rfl (Nat.le_refl _)

theorem stop (h : m.Timely laps) (hidle : m.activity = .idle) :
    ({ m with activity := .stopped } : Monitor).Timely laps := by
  obtain ⟨hpaced, hover, hfresh, hretry, hnext⟩ := h.resting hidle
  exact .between (.inr rfl) ⟨hpaced, hover, hfresh, hretry, fun hstarted =>
    ⟨(hnext hstarted).ticks, (hnext hstarted).first⟩⟩

theorem paced (h : m.Timely laps) : Paced m.startupRetry m.interval laps := by
  cases h with
  | between _ h => exact h.paced
  | under _ h => exact h.paced

end Timely

/-! ## Diaries are in time -/

theorem Carries.delays_eq (h : m.Carries m') : m'.delays = m.delays := by
  cases h with
  | on htimes | ends _ htimes => exact congrArg Prod.snd htimes

theorem Begins.delays_eq {cause : Cause} (begins : m.Begins cause m') : m'.delays = m.delays := by
  cases begins with
  | startup answering | tick answering | list answering =>
      exact (carries_proceed _ answering []).delays_eq

theorem Meets.delays_eq (meets : m.Meets m') : m'.delays = m.delays := by
  cases meets with
  | list l =>
      unfold sendList
      split <;> rfl
  | advance | read | close | signal => rfl

namespace Diary

variable {h : HealthCheckConfig} {probe : Probe} {backends : List String}

/-- Delays are those of the configuration. -/
theorem delays_eq (diary : Diary h probe backends laps m) :
    m.delays = (1000 * h.intervalSecs, h.startupRetryMs) := by
  induction diary with
  | start => rfl
  | begin _ begins ih => exact begins.delays_eq.trans ih
  | act _ hbusy act ih => exact (act.carries hbusy).delays_eq.trans ih
  | stop _ _ _ ih => exact ih
  | meet _ meets ih => exact meets.delays_eq.trans ih

/-- **Rounds are in time at every moment.** -/
theorem timely (diary : Diary h probe backends laps m) : m.Timely laps := by
  induction diary with
  | start => exact .between (.inl rfl) ⟨⟨.nil, trivial, trivial⟩, nofun, nofun, nofun, nofun⟩
  | begin _ begins ih => exact ih.begins begins
  | act _ hbusy act ih => exact ih.act hbusy act
  | stop _ hidle _ ih => exact ih.stop hidle
  | meet _ meets ih => exact ih.meets meets

/-- **Rounds are as far apart as the configuration says.** -/
theorem paced (diary : Diary h probe backends laps m) :
    Paced h.startupRetryMs (1000 * h.intervalSecs) laps := by
  obtain ⟨hinterval, hretry⟩ := Prod.mk.inj diary.delays_eq
  rw [← hinterval, ← hretry]
  exact diary.timely.paced

/-- The steps of the program are such steps. -/
theorem of_step? {answering : Answering} (diary : Diary h probe backends laps m)
    (hstep : m.step? answering = some m') : ∃ laps', Diary h probe backends laps' m' := by
  by_cases hidle : m.activity = .idle
  · by_cases hsignalled : m.signalled = true
    · obtain rfl : { m with activity := .stopped } = m' := by
        simpa [step?, hidle, hsignalled] using hstep
      exact ⟨_, diary.stop hidle hsignalled⟩
    · obtain ⟨cause, begins⟩ := (acts_of_step? (fun _ => by simpa using hsignalled) hstep).begins hidle
      exact ⟨_, diary.begin begins⟩
  · have act : m.Acts m' := acts_of_step? (fun h => absurd h hidle) hstep
    cases laps with
    | nil =>
        -- a monitor without rounds has stopped if it does not wait for the first one
        cases diary.timely with
        | between hrest =>
            have hstopped := hrest.resolve_left hidle
            simp [step?, hstopped] at hstep
    | cons l laps => exact ⟨_, diary.act hidle act⟩

end Diary

end StreamBalancer.Monitor
