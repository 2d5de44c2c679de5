import StreamBalancer.Health.Probe
import StreamBalancer.Health.Snapshot

/-!
# StreamBalancer.Health.Monitor

The health monitor: rounds of probes over a list of backends, and snapshots for
the scheduler.

1. A round probes every backend at once.  With a cluster probe it is a discovery
   over the backends as directors, and their new order is kept.
2. A round with a healthy address sends a snapshot, and waits if the channel is
   full.  A channel that nobody reads takes nothing.
3. Until a first snapshot is sent, rounds follow each other after the startup
   delay, and new lists are not looked at.
4. From then on a round comes with every tick and with every new list.  A tick
   that comes late is followed by the next one a whole interval later.
5. The monitor stops only while it waits between rounds.

A probe that is not answered counts as failed when its time is over.  A director
that is asked holds up those behind it; all other probes of a round run side by
side.
-/

namespace StreamBalancer

/-- How an address answers a probe: `none` if it does not. -/
abbrev Answering := String → Option (Except ProbeError Galera.NodeStatus)

namespace Monitor

/-- A question of a round with its answer. -/
abbrev Answered := Galera.Query × Except ProbeError Galera.NodeStatus

/-- What the monitor is busy with. -/
inductive Activity where
  /-- It waits for the next round. -/
  | idle
  /-- It waits for answers to some questions until a point in time; others have
  been answered. -/
  | probing (answered : List Answered) (unanswered : List Galera.Query) (deadline : Nat)
  /-- It waits for room in the channel. -/
  | sending (snapshot : Snapshot)
  /-- It has stopped. -/
  | stopped
deriving Repr, Inhabited

/-- The channel to the scheduler. -/
structure Channel where
  /-- Most snapshots in it. -/
  capacity : Nat := 16
  /-- The snapshots in it, the oldest first. -/
  queue : List Snapshot := []
  /-- Whether somebody reads it. -/
  isRead : Bool := true
deriving Repr, Inhabited

end Monitor

/-- The health monitor.  Times are in milliseconds. -/
structure Monitor where
  /-- The probe. -/
  probe : Probe
  /-- Time between regular rounds. -/
  interval : Nat
  /-- Time for one probe. -/
  timeout : Nat
  /-- Time between startup rounds. -/
  startupRetry : Nat
  /-- The list in force. -/
  backends : List String
  /-- Whether it looks at new lists. -/
  takesLists : Bool := true
  /-- New lists that it has not looked at. -/
  lists : List (List String) := []
  /-- The verdicts of the last round. -/
  record : HealthRecord := {}
  /-- The channel to the scheduler. -/
  channel : Monitor.Channel := {}
  /-- Whether a startup round has sent a snapshot. -/
  started : Bool := false
  /-- When the next round is due. -/
  due : Nat := 0
  /-- What it is busy with. -/
  activity : Monitor.Activity := .idle
  /-- Whether it has been asked to stop. -/
  signalled : Bool := false
  /-- The clock. -/
  now : Nat := 0
deriving Repr, Inhabited

namespace Monitor

/-- The monitor of a configuration. -/
def ofConfig (h : HealthCheckConfig) (probe : Probe) (backends : List String) : Monitor :=
  { probe
    interval := 1000 * h.intervalSecs
    timeout := h.timeoutMs
    startupRetry := h.startupRetryMs
    backends }

/-- Whether the monitor has not stopped. -/
def isRunning (m : Monitor) : Bool :=
  match m.activity with
  | .stopped => false
  | _ => true

/-! ## Rounds -/

/-- A late tick moves the ticks after it if it is later than this. -/
def tickSlack : Nat := 5

/-- Whether the rounds are discoveries. -/
def isCluster (m : Monitor) : Bool := m.probe.service == .galera

/-- The round in which each backend is asked. -/
def plainRound (answers : Galera.Answers) (backends : List String) : Galera.Discovery :=
  let asked := backends.zipIdx.map fun (address, index) => Galera.Query.director index address
  { asked
    results := asked.map fun q => (q.address, Galera.verdict (answers q))
    directors := backends }

/-- The round that given answers make. -/
def roundOf (m : Monitor) (answers : Galera.Answers) : Galera.Discovery :=
  if m.isCluster then Galera.discover answers m.backends else plainRound answers m.backends

/-- The answer to a question: as given before, or as the address answers now, or
else a timeout. -/
def answerOf (m : Monitor) (answering : Answering) (answered : List Answered) : Galera.Answers :=
  fun q => (answered.lookup q).getD ((answering q.address).getD (.error (.timeout m.timeout)))

/-- Whether a question gets no answer. -/
def isOpen (answering : Answering) (answered : List Answered) (q : Galera.Query) : Bool :=
  (answered.lookup q).isNone && (answering q.address).isNone

/-- The questions that a round has to wait for next, and those asked by then. -/
def openQuestions (m : Monitor) (answering : Answering) (answered : List Answered)
    (asked : List Galera.Query) : List Galera.Query × List Galera.Query :=
  let unanswered := asked.filter (isOpen answering answered)
  match unanswered with
  | .director index address :: _ =>
    if m.isCluster then
      ([.director index address], asked.takeWhile (· ≠ .director index address))
    else (unanswered, asked)
  | _ => (unanswered, asked)

/-- After a round: when the next one is due. -/
def endRound (m : Monitor) (sent : Bool) : Monitor :=
  if m.started then { m with activity := .idle }
  else if sent then { m with activity := .idle, started := true, due := m.now + m.interval }
  else { m with activity := .idle, due := m.now + m.startupRetry }

/-- Take in the results of a round. -/
def conclude (m : Monitor) (round : Galera.Discovery) : Monitor :=
  match m.record.observe round.results with
  | (record, snapshot) =>
    let m := { m with backends := round.directors, record }
    if snapshot.isEmpty then m.endRound false else { m with activity := .sending snapshot }

/-- Go on with a round as far as there are answers. -/
def proceed (m : Monitor) (answering : Answering) (answered : List Answered) : Monitor :=
  let answers := m.answerOf answering answered
  let round := m.roundOf answers
  match m.openQuestions answering answered round.asked with
  | ([], _) => m.conclude round
  | (unanswered, asked) =>
    let known := (asked.filter fun q => !unanswered.contains q).map fun q => (q, answers q)
    { m with activity := .probing known unanswered (m.now + m.timeout) }

/-! ## Steps -/

/-- Begin a regular round with a tick. -/
def tick (m : Monitor) (answering : Answering) : Monitor :=
  { m with due := (if m.due + tickSlack < m.now then m.now else m.due) + m.interval }.proceed
    answering []

/-- The next step, `none` if the monitor has to wait. -/
def step? (m : Monitor) (answering : Answering) : Option Monitor :=
  match m.activity with
  | .stopped => none
  | .probing answered unanswered deadline =>
    if deadline ≤ m.now then
      some (m.proceed answering
        (answered ++ unanswered.map fun q => (q, .error (.timeout m.timeout))))
    else none
  | .sending snapshot =>
    if !m.channel.isRead then some (m.endRound false)
    else if m.channel.queue.length < m.channel.capacity then
      some (({ m with channel := { m.channel with queue := m.channel.queue ++ [snapshot] } }).endRound
        true)
    else none
  | .idle =>
    if m.signalled then some { m with activity := .stopped }
    else if m.started then
      if m.due ≤ m.now then some (m.tick answering)
      else
        match m.takesLists, m.lists with
        | true, backends :: rest => some ({ m with backends, lists := rest }.proceed answering [])
        | _, _ => none
    else if m.due ≤ m.now then some (m.proceed answering [])
    else none

/-- At most so many steps. -/
def steps (answering : Answering) : Nat → Monitor → Monitor
  | 0, m => m
  | n + 1, m =>
    match m.step? answering with
    | some m => steps answering n m
    | none => m

/-- Go on until the monitor waits.  A list makes a round of a few steps, and so
does a tick. -/
def settle (m : Monitor) (answering : Answering) : Monitor :=
  steps answering (4 * (m.lists.length + m.backends.length) + 16) m

/-- Read the channel until the monitor waits and it is empty, at most so often. -/
def drainSome (answering : Answering) : Nat → Monitor → List Snapshot × Monitor
  | 0, m => ([], m)
  | n + 1, m =>
    let m := m.settle answering
    if m.channel.queue.isEmpty then ([], m)
    else
      match drainSome answering n { m with channel := { m.channel with queue := [] } } with
      | (later, rest) => (m.channel.queue ++ later, rest)

/-- Go on, and read the channel as long as something comes. -/
def drain (m : Monitor) (answering : Answering) : List Snapshot × Monitor :=
  drainSome answering (m.lists.length + 8) m

/-! ## From outside -/

/-- Send a new list; false if nobody takes it.  A monitor without a use for lists
leaves them where they are. -/
def sendList (m : Monitor) (backends : List String) : Bool × Monitor :=
  if m.takesLists && !m.isRunning then (false, m)
  else (true, { m with lists := m.lists ++ [backends] })

/-- Nobody reads the channel any more; false if that was so before. -/
def closeChannel (m : Monitor) : Bool × Monitor :=
  (m.channel.isRead, { m with channel := { m.channel with isRead := false, queue := [] } })

/-- Ask the monitor to stop; false if it has stopped. -/
def signal (m : Monitor) : Bool × Monitor := (m.isRunning, { m with signalled := true })

/-- The monitor after it was asked to stop and has come to its end. -/
def halt (m : Monitor) : Monitor := { m with signalled := true, activity := .stopped }

/-- Move the clock. -/
def advance (m : Monitor) (ms : Nat) : Monitor := { m with now := m.now + ms }

end Monitor

namespace Probe

/-- How addresses answer a probe in time. -/
def answering (p : Probe) (outside : Surroundings) (limit : Nat) : Answering :=
  fun address => (p.attempt outside address).within limit

end Probe

end StreamBalancer
