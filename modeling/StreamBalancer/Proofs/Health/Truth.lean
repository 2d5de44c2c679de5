import Mathlib.Data.List.Sort
import StreamBalancer.Proofs.Health.Rounds

/-!
# StreamBalancer.Proofs.Health.Truth

What a snapshot says is what its round found, for the probes that ask each backend itself.

1. `Monitor.Round` is what there is to know of one round: the list in force, the answers that
   came in time, and what was sent.
2. `Monitor.Records` is one step of a monitor, with what it adds to the rounds.  A round begins
   with the answers that are there at once, and ends when every question has been answered or
   its time is over.  The steps of the program are such steps (`records_of_step?`).
3. A round finds the addresses that answered, each once and in one order, whatever the record of
   the round before and however often an address is on the list (`Round.mem_found`,
   `observe_plainRound`).
4. `Monitor.Accounts` holds at every moment: all rounds that are over have sent what they found,
   and the record is what the last one found.

* `Chronicle.truthful` — every snapshot is the truth of its round.
-/

namespace StreamBalancer.Monitor

/-! ## Rounds -/

/-- One round, as far as it has come. -/
structure Round where
  /-- Whether no round had sent a snapshot when it began. -/
  startup : Bool
  /-- The list in force. -/
  backends : List String
  /-- When it began. -/
  since : Nat
  /-- The answers that came in time, and when they came. -/
  replies : Galera.Query → Option (Nat × Except ProbeError Galera.NodeStatus)
  /-- The snapshots that it sent. -/
  posted : List Snapshot := []

namespace Round

/-- The questions of the round. -/
def asked (r : Round) : List Galera.Query := Galera.directorQueries 0 r.backends

/-- Whether a question was answered in time, and with success. -/
def isUp (r : Round) (q : Galera.Query) : Bool :=
  match r.replies q with
  | some (_, .ok _) => true
  | _ => false

/-- The round when more answers have come. -/
def hear (r : Round) (late : Galera.Query → Option (Nat × Except ProbeError Galera.NodeStatus)) :
    Round :=
  { r with replies := fun q => (r.replies q).or (late q) }

/-- The round when a snapshot is sent. -/
def post (r : Round) (snapshot : Snapshot) : Round := { r with posted := r.posted ++ [snapshot] }

/-- An address of the list that answered a probe in time. -/
def Answered (r : Round) (a : String) : Prop :=
  ∃ i t status, r.backends[i]? = some a ∧ r.replies (.director i a) = some (t, .ok status)

/-- The addresses that answered, in byte order and each once. -/
def found (r : Round) : List String :=
  Addresses.ofList ((r.asked.filter r.isUp).map Galera.Query.address)

theorem mem_asked (r : Round) (q : Galera.Query) :
    q ∈ r.asked ↔ ∃ i a, r.backends[i]? = some a ∧ q = .director i a := by
  simp only [asked, Galera.directorQueries, List.mem_map, Prod.exists]
  constructor
  · rintro ⟨a, i, hmem, rfl⟩
    exact ⟨i, a, List.mem_zipIdx_iff_getElem?.mp hmem, rfl⟩
  · rintro ⟨i, a, hget, rfl⟩
    exact ⟨a, i, List.mem_zipIdx_iff_getElem?.mpr hget, rfl⟩

theorem isUp_iff (r : Round) (q : Galera.Query) :
    r.isUp q = true ↔ ∃ t status, r.replies q = some (t, .ok status) := by
  unfold isUp
  split
  · next h => simp [h]
  · next h => simpa using h

/-- A round finds the addresses that answered. -/
theorem mem_found (r : Round) (a : String) : a ∈ r.found ↔ r.Answered a := by
  simp only [found, Addresses.mem_ofList, List.mem_map, List.mem_filter, mem_asked, isUp_iff]
  constructor
  · rintro ⟨_, ⟨⟨i, b, hget, rfl⟩, t, status, hreply⟩, rfl⟩
    exact ⟨i, t, status, hget, hreply⟩
  · rintro ⟨i, t, status, hget, hreply⟩
    exact ⟨_, ⟨⟨i, a, hget, rfl⟩, t, status, hreply⟩, rfl⟩

theorem found_eq_nil_iff (r : Round) : r.found = [] ↔ ¬ ∃ a, r.Answered a := by
  simp only [← mem_found, List.eq_nil_iff_forall_not_mem, not_exists]

end Round

/-- The record and the snapshot are what the round found, whatever the record was. -/
theorem observe_plainRound (record : HealthRecord) (r : Round) {answers : Galera.Answers}
    (hanswers : ∀ q ∈ r.asked, (answers q).isOk = r.isUp q) :
    record.observe (plainRound answers r.backends).results = (⟨r.found⟩, .ofHealthy r.found) := by
  have hresults : (plainRound answers r.backends).results =
      r.asked.map fun q => (q.address, Galera.verdict (answers q)) := rfl
  have hup : (Snapshot.mk (plainRound answers r.backends).results).healthy = r.found := by
    rw [Snapshot.healthy, Round.found, hresults]
    congr 1
    rw [List.filter_map, List.map_map]
    congr 1
    apply List.filter_congr
    intro q hq
    rw [← hanswers q hq]
    simp only [Function.comp, Galera.verdict]
    cases (answers q).isOk <;> rfl
  rw [HealthRecord.observe, hup]

variable {m m' : Monitor} {r : Round}

/-- The monitor when a round of given findings is answered. -/
def closing (m : Monitor) (r : Round) : Monitor :=
  if r.found = [] then ({ m with record := ⟨r.found⟩ } : Monitor).endRound false
  else { m with record := ⟨r.found⟩, activity := .sending (.ofHealthy r.found) }

@[simp] theorem asked_plainRound (answers : Galera.Answers) (r : Round) :
    (plainRound answers r.backends).asked = r.asked := rfl

theorem roundOf_of_plain (hplain : m.isCluster = false) (hbackends : r.backends = m.backends)
    (answers : Galera.Answers) : m.roundOf answers = plainRound answers r.backends := by
  rw [roundOf, if_neg (by simp [hplain]), hbackends]

theorem conclude_plainRound (hbackends : r.backends = m.backends) {answers : Galera.Answers}
    (hanswers : ∀ q ∈ r.asked, (answers q).isOk = r.isUp q) :
    m.conclude (plainRound answers r.backends) = m.closing r := by
  rw [conclude, observe_plainRound _ _ hanswers, closing]
  have hempty : (Snapshot.ofHealthy r.found).isEmpty = true ↔ r.found = [] := by
    simp [Snapshot.ofHealthy, Snapshot.isEmpty]
  have hdirectors : (plainRound answers r.backends).directors = m.backends := hbackends
  simp only [hempty, hdirectors]

theorem lookup_map {α β : Type} [BEq α] [LawfulBEq α] (f : α → β) (l : List α) (a : α) :
    (l.map fun b => (b, f b)).lookup a = if a ∈ l then some (f a) else none := by
  split
  · next hmem => exact List.lookup_graph f hmem
  · next hnot =>
    rw [List.lookup_eq_none_iff]
    intro p hp
    obtain ⟨b, hb, rfl⟩ := List.mem_map.mp hp
    simpa using fun hab : a = b => hnot (hab ▸ hb)

/-- The questions that a round waits for are those without an answer. -/
theorem openQuestions_of_plain (hplain : m.isCluster = false) (answering : Answering)
    (answered : List Answered) (asked : List Galera.Query) :
    m.openQuestions answering answered asked =
      (asked.filter (isOpen answering answered), asked) := by
  unfold openQuestions
  dsimp only
  split
  · next heq => simp [heq, hplain]
  · rfl

/-- A round is over when all questions have been answered. -/
theorem proceed_of_answered (hplain : m.isCluster = false) (hbackends : r.backends = m.backends)
    {answering : Answering} {answered : List Answered}
    (hclosed : ∀ q ∈ r.asked, isOpen answering answered q = false)
    (hanswers : ∀ q ∈ r.asked, (m.answerOf answering answered q).isOk = r.isUp q) :
    m.proceed answering answered = m.closing r := by
  have hnone : r.asked.filter (isOpen answering answered) = [] := by
    simpa [List.filter_eq_nil_iff] using hclosed
  rw [proceed, roundOf_of_plain hplain hbackends, openQuestions_of_plain hplain,
    asked_plainRound, hnone]
  exact conclude_plainRound hbackends hanswers

/-- Otherwise it waits for the others. -/
theorem proceed_of_unanswered (hplain : m.isCluster = false) (hbackends : r.backends = m.backends)
    {answering : Answering} {answered : List Answered}
    (hsome : r.asked.filter (isOpen answering answered) ≠ []) :
    ∃ known unanswered, m.proceed answering answered =
        { m with activity := .probing known unanswered (m.now + m.timeout) } ∧
      unanswered = r.asked.filter (isOpen answering answered) ∧
      ∀ q ∈ r.asked, known.lookup q =
        if q ∈ unanswered then none else some (m.answerOf answering answered q) := by
  obtain ⟨q₀, rest, hopen⟩ := List.exists_cons_of_ne_nil hsome
  rw [proceed, roundOf_of_plain hplain hbackends, openQuestions_of_plain hplain,
    asked_plainRound, hopen]
  refine ⟨_, _, rfl, rfl, fun q hq => ?_⟩
  have hknown : q ∈ (r.asked.filter fun q => !(q₀ :: rest).contains q) ↔ ¬ q ∈ q₀ :: rest := by
    simp [List.mem_filter, hq]
  rw [lookup_map]
  simp only [hknown, ite_not]

/-! ## Steps -/

/-- The round that begins now, with the answers that are there at once. -/
def beginning (m : Monitor) (startup : Bool) (answering : Answering) : Round where
  startup := startup
  backends := m.backends
  since := m.now
  replies q := (answering q.address).map (m.now, ·)

/-- A question with its late answer, or with the end of its time. -/
def outcome (m : Monitor) (late : Galera.Query → Option (Nat × Except ProbeError Galera.NodeStatus))
    (q : Galera.Query) : Answered :=
  (q, ((late q).map Prod.snd).getD (.error (.timeout m.timeout)))

/-- A step of a monitor, and the rounds after it, the last one first. -/
inductive Records (m : Monitor) : List Round → Monitor → List Round → Prop where
  /-- A startup round begins. -/
  | startup {rounds : List Round} (answering : Answering) (h : m.activity = .idle)
      (hstarted : m.started = false) (hdue : m.due ≤ m.now) :
      Records m rounds (m.proceed answering []) (m.beginning true answering :: rounds)
  /-- A regular round begins with a tick. -/
  | tick {rounds : List Round} (answering : Answering) (h : m.activity = .idle)
      (hstarted : m.started = true) (hdue : m.due ≤ m.now) :
      Records m rounds (m.tick answering) (m.beginning false answering :: rounds)
  /-- A regular round begins with a new list. -/
  | reload {rounds : List Round} (answering : Answering) {backends : List String}
      {rest : List (List String)} (h : m.activity = .idle) (hstarted : m.started = true)
      (htakes : m.takesLists = true) (hlists : m.lists = backends :: rest) :
      Records m rounds ({ m with backends, lists := rest }.proceed answering [])
        ({ m with backends, lists := rest }.beginning false answering :: rounds)
  /-- All questions have been answered, or their time is over. -/
  | finish {r : Round} {rounds : List Round} {answered : List Answered}
      {unanswered : List Galera.Query} {deadline : Nat} (answering : Answering)
      (late : Galera.Query → Option (Nat × Except ProbeError Galera.NodeStatus))
      (h : m.activity = .probing answered unanswered deadline)
      (hcame : ∀ q t x, late q = some (t, x) → r.since ≤ t ∧ t ≤ m.now ∧ t ≤ deadline)
      (hover : ∀ q ∈ unanswered, late q = none → deadline ≤ m.now) :
      Records m (r :: rounds)
        (m.proceed answering (answered ++ unanswered.map (m.outcome late)))
        (r.hear late :: rounds)
  /-- A snapshot is sent. -/
  | send {r : Round} {rounds : List Round} {snapshot : Snapshot}
      (h : m.activity = .sending snapshot) (hread : m.channel.isRead = true)
      (hroom : m.channel.queue.length < m.channel.capacity) :
      Records m (r :: rounds)
        ({ m with channel := { m.channel with
          queue := m.channel.queue ++ [snapshot] } }.endRound true)
        (r.post snapshot :: rounds)
  /-- Nobody takes a snapshot. -/
  | lose {rounds : List Round} {snapshot : Snapshot} (h : m.activity = .sending snapshot)
      (hread : m.channel.isRead = false) : Records m rounds (m.endRound false) rounds
  /-- The monitor stops. -/
  | stop {rounds : List Round} (h : m.activity = .idle) (hsignalled : m.signalled = true) :
      Records m rounds { m with activity := .stopped } rounds

/-- The steps of the program are such steps. -/
theorem records_of_step? {answering : Answering} (h : m.step? answering = some m')
    {rounds : List Round} (hrounds : m.activity ≠ .idle → rounds ≠ []) :
    ∃ rounds', m.Records rounds m' rounds' := by
  unfold step? at h
  split at h
  · contradiction
  · next answered unanswered deadline hactivity =>
    obtain ⟨r, rounds, rfl⟩ := List.exists_cons_of_ne_nil (hrounds (by simp [hactivity]))
    split at h
    · next hdeadline =>
      cases h
      exact ⟨_, .finish answering (fun _ => none) hactivity (fun _ _ _ hcame => nomatch hcame)
        fun _ _ _ => hdeadline⟩
    · contradiction
  · next snapshot hactivity =>
    obtain ⟨r, rounds, rfl⟩ := List.exists_cons_of_ne_nil (hrounds (by simp [hactivity]))
    split at h
    · next hread =>
      cases h
      exact ⟨_, .lose hactivity (by simpa using hread)⟩
    · next hread =>
      split at h
      · next hroom =>
        cases h
        exact ⟨_, .send hactivity (by simpa using hread) hroom⟩
      · contradiction
  · next hidle =>
    split at h
    · next hsignalled =>
      cases h
      exact ⟨_, .stop hidle hsignalled⟩
    · split at h
      · next hstarted =>
        split at h
        · next hdue =>
          cases h
          exact ⟨_, .tick answering hidle hstarted hdue⟩
        · split at h
          · next htakes hlists =>
            cases h
            exact ⟨_, .reload answering hidle hstarted htakes hlists⟩
          · contradiction
      · next hstarted =>
        split at h
        · next hdue =>
          cases h
          exact ⟨_, .startup answering hidle (by simpa using hstarted) hdue⟩
        · contradiction

/-! ## What holds at every moment -/

/-- What is so of a round that is over. -/
structure Round.Over (r : Round) (m : Monitor) : Prop where
  /-- While there is a reader, it has sent what it found, if it found anything. -/
  posted : m.channel.isRead = true →
    r.posted = if r.found = [] then [] else [.ofHealthy r.found]
  /-- A question without an answer was given its time. -/
  waited : ∀ q ∈ r.asked, r.replies q = none → r.since + m.timeout ≤ m.now
  /-- An answer came in its time. -/
  inTime : ∀ q t x, r.replies q = some (t, x) → r.since ≤ t ∧ t ≤ r.since + m.timeout

/-- A startup round has sent a snapshot. -/
def HasPosted (rounds : List Round) : Prop := ∃ r ∈ rounds, r.startup = true ∧ r.posted ≠ []

theorem hasPosted_cons (r : Round) (rounds : List Round) :
    HasPosted (r :: rounds) ↔ (r.startup = true ∧ r.posted ≠ []) ∨ HasPosted rounds :=
  List.exists_mem_cons_iff ..

/-- What is so of the rounds that are over. -/
structure Ledger (m : Monitor) (rounds : List Round) : Prop where
  plain : m.isCluster = false
  complete : ∀ r ∈ rounds, r.Over m
  started : m.started = true ↔ HasPosted rounds
  ordered : ∀ later r earlier, rounds = later ++ r :: earlier → r.startup = false →
    HasPosted earlier

/-- What is so of the round under way. -/
structure Underway (m : Monitor) (r : Round) : Prop where
  backends : r.backends = m.backends
  startup : r.startup = !m.started
  since : r.since ≤ m.now
  inTime : ∀ q t x, r.replies q = some (t, x) → r.since ≤ t ∧ t ≤ r.since + m.timeout
  posted : r.posted = []

/-- The monitor and the rounds agree. -/
inductive Accounts (m : Monitor) : List Round → Prop where
  /-- No round is under way; the record is what the last one found. -/
  | between {rounds : List Round} (hledger : Ledger m rounds)
      (hidle : m.activity = .idle ∨ m.activity = .stopped)
      (hrecord : ∀ r ∈ rounds.head?, m.record.up = r.found) : Accounts m rounds
  /-- The monitor waits for those questions that have no answer. -/
  | probing {r : Round} {past : List Round} {answered : List Answered}
      {unanswered : List Galera.Query} (hledger : Ledger m past) (hunder : Underway m r)
      (hactivity : m.activity = .probing answered unanswered (r.since + m.timeout))
      (hreplies : ∀ q ∈ r.asked, answered.lookup q = (r.replies q).map Prod.snd ∧
        (q ∈ unanswered ↔ r.replies q = none)) : Accounts m (r :: past)
  /-- The monitor sends what the round found. -/
  | sending {r : Round} {past : List Round} (hledger : Ledger m past) (hunder : Underway m r)
      (hactivity : m.activity = .sending (.ofHealthy r.found)) (hfound : r.found ≠ [])
      (hrecord : m.record.up = r.found)
      (hwaited : ∀ q ∈ r.asked, r.replies q = none → r.since + m.timeout ≤ m.now) :
      Accounts m (r :: past)

/-- What the ledger reads of the monitor. -/
structure Same (m m' : Monitor) : Prop where
  probe : m'.probe = m.probe
  timeout : m'.timeout = m.timeout
  read : m'.channel.isRead = true → m.channel.isRead = true
  now : m.now ≤ m'.now

theorem Round.Over.of_same (h : r.Over m) (hsame : Same m m') : r.Over m' where
  posted hread := h.posted (hsame.read hread)
  waited q hq hnone := by
    rw [hsame.timeout]
    exact Nat.le_trans (h.waited q hq hnone) hsame.now
  inTime := by
    rw [hsame.timeout]
    exact h.inTime

theorem Same.isCluster (hsame : Same m m') : m'.isCluster = m.isCluster := by
  simp only [Monitor.isCluster, hsame.probe]

theorem Ledger.of_same {rounds : List Round} (h : Ledger m rounds) (hsame : Same m m')
    (hstarted : m'.started = m.started) : Ledger m' rounds where
  plain := hsame.isCluster.trans h.plain
  complete r hr := (h.complete r hr).of_same hsame
  started := hstarted ▸ h.started
  ordered := h.ordered

/-- The round that was under way is over. -/
theorem Ledger.push {past : List Round} (h : Ledger m past) (hsame : Same m m')
    (hstartup : r.startup = !m.started) (hover : r.Over m')
    (hstarted : m'.started = true ↔ m.started = true ∨ r.posted ≠ []) :
    Ledger m' (r :: past) where
  plain := hsame.isCluster.trans h.plain
  complete := by
    rintro x hx
    obtain rfl | hx := List.mem_cons.mp hx
    · exact hover
    · exact (h.complete x hx).of_same hsame
  started := by
    rw [hstarted, hasPosted_cons, hstartup]
    cases hbefore : m.started with
    | true => simp [h.started.mp hbefore]
    | false =>
      have hnone : ¬ HasPosted past := fun hposted => by simp [h.started.mpr hposted] at hbefore
      simp [hnone]
  ordered later x earlier heq hx := by
    cases later with
    | nil =>
      cases heq
      exact h.started.mp (by simpa [hx] using hstartup.symm)
    | cons y later =>
      cases heq
      exact h.ordered later x earlier rfl hx

theorem activity_endRound (m : Monitor) (sent : Bool) : (m.endRound sent).activity = .idle := by
  unfold endRound
  split
  · rfl
  · split <;> rfl

theorem started_endRound (m : Monitor) (sent : Bool) :
    (m.endRound sent).started = (m.started || sent) := by
  unfold endRound
  split
  · next h => simp [h]
  · next h => cases sent <;> simp_all

theorem same_endRound (m : Monitor) (sent : Bool) :
    Same m (m.endRound sent) ∧ (m.endRound sent).record = m.record := by
  unfold endRound
  split
  · exact ⟨⟨rfl, rfl, id, Nat.le_refl _⟩, rfl⟩
  · split <;> exact ⟨⟨rfl, rfl, id, Nat.le_refl _⟩, rfl⟩

namespace Accounts

variable {rounds past : List Round}

/-- A round is answered: it has nothing to send, or sends what it found. -/
theorem closing (hledger : Ledger m past) (hunder : Underway m r)
    (hwaited : ∀ q ∈ r.asked, r.replies q = none → r.since + m.timeout ≤ m.now) :
    Accounts (m.closing r) (r :: past) := by
  unfold Monitor.closing
  split
  · next hfound =>
    obtain ⟨hsame, hrecord⟩ := same_endRound ({ m with record := ⟨r.found⟩ } : Monitor) false
    have hsame' : Same m (({ m with record := ⟨r.found⟩ } : Monitor).endRound false) :=
      ⟨hsame.probe, hsame.timeout, hsame.read, hsame.now⟩
    have hover : r.Over m :=
      { posted := fun _ => by rw [hunder.posted, if_pos hfound]
        waited := hwaited
        inTime := hunder.inTime }
    refine .between (hledger.push hsame' hunder.startup (hover.of_same hsame') ?_)
      (.inl (activity_endRound _ _)) fun x hx => ?_
    · rw [started_endRound]
      simp [hunder.posted]
    · cases hx
      rw [hrecord]
  · next hfound =>
    exact .sending (hledger.of_same ⟨rfl, rfl, id, Nat.le_refl _⟩ rfl)
      ⟨hunder.backends, hunder.startup, hunder.since, hunder.inTime, hunder.posted⟩ rfl hfound rfl
      hwaited

/-- A round begins. -/
theorem proceed (hledger : Ledger m past) {startup : Bool} (hstartup : startup = !m.started)
    (answering : Answering) :
    Accounts (m.proceed answering []) (m.beginning startup answering :: past) := by
  have hunder : Underway m (m.beginning startup answering) :=
    { backends := rfl
      startup := hstartup
      since := Nat.le_refl _
      inTime := by
        intro q t x hreply
        obtain ⟨_, -, heq⟩ := Option.map_eq_some_iff.mp hreply
        cases heq
        exact ⟨Nat.le_refl _, Nat.le_add_right _ _⟩
      posted := rfl }
  have hanswer : ∀ q, m.answerOf answering [] q =
      (answering q.address).getD (.error (.timeout m.timeout)) := fun _ => rfl
  have hreplies : ∀ q, (m.beginning startup answering).replies q =
      (answering q.address).map (m.now, ·) := fun _ => rfl
  have hopen : ∀ q, isOpen answering [] q = (answering q.address).isNone := fun _ => rfl
  by_cases hnone : (m.beginning startup answering).asked.filter (isOpen answering []) = []
  · have hclosed : ∀ q ∈ (m.beginning startup answering).asked, isOpen answering [] q = false := by
      simpa [List.filter_eq_nil_iff] using hnone
    rw [proceed_of_answered (r := m.beginning startup answering) hledger.plain rfl hclosed]
    · refine closing hledger hunder fun q hq hreply => ?_
      have hanswered := hclosed q hq
      rw [hreplies, Option.map_eq_none_iff] at hreply
      simp [hopen, hreply] at hanswered
    · intro q _
      rw [hanswer, Round.isUp, hreplies]
      rcases answering q.address with _ | (_ | _) <;> rfl
  · obtain ⟨known, unanswered, heq, rfl, hlookup⟩ :=
      proceed_of_unanswered (r := m.beginning startup answering) hledger.plain rfl hnone
    rw [heq]
    refine .probing (hledger.of_same ⟨rfl, rfl, id, Nat.le_refl _⟩ rfl)
      ⟨rfl, hstartup, hunder.since, hunder.inTime, rfl⟩ rfl fun q hq => ?_
    rw [hlookup q hq, hreplies, hanswer]
    simp only [List.mem_filter, hq, hopen, true_and]
    cases answering q.address <;> simp

/-- All questions have been answered, or their time is over. -/
theorem finish (h : Accounts m (r :: past)) {answered : List Answered}
    {unanswered : List Galera.Query} {deadline : Nat} (answering : Answering)
    {late : Galera.Query → Option (Nat × Except ProbeError Galera.NodeStatus)}
    (hactivity : m.activity = .probing answered unanswered deadline)
    (hcame : ∀ q t x, late q = some (t, x) → r.since ≤ t ∧ t ≤ m.now ∧ t ≤ deadline)
    (hover : ∀ q ∈ unanswered, late q = none → deadline ≤ m.now) :
    m.proceed answering (answered ++ unanswered.map (m.outcome late)) = m.closing (r.hear late) ∧
      Accounts (m.closing (r.hear late)) (r.hear late :: past) := by
  cases h with
  | between _ hidle => simp [hactivity] at hidle
  | sending _ _ hsending => simp [hactivity] at hsending
  | probing hledger hunder hprobing hreplies =>
    rw [hactivity] at hprobing
    cases hprobing
    have hheard : ∀ q, (r.hear late).replies q = (r.replies q).or (late q) := fun _ => rfl
    have hunder' : Underway m (r.hear late) :=
      { backends := hunder.backends
        startup := hunder.startup
        since := hunder.since
        inTime := by
          intro q t x hreply
          obtain hreply | ⟨-, hlate⟩ := Option.or_eq_some_iff.mp hreply
          · exact hunder.inTime q t x hreply
          · obtain ⟨hsince, -, hdeadline⟩ := hcame q t x hlate
            exact ⟨hsince, hdeadline⟩
        posted := hunder.posted }
    have hlookup : ∀ q ∈ r.asked, (answered ++ unanswered.map (m.outcome late)).lookup q =
        some ((((r.replies q).or (late q)).map Prod.snd).getD (.error (.timeout m.timeout))) := by
      intro q hq
      obtain ⟨hanswered, hmem⟩ := hreplies q hq
      have hmore : (unanswered.map (m.outcome late)).lookup q =
          if q ∈ unanswered then some (m.outcome late q).2 else none := lookup_map ..
      rw [List.lookup_append, hanswered, hmore]
      cases hreply : r.replies q with
      | some _ => rfl
      | none =>
        rw [if_pos (hmem.mpr hreply)]
        rfl
    constructor
    · refine proceed_of_answered hledger.plain hunder'.backends (fun q hq => ?_) fun q hq => ?_
      · rw [isOpen, hlookup q hq]
        rfl
      · rw [answerOf, hlookup q hq, Round.isUp, hheard]
        rcases (r.replies q).or (late q) with _ | ⟨_, _ | _⟩ <;> rfl
    · refine closing hledger hunder' fun q hq hreply => ?_
      obtain ⟨hearly, hlate⟩ := Option.or_eq_none_iff.mp hreply
      exact hover q ((hreplies q hq).2.mpr hearly) hlate

/-- A snapshot is sent. -/
theorem send (h : Accounts m (r :: past)) {snapshot : Snapshot}
    (hactivity : m.activity = .sending snapshot) :
    Accounts
      (({ m with channel := { m.channel with
        queue := m.channel.queue ++ [snapshot] } } : Monitor).endRound true)
      (r.post snapshot :: past) := by
  cases h with
  | between _ hidle => simp [hactivity] at hidle
  | probing _ _ hprobing => simp [hactivity] at hprobing
  | sending hledger hunder hsending hfound hrecord hwaited =>
    rw [hactivity] at hsending
    cases hsending
    obtain ⟨hsame, hkept⟩ := same_endRound ({ m with channel := { m.channel with
      queue := m.channel.queue ++ [.ofHealthy r.found] } } : Monitor) true
    have hsame' : Same m (({ m with channel := { m.channel with
        queue := m.channel.queue ++ [.ofHealthy r.found] } } : Monitor).endRound true) :=
      ⟨hsame.probe, hsame.timeout, hsame.read, hsame.now⟩
    have hover : (r.post (.ofHealthy r.found)).Over m :=
      { posted := fun _ => by
          have hsame : (r.post (.ofHealthy r.found)).found = r.found := rfl
          rw [hsame, if_neg hfound, Round.post, hunder.posted]
          rfl
        waited := hwaited
        inTime := hunder.inTime }
    refine .between (hledger.push hsame' hunder.startup (hover.of_same hsame') ?_)
      (.inl (activity_endRound _ _)) fun x hx => ?_
    · rw [started_endRound]
      simp [Round.post]
    · cases hx
      rw [hkept]
      exact hrecord

/-- Whoever leaves the round alone keeps the accounts. -/
theorem of_same (h : Accounts m rounds) (hsame : Same m m') (hactivity : m'.activity = m.activity)
    (hrecord : m'.record = m.record) (hstarted : m'.started = m.started)
    (hbackends : m'.backends = m.backends) : Accounts m' rounds := by
  have hunder : ∀ {r : Round}, Underway m r → Underway m' r := fun h =>
    { backends := h.backends.trans hbackends.symm
      startup := by rw [hstarted]; exact h.startup
      since := Nat.le_trans h.since hsame.now
      inTime := by rw [hsame.timeout]; exact h.inTime
      posted := h.posted }
  cases h with
  | between hledger hidle hfound =>
    refine .between (hledger.of_same hsame hstarted) ?_ ?_
    · rwa [hactivity]
    · rwa [hrecord]
  | probing hledger h hprobing hreplies =>
    refine .probing (hledger.of_same hsame hstarted) (hunder h) ?_ hreplies
    rw [hactivity, hsame.timeout]
    exact hprobing
  | sending hledger h hsending hfound hkept hwaited =>
    refine .sending (hledger.of_same hsame hstarted) (hunder h) (hactivity.trans hsending) hfound
      (by rw [hrecord]; exact hkept) fun q hq hnone => ?_
    rw [hsame.timeout]
    exact Nat.le_trans (hwaited q hq hnone) hsame.now

theorem ledger_of_idle (h : Accounts m rounds) (hidle : m.activity = .idle) : Ledger m rounds := by
  cases h with
  | between hledger => exact hledger
  | probing _ _ hactivity => simp [hidle] at hactivity
  | sending _ _ hactivity => simp [hidle] at hactivity

/-- Every step keeps the accounts. -/
theorem step (h : Accounts m rounds) {rounds' : List Round}
    (hstep : m.Records rounds m' rounds') : Accounts m' rounds' := by
  cases hstep with
  | startup answering hidle hstarted =>
    exact proceed (h.ledger_of_idle hidle) (by simp [hstarted]) answering
  | tick answering hidle hstarted =>
    refine proceed (m := { m with
      due := (if m.due + tickSlack < m.now then m.now else m.due) + m.interval }) ?_
      (by simp [hstarted]) answering
    exact (h.ledger_of_idle hidle).of_same ⟨rfl, rfl, id, Nat.le_refl _⟩ rfl
  | @reload _ _ backends rest hidle hstarted =>
    refine proceed (m := { m with backends, lists := rest }) ?_ (by simp [hstarted]) _
    exact (h.ledger_of_idle hidle).of_same ⟨rfl, rfl, id, Nat.le_refl _⟩ rfl
  | finish answering late hactivity hcame hover =>
    obtain ⟨heq, haccounts⟩ := h.finish answering hactivity hcame hover
    rwa [heq]
  | send hactivity => exact h.send hactivity
  | lose hactivity hread =>
    cases h with
    | between _ hidle => simp [hactivity] at hidle
    | probing _ _ hprobing => simp [hactivity] at hprobing
    | @sending r past hledger hunder hsending hfound hrecord hwaited =>
      obtain ⟨hsame, hkept⟩ := same_endRound m false
      have hover : r.Over m :=
        { posted := fun hsome => by simp [hread] at hsome
          waited := hwaited
          inTime := hunder.inTime }
      refine .between (hledger.push hsame hunder.startup (hover.of_same hsame) ?_)
        (.inl (activity_endRound _ _)) fun x hx => ?_
      · rw [started_endRound]
        simp [hunder.posted]
      · cases hx
        rw [hkept]
        exact hrecord
  | stop hidle =>
    cases h with
    | between hledger _ hrecord =>
      exact .between (hledger.of_same ⟨rfl, rfl, id, Nat.le_refl _⟩ rfl) (.inr rfl) hrecord
    | probing _ _ hactivity => simp [hidle] at hactivity
    | sending _ _ hactivity => simp [hidle] at hactivity

end Accounts

/-! ## Histories -/

/-- A monitor and its rounds, the last one first, while lists are sent, snapshots are read, the
clock moves, the reader goes away and the monitor is asked to stop. -/
inductive Chronicle (h : HealthCheckConfig) (probe : Probe) (backends : List String)
    (capacity : Nat) (takesLists : Bool) : Monitor → List Round → Prop where
  | start : Chronicle h probe backends capacity takesLists
      { ofConfig h probe backends with takesLists, channel := { capacity } } []
  /-- The monitor goes on. -/
  | step {m m' : Monitor} {rounds rounds' : List Round}
      (past : Chronicle h probe backends capacity takesLists m rounds)
      (step : m.Records rounds m' rounds') : Chronicle h probe backends capacity takesLists m' rounds'
  /-- A list is sent. -/
  | list {m : Monitor} {rounds : List Round}
      (past : Chronicle h probe backends capacity takesLists m rounds) (l : List String) :
      Chronicle h probe backends capacity takesLists (m.sendList l).2 rounds
  /-- The clock moves. -/
  | advance {m : Monitor} {rounds : List Round}
      (past : Chronicle h probe backends capacity takesLists m rounds) (ms : Nat) :
      Chronicle h probe backends capacity takesLists (m.advance ms) rounds
  /-- A snapshot is read. -/
  | read {m : Monitor} {rounds : List Round} {snapshot : Snapshot} {rest : List Snapshot}
      (past : Chronicle h probe backends capacity takesLists m rounds)
      (hqueue : m.channel.queue = snapshot :: rest) :
      Chronicle h probe backends capacity takesLists
        { m with channel := { m.channel with queue := rest } } rounds
  /-- The reader of snapshots is gone. -/
  | close {m : Monitor} {rounds : List Round}
      (past : Chronicle h probe backends capacity takesLists m rounds) :
      Chronicle h probe backends capacity takesLists m.closeChannel.2 rounds
  /-- The monitor is asked to stop. -/
  | signal {m : Monitor} {rounds : List Round}
      (past : Chronicle h probe backends capacity takesLists m rounds) :
      Chronicle h probe backends capacity takesLists m.signal.2 rounds

namespace Chronicle

variable {h : HealthCheckConfig} {probe : Probe} {backends : List String} {capacity : Nat}
  {takesLists : Bool} {rounds : List Round}

/-- **The accounts hold at every moment.** -/
theorem accounts (chronicle : Chronicle h probe backends capacity takesLists m rounds)
    (hplain : probe.service ≠ .galera) : Accounts m rounds := by
  induction chronicle with
  | start =>
    refine .between ?_ (.inl rfl) fun r hr => nomatch hr
    exact
      { plain := beq_false_of_ne hplain
        complete := fun r hr => nomatch hr
        started := by simp [HasPosted, ofConfig]
        ordered := fun later r earlier heq => by simp at heq }
  | step _ step ih => exact ih.step step
  | list _ l ih =>
    unfold sendList
    split
    · exact ih
    · exact ih.of_same ⟨rfl, rfl, id, Nat.le_refl _⟩ rfl rfl rfl rfl
  | advance _ ms ih =>
    exact ih.of_same ⟨rfl, rfl, id, Nat.le_add_right _ _⟩ rfl rfl rfl rfl
  | read _ _ ih | signal _ ih => exact ih.of_same ⟨rfl, rfl, id, Nat.le_refl _⟩ rfl rfl rfl rfl
  | close _ ih =>
    exact ih.of_same ⟨rfl, rfl, (nomatch ·), Nat.le_refl _⟩ rfl rfl rfl rfl

end Chronicle

/-- The rounds that are over. -/
def completed (m : Monitor) (rounds : List Round) : List Round :=
  match m.activity with
  | .probing .. | .sending _ => rounds.tail
  | .idle | .stopped => rounds

namespace Accounts

variable {rounds : List Round}

theorem completed (h : Accounts m rounds) : ∀ r ∈ m.completed rounds, r.Over m := by
  unfold Monitor.completed
  cases h with
  | between hledger hidle =>
    rcases hidle with hidle | hidle <;> simpa only [hidle] using hledger.complete
  | probing hledger _ hactivity | sending hledger _ hactivity =>
    rw [hactivity]
    exact hledger.complete

/-- Between two rounds, the record is what the last one found. -/
theorem record (h : Accounts m rounds) (hbetween : m.completed rounds = rounds) :
    ∀ r ∈ rounds.head?, m.record.up = r.found := by
  unfold Monitor.completed at hbetween
  cases h with
  | between _ _ hrecord => exact hrecord
  | probing _ _ hactivity => simp [hactivity] at hbetween
  | sending _ _ hactivity => simp [hactivity] at hbetween

/-- A regular round, over or under way, comes after a startup round that sent a snapshot. -/
theorem ordered (h : Accounts m rounds) :
    ∀ later r earlier, rounds = later ++ r :: earlier → r.startup = false →
      HasPosted earlier := by
  have hpush : ∀ {x : Round} {past : List Round}, Ledger m past → Underway m x →
      ∀ later r earlier, x :: past = later ++ r :: earlier → r.startup = false →
        HasPosted earlier := by
    intro x past hledger hunder later r earlier heq hregular
    cases later with
    | nil =>
      cases heq
      exact hledger.started.mp (by simpa [hregular] using hunder.startup.symm)
    | cons _ later =>
      cases heq
      exact hledger.ordered later r earlier rfl hregular
  cases h with
  | between hledger => exact hledger.ordered
  | probing hledger hunder => exact hpush hledger hunder
  | sending hledger hunder => exact hpush hledger hunder

/-- The monitor waits no longer than one timeout. -/
theorem deadline (h : Accounts m rounds) {answered : List Answered}
    {unanswered : List Galera.Query} {deadline : Nat}
    (hactivity : m.activity = .probing answered unanswered deadline) :
    deadline ≤ m.now + m.timeout := by
  cases h with
  | between _ hidle => simp [hactivity] at hidle
  | sending _ _ hsending => simp [hactivity] at hsending
  | probing _ hunder hprobing =>
    rw [hactivity] at hprobing
    cases hprobing
    exact Nat.add_le_add_right hunder.since _

end Accounts

/-- What a round that is over has told the scheduler. -/
structure Round.Truthful (r : Round) : Prop where
  /-- It has sent one snapshot if an address answered in time, and else none. -/
  sends : r.posted.length = 1 ↔ ∃ a, r.Answered a
  silent : r.posted = [] ↔ ¬ ∃ a, r.Answered a
  /-- The snapshot flags those addresses up, and names no others. -/
  tells : ∀ s ∈ r.posted, ∀ a flag, (a, flag) ∈ s.entries ↔ flag = .up ∧ r.Answered a
  /-- It names none of them twice. -/
  nodup : ∀ s ∈ r.posted, (s.entries.map Prod.fst).Nodup
  /-- It is what all results make that have the same addresses up, in whatever order and however
  often, and after whatever round before. -/
  insensitive : ∀ s ∈ r.posted, ∀ (record : HealthRecord) results,
    (∀ a, (a, .up) ∈ results ↔ r.Answered a) → (record.observe results).2 = s

/-- What a round that is over has told, while there is a reader. -/
theorem Round.Over.tells_truth (h : r.Over m) (hread : m.channel.isRead = true) : r.Truthful := by
  have hposted := h.posted hread
  have hsome : r.found = [] ↔ ¬ ∃ a, r.Answered a := r.found_eq_nil_iff
  have htold : ∀ s ∈ r.posted, s = .ofHealthy r.found := by
    intro s hs
    rw [hposted] at hs
    split at hs
    · cases hs
    · exact List.mem_singleton.mp hs
  constructor
  case sends =>
    rw [hposted, ← not_iff_not, ← hsome]
    split <;> simp_all
  case silent =>
    rw [hposted, ← hsome]
    split <;> simp_all
  case tells =>
    rintro s hs a flag
    rw [htold s hs, ← mem_found]
    simp [Snapshot.ofHealthy, and_comm, eq_comm]
  case nodup =>
    intro s hs
    have hkeys : (Snapshot.ofHealthy r.found).entries.map Prod.fst = r.found := by
      simp [Snapshot.ofHealthy, Function.comp_def]
    rw [htold s hs, hkeys]
    exact Addresses.nodup_ofList _
  case insensitive =>
    intro s hs record results hresults
    have hup : (Snapshot.mk results).healthy = r.found := by
      refine List.Pairwise.eq_of_mem_iff (Addresses.sorted_ofList _) (Addresses.sorted_ofList _)
        fun a => ?_
      have hmem := (Snapshot.mem_healthy ⟨results⟩ a).trans (hresults a)
      exact hmem.trans (r.mem_found a).symm
    rw [htold s hs, HealthRecord.observe, hup]

instance (a : Activity) (s : Snapshot) : Decidable (a = .sending s) :=
  match a with
  | .sending s' => decidable_of_iff (s' = s) (by simp)
  | .idle | .probing .. | .stopped => .isFalse (by simp)

namespace Chronicle

variable {h : HealthCheckConfig} {probe : Probe} {backends : List String} {capacity : Nat}
  {takesLists : Bool} {rounds : List Round}

/-- A snapshot is sent at once if there is room, and given up if nobody reads. -/
theorem ends_of_sending (chronicle : Chronicle h probe backends capacity takesLists m rounds)
    (hplain : probe.service ≠ .galera) (answering : Answering) {snapshot : Snapshot}
    (hactivity : m.activity = .sending snapshot)
    (hroom : m.channel.queue.length < m.channel.capacity) :
    ∃ m' rounds', m.step? answering = some m' ∧
      Chronicle h probe backends capacity takesLists m' rounds' ∧
      m'.completed rounds' = rounds' ∧ rounds'.length = rounds.length := by
  have hover : ∀ (m₀ : Monitor) (sent : Bool) (rounds : List Round),
      (m₀.endRound sent).completed rounds = rounds := fun m₀ sent rounds => by
    simp only [completed, activity_endRound]
  cases chronicle.accounts hplain with
  | between _ hidle => simp [hactivity] at hidle
  | probing _ _ hprobing => simp [hactivity] at hprobing
  | sending =>
    cases hread : m.channel.isRead with
    | true =>
      refine ⟨_, _, ?_, chronicle.step (.send hactivity hread hroom), hover _ _ _, rfl⟩
      simp [step?, hactivity, hread, hroom]
    | false =>
      refine ⟨_, _, ?_, chronicle.step (.lose hactivity hread), hover _ _ _, rfl⟩
      simp [step?, hactivity, hread]

theorem steps_of_step? {answering : Answering} (hstep : m.step? answering = some m') (n : Nat) :
    steps answering (n + 1) m = steps answering n m' := by
  rw [steps, hstep]

/-- **A round comes to its end.**  When the time of its questions is over and there is room in
the channel, a few steps of the program end the round under way and begin no other. -/
theorem ends (chronicle : Chronicle h probe backends capacity takesLists m rounds)
    (hplain : probe.service ≠ .galera) (answering : Answering)
    (htime : ∀ answered unanswered deadline, m.activity = .probing answered unanswered deadline →
      deadline ≤ m.now)
    (hroom : m.channel.queue.length < m.channel.capacity) :
    ∃ n rounds', Chronicle h probe backends capacity takesLists (steps answering n m) rounds' ∧
      (steps answering n m).completed rounds' = rounds' ∧ rounds'.length = rounds.length := by
  have haccounts := chronicle.accounts hplain
  cases haccounts with
  | between _ hidle =>
    refine ⟨0, _, chronicle, ?_, rfl⟩
    rcases hidle with hidle | hidle <;> simp [steps, completed, hidle]
  | sending _ _ hactivity =>
    obtain ⟨m', rounds', hstep, chronicle', hover, hlength⟩ :=
      chronicle.ends_of_sending hplain answering hactivity hroom
    refine ⟨1, rounds', ?_⟩
    rw [steps_of_step? hstep]
    exact ⟨chronicle', hover, hlength⟩
  | @probing r past answered unanswered _ _ hactivity =>
    have hdeadline := htime _ _ _ hactivity
    have hnone : ∀ (q : Galera.Query) (t : Nat) (x : Except ProbeError Galera.NodeStatus),
        (none : Option (Nat × Except ProbeError Galera.NodeStatus)) = some (t, x) →
          r.since ≤ t ∧ t ≤ m.now ∧ t ≤ r.since + m.timeout := nofun
    have hfinished := chronicle.step (.finish answering (fun _ => none) hactivity hnone
      fun _ _ _ => hdeadline)
    have hstep : m.step? answering = some (m.proceed answering
        (answered ++ unanswered.map (m.outcome fun _ => none))) := by
      simp only [step?, hactivity, if_pos hdeadline]
      rfl
    obtain ⟨hclosing, -⟩ :=
      (chronicle.accounts hplain).finish answering hactivity hnone fun _ _ _ => hdeadline
    rw [hclosing] at hstep hfinished
    by_cases hfound : (r.hear fun _ => none).found = []
    · rw [Monitor.closing, if_pos hfound] at hstep hfinished
      refine ⟨1, (r.hear fun _ => none) :: past, ?_⟩
      rw [steps_of_step? hstep]
      exact ⟨hfinished, by simp [steps, completed, activity_endRound], rfl⟩
    · rw [Monitor.closing, if_neg hfound] at hstep hfinished
      obtain ⟨m', rounds', hsent, chronicle', hover, hlength⟩ :=
        hfinished.ends_of_sending hplain answering rfl hroom
      refine ⟨2, rounds', ?_⟩
      rw [steps_of_step? hstep, steps_of_step? hsent]
      exact ⟨chronicle', hover, hlength⟩

/-- **Every snapshot is the truth of its round.**  Let the probe be one that asks each backend
itself, and let the scheduler be receiving.

* A round that is over has sent a snapshot if and only if an address of the list in force
  answered in time; the snapshot names exactly the addresses that did, all of them up.
* An answer counts if it came in its time, and a question is given all of its time.
* Between two rounds, the count of those up is the size of the last round's snapshot, and zero if
  it has sent none.
* A regular round begins only after a startup round has sent a snapshot.
* A round under way comes to its end as soon as the time of its questions is over, which it is at
  the latest one timeout from now, and the channel has room. -/
theorem truthful (chronicle : Chronicle h probe backends capacity takesLists m rounds)
    (hplain : probe.service ≠ .galera) (hread : m.channel.isRead = true) :
    (∀ r ∈ m.completed rounds, r.Truthful) ∧
    (∀ r ∈ m.completed rounds, ∀ i a, r.backends[i]? = some a →
      (∀ t x, r.replies (.director i a) = some (t, x) → r.since ≤ t ∧ t ≤ r.since + m.timeout) ∧
      (r.replies (.director i a) = none → r.since + m.timeout ≤ m.now)) ∧
    (m.completed rounds = rounds → ∀ r ∈ rounds.head?,
      m.record.upCount = (r.posted.map fun s => s.entries.length).sum) ∧
    (∀ later r earlier, rounds = later ++ r :: earlier → r.startup = false →
      HasPosted earlier) ∧
    (∀ answered unanswered deadline, m.activity = .probing answered unanswered deadline →
      deadline ≤ m.now + m.timeout) ∧
    ∀ answering, (∀ answered unanswered deadline,
        m.activity = .probing answered unanswered deadline → deadline ≤ m.now) →
      m.channel.queue.length < m.channel.capacity →
      ∃ n rounds', Chronicle h probe backends capacity takesLists (steps answering n m) rounds' ∧
        (steps answering n m).completed rounds' = rounds' ∧ rounds'.length = rounds.length := by
  have haccounts := chronicle.accounts hplain
  have hover := haccounts.completed
  refine ⟨fun r hr => (hover r hr).tells_truth hread, fun r hr i a hget => ⟨?_, ?_⟩, ?_,
    haccounts.ordered, fun _ _ _ => haccounts.deadline,
    fun answering htime hroom => chronicle.ends hplain answering htime hroom⟩
  · exact (hover r hr).inTime _
  · exact (hover r hr).waited _ ((r.mem_asked _).mpr ⟨i, a, hget, rfl⟩)
  · intro hbetween r hr
    have hmem : r ∈ m.completed rounds := by
      rw [hbetween]
      exact List.mem_of_mem_head? hr
    have hposted := (hover r hmem).posted hread
    rw [HealthRecord.upCount, haccounts.record hbetween r hr, hposted]
    split
    · next hfound => simp [hfound]
    · simp [Snapshot.ofHealthy]

/-- The address of the first list answers late, but in time.  The next list has an address twice,
which is up, and one that is down; of the last list nobody is up. -/
theorem truthful_of_three_rounds :
    ∃ m rounds, Chronicle {} .tcp ["a"] 2 true m rounds ∧
      Probe.tcp.service ≠ .galera ∧ m.channel.isRead = true ∧
      rounds.map Round.posted = [[], [.ofHealthy ["b"]], [.ofHealthy ["a"]]] ∧
      m.record.upCount = 0 ∧ ∀ r ∈ m.completed rounds, r.Truthful := by
  let silent : Answering := fun _ => none
  let onlyB : Answering := fun a =>
    some (if a = "b" then .ok {} else .error (.connect "refused"))
  have begun := @start {} .tcp ["a"] 2 true
  have probing := begun.step (.startup silent rfl rfl (Nat.zero_le 0))
  have found := (probing.advance 5).step
    (.finish silent (fun _ => some (5, .ok {})) rfl (by rintro _ _ _ ⟨⟩; decide) nofun)
  have sent := found.step (.send rfl rfl (by decide))
  -- a regular round over each of two new lists
  have again := (sent.list ["b", "a", "b"]).step (.reload onlyB rfl rfl rfl rfl)
  have resent := again.step (@Records.send _ _ _ (.ofHealthy ["b"]) (by decide +kernel)
    (by decide +kernel) (by decide +kernel))
  have idle := (resent.list ["a"]).step (@Records.reload _ _ onlyB ["a"] [] (by decide +kernel)
    (by decide +kernel) (by decide +kernel) (by decide +kernel))
  have hplain : Probe.tcp.service ≠ .galera := by decide
  obtain ⟨m, rounds, chronicle, hread, hposted, hbetween⟩ :
      ∃ m rounds, Chronicle {} .tcp ["a"] 2 true m rounds ∧ m.channel.isRead = true ∧
        rounds.map Round.posted = [[], [.ofHealthy ["b"]], [.ofHealthy ["a"]]] ∧
        m.activity = .idle :=
    ⟨_, _, idle, by decide +kernel, by decide +kernel, by decide +kernel⟩
  obtain ⟨htruthful, -, hcount, -⟩ := truthful chronicle hplain hread
  refine ⟨m, rounds, chronicle, hplain, hread, hposted, ?_, htruthful⟩
  obtain ⟨r, rest, rfl⟩ : ∃ r rest, rounds = r :: rest :=
    List.exists_cons_of_ne_nil (by rintro rfl; cases hposted)
  have hnone : r.posted = [] := by
    rw [List.map_cons, List.cons.injEq] at hposted
    exact hposted.1
  rw [hcount (by simp [Monitor.completed, hbetween]) r rfl, hnone]
  rfl

end Chronicle

end StreamBalancer.Monitor
