import Mathlib.Data.List.Perm.Basic
import Mathlib.Logic.Function.Iterate
import StreamBalancer.Health.Galera
import StreamBalancer.Proofs.Interleaving.Stretch

/-!
# StreamBalancer.Proofs.Health.Discovery

Rounds of discovery, and what becomes of them in a cluster that does not change.

1. A round gives one verdict per question (`results_eq`).  It passes over directors
   that name no members up to the first one that does (`discover_cases`).
2. The director that named members is asked first in the next round, which is then over
   with it and its members.  A connected director that was passed over is therefore up in
   the first round and, unless it is a member, not in the second one (`not_steady`).
3. Nothing else changes: the first round finds what the second one finds and the
   directors passed over, all rounds from the second one on are the same, and the
   scheduler gives up no instance but theirs (`steady_from_second`).
-/

namespace StreamBalancer

namespace Galera

/-! ## One round -/

section Round

variable (answers : Answers)

/-- The members that an answer names. -/
def named : Except ProbeError NodeStatus → List String
  | .ok status => status.incoming
  | .error _ => []

/-- The questions to directors, the first of which has position `index`. -/
def directorQueries (index : Nat) (directors : List String) : List Query :=
  (directors.zipIdx index).map fun (address, i) => .director i address

/-- One verdict per question. -/
def verdicts (asked : List Query) : List (String × Health) :=
  asked.map fun q => (q.address, verdict (answers q))

@[simp] theorem address_directorQueries (index : Nat) (directors : List String) :
    (directorQueries index directors).map Query.address = directors := by
  simp [directorQueries, Function.comp_def, Query.address]

@[simp] theorem address_memberQueries (director : String) (incoming : List String) :
    (memberQueries director incoming).map Query.address = incoming.filter (· ≠ director) := by
  simp [memberQueries, Function.comp_def, Query.address]

theorem verdict_of_named {answer : Except ProbeError NodeStatus} (h : named answer ≠ []) :
    verdict answer = .up := by
  cases answer with
  | ok => rfl
  | error => contradiction

theorem askDirectors_of_named (directors : List String) (index : Nat) {director : String}
    (h : named (answers (.director index director)) ≠ []) (rest : List String) :
    askDirectors answers directors index (director :: rest) =
      let members := memberQueries director (named (answers (.director index director)))
      { asked := .director index director :: members
        results := verdicts answers (.director index director :: members)
        directors := promote index directors } := by
  have hup := verdict_of_named h
  simp only [verdicts, List.map_cons, hup]
  rw [askDirectors]
  cases hanswer : answers (.director index director) with
  | error e =>
      rw [hanswer] at h
      contradiction
  | ok status =>
      obtain ⟨connected, incoming⟩ := status
      rw [hanswer] at h
      cases incoming with
      | nil => contradiction
      | cons => rfl

theorem askDirectors_of_unnamed (directors : List String) {index : Nat} {director : String}
    (h : named (answers (.director index director)) = []) (rest : List String) :
    askDirectors answers directors index (director :: rest) =
      let later := askDirectors answers directors (index + 1) rest
      { later with
        asked := .director index director :: later.asked
        results := verdicts answers [.director index director] ++ later.results } := by
  rw [askDirectors]
  cases hanswer : answers (.director index director) with
  | error e => simp [verdicts, hanswer, Query.address]
  | ok status =>
      obtain ⟨connected, incoming⟩ := status
      rw [hanswer] at h
      cases incoming with
      | nil => simp [verdicts, hanswer, Query.address]
      | cons => contradiction

/-- Directors that name no members are passed over. -/
theorem askDirectors_append (directors : List String) {passed : List String} (index : Nat)
    (h : ∀ q ∈ directorQueries index passed, named (answers q) = []) (rest : List String) :
    askDirectors answers directors index (passed ++ rest) =
      let later := askDirectors answers directors (index + passed.length) rest
      { later with
        asked := directorQueries index passed ++ later.asked
        results := verdicts answers (directorQueries index passed) ++ later.results } := by
  induction passed generalizing index with
  | nil => rfl
  | cons director passed ih =>
      have hhead := h (.director index director) List.mem_cons_self
      have htail := ih (index + 1) fun q hq => h q (List.mem_cons_of_mem _ hq)
      rw [List.cons_append, askDirectors_of_unnamed answers directors hhead, htail,
        List.length_cons, Nat.add_right_comm index 1, Nat.add_assoc index]
      rfl

/-- Either nobody in a list names members, or somebody is the first to do so. -/
theorem exists_first_named (index : Nat) (directors : List String) :
    (∀ q ∈ directorQueries index directors, named (answers q) = []) ∨
    ∃ passed director rest, directors = passed ++ director :: rest ∧
      (∀ q ∈ directorQueries index passed, named (answers q) = []) ∧
      named (answers (.director (index + passed.length) director)) ≠ [] := by
  induction directors generalizing index with
  | nil => exact .inl fun q hq => absurd hq List.not_mem_nil
  | cons director rest ih =>
      by_cases hnamed : named (answers (.director index director)) = []
      · obtain hnone | ⟨passed, first, later, rfl, hpassed, hfirst⟩ := ih (index + 1)
        · exact .inl (List.forall_mem_cons.2 ⟨hnamed, hnone⟩)
        · refine .inr ⟨director :: passed, first, later, rfl,
            List.forall_mem_cons.2 ⟨hnamed, hpassed⟩, ?_⟩
          rwa [List.length_cons, Nat.add_comm passed.length, ← Nat.add_assoc]
      · exact .inr ⟨[], director, rest, rfl, fun q hq => absurd hq List.not_mem_nil, hnamed⟩

/-- **A round** asks all directors in vain, or passes over some, asks the first one that
names members, puts it to the front and asks those members. -/
theorem discover_cases (directors : List String) :
    ((∀ q ∈ directorQueries 0 directors, named (answers q) = []) ∧
      discover answers directors =
        { asked := directorQueries 0 directors
          results := verdicts answers (directorQueries 0 directors)
          directors }) ∨
    ∃ passed director rest, directors = passed ++ director :: rest ∧
      (∀ q ∈ directorQueries 0 passed, named (answers q) = []) ∧
      named (answers (.director passed.length director)) ≠ [] ∧
      let asked := directorQueries 0 passed ++ .director passed.length director ::
        memberQueries director (named (answers (.director passed.length director)))
      discover answers directors =
        { asked, results := verdicts answers asked, directors := promote passed.length directors } := by
  obtain hnone | ⟨passed, director, rest, rfl, hpassed, hnamed⟩ :=
    exists_first_named answers 0 directors
  · refine .inl ⟨hnone, ?_⟩
    have hround := askDirectors_append answers directors 0 hnone []
    rw [List.append_nil] at hround
    rw [discover, hround]
    simp [askDirectors]
  · rw [Nat.zero_add] at hnamed
    refine .inr ⟨passed, director, rest, rfl, hpassed, hnamed, ?_⟩
    rw [discover, askDirectors_append answers _ 0 hpassed, Nat.zero_add,
      askDirectors_of_named answers _ _ hnamed]
    simp [verdicts]

/-- One verdict is given per question. -/
theorem results_eq (directors : List String) :
    (discover answers directors).results = verdicts answers (discover answers directors).asked := by
  obtain ⟨-, hround⟩ | ⟨passed, director, rest, -, -, -, hround⟩ := discover_cases answers directors
  · rw [hround]
  · rw [hround]

end Round

/-! ## The list of directors -/

@[simp] theorem promote_zero (directors : List String) : promote 0 directors = directors := by
  cases directors <;> rfl

/-- A director goes to the front, and all others stay in the list. -/
theorem promote_cases (passed : List String) (director : String) (rest : List String) :
    ∃ others, promote passed.length (passed ++ director :: rest) = director :: others ∧
      others.Perm (passed ++ rest) := by
  cases passed with
  | nil => exact ⟨rest, by simp, .rfl⟩
  | cons first passed =>
      refine ⟨passed ++ first :: rest, ?_, List.perm_middle⟩
      simp [promote, List.set_append_right]

/-- **A round keeps all directors.** -/
theorem discover_perm (answers : Answers) (directors : List String) :
    (discover answers directors).directors.Perm directors := by
  obtain ⟨-, hround⟩ | ⟨passed, director, rest, rfl, -, -, hround⟩ := discover_cases answers directors
  · rw [hround]
  · obtain ⟨others, hpromote, hperm⟩ := promote_cases passed director rest
    rw [hround, hpromote]
    exact (hperm.cons director).trans List.perm_middle.symm

/-! ## A steady cluster -/

section Steady

variable (node : String → Except ProbeError NodeStatus)

/-- The answers of nodes each of which always says the same. -/
def steadily : Answers := fun q => node q.address

/-- A director that a round passes over although it is connected. -/
def PassedOver (directors : List String) (a : String) : Prop :=
  a ∈ directors.takeWhile (fun d => named (node d) = []) ∧ (node a).isOk = true

instance (directors : List String) (a : String) : Decidable (PassedOver node directors a) :=
  inferInstanceAs (Decidable (_ ∧ _))

/-- An address is up if it was asked and is connected. -/
theorem mem_verdicts_steadily (asked : List Query) (a : String) :
    (a, .up) ∈ verdicts (steadily node) asked ↔
      a ∈ asked.map Query.address ∧ (node a).isOk = true := by
  have hup : ∀ answer : Except ProbeError NodeStatus, verdict answer = .up ↔ answer.isOk = true := by
    intro answer
    cases answer <;> simp [verdict, Health.ofBool, Except.isOk, Except.toBool]
  simp only [verdicts, steadily, List.mem_map, Prod.mk.injEq, hup]
  constructor
  · rintro ⟨q, hq, rfl, hok⟩
    exact ⟨⟨q, hq, rfl⟩, hok⟩
  · rintro ⟨⟨q, hq, rfl⟩, hok⟩
    exact ⟨q, hq, rfl, hok⟩

/-- A round whose first director names members asks it and them. -/
theorem discover_of_named {director : String} (h : named (node director) ≠ [])
    (rest : List String) :
    let asked := .director 0 director :: memberQueries director (named (node director))
    discover (steadily node) (director :: rest) =
      { asked, results := verdicts (steadily node) asked, directors := director :: rest } := by
  have hround := askDirectors_of_named (steadily node) (director :: rest) 0 h rest
  rw [promote_zero] at hround
  exact hround

/-- The first round finds what the second one finds, and the directors passed over; the
second one leaves the list of directors as it is. -/
theorem second_round (directors : List String) :
    let first := discover (steadily node) directors
    let second := discover (steadily node) first.directors
    (∀ a, (a, .up) ∈ first.results ↔ (a, .up) ∈ second.results ∨ PassedOver node directors a) ∧
      second.directors = first.directors := by
  obtain ⟨hnone, hround⟩ | ⟨passed, director, rest, rfl, hpassed, hnamed, hround⟩ :=
    discover_cases (steadily node) directors
  · -- nobody names members, and the second round is the first one once more
    dsimp only
    rw [hround]
    dsimp only
    rw [hround]
    refine ⟨fun a => ?_, rfl⟩
    have hup := mem_verdicts_steadily node (directorQueries 0 directors) a
    rw [address_directorQueries] at hup
    refine ⟨.inl, fun h => h.elim id fun hpassed => hup.2 ⟨?_, hpassed.2⟩⟩
    exact List.takeWhile_subset _ hpassed.1
  · obtain ⟨others, hpromote, -⟩ := promote_cases passed director rest
    replace hnamed : named (node director) ≠ [] := hnamed
    have hsecond := discover_of_named node hnamed others
    have hunnamed : ∀ d ∈ passed, named (node d) = [] := by
      intro d hd
      rw [← address_directorQueries 0 passed, List.mem_map] at hd
      obtain ⟨q, hq, rfl⟩ := hd
      exact hpassed q hq
    have htake : (passed ++ director :: rest).takeWhile (fun d => named (node d) = []) = passed := by
      rw [List.takeWhile_append_of_pos fun d hd => decide_eq_true (hunnamed d hd),
        List.takeWhile_cons_of_neg (by simpa using hnamed), List.append_nil]
    dsimp only
    rw [hround]
    dsimp only
    rw [hpromote, hsecond]
    refine ⟨fun a => ?_, rfl⟩
    rw [mem_verdicts_steadily, mem_verdicts_steadily, PassedOver, htake, List.map_append,
      address_directorQueries, List.mem_append, or_and_right, or_comm]
    rfl

end Steady

end Galera

namespace HealthRecord

/-- A snapshot holds the addresses that a round found up. -/
theorem mem_observe (record : HealthRecord) (results : List (String × Health)) (a : String) :
    (a, .up) ∈ (record.observe results).2.entries ↔ (a, .up) ∈ results := by
  have hentries : (record.observe results).2.entries =
      (Snapshot.mk results).healthy.map (·, .up) := rfl
  rw [hentries, List.mem_map]
  simp only [Prod.mk.injEq, and_true, exists_eq_right]
  exact Snapshot.mem_healthy ⟨results⟩ a

end HealthRecord

namespace Galera

open Scheduler World

/-- What a scheduler whose last snapshot came from the first round gives up after the second
one was passed over in the first. -/
theorem gone_of_second {settings : Settings} {permits : Nat} {w : World} {past : List World}
    (life : Life settings permits (w :: past)) (hrest : w.tasks = [])
    (node : String → Except ProbeError NodeStatus) (directors : List String)
    (record record' : HealthRecord)
    (hlast : lastUp (w :: past) =
      some (record.observe (discover (steadily node) directors).results).2) :
    ∀ a ∈ w.scheduler.gone (record'.observe (discover (steadily node)
      (discover (steadily node) directors).directors).results).2.healthy,
      PassedOver node directors a := by
  intro a ha
  obtain ⟨hknown, hnot⟩ := List.mem_filter.1 ha
  rw [decide_eq_true_eq, Snapshot.mem_healthy, HealthRecord.mem_observe] at hnot
  have htracked : w.scheduler.tracked? a ≠ none := by
    intro hnone
    rw [tracked?, Option.or_eq_none_iff, Directory.find?_eq_none_iff,
      Directory.find?_eq_none_iff] at hnone
    exact (List.mem_append.1 hknown).elim hnone.1 hnone.2
  obtain ⟨x, hx, hup⟩ | hremove := life.covered.tracked a htracked
  · rw [hlast] at hx
    rw [← Option.some.inj hx, HealthRecord.mem_observe] at hup
    exact (((second_round node directors).1 a).1 hup).resolve_left hnot
  · rw [hrest] at hremove
    contradiction

/-- **A steady cluster is found steady from the second round on.**  Let every node always
say the same.

* The first round finds up what the second one finds up, and the connected directors that
  it passed over before somebody named members.
* All later rounds are like the second one.
* A scheduler that has the first round's snapshot gives up no instance after the second
  one's but those of directors passed over. -/
theorem steady_from_second (node : String → Except ProbeError NodeStatus) (directors : List String) :
    let round := discover (steadily node)
    let second := round (round directors).directors
    (∀ a, (a, .up) ∈ (round directors).results ↔
      (a, .up) ∈ second.results ∨ PassedOver node directors a) ∧
    (∀ n, round ((fun l => (round l).directors)^[n + 1] directors) = second) ∧
    ∀ {settings : Settings} {permits : Nat} {w : World} {past : List World}
      (record record' : HealthRecord), Life settings permits (w :: past) → w.tasks = [] →
      lastUp (w :: past) = some (record.observe (round directors).results).2 →
      ∀ a ∈ w.scheduler.gone (record'.observe second.results).2.healthy,
        PassedOver node directors a := by
  obtain ⟨hfound, hfixed⟩ := second_round node directors
  refine ⟨hfound, fun n => ?_, fun record record' life hrest hlast =>
    gone_of_second life hrest node directors record record' hlast⟩
  rw [Function.iterate_succ_apply]
  exact congrArg _ (Function.iterate_fixed hfixed n)

/-- Two nodes that are always connected, of which only the other than `a` names members. -/
def silentFirst (a : String) : Except ProbeError NodeStatus :=
  .ok ⟨true, if a = "a" then [] else ["b"]⟩

/-- A scheduler that knows both nodes from the first round gives up one of them, which was
passed over. -/
theorem steady_from_second_of_silent :
    let round := discover (steadily silentFirst)
    let first := round ["a", "b"]
    ∃ w past, Life ⟨.leastLoaded, false, 2, 8, 0, ⟨0, 100⟩, default⟩ 8 (w :: past) ∧
      w.tasks = [] ∧ lastUp (w :: past) = some (HealthRecord.observe {} first.results).2 ∧
      "a" ∈ w.scheduler.gone (HealthRecord.observe ⟨["a", "b"]⟩
        (round first.directors).results).2.healthy ∧
      PassedOver silentFirst ["a", "b"] "a" := by
  intro round first
  have begun := @Life.start ⟨.leastLoaded, false, 2, 8, 0, ⟨0, 100⟩, default⟩ 8
  -- the first round's snapshot makes two instances
  have posted := begun.step (.work (.post (HealthRecord.observe {} first.results).2))
  have known := (posted.step
    (.receive rfl (.snapshot rfl) (.snapshot _ (by decide +kernel) .rfl .rfl (.inl rfl)))).settle 8
  have hgone := (steady_from_second silentFirst ["a", "b"]).2.2 {} ⟨["a", "b"]⟩ known
    (by decide +kernel) (by decide +kernel) "a" (by decide +kernel)
  exact ⟨_, _, known, by decide +kernel, by decide +kernel, by decide +kernel, hgone⟩

/-- **Two rounds in a row need not agree** though every node always says the same. -/
theorem not_steady :
    ¬ ∀ (node : String → Except ProbeError NodeStatus) (directors : List String) (a : String),
      let round := discover (steadily node)
      (a, .up) ∈ (round directors).results ↔
        (a, .up) ∈ (round (round directors).directors).results := by
  intro h
  have hsecond := (h silentFirst ["a", "b"] "a").1 (by decide +kernel)
  exact absurd hsecond (by decide +kernel)

end Galera

end StreamBalancer
