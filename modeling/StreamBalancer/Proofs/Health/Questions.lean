import Mathlib.Logic.Equiv.Basic
import StreamBalancer.Proofs.Health.Discovery

/-!
# StreamBalancer.Proofs.Health.Questions

What a round of discovery asks, reports and leaves behind, whatever comes of each
of its questions.

1. A question to a node has one of four outcomes (`Reply`).
2. The first director that is connected and names members is the informant of the
   round.  The round ends with it and its members; the informant changes places
   with the first director (`getElem?_promote`).
3. Without an informant every director is asked and the list stays as it is.
4. In both cases every question is reported and the snapshot holds the addresses
   with a question that succeeded (`discover_exact`).
-/

namespace StreamBalancer

namespace Galera

/-! ## Outcomes -/

/-- What comes of one question within its time. -/
inductive Reply where
  /-- The node is connected and names members, if any. -/
  | connected (members : List String)
  /-- The node answers, but is outside the cluster. -/
  | notConnected
  /-- The question failed. -/
  | failed (error : ProbeError)
  /-- There was no answer within so many milliseconds. -/
  | timedOut (limit : Nat)
deriving DecidableEq, Repr

namespace Reply

/-- The answer that a round gets. -/
def answer : Reply → Except ProbeError NodeStatus
  | connected members => .ok { connected := true, incoming := members }
  | notConnected => .error .notConnected
  | failed error => .error error
  | timedOut limit => .error (.timeout limit)

/-- Whether the node is connected. -/
def isConnected : Reply → Bool
  | connected _ => true
  | _ => false

/-- The members that a connected node names. -/
def members : Reply → List String
  | connected members => members
  | _ => []

@[simp] theorem named_answer (reply : Reply) : named reply.answer = reply.members := by
  cases reply <;> rfl

@[simp] theorem verdict_answer (reply : Reply) : verdict reply.answer = .ofBool reply.isConnected := by
  cases reply <;> rfl

/-- Only a connected node names members. -/
theorem eq_connected_of_members {reply : Reply} (h : reply.members ≠ []) :
    reply = .connected reply.members := by
  cases reply with
  | connected => rfl
  | notConnected | failed | timedOut => contradiction

end Reply

/-! ## The informant -/

/-- The position of the first director that is connected and names members. -/
def informant? (replies : Query → Reply) (directors : List String) : Option Nat :=
  (directorQueries 0 directors).findIdx? fun q => (replies q).members ≠ []

theorem directorQueries_append (index : Nat) (l m : List String) :
    directorQueries index (l ++ m) =
      directorQueries index l ++ directorQueries (index + l.length) m := by
  simp [directorQueries, List.zipIdx_append]

theorem informant?_eq_none {replies : Query → Reply} {directors : List String}
    (h : ∀ q ∈ directorQueries 0 directors, (replies q).members = []) :
    informant? replies directors = none := by
  rw [informant?, List.findIdx?_eq_none_iff]
  intro q hq
  simpa using h q hq

theorem informant?_eq_some {replies : Query → Reply} {passed : List String} {director : String}
    (hpassed : ∀ q ∈ directorQueries 0 passed, (replies q).members = [])
    (hnamed : (replies (.director passed.length director)).members ≠ []) (rest : List String) :
    informant? replies (passed ++ director :: rest) = some passed.length := by
  have hnone := informant?_eq_none hpassed
  rw [informant?] at hnone ⊢
  rw [directorQueries_append, List.findIdx?_append, hnone, Nat.zero_add]
  simp [directorQueries, List.zipIdx_cons, List.findIdx?_cons, hnamed]

/-- Two directors change places. -/
theorem getElem?_promote {k : Nat} {directors : List String} (hk : k < directors.length) (i : Nat) :
    (promote k directors)[i]? = directors[Equiv.swap 0 k i]? := by
  have hzero : 0 < directors.length := Nat.zero_lt_of_lt hk
  simp only [promote, List.getElem?_eq_getElem hzero, List.getElem?_eq_getElem hk]
  rw [List.getElem?_set, List.length_set, List.getElem?_set]
  obtain rfl | hi := eq_or_ne i 0
  · simp [hzero, List.getElem?_eq_getElem hk]
  · obtain rfl | hik := eq_or_ne i k
    · simp [hi.symm, hk, List.getElem?_eq_getElem hzero]
    · simp [hi.symm, hik.symm, Equiv.swap_apply_of_ne_of_ne hi hik]

/-! ## The round -/

/-- **A round asks, reports and leaves behind exactly what it should.**  For every list of
directors and every outcome of each question:

* If some director is connected and names members, those up to the first such one are asked
  in order, then its members but itself; it changes places with the first director.
* Otherwise every director is asked once, and the list stays as it is.
* Every question is reported, in the order asked, as up if the node was connected.
* The list of directors is a permutation of what it was.
* The snapshot holds the addresses with a question that succeeded. -/
theorem discover_exact (replies : Query → Reply) (directors : List String) (record : HealthRecord) :
    let round := discover (fun q => (replies q).answer) directors
    (match informant? replies directors with
      | some k => ∃ director members, directors[k]? = some director ∧
          replies (.director k director) = .connected members ∧
          round.asked =
            directorQueries 0 (directors.take (k + 1)) ++ memberQueries director members ∧
          round.asked.map Query.address =
            directors.take (k + 1) ++ members.filter (· ≠ director) ∧
          ∀ i, round.directors[i]? = directors[Equiv.swap 0 k i]?
      | none => round.asked = directorQueries 0 directors ∧ round.directors = directors) ∧
    round.results = round.asked.map (fun q => (q.address, .ofBool (replies q).isConnected)) ∧
    round.directors.Perm directors ∧
    ∀ a, a ∈ (record.observe round.results).2.entries.map Prod.fst ↔
      ∃ q ∈ round.asked, q.address = a ∧ (replies q).isConnected = true := by
  intro round
  have hresults : round.results =
      round.asked.map fun q => (q.address, .ofBool (replies q).isConnected) := by
    simp only [round, results_eq, verdicts, Reply.verdict_answer]
  refine ⟨?_, hresults, discover_perm _ directors, fun a => ?_⟩
  · obtain ⟨hnone, hround⟩ | ⟨passed, director, rest, rfl, hpassed, hnamed, hround⟩ :=
      discover_cases (fun q => (replies q).answer) directors
    · simp only [Reply.named_answer] at hnone
      rw [informant?_eq_none hnone]
      simp only [round, hround, and_self]
    · simp only [Reply.named_answer] at hpassed hnamed hround
      rw [informant?_eq_some hpassed hnamed]
      have htake : (passed ++ director :: rest).take (passed.length + 1) = passed ++ [director] := by
        simp [List.take_append]
      have hasked : round.asked = directorQueries 0 (passed ++ [director]) ++
          memberQueries director (replies (.director passed.length director)).members := by
        rw [directorQueries_append, List.append_assoc]
        simp [round, hround, directorQueries]
      refine ⟨director, _, by simp, Reply.eq_connected_of_members hnamed, ?_, ?_, fun i => ?_⟩
      · rw [hasked, htake]
      · rw [hasked, htake, List.map_append, address_directorQueries, address_memberQueries]
      · simp only [round, hround]
        exact getElem?_promote (by simp) i
  · have hentries : ∀ results : List (String × Health),
        (record.observe results).2.entries.map Prod.fst = (Snapshot.mk results).healthy := by
      intro results
      simp [HealthRecord.observe, Snapshot.ofHealthy, Function.comp_def]
    have hup : ∀ connected : Bool, Health.ofBool connected = .up ↔ connected = true := by decide
    rw [hentries, Snapshot.mem_healthy, hresults, List.mem_map]
    simp only [Prod.mk.injEq, hup]

/-- A director that failed as a director is up as a member. -/
example :
    let replies : Query → Reply
      | .director 1 "b" => .connected ["a", "b", "c"]
      | .member 0 "a" => .connected []
      | _ => .notConnected
    let round := discover (fun q => (replies q).answer) ["a", "b", "d"]
    round.results = [("a", .down), ("b", .up), ("a", .up), ("c", .down)] ∧
      round.directors = ["b", "a", "d"] ∧
      (HealthRecord.observe {} round.results).2 = .ofHealthy ["a", "b"] := by
  decide +kernel

end Galera

end StreamBalancer
