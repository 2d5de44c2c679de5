import Mathlib.Algebra.Ring.Nat
import Mathlib.Logic.Function.Iterate
import StreamBalancer.Tunnel.Bench

/-!
# StreamBalancer.Proofs.StreamIds

How long the stream ids of one connection last.

1. The counter of a connection stays odd and reaches the largest stream id
   (`StreamIds.hands_out_last`).
2. It moves on by two with every call, also with those that fail, in 32-bit arithmetic: so after
   `2 ^ 31` calls it is where it was at first (`StreamIds.toNat_counter`).
3. Streams and pings of a tunnel take the ids in turn (`TunnelBench.Connects.call`).

* `StreamIds.lasts_one_cycle` — up to `2 ^ 31` calls ids only grow, and once they are used up they
  stay so; the call after those gets the first id again (`StreamIds.comes_back`).
-/

namespace StreamBalancer

namespace StreamIds

/-! ## The counter -/

/-- The counter after so many further calls. -/
def after (ids : StreamIds) (n : Nat) : StreamIds := (fun ids => ids.allocate.2)^[n] ids

theorem after_succ (ids : StreamIds) (n : Nat) :
    ids.after (n + 1) = (ids.after n).allocate.2 :=
  Function.iterate_succ_apply' ..

theorem after_eq {ids : StreamIds} (hopen : ids.closed = false) (n : Nat) :
    ids.after n = { ids with next := ids.next + 2 * UInt32.ofNat n } := by
  induction n with
  | zero => simp [after]
  | succ n ih =>
    have hnext : ids.next + 2 * UInt32.ofNat n + 2 = ids.next + 2 * UInt32.ofNat (n + 1) := by
      rw [UInt32.ofNat_add, UInt32.mul_add, UInt32.add_assoc]
      rfl
    rw [after_succ, ih, allocate]
    simp [hopen, hnext]

/-- The counter of a connection stays odd. -/
theorem after_fresh (n : Nat) :
    (({} : StreamIds).after n).closed = false ∧ (({} : StreamIds).after n).next % 2 = 1 := by
  rw [after_eq rfl]
  refine ⟨rfl, ?_⟩
  apply UInt32.toNat_inj.mp
  simp only [UInt32.toNat_mod, UInt32.toNat_add, UInt32.toNat_mul, UInt32.toNat_ofNat,
    UInt32.toNat_ofNat', Nat.reducePow, Nat.reduceMod]
  omega

/-- An open connection that has not passed the largest id comes to hand it out. -/
theorem hands_out_last {ids : StreamIds} (hopen : ids.closed = false) (hodd : ids.next % 2 = 1)
    (hleft : ids.next ≤ maxStreamId) : ∃ n, (ids.after n).allocate.1 = .ok maxStreamId := by
  have hle : ids.next.toNat ≤ 0x7fffffff := UInt32.le_iff_toNat_le.mp hleft
  have hmod : ids.next.toNat % 2 = 1 := by simpa using congrArg UInt32.toNat hodd
  refine ⟨(0x7fffffff - ids.next.toNat) / 2, ?_⟩
  have hlast : ids.next + 2 * UInt32.ofNat ((0x7fffffff - ids.next.toNat) / 2) = maxStreamId := by
    apply UInt32.toNat_inj.mp
    simp only [UInt32.toNat_add, UInt32.toNat_mul, UInt32.toNat_ofNat, UInt32.toNat_ofNat',
      maxStreamId]
    omega
  rw [after_eq hopen, allocate, hlast]
  simp [hopen]

/-! ## Calls by number -/

/-- The counter of a connection after so many calls. -/
def counter (k : Nat) : UInt32 := (({} : StreamIds).after k).next

/-- What the call with a number gets, the first one being call zero. -/
def reserved (k : Nat) : Except TunnelError UInt32 := (({} : StreamIds).after k).allocate.1

theorem fresh_after (k : Nat) : ({} : StreamIds).after k = ⟨counter k, false⟩ := by
  have hclosed := (after_fresh k).1
  rw [counter]
  generalize ({} : StreamIds).after k = ids at hclosed
  obtain ⟨next, closed⟩ := ids
  obtain rfl : closed = false := hclosed
  rfl

/-- A call moves the counter on, whatever it gets. -/
theorem allocate_counter (k : Nat) :
    allocate ⟨counter k, false⟩ = (reserved k, ⟨counter (k + 1), false⟩) := by
  rw [← fresh_after (k + 1), after_succ, reserved, fresh_after k]

theorem reserved_eq (k : Nat) :
    reserved k = if maxStreamId < counter k then .error .streamsExhausted else .ok (counter k) := by
  rw [reserved, fresh_after]
  rfl

/-- The counter as a number: two for every call, in 32 bits. -/
theorem toNat_counter (k : Nat) : (counter k).toNat = (2 * k + 1) % 2 ^ 32 := by
  rw [counter, after_eq rfl]
  simp only [UInt32.toNat_add, UInt32.toNat_mul, UInt32.toNat_ofNat, UInt32.toNat_ofNat']
  omega

/-- A call gets an id if the counter is not past the largest one. -/
theorem reserved_eq_ok_iff (k : Nat) (id : UInt32) :
    reserved k = .ok id ↔ id = counter k ∧ (2 * k + 1) % 2 ^ 32 < 2 ^ 31 := by
  have hlarge : maxStreamId < counter k ↔ ¬ (2 * k + 1) % 2 ^ 32 < 2 ^ 31 := by
    rw [UInt32.lt_iff_toNat_lt, toNat_counter]
    change 2147483647 < _ ↔ _
    omega
  rw [reserved_eq]
  by_cases h : (2 * k + 1) % 2 ^ 32 < 2 ^ 31
  · rw [if_neg fun hlarger => hlarge.1 hlarger h, Except.ok.injEq]
    exact ⟨fun heq => ⟨heq.symm, h⟩, fun heq => heq.1.symm⟩
  · rw [if_pos (hlarge.2 h)]
    exact ⟨fun heq => by contradiction, fun heq => absurd heq.2 h⟩

/-- A call that gets no id is told that they are used up. -/
theorem reserved_eq_error_iff (k : Nat) :
    reserved k = .error .streamsExhausted ↔ ¬ (2 * k + 1) % 2 ^ 32 < 2 ^ 31 := by
  have hok := reserved_eq_ok_iff k (counter k)
  rw [reserved_eq] at hok ⊢
  split at hok <;> simp_all

/-! ## Laws -/

/-- What is expected of the first so many calls of a connection. -/
structure Lawful (n : Nat) : Prop where
  /-- Ids are odd, and none is past the largest one. -/
  odd : ∀ k < n, ∀ id, reserved k = .ok id → id % 2 = 1 ∧ id ≤ maxStreamId
  /-- Each is larger than those before it. -/
  increasing : ∀ i j, i < j → j < n → ∀ a b, reserved i = .ok a → reserved j = .ok b → a < b
  /-- Once they are used up they stay so. -/
  exhausted : ∀ i j, i < j → j < n →
    reserved i = .error .streamsExhausted → reserved j = .error .streamsExhausted
  /-- The counter does not go back. -/
  rising : ∀ i j, i ≤ j → j < n → counter i ≤ counter j
  /-- So it stays above a mark that it has passed. -/
  worn : ∀ mark i j, i ≤ j → j < n → mark < counter i → mark < counter j

/-- In one cycle the counter only grows. -/
theorem counter_lt {i j : Nat} (h : i < j) (hj : j < 2 ^ 31) : counter i < counter j := by
  rw [UInt32.lt_iff_toNat_lt, toNat_counter, toNat_counter]
  omega

theorem lawful_of_le {n : Nat} (h : n ≤ 2 ^ 31) : Lawful n := by
  have hrising : ∀ i j, i ≤ j → j < n → counter i ≤ counter j := by
    intro i j hij hj
    obtain rfl | hlt := Nat.eq_or_lt_of_le hij
    · exact UInt32.le_refl _
    · exact UInt32.le_of_lt (counter_lt hlt (Nat.lt_of_lt_of_le hj h))
  refine {
    odd := fun k _ id hid => ?_
    increasing := fun i j hij hj a b ha hb => ?_
    exhausted := fun i j hij hj hi => ?_
    rising := hrising
    worn := fun mark i j hij hj hi => UInt32.lt_of_lt_of_le hi (hrising i j hij hj) }
  · obtain ⟨rfl, hle⟩ := (reserved_eq_ok_iff k id).1 hid
    refine ⟨(after_fresh k).2, UInt32.le_iff_toNat_le.2 ?_⟩
    rw [toNat_counter]
    change _ ≤ 2147483647
    omega
  · rw [((reserved_eq_ok_iff i a).1 ha).1, ((reserved_eq_ok_iff j b).1 hb).1]
    exact counter_lt hij (Nat.lt_of_lt_of_le hj h)
  · rw [reserved_eq_error_iff] at hi ⊢
    omega

/-- After a cycle a connection is as at first. -/
theorem reserved_add_cycle (k : Nat) : reserved (k + 2 ^ 31) = reserved k := by
  have hcounter : counter (k + 2 ^ 31) = counter k := by
    apply UInt32.toNat_inj.1
    rw [toNat_counter, toNat_counter]
    omega
  rw [reserved_eq, reserved_eq, hcounter]

theorem le_of_lawful {n : Nat} (h : Lawful n) : n ≤ 2 ^ 31 := by
  by_contra hlong
  have hfirst : reserved 0 = .ok 1 := rfl
  have hagain : reserved (2 ^ 31) = .ok 1 := by
    rw [← Nat.zero_add (2 ^ 31), reserved_add_cycle, hfirst]
  exact absurd (h.increasing 0 (2 ^ 31) (by omega) (by omega) 1 1 hfirst hagain) (by decide)

end StreamIds

/-! ## Tunnels -/

namespace TunnelBench

open StreamIds

/-- What can be called on a tunnel. -/
inductive Call where
  | openStream
  | ping
deriving DecidableEq, Repr

/-- A call on a tunnel, with what the tunnel meets with then. -/
def call (t : Nat) (s : TunnelBench) (network : Network) :
    Call → Option (Except TunnelError Unit) × TunnelBench
  | .openStream =>
    ((s.openStream network t).1.map fun answer => answer.map fun _ => (), (s.openStream network t).2)
  | .ping => s.ping t

/-- The bench after calls on a tunnel. -/
def calls (t : Nat) (s : TunnelBench) (l : List (Network × Call)) : TunnelBench :=
  l.foldl (fun s c => (s.call t c.1 c.2).2) s

/-- A tunnel to an agent is open, and so many calls were made on it. -/
def Connects (s : TunnelBench) (t k : Nat) : Prop :=
  ∃ x target, s.tunnels[t]? = some x ∧ x.closes = 0 ∧ x.answer = .relay target ∧
    x.nextId = counter k

/-- A tunnel comes up with one call made on it. -/
theorem connects_of_dial {s s' : TunnelBench} {network : Network} {address : String} {t : Nat}
    (h : s.dial network address = (.ok t, s')) : s'.Connects t 1 := by
  unfold dial at h
  split at h
  · cases h
  · next target _ =>
    cases h
    exact ⟨.dialed target, target, by simp, rfl, rfl, rfl⟩

/-- **Every call takes the next id**, and fails for want of one if there is none. -/
theorem Connects.call {s : TunnelBench} {t k : Nat} (h : s.Connects t k) (network : Network)
    (c : Call) :
    (s.call t network c).2.Connects t (k + 1) ∧
      ((s.call t network c).1 = some (.error .streamsExhausted) ↔
        reserved k = .error .streamsExhausted) := by
  obtain ⟨x, target, hx, hcloses, hanswer, hnext⟩ := h
  have hopen : x.closed = false := by simp [Tunnel.closed, hcloses]
  have hlater : ∀ s' : TunnelBench,
      s'.tunnels = s.tunnels.setIfInBounds t { x with nextId := counter (k + 1) } →
      s'.Connects t (k + 1) := by
    intro s' hs'
    refine ⟨{ x with nextId := counter (k + 1) }, target, ?_, hcloses, hanswer, rfl⟩
    rw [hs', Array.getElem?_setIfInBounds_self_of_lt (Array.getElem?_eq_some_iff.1 hx).1]
  cases c with
  | ping =>
      rw [TunnelBench.call, ping, hx]
      dsimp only
      rw [hopen, hnext, allocate_counter]
      refine ⟨hlater _ rfl, ?_⟩
      dsimp only
      cases hreserved : reserved k with
      | error e => simp [Except.map]
      | ok id => simp [Except.map]
  | openStream =>
      have hreply : x.reply false network.reaches =
          (some (match reserved k with
            | .error e => .error e
            | .ok _ => if network.reaches target then .ok () else .error (.refused .badGateway)),
            { x with nextId := counter (k + 1) }) := by
        rw [Tunnel.reply, hopen, hanswer]
        dsimp only
        rw [hnext, allocate_counter]
        cases reserved k <;> rfl
      rw [TunnelBench.call, openStream, hx]
      dsimp only
      rw [hreply]
      cases hreserved : reserved k with
      | error e => exact ⟨hlater _ rfl, by simp [Except.map]⟩
      | ok id =>
          cases network.reaches target with
          | true => exact ⟨hlater _ rfl, by simp [Except.map]⟩
          | false => exact ⟨hlater _ rfl, by simp [Except.map]⟩

theorem Connects.calls {s : TunnelBench} {t k : Nat} (h : s.Connects t k)
    (l : List (Network × Call)) : (s.calls t l).Connects t (l.length + k) := by
  induction l generalizing s k with
  | nil => simpa [TunnelBench.calls] using h
  | cons c l ih =>
      have hrest := ih (h.call c.1 c.2).1
      rw [List.length_cons, Nat.add_right_comm]
      exact hrest

end TunnelBench

namespace StreamIds

open TunnelBench

/-- **Stream ids last for one cycle.**

* The laws hold for so many first calls of a connection if they are no more than `2 ^ 31`.
* A call that many calls later gets the same id again.
* This is what the calls on a dialed tunnel meet with, the first one being its own ping, whatever
  agents and services do: its counter is that of the calls so far, and a call fails for want of an
  id if the rule says so. -/
theorem lasts_one_cycle {s s' : TunnelBench} {network : Network} {address : String} {t : Nat}
    (hdial : s.dial network address = (.ok t, s')) (n : Nat) :
    (Lawful n ↔ n ≤ 2 ^ 31) ∧ reserved (n + 2 ^ 31) = reserved n ∧
      ∀ l, ((s'.calls t l).tunnels[t]?.map Tunnel.nextId) = some (counter (l.length + 1)) ∧
        ∀ later c, ((s'.calls t l).call t later c).1 = some (.error .streamsExhausted) ↔
          reserved (l.length + 1) = .error .streamsExhausted := by
  refine ⟨⟨le_of_lawful, lawful_of_le⟩, reserved_add_cycle n, fun l => ?_⟩
  have hcalls := (connects_of_dial hdial).calls l
  refine ⟨?_, fun later c => (hcalls.call later c).2⟩
  obtain ⟨x, -, hx, -, -, hnext⟩ := hcalls
  rw [hx, Option.map_some, hnext]

/-- An agent whose service cannot be reached. -/
def unserved : Network := ⟨fun _ => .ok (.unix "/a"), fun _ => false⟩

/-- A tunnel through which nothing can be reached. -/
theorem lasts_one_cycle_of_refused :
    ∃ s' : TunnelBench, TunnelBench.dial {} unserved "10.0.0.1:6900" = (.ok 0, s') ∧
      (s'.calls 0 [(unserved, .ping), (unserved, .openStream)]).tunnels[0]?.map Tunnel.nextId =
        some 7 ∧
      ((s'.calls 0 [(unserved, .ping), (unserved, .openStream)]).call 0 unserved .openStream).1 ≠
        some (.error .streamsExhausted) ∧ Lawful 3 := by
  have hdial : TunnelBench.dial {} unserved "10.0.0.1:6900" =
      (.ok 0, (TunnelBench.dial {} unserved "10.0.0.1:6900").2) := Prod.ext rfl rfl
  obtain ⟨hlawful, -, hcalls⟩ := lasts_one_cycle hdial 3
  obtain ⟨hnext, hexhausted⟩ := hcalls [(unserved, .ping), (unserved, .openStream)]
  exact ⟨_, hdial, hnext, fun h =>
    (reserved_eq_error_iff 3).1 ((hexhausted unserved .openStream).1 h) (by decide),
    hlawful.2 (by decide)⟩

/-- The first call, and the one after a cycle, get the same id, though calls in between were told
that ids are used up. -/
theorem comes_back : reserved 0 = .ok 1 ∧ reserved (2 ^ 30) = .error .streamsExhausted ∧
    reserved (2 ^ 31) = .ok 1 ∧ ¬ Lawful (2 ^ 31 + 1) := by
  refine ⟨rfl, (reserved_eq_error_iff _).2 (by omega), ?_, fun h => ?_⟩
  · rw [← Nat.zero_add (2 ^ 31), reserved_add_cycle]
    rfl
  · have hle := le_of_lawful h
    omega

end StreamIds

end StreamBalancer
