import Mathlib.Algebra.Order.Ring.Nat
import StreamBalancer.Delay

/-!
# StreamBalancer.Proofs.Delay

How long the delays between attempts are.

1. A power and a product that stop at the largest word are, under a cap below it, as good as
   unbounded ones (`Delay.backoffBase_eq`).
2. A delay is its base and an addition, of which every one in its range is drawn
   (`Delay.around_jitter`).

* `Delay.delays_exact` — a backoff is around its base without any bound but the cap, a retry
  around the whole milliseconds of its interval, and no number on the way is larger than a word.
-/

namespace StreamBalancer.Delay

/-! ## Bases -/

/-- The base of a backoff in unbounded numbers. -/
def unboundedBase (attempt baseMs maxMs : Nat) : Nat :=
  if attempt = 0 then 0 else min (baseMs * 2 ^ (attempt - 1)) maxMs

theorem satPow_eq (n : Nat) : satPow n = min (2 ^ n) wordMax := by
  unfold satPow
  split
  · next hn =>
    have hle : 2 ^ n ≤ 2 ^ 63 := Nat.pow_le_pow_right (by decide) (by omega)
    rw [Nat.one_shiftLeft, Nat.min_eq_left (hle.trans (by decide))]
  · next hn =>
    have hle : 2 ^ 64 ≤ 2 ^ n := Nat.pow_le_pow_right (by decide) (by omega)
    rw [Nat.min_eq_right (Nat.le_trans (by decide) hle)]

/-- Whether the power has stopped does not show in the product. -/
theorem satMul_satPow (baseMs n : Nat) :
    satMul baseMs (satPow n) = min (baseMs * 2 ^ n) wordMax := by
  rw [satPow_eq]
  change min (baseMs * min (2 ^ n) wordMax) wordMax = _
  obtain hle | hgt := Nat.le_total (2 ^ n) wordMax
  · rw [Nat.min_eq_left hle]
  · rw [Nat.min_eq_right hgt]
    obtain rfl | hpos := Nat.eq_zero_or_pos baseMs
    · rw [Nat.zero_mul, Nat.zero_mul]
    · rw [Nat.min_eq_right (Nat.le_mul_of_pos_left wordMax hpos),
        Nat.min_eq_right (hgt.trans (Nat.le_mul_of_pos_left _ hpos))]

/-- A cap that is a word hides where the words have stopped. -/
theorem backoffBase_eq {maxMs : Nat} (h : maxMs ≤ wordMax) (attempt baseMs : Nat) :
    backoffBase attempt baseMs maxMs = unboundedBase attempt baseMs maxMs := by
  unfold backoffBase unboundedBase
  split
  · rfl
  · change min (satMul baseMs (satPow (attempt - 1))) maxMs = _
    rw [satMul_satPow, Nat.min_assoc, Nat.min_eq_right h]

theorem unboundedBase_le (attempt baseMs maxMs : Nat) :
    unboundedBase attempt baseMs maxMs ≤ maxMs := by
  unfold unboundedBase
  split
  · exact Nat.zero_le _
  · exact Nat.min_le_right _ _

theorem unboundedBase_mono {attempt attempt' baseMs baseMs' maxMs maxMs' : Nat}
    (hattempt : attempt ≤ attempt') (hbase : baseMs ≤ baseMs') (hmax : maxMs ≤ maxMs') :
    unboundedBase attempt baseMs maxMs ≤ unboundedBase attempt' baseMs' maxMs' := by
  unfold unboundedBase
  split
  · exact Nat.zero_le _
  · next hne =>
    have hpow : 2 ^ (attempt - 1) ≤ 2 ^ (attempt' - 1) :=
      Nat.pow_le_pow_right (by decide) (by omega)
    rw [if_neg (by omega)]
    exact min_le_min (Nat.mul_le_mul hbase hpow) hmax

/-! ## Additions -/

/-- What the delays over all draws are, for a base of `c`. -/
structure Around (c : Nat) (delay : Nat → Nat) (range : Range) : Prop where
  /-- A draw adds less than a tenth, or nothing where a tenth rounds down to zero. -/
  added : ∀ draw, ∃ j < max (c / 10) 1, delay draw = c + j
  /-- Every such addition is drawn. -/
  drawn : ∀ j < max (c / 10) 1, ∃ draw, delay draw = c + j
  /-- The range holds these delays and no others. -/
  range : ∀ d, (range.min ≤ d ∧ d ≤ range.max) ↔ ∃ draw, delay draw = d
  /-- No sum is larger than a word. -/
  fits : ∀ draw, delay draw < 2 ^ 64

theorem jitterWidth_pos (c : Nat) : 0 < jitterWidth c := by
  unfold jitterWidth
  omega

theorem around_jitter {c : Nat} (h : c < 2 ^ 63) :
    Around c (fun draw => c + jitter draw c) (.around c) := by
  have hpos := jitterWidth_pos c
  have hwidth : jitterWidth c = max (c / 10) 1 := rfl
  have hadded : ∀ draw, jitter draw c < jitterWidth c := fun draw => Nat.mod_lt draw hpos
  have hdrawn : ∀ j < jitterWidth c, jitter j c = j := fun j hj => Nat.mod_eq_of_lt hj
  constructor
  · exact fun draw => ⟨_, hadded draw, rfl⟩
  · exact fun j hj => ⟨j, congrArg (c + ·) (hdrawn j hj)⟩
  · intro d
    constructor
    · rintro ⟨hmin, hmax⟩
      change c ≤ d at hmin
      change d ≤ c + (jitterWidth c - 1) at hmax
      refine ⟨d - c, ?_⟩
      rw [hdrawn _ (by omega)]
      omega
    · rintro ⟨draw, rfl⟩
      have := hadded draw
      change c ≤ c + jitter draw c ∧ c + jitter draw c ≤ c + (jitterWidth c - 1)
      omega
  · intro draw
    have := hadded draw
    omega

/-! ## The result -/

/-- The numbers that a backoff comes through, in the order in which they are computed. -/
def backoffSteps (draw attempt baseMs maxMs : Nat) : List Nat :=
  let power := satPow (attempt - 1)
  let product := satMul baseMs power
  let base := min product maxMs
  [power, product, base, base / jitterDivisor, jitter draw base, base + jitter draw base]

theorem getLast?_backoffSteps {attempt : Nat} (h : attempt ≠ 0) (draw baseMs maxMs : Nat) :
    (backoffSteps draw attempt baseMs maxMs).getLast? =
      some (backoff draw attempt baseMs maxMs) := by
  rw [backoff, backoffBase, if_neg h]
  rfl

theorem around_backoff {maxMs : Nat} (h : maxMs < 2 ^ 63) (attempt baseMs : Nat) :
    Around (unboundedBase attempt baseMs maxMs) (backoff · attempt baseMs maxMs)
      (backoffRange attempt baseMs maxMs) := by
  have hbase := backoffBase_eq (Nat.le_trans (Nat.le_of_lt h) (by decide)) attempt baseMs
  have hlt := Nat.lt_of_le_of_lt (unboundedBase_le attempt baseMs maxMs) h
  simpa only [backoff, backoffRange, hbase] using around_jitter hlt

theorem lt_of_mem_backoffSteps {draw attempt baseMs maxMs n : Nat} (h : maxMs < 2 ^ 63)
    (hn : n ∈ backoffSteps draw attempt baseMs maxMs) : n < 2 ^ 64 := by
  have hpower : satPow (attempt - 1) ≤ wordMax := by
    rw [satPow_eq]
    exact Nat.min_le_right _ _
  have hproduct : satMul baseMs (satPow (attempt - 1)) ≤ wordMax := by
    rw [satMul_satPow]
    exact Nat.min_le_right _ _
  have hword : wordMax < 2 ^ 64 := by decide
  have hcap := Nat.min_le_right (satMul baseMs (satPow (attempt - 1))) maxMs
  simp only [backoffSteps] at hn
  generalize min (satMul baseMs (satPow (attempt - 1))) maxMs = base at hn hcap
  have hjitter : jitter draw base < max (base / 10) 1 := Nat.mod_lt draw (jitterWidth_pos base)
  have htenth : base / jitterDivisor ≤ base := Nat.div_le_self _ _
  simp only [List.mem_cons, List.not_mem_nil, or_false] at hn
  omega

theorem around_retry {intervalMs : Nat} (h : intervalMs < 2 ^ 63) :
    Around intervalMs (retry · intervalMs) (retryRange intervalMs) := around_jitter h

theorem around_retryAfter {nanos : Nat} (h : nanos / 1000000 < 2 ^ 63) :
    Around (nanos / 1000000) (retryAfter · nanos) (retryAfterRange nanos) := by
  have hwhole : wholeMs nanos = nanos / 1000000 := Nat.mod_eq_of_lt (Nat.lt_trans h (by decide))
  simpa only [retryAfter, retryAfterRange, hwhole] using around_retry h

/-- **Delays are exact.**

* A backoff is around its base in unbounded numbers, if the cap is below `2 ^ 63`, and no number
  that it comes through is larger than a word.
* That base grows with the attempt, the base and the cap.
* A retry is around the whole milliseconds of its interval, if these are below `2 ^ 63`, whether the
  interval is given in nanoseconds or, as for a session, in milliseconds. -/
theorem delays_exact :
    (∀ attempt baseMs maxMs, maxMs < 2 ^ 63 →
      Around (unboundedBase attempt baseMs maxMs) (backoff · attempt baseMs maxMs)
        (backoffRange attempt baseMs maxMs) ∧
      ∀ draw, (attempt ≠ 0 → (backoffSteps draw attempt baseMs maxMs).getLast? =
          some (backoff draw attempt baseMs maxMs)) ∧
        ∀ n ∈ backoffSteps draw attempt baseMs maxMs, n < 2 ^ 64) ∧
    (∀ attempt attempt' baseMs baseMs' maxMs maxMs', attempt ≤ attempt' → baseMs ≤ baseMs' →
      maxMs ≤ maxMs' →
      unboundedBase attempt baseMs maxMs ≤ unboundedBase attempt' baseMs' maxMs') ∧
    (∀ nanos, nanos / 1000000 < 2 ^ 63 →
      Around (nanos / 1000000) (retryAfter · nanos) (retryAfterRange nanos)) ∧
    ∀ intervalMs, intervalMs < 2 ^ 63 →
      Around intervalMs (retry · intervalMs) (retryRange intervalMs) :=
  ⟨fun attempt baseMs _ h => ⟨around_backoff h attempt baseMs, fun draw =>
      ⟨fun hne => getLast?_backoffSteps hne draw baseMs _, fun _ => lt_of_mem_backoffSteps h⟩⟩,
    fun _ _ _ _ _ _ => unboundedBase_mono, fun _ => around_retryAfter, fun _ => around_retry⟩

/-- A power that has stopped, a cap just below the bound, an interval with a part of a millisecond,
and one that is too short for an addition. -/
theorem delays_exact_of_stopped :
    Around (2 ^ 63 - 1) (backoff · 66 1 (2 ^ 63 - 1)) ⟨2 ^ 63 - 1, 10145709240540253386⟩ ∧
      unboundedBase 3 100 350 ≤ unboundedBase 4 100 500 ∧
      Around 1000 (retryAfter · 1000999999) ⟨1000, 1099⟩ ∧ Around 9 (retry · 9) ⟨9, 9⟩ := by
  obtain ⟨hbackoff, hmono, hretryAfter, hretry⟩ := delays_exact
  have hbase : unboundedBase 66 1 (2 ^ 63 - 1) = 2 ^ 63 - 1 := by decide
  have hrange : backoffRange 66 1 (2 ^ 63 - 1) = ⟨2 ^ 63 - 1, 10145709240540253386⟩ := by decide
  have haround := (hbackoff 66 1 (2 ^ 63 - 1) (by decide)).1
  rw [hbase, hrange] at haround
  exact ⟨haround, hmono 3 4 100 100 350 500 (by decide) (by decide) (by decide),
    hretryAfter 1000999999 (by decide), hretry 9 (by decide)⟩

end StreamBalancer.Delay
