import Mathlib.Algebra.Ring.Nat
import StreamBalancer.Proofs.Trim
import StreamBalancer.Text.Decimal

/-!
# StreamBalancer.Proofs.Text

What the readers of numbers take.

1. Digits write the number that they are the decimal digits of (`Text.digits?_eq_some_iff`).
2. What is read is the number that a text writes, with or without a plus sign
   (`Text.readBelow?_eq_some_iff`), and so for ports (`Text.port?_eq_some_iff`).
3. The decimal digits of a number are read back, also with blanks behind them
   (`Text.readBelow?_toDigits`, `Text.trim_append_blanks`).
-/

namespace StreamBalancer

namespace Text

/-! ## Digits -/

theorem digit?_eq (c : Char) :
    digit? c = if c.isDigit then some (c.toNat - '0'.toNat) else none := by
  have hiff : ('0' ≤ c ∧ c ≤ '9') ↔ c.isDigit = true := by
    rw [Char.isDigit, Bool.and_eq_true, decide_eq_true_eq, decide_eq_true_eq]
    exact Iff.rfl
  simp only [digit?, hiff]

theorem digitsFrom?_eq (acc : Nat) (cs : List Char) :
    digitsFrom? acc cs =
      if cs.all Char.isDigit then some (Nat.ofDigitChars 10 cs acc) else none := by
  induction cs generalizing acc with
  | nil => rfl
  | cons c cs ih =>
    rw [digitsFrom?, digit?_eq, List.all_cons, Nat.ofDigitChars_cons]
    cases c.isDigit with
    | false => rfl
    | true => rw [if_pos rfl, Option.bind_some, ih, Bool.true_and]

theorem digits?_eq_some_iff (cs : List Char) (n : Nat) :
    digits? cs = some n ↔
      cs ≠ [] ∧ cs.all Char.isDigit = true ∧ Nat.ofDigitChars 10 cs 0 = n := by
  cases cs with
  | nil => simp [digits?]
  | cons c cs =>
    rw [digits?, digitsFrom?_eq]
    simp

theorem readBelow?_plus (bound : Nat) (cs : List Char) :
    readBelow? bound ('+' :: cs) = (digits? cs).filter (· < bound) := rfl

theorem readBelow?_of_ne (bound : Nat) {cs : List Char} (h : ∀ rest, cs ≠ '+' :: rest) :
    readBelow? bound cs = (digits? cs).filter (· < bound) := by
  unfold readBelow?
  split
  · exact absurd rfl (h _)
  · rfl

/-- A text that writes a number: one or more digits, after a plus sign or not. -/
def Writes (cs : List Char) (n : Nat) : Prop :=
  ∃ digits, (cs = digits ∨ cs = '+' :: digits) ∧ digits ≠ [] ∧
    digits.all Char.isDigit = true ∧ Nat.ofDigitChars 10 digits 0 = n

/-- What is read is the number that the text writes, if that fits. -/
theorem readBelow?_eq_some_iff (bound : Nat) (cs : List Char) (n : Nat) :
    readBelow? bound cs = some n ↔ Writes cs n ∧ n < bound := by
  by_cases hplus : ∃ rest, cs = '+' :: rest
  · obtain ⟨rest, rfl⟩ := hplus
    rw [readBelow?_plus, Option.filter_eq_some_iff, digits?_eq_some_iff, decide_eq_true_eq]
    refine and_congr_left fun _ => ⟨fun h => ⟨rest, .inr rfl, h⟩, ?_⟩
    rintro ⟨digits, rfl | heq, h⟩
    · exact absurd h.2.1 (by simp)
    · cases heq
      exact h
  · have hne : ∀ rest, cs ≠ '+' :: rest := fun rest h => hplus ⟨rest, h⟩
    rw [readBelow?_of_ne _ hne, Option.filter_eq_some_iff, digits?_eq_some_iff, decide_eq_true_eq]
    refine and_congr_left fun _ => ⟨fun h => ⟨cs, .inl rfl, h⟩, ?_⟩
    rintro ⟨digits, rfl | heq, h⟩
    · exact h
    · exact absurd heq (hne digits)

/-- The decimal digits of a number that fits are read back. -/
theorem readBelow?_toDigits {bound n : Nat} (h : n < bound) :
    readBelow? bound (Nat.toDigits 10 n) = some n := by
  have hdigits : ∀ c ∈ Nat.toDigits 10 n, c.isDigit = true :=
    fun c hc => Nat.isDigit_of_mem_toDigits (by decide) (by decide) hc
  have hplus : ∀ rest, Nat.toDigits 10 n ≠ '+' :: rest := by
    intro rest heq
    have hdigit := hdigits '+' (heq ▸ List.mem_cons_self)
    contradiction
  have hread : digits? (Nat.toDigits 10 n) = some n :=
    (digits?_eq_some_iff _ _).2
      ⟨Nat.toDigits_ne_nil, List.all_eq_true.2 hdigits, Nat.ofDigitChars_ten_toDigits⟩
  rw [readBelow?_of_ne bound hplus, hread]
  simp [h]

/-! ## Ports -/

/-- A text that writes a port: digits, after a plus sign or not, for a number of 16 bits. -/
def IsPort (s : String) : Prop :=
  ∃ digits, (s.toList = digits ∨ s.toList = '+' :: digits) ∧ digits ≠ [] ∧
    digits.all Char.isDigit = true ∧ Nat.ofDigitChars 10 digits 0 < 2 ^ 16

/-- The reader of ports takes the texts that write one. -/
theorem isSome_port?_iff (s : String) : (port? s).isSome = true ↔ IsPort s := by
  rw [port?, Option.isSome_map, Option.isSome_iff_exists]
  simp only [readBelow?_eq_some_iff, Writes, IsPort]
  constructor
  · rintro ⟨n, ⟨digits, htext, hne, hall, rfl⟩, hlt⟩
    exact ⟨digits, htext, hne, hall, hlt⟩
  · rintro ⟨digits, htext, hne, hall, hlt⟩
    exact ⟨_, ⟨digits, htext, hne, hall, rfl⟩, hlt⟩

/-- A port is read from the texts that write it, and from no others. -/
theorem port?_eq_some_iff (s : String) (p : UInt16) :
    port? s = some p ↔ Writes s.toList p.toNat := by
  rw [port?, Option.map_eq_some_iff]
  simp only [readBelow?_eq_some_iff]
  constructor
  · rintro ⟨n, ⟨hwrites, hlt⟩, rfl⟩
    rwa [UInt16.toNat_ofNat_of_lt' hlt]
  · exact fun hwrites => ⟨_, ⟨hwrites, p.toNat_lt⟩, UInt16.ofNat_toNat⟩

/-! ## Blanks -/

/-- Digits are no blanks. -/
theorem isBlank_of_isDigit {c : Char} (h : c.isDigit = true) : isBlank c = false := by
  rw [Char.isDigit, Bool.and_eq_true, decide_eq_true_eq, decide_eq_true_eq] at h
  have hlow : 48 ≤ c.toNat := UInt32.le_iff_toNat_le.1 h.1
  have hhigh : c.toNat ≤ 57 := UInt32.le_iff_toNat_le.1 h.2
  simp [isBlank]
  omega

/-- Trimming takes away the blanks that follow a text without any. -/
theorem trim_append_blanks {cs blanks : List Char} (hcs : ∀ c ∈ cs, isBlank c = false)
    (hblanks : ∀ c ∈ blanks, isBlank c = true) : trim (cs ++ blanks) = cs := by
  have hnone : ∀ c ∈ cs, ¬ IsWhite c := fun c hc hwhite => by
    rw [← isBlank_iff, hcs c hc] at hwhite
    contradiction
  rw [trim_eq_iff]
  refine ⟨⟨[], blanks, by simp, fun c hc => (isBlank_iff c).1 (hblanks c hc), rfl⟩, ?_, ?_⟩
  · exact fun c hc => hnone c (List.mem_of_mem_head? hc)
  · exact fun c hc => hnone c (List.mem_of_mem_getLast? hc)

end Text

end StreamBalancer
