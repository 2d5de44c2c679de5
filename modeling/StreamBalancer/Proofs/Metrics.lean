import StreamBalancer.Metrics

/-!
# StreamBalancer.Proofs.Metrics

Touching a series changes the value of that series and of no other.

* `value_add`, `value_count`, `value_set` — the value of any series afterwards.
* `set_of_value?` — to set a series twice is to set it once.
-/

namespace StreamBalancer.Metrics

theorem lookup_alter (f : Option Nat → Nat) (s t : Series) (l : List (Series × Nat)) :
    (alter f s l).lookup t = if t = s then some (f (l.lookup s)) else l.lookup t := by
  induction l with
  | nil =>
      by_cases h : t = s
      · simp [alter, h]
      · simp [alter, List.lookup_cons, h, beq_eq_false_iff_ne.2 h]
  | cons e rest ih =>
      obtain ⟨u, n⟩ := e
      rw [alter]
      by_cases hu : u = s
      · subst hu
        by_cases h : t = u
        · simp [h]
        · simp [List.lookup_cons, h, beq_eq_false_iff_ne.2 h]
      · have hsu : (s == u) = false := beq_eq_false_iff_ne.2 (Ne.symm hu)
        rw [if_neg hu, List.lookup_cons, List.lookup_cons, List.lookup_cons, hsu, ih]
        by_cases h : t = u
        · have hts : t ≠ s := fun hs => hu (h.symm.trans hs)
          simp [h, hu]
        · simp [beq_eq_false_iff_ne.2 h]

theorem value_add (m : Metrics) (s t : Series) (n : Nat) :
    (m.add s n).value t = if t = s then m.value t + n else m.value t := by
  rw [value, value?, add, lookup_alter]
  by_cases h : t = s
  · rw [if_pos h, if_pos h, h]
    rfl
  · rw [if_neg h, if_neg h]
    rfl

theorem value_count (m : Metrics) (s t : Series) :
    (m.count s).value t = if t = s then m.value t + 1 else m.value t := m.value_add s t 1

theorem value_set (m : Metrics) (s t : Series) (n : Nat) :
    (m.set s n).value t = if t = s then n else m.value t := by
  rw [value, value?, set, lookup_alter]
  by_cases h : t = s
  · rw [if_pos h, if_pos h]
    rfl
  · rw [if_neg h, if_neg h]
    rfl

theorem value?_set (m : Metrics) (s t : Series) (n : Nat) :
    (m.set s n).value? t = if t = s then some n else m.value? t :=
  lookup_alter (fun _ => n) s t m.values

/-- To set a series to the value that it has changes nothing. -/
theorem set_of_value? {m : Metrics} {s : Series} {n : Nat} (h : m.value? s = some n) :
    m.set s n = m := by
  have hsame : ∀ l : List (Series × Nat), l.lookup s = some n → alter (fun _ => n) s l = l := by
    intro l hl
    induction l with
    | nil => contradiction
    | cons e rest ih =>
        obtain ⟨u, k⟩ := e
        rw [alter]
        by_cases hu : u = s
        · subst hu
          rw [List.lookup_cons, beq_self_eq_true] at hl
          rw [if_pos rfl, Option.some.inj hl]
        · rw [List.lookup_cons, beq_eq_false_iff_ne.2 (Ne.symm hu)] at hl
          rw [if_neg hu, ih hl]
  rw [set, hsame m.values h]

end StreamBalancer.Metrics
