import Mathlib.Data.List.DropRight
import StreamBalancer.Text.Blank

/-!
# StreamBalancer.Proofs.Trim

What is left of a text that is trimmed.

1. Blanks are the characters of white space (`Text.isBlank_iff`).
2. Characters of one kind before a text and characters of another kind behind it come off, up to
   the first and the last character that is of neither (`Text.dropWhile_append_of_head`,
   `Text.rdropWhile_append_of_last`).
3. What is left is the only core that the text has between such characters (`Text.strip_eq_iff`),
   and so for white space at both ends (`Text.trim_eq_iff`).
-/

namespace StreamBalancer.Text

variable {p q : Char → Bool} {P Q : Char → Prop} {cs core before after : List Char}

/-! ## White space -/

/-- The code points with the property `White_Space`. -/
def whiteSpace : List Nat :=
  [0x9, 0xA, 0xB, 0xC, 0xD, 0x20, 0x85, 0xA0, 0x1680, 0x2000, 0x2001, 0x2002, 0x2003, 0x2004,
    0x2005, 0x2006, 0x2007, 0x2008, 0x2009, 0x200A, 0x2028, 0x2029, 0x202F, 0x205F, 0x3000]

/-- A character of white space. -/
def IsWhite (c : Char) : Prop := c.toNat ∈ whiteSpace

instance : DecidablePred IsWhite := fun c => inferInstanceAs (Decidable (c.toNat ∈ whiteSpace))

theorem isBlank_iff (c : Char) : isBlank c = true ↔ IsWhite c := by
  simp only [isBlank, IsWhite, whiteSpace, Bool.or_eq_true, Bool.and_eq_true, decide_eq_true_eq,
    beq_iff_eq, List.mem_cons, List.not_mem_nil, or_false]
  omega

/-! ## One end -/

theorem dropWhile_append_of_head (hbefore : ∀ c ∈ before, p c = true)
    (hhead : ∀ c ∈ cs.head?, ¬ p c = true) : (before ++ cs).dropWhile p = cs := by
  rw [List.dropWhile_append_of_pos hbefore]
  cases cs with
  | nil => rfl
  | cons c cs => exact List.dropWhile_cons_of_neg (hhead c rfl)

theorem rdropWhile_append_of_last (hafter : ∀ c ∈ after, q c = true)
    (hlast : ∀ c ∈ cs.getLast?, ¬ q c = true) : (cs ++ after).rdropWhile q = cs := by
  rw [List.rdropWhile, List.reverse_append, dropWhile_append_of_head, List.reverse_reverse]
  · exact fun c hc => hafter c (List.mem_reverse.1 hc)
  · rwa [List.head?_reverse]

/-! ## Both ends -/

/-- A text is a core between characters of one kind before it and of another kind behind it, and
the core neither begins with the ones nor ends with the others. -/
structure Framed (P Q : Char → Prop) (cs core : List Char) : Prop where
  parts : ∃ before after, (∀ c ∈ before, P c) ∧ (∀ c ∈ after, Q c) ∧ cs = before ++ core ++ after
  head : ∀ c ∈ core.head?, ¬ P c
  last : ∀ c ∈ core.getLast?, ¬ Q c

theorem framed_strip (p q : Char → Bool) (cs : List Char) :
    Framed (p · = true) (q · = true) cs ((cs.dropWhile p).rdropWhile q) where
  parts := by
    refine ⟨cs.takeWhile p, (cs.dropWhile p).rtakeWhile q, fun c => List.mem_takeWhile_imp,
      fun c => List.mem_rtakeWhile_imp, ?_⟩
    rw [List.append_assoc, List.rdropWhile_append_rtakeWhile, List.takeWhile_append_dropWhile]
  head c hc := by
    -- what is left begins like the text from which only the end is still to come off
    obtain ⟨after, hafter⟩ := List.rdropWhile_prefix q (cs.dropWhile p)
    have hhead := List.head?_dropWhile_not p cs
    rw [← hafter, List.head?_append, Option.mem_def.1 hc] at hhead
    simpa using hhead
  last c hc := by
    have hlast := List.head?_dropWhile_not q (cs.dropWhile p).reverse
    rw [List.rdropWhile, List.getLast?_reverse, Option.mem_def] at hc
    rw [hc] at hlast
    simpa using hlast

theorem Framed.strip_eq (h : Framed (p · = true) (q · = true) cs core) :
    (cs.dropWhile p).rdropWhile q = core := by
  obtain ⟨⟨before, after, hbefore, hafter, rfl⟩, hhead, hlast⟩ := h
  rw [List.append_assoc]
  cases core with
  | nil =>
    -- the kinds may overlap, so the start may take of what is behind the core
    rw [List.nil_append, List.dropWhile_append_of_pos hbefore, List.rdropWhile_eq_nil_iff]
    exact fun c hc => hafter c (List.dropWhile_subset _ hc)
  | cons c core =>
    have hstart : (before ++ (c :: core ++ after)).dropWhile p = c :: core ++ after :=
      dropWhile_append_of_head hbefore hhead
    rw [hstart, rdropWhile_append_of_last hafter hlast]

theorem strip_eq_iff (hp : ∀ c, p c = true ↔ P c) (hq : ∀ c, q c = true ↔ Q c) :
    (cs.dropWhile p).rdropWhile q = core ↔ Framed P Q cs core := by
  obtain rfl : (p · = true) = P := funext fun c => propext (hp c)
  obtain rfl : (q · = true) = Q := funext fun c => propext (hq c)
  exact ⟨fun h => h ▸ framed_strip p q cs, Framed.strip_eq⟩

/-- Trimming leaves the core that a text has between white space. -/
theorem trim_eq_iff : trim cs = core ↔ Framed IsWhite IsWhite cs core :=
  strip_eq_iff isBlank_iff isBlank_iff

end StreamBalancer.Text
