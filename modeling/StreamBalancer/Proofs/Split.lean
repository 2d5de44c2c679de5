import Mathlib.Data.List.Basic
import StreamBalancer.Text.Split

/-!
# StreamBalancer.Proofs.Split

Where text is cut.

1. A cut at the first occurrence of a separator is the one with the least text before it, and
   there is one if the separator occurs at all (`Text.cutAtFirst_eq_some_iff`,
   `Text.cutAtFirst_eq_none_iff`).
2. A cut at the last occurrence of a character leaves none of it behind
   (`Text.cutAtLast_eq_some_iff`, `Text.cutAtLast_eq_none_iff`).
3. Cuts at all occurrences of a character leave the texts without it that it joins
   (`Text.fields_eq_iff`).
-/

namespace StreamBalancer.Text

/-! ## The first occurrence -/

/-- A text is cut at the first occurrence of a separator. -/
structure FirstCut (sep cs before rest : List Char) : Prop where
  parts : cs = before ++ sep ++ rest
  first : ∀ before' rest', cs = before' ++ sep ++ rest' → before.length ≤ before'.length

variable {sep cs before rest before' rest' : List Char}

/-- There is only one such cut. -/
theorem FirstCut.unique (h : FirstCut sep cs before rest) (h' : FirstCut sep cs before' rest') :
    before = before' ∧ rest = rest' := by
  have hlength : before.length = before'.length :=
    Nat.le_antisymm (h.first _ _ h'.parts) (h'.first _ _ h.parts)
  have hparts : before ++ sep ++ rest = before' ++ sep ++ rest' := h.parts.symm.trans h'.parts
  rw [List.append_assoc, List.append_assoc] at hparts
  obtain ⟨hbefore, hrest⟩ := List.append_inj hparts hlength
  exact ⟨hbefore, List.append_cancel_left hrest⟩

theorem dropLeading?_eq_some_iff : dropLeading? sep cs = some rest ↔ cs = sep ++ rest := by
  induction sep generalizing cs with
  | nil => simp [dropLeading?]
  | cons s sep ih =>
    cases cs with
    | nil => simp [dropLeading?]
    | cons c cs =>
      rw [dropLeading?, List.cons_append, List.cons.injEq]
      split
      · next heq => rw [ih, and_iff_right heq.symm]
      · next hne => exact ⟨fun h => by contradiction, fun h => absurd h.1.symm hne⟩

/-- A text that does not start with the separator is cut behind its first character. -/
theorem firstCut_cons {c : Char} (hno : ∀ rest, c :: cs ≠ sep ++ rest)
    (h : FirstCut sep cs before rest) : FirstCut sep (c :: cs) (c :: before) rest where
  parts := by rw [h.parts]; rfl
  first before' rest' heq := by
    cases before' with
    | nil => exact absurd heq (hno rest')
    | cons d before' => exact Nat.succ_le_succ (h.first _ _ (List.cons.inj heq).2)

theorem firstCut_of_cutAtFirst (h : cutAtFirst sep cs = some (before, rest)) :
    FirstCut sep cs before rest := by
  induction cs generalizing before with
  | nil =>
    obtain ⟨rest, hdrop, heq⟩ := Option.map_eq_some_iff.1 h
    cases heq
    exact ⟨dropLeading?_eq_some_iff.1 hdrop, fun _ _ _ => Nat.zero_le _⟩
  | cons c cs ih =>
    unfold cutAtFirst at h
    split at h
    · next hdrop =>
      cases h
      exact ⟨dropLeading?_eq_some_iff.1 hdrop, fun _ _ _ => Nat.zero_le _⟩
    · next hnone =>
      obtain ⟨⟨before, rest⟩, hcut, heq⟩ := Option.map_eq_some_iff.1 h
      cases heq
      refine firstCut_cons (fun rest heq => ?_) (ih hcut)
      rw [dropLeading?_eq_some_iff.2 heq] at hnone
      contradiction

/-- A text that starts with the separator is cut there. -/
theorem cutAtFirst_of_leading (h : cs = sep ++ rest) : cutAtFirst sep cs = some ([], rest) := by
  have hdrop := dropLeading?_eq_some_iff.2 h
  cases cs with
  | nil => rw [cutAtFirst, hdrop, Option.map_some]
  | cons c cs => rw [cutAtFirst, hdrop]

theorem cutAtFirst_append_ne_none : cutAtFirst sep (before ++ sep ++ rest) ≠ none := by
  induction before with
  | nil =>
    have hcut : cutAtFirst sep ([] ++ sep ++ rest) = some ([], rest) := cutAtFirst_of_leading rfl
    exact hcut ▸ Option.some_ne_none _
  | cons c before ih =>
    rw [List.cons_append, List.cons_append, cutAtFirst]
    split
    · exact Option.some_ne_none _
    · exact fun hnone => ih (Option.map_eq_none_iff.1 hnone)

/-- There is no cut only where the separator does not occur. -/
theorem cutAtFirst_eq_none_iff :
    cutAtFirst sep cs = none ↔ ∀ before rest, cs ≠ before ++ sep ++ rest := by
  refine ⟨fun hnone before rest heq => cutAtFirst_append_ne_none (heq ▸ hnone), fun hno => ?_⟩
  cases hcut : cutAtFirst sep cs with
  | none => rfl
  | some cut => exact absurd (firstCut_of_cutAtFirst hcut).parts (hno _ _)

theorem cutAtFirst_eq_some_iff :
    cutAtFirst sep cs = some (before, rest) ↔ FirstCut sep cs before rest := by
  refine ⟨firstCut_of_cutAtFirst, fun h => ?_⟩
  cases hcut : cutAtFirst sep cs with
  | none => exact absurd h.parts (cutAtFirst_eq_none_iff.1 hcut _ _)
  | some cut =>
    obtain ⟨hbefore, hrest⟩ := (firstCut_of_cutAtFirst hcut).unique h
    rw [← hbefore, ← hrest]

/-- A text without the first character of the separator is before the cut. -/
theorem firstCut_of_not_mem {c : Char} (h : c ∉ before) :
    FirstCut (c :: sep) (before ++ c :: sep ++ rest) before rest where
  parts := rfl
  first before' rest' heq := by
    by_contra hshorter
    have hbefore : before <+: before ++ c :: sep ++ rest := by simp
    have hbefore' : before' ++ [c] <+: before ++ c :: sep ++ rest := by simp [heq]
    have hlength : (before' ++ [c]).length ≤ before.length := by
      rw [List.length_append, List.length_singleton]
      omega
    obtain ⟨_, rfl⟩ := List.prefix_of_prefix_length_le hbefore' hbefore hlength
    simp at h

/-! ## The last occurrence -/

theorem cutAtLast_eq_none_iff {sep : Char} : cutAtLast sep cs = none ↔ sep ∉ cs := by
  induction cs with
  | nil => simp [cutAtLast]
  | cons c cs ih =>
    rw [cutAtLast, List.mem_cons, not_or, ← ih]
    cases cutAtLast sep cs <;> simp [eq_comm]

/-- What follows the separator holds no other one. -/
theorem cutAtLast_append {sep : Char} (hrest : sep ∉ rest) :
    cutAtLast sep (before ++ sep :: rest) = some (before, rest) := by
  induction before with
  | nil => simp [cutAtLast, cutAtLast_eq_none_iff.2 hrest]
  | cons c before ih => rw [List.cons_append, cutAtLast, ih]

theorem cutAtLast_eq_some_iff {sep : Char} :
    cutAtLast sep cs = some (before, rest) ↔ cs = before ++ sep :: rest ∧ sep ∉ rest := by
  refine ⟨fun h => ?_, fun h => h.1 ▸ cutAtLast_append h.2⟩
  induction cs generalizing before with
  | nil => contradiction
  | cons c cs ih =>
    rw [cutAtLast] at h
    split at h
    · next hcut =>
      cases h
      obtain ⟨rfl, hrest⟩ := ih hcut
      exact ⟨rfl, hrest⟩
    · next hnone =>
      split at h
      · next heq =>
        cases h
        exact ⟨by rw [heq]; rfl, cutAtLast_eq_none_iff.1 hnone⟩
      · contradiction

/-! ## All occurrences -/

theorem fields_ne_nil (sep : Char) (cs : List Char) : fields sep cs ≠ [] := by
  unfold fields
  split
  · exact List.cons_ne_nil _ _
  · split
    · exact List.cons_ne_nil _ _
    · split <;> exact List.cons_ne_nil _ _

theorem fields_cons_of_ne {sep c : Char} (h : c ≠ sep) :
    fields sep (c :: cs) = (fields sep cs).modifyHead (c :: ·) := by
  rw [fields, if_neg h]
  cases hfields : fields sep cs with
  | nil => exact absurd hfields (fields_ne_nil sep cs)
  | cons field rest => rfl

theorem fields_eq_splitOn (sep : Char) (cs : List Char) : fields sep cs = cs.splitOn sep := by
  rw [List.splitOn_eq_splitOnP]
  induction cs with
  | nil => rfl
  | cons c cs ih =>
    rw [List.splitOnP_cons_eq_if_modifyHead, ← ih]
    by_cases hc : c = sep
    · rw [fields, if_pos hc, if_pos (beq_iff_eq.2 hc)]
    · rw [fields_cons_of_ne hc, if_neg (mt beq_iff_eq.1 hc)]

theorem not_mem_of_mem_fields {sep : Char} {field : List Char} (h : field ∈ fields sep cs) :
    sep ∉ field := by
  induction cs generalizing field with
  | nil => exact List.mem_singleton.1 h ▸ List.not_mem_nil
  | cons c cs ih =>
    by_cases hc : c = sep
    · rw [fields, if_pos hc] at h
      obtain rfl | h := List.mem_cons.1 h
      · exact List.not_mem_nil
      · exact ih h
    · obtain ⟨first, rest, hfields⟩ := List.exists_cons_of_ne_nil (fields_ne_nil sep cs)
      rw [fields_cons_of_ne hc, hfields, List.modifyHead_cons] at h
      rw [hfields] at ih
      obtain rfl | h := List.mem_cons.1 h
      · exact List.not_mem_cons_of_ne_of_not_mem (Ne.symm hc) (ih List.mem_cons_self)
      · exact ih (List.mem_cons_of_mem _ h)

/-- The fields of a text are the texts without the separator that it joins. -/
theorem fields_eq_iff {sep : Char} {texts : List (List Char)} :
    fields sep cs = texts ↔
      texts ≠ [] ∧ (∀ text ∈ texts, sep ∉ text) ∧ [sep].intercalate texts = cs := by
  rw [fields_eq_splitOn]
  constructor
  · rintro rfl
    refine ⟨List.splitOn_ne_nil _ _, fun text htext => ?_, List.intercalate_splitOn sep⟩
    rw [← fields_eq_splitOn] at htext
    exact not_mem_of_mem_fields htext
  · rintro ⟨hne, hnone, rfl⟩
    exact List.splitOn_intercalate sep hnone hne

end StreamBalancer.Text
