import Mathlib.Data.String.Basic
import StreamBalancer.Addresses

/-!
# StreamBalancer.Proofs.Addresses

A set of addresses is in strict byte order and holds what its list holds.
-/

namespace StreamBalancer.Addresses

theorem mem_insert (a b : String) (l : List String) : b ∈ insert a l ↔ b = a ∨ b ∈ l := by
  induction l with
  | nil => simp [insert]
  | cons c rest ih =>
      unfold insert
      split
      · rw [List.mem_cons]
      · split
        · next hac =>
          subst hac
          simp
        · rw [List.mem_cons, List.mem_cons, ih]
          exact or_left_comm

theorem sorted_insert {a : String} {l : List String} (h : l.Pairwise (· < ·)) :
    (insert a l).Pairwise (· < ·) := by
  induction l with
  | nil => exact List.pairwise_singleton _ _
  | cons c rest ih =>
      obtain ⟨hhead, hrest⟩ := List.pairwise_cons.1 h
      unfold insert
      split
      · next hac =>
        refine List.pairwise_cons.2 ⟨fun b hb => ?_, h⟩
        obtain rfl | hb := List.mem_cons.1 hb
        · exact hac
        · exact hac.trans (hhead b hb)
      · next hac =>
        split
        · exact h
        · next hne =>
          refine List.pairwise_cons.2 ⟨fun b hb => ?_, ih hrest⟩
          obtain rfl | hb := (mem_insert a b rest).1 hb
          · exact lt_of_le_of_ne (not_lt.1 hac) (Ne.symm hne)
          · exact hhead b hb

theorem mem_ofList (a : String) (l : List String) : a ∈ ofList l ↔ a ∈ l := by
  induction l with
  | nil => exact Iff.rfl
  | cons b rest ih => rw [ofList, mem_insert, ih, List.mem_cons]

theorem sorted_ofList (l : List String) : (ofList l).Pairwise (· < ·) := by
  induction l with
  | nil => exact .nil
  | cons a rest ih => exact sorted_insert ih

theorem nodup_ofList (l : List String) : (ofList l).Nodup :=
  (sorted_ofList l).imp fun h => ne_of_lt h

end StreamBalancer.Addresses
