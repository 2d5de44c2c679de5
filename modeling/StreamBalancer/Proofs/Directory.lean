import Mathlib.Data.List.Nodup
import StreamBalancer.Directory

/-!
# StreamBalancer.Proofs.Directory

Directories in which no address has two entries.  Lookup, entries and addresses
then tell the same story, and entries are counted right.
-/

namespace StreamBalancer.Directory

/-- No address has two entries. -/
def Unique (d : Directory) : Prop := d.addresses.Nodup

theorem unique_empty : ({} : Directory).Unique := List.nodup_nil

theorem find?_eq_none_iff (d : Directory) (a : String) : d.find? a = none ↔ a ∉ d.addresses := by
  rw [find?, List.lookup_eq_none_iff]
  simp only [addresses, List.mem_map, not_exists, not_and, bne_iff_ne]
  exact ⟨fun h e he hea => h e he hea.symm, fun h e he hae => h e he hae.symm⟩

theorem contains_iff (d : Directory) (a : String) : d.contains a = true ↔ a ∈ d.addresses := by
  rw [contains, Option.isSome_iff_ne_none, ne_eq, find?_eq_none_iff, not_not]

theorem mem_entries_of_find? {d : Directory} {a : String} {b : Nat} (h : d.find? a = some b) :
    (a, b) ∈ d.entries := by
  obtain ⟨l, r, hd, -⟩ := List.lookup_eq_some_iff.1 h
  rw [hd]
  exact List.mem_append_right l List.mem_cons_self

/-- In a directory without repetitions, each entry is found under its address. -/
theorem Unique.find?_eq_some_iff {d : Directory} (hu : d.Unique) (a : String) (b : Nat) :
    d.find? a = some b ↔ (a, b) ∈ d.entries := by
  refine ⟨mem_entries_of_find?, fun h => ?_⟩
  obtain ⟨l, r, hd⟩ := List.append_of_mem h
  refine List.lookup_eq_some_iff.2 ⟨l, r, hd, fun p hp => ?_⟩
  rw [Unique, addresses, hd, List.map_append, List.map_cons, List.nodup_append] at hu
  exact bne_iff_ne.2 (hu.2.2 p.1 (List.mem_map_of_mem hp) a List.mem_cons_self).symm

theorem addresses_erase (d : Directory) (a : String) :
    (d.erase a).addresses = d.addresses.filter (· ≠ a) := by
  rw [erase, addresses, addresses, List.filter_map]
  rfl

theorem mem_addresses_erase (d : Directory) (a k : String) :
    k ∈ (d.erase a).addresses ↔ k ∈ d.addresses ∧ k ≠ a := by
  rw [addresses_erase, List.mem_filter, decide_eq_true_eq]

theorem mem_addresses_insert (d : Directory) (a k : String) (b : Nat) :
    k ∈ (d.insert a b).addresses ↔ k = a ∨ k ∈ d.addresses := by
  have hins : (d.insert a b).addresses = (d.erase a).addresses ++ [a] := by
    simp [insert, addresses]
  rw [hins, List.mem_append, mem_addresses_erase, List.mem_singleton]
  by_cases hk : k = a
  · simp [hk]
  · simp [hk]

theorem Unique.erase {d : Directory} (hu : d.Unique) (a : String) : (d.erase a).Unique := by
  rw [Unique, addresses_erase]
  exact List.Nodup.filter _ hu

theorem Unique.insert {d : Directory} (hu : d.Unique) (a : String) (b : Nat) :
    (d.insert a b).Unique := by
  have hins : (d.insert a b).addresses = (d.erase a).addresses ++ [a] := by
    simp [Directory.insert, addresses]
  rw [Unique, hins, List.nodup_append]
  refine ⟨hu.erase a, List.nodup_singleton a, fun k hk c hc => ?_⟩
  rw [mem_addresses_erase] at hk
  rw [List.mem_singleton.1 hc]
  exact hk.2

theorem size_erase_le (d : Directory) (a : String) : (d.erase a).size ≤ d.size :=
  List.length_filter_le _ _

/-- Taking out an entry that is there makes room for one. -/
theorem size_erase_lt {d : Directory} {a : String} (h : a ∈ d.addresses) :
    (d.erase a).size < d.size := by
  obtain ⟨e, he, rfl⟩ := List.mem_map.1 h
  refine List.length_filter_lt_length_iff_exists.2 ⟨e, he, ?_⟩
  simp

theorem erase_of_not_mem {d : Directory} {a : String} (h : a ∉ d.addresses) : d.erase a = d := by
  rw [erase]
  congr 1
  refine List.filter_eq_self.2 fun e he => decide_eq_true ?_
  exact fun heq => h (heq ▸ List.mem_map_of_mem he)

theorem size_insert {d : Directory} {a : String} (h : a ∉ d.addresses) (b : Nat) :
    (d.insert a b).size = d.size + 1 := by
  rw [insert, erase_of_not_mem h, size, size, List.length_append, List.length_singleton]

theorem contains_erase (d : Directory) {a k : String} (h : k ≠ a) :
    (d.erase a).contains k = d.contains k := by
  rw [contains, find?_erase, if_neg h, contains]

/-- Two entries may be taken out in any order. -/
theorem erase_comm (d : Directory) (a k : String) : (d.erase a).erase k = (d.erase k).erase a := by
  simp only [erase, List.filter_filter, Bool.and_comm]

end StreamBalancer.Directory
