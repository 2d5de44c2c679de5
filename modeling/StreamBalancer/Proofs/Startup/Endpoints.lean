import Mathlib.Data.List.Basic
import Mathlib.Data.List.Count
import StreamBalancer.Net.Bind

/-!
# StreamBalancer.Proofs.Startup.Endpoints

What binding and releasing an endpoint does to all that is bound.

1. An endpoint is bound only where nobody is, and to release it undoes that
   (`Bound.Binds.release_eq`).
2. All endpoints together are a list, `Bound.endpoints`: binding adds one, releasing takes one away
   (`Bound.endpoints_release`).
-/

namespace StreamBalancer

/-- A TCP endpoint is bound as one. -/
theorem ListenAddress.BoundAs.eq_tcp {address : String} {e : ListenAddress}
    (h : (ListenAddress.tcp address).BoundAs e) : e = .tcp e.address := by
  cases h
  rfl

namespace Bound

/-- The endpoints at which somebody is. -/
def endpoints (b : Bound) : List ListenAddress :=
  b.addresses.map .tcp ++ b.files.map .unix

variable {b b' : Bound} {a e : ListenAddress}

namespace Binds

/-- Nobody was there. -/
theorem not_mem (h : b.Binds e b') : e ∉ b.endpoints := by
  cases h with
  | tcp h => simpa [endpoints] using h
  | unix h => simpa [endpoints] using h

theorem endpoints_perm (h : b.Binds e b') : b'.endpoints.Perm (e :: b.endpoints) := by
  cases h with
  | tcp => simp [endpoints]
  | unix =>
      simp only [endpoints, List.map_append, List.map_cons, List.map_nil, ← List.append_assoc]
      exact List.perm_append_singleton ..

/-- **Releasing an endpoint undoes its binding.** -/
theorem release_eq (h : b.Binds e b') : b'.release e = b := by
  cases h with
  | tcp h => simp [release, List.erase_append_right _ h]
  | unix h => simp [release, List.erase_append_right _ h]

end Binds

/-- To release an endpoint takes it away once. -/
theorem endpoints_release (b : Bound) (e : ListenAddress) :
    (b.release e).endpoints = b.endpoints.erase e := by
  cases e with
  | tcp address =>
      have hfiles : .tcp address ∉ b.files.map ListenAddress.unix := by simp
      have hinjective : Function.Injective ListenAddress.tcp := fun _ _ h => ListenAddress.tcp.inj h
      simp only [endpoints, release, List.map_erase hinjective]
      by_cases hmem : .tcp address ∈ b.addresses.map ListenAddress.tcp
      · rw [List.erase_append_left _ hmem]
      · rw [List.erase_append_right _ hmem, List.erase_of_not_mem hmem, List.erase_of_not_mem hfiles]
  | unix path =>
      have haddresses : .unix path ∉ b.addresses.map ListenAddress.tcp := by simp
      have hinjective : Function.Injective ListenAddress.unix := fun _ _ h => ListenAddress.unix.inj h
      simp only [endpoints, release, List.map_erase hinjective, List.erase_append_right _ haddresses]

theorem endpoints_release_perm {rest : List ListenAddress} (h : b.endpoints.Perm (e :: rest)) :
    (b.release e).endpoints.Perm rest := by
  have herased := h.erase e
  rwa [List.erase_cons_head, ← endpoints_release] at herased

/-- So do all of some endpoints. -/
theorem endpoints_foldl_release (b : Bound) (released : List ListenAddress) :
    (released.foldl release b).endpoints = b.endpoints.diff released := by
  induction released generalizing b with
  | nil => rfl
  | cons e released ih => rw [List.foldl_cons, ih, endpoints_release, List.diff_cons]

/-- To release what is no longer among one's own leaves the others their endpoints. -/
theorem endpoints_release_diff {ours ours' theirs : List ListenAddress}
    (h : b.endpoints.Perm (ours ++ theirs)) (hfewer : ours'.Subperm ours) :
    ((ours.diff ours').foldl release b).endpoints.Perm (ours' ++ theirs) := by
  rw [endpoints_foldl_release, List.perm_iff_count]
  intro a
  have hall := h.count_eq a
  have hcount := hfewer.count_le a
  rw [List.count_append] at hall
  rw [List.count_append, List.count_diff, List.count_diff, hall]
  omega

end Bound

end StreamBalancer
