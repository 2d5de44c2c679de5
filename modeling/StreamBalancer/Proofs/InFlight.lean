import Mathlib.Algebra.Ring.Nat
import Mathlib.Data.List.Nodup
import Mathlib.Logic.Function.Basic
import Mathlib.Logic.Relation
import Mathlib.Order.Basic
import Mathlib.Order.Bounds.Defs
import StreamBalancer.InFlight

/-!
# StreamBalancer.Proofs.InFlight

The count of connections in flight, and how a drain ends.

1. A count goes with its guards, whatever happens to them, and there are never so many that it wraps
   (`InFlight.Sound`).  A drain only drops guards and waits, so this is so at every moment of it
   (`InFlight.passes_drain`).
2. A look finds the count at zero if and only if no guard is alive then, since no drop falls on the
   look (`InFlight.Apart.active_eq_zero_iff`).  From look to look this decides the drain
   (`InFlight.drainFrom_eq`).
3. Trackers that were cloned from each other share one count, which is kept by its guards
   (`Trackers.Step`).

* `Trackers.Reached.drained_exactly` — at every moment each tracker shows the number of guards alive
  that were made through it and its clones, and a drain ends with the first look at which there is
  none, or else when its time is over.
-/

namespace StreamBalancer

namespace InFlight

variable {t t' : InFlight} {g : Nat}

/-! ## The count -/

/-- What happens to a count apart from new guards. -/
inductive Passes (t : InFlight) : InFlight → Prop where
  /-- A guard is dropped. -/
  | drop {g : Nat} (hheld : g ∈ t.held) : Passes t (t.release g).2
  /-- It is decided which guards are dropped when. -/
  | plan (releases : List Release) : Passes t { t with releases }
  /-- Time passes. -/
  | wait {now : Nat} (hlater : t.now ≤ now) : Passes t { t with now }

/-- How many guards can have a share in a count.  Shares are counted in a signed word, and the
program ends rather than count further. -/
def maxGuards : Nat := 2 ^ 63

/-- What is so of a count at every moment. -/
structure Sound (t : InFlight) : Prop where
  count : t.active = UInt64.ofNat t.held.length
  fits : t.held.length ≤ maxGuards
  nodup : t.held.Nodup
  known : ∀ g ∈ t.held, g < t.tracked

theorem held_release (t : InFlight) (g : Nat) : (t.release g).2.held = t.held.erase g := by
  unfold release
  split
  · rfl
  · next hnot => exact (List.erase_of_not_mem (by simpa using hnot)).symm

theorem release_of_not_mem (h : g ∉ t.held) : (t.release g).2 = t := by
  rw [release, if_neg (by simpa using h)]

/-- Dropping a guard changes the count and who is held, and nothing else. -/
theorem release_keeps (t : InFlight) (g : Nat) :
    (t.release g).2.releases = t.releases ∧ (t.release g).2.tracked = t.tracked ∧
      (t.release g).2.now = t.now := by
  unfold release
  split <;> exact ⟨rfl, rfl, rfl⟩

theorem sound_start : Sound {} := ⟨rfl, by decide, List.nodup_nil, by simp⟩

theorem length_held_track (t : InFlight) : t.track.2.held.length = t.held.length + 1 :=
  List.length_append

theorem Sound.active_track (h : t.Sound) :
    t.track.2.active = UInt64.ofNat (t.held.length + 1) := by
  rw [UInt64.ofNat_add, ← h.count]
  rfl

theorem Sound.track (h : t.Sound) (hroom : t.held.length < maxGuards) : t.track.2.Sound where
  count := by rw [h.active_track, length_held_track]
  fits := by
    rw [length_held_track]
    exact hroom
  nodup := by
    refine List.nodup_append.2 ⟨h.nodup, List.nodup_singleton _, fun g hg b hb => ?_⟩
    have := h.known g hg
    rw [List.mem_singleton.1 hb]
    omega
  known g hg := by
    obtain hg | hg := List.mem_append.1 hg
    · exact Nat.lt_succ_of_lt (h.known g hg)
    · rw [List.mem_singleton.1 hg]
      exact Nat.lt_succ_self _

theorem Sound.release (h : t.Sound) (hheld : g ∈ t.held) : (t.release g).2.Sound where
  count := by
    have hpos : 1 ≤ t.held.length := List.length_pos_of_mem hheld
    rw [held_release, List.length_erase_of_mem hheld, UInt64.ofNat_sub hpos, ← h.count,
      InFlight.release, if_pos (by simpa using hheld)]
    rfl
  fits := by
    rw [held_release]
    exact Nat.le_trans (List.length_erase_le ..) h.fits
  nodup := by
    rw [held_release]
    exact h.nodup.erase g
  known a ha := by
    rw [held_release] at ha
    rw [(release_keeps t g).2.1]
    exact h.known a (List.mem_of_mem_erase ha)

theorem Sound.passes (h : t.Sound) (hpasses : t.Passes t') : t'.Sound := by
  cases hpasses with
  | drop hheld => exact h.release hheld
  | plan releases => exact ⟨h.count, h.fits, h.nodup, h.known⟩
  | wait hlater => exact ⟨h.count, h.fits, h.nodup, h.known⟩

theorem Sound.all_passes (h : t.Sound) (hpasses : Relation.ReflTransGen Passes t t') :
    t'.Sound := by
  induction hpasses with
  | refl => exact h
  | tail _ hpasses ih => exact ih.passes hpasses

/-! ## Drops -/

theorem passes_foldl_release (plan : List Release) (t : InFlight) :
    Relation.ReflTransGen Passes t (plan.foldl (fun t r => (t.release r.guard).2) t) := by
  induction plan generalizing t with
  | nil => exact .refl
  | cons r plan ih =>
    rw [List.foldl_cons]
    by_cases hheld : r.guard ∈ t.held
    · exact .head (.drop hheld) (ih _)
    · rw [release_of_not_mem hheld]
      exact ih t

theorem passes_releaseDue (t : InFlight) (isDue : Nat → Bool) :
    Relation.ReflTransGen Passes t (t.releaseDue isDue) :=
  .head (.plan _) (passes_foldl_release _ _)

theorem foldl_release_keeps (plan : List Release) (t : InFlight) :
    (plan.foldl (fun t r => (t.release r.guard).2) t).releases = t.releases ∧
      (plan.foldl (fun t r => (t.release r.guard).2) t).now = t.now := by
  induction plan generalizing t with
  | nil => exact ⟨rfl, rfl⟩
  | cons r plan ih =>
    obtain ⟨hreleases, -, hnow⟩ := release_keeps t r.guard
    exact ⟨(ih _).1.trans hreleases, (ih _).2.trans hnow⟩

theorem now_releaseDue (t : InFlight) (isDue : Nat → Bool) : (t.releaseDue isDue).now = t.now :=
  (foldl_release_keeps _ _).2

theorem passes_endDrain {time : Nat} (h : t.now ≤ time) :
    Relation.ReflTransGen Passes t (t.endDrain time) :=
  .tail (passes_releaseDue t _) (.wait ((now_releaseDue t _).trans_le h))

theorem passes_drainFrom {start : Nat} (h : t.now ≤ start) (timeout left elapsed : Nat) :
    Relation.ReflTransGen Passes t (drainFrom start timeout left elapsed t).2 := by
  induction left generalizing elapsed t with
  | zero =>
    unfold drainFrom
    split <;> exact passes_endDrain (Nat.le_add_right_of_le h)
  | succ left ih =>
    unfold drainFrom
    split
    · exact passes_endDrain (Nat.le_add_right_of_le h)
    · exact (passes_releaseDue t _).trans (ih ((now_releaseDue t _).trans_le h) _)

/-- A drain drops guards and waits, and does nothing else. -/
theorem passes_drain (t : InFlight) (timeout : Nat) :
    Relation.ReflTransGen Passes t (t.drain timeout).2 :=
  passes_drainFrom (Nat.le_refl t.now) timeout _ _

theorem mem_held_foldl_release {plan : List Release} (hnodup : t.held.Nodup) :
    g ∈ (plan.foldl (fun t r => (t.release r.guard).2) t).held ↔
      g ∈ t.held ∧ ∀ r ∈ plan, r.guard ≠ g := by
  induction plan generalizing t with
  | nil => simp
  | cons r plan ih =>
    have hnodup' : (t.release r.guard).2.held.Nodup := by
      rw [held_release]
      exact hnodup.erase r.guard
    rw [List.foldl_cons, ih hnodup', held_release, hnodup.mem_erase_iff, List.forall_mem_cons]
    grind

theorem mem_held_releaseDue (h : t.Sound) {isDue : Nat → Bool} :
    g ∈ (t.releaseDue isDue).held ↔
      g ∈ t.held ∧ ∀ r ∈ t.releases, isDue r.time = true → r.guard ≠ g := by
  rw [releaseDue, mem_held_foldl_release (h.passes (.plan _)).nodup]
  simp only [List.mem_filter, and_imp]

theorem mem_releases_releaseDue {isDue : Nat → Bool} {r : Release} :
    r ∈ (t.releaseDue isDue).releases ↔ r ∈ t.releases ∧ isDue r.time = false := by
  rw [releaseDue, (foldl_release_keeps _ _).1, List.mem_filter, Bool.not_eq_true']

/-! ## Looks -/

/-- No guard is alive at a point in time, if none is made until then. -/
def Quiet (t : InFlight) (time : Nat) : Prop :=
  ∀ g ∈ t.held, ∃ r ∈ t.releases, r.guard = g ∧ r.time ≤ time

instance (t : InFlight) (time : Nat) : Decidable (t.Quiet time) :=
  inferInstanceAs (Decidable (∀ g ∈ t.held, ∃ r ∈ t.releases, r.guard = g ∧ r.time ≤ time))

/-- All drops come after a look, and none of them falls on one of so many looks after it. -/
def Apart (t : InFlight) (look left : Nat) : Prop :=
  ∀ r ∈ t.releases, r.guard ∈ t.held →
    look < r.time ∧ ∀ j ≤ left, r.time ≠ look + 100 * j

/-- What is left of a count at a look. -/
def atLook (t : InFlight) (look : Nat) : InFlight := t.releaseDue fun time => time < look

theorem Sound.atLook (h : t.Sound) (look : Nat) : (t.atLook look).Sound :=
  h.all_passes (passes_releaseDue t _)

variable {look time : Nat}

/-- Who is alive later is the same from there. -/
theorem quiet_atLook (h : t.Sound) (hle : look ≤ time) :
    (t.atLook look).Quiet time ↔ t.Quiet time := by
  constructor
  · intro hquiet g hg
    by_cases hnow : ∃ r ∈ t.releases, r.time < look ∧ r.guard = g
    · obtain ⟨r, hr, hdue, hguard⟩ := hnow
      exact ⟨r, hr, hguard, Nat.le_trans (Nat.le_of_lt hdue) hle⟩
    · have hheld : g ∈ (t.atLook look).held := (mem_held_releaseDue h).2
        ⟨hg, fun r hr hdue hguard => hnow ⟨r, hr, of_decide_eq_true hdue, hguard⟩⟩
      obtain ⟨r, hr, hguard, htime⟩ := hquiet g hheld
      exact ⟨r, (mem_releases_releaseDue.1 hr).1, hguard, htime⟩
  · intro hquiet g hg
    obtain ⟨hheld, hlater⟩ := (mem_held_releaseDue h).1 hg
    obtain ⟨r, hr, hguard, htime⟩ := hquiet g hheld
    have hnotDue : decide (r.time < look) = false :=
      Bool.eq_false_iff.2 fun hdue => hlater r hr hdue hguard
    exact ⟨r, mem_releases_releaseDue.2 ⟨hr, hnotDue⟩, hguard, htime⟩

/-- No drop that is left falls on one of the looks that are left. -/
theorem Apart.next {left : Nat} (hapart : t.Apart look (left + 1)) (h : t.Sound) :
    (t.atLook (look + 100)).Apart (look + 100) left := by
  intro r hr hheld
  obtain ⟨hr, hlate⟩ := mem_releases_releaseDue.1 hr
  obtain ⟨-, hnot⟩ := hapart r hr ((mem_held_releaseDue h).1 hheld).1
  have hnext := hnot 1 (by omega)
  have hlate' : ¬ r.time < look + 100 := of_decide_eq_false hlate
  refine ⟨by omega, fun j hj => ?_⟩
  have := hnot (j + 1) (by omega)
  omega

/-- A count does not wrap. -/
theorem Sound.toNat_active (h : t.Sound) : t.active.toNat = t.held.length := by
  have hfits : t.held.length ≤ 2 ^ 63 := h.fits
  rw [h.count, UInt64.toNat_ofNat', Nat.mod_eq_of_lt (by omega)]

/-- A look finds the count at zero if and only if no guard is alive then. -/
theorem Apart.active_eq_zero_iff {left : Nat} (hapart : t.Apart look left) (h : t.Sound) :
    t.active = 0 ↔ t.Quiet look := by
  rw [← UInt64.toNat_inj, h.toNat_active]
  change t.held.length = 0 ↔ _
  rw [List.length_eq_zero_iff]
  constructor
  · intro hnone g hg
    rw [hnone] at hg
    contradiction
  · intro hquiet
    refine List.eq_nil_iff_forall_not_mem.2 fun g hg => ?_
    obtain ⟨r, hr, rfl, htime⟩ := hquiet g hg
    have hlater := (hapart r hr hg).1
    omega

variable {start timeout left elapsed : Nat}

theorem drainFrom_of_zero (h : t.active = 0) :
    (drainFrom start timeout left elapsed t).1 = ⟨true, elapsed⟩ := by
  cases left <;> rw [drainFrom, if_pos h]

theorem drainFrom_last (h : t.active ≠ 0) :
    (drainFrom start timeout 0 elapsed t).1 = ⟨false, timeout⟩ := by
  rw [drainFrom, if_neg h]

theorem drainFrom_next (h : t.active ≠ 0) :
    drainFrom start timeout (left + 1) elapsed t =
      drainFrom start timeout left (elapsed + 100) (t.atLook (start + elapsed + 100)) := by
  rw [drainFrom, if_neg h]
  rfl

variable (timeout) in
/-- From a look on, a drain ends with the first look at which no guard is alive, if there is one
in time. -/
theorem drainFrom_eq (h : t.Sound) (hlook : start + elapsed = look) (hapart : t.Apart look left) :
    (∀ k ≤ left, t.Quiet (look + 100 * k) → (∀ j < k, ¬ t.Quiet (look + 100 * j)) →
      (drainFrom start timeout left elapsed t).1 = ⟨true, elapsed + 100 * k⟩) ∧
    ((∀ k ≤ left, ¬ t.Quiet (look + 100 * k)) →
      (drainFrom start timeout left elapsed t).1 = ⟨false, timeout⟩) := by
  induction left generalizing elapsed look t with
  | zero =>
    have hnow := hapart.active_eq_zero_iff h
    refine ⟨fun k hk hquiet _ => ?_, fun hbusy => ?_⟩
    · obtain rfl := Nat.le_zero.1 hk
      exact drainFrom_of_zero (hnow.2 hquiet)
    · exact drainFrom_last fun hzero => hbusy 0 (Nat.le_refl 0) (hnow.1 hzero)
  | succ left ih =>
    have hnow := hapart.active_eq_zero_iff h
    by_cases hzero : t.active = 0
    · refine ⟨fun k hk _ hfirst => ?_, fun hbusy => absurd (hnow.1 hzero) (hbusy 0 (by omega))⟩
      obtain rfl | hpos := Nat.eq_zero_or_pos k
      · exact drainFrom_of_zero hzero
      · exact absurd (hnow.1 hzero) (hfirst 0 hpos)
    · rw [drainFrom_next hzero, hlook]
      -- the looks that are left are counted from the next one
      have hshift : ∀ k, (t.atLook (look + 100)).Quiet (look + 100 + 100 * k) ↔
          t.Quiet (look + 100 * (k + 1)) := by
        intro k
        rw [quiet_atLook h (by omega), Nat.mul_succ, Nat.add_right_comm]
        rfl
      have hlook' : start + (elapsed + 100) = look + 100 := by omega
      obtain ⟨hquiet, hbusy⟩ := ih (h.atLook (look + 100)) hlook' (hapart.next h)
      refine ⟨fun k hk hk' hfirst => ?_, fun hall => ?_⟩
      · cases k with
        | zero => exact absurd (hnow.2 hk') hzero
        | succ k =>
          rw [hquiet k (by omega) ((hshift k).2 hk') fun j hj hj' =>
            hfirst (j + 1) (by omega) ((hshift j).1 hj')]
          rw [Nat.mul_succ, Nat.add_right_comm, Nat.add_assoc]
      · exact hbusy fun k hk hk' => hall (k + 1) (by omega) ((hshift k).1 hk')

/-! ## Drains -/

/-- What a count is good for. -/
structure Exact (t : InFlight) : Prop where
  /-- It is the number of guards alive. -/
  count : t.active.toNat = t.held.length
  /-- Another guard is one more, so the count does not wrap. -/
  tracks : t.track.2.active.toNat = t.active.toNat + 1
  /-- Each drop is one less, so it does not wrap either. -/
  drops : ∀ g ∈ t.held, (t.release g).2.active.toNat + 1 = t.active.toNat
  /-- A drain ends with the first look at which no guard is alive, if that is in time. -/
  drains : ∀ timeout, t.Apart t.now (timeout / 100) →
    ∀ k, IsLeast {k | t.Quiet (t.now + 100 * k)} k →
    (t.drain timeout).1 = if 100 * k ≤ timeout then ⟨true, 100 * k⟩ else ⟨false, timeout⟩
  /-- If there is no such look, it takes all its time. -/
  waits : ∀ timeout, t.Apart t.now (timeout / 100) → (∀ k, ¬ t.Quiet (t.now + 100 * k)) →
    (t.drain timeout).1 = ⟨false, timeout⟩

theorem Sound.exact (h : t.Sound) : t.Exact := by
  have hdrain : ∀ timeout, t.Apart t.now (timeout / 100) →
      (∀ k ≤ timeout / 100, t.Quiet (t.now + 100 * k) → (∀ j < k, ¬ t.Quiet (t.now + 100 * j)) →
        (t.drain timeout).1 = ⟨true, 100 * k⟩) ∧
      ((∀ k ≤ timeout / 100, ¬ t.Quiet (t.now + 100 * k)) →
        (t.drain timeout).1 = ⟨false, timeout⟩) := by
    intro timeout hapart
    have hlooks := drainFrom_eq timeout h (Nat.add_zero t.now) hapart
    simpa only [drain, lookInterval, Nat.zero_add] using hlooks
  constructor
  · exact h.toNat_active
  · have hfits : t.held.length ≤ 2 ^ 63 := h.fits
    rw [h.active_track, UInt64.toNat_ofNat', Nat.mod_eq_of_lt (by omega), h.toNat_active]
  · intro g hg
    rw [(h.release hg).toNat_active, h.toNat_active, held_release, List.length_erase_of_mem hg]
    exact Nat.sub_add_cancel (List.length_pos_of_mem hg)
  · rintro timeout hapart k ⟨hquiet, hleast⟩
    have hfirst : ∀ j < k, ¬ t.Quiet (t.now + 100 * j) :=
      fun j hj hj' => Nat.not_le_of_lt hj (hleast hj')
    split
    · next htime => exact (hdrain timeout hapart).1 k (by omega) hquiet hfirst
    · next htime => exact (hdrain timeout hapart).2 fun j hj => hfirst j (by omega)
  · exact fun timeout hapart hbusy => (hdrain timeout hapart).2 fun k _ => hbusy k

end InFlight

/-! ## Trackers -/

/-- Trackers by number, each with a share in a count. -/
structure Trackers where
  /-- The counts. -/
  counts : Nat → InFlight := fun _ => {}
  /-- How many counts there have been. -/
  made : Nat := 0
  /-- Which count a tracker has a share in, as long as it exists. -/
  share : Nat → Option Nat := fun _ => none
  /-- How many trackers there have been. -/
  handed : Nat := 0

namespace Trackers

variable {s s' : Trackers}

/-- The count that a tracker shows. -/
def shown (s : Trackers) (i : Nat) : Option InFlight := (s.share i).map s.counts

/-- A count has changed. -/
def put (s : Trackers) (c : Nat) (t : InFlight) : Trackers :=
  { s with counts := Function.update s.counts c t }

/-- What happens to trackers, their counts and the guards. -/
inductive Step (s : Trackers) : Trackers → Prop where
  /-- A tracker of its own. -/
  | create : Step s
      { s.put s.made {} with
        made := s.made + 1
        share := Function.update s.share s.handed (some s.made)
        handed := s.handed + 1 }
  /-- A clone has a share in the same count. -/
  | clone {i c : Nat} (hshare : s.share i = some c) : Step s
      { s with share := Function.update s.share s.handed (some c), handed := s.handed + 1 }
  /-- A tracker goes, but its guards do not. -/
  | discard (i : Nat) : Step s { s with share := Function.update s.share i none }
  /-- A guard is made, if it can have a share. -/
  | track {i c : Nat} (hshare : s.share i = some c)
      (hroom : (s.counts c).held.length < InFlight.maxGuards) :
      Step s (s.put c (s.counts c).track.2)
  /-- Anything else that happens to a count. -/
  | pass {c : Nat} {t : InFlight} (hpasses : (s.counts c).Passes t) : Step s (s.put c t)

/-- Trackers as they may be at some moment of some run. -/
def Reached (s : Trackers) : Prop := Relation.ReflTransGen Step {} s

theorem counts_put (s : Trackers) (c : Nat) (t : InFlight) :
    (s.put c t).counts = Function.update s.counts c t := rfl

theorem shown_put {i c : Nat} (h : s.share i = some c) (t : InFlight) :
    (s.put c t).shown i = some t := by
  change (s.share i).map (Function.update s.counts c t) = some t
  rw [h, Option.map_some, Function.update_self]

theorem sound_put (h : ∀ c, (s.counts c).Sound) (c : Nat) {t : InFlight} (ht : t.Sound) (c' : Nat) :
    ((s.put c t).counts c').Sound := by
  rw [counts_put]
  obtain rfl | hne := eq_or_ne c' c
  · rwa [Function.update_self]
  · rw [Function.update_of_ne hne]
    exact h c'

theorem Step.sound (hstep : Step s s') (h : ∀ c, (s.counts c).Sound) (c : Nat) :
    (s'.counts c).Sound := by
  cases hstep with
  | create => exact sound_put h s.made InFlight.sound_start c
  | clone _ => exact h c
  | discard _ => exact h c
  | track _ hroom => exact sound_put h _ ((h _).track hroom) c
  | pass hpasses => exact sound_put h _ ((h _).passes hpasses) c

theorem Reached.sound (h : s.Reached) (c : Nat) : (s.counts c).Sound := by
  induction h generalizing c with
  | refl => exact InFlight.sound_start
  | tail _ hstep ih => exact hstep.sound ih c

/-- What a count comes through is what the trackers come through. -/
theorem steps_of_passes {c : Nat} {t : InFlight}
    (h : Relation.ReflTransGen InFlight.Passes (s.counts c) t) :
    Relation.ReflTransGen Step s (s.put c t) := by
  induction h with
  | refl => rw [put, Function.update_eq_self]
  | @tail t t' _ hpasses ih =>
    have hcount : (s.put c t).counts c = t := by rw [counts_put, Function.update_self]
    have hput : (s.put c t).put c t' = s.put c t' := by
      rw [put, counts_put, Function.update_idem]
      rfl
    rw [← hcount] at hpasses
    exact hput ▸ ih.tail (.pass hpasses)

/-- **A drain ends exactly when it should.**  Let trackers be made, cloned and discarded, and guards
be made and dropped, in any order.  Then each tracker shows how many guards are alive that were made
through it and its clones, and this number never wraps.  A drain ends with the first look at which
none is alive, or else when its time is over, and is a run of such steps itself. -/
theorem Reached.drained_exactly (h : s.Reached) {i : Nat} {t : InFlight}
    (hshown : s.shown i = some t) :
    t.Exact ∧ ∀ timeout, ∃ s', Relation.ReflTransGen Step s s' ∧ s'.share = s.share ∧
      s'.shown i = some (t.drain timeout).2 := by
  obtain ⟨c, hshare, rfl⟩ := Option.map_eq_some_iff.1 hshown
  exact ⟨(h.sound c).exact, fun timeout =>
    ⟨_, steps_of_passes (InFlight.passes_drain _ timeout), rfl, shown_put hshare _⟩⟩

/-- Three guards are made through a tracker and its clone, the tracker goes, and one of them is
dropped.  The last one alive is dropped after 250 milliseconds, so the look that finds none is that
after 300. -/
theorem drained_exactly_of_clone :
    ∃ s t, Reached s ∧ s.share 0 = none ∧ s.shown 1 = some t ∧ t.active.toNat = 2 ∧
      (t.drain 300).1 = ⟨true, 300⟩ ∧ (t.drain 299).1 = ⟨false, 299⟩ := by
  generalize ht : ({ active := 2, held := [0, 2], tracked := 3, releases := [⟨0, 50⟩, ⟨2, 250⟩] } :
    InFlight) = t
  have hreached : ∃ s, Reached s ∧ s.share 0 = none ∧ s.shown 1 = some t := by
    have hcloned : Reached _ := (Relation.ReflTransGen.single .create).tail (.clone (i := 0) rfl)
    have htracked := ((hcloned.tail (.track (i := 0) rfl (by decide))).tail
      (.track (i := 0) rfl (by decide))).tail (.track (i := 1) rfl (by decide))
    have hdropped := (htracked.tail (.discard 0)).tail (.pass (c := 0) (.drop (g := 1) (by decide)))
    exact ⟨_, hdropped.tail (.pass (c := 0) (.plan [⟨0, 50⟩, ⟨2, 250⟩])), rfl, ht ▸ rfl⟩
  obtain ⟨s, hs, hgone, hshown⟩ := hreached
  obtain ⟨hexact, -⟩ := hs.drained_exactly hshown
  have hreleases : t.releases = [⟨0, 50⟩, ⟨2, 250⟩] := ht ▸ rfl
  have hnow : t.now = 0 := ht ▸ rfl
  have hapart : ∀ left, t.Apart t.now left := by
    intro left r hr _
    rw [hreleases, List.mem_pair] at hr
    obtain rfl | rfl := hr <;> exact ⟨by rw [hnow]; decide, fun j _ => by dsimp only; omega⟩
  have hleast : IsLeast {k | t.Quiet (t.now + 100 * k)} 3 := by
    have hquiet : t.Quiet (t.now + 100 * 3) := by subst ht; decide
    refine ⟨hquiet, fun k hk => ?_⟩
    obtain ⟨r, hr, hguard, htime⟩ := hk 2 (by subst ht; decide)
    rw [hreleases, List.mem_pair] at hr
    obtain rfl | rfl := hr
    · contradiction
    · dsimp only at htime
      omega
  have hactive : t.active.toNat = 2 := hexact.count.trans (by subst ht; rfl)
  exact ⟨s, t, hs, hgone, hshown, hactive, hexact.drains 300 (hapart _) 3 hleast,
    hexact.drains 299 (hapart _) 3 hleast⟩

end Trackers

end StreamBalancer
