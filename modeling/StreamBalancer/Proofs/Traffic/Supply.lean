import StreamBalancer.Proofs.Traffic.Owners
import StreamBalancer.Proofs.Traffic.Slots

/-!
# StreamBalancer.Proofs.Traffic.Supply

How often a slot is asked a tunnel for and how often it gets one: never more than
one tunnel is asked for in advance (`Balance.bound`).

A tunnel is asked for only if none is on its way, so what was asked for a slot in
use is covered by what it got and what is on its way (`Balance.live`).  A slot of an
instance that was given up is not asked a tunnel for any more.
-/

namespace StreamBalancer.Traffic

variable {v u : Traffic} {b i : Nat}

/-- How many tunnels a step asks for, for a slot. -/
def asked (b i : Nat) (v u : Traffic) : Nat := u.seeking.count (b, i) - v.seeking.count (b, i)

/-- How many tunnels a step puts into a slot. -/
def filled (b i : Nat) (v u : Traffic) : Nat :=
  if (u.tunnelAt b i).isSome ∧ u.tunnelAt b i ≠ v.tunnelAt b i then 1 else 0

/-- The tunnels that were asked for a slot are accounted for. -/
structure Balance (v : Traffic) (b i asked filled : Nat) : Prop where
  unknown : v.instances.length ≤ b → asked = 0
  live : v.Live b → (v.slot? b i).isSome = true → asked ≤ filled + v.outstanding b i
  bound : asked ≤ filled + 1

/-- A step that asks for nothing, and gives a slot in use what is no longer on its
way. -/
theorem Balance.quiet {a f : Nat} (h : v.Balance b i a f)
    (hseeking : u.seeking.count (b, i) ≤ v.seeking.count (b, i))
    (hlength : v.instances.length ≤ u.instances.length) (hlive : u.Live b → v.Live b)
    (hslot : u.Live b → (u.slot? b i).isSome = true → (v.slot? b i).isSome = true ∧
      v.outstanding b i ≤ u.outstanding b i + filled b i v u) :
    u.Balance b i (a + asked b i v u) (f + filled b i v u) := by
  have hasked : asked b i v u = 0 := Nat.sub_eq_zero_of_le hseeking
  rw [hasked]
  refine ⟨fun hb => h.unknown (Nat.le_trans hlength hb), fun hl hs => ?_, ?_⟩
  · obtain ⟨hsome, hout⟩ := hslot hl hs
    have hcovered := h.live (hlive hl) hsome
    omega
  · have hbound := h.bound
    omega

/-- A step that leaves instances alone, asks for nothing, and takes nothing that is
on its way to the slot. -/
theorem Balance.same {a f : Nat} (h : v.Balance b i a f) (hinstances : u.instances = v.instances)
    (hseeking : u.seeking.count (b, i) ≤ v.seeking.count (b, i))
    (hout : u.Live b → (u.slot? b i).isSome = true → v.outstanding b i ≤ u.outstanding b i) :
    u.Balance b i (a + asked b i v u) (f + filled b i v u) := by
  have hlive : u.Live b ↔ v.Live b := by rw [Live, hinstances, ← Live]
  have hslot : u.slot? b i = v.slot? b i := by rw [slot?, hinstances, ← slot?]
  refine h.quiet hseeking (Nat.le_of_eq (congrArg _ hinstances.symm)) hlive.1 fun hl hs => ?_
  exact ⟨hslot ▸ hs, Nat.le_add_right_of_le (hout hl hs)⟩

theorem isSome_slot?_setSlot (v : Traffic) (c j : Nat) (change : Slot → Slot) (b i : Nat) :
    ((v.setSlot c j change).slot? b i).isSome = (v.slot? b i).isSome := by
  rw [slot?_setSlot]
  split
  · exact Option.isSome_map
  · rfl

/-- Asking for a tunnel when none is on its way. -/
theorem Balance.asks {w : Traffic} {a f c j : Nat} {x : Slot} (h : w.Balance b i a f)
    (hs : w.Settled) (hslot : w.slot? c j = some x) (hflag : x.replacing = false) (hlive : w.Live c)
    (hwhy : 0 < w.reports c j ∨ 0 < w.looked c j) (hinstances : v.instances = w.instances)
    (hseeking : v.seeking = w.seeking) (hcarried : v.carried = w.carried) :
    (v.ask c j).Balance b i (a + asked b i w (v.ask c j)) (f + filled b i w (v.ask c j)) := by
  have hcount : (v.ask c j).seeking.count (b, i) =
      w.seeking.count (b, i) + if (b, i) = (c, j) then 1 else 0 := by
    rw [ask, Multiset.count_cons, ← hseeking]
  have hout : (v.ask c j).outstanding b i =
      w.outstanding b i + if (b, i) = (c, j) then 1 else 0 := by
    rw [outstanding, outstanding, hcount, ← hcarried]
    exact Nat.add_right_comm _ _ _
  have hsome : ((v.ask c j).slot? b i).isSome = (w.slot? b i).isSome := by
    rw [ask]
    refine (isSome_slot?_setSlot v c j _ b i).trans ?_
    rw [slot?, hinstances, ← slot?]
  have hlength : (v.ask c j).instances.length = w.instances.length := by
    rw [← hinstances]
    exact v.length_setSlot c j _
  have hlive' : (v.ask c j).Live b ↔ w.Live b := by rw [live_ask, Live, hinstances, ← Live]
  have hasked : asked b i w (v.ask c j) = if (b, i) = (c, j) then 1 else 0 := by
    rw [asked, hcount, Nat.add_sub_cancel_left]
  rw [hasked]
  by_cases heq : (b, i) = (c, j)
  · rw [if_pos heq] at hout ⊢
    obtain ⟨rfl, rfl⟩ := Prod.mk.inj heq
    have hnone := (hs.attended b i x hlive hslot).settled hflag (.inr hwhy)
    have hcovered := h.live hlive (by rw [hslot]; rfl)
    refine ⟨fun hb => ?_, fun _ _ => ?_, ?_⟩
    · have hlt := w.lt_length_of_slot? hslot
      omega
    · omega
    · omega
  · rw [if_neg heq] at hout ⊢
    refine ⟨fun hb => h.unknown (hlength ▸ hb), fun hl hs => ?_, ?_⟩
    · have hcovered := h.live (hlive'.1 hl) (hsome ▸ hs)
      omega
    · have hbound := h.bound
      omega

/-- A new instance asks for a tunnel for each of its slots. -/
theorem Balance.adds {a f : Nat} (h : v.Balance b i a f) (n : Nat) :
    (v.add n).Balance b i (a + asked b i v (v.add n)) (f + filled b i v (v.add n)) := by
  have hlength : (v.add n).instances.length = v.instances.length + 1 := by simp [add]
  by_cases hb : b = v.instances.length
  · subst hb
    have hout := outstanding_add v n v.instances.length i
    have hasked : asked v.instances.length i v (v.add n) = if i < n then 1 else 0 := by
      have hcount := hout
      rw [outstanding, outstanding] at hcount
      simp only [true_and] at hcount
      change _ + (v.carried.map Handover.place).count _ = _ at hcount
      rw [asked]
      omega
    have hnone := h.unknown (Nat.le_refl _)
    rw [hasked, hnone]
    refine ⟨fun hlt => by omega, fun _ hsome => ?_, ?_⟩
    · simp only [true_and] at hout
      omega
    · split <;> omega
  · have hsame : (v.add n).slot? b i = v.slot? b i := by rw [slot?_add, if_neg hb]
    have hout := outstanding_add v n b i
    rw [if_neg fun heq => hb heq.1] at hout
    refine h.quiet ?_ (by omega) (fun hl => ((live_add v n b).1 hl).resolve_right hb) fun _ hs => ?_
    · rw [outstanding, outstanding] at hout
      exact Nat.le_of_eq (Nat.add_right_cancel hout)
    · exact ⟨hsame ▸ hs, Nat.le_add_right_of_le (Nat.le_of_eq hout.symm)⟩

/-- A tunnel that is put into a slot was on its way there, and was not there before. -/
theorem Balance.installs {a f : Nat} {hd : Handover} {x : Slot}
    (h : Balance { v with carried := hd ::ₘ v.carried } b i a f)
    (howned : Owned { v with carried := hd ::ₘ v.carried })
    (hslot : v.slot? hd.backend hd.slot = some x)
    (hu : u = { v.setSlot hd.backend hd.slot fun _ => ⟨some hd.tunnel, false⟩ with
      closing := (x.tunnel.toList : Multiset Nat) + v.closing }) :
    Balance u b i (a + asked b i { v with carried := hd ::ₘ v.carried } u)
      (f + filled b i { v with carried := hd ::ₘ v.carried } u) := by
  have hslots : ∀ c j, u.slot? c j =
      (v.setSlot hd.backend hd.slot fun _ => ⟨some hd.tunnel, false⟩).slot? c j := by
    intro c j
    rw [hu]
    rfl
  have hlive : u.Live b ↔ v.Live b := by
    rw [← v.live_setSlot hd.backend hd.slot b fun _ => ⟨some hd.tunnel, false⟩, hu]
    rfl
  have hseeking : u.seeking = v.seeking := by
    rw [hu]
    rfl
  have hcarried : u.carried = v.carried := by
    rw [hu]
    rfl
  refine h.quiet (by rw [hseeking]) ?_ hlive.1 fun _ hs => ⟨?_, ?_⟩
  · rw [hu]
    exact Nat.le_of_eq (v.length_setSlot hd.backend hd.slot _).symm
  · rw [hslots, isSome_slot?_setSlot] at hs
    exact hs
  · have hout : outstanding { v with carried := hd ::ₘ v.carried } b i =
        u.outstanding b i + if (b, i) = hd.place then 1 else 0 := by
      rw [outstanding, outstanding, hseeking, hcarried, Multiset.map_cons, Multiset.count_cons]
      exact (Nat.add_assoc _ _ _).symm
    rw [hout]
    by_cases heq : (b, i) = hd.place
    · obtain ⟨rfl, rfl⟩ := Prod.mk.inj heq
      have hnew : u.tunnelAt hd.backend hd.slot = some hd.tunnel := by
        rw [tunnelAt, hslots, slot?_setSlot, if_pos ⟨rfl, rfl⟩, hslot]
        rfl
      have hold : tunnelAt { v with carried := hd ::ₘ v.carried } hd.backend hd.slot ≠
          some hd.tunnel := by
        intro hthere
        have hseat := seats_pos _ hthere
        have honce := howned.once hd.tunnel
        have hbearer : 0 < bearers { v with carried := hd ::ₘ v.carried } hd.tunnel := by
          simp [bearers]
        split at honce <;> omega
      have hfilled : filled hd.backend hd.slot { v with carried := hd ::ₘ v.carried } u = 1 := by
        rw [filled, hnew]
        exact if_pos ⟨rfl, fun h => hold h.symm⟩
      rw [hfilled, if_pos heq]
    · rw [if_neg heq]
      exact Nat.le_add_right _ _

/-- **No more than one tunnel is asked for in advance**, whatever happens. -/
theorem Balance.moves {a f : Nat} (h : v.Balance b i a f) (hs : v.Settled) (ho : v.Owned)
    (hm : Move v u) : u.Balance b i (a + asked b i v u) (f + filled b i v u) := by
  cases hm with
  | same | looks | passes | ignores | heeds | unmarks | skips | closes | shuts | reports =>
      exact h.same rfl (Nat.le_refl _) fun _ _ => Nat.le_refl _
  | @replaces v c j x hslot hflag hlive =>
      exact h.asks hs hslot hflag hlive (.inr (by simp [looked])) rfl rfl rfl
  | @asks v c j x hslot hflag hlive =>
      exact h.asks hs hslot hflag hlive (.inl (v.reports_pos_of_mark c j)) rfl rfl rfl
  | adds _ n => exact h.adds n
  | @strikes _ c x hx hlive =>
      refine h.quiet (Nat.le_refl _) (Nat.le_of_eq (List.length_modify _ _ _).symm)
        (fun hl => ((live_retire _ _ _ _).1 hl).1) fun _ hsome => ?_
      rw [slot?_retire] at hsome
      exact ⟨hsome, Nat.le_add_right _ _⟩
  | @empties v c j t ht hdead =>
      refine h.quiet (Nat.le_refl _) (Nat.le_of_eq (v.length_setSlot c j _).symm)
        (fun hl => (v.live_setSlot c j b _).1 hl) fun _ hsome => ⟨?_, Nat.le_add_right _ _⟩
      exact (v.isSome_slot?_setSlot c j _ b i).symm.trans hsome
  | evicts _ g ht =>
      refine h.quiet (Nat.le_refl _) (Nat.le_of_eq (v.length_setSlot g.backend g.slot _).symm)
        (fun hl => (v.live_setSlot g.backend g.slot b _).1 hl) fun _ hsome =>
          ⟨?_, Nat.le_add_right _ _⟩
      exact (v.isSome_slot?_setSlot g.backend g.slot _ b i).symm.trans hsome
  | installs v hd hslot hlive => exact h.installs ho hslot rfl
  | refuses v hd hwhy =>
      refine h.same rfl (Nat.le_refl _) fun hl hsome => ?_
      have hne : (b, i) ≠ hd.place := by
        intro heq
        obtain ⟨rfl, rfl⟩ := Prod.mk.inj heq
        change (v.slot? hd.backend hd.slot).isSome = true at hsome
        rw [hwhy hl] at hsome
        contradiction
      simp only [outstanding, Multiset.map_cons, Multiset.count_cons_of_ne hne]
      exact Nat.le_refl _
  | dials v c j =>
      refine h.same rfl (Multiset.count_le_count_cons _ _ _) fun _ _ => ?_
      simp only [outstanding, Multiset.map_cons, Multiset.count_cons, Handover.place]
      omega
  | @quits v c j hdead =>
      refine h.same rfl (Multiset.count_le_count_cons _ _ _) fun hl _ => ?_
      have hne : (b, i) ≠ (c, j) := fun heq => hdead ((Prod.mk.inj heq).1 ▸ hl)
      simp only [outstanding, Multiset.count_cons_of_ne hne]
      exact Nat.le_refl _

end StreamBalancer.Traffic
