import Mathlib.Algebra.GroupWithZero.Nat
import Mathlib.Algebra.Order.Group.Multiset
import StreamBalancer.Forward
import StreamBalancer.Session

/-!
# StreamBalancer.Proofs.Traffic

Tunnels on their way: which slots hold them, who looks for one or has one to hand
over, who has taken one out, who is about to close or report one.

1. A tunnel is held by one party at a time.  `Traffic.Move` says how it can change
   hands, who acting on a slot must find it as, and what is asked for meanwhile.
2. Messages and tasks count alike: whether a report is queued or being looked at
   makes no difference to the slot that it names.
-/

namespace StreamBalancer

/-- The slot that a tunnel is handed over for. -/
def Handover.place (h : Handover) : Nat × Nat := (h.backend, h.slot)

/-- The slot that a tunnel was taken out of. -/
def Failure.place (f : Failure) : Nat × Nat := (f.backend, f.slot)

/-- An instance as its tunnels see it. -/
structure Traffic.Instance where
  /-- Whether it was given up. -/
  retired : Bool
  /-- Its slots. -/
  slots : List Slot

/-- Where tunnels are, and where they are wanted. -/
@[ext]
structure Traffic where
  /-- All instances. -/
  instances : List Traffic.Instance
  /-- How often each tunnel was told to close. -/
  closes : List Nat
  /-- Slots, by instance and number, for which a session looks for a tunnel. -/
  seeking : Multiset (Nat × Nat)
  /-- Tunnels that a session has, or has handed over. -/
  carried : Multiset Handover
  /-- Tunnels that a forward took out and has not closed. -/
  taken : Multiset Failure
  /-- Tunnels that a forward closed and has not reported. -/
  owed : Multiset Failure
  /-- Tunnels reported to be broken, if the scheduler is not done with the report. -/
  told : Multiset Failure
  /-- Slots for which the scheduler is about to ask for a tunnel. -/
  marks : Multiset (Nat × Nat)
  /-- Slots whose tunnel the scheduler is about to look at. -/
  weighs : Multiset (Nat × Nat)
  /-- Slots that the scheduler is about to empty. -/
  empties : Multiset (Nat × Nat)
  /-- Tunnels that the scheduler is about to close. -/
  closing : Multiset Nat

namespace Traffic

/-- A slot of an instance. -/
def slot? (v : Traffic) (b i : Nat) : Option Slot := v.instances[b]?.bind fun x => x.slots[i]?

/-- The tunnel in a slot. -/
def tunnelAt (v : Traffic) (b i : Nat) : Option Nat := (v.slot? b i).bind Slot.tunnel

/-- Whether an instance exists and was not given up. -/
def Live (v : Traffic) (b : Nat) : Prop := ∃ x, v.instances[b]? = some x ∧ x.retired = false

/-- Change a slot. -/
def setSlot (v : Traffic) (b i : Nat) (change : Slot → Slot) : Traffic :=
  { v with instances := v.instances.modify b fun x => { x with slots := x.slots.modify i change } }

/-- Tell a tunnel to close. -/
def close (v : Traffic) (t : Nat) : Traffic := { v with closes := v.closes.modify t (· + 1) }

/-- Ask for a tunnel for a slot. -/
def ask (v : Traffic) (b i : Nat) : Traffic :=
  { v.setSlot b i fun x => { x with replacing := true } with seeking := (b, i) ::ₘ v.seeking }

/-- Add an instance with empty slots, and ask for a tunnel for each. -/
def add (v : Traffic) (n : Nat) : Traffic :=
  { v with
    instances := v.instances ++ [⟨false, List.replicate n {}⟩]
    seeking := ((List.range n).map fun i => (v.instances.length, i) : Multiset (Nat × Nat)) + v.seeking }

/-- Give an instance up; its slots are to be emptied. -/
def retire (v : Traffic) (b n : Nat) : Traffic :=
  { v with
    instances := v.instances.modify b fun x => { x with retired := true }
    empties := ((List.range n).map fun i => (b, i) : Multiset (Nat × Nat)) + v.empties }

/-! ## Slots -/

variable (v : Traffic)

theorem slot?_setSlot (b i c j : Nat) (change : Slot → Slot) :
    (v.setSlot b i change).slot? c j =
      if c = b ∧ j = i then (v.slot? c j).map change else v.slot? c j := by
  simp only [slot?, setSlot, List.getElem?_modify]
  by_cases hb : c = b
  · subst hb
    cases v.instances[c]? with
    | none => simp
    | some x =>
        by_cases hi : j = i
        · subst hi
          simp
        · simp [hi, Ne.symm hi]
  · simp [hb, Ne.symm hb]

theorem tunnelAt_setSlot (b i c j : Nat) (change : Slot → Slot) :
    (v.setSlot b i change).tunnelAt c j =
      if c = b ∧ j = i then (v.slot? c j).bind fun x => (change x).tunnel else v.tunnelAt c j := by
  rw [tunnelAt, slot?_setSlot]
  split
  · rw [Option.bind_map]
    rfl
  · rfl

theorem live_setSlot (b i c : Nat) (change : Slot → Slot) :
    (v.setSlot b i change).Live c ↔ v.Live c := by
  simp only [Live, setSlot, List.getElem?_modify]
  cases v.instances[c]? with
  | none => simp
  | some x =>
      by_cases hb : b = c
      · simp [hb]
      · simp [hb]

theorem length_setSlot (b i : Nat) (change : Slot → Slot) :
    (v.setSlot b i change).instances.length = v.instances.length :=
  List.length_modify _ _ _

theorem slot?_add (n c j : Nat) :
    (v.add n).slot? c j =
      if c = v.instances.length then (if j < n then some {} else none) else v.slot? c j := by
  simp only [slot?, add, List.getElem?_append]
  split
  · next hc => rw [if_neg (Nat.ne_of_lt hc)]
  · next hc =>
    split
    · next heq =>
      subst heq
      simp [List.getElem?_replicate]
    · rw [List.getElem?_eq_none (by simp; omega), List.getElem?_eq_none (by omega)]

theorem live_add (n c : Nat) : (v.add n).Live c ↔ v.Live c ∨ c = v.instances.length := by
  simp only [Live, add, List.getElem?_append]
  split
  · next hc => simp [Nat.ne_of_lt hc]
  · next hc =>
    rw [List.getElem?_eq_none (Nat.le_of_not_lt hc)]
    by_cases heq : c = v.instances.length
    · simp [heq]
    · rw [List.getElem?_eq_none (by simp; omega)]
      simp [heq]

theorem slot?_retire (b n c j : Nat) : (v.retire b n).slot? c j = v.slot? c j := by
  simp only [slot?, retire, List.getElem?_modify]
  cases v.instances[c]? with
  | none => rfl
  | some x =>
      by_cases hb : b = c
      · simp [hb]
      · simp [hb]

theorem live_retire (b n c : Nat) : (v.retire b n).Live c ↔ v.Live c ∧ c ≠ b := by
  simp only [Live, retire, List.getElem?_modify]
  cases v.instances[c]? with
  | none => simp
  | some x =>
      by_cases hb : b = c
      · simp [hb]
      · simp [hb, Ne.symm hb]

theorem slot?_ask (b i c j : Nat) :
    (v.ask b i).slot? c j =
      if c = b ∧ j = i then (v.slot? c j).map fun x => { x with replacing := true }
      else v.slot? c j :=
  v.slot?_setSlot b i c j _

theorem tunnelAt_ask (b i c j : Nat) : (v.ask b i).tunnelAt c j = v.tunnelAt c j := by
  refine (v.tunnelAt_setSlot b i c j _).trans ?_
  split
  · rfl
  · rfl

theorem live_ask (b i c : Nat) : (v.ask b i).Live c ↔ v.Live c := v.live_setSlot b i c _

theorem lt_length_of_slot? {b i : Nat} {x : Slot} (h : v.slot? b i = some x) :
    b < v.instances.length := by
  obtain ⟨y, hy, -⟩ := Option.bind_eq_some_iff.1 h
  exact (List.getElem?_eq_some_iff.1 hy).1

theorem slot?_of_tunnelAt {b i t : Nat} (h : v.tunnelAt b i = some t) :
    ∃ x, v.slot? b i = some x ∧ x.tunnel = some t := Option.bind_eq_some_iff.1 h

/-! ## Steps -/

/-- One step of anybody. -/
inductive Move : Traffic → Traffic → Prop where
  /-- Nothing moves. -/
  | same (v : Traffic) : Move v v
  /-- The scheduler finds a tunnel in a slot. -/
  | looks (v : Traffic) {b i t : Nat} (h : v.tunnelAt b i = some t) :
      Move v { v with weighs := (b, i) ::ₘ v.weighs }
  /-- It does not ask to replace it. -/
  | passes (v : Traffic) (b i : Nat) : Move { v with weighs := (b, i) ::ₘ v.weighs } v
  /-- It asks to replace it, which was not asked before. -/
  | replaces (v : Traffic) {b i : Nat} {x : Slot} (h : v.slot? b i = some x)
      (hflag : x.replacing = false) (hlive : v.Live b) :
      Move { v with weighs := (b, i) ::ₘ v.weighs } (v.ask b i)
  /-- It does not heed a report: the instance was given up, or the slot has another
  tunnel. -/
  | ignores (v : Traffic) (f : Failure)
      (h : v.Live f.backend → (v.tunnelAt f.backend f.slot).isSome = true) :
      Move { v with told := f ::ₘ v.told } v
  /-- It heeds a report. -/
  | heeds (v : Traffic) (f : Failure) :
      Move { v with told := f ::ₘ v.told } { v with marks := (f.backend, f.slot) ::ₘ v.marks }
  /-- It need not ask, for that was done. -/
  | unmarks (v : Traffic) {b i : Nat} (h : ∀ x, v.slot? b i = some x → x.replacing = true) :
      Move { v with marks := (b, i) ::ₘ v.marks } v
  /-- It asks for a tunnel in place of a broken one. -/
  | asks (v : Traffic) {b i : Nat} {x : Slot} (h : v.slot? b i = some x)
      (hflag : x.replacing = false) (hlive : v.Live b) :
      Move { v with marks := (b, i) ::ₘ v.marks } (v.ask b i)
  /-- It adds an instance. -/
  | adds (v : Traffic) (n : Nat) : Move v (v.add n)
  /-- It gives an instance up. -/
  | strikes (v : Traffic) {b : Nat} {x : Instance} (h : v.instances[b]? = some x)
      (hlive : x.retired = false) : Move v (v.retire b x.slots.length)
  /-- It takes a tunnel out of a slot of an instance that was given up. -/
  | empties (v : Traffic) {b i t : Nat} (h : v.tunnelAt b i = some t) (hdead : ¬v.Live b) :
      Move { v with empties := (b, i) ::ₘ v.empties }
        { v.setSlot b i fun x => { x with tunnel := none } with closing := t ::ₘ v.closing }
  /-- It finds a slot empty. -/
  | skips (v : Traffic) {b i : Nat} (h : v.tunnelAt b i = none) :
      Move { v with empties := (b, i) ::ₘ v.empties } v
  /-- It closes a tunnel. -/
  | closes (v : Traffic) (t : Nat) : Move { v with closing := t ::ₘ v.closing } (v.close t)
  /-- It puts a tunnel into its slot, and takes the one before out. -/
  | installs (v : Traffic) (h : Handover) {x : Slot} (hslot : v.slot? h.backend h.slot = some x)
      (hlive : v.Live h.backend) :
      Move { v with carried := h ::ₘ v.carried }
        { v.setSlot h.backend h.slot fun _ => ⟨some h.tunnel, false⟩ with
          closing := (x.tunnel.toList : Multiset Nat) + v.closing }
  /-- It has no use for a tunnel: its instance was given up, or it has no such slot. -/
  | refuses (v : Traffic) (h : Handover)
      (hwhy : v.Live h.backend → v.slot? h.backend h.slot = none) :
      Move { v with carried := h ::ₘ v.carried } { v with closing := h.tunnel ::ₘ v.closing }
  /-- A dial gives a session a tunnel. -/
  | dials (v : Traffic) (b i : Nat) :
      Move { v with seeking := (b, i) ::ₘ v.seeking }
        { v with carried := ⟨b, i, v.closes.length⟩ ::ₘ v.carried, closes := v.closes ++ [0] }
  /-- A session ends without a tunnel, for its instance was given up. -/
  | quits (v : Traffic) {b i : Nat} (h : ¬v.Live b) :
      Move { v with seeking := (b, i) ::ₘ v.seeking } v
  /-- A forward takes a broken tunnel out of its slot. -/
  | evicts (v : Traffic) (f : Failure) (h : v.tunnelAt f.backend f.slot = some f.tunnel) :
      Move v { v.setSlot f.backend f.slot fun x => { x with tunnel := none } with
        taken := f ::ₘ v.taken }
  /-- It closes it. -/
  | shuts (v : Traffic) (f : Failure) :
      Move { v with taken := f ::ₘ v.taken } { v.close f.tunnel with owed := f ::ₘ v.owed }
  /-- It reports it. -/
  | reports (v : Traffic) (f : Failure) :
      Move { v with owed := f ::ₘ v.owed } { v with told := f ::ₘ v.told }

end Traffic

end StreamBalancer
