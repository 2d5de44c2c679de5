import Mathlib.Logic.Function.Basic
import Mathlib.Logic.Relation
import StreamBalancer.Pidfile
import StreamBalancer.Proofs.Text

/-!
# StreamBalancer.Proofs.Pidfile

Processes that start, take a file, let it go and die, in any order.

1. Numbers of processes are not given twice.  The file names nobody who lives at first; it may
   hold anything, or not be there (`Scene.IsStale`).
2. What a process writes names it and nobody else (`named?_written`).
3. A live process that the file names has taken it, at every moment, unless the file has been left
   alone since the start and the process has got the number in it by chance (`Scene.Coincides`).
   Whoever has taken the file is named there (`Scene.Sound`).

* `Scene.governed` — one process holds the file at a time; it keeps the others out, and nothing
  else does but such a chance.
* `Scene.refused_by_chance` — there is a chance that does.
-/

namespace StreamBalancer.Pidfile

/-! ## Content -/

/-- What is written is read back. -/
theorem named?_written (p : UInt32) : named? (written p).toUTF8 = some p := by
  have hutf : String.fromUTF8? (written p).toUTF8 = some (written p) := by
    unfold String.fromUTF8?
    rw [String.toUTF8_eq_toByteArray, dif_pos (written p).isValidUTF8]
    rfl
  have htext : (written p).toList = Nat.toDigits 10 p.toNat ++ ['\n'] := by
    rw [written, String.toList_append, ← Nat.toList_repr]
    rfl
  have htrim : Text.trim (written p).toList = Nat.toDigits 10 p.toNat := by
    rw [htext]
    refine Text.trim_append_blanks (fun c hc => ?_) fun c hc => ?_
    · exact Text.isBlank_of_isDigit (Nat.isDigit_of_mem_toDigits (by decide) (by decide) hc)
    · rw [List.mem_singleton.1 hc]
      rfl
  rw [named?, hutf, Option.bind_some, htrim, Text.readBelow?_toDigits p.toNat_lt]
  exact congrArg some p.ofNat_toNat

theorem blocker?_eq_some_iff {self p : UInt32} {isAlive : UInt32 → Bool}
    {content : Option ByteArray} :
    blocker? self isAlive content = some p ↔
      content.bind named? = some p ∧ p ≠ self ∧ isAlive p = true := by
  simp [blocker?, Option.filter_eq_some_iff]

/-! ## Processes -/

/-- A file and the processes around it. -/
structure Scene where
  /-- What the file holds, if it is there. -/
  content : Option ByteArray
  /-- Whether a process lives. -/
  isAlive : UInt32 → Bool
  /-- Whether a process has taken the file and not let it go. -/
  holds : UInt32 → Bool := fun _ => false
  /-- Whether a number can no longer be given to a process. -/
  isUsed : UInt32 → Bool

namespace Scene

/-- A process starts. -/
def start (s : Scene) (p : UInt32) : Scene :=
  { s with isAlive := Function.update s.isAlive p true, isUsed := Function.update s.isUsed p true }

/-- A process tries to take the file at a path where it can be written. -/
def create (s : Scene) (path : String) (p : UInt32) : Except Error Unit × Scene :=
  match take p s.isAlive path true s.content with
  | .error e => (.error e, s)
  | .ok content =>
    (.ok (), { s with content := some content, holds := Function.update s.holds p true })

/-- A process lets the file go. -/
def drop (s : Scene) (p : UInt32) : Scene :=
  { s with content := letGo s.content, holds := Function.update s.holds p false }

/-- A process dies, and whatever it has taken is left as it is. -/
def die (s : Scene) (p : UInt32) : Scene :=
  { s with isAlive := Function.update s.isAlive p false, holds := Function.update s.holds p false }

/-- One step of one process. -/
inductive Step (path : String) (s : Scene) : Scene → Prop where
  /-- A process starts, with a number that is new. -/
  | starts {p : UInt32} (hnew : s.isUsed p = false) : Step path s (s.start p)
  /-- A process that does not hold the file tries to take it. -/
  | creates {p : UInt32} (halive : s.isAlive p = true) (hfree : s.holds p = false) :
      Step path s (s.create path p).2
  /-- A process lets the file go. -/
  | drops {p : UInt32} (hholds : s.holds p = true) : Step path s (s.drop p)
  /-- A process dies, whether it holds the file or not. -/
  | dies {p : UInt32} (halive : s.isAlive p = true) : Step path s (s.die p)

/-- Any number of steps. -/
abbrev Steps (path : String) : Scene → Scene → Prop := Relation.ReflTransGen (Step path)

/-- At first nobody holds the file, and it names no live process. -/
structure IsStale (s : Scene) : Prop where
  free : ∀ p, s.holds p = false
  used : ∀ p, s.isAlive p = true → s.isUsed p = true
  dead : ∀ p, s.content.bind named? = some p → s.isAlive p = false

/-- A process has started with the very number that the file names from the first on, and nobody
has taken the file. -/
structure Coincides (first s : Scene) (p : UInt32) : Prop where
  untouched : s.content = first.content
  named : first.content.bind named? = some p
  late : first.isUsed p = false
  alive : s.isAlive p = true
  free : ∀ q, s.holds q = false

/-! ## What every step keeps -/

/-- What is so at every moment after a first one. -/
structure Sound (first s : Scene) : Prop where
  /-- Who holds the file lives. -/
  alive : ∀ p, s.holds p = true → s.isAlive p = true
  /-- The file holds the number of whoever holds it. -/
  written : ∀ p, s.holds p = true → s.content = some (written p).toUTF8
  /-- A process that the file names holds it or is dead for good, unless the file is as it was and
  the number was still to be given. -/
  named : ∀ p, s.content.bind named? = some p → s.holds p = true ∨
    (s.isAlive p = false ∧ s.isUsed p = true) ∨ (s.content = first.content ∧ first.isUsed p = false)
  /-- Numbers of live processes are not given again. -/
  used : ∀ p, s.isAlive p = true → s.isUsed p = true

theorem IsStale.sound {s : Scene} (h : s.IsStale) : s.Sound s where
  alive p hp := absurd hp (by simp [h.free p])
  written p hp := absurd hp (by simp [h.free p])
  named p hp := by
    cases hused : s.isUsed p with
    | true => exact .inr (.inl ⟨h.dead p hp, rfl⟩)
    | false => exact .inr (.inr ⟨rfl, rfl⟩)
  used := h.used

namespace Sound

variable {first s t : Scene} {p q : UInt32} {path : String}

/-- The file names whoever holds it. -/
theorem names (h : first.Sound s) (hp : s.holds p = true) : s.content.bind named? = some p := by
  rw [h.written p hp, Option.bind_some, named?_written]

/-- One process holds the file at a time. -/
theorem unique (h : first.Sound s) (hp : s.holds p = true) (hq : s.holds q = true) : p = q :=
  Option.some.inj ((h.names hp).symm.trans (h.names hq))

/-- Whoever holds the file keeps the others out. -/
theorem create_of_held (h : first.Sound s) (hp : s.holds p = true) (hne : q ≠ p) :
    s.create path q = (.error (.alreadyRunning p path), s) := by
  have hblocked : blocker? q s.isAlive s.content = some p :=
    blocker?_eq_some_iff.2 ⟨h.names hp, hne.symm, h.alive p hp⟩
  rw [create, take, hblocked]

/-- A live process that the file names holds it, or has got its number by chance. -/
theorem coincides (h : first.Sound s) (hnamed : s.content.bind named? = some q)
    (halive : s.isAlive q = true) (hfree : s.holds q = false) : first.Coincides s q := by
  obtain hholds | ⟨hdead, -⟩ | ⟨hsame, hlate⟩ := h.named q hnamed
  · simp [hfree] at hholds
  · simp [halive] at hdead
  · refine ⟨hsame, hsame ▸ hnamed, hlate, halive, fun p => Bool.eq_false_iff.2 fun hp => ?_⟩
    -- who holds the file is named there
    obtain rfl := Option.some.inj ((h.names hp).symm.trans hnamed)
    simp [hfree] at hp

/-- Nobody else keeps others out. -/
theorem create_of_free (h : first.Sound s)
    (hfree : ∀ q, q ≠ p → s.isAlive q = true → s.holds q = false)
    (hchance : ∀ q, q ≠ p → ¬ first.Coincides s q) :
    s.create path p = (.ok (), { s with
      content := some (Pidfile.written p).toUTF8, holds := Function.update s.holds p true }) := by
  have hopen : blocker? p s.isAlive s.content = none := by
    refine Option.eq_none_iff_forall_ne_some.2 fun q hq => ?_
    obtain ⟨hnamed, hne, halive⟩ := blocker?_eq_some_iff.1 hq
    exact hchance q hne (h.coincides hnamed halive (hfree q hne halive))
  rw [create, take, hopen]
  rfl

theorem start (h : first.Sound s) (hnew : s.isUsed p = false) : first.Sound (s.start p) := by
  constructor
  · intro q hq
    by_cases hqp : q = p
    · simp [Scene.start, hqp]
    · simpa [Scene.start, hqp] using h.alive q hq
  · exact h.written
  · intro q hnamed
    obtain hholds | ⟨hdead, hused⟩ | hchance := h.named q hnamed
    · exact .inl hholds
    · -- a number that is used up is not that of the new process
      have hqp : q ≠ p := by
        rintro rfl
        simp [hnew] at hused
      exact .inr (.inl (by simp [Scene.start, hqp, hdead, hused]))
    · exact .inr (.inr hchance)
  · intro q hq
    by_cases hqp : q = p
    · simp [Scene.start, hqp]
    · simpa [Scene.start, hqp] using h.used q (by simpa [Scene.start, hqp] using hq)

/-- Whoever gets the file is its only holder. -/
theorem taken (h : first.Sound s) (halive : s.isAlive p = true)
    (hfree : ∀ q, q ≠ p → s.holds q = false) :
    first.Sound { s with
      content := some (Pidfile.written p).toUTF8, holds := Function.update s.holds p true } := by
  have honly : ∀ q, Function.update s.holds p true q = true → q = p := by
    intro q hq
    by_contra hne
    simp [hne, hfree q hne] at hq
  constructor
  · intro q hq
    rw [honly q hq]
    exact halive
  · intro q hq
    rw [honly q hq]
  · intro q hq
    have hqp : p = q := Option.some.inj ((named?_written p).symm.trans hq)
    exact .inl (by simp [hqp])
  · exact h.used

theorem create (h : first.Sound s) (halive : s.isAlive p = true) :
    first.Sound (s.create path p).2 := by
  cases hblocked : blocker? p s.isAlive s.content with
  | some q =>
      have hrefused : s.create path p = (.error (.alreadyRunning q path), s) := by
        rw [Scene.create, take, hblocked]
      rw [hrefused]
      exact h
  | none =>
      have htaken : s.create path p = (.ok (), { s with
          content := some (Pidfile.written p).toUTF8, holds := Function.update s.holds p true }) := by
        rw [Scene.create, take, hblocked]
        rfl
      rw [htaken]
      refine h.taken halive fun q hne => Bool.eq_false_iff.2 fun hq => ?_
      have hblocks := blocker?_eq_some_iff.2 ⟨h.names hq, hne, h.alive q hq⟩
      simp [hblocked] at hblocks

theorem drop (h : first.Sound s) (hp : s.holds p = true) : first.Sound (s.drop p) := by
  have hnone : ∀ q, (s.drop p).holds q ≠ true := by
    intro q hq
    by_cases hqp : q = p
    · simp [Scene.drop, hqp] at hq
    · exact hqp (h.unique (by simpa [Scene.drop, hqp] using hq) hp)
  exact ⟨fun q hq => absurd hq (hnone q), fun q hq => absurd hq (hnone q),
    fun q hq => by contradiction, h.used⟩

theorem die (h : first.Sound s) : first.Sound (s.die p) := by
  have hstays : ∀ q, (s.die p).holds q = true ↔ q ≠ p ∧ s.holds q = true := by
    intro q
    by_cases hqp : q = p <;> simp [Scene.die, hqp]
  have hlives : ∀ q, (s.die p).isAlive q = true ↔ q ≠ p ∧ s.isAlive q = true := by
    intro q
    by_cases hqp : q = p <;> simp [Scene.die, hqp]
  constructor
  · intro q hq
    obtain ⟨hne, hold⟩ := (hstays q).1 hq
    exact (hlives q).2 ⟨hne, h.alive q hold⟩
  · exact fun q hq => h.written q ((hstays q).1 hq).2
  · intro q hnamed
    obtain hholds | ⟨hdead, hused⟩ | hchance := h.named q hnamed
    · by_cases hqp : q = p
      · -- the holder has died, and its number is used up
        exact .inr (.inl ⟨by simp [Scene.die, hqp], h.used q (h.alive q hholds)⟩)
      · exact .inl ((hstays q).2 ⟨hqp, hholds⟩)
    · refine .inr (.inl ⟨Bool.eq_false_iff.2 fun hq => ?_, hused⟩)
      have halive := ((hlives q).1 hq).2
      simp [hdead] at halive
    · exact .inr (.inr hchance)
  · exact fun q hq => h.used q ((hlives q).1 hq).2

theorem step (h : first.Sound s) (step : Step path s t) : first.Sound t := by
  cases step with
  | starts hnew => exact h.start hnew
  | creates halive => exact h.create halive
  | drops hholds => exact h.drop hholds
  | dies => exact h.die

theorem steps (h : first.Sound s) (steps : Steps path s t) : first.Sound t := by
  induction steps with
  | refl => exact h
  | tail _ hstep ih => exact ih.step hstep

end Sound

/-- Whoever has got the number in the file by chance keeps the others out. -/
theorem Coincides.create {first s : Scene} {p q : UInt32} (h : first.Coincides s q) (path : String)
    (hne : p ≠ q) : s.create path p = (.error (.alreadyRunning q path), s) := by
  have hblocked : blocker? p s.isAlive s.content = some q :=
    blocker?_eq_some_iff.2 ⟨h.untouched ▸ h.named, hne.symm, h.alive⟩
  rw [Scene.create, take, hblocked]

/-! ## The result -/

/-- How a file at a path keeps processes apart, after a first moment. -/
structure Governs (path : String) (first s : Scene) : Prop where
  /-- One process holds the file at a time, and it lives. -/
  one : ∀ p q, s.holds p = true → s.holds q = true → p = q ∧ s.isAlive p = true
  /-- The file holds its number as written, which is read back. -/
  named : ∀ p, s.holds p = true →
    s.content = some (written p).toUTF8 ∧ s.content.bind named? = some p
  /-- Another one is told so, and leaves everything as it is. -/
  refuses : ∀ p q, s.holds p = true → q ≠ p →
    s.create path q = (.error (.alreadyRunning p path), s)
  /-- While no other live process holds the file, a process gets it, whatever the file holds,
  unless another one has got the number in it by chance. -/
  grants : ∀ p, (∀ q, q ≠ p → s.isAlive q = true → s.holds q = false) →
    (∀ q, q ≠ p → ¬ first.Coincides s q) →
    s.create path p = (.ok (), { s with
      content := some (written p).toUTF8, holds := Function.update s.holds p true })
  /-- Such a one is taken for a holder. -/
  mistakes : ∀ p q, q ≠ p → first.Coincides s q →
    s.create path p = (.error (.alreadyRunning q path), s)

/-- **At most one process holds the file**, at every moment, however processes start, take the
file, let it go and die.  It keeps others out, and so does a process that has started with the
number that a file nobody has taken names from the first on; nothing else does. -/
theorem governed {path : String} {first s : Scene} (hstale : first.IsStale)
    (steps : Steps path first s) : Governs path first s :=
  have hsound := hstale.sound.steps steps
  { one := fun _ _ hp hq => ⟨hsound.unique hp hq, hsound.alive _ hp⟩
    named := fun _ hp => ⟨hsound.written _ hp, hsound.names hp⟩
    refuses := fun _ _ hp hne => hsound.create_of_held hp hne
    grants := fun _ hfree hchance => hsound.create_of_free hfree hchance
    mistakes := fun _ _ hne hchance => hchance.create path hne.symm }

/-- Three live processes, and a file that is no text. -/
def garbled : Scene where
  content := some ⟨#[0xff]⟩
  isAlive p := 7 ≤ p && p ≤ 9
  isUsed p := p ≤ 9

/-- One process takes the file and dies, and another one takes it over; the third one gets it
when that has let it go. -/
theorem governed_of_garbled : garbled.IsStale ∧ ∃ s, Steps "b.pid" garbled s ∧
    s.holds 8 = true ∧ Governs "b.pid" garbled s ∧
    s.create "b.pid" 9 = (.error (.alreadyRunning 8 "b.pid"), s) ∧
    ((s.drop 8).create "b.pid" 9).1 = .ok () := by
  have hnobody : garbled.content.bind named? = none := by decide +kernel
  have hstale : garbled.IsStale := by
    refine ⟨fun _ => rfl, fun p hp => ?_, fun p hp => ?_⟩
    · exact (Bool.and_eq_true_iff.1 hp).2
    · rw [hnobody] at hp
      contradiction
  let taken : Scene := (garbled.create "b.pid" 7).2
  let left : Scene := taken.die 7
  let s : Scene := (left.create "b.pid" 8).2
  have steps : Steps "b.pid" garbled s :=
    ((Relation.ReflTransGen.single (.creates (by decide) rfl)).tail
      (.dies (p := 7) (by decide +kernel))).tail (.creates (by decide +kernel) (by decide +kernel))
  have hholds : s.holds 8 = true := by decide +kernel
  have hgoverns : Governs "b.pid" garbled s := governed hstale steps
  have hlater : Governs "b.pid" garbled (s.drop 8) := governed hstale (steps.tail (.drops hholds))
  refine ⟨hstale, s, steps, hholds, hgoverns, hgoverns.refuses 8 9 hholds (by decide), ?_⟩
  rw [hlater.grants 9 (fun q _ _ => ?_) fun q _ hchance => ?_]
  · by_cases hq : q = 8
    · simp [hq, drop]
    · have hone : ¬ s.holds q = true := fun hq' => hq (hgoverns.one q 8 hq' hholds).1
      simpa [drop, hq] using hone
  · simpa [hnobody] using hchance.named

/-- A live process, and a file that names a number still to be given. -/
def dated : Scene where
  content := some "42\n".toUTF8
  isAlive p := p == 7
  isUsed p := p ≤ 7

/-- **A process may be refused though nobody holds the file**: the file names 42, which is nobody,
and the next process to start is 42. -/
theorem refused_by_chance : dated.IsStale ∧ ∃ s, Steps "b.pid" dated s ∧
    s.isAlive 7 = true ∧ (∀ p, s.holds p = false) ∧
    s.create "b.pid" 7 = (.error (.alreadyRunning 42 "b.pid"), s) := by
  have hnamed : dated.content.bind named? = some 42 := by decide +kernel
  have hstale : dated.IsStale := by
    refine ⟨fun _ => rfl, fun p hp => ?_, fun p hp => ?_⟩
    · obtain rfl := eq_of_beq hp
      rfl
    · obtain rfl := Option.some.inj (hnamed.symm.trans hp)
      rfl
  have hchance : dated.Coincides (dated.start 42) 42 :=
    ⟨rfl, hnamed, rfl, by simp [start], fun _ => rfl⟩
  exact ⟨hstale, dated.start 42, .single (.starts rfl), rfl, fun _ => rfl,
    hchance.create "b.pid" (by decide)⟩

end Scene

end StreamBalancer.Pidfile
