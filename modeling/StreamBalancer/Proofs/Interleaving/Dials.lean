import StreamBalancer.Proofs.Interleaving.Sessions
import StreamBalancer.Proofs.Spacing

/-!
# StreamBalancer.Proofs.Interleaving.Dials

How fast the dials of one session follow each other.

1. A step of anybody takes a session at most one stage further (`Session.Turns`,
   `Tenure.Goes.attends`), and a number once used names no other session.
2. The dials of a session are read off a history (`Tenure.dials`): one begins when the session
   begins to wait for it, and is over when it does so no longer.
3. Between the end of a dial and the begin of the next lies the configured delay at least, up to
   the end of the scheduler and beyond (`History.dials_paced`).
4. Without slots there are no sessions, and no dials (`History.dials_eq_nil`).
-/

namespace StreamBalancer

/-! ## Stages -/

/-- What a step makes of a session; `none` before it was asked for and after its end. -/
inductive Session.Turns (settings : SessionSettings) (now : Nat) :
    Option Session.Stage → Option Session.Stage → Prop where
  | same (x : Option Stage) : Turns settings now x x
  | asked : Turns settings now none (some .idle)
  | looks {x y : Stage} (hx : x.isLooking = true) (hy : y.isLooking = true) :
      Turns settings now (some x) (some y)
  | dials {x : Stage} (hx : x.isLooking = true) : Turns settings now (some x) (some (.dialing now))
  | succeeds (since tunnel : Nat) :
      Turns settings now (some (.dialing since)) (some (.established tunnel))
  | fails (since : Nat) {wakeup : Nat} (h : now + settings.retryInterval ≤ wakeup) :
      Turns settings now (some (.dialing since)) (some (.waiting wakeup))
  | wakes {wakeup : Nat} (h : wakeup ≤ now) : Turns settings now (some (.waiting wakeup)) (some .idle)
  | ends (x : Option Stage) : Turns settings now x none

namespace Scheduler

/-- How far the session with a number has come. -/
def stage? (s : Scheduler) (n : Nat) : Option Session.Stage := (s.session? n).map Session.stage

/-- What a step makes of all sessions. -/
structure Attends (s t : Scheduler) : Prop where
  settings : t.settings = s.settings
  now : s.now ≤ t.now
  count : s.sessionCount ≤ t.sessionCount
  turns : ∀ n, Session.Turns s.settings.session t.now (s.stage? n) (t.stage? n)
  asked : ∀ n, s.stage? n = none → (t.stage? n).isSome = true → s.sessionCount ≤ n

variable {s t : Scheduler}

theorem Asks.attends {b : Nat} {slots : List Nat} (h : s.Asks t b slots) (hnumbered : s.Numbered)
    (hcontinues : s.Continues t) : s.Attends t := by
  refine ⟨hcontinues.settings, hcontinues.now, h.count ▸ Nat.le_add_right .., fun n => ?_,
    fun n hnone hsome => ?_⟩
  · obtain ⟨hsame, -⟩ | ⟨hold, -, -, -, i, hnew⟩ := h.session?_cases hnumbered n
    · rw [stage?, stage?, hsame]
      exact .same _
    · rw [stage?, stage?, hold, hnew]
      exact .asked
  · obtain ⟨hsame, -⟩ | ⟨-, hle, -⟩ := h.session?_cases hnumbered n
    · rw [stage?, hsame, ← stage?, hnone] at hsome
      contradiction
    · exact hle

/-- What a session does takes it one stage further, or ends it. -/
theorem SessionActs.turns {x : Session} {d : Option Session.Deed} {y : Option Session}
    (h : s.SessionActs x d y t) :
    Session.Turns s.settings.session s.now (some x.stage) (y.map Session.stage) := by
  cases h with
  | looks hstage | clears hstage =>
      rw [hstage]
      exact .looks rfl rfl
  | dials hstage =>
      rw [hstage]
      exact .dials rfl
  | gains tunnel hstage =>
      rw [hstage]
      exact .succeeds _ _
  | fails draw hstage =>
      rw [hstage]
      exact .fails _ (Nat.add_le_add_left (Nat.le_add_right ..) _)
  | wakes hstage hwakeup =>
      rw [hstage]
      exact .wakes hwakeup
  | hands | quits => exact .ends _

theorem SessionActs.attends {x : Session} {d : Option Session.Deed} {y : Option Session}
    (h : s.SessionActs x d y t) (hx : s.session? x.number = some x)
    (hcontinues : s.Continues t) : s.Attends t := by
  obtain ⟨-, -, hnow, hcount⟩ := h.keeps
  have hstage : ∀ n, t.stage? n = if n = x.number then y.map Session.stage else s.stage? n := by
    intro n
    rw [stage?, h.session?_eq hx n]
    split <;> rfl
  refine ⟨hcontinues.settings, hcontinues.now, hcount.ge, fun n => ?_, fun n hnone hsome => ?_⟩
  · rw [hstage n, hnow]
    split
    · next hn =>
      rw [hn, stage?, hx]
      exact h.turns
    · exact .same _
  · rw [hstage n] at hsome
    split at hsome
    · next hn =>
      rw [hn, stage?, hx] at hnone
      contradiction
    · rw [hnone] at hsome
      contradiction

end Scheduler

open Scheduler in
/-- **No step takes a session further than one stage.** -/
theorem Tenure.Goes.attends {c c' : Tenure} (h : c.Goes c') (horderly : c.Orderly) :
    c.world.scheduler.Attends c'.world.scheduler := by
  have hcontinues := h.continues horderly
  cases h.tends horderly with
  | asks hasks => exact hasks.attends horderly.numbered hcontinues
  | acts hx hacts => exact hacts.attends hx hcontinues

/-! ## Dials -/

/-- Since when a session waits for a dial, if it does. -/
def Session.Stage.since? : Session.Stage → Option Nat
  | .dialing since => some since
  | _ => none

/-- A dial. -/
structure Dial where
  /-- When it began. -/
  began : Nat
  /-- When it was over, if it is. -/
  ended : Option Nat := none
deriving DecidableEq, Repr

namespace Dial

/-- The last of some dials, the first of the list, is over. -/
def close (now : Nat) : List Dial → List Dial
  | [] => []
  | d :: earlier => { d with ended := some now } :: earlier

/-- Dials, the last one first, when a session has turned from one stage to another. -/
def log (now : Nat) (old new : Option Session.Stage) (dials : List Dial) : List Dial :=
  match old.bind Session.Stage.since?, new.bind Session.Stage.since? with
  | none, some since => ⟨since, none⟩ :: dials
  | some _, none => close now dials
  | _, _ => dials

/-- Whether a dial was over a delay before a point in time. -/
def Rested (delay t : Nat) (d : Dial) : Prop :=
  ∃ e, d.ended = some e ∧ d.began ≤ e ∧ e + delay ≤ t

/-- Whether each dial waited for a delay after the end of the one before. -/
def Paced (delay : Nat) (dials : List Dial) : Prop :=
  dials.IsChain fun next previous => previous.Rested delay next.began

/-- What is so of the dials of a session at a stage. -/
inductive Fit (delay now : Nat) : Option Session.Stage → List Dial → Prop where
  | gone (dials : List Dial) : Fit delay now none dials
  | looking {x : Session.Stage} {dials : List Dial} (hx : x.isLooking = true)
      (h : ∀ d ∈ dials.head?, d.Rested delay now) : Fit delay now (some x) dials
  | dialing {since : Nat} (h : since ≤ now) (earlier : List Dial) :
      Fit delay now (some (.dialing since)) (⟨since, none⟩ :: earlier)
  | waiting {wakeup : Nat} {dials : List Dial} (h : ∀ d ∈ dials.head?, d.Rested delay wakeup) :
      Fit delay now (some (.waiting wakeup)) dials
  | established (tunnel : Nat) (dials : List Dial) : Fit delay now (some (.established tunnel)) dials

variable {delay now later : Nat} {old new : Option Session.Stage} {dials : List Dial}

theorem Rested.mono {d : Dial} (h : d.Rested delay now) (hle : now ≤ later) : d.Rested delay later := by
  obtain ⟨e, hended, hbegan, he⟩ := h
  exact ⟨e, hended, hbegan, he.trans hle⟩

theorem Fit.mono (h : Fit delay now old dials) (hle : now ≤ later) : Fit delay later old dials := by
  cases h with
  | gone => exact .gone _
  | looking hx h => exact .looking hx fun d hd => (h d hd).mono hle
  | dialing h => exact .dialing (h.trans hle) _
  | waiting h => exact .waiting h
  | established => exact .established _ _

theorem since?_of_isLooking {x : Session.Stage} (h : x.isLooking = true) : x.since? = none := by
  cases x <;> first | rfl | contradiction

/-- A session that is about to dial has waited. -/
theorem Fit.rested {x : Session.Stage} (h : Fit delay now (some x) dials) (hx : x.isLooking = true) :
    ∀ d ∈ dials.head?, d.Rested delay now := by
  cases h with
  | looking _ h => exact h
  | dialing | waiting | established => contradiction

theorem Paced.close (h : Paced delay dials) (now : Nat) : Paced delay (close now dials) := by
  cases dials with
  | nil => exact h
  | cons d earlier =>
      unfold Paced at h
      rw [List.isChain_cons] at h
      exact List.isChain_cons.2 h

/-- **A step of a session keeps the delay between its dials**, if there were none before it was
asked for. -/
theorem Fit.turn {settings : SessionSettings}
    (h : Fit settings.retryInterval now old dials) (hpaced : Paced settings.retryInterval dials)
    (hturns : Session.Turns settings now old new) (hnew : old = none → new ≠ none → dials = []) :
    Fit settings.retryInterval now new (log now old new dials) ∧
      Paced settings.retryInterval (log now old new dials) := by
  cases hturns with
  | same =>
      have hlog : log now old old dials = dials := by
        unfold log
        cases old.bind Session.Stage.since? <;> rfl
      rw [hlog]
      exact ⟨h, hpaced⟩
  | asked =>
      obtain rfl := hnew rfl (by simp)
      exact ⟨.looking rfl (by simp [log, Session.Stage.since?]), hpaced⟩
  | looks hx hy =>
      rw [log, Option.bind_some, Option.bind_some, since?_of_isLooking hx, since?_of_isLooking hy]
      exact ⟨.looking hy (h.rested hx), hpaced⟩
  | dials hx =>
      rw [log, Option.bind_some, since?_of_isLooking hx]
      exact ⟨.dialing (Nat.le_refl _) _, List.isChain_cons.2 ⟨h.rested hx, hpaced⟩⟩
  | succeeds => exact ⟨.established _ _, hpaced.close now⟩
  | fails since hwakeup =>
      cases h with
      | looking hx => contradiction
      | dialing h =>
          refine ⟨.waiting fun d hd => ?_, hpaced.close now⟩
          obtain rfl := Option.some.inj hd
          exact ⟨now, rfl, h, hwakeup⟩
  | wakes hwakeup =>
      cases h with
      | looking hx => contradiction
      | waiting h => exact ⟨.looking rfl fun d hd => (h d hd).mono hwakeup, hpaced⟩
  | ends =>
      refine ⟨.gone _, ?_⟩
      unfold log
      cases old.bind Session.Stage.since? with
      | none => exact hpaced
      | some since => exact hpaced.close now

/-- Dials with a delay between them are spaced. -/
theorem Paced.spaced (h : Paced delay dials) : Spaced delay 0 (dials.map Dial.began) := by
  refine .of_isChain (List.isChain_map_of_isChain _ (fun next previous hrested => ?_) h)
  obtain ⟨e, -, hbegan, hlater⟩ := hrested
  omega

end Dial

/-! ## Histories -/

/-- Whoever changes neither settings, slots nor what is on its way to them. -/
theorem World.Fits.of_eq {w w' : World} (h : w.Fits)
    (hsettings : w'.scheduler.settings = w.scheduler.settings)
    (hcounts : w'.scheduler.fleet.slotCounts = w.scheduler.fleet.slotCounts)
    (hnamed : w'.scheduler.namedSlots = w.scheduler.namedSlots) (htasks : w'.tasks = w.tasks) :
    w'.Fits := by
  constructor
  · rw [hsettings, hcounts]
    exact h.counts
  · rw [hsettings, hnamed]
    exact h.named
  · rw [hsettings, htasks]
    exact h.tasks

namespace Tenure

open Scheduler

/-- The dials of the session with a number, the last one first. -/
def dials (n : Nat) : List Tenure → List Dial
  | c' :: c :: past =>
    Dial.log c'.world.scheduler.now (c.world.scheduler.stage? n) (c'.world.scheduler.stage? n)
      (dials n (c :: past))
  | _ => []

variable {settings : Settings} {permits : Nat} {c c' : Tenure} {past : List Tenure}

/-- Every step keeps to the slots that there are. -/
theorem Goes.fits (h : c.Goes c') (hfits : c.world.Fits) : c'.world.Fits := by
  cases h with
  | arrive _ hnew haccept => exact hfits.step (.arrive hnew haccept)
  | step h =>
      cases h with
      | perform h => exact hfits.step (World.step_next h)
      | receive _ hrest hreceives hopens => exact hfits.step (.receive hrest hreceives hopens)
      | query _ hrest => exact hfits.step (.query hrest)
      | work h => exact hfits.step (.work h)
      | signal | clear | close | shut | discard => exact ⟨hfits.counts, hfits.named, hfits.tasks⟩
      | leave => exact ⟨hfits.counts, hfits.named, by simp⟩
      | forget =>
          exact hfits.of_eq (report_keeps Scheduler.settings (fun _ _ _ _ => rfl) _ _)
            (report_keeps (·.fleet.slotCounts) (fun _ _ _ _ => rfl) _ _)
            (report_keeps namedSlots (fun _ _ _ _ => rfl) _ _) rfl
      | lose =>
          refine ⟨hfits.counts, fun i hi => hfits.named i ?_, hfits.tasks⟩
          simp only [become, namedSlots, List.map_nil, List.append_nil] at hi
          exact List.mem_append_left _ hi

namespace History

theorem settings_eq (history : History settings permits (c :: past)) :
    c.world.scheduler.settings = settings := by
  induction history using History.induct with
  | initial => rfl
  | kept history h ih => exact (h.continues history.orderly).settings.trans ih

theorem fits (history : History settings permits (c :: past)) : c.world.Fits := by
  induction history using History.induct with
  | initial => exact World.fits_initial settings permits
  | kept _ h ih => exact h.fits ih

/-- A number that dials were made for was given to a session. -/
theorem lt_of_dials (history : History settings permits (c :: past)) {n : Nat}
    (hdials : dials n (c :: past) ≠ []) : n < c.world.scheduler.sessionCount := by
  induction history using History.induct with
  | initial => exact absurd rfl hdials
  | @kept c c' past history h ih =>
      by_cases hbefore : dials n (c :: past) = []
      · -- the first dial is one of a session that there is
        rw [dials, hbefore] at hdials
        have hsome : (c'.world.scheduler.stage? n).isSome = true := by
          cases hnew : c'.world.scheduler.stage? n with
          | some stage => rfl
          | none =>
              rw [hnew, Dial.log] at hdials
              exact absurd (by split <;> trivial) hdials
        rw [stage?, Option.isSome_map] at hsome
        obtain ⟨x, hx⟩ := Option.isSome_iff_exists.1 hsome
        exact (history.step h).orderly.numbered.lt_of_session? hx
      · exact (ih hbefore).trans_le (h.attends history.orderly).count

/-- **Each session waits between its dials**, for the configured delay at least. -/
theorem dials_fit (history : History settings permits (c :: past)) (n : Nat) :
    Dial.Fit settings.session.retryInterval c.world.scheduler.now (c.world.scheduler.stage? n)
        (dials n (c :: past)) ∧
      Dial.Paced settings.session.retryInterval (dials n (c :: past)) := by
  induction history using History.induct with
  | initial => exact ⟨.gone _, .nil⟩
  | @kept c c' past history h ih =>
      obtain ⟨hfit, hpaced⟩ := ih
      have hattends := h.attends history.orderly
      have hturns := hattends.turns n
      rw [history.settings_eq] at hturns
      refine (hfit.mono hattends.now).turn hpaced hturns fun hnone hsome => ?_
      by_contra hdials
      have hlt := history.lt_of_dials hdials
      have hle := hattends.asked n hnone (Option.isSome_iff_ne_none.2 hsome)
      omega

/-- **Without slots nothing is dialed.** -/
theorem dials_eq_nil (history : History settings permits (c :: past))
    (hcount : settings.tunnelCount = 0) (n : Nat) : dials n (c :: past) = [] := by
  have hnone : ∀ {c past}, History settings permits (c :: past) → c.world.scheduler.stage? n = none := by
    intro c past history
    have hsessions : c.world.scheduler.sessions = [] := by
      refine List.eq_nil_iff_forall_not_mem.2 fun x hx => ?_
      have hslot := history.fits.named x.slot (List.mem_append_left _ (List.mem_map_of_mem hx))
      rw [history.settings_eq, hcount] at hslot
      exact Nat.not_lt_zero _ hslot
    rw [stage?, session?, hsessions]
    rfl
  induction history using History.induct with
  | initial => rfl
  | kept history h ih =>
      rw [dials, hnone history, hnone (history.step h), ih]
      rfl

end History

end Tenure

end StreamBalancer
