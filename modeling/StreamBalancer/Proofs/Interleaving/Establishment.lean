import Mathlib.Algebra.BigOperators.Group.Finset.Basic
import StreamBalancer.Proofs.Interleaving.Dials

/-!
# StreamBalancer.Proofs.Interleaving.Establishment

What a session does from the moment that it is asked for to its end.

1. What happens to a session is read off a history (`Tenure.deeds`).  Each deed follows from the
   one before by a rule (`Session.Deed.Follows`), and the last one tells how far the session has
   come (`Session.Deed.Fit`).
2. Once shutdown is signalled, or the instance given up, a session begins one dial at most, and
   that only if it has looked before (`History.dials_over`).
3. All dials together are what is counted, and all ends together what is handed over
   (`History.eq_tally`).

* `Tenure.History.sessions_establish` — all of this, of all sessions at every moment.
* `Tenure.History.not_always_prompt` — there is such a dial, and what else may come late.
-/

namespace StreamBalancer

/-! ## Rules -/

namespace Session.Deed

/-- Whether a dial begins. -/
def isDial : Deed → Bool
  | .dials _ _ => true
  | _ => false

/-- Whether a deed is counted as an event. -/
def counts (e : SessionEvent) : Deed → Bool
  | .gains _ _ => e = .established
  | .fails _ _ => e = .failed
  | _ => false

/-- What a session for a slot of an instance, with an agent to dial, does next. -/
inductive Follows (settings : SessionSettings) (agent : String) (b slot : Nat) :
    Deed → Deed → Prop where
  /-- It dials at once when it was asked for, -/
  | begins (now : Nat) : Follows settings agent b slot (.dials now agent) (.asked b slot)
  /-- and again when it has waited after a failure. -/
  | repeats {now failed wakeup : Nat} (h : wakeup ≤ now) :
      Follows settings agent b slot (.dials now agent) (.fails failed wakeup)
  /-- A dial gives a tunnel -/
  | gains {now began : Nat} (tunnel : Nat) (h : began ≤ now) :
      Follows settings agent b slot (.gains now tunnel) (.dials began agent)
  /-- or fails.  A delay follows, with a random part below a tenth. -/
  | fails {now began wakeup : Nat} (h : began ≤ now) (hleast : now + settings.retryInterval ≤ wakeup)
      (hmost : wakeup < now + settings.retryInterval + max (settings.retryInterval / 10) 1) :
      Follows settings agent b slot (.fails now wakeup) (.dials began agent)
  /-- A tunnel is handed over, to the slot of the instance.  If the scheduler is gone nobody takes
  it, and it is closed. -/
  | hands {gained tunnel : Nat} {how : End}
      (h : how.handed = if how.stopped then [] else [⟨b, slot, tunnel⟩])
      (hclosed : how.closed = if how.stopped then [tunnel] else [])
      (hstopped : how.stopped = true → how.signalled = true) :
      Follows settings agent b slot (.ends how) (.gains gained tunnel)
  /-- A dial is broken off for shutdown only. -/
  | breaks {began : Nat} {how : End} (h : how.handed = []) (hsignalled : how.signalled = true) :
      Follows settings agent b slot (.ends how) (.dials began agent)
  /-- Before the first dial or after a failure the session ends if nobody wants its tunnel. -/
  | drops {how : End} (h : how.handed = []) (hwhy : how.signalled = true ∨ how.retired = true) :
      Follows settings agent b slot (.ends how) (.asked b slot)
  | yields {failed wakeup : Nat} {how : End} (h : how.handed = [])
      (hwhy : how.signalled = true ∨ how.retired = true) :
      Follows settings agent b slot (.ends how) (.fails failed wakeup)

/-- What was done last, by how far a session has come. -/
inductive Fit (agent : String) (now : Nat) : Option Stage → List Deed → Prop where
  | gone (how : End) (earlier : List Deed) : Fit agent now none (.ends how :: earlier)
  | asked {x : Stage} (hx : x.isLooking = true) (b slot : Nat) :
      Fit agent now (some x) [.asked b slot]
  | rested {x : Stage} {failed wakeup : Nat} (hx : x.isLooking = true) (h : wakeup ≤ now)
      (earlier : List Deed) : Fit agent now (some x) (.fails failed wakeup :: earlier)
  | dialing {since : Nat} (h : since ≤ now) (earlier : List Deed) :
      Fit agent now (some (.dialing since)) (.dials since agent :: earlier)
  | waiting (failed wakeup : Nat) (earlier : List Deed) :
      Fit agent now (some (.waiting wakeup)) (.fails failed wakeup :: earlier)
  | established (gained tunnel : Nat) (earlier : List Deed) :
      Fit agent now (some (.established tunnel)) (.gains gained tunnel :: earlier)

/-- To look again leaves what was done as it is. -/
theorem Fit.looks {agent : String} {now : Nat} {x y : Stage} {deeds : List Deed}
    (h : Fit agent now (some x) deeds) (hx : x.isLooking = true) (hy : y.isLooking = true) :
    Fit agent now (some y) deeds := by
  cases h with
  | asked => exact .asked hy _ _
  | rested _ hwakeup => exact .rested hy hwakeup _
  | dialing | waiting | established => contradiction

theorem Fit.mono {agent : String} {now later : Nat} {stage : Option Stage} {deeds : List Deed}
    (h : Fit agent now stage deeds) (hle : now ≤ later) : Fit agent later stage deeds := by
  cases h with
  | gone => exact .gone _ _
  | asked hx => exact .asked hx _ _
  | rested hx h => exact .rested hx (h.trans hle) _
  | dialing h => exact .dialing (h.trans hle) _
  | waiting => exact .waiting _ _ _
  | established => exact .established _ _ _

/-- The last thing that a session did is to end if it is gone. -/
theorem Fit.eq_none_iff {agent : String} {now : Nat} {stage : Option Stage} {deeds : List Deed}
    (h : Fit agent now stage deeds) : stage = none ↔ ∃ how, deeds.head? = some (.ends how) := by
  cases h <;> simp

/-- A session is asked for once. -/
theorem asked_unique {settings : SessionSettings} {agent : String} {b slot : Nat} {deeds : List Deed}
    (hchain : deeds.IsChain (Follows settings agent b slot))
    (hfirst : deeds.getLast? = some (.asked b slot)) {c i : Nat} (h : .asked c i ∈ deeds) :
    c = b ∧ i = slot := by
  induction deeds with
  | nil => contradiction
  | cons d earlier ih =>
      cases earlier with
      | nil =>
          obtain rfl := Option.some.inj hfirst
          obtain ⟨rfl, rfl⟩ := Deed.asked.inj (List.mem_singleton.1 h)
          exact ⟨rfl, rfl⟩
      | cons e earlier =>
          obtain ⟨hfollows, hrest⟩ := List.isChain_cons_cons.1 hchain
          obtain rfl | hearlier := List.mem_cons.1 h
          · contradiction
          · exact ih hrest (by rwa [List.getLast?_cons_cons] at hfirst) hearlier

end Session.Deed

namespace Scheduler

open Session

/-- A session is for the same slot all the time. -/
theorem SessionActs.place {s t : Scheduler} {x : Session} {d : Option Deed} {y : Option Session}
    (h : s.SessionActs x d y t) : ∀ z, y = some z → z.backend = x.backend ∧ z.slot = x.slot := by
  rintro z rfl
  cases h <;> exact ⟨rfl, rfl⟩

/-- **A session that acts goes by the rules.** -/
theorem SessionActs.follows {s t : Scheduler} {x : Session} {d : Option Deed} {y : Option Session}
    (h : s.SessionActs x d y t) (hstopped : s.stopped = true → s.signalled = true)
    (hgiven : ∀ tunnel, x.stage = .established tunnel → tunnel < s.fleet.tunnels.size)
    {deeds : List Deed} (hfirst : deeds.getLast? = some (.asked x.backend x.slot))
    (hchain : deeds.IsChain (Deed.Follows s.settings.session (s.agent x) x.backend x.slot))
    (hfit : Deed.Fit (s.agent x) s.now (some x.stage) deeds) :
    (d.toList ++ deeds).IsChain (Deed.Follows s.settings.session (s.agent x) x.backend x.slot) ∧
      Deed.Fit (s.agent x) s.now (y.map Session.stage) (d.toList ++ deeds) := by
  cases h with
  | looks hstage | clears hstage =>
      rw [hstage] at hfit
      exact ⟨hchain, hfit.looks rfl rfl⟩
  | dials hstage =>
      rw [hstage] at hfit
      cases hfit with
      | asked _ b slot =>
          obtain ⟨rfl, rfl⟩ := Deed.asked.inj (Option.some.inj hfirst)
          exact ⟨List.isChain_pair.2 (.begins _), .dialing (Nat.le_refl _) _⟩
      | rested _ hwakeup =>
          exact ⟨List.isChain_cons_cons.2 ⟨.repeats hwakeup, hchain⟩, .dialing (Nat.le_refl _) _⟩
  | gains tunnel hstage =>
      rw [hstage] at hfit
      cases hfit with
      | asked hx | rested hx => contradiction
      | dialing hsince =>
          exact ⟨List.isChain_cons_cons.2 ⟨.gains _ hsince, hchain⟩, .established _ _ _⟩
  | fails draw hstage =>
      rw [hstage] at hfit
      cases hfit with
      | asked hx | rested hx => contradiction
      | dialing hsince =>
          have hmost : draw % max (s.settings.session.retryInterval / 10) 1 <
              max (s.settings.session.retryInterval / 10) 1 := Nat.mod_lt _ (by omega)
          refine ⟨List.isChain_cons_cons.2 ⟨.fails hsince ?_ ?_, hchain⟩, .waiting _ _ _⟩
          · exact Nat.add_le_add_left (Nat.le_add_right ..) _
          · rw [Nat.add_assoc]
            exact Nat.add_lt_add_left (Nat.add_lt_add_left hmost _) _
  | wakes hstage hwakeup =>
      rw [hstage] at hfit
      cases hfit with
      | asked hx | rested hx => contradiction
      | waiting => exact ⟨hchain, .rested rfl hwakeup _⟩
  | hands hstage =>
      have htunnel := hgiven _ hstage
      rw [hstage] at hfit
      cases hfit with
      | asked hx | rested hx => contradiction
      | established =>
          exact ⟨List.isChain_cons_cons.2 ⟨.hands rfl (by simp [htunnel]) hstopped, hchain⟩, .gone _ _⟩
  | quits hstage hwhy =>
      have hwanted : s.signalled = true ∨ s.isRetired x.backend = true :=
        hwhy.imp_right And.right
      have hidle : x.stage ≠ .idle → s.signalled = true := fun hne =>
        hwhy.resolve_right fun h => hne h.1
      generalize x.stage = stage at hfit hstage hidle
      cases hfit with
      | asked _ b slot =>
          obtain ⟨rfl, rfl⟩ := Deed.asked.inj (Option.some.inj hfirst)
          exact ⟨List.isChain_pair.2 (.drops rfl hwanted), .gone _ _⟩
      | rested =>
          exact ⟨List.isChain_cons_cons.2 ⟨.yields rfl hwanted, hchain⟩, .gone _ _⟩
      | dialing =>
          exact ⟨List.isChain_cons_cons.2 ⟨.breaks rfl (hidle (by simp)), hchain⟩, .gone _ _⟩
      | waiting =>
          exact ⟨List.isChain_cons_cons.2 ⟨.yields rfl hwanted, hchain⟩, .gone _ _⟩
      | established => exact absurd rfl (hstage _)

/-- How many dials the session with a number may begin when nobody wants its tunnel any more: one if
it has looked before that. -/
def dialsLeft (s : Scheduler) (n : Nat) : Nat :=
  match s.stage? n with
  | some .cleared => 1
  | some .retained => if s.signalled then 0 else 1
  | _ => 0

/-- A session that stays as it is does not come to be allowed more of them. -/
theorem dialsLeft_le_of_same {s t : Scheduler} {n : Nat} (h : t.session? n = s.session? n)
    (hsignalled : s.signalled = true → t.signalled = true) : t.dialsLeft n ≤ s.dialsLeft n := by
  have hstage : t.stage? n = s.stage? n := by rw [stage?, stage?, h]
  rw [dialsLeft, dialsLeft, hstage]
  split
  · exact Nat.le_refl 1
  · cases hs : s.signalled with
    | false => split <;> decide
    | true => simp [hsignalled hs]
  · exact Nat.le_refl 0

/-- **When nobody wants its tunnel a session only dials if it has looked before.** -/
theorem SessionActs.dialsLeft_le {s t : Scheduler} {x : Session} {d : Option Deed}
    {y : Option Session} (h : s.SessionActs x d y t) (hx : s.session? x.number = some x)
    (hunwanted : s.signalled = true ∨ s.isRetired x.backend = true) :
    d.toList.countP Deed.isDial + t.dialsLeft x.number ≤ s.dialsLeft x.number := by
  have hsignalled : t.signalled = s.signalled := congrArg (·.2.1) h.keeps.1
  have hsession := h.session?_eq hx x.number
  rw [if_pos rfl] at hsession
  simp only [dialsLeft, stage?, hx, hsession, hsignalled, Option.map_some]
  cases h with
  | looks hstage hretired =>
      -- so shutdown was signalled, and the next look will tell
      have hsignal : s.signalled = true := by simpa [hretired] using hunwanted
      simp [hsignal]
  | clears hstage hsignal => simp [hstage, hsignal]
  | dials hstage => simp [hstage, Deed.isDial]
  | gains | fails | wakes | hands | quits => simp [Deed.isDial, Session.retry]

/-- The end of a dial is counted. -/
theorem SessionActs.value_eq {s t : Scheduler} {x : Session} {d : Option Deed} {y : Option Session}
    (h : s.SessionActs x d y t) (e : SessionEvent) :
    t.fleet.metrics.value (.sessions e) =
      (d.toList.map fun d => (d.counts e).toNat).sum + s.fleet.metrics.value (.sessions e) := by
  have hcount : ∀ e', (s.fleet.metrics.count (.sessions e')).value (.sessions e) =
      (decide (e = e')).toNat + s.fleet.metrics.value (.sessions e) := by
    intro e'
    rw [Metrics.value_count, Nat.add_comm]
    by_cases he : e = e' <;> simp [he]
  cases h with
  | gains => exact hcount .established
  | fails => exact hcount .failed
  | looks | clears | dials | wakes | quits => exact (Nat.zero_add _).symm
  | hands =>
      unfold handOver
      split <;> exact (Nat.zero_add _).symm

/-- A session that does not go on by itself waits for its dial or after a failure. -/
theorem waits_of_stepSession?_eq_none {s : Scheduler} {n draw : Nat} {x : Session}
    (hx : s.session? n = some x) (h : s.stepSession? draw n = none) :
    s.signalled = false ∧
      ((∃ since, x.stage = .dialing since ∧ s.now < since + s.settings.session.dialTimeout) ∨
        ∃ wakeup, x.stage = .waiting wakeup ∧ s.now < wakeup) := by
  unfold stepSession? at h
  rw [hx] at h
  dsimp only at h
  split at h
  · contradiction
  · split at h <;> contradiction
  · split at h <;> contradiction
  · split at h <;> contradiction
  · next since hstage =>
    split at h
    · contradiction
    · next hsignalled =>
      split at h
      · contradiction
      · next htime =>
        refine ⟨Bool.eq_false_iff.2 hsignalled, .inl ⟨since, hstage, ?_⟩⟩
        simpa [Session.timedOut, hstage] using htime
  · next wakeup hstage =>
    split at h
    · contradiction
    · next hsignalled =>
      split at h
      · contradiction
      · next hwakeup =>
        exact ⟨Bool.eq_false_iff.2 hsignalled, .inr ⟨wakeup, hstage, Nat.lt_of_not_le hwakeup⟩⟩

/-- The agent of an instance. -/
def agentOf (s : Scheduler) (b : Nat) : String :=
  agentAddress (s.address b) s.settings.session.agentPort

/-- A session for a slot of an instance, with what happened to it, the last deed first. -/
structure Course (s : Scheduler) (n b slot : Nat) (deeds : List Deed) : Prop where
  created : b < s.fleet.backends.size
  first : deeds.getLast? = some (.asked b slot)
  chain : deeds.IsChain (Deed.Follows s.settings.session (s.agentOf b) b slot)
  fit : Deed.Fit (s.agentOf b) s.now (s.stage? n) deeds
  place : ∀ x, s.session? n = some x → x.backend = b ∧ x.slot = slot

namespace Course

variable {s t : Scheduler} {n b slot : Nat} {deeds : List Deed}

theorem agentOf_eq (h : s.Course n b slot deeds) (hcontinues : s.Continues t) :
    t.agentOf b = s.agentOf b := by
  rw [agentOf, agentOf, hcontinues.settings, hcontinues.survives.address b h.created]

/-- A session stays as it is. -/
theorem same (h : s.Course n b slot deeds) (hcontinues : s.Continues t)
    (hsame : t.session? n = s.session? n) : t.Course n b slot deeds where
  created := h.created.trans_le hcontinues.survives.size
  first := h.first
  chain := by
    rw [hcontinues.settings, h.agentOf_eq hcontinues]
    exact h.chain
  fit := by
    rw [stage?, hsame, h.agentOf_eq hcontinues]
    exact h.fit.mono hcontinues.now
  place := by
    rw [hsame]
    exact h.place

theorem acts (h : s.Course n b slot deeds) (hcontinues : s.Continues t) {x : Session}
    {d : Option Deed} {y : Option Session} (hx : s.session? x.number = some x) (hn : n = x.number)
    (hacts : s.SessionActs x d y t) (hstopped : s.stopped = true → s.signalled = true)
    (hgiven : ∀ tunnel, x.stage = .established tunnel → tunnel < s.fleet.tunnels.size) :
    t.Course n b slot (d.toList ++ deeds) := by
  subst hn
  have hsession := hacts.session?_eq hx x.number
  rw [if_pos rfl] at hsession
  obtain ⟨rfl, rfl⟩ := h.place x hx
  have hfit := h.fit
  rw [stage?, hx, Option.map_some] at hfit
  obtain ⟨hchain', hfit'⟩ := hacts.follows hstopped hgiven h.first h.chain hfit
  exact {
    created := h.created.trans_le hcontinues.survives.size
    first := by
      rw [List.getLast?_append, h.first]
      rfl
    chain := by
      rw [hcontinues.settings, h.agentOf_eq hcontinues]
      exact hchain'
    fit := by
      rw [stage?, hsession, h.agentOf_eq hcontinues]
      exact hfit'.mono hcontinues.now
    place := fun z hz => hacts.place z (hsession.symm.trans hz) }

/-- A session that was just asked for. -/
theorem asked {i : Nat} (hb : b < t.fleet.backends.size)
    (hsession : t.session? n = some ⟨n, b, i, .idle⟩) : t.Course n b i [.asked b i] where
  created := hb
  first := rfl
  chain := List.isChain_singleton _
  fit := by
    rw [stage?, hsession]
    exact .asked rfl b i
  place x hx := by
    obtain rfl := Option.some.inj (hsession.symm.trans hx)
    exact ⟨rfl, rfl⟩

end Course

end Scheduler

/-! ## Histories -/

namespace Tenure

open Scheduler Session

/-- What happened to the session with a number, the last deed first. -/
def deeds (n : Nat) : List Tenure → List Deed
  | c' :: c :: past => (c.world.scheduler.deed? c'.world.scheduler n).toList ++ deeds n (c :: past)
  | _ => []

/-- The messages about tunnels that ever came in, the last one first. -/
def sent : List Tenure → List Handover
  | c' :: c :: past => c.world.scheduler.posted c'.world.scheduler ++ sent (c :: past)
  | _ => []

/-- What is counted of the dials of all sessions. -/
def counted (e : SessionEvent) : List Tenure → Nat
  | c :: _ => c.world.scheduler.fleet.metrics.value (.sessions e)
  | [] => 0

/-- Whether nobody wants a tunnel to an instance any more. -/
def Unwanted (c : Tenure) (b : Nat) : Prop :=
  c.world.scheduler.signalled = true ∨ c.world.scheduler.gaveUp b

/-- What deeds amount to, summed up over all sessions. -/
def tally {M : Type} [AddCommMonoid M] (f : Deed → M) : List Tenure → M
  | [] => 0
  | c :: past => ∑ n ∈ Finset.range c.world.scheduler.sessionCount,
      ((deeds n (c :: past)).map f).sum

namespace History

variable {settings : Settings} {permits : Nat} {c c' : Tenure} {past : List Tenure}

/-- The scheduler leaves its loop for shutdown only. -/
theorem signalled_of_leaving (history : History settings permits (c :: past))
    (hleaving : c.leaving = true) : c.world.scheduler.signalled = true := by
  induction history using History.induct with
  | initial => contradiction
  | kept history h ih =>
      refine Or.elim ?_ (fun hbefore => (h.continues history.orderly).signalled (ih hbefore)) id
      cases h with
      | arrive => exact .inl hleaving
      | step h =>
          cases h with
          | leave _ _ hsignalled => exact .inr hsignalled
          | perform | receive | query | work | signal | clear | close | forget | lose | shut
          | discard => exact .inl hleaving

theorem signalled_of_stopped (history : History settings permits (c :: past))
    (hstopped : c.world.scheduler.stopped = true) : c.world.scheduler.signalled = true :=
  history.signalled_of_leaving (history.orderly.gone hstopped).1

/-- A tunnel that a session has is one that a dial gave. -/
theorem tunnel_lt (history : History settings permits (c :: past)) {n : Nat} {x : Session}
    {tunnel : Nat} (hx : c.world.scheduler.session? n = some x)
    (hstage : x.stage = .established tunnel) : tunnel < c.world.scheduler.fleet.tunnels.size := by
  obtain ⟨gone, howned, -⟩ := history.owned
  have hcarried : ⟨x.backend, x.slot, tunnel⟩ ∈ (c.world.traffic.abandon gone).carried := by
    refine Multiset.mem_add.2 (.inr (List.mem_append_right _ (List.mem_filterMap.2 ⟨x, ?_, ?_⟩)))
    · exact List.mem_of_find?_eq_some hx
    · simp [Session.handover?, Session.tunnel?, hstage]
  have hbearer : 0 < (c.world.traffic.abandon gone).bearers tunnel :=
    Multiset.count_pos.2 (Multiset.mem_map_of_mem Handover.tunnel hcarried)
  have honce := howned.once tunnel
  have hlength : (c.world.traffic.abandon gone).closes.length =
      c.world.scheduler.fleet.tunnels.size := c.world.length_closes
  rw [hlength] at honce
  split at honce
  · assumption
  · omega

/-- **Every session that was asked for goes by the rules**, and nothing happens to the others. -/
theorem course (history : History settings permits (c :: past)) (n : Nat) :
    (c.world.scheduler.sessionCount ≤ n ∧ deeds n (c :: past) = []) ∨
      (n < c.world.scheduler.sessionCount ∧
        ∃ b slot, c.world.scheduler.Course n b slot (deeds n (c :: past))) := by
  induction history using History.induct with
  | initial => exact .inl ⟨Nat.zero_le _, rfl⟩
  | @kept c c' past history h ih =>
      have hcontinues := h.continues history.orderly
      have hsame : c'.world.scheduler.session? n = c.world.scheduler.session? n →
          deeds n (c' :: c :: past) = deeds n (c :: past) := by
        intro hsession
        rw [deeds, deed?_of_same hsession]
        rfl
      cases h.tends history.orderly with
      | @asks b slots hasks =>
          obtain ⟨hsession, hlt⟩ | ⟨hold, hle, hlt, hb, i, hnew⟩ :=
            hasks.session?_cases history.orderly.numbered n
          · rw [hsame hsession]
            obtain ⟨hle, hnone⟩ | ⟨hn, b, slot, hcourse⟩ := ih
            · exact .inl ⟨Nat.le_of_not_lt fun h => Nat.not_lt.2 hle (hlt h), hnone⟩
            · have hcount := hasks.count
              exact .inr ⟨by omega, b, slot, hcourse.same hcontinues hsession⟩
          · have hnone : deeds n (c :: past) = [] := by
              obtain ⟨-, hnone⟩ | ⟨hn, -⟩ := ih
              · exact hnone
              · omega
            have hasked : deeds n (c' :: c :: past) = [.asked b i] := by
              rw [deeds, hnone, deed?, hold, hnew]
              rfl
            rw [hasked]
            exact .inr ⟨hlt, b, i, .asked hb hnew⟩
      | @acts x d y hx hacts =>
          rw [hacts.keeps.2.2.2]
          by_cases hn : n = x.number
          · obtain ⟨hle, -⟩ | ⟨hlt, b, slot, hcourse⟩ := ih
            · have hgiven := history.orderly.numbered.lt_of_session? hx
              omega
            · rw [deeds, hacts.deed?_eq hx, if_pos hn]
              exact .inr ⟨hlt, b, slot, hcourse.acts hcontinues hx hn hacts
                history.signalled_of_stopped fun tunnel hstage => history.tunnel_lt hx hstage⟩
          · have hsession := hacts.session?_eq hx n
            rw [if_neg hn] at hsession
            rw [hsame hsession]
            obtain hnone | ⟨hlt, b, slot, hcourse⟩ := ih
            · exact .inl hnone
            · exact .inr ⟨hlt, b, slot, hcourse.same hcontinues hsession⟩

/-! ## No dial any more -/

/-- A session is for the instance that it was asked for. -/
theorem asked_mem (history : History settings permits (c :: past)) {n : Nat} {x : Session}
    (hx : c.world.scheduler.session? n = some x) : .asked x.backend x.slot ∈ deeds n (c :: past) := by
  obtain ⟨hle, -⟩ | ⟨-, b, slot, hcourse⟩ := history.course n
  · exact absurd (history.orderly.numbered.lt_of_session? hx) (Nat.not_lt.2 hle)
  · obtain ⟨rfl, rfl⟩ := hcourse.place x hx
    exact List.mem_of_getLast? hcourse.first

/-- A step begins no dial for an instance that was given up, or after shutdown, unless the session
has looked before. -/
theorem dialsLeft_step (history : History settings permits (c :: past)) (h : c.Goes c') {n b : Nat}
    (hb : ∀ b' i, .asked b' i ∈ deeds n (c :: past) → b' = b) (hunwanted : c.Unwanted b) :
    (deeds n (c' :: c :: past)).countP Deed.isDial + c'.world.scheduler.dialsLeft n ≤
      (deeds n (c :: past)).countP Deed.isDial + c.world.scheduler.dialsLeft n := by
  have hcontinues := h.continues history.orderly
  rw [deeds, List.countP_append]
  cases h.tends history.orderly with
  | asks hasks =>
      have hnone : ((c.world.scheduler.deed? c'.world.scheduler n).toList).countP Deed.isDial = 0 := by
        obtain hnone | ⟨i, hasked⟩ := hasks.deed?_cases history.orderly.numbered n
        · rw [hnone]
          rfl
        · rw [hasked]
          rfl
      have hleft : c'.world.scheduler.dialsLeft n ≤ c.world.scheduler.dialsLeft n := by
        obtain ⟨hsession, -⟩ | ⟨-, -, -, -, i, hnew⟩ :=
          hasks.session?_cases history.orderly.numbered n
        · exact dialsLeft_le_of_same hsession hcontinues.signalled
        · simp [dialsLeft, stage?, hnew]
      omega
  | @acts x _ _ hx hacts =>
      rw [hacts.deed?_eq hx]
      split
      · next hn =>
        subst hn
        have hwhy : c.world.scheduler.signalled = true ∨
            c.world.scheduler.isRetired x.backend = true := by
          obtain rfl := hb _ _ (history.asked_mem hx)
          exact hunwanted.imp_right fun hgone => ((gaveUp_iff ..).1 hgone).2
        have hleft := hacts.dialsLeft_le hx hwhy
        omega
      · next hn =>
        have hsession := hacts.session?_eq hx n
        rw [if_neg hn] at hsession
        have hleft := dialsLeft_le_of_same hsession hcontinues.signalled
        rw [Option.toList_none, List.countP_nil]
        omega

/-- **At most one dial begins once the instance was given up or shutdown was signalled**, and only
if the session has looked before. -/
theorem dials_over (history : History settings permits (c :: past)) {c₀ : Tenure}
    {past₀ : List Tenure} (hsuffix : c₀ :: past₀ <:+ c :: past) {n b : Nat}
    (hb : ∀ b' i, .asked b' i ∈ deeds n (c :: past) → b' = b) (hunwanted : c₀.Unwanted b) :
    c.Unwanted b ∧ (deeds n (c :: past)).countP Deed.isDial + c.world.scheduler.dialsLeft n ≤
      (deeds n (c₀ :: past₀)).countP Deed.isDial + c₀.world.scheduler.dialsLeft n := by
  induction history using History.induct with
  | initial =>
      obtain heq | hnil := List.suffix_cons_iff.1 hsuffix
      · obtain ⟨rfl, rfl⟩ := List.cons.inj heq
        exact ⟨hunwanted, Nat.le_refl _⟩
      · exact absurd (List.suffix_nil.1 hnil) (List.cons_ne_nil _ _)
  | @kept c c' past history h ih =>
      obtain heq | hsuffix := List.suffix_cons_iff.1 hsuffix
      · obtain ⟨rfl, rfl⟩ := List.cons.inj heq
        exact ⟨hunwanted, Nat.le_refl _⟩
      · have hbefore : ∀ b' i, .asked b' i ∈ deeds n (c :: past) → b' = b := fun b' i hi =>
          hb b' i (List.mem_append_right _ hi)
        obtain ⟨hstill, hcount⟩ := ih hsuffix hbefore
        have hcontinues := h.continues history.orderly
        exact ⟨hstill.imp hcontinues.signalled hcontinues.gaveUp,
          (history.dialsLeft_step h hbefore hstill).trans hcount⟩

/-! ## Sums -/

section Sums

variable {M : Type} [AddCommMonoid M]

/-- A step adds what happened in it. -/
theorem tally_step (history : History settings permits (c :: past)) (h : c.Goes c') (f : Deed → M) :
    tally f (c' :: c :: past) = ∑ n ∈ Finset.range c'.world.scheduler.sessionCount,
      ((c.world.scheduler.deed? c'.world.scheduler n).toList.map f).sum + tally f (c :: past) := by
  have hcount := (h.attends history.orderly).count
  have hrange : Finset.range c.world.scheduler.sessionCount ⊆
      Finset.range c'.world.scheduler.sessionCount := Finset.range_subset_range.2 hcount
  have hnone : ∀ n ∈ Finset.range c'.world.scheduler.sessionCount,
      n ∉ Finset.range c.world.scheduler.sessionCount → ((deeds n (c :: past)).map f).sum = 0 := by
    intro n _ hn
    obtain ⟨-, hnil⟩ | ⟨hlt, -⟩ := history.course n
    · rw [hnil]
      rfl
    · exact absurd (Finset.mem_range.2 hlt) hn
  rw [tally, tally, Finset.sum_subset hrange hnone, ← Finset.sum_add_distrib]
  refine Finset.sum_congr rfl fun n _ => ?_
  rw [deeds, List.map_append, List.sum_append]

/-- **What grows with every deed is the sum over all of them.** -/
theorem eq_tally {f : Deed → M} (hasked : ∀ b i, f (.asked b i) = 0) {m : List Tenure → M}
    (hinitial : m [{ world := World.initial settings permits }] = 0)
    (hasks : ∀ {c c' past b slots}, c.world.scheduler.Asks c'.world.scheduler b slots →
      m (c' :: c :: past) = m (c :: past))
    (hacts : ∀ {c c' past x d y}, c.world.scheduler.SessionActs x d y c'.world.scheduler →
      m (c' :: c :: past) = (d.toList.map f).sum + m (c :: past))
    (history : History settings permits (c :: past)) :
    m (c :: past) = tally f (c :: past) := by
  induction history using History.induct with
  | initial => exact hinitial
  | @kept c c' past history h ih =>
      rw [history.tally_step h, ← ih]
      cases h.tends history.orderly with
      | asks h =>
          rw [hasks h, Finset.sum_eq_zero, zero_add]
          intro n _
          obtain hnone | ⟨i, heq⟩ := h.deed?_cases history.orderly.numbered n
          · rw [hnone]
            rfl
          · rw [heq]
            exact (add_zero _).trans (hasked _ _)
      | @acts x d y hx h =>
          have hlt : x.number < c'.world.scheduler.sessionCount :=
            h.keeps.2.2.2 ▸ history.orderly.numbered.lt_of_session? hx
          rw [hacts h, Finset.sum_eq_single_of_mem x.number (Finset.mem_range.2 hlt),
            h.deed?_eq hx, if_pos rfl]
          intro n _ hn
          rw [h.deed?_eq hx, if_neg hn]
          rfl

end Sums

theorem counted_eq (history : History settings permits (c :: past)) {e : SessionEvent}
    (he : (Series.sessions e).isDial = true) :
    counted e (c :: past) = tally (fun d => (d.counts e).toNat) (c :: past) := by
  refine history.eq_tally (fun _ _ => rfl) rfl (fun {c c'} _ _ _ h => ?_) fun h => h.value_eq e
  have hsame := congrFun h.dialCounts (.sessions e)
  rwa [dialCounts, dialCounts, Metrics.among, Metrics.among, if_pos he, if_pos he] at hsame

theorem sent_eq (history : History settings permits (c :: past)) :
    (sent (c :: past) : Multiset Handover) =
      tally (fun d => (d.handed : Multiset Handover)) (c :: past) := by
  refine history.eq_tally (m := fun h => (sent h : Multiset Handover)) (fun _ _ => rfl) rfl
    (fun h => ?_) fun {_ _ _ _ d _} h => ?_
  · rw [sent, h.posted]
    rfl
  · rw [sent, h.posted_eq, ← Multiset.coe_add]
    cases d with
    | none => rfl
    | some d => exact congrArg (· + _) (add_zero _).symm

end History

/-- What is known of a session that was asked for, for a slot of an instance. -/
structure Serves (settings : Settings) (c : Tenure) (past : List Tenure) (n b slot : Nat) : Prop where
  /-- This is how it began, -/
  first : (deeds n (c :: past)).getLast? = some (.asked b slot)
  /-- and what it did since follows from what it did before.  All its dials are to the agent of the
  instance. -/
  follows : (deeds n (c :: past)).IsChain (Deed.Follows settings.session
    (agentAddress (c.world.scheduler.address b) settings.session.agentPort) b slot)
  /-- It is gone if it has ended. -/
  gone : c.world.scheduler.session? n = none ↔
    ∃ how, (deeds n (c :: past)).head? = some (.ends how)
  /-- Since there was no more reason to, it began no dial, but for one if it had looked before. -/
  rests : ∀ c₀ past₀, c₀ :: past₀ <:+ c :: past → c₀.Unwanted b →
    (deeds n (c :: past)).countP Deed.isDial ≤
      (deeds n (c₀ :: past₀)).countP Deed.isDial + c₀.world.scheduler.dialsLeft n
  /-- It waits for a dial as long as that may take, and after a failure as long as it was to, but
  not after shutdown.  Otherwise it goes on by itself. -/
  going : ∀ draw, c.world.scheduler.stepSession? draw n = none →
    (∃ how, (deeds n (c :: past)).head? = some (.ends how)) ∨
      c.world.scheduler.signalled = false ∧
        ((∃ began agent, (deeds n (c :: past)).head? = some (.dials began agent) ∧
            c.world.scheduler.now < began + settings.session.dialTimeout) ∨
          ∃ failed wakeup, (deeds n (c :: past)).head? = some (.fails failed wakeup) ∧
            c.world.scheduler.now < wakeup)

/-- What is known of all sessions. -/
structure Establishes (settings : Settings) (c : Tenure) (past : List Tenure) : Prop where
  /-- Each one serves a slot. -/
  session : ∀ n < c.world.scheduler.sessionCount, ∃ b slot, c.Serves settings past n b slot
  /-- The tunnels that their dials gave are counted, -/
  established : c.world.scheduler.fleet.metrics.value (.sessions .established) =
    ∑ n ∈ Finset.range c.world.scheduler.sessionCount,
      (deeds n (c :: past)).countP (Deed.counts .established)
  /-- and so are the dials that failed. -/
  failed : c.world.scheduler.fleet.metrics.value (.sessions .failed) =
    ∑ n ∈ Finset.range c.world.scheduler.sessionCount,
      (deeds n (c :: past)).countP (Deed.counts .failed)
  /-- Tunnels are handed over by them, and by nobody else. -/
  handed : (sent (c :: past) : Multiset Handover) =
    ∑ n ∈ Finset.range c.world.scheduler.sessionCount,
      ((deeds n (c :: past)).flatMap Deed.handed : Multiset Handover)

namespace History

variable {settings : Settings} {permits : Nat} {c : Tenure} {past : List Tenure}

theorem serves (history : History settings permits (c :: past)) {n b slot : Nat}
    (hcourse : c.world.scheduler.Course n b slot (deeds n (c :: past))) :
    c.Serves settings past n b slot := by
  have hsettings := history.settings_eq
  have hgone : c.world.scheduler.session? n = none ↔
      ∃ how, (deeds n (c :: past)).head? = some (.ends how) :=
    Option.map_eq_none_iff.symm.trans hcourse.fit.eq_none_iff
  refine {
    first := hcourse.first
    follows := ?_
    gone := hgone
    rests := fun c₀ past₀ hsuffix hunwanted => ?_
    going := fun draw hnone => ?_ }
  · rw [← hsettings]
    exact hcourse.chain
  · have hover := (history.dials_over hsuffix
      (fun b' i hi => (Deed.asked_unique hcourse.chain hcourse.first hi).1) hunwanted).2
    omega
  · cases hx : c.world.scheduler.session? n with
    | none => exact .inl (hgone.1 hx)
    | some x =>
        obtain ⟨hsignalled, hwaits⟩ := waits_of_stepSession?_eq_none hx hnone
        have hfit := hcourse.fit
        rw [stage?, hx, Option.map_some] at hfit
        refine .inr ⟨hsignalled, ?_⟩
        obtain ⟨since, hstage, htime⟩ | ⟨wakeup, hstage, htime⟩ := hwaits
        · rw [hstage] at hfit
          rw [hsettings] at htime
          generalize deeds n (c :: past) = all at hfit ⊢
          cases hfit with
          | asked hx | rested hx => contradiction
          | dialing => exact .inl ⟨since, _, rfl, htime⟩
        · rw [hstage] at hfit
          generalize deeds n (c :: past) = all at hfit ⊢
          cases hfit with
          | asked hx | rested hx => contradiction
          | waiting failed => exact .inr ⟨failed, wakeup, rfl, htime⟩

/-- What is counted is the number of deeds that count. -/
theorem counted_eq_sum (history : History settings permits (c :: past)) {e : SessionEvent}
    (he : (Series.sessions e).isDial = true) :
    c.world.scheduler.fleet.metrics.value (.sessions e) =
      ∑ n ∈ Finset.range c.world.scheduler.sessionCount,
        (deeds n (c :: past)).countP (Deed.counts e) := by
  have hsum : ∀ l : List Deed, (l.map fun d => (d.counts e).toNat).sum = l.countP (Deed.counts e) := by
    intro l
    induction l with
    | nil => rfl
    | cons d l ih =>
        rw [List.map_cons, List.sum_cons, ih, List.countP_cons, Nat.add_comm]
        cases d.counts e <;> rfl
  refine (history.counted_eq he).trans (Finset.sum_congr rfl fun n _ => ?_)
  exact hsum _

/-- **Sessions establish tunnels as they are to.**

* A session was asked for, for a slot of an instance.  It dials the agent of the instance, once at
  a time, and waits between a failure and the next dial for the configured interval and a random
  part of it below a tenth.  It hands over the tunnel that its last dial gave, to its slot, or
  closes it if the scheduler is gone.  Otherwise it ends without one, for shutdown or because the
  instance was given up.
* After either it begins one dial at most, and that only if it has looked before.  It never waits
  longer than it has to.
* The dials that gave a tunnel and those that failed are what is counted, and all tunnels that are
  handed over are handed over by sessions. -/
theorem sessions_establish (history : History settings permits (c :: past)) :
    c.Establishes settings past where
  session n hn := by
    obtain ⟨hle, -⟩ | ⟨-, b, slot, hcourse⟩ := history.course n
    · exact absurd hn (Nat.not_lt.2 hle)
    · exact ⟨b, slot, history.serves hcourse⟩
  established := history.counted_eq_sum rfl
  failed := history.counted_eq_sum rfl
  handed := by
    have hsum : ∀ l : List Deed, (l.map fun d => (d.handed : Multiset Handover)).sum =
        (l.flatMap Deed.handed : Multiset Handover) := by
      intro l
      induction l with
      | nil => rfl
      | cons d l ih => rw [List.map_cons, List.sum_cons, ih, List.flatMap_cons, Multiset.coe_add]
    exact history.sent_eq.trans (Finset.sum_congr rfl fun n _ => hsum _)

/-- Each instance has two slots. -/
def twoSlots : Settings := ⟨.leastLoaded, false, 1, 1, 2, ⟨0, 100⟩, ⟨"6900", 1000, 100⟩⟩

/-- A history of two sessions.  A dial of the first one fails and the next one gives a tunnel; the
other one is broken off in its first dial. -/
theorem exists_sessions : ∃ c past,
    History twoSlots 1 (c :: past) ∧ c.world.scheduler.sessionCount = 2 ∧
      deeds 0 (c :: past) = [.ends ⟨[⟨0, 0, 0⟩], [], false, false, false⟩, .gains 103 0,
        .dials 103 "a:6900", .fails 0 103, .dials 0 "a:6900", .asked 0 0] ∧
      deeds 1 (c :: past) = [.ends ⟨[], [], true, false, false⟩, .dials 0 "a:6900", .asked 0 1] := by
  have begun := @History.start twoSlots 1
  -- a snapshot makes an instance, and two sessions are asked for
  have posted := begun.step (.step (.work (.post (.ofHealthy ["a"]))))
  have opened := posted.step (.step
    (.receive rfl rfl (.snapshot rfl) (.snapshot _ (by decide) .rfl .rfl (.inl rfl))))
  have arrived := (opened.next (by decide +kernel)).next (by decide +kernel)
  have ready := (arrived.next (by decide +kernel)).next (by decide +kernel)
  have looked := (((ready.session 0 0 (by decide +kernel)).session 0 0 (by decide +kernel)).session 0 1
    (by decide +kernel)).session 0 1 (by decide +kernel)
  have dialing := (looked.session 0 0 (by decide +kernel)).session 0 1 (by decide +kernel)
  -- the first one is refused and waits
  have refused := dialing.step (.step (.work (@Work.undialed _ 0 ⟨0, 0, 0, .dialing 0⟩ 3
    (by decide +kernel) rfl)))
  have later := refused.step (.step (.work (@Work.tick _ 103 0 (by decide +kernel)
    (by decide +kernel))))
  have relooked := ((later.session 0 0 (by decide +kernel)).session 0 0 (by decide +kernel)).session 0 0
    (by decide +kernel)
  have again := relooked.session 0 0 (by decide +kernel)
  have gained := again.step (.step (.work (@Work.dialed _ 0 ⟨0, 0, 0, .dialing 103⟩ {}
    (by decide +kernel) rfl rfl)))
  have handed := gained.session 0 0 (by decide +kernel)
  -- the other one hears of shutdown
  have signalled := handed.step (.step .signal)
  have broken := signalled.session 0 1 (by decide +kernel)
  exact ⟨_, _, broken, by decide +kernel, by decide +kernel, by decide +kernel⟩

/-- Of both sessions one tunnel is handed over, and one dial is counted as failed. -/
theorem sessions_establish_of_two : ∃ c past,
    History twoSlots 1 (c :: past) ∧ c.Establishes twoSlots past ∧
      c.world.scheduler.fleet.metrics.value (.sessions .established) = 1 ∧
      c.world.scheduler.fleet.metrics.value (.sessions .failed) = 1 ∧
      sent (c :: past) = [⟨0, 0, 0⟩] := by
  obtain ⟨c, past, history, hcount, hfirst, hsecond⟩ := exists_sessions
  have h := sessions_establish history
  have hestablished := h.established
  have hfailed := h.failed
  have hhanded := h.handed
  rw [hcount, Finset.sum_range_succ, Finset.sum_range_one, hfirst, hsecond] at hestablished
  rw [hcount, Finset.sum_range_succ, Finset.sum_range_one, hfirst, hsecond] at hfailed
  rw [hcount, Finset.sum_range_succ, Finset.sum_range_one, hfirst, hsecond] at hhanded
  exact ⟨c, past, history, h, hestablished, hfailed, Multiset.coe_eq_singleton.1 hhanded⟩

/-- What may happen to a session that has looked and found its tunnel wanted:

* its instance is given up, and then it dials;
* shutdown is signalled, it dials, and it gets a tunnel when the scheduler is gone;
* its dial fails, and the clock moves past the end of its delay in one go. -/
theorem exists_late :
    (∃ c past c₀ past₀, History twoSlots 1 (c :: past) ∧ c₀ :: past₀ <:+ c :: past ∧
      c₀.world.scheduler.gaveUp 0 ∧ deeds 0 (c₀ :: past₀) = [.asked 0 0] ∧
      deeds 0 (c :: past) = [.dials 0 "a:6900", .asked 0 0]) ∧
    (∃ c past c₀ past₀, History twoSlots 1 (c :: past) ∧ c₀ :: past₀ <:+ c :: past ∧
      c₀.world.scheduler.signalled = true ∧ deeds 0 (c₀ :: past₀) = [.asked 0 0] ∧
      deeds 0 (c :: past) =
        [.ends ⟨[], [0], true, true, true⟩, .gains 0 0, .dials 0 "a:6900", .asked 0 0]) ∧
    ∃ c past, History twoSlots 1 (c :: past) ∧
      deeds 0 (c :: past) = [.dials 500 "a:6900", .fails 0 103, .dials 0 "a:6900", .asked 0 0] := by
  have begun := @History.start twoSlots 1
  have posted := begun.step (.step (.work (.post (.ofHealthy ["a"]))))
  have opened := posted.step (.step
    (.receive rfl rfl (.snapshot rfl) (.snapshot _ (by decide) .rfl .rfl (.inl rfl))))
  have arrived := (opened.next (by decide +kernel)).next (by decide +kernel)
  have ready := (arrived.next (by decide +kernel)).next (by decide +kernel)
  have looked := (ready.session 0 0 (by decide +kernel)).session 0 0 (by decide +kernel)
  refine ⟨?_, ?_, ?_⟩
  · -- another snapshot replaces the instance
    have reposted := looked.step (.step (.work (.post (.ofHealthy ["b"]))))
    have reopened := reposted.step (.step (.receive rfl (by decide +kernel) (.snapshot rfl)
      (.snapshot _ (by decide) .rfl .rfl (.inl rfl))))
    have replaced := reopened.next (by decide +kernel)
    have dialing := replaced.session 0 0 (by decide +kernel)
    exact ⟨_, _, _, _, dialing, List.suffix_cons _ _, (gaveUp_iff ..).2 (by decide +kernel),
      by decide +kernel, by decide +kernel⟩
  · have signalled := looked.step (.step .signal)
    have dialing := signalled.session 0 0 (by decide +kernel)
    have gained := dialing.step (.step (.work (@Work.dialed _ 0 ⟨0, 0, 0, .dialing 0⟩ {}
      (by decide +kernel) rfl rfl)))
    -- the scheduler leaves its loop, gives everything up and is gone
    have leaving := gained.step (.step
      (@Step.leave _ ["a"] rfl (by decide +kernel) rfl (by decide +kernel)))
    have removed := (leaving.next (by decide +kernel)).next (by decide +kernel)
    have cleared := removed.next (by decide +kernel)
    have closed := cleared.step (.step (.close rfl (by decide +kernel) (by decide +kernel)
      (by decide +kernel)))
    have handed := closed.session 0 0 (by decide +kernel)
    exact ⟨_, _, _, _, handed, ⟨[_, _, _, _, _, _, _, _], rfl⟩, rfl, by decide +kernel,
      by decide +kernel⟩
  · have dialing := looked.session 0 0 (by decide +kernel)
    have refused := dialing.step (.step (.work (@Work.undialed _ 0 ⟨0, 0, 0, .dialing 0⟩ 3
      (by decide +kernel) rfl)))
    have later := refused.step (.step (.work (@Work.tick _ 500 0 (by decide +kernel)
      (by decide +kernel))))
    -- it wakes up, looks twice and dials
    have woken := later.session 0 0 (by decide +kernel)
    have relooked := (woken.session 0 0 (by decide +kernel)).session 0 0 (by decide +kernel)
    have again := relooked.session 0 0 (by decide +kernel)
    exact ⟨_, _, again, by decide +kernel⟩

/-- **Sessions are not always prompt.**

* One may begin a dial though its instance was given up, and though shutdown was signalled, for it
  does not see what happens after it has looked.
* One whose dial gave a tunnel may hand over none, for the scheduler may be gone.
* More time than the longest delay may pass between a failure and the next dial, for the clock may
  move that far before the session goes on. -/
theorem not_always_prompt :
    (∃ c past c₀ past₀, History twoSlots 1 (c :: past) ∧ c₀ :: past₀ <:+ c :: past ∧
      .asked 0 0 ∈ deeds 0 (c₀ :: past₀) ∧ c₀.world.scheduler.gaveUp 0 ∧
      (deeds 0 (c₀ :: past₀)).countP Deed.isDial < (deeds 0 (c :: past)).countP Deed.isDial) ∧
    (∃ c past c₀ past₀, History twoSlots 1 (c :: past) ∧ c₀ :: past₀ <:+ c :: past ∧
      .asked 0 0 ∈ deeds 0 (c₀ :: past₀) ∧ c₀.world.scheduler.signalled = true ∧
      (deeds 0 (c₀ :: past₀)).countP Deed.isDial < (deeds 0 (c :: past)).countP Deed.isDial) ∧
    (∃ c past how gained tunnel earlier, History twoSlots 1 (c :: past) ∧
      deeds 0 (c :: past) = .ends how :: .gains gained tunnel :: earlier ∧ how.handed = []) ∧
    ∃ c past began agent failed wakeup earlier, History twoSlots 1 (c :: past) ∧
      deeds 0 (c :: past) = .dials began agent :: .fails failed wakeup :: earlier ∧
      failed + (twoSlots.session.retryInterval + max (twoSlots.session.retryInterval / 10) 1) ≤
        began := by
  obtain ⟨⟨c, past, c₀, past₀, history, hsuffix, hgone, hbefore, hafter⟩,
    ⟨d, late, d₀, late₀, history', hsuffix', hsignalled, hbefore', hafter'⟩,
    e, slow, history'', hdeeds⟩ := exists_late
  refine ⟨⟨c, past, c₀, past₀, history, hsuffix, ?_, hgone, ?_⟩,
    ⟨d, late, d₀, late₀, history', hsuffix', ?_, hsignalled, ?_⟩,
    ⟨d, late, _, _, _, _, history', hafter', rfl⟩,
    ⟨e, slow, _, _, _, _, _, history'', hdeeds, by decide⟩⟩
  · simp [hbefore]
  · rw [hbefore, hafter]
    decide
  · simp [hbefore']
  · rw [hbefore', hafter']
    decide

end History

end Tenure

end StreamBalancer
