import StreamBalancer.Proofs.Interleaving.Tunnels
import StreamBalancer.Proofs.Traffic.Drift
import StreamBalancer.Proofs.Traffic.Slots

/-!
# StreamBalancer.Proofs.Interleaving.Transit

Every step is a step of the traffic (`World.Step.drift`, and `World.Step.move` before
shutdown), so at every moment of a history each tunnel has one owner (`Run.owned`) and
each slot in use is attended to (`Run.settled`).
-/

namespace StreamBalancer

/-- What an element in the midst of a list adds to what is gathered from the list. -/
theorem coe_filterMap_middle {α β : Type} (p : α → Option β) (front back : List α) (x : α) :
    ((front ++ x :: back).filterMap p : Multiset β) =
      ((p x).toList ++ (front ++ back).filterMap p : List β) := by
  refine Multiset.coe_eq_coe.2 ?_
  rw [List.filterMap_append, List.filterMap_cons, List.filterMap_append]
  cases p x with
  | none => exact .refl _
  | some y => exact List.perm_middle

namespace Scheduler

variable {s t : Scheduler} (tasks : List Task)

/-! ## Sessions -/

/-- What the sessions of a scheduler hold, when one of them is told apart. -/
theorem traffic_sessions {front back : List Session} {x : Session}
    (hsplit : s.sessions = front ++ x :: back) :
    s.traffic tasks =
      { s.traffic tasks with
        seeking := (x.seeks?.toList ++ (front ++ back).filterMap Session.seeks? : List _)
        carried := (tasks.filterMap Task.handover? ++ s.handovers : List _) +
          (x.handover?.toList ++ (front ++ back).filterMap Session.handover? : List _) } := by
  ext1
  case seeking =>
    rw [← coe_filterMap_middle, ← hsplit]
    rfl
  case carried =>
    rw [← coe_filterMap_middle Session.handover?, ← hsplit]
    rfl
  all_goals rfl

/-- The session with a number stands out among the sessions. -/
theorem Numbered.split_sessions (h : s.Numbered) {n : Nat} {x : Session}
    (hfind : s.session? n = some x) :
    ∃ front back, s.sessions = front ++ x :: back ∧
      (∀ change, (s.modifySession n change).sessions = front ++ change x :: back) ∧
      (s.removeSession n).sessions = front ++ back := by
  obtain ⟨front, back, hsplit, -, hchange, hremove⟩ := Keyed.split_of_find? h.1 hfind
  exact ⟨front, back, hsplit, hchange, hremove⟩

/-- A session that changes while it has no tunnel changes nothing of the traffic. -/
theorem modifySession_move (h : s.Numbered) {n : Nat} {x : Session} (hfind : s.session? n = some x)
    {change : Session → Session} (hold : x.tunnel? = none) (hnew : (change x).tunnel? = none)
    (hbackend : (change x).backend = x.backend) (hslot : (change x).slot = x.slot) :
    (s.traffic tasks).Move ((s.modifySession n change).traffic tasks) := by
  obtain ⟨front, back, hsplit, hchange, -⟩ := h.split_sessions hfind
  have hseeks : (change x).seeks? = x.seeks? := by
    rw [Session.seeks?, Session.seeks?, hold, hnew, hbackend, hslot]
  have hhandover : (change x).handover? = x.handover? := by
    rw [Session.handover?, Session.handover?, hold, hnew]
    rfl
  have hsame : (s.modifySession n change).traffic tasks = s.traffic tasks := by
    rw [traffic_sessions tasks (hchange change), traffic_sessions tasks hsplit, hseeks, hhandover]
    rfl
  rw [hsame]
  exact .same _

/-- A session without a tunnel looks for one. -/
theorem traffic_of_seeking (h : s.Numbered) {x : Session} (hfind : s.session? x.number = some x)
    (hold : x.tunnel? = none) :
    s.traffic tasks = { (s.removeSession x.number).traffic tasks with
      seeking := (x.backend, x.slot) ::ₘ ((s.removeSession x.number).traffic tasks).seeking } := by
  obtain ⟨front, back, hsplit, -, hremove⟩ := h.split_sessions hfind
  rw [traffic_sessions tasks hsplit]
  ext1
  case seeking =>
    simp only [traffic, hremove, Session.seeks?, hold]
    rfl
  case carried =>
    simp only [traffic, hremove, Session.handover?, hold]
    rfl
  all_goals rfl

/-- A session with a tunnel carries it. -/
theorem traffic_of_carrying (h : s.Numbered) {x : Session} (hfind : s.session? x.number = some x)
    {tunnel : Nat} (hold : x.tunnel? = some tunnel) :
    s.traffic tasks = { (s.removeSession x.number).traffic tasks with
      carried := ⟨x.backend, x.slot, tunnel⟩ ::ₘ
        ((s.removeSession x.number).traffic tasks).carried } := by
  obtain ⟨front, back, hsplit, -, hremove⟩ := h.split_sessions hfind
  rw [traffic_sessions tasks hsplit]
  ext1
  case seeking =>
    simp only [traffic, hremove, Session.seeks?, hold]
    rfl
  case carried =>
    simp only [traffic, hremove, Session.handover?, hold, Multiset.coe_add]
    exact Multiset.coe_eq_coe.2 List.perm_middle
  all_goals rfl

/-- What is handed over is carried by the queue. -/
theorem traffic_handOver (hstopped : s.stopped = false) (v : Handover) :
    (s.handOver v).traffic tasks =
      { s.traffic tasks with carried := v ::ₘ (s.traffic tasks).carried } := by
  rw [handOver, if_neg (by simp [hstopped])]
  ext1
  case carried =>
    refine Multiset.coe_eq_coe.2 ?_
    rw [← List.append_assoc, List.append_assoc _ [v]]
    exact List.perm_middle
  all_goals rfl

theorem SessionMoves.drift (h : s.Numbered) {n : Nat} {x : Session} (hfind : s.session? n = some x)
    (hmoves : s.SessionMoves x t) :
    (s.traffic tasks).Drift s.signalled s.stopped (t.traffic tasks) := by
  obtain rfl := number_of_session? hfind
  cases hmoves with
  | hands hold =>
      rw [traffic_of_carrying tasks h hfind hold]
      cases hstopped : s.stopped with
      | false =>
          rw [traffic_handOver tasks (by exact hstopped)]
          exact .moves (.same _)
      | true =>
          rw [handOver, if_pos (by exact hstopped), traffic_close]
          exact .closes _ _ rfl
  | ends hold hwhy =>
      rw [traffic_of_seeking tasks h hfind hold]
      obtain hsignalled | hdead := hwhy
      · exact .ends _ _ _ hsignalled
      · refine .moves (.quits _ ?_)
        rw [live_traffic]
        change ¬s.isRetired x.backend = false
        simp [hdead]
  | @goes metrics change hold hnew hkeeps =>
      exact .moves (modifySession_move (s := { s with fleet := { s.fleet with metrics } }) tasks h
        hfind hold hnew (hkeeps x).2.1 (hkeeps x).2.2)

/-- A dial gives a session a tunnel that never was before. -/
theorem dialSucceeded_move (h : s.Numbered) {n : Nat} {x : Session} (hfind : s.session? n = some x)
    (hold : x.tunnel? = none) {tunnel : Tunnel} (hcloses : tunnel.closes = 0) :
    (s.traffic tasks).Move ((s.dialSucceeded n tunnel).traffic tasks) := by
  obtain ⟨front, back, hsplit, hchange, -⟩ := h.split_sessions hfind
  have hsize : s.fleet.tunnels.size = (s.traffic tasks).closes.length := by
    rw [traffic, List.length_map, Array.length_toList]
  have hmove := Traffic.Move.dials { s.traffic tasks with
    seeking := (front ++ back).filterMap Session.seeks?
    carried := (tasks.filterMap Task.handover? ++ s.handovers : List _) +
      ((front ++ back).filterMap Session.handover? : List _) } x.backend x.slot
  have hbefore : s.traffic tasks = { s.traffic tasks with
      seeking := (x.backend, x.slot) ::ₘ ((front ++ back).filterMap Session.seeks? : Multiset _)
      carried := (tasks.filterMap Task.handover? ++ s.handovers : List _) +
        ((front ++ back).filterMap Session.handover? : List _) } := by
    conv_lhs => rw [traffic_sessions tasks hsplit]
    simp only [Session.seeks?, Session.handover?, hold]
    rfl
  have hafter : (s.dialSucceeded n tunnel).traffic tasks = { s.traffic tasks with
      seeking := ((front ++ back).filterMap Session.seeks? : Multiset _)
      carried := ⟨x.backend, x.slot, (s.traffic tasks).closes.length⟩ ::ₘ
        ((tasks.filterMap Task.handover? ++ s.handovers : List _) +
          ((front ++ back).filterMap Session.handover? : List _))
      closes := (s.traffic tasks).closes ++ [0] } := by
    have hsessions : (s.dialSucceeded n tunnel).sessions =
        front ++ { x with stage := .established s.fleet.tunnels.size } :: back := hchange _
    rw [traffic_sessions tasks hsessions, ← hsize]
    ext1
    case closes =>
      simp [traffic, dialSucceeded, modifySession, count, Fleet.count, Fleet.addTunnel, hcloses]
    case carried =>
      refine Multiset.coe_eq_coe.2 ?_
      exact List.perm_middle
    all_goals rfl
  rw [hafter]
  rw [← hbefore] at hmove
  exact hmove

/-! ## Forwards -/

/-- The traffic of a scheduler whose forwards hold given tunnels. -/
def trafficWith (s : Scheduler) (tasks : List Task) (stage : Forward.Stage)
    (others : List Forward) : Traffic :=
  { s.traffic tasks with
    taken := (stage.taken?.toList ++ others.filterMap fun f => f.stage.taken? : List _)
    owed := (stage.owed?.toList ++ others.filterMap fun f => f.stage.owed? : List _) }

/-- What the forwards of a scheduler hold, when one of them is told apart. -/
theorem traffic_forwards {front back : List Forward} {f : Forward}
    (hsplit : s.forwards = front ++ f :: back) :
    s.traffic tasks = s.trafficWith tasks f.stage (front ++ back) := by
  ext1
  case taken =>
    rw [trafficWith]
    dsimp only
    rw [← coe_filterMap_middle (fun f : Forward => f.stage.taken?) front back f, ← hsplit]
    rfl
  case owed =>
    rw [trafficWith]
    dsimp only
    rw [← coe_filterMap_middle (fun f : Forward => f.stage.owed?) front back f, ← hsplit]
    rfl
  all_goals rfl

/-- What a forward does to slots, tunnels and reports is a step of the traffic. -/
theorem touches_move {old new : Forward.Stage} {g : Fleet} (h : Forward.Touches s.fleet old new g)
    (others : List Forward) :
    (s.trafficWith tasks old others).Move
      (({ s with fleet := g }).trafficWith tasks new others) := by
  cases h with
  | nothing holdTaken holdOwed hnewTaken hnewOwed hbackends hfailures hcloses =>
      have hsame : ({ s with fleet := g }).trafficWith tasks new others =
          s.trafficWith tasks old others := by
        simp only [trafficWith, traffic, holdTaken, holdOwed, hnewTaken, hnewOwed, hbackends,
          hfailures, hcloses]
      rw [hsame]
      exact .same _
  | evicts x holdTaken holdOwed hnewTaken hnewOwed hslot hbackends hfailures hcloses =>
      have hmove := Traffic.Move.evicts (s.trafficWith tasks old others) x
        ((s.tunnelAt_traffic tasks x.backend x.slot).trans hslot)
      have hafter : ({ s with fleet := g }).trafficWith tasks new others =
          { (s.trafficWith tasks old others).setSlot x.backend x.slot fun y =>
              { y with tunnel := none } with
            taken := x ::ₘ (s.trafficWith tasks old others).taken } := by
        simp only [trafficWith, traffic, holdTaken, holdOwed, hnewTaken, hnewOwed, hbackends,
          hfailures, hcloses, stands_modifySlot]
        rfl
      rw [hafter]
      exact hmove
  | closes x holdTaken holdOwed hnewTaken hnewOwed hfleet =>
      have hmove := Traffic.Move.shuts (s.trafficWith tasks .starting others) x
      have hbefore : s.trafficWith tasks old others = { s.trafficWith tasks .starting others with
          taken := x ::ₘ (s.trafficWith tasks .starting others).taken } := by
        simp only [trafficWith, holdTaken, holdOwed]
        rfl
      have hafter : ({ s with fleet := g }).trafficWith tasks new others =
          { (s.trafficWith tasks .starting others).close x.tunnel with
            owed := x ::ₘ (s.trafficWith tasks .starting others).owed } := by
        simp only [hfleet, trafficWith, traffic_close, hnewTaken, hnewOwed]
        rfl
      rw [hbefore, hafter]
      exact hmove
  | reports x holdTaken holdOwed hnewTaken hnewOwed hbackends hfailures hcloses =>
      have hmove := Traffic.Move.reports (s.trafficWith tasks .starting others) x
      have hbefore : s.trafficWith tasks old others = { s.trafficWith tasks .starting others with
          owed := x ::ₘ (s.trafficWith tasks .starting others).owed } := by
        simp only [trafficWith, holdTaken, holdOwed]
        rfl
      have hafter : ({ s with fleet := g }).trafficWith tasks new others =
          { s.trafficWith tasks .starting others with
            told := x ::ₘ (s.trafficWith tasks .starting others).told } := by
        ext1
        case told =>
          simp only [trafficWith, traffic, hfailures]
          refine Multiset.coe_eq_coe.2 ?_
          rw [← List.append_assoc]
          exact List.perm_append_singleton _ _
        all_goals simp only [trafficWith, traffic, hnewTaken, hnewOwed, hbackends, hcloses]
        all_goals rfl
      rw [hbefore, hafter]
      exact hmove

/-- A forward that goes on touches slots, tunnels and reports, and no other forward. -/
theorem setForward_move {front back : List Forward} {f : Forward} {stage : Forward.Stage} {g : Fleet}
    (hsplit : s.forwards = front ++ f :: back)
    (hchange : t.forwards = front ++ { f with stage } :: back)
    (htouches : Forward.Touches s.fleet f.stage stage g)
    (hrest : ∀ old others, t.trafficWith tasks old others =
      ({ s with fleet := g }).trafficWith tasks old others) :
    (s.traffic tasks).Move (t.traffic tasks) := by
  rw [traffic_forwards tasks hsplit, traffic_forwards tasks hchange, hrest]
  exact touches_move tasks htouches (front ++ back)

end Scheduler

namespace World

open Scheduler

/-- Where tunnels are, and where they are wanted. -/
def traffic (w : World) : Traffic := w.scheduler.traffic w.tasks

variable {w w' : World}

theorem forward_move (hapart : w.Apart) {r : Nat} {f : Forward} {s : Scheduler}
    (hfind : w.scheduler.forward? r = some f) (hmoves : w.scheduler.ForwardMoves f s) :
    w.traffic.Move (s.traffic w.tasks) := by
  obtain rfl := request_of_forward? hfind
  obtain ⟨front, back, hsplit, hchange, hremove⟩ := hapart.split_forwards hfind
  cases hmoves with
  | advances _ _ htouches =>
      exact setForward_move w.tasks hsplit (hchange _) htouches fun _ _ => rfl
  | @releases outcome hold =>
      have hnone : Forward.Touches w.scheduler.fleet f.stage (.reporting outcome) w.scheduler.fleet := by
        rw [hold]
        exact .nothing rfl rfl rfl rfl rfl rfl rfl
      exact setForward_move w.tasks hsplit (hchange _) hnone fun _ _ => rfl
  | @reports outcome hold =>
      have hreported : ((w.scheduler.removeForward f.request).report ⟨f.backend, outcome⟩).traffic
          w.tasks = w.traffic := by
        rw [report_keeps (Scheduler.traffic · w.tasks) fun _ _ _ _ => rfl, traffic,
          traffic_forwards w.tasks hsplit]
        simp only [Scheduler.traffic, trafficWith, hremove, hold]
        rfl
      rw [hreported]
      exact .same _

theorem work_drift (hapart : w.Apart) (hnumbered : w.scheduler.Numbered) {s : Scheduler}
    (h : w.scheduler.Work s) :
    w.traffic.Drift w.scheduler.signalled w.scheduler.stopped (s.traffic w.tasks) := by
  cases h with
  | post | tick => exact .moves (.same _)
  | session h =>
      obtain ⟨x, hfind, hmoves⟩ := stepSession?_cases h
      exact hmoves.drift w.tasks hnumbered hfind
  | @dialed _ x tunnel hfind hdialing hcloses =>
      refine .moves (dialSucceeded_move w.tasks hnumbered hfind ?_ hcloses)
      obtain ⟨n, b, slot, stage⟩ := x
      cases stage <;> first | rfl | contradiction
  | @undialed _ x draw hfind hdialing =>
      obtain rfl := number_of_session? hfind
      refine (dialFailed_moves draw ?_).drift w.tasks hnumbered hfind
      obtain ⟨n, b, slot, stage⟩ := x
      cases stage <;> first | rfl | contradiction
  | forward reach h =>
      obtain ⟨f, hfind, hmoves⟩ := stepForward?_cases h
      exact .moves (forward_move hapart hfind hmoves)
  | @spliced _ f route moved hfind hstage =>
      obtain ⟨front, back, hsplit, hchange, -⟩ := hapart.split_forwards hfind
      obtain ⟨g, outcome, heq, -, htunnels, hfailures, hview⟩ := endSplice_eq hfind moved
      have hcredit : ({ w.scheduler with fleet := g }).traffic w.tasks = w.traffic := by
        apply traffic_congr
        rw [stock, hview Backend.stand fun _ _ _ => rfl, htunnels, hfailures]
        rfl
      have hnone : Forward.Touches g f.stage (.ended outcome) g := by
        rw [hstage]
        exact .nothing rfl rfl rfl rfl rfl rfl rfl
      rw [heq, ← hcredit]
      exact .moves (setForward_move w.tasks (s := { w.scheduler with fleet := g }) hsplit (hchange _)
        hnone fun _ _ => rfl)
  | retune t nextId answer =>
      have hcloses := w.scheduler.fleet.closes_modifyTunnel t (fun x => { x with nextId, answer })
        fun _ _ => rfl
      have hretuned : ({ w.scheduler with fleet := w.scheduler.fleet.modifyTunnel t fun x =>
          { x with nextId, answer } }).traffic w.tasks = w.traffic :=
        traffic_congr (by simp only [stock, hcloses]; rfl) w.tasks
      rw [hretuned]
      exact .moves (.same _)

theorem receive_move {e : Event} {s : Scheduler} {tasks : List Task} (htasks : w.tasks = [])
    (hreceives : w.scheduler.Receives e s) (hopens : s.Opens e tasks) :
    w.traffic.Move (s.traffic (tasks ++ [.publish])) := by
  have hsame : s.traffic (tasks ++ [.publish]) = w.traffic := by
    rw [traffic, htasks]
    cases hreceives with
    | request h =>
        cases hopens
        rfl
    | finished h =>
        cases hopens
        rfl
    | snapshot h =>
        rw [traffic_append_quiet]
        · rfl
        · cases hopens with
          | ignored => exact fun x hx => absurd hx List.not_mem_nil
          | snapshot =>
              intro x hx
              obtain ⟨a, rfl⟩ | ⟨a, rfl⟩ | ⟨a, -, rfl⟩ | rfl | rfl :=
                World.Sound.mem_sweep (List.mem_append_left _ hx) <;> rfl
    | failure h =>
        cases hopens
        simp only [Scheduler.traffic, h]
        rfl
    | handover h =>
        cases hopens
        simp only [Scheduler.traffic, h]
        rfl
  rw [hsame]
  exact .same _

/-- **A step of anybody is a step of the traffic**, also once shutdown was signalled and the
scheduler is gone. -/
theorem Step.drift (hsound : w.Sound) (hapart : w.Apart) (hnumbered : w.scheduler.Numbered)
    (h : w.Step w') : w.traffic.Drift w.scheduler.signalled w.scheduler.stopped w'.traffic := by
  cases h with
  | @perform task rest htasks =>
      have hmem : task ∈ w.tasks := htasks ▸ List.mem_cons_self
      rw [traffic, htasks]
      refine .moves (w.scheduler.perform_move rest hsound.roster task (hsound.live task hmem) ?_)
      intro b i htask
      obtain ⟨x, hx, hretired⟩ := hsound.emptying b i (htask ▸ hmem)
      rw [isRetired_eq, hx]
      exact hretired
  | receive htasks hreceives hopens => exact .moves (receive_move htasks hreceives hopens)
  | query htasks =>
      rw [traffic, htasks]
      exact .moves (.same _)
  | arrive _ haccept =>
      obtain rfl := accept?_eq haccept
      exact .moves (.same _)
  | work h => exact work_drift hapart hnumbered h

/-- Before shutdown it is one as at any time. -/
theorem Step.move {settings : Settings} {permits : Nat} {past : List World}
    (run : Run settings permits (w :: past)) (h : w.Step w') : w.traffic.Move w'.traffic := by
  have hdrift := h.drift run.sound run.apart run.sessions_numbered
  obtain ⟨hsignalled, hstopped⟩ : w.scheduler.signalled = false ∧ w.scheduler.stopped = false :=
    Prod.mk.inj (congrArg Prod.snd run.fixed)
  rw [hsignalled, hstopped] at hdrift
  exact hdrift.move

end World

namespace Run

open Scheduler

variable {settings : Settings} {permits : Nat} {w : World} {past : List World}

/-- Each tunnel has one owner. -/
theorem owned (run : Run settings permits (w :: past)) : w.traffic.Owned := by
  induction run using Run.induct with
  | initial => exact ⟨fun _ => rfl, fun _ _ _ hsome => by contradiction⟩
  | kept run step ih => exact ih.moves (step.move run)

/-- Each slot in use is attended to. -/
theorem settled (run : Run settings permits (w :: past)) : w.traffic.Settled := by
  induction run using Run.induct with
  | initial =>
      have hnone : ∀ b, ¬(World.initial settings permits).traffic.Live b := by
        rintro b ⟨x, hx, -⟩
        contradiction
      exact ⟨fun b _ _ hlive => absurd hlive (hnone b), fun _ _ _ => ⟨rfl, rfl, rfl⟩⟩
  | kept run step ih => exact ih.moves (step.move run)

end Run

end StreamBalancer
