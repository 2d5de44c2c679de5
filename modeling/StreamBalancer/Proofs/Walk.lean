import Mathlib.Data.List.Nodup
import Mathlib.Data.List.Perm.Subperm
import Mathlib.Data.Nat.ModEq
import StreamBalancer.Proofs.Interleaving.Helpers

/-!
# StreamBalancer.Proofs.Walk

The walk of a search over the slots of its instance, while nobody else touches them.

1. The walk comes to each slot once, in the order that the dispatch counter selects
   (`turn_perm`); the tunnels on its way are a `tour`.
2. It goes on past every tunnel that breaks, and ends at the first one that does not.
3. What a search does itself is kept in a `Log`, apart from what others do between
   its steps (`Course`).
4. In each phase the log and the slots are those of the part of the tour that is over
   (`Stand`), so at the end they are those of the tunnels that broke (`walk_exact`).
-/

namespace StreamBalancer

namespace Opening

/-! ## The order of the visits -/

/-- The slot of an instance whose turn it is after `i` others. -/
def turn (x : Backend) (i : Nat) : Nat := (x.dispatches.toNat + i) % x.slots.length

/-- The tunnel found after `i` other slots, if the slot is not empty. -/
def visit? (x : Backend) (i : Nat) : Option Visit :=
  (x.tunnel? (turn x i)).map fun t => ⟨i, turn x i, t⟩

/-- The tunnels found in the first `n` slots, in order. -/
def visits (x : Backend) (n : Nat) : List Visit := (List.range n).filterMap (visit? x)

/-- The tunnels on the way past all slots, in order. -/
def tour (x : Backend) : List Visit := visits x x.slots.length

section Visits

variable {x : Backend}

theorem turn_injective {i j : Nat} (hi : i < x.slots.length) (hj : j < x.slots.length)
    (h : turn x i = turn x j) : i = j :=
  Nat.ModEq.eq_of_lt_of_lt (Nat.ModEq.add_left_cancel' x.dispatches.toNat h) hi hj

/-- Each slot has its turn once. -/
theorem turn_perm (x : Backend) :
    ((List.range x.slots.length).map (turn x)).Perm (List.range x.slots.length) := by
  have hnodup : ((List.range x.slots.length).map (turn x)).Nodup := by
    refine List.Nodup.map_on (fun i hi j hj h => ?_) List.nodup_range
    exact turn_injective (List.mem_range.1 hi) (List.mem_range.1 hj) h
  refine (hnodup.subperm fun slot hslot => ?_).perm_of_length_le (by simp)
  obtain ⟨i, hi, rfl⟩ := List.mem_map.1 hslot
  exact List.mem_range.2 (Nat.mod_lt _ (Nat.zero_lt_of_lt (List.mem_range.1 hi)))

theorem visit?_eq {i : Nat} {v : Visit} (h : visit? x i = some v) :
    v.visited = i ∧ v.slot = turn x i ∧ x.tunnel? v.slot = some v.tunnel := by
  obtain ⟨t, ht, rfl⟩ := Option.map_eq_some_iff.1 h
  exact ⟨rfl, rfl, ht⟩

theorem visits_succ (n : Nat) : visits x (n + 1) = visits x n ++ (visit? x n).toList := by
  rw [visits, List.range_succ, List.filterMap_append, visits]
  cases h : visit? x n with
  | none => simp [h]
  | some v => simp [h]

theorem visits_prefix {m n : Nat} (h : m ≤ n) : ∃ rest, visits x n = visits x m ++ rest := by
  obtain ⟨d, rfl⟩ := Nat.exists_eq_add_of_le h
  rw [visits, List.range_add, List.filterMap_append]
  exact ⟨_, rfl⟩

theorem mem_visits {n : Nat} {v : Visit} (h : v ∈ visits x n) :
    v.visited < n ∧ visit? x v.visited = some v := by
  obtain ⟨i, hi, hv⟩ := List.mem_filterMap.1 h
  obtain ⟨hvisited, -, -⟩ := visit?_eq hv
  rw [hvisited]
  exact ⟨List.mem_range.1 hi, hv⟩

/-- The next slot is none of those behind. -/
theorem turn_not_mem {n : Nat} (hn : n < x.slots.length) :
    turn x n ∉ (visits x n).map Visit.slot := by
  intro h
  obtain ⟨v, hv, hslot⟩ := List.mem_map.1 h
  obtain ⟨hlt, hvisit⟩ := mem_visits hv
  rw [(visit?_eq hvisit).2.1] at hslot
  exact absurd (turn_injective (hlt.trans hn) hn hslot) hlt.ne

/-- No slot is met twice. -/
theorem nodup_visits {n : Nat} (hn : n ≤ x.slots.length) :
    ((visits x n).map Visit.slot).Nodup := by
  induction n with
  | zero => exact List.nodup_nil
  | succ n ih =>
      rw [visits_succ]
      cases hvisit : visit? x n with
      | none =>
          rw [Option.toList_none, List.append_nil]
          exact ih (Nat.le_of_succ_le hn)
      | some v =>
          obtain ⟨-, hslot, -⟩ := visit?_eq hvisit
          rw [Option.toList_some, List.map_append, List.map_cons, List.map_nil, hslot,
            ← List.concat_eq_append]
          exact (ih (Nat.le_of_succ_le hn)).concat (turn_not_mem hn)

end Visits

/-! ## Slots without the tunnels that broke -/

/-- The slots after some tunnels were taken out. -/
def emptied (slots : List Slot) (out : List Visit) : List Slot :=
  slots.mapIdx fun i s => if i ∈ out.map Visit.slot then { s with tunnel := none } else s

@[simp] theorem length_emptied (slots : List Slot) (out : List Visit) :
    (emptied slots out).length = slots.length := List.length_mapIdx

@[simp] theorem emptied_nil (slots : List Slot) : emptied slots [] = slots := by
  apply List.ext_getElem?
  intro i
  simp [emptied]

theorem getElem?_emptied {slots : List Slot} {out : List Visit} {i : Nat}
    (h : i ∉ out.map Visit.slot) : (emptied slots out)[i]? = slots[i]? := by
  rw [emptied, List.getElem?_mapIdx]
  cases slots[i]? with
  | none => rfl
  | some s => rw [Option.map_some, if_neg h]

theorem emptied_append (slots : List Slot) (out : List Visit) (v : Visit) :
    emptied slots (out ++ [v]) = (emptied slots out).modify v.slot fun s => { s with tunnel := none } := by
  apply List.ext_getElem?
  intro i
  rw [emptied, emptied, List.getElem?_modify, List.getElem?_mapIdx, List.getElem?_mapIdx]
  cases slots[i]? with
  | none => simp
  | some s =>
      by_cases hi : v.slot = i
      · subst hi
        simp only [List.map_append, List.map_cons, List.map_nil, List.mem_append,
          List.mem_singleton, or_true, if_true, Option.map_some]
        split <;> rfl
      · simp [hi, Ne.symm hi]

/-! ## What a search does -/

/-- What the steps of a search itself did, apart from what others did meanwhile. -/
structure Log where
  /-- Number of steps. -/
  steps : Nat := 0
  /-- The tunnels asked for a stream, in order. -/
  asked : List Visit := []
  /-- How often it told each tunnel to close. -/
  closes : Nat → Nat := fun _ => 0
  /-- The reports it sent, in order. -/
  sent : List Failure := []
  /-- The addresses it dialed. -/
  dialed : List String := []

/-- The tunnel that a search in this phase has just turned to. -/
def Phase.turnsTo : Phase → List Visit
  | .asking v false => [v]
  | _ => []

/-- The address that the next step of a search dials. -/
def dials (f : Fleet) (o : Opening) : List String :=
  match o.phase with
  | .dialing => [o.address f]
  | _ => []

/-- Note one step, by what it changes. -/
def Log.add (log : Log) (f : Fleet) (o : Opening) (g : Fleet) (o' : Opening) : Log where
  steps := log.steps + 1
  asked := log.asked ++ o'.phase.turnsTo
  closes := fun t => log.closes t + (g.closesOf t - f.closesOf t)
  sent := log.sent ++ g.failures.drop f.failures.length
  dialed := log.dialed ++ o.dials f

/-- A change by others that leaves the slots of an instance alone. -/
structure Aside (b : Nat) (f g : Fleet) : Prop where
  /-- The instance has the same slots and the same address. -/
  same : ∀ y, f.backend? b = some y →
    ∃ z, g.backend? b = some z ∧ z.slots = y.slots ∧ z.address = y.address
  /-- No tunnel is forgotten. -/
  grows : f.tunnels.size ≤ g.tunnels.size

/-- A search that began in a fleet, with changes by others between its steps.  Each tunnel
asked answers, sooner or later, with its outcome, and a dial is accepted or refused. -/
inductive Course (b : Nat) (outcome : Visit → Except TunnelError Unit) (accepted : Bool)
    (start : Fleet) : Fleet → Opening → Log → Prop where
  | begin : Course b outcome accepted start start (Opening.begin start b) {}
  | aside {f g : Fleet} {o : Opening} {log : Log} (course : Course b outcome accepted start f o log)
      (h : Aside b f g) : Course b outcome accepted start g o log
  | step {reach : ListenAddress → Bool} {f g : Fleet} {o o' : Opening} {log : Log}
      (course : Course b outcome accepted start f o log) (hstep : o.step? reach f = some (o', g))
      (hask : ∀ v held answer, o.phase = .asking v held →
        (ask reach f v held).1 = some answer → answer = outcome v)
      (hdial : o.phase = .dialing → reach (.tcp (o.address f)) = accepted) :
      Course b outcome accepted start g o' (log.add f o g o')

/-- Whether the tunnel of a visit breaks. -/
def breaks (outcome : Visit → Except TunnelError Unit) (v : Visit) : Bool :=
  match outcome v with
  | .ok _ => false
  | .error e => e.breaksSession

theorem breaks_of_error {outcome : Visit → Except TunnelError Unit} {v : Visit} {e : TunnelError}
    (h : outcome v = .error e) : breaks outcome v = e.breaksSession := by
  rw [breaks, h]

/-- How a search ends that gets no stream. -/
def dialEnd (accepted : Bool) : Phase := if accepted then .found .direct else .unreachable

/-- How a search ends whose walk ended at a tunnel, if at any. -/
def ending (outcome : Visit → Except TunnelError Unit) (accepted : Bool) : Option Visit → Phase
  | some v =>
    match outcome v with
    | .ok _ => .found (.stream v.tunnel)
    | .error _ => dialEnd accepted
  | none => dialEnd accepted

theorem ending_cases (outcome : Visit → Except TunnelError Unit) (accepted : Bool)
    (last : Option Visit) :
    (∃ route, ending outcome accepted last = .found route) ∨
      ending outcome accepted last = .unreachable := by
  have hdial : (∃ route, dialEnd accepted = .found route) ∨ dialEnd accepted = .unreachable := by
    cases accepted
    · exact .inr rfl
    · exact .inl ⟨.direct, rfl⟩
  cases last with
  | none => exact hdial
  | some v =>
      rw [ending]
      cases outcome v with
      | ok => exact .inl ⟨.stream v.tunnel, rfl⟩
      | error => exact hdial

/-- What a search dials whose walk ended at a tunnel, if at any. -/
def dialsOf (outcome : Visit → Except TunnelError Unit) (address : String) : Option Visit → List String
  | some v =>
    match outcome v with
    | .ok _ => []
    | .error _ => [address]
  | none => [address]

/-! ## The part of the tour that is over -/

/-- The log and the slots at one point: which visits it has asked, which tunnels are out of
their slots, closed and reported, and what was dialed. -/
structure Ledger (b : Nat) (x : Backend) (f : Fleet) (log : Log) (asked out closed sent : List Visit)
    (dialed : List String) : Prop where
  slots : ∃ y, f.backend? b = some y ∧ y.slots = emptied x.slots out ∧ y.address = x.address
  known : ∀ t ∈ x.tunnels, t < f.tunnels.size
  asked : log.asked = asked
  closes : ∀ t, log.closes t = (closed.map Visit.tunnel).count t
  sent : log.sent = sent.map fun v => ⟨b, v.slot, v.tunnel⟩
  dialed : log.dialed = dialed

section Ledger

variable {b : Nat} {x : Backend} {f g : Fleet} {log : Log} {asked out closed sent : List Visit}
  {dialed : List String}

theorem Ledger.aside (h : Ledger b x f log asked out closed sent dialed) (hside : Aside b f g) :
    Ledger b x g log asked out closed sent dialed := by
  obtain ⟨y, hy, hslots, haddress⟩ := h.slots
  obtain ⟨z, hz, hsame, hplace⟩ := hside.same y hy
  exact { h with
    slots := ⟨z, hz, hsame.trans hslots, hplace.trans haddress⟩
    known := fun t ht => (h.known t ht).trans_le hside.grows }

/-- A step that closes nothing and reports nothing. -/
theorem Ledger.quiet {out' : List Visit} (h : Ledger b x f log asked out closed sent dialed)
    (o o' : Opening)
    (hslots : ∃ y, g.backend? b = some y ∧ y.slots = emptied x.slots out' ∧ y.address = x.address)
    (hfailures : g.failures = f.failures)
    (hcloses : g.tunnels.toList.map Tunnel.closes = f.tunnels.toList.map Tunnel.closes) :
    Ledger b x g (log.add f o g o') (asked ++ o'.phase.turnsTo) out' closed sent
      (dialed ++ o.dials f) where
  slots := hslots
  known := fun t ht => by
    have hsize := congrArg List.length hcloses
    simp only [List.length_map, Array.length_toList] at hsize
    rw [hsize]
    exact h.known t ht
  asked := by rw [Log.add, h.asked]
  closes := fun t => by
    simp only [Log.add, Fleet.closesOf_congr hcloses, Nat.sub_self, Nat.add_zero]
    exact h.closes t
  sent := by
    simp only [Log.add, hfailures, List.drop_length, List.append_nil]
    exact h.sent
  dialed := by rw [Log.add, h.dialed]

end Ledger

/-- Where a search stands: all tunnels behind it broke and are out of their slots, closed
and reported, except for what it is about to do with the last one. -/
inductive Stand (b : Nat) (x : Backend) (outcome : Visit → Except TunnelError Unit) (accepted : Bool)
    (f : Fleet) (log : Log) : Phase → Prop where
  | seeking {i : Nat} (hle : i ≤ x.slots.length)
      (hbroken : ∀ v ∈ visits x i, breaks outcome v = true)
      (hledger : Ledger b x f log (visits x i) (visits x i) (visits x i) (visits x i) [])
      (hsteps : log.steps ≤ 5 * i) : Stand b x outcome accepted f log (.seeking i)
  | asking {v : Visit} {held : Bool} (hlt : v.visited < x.slots.length)
      (hvisit : visit? x v.visited = some v)
      (hbroken : ∀ u ∈ visits x v.visited, breaks outcome u = true)
      (hledger : Ledger b x f log (visits x v.visited ++ [v]) (visits x v.visited)
        (visits x v.visited) (visits x v.visited) [])
      (hsteps : log.steps ≤ 5 * v.visited + 1 + held.toNat) :
      Stand b x outcome accepted f log (.asking v held)
  | evicted {v : Visit} (hlt : v.visited < x.slots.length) (hvisit : visit? x v.visited = some v)
      (hbroken : ∀ u ∈ visits x v.visited ++ [v], breaks outcome u = true)
      (hledger : Ledger b x f log (visits x v.visited ++ [v]) (visits x v.visited ++ [v])
        (visits x v.visited) (visits x v.visited) [])
      (hsteps : log.steps ≤ 5 * v.visited + 3) : Stand b x outcome accepted f log (.evicted v)
  | reporting {v : Visit} (hlt : v.visited < x.slots.length) (hvisit : visit? x v.visited = some v)
      (hbroken : ∀ u ∈ visits x v.visited ++ [v], breaks outcome u = true)
      (hledger : Ledger b x f log (visits x v.visited ++ [v]) (visits x v.visited ++ [v])
        (visits x v.visited ++ [v]) (visits x v.visited) [])
      (hsteps : log.steps ≤ 5 * v.visited + 4) : Stand b x outcome accepted f log (.reporting v)
  | dialing {broken rest : List Visit} (htour : tour x = broken ++ rest)
      (hbroken : ∀ v ∈ broken, breaks outcome v = true)
      (hlast : ∀ v ∈ rest.head?, breaks outcome v = false ∧ ∃ e, outcome v = .error e)
      (hledger : Ledger b x f log (broken ++ rest.head?.toList) broken broken broken [])
      (hsteps : log.steps ≤ 5 * x.slots.length + 1) : Stand b x outcome accepted f log .dialing
  | ended {broken rest : List Visit} (htour : tour x = broken ++ rest)
      (hbroken : ∀ v ∈ broken, breaks outcome v = true)
      (hlast : ∀ v ∈ rest.head?, breaks outcome v = false)
      (hledger : Ledger b x f log (broken ++ rest.head?.toList) broken broken broken
        (dialsOf outcome x.address rest.head?))
      (hsteps : log.steps ≤ 5 * x.slots.length + 2) {phase : Phase}
      (hphase : phase = ending outcome accepted rest.head?) :
      Stand b x outcome accepted f log phase

section Stand

variable {b : Nat} {x : Backend} {outcome : Visit → Except TunnelError Unit} {accepted : Bool}
  {f g : Fleet} {log : Log}

theorem Stand.aside {phase : Phase} (h : Stand b x outcome accepted f log phase)
    (hside : Aside b f g) : Stand b x outcome accepted g log phase := by
  cases h with
  | seeking hle hbroken hledger hsteps =>
      exact .seeking hle hbroken (hledger.aside hside) hsteps
  | asking hlt hvisit hbroken hledger hsteps =>
      exact .asking hlt hvisit hbroken (hledger.aside hside) hsteps
  | evicted hlt hvisit hbroken hledger hsteps =>
      exact .evicted hlt hvisit hbroken (hledger.aside hside) hsteps
  | reporting hlt hvisit hbroken hledger hsteps =>
      exact .reporting hlt hvisit hbroken (hledger.aside hside) hsteps
  | dialing htour hbroken hlast hledger hsteps =>
      exact .dialing htour hbroken hlast (hledger.aside hside) hsteps
  | ended htour hbroken hlast hledger hsteps hphase =>
      exact .ended htour hbroken hlast (hledger.aside hside) hsteps hphase

/-- A search at its end is over. -/
theorem Stand.notOver {phase : Phase} {last : Option Visit} {P : Prop}
    (h : phase = ending outcome accepted last)
    (hover : ∀ route, phase ≠ .found route) (hnone : phase ≠ .unreachable) : P := by
  obtain ⟨route, hroute⟩ | hrefused := ending_cases outcome accepted last
  · exact absurd (h.trans hroute) (hover route)
  · exact absurd (h.trans hrefused) hnone

/-- A search that looks at the next slot. -/
theorem Stand.seek_next {i : Nat} (h : Stand b x outcome accepted f log (.seeking i)) :
    let o : Opening := ⟨b, x.dispatches.toNat, .seeking i⟩
    ∃ phase, o.seek f i = { o with phase } ∧
      Stand b x outcome accepted f (log.add f o f { o with phase }) phase := by
  intro o
  cases h with
  | ended _ _ _ _ _ hphase => exact Stand.notOver hphase nofun nofun
  | seeking hle hbroken hledger hsteps =>
      obtain ⟨y, hy, hslots, haddress⟩ := hledger.slots
      have hlist : o.slots f = emptied x.slots (visits x i) := by
        rw [slots, hy, Option.map_some, Option.getD_some, hslots]
      have hnote := fun o' => hledger.quiet (g := f) o o' hledger.slots rfl rfl
      have hlength : (o.slots f).length = x.slots.length := by rw [hlist, length_emptied]
      by_cases hi : x.slots.length ≤ i
      · obtain rfl := Nat.le_antisymm hle hi
        refine ⟨.dialing, by rw [seek, if_pos (hlength.trans_le hi)], ?_⟩
        refine @Stand.dialing _ _ _ _ _ _ _ [] (List.append_nil _).symm hbroken (by simp) ?_ ?_
        · exact hnote { o with phase := .dialing }
        · exact Nat.succ_le_succ hsteps
      · have hlt : i < x.slots.length := Nat.lt_of_not_le hi
        have hfind : (o.slots f)[o.slotAt f i]?.bind Slot.tunnel = x.tunnel? (turn x i) := by
          rw [slotAt, hlength, hlist]
          exact congrArg (·.bind Slot.tunnel) (getElem?_emptied (turn_not_mem hlt))
        have hplace : o.slotAt f i = turn x i := by
          rw [slotAt, hlength]
          rfl
        rw [seek, if_neg (hlength ▸ hi)]
        dsimp only
        rw [hfind, hplace]
        cases hvisit : x.tunnel? (turn x i) with
        | none =>
            -- an empty slot is skipped
            have hsame : visits x (i + 1) = visits x i := by
              rw [visits_succ, visit?, hvisit]
              simp
            refine ⟨.seeking (i + 1), rfl, .seeking hlt (hsame ▸ hbroken) ?_ ?_⟩
            · rw [hsame]
              have hledger := hnote { o with phase := .seeking (i + 1) }
              simpa [Phase.turnsTo, dials, o] using hledger
            · simp only [Log.add]
              omega
        | some t =>
            refine ⟨.asking ⟨i, turn x i, t⟩ false, rfl, .asking hlt ?_ hbroken ?_ ?_⟩
            · rw [visit?, hvisit]
              rfl
            · exact hnote { o with phase := .asking ⟨i, turn x i, t⟩ false }
            · simp only [Log.add, Bool.toNat_false]
              omega

theorem tour_eq {v : Visit} (hlt : v.visited < x.slots.length)
    (hvisit : visit? x v.visited = some v) :
    ∃ rest, tour x = visits x v.visited ++ v :: rest := by
  obtain ⟨rest, hrest⟩ := visits_prefix (x := x) (Nat.succ_le_of_lt hlt)
  refine ⟨rest, ?_⟩
  rw [tour, hrest, visits_succ, hvisit, Option.toList_some, List.append_assoc,
    List.singleton_append]

/-- A search that takes a broken tunnel out of its slot finds it there. -/
theorem Stand.evict_next {v : Visit} {held : Bool}
    (h : Stand b x outcome accepted f log (.asking v held)) (hbreaks : breaks outcome v = true)
    {e : TunnelError} (he : e.breaksSession = true) {t : Tunnel}
    (hcloses : (f.modifyTunnel v.tunnel fun _ => t).tunnels.toList.map Tunnel.closes =
      f.tunnels.toList.map Tunnel.closes) :
    let o : Opening := ⟨b, x.dispatches.toNat, .asking v held⟩
    ∃ g, o.failed (f.modifyTunnel v.tunnel fun _ => t) v e = ({ o with phase := .evicted v }, g) ∧
      Stand b x outcome accepted g (log.add f o g { o with phase := .evicted v }) (.evicted v) := by
  intro o
  cases h with
  | ended _ _ _ _ _ hphase => exact Stand.notOver hphase nofun nofun
  | asking hlt hvisit hbroken hledger hsteps =>
      obtain ⟨y, hy, hslots, haddress⟩ := hledger.slots
      obtain ⟨-, hturn, htunnel⟩ := visit?_eq hvisit
      have hnot : v.slot ∉ (visits x v.visited).map Visit.slot := hturn ▸ turn_not_mem hlt
      let f' := f.modifyTunnel v.tunnel fun _ => t
      have hat : f'.tunnelAt b v.slot = some v.tunnel := by
        have hbackend : f'.backend? b = some y := hy
        rw [Fleet.tunnelAt, Fleet.slot?, hbackend, Option.bind_some, hslots, getElem?_emptied hnot]
        exact htunnel
      obtain ⟨-, hevict⟩ | ⟨habsent, -⟩ := f'.evict_cases b v.slot v.tunnel
      case inr => exact absurd hat habsent
      refine ⟨f'.modifySlot b v.slot fun s => { s with tunnel := none }, ?_, ?_⟩
      · rw [failed, if_pos he, hevict]
      · refine .evicted hlt hvisit ?_ ?_ ?_
        · intro u hu
          obtain hu | hu := List.mem_append.1 hu
          · exact hbroken u hu
          · rwa [List.mem_singleton.1 hu]
        · have hnew : ∃ z, (f'.modifySlot b v.slot fun s => { s with tunnel := none }).backend? b =
              some z ∧ z.slots = emptied x.slots (visits x v.visited ++ [v]) ∧
              z.address = x.address := by
            refine ⟨{ y with slots := y.slots.modify v.slot fun s => { s with tunnel := none } },
              ?_, ?_, haddress⟩
            · rw [Fleet.modifySlot, Fleet.backend?_modifyBackend, if_pos rfl]
              exact congrArg _ hy
            · rw [emptied_append, hslots]
          simpa [Phase.turnsTo, dials, o] using
            hledger.quiet o { o with phase := .evicted v } hnew rfl hcloses
        · have hheld : held.toNat ≤ 1 := Bool.toNat_le held
          simp only [Log.add]
          omega

/-- A search that is put on hold. -/
theorem Stand.hold_next {v : Visit} (h : Stand b x outcome accepted f log (.asking v false)) :
    let o : Opening := ⟨b, x.dispatches.toNat, .asking v false⟩
    Stand b x outcome accepted f (log.add f o f { o with phase := .asking v true })
      (.asking v true) := by
  intro o
  cases h with
  | ended _ _ _ _ _ hphase => exact Stand.notOver hphase nofun nofun
  | asking hlt hvisit hbroken hledger hsteps =>
      refine .asking hlt hvisit hbroken ?_ ?_
      · simpa [Phase.turnsTo, dials, o] using
          hledger.quiet o { o with phase := .asking v true } hledger.slots rfl rfl
      · simpa [Log.add] using hsteps

/-- A search that gets a stream. -/
theorem Stand.grant_next {v : Visit} {held : Bool}
    (h : Stand b x outcome accepted f log (.asking v held)) (hok : outcome v = .ok ()) {t : Tunnel}
    (hcloses : (f.modifyTunnel v.tunnel fun _ => t).tunnels.toList.map Tunnel.closes =
      f.tunnels.toList.map Tunnel.closes) :
    let o : Opening := ⟨b, x.dispatches.toNat, .asking v held⟩
    let g := f.modifyTunnel v.tunnel fun _ => t
    Stand b x outcome accepted g (log.add f o g (granted o v)) (granted o v).phase := by
  intro o g
  cases h with
  | ended _ _ _ _ _ hphase => exact Stand.notOver hphase nofun nofun
  | asking hlt hvisit hbroken hledger hsteps =>
      have hheld : held.toNat ≤ 1 := Bool.toNat_le held
      obtain ⟨rest, htour⟩ := tour_eq hlt hvisit
      refine @Stand.ended _ _ _ _ _ _ _ (v :: rest) htour hbroken ?_ ?_ ?_ _ ?_
      · rintro u ⟨⟩
        rw [breaks, hok]
      · simpa [Phase.turnsTo, dials, dialsOf, hok, granted, o] using
          hledger.quiet (g := g) o (granted o v) hledger.slots rfl hcloses
      · simp only [Log.add]
        omega
      · rw [List.head?_cons, ending, hok]
        rfl

/-- A search whose tunnel gives no stream, but does not break. -/
theorem Stand.refuse_next {v : Visit} {held : Bool}
    (h : Stand b x outcome accepted f log (.asking v held)) {e : TunnelError}
    (hfail : outcome v = .error e) (he : e.breaksSession = false) {t : Tunnel}
    (hcloses : (f.modifyTunnel v.tunnel fun _ => t).tunnels.toList.map Tunnel.closes =
      f.tunnels.toList.map Tunnel.closes) :
    let o : Opening := ⟨b, x.dispatches.toNat, .asking v held⟩
    let g := f.modifyTunnel v.tunnel fun _ => t
    Stand b x outcome accepted g (log.add f o g { o with phase := .dialing }) .dialing := by
  intro o g
  cases h with
  | ended _ _ _ _ _ hphase => exact Stand.notOver hphase nofun nofun
  | asking hlt hvisit hbroken hledger hsteps =>
      have hheld : held.toNat ≤ 1 := Bool.toNat_le held
      obtain ⟨rest, htour⟩ := tour_eq hlt hvisit
      refine @Stand.dialing _ _ _ _ _ _ _ (v :: rest) htour hbroken ?_ ?_ ?_
      · rintro u ⟨⟩
        exact ⟨(breaks_of_error hfail).trans he, e, hfail⟩
      · simpa [Phase.turnsTo, dials, o] using
          hledger.quiet (g := g) o { o with phase := .dialing } hledger.slots rfl hcloses
      · simp only [Log.add]
        omega

/-- A search that asks a tunnel for a stream. -/
theorem Stand.ask_next {v : Visit} {held : Bool} {reach : ListenAddress → Bool} {o' : Opening}
    (h : Stand b x outcome accepted f log (.asking v held))
    (hstep : step? reach f ⟨b, x.dispatches.toNat, .asking v held⟩ = some (o', g))
    (hask : ∀ answer, (ask reach f v held).1 = some answer → answer = outcome v) :
    ∃ phase, o' = ⟨b, x.dispatches.toNat, phase⟩ ∧
      Stand b x outcome accepted g
        (log.add f ⟨b, x.dispatches.toNat, .asking v held⟩ g o') phase := by
  have hcloses := closes_ask reach f v held
  simp only [step?] at hstep
  split at hstep
  · -- the request is put on hold
    cases held with
    | true => contradiction
    | false =>
        obtain ⟨rfl, rfl⟩ := Prod.mk.inj (Option.some.inj hstep)
        exact ⟨_, rfl, h.hold_next⟩
  · next t hanswer =>
    obtain ⟨rfl, rfl⟩ := Prod.mk.inj (Option.some.inj hstep)
    rw [hanswer] at hcloses
    have hok : outcome v = .ok () := (hask (.ok ()) (by rw [hanswer])).symm
    exact ⟨_, rfl, h.grant_next hok hcloses⟩
  · next e t hanswer =>
    rw [hanswer] at hcloses
    have hfail : outcome v = .error e := (hask (.error e) (by rw [hanswer])).symm
    cases he : e.breaksSession with
    | true =>
        obtain ⟨g', hfailed, hstand⟩ := h.evict_next ((breaks_of_error hfail).trans he) he hcloses
        rw [hfailed] at hstep
        obtain ⟨rfl, rfl⟩ := Prod.mk.inj (Option.some.inj hstep)
        exact ⟨_, rfl, hstand⟩
    | false =>
        rw [failed, if_neg (Bool.eq_false_iff.1 he)] at hstep
        obtain ⟨rfl, rfl⟩ := Prod.mk.inj (Option.some.inj hstep)
        exact ⟨.dialing, rfl, h.refuse_next hfail he hcloses⟩

/-- A search that closes the tunnel that it took out. -/
theorem Stand.close_next {v : Visit} (h : Stand b x outcome accepted f log (.evicted v)) :
    let o : Opening := ⟨b, x.dispatches.toNat, .evicted v⟩
    Stand b x outcome accepted (f.close v.tunnel)
      (log.add f o (f.close v.tunnel) { o with phase := .reporting v }) (.reporting v) := by
  intro o
  cases h with
  | ended _ _ _ _ _ hphase => exact Stand.notOver hphase nofun nofun
  | evicted hlt hvisit hbroken hledger hsteps =>
      obtain ⟨-, -, htunnel⟩ := visit?_eq hvisit
      have hknown : v.tunnel < f.tunnels.size := by
        obtain ⟨s, hs, hin⟩ := Option.bind_eq_some_iff.1 htunnel
        exact hledger.known _ (List.mem_filterMap.2 ⟨s, List.mem_of_getElem? hs, hin⟩)
      refine .reporting hlt hvisit hbroken ⟨hledger.slots, ?_, ?_, ?_, ?_, ?_⟩ ?_
      · intro t ht
        rw [Fleet.close, Fleet.modifyTunnel, Array.size_modify]
        exact hledger.known t ht
      · simpa [Log.add, Phase.turnsTo] using hledger.asked
      · intro t
        simp only [Log.add, Fleet.closesOf_close hknown, Nat.add_sub_cancel_left, hledger.closes,
          List.map_append, List.count_append, List.map_cons, List.map_nil]
      · have hsame : (f.close v.tunnel).failures = f.failures := rfl
        simpa [Log.add, hsame] using hledger.sent
      · simpa [Log.add, dials, o] using hledger.dialed
      · simp only [Log.add]
        omega

/-- A search that reports the tunnel that it took out. -/
theorem Stand.report_next {v : Visit} (h : Stand b x outcome accepted f log (.reporting v)) :
    let o : Opening := ⟨b, x.dispatches.toNat, .reporting v⟩
    Stand b x outcome accepted (o.report f v).2
      (log.add f o (o.report f v).2 (o.report f v).1) (.seeking (v.visited + 1)) := by
  intro o
  cases h with
  | ended _ _ _ _ _ hphase => exact Stand.notOver hphase nofun nofun
  | reporting hlt hvisit hbroken hledger hsteps =>
      have hdone : visits x (v.visited + 1) = visits x v.visited ++ [v] := by
        rw [visits_succ, hvisit, Option.toList_some]
      rw [← hdone] at hbroken hledger
      refine .seeking hlt hbroken ⟨hledger.slots, hledger.known, ?_, ?_, ?_, ?_⟩ ?_
      · simpa [Log.add, report, Phase.turnsTo] using hledger.asked
      · intro t
        have hsame : (o.report f v).2.closesOf t = f.closesOf t := rfl
        simpa [Log.add, hsame] using hledger.closes t
      · simp [Log.add, report, hledger.sent, hdone, o]
      · simpa [Log.add, dials, o] using hledger.dialed
      · simp only [Log.add]
        omega

/-- A search that dials the address of its instance. -/
theorem Stand.dial_next (h : Stand b x outcome accepted f log .dialing) :
    let o : Opening := ⟨b, x.dispatches.toNat, .dialing⟩
    Stand b x outcome accepted f (log.add f o f (o.dialed accepted)) (o.dialed accepted).phase := by
  intro o
  cases h with
  | ended _ _ _ _ _ hphase => exact Stand.notOver hphase nofun nofun
  | @dialing broken rest htour hbroken hlast hledger hsteps =>
      obtain ⟨y, hy, -, haddress⟩ := hledger.slots
      have hdials : o.dials f = [x.address] := by
        simp only [dials, o, address, hy, Option.map_some, Option.getD_some, haddress]
      have hquiet := fun phase : Phase =>
        hledger.quiet (g := f) o { o with phase } hledger.slots rfl rfl
      have hlastDials : dialsOf outcome x.address rest.head? = [x.address] := by
        cases hhead : rest.head? with
        | none => rfl
        | some v =>
            obtain ⟨-, e, he⟩ := hlast v hhead
            rw [dialsOf, he]
      have hend : ending outcome accepted rest.head? = dialEnd accepted := by
        cases hhead : rest.head? with
        | none => rfl
        | some v =>
            obtain ⟨-, e, he⟩ := hlast v hhead
            rw [ending, he]
      have hturn : (dialEnd accepted).turnsTo = [] := by cases accepted <;> rfl
      refine .ended htour hbroken (fun v hv => (hlast v hv).1) ?_ ?_ hend.symm
      · have hdialed : o.dialed accepted = { o with phase := dialEnd accepted } := rfl
        rw [hdialed]
        simpa [hturn, hdials, hlastDials] using hquiet (dialEnd accepted)
      · simp only [Log.add]
        omega

/-- **A step of the walk** leads on to where the search then stands. -/
theorem Stand.step {reach : ListenAddress → Bool} {phase : Phase} {o' : Opening}
    (h : Stand b x outcome accepted f log phase)
    (hstep : step? reach f ⟨b, x.dispatches.toNat, phase⟩ = some (o', g))
    (hask : ∀ v held answer, phase = .asking v held →
      (ask reach f v held).1 = some answer → answer = outcome v)
    (hdial : phase = .dialing →
      reach (.tcp (address f ⟨b, x.dispatches.toNat, phase⟩)) = accepted) :
    ∃ phase', o' = ⟨b, x.dispatches.toNat, phase'⟩ ∧
      Stand b x outcome accepted g (log.add f ⟨b, x.dispatches.toNat, phase⟩ g o') phase' := by
  cases phase with
  | seeking i =>
      obtain ⟨hnew, rfl⟩ := Prod.mk.inj (Option.some.inj hstep)
      obtain ⟨phase', hseek, hstand⟩ := h.seek_next
      obtain rfl := hnew.symm.trans hseek
      exact ⟨phase', rfl, hstand⟩
  | asking v held => exact h.ask_next hstep fun answer => hask v held answer rfl
  | evicted v =>
      obtain ⟨rfl, rfl⟩ := Prod.mk.inj (Option.some.inj hstep)
      exact ⟨_, rfl, h.close_next⟩
  | reporting v =>
      obtain ⟨rfl, rfl⟩ := Prod.mk.inj (Option.some.inj hstep)
      exact ⟨_, rfl, h.report_next⟩
  | dialing =>
      obtain ⟨rfl, rfl⟩ := Prod.mk.inj (Option.some.inj hstep)
      rw [hdial rfl]
      exact ⟨_, rfl, h.dial_next⟩
  | found | unreachable => contradiction

/-- A search stands somewhere on its tour all the time. -/
theorem Course.stand {start : Fleet} {o : Opening} (hx : start.backend? b = some x)
    (hknown : ∀ t ∈ x.tunnels, t < start.tunnels.size)
    (course : Course b outcome accepted start f o log) :
    ∃ phase, o = ⟨b, x.dispatches.toNat, phase⟩ ∧ Stand b x outcome accepted f log phase := by
  induction course with
  | begin =>
      refine ⟨.seeking 0, by rw [Opening.begin, hx]; rfl, .seeking (Nat.zero_le _) nofun ?_ (Nat.le_refl 0)⟩
      exact ⟨⟨x, hx, (emptied_nil x.slots).symm, rfl⟩, hknown, rfl, fun _ => rfl, rfl, rfl⟩
  | aside course hside ih =>
      obtain ⟨phase, rfl, hstand⟩ := ih
      exact ⟨phase, rfl, hstand.aside hside⟩
  | step course hstep hask hdial ih =>
      obtain ⟨phase, rfl, hstand⟩ := ih
      exact hstand.step hstep hask hdial

/-- The broken part of a tour is read off the outcomes. -/
theorem split_tour {broken rest : List Visit} (hbroken : ∀ v ∈ broken, breaks outcome v = true)
    (hlast : ∀ v ∈ rest.head?, breaks outcome v = false) :
    (broken ++ rest).takeWhile (breaks outcome) = broken ∧
      (broken ++ rest).find? (fun v => !breaks outcome v) = rest.head? := by
  have hnone : broken.find? (fun v => !breaks outcome v) = none := by
    rw [List.find?_eq_none]
    intro v hv
    simp [hbroken v hv]
  rw [List.takeWhile_append_of_pos hbroken, List.find?_append, hnone, Option.none_or]
  cases rest with
  | nil => exact ⟨List.append_nil _, rfl⟩
  | cons v rest =>
      have hv := hlast v rfl
      rw [List.takeWhile_cons_of_neg (by simp [hv]), List.find?_cons_of_pos (by simp [hv])]
      exact ⟨List.append_nil _, rfl⟩

/-- No search takes more steps than this. -/
theorem Stand.steps_le {phase : Phase} (h : Stand b x outcome accepted f log phase) :
    log.steps ≤ 5 * x.slots.length + 2 := by
  cases h with
  | @asking v held hlt _ _ _ hsteps =>
      have hheld : held.toNat ≤ 1 := Bool.toNat_le held
      omega
  | seeking | evicted | reporting | dialing | ended => omega

end Stand

/-- A search that waits is over or asks a tunnel that puts it on hold. -/
theorem waits_cases {reach : ListenAddress → Bool} {f : Fleet} {o : Opening}
    (h : o.step? reach f = none) :
    o.isOver = true ∨ ∃ v, o.phase = .asking v true ∧ (ask reach f v true).1 = none := by
  obtain ⟨b, start, phase⟩ := o
  cases phase with
  | asking v held =>
      right
      simp only [step?] at h
      split at h
      · next t hask =>
        split at h
        · next hheld =>
          subst hheld
          exact ⟨v, rfl, by rw [hask]⟩
        · contradiction
      · contradiction
      · contradiction
  | found | unreachable => exact .inl rfl
  | seeking | evicted | reporting | dialing => contradiction

/-- What a forward does whose search is over. -/
theorem stepForward?_of_over {s : Scheduler} {reach : ListenAddress → Bool} {r : Nat} {f : Forward}
    {o : Opening} (hf : s.forward? r = some f) (hstage : f.stage = .opening o)
    (hover : o.isOver = true) :
    ∃ stage, s.stepForward? reach r = some (s.setForward r stage) ∧
      (stage = .ended (.dialFailed r) ↔ o.phase = .unreachable) ∧
      ∀ route, stage = .splicing route ↔ o.phase = .found route := by
  obtain ⟨b, start, phase⟩ := o
  simp only [Scheduler.stepForward?, hf, hstage]
  cases phase with
  | found route => exact ⟨_, rfl, by simp, by simp⟩
  | unreachable => exact ⟨_, rfl, by simp, by simp⟩
  | seeking | asking | evicted | reporting | dialing => contradiction

/-! ## The whole walk -/

/-- **The walk of a search is exact.**  Let nobody else touch the slots of the instance.

* Each slot has its turn once, and the search is never stuck but at a tunnel that puts it on
  hold; it takes only so many steps.
* When it is over, it has asked the tunnels of its tour up to the first one that did not
  break: that one gave a stream, or an error that leaves it in its slot.
* The tunnels before it, and only they, were taken out of their slots, closed, and reported
  with slot and tunnel, once each; nothing else changed in the slots.
* Without a stream the address of the instance was dialed.  There is no route if and only if
  that dial was refused, and the forward then ends as one whose dial failed. -/
theorem walk_exact {b : Nat} {x : Backend} {outcome : Visit → Except TunnelError Unit}
    {accepted : Bool} {start f : Fleet} {o : Opening} {log : Log}
    (hx : start.backend? b = some x) (hknown : ∀ t ∈ x.tunnels, t < start.tunnels.size)
    (course : Course b outcome accepted start f o log) :
    let broken := (tour x).takeWhile (breaks outcome)
    let last := (tour x).find? fun v => !breaks outcome v
    ((List.range x.slots.length).map (turn x)).Perm (List.range x.slots.length) ∧
    (∀ reach, o.step? reach f = none →
      o.isOver = true ∨ ∃ v, o.phase = .asking v true ∧ (ask reach f v true).1 = none) ∧
    log.steps ≤ 5 * x.slots.length + 2 ∧
    (o.isOver = true →
      log.asked = broken ++ last.toList ∧
      (f.backend? b).map Backend.slots = some (emptied x.slots broken) ∧
      (∀ v ∈ last, f.tunnelAt b v.slot = some v.tunnel) ∧
      (∀ t, log.closes t = (broken.map Visit.tunnel).count t) ∧
      log.sent = broken.map (fun v => ⟨b, v.slot, v.tunnel⟩) ∧
      o.phase = ending outcome accepted last ∧
      log.dialed = dialsOf outcome x.address last ∧
      (o.phase = .unreachable ↔ log.dialed ≠ [] ∧ accepted = false) ∧
      ∀ (s : Scheduler) (reach : ListenAddress → Bool) (r : Nat) (forward : Forward),
        s.forward? r = some forward → forward.stage = .opening o →
        ∃ stage, s.stepForward? reach r = some (s.setForward r stage) ∧
          (stage = .ended (.dialFailed r) ↔ o.phase = .unreachable) ∧
          ∀ route, stage = .splicing route ↔ o.phase = .found route) := by
  intro broken last
  obtain ⟨phase, rfl, hstand⟩ := course.stand hx hknown
  refine ⟨turn_perm x, fun reach => waits_cases, hstand.steps_le, fun hover => ?_⟩
  cases hstand with
  | seeking | asking | evicted | reporting | dialing => contradiction
  | @ended done rest htour hbroken hlast hledger hsteps _ hphase =>
      obtain ⟨htake, hfind⟩ := split_tour hbroken hlast
      obtain rfl : broken = done := by simp only [broken, htour, htake]
      have hrest : last = rest.head? := by simp only [last, htour, hfind]
      rw [← hrest] at hledger hphase
      obtain ⟨y, hy, hslots, -⟩ := hledger.slots
      have hdial : phase = .unreachable ↔ dialsOf outcome x.address last ≠ [] ∧ accepted = false := by
        have hdirect : dialEnd accepted = .unreachable ↔ accepted = false := by
          cases accepted <;> simp [dialEnd]
        rw [hphase]
        cases last with
        | none => simp [ending, dialsOf, hdirect]
        | some v =>
            simp only [ending, dialsOf]
            cases outcome v <;> simp [hdirect]
      refine ⟨hledger.asked, by rw [hy, Option.map_some, hslots], fun v hv => ?_, hledger.closes,
        hledger.sent, hphase, hledger.dialed, by rw [hledger.dialed]; exact hdial,
        fun s reach r forward hforward hstage => stepForward?_of_over hforward hstage hover⟩
      -- the tunnel that did not break is in a slot that no broken one was in
      have hin : v ∈ rest := List.mem_of_mem_head? (hrest ▸ hv)
      have hvisit := (mem_visits (htour ▸ List.mem_append_right broken hin : v ∈ tour x)).2
      have hnodup := nodup_visits (Nat.le_refl x.slots.length)
      have hnot : v.slot ∉ broken.map Visit.slot := by
        intro hmem
        rw [← tour, htour, List.map_append] at hnodup
        exact (List.nodup_append.1 hnodup).2.2 _ hmem _ (List.mem_map_of_mem hin) rfl
      rw [Fleet.tunnelAt, Fleet.slot?, hy, Option.bind_some, hslots, getElem?_emptied hnot]
      exact (visit?_eq hvisit).2.2

/-- An instance whose next walk starts in the last slot; the first slot is empty. -/
def lastFirst : Backend :=
  { address := "10.0.0.1:80", weight := 0, dispatches := 7
    slots := [{}, { tunnel := some 0 }, { tunnel := some 2 }, { tunnel := some 1, replacing := true }] }

/-- The instance with its tunnels, of which the one in the last slot breaks. -/
def oneBreaking : Fleet :=
  { backends := #[lastFirst], tunnels := #[{}, { answer := .fail (.timeout 9) }, {}] }

/-- The tunnel in the last slot breaks and the others give a stream. -/
def breaksOnce (v : Visit) : Except TunnelError Unit :=
  if v.tunnel = 1 then .error (.timeout 9) else .ok ()

/-- The walk evicts the tunnel that breaks, passes over the empty slot and gets a stream from
the next one; the third slot is not reached. -/
theorem walk_exact_of_wrapped :
    ∃ f o log, Course 0 breaksOnce false oneBreaking f o log ∧ o.isOver = true ∧
      log.asked = [⟨0, 3, 1⟩, ⟨2, 1, 0⟩] ∧
      (f.backend? 0).map Backend.slots = some
        [{}, { tunnel := some 0 }, { tunnel := some 2 }, { replacing := true }] ∧
      log.closes 1 = 1 ∧ log.sent = [⟨0, 3, 1⟩] ∧ o.phase = .found (.stream 0) := by
  let reach : ListenAddress → Bool := fun _ => false
  have begun : Course 0 breaksOnce false oneBreaking oneBreaking ⟨0, 7, .seeking 0⟩ {} := .begin
  have asking := @Course.step _ _ _ _ reach _ _ _ ⟨0, 7, .asking ⟨0, 3, 1⟩ false⟩ _ begun rfl
    nofun nofun
  have evicted := @Course.step _ _ _ _ reach _ _ _ ⟨0, 7, .evicted ⟨0, 3, 1⟩⟩ _ asking rfl
    (by rintro v held answer ⟨⟩ h; exact (Option.some.inj h).symm) nofun
  have closed := @Course.step _ _ _ _ reach _ _ _ ⟨0, 7, .reporting ⟨0, 3, 1⟩⟩ _ evicted rfl
    nofun nofun
  have reported := @Course.step _ _ _ _ reach _ _ _ ⟨0, 7, .seeking 1⟩ _ closed rfl nofun nofun
  have skipped := @Course.step _ _ _ _ reach _ _ _ ⟨0, 7, .seeking 2⟩ _ reported rfl nofun nofun
  have asking' := @Course.step _ _ _ _ reach _ _ _ ⟨0, 7, .asking ⟨2, 1, 0⟩ false⟩ _ skipped rfl
    nofun nofun
  have found := @Course.step _ _ _ _ reach _ _ _ ⟨0, 7, .found (.stream 0)⟩ _ asking' rfl
    (by rintro v held answer ⟨⟩ h; exact (Option.some.inj h).symm) nofun
  obtain ⟨hasked, hslots, -, hcloses, hsent, hphase, -⟩ :=
    (walk_exact (x := lastFirst) rfl (by decide) found).2.2.2 rfl
  exact ⟨_, _, _, found, rfl, hasked, hslots, hcloses 1, hsent, hphase⟩

end Opening

end StreamBalancer
