import StreamBalancer.Proofs.Directory
import StreamBalancer.Proofs.Pool.Positions
import StreamBalancer.Scheduler.Events

/-!
# StreamBalancer.Proofs.Roster

The tables, the pool and the identities of the instances, apart from all that
other parties can touch.  `Roster.Sound` says how they hold each other up, and
this module shows that each change the scheduler makes to them keeps it:

* `Sound.setPool` — the pool is rearranged, or loses or gains a schedulable
  instance;
* `Sound.strike` — an instance is struck from the tables and given up;
* `Sound.addSchedulable`, `Sound.addConnecting` — an instance is created;
* `Sound.promote` — a connecting instance becomes schedulable.
-/

namespace StreamBalancer

/-- What tells an instance from the others, and whether it was given up. -/
@[ext]
structure Identity where
  /-- Where the server listens. -/
  address : String
  /-- Its rank. -/
  weight : Nat
  /-- Whether it was given up. -/
  retired : Bool
deriving DecidableEq, Repr

/-- The identity of an instance. -/
def Backend.identity (x : Backend) : Identity := ⟨x.address, x.weight, x.retired⟩

/-- Tables, pool and identities. -/
structure Roster where
  /-- Instances that take requests. -/
  schedulable : Directory
  /-- Instances without a first tunnel. -/
  connecting : Directory
  /-- The instances among which requests are divided. -/
  pool : Pool
  /-- The weight of the next instance. -/
  nextWeight : Nat
  /-- Every instance ever created. -/
  identities : List Identity

namespace Roster

/-- The instance known under an address. -/
def tracked? (r : Roster) (address : String) : Option Nat :=
  (r.schedulable.find? address).or (r.connecting.find? address)

/-- Number of addresses known. -/
def trackedCount (r : Roster) : Nat := r.schedulable.size + r.connecting.size

/-- Tables, pool and identities agree. -/
structure Sound (most : Nat) (r : Roster) : Prop where
  schedulable_unique : r.schedulable.Unique
  connecting_unique : r.connecting.Unique
  disjoint : ∀ a ∈ r.schedulable.addresses, a ∉ r.connecting.addresses
  /-- Exactly the instances that were not given up are known, under their own
  addresses. -/
  tracked_iff : ∀ a b, r.tracked? a = some b ↔
    ∃ x, r.identities[b]? = some x ∧ x.address = a ∧ x.retired = false
  room : r.trackedCount ≤ most
  indexed : r.pool.Indexed
  pooled : ∀ b ∈ r.pool.items, ∃ a, r.schedulable.find? a = some b
  weights : ∀ b (x : Identity), r.identities[b]? = some x → x.weight = b
  nextWeight_eq : r.nextWeight = r.identities.length

/-! ## Changes -/

/-- Without an address, whose instance is given up. -/
def strike (r : Roster) (a : String) (b : Nat) (pool : Pool) : Roster :=
  { r with
    schedulable := r.schedulable.erase a
    connecting := if r.schedulable.contains a then r.connecting else r.connecting.erase a
    pool
    identities := r.identities.modify b fun x => { x with retired := true } }

/-- With a new instance that takes requests at once. -/
def addSchedulable (r : Roster) (a : String) (pool : Pool) : Roster :=
  { r with
    schedulable := r.schedulable.insert a r.identities.length
    pool
    nextWeight := r.nextWeight + 1
    identities := r.identities ++ [⟨a, r.nextWeight, false⟩] }

/-- With a new instance that waits for its first tunnel. -/
def addConnecting (r : Roster) (a : String) : Roster :=
  { r with
    connecting := r.connecting.insert a r.identities.length
    nextWeight := r.nextWeight + 1
    identities := r.identities ++ [⟨a, r.nextWeight, false⟩] }

/-- With a connecting instance made schedulable. -/
def promote (r : Roster) (a : String) (b : Nat) (pool : Pool) : Roster :=
  { r with
    schedulable := r.schedulable.insert a b
    connecting := r.connecting.erase a
    pool }

theorem getElem?_retire (l : List Identity) (b c : Nat) :
    (l.modify b fun x => { x with retired := true })[c]? =
      if b = c then l[c]?.map fun x => { x with retired := true } else l[c]? := by
  rw [List.getElem?_modify]
  split
  · rfl
  · exact id_map _

/-- Another roster differs in the pool at most, and all in its pool take requests. -/
def Repools (r r' : Roster) : Prop :=
  ∃ pool, r' = { r with pool } ∧ pool.Indexed ∧
    ∀ b ∈ pool.items, ∃ a, r.schedulable.find? a = some b

theorem Repools.tracked?_eq {r r' : Roster} (h : r.Repools r') (a : String) :
    r'.tracked? a = r.tracked? a := by
  obtain ⟨pool, rfl, -⟩ := h
  rfl

theorem Repools.identities_eq {r r' : Roster} (h : r.Repools r') : r'.identities = r.identities := by
  obtain ⟨pool, rfl, -⟩ := h
  rfl

namespace Sound

variable {most : Nat} {r : Roster}

theorem tracked_of_schedulable {a : String} {b : Nat} (h : r.schedulable.find? a = some b) :
    r.tracked? a = some b := by
  rw [tracked?, h, Option.some_or]

theorem find?_schedulable_eq_none (h : r.Sound most) {a : String} {b : Nat}
    (hfind : r.connecting.find? a = some b) : r.schedulable.find? a = none := by
  rw [Directory.find?_eq_none_iff]
  intro ha
  apply h.disjoint a ha
  rw [← Directory.contains_iff, Directory.contains, hfind, Option.isSome_some]

theorem tracked_of_connecting (h : r.Sound most) {a : String} {b : Nat}
    (hfind : r.connecting.find? a = some b) : r.tracked? a = some b := by
  rw [tracked?, h.find?_schedulable_eq_none hfind, hfind, Option.none_or]

/-- An instance is known under one address only. -/
theorem tracked_address (h : r.Sound most) {a k : String} {b : Nat}
    (ha : r.tracked? a = some b) (hk : r.tracked? k = some b) : a = k := by
  obtain ⟨x, hx, hxa, -⟩ := (h.tracked_iff a b).1 ha
  obtain ⟨y, hy, hyk, -⟩ := (h.tracked_iff k b).1 hk
  rw [hx] at hy
  rw [← hxa, ← hyk, Option.some.inj hy]

theorem lt_of_tracked (h : r.Sound most) {a : String} {b : Nat} (ha : r.tracked? a = some b) :
    b < r.identities.length := by
  obtain ⟨x, hx, -⟩ := (h.tracked_iff a b).1 ha
  exact (List.getElem?_eq_some_iff.1 hx).1

/-- A pool whose members are schedulable can take the place of the pool. -/
theorem setPool (h : r.Sound most) {pool : Pool} (hindexed : pool.Indexed)
    (hpooled : ∀ b ∈ pool.items, ∃ a, r.schedulable.find? a = some b) :
    Sound most { r with pool } :=
  { h with indexed := hindexed, pooled := hpooled }

theorem repools_refl (h : r.Sound most) : r.Repools r := ⟨r.pool, rfl, h.indexed, h.pooled⟩

theorem repools (h : r.Sound most) {r' : Roster} (hr : r.Repools r') : r'.Sound most := by
  obtain ⟨pool, rfl, hindexed, hpooled⟩ := hr
  exact h.setPool hindexed hpooled

/-- The members of a pool may change places. -/
theorem repools_perm (h : r.Sound most) {pool : Pool} (hindexed : pool.Indexed)
    (hperm : pool.items.Perm r.pool.items) : r.Repools { r with pool } :=
  ⟨pool, rfl, hindexed, fun b hb => h.pooled b (hperm.mem_iff.1 hb)⟩

/-- Tables and addresses settle all but the pool. -/
theorem eq_of_tables (h : r.Sound most) {r' : Roster} (h' : r'.Sound most)
    (hschedulable : r'.schedulable = r.schedulable) (hconnecting : r'.connecting = r.connecting)
    (haddresses : r'.identities.map Identity.address = r.identities.map Identity.address) :
    r' = { r with pool := r'.pool } := by
  have htracked : ∀ a, r'.tracked? a = r.tracked? a := by
    intro a
    rw [tracked?, tracked?, hschedulable, hconnecting]
  have hidentities : r'.identities = r.identities := by
    apply List.ext_getElem?
    intro b
    have haddress := congrArg (·[b]?) haddresses
    rw [List.getElem?_map, List.getElem?_map] at haddress
    cases hx : r.identities[b]? with
    | none =>
        rw [hx] at haddress
        exact Option.map_eq_none_iff.1 haddress
    | some x =>
        rw [hx] at haddress
        obtain ⟨y, hy, haddress⟩ := Option.map_eq_some_iff.1 haddress
        -- an instance was given up if and only if its address is not known as its own
        have hretired : y.retired = x.retired := by
          have hthis := h.tracked_iff x.address b
          have hthat := h'.tracked_iff x.address b
          rw [htracked, hthis] at hthat
          have hiff : x.retired = false ↔ y.retired = false := by simpa [hx, hy, haddress] using hthat
          cases hr : x.retired with
          | false => exact hiff.1 hr
          | true => simpa [hr] using hiff
        have hweight : y.weight = x.weight := (h'.weights b y hy).trans (h.weights b x hx).symm
        rw [hy, Option.some_inj]
        exact Identity.ext haddress hweight hretired
  have hnext : r'.nextWeight = r.nextWeight := by
    rw [h'.nextWeight_eq, h.nextWeight_eq, hidentities]
  cases r'
  simp only at hschedulable hconnecting hidentities hnext
  rw [hschedulable, hconnecting, hidentities, hnext]

/-! ## Giving up -/

theorem tracked?_strike (h : r.Sound most) (a : String) (b : Nat) (pool : Pool) (k : String) :
    (r.strike a b pool).tracked? k = if k = a then none else r.tracked? k := by
  rw [tracked?, strike]
  by_cases hk : k = a
  · subst hk
    rw [if_pos rfl]
    split
    · next hc =>
      have hnone : r.connecting.find? k = none :=
        (Directory.find?_eq_none_iff _ _).2 (h.disjoint k ((Directory.contains_iff _ _).1 hc))
      rw [Directory.find?_erase, if_pos rfl, hnone, Option.none_or]
    · rw [Directory.find?_erase, if_pos rfl, Directory.find?_erase, if_pos rfl, Option.none_or]
  · rw [if_neg hk, Directory.find?_erase, if_neg hk, tracked?]
    split
    · rfl
    · rw [Directory.find?_erase, if_neg hk]

theorem strike (h : r.Sound most) {a : String} {b : Nat} (htracked : r.tracked? a = some b)
    {pool : Pool} (hindexed : pool.Indexed) (hpool : ∀ c ∈ pool.items, c ∈ r.pool.items ∧ c ≠ b) :
    (r.strike a b pool).Sound most where
  schedulable_unique := h.schedulable_unique.erase a
  connecting_unique := by
    rw [Roster.strike]
    dsimp only
    split
    · exact h.connecting_unique
    · exact h.connecting_unique.erase a
  disjoint k hk := by
    have hk' := ((Directory.mem_addresses_erase _ _ _).1 hk).1
    rw [Roster.strike]
    dsimp only
    split
    · exact h.disjoint k hk'
    · rw [Directory.mem_addresses_erase]
      exact fun hc => h.disjoint k hk' hc.1
  tracked_iff k c := by
    rw [h.tracked?_strike, Roster.strike, getElem?_retire]
    by_cases hk : k = a
    · subst hk
      rw [if_pos rfl]
      refine ⟨fun hnone => by contradiction, fun ⟨x, hx, hxa, hxr⟩ => ?_⟩
      split at hx
      · next hbc =>
        obtain ⟨y, -, rfl⟩ := Option.map_eq_some_iff.1 hx
        contradiction
      · next hbc =>
        have hkc := (h.tracked_iff k c).2 ⟨x, hx, hxa, hxr⟩
        rw [htracked] at hkc
        exact absurd (Option.some.inj hkc) hbc
    · rw [if_neg hk]
      have hne : r.tracked? k = some c → b ≠ c := fun hkc hbc =>
        hk (h.tracked_address hkc (hbc ▸ htracked))
      constructor
      · intro hkc
        rw [if_neg (hne hkc)]
        exact (h.tracked_iff k c).1 hkc
      · rintro ⟨x, hx, hxa, hxr⟩
        split at hx
        · obtain ⟨y, -, rfl⟩ := Option.map_eq_some_iff.1 hx
          contradiction
        · exact (h.tracked_iff k c).2 ⟨x, hx, hxa, hxr⟩
  room := by
    have hroom := h.room
    have hsched := Directory.size_erase_le r.schedulable a
    have hconn := Directory.size_erase_le r.connecting a
    unfold trackedCount Roster.strike at *
    dsimp only
    split <;> omega
  indexed := hindexed
  pooled c hc := by
    obtain ⟨hmem, hne⟩ := hpool c hc
    obtain ⟨k, hk⟩ := h.pooled c hmem
    refine ⟨k, ?_⟩
    rw [Roster.strike, Directory.find?_erase, if_neg, hk]
    intro hka
    have hka' := tracked_of_schedulable hk
    rw [hka, htracked] at hka'
    exact hne (Option.some.inj hka').symm
  weights c x hx := by
    rw [Roster.strike, getElem?_retire] at hx
    split at hx
    · obtain ⟨y, hy, rfl⟩ := Option.map_eq_some_iff.1 hx
      exact h.weights c y hy
    · exact h.weights c x hx
  nextWeight_eq := by
    rw [Roster.strike, List.length_modify]
    exact h.nextWeight_eq

/-! ## Arrivals -/

/-- The identities with a new one still number the known instances. -/
theorem tracked_iff_append (h : r.Sound most) {a : String} (hnew : r.tracked? a = none)
    (k : String) (c : Nat) :
    (if k = a then some r.identities.length else r.tracked? k) = some c ↔
      ∃ x, (r.identities ++ [⟨a, r.nextWeight, false⟩])[c]? = some x ∧
        x.address = k ∧ x.retired = false := by
  obtain hc | hc | hc := Nat.lt_trichotomy c r.identities.length
  · rw [List.getElem?_append_left hc, ← h.tracked_iff]
    by_cases hk : k = a
    · subst hk
      rw [if_pos rfl, hnew]
      constructor
      · intro heq
        exact absurd (Option.some.inj heq) (by omega)
      · intro heq
        contradiction
    · rw [if_neg hk]
  · subst hc
    rw [List.getElem?_append_right (Nat.le_refl _), Nat.sub_self, List.getElem?_cons_zero]
    by_cases hk : k = a
    · subst hk
      rw [if_pos rfl]
      exact ⟨fun _ => ⟨_, rfl, rfl, rfl⟩, fun _ => rfl⟩
    · rw [if_neg hk]
      constructor
      · intro heq
        exact absurd (h.lt_of_tracked heq) (Nat.lt_irrefl _)
      · rintro ⟨x, hx, hxa, -⟩
        obtain rfl := Option.some.inj hx
        exact absurd hxa.symm hk
  · rw [List.getElem?_eq_none (by rw [List.length_append, List.length_singleton]; omega)]
    constructor
    · intro heq
      split at heq
      · exact absurd (Option.some.inj heq) (by omega)
      · exact absurd (h.lt_of_tracked heq) (by omega)
    · rintro ⟨x, hx, -⟩
      contradiction

theorem weights_append (h : r.Sound most) (a : String) (c : Nat) (x : Identity)
    (hx : (r.identities ++ [⟨a, r.nextWeight, false⟩])[c]? = some x) : x.weight = c := by
  obtain hc | hc := Nat.lt_or_ge c r.identities.length
  · rw [List.getElem?_append_left hc] at hx
    exact h.weights c x hx
  · rw [List.getElem?_append_right hc] at hx
    obtain ⟨hlt, hget⟩ := List.getElem?_eq_some_iff.1 hx
    rw [List.length_singleton] at hlt
    have hzero : c - r.identities.length = 0 := by omega
    simp only [hzero, List.getElem_cons_zero] at hget
    rw [← hget]
    exact h.nextWeight_eq.trans (by omega)

theorem not_mem_of_tracked_none {a : String} (h : r.tracked? a = none) :
    a ∉ r.schedulable.addresses ∧ a ∉ r.connecting.addresses := by
  rw [tracked?, Option.or_eq_none_iff] at h
  exact ⟨(Directory.find?_eq_none_iff _ _).1 h.1, (Directory.find?_eq_none_iff _ _).1 h.2⟩

theorem addConnecting (h : r.Sound most) {a : String} (hnew : r.tracked? a = none)
    (hroom : r.trackedCount < most) : (r.addConnecting a).Sound most where
  schedulable_unique := h.schedulable_unique
  connecting_unique := h.connecting_unique.insert a _
  disjoint k hk := by
    rw [Roster.addConnecting, Directory.mem_addresses_insert]
    rintro (rfl | hc)
    · exact (not_mem_of_tracked_none hnew).1 hk
    · exact h.disjoint k hk hc
  tracked_iff k c := by
    refine Iff.trans ?_ (h.tracked_iff_append hnew k c)
    rw [Roster.addConnecting, tracked?, Directory.find?_insert]
    split
    · next hk =>
      have hnone := hnew
      rw [tracked?, Option.or_eq_none_iff, ← hk] at hnone
      rw [hnone.1, Option.none_or]
    · rfl
  room := by
    simp only [trackedCount, Roster.addConnecting] at *
    rw [Directory.size_insert (not_mem_of_tracked_none hnew).2]
    omega
  indexed := h.indexed
  pooled := h.pooled
  weights := h.weights_append a
  nextWeight_eq := by
    rw [Roster.addConnecting, List.length_append, List.length_singleton, h.nextWeight_eq]

theorem addSchedulable (h : r.Sound most) {a : String} (hnew : r.tracked? a = none)
    (hroom : r.trackedCount < most) {pool : Pool} (hindexed : pool.Indexed)
    (hpool : ∀ c ∈ pool.items, c ∈ r.pool.items ∨ c = r.identities.length) :
    (r.addSchedulable a pool).Sound most where
  schedulable_unique := h.schedulable_unique.insert a _
  connecting_unique := h.connecting_unique
  disjoint k hk := by
    obtain rfl | hk' := (Directory.mem_addresses_insert _ _ _ _).1 hk
    · exact (not_mem_of_tracked_none hnew).2
    · exact h.disjoint k hk'
  tracked_iff k c := by
    refine Iff.trans ?_ (h.tracked_iff_append hnew k c)
    rw [Roster.addSchedulable, tracked?, Directory.find?_insert]
    split
    · rw [Option.some_or]
    · rfl
  room := by
    simp only [trackedCount, Roster.addSchedulable] at *
    rw [Directory.size_insert (not_mem_of_tracked_none hnew).1]
    omega
  indexed := hindexed
  pooled c hc := by
    simp only [Roster.addSchedulable, Directory.find?_insert]
    obtain hmem | rfl := hpool c hc
    · obtain ⟨k, hk⟩ := h.pooled c hmem
      refine ⟨k, ?_⟩
      rw [if_neg, hk]
      rintro rfl
      rw [tracked_of_schedulable hk] at hnew
      contradiction
    · exact ⟨a, if_pos rfl⟩
  weights := h.weights_append a
  nextWeight_eq := by
    rw [Roster.addSchedulable, List.length_append, List.length_singleton, h.nextWeight_eq]

/-! ## The first tunnel -/

theorem tracked?_promote (h : r.Sound most) {a : String} {b : Nat}
    (hfind : r.connecting.find? a = some b) (pool : Pool) (k : String) :
    (r.promote a b pool).tracked? k = r.tracked? k := by
  rw [Roster.promote, tracked?, Directory.find?_insert, Directory.find?_erase]
  split
  · next hk => rw [hk, h.tracked_of_connecting hfind, Option.some_or]
  · rfl

theorem promote (h : r.Sound most) {a : String} {b : Nat} (hfind : r.connecting.find? a = some b)
    {pool : Pool} (hindexed : pool.Indexed)
    (hpool : ∀ c ∈ pool.items, c ∈ r.pool.items ∨ c = b) :
    (r.promote a b pool).Sound most where
  schedulable_unique := h.schedulable_unique.insert a b
  connecting_unique := h.connecting_unique.erase a
  disjoint k hk := by
    rw [Roster.promote, Directory.mem_addresses_erase]
    rintro ⟨hc, hne⟩
    obtain rfl | hk' := (Directory.mem_addresses_insert _ _ _ _).1 hk
    · exact hne rfl
    · exact h.disjoint k hk' hc
  tracked_iff k c := by
    rw [h.tracked?_promote hfind]
    exact h.tracked_iff k c
  room := by
    have hroom := h.room
    have hmem : a ∈ r.connecting.addresses := by
      rw [← Directory.contains_iff, Directory.contains, hfind, Option.isSome_some]
    have hconn := Directory.size_erase_lt hmem
    have hnot := (Directory.find?_eq_none_iff _ _).1 (h.find?_schedulable_eq_none hfind)
    simp only [trackedCount, Roster.promote] at *
    rw [Directory.size_insert hnot]
    omega
  indexed := hindexed
  pooled c hc := by
    simp only [Roster.promote, Directory.find?_insert]
    obtain hmem | rfl := hpool c hc
    · obtain ⟨k, hk⟩ := h.pooled c hmem
      refine ⟨k, ?_⟩
      rw [if_neg, hk]
      rintro rfl
      rw [h.find?_schedulable_eq_none hfind] at hk
      contradiction
    · exact ⟨a, if_pos rfl⟩
  weights := h.weights
  nextWeight_eq := h.nextWeight_eq

end Sound

end Roster

end StreamBalancer
