import Mathlib.Data.List.Basic
import StreamBalancer.Health.Galera
import StreamBalancer.Proofs.Split
import StreamBalancer.Proofs.Trim

/-!
# StreamBalancer.Proofs.Health.NodeStatus

What the status rows of a node are read as.

1. A member list is written as entries between commas.  An entry holds one member with white space
   around it, or nothing but white space (`Galera.Entry`, `Galera.Lists`).
2. A list is read as the members of its entries and as nothing else
   (`Galera.memberList_eq_iff`), so members that are joined by commas are read back.
3. A status is made of the last rows for its two variables (`Galera.ofRows_eq`).

* `Galera.status_read` — all this of every member list and of all rows.
-/

namespace StreamBalancer.Galera

/-! ## Written lists -/

/-- A text of white space alone, which may be empty. -/
def IsBlank (text : String) : Prop := ∀ c ∈ text.toList, Text.IsWhite c

/-- A text that can be written in a member list: not empty, without commas, and with no white space
at either end. -/
structure IsMember (address : String) : Prop where
  ne_empty : address ≠ ""
  no_comma : ',' ∉ address.toList
  head : ∀ c ∈ address.toList.head?, ¬ Text.IsWhite c
  last : ∀ c ∈ address.toList.getLast?, ¬ Text.IsWhite c

/-- What stands between two commas of a member list, and the member in it. -/
inductive Entry : String → Option String → Prop where
  | blank {text : String} (htext : IsBlank text) : Entry text none
  | member {before address after : String} (hbefore : IsBlank before) (haddress : IsMember address)
      (hafter : IsBlank after) : Entry (before ++ address ++ after) (some address)

/-- A text lists members: these are what its entries hold, in this order. -/
def Lists (value : String) (members : List String) : Prop :=
  ∃ entries : List (String × Option String), (∀ entry ∈ entries, Entry entry.1 entry.2) ∧
    value = ",".intercalate (entries.map Prod.fst) ∧ members = entries.filterMap Prod.snd

instance (text : String) : Decidable (IsBlank text) := List.decidableBAll _ _

instance (address : String) : Decidable (IsMember address) :=
  haveI := Option.decidableForallMem (p := fun c => ¬ Text.IsWhite c)
  decidable_of_iff
    (address ≠ "" ∧ ',' ∉ address.toList ∧ (∀ c ∈ address.toList.head?, ¬ Text.IsWhite c) ∧
      ∀ c ∈ address.toList.getLast?, ¬ Text.IsWhite c)
    ⟨fun ⟨hne, hcomma, hhead, hlast⟩ => ⟨hne, hcomma, hhead, hlast⟩,
      fun ⟨hne, hcomma, hhead, hlast⟩ => ⟨hne, hcomma, hhead, hlast⟩⟩

variable {value text : String} {members : List String} {found : Option String}

theorem comma_not_mem_of_isBlank (h : IsBlank text) : ',' ∉ text.toList :=
  fun hmem => absurd (h _ hmem) (by decide)

theorem Entry.comma_not_mem (h : Entry text found) : ',' ∉ text.toList := by
  cases h with
  | blank htext => exact comma_not_mem_of_isBlank htext
  | member hbefore haddress hafter =>
    simp [comma_not_mem_of_isBlank hbefore, haddress.no_comma, comma_not_mem_of_isBlank hafter]

theorem Lists.isMember (h : Lists value members) : ∀ address ∈ members, IsMember address := by
  obtain ⟨entries, hentries, -, rfl⟩ := h
  intro address haddress
  obtain ⟨⟨text, found⟩, hmem, rfl⟩ := List.mem_filterMap.1 haddress
  cases hentries _ hmem with
  | member _ haddress _ => exact haddress

/-- Members with nothing but the commas between them are a list of themselves. -/
theorem lists_intercalate (h : ∀ address ∈ members, IsMember address) :
    Lists (",".intercalate members) members := by
  have hempty : IsBlank "" := by decide
  refine ⟨members.map fun address => (address, some address), ?_, ?_, ?_⟩
  · rw [List.forall_mem_map]
    intro address haddress
    simpa using Entry.member hempty (h address haddress) hempty
  · rw [List.map_map, Function.comp_def, List.map_id']
  · simp

/-! ## Reading lists -/

/-- The member that is read from what stands between two commas. -/
def readEntry (text : List Char) : Option String :=
  if Text.trim text = [] then none else some (.ofList (Text.trim text))

theorem memberList_eq_filterMap (value : String) :
    memberList value = (Text.fields ',' value.toList).filterMap readEntry := by
  rw [memberList]
  induction Text.fields ',' value.toList with
  | nil => rfl
  | cons text rest ih =>
    rw [List.map_cons, List.filter_cons, List.filterMap_cons, readEntry]
    by_cases hblank : Text.trim text = [] <;> simpa [hblank] using ih

theorem Entry.readEntry_eq (h : Entry text found) : readEntry text.toList = found := by
  cases h with
  | blank htext =>
    have htrim : Text.trim text.toList = [] :=
      Text.trim_eq_iff.2 ⟨⟨text.toList, [], htext, by simp, by simp⟩, by simp, by simp⟩
    rw [readEntry, if_pos htrim]
  | @member before address after hbefore haddress hafter =>
    have htrim : Text.trim (before ++ address ++ after).toList = address.toList :=
      Text.trim_eq_iff.2
        ⟨⟨before.toList, after.toList, hbefore, hafter, by simp⟩, haddress.head, haddress.last⟩
    rw [readEntry, htrim, String.ofList_toList, if_neg]
    simpa using haddress.ne_empty

/-- Whatever stands between two commas is an entry. -/
theorem entry_readEntry {cs : List Char} (hcomma : ',' ∉ cs) :
    Entry (.ofList cs) (readEntry cs) := by
  rw [readEntry]
  generalize htrim : Text.trim cs = core
  obtain ⟨⟨before, after, hbefore, hafter, rfl⟩, hhead, hlast⟩ := Text.trim_eq_iff.1 htrim
  split
  · next hblank =>
    subst hblank
    refine .blank ?_
    rw [IsBlank, String.toList_ofList, List.append_nil]
    exact List.forall_mem_append.2 ⟨hbefore, hafter⟩
  · next hne =>
    have haddress : IsMember (.ofList core) :=
      ⟨by simpa using hne, by simp_all, by simpa using hhead, by simpa using hlast⟩
    rw [String.ofList_append, String.ofList_append]
    refine .member ?_ haddress ?_
    · rwa [IsBlank, String.toList_ofList]
    · rwa [IsBlank, String.toList_ofList]

theorem lists_memberList (value : String) : Lists value (memberList value) := by
  obtain ⟨-, hcomma, hjoin⟩ := Text.fields_eq_iff.1 (rfl : Text.fields ',' value.toList = _)
  refine ⟨(Text.fields ',' value.toList).map fun cs => (.ofList cs, readEntry cs), ?_, ?_, ?_⟩
  · rw [List.forall_mem_map]
    exact fun cs hcs => entry_readEntry (hcomma cs hcs)
  · rw [← String.toList_inj, String.toList_intercalate]
    simpa [Function.comp_def] using hjoin.symm
  · rw [memberList_eq_filterMap, List.filterMap_map]
    rfl

theorem Lists.memberList_eq (h : Lists value members) : memberList value = members := by
  obtain ⟨entries, hentries, rfl, rfl⟩ := h
  -- no entries are written like a single one that is empty
  by_cases hne : entries = []
  · subst hne
    rfl
  have hfields : Text.fields ',' (",".intercalate (entries.map Prod.fst)).toList =
      entries.map fun entry => entry.1.toList := by
    rw [Text.fields_eq_iff, List.forall_mem_map, String.toList_intercalate, List.map_map]
    exact ⟨by simpa using hne, fun entry hentry => (hentries entry hentry).comma_not_mem, rfl⟩
  rw [memberList_eq_filterMap, hfields, List.filterMap_map]
  exact List.filterMap_congr fun entry hentry => (hentries entry hentry).readEntry_eq

/-- A text is read as the members that it lists. -/
theorem memberList_eq_iff : memberList value = members ↔ Lists value members :=
  ⟨fun h => h ▸ lists_memberList value, Lists.memberList_eq⟩

/-! ## Rows -/

/-- The value in the last row for a variable. -/
def lastValue? (name : String) (rows : List (String × String)) : Option String :=
  (rows.filter (·.1 = name)).getLast?.map Prod.snd

theorem lastValue?_concat (name : String) (rows : List (String × String)) (row : String × String) :
    lastValue? name (rows ++ [row]) =
      if row.1 = name then some row.2 else lastValue? name rows := by
  rw [lastValue?, List.filter_append]
  split
  · next heq => simp [heq]
  · next hne => simp [hne, lastValue?]

/-- A status is made of the last rows for the two variables.  Without such a row a node is not
connected, or knows no members. -/
theorem ofRows_eq (rows : List (String × String)) :
    NodeStatus.ofRows rows =
      { connected := (lastValue? "wsrep_connected" rows).any saysOn
        incoming := (lastValue? "wsrep_incoming_addresses" rows).elim [] memberList } := by
  -- the last row is read last, so rows are taken off the end
  induction rows using List.reverseRecOn with
  | nil => rfl
  | append_singleton rows row ih =>
    rw [NodeStatus.ofRows] at ih ⊢
    rw [List.foldl_concat, ih, lastValue?_concat, lastValue?_concat, NodeStatus.withRow,
      connectedVariable, incomingVariable]
    by_cases hconnected : row.1 = "wsrep_connected"
    · have hother : row.1 ≠ "wsrep_incoming_addresses" := by
        rw [hconnected]
        decide
      rw [if_pos hconnected, if_pos hconnected, if_neg hother]
      rfl
    · rw [if_neg hconnected, if_neg hconnected]
      split <;> rfl

/-! ## The result -/

/-- **What the rows of a node are read as.**

* A member list is read as the members that it lists, whatever white space is around them and
  whatever empty or blank entries are between them, and as nothing else.
* Members that are joined by commas are read back.
* Whatever is read from a text is a member: not empty, without commas, no white space at its ends.
* A status tells whether the last `wsrep_connected` says so, and the members of the last
  `wsrep_incoming_addresses`.  Rows that agree in these two give one status, whatever other rows
  there are, and in whatever order. -/
theorem status_read :
    (∀ value members, memberList value = members ↔ Lists value members) ∧
    (∀ members, (∀ address ∈ members, IsMember address) →
      memberList (",".intercalate members) = members) ∧
    (∀ value, ∀ address ∈ memberList value, IsMember address) ∧
    (∀ rows, NodeStatus.ofRows rows =
      { connected := (lastValue? "wsrep_connected" rows).any saysOn
        incoming := (lastValue? "wsrep_incoming_addresses" rows).elim [] memberList }) ∧
    ∀ rows rows', lastValue? "wsrep_connected" rows = lastValue? "wsrep_connected" rows' →
      lastValue? "wsrep_incoming_addresses" rows = lastValue? "wsrep_incoming_addresses" rows' →
      NodeStatus.ofRows rows = NodeStatus.ofRows rows' := by
  refine ⟨fun _ _ => memberList_eq_iff, fun members hmembers => ?_, fun value => ?_, ofRows_eq,
    fun rows rows' hconnected hincoming => ?_⟩
  · exact (lists_intercalate hmembers).memberList_eq
  · exact (lists_memberList value).isMember
  · rw [ofRows_eq, ofRows_eq, hconnected, hincoming]

/-- A zero-width space is no blank, and no-break spaces are; rows may come twice. -/
theorem status_read_of_spaced :
    Lists "\u3000db 1\u00a0,, \u2028,\u200b\n" ["db 1", "\u200b"] ∧
      memberList "\u3000db 1\u00a0,, \u2028,\u200b\n" = ["db 1", "\u200b"] ∧
      IsMember "db 1" ∧ IsMember "\u200b" ∧ memberList "db 1,\u200b" = ["db 1", "\u200b"] ∧
      NodeStatus.ofRows [("wsrep_connected", "OFF"), ("wsrep_incoming_addresses", "a, b"),
          ("wsrep_connected", "oN")] =
        NodeStatus.ofRows [("wsrep_connected", "oN"), ("wsrep_incoming_addresses", "c"),
          ("wsrep_cluster_size", "2"), ("wsrep_incoming_addresses", "a, b")] := by
  obtain ⟨hread, hback, hmembers, -, hrows⟩ := status_read
  have hlists : Lists "\u3000db 1\u00a0,, \u2028,\u200b\n" ["db 1", "\u200b"] := by
    refine ⟨[("\u3000" ++ "db 1" ++ "\u00a0", some "db 1"), ("", none), (" \u2028", none),
      ("" ++ "\u200b" ++ "\n", some "\u200b")], ?_, by decide, rfl⟩
    simp only [List.forall_mem_cons]
    exact ⟨.member (by decide) (by decide) (by decide), .blank (by decide), .blank (by decide),
      .member (by decide) (by decide) (by decide), List.forall_mem_nil _⟩
  have hspaced := (hread _ _).2 hlists
  have hmember : ∀ address ∈ ["db 1", "\u200b"], IsMember address := by
    rw [← hspaced]
    exact hmembers _
  refine ⟨hlists, hspaced, hmember _ (by simp), hmember _ (by simp), ?_,
    hrows _ _ (by decide) (by decide)⟩
  exact hback ["db 1", "\u200b"] hmember

end StreamBalancer.Galera
