import StreamBalancer.Config
import StreamBalancer.Proofs.Split

/-!
# StreamBalancer.Proofs.Listen

What listen specifications name, and how endpoints are written back.

1. A specification is described by its cut at the first `://` (`ListenAddress.CutAt`), and what is
   read from it by the two parts (`ListenAddress.parse_eq_iff`).
2. An endpoint that was read is read again from its text (`ListenAddress.parse_text`).  The text is
   the specification it came from, but for the names of the default socket
   (`ListenAddress.text_of_parse`).

* `Config.specs_exact` — both for every specification, and all endpoints of a configuration can be
  written back as its listen specifications.
-/

namespace StreamBalancer

namespace ListenAddress

/-! ## The cut -/

/-- A specification cut at its first `://`. -/
structure CutAt (spec scheme address : String) : Prop where
  parts : spec = scheme ++ "://" ++ address
  first : ∀ scheme' address', spec = scheme' ++ "://" ++ address' → scheme.length ≤ scheme'.length

variable {spec scheme address : String} {a : ListenAddress}

theorem cutAt_iff :
    CutAt spec scheme address ↔
      Text.FirstCut [':', '/', '/'] spec.toList scheme.toList address.toList := by
  have hparts : ∀ s t : String, spec = s ++ "://" ++ t ↔
      spec.toList = s.toList ++ [':', '/', '/'] ++ t.toList := by
    intro s t
    rw [← String.toList_inj, String.toList_append, String.toList_append]
    rfl
  constructor
  · intro h
    refine ⟨(hparts _ _).1 h.parts, fun before rest heq => ?_⟩
    have hcut := h.first (.ofList before) (.ofList rest) ((hparts _ _).2 (by simpa using heq))
    simpa [String.length_toList] using hcut
  · intro h
    refine ⟨(hparts _ _).2 h.parts, fun s t heq => ?_⟩
    have hcut := h.first _ _ ((hparts _ _).1 heq)
    simpa [String.length_toList] using hcut

theorem CutAt.unique {scheme' address' : String} (h : CutAt spec scheme address)
    (h' : CutAt spec scheme' address') : scheme = scheme' ∧ address = address' := by
  obtain ⟨hscheme, haddress⟩ := (cutAt_iff.1 h).unique (cutAt_iff.1 h')
  exact ⟨String.toList_inj.1 hscheme, String.toList_inj.1 haddress⟩

/-- A scheme without a colon ends at the first `://`, whatever the address holds. -/
theorem cutAt_of_scheme (h : ':' ∉ scheme.toList) (address : String) :
    CutAt (scheme ++ "://" ++ address) scheme address := by
  rw [cutAt_iff, String.toList_append, String.toList_append]
  exact Text.firstCut_of_not_mem h

theorem cutAt_text (a : ListenAddress) : CutAt a.text a.scheme a.address := by
  have hscheme : ':' ∉ a.scheme.toList := by
    cases a <;> simp [scheme]
  exact cutAt_of_scheme hscheme a.address

/-! ## Reading -/

/-- The other names of the default socket. -/
def IsAlias (spec : String) : Prop :=
  spec = "unix://default" ∨ spec = "unix:///" ∨ spec = "unix:///default"

instance (spec : String) : Decidable (IsAlias spec) := inferInstanceAs (Decidable (_ ∨ _ ∨ _))

/-- What a specification is read as. -/
inductive Reading (spec : String) : Except ListenError ListenAddress → Prop where
  | malformed (hno : ∀ scheme address, spec ≠ scheme ++ "://" ++ address) :
      Reading spec (.error (.malformed spec))
  | unknownScheme {scheme address : String} (hcut : CutAt spec scheme address)
      (htcp : scheme ≠ "tcp") (hunix : scheme ≠ "unix") :
      Reading spec (.error (.unknownScheme scheme spec))
  | emptyAddress {scheme : String} (hcut : CutAt spec scheme "")
      (hknown : scheme = "tcp" ∨ scheme = "unix") : Reading spec (.error (.emptyAddress spec))
  | tcp {address : String} (hcut : CutAt spec "tcp" address) (hne : address ≠ "") :
      Reading spec (.ok (.tcp address))
  | default (halias : IsAlias spec) : Reading spec (.ok (.unix defaultSocket))
  | unix {path : String} (hcut : CutAt spec "unix" path) (hne : path ≠ "")
      (hother : ¬ IsAlias spec) : Reading spec (.ok (.unix path))

theorem parse_of_uncut (hno : ∀ scheme address, spec ≠ scheme ++ "://" ++ address) :
    parse spec = .error (.malformed spec) := by
  have hnone : Text.cutAtFirst [':', '/', '/'] spec.toList = none := by
    rw [Text.cutAtFirst_eq_none_iff]
    intro before rest heq
    refine hno (.ofList before) (.ofList rest) (String.toList_inj.1 ?_)
    simpa using heq
  rw [parse, hnone]

theorem parse_of_cutAt (h : CutAt spec scheme address) :
    parse spec =
      if scheme = "tcp" then
        if address = "" then .error (.emptyAddress spec) else .ok (tcp address)
      else if scheme = "unix" then
        if address = "" then .error (.emptyAddress spec) else .ok (unix (socketPath address))
      else .error (.unknownScheme scheme spec) := by
  rw [parse, Text.cutAtFirst_eq_some_iff.2 (cutAt_iff.1 h)]
  simp only [String.ofList_toList]

theorem cut_cases (spec : String) :
    (∀ scheme address, spec ≠ scheme ++ "://" ++ address) ∨
      ∃ scheme address, CutAt spec scheme address := by
  cases hcut : Text.cutAtFirst [':', '/', '/'] spec.toList with
  | none =>
    refine .inl fun scheme address heq => ?_
    refine Text.cutAtFirst_eq_none_iff.1 hcut scheme.toList address.toList ?_
    simp [heq]
  | some cut =>
    refine .inr ⟨.ofList cut.1, .ofList cut.2, cutAt_iff.2 ?_⟩
    simpa using Text.firstCut_of_cutAtFirst hcut

/-- Whether a specification is an alias is seen from its path. -/
theorem isAlias_iff (hcut : CutAt spec "unix" address) :
    IsAlias spec ↔ address = "default" ∨ address = "/" ∨ address = "/default" := by
  have happend : ∀ path : String, spec = "unix" ++ "://" ++ path ↔ address = path := by
    intro path
    rw [hcut.parts]
    simp
  exact or_congr (happend "default") (or_congr (happend "/") (happend "/default"))

theorem socketPath_eq (hcut : CutAt spec "unix" address) :
    socketPath address = if IsAlias spec then defaultSocket else address := by
  rw [socketPath]
  simp only [isAlias_iff hcut]

theorem IsAlias.cutAt (h : IsAlias spec) : ∃ path, CutAt spec "unix" path ∧ path ≠ "" := by
  obtain rfl | rfl | rfl := h
  · exact ⟨"default", cutAt_text (.unix "default"), by decide⟩
  · exact ⟨"/", cutAt_text (.unix "/"), by decide⟩
  · exact ⟨"/default", cutAt_text (.unix "/default"), by decide⟩

theorem reading_parse (spec : String) : Reading spec (parse spec) := by
  obtain hno | ⟨scheme, address, hcut⟩ := cut_cases spec
  · rw [parse_of_uncut hno]
    exact .malformed hno
  · rw [parse_of_cutAt hcut]
    by_cases htcp : scheme = "tcp"
    · subst htcp
      rw [if_pos rfl]
      split
      · next hempty => exact .emptyAddress (hempty ▸ hcut) (.inl rfl)
      · next hne => exact .tcp hcut hne
    · rw [if_neg htcp]
      by_cases hunix : scheme = "unix"
      · subst hunix
        rw [if_pos rfl, socketPath_eq hcut]
        split
        · next hempty => exact .emptyAddress (hempty ▸ hcut) (.inr rfl)
        · next hne =>
          split
          · next halias => exact .default halias
          · next hother => exact .unix hcut hne hother
      · rw [if_neg hunix]
        exact .unknownScheme hcut htcp hunix

/-- A specification is read in one way. -/
theorem parse_eq_iff {r : Except ListenError ListenAddress} : parse spec = r ↔ Reading spec r := by
  refine ⟨fun h => h ▸ reading_parse spec, fun h => ?_⟩
  cases h with
  | malformed hno => exact parse_of_uncut hno
  | unknownScheme hcut htcp hunix => rw [parse_of_cutAt hcut, if_neg htcp, if_neg hunix]
  | emptyAddress hcut hknown => obtain rfl | rfl := hknown <;> rw [parse_of_cutAt hcut] <;> rfl
  | tcp hcut hne => rw [parse_of_cutAt hcut, if_pos rfl, if_neg hne]
  | default halias =>
    obtain ⟨path, hcut, hne⟩ := halias.cutAt
    rw [parse_of_cutAt hcut, if_neg (by decide), if_pos rfl, if_neg hne, socketPath_eq hcut,
      if_pos halias]
  | unix hcut hne hother =>
    rw [parse_of_cutAt hcut, if_neg (by decide), if_pos rfl, if_neg hne, socketPath_eq hcut,
      if_neg hother]

/-! ## Writing back -/

/-- The endpoints that some specification is read as. -/
def IsRead : ListenAddress → Prop
  | tcp address => address ≠ ""
  | unix path => path ≠ "" ∧ ¬ IsAlias ("unix" ++ "://" ++ path)

theorem isRead_of_parse (h : parse spec = .ok a) : a.IsRead := by
  cases parse_eq_iff.1 h with
  | tcp hcut hne => exact hne
  | default halias => exact ⟨by decide, by decide⟩
  | unix hcut hne hother => exact ⟨hne, hcut.parts ▸ hother⟩

/-- Such an endpoint is read again from its text. -/
theorem parse_text (h : a.IsRead) : parse a.text = .ok a := by
  cases a with
  | tcp address => exact parse_eq_iff.2 (.tcp (cutAt_text (.tcp address)) h)
  | unix path => exact parse_eq_iff.2 (.unix (cutAt_text (.unix path)) h.1 h.2)

/-- The text is the specification, unless that is another name of the default socket. -/
theorem text_of_parse (h : parse spec = .ok a) :
    a.text = if IsAlias spec then "unix:///var/lib/mysql/mysql.sock" else spec := by
  cases parse_eq_iff.1 h with
  | tcp hcut hne =>
    have hother : ¬ IsAlias spec := fun halias => by
      obtain ⟨path, hcut', -⟩ := halias.cutAt
      exact absurd (hcut.unique hcut').1 (by decide)
    rw [if_neg hother, hcut.parts]
    rfl
  | default halias =>
    rw [if_pos halias]
    decide
  | unix hcut hne hother =>
    rw [if_neg hother, hcut.parts]
    rfl

end ListenAddress

/-! ## Configurations -/

namespace Config

open ListenAddress (IsRead)

theorem isRead_of_parseAll {specs : List String} {addresses : List ListenAddress}
    (h : parseAll specs = .ok addresses) : ∀ a ∈ addresses, a.IsRead := by
  induction specs generalizing addresses with
  | nil =>
    cases h
    simp
  | cons spec specs ih =>
    unfold parseAll at h
    split at h
    · contradiction
    · next a hparse =>
      cases hrest : parseAll specs with
      | error e =>
        rw [hrest] at h
        contradiction
      | ok rest =>
        rw [hrest] at h
        cases h
        exact List.forall_mem_cons.2 ⟨ListenAddress.isRead_of_parse hparse, ih hrest⟩

/-- Endpoints that are read are read again, in their order. -/
theorem parseAll_texts {addresses : List ListenAddress} (h : ∀ a ∈ addresses, a.IsRead) :
    parseAll (addresses.map ListenAddress.text) = .ok addresses := by
  induction addresses with
  | nil => rfl
  | cons a addresses ih =>
    obtain ⟨ha, hrest⟩ := List.forall_mem_cons.1 h
    rw [List.map_cons, parseAll, ListenAddress.parse_text ha, ih hrest]
    rfl

theorem isRead_of_legacyListen {c : Config} {legacy : ListenAddress}
    (h : c.legacyListen = some legacy) : legacy.IsRead := by
  unfold legacyListen at h
  split at h
  · split at h
    · contradiction
    · cases h
      simp [IsRead]
  · contradiction

theorem isRead_of_listenAddresses {c : Config} {addresses : List ListenAddress}
    (h : c.listenAddresses = .ok addresses) : ∀ a ∈ addresses, a.IsRead := by
  unfold listenAddresses at h
  cases hparse : parseAll c.listen with
  | error e =>
    rw [hparse] at h
    contradiction
  | ok specified =>
    have hread := isRead_of_parseAll hparse
    rw [hparse] at h
    cases h
    cases hlegacy : c.legacyListen with
    | none => exact hread
    | some legacy =>
      dsimp only
      split
      · exact hread
      · exact List.forall_mem_append.2
          ⟨hread, List.forall_mem_singleton.2 (isRead_of_legacyListen hlegacy)⟩

/-- The listener of `addr` and `port` is among those of a configuration. -/
theorem legacy_mem {c : Config} {addresses : List ListenAddress} {legacy : ListenAddress}
    (h : c.listenAddresses = .ok addresses) (hlegacy : c.legacyListen = some legacy) :
    legacy ∈ addresses := by
  unfold listenAddresses at h
  cases hparse : parseAll c.listen with
  | error e =>
    rw [hparse] at h
    contradiction
  | ok specified =>
    rw [hparse, hlegacy] at h
    cases h
    dsimp only
    split
    · assumption
    · simp

/-- What listeners a configuration has can be written down as its listen specifications. -/
theorem listenAddresses_texts {c : Config} {addresses : List ListenAddress}
    (h : ∀ a ∈ addresses, a.IsRead) :
    { c with
      listen := addresses.map ListenAddress.text
      addr := none
      port := none }.listenAddresses = .ok addresses := by
  rw [listenAddresses, parseAll_texts h]
  rfl

/-- **Listen specifications are read exactly, and endpoints are written back.**

* A specification is read as its parts tell, and as nothing else.
* An endpoint that was read has a text that is read as the same endpoint.  The text is the
  specification, or that of the default socket if the specification was another name of it.
* Among the listeners of a configuration is the one of `addr` and `port`, if there is one.  All of
  them have texts that are read as they are, and listen specifications alone, namely these texts,
  give the same listeners. -/
theorem specs_exact :
    (∀ spec r, ListenAddress.parse spec = r ↔ ListenAddress.Reading spec r) ∧
    (∀ spec a, ListenAddress.parse spec = .ok a →
      ListenAddress.parse a.text = .ok a ∧
        a.text = if ListenAddress.IsAlias spec then "unix:///var/lib/mysql/mysql.sock" else spec) ∧
    ∀ (c : Config) (addresses : List ListenAddress), c.listenAddresses = .ok addresses →
      (∀ legacy, c.legacyListen = some legacy → legacy ∈ addresses) ∧
      (∀ a ∈ addresses, ListenAddress.parse a.text = .ok a) ∧
      { c with
        listen := addresses.map ListenAddress.text
        addr := none
        port := none }.listenAddresses = .ok addresses := by
  refine ⟨fun _ _ => ListenAddress.parse_eq_iff, fun spec a h => ?_, fun c addresses h => ?_⟩
  · exact ⟨ListenAddress.parse_text (ListenAddress.isRead_of_parse h),
      ListenAddress.text_of_parse h⟩
  · have hread := isRead_of_listenAddresses h
    exact ⟨fun _ hlegacy => legacy_mem h hlegacy,
      fun a ha => ListenAddress.parse_text (hread a ha), listenAddresses_texts hread⟩

/-- Listeners at the default socket, at a path with `://` in it, and of a host with `://` in it. -/
def oddlyNamed : Config where
  listen := ["unix:///", "unix://a://b"]
  addr := some "c://d"
  port := some "3306"

theorem specs_exact_of_oddly_named :
    ListenAddress.parse "unix:///" = .ok (.unix "/var/lib/mysql/mysql.sock") ∧
      ListenAddress.parse "unix:///var/lib/mysql/mysql.sock" =
        .ok (.unix "/var/lib/mysql/mysql.sock") ∧
      oddlyNamed.listenAddresses =
        .ok [.unix "/var/lib/mysql/mysql.sock", .unix "a://b", .tcp "c://d:3306"] ∧
      ListenAddress.parse "tcp://c://d:3306" = .ok (.tcp "c://d:3306") ∧
      { oddlyNamed with
        listen := ["unix:///var/lib/mysql/mysql.sock", "unix://a://b", "tcp://c://d:3306"]
        addr := none
        port := none }.listenAddresses =
          .ok [.unix "/var/lib/mysql/mysql.sock", .unix "a://b", .tcp "c://d:3306"] := by
  obtain ⟨-, hback, hconfig⟩ := specs_exact
  have hparse : ListenAddress.parse "unix:///" = .ok (.unix "/var/lib/mysql/mysql.sock") := by
    decide +kernel
  have haddresses : oddlyNamed.listenAddresses =
      .ok [.unix "/var/lib/mysql/mysql.sock", .unix "a://b", .tcp "c://d:3306"] := by
    decide +kernel
  obtain ⟨-, hread, hwritten⟩ := hconfig oddlyNamed _ haddresses
  exact ⟨hparse, (hback _ _ hparse).1, haddresses, hread (.tcp "c://d:3306") (by simp), hwritten⟩

end Config

end StreamBalancer
