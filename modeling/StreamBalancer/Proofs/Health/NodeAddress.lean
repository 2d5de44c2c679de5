import Mathlib.Data.List.Basic
import StreamBalancer.Health.Galera
import StreamBalancer.Net.SocketAddress
import StreamBalancer.Proofs.Split
import StreamBalancer.Proofs.Text
import StreamBalancer.Proofs.Trim

/-!
# StreamBalancer.Proofs.Health.NodeAddress

Which host and port the address of a node names.

1. An address has a host part and, behind its last colon, a port part (`Galera.Parts`); a host is
   what is left of its part without the brackets around it (`Galera.Bare`).
2. An address with a colon names the host and the port of its parts, if it has both
   (`Galera.hostPort_withPort`).
3. One without a colon is a host as it stands, whatever it is (`Galera.hostPort_alone`): it may
   be empty, and it keeps its brackets.

* `Galera.nodes_named` — an address is accepted for what it names, and only if it names a host,
  exactly where it is not one of the third kind that is empty or has a bracket at an end.
-/

namespace StreamBalancer.Galera

/-! ## The parts of an address -/

/-- The host part of an address, and the port part if it has one. -/
inductive Parts : String → String → Option String → Prop where
  | withPort {host port : String} (hlast : ':' ∉ port.toList) :
      Parts (host ++ ":" ++ port) host (some port)
  | alone {host : String} (hnone : ':' ∉ host.toList) : Parts host host none

/-- A host is a host part without the brackets around it. -/
structure Bare (part host : String) : Prop where
  brackets : ∃ m n, part.toList =
    List.replicate m '[' ++ host.toList ++ List.replicate n ']'
  head : host.toList.head? ≠ some '['
  last : host.toList.getLast? ≠ some ']'

/-- The port of a port part; without one it is the standard port. -/
def PortOf (port : UInt16) : Option String → Prop
  | none => port = 3306
  | some part => Text.Writes part.toList port.toNat

/-- An address names a host, which is not empty, and a port. -/
def Names (address host : String) (port : UInt16) : Prop :=
  ∃ hostPart portPart, Parts address hostPart portPart ∧ Bare hostPart host ∧ host ≠ "" ∧
    PortOf port portPart

/-- An address without a colon that is empty or has a bracket at an end. -/
def IsLax (address : String) : Prop :=
  ':' ∉ address.toList ∧
    (address = "" ∨ address.toList.head? = some '[' ∨ address.toList.getLast? = some ']')

instance (address : String) : Decidable (IsLax address) :=
  inferInstanceAs (Decidable (_ ∧ (_ ∨ _ ∨ _)))

/-! ## Brackets -/

/-- A host is the core of its part between brackets. -/
theorem bare_iff_framed {part host : String} :
    Bare part host ↔ Text.Framed (· = '[') (· = ']') part.toList host.toList := by
  constructor
  · rintro ⟨⟨m, n, hpart⟩, hhead, hlast⟩
    refine ⟨⟨_, _, fun c => List.eq_of_mem_replicate, fun c => List.eq_of_mem_replicate, hpart⟩,
      ?_, ?_⟩
    · rintro _ hc rfl
      exact hhead hc
    · rintro _ hc rfl
      exact hlast hc
  · rintro ⟨⟨before, after, hbefore, hafter, hpart⟩, hhead, hlast⟩
    refine ⟨⟨before.length, after.length, ?_⟩, fun hc => hhead _ hc rfl, fun hc => hlast _ hc rfl⟩
    rw [← List.eq_replicate_length.2 hbefore, ← List.eq_replicate_length.2 hafter, hpart]

/-- A host part has one host. -/
theorem bare_iff {part host : String} :
    Bare part host ↔ host = .ofList (unbracket part.toList) := by
  have hstrip : unbracket part.toList = host.toList ↔ Bare part host :=
    (Text.strip_eq_iff (fun _ => beq_iff_eq) fun _ => beq_iff_eq).trans bare_iff_framed.symm
  rw [← hstrip, ← String.toList_inj, String.toList_ofList, eq_comm]

/-- A text without brackets at its ends is a host as it stands. -/
theorem bare_self {host : String} (hhead : host.toList.head? ≠ some '[')
    (hlast : host.toList.getLast? ≠ some ']') : Bare host host :=
  ⟨⟨0, 0, by simp⟩, hhead, hlast⟩

/-- So it is in a pair of brackets. -/
theorem bare_bracketed {host : String} (hhead : host.toList.head? ≠ some '[')
    (hlast : host.toList.getLast? ≠ some ']') : Bare ("[" ++ host ++ "]") host :=
  ⟨⟨1, 1, by simp⟩, hhead, hlast⟩

/-! ## Addresses -/

variable {address host hostPart portPart : String} {port : UInt16}

theorem cutAtLast_withPort (hlast : ':' ∉ portPart.toList) :
    Text.cutAtLast ':' (hostPart ++ ":" ++ portPart).toList =
      some (hostPart.toList, portPart.toList) := by
  rw [Text.cutAtLast_eq_some_iff]
  exact ⟨by simp, hlast⟩

theorem parts_cases (address : String) :
    ':' ∉ address.toList ∨
      ∃ hostPart portPart, address = hostPart ++ ":" ++ portPart ∧ ':' ∉ portPart.toList := by
  cases hcut : Text.cutAtLast ':' address.toList with
  | none => exact .inl (Text.cutAtLast_eq_none_iff.1 hcut)
  | some cut =>
    obtain ⟨hparts, hlast⟩ := Text.cutAtLast_eq_some_iff.1 hcut
    refine .inr ⟨.ofList cut.1, .ofList cut.2, String.toList_inj.1 ?_, by simpa using hlast⟩
    simpa using hparts

theorem hostPort_alone (hnone : ':' ∉ address.toList) :
    hostPort address = .ok (address, 3306) := by
  rw [hostPort, Text.cutAtLast_eq_none_iff.2 hnone]
  rfl

theorem hostPort_withPort (hlast : ':' ∉ portPart.toList) :
    hostPort (hostPart ++ ":" ++ portPart) = .ok (host, port) ↔
      Bare hostPart host ∧ host ≠ "" ∧ Text.Writes portPart.toList port.toNat := by
  rw [hostPort, cutAtLast_withPort hlast, bare_iff, ← Text.port?_eq_some_iff]
  simp only [String.ofList_toList]
  cases Text.port? portPart with
  | none => simp
  | some p =>
    cases unbracket hostPart.toList with
    | nil => exact ⟨fun h => by contradiction, fun h => absurd h.1 h.2.1⟩
    | cons c cs =>
      constructor
      · intro h
        cases h
        exact ⟨rfl, by simp, rfl⟩
      · rintro ⟨rfl, -, hport⟩
        cases hport
        rfl

/-- What is not accepted is reported as it stands. -/
theorem hostPort_cases (address : String) :
    (∃ named, hostPort address = .ok named) ∨
      hostPort address = .error (.invalidAddress address) := by
  unfold hostPort
  split
  · exact .inl ⟨_, rfl⟩
  · split
    · exact .inr rfl
    · split
      · exact .inr rfl
      · exact .inl ⟨_, rfl⟩

theorem names_alone (hnone : ':' ∉ address.toList) :
    Names address host port ↔ Bare address host ∧ host ≠ "" ∧ port = 3306 := by
  constructor
  · rintro ⟨_, _, hparts, hbare, hne, hport⟩
    cases hparts with
    | withPort => simp at hnone
    | alone => exact ⟨hbare, hne, hport⟩
  · rintro ⟨hbare, hne, hport⟩
    exact ⟨_, _, .alone hnone, hbare, hne, hport⟩

theorem names_withPort (hlast : ':' ∉ portPart.toList) :
    Names (hostPart ++ ":" ++ portPart) host port ↔
      Bare hostPart host ∧ host ≠ "" ∧ Text.Writes portPart.toList port.toNat := by
  constructor
  · rintro ⟨_, _, hparts, hbare, hne, hport⟩
    generalize haddress : hostPart ++ ":" ++ portPart = address at hparts
    cases hparts with
    | withPort hlast' =>
      have hcut := @cutAtLast_withPort hostPart _ hlast
      rw [haddress, cutAtLast_withPort hlast', Option.some.injEq, Prod.mk.injEq] at hcut
      obtain ⟨hhostPart, hportPart⟩ := hcut
      obtain rfl := String.toList_inj.1 hhostPart
      obtain rfl := String.toList_inj.1 hportPart
      exact ⟨hbare, hne, hport⟩
    | alone hnone =>
      subst haddress
      simp at hnone
  · rintro ⟨hbare, hne, hport⟩
    exact ⟨_, _, .withPort hlast, hbare, hne, hport⟩

/-! ## The result -/

/-- Both parts decide, unless the address is lax. -/
theorem hostPort_eq_ok_iff (hstrict : ¬ IsLax address) :
    hostPort address = .ok (host, port) ↔ Names address host port := by
  obtain hnone | ⟨hostPart, portPart, rfl, hlast⟩ := parts_cases address
  · have hends : address ≠ "" ∧ address.toList.head? ≠ some '[' ∧
        address.toList.getLast? ≠ some ']' := by
      rw [IsLax, not_and] at hstrict
      simpa only [not_or] using hstrict hnone
    obtain ⟨hne, hhead, hlast⟩ := hends
    have hself := bare_self hhead hlast
    rw [hostPort_alone hnone, names_alone hnone, bare_iff, ← bare_iff.1 hself]
    constructor
    · intro h
      cases h
      exact ⟨rfl, hne, rfl⟩
    · rintro ⟨rfl, -, rfl⟩
      rfl
  · rw [hostPort_withPort hlast, names_withPort hlast]

/-- Only the empty address gives an empty host. -/
theorem hostPort_eq_empty_iff : hostPort address = .ok ("", port) ↔ address = "" ∧ port = 3306 := by
  obtain hnone | ⟨hostPart, portPart, rfl, hlast⟩ := parts_cases address
  · rw [hostPort_alone hnone]
    simp [eq_comm]
  · rw [hostPort_withPort hlast]
    simp

theorem toList_toString (n : Nat) : (toString n).toList = Nat.toDigits 10 n := by
  simp

theorem writes_toString (port : UInt16) : Text.Writes (toString port.toNat).toList port.toNat := by
  have hread := Text.readBelow?_toDigits port.toNat_lt
  rw [toList_toString]
  exact ((Text.readBelow?_eq_some_iff _ _ _).1 hread).1

theorem colon_not_mem_toString (n : Nat) : ':' ∉ (toString n).toList := by
  rw [toList_toString]
  intro hmem
  have hdigit : ':'.isDigit = true := Nat.isDigit_of_mem_toDigits (by decide) (by decide) hmem
  contradiction

/-- A lax address is not taken for what it names. -/
theorem not_names_of_isLax (hlax : IsLax address) : ¬ Names address address 3306 := by
  obtain ⟨hnone, hends⟩ := hlax
  rw [names_alone hnone]
  rintro ⟨hbare, hne, -⟩
  obtain hempty | hhead | hlast := hends
  · exact hne hempty
  · exact hbare.head hhead
  · exact hbare.last hlast

/-- What is accepted is what is named, exactly where the address is not lax. -/
theorem accepts_names_iff :
    (∀ host port, hostPort address = .ok (host, port) ↔ Names address host port) ↔
      ¬ IsLax address :=
  ⟨fun h hlax => not_names_of_isLax hlax ((h _ _).1 (hostPort_alone hlax.1)),
    fun hstrict _ _ => hostPort_eq_ok_iff hstrict⟩

/-- **Which addresses name a node.**

* An address is accepted with the host and the port that it names, and only if it names some,
  exactly where it is not lax.
* A lax address is accepted with itself for a host, and with the standard port.
* What is not accepted is reported as an invalid address.
* The empty address is the only one that gives an empty host.
* From a host without brackets at its ends and a port, these are given back, also if the host was
  put in brackets. -/
theorem nodes_named (address : String) :
    ((∀ host port, hostPort address = .ok (host, port) ↔ Names address host port) ↔
      ¬ IsLax address) ∧
    (IsLax address → hostPort address = .ok (address, 3306)) ∧
    ((∃ named, hostPort address = .ok named) ∨
      hostPort address = .error (.invalidAddress address)) ∧
    (∀ port, hostPort address = .ok ("", port) ↔ address = "" ∧ port = 3306) ∧
    ∀ host port, host ≠ "" → host.toList.head? ≠ some '[' → host.toList.getLast? ≠ some ']' →
      address = joinAddress host port ∨ address = joinAddress ("[" ++ host ++ "]") port →
      hostPort address = .ok (host, port) := by
  refine ⟨accepts_names_iff, fun hlax => hostPort_alone hlax.1, hostPort_cases address,
    fun _ => hostPort_eq_empty_iff, fun host port hne hhead hlast haddress => ?_⟩
  have hdigits := colon_not_mem_toString port.toNat
  obtain rfl | rfl := haddress
  · exact (hostPort_withPort hdigits).2 ⟨bare_self hhead hlast, hne, writes_toString port⟩
  · exact (hostPort_withPort hdigits).2 ⟨bare_bracketed hhead hlast, hne, writes_toString port⟩

/-- Brackets come off only where there is a port. -/
theorem nodes_named_of_bracketed :
    ¬ IsLax "[[::1]]:+3307" ∧ Names "[[::1]]:+3307" "::1" 3307 ∧
      IsLax "[db1]" ∧ hostPort "[db1]" = .ok ("[db1]", 3306) ∧
      hostPort "[::1]:65535" = .ok ("::1", 65535) := by
  have hstrict : ¬ IsLax "[[::1]]:+3307" := by decide
  have hread : hostPort "[[::1]]:+3307" = .ok ("::1", 3307) := by decide +kernel
  have hlax : IsLax "[db1]" := by decide
  obtain ⟨-, -, -, -, hback⟩ := nodes_named "[::1]:65535"
  exact ⟨hstrict, ((nodes_named _).1.2 hstrict _ _).1 hread, hlax, (nodes_named _).2.1 hlax,
    hback "::1" 65535 (by decide) (by decide) (by decide) (.inr rfl)⟩

/-- Not every address that is accepted names a host: the empty one is accepted too. -/
theorem nameless_node :
    (¬ ∀ address host port, hostPort address = .ok (host, port) ↔ Names address host port) ∧
      ¬ ∀ address host port, hostPort address = .ok (host, port) → host ≠ "" := by
  have hempty : hostPort "" = .ok ("", 3306) := rfl
  refine ⟨fun h => ?_, fun h => h _ _ _ hempty rfl⟩
  obtain ⟨_, _, _, _, hne, _⟩ := (h _ _ _).1 hempty
  exact hne rfl

end StreamBalancer.Galera
