/-
Whose address a request is counted under.
-/

import Mall.ClientIP

namespace Mall

open Transactional

variable {net : NetText} {resolver : ClientIPResolver}

def forwardedList (lines : List String) : List String :=
  lines.flatMap (split ',')

def candidates (entries : List String) : List String :=
  (entries.map trimSpace).filter (fun candidate => candidate != "")

/-- The last untrusted address of some entries, with only trusted ones behind it. -/
def ClientIPResolver.Names (net : NetText) (resolver : ClientIPResolver) (client : String)
    (entries : List String) : Prop :=
  ∃ front proxies, candidates entries = front ++ client :: proxies ∧
    (∃ ip, net.parseIP client = some ip ∧ resolver.trusts (some ip) = false) ∧
    ∀ proxy ∈ proxies, ∃ ip, net.parseIP proxy = some ip ∧ resolver.trusts (some ip) = true

/-! ### The scan -/

/-- The scan over entries that are all trimmed and not blank. -/
def ClientIPResolver.walk (net : NetText) (resolver : ClientIPResolver) (host : String) :
    List String → String
  | [] => host
  | candidate :: rest =>
      match net.parseIP candidate with
      | none => host
      | some parsed =>
          if resolver.trusts (some parsed) then resolver.walk net host rest else candidate

private theorem scan_eq_walk (host : String) (entries : List String) :
    resolver.scan net host entries = resolver.walk net host (candidates entries) := by
  induction entries with
  | nil => rfl
  | cons entry rest ih =>
      by_cases blank : trimSpace entry = ""
      · have skipped : candidates (entry :: rest) = candidates rest := by
          rw [candidates, List.map_cons, List.filter_cons_of_neg (by simp [blank])]
          rfl
        rw [ClientIPResolver.scan, if_pos blank, skipped, ih]
      · have kept : candidates (entry :: rest) = trimSpace entry :: candidates rest := by
          rw [candidates, List.map_cons, List.filter_cons_of_pos (by simp [blank])]
          rfl
        rw [ClientIPResolver.scan, if_neg blank, kept, ih]
        rfl

private theorem candidates_reverse (entries : List String) :
    candidates entries.reverse = (candidates entries).reverse := by
  rw [candidates, candidates, List.map_reverse, List.filter_reverse]

private theorem walk_proxies {host : String} {proxies rest : List String}
    (trusted : ∀ proxy ∈ proxies, ∃ ip, net.parseIP proxy = some ip ∧
      resolver.trusts (some ip) = true) :
    resolver.walk net host (proxies ++ rest) = resolver.walk net host rest := by
  induction proxies with
  | nil => rfl
  | cons proxy others ih =>
      obtain ⟨ip, parsed, trust⟩ := trusted proxy List.mem_cons_self
      rw [List.cons_append, ClientIPResolver.walk, parsed]
      dsimp only
      rw [if_pos trust]
      exact ih (fun other member => trusted other (List.mem_cons_of_mem _ member))

private theorem walk_client {host client : String} {rest : List String} {ip : IP}
    (parsed : net.parseIP client = some ip) (untrusted : resolver.trusts (some ip) = false) :
    resolver.walk net host (client :: rest) = client := by
  rw [ClientIPResolver.walk, parsed]
  dsimp only
  rw [if_neg (by rw [untrusted]; nofun)]

private theorem walk_eq_client {host client : String} {entries : List String}
    (other : host ≠ client) (ends : resolver.walk net host entries = client) :
    ∃ proxies rest, entries = proxies ++ client :: rest ∧
      ∀ proxy ∈ proxies, ∃ ip, net.parseIP proxy = some ip ∧
        resolver.trusts (some ip) = true := by
  induction entries with
  | nil => exact absurd ends other
  | cons entry rest ih =>
      cases read : net.parseIP entry with
      | none =>
          rw [ClientIPResolver.walk, read] at ends
          exact absurd ends other
      | some found =>
          cases trust : resolver.trusts (some found) with
          | false =>
              rw [walk_client read trust] at ends
              exact ⟨[], rest, by rw [ends]; rfl, nofun⟩
          | true =>
              rw [ClientIPResolver.walk, read] at ends
              dsimp only at ends
              rw [if_pos trust] at ends
              obtain ⟨proxies, tail, same, trusted⟩ := ih ends
              refine ⟨entry :: proxies, tail, by rw [same]; rfl, ?_⟩
              intro proxy member
              rcases List.mem_cons.mp member with rfl | listed
              · exact ⟨found, read, trust⟩
              · exact trusted proxy listed

/-- The scan from the right ends at a client exactly when the entries name it. -/
theorem scan_eq_client {host client : String} {entries : List String} {ip : IP}
    (parsed : net.parseIP client = some ip) (untrusted : resolver.trusts (some ip) = false)
    (other : host ≠ client) :
    resolver.scan net host entries.reverse = client ↔ resolver.Names net client entries := by
  rw [scan_eq_walk, candidates_reverse]
  constructor
  · intro ends
    obtain ⟨proxies, rest, same, trusted⟩ := walk_eq_client other ends
    refine ⟨rest.reverse, proxies.reverse, ?_, ⟨ip, parsed, untrusted⟩, ?_⟩
    · have turned := congrArg List.reverse same
      simpa using turned
    · intro proxy member
      exact trusted proxy (List.mem_reverse.mp member)
  · rintro ⟨front, proxies, same, _, trusted⟩
    have turned : (candidates entries).reverse = proxies.reverse ++ client :: front.reverse := by
      rw [same]
      simp
    rw [turned, walk_proxies (fun proxy member => trusted proxy (List.mem_reverse.mp member)),
      walk_client parsed untrusted]

/-! ### Forged addresses -/

private theorem peerHost_ne {peer client : String} {ip : IP}
    (trusted : resolver.trusts (net.parseIP (peerHost net peer)) = true)
    (parsed : net.parseIP client = some ip) (untrusted : resolver.trusts (some ip) = false) :
    peerHost net peer ≠ client := by
  intro same
  rw [same, parsed, untrusted] at trusted
  cases trusted

private theorem not_names_blank {client : String} : ¬ resolver.Names net client (split ',' "") := by
  rintro ⟨front, proxies, same, _⟩
  have nothing : candidates (split ',' "") = [] := by decide
  rw [nothing] at same
  exact absurd same (by simp)

/-- An untrusted peer stands for itself.  Behind a trusted one, the client that the
whole list names is found exactly when the first line of the header names it. -/
theorem client_address_first_line (net : NetText) (resolver : ClientIPResolver) (peer : String)
    (lines : List String) :
    (resolver.trusts (net.parseIP (peerHost net peer)) = false →
      ∀ others, resolver.clientIP net peer others = resolver.clientIP net peer lines) ∧
    (resolver.trusts (net.parseIP (peerHost net peer)) = true → ∀ client,
      resolver.Names net client (forwardedList lines) →
        (resolver.clientIP net peer lines = client ↔
          resolver.Names net client (split ',' (headerGet lines)))) ∧
    (resolver.trusts (net.parseIP (peerHost net peer)) = true → lines.length ≤ 1 → ∀ client,
      resolver.Names net client (forwardedList lines) →
        resolver.clientIP net peer lines = client) := by
  have decides : resolver.trusts (net.parseIP (peerHost net peer)) = true → ∀ client,
      resolver.Names net client (forwardedList lines) →
        (resolver.clientIP net peer lines = client ↔
          resolver.Names net client (split ',' (headerGet lines))) := by
    rintro trusted client ⟨_, _, _, ⟨ip, parsed, untrusted⟩, _⟩
    have other := peerHost_ne trusted parsed untrusted
    unfold ClientIPResolver.clientIP
    dsimp only
    rw [if_pos trusted]
    split
    · next silent =>
        rw [silent]
        exact iff_of_false other not_names_blank
    · exact scan_eq_client parsed untrusted other
  refine ⟨?_, decides, ?_⟩
  · intro untrusted others
    unfold ClientIPResolver.clientIP
    dsimp only
    rw [if_neg (by rw [untrusted]; nofun), if_neg (by rw [untrusted]; nofun)]
  · intro trusted single client named
    refine (decides trusted client named).mpr ?_
    cases lines with
    | nil =>
        obtain ⟨front, _, same, _⟩ := named
        exact absurd same.symm (by simp [forwardedList, candidates])
    | cons line rest =>
        have alone : rest = [] := List.eq_nil_of_length_eq_zero (by simpa using single)
        subst alone
        simpa [forwardedList, headerGet] using named

/-! ### A forged line -/

def parseOctet (part : String) : Option Nat :=
  let letters := part.toList
  if letters = [] ∨ ¬ letters.all Char.isDigit ∨ (letters.head? = some '0' ∧ letters.length ≠ 1) then
    none
  else
    let value := Nat.ofDigitChars 10 letters 0
    if value < 256 then some value else none

def parseDotted (text : String) : Option (BitVec 32) :=
  match (split '.' text).map parseOctet with
  | [some a, some b, some c, some d] => some (BitVec.ofNat 32 (((a * 256 + b) * 256 + c) * 256 + d))
  | _ => none

/-- The IPv4 part of the package. -/
def dottedNet : NetText :=
  { parseIP := fun text => (parseDotted text).map (fun short => 0xFFFF#96 ++ short)
    parseCIDR := fun text =>
      match split '/' text with
      | [address, ones] =>
          match parseDotted address, parseOctet ones with
          | some network, some count => .ok (.v4 network count)
          | _, _ => .error ("invalid CIDR address: " ++ text)
      | _ => .error ("invalid CIDR address: " ++ text)
    splitHostPort := fun text =>
      match split ':' text with
      | [host, _] => some host
      | _ => none
    parseIP_empty := by decide }

def innerProxies : ClientIPResolver :=
  { trusted := [.v4 0x0A000000#32 8] }

private theorem innerProxies_accepted :
    (newClientIPResolver dottedNet ["10.0.0.0/8"]).toOption = some innerProxies := by
  decide +kernel

/-- The proxy adds its own line below the one that the client sent, and the client is
counted under an address of its choice. -/
theorem client_address_forged :
    (newClientIPResolver dottedNet ["10.0.0.0/8"]).toOption = some innerProxies ∧
      innerProxies.trusts (dottedNet.parseIP (peerHost dottedNet "10.0.0.1:443")) = true ∧
      innerProxies.Names dottedNet "203.0.113.9" (forwardedList ["198.51.100.7", "203.0.113.9"]) ∧
      innerProxies.clientIP dottedNet "10.0.0.1:443" ["198.51.100.7", "203.0.113.9"] =
        "198.51.100.7" := by
  refine ⟨innerProxies_accepted, by decide +kernel, ?_, by decide +kernel⟩
  refine ⟨["198.51.100.7"], [], by decide +kernel, ⟨0xFFFF#96 ++ 0xCB007109#32, ?_, ?_⟩, nofun⟩
  · decide +kernel
  · decide +kernel

/-- In one line, what the client wrote in front of its address does not count. -/
theorem client_address_first_line_single :
    innerProxies.clientIP dottedNet "10.0.0.1:443" ["198.51.100.7, 203.0.113.9, 10.0.0.2"] =
      "203.0.113.9" := by
  refine (client_address_first_line dottedNet innerProxies "10.0.0.1:443"
    ["198.51.100.7, 203.0.113.9, 10.0.0.2"]).2.2 (by decide +kernel) (by decide) "203.0.113.9" ?_
  refine ⟨["198.51.100.7"], ["10.0.0.2"], by decide +kernel,
    ⟨0xFFFF#96 ++ 0xCB007109#32, by decide +kernel, by decide +kernel⟩, ?_⟩
  intro proxy member
  cases List.mem_singleton.mp member
  exact ⟨0xFFFF#96 ++ 0x0A000002#32, by decide +kernel, by decide +kernel⟩

end Mall
