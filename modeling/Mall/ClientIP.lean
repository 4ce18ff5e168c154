/-
The client address behind trusted proxies.

Addresses and networks are those of Go's `net` package: an address has 128 bits,
and an IPv4 address is the mapped form of its 32 bits.  How texts are parsed is
left to the package.
-/

import Mall.Foundation.Execution
import Mall.Faults
import Mall.Text

namespace Mall

open Transactional

/-! ### Addresses and networks -/

abbrev IP := BitVec 128

/-- `IP.To4`: the last 32 bits of a mapped address. -/
def IP.to4 (ip : IP) : Option (BitVec 32) :=
  if ip.extractLsb' 32 96 = 0xFFFF#96 then some (ip.extractLsb' 0 32) else none

/-- What `ParseCIDR` returns; the text's own notation decides on the family. -/
inductive IPNet where
  | v4 (address : BitVec 32) (ones : Nat)
  | v6 (address : IP) (ones : Nat)
deriving DecidableEq

def sameNetwork {width : Nat} (ones : Nat) (left right : BitVec width) : Bool :=
  left >>> (width - ones) == right >>> (width - ones)

/-- `IPNet.Contains`.  A network of mapped addresses is treated as one of IPv4. -/
def IPNet.contains (network : IPNet) (ip : IP) : Bool :=
  match network with
  | .v4 address ones =>
      match ip.to4 with
      | some short => sameNetwork ones address short
      | none => false
  | .v6 address ones =>
      match address.to4, ip.to4 with
      | some network, some short => sameNetwork (ones - 96) network short
      | none, none => sameNetwork ones address ip
      | _, _ => false

structure NetText where
  parseIP : String → Option IP
  /-- The network, or the text of the error. -/
  parseCIDR : String → Except String IPNet
  /-- The host, if the text is a host and a port. -/
  splitHostPort : String → Option String
  parseIP_empty : parseIP "" = none

/-! ### The resolver -/

structure ClientIPResolver where
  trusted : List IPNet
deriving DecidableEq

def trustedProxy (net : NetText) (raw : String) : Except Fault (Option IPNet) :=
  let cidr := trimSpace raw
  if cidr = "" then .ok none
  else do
    let text ← if cidr.toList.contains '/' then .ok cidr
      else
        match net.parseIP cidr with
        | none => .error (Fault.plain ("invalid trusted proxy " ++ raw.quote))
        | some ip => .ok (cidr ++ if ip.to4.isSome then "/32" else "/128")
    match net.parseCIDR text with
    | .error message => .error (Fault.plain ("invalid trusted proxy " ++ raw.quote ++ ": " ++ message))
    | .ok network => .ok (some network)

def trustedNetworks (net : NetText) : List String → Except Fault (List IPNet)
  | [] => .ok []
  | raw :: rest => do
      let network ← trustedProxy net raw
      let networks ← trustedNetworks net rest
      pure (network.toList ++ networks)

def newClientIPResolver (net : NetText) (trustedProxies : List String) :
    Except Fault ClientIPResolver := do
  let trusted ← trustedNetworks net trustedProxies
  pure { trusted := trusted }

def ClientIPResolver.trusts (resolver : ClientIPResolver) (ip : Option IP) : Bool :=
  match ip with
  | none => false
  | some ip => resolver.trusted.any (fun network => network.contains ip)

/-- The loop from the last entry to the first; the entries come in that order. -/
def ClientIPResolver.scan (net : NetText) (resolver : ClientIPResolver) (host : String) :
    List String → String
  | [] => host
  | entry :: rest =>
      let candidate := trimSpace entry
      if candidate = "" then resolver.scan net host rest
      else
        match net.parseIP candidate with
        | none => host
        | some parsed =>
            if resolver.trusts (some parsed) then resolver.scan net host rest else candidate

def peerHost (net : NetText) (peer : String) : String :=
  (net.splitHostPort peer).getD peer

def headerGet (lines : List String) : String :=
  lines.head?.getD ""

/-- `lines` are the values of `X-Forwarded-For`. -/
def ClientIPResolver.clientIP (net : NetText) (resolver : ClientIPResolver) (peer : String)
    (lines : List String) : String :=
  let host := peerHost net peer
  if resolver.trusts (net.parseIP host) then
    let forwarded := headerGet lines
    if forwarded = "" then host
    else resolver.scan net host (split ',' forwarded).reverse
  else host

end Mall
