import Mathlib.Algebra.Group.Nat.Defs
import NewsCraft.Core.UrlQuery
import NewsCraft.Core.UuidText

/-!
# Addresses and networks

`ip_address` and `ip_network` of the `ipaddress` module: how an address is read and written,
which networks it lies in, and which addresses are global.
-/

namespace NewsCraft.Ip

open Urls

inductive IpAddress where
  | v4 (ip : BitVec 32)
  | v6 (ip : BitVec 128) (scopeId : Option Text)
  deriving DecidableEq

/-! ## Reading an address -/

/-- `int(digits)`, of ASCII digits. -/
def decimal (digits : Text) : Option Nat :=
  if digits ≠ [] ∧ digits.all Char.isDigit = true then
    some (digits.foldl (fun value c => 10 * value + (c.toNat - 48)) 0)
  else
    none

/-- `IPv4Address._parse_octet`. -/
def parseOctet (octet : Text) : Option Nat :=
  if octet.length ≤ 3 ∧ (octet = ['0'] ∨ octet.head? ≠ some '0') then
    (decimal octet).filter (· ≤ 255)
  else
    none

/-- `IPv4Address(text)`. -/
def parseIpv4 (text : Text) : Option (BitVec 32) :=
  match split '.' text with
  | [a, b, c, d] => do
      let a ← parseOctet a
      let b ← parseOctet b
      let c ← parseOctet c
      let d ← parseOctet d
      some (BitVec.ofNat 32 (((a * 256 + b) * 256 + c) * 256 + d))
  | _ => none

/-- `'%x' % n`. -/
def hexText (n : Nat) : Text := Nat.toDigits 16 n

/-- `IPv6Address._parse_hextet`. -/
def parseHextet (hextet : Text) : Option Nat :=
  if hextet ≠ [] ∧ hextet.length ≤ 4 then hexNumber hextet else none

def parseHextets (parts : List Text) : Option (List Nat) := parts.mapM parseHextet

/-- The parts between colons, with an address of the older kind at the end written as two. -/
def hextetParts (text : Text) : Option (List Text) :=
  let parts := split ':' text
  if parts.length < 3 then none
  else
    let last := parts.getLastD []
    if '.' ∈ last then
      (parseIpv4 last).map fun ip =>
        parts.dropLast ++ [hexText (ip.toNat / 65536), hexText (ip.toNat % 65536)]
    else
      some parts

/-- The empty parts that are neither the first nor the last. -/
def skippedAt (parts : List Text) : List Nat :=
  (List.range parts.length).filter fun i =>
    0 < i && i + 1 < parts.length && parts[i]? == some []

/-- What a run of zeros stands next to: an empty part at the end of the address belongs to
the run. -/
def atEnd (parts : List Text) (outer : Option Text) : Option (List Nat) :=
  if outer = some [] then
    if parts.length = 1 then some [] else none
  else
    parseHextets parts

def hextets (parts : List Text) : Option (List Nat) :=
  match skippedAt parts with
  | [] => if parts.length = 8 then parseHextets parts else none
  | [i] => do
      let high ← atEnd (parts.take i) parts.head?
      let low ← atEnd (parts.drop (i + 1)) parts.getLast?
      let skipped := 8 - (high.length + low.length)
      if 1 ≤ skipped then some (high ++ List.replicate skipped 0 ++ low) else none
  | _ => none

/-- `IPv6Address._ip_int_from_string`. -/
def ipv6Value (text : Text) : Option (BitVec 128) := do
  let parts ← hextetParts text
  if 9 < parts.length then none
  else
    let values ← hextets parts
    some (BitVec.ofNat 128 (values.foldl (fun value hextet => 65536 * value + hextet) 0))

/-- `IPv6Address(text)`. -/
def parseIpv6 (text : Text) : Option (BitVec 128 × Option Text) :=
  if '/' ∈ text then none
  else if '%' ∈ text then
    let scopeId := after '%' text
    if scopeId = [] ∨ '%' ∈ scopeId then none
    else (ipv6Value (before '%' text)).map fun ip => (ip, some scopeId)
  else
    (ipv6Value text).map fun ip => (ip, none)

/-- `ip_address(text)`; `none` where it raises `ValueError`. -/
def ipAddress (text : Text) : Option IpAddress :=
  match parseIpv4 text with
  | some ip => some (.v4 ip)
  | none => (parseIpv6 text).map fun address => .v6 address.1 address.2

/-! ## Writing an address -/

def decimalText (n : Nat) : Text := Nat.toDigits 10 n

def ipv4Text (ip : BitVec 32) : Text :=
  join '.' ([24, 16, 8, 0].map fun shift => decimalText (ip.toNat / 2 ^ shift % 256))

/-- The longest run of zeros, and the first of several: where it starts and how long it is. -/
def longestRun (values : List Nat) : Nat × Nat :=
  let runs := (List.range values.length).map fun start =>
    (start, ((values.drop start).takeWhile (· = 0)).length)
  runs.foldl (fun best run => if best.2 < run.2 then run else best) (0, 0)

/-- `_compress_hextets`, with the colons. -/
def compress (values : List Nat) : Text :=
  let (start, length) := longestRun values
  if 1 < length then
    join ':' ((values.take start).map hexText) ++ ':' :: ':' ::
      join ':' ((values.drop (start + length)).map hexText)
  else
    join ':' (values.map hexText)

/-- `ipv4_mapped`. -/
def ipv4Mapped (ip : BitVec 128) : Option (BitVec 32) :=
  if ip.toNat / 2 ^ 32 = 0xffff then some (BitVec.ofNat 32 ip.toNat) else none

def ipv6Text (ip : BitVec 128) : Text :=
  match ipv4Mapped ip with
  | some mapped => "::ffff:".toList ++ ipv4Text mapped
  | none => compress ((List.range 8).map fun i => ip.toNat / 2 ^ (16 * (7 - i)) % 65536)

/-- `str(address)`. -/
def ipText : IpAddress → Text
  | .v4 ip => ipv4Text ip
  | .v6 ip none => ipv6Text ip
  | .v6 ip (some scopeId) => ipv6Text ip ++ '%' :: scopeId

/-! ## Networks -/

inductive IpNetwork where
  | v4 (networkAddress netmask : BitVec 32)
  | v6 (networkAddress netmask : BitVec 128)
  deriving DecidableEq

/-- `_ip_int_from_prefix`. -/
def netmask (width prefixlen : Nat) : BitVec width := BitVec.allOnes width <<< (width - prefixlen)

/-- `_prefix_from_prefix_string`. -/
def parsePrefix (width : Nat) (text : Text) : Option Nat := (decimal text).filter (· ≤ width)

/-- `_prefix_from_ip_string`: a netmask, or else a hostmask. -/
def prefixOfMask (text : Text) : Option Nat := do
  let ip ← parseIpv4 text
  ((List.range 33).find? fun n => netmask 32 n = ip).or
    ((List.range 33).find? fun n => netmask 32 n = ~~~ip)

/-- `IPv4Network(text, strict=False)`, of an address and what follows the slash. -/
def ipv4Network (address mask : Text) : Option IpNetwork := do
  let ip ← parseIpv4 address
  let length ← (parsePrefix 32 mask).or (prefixOfMask mask)
  some (.v4 (ip &&& netmask 32 length) (netmask 32 length))

/-- `IPv6Network(text, strict=False)`. -/
def ipv6Network (address mask : Text) : Option IpNetwork := do
  let (ip, _) ← parseIpv6 address
  let length ← parsePrefix 128 mask
  some (.v6 (ip &&& netmask 128 length) (netmask 128 length))

/-- `ip_network(text, strict=False)`, of a text with a slash. -/
def ipNetwork (text : Text) : Option IpNetwork :=
  match split '/' text with
  | [address, mask] => (ipv4Network address mask).or (ipv6Network address mask)
  | _ => none

/-- `address in network`. -/
def IpNetwork.contains : IpNetwork → IpAddress → Bool
  | .v4 networkAddress netmask, .v4 ip => ip &&& netmask == networkAddress
  | .v6 networkAddress netmask, .v6 ip _ => ip &&& netmask == networkAddress
  | _, _ => false

/-! ## Global addresses -/

def networks (texts : List String) : List IpNetwork :=
  texts.filterMap fun text => ipNetwork text.toList

/-- `_public_network`, the shared address space. -/
def sharedNetworks : List IpNetwork := networks ["100.64.0.0/10"]

/-- `_private_networks`, of both kinds. -/
def privateNetworks : List IpNetwork :=
  networks
    ["0.0.0.0/8", "10.0.0.0/8", "127.0.0.0/8", "169.254.0.0/16", "172.16.0.0/12", "192.0.0.0/24",
      "192.0.0.170/31", "192.0.2.0/24", "192.168.0.0/16", "198.18.0.0/15", "198.51.100.0/24",
      "203.0.113.0/24", "240.0.0.0/4", "255.255.255.255/32",
      "::1/128", "::/128", "::ffff:0:0/96", "64:ff9b:1::/48", "100::/64", "2001::/23",
      "2001:db8::/32", "2002::/16", "3fff::/20", "fc00::/7", "fe80::/10"]

/-- `_private_networks_exceptions`, of both kinds. -/
def privateExceptions : List IpNetwork :=
  networks ["192.0.0.9/32", "192.0.0.10/32", "2001:1::1/128", "2001:1::2/128", "2001:3::/32",
      "2001:4:112::/48", "2001:20::/28", "2001:30::/28"]

def inAny (networks : List IpNetwork) (address : IpAddress) : Bool :=
  networks.any fun network => network.contains address

/-- `is_private`, of an address that is not mapped. -/
def isPrivate (address : IpAddress) : Bool :=
  inAny privateNetworks address && !inAny privateExceptions address

/-- `is_global`, of an address that is not mapped. -/
def isGlobalPlain (address : IpAddress) : Bool :=
  !inAny sharedNetworks address && !isPrivate address

/-- The address that is meant: of a mapped address the older one. -/
def IpAddress.unmapped : IpAddress → IpAddress
  | .v4 ip => .v4 ip
  | .v6 ip scopeId =>
    match ipv4Mapped ip with
    | some mapped => .v4 mapped
    | none => .v6 ip scopeId

/-- `is_global`. -/
def isGlobal (address : IpAddress) : Bool := isGlobalPlain address.unmapped

end NewsCraft.Ip
