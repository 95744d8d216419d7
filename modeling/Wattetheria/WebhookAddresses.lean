import Wattetheria.EventService

/-!
# Where webhooks are sent

The callback of a subscription names any host, and the client is pinned to the addresses of
that host when `public_address` accepts them all.  The filter is compared with the registries of
special addresses, block by block, and with the ways an IPv6 address embeds an IPv4 address.
-/

namespace WattAddresses

open WattText WattWebhooks List

/-! ## The filter -/

/-- An IPv4 address. -/
structure Ipv4Addr where
  (a b c d : UInt8)

/-- The segments of the address. -/
structure Ipv6Addr where
  (s₀ s₁ s₂ s₃ s₄ s₅ s₆ s₇ : UInt16)

/-- An address. -/
inductive IpAddr where
  | v4 (ip : Ipv4Addr)
  | v6 (ip : Ipv6Addr)

/-- The address of two segments. -/
def ofSegments (high low : UInt16) : Ipv4Addr :=
  ⟨(high >>> 8).toUInt8, high.toUInt8, (low >>> 8).toUInt8, low.toUInt8⟩

/-- The IPv4 address of `::ffff:0:0/96`. -/
def toIpv4Mapped : Ipv6Addr → Option Ipv4Addr
  | ⟨0, 0, 0, 0, 0, 0xffff, high, low⟩ => some (ofSegments high low)
  | _ => none

/-- The filter for IPv4. -/
def publicIpv4 : Ipv4Addr → Bool
  | ⟨a, b, c, d⟩ =>
    !(a = 10 || a = 172 && 16 ≤ b && b ≤ 31 || a = 192 && b = 168)  -- `is_private`
      && !(a = 127)  -- `is_loopback`
      && !(a = 169 && b = 254)  -- `is_link_local`
      && !(a = 192 && b = 0 && c = 2 || a = 198 && b = 51 && c = 100
        || a = 203 && b = 0 && c = 113)  -- `is_documentation`
      && !(a = 255 && b = 255 && c = 255 && d = 255)  -- `is_broadcast`
      && !(a = 0 && b = 0 && c = 0 && d = 0)  -- `is_unspecified`
      && !(224 ≤ a && a ≤ 239)  -- `is_multicast`
      && a ≠ 0
      && a < 224
      && !(a = 100 && 64 ≤ b && b ≤ 127)
      && !(a = 198 && (b = 18 || b = 19))
      && !(a = 192 && b = 0 && c = 0)
      && !(a = 192 && b = 88 && c = 99)

/-- The filter. -/
def publicAddress : IpAddr → Bool
  | .v4 ip => publicIpv4 ip
  | .v6 ip =>
    match toIpv4Mapped ip with
    | some v4 => publicIpv4 v4
    | none =>
      ip.s₀ &&& 0xe000 = 0x2000
        && !(ip.s₀ = 0x2001 && ip.s₁ = 0xdb8)
        && !(ip.s₀ = 0x2001 && ip.s₁ < 0x200)
        && ip.s₀ ≠ 0x2002
        && !(ip.s₀ = 0x3fff && ip.s₁ < 0x1000)

/-! ## The client -/

/-- A parsed url. -/
structure Url where
  (scheme username : String)
  (password fragment hostStr : Option String)
  portOrKnownDefault : Option UInt16

/-- The parsers of `url` and `std`, the resolver and whether `reqwest` builds a client. -/
structure Net where
  parseUrl : String → Option Url
  parseIp : String → Option IpAddr
  lookupHost : String → UInt16 → Option (List (IpAddr × UInt16))
  builds : String → List (IpAddr × UInt16) → Bool

variable (net : Net) (rawUrl : String)

def refuseIf (c : Bool) : Except WebhookFailure Unit := if c then .error .invalidUrl else .ok ()

def orFail {α : Type} (failure : WebhookFailure) : Option α → Except WebhookFailure α
  | some a => .ok a
  | none => .error failure

/-- The parsed URL, without credentials and fragment and of one of the schemes. -/
def plainUrl (schemes : List String) : Except WebhookFailure Url := do
  let url ← orFail .invalidUrl (net.parseUrl rawUrl)
  refuseIf (url.scheme ∉ schemes || !isEmpty url.username || url.password.isSome
    || url.fragment.isSome)
  return url

/-- What is asked of a callback. -/
def validateCallbackUrl : Except WebhookFailure Unit := do
  let url ← plainUrl net rawUrl ["https"]
  let host ← orFail .invalidUrl url.hostStr
  refuseIf (eqIgnoreAsciiCase (String.ofList (host.toList.rdropWhile (· = '.'))) "localhost")
  let bracket (c : Char) : Bool := c ∈ ['[', ']']
  let trimmed := String.ofList ((host.toList.dropWhile bracket).rdropWhile bracket)
  refuseIf ((net.parseIp trimmed).any (!publicAddress ·))

/-- The text between a pair of brackets, or the host. -/
def ipHost (host : String) : String :=
  match host.toList with
  | '[' :: rest => if rest.getLast? = some ']' then String.ofList rest.dropLast else host
  | _ => host

/-- The addresses `client_for_destination` finds for the host. -/
def destinations (publicOnly : Bool) :
    Except WebhookFailure (String × List (IpAddr × UInt16)) := do
  if publicOnly then validateCallbackUrl net rawUrl
  let url ← plainUrl net rawUrl ["http", "https"]
  let host ← orFail .invalidUrl url.hostStr
  let port ← orFail .invalidUrl url.portOrKnownDefault
  match net.parseIp (ipHost host) with
  | some ip => return (host, [(ip, port)])
  | none =>
    refuseIf (host.toList.head? = some '[')
    return (host, ← orFail .transport (net.lookupHost host port))

/-- The addresses the client is pinned to. -/
def clientForDestination (publicOnly : Bool) :
    Except WebhookFailure (List (IpAddr × UInt16)) := do
  let (host, addresses) ← destinations net rawUrl publicOnly
  if addresses.isEmpty then .error .transport
  else if publicOnly && addresses.any (!publicAddress ·.1) then .error .invalidUrl
  else if net.builds host addresses then .ok addresses
  else .error .transport

/-- The addresses a callback is pinned to. -/
def subscriptionClient : Except WebhookFailure (List (IpAddr × UInt16)) := do
  validateCallbackUrl net rawUrl
  clientForDestination net rawUrl true

/-! ## The registries -/

/-- The parts of an address are in the ranges of the block, which may leave the last ones free. -/
def InBlock {α : Type} [LE α] (parts : List α) (block : List (α × α)) : Prop :=
  ∀ p ∈ parts.zip block, p.2.1 ≤ p.1 ∧ p.1 ≤ p.2.2

/-- This network, private, shared, loopback, link-local, protocol assignments, documentation,
6to4 relays, benchmarking, multicast and reserved. -/
def specialIpv4 : List (List (UInt8 × UInt8)) :=
  [[(0, 0)], [(10, 10)], [(100, 100), (64, 127)], [(127, 127)], [(169, 169), (254, 254)],
    [(172, 172), (16, 31)], [(192, 192), (0, 0), (0, 0)], [(192, 192), (0, 0), (2, 2)],
    [(192, 192), (88, 88), (99, 99)], [(192, 192), (168, 168)], [(198, 198), (18, 19)],
    [(198, 198), (51, 51), (100, 100)], [(203, 203), (0, 0), (113, 113)], [(224, 239)],
    [(240, 255)]]

/-- What is no global unicast (unspecified, loopback, discard-only, segment routing, unique
local, link-local and multicast among it), protocol assignments, documentation and 6to4. -/
def specialIpv6 : List (List (UInt16 × UInt16)) :=
  [[(0, 0x1fff)], [(0x4000, 0xffff)], [(0x2001, 0x2001), (0, 0x1ff)],
    [(0x2001, 0x2001), (0xdb8, 0xdb8)], [(0x2002, 0x2002)], [(0x3fff, 0x3fff), (0, 0xfff)]]

/-- The IPv4 addresses in the address: compatible, mapped, NAT64, 6to4 and Teredo, which has the
server and the complement of the client. -/
def embedded : Ipv6Addr → List Ipv4Addr
  | ⟨0, 0, 0, 0, 0, 0, high, low⟩
  | ⟨0, 0, 0, 0, 0, 0xffff, high, low⟩
  | ⟨0x64, 0xff9b, _, _, _, _, high, low⟩
  | ⟨0x2002, high, low, _, _, _, _, _⟩ => [ofSegments high low]
  | ⟨0x2001, 0, high, low, _, _, high', low'⟩ =>
    [ofSegments high low, ofSegments (~~~high') (~~~low')]
  | _ => []

/-- In no special block. -/
def ReachableIpv4 (ip : Ipv4Addr) : Prop :=
  ∀ block ∈ specialIpv4, ¬ InBlock [ip.a, ip.b, ip.c, ip.d] block

/-- Global, and so is what it embeds. -/
def Reachable : IpAddr → Prop
  | .v4 ip => ReachableIpv4 ip
  | .v6 ip => (∀ v4 ∈ embedded ip, ReachableIpv4 v4)
    ∧ ((toIpv4Mapped ip).isSome ∨ ∀ block ∈ specialIpv6, ¬ InBlock [ip.s₀, ip.s₁] block)

lemma reachable_of_publicIpv4 {ip : Ipv4Addr} (h : publicIpv4 ip = true) : ReachableIpv4 ip := by
  simp only [publicIpv4, Bool.and_eq_true, Bool.not_eq_true', Bool.or_eq_false_iff,
    Bool.and_eq_false_iff, decide_eq_false_iff_not, decide_eq_true_eq] at h
  simp only [ReachableIpv4, specialIpv4, InBlock, forall_mem_cons, not_mem_nil,
    false_implies, implies_true, and_true, zip_cons_cons, zip_nil_right]
  and_intros <;> grind

lemma global_of_mask {s : UInt16} (h : s &&& 0xe000 = 0x2000) : 0x2000 ≤ s ∧ s ≤ 0x3fff := by
  have hmask : s.toNat >>> 13 &&& 2 ^ 3 - 1 = 1 :=
    (Nat.shiftRight_and_distrib ..).symm.trans (congrArg (·.toNat >>> 13) h)
  rw [Nat.and_two_pow_sub_one_eq_mod, Nat.shiftRight_eq_div_pow] at hmask
  have hlt := s.toNat_lt
  constructor <;> rw [UInt16.le_iff_toNat_le] <;> simp <;> omega

lemma reachable_of_publicAddress {ip : IpAddr} (h : publicAddress ip = true) : Reachable ip := by
  cases ip with
  | v4 ip => exact reachable_of_publicIpv4 h
  | v6 ip =>
    simp only [publicAddress] at h
    cases hmapped : toIpv4Mapped ip with
    | some v4 =>
      rw [hmapped] at h
      have hreach := reachable_of_publicIpv4 h
      refine ⟨?_, .inl (by rw [hmapped]; rfl)⟩
      unfold toIpv4Mapped at hmapped
      split at hmapped
      · cases hmapped
        simpa [embedded] using hreach
      · cases hmapped
    | none =>
      rw [hmapped] at h
      simp only [Bool.and_eq_true, Bool.not_eq_true', Bool.and_eq_false_iff,
        decide_eq_false_iff_not, decide_eq_true_eq] at h
      obtain ⟨⟨⟨⟨hmask, hdoc⟩, hassigned⟩, hsixToFour⟩, hdoc'⟩ := h
      obtain ⟨hlow, hhigh⟩ := global_of_mask hmask
      constructor
      · -- every form that embeds an address is outside the accepted segments
        unfold embedded
        split <;> grind
      · right
        simp only [specialIpv6, InBlock, forall_mem_cons, not_mem_nil,
          false_implies, implies_true, and_true, zip_cons_cons, zip_nil_right]
        and_intros <;> grind

/-- A client is pinned to all the addresses of the host, and each one is reachable. -/
theorem pinned_reachable {pinned : List (IpAddr × UInt16)}
    (h : subscriptionClient net rawUrl = .ok pinned) :
    (∃ host, destinations net rawUrl true = .ok (host, pinned))
      ∧ ∀ address ∈ pinned, Reachable address.1 := by
  unfold subscriptionClient clientForDestination at h
  cases hvalid : validateCallbackUrl net rawUrl with
  | error failure => simp [hvalid, bind, Except.bind] at h
  | ok u =>
    cases hfound : destinations net rawUrl true with
    | error failure => simp [hvalid, hfound, bind, Except.bind] at h
    | ok found =>
      obtain ⟨host, addresses⟩ := found
      simp only [hvalid, hfound, bind, Except.bind, Bool.true_and] at h
      split_ifs at h with hempty hbad hbuilds
      cases h
      refine ⟨⟨host, rfl⟩, fun address haddress => reachable_of_publicAddress ?_⟩
      by_contra hclosed
      exact hbad (any_eq_true.2 ⟨address, haddress, by simpa using hclosed⟩)

/-- A name with an address of each family. -/
def twoAnswers : Net where
  parseUrl _ := some ⟨"https", "", none, none, some "agent.example", some 443⟩
  parseIp _ := none
  lookupHost _ port :=
    some [(.v4 ⟨8, 8, 8, 8⟩, port), (.v6 ⟨0x2606, 0x4700, 0, 0, 0, 0, 0, 0x1111⟩, port)]
  builds _ _ := true

theorem pinned_reachable_twoAnswers :
    ∃ pinned, subscriptionClient twoAnswers "https://agent.example/" = .ok pinned
      ∧ ∀ address ∈ pinned, Reachable address.1 :=
  ⟨_, rfl, (pinned_reachable twoAnswers "https://agent.example/" rfl).2⟩

end WattAddresses
