import Mathlib

-- Python's `ipaddress`: addresses, networks, and the special-purpose ranges behind its predicates.
namespace IpAddress

structure Network (w : Nat) where
  address : BitVec w
  length : Nat

def Network.contains (network : Network w) (a : BitVec w) : Bool :=
  decide (a >>> (w - network.length) = network.address >>> (w - network.length))

section Subnets
variable {wide narrow : Network w} {a : BitVec w}

theorem contains_iff : narrow.contains a = true ↔ a >>> (w - narrow.length) = narrow.address >>> (w - narrow.length) := decide_eq_true_iff

-- An address of the narrower of two networks is in the wider one exactly when that network begins there.
theorem contains_narrow (longer : wide.length ≤ narrow.length) (fits : narrow.length ≤ w) (member : narrow.contains a = true) :
    wide.contains a = wide.contains narrow.address := by
  have split : w - wide.length = (w - narrow.length) + (narrow.length - wide.length) := by omega
  have same : a >>> (w - wide.length) = narrow.address >>> (w - wide.length) := by
    rw [split,BitVec.shiftRight_add,BitVec.shiftRight_add,contains_iff.mp member]
  unfold Network.contains
  rw [same]
end Subnets

def v4 (a b c d length : Nat) : Network 32 := ⟨BitVec.ofNat 32 (((a * 256 + b) * 256 + c) * 256 + d),length⟩

-- From the first groups of an address; the others are zero.
def v6 (groups : List Nat) (length : Nat) : Network 128 :=
  ⟨BitVec.ofNat 128 (groups.foldl (fun n group => n * 65536 + group) 0 * 65536 ^ (8 - groups.length)),length⟩

section V4
def linkLocalNetwork4 : Network 32 := v4 169 254 0 0 16

def loopbackNetwork4 : Network 32 := v4 127 0 0 0 8

def privateNetworks4 : List (Network 32) :=
  [v4 0 0 0 0 8,v4 10 0 0 0 8,v4 127 0 0 0 8,v4 169 254 0 0 16,v4 172 16 0 0 12,v4 192 0 0 0 24,v4 192 0 0 170 31,
    v4 192 0 2 0 24,v4 192 168 0 0 16,v4 198 18 0 0 15,v4 198 51 100 0 24,v4 203 0 113 0 24,v4 240 0 0 0 4,v4 255 255 255 255 32]

def privateNetworksExceptions4 : List (Network 32) := [v4 192 0 0 9 32,v4 192 0 0 10 32]

def reservedNetwork4 : Network 32 := v4 240 0 0 0 4

def isPrivate4 (a : BitVec 32) : Bool :=
  privateNetworks4.any (fun network => network.contains a) && privateNetworksExceptions4.all (fun network => !network.contains a)

theorem reserved_private {a : BitVec 32} (reserved : reservedNetwork4.contains a = true) : isPrivate4 a = true := by
  unfold isPrivate4
  rw [Bool.and_eq_true]
  constructor
  · rw [List.any_eq_true]
    exact ⟨reservedNetwork4,by simp [privateNetworks4,reservedNetwork4],reserved⟩
  · rw [List.all_eq_true]
    intro exception listed
    have apart : ∀ network ∈ privateNetworksExceptions4,
        reservedNetwork4.length ≤ network.length ∧ network.length ≤ 32 ∧ reservedNetwork4.contains network.address = false := by decide
    obtain ⟨longer,fits,outside⟩ := apart exception listed
    rw [Bool.not_eq_true']
    cases member : exception.contains a with
    | false => rfl
    | true => rw [← contains_narrow longer fits member,reserved] at outside; cases outside
end V4

section V6
def linkLocalNetwork6 : Network 128 := v6 [0xfe80] 10

def privateNetworks6 : List (Network 128) :=
  [v6 [0,0,0,0,0,0,0,1] 128,v6 [] 128,v6 [0,0,0,0,0,0xffff] 96,v6 [0x64,0xff9b,1] 48,v6 [0x100] 64,v6 [0x2001] 23,
    v6 [0x2001,0xdb8] 32,v6 [0x2002] 16,v6 [0x3fff] 20,v6 [0xfc00] 7,v6 [0xfe80] 10]

def privateNetworksExceptions6 : List (Network 128) :=
  [v6 [0x2001,1,0,0,0,0,0,1] 128,v6 [0x2001,1,0,0,0,0,0,2] 128,v6 [0x2001,3] 32,v6 [0x2001,4,0x112] 48,v6 [0x2001,0x20] 28,
    v6 [0x2001,0x30] 28]

def reservedNetworks6 : List (Network 128) :=
  [v6 [] 8,v6 [0x100] 8,v6 [0x200] 7,v6 [0x400] 6,v6 [0x800] 5,v6 [0x1000] 4,v6 [0x4000] 3,v6 [0x6000] 3,v6 [0x8000] 3,
    v6 [0xa000] 3,v6 [0xc000] 3,v6 [0xe000] 4,v6 [0xf000] 5,v6 [0xf800] 6,v6 [0xfe00] 9]

def ipv4Mapped (a : BitVec 128) : Option (BitVec 32) := if a >>> 32 = 0xffff then some (a.setWidth 32) else none
end V6

-- A scope identifier is left out: no predicate reads it.
inductive Address where
  | v4 (a : BitVec 32)
  | v6 (a : BitVec 128)
  deriving DecidableEq

-- The predicates of an IPv6 address that maps an IPv4 one are those of the IPv4 address.
def Address.isPrivate : Address → Bool
  | .v4 a => isPrivate4 a
  | .v6 a =>
    match ipv4Mapped a with
    | some mapped => isPrivate4 mapped
    | none => privateNetworks6.any (fun network => network.contains a) && privateNetworksExceptions6.all (fun network => !network.contains a)

def Address.isLoopback : Address → Bool
  | .v4 a => loopbackNetwork4.contains a
  | .v6 a =>
    match ipv4Mapped a with
    | some mapped => loopbackNetwork4.contains mapped
    | none => decide (a = 1)

def Address.isLinkLocal : Address → Bool
  | .v4 a => linkLocalNetwork4.contains a
  | .v6 a =>
    match ipv4Mapped a with
    | some mapped => linkLocalNetwork4.contains mapped
    | none => linkLocalNetwork6.contains a

def Address.isReserved : Address → Bool
  | .v4 a => reservedNetwork4.contains a
  | .v6 a =>
    match ipv4Mapped a with
    | some mapped => reservedNetwork4.contains mapped
    | none => reservedNetworks6.any (fun network => network.contains a)

section Mapped
variable {a : BitVec 128} {mapped : BitVec 32}

theorem isPrivate_mapped (embeds : ipv4Mapped a = some mapped) : (Address.v6 a).isPrivate = (Address.v4 mapped).isPrivate := by
  simp only [Address.isPrivate,embeds]

theorem isLoopback_mapped (embeds : ipv4Mapped a = some mapped) : (Address.v6 a).isLoopback = (Address.v4 mapped).isLoopback := by
  simp only [Address.isLoopback,embeds]

theorem isLinkLocal_mapped (embeds : ipv4Mapped a = some mapped) : (Address.v6 a).isLinkLocal = (Address.v4 mapped).isLinkLocal := by
  simp only [Address.isLinkLocal,embeds]

theorem isReserved_mapped (embeds : ipv4Mapped a = some mapped) : (Address.v6 a).isReserved = (Address.v4 mapped).isReserved := by
  simp only [Address.isReserved,embeds]

-- An address in a network that a reserved one contains.
theorem isReserved_within (network reserved : Network 128) (unmapped : ipv4Mapped a = none) (listed : reserved ∈ reservedNetworks6)
    (longer : reserved.length ≤ network.length) (fits : network.length ≤ 128) (inside : reserved.contains network.address = true)
    (member : network.contains a = true) : (Address.v6 a).isReserved = true := by
  simp only [Address.isReserved,unmapped]
  rw [List.any_eq_true]
  exact ⟨reserved,listed,(contains_narrow longer fits member).trans inside⟩
end Mapped

end IpAddress
