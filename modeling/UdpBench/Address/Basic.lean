namespace UdpBench

abbrev Port := UInt16

structure Ipv4 where
  a : UInt8
  b : UInt8
  c : UInt8
  d : UInt8
  deriving DecidableEq, Repr

structure Ipv6 where
  groups : List UInt16
  length_groups : groups.length = 8 := by rfl
  deriving DecidableEq

/-- An endpoint. The scope of an IPv6 one names an interface and is 0 where none is meant. -/
inductive Address
  | v4 (ip : Ipv4) (port : Port)
  | v6 (ip : Ipv6) (port : Port) (scope : UInt32)
  deriving DecidableEq

namespace Ipv4

def localhost : Ipv4 := ⟨127, 0, 0, 1⟩

def unspecified : Ipv4 := ⟨0, 0, 0, 0⟩

def broadcast : Ipv4 := ⟨255, 255, 255, 255⟩

/-- Every address whose first octet is 127 belongs to the loopback interface. -/
def isLoopback (ip : Ipv4) : Bool := ip.a == 127

def isMulticast (ip : Ipv4) : Bool := 224 ≤ ip.a && ip.a < 240

end Ipv4

namespace Ipv6

def ofGroups? (groups : List UInt16) : Option Ipv6 :=
  if h : groups.length = 8 then some ⟨groups, h⟩ else none

def unspecified : Ipv6 := ⟨[0, 0, 0, 0, 0, 0, 0, 0], rfl⟩

def localhost : Ipv6 := ⟨[0, 0, 0, 0, 0, 0, 0, 1], rfl⟩

/-- The two groups that hold an IPv4 address. -/
def quadGroups (ip : Ipv4) : List UInt16 :=
  [ip.a.toUInt16 * 256 + ip.b.toUInt16, ip.c.toUInt16 * 256 + ip.d.toUInt16]

/-- The inverse of `quadGroups`. -/
def quad (hi lo : UInt16) : Ipv4 :=
  ⟨(hi / 256).toUInt8, (hi % 256).toUInt8, (lo / 256).toUInt8, (lo % 256).toUInt8⟩

/-- An IPv4 address as an IPv6 one: `::ffff:a.b.c.d`. -/
def mapped (ip : Ipv4) : Ipv6 := ⟨[0, 0, 0, 0, 0, 0xffff] ++ quadGroups ip, rfl⟩

/-- The IPv4 address that an IPv6 address maps. -/
def mapped? (ip : Ipv6) : Option Ipv4 :=
  match ip.groups with
  | [0, 0, 0, 0, 0, 0xffff, hi, lo] => some (quad hi lo)
  | _ => none

end Ipv6

namespace Address

def port : Address → Port
  | v4 _ port => port
  | v6 _ port _ => port

/-- IPv4 has no scopes. -/
def scope : Address → UInt32
  | v4 .. => 0
  | v6 _ _ scope => scope

def withPort : Address → Port → Address
  | v4 ip _, port => v4 ip port
  | v6 ip _ scope, port => v6 ip port scope

def isV6 : Address → Bool
  | v4 .. => false
  | v6 .. => true

/-- The address of the same family that stands for every interface, with a port to be chosen. -/
def unspecifiedLike : Address → Address
  | v4 .. => v4 .unspecified 0
  | v6 .. => v6 .unspecified 0 0

/-- The loopback address of the same family, with a port to be chosen. -/
def localhostLike : Address → Address
  | v4 .. => v4 .localhost 0
  | v6 .. => v6 .localhost 0 0

end Address

end UdpBench
