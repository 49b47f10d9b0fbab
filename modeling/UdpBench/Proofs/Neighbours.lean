import UdpBench.Proofs.Operations

namespace UdpBench

namespace Ipv4

/-- What is shown as a source is an address of the interface itself. -/
theorem sourceOf_mem (ip : Ipv4) :
    ip.sourceOf.isLoopback = true ∧ ip.sourceOf ≠ loopbackBroadcast := by
  unfold sourceOf
  split
  · rename_i h
    simpa [isSource] using h
  · decide

theorem sourceOf_sourceOf (ip : Ipv4) : ip.sourceOf.sourceOf = ip.sourceOf := by
  obtain ⟨hloopback, hne⟩ := ip.sourceOf_mem
  rw [sourceOf, if_pos (by simp [isSource, hloopback, hne])]

theorem ne_of_isLoopback {ip : Ipv4} (h : ip.isLoopback = true) :
    ip ≠ unspecified ∧ ip ≠ broadcast := by
  constructor <;> rintro rfl <;> cases h

end Ipv4

namespace Address

/-- What a socket bound to an address shows as its own on the loopback interface. -/
def onLoopback : Address → Address
  | v4 ip port => v4 ip.sourceOf port
  | v6 _ port _ => v6 .localhost port 0

/-- A socket bound to the address gets what is sent to the address that it shows. -/
def IsAnswered (a : Address) : Prop := a.receives a.onLoopback = true

@[simp] theorem onLoopback_onLoopback (a : Address) : a.onLoopback.onLoopback = a.onLoopback := by
  cases a with
  | v4 ip port => rw [onLoopback, onLoopback, Ipv4.sourceOf_sourceOf]
  | v6 => rfl

@[simp] theorem isV6_onLoopback (a : Address) : a.onLoopback.isV6 = a.isV6 := by
  cases a <;> rfl

@[simp] theorem port_onLoopback (a : Address) : a.onLoopback.port = a.port := by
  cases a <;> rfl

theorem receives_self (a : Address) : a.receives a = true := by
  simp [receives, Ip.covers_self]

theorem shownTo_eq {own a : Address} (h : own.isV6 = a.isV6) : own.shownTo a = a := by
  cases a with
  | v4 ip port =>
    have hown : own.isV6 = false := h
    simp [shownTo, hown]
  | v6 => rfl

/-- A socket of IPv6 that is answered at its loopback address has not an IPv4 address in disguise. -/
theorem IsAnswered.mapped?_eq_none {ip : Ipv6} {port : Port} {scope : UInt32}
    (h : (v6 ip port scope).IsAnswered) : ip.mapped? = none := by
  have hlocalhost : Ipv6.localhost.mapped? = none := rfl
  cases hm : ip.mapped? with
  | none => rfl
  | some inner => simp [IsAnswered, receives, onLoopback, Address.ip, hm, hlocalhost, Ip.covers] at h

end Address

theorem Network.sizeLimit_congr {a b : Address} (h : a.isV6 = b.isV6) :
    sizeLimit a = sizeLimit b := by
  cases a <;> cases b <;> first | rfl | cases h

section Neighbours

variable {own target : Address}

/-- Between addresses of the loopback interface there is a way. -/
theorem Path.between_loopback (hown : own.IsAnswered) (htarget : target.onLoopback = target)
    (hfamily : own.isV6 = target.isV6) : ∃ path, Path.between own target = .ok path ∧
      Loopback.up.flowTo own target path = .ok ⟨own.onLoopback, target⟩ := by
  cases own with
  | v4 own port =>
    cases target with
    | v6 => cases hfamily
    | v4 ip port' =>
      have hsource : ip.sourceOf = ip := (Address.v4.inj htarget).1
      obtain ⟨hloopback, hcast⟩ := hsource ▸ ip.sourceOf_mem
      obtain ⟨hsome, hbroad⟩ := Ipv4.ne_of_isLoopback hloopback
      refine ⟨.v4 own ip, rfl, ?_⟩
      simp [Loopback.flowTo, Loopback.resolveV4, Loopback.reachV4, hsome, hbroad, hcast, hloopback,
        Loopback.flowV4, Address.onLoopback, Address.port, Bind.bind, Except.bind, pure,
        Except.pure]
  | v6 own port scope =>
    cases target with
    | v4 => cases hfamily
    | v6 ip port' scope' =>
      obtain ⟨rfl, _, rfl⟩ := Address.v6.inj htarget
      refine ⟨.v6 own .localhost 0, ?_, rfl⟩
      have hlocalhost : Ipv6.localhost.mapped? = none := rfl
      simp only [Path.between, hlocalhost, hown.mapped?_eq_none]

theorem Emission.flow?_loopback (hown : own.IsAnswered) (htarget : target.onLoopback = target)
    (hfamily : own.isV6 = target.isV6) (bytes : Bytes) :
    flow? ⟨own, target, bytes⟩ = some ⟨own.onLoopback, target⟩ := by
  obtain ⟨path, hpath, hflow⟩ := Path.between_loopback hown htarget hfamily
  simp [flow?, hpath, hflow, Except.toOption]

namespace Network

variable {net : Network}

theorem checkLength_eq_ok {isV4 : Bool} {bytes : Bytes} (h : bytes.length ≤ 65535) :
    checkLength isV4 bytes = .ok () := by
  simp [checkLength, Nat.not_lt.mpr h]

/-- What is not too long gets from one address of the loopback interface to another. -/
theorem sendTo_loopback (hup : net.loopback = .up) (hown : own.IsAnswered)
    (htarget : target.onLoopback = target) (hfamily : own.isV6 = target.isV6)
    (hport : target.port ≠ 0) {bytes : Bytes} (hlen : bytes.length ≤ sizeLimit target) :
    net.sendTo own target bytes =
      .ok (bytes.length, net.deliver ⟨own.onLoopback, target⟩ bytes) := by
  obtain ⟨path, hpath, hflow⟩ := Path.between_loopback hown htarget hfamily
  have hshort : bytes.length ≤ 65535 :=
    Nat.le_trans hlen (Nat.le_trans (sizeLimit_le target) (by decide))
  have hcheck : checkPort target = .ok () := by simp [checkPort, hport]
  simp only [sendTo, checkLength_eq_ok hshort, hpath, hcheck, hup, hflow, transmit,
    Nat.not_lt.mpr hlen, Bind.bind, Except.bind, ↓reduceIte]

/-- What is too long does not. -/
theorem sendTo_too_long (hup : net.loopback = .up) (hown : own.IsAnswered)
    (htarget : target.onLoopback = target) (hfamily : own.isV6 = target.isV6)
    {bytes : Bytes} (hlen : sizeLimit target < bytes.length) :
    ∃ cause, net.sendTo own target bytes = .error cause := by
  cases hsent : net.sendTo own target bytes with
  | error cause => exact ⟨cause, rfl⟩
  | ok sent =>
    obtain ⟨flow, hflow, _, hle, _⟩ := sendTo_eq_ok hsent
    obtain rfl := Option.some.inj
      ((hflow hup).symm.trans (Emission.flow?_loopback hown htarget hfamily bytes))
    exact absurd hle (Nat.not_le_of_lt hlen)

end Network

end Neighbours

end UdpBench
