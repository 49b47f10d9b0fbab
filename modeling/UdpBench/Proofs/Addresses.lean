import UdpBench.Network.Basic

namespace UdpBench

theorem Ipv6.quad_quadGroups (ip : Ipv4) :
    quad (ip.a.toUInt16 * 256 + ip.b.toUInt16) (ip.c.toUInt16 * 256 + ip.d.toUInt16) = ip := by
  have hhi (x y : UInt8) : ((x.toUInt16 * 256 + y.toUInt16) / 256).toUInt8 = x := by
    apply UInt8.toNat_inj.mp
    have hx := x.toNat_lt
    have hy := y.toNat_lt
    simp
    omega
  have hlo (x y : UInt8) : ((x.toUInt16 * 256 + y.toUInt16) % 256).toUInt8 = y := by
    apply UInt8.toNat_inj.mp
    simp
  simp only [quad, hhi, hlo]

theorem Ipv6.mapped?_mapped (ip : Ipv4) : (mapped ip).mapped? = some ip := by
  simp only [mapped?, mapped, quadGroups, List.cons_append, List.nil_append, quad_quadGroups]

namespace Ip

/-- An address of the loopback interface itself. -/
def isInterface : Ip → Bool
  | v4 ip => ip.isSource
  | v6 ip => ip == .localhost

theorem covers_self (a : Ip) : a.covers a = true := by
  cases a <;> simp [covers]

theorem overlaps_comm (a b : Ip) : a.overlaps b = b.overlaps a := Bool.or_comm ..

/-- What covers one target with another overlaps it: either is the target or takes everything. -/
theorem overlaps_of_covers {a b target : Ip} (ha : a.covers target = true)
    (hb : b.covers target = true) : a.overlaps b = true := by
  cases target with
  | v4 t =>
    cases a <;> cases b <;> simp only [covers, overlaps, Bool.or_eq_true, beq_iff_eq] at ha hb ⊢
    all_goals rcases ha with rfl | rfl <;> rcases hb with rfl | rfl <;> simp
  | v6 t =>
    cases a <;> cases b <;> simp only [covers, overlaps, Bool.or_eq_true, beq_iff_eq] at ha hb ⊢
    all_goals first | contradiction | rcases ha with rfl | rfl <;> rcases hb with rfl | rfl <;> simp

end Ip

namespace Address

/-- The family that shows an address changes how it is written, not which one it is. -/
theorem ip_shownTo (own a : Address) : (own.shownTo a).ip = a.ip := by
  cases a with
  | v4 ip port =>
    cases own with
    | v4 => rfl
    | v6 => simp only [shownTo, isV6, ↓reduceIte, Address.ip, Ipv6.mapped?_mapped]
  | v6 => rfl

theorem port_shownTo (own a : Address) : (own.shownTo a).port = a.port := by
  cases a with
  | v4 ip port => cases own <;> rfl
  | v6 => rfl

theorem conflicts_self (a : Address) : a.conflicts a = true := by
  simp [conflicts, Ip.overlaps, Ip.covers_self]

theorem conflicts_comm (a b : Address) : a.conflicts b = b.conflicts a := by
  simp only [conflicts, Ip.overlaps_comm a.ip b.ip, Bool.beq_comm (a := a.port)]

/-- Sockets that receive what is sent to one target cannot be open together. -/
theorem conflicts_of_receives {a b target : Address} (ha : a.receives target = true)
    (hb : b.receives target = true) : a.conflicts b = true := by
  simp only [receives, Bool.and_eq_true, beq_iff_eq] at ha hb
  simp [conflicts, ha.1, hb.1, Ip.overlaps_of_covers ha.2 hb.2]

end Address

namespace Path

/-! The carrying stack names a socket by the address of the interface that it is bound to. -/

theorem dual_interface {own : Ipv6} {port : Port} {scope : UInt32} {target ownIp targetIp : Ipv4}
    (h : dual own target = .ok (v4 ownIp targetIp))
    (hi : (Address.v6 own port scope).ip.isInterface = true) :
    (Address.v6 own port scope).ip = .v4 ownIp := by
  unfold dual at h
  cases hm : own.mapped? with
  | some inner =>
    simp only [hm, Except.ok.injEq, v4.injEq] at h
    simp only [Address.ip, hm, h.1]
  | none =>
    simp only [Address.ip, hm, Ip.isInterface, beq_iff_eq] at hi
    subst hi
    simp only [hm, show Ipv6.localhost ≠ .unspecified by decide, ↓reduceIte] at h
    cases h

theorem between_interface {own target : Address} {ownIp targetIp : Ipv4}
    (h : between own target = .ok (v4 ownIp targetIp)) (hi : own.ip.isInterface = true) :
    own.ip = .v4 ownIp := by
  cases own with
  | v4 own port =>
    cases target with
    | v4 target _ =>
      simp only [between, Except.ok.injEq, v4.injEq] at h
      simp only [Address.ip, h.1]
    | v6 => cases h
  | v6 own port scope =>
    cases target with
    | v4 target _ => exact dual_interface h hi
    | v6 target _ _ =>
      simp only [between] at h
      split at h
      · exact dual_interface h hi
      · cases h
      · rename_i inner _ hm
        split at h
        · simp only [Except.ok.injEq, v4.injEq] at h
          simp only [Address.ip, hm, h.1]
        · cases h

theorem between_v6 {own target : Address} {ownIp targetIp : Ipv6} {scope : UInt32}
    (h : between own target = .ok (v6 ownIp targetIp scope)) : own.ip = .v6 ownIp := by
  have hdual {ip inner} : dual ip inner ≠ .ok (v6 ownIp targetIp scope) := by
    unfold dual
    split
    · simp
    · split <;> simp
  cases own with
  | v4 => cases target <;> cases h
  | v6 own port _ =>
    cases target with
    | v4 => exact absurd h hdual
    | v6 target _ _ =>
      simp only [between] at h
      split at h
      · exact absurd h hdual
      · rename_i hm
        simp only [Except.ok.injEq, v6.injEq] at h
        obtain ⟨rfl, _⟩ := h
        simp only [Address.ip, hm]
      · split at h <;> cases h

end Path

end UdpBench
