import UdpBench.Proofs.Sockets
import UdpBench.Sender
import UdpBench.Sink

namespace UdpBench

/-- What a socket sent: the address it was bound to, the one it named, and the body. -/
structure Emission where
  sender : Address
  target : Address
  bytes : Bytes
  deriving DecidableEq

namespace Emission

/-- Both ends of its way over a loopback interface that is up. -/
def flow? (e : Emission) : Option Flow :=
  match Path.between e.sender e.target with
  | .ok path => (Loopback.up.flowTo e.sender e.target path).toOption
  | .error _ => none

/-- Others know a sender by its port and, if it is bound to an address of the interface, by that. -/
theorem flow?_source {e : Emission} {flow : Flow} (h : e.flow? = some flow) :
    flow.source.port = e.sender.port ∧
      (e.sender.ip.isInterface = true → flow.source.ip = e.sender.ip) := by
  unfold flow? at h
  split at h
  · rename_i path hpath
    cases path with
    | v4 ownIp targetIp =>
      have hflow : flow = Loopback.flowV4 ownIp targetIp e.sender.port e.target.port := by
        simp only [Loopback.flowTo, Bind.bind, Except.bind, pure, Except.pure] at h
        split at h
        · split at h
          · cases h
          · exact (Option.some.inj h).symm
        · exact (Option.some.inj h).symm
      subst hflow
      refine ⟨rfl, ?_⟩
      intro hi
      have hip := Path.between_interface hpath hi
      rw [hip] at hi ⊢
      simp only [Ip.isInterface] at hi
      simp only [Loopback.flowV4, Address.ip, Ipv4.sourceOf, hi, ↓reduceIte]
    | v6 ownIp targetIp scope =>
      have hflow : flow = Loopback.flowV6 e.sender.port e.target.port := by
        simp only [Loopback.flowTo, Bind.bind, Except.bind, pure, Except.pure] at h
        split at h
        · cases h
        · exact (Option.some.inj h).symm
      subst hflow
      refine ⟨rfl, ?_⟩
      intro hi
      have hip := Path.between_v6 hpath
      rw [hip] at hi ⊢
      simp only [Ip.isInterface, beq_iff_eq] at hi
      rw [hi]
      rfl
    | crossed targetIp =>
      simp only [Loopback.flowTo, Loopback.reachCrossed] at h
      split at h <;> cases h
  · cases h

/-- What a socket bound to `own` gets of it, if that is the socket which the target selects: the
whole body, under the sender's address. -/
def shownAt (own : Address) (e : Emission) : Option Datagram :=
  match e.flow? with
  | some flow =>
    if own.receives flow.target then some ⟨own.shownTo flow.source, e.bytes⟩ else none
  | none => none

theorem shownAt_eq_some_iff {own : Address} {e : Emission} {d : Datagram} :
    e.shownAt own = some d ↔ ∃ flow, e.flow? = some flow ∧ own.receives flow.target = true ∧
      d = ⟨own.shownTo flow.source, e.bytes⟩ := by
  unfold shownAt
  cases e.flow? with
  | none => simp
  | some flow =>
    by_cases hr : own.receives flow.target = true
    · simp only [hr, ↓reduceIte, Option.some.injEq, exists_eq_left', true_and]
      exact eq_comm
    · simp [hr]

end Emission

/-- The length of the longest datagram that either stack carries. -/
def Datagram.maxLength : Nat := 65527

namespace Network

/-- What holds of the sockets of a host. -/
structure Sound (net : Network) : Prop where
  exclusive : net.Exclusive
  fits : ∀ own ∈ net.addresses, ∀ d ∈ net.queueOf own, d.length ≤ Datagram.maxLength

theorem empty_sound (lo : Loopback) : (empty lo).Sound :=
  ⟨empty_exclusive lo, by simp [empty, addresses]⟩

/-- What a socket gets of some emissions. Where the interface is down nothing arrives. -/
def shown (net : Network) (own : Address) (es : List Emission) : List Datagram :=
  match net.loopback with
  | .up => es.filterMap (Emission.shownAt own)
  | .down => []

@[simp] theorem shown_nil (net : Network) (own : Address) : net.shown own [] = [] := by
  unfold shown
  split <;> rfl

theorem shown_of_up {net : Network} (hup : net.loopback = .up) (own : Address)
    (es : List Emission) : net.shown own es = es.filterMap (Emission.shownAt own) := by
  simp only [shown, hup]

theorem shown_append (net : Network) (own : Address) (es fs : List Emission) :
    net.shown own (es ++ fs) = net.shown own es ++ net.shown own fs := by
  unfold shown
  split
  · exact List.filterMap_append
  · rfl

theorem mem_shown {net : Network} {own : Address} {es : List Emission} {d : Datagram}
    (hd : d ∈ net.shown own es) : ∃ e ∈ es, e.shownAt own = some d := by
  unfold shown at hd
  split at hd
  · exact List.mem_filterMap.mp hd
  · cases hd

/-- The second network is the first one after some emissions: the same sockets are open, and what
was shown to each stands behind what was queued in it. -/
structure Carries (net : Network) (es : List Emission) (after : Network) : Prop where
  loopback : after.loopback = net.loopback
  addresses : after.addresses = net.addresses
  queueOf : ∀ own ∈ net.addresses,
    after.queueOf own = net.queueOf own ++ net.shown own es
  routed : net.loopback = .up → ∀ e ∈ es, e.flow?.isSome = true
  fits : ∀ e ∈ es, e.bytes.length ≤ Datagram.maxLength

theorem Carries.refl (net : Network) : net.Carries [] net := by
  refine ⟨rfl, rfl, ?_, by simp, by simp⟩
  intro own _
  rw [shown_nil, List.append_nil]

theorem Carries.trans {net mid after : Network} {es fs : List Emission}
    (h : net.Carries es mid) (h' : mid.Carries fs after) : net.Carries (es ++ fs) after := by
  refine ⟨h'.loopback.trans h.loopback, h'.addresses.trans h.addresses, ?_, ?_, ?_⟩
  · intro own hown
    have hshown : mid.shown own fs = net.shown own fs := by simp only [shown, h.loopback]
    rw [h'.queueOf own (h.addresses ▸ hown), h.queueOf own hown, hshown, shown_append,
      List.append_assoc]
  · intro hup e he
    rcases List.mem_append.mp he with he | he
    · exact h.routed hup e he
    · exact h'.routed (h.loopback.trans hup) e he
  · intro e he
    rcases List.mem_append.mp he with he | he
    · exact h.fits e he
    · exact h'.fits e he

theorem Sound.carries {net after : Network} {es : List Emission} (hs : net.Sound)
    (h : net.Carries es after) : after.Sound := by
  refine ⟨?_, ?_⟩
  · simpa only [Exclusive, h.addresses] using hs.exclusive
  · intro own hown d hd
    rw [h.addresses] at hown
    rw [h.queueOf own hown] at hd
    rcases List.mem_append.mp hd with hd | hd
    · exact hs.fits own hown d hd
    · obtain ⟨e, he, hshown⟩ := mem_shown hd
      obtain ⟨flow, _, _, rfl⟩ := Emission.shownAt_eq_some_iff.mp hshown
      exact h.fits e he

theorem Sound.opens {net opened : Network} {own : Address} (hs : net.Sound)
    (h : net.Opens own opened) : opened.Sound := by
  refine ⟨h.exclusive hs.exclusive, ?_⟩
  intro other hother d hd
  by_cases he : other = own
  · subst he
    rw [h.queueOf_self] at hd
    cases hd
  · rw [h.queueOf_of_ne he] at hd
    rw [h.addresses] at hother
    rcases List.mem_append.mp hother with hm | hm
    · exact hs.fits other hm d hd
    · exact absurd (List.mem_singleton.mp hm) he

theorem Sound.close {net : Network} (hs : net.Sound) (own : Address) : (net.close own).Sound := by
  refine ⟨hs.exclusive.close own, ?_⟩
  intro other hother d hd
  rw [addresses_close] at hother
  obtain ⟨hm, hne⟩ := List.mem_filter.mp hother
  rw [queueOf_close_of_ne (by simpa using hne)] at hd
  exact hs.fits other hm d hd

theorem Sound.length_le {net : Network} (hs : net.Sound) {own : Address} {d : Datagram}
    (hd : d ∈ net.queueOf own) : d.length ≤ Datagram.maxLength := by
  by_cases hown : own ∈ net.addresses
  · exact hs.fits own hown d hd
  · rw [queueOf_of_not_mem hown] at hd
    cases hd

theorem Sound.setQueue {net : Network} (hs : net.Sound) (own : Address) {queue : List Datagram}
    (hq : ∀ d ∈ queue, d.length ≤ Datagram.maxLength) : (net.setQueue own queue).Sound := by
  refine ⟨?_, ?_⟩
  · simpa only [Exclusive, addresses_setQueue] using hs.exclusive
  · intro other hother d hd
    rw [addresses_setQueue] at hother
    by_cases he : other = own
    · subst he
      rw [queueOf_setQueue_self hother] at hd
      exact hq d hd
    · rw [queueOf_setQueue_of_ne he] at hd
      exact hs.fits other hother d hd

theorem sizeLimit_le (target : Address) : sizeLimit target ≤ Datagram.maxLength := by
  cases target <;> simp [sizeLimit, Datagram.maxLength]

theorem deliver_carries {net : Network} (hn : net.Exclusive) {e : Emission} {flow : Flow}
    (hf : net.loopback = .up → e.flow? = some flow)
    (hl : e.bytes.length ≤ sizeLimit flow.target) :
    net.Carries [e] (net.deliver flow e.bytes) := by
  refine ⟨loopback_deliver .., addresses_deliver .., ?_, ?_, ?_⟩
  · intro own hown
    cases hlo : net.loopback with
    | up =>
      rw [queueOf_deliver hn hlo flow e.bytes hown, shown_of_up hlo]
      congr 1
      by_cases hr : own.receives flow.target = true <;>
        simp [Emission.shownAt, hf hlo, hr]
    | down => simp [deliver, shown, hlo]
  · intro hup f he
    simp [List.mem_singleton.mp he, hf hup]
  · intro f he
    rw [List.mem_singleton.mp he]
    exact Nat.le_trans hl (sizeLimit_le flow.target)

/-- A socket that was opened for some emissions and closed again leaves them alone. -/
theorem Opens.carries {net opened fired : Network} {own : Address} {es : List Emission}
    (ho : net.Opens own opened) (h : opened.Carries es fired) :
    net.Carries es (fired.close own) := by
  refine ⟨h.loopback.trans ho.loopback, ?_, ?_, fun hup => h.routed (ho.loopback.trans hup), h.fits⟩
  · have hall : net.addresses.filter (· != own) = net.addresses := by
      apply List.filter_eq_self.mpr
      intro a ha
      have hne : a ≠ own := fun e => ho.fresh (e ▸ ha)
      simpa using hne
    simp [addresses_close, h.addresses, ho.addresses, List.filter_append, hall]
  · intro other hother
    have hne : other ≠ own := fun e => ho.fresh (e ▸ hother)
    have hshown : opened.shown other es = net.shown other es := by simp only [shown, ho.loopback]
    rw [queueOf_close_of_ne hne, h.queueOf other (by simp [ho.addresses, hother]),
      ho.queueOf_of_ne hne, hshown]

/-! A datagram goes out whole or not at all. -/

theorem transmit_eq_ok {net after : Network} {flow : Flow} {bytes : Bytes} {n : Nat}
    (h : net.transmit flow bytes = .ok (n, after)) :
    n = bytes.length ∧ bytes.length ≤ sizeLimit flow.target ∧ after = net.deliver flow bytes := by
  unfold transmit at h
  split at h
  · cases h
  · rename_i hl
    simp only [Except.ok.injEq, Prod.mk.injEq] at h
    exact ⟨h.1.symm, Nat.le_of_not_lt hl, h.2.symm⟩

theorem send_eq_ok {net after : Network} {own : Address} {flow : Flow} {bytes : Bytes} {n : Nat}
    (h : net.send own flow bytes = .ok (n, after)) :
    n = bytes.length ∧ bytes.length ≤ sizeLimit flow.target ∧ after = net.deliver flow bytes := by
  simp only [send, Bind.bind, Except.bind] at h
  split at h
  · split at h
    · cases h
    · split at h
      · cases h
      · exact transmit_eq_ok h
  · exact transmit_eq_ok h

end Network

end UdpBench
