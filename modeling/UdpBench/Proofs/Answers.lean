import Mathlib.Algebra.BigOperators.Group.List.Basic
import Mathlib.Algebra.GroupWithZero.Nat
import Mathlib.Data.List.Nodup
import UdpBench.Proofs.Neighbours
import UdpBench.Proofs.Shuffle

namespace UdpBench

/-- A socket at an address of the loopback interface, and others of its family that send to it and
are answered. -/
structure Neighbours (own : Address) (peers : List Address) : Prop where
  loopback : own.onLoopback = own
  port : own.port ≠ 0
  nodup : peers.Nodup
  apart : own ∉ peers
  family : ∀ p ∈ peers, p.isV6 = own.isV6
  ports : ∀ p ∈ peers, p.port ≠ 0
  answered : ∀ p ∈ peers, p.IsAnswered

/-- What the socket gets of a datagram that a peer sent. -/
def shownFrom (e : Address × Bytes) : Datagram := ⟨e.1.onLoopback, e.2⟩

theorem sum_length_sentBy_singleton (peers : List Address) (e : Address × Bytes) :
    (peers.map fun p => (sentBy p [e]).length).sum = peers.count e.1 := by
  induction peers with
  | nil => rfl
  | cons p peers ih =>
    rw [List.map_cons, List.sum_cons, ih, List.count_cons, sentBy_singleton, Nat.add_comm]
    by_cases h : p = e.1 <;> simp [h]

/-- Every datagram was sent by one of the peers. -/
theorem sum_length_sentBy {peers : List Address} (hn : peers.Nodup) {sent : List (Address × Bytes)}
    (hs : ∀ e ∈ sent, e.1 ∈ peers) :
    (peers.map fun p => (sentBy p sent).length).sum = sent.length := by
  induction sent with
  | nil => simp [sentBy]
  | cons e sent ih =>
    have hrest := ih fun e' he' => hs e' (List.mem_cons_of_mem _ he')
    have hone : (peers.map fun p => (sentBy p [e]).length).sum = 1 := by
      rw [sum_length_sentBy_singleton]
      exact List.count_eq_one_of_mem hn (hs e List.mem_cons_self)
    have hsplit : ∀ p, (sentBy p (e :: sent)).length =
        (sentBy p [e]).length + (sentBy p sent).length := by
      intro p
      rw [← List.length_append, ← sentBy_append, List.singleton_append]
    simp only [hsplit, List.sum_map_add, hone, hrest, List.length_cons, Nat.add_comm]

/-- Where sockets stand after peers sent some datagrams to one of them, and it answered some of
those. The one that it holds is received but not yet answered. -/
structure Fair (own : Address) (peers : List Address) (net : Network)
    (sent : List (Address × Bytes)) (answered : List Datagram) (held : Option Datagram) :
    Prop where
  up : net.loopback = .up
  sound : net.Sound
  ownOpen : own ∈ net.addresses
  peersOpen : ∀ p ∈ peers, p ∈ net.addresses
  fits : ∀ e ∈ sent, e.1 ∈ peers ∧ e.2.length ≤ Network.sizeLimit own
  inOrder : answered ++ held.toList ++ net.queueOf own = sent.map shownFrom
  replied : ∀ p ∈ peers,
    net.queueOf p = (sentBy p (sent.take answered.length)).map (Datagram.mk own)

/-- What is sent gets to one socket. -/
theorem Network.Sound.queueOf_deliver {net : Network} (hs : net.Sound) (hup : net.loopback = .up)
    {receiver target : Address} (hreceiver : receiver ∈ net.addresses)
    (hreceives : receiver.receives target = true) (source : Address) (bytes : Bytes)
    {other : Address} (hother : other ∈ net.addresses) :
    (net.deliver ⟨source, target⟩ bytes).queueOf other = net.queueOf other ++
      if other = receiver then [⟨receiver.shownTo source, bytes⟩] else [] := by
  rw [Network.queueOf_deliver hs.exclusive hup _ _ hother]
  by_cases he : other = receiver
  · simp [he, hreceives]
  · have hno : other.receives target = false := by
      by_contra hyes
      exact he (hs.exclusive.receiver_unique hother hreceiver (by simpa using hyes) hreceives)
    simp [he, hno]

namespace Fair

variable {own : Address} {peers : List Address} {net : Network} {sent : List (Address × Bytes)}
  {answered : List Datagram} {held : Option Datagram}

theorem length_le (h : Fair own peers net sent answered held) : answered.length ≤ sent.length := by
  have hle := congrArg List.length h.inOrder
  simp only [List.length_append, List.length_map] at hle
  omega

/-- A peer's datagram gets to the end of the queue. -/
theorem send (h : Fair own peers net sent answered held) (hn : Neighbours own peers) {p : Address}
    (hp : p ∈ peers) {bytes : Bytes} (hlen : bytes.length ≤ Network.sizeLimit own) :
    ∃ after, net.sendTo p own bytes = .ok (bytes.length, after) ∧
      Fair own peers after (sent ++ [(p, bytes)]) answered held := by
  have hsent := Network.sendTo_loopback h.up (hn.answered p hp) hn.loopback (hn.family p hp) hn.port
    hlen
  obtain ⟨_, hcarries⟩ := Network.sendTo_carries h.sound.exclusive hsent
  refine ⟨_, hsent, ?_⟩
  have hqueue {other : Address} (hother : other ∈ net.addresses) :=
    h.sound.queueOf_deliver h.up h.ownOpen own.receives_self p.onLoopback bytes hother
  refine ⟨hcarries.loopback.trans h.up, h.sound.carries hcarries, hcarries.addresses ▸ h.ownOpen,
    hcarries.addresses ▸ h.peersOpen, ?_, ?_, ?_⟩
  · intro e he
    rcases List.mem_append.mp he with he | he
    · exact h.fits e he
    · rw [List.mem_singleton.mp he]
      exact ⟨hp, hlen⟩
  · have hshown : own.shownTo p.onLoopback = p.onLoopback := by
      apply Address.shownTo_eq
      rw [Address.isV6_onLoopback, hn.family p hp]
    rw [hqueue h.ownOpen, ← List.append_assoc, h.inOrder]
    simp [shownFrom, hshown]
  · intro q hq
    have hne : q ≠ own := fun he => hn.apart (he ▸ hq)
    rw [hqueue (h.peersOpen q hq), if_neg hne, List.append_nil,
      List.take_append_of_le_length h.length_le]
    exact h.replied q hq

/-- The oldest datagram is held until it is answered. -/
theorem receive (h : Fair own peers net sent answered none) (hn : Neighbours own peers)
    {d : Datagram} {rest : List Datagram} (hq : net.queueOf own = d :: rest) :
    Fair own peers (net.setQueue own rest) sent answered (some (d.fitted bufferSize)) := by
  have hfits : d.length ≤ bufferSize :=
    Nat.le_trans (h.sound.length_le (hq ▸ List.mem_cons_self)) (by decide)
  refine ⟨h.up, ?_, ?_, ?_, h.fits, ?_, ?_⟩
  · apply h.sound.setQueue
    intro d' hd'
    exact h.sound.length_le (hq ▸ List.mem_cons_of_mem _ hd')
  · rw [Network.addresses_setQueue]
    exact h.ownOpen
  · rw [Network.addresses_setQueue]
    exact h.peersOpen
  · rw [Network.queueOf_setQueue_self h.ownOpen, Datagram.fitted_eq hfits, ← h.inOrder, hq]
    simp
  · intro p hp
    have hne : p ≠ own := fun he => hn.apart (he ▸ hp)
    rw [Network.queueOf_setQueue_of_ne hne]
    exact h.replied p hp

/-- The datagram that is held goes back to the peer that sent it. -/
theorem echo (hn : Neighbours own peers) {d : Datagram}
    (h : Fair own peers net sent answered (some d)) :
    ∃ after, net.sendTo own d.source d.bytes = .ok (d.length, after) ∧
      Fair own peers after sent (answered ++ [d]) none := by
  have horder : sent.map shownFrom = answered ++ d :: net.queueOf own := by
    rw [← h.inOrder]
    simp
  obtain ⟨front, others, hsplit, hfront, hrest⟩ := List.map_eq_append_iff.mp horder
  obtain ⟨e, back, rfl, rfl, hback⟩ := List.map_eq_cons_iff.mp hrest
  obtain ⟨p, bytes⟩ := e
  obtain ⟨hp, hlen⟩ := h.fits (p, bytes) (by simp [hsplit])
  have hown : own.IsAnswered := by
    rw [Address.IsAnswered, hn.loopback]
    exact own.receives_self
  have hfamily : own.isV6 = p.onLoopback.isV6 := by
    rw [Address.isV6_onLoopback, hn.family p hp]
  have hsent : net.sendTo own p.onLoopback bytes = .ok (bytes.length, _) :=
    Network.sendTo_loopback h.up hown p.onLoopback_onLoopback hfamily
      (by rw [Address.port_onLoopback]; exact hn.ports p hp)
      (by rw [← Network.sizeLimit_congr hfamily]; exact hlen)
  obtain ⟨_, hcarries⟩ := Network.sendTo_carries h.sound.exclusive hsent
  refine ⟨_, hsent, ?_⟩
  have hqueue {other : Address} (hother : other ∈ net.addresses) :=
    h.sound.queueOf_deliver h.up (h.peersOpen p hp) (hn.answered p hp) own.onLoopback bytes hother
  have hlength : front.length = answered.length := by
    rw [← hfront, List.length_map]
  refine ⟨hcarries.loopback.trans h.up, h.sound.carries hcarries, hcarries.addresses ▸ h.ownOpen,
    hcarries.addresses ▸ h.peersOpen, h.fits, ?_, ?_⟩
  · have hne : own ≠ p := fun he => hn.apart (he ▸ hp)
    rw [hqueue h.ownOpen, if_neg hne, horder]
    simp
  · intro q hq
    have hshown : p.shownTo own.onLoopback = own := by
      rw [hn.loopback]
      exact Address.shownTo_eq (hn.family p hp)
    have hbefore : sent.take answered.length = front := by
      rw [hsplit, ← hlength, List.take_left]
    have hafter : sent.take (answered ++ [shownFrom (p, bytes)]).length = front ++ [(p, bytes)] := by
      rw [hsplit, List.length_append, ← hlength, List.length_singleton, List.take_append]
      simp
    rw [hqueue (h.peersOpen q hq), h.replied q hq, hbefore, hafter, sentBy_append, sentBy_singleton,
      List.map_append, hshown]
    split <;> rfl

/-- Each peer has got back the first of what it sent. -/
theorem exists_take (h : Fair own peers net sent answered held) {p : Address} (hp : p ∈ peers) :
    ∃ k, net.queueOf p = ((sentBy p sent).take k).map (Datagram.mk own) := by
  have hle : sentBy p (sent.take answered.length) <+: sentBy p sent :=
    ((List.take_prefix _ _).filter _).map _
  refine ⟨(sentBy p (sent.take answered.length)).length, ?_⟩
  rw [← List.prefix_iff_eq_take.mp hle]
  exact h.replied p hp

theorem sum_length (h : Fair own peers net sent answered held) (hn : peers.Nodup) :
    (peers.map fun p => (net.queueOf p).length).sum = answered.length := by
  have hlengths : ∀ p ∈ peers,
      (net.queueOf p).length = (sentBy p (sent.take answered.length)).length := by
    intro p hp
    rw [h.replied p hp, List.length_map]
  rw [List.map_congr_left hlengths, sum_length_sentBy hn, List.length_take,
    Nat.min_eq_left h.length_le]
  intro e he
  exact (h.fits e (List.mem_of_mem_take he)).1

theorem queueOf_of_all (h : Fair own peers net sent answered held)
    (hall : answered.length = sent.length) {p : Address} (hp : p ∈ peers) :
    net.queueOf p = (sentBy p sent).map (Datagram.mk own) := by
  rw [h.replied p hp, hall, List.take_length]

end Fair

/-- Nothing was sent yet, to the socket or to its peers. -/
structure Fresh (own : Address) (peers : List Address) (net : Network) : Prop where
  up : net.loopback = .up
  sound : net.Sound
  ownOpen : own ∈ net.addresses
  peersOpen : ∀ p ∈ peers, p ∈ net.addresses
  ownEmpty : net.queueOf own = []
  peersEmpty : ∀ p ∈ peers, net.queueOf p = []

theorem Fresh.fair {own : Address} {peers : List Address} {net : Network}
    (h : Fresh own peers net) : Fair own peers net [] [] none := by
  refine ⟨h.up, h.sound, h.ownOpen, h.peersOpen, by simp, by simp [h.ownEmpty], ?_⟩
  intro p hp
  simp [h.peersEmpty p hp, sentBy]

/-- What peers have got back of the datagrams that they sent to a socket, which were returned to the
one who receives there. -/
structure Answered (own : Address) (peers : List Address) (net : Network)
    (sent : List (Address × Bytes)) (returned : List Datagram) (held : Option Datagram) :
    Prop where
  front : ∀ p ∈ peers, ∃ k, net.queueOf p = ((sentBy p sent).take k).map (Datagram.mk own)
  total : held = none → (peers.map fun p => (net.queueOf p).length).sum = returned.length
  all : held = none → returned.length = sent.length →
    ∀ p ∈ peers, net.queueOf p = (sentBy p sent).map (Datagram.mk own)

theorem Fair.answered {own : Address} {peers : List Address} {net : Network}
    {sent : List (Address × Bytes)} {answered : List Datagram} {held : Option Datagram}
    (h : Fair own peers net sent answered held) (hn : peers.Nodup) :
    Answered own peers net sent (answered ++ held.toList) held := by
  refine ⟨fun p hp => h.exists_take hp, ?_, ?_⟩
  · rintro rfl
    simpa using h.sum_length hn
  · rintro rfl hall p hp
    exact h.queueOf_of_all (by simpa using hall) hp

end UdpBench
