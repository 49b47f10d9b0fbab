import Mathlib.Data.List.Pairwise
import UdpBench.Proofs.Addresses

namespace UdpBench.Network

/-- No two sockets are open at conflicting addresses. -/
def Exclusive (net : Network) : Prop :=
  net.addresses.Pairwise fun a b => a.conflicts b = false

theorem empty_exclusive (lo : Loopback) : (empty lo).Exclusive := .nil

theorem Exclusive.nodup {net : Network} (h : net.Exclusive) : net.addresses.Nodup := by
  refine h.imp ?_
  rintro a b hab rfl
  rw [Address.conflicts_self] at hab
  cases hab

theorem Exclusive.eq_of_conflicts {net : Network} (h : net.Exclusive) {a b : Address}
    (ha : a ∈ net.addresses) (hb : b ∈ net.addresses) (hab : a.conflicts b = true) : a = b := by
  by_contra hne
  have : Std.Symm fun a b : Address => a.conflicts b = false :=
    ⟨fun a b hab => Address.conflicts_comm a b ▸ hab⟩
  have hfree := List.Pairwise.forall h ha hb hne
  rw [hab] at hfree
  cases hfree

/-- One target has at most one receiver. -/
theorem Exclusive.receiver_unique {net : Network} (h : net.Exclusive) {a b target : Address}
    (ha : a ∈ net.addresses) (hb : b ∈ net.addresses) (ra : a.receives target = true)
    (rb : b.receives target = true) : a = b :=
  h.eq_of_conflicts ha hb (Address.conflicts_of_receives ra rb)

theorem mem_addresses {net : Network} {own : Address} :
    own ∈ net.addresses ↔ ∃ s ∈ net.sockets, s.address = own := List.mem_map

theorem queueOf_of_mem {net : Network} (h : net.addresses.Nodup) {s : Socket}
    (hs : s ∈ net.sockets) : net.queueOf s.address = s.queue := by
  obtain ⟨before, after, he⟩ := List.append_of_mem hs
  have hn : s.address ∉ before.map Socket.address := by
    rw [addresses, he, List.map_append, List.map_cons] at h
    intro hm
    exact (List.nodup_append.mp h).2.2 _ hm _ List.mem_cons_self rfl
  have hfind : net.sockets.find? (fun t => t.address == s.address) = some s := by
    rw [he]
    apply List.find?_eq_some_iff_append.mpr
    refine ⟨beq_self_eq_true _, before, after, rfl, ?_⟩
    intro t ht
    have hne : t.address ≠ s.address := fun e => hn (List.mem_map.mpr ⟨t, ht, e⟩)
    simpa using hne
  simp [queueOf, hfind]

theorem queueOf_of_not_mem {net : Network} {own : Address} (h : own ∉ net.addresses) :
    net.queueOf own = [] := by
  have hfind : net.sockets.find? (fun s => s.address == own) = none := by
    apply List.find?_eq_none.mpr
    intro s hs he
    exact h (mem_addresses.mpr ⟨s, hs, by simpa using he⟩)
  simp [queueOf, hfind]

/-! What the operations on sockets leave alone, and what they do to a queue. -/

@[simp] theorem loopback_setQueue (net : Network) (own : Address) (queue : List Datagram) :
    (net.setQueue own queue).loopback = net.loopback := rfl

@[simp] theorem addresses_setQueue (net : Network) (own : Address) (queue : List Datagram) :
    (net.setQueue own queue).addresses = net.addresses := by
  simp only [addresses, setQueue, List.map_map]
  apply List.map_congr_left
  intro s _
  by_cases h : s.address = own <;> simp [h]

theorem queueOf_setQueue_of_ne {net : Network} {own other : Address} {queue : List Datagram}
    (h : other ≠ own) : (net.setQueue own queue).queueOf other = net.queueOf other := by
  simp only [queueOf, setQueue, List.find?_map]
  have hp : ((fun s : Socket => s.address == other) ∘
      fun s => if s.address = own then ⟨own, queue⟩ else s) = fun s => s.address == other := by
    funext s
    by_cases hs : s.address = own <;> simp [hs]
  rw [hp]
  cases hf : net.sockets.find? (fun s => s.address == other) with
  | none => rfl
  | some s =>
    have hs : s.address = other := by simpa using List.find?_some hf
    simp [hs, h]

theorem queueOf_setQueue_self {net : Network} {own : Address} {queue : List Datagram}
    (h : own ∈ net.addresses) : (net.setQueue own queue).queueOf own = queue := by
  simp only [queueOf, setQueue, List.find?_map]
  have hp : ((fun s : Socket => s.address == own) ∘
      fun s => if s.address = own then ⟨own, queue⟩ else s) = fun s => s.address == own := by
    funext s
    by_cases hs : s.address = own <;> simp [hs]
  rw [hp]
  obtain ⟨s, hs, he⟩ := mem_addresses.mp h
  cases hf : net.sockets.find? (fun s => s.address == own) with
  | none => simpa [he] using List.find?_eq_none.mp hf s hs
  | some t =>
    have ht : t.address = own := by simpa using List.find?_some hf
    simp [ht]

theorem setQueue_queueOf {net : Network} (h : net.addresses.Nodup) (own : Address) :
    net.setQueue own (net.queueOf own) = net := by
  have hs : net.sockets.map (fun s => if s.address = own then ⟨own, net.queueOf own⟩ else s) =
      net.sockets := by
    refine (List.map_congr_left ?_).trans (List.map_id _)
    intro s hs
    by_cases he : s.address = own
    · subst he
      simp [queueOf_of_mem h hs]
    · simp [he]
  simp only [setQueue, hs]

theorem addresses_close (net : Network) (own : Address) :
    (net.close own).addresses = net.addresses.filter (· != own) := by
  simp [addresses, close, List.filter_map, Function.comp_def]

theorem queueOf_close_of_ne {net : Network} {own other : Address} (h : other ≠ own) :
    (net.close own).queueOf other = net.queueOf other := by
  simp only [queueOf, close, List.find?_filter]
  have hp : (fun s : Socket => decide ((s.address != own) = true ∧ (s.address == other) = true)) =
      fun s => s.address == other := by
    funext s
    by_cases hs : s.address = other <;> simp [hs, h]
  rw [hp]

theorem Exclusive.close {net : Network} (h : net.Exclusive) (own : Address) :
    (net.close own).Exclusive := by
  simp only [Exclusive, addresses_close]
  exact h.filter _

/-- A socket was opened at a free address, behind the others and with nothing queued. -/
structure Opens (net : Network) (own : Address) (opened : Network) : Prop where
  free : ∀ b ∈ net.addresses, own.conflicts b = false
  eq : opened = { net with sockets := net.sockets ++ [⟨own, []⟩] }

/-- Opening succeeds at an admitted address that nobody's conflicts with. -/
theorem bind_eq_ok_iff {net opened : Network} {a own : Address} {choice : Port} :
    net.bind a choice = .ok (own, opened) ↔
      net.loopback.admits a = .ok () ∧ own = assigned a choice ∧ net.Opens own opened := by
  have hfree : net.isFree (assigned a choice) = true ↔
      ∀ b ∈ net.addresses, (assigned a choice).conflicts b = false := by
    simp [isFree, List.all_eq_true]
  simp only [bind, Bind.bind, Except.bind]
  cases ha : net.loopback.admits a with
  | error cause => simp
  | ok _ =>
    by_cases hf : net.isFree (assigned a choice) = true
    · simp only [hf, ↓reduceIte, pure, Except.pure, Except.ok.injEq, Prod.mk.injEq, true_and]
      constructor
      · rintro ⟨rfl, rfl⟩
        exact ⟨rfl, hfree.mp hf, rfl⟩
      · rintro ⟨rfl, ho⟩
        exact ⟨rfl, ho.eq.symm⟩
    · simp only [hf, Bool.false_eq_true, ↓reduceIte, throw, throwThe, MonadExceptOf.throw,
        reduceCtorEq, true_and, false_iff]
      rintro ⟨rfl, ho⟩
      exact hf (hfree.mpr ho.free)

namespace Opens

variable {net opened : Network} {own : Address}

theorem fresh (h : net.Opens own opened) : own ∉ net.addresses := by
  intro hm
  have hc := h.free own hm
  rw [Address.conflicts_self] at hc
  cases hc

theorem loopback (h : net.Opens own opened) : opened.loopback = net.loopback := by rw [h.eq]

theorem addresses (h : net.Opens own opened) : opened.addresses = net.addresses ++ [own] := by
  simp [h.eq, Network.addresses]

theorem exclusive (h : net.Opens own opened) (he : net.Exclusive) : opened.Exclusive := by
  simp only [Exclusive, h.addresses, List.pairwise_append, List.mem_singleton]
  refine ⟨he, List.pairwise_singleton .., ?_⟩
  rintro a ha _ rfl
  rw [Address.conflicts_comm]
  exact h.free a ha

/-- Closing the new socket leaves no trace of it. -/
theorem close (h : net.Opens own opened) : opened.close own = net := by
  have hall : net.sockets.filter (fun s => s.address != own) = net.sockets := by
    apply List.filter_eq_self.mpr
    intro s hs
    have hne : s.address ≠ own := fun e => h.fresh (mem_addresses.mpr ⟨s, hs, e⟩)
    simpa using hne
  simp [h.eq, Network.close, hall]

theorem queueOf_of_ne (h : net.Opens own opened) {other : Address} (hne : other ≠ own) :
    opened.queueOf other = net.queueOf other := by
  rw [← queueOf_close_of_ne hne, h.close]

theorem queueOf_self (h : net.Opens own opened) : opened.queueOf own = [] := by
  have hnone : net.sockets.find? (fun s => s.address == own) = none := by
    apply List.find?_eq_none.mpr
    intro s hs he
    exact h.fresh (mem_addresses.mpr ⟨s, hs, by simpa using he⟩)
  simp [h.eq, queueOf, List.find?_append, hnone]

end Opens

/-! Delivery changes the queue of one socket, the receiver of the flow's target. -/

@[simp] theorem loopback_deliver (net : Network) (flow : Flow) (bytes : Bytes) :
    (net.deliver flow bytes).loopback = net.loopback := by
  unfold deliver
  split <;> simp

@[simp] theorem addresses_deliver (net : Network) (flow : Flow) (bytes : Bytes) :
    (net.deliver flow bytes).addresses = net.addresses := by
  unfold deliver
  split <;> simp

theorem queueOf_deliver {net : Network} (h : net.Exclusive) (hup : net.loopback = .up)
    (flow : Flow) (bytes : Bytes) {own : Address} (hown : own ∈ net.addresses) :
    (net.deliver flow bytes).queueOf own = net.queueOf own ++
      if own.receives flow.target then [⟨own.shownTo flow.source, bytes⟩] else [] := by
  unfold deliver
  rw [hup]
  cases hr : net.receiver? flow.target with
  | none =>
    have hno : own.receives flow.target = false := by
      obtain ⟨s, hs, rfl⟩ := mem_addresses.mp hown
      simpa using List.find?_eq_none.mp hr s hs
    simp [hno]
  | some s =>
    unfold receiver? at hr
    have hs : s ∈ net.sockets := List.mem_of_find?_eq_some hr
    have hrs : s.address.receives flow.target = true :=
      List.find?_some (p := fun t : Socket => t.address.receives flow.target) hr
    have hm : s.address ∈ net.addresses := mem_addresses.mpr ⟨s, hs, rfl⟩
    by_cases he : own = s.address
    · subst he
      simp only [queueOf_setQueue_self hm, hrs, ↓reduceIte, queueOf_of_mem h.nodup hs]
    · have hno : own.receives flow.target = false := by
        by_contra hyes
        exact he (h.receiver_unique hown hm (by simpa using hyes) hrs)
      simp [queueOf_setQueue_of_ne he, hno]

end UdpBench.Network
