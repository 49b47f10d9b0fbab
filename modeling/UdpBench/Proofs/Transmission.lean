import UdpBench.Proofs.Decoding
import UdpBench.Proofs.Verdicts

namespace UdpBench

namespace Address

/-- An IPv4 address in the form of an IPv6 one. -/
def IsDisguised (a : Address) : Prop := a.isV6 = true ∧ ∃ ip, a.ip = .v4 ip

/-- The length of the longest datagram that goes to an address. It is the carrying stack's, whatever
form the address has. -/
def lengthLimit (a : Address) : Nat :=
  match a.ip with
  | .v4 _ => 65507
  | .v6 _ => 65527

/-- Two sockets that one target selects could not be open together. -/
theorem conflicts_of_selects {a b target : Address} (ha : target.selects a = true)
    (hb : target.selects b = true) : a.conflicts b = true := by
  simp only [selects, Bool.and_eq_true, beq_iff_eq] at ha hb
  simp [conflicts, ha.1, hb.1, Ip.overlaps_of_covers ha.2 hb.2]

end Address

namespace Loopback

variable {lo : Loopback}

theorem reachV4_ok {own target : Ipv4} (h : lo.reachV4 own target = .ok ()) : lo = .up := by
  cases lo with
  | up => rfl
  | down => cases h

theorem reachV6_ok {target : Ipv6} (h : lo.reachV6 target = .ok ()) : lo = .up := by
  cases lo with
  | up => rfl
  | down => cases h

theorem reachV4_error {own target : Ipv4} {cause : IoError}
    (h : lo.reachV4 own target = .error cause) : cause ≠ .familyNotSupported := by
  rintro rfl
  unfold reachV4 at h
  split at h
  · cases h
  · split at h
    · cases h
    · split at h <;> cases h

theorem reachV6_error {target : Ipv6} {cause : IoError} (h : lo.reachV6 target = .error cause) :
    cause ≠ .familyNotSupported := by
  rintro rfl
  unfold reachV6 at h
  split at h
  · cases h
  · split at h <;> cases h

theorem flowConnected_v4 (lo : Loopback) (own target : Address) (ownIp targetIp : Ipv4) :
    lo.flowConnected own target (.v4 ownIp targetIp) =
      (lo.reachV4 ownIp (resolveV4 ownIp targetIp)).map fun _ =>
        flowV4 ownIp targetIp own.port target.port := by
  simp only [flowConnected, Bind.bind, Except.bind]
  cases lo.reachV4 ownIp (resolveV4 ownIp targetIp) <;> rfl

theorem flowConnected_v6 (lo : Loopback) (own target : Address) (ownIp targetIp : Ipv6)
    (scope : UInt32) : lo.flowConnected own target (.v6 ownIp targetIp scope) =
      if targetIp.needsScope ∧ scope = 0 then .error .invalidArgument
      else (lo.reachV6 (resolveV6 targetIp)).map fun _ => flowV6 own.port target.port := by
  by_cases hscope : targetIp.needsScope = true ∧ scope = 0
  · simp only [flowConnected, hscope, and_self, ↓reduceIte]
    rfl
  · simp only [flowConnected, hscope, ↓reduceIte, Bind.bind, Except.bind]
    cases lo.reachV6 (resolveV6 targetIp) <;> rfl

end Loopback

/-- The stack that carries what is sent from a socket of the target's family that is bound to no
address of its own: the one that the target belongs to, whatever its form. -/
theorem Path.between_wildcard (target : Address) (choice : Port) :
    (∃ ip, target.ip = .v4 ip ∧
      between (Network.assigned target.unspecifiedLike choice) target =
        .ok (v4 .unspecified ip)) ∨
    ∃ ip scope, target.ip = .v6 ip ∧
      between (Network.assigned target.unspecifiedLike choice) target =
        .ok (v6 .unspecified ip scope) := by
  cases target with
  | v4 ip port => exact .inl ⟨ip, rfl, rfl⟩
  | v6 ip port scope =>
    have hmapped : Ipv6.unspecified.mapped? = none := rfl
    have hown : Network.assigned (Address.v6 ip port scope).unspecifiedLike choice =
        .v6 .unspecified choice 0 := rfl
    rw [hown]
    cases hm : ip.mapped? with
    | some inner =>
      refine .inl ⟨inner, ?_, ?_⟩
      · simp only [Address.ip, hm]
      · simp only [between, dual, hm, hmapped, ↓reduceIte]
    | none =>
      refine .inr ⟨ip, scope, ?_, ?_⟩
      · simp only [Address.ip, hm]
      · simp only [between, hm, hmapped]

/-- A way that ends at a target's port, on the target's stack. -/
structure Flow.LeadsTo (flow : Flow) (target : Address) : Prop where
  port : flow.target.port = target.port
  limit : Network.sizeLimit flow.target = target.lengthLimit
  disguised : target.isV6 = true → flow.target.isV6 = false → target.IsDisguised

namespace Network

theorem isV6_assigned_unspecifiedLike (target : Address) (choice : Port) :
    (assigned target.unspecifiedLike choice).isV6 = target.isV6 := by
  cases target <;> rfl

variable {net : Network} {target : Address} {choice : Port} {flow : Flow}

/-- There is a way over a loopback interface that is up, or the reason why there is none is another
than the target's family. -/
theorem connect_wildcard_cases (net : Network) (target : Address) (choice : Port) :
    (net.loopback = .up ∧ ∃ flow, flow.LeadsTo target ∧
      net.connect (assigned target.unspecifiedLike choice) target = .ok flow) ∨
    ∃ cause, cause ≠ .familyNotSupported ∧
      net.connect (assigned target.unspecifiedLike choice) target = .error cause := by
  rcases Path.between_wildcard target choice with ⟨ip, hip, hpath⟩ | ⟨ip, scope, hip, hpath⟩
  · simp only [connect, hpath, Bind.bind, Except.bind, Loopback.flowConnected_v4]
    cases hreach : net.loopback.reachV4 .unspecified (Loopback.resolveV4 .unspecified ip) with
    | error cause => exact .inr ⟨cause, Loopback.reachV4_error hreach, rfl⟩
    | ok _ =>
      refine .inl ⟨Loopback.reachV4_ok hreach, _, ⟨rfl, ?_, fun hv6 _ => ⟨hv6, ip, hip⟩⟩, rfl⟩
      simp only [Loopback.flowV4, sizeLimit, Address.lengthLimit, hip]
  · simp only [connect, hpath, Bind.bind, Except.bind, Loopback.flowConnected_v6]
    split
    · exact .inr ⟨_, by decide, rfl⟩
    · cases hreach : net.loopback.reachV6 (Loopback.resolveV6 ip) with
      | error cause => exact .inr ⟨cause, Loopback.reachV6_error hreach, rfl⟩
      | ok _ =>
        refine .inl ⟨Loopback.reachV6_ok hreach, _, ⟨rfl, ?_, fun _ hv4 => by cases hv4⟩, rfl⟩
        simp only [Loopback.flowV6, sizeLimit, Address.lengthLimit, hip]

theorem connect_wildcard_ok
    (h : net.connect (assigned target.unspecifiedLike choice) target = .ok flow) :
    net.loopback = .up ∧ flow.LeadsTo target := by
  rcases connect_wildcard_cases net target choice with ⟨hup, flow', hleads, hc⟩ | ⟨cause, -, hc⟩
  · obtain rfl := Except.ok.inj (h.symm.trans hc)
    exact ⟨hup, hleads⟩
  · rw [h] at hc
    cases hc

theorem connect_wildcard_error {cause : IoError}
    (h : net.connect (assigned target.unspecifiedLike choice) target = .error cause) :
    cause ≠ .familyNotSupported := by
  rcases connect_wildcard_cases net target choice with ⟨-, flow', -, hc⟩ | ⟨cause', hne, hc⟩
  · rw [h] at hc
    cases hc
  · obtain rfl := Except.error.inj (h.symm.trans hc)
    exact hne

/-- What is connected sends all that is short enough. An IPv4 address in disguise is named with each
datagram, which takes a port. -/
theorem send_wildcard (h : net.connect (assigned target.unspecifiedLike choice) target = .ok flow)
    (hport : target.IsDisguised → target.port ≠ 0) {bytes : Bytes}
    (hshort : bytes.length ≤ target.lengthLimit) :
    net.send (assigned target.unspecifiedLike choice) flow bytes =
      .ok (bytes.length, net.deliver flow bytes) := by
  obtain ⟨-, hsame, hlimit, hform⟩ := connect_wildcard_ok h
  rw [← hlimit] at hshort
  have htransmit : net.transmit flow bytes = .ok (bytes.length, net.deliver flow bytes) :=
    if_neg (Nat.not_lt.mpr hshort)
  rw [send, isV6_assigned_unspecifiedLike]
  by_cases hdisguised : target.isV6 = true ∧ (!flow.target.isV6) = true
  · have hnonzero : flow.target.port ≠ 0 := by
      rw [hsame]
      exact hport (hform hdisguised.1 (by simpa using hdisguised.2))
    have hlength : checkLength true bytes = .ok () := by
      have hle : Datagram.maxLength ≤ 65535 := by decide
      have hfits := Nat.le_trans (Nat.le_trans hshort (sizeLimit_le flow.target)) hle
      exact if_neg fun hover => Nat.not_lt.mpr hfits hover.2
    have hcheck : checkPort flow.target = .ok () := if_neg hnonzero
    simp only [hdisguised, and_self, ↓reduceIte, hlength, hcheck]
    exact htransmit
  · simp only [hdisguised, ↓reduceIte]
    exact htransmit

theorem checkLength_error {isV4 : Bool} {bytes : Bytes} {cause : IoError}
    (h : checkLength isV4 bytes = .error cause) : cause = .messageTooLong := by
  unfold checkLength at h
  split at h
  · exact (Except.error.inj h).symm
  · cases h

theorem checkPort_error {a : Address} {cause : IoError} (h : checkPort a = .error cause) :
    cause = .invalidArgument := by
  unfold checkPort at h
  split at h
  · exact (Except.error.inj h).symm
  · cases h

theorem transmit_error {bytes : Bytes} {cause : IoError}
    (h : net.transmit flow bytes = .error cause) : cause = .messageTooLong := by
  unfold transmit at h
  split at h
  · exact (Except.error.inj h).symm
  · cases h

/-- What was connected is refused for the length or the port alone. -/
theorem send_error {own : Address} {bytes : Bytes} {cause : IoError}
    (h : net.send own flow bytes = .error cause) :
    cause = .messageTooLong ∨ cause = .invalidArgument := by
  simp only [send, Bind.bind, Except.bind] at h
  split at h
  · split at h
    · rename_i hlength
      obtain rfl := Except.error.inj h
      exact .inl (checkLength_error hlength)
    · split at h
      · rename_i hport
        obtain rfl := Except.error.inj h
        exact .inr (checkPort_error hport)
      · exact .inl (transmit_error h)
  · exact .inl (transmit_error h)

end Network

/-- The second network is the first one after some texts got to a target: each was queued once, whole
and in order, at the one socket that the target selects, and nothing was queued elsewhere. -/
structure Sender.Delivered (net : Network) (target : Address) (texts : List String)
    (after : Network) : Prop where
  loopback : after.loopback = net.loopback
  addresses : after.addresses = net.addresses
  selected : ∀ a ∈ net.addresses, ∀ b ∈ net.addresses,
    target.selects a = true → target.selects b = true → a = b
  queued : ∀ a ∈ net.addresses, ∃ got, after.queueOf a = net.queueOf a ++ got ∧
    got.map Datagram.bytes =
      if target.selects a then texts.map fun text => utf8 text.toList else []

namespace Sender

variable {net : Network} {target : Address} {choice : Port} {choices : Nat → Port}

/-- What emissions show at a socket is what the target leads there. -/
theorem map_bytes_filterMap_emissions {texts : List String}
    (h : ∀ e ∈ emissions target choices texts, e.flow?.isSome = true) (own : Address) :
    ((emissions target choices texts).filterMap (Emission.shownAt own)).map Datagram.bytes =
      if target.selects own then texts.map fun text => utf8 text.toList else [] := by
  induction texts generalizing choices with
  | nil => simp [emissions]
  | cons text texts ih =>
    rw [emissions_cons] at h ⊢
    have hhead := map_bytes_shownAt_emission (h _ List.mem_cons_self) own
    have htail := ih fun e he => h e (List.mem_cons_of_mem _ he)
    rw [List.filterMap_cons]
    cases hselects : target.selects own with
    | true =>
      simp only [hselects, ↓reduceIte, Option.map_eq_some_iff] at hhead htail ⊢
      obtain ⟨d, hd, hbytes⟩ := hhead
      rw [hd]
      simp only [List.map_cons, hbytes, htail]
    | false =>
      simp only [hselects, Bool.false_eq_true, ↓reduceIte, Option.map_eq_none_iff] at hhead htail ⊢
      rw [hhead]
      exact htail

theorem selected_unique (hn : net.Exclusive) : ∀ a ∈ net.addresses, ∀ b ∈ net.addresses,
    target.selects a = true → target.selects b = true → a = b :=
  fun _ ha _ hb sa sb => hn.eq_of_conflicts ha hb (Address.conflicts_of_selects sa sb)

theorem delivered_nil (hn : net.Exclusive) : Delivered net target [] net := by
  refine ⟨rfl, rfl, selected_unique hn, ?_⟩
  intro a _
  exact ⟨[], (List.append_nil _).symm, by simp⟩

theorem delivered_of_carries (hn : net.Exclusive) (hup : net.loopback = .up) {texts : List String}
    {after : Network} (h : net.Carries (emissions target choices texts) after) :
    Delivered net target texts after := by
  refine ⟨h.loopback, h.addresses, selected_unique hn, ?_⟩
  intro a ha
  refine ⟨net.shown a (emissions target choices texts), h.queueOf a ha, ?_⟩
  rw [Network.shown_of_up hup]
  exact map_bytes_filterMap_emissions (h.routed hup) a

/-- A text that was sent has been delivered. -/
theorem delivered_of_send (hs : net.Sound) {text : String} {n : Nat}
    (h : (send net target text choice).result = .ok n) :
    net.loopback = .up ∧ Delivered net target [text] (send net target text choice).net := by
  have ha := attempt net target text choice
  have hc : net.Carries (emissions target (fun _ => choice) [text])
    (send net target text choice).net := (ha.succeeded hs h).2
  have hup : net.loopback = .up := by
    generalize send net target text choice = o at ha h
    cases ha with
    | unencodable | unopened | unconnected | unsent => cases h
    | sent encoded bound connected accepted =>
      obtain ⟨-, rfl, ho⟩ := Network.bind_eq_ok_iff.mp bound
      exact ho.loopback.symm.trans (Network.connect_wildcard_ok connected).1
  exact ⟨hup, delivered_of_carries hs.exclusive hup hc⟩

/-- What a delivered text is read back as, over whatever the reader's buffer held. -/
theorem decode_readOver {text : String} (hascii : ∀ c ∈ text.toList, c.toNat ≤ 0x7f)
    {d : Datagram} (hbytes : d.bytes = utf8 text.toList) (hlength : d.length ≤ Datagram.maxLength)
    (held : Bytes) : Payload.decode (d.readOver held bufferSize).bytes = .ok text := by
  have hroom : d.length ≤ bufferSize := Nat.le_trans hlength (by decide)
  rw [Datagram.readOver_eq_fitted, Datagram.fitted_eq hroom, hbytes]
  exact Payload.decode_eq_ok_iff_codes.mpr ⟨hascii, map_toNat_utf8 hascii⟩

/-- The socket that the target selects gets one datagram more, which is read back as the text. -/
theorem readBack_of_send (hs : net.Sound) {text : String}
    (hascii : ∀ c ∈ text.toList, c.toNat ≤ 0x7f) {n : Nat}
    (h : (send net target text choice).result = .ok n) {own : Address}
    (hown : own ∈ net.addresses) (hselects : target.selects own = true) :
    ∃ d, (send net target text choice).net.queueOf own = net.queueOf own ++ [d] ∧
      ∀ held, Payload.decode (d.readOver held bufferSize).bytes = .ok text := by
  obtain ⟨-, hdelivered⟩ := delivered_of_send hs h
  obtain ⟨got, hqueue, hgot⟩ := hdelivered.queued own hown
  simp only [hselects, ↓reduceIte, List.map_cons, List.map_nil] at hgot
  obtain ⟨d, rfl, hbytes⟩ := List.map_eq_singleton_iff.mp hgot
  have hsound := hs.carries ((attempt net target text choice).succeeded hs h).2
  have hlength : d.length ≤ Datagram.maxLength := by
    apply hsound.length_le
    rw [hqueue]
    exact List.mem_append_right _ List.mem_cons_self
  exact ⟨d, hqueue, decode_readOver hascii hbytes hlength⟩

/-- The first character that is no ASCII ends it, before anything is asked of the network. -/
theorem send_of_isFirst {text : String} {i : Nat} {c : Char}
    (h : IsFirst (0x7f < ·.toNat) text.toList i c) (net : Network) (target : Address)
    (choice : Port) : send net target text choice = ⟨.error (.encoding i c), net, []⟩ := by
  simp only [send, Payload.encode_of_isFirst h]

/-- Text of ASCII is sent if there is a way and it is short enough, and refused otherwise. -/
theorem send_of_ascii {opened : Network} {own : Address}
    (hbind : net.bind target.unspecifiedLike choice = .ok (own, opened)) {text : String}
    {p : Payload} (hp : Payload.encode text = .ok p) :
    (∃ flow, opened.connect own target = .ok flow) ∧ p.length ≤ target.lengthLimit ∧
        (send net target text choice).result = .ok p.length ∨
      ((target.IsDisguised → target.port ≠ 0) →
          ¬((∃ flow, opened.connect own target = .ok flow) ∧ p.length ≤ target.lengthLimit)) ∧
        ∃ cause, cause ≠ .familyNotSupported ∧
          (send net target text choice).result = .error (.transport target cause) := by
  obtain rfl := (Network.bind_eq_ok_iff.mp hbind).2.1
  have ha := attempt net target text choice
  generalize send net target text choice = o at ha ⊢
  cases ha with
  | unencodable unencoded => cases hp.symm.trans unencoded
  | unopened encoded unbound => cases hbind.symm.trans unbound
  | unconnected encoded bound refused =>
    obtain ⟨rfl, rfl⟩ := Prod.mk.inj (Except.ok.inj (hbind.symm.trans bound))
    refine .inr ⟨?_, _, Network.connect_wildcard_error refused, rfl⟩
    rintro - ⟨⟨flow, hflow⟩, -⟩
    cases refused.symm.trans hflow
  | unsent encoded bound connected refused =>
    obtain ⟨rfl, rfl⟩ := Prod.mk.inj (Except.ok.inj (hbind.symm.trans bound))
    obtain rfl := Except.ok.inj (hp.symm.trans encoded)
    refine .inr ⟨?_, _, ?_, rfl⟩
    · rintro hport ⟨-, hshort⟩
      cases refused.symm.trans (Network.send_wildcard connected hport hshort)
    · rcases Network.send_error refused with rfl | rfl <;> decide
  | sent encoded bound connected accepted =>
    obtain ⟨rfl, rfl⟩ := Prod.mk.inj (Except.ok.inj (hbind.symm.trans bound))
    obtain rfl := Except.ok.inj (hp.symm.trans encoded)
    have hshort := (Network.send_eq_ok accepted).2.1
    rw [(Network.connect_wildcard_ok connected).2.limit] at hshort
    exact .inl ⟨⟨_, connected⟩, hshort, rfl⟩

/-- A text gets whole to the one socket that its target selects, if it is ASCII, there is a way and
it is not too long. Otherwise the error tells what was wrong with it, the encoding first, and nothing
got anywhere. An IPv4 address in disguise has to have a port, or else nothing is sent there. -/
theorem text_arrives_or_error_tells {opened : Network} (hs : net.Sound) {own : Address}
    (hbind : net.bind target.unspecifiedLike choice = .ok (own, opened)) (text : String) :
    let o := send net target text choice
    ((target.IsDisguised → target.port ≠ 0) → ∀ n, o.result = .ok n ↔
      (∀ c ∈ text.toList, c.toNat ≤ 0x7f) ∧ (∃ flow, opened.connect own target = .ok flow) ∧
        n = text.length ∧ n ≤ target.lengthLimit) ∧
    (∀ n, o.result = .ok n → Delivered net target [text] o.net ∧
      ∀ a ∈ net.addresses, target.selects a = true → ∃ d, o.net.queueOf a = net.queueOf a ++ [d] ∧
        ∀ held, Payload.decode (d.readOver held bufferSize).bytes = .ok text) ∧
    (∀ e, o.result = .error e → o.net = net ∧
      ((∃ i c, e = .encoding i c ∧ IsFirst (0x7f < ·.toNat) text.toList i c) ∨
        (∀ c ∈ text.toList, c.toNat ≤ 0x7f) ∧
          ∃ cause, cause ≠ .familyNotSupported ∧ e = .transport target cause)) ∧
    (∀ i c, IsFirst (0x7f < ·.toNat) text.toList i c → ∀ net target choice,
      send net target text choice = ⟨.error (.encoding i c), net, []⟩) ∧
    own.isV6 = target.isV6 := by
  intro o
  have hfamily : own.isV6 = target.isV6 := by
    rw [(Network.bind_eq_ok_iff.mp hbind).2.1, Network.isV6_assigned_unspecifiedLike]
  have hkept : ∀ e, o.result = .error e → o.net = net :=
    fun e he => (attempt net target text choice).failed he
  rcases Payload.encode_cases text with ⟨p, hp, hascii, -, hlength⟩ | ⟨i, c, -, hfirst⟩
  · refine ⟨?_, ?_, ?_, fun _ _ => send_of_isFirst, hfamily⟩
    · intro hport n
      rw [← hlength]
      rcases send_of_ascii hbind hp with ⟨hway, hshort, hr⟩ | ⟨hno, cause, -, hr⟩
      · constructor
        · intro hn
          obtain rfl := Except.ok.inj (hr.symm.trans hn)
          exact ⟨hascii, hway, rfl, hshort⟩
        · rintro ⟨-, -, rfl, -⟩
          exact hr
      · constructor
        · intro hn
          cases hr.symm.trans hn
        · rintro ⟨-, hway, rfl, hshort⟩
          exact absurd ⟨hway, hshort⟩ (hno hport)
    · intro n hn
      exact ⟨(delivered_of_send hs hn).2, fun _ ha => readBack_of_send hs hascii hn ha⟩
    · intro e he
      refine ⟨hkept e he, .inr ⟨hascii, ?_⟩⟩
      rcases send_of_ascii hbind hp with ⟨-, -, hr⟩ | ⟨-, cause, hne, hr⟩
      · cases hr.symm.trans he
      · exact ⟨cause, hne, (Except.error.inj (hr.symm.trans he)).symm⟩
  · have hr : o.result = .error (.encoding i c) :=
      congrArg Outcome.result (send_of_isFirst hfirst net target choice)
    have hnot : ∀ n, o.result ≠ .ok n := by
      intro n hn
      cases hr.symm.trans hn
    refine ⟨?_, fun n hn => absurd hn (hnot n), ?_, fun _ _ => send_of_isFirst, hfamily⟩
    · intro _ n
      refine ⟨fun hn => absurd hn (hnot n), ?_⟩
      rintro ⟨hascii, -⟩
      obtain ⟨front, back, htext, -, hbad, -⟩ := hfirst
      have hc : c ∈ text.toList := by simp [htext]
      exact absurd hbad (Nat.not_lt.mpr (hascii c hc))
    · intro e he
      exact ⟨hkept e he, .inl ⟨i, c, (Except.error.inj (hr.symm.trans he)).symm, hfirst⟩⟩

/-- A text for an IPv4 address in disguise goes to a socket of either family. -/
theorem text_arrives_or_error_tells_disguised :
    let listener : Address := .v6 .unspecified 26001 0
    let net : Network := ⟨.up, [⟨listener, []⟩]⟩
    let target : Address := .v6 (.mapped .localhost) 26001 0
    let o := send net target "hi" 40000
    target.IsDisguised ∧ o.result = .ok 2 ∧ ∃ d, o.net.queueOf listener = [d] ∧
      ∀ held, Payload.decode (d.readOver held bufferSize).bytes = .ok "hi" := by
  intro listener net target o
  have hs : net.Sound := by
    refine ⟨?_, by decide +kernel⟩
    unfold Network.Exclusive
    decide +kernel
  obtain ⟨own, opened, hbind, hway⟩ : ∃ own opened,
      net.bind target.unspecifiedLike 40000 = .ok (own, opened) ∧
        ∃ flow, opened.connect own target = .ok flow := ⟨_, _, rfl, _, rfl⟩
  have hall := text_arrives_or_error_tells hs hbind "hi"
  have hport : target.IsDisguised → target.port ≠ 0 := fun _ => by decide +kernel
  have hr : o.result = .ok 2 := (hall.1 hport 2).mpr ⟨by simp, hway, rfl, by decide +kernel⟩
  obtain ⟨d, hd⟩ := (hall.2.1 2 hr).2 listener (by decide +kernel) (by decide +kernel)
  exact ⟨⟨rfl, .localhost, by decide +kernel⟩, hr, d, hd⟩

end Sender

end UdpBench
