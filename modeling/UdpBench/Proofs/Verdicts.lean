import UdpBench.Network.Ephemeral
import UdpBench.Proofs.Operations

namespace UdpBench

namespace Ip

/-- Where what is sent to an address arrives: the unspecified one stands for the interface's own. -/
def resolved : Ip → Ip
  | v4 ip => v4 (Loopback.resolveV4 .unspecified ip)
  | v6 ip => v6 (Loopback.resolveV6 ip)

end Ip

/-- A sender that is bound to no address of its own reaches `own` through the target. -/
def Address.selects (target own : Address) : Bool :=
  own.port == target.port && own.ip.covers target.ip.resolved

/-- Where a connected socket's datagrams go does not depend on where it is bound. -/
theorem Loopback.flowConnected_target (lo : Loopback) (own own' target : Address) (path : Path) :
    (lo.flowConnected own target path).map Flow.target =
      (lo.flowConnected own' target path).map Flow.target := by
  cases path with
  | v4 ownIp targetIp =>
    simp only [flowConnected, Bind.bind, Except.bind]
    split <;> rfl
  | v6 ownIp targetIp scope =>
    simp only [flowConnected, Bind.bind, Except.bind]
    split
    · rfl
    · cases lo.reachV6 (resolveV6 targetIp) <;> rfl
  | crossed targetIp => rfl

namespace Network

/-- The same addresses are taken, on interfaces in the same state. -/
structure Alike (net other : Network) : Prop where
  loopback : other.loopback = net.loopback
  addresses : other.addresses = net.addresses

theorem Carries.alike {net after : Network} {es : List Emission} (h : net.Carries es after) :
    net.Alike after := ⟨h.loopback, h.addresses⟩

/-- The system chooses a port that is free, unless none of its own is. -/
def Chooses (net : Network) (a : Address) (choice : Port) : Prop :=
  net.isFree (assigned a choice) = true ↔
    ∃ port : Port, isEphemeral port.toNat = true ∧ net.isFree (assigned a port) = true

variable {net other : Network}

theorem chooses_of_free {a : Address} {choice : Port} (hsystem : isEphemeral choice.toNat = true)
    (hfree : net.isFree (assigned a choice) = true) : net.Chooses a choice :=
  ⟨fun _ => ⟨choice, hsystem, hfree⟩, fun _ => hfree⟩

theorem Alike.trans {third : Network} (h : net.Alike other) (h' : other.Alike third) :
    net.Alike third := ⟨h'.loopback.trans h.loopback, h'.addresses.trans h.addresses⟩

theorem Alike.isFree (h : net.Alike other) (a : Address) : other.isFree a = net.isFree a := by
  simp only [Network.isFree, h.addresses]

/-- Whether a socket can be opened does not depend on which port the system chooses. -/
theorem Alike.isFree_choice (h : net.Alike other) {a : Address} {choice choice' : Port}
    (hc : net.Chooses a choice) (hc' : net.Chooses a choice') :
    other.isFree (assigned a choice') = net.isFree (assigned a choice) := by
  rw [h.isFree]
  exact Bool.eq_iff_iff.mpr (hc'.trans hc.symm)

/-- An address that takes everything is admitted anywhere. -/
theorem bind_unspecifiedLike (net : Network) (target : Address) (choice : Port) :
    net.bind target.unspecifiedLike choice =
      if net.isFree (assigned target.unspecifiedLike choice) then
        .ok (assigned target.unspecifiedLike choice,
          { net with sockets := net.sockets ++ [⟨assigned target.unspecifiedLike choice, []⟩] })
      else .error .addressInUse := by
  have hadmits : net.loopback.admits target.unspecifiedLike = .ok () := by
    cases target with
    | v4 => simp [Loopback.admits, Address.unspecifiedLike, Address.ip]
    | v6 =>
      have hmapped : Ipv6.unspecified.mapped? = none := rfl
      have hscope : Ipv6.unspecified.needsScope = false := rfl
      simp [Loopback.admits, Address.unspecifiedLike, Address.ip, hmapped, hscope]
  simp only [bind, hadmits, Bind.bind, Except.bind]
  rfl

/-- The way to a target does not depend on the port at its beginning. -/
theorem connect_unspecifiedLike (net : Network) (target : Address) (choice : Port) :
    (net.connect (assigned target.unspecifiedLike choice) target).map Flow.target =
      (net.connect target.unspecifiedLike target).map Flow.target := by
  have hbetween : Path.between (assigned target.unspecifiedLike choice) target =
      Path.between target.unspecifiedLike target := by
    cases target <;> rfl
  simp only [connect, hbetween]
  cases Path.between target.unspecifiedLike target with
  | error cause => rfl
  | ok path => exact Loopback.flowConnected_target ..

theorem send_congr {own own' : Address} {flow flow' : Flow} (hown : own.isV6 = own'.isV6)
    (hflow : flow.target = flow'.target) (bytes : Bytes) :
    (net.send own flow bytes).map Prod.fst = (other.send own' flow' bytes).map Prod.fst := by
  have htransmit : (net.transmit flow bytes).map Prod.fst =
      (other.transmit flow' bytes).map Prod.fst := by
    simp only [transmit, hflow]
    split <;> rfl
  simp only [send, hown, hflow, Bind.bind, Except.bind]
  split
  · cases checkLength true bytes with
    | error => rfl
    | ok =>
      cases checkPort flow'.target with
      | error => rfl
      | ok => exact htransmit
  · exact htransmit

end Network

/-- What is sent to a target goes where the target is resolved to. -/
theorem Emission.flow?_target {target : Address} {choice : Port} {bytes : Bytes} {flow : Flow}
    (h : flow? ⟨Network.assigned target.unspecifiedLike choice, target, bytes⟩ = some flow) :
    flow.target.port = target.port ∧ flow.target.ip = target.ip.resolved := by
  have hv4 {own : Address} {ownIp ip : Ipv4} {flow : Flow}
      (h : (Loopback.up.flowTo own target (.v4 ownIp ip)).toOption = some flow) :
      flow.target = .v4 (Loopback.resolveV4 ownIp ip) target.port := by
    simp only [Loopback.flowTo, Bind.bind, Except.bind, pure, Except.pure] at h
    split at h
    · split at h
      · cases h
      · exact Option.some.inj h ▸ rfl
    · exact Option.some.inj h ▸ rfl
  cases target with
  | v4 ip port =>
    rw [hv4 h]
    exact ⟨rfl, rfl⟩
  | v6 ip port scope =>
    have hmapped : Ipv6.unspecified.mapped? = none := rfl
    have hlocalhost : Ipv6.localhost.mapped? = none := rfl
    have hown : Network.assigned (Address.v6 ip port scope).unspecifiedLike choice =
        .v6 .unspecified choice 0 := rfl
    rw [hown] at h
    cases hm : ip.mapped? with
    | some inner =>
      simp only [flow?, Path.between, Path.dual, hm, hmapped, ↓reduceIte] at h
      rw [hv4 h]
      simp only [Address.port, Address.ip, hm, Ip.resolved, and_self]
    | none =>
      simp only [flow?, Path.between, hm, hmapped, Loopback.flowTo, Loopback.reachV6, Bind.bind,
        Except.bind, pure, Except.pure, reduceCtorEq, ↓reduceIte] at h
      by_cases hr : Loopback.resolveV6 ip = .localhost
      · simp only [hr, ↓reduceIte] at h
        obtain rfl := Option.some.inj h
        simp only [Loopback.flowV6, Address.port, Address.ip, hm, hlocalhost, Ip.resolved, hr,
          and_self]
      · simp only [hr, ↓reduceIte] at h
        cases h

theorem except_map_eq_map {ε α β γ : Type} {f : α → γ} {g : β → γ} {x : Except ε α} {y : Except ε β}
    (h : x.map f = y.map g) : (∃ e, x = .error e ∧ y = .error e) ∨
      ∃ a b, x = .ok a ∧ y = .ok b ∧ f a = g b := by
  cases x <;> cases y <;> simp_all [Except.map]

namespace Sender

variable {net other : Network} {target : Address}

theorem sendFrom_result_congr {own own' : Address} (hown : own.isV6 = own'.isV6)
    (h : (net.connect own target).map Flow.target = (other.connect own' target).map Flow.target)
    (payload : Payload) :
    (sendFrom net own target payload).result = (sendFrom other own' target payload).result := by
  unfold sendFrom
  rcases except_map_eq_map h with ⟨cause, hc, hc'⟩ | ⟨flow, flow', hc, hc', hflow⟩
  · rw [hc, hc']
  · rw [hc, hc']
    have hsend : (net.send own flow payload.bytes).map Prod.fst =
        (other.send own' flow' payload.bytes).map Prod.fst := Network.send_congr hown hflow _
    rcases except_map_eq_map hsend with ⟨cause, hs, hs'⟩ | ⟨⟨n, _⟩, ⟨n', _⟩, hs, hs', hn⟩
    · simp only [hs, hs']
    · obtain rfl : n = n' := hn
      simp only [hs, hs']
      split <;> rfl

/-- What becomes of an attempt does not depend on the port that the system chooses, nor on what is
queued anywhere. -/
theorem send_result_congr (h : net.Alike other) {choice choice' : Port}
    (hc : net.Chooses target.unspecifiedLike choice)
    (hc' : net.Chooses target.unspecifiedLike choice') (text : String) :
    (send other target text choice').result = (send net target text choice).result := by
  have hfree := h.isFree_choice hc hc'
  simp only [send, Network.bind_unspecifiedLike, hfree]
  cases Payload.encode text with
  | error e => rfl
  | ok payload =>
    by_cases hopen : net.isFree (Network.assigned target.unspecifiedLike choice) = true
    · simp only [hopen, ↓reduceIte]
      apply sendFrom_result_congr
      · cases target <;> rfl
      · rw [Network.connect_unspecifiedLike, Network.connect_unspecifiedLike]
        simp only [Network.connect, h.loopback]
    · simp only [hopen, Bool.false_eq_true, ↓reduceIte]

/-- Each text has its own result, whenever it is sent. -/
def Judges (net : Network) (target : Address) (verdict : String → Except Error Nat) : Prop :=
  ∀ other choice text, net.Alike other → net.Chooses target.unspecifiedLike choice →
    (send other target text choice).result = verdict text

theorem judges_send {choice : Port} (hc : net.Chooses target.unspecifiedLike choice) :
    Judges net target fun text => (send net target text choice).result :=
  fun _ _ text halike hchoice => send_result_congr halike hc hchoice text

/-- The result of a series: how many texts there are, or the first failure. -/
def outcome (verdict : String → Except Error Nat) : List String → Except Error Nat
  | [] => .ok 0
  | text :: texts =>
    match verdict text with
    | .error e => .error e
    | .ok _ => (outcome verdict texts).map (· + 1)

section Judged

variable {verdict : String → Except Error Nat}

theorem outcome_append {done : List String} (hdone : ∀ text ∈ done, (verdict text).isOk = true)
    (texts : List String) :
    outcome verdict (done ++ texts) = (outcome verdict texts).map (· + done.length) := by
  induction done with
  | nil =>
    rw [List.nil_append]
    cases outcome verdict texts <;> rfl
  | cons text done ih =>
    have hhead := hdone text List.mem_cons_self
    rw [List.cons_append, outcome, ih fun t ht => hdone t (List.mem_cons_of_mem _ ht)]
    cases hv : verdict text with
    | error e =>
      rw [hv] at hhead
      cases hhead
    | ok n => cases outcome verdict texts <;> rfl

/-- A series goes as far as the texts let it. -/
theorem Judges.sendAll (hv : Judges net target verdict) {other : Network} (hs : other.Sound)
    (halike : net.Alike other) {choices : Nat → Port}
    (hc : ∀ k, net.Chooses target.unspecifiedLike (choices k)) (texts : List String) :
    accepted target choices other texts = texts.takeWhile (fun text => (verdict text).isOk) ∧
      (Sender.sendAll target choices other texts).result = outcome verdict texts := by
  induction texts generalizing other choices with
  | nil => exact ⟨rfl, rfl⟩
  | cons text texts ih =>
    have hresult := hv other (choices 0) text halike (hc 0)
    cases hr : verdict text with
    | error e =>
      rw [hr] at hresult
      simp only [accepted, Sender.sendAll, hresult, outcome, hr, List.takeWhile_cons, Except.isOk,
        Except.toBool, Bool.false_eq_true, ↓reduceIte, and_self]
    | ok n =>
      rw [hr] at hresult
      obtain ⟨_, hcarries⟩ := (attempt ..).succeeded hs hresult
      obtain ⟨hacc, hrest⟩ :=
        ih (hs.carries hcarries) (halike.trans hcarries.alike) fun k => hc (k + 1)
      simp only [accepted, Sender.sendAll, hresult, outcome, hr, hacc, hrest, List.takeWhile_cons,
        Except.isOk, Except.toBool, ↓reduceIte, and_self]

end Judged

/-- What was sent is shown to those who are reached through the target. -/
theorem map_bytes_shownAt_emission {choice : Port} {text : String}
    (h : (emission target choice text).flow?.isSome = true) (own : Address) :
    ((emission target choice text).shownAt own).map Datagram.bytes =
      if target.selects own then some (utf8 text.toList) else none := by
  obtain ⟨flow, hflow⟩ := Option.isSome_iff_exists.mp h
  obtain ⟨hport, hip⟩ := Emission.flow?_target hflow
  have hselects : own.receives flow.target = target.selects own := by
    rw [Address.receives, Address.selects, hport, hip]
  simp only [Emission.shownAt, hflow, hselects]
  split <;> rfl

end Sender

end UdpBench
