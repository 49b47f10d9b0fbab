import UdpBench.Address.Parser
import UdpBench.Proofs.Addresses
import UdpBench.Proofs.Plain

namespace UdpBench

theorem readMark_eq_some_iff {mark : Char} {cs rest : List Char} :
    readMark mark cs = some rest ↔ cs = mark :: rest := by
  cases cs with
  | nil => simp [readMark]
  | cons c cs => simp [readMark, eq_comm]

namespace Ipv4

variable {cs rest : List Char}

theorem octetForm_decimal {n : Nat} (h : n < 256) : octetForm (decimal n) = true := by
  have hshort : (decimal n).length ≤ 3 :=
    (Nat.length_toDigits_le_iff (by decide) (by decide)).mpr (Nat.lt_trans h (by decide))
  simp only [octetForm, hshort, decide_true, Bool.true_and, Bool.or_eq_true, beq_iff_eq, bne_iff_ne]
  rcases Nat.eq_zero_or_pos n with rfl | hpos
  · exact .inl rfl
  · exact .inr (head?_decimal hpos)

theorem readOctet_eq_some_iff {b : UInt8} :
    readOctet cs = some (b, rest) ↔ cs = decimal b.toNat ++ rest ∧ NoDigit 10 rest := by
  simp only [readOctet, Option.map_eq_some_iff, Prod.exists, Prod.mk.injEq]
  constructor
  · rintro ⟨n, _, hread, rfl, rfl⟩
    obtain ⟨ds, rfl, hds, hlt, hform, hrest⟩ := readNumeral_eq_some_iff.mp hread
    simp only [octetForm, Bool.and_eq_true, Bool.or_eq_true, beq_iff_eq, bne_iff_ne] at hform
    have hn : n.toUInt8.toNat = n := Nat.mod_eq_of_lt hlt
    rw [hn, ← hds.eq_decimal hform.2]
    exact ⟨rfl, hrest⟩
  · rintro ⟨rfl, hrest⟩
    refine ⟨b.toNat, rest, readNumeral_eq_some_iff.mpr ⟨_, rfl, isNumeral_decimal _, b.toNat_lt,
      octetForm_decimal b.toNat_lt, hrest⟩, UInt8.ofNat_toNat, rfl⟩

/-- There is one way to write an IPv4 address. -/
theorem read_eq_some_iff {ip : Ipv4} :
    read cs = some (ip, rest) ↔ cs = ip.chars ++ rest ∧ NoDigit 10 rest := by
  have hpoint (rest : List Char) : NoDigit 10 ('.' :: rest) := noDigit_cons_iff.mpr rfl
  simp only [read, Option.bind_eq_bind, Option.bind_eq_some_iff, Prod.exists, readMark_eq_some_iff,
    readOctet_eq_some_iff, Option.pure_def, Option.some.injEq, Prod.mk.injEq]
  constructor
  · rintro ⟨a, _, ⟨rfl, -⟩, _, rfl, b, _, ⟨rfl, -⟩, _, rfl, c, _, ⟨rfl, -⟩, _, rfl, d, _,
      ⟨rfl, hrest⟩, rfl, rfl⟩
    exact ⟨by simp [chars], hrest⟩
  · rintro ⟨rfl, hrest⟩
    exact ⟨ip.a, _, ⟨by simp [chars], hpoint _⟩, _, rfl, ip.b, _, ⟨rfl, hpoint _⟩, _, rfl, ip.c, _,
      ⟨rfl, hpoint _⟩, _, rfl, ip.d, _, ⟨rfl, hrest⟩, rfl, rfl⟩

theorem read_eq_none (h : NoDigit 10 cs) : read cs = none := by
  simp [read, readOctet, readNumeral_eq_none h]

end Ipv4

namespace Ipv6

variable {isFirst q : Bool} {room : Nat} {g : UInt16} {gs : List UInt16} {ip : Ipv6}
  {ds cs rest : List Char}

/-- A group as it may be written. -/
structure IsGroup (g : UInt16) (ds : List Char) : Prop extends IsNumeral 16 g.toNat ds where
  short : ds.length ≤ 4

theorem readGroup_eq_some_iff : readGroup cs = some (g, rest) ↔
    ∃ ds, cs = ds ++ rest ∧ IsGroup g ds ∧ NoDigit 16 rest := by
  simp only [readGroup, Option.map_eq_some_iff, Prod.exists, Prod.mk.injEq]
  constructor
  · rintro ⟨n, _, hread, rfl, rfl⟩
    obtain ⟨ds, rfl, hds, hlt, hshort, hrest⟩ := readNumeral_eq_some_iff.mp hread
    have hn : n.toUInt16.toNat = n := Nat.mod_eq_of_lt hlt
    exact ⟨ds, rfl, ⟨hn.symm ▸ hds, of_decide_eq_true hshort⟩, hrest⟩
  · rintro ⟨ds, rfl, hds, hrest⟩
    exact ⟨g.toNat, rest, readNumeral_eq_some_iff.mpr ⟨ds, rfl, hds.toIsNumeral, g.toNat_lt,
      decide_eq_true hds.short, hrest⟩, UInt16.ofNat_toNat, rfl⟩

/-- Groups as they may stand in a row, and whether the last two are written as an IPv4 address. -/
inductive Row : List UInt16 → Bool → List Char → Prop
  | nil : Row [] false []
  | group {g : UInt16} {ds : List Char} (h : IsGroup g ds) : Row [g] false ds
  | quad (ip : Ipv4) : Row (quadGroups ip) true ip.chars
  | cons {g : UInt16} {gs : List UInt16} {q : Bool} {ds cs : List Char} (h : IsGroup g ds)
    (more : Row gs q cs) (hne : gs ≠ []) : Row (g :: gs) q (ds ++ ':' :: cs)

/-- Every way to write an address. -/
inductive Form (ip : Ipv6) : List Char → Prop
  | full {q : Bool} {cs : List Char} (row : Row ip.groups q cs) : Form ip cs
  /-- Two colons stand for any groups that are zero. -/
  | gap {front back : List UInt16} {n : Nat} {q : Bool} {cs cs' : List Char}
    (groups_eq : ip.groups = front ++ List.replicate n 0 ++ back) (hn : 0 < n)
    (frontRow : Row front false cs) (backRow : Row back q cs') : Form ip (cs ++ ':' :: ':' :: cs')

/-! What is in a form is read. -/

/-- What stands in front of some groups: a colon, unless they are the first. -/
def lead (isFirst : Bool) (cs : List Char) : List Char := if isFirst then cs else ':' :: cs

theorem afterColon_eq_some_iff : afterColon isFirst cs = some rest ↔ cs = lead isFirst rest := by
  cases isFirst
  · exact readMark_eq_some_iff
  · simp [afterColon, lead]

theorem afterColon_lead (isFirst : Bool) (cs : List Char) :
    afterColon isFirst (lead isFirst cs) = some cs := afterColon_eq_some_iff.mpr rfl

/-- What can follow a row of groups without making it longer. -/
structure Ends (rest : List Char) : Prop where
  noDigit : NoDigit 16 rest
  noPoint : rest.head? ≠ some '.'
  noGroup : ∀ cs, rest = ':' :: cs → NoDigit 16 cs

/-- The digits of a group do not begin an IPv4 address, unless a point follows. -/
theorem IsGroup.read_eq_none (h : IsGroup g ds) (hdigit : NoDigit 16 rest)
    (hpoint : rest.head? ≠ some '.') : Ipv4.read (ds ++ rest) = none := by
  rw [Option.eq_none_iff_forall_ne_some]
  rintro ⟨ip, behind⟩ hread
  obtain ⟨heq, -⟩ := Ipv4.read_eq_some_iff.mp hread
  simp only [Ipv4.chars, List.append_assoc, List.cons_append] at heq
  rcases List.append_eq_append_iff.mp heq with ⟨as, hdecimal, rfl⟩ | ⟨as, rfl, hrest⟩
  · cases as with
    | nil => exact hpoint rfl
    | cons a as =>
      have ha := (isNumeral_decimal ip.a.toNat).digits a (by simp [hdecimal])
      exact Bool.eq_false_iff.mp (noDigit_cons_iff.mp hdigit) (isDigitOf_mono (by decide) ha)
  · cases as with
    | nil => exact hpoint (congrArg List.head? hrest.symm)
    | cons a as =>
      obtain ⟨rfl, -⟩ := List.cons.inj hrest
      cases h.digits '.' (by simp)

theorem readGroups_eq_nil (h : ∀ cs', cs = lead isFirst cs' → NoDigit 16 cs') :
    readGroups isFirst room cs = ⟨[], false, cs⟩ := by
  cases room with
  | zero => rfl
  | succ room =>
    have hnone {α : Type} {f : List Char → Option α} (hf : ∀ cs', NoDigit 16 cs' → f cs' = none) :
        afterColon isFirst cs >>= f = none := by
      cases hcs : afterColon isFirst cs with
      | none => rfl
      | some cs' => exact hf cs' (h cs' (afterColon_eq_some_iff.mp hcs))
    have hquad := hnone fun cs' h => Ipv4.read_eq_none (h.mono (by decide))
    have hgroup := hnone (f := readGroup) fun cs' h => by rw [readGroup, readNumeral_eq_none h]; rfl
    simp [readGroups, hquad, hgroup]

theorem readGroups_quad {inner : Ipv4} (h : Ipv4.read cs = some (inner, rest)) :
    readGroups isFirst (room + 2) (lead isFirst cs) = ⟨quadGroups inner, true, rest⟩ := by
  simp [readGroups, afterColon_lead, h]

theorem readGroups_group (hquad : Ipv4.read cs = none) (h : readGroup cs = some (g, rest)) :
    readGroups isFirst (room + 1) (lead isFirst cs) =
      { readGroups false room rest with groups := g :: (readGroups false room rest).groups } := by
  simp [readGroups, afterColon_lead, hquad, h]

theorem readGroups_of_row (h : Row gs q cs) (hne : gs ≠ []) (hroom : gs.length ≤ room)
    (hrest : Ends rest) : readGroups isFirst room (lead isFirst (cs ++ rest)) = ⟨gs, q, rest⟩ := by
  induction h generalizing isFirst room with
  | nil => exact absurd rfl hne
  | group h =>
    obtain ⟨room, rfl⟩ := Nat.exists_eq_add_of_le' hroom
    have hgroup := readGroup_eq_some_iff.mpr ⟨_, rfl, h, hrest.noDigit⟩
    have hquad := h.read_eq_none hrest.noDigit hrest.noPoint
    rw [List.length_singleton, readGroups_group hquad hgroup, readGroups_eq_nil hrest.noGroup]
  | quad inner =>
    obtain ⟨room, rfl⟩ := Nat.exists_eq_add_of_le' hroom
    have hquad : Ipv4.read (inner.chars ++ rest) = some (inner, rest) :=
      Ipv4.read_eq_some_iff.mpr ⟨rfl, hrest.noDigit.mono (by decide)⟩
    exact readGroups_quad hquad
  | @cons _ _ _ _ cs h more hmore ih =>
    cases room with
    | zero => cases hroom
    | succ room =>
      have hcolon : NoDigit 16 (':' :: (cs ++ rest)) := noDigit_cons_iff.mpr rfl
      have hgroup := readGroup_eq_some_iff.mpr ⟨_, rfl, h, hcolon⟩
      have hquad := h.read_eq_none hcolon (by simp)
      have hbehind : readGroups false room (':' :: (cs ++ rest)) = ⟨_, _, rest⟩ :=
        ih hmore (Nat.le_of_succ_le_succ hroom)
      rw [List.append_assoc, List.cons_append, readGroups_group hquad hgroup, hbehind]

theorem readGroups_first (h : Row gs q cs) (hroom : gs.length ≤ room) (hrest : Ends rest) :
    readGroups true room (cs ++ rest) = ⟨gs, q, rest⟩ := by
  by_cases hne : gs = []
  · subst hne
    cases h
    exact readGroups_eq_nil fun cs' hcs' => (show rest = cs' from hcs') ▸ hrest.noDigit
  · exact readGroups_of_row h hne hroom hrest

/-- An address ends where its scope begins, or the bracket is closed. -/
def Closes (rest : List Char) : Prop := rest.head? = some '%' ∨ rest.head? = some ']'

theorem Closes.ends (h : Closes rest) : Ends rest := by
  cases rest with
  | nil => simp [Closes] at h
  | cons c rest =>
    simp only [Closes, List.head?_cons, Option.some.injEq] at h
    rcases h with rfl | rfl <;> exact ⟨noDigit_cons_iff.mpr rfl, by simp, by simp⟩

theorem ofGroups?_eq_some_iff : ofGroups? gs = some ip ↔ ip.groups = gs := by
  simp only [ofGroups?]
  constructor
  · intro h
    split at h
    · rw [← Option.some.inj h]
    · cases h
  · rintro rfl
    rw [dif_pos ip.length_groups]

theorem read_of_form (h : Form ip cs) (hrest : Closes rest) :
    read (cs ++ rest) = some (ip, rest) := by
  have hends := hrest.ends
  cases h with
  | full row =>
    have hread := readGroups_first row (Nat.le_of_eq ip.length_groups) hends
    have hgroups : ofGroups? ip.groups = some ip := ofGroups?_eq_some_iff.mpr rfl
    simp [read, hread, ip.length_groups, hgroups]
  | @gap front back n q cs cs' groups_eq hn frontRow backRow =>
    have hlen := ip.length_groups
    rw [groups_eq, List.length_append, List.length_append, List.length_replicate] at hlen
    have hcolons : Ends (':' :: ':' :: (cs' ++ rest)) := by
      refine ⟨noDigit_cons_iff.mpr rfl, by simp, ?_⟩
      rintro cs hcs
      obtain rfl := List.cons.inj hcs |>.2
      exact noDigit_cons_iff.mpr rfl
    have hfront : readGroups true 8 (cs ++ ':' :: ':' :: (cs' ++ rest)) = ⟨front, false, _⟩ :=
      readGroups_first frontRow (by omega) hcolons
    have hback : readGroups true (7 - front.length) (cs' ++ rest) = ⟨back, q, rest⟩ :=
      readGroups_first backRow (by omega) hends
    have hzeros : 8 - front.length - back.length = n := by omega
    have hgroups : ofGroups? (front ++ List.replicate n 0 ++ back) = some ip :=
      ofGroups?_eq_some_iff.mpr groups_eq
    rw [List.append_assoc, List.cons_append, List.cons_append, read]
    simp only [hfront, show front.length ≠ 8 by omega, ↓reduceIte, Bool.false_eq_true, readMark,
      hback, hzeros, hgroups, Option.bind_eq_bind, Option.bind_some, Option.pure_def]

/-! What is read is in a form. -/

theorem row_of_readGroups (h : readGroups isFirst room cs = ⟨gs, q, rest⟩) : gs.length ≤ room ∧
    (gs = [] ∧ q = false ∧ rest = cs ∨
      gs ≠ [] ∧ ∃ cs', cs = lead isFirst (cs' ++ rest) ∧ Row gs q cs') := by
  induction room generalizing isFirst cs gs with
  | zero =>
    obtain ⟨rfl, rfl, rfl⟩ := Groups.mk.inj h
    exact ⟨Nat.le_refl 0, .inl ⟨rfl, rfl, rfl⟩⟩
  | succ room ih =>
    rw [readGroups] at h
    split at h
    · rename_i inner _ hquad
      obtain ⟨rfl, rfl, rfl⟩ := Groups.mk.inj h
      split at hquad
      · cases hquad
      · rename_i hroom
        obtain ⟨cs', hcs', hread⟩ := Option.bind_eq_some_iff.mp hquad
        obtain ⟨rfl, -⟩ := Ipv4.read_eq_some_iff.mp hread
        refine ⟨?_, .inr ⟨by simp [quadGroups], _, afterColon_eq_some_iff.mp hcs', .quad inner⟩⟩
        exact Nat.succ_le_succ (Nat.pos_of_ne_zero hroom)
    · split at h
      · obtain ⟨rfl, rfl, rfl⟩ := Groups.mk.inj h
        exact ⟨Nat.zero_le _, .inl ⟨rfl, rfl, rfl⟩⟩
      · rename_i g behind hgroup
        obtain ⟨cs', hcs', hread⟩ := Option.bind_eq_some_iff.mp hgroup
        obtain ⟨ds, rfl, hds, -⟩ := readGroup_eq_some_iff.mp hread
        obtain ⟨rfl, hq, hrest⟩ := Groups.mk.inj h
        have hbehind : readGroups false room behind =
            ⟨(readGroups false room behind).groups, q, rest⟩ := by rw [← hq, ← hrest]
        obtain ⟨hlen, hmore⟩ := ih hbehind
        refine ⟨Nat.succ_le_succ hlen, .inr ⟨by simp, ?_⟩⟩
        rw [afterColon_eq_some_iff.mp hcs']
        rcases hmore with ⟨hnil, rfl, rfl⟩ | ⟨hne, cs'', hbehind, row⟩
        · rw [hnil]
          exact ⟨ds, rfl, .group hds⟩
        · refine ⟨ds ++ ':' :: cs'', ?_, .cons hds row hne⟩
          rw [hbehind, List.append_assoc]
          rfl

theorem first_of_readGroups (room : Nat) (cs : List Char) :
    (readGroups true room cs).groups.length ≤ room ∧
      ∃ cs', cs = cs' ++ (readGroups true room cs).rest ∧
        Row (readGroups true room cs).groups (readGroups true room cs).endsInQuad cs' := by
  obtain ⟨hlen, ⟨hnil, hq, hrest⟩ | ⟨-, cs', hcs, row⟩⟩ :=
    row_of_readGroups (Eq.refl (readGroups true room cs))
  · refine ⟨hlen, [], hrest.symm, ?_⟩
    rw [hnil, hq]
    exact .nil
  · exact ⟨hlen, cs', hcs, row⟩

theorem form_of_read (h : read cs = some (ip, rest)) :
    ∃ text, cs = text ++ rest ∧ Form ip text := by
  obtain ⟨hlen, text, htext, row⟩ := first_of_readGroups 8 cs
  simp only [read] at h
  generalize readGroups true 8 cs = front at h hlen htext row
  subst htext
  split at h
  · simp only [Option.map_eq_some_iff, ofGroups?_eq_some_iff, Prod.mk.injEq] at h
    obtain ⟨_, hgroups, rfl, rfl⟩ := h
    exact ⟨text, rfl, .full (hgroups ▸ row)⟩
  · rename_i hshort
    split at h
    · cases h
    · rename_i hquad
      simp only [Option.bind_eq_bind, Option.bind_eq_some_iff, readMark_eq_some_iff,
        ofGroups?_eq_some_iff, Option.pure_def, Option.some.injEq, Prod.mk.injEq] at h
      obtain ⟨cs₁, hfront, cs₂, rfl, _, hgroups, rfl, rfl⟩ := h
      obtain ⟨hlen', text', htext', row'⟩ := first_of_readGroups (7 - front.groups.length) cs₂
      rw [Bool.eq_false_iff.mpr hquad] at row
      refine ⟨text ++ ':' :: ':' :: text', ?_, .gap hgroups (by omega) row row'⟩
      rw [hfront, List.append_assoc, List.cons_append, List.cons_append, ← htext']

/-! What is printed is in a form. -/

theorem isGroup_hexadecimal (g : UInt16) : IsGroup g (hexadecimal g.toNat) :=
  ⟨isNumeral_hexadecimal _, (Nat.length_toDigits_le_iff (by decide) (by decide)).mpr g.toNat_lt⟩

theorem row_groupChars (gs : List UInt16) : Row gs false (groupChars gs) := by
  fun_induction groupChars gs with
  | case1 => exact .nil
  | case2 g => exact .group (isGroup_hexadecimal g)
  | case3 g gs hne ih => exact .cons (isGroup_hexadecimal g) ih fun h => hne h

theorem eq_replicate_zerosAhead (gs : List UInt16) :
    ∃ back, gs = List.replicate (zerosAhead gs) 0 ++ back := by
  have hzeros : gs.takeWhile (· == 0) = List.replicate (zerosAhead gs) 0 := by
    refine List.eq_replicate_iff.mpr ⟨rfl, fun g hg => ?_⟩
    exact eq_of_beq (List.all_eq_true.mp List.all_takeWhile g hg)
  exact ⟨gs.dropWhile (· == 0), by rw [← hzeros, List.takeWhile_append_dropWhile]⟩

/-- Where the longest run of zeros is said to be, there are as many zeros. -/
theorem eq_append_longestZeros (gs : List UInt16) : ∃ front back,
    gs = front ++ List.replicate (longestZeros gs).2 0 ++ back ∧
      front.length = (longestZeros gs).1 := by
  induction gs with
  | nil => exact ⟨[], [], rfl, rfl⟩
  | cons g gs ih =>
    have hcons : longestZeros (g :: gs) = if (longestZeros gs).2 ≤ zerosAhead (g :: gs) then
      (0, zerosAhead (g :: gs)) else ((longestZeros gs).1 + 1, (longestZeros gs).2) := rfl
    rw [hcons]
    split
    · obtain ⟨back, hback⟩ := eq_replicate_zerosAhead (g :: gs)
      exact ⟨[], back, hback, rfl⟩
    · obtain ⟨front, back, hgroups, hlen⟩ := ih
      exact ⟨g :: front, back, congrArg (g :: ·) hgroups, congrArg Nat.succ hlen⟩

theorem form_compressed (ip : Ipv6) : Form ip (compressed ip.groups) := by
  obtain ⟨front, back, hgroups, hlen⟩ := eq_append_longestZeros ip.groups
  unfold compressed
  generalize longestZeros ip.groups = run at hgroups hlen
  obtain ⟨start, length⟩ := run
  dsimp only at hgroups hlen ⊢
  split
  · exact .full (row_groupChars ip.groups)
  · have hfront : ip.groups.take start = front := by
      rw [hgroups, List.append_assoc, ← hlen, List.take_left]
    have hback : ip.groups.drop (start + length) = back := by
      have hskip : start + length = (front ++ List.replicate length 0).length := by simp [hlen]
      rw [hskip, hgroups, List.drop_left]
    rw [hfront, hback]
    exact .gap hgroups (by omega) (row_groupChars front) (row_groupChars back)

theorem quadGroups_quad (hi lo : UInt16) : quadGroups (quad hi lo) = [hi, lo] := by
  have hjoin (x : UInt16) : (x / 256).toUInt8.toUInt16 * 256 + (x % 256).toUInt8.toUInt16 = x := by
    apply UInt16.toNat_inj.mp
    have hx := x.toNat_lt
    simp
    omega
  simp only [quadGroups, quad, hjoin]

theorem groups_of_mapped? {inner : Ipv4} (h : ip.mapped? = some inner) :
    ip.groups = List.replicate 5 0 ++ 0xffff :: quadGroups inner := by
  unfold mapped? at h
  split at h
  · rename_i hi lo hgroups
    rw [hgroups, ← Option.some.inj h, quadGroups_quad]
    rfl
  · cases h

theorem form_chars (ip : Ipv6) : Form ip ip.chars := by
  unfold chars
  split
  · rename_i inner hmapped
    have hgroup : IsGroup 0xffff ['f', 'f', 'f', 'f'] := isGroup_hexadecimal 0xffff
    have hback : Row (0xffff :: quadGroups inner) true
        (['f', 'f', 'f', 'f'] ++ ':' :: inner.chars) :=
      .cons hgroup (.quad inner) (by simp [quadGroups])
    have hgroups : ip.groups = [] ++ List.replicate 5 0 ++ 0xffff :: quadGroups inner :=
      groups_of_mapped? hmapped
    exact .gap hgroups (by decide) .nil hback
  · exact form_compressed ip

end Ipv6

namespace Address

variable {a : Address} {port : Port} {scope : UInt32} {cs ds rest : List Char}

/-- Every way to write an address. The digits of port and scope may have zeros in front. -/
inductive Form : Address → List Char → Prop
  | v4 {ip : Ipv4} {port : Port} {ds : List Char} (hport : IsNumeral 10 port.toNat ds) :
    Form (.v4 ip port) (ip.chars ++ ':' :: ds)
  | v6 {ip : Ipv6} {port : Port} {cs ds : List Char} (hip : ip.Form cs)
    (hport : IsNumeral 10 port.toNat ds) : Form (.v6 ip port 0) ('[' :: cs ++ ']' :: ':' :: ds)
  | withScope {ip : Ipv6} {port : Port} {scope : UInt32} {cs ds es : List Char} (hip : ip.Form cs)
    (hscope : IsNumeral 10 scope.toNat es) (hport : IsNumeral 10 port.toNat ds) :
    Form (.v6 ip port scope) ('[' :: cs ++ '%' :: es ++ ']' :: ':' :: ds)

theorem readPort_eq_some_iff : readPort cs = some (port, rest) ↔
    ∃ ds, cs = ':' :: ds ++ rest ∧ IsNumeral 10 port.toNat ds ∧ NoDigit 10 rest := by
  simp only [readPort, Option.bind_eq_bind, Option.bind_eq_some_iff, readMark_eq_some_iff,
    Prod.exists, readNumeral_eq_some_iff, Option.pure_def, Option.some.injEq, Prod.mk.injEq]
  constructor
  · rintro ⟨_, rfl, n, _, ⟨ds, rfl, hds, hlt, -, hrest⟩, rfl, rfl⟩
    have hn : n.toUInt16.toNat = n := Nat.mod_eq_of_lt hlt
    exact ⟨ds, rfl, hn.symm ▸ hds, hrest⟩
  · rintro ⟨ds, rfl, hds, hrest⟩
    exact ⟨_, rfl, port.toNat, rest, ⟨ds, rfl, hds, port.toNat_lt, trivial, hrest⟩,
      UInt16.ofNat_toNat, rfl⟩

/-- A scope is read where there is one, and nothing is taken where there is none. -/
theorem readScope_cases (cs : List Char) :
    (∃ es, cs = '%' :: es ++ (Ipv6.readScope cs).2 ∧
      IsNumeral 10 (Ipv6.readScope cs).1.toNat es) ∨ Ipv6.readScope cs = (0, cs) := by
  unfold Ipv6.readScope
  split
  · rename_i n behind hread
    obtain ⟨_, hmark, hread⟩ := Option.bind_eq_some_iff.mp hread
    obtain ⟨es, rfl, hes, hlt, -⟩ := readNumeral_eq_some_iff.mp hread
    have hn : n.toUInt32.toNat = n := Nat.mod_eq_of_lt hlt
    exact .inl ⟨es, readMark_eq_some_iff.mp hmark, hn.symm ▸ hes⟩
  · exact .inr rfl

theorem readScope_numeral (h : IsNumeral 10 scope.toNat ds) (hrest : NoDigit 10 rest) :
    Ipv6.readScope ('%' :: ds ++ rest) = (scope, rest) := by
  have hread : readNumeral 10 0x100000000 (fun _ => true) (ds ++ rest) = some (scope.toNat, rest) :=
    readNumeral_eq_some_iff.mpr ⟨ds, rfl, h, scope.toNat_lt, rfl, hrest⟩
  simp [Ipv6.readScope, readMark, hread]

theorem readV4_eq_some_iff : readV4 cs = some (a, rest) ↔ ∃ ip port ds, a = .v4 ip port ∧
    cs = ip.chars ++ ':' :: ds ++ rest ∧ IsNumeral 10 port.toNat ds ∧ NoDigit 10 rest := by
  simp only [readV4, Option.bind_eq_bind, Option.bind_eq_some_iff, Prod.exists,
    Ipv4.read_eq_some_iff, readPort_eq_some_iff, Option.pure_def, Option.some.injEq, Prod.mk.injEq]
  constructor
  · rintro ⟨ip, _, ⟨rfl, -⟩, port, _, ⟨ds, rfl, hds, hrest⟩, rfl, rfl⟩
    exact ⟨ip, port, ds, rfl, by simp, hds, hrest⟩
  · rintro ⟨ip, port, ds, rfl, rfl, hds, hrest⟩
    refine ⟨ip, ':' :: ds ++ rest, ⟨by simp, noDigit_cons_iff.mpr rfl⟩, port, rest, ⟨ds, rfl, hds,
      hrest⟩, rfl, rfl⟩

theorem readV6_of_form {ip : Ipv6} (scopeChars : List Char) (hip : ip.Form cs)
    (hscope : Ipv6.readScope (scopeChars ++ ']' :: ':' :: ds) = (scope, ']' :: ':' :: ds))
    (hcloses : Ipv6.Closes (scopeChars ++ ']' :: ':' :: ds)) (hport : IsNumeral 10 port.toNat ds) :
    readV6 ('[' :: cs ++ scopeChars ++ ']' :: ':' :: ds) = some (.v6 ip port scope, []) := by
  have hread := Ipv6.read_of_form hip hcloses
  have hread' : readPort (':' :: ds) = some (port, []) :=
    readPort_eq_some_iff.mpr ⟨ds, by simp, hport, .nil 10⟩
  simp [readV6, readMark, hread, hscope, hread']

theorem form_of_readV6 (h : readV6 cs = some (a, [])) : Form a cs := by
  simp only [readV6, Option.bind_eq_bind, Option.bind_eq_some_iff, Prod.exists,
    readMark_eq_some_iff, readPort_eq_some_iff, Option.pure_def, Option.some.injEq,
    Prod.mk.injEq] at h
  obtain ⟨_, rfl, ip, behind, hip, _, hmark, port, _, ⟨ds, rfl, hds, -⟩, rfl, rfl⟩ := h
  rw [List.append_nil] at hmark
  obtain ⟨text, rfl, hform⟩ := Ipv6.form_of_read hip
  rcases readScope_cases behind with ⟨es, hbehind, hes⟩ | hnone
  · generalize (Ipv6.readScope behind).1 = scope at hes ⊢
    rw [hmark] at hbehind
    rw [hbehind, ← List.append_assoc]
    exact .withScope hform hes hds
  · rw [hnone] at hmark ⊢
    obtain rfl := hmark
    exact .v6 hform hds

/-- The addresses that are read are those that are in a form. -/
theorem ofChars?_eq_some_iff : ofChars? cs = some a ↔ Form a cs := by
  have hwhole : ofChars? cs = some a ↔ (readV4 cs <|> readV6 cs) = some (a, []) := by
    unfold ofChars?
    constructor
    · intro h
      split at h
      · rename_i hread
        rw [hread, Option.some.inj h]
      · cases h
    · intro h
      rw [h]
  rw [hwhole]
  constructor
  · intro h
    cases hread : readV4 cs with
    | some found =>
      rw [hread] at h
      obtain rfl := Option.some.inj h
      obtain ⟨ip, port, ds, rfl, rfl, hds, -⟩ := readV4_eq_some_iff.mp hread
      rw [List.append_nil]
      exact .v4 hds
    | none =>
      rw [hread] at h
      exact form_of_readV6 h
  · have hbracket (cs : List Char) : readV4 ('[' :: cs) = none := by
      have hdigit : NoDigit 10 ('[' :: cs) := noDigit_cons_iff.mpr rfl
      simp [readV4, Ipv4.read_eq_none hdigit]
    intro h
    cases h with
    | v4 hport =>
      rw [readV4_eq_some_iff.mpr ⟨_, _, _, rfl, (List.append_nil _).symm, hport, .nil 10⟩]
      rfl
    | v6 hip hport =>
      have hread := readV6_of_form [] hip rfl (.inr rfl) hport
      rw [List.append_nil] at hread
      exact (congrArg (· <|> _) (hbracket _)).trans hread
    | withScope hip hscope hport =>
      have hread := readV6_of_form _ hip (readScope_numeral hscope (noDigit_cons_iff.mpr rfl))
        (.inl rfl) hport
      exact (congrArg (· <|> _) (hbracket _)).trans hread

theorem form_chars (a : Address) : Form a a.chars := by
  cases a with
  | v4 ip port => exact .v4 (isNumeral_decimal _)
  | v6 ip port scope =>
    rw [chars]
    split
    · rename_i hscope
      subst hscope
      rw [List.append_nil]
      exact .v6 ip.form_chars (isNumeral_decimal _)
    · exact .withScope ip.form_chars (isNumeral_decimal _) (isNumeral_decimal _)

end Address

end UdpBench
