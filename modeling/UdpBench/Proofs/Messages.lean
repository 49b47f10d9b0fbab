import Mathlib.Data.List.Basic
import UdpBench.Proofs.AddressForms

namespace UdpBench

/-- The characters that are escaped by a sign of their own. -/
def charEscapes : List (Char × Char) :=
  [('\x00', '0'), ('\t', 't'), ('\n', 'n'), ('\r', 'r'), ('\x27', '\x27'), ('\\', '\\')]

/-- All that a character can be escaped as. -/
inductive EscapedChar (c : Char) : List Char → Prop
  | short {sign : Char} (named : (c, sign) ∈ charEscapes) : EscapedChar c ['\\', sign]
  | code : EscapedChar c ('\\' :: 'u' :: '\x7b' :: hexadecimal c.toNat ++ ['\x7d'])
  | plain (notBackslash : c ≠ '\\') : EscapedChar c [c]

theorem escapedChar (c : Char) : EscapedChar c (escapeChar c) := by
  unfold escapeChar
  split
  · exact .short (by simp [charEscapes, *])
  split
  · exact .short (by simp [charEscapes, *])
  split
  · exact .short (by simp [charEscapes, *])
  split
  · exact .short (by simp [charEscapes, *])
  split
  · exact .short (by simp [charEscapes, *])
  split
  · exact .short (by simp [charEscapes, *])
  split
  · exact .code
  · exact .plain (by assumption)

/-- Reads one character as it stands between quotes. -/
def readChar : List Char → Option (Char × List Char)
  | [] => none
  | c :: cs =>
    if c = '\\' then
      match cs with
      | 'u' :: cs => do
        let (n, cs) ← readNumeral 16 0x110000 (fun _ => true) (← readMark '\x7b' cs)
        return (Char.ofNat n, ← readMark '\x7d' cs)
      | sign :: cs => (charEscapes.find? fun e => e.2 == sign).map fun e => (e.1, cs)
      | [] => none
    else some (c, cs)

theorem toNat_lt_of_char (c : Char) : c.toNat < 0x110000 := by
  have hvalid := c.valid
  simp only [UInt32.isValidChar, Nat.isValidChar] at hvalid
  change c.val.toNat < 0x110000
  omega

theorem readChar_escapeChar (c : Char) (rest : List Char) :
    readChar (escapeChar c ++ rest) = some (c, rest) := by
  have hescaped := escapedChar c
  generalize escapeChar c = cs at hescaped
  cases hescaped with
  | short named =>
    simp only [charEscapes, List.mem_cons, Prod.mk.injEq, List.not_mem_nil, or_false] at named
    rcases named with ⟨rfl, rfl⟩ | ⟨rfl, rfl⟩ | ⟨rfl, rfl⟩ | ⟨rfl, rfl⟩ | ⟨rfl, rfl⟩ | ⟨rfl, rfl⟩
    all_goals rfl
  | code =>
    have hread : readNumeral 16 0x110000 (fun _ => true)
        (hexadecimal c.toNat ++ '\x7d' :: rest) = some (c.toNat, '\x7d' :: rest) :=
      readNumeral_eq_some_iff.mpr ⟨_, rfl, isNumeral_hexadecimal _, toNat_lt_of_char c, rfl,
        noDigit_cons_iff.mpr rfl⟩
    simp [readChar, readMark, hread]
  | plain notBackslash => simp [readChar, notBackslash]

/-- What is behind a text that stands in front. -/
def behind (front : String) (cs : List Char) : Option (List Char) := front.toList.isPrefixOf? cs

theorem behind_append (front : String) (rest : List Char) :
    behind front (front.toList ++ rest) = some rest :=
  List.isPrefixOf?_eq_some_iff_append_eq.mpr rfl

/-- Texts that part before either ends. -/
def Apart (front other : String) : Prop :=
  ¬front.toList <+: other.toList ∧ ¬other.toList <+: front.toList

instance (front other : String) : Decidable (Apart front other) :=
  inferInstanceAs (Decidable (_ ∧ _))

theorem behind_eq_none {front other : String} (h : Apart front other) (rest : List Char) :
    behind front (other.toList ++ rest) = none := by
  rw [behind, Option.eq_none_iff_forall_ne_some]
  intro cs hcs
  have heq := List.isPrefixOf?_eq_some_iff_append_eq.mp hcs
  rcases List.prefix_or_prefix_of_prefix (heq ▸ List.prefix_append ..)
    (List.prefix_append other.toList rest) with hprefix | hprefix
  · exact h.1 hprefix
  · exact h.2 hprefix

section Openings

variable {α : Type} {readers : List (String × (List Char → Option α))}

/-- Reads what is behind an opening, each with a reader of its own. -/
def readBehind (readers : List (String × (List Char → Option α))) (cs : List Char) : Option α :=
  readers.findSome? fun r => (behind r.1 cs).bind r.2

theorem readBehind_cons (r : String × (List Char → Option α)) (cs : List Char) :
    readBehind (r :: readers) cs = ((behind r.1 cs).bind r.2).or (readBehind readers cs) := by
  rw [readBehind, List.findSome?_cons]
  cases (behind r.1 cs).bind r.2 <;> rfl

theorem readBehind_eq_none {opening : String} (h : ∀ r ∈ readers, Apart r.1 opening)
    (rest : List Char) : readBehind readers (opening.toList ++ rest) = none := by
  rw [readBehind, List.findSome?_eq_none_iff]
  intro r hr
  rw [behind_eq_none (h r hr), Option.bind_none]

/-- Where openings part, each message finds its reader. -/
theorem readBehind_of_mem (hapart : (readers.map Prod.fst).Pairwise Apart) {opening : String}
    {read : List Char → Option α} (hmem : (opening, read) ∈ readers) (rest : List Char) :
    readBehind readers (opening.toList ++ rest) = read rest := by
  induction readers with
  | nil => cases hmem
  | cons r readers ih =>
    rw [List.map_cons, List.pairwise_cons] at hapart
    rw [readBehind_cons]
    rcases List.mem_cons.mp hmem with rfl | hmem
    · have hnone : readBehind readers (opening.toList ++ rest) = none := by
        refine readBehind_eq_none (fun r hr => ?_) rest
        obtain ⟨h, h'⟩ := hapart.1 r.1 (List.mem_map_of_mem hr)
        exact ⟨h', h⟩
      rw [behind_append, Option.bind_some, hnone, Option.or_none]
    · rw [behind_eq_none (hapart.1 opening (List.mem_map_of_mem hmem)), Option.bind_none,
        Option.none_or]
      exact ih hapart.2 hmem

end Openings

/-- A number in front, and what is behind it. -/
def readCount (cs : List Char) : Nat × List Char :=
  (numeralValue 10 (cs.takeWhile (isDigitOf 10)), cs.dropWhile (isDigitOf 10))

theorem readCount_decimal (n : Nat) {rest : List Char} (hrest : NoDigit 10 rest) :
    readCount (decimal n ++ rest) = (n, rest) := by
  have h := isNumeral_decimal n
  rw [readCount, h.takeWhile_append hrest, h.dropWhile_append hrest, h.value]

/-- The parts before and behind the first colon that a blank follows. -/
def splitColon : List Char → Option (List Char × List Char)
  | [] => none
  | c :: cs =>
    if c = ':' ∧ cs.head? = some ' ' then some ([], cs.tail)
    else (splitColon cs).map fun (front, back) => (c :: front, back)

theorem splitColon_append {front : List Char} (h : ' ' ∉ front) (back : List Char) :
    splitColon (front ++ ':' :: ' ' :: back) = some (front, back) := by
  induction front with
  | nil => rfl
  | cons c front ih =>
    rw [List.mem_cons, not_or] at h
    have hnext : (front ++ ':' :: ' ' :: back).head? ≠ some ' ' := by
      cases front with
      | nil => simp
      | cons d front =>
        intro hblank
        exact h.2 (Option.some.inj hblank ▸ List.mem_cons_self)
    rw [List.cons_append, splitColon, if_neg fun hc => hnext hc.2, ih h.2]
    rfl

namespace Error

/-- An error as far as its message tells: of its cause no more than the text. -/
def told : Error → Error
  | encoding index character => encoding index character
  | decoding index byte => decoding index byte
  | resource cause => resource (.other cause.message)
  | transport target cause => transport target (.other cause.message)
  | shortSend target sent expected => shortSend target sent expected
  | io cause => io (.other cause.message)

theorem message_told (e : Error) : e.told.message = e.message := by cases e <;> rfl

/-- The words that a message begins with. -/
def opening : Error → String
  | encoding .. => "payload is not ASCII: "
  | decoding .. => "byte 0x"
  | resource _ => "socket acquisition failed: "
  | transport .. => "transport error towards "
  | shortSend .. => "short send towards "
  | io _ => "IO error: "

/-- What a message says behind them. -/
def details : Error → List Char
  | encoding index character =>
    '\x27' :: (escapeChar character ++ '\x27' :: (" at index ".toList ++ decimal index))
  | decoding index byte =>
    hexByte byte ++ (" at offset ".toList ++ (decimal index ++ " is not ASCII".toList))
  | resource cause | io cause => cause.message.toList
  | transport target cause => target.chars ++ ':' :: ' ' :: cause.message.toList
  | shortSend target sent expected =>
    target.chars ++ ':' :: ' ' ::
      (decimal sent ++ (" of ".toList ++ (decimal expected ++ " bytes".toList)))

theorem toList_message (e : Error) : e.message.toList = e.opening.toList ++ e.details := by
  cases e with
  | encoding index character =>
    change ("payload is not ASCII: " ++ quoteChar character ++ " at index "
      ++ decimalText index).toList = _
    simp only [String.toList_append, quoteChar, decimalText, String.toList_ofList,
      List.append_assoc, List.cons_append, List.nil_append]
    rfl
  | decoding index byte =>
    change ("byte 0x" ++ String.ofList (hexByte byte) ++ " at offset " ++ decimalText index
      ++ " is not ASCII").toList = _
    simp only [String.toList_append, decimalText, String.toList_ofList, List.append_assoc]
    rfl
  | resource cause | io cause => exact String.toList_append
  | transport target cause =>
    change ("transport error towards " ++ target.text ++ ": " ++ cause.message).toList = _
    simp only [String.toList_append, Address.text, String.toList_ofList, List.append_assoc]
    rfl
  | shortSend target sent expected =>
    change ("short send towards " ++ target.text ++ ": " ++ decimalText sent ++ " of "
      ++ decimalText expected ++ " bytes").toList = _
    simp only [String.toList_append, decimalText, Address.text, String.toList_ofList,
      List.append_assoc]
    rfl

/-! One reader for each kind of message. -/

def readEncoding (cs : List Char) : Option Error := do
  let (character, cs) ← readChar (← readMark '\x27' cs)
  let (index, _) := readCount (← behind " at index " (← readMark '\x27' cs))
  return encoding index character

def readDecoding : List Char → Option Error
  | hi :: lo :: cs => do
    let (index, _) := readCount (← behind " at offset " cs)
    return decoding index (digitValue hi * 16 + digitValue lo).toUInt8
  | _ => none

def readTransport (cs : List Char) : Option Error := do
  let (front, text) ← splitColon cs
  return transport (← Address.ofChars? front) (.other (String.ofList text))

def readShortSend (cs : List Char) : Option Error := do
  let (front, cs) ← splitColon cs
  let (sent, cs) := readCount cs
  let (expected, _) := readCount (← behind " of " cs)
  return shortSend (← Address.ofChars? front) sent expected

section

variable (index sent expected : Nat) (character : Char) (byte : UInt8) (target : Address)
  (cause : IoError)

theorem readEncoding_details : readEncoding (encoding index character).details =
    some (encoding index character) := by
  have hindex := readCount_decimal index (.nil 10)
  rw [List.append_nil] at hindex
  change readEncoding ('\x27' :: (escapeChar character ++ '\x27' :: (" at index ".toList ++
    decimal index))) = _
  simp only [readEncoding, readMark, ↓reduceIte, Option.bind_eq_bind, Option.bind_some,
    readChar_escapeChar, behind_append, hindex, Option.pure_def]

theorem readDecoding_details : readDecoding (decoding index byte).details =
    some (decoding index byte) := by
  have hb := byte.toNat_lt
  obtain ⟨_, _, _, hhi⟩ := digitChar_plain (n := byte.toNat / 16) (by omega)
  obtain ⟨_, _, _, hlo⟩ := digitChar_plain (n := byte.toNat % 16) (by omega)
  have hvalue : byte.toNat / 16 * 16 + byte.toNat % 16 = byte.toNat := by omega
  have hindex : readCount (decimal index ++ " is not ASCII".toList) =
      (index, " is not ASCII".toList) := readCount_decimal index (noDigit_cons_iff.mpr rfl)
  change readDecoding (_ :: _ :: (" at offset ".toList ++ (decimal index ++
    " is not ASCII".toList))) = _
  simp only [readDecoding, behind_append, Option.bind_eq_bind, Option.bind_some, hindex, hhi, hlo,
    hvalue, Option.pure_def]
  exact congrArg (fun b => some (decoding index b)) UInt8.ofNat_toNat

/-- An address has colons, but none that a blank follows. -/
theorem splitColon_target (back : List Char) :
    splitColon (target.chars ++ ':' :: ' ' :: back) = some (target.chars, back) :=
  splitColon_append (fun hblank =>
    (ne_of_isPlain (List.all_eq_true.mp target.all_chars _ hblank)).1 rfl) back

theorem ofChars?_chars : Address.ofChars? target.chars = some target :=
  Address.ofChars?_eq_some_iff.mpr target.form_chars

theorem readTransport_details : readTransport (transport target cause).details =
    some (transport target (.other cause.message)) := by
  change readTransport (target.chars ++ ':' :: ' ' :: cause.message.toList) = _
  simp only [readTransport, splitColon_target, Option.bind_eq_bind, Option.bind_some,
    ofChars?_chars, Option.pure_def, String.ofList_toList]

theorem readShortSend_details : readShortSend (shortSend target sent expected).details =
    some (shortSend target sent expected) := by
  have hsent (rest : List Char) : readCount (decimal sent ++ (" of ".toList ++ rest)) =
      (sent, " of ".toList ++ rest) := readCount_decimal sent (noDigit_cons_iff.mpr rfl)
  have hexpected : readCount (decimal expected ++ " bytes".toList) = (expected, " bytes".toList) :=
    readCount_decimal expected (noDigit_cons_iff.mpr rfl)
  change readShortSend (target.chars ++ ':' :: ' ' :: (decimal sent ++ (" of ".toList ++
    (decimal expected ++ " bytes".toList)))) = _
  simp only [readShortSend, splitColon_target, Option.bind_eq_bind, Option.bind_some, hsent,
    behind_append, hexpected, ofChars?_chars, Option.pure_def]

end

/-- A reader for each opening. -/
def readers : List (String × (List Char → Option Error)) := [
  ("payload is not ASCII: ", readEncoding),
  ("byte 0x", readDecoding),
  ("socket acquisition failed: ", fun cs => some (resource (.other (String.ofList cs)))),
  ("transport error towards ", readTransport),
  ("short send towards ", readShortSend),
  ("IO error: ", fun cs => some (io (.other (String.ofList cs))))]

/-- Reads a message back. -/
def readMessage (text : String) : Option Error := readBehind readers text.toList

theorem pairwise_apart_readers : (readers.map Prod.fst).Pairwise Apart := by decide

theorem exists_reader (e : Error) :
    ∃ read, (e.opening, read) ∈ readers ∧ read e.details = some e.told := by
  cases e with
  | encoding index character => exact ⟨_, .head _, readEncoding_details index character⟩
  | decoding index byte => exact ⟨_, .tail _ (.head _), readDecoding_details index byte⟩
  | resource cause =>
    exact ⟨_, .tail _ (.tail _ (.head _)),
      congrArg (some <| resource <| .other ·) String.ofList_toList⟩
  | transport target cause =>
    exact ⟨_, .tail _ (.tail _ (.tail _ (.head _))), readTransport_details target cause⟩
  | shortSend target sent expected =>
    exact ⟨_, .tail _ (.tail _ (.tail _ (.tail _ (.head _)))),
      readShortSend_details sent expected target⟩
  | io cause =>
    exact ⟨_, .tail _ (.tail _ (.tail _ (.tail _ (.tail _ (.head _))))),
      congrArg (some <| io <| .other ·) String.ofList_toList⟩

theorem readMessage_message (e : Error) : readMessage e.message = some e.told := by
  obtain ⟨read, hmem, hread⟩ := e.exists_reader
  rw [readMessage, toList_message, readBehind_of_mem pairwise_apart_readers hmem, hread]

theorem message_eq_iff {e e' : Error} : e.message = e'.message ↔ e.told = e'.told := by
  constructor
  · intro h
    have hread := e.readMessage_message
    rw [h, readMessage_message] at hread
    exact (Option.some.inj hread).symm
  · intro h
    rw [← e.message_told, h, message_told]

/-- How the text of a cause is found behind the opening of a message. -/
def causeReaders : List (String × (List Char → Option (List Char))) := [
  ("socket acquisition failed: ", some),
  ("transport error towards ", fun cs => (splitColon cs).map Prod.snd),
  ("IO error: ", some)]

/-- The text of the cause: the rest of a message behind its opening, and behind the target where one
is named. -/
def causeText (text : String) : Option String :=
  (readBehind causeReaders text.toList).map String.ofList

theorem pairwise_apart_causeReaders : (causeReaders.map Prod.fst).Pairwise Apart := by decide

/-- Without a cause a message begins with other words. -/
theorem apart_of_cause?_eq_none {e : Error} (h : e.cause? = none) :
    ∀ other ∈ causeReaders.map Prod.fst, Apart other e.opening := by
  cases e with
  | encoding =>
    change ∀ other ∈ causeReaders.map Prod.fst, Apart other "payload is not ASCII: "
    decide
  | decoding =>
    change ∀ other ∈ causeReaders.map Prod.fst, Apart other "byte 0x"
    decide
  | shortSend =>
    change ∀ other ∈ causeReaders.map Prod.fst, Apart other "short send towards "
    decide
  | resource | transport | io => cases h

theorem exists_causeReader {e : Error} {cause : IoError} (h : e.cause? = some cause) :
    ∃ read, (e.opening, read) ∈ causeReaders ∧ read e.details = some cause.message.toList := by
  cases e with
  | resource =>
    obtain rfl := Option.some.inj h
    exact ⟨_, .head _, rfl⟩
  | transport target =>
    obtain rfl := Option.some.inj h
    exact ⟨_, .tail _ (.head _), congrArg (·.map Prod.snd) (splitColon_target target _)⟩
  | io =>
    obtain rfl := Option.some.inj h
    exact ⟨_, .tail _ (.tail _ (.head _)), rfl⟩
  | encoding | decoding | shortSend => cases h

theorem causeText_message (e : Error) : causeText e.message = e.cause?.map IoError.message := by
  rw [causeText, toList_message]
  cases hcause : e.cause? with
  | none =>
    have hapart := apart_of_cause?_eq_none hcause
    rw [readBehind_eq_none fun r hr => hapart r.1 (List.mem_map_of_mem hr)]
    rfl
  | some cause =>
    obtain ⟨read, hmem, hread⟩ := exists_causeReader hcause
    rw [readBehind_of_mem pairwise_apart_causeReaders hmem, hread]
    exact congrArg some String.ofList_toList

/-- A message tells which error it is of, with all that the error holds, and of its cause the text.
This text is the end of the message, behind the words and the target in front of it. -/
theorem message_tells_error (e e' : Error) :
    (e.message = e'.message ↔ e.told = e'.told) ∧
    readMessage e.message = some e.told ∧
    (e.cause?.isSome = true ↔ (∃ cause, e = .resource cause) ∨
      (∃ target cause, e = .transport target cause) ∨ ∃ cause, e = .io cause) ∧
    causeText e.message = e.cause?.map IoError.message := by
  refine ⟨message_eq_iff, e.readMessage_message, ?_, e.causeText_message⟩
  cases e <;> simp [cause?]

example : causeText "transport error towards [fe80::1%3]:7: Network: unreachable" =
    some "Network: unreachable" := by decide +kernel

end Error

end UdpBench
