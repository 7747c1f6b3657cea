import AspiManager.Proofs.Words
import AspiManager.Sg.Message

/-!
# Octets of channel messages

Messages go both ways between octets and their parts. A string begins with a header exactly if its
first octets are those of the header (`Sg.Header.parse?_eq_some_iff`), and it is a reply exactly if
it is the octets of the reply (`Sg.Reply.parse?_eq_some_iff`). A message to the device is known by
what it carries (`Sg.Message.assemble?_eq_some_iff`). `Sg.messages_as_octets` puts them together.
-/

namespace AspiManager

namespace Sg

/-! ## Headers -/

namespace Header

/-- The header is read from its own octets. -/
theorem parse?_encode (h : Header) : parse? h.encode = some h := by
  obtain ⟨hpack, hreply, hid, hresult, hflags⟩ : Bytes.int32 h.encode 0 = h.packLen ∧
      Bytes.int32 h.encode 4 = h.replyLen ∧ Bytes.int32 h.encode 8 = h.packId ∧
      Bytes.int32 h.encode 12 = h.result ∧ Bytes.word32 h.encode 16 = h.flags := by
    refine ⟨Bytes.int32_eq ?_, Bytes.int32_eq ?_, Bytes.int32_eq ?_, Bytes.int32_eq ?_, ?_⟩ <;>
      refine Bytes.word32_eq ?_ ?_ ?_ ?_ <;>
        simp [encode, Bytes.ofInt32, Bytes.ofWord32, Bytes.octet]
  have hsense : Bytes.field h.encode 16 20 = h.sense :=
    Bytes.field_eq (h.encode.take 20) [] (by simp [encode, Bytes.ofInt32, Bytes.ofWord32])
      (by simp [length])
  unfold parse?
  rw [if_neg (by simp), hpack, hreply, hid, hresult, hflags, hsense]

/-- The octets of a header that was read are the ones it was read from. -/
theorem encode_of_parse? {bs : Bytes} {h : Header} (hp : parse? bs = some h) :
    h.encode = bs.take length := by
  unfold parse? at hp
  split at hp
  · cases hp
  · rename_i hl
    have hl : 36 ≤ bs.length := Nat.not_lt.mp hl
    cases hp
    have hparts : bs.take length = bs.part 0 4 ++ bs.part 4 4 ++ bs.part 8 4 ++ bs.part 12 4 ++
        bs.part 16 4 ++ bs.part 20 16 := by
      have hfront : bs.part 0 4 = bs.take 4 := rfl
      rw [hfront]
      simp only [Bytes.take_part, length, Nat.reduceAdd]
    unfold encode
    dsimp only
    rw [hparts, Bytes.ofInt32_int32 (by omega), Bytes.ofInt32_int32 (by omega),
      Bytes.ofInt32_int32 (by omega), Bytes.ofInt32_int32 (by omega),
      Bytes.ofWord32_word32 (by omega), Bytes.toList_field (by omega)]

theorem parse?_isSome_iff {bs : Bytes} : (parse? bs).isSome = true ↔ length ≤ bs.length := by
  unfold parse?
  split
  · rename_i h
    simpa using h
  · rename_i h
    simpa using h

/-- A string begins with a header exactly if its first octets are those of the header. -/
theorem parse?_eq_some_iff {bs : Bytes} {h : Header} :
    parse? bs = some h ↔ h.encode = bs.take length :=
  Bytes.parse_eq_some_iff length_encode parse?_encode encode_of_parse? fun _ => parse?_isSome_iff

/-- The length of the sense octets that count, by the code and the length that they give. -/
theorem senseLength_eq (h : Header) :
    h.senseLength =
      if 0x70 ≤ (Bytes.octet h.sense.toList 0).toNat % 0x80 ∧
          (Bytes.octet h.sense.toList 0).toNat % 0x80 ≤ 0x73 then
        min 16 (8 + (Bytes.octet h.sense.toList 7).toNat)
      else 0 := by
  have hfirst : Bytes.octet h.sense.toList 0 = h.sense[0] := by simp [Bytes.octet]
  have heighth : Bytes.octet h.sense.toList 7 = h.sense[7] := by simp [Bytes.octet]
  have hcode : (h.sense[0] &&& 0x7F).toNat = h.sense[0].toNat % 0x80 := by
    rw [UInt8.toNat_and]
    exact Nat.and_two_pow_sub_one_eq_mod _ 7
  unfold senseLength
  simp only [UInt8.le_iff_toNat_le, hcode, hfirst, heighth]
  rfl

theorem senseLength_le (h : Header) : h.senseLength ≤ 16 := by
  rw [senseLength_eq]
  split <;> omega

theorem length_validSense (h : Header) : h.validSense.length = h.senseLength := by
  unfold validSense
  rw [List.length_take, Vector.length_toList]
  exact Nat.min_eq_left h.senseLength_le

end Header

/-! ## Replies -/

namespace Reply

theorem parse?_isSome_iff {bs : Bytes} : (parse? bs).isSome = true ↔ Header.length ≤ bs.length := by
  unfold parse?
  rw [Option.isSome_map, Header.parse?_isSome_iff]

/-- A string is a reply exactly if it is the octets of the reply. -/
theorem parse?_eq_some_iff {bs : Bytes} {r : Reply} : parse? bs = some r ↔ r.toBytes = bs := by
  unfold parse? toBytes
  rw [Option.map_eq_some_iff]
  constructor
  · rintro ⟨h, hp, rfl⟩
    dsimp only
    rw [Header.encode_of_parse? hp, List.take_append_drop]
  · rintro rfl
    have hl := r.header.length_encode
    refine ⟨r.header, Header.parse?_eq_some_iff.mpr ?_, ?_⟩
    · rw [← hl, List.take_left]
    · rw [← hl, List.drop_left]

end Reply

/-! ## Messages to the device -/

namespace Message

/-- The message is a header that announces a reply of `n` octets and says nothing else, a command
block, and octets for the device. -/
structure Carries (m : Message) (cdb payload : Bytes) (n : Nat) : Prop where
  replyLength : m.replyLength = n
  octets : ∃ front : Bytes, front.length = 36 ∧ m.octets = front ++ cdb ++ payload
  header : ∃ h, m.header? = some h ∧ h.replyLen.toInt = n ∧ h.packLen = 0 ∧ h.packId = 0 ∧
    h.result = 0 ∧ h.flags = 0 ∧ h.sense = Vector.replicate 16 0

variable {cdb payload : Bytes} {n : Nat} {m : Message}

theorem toInt_announce (hn : n ≤ maxReply) : (announce n).replyLen.toInt = n := by
  have hn : n < 2 ^ 31 := Nat.lt_succ_of_le hn
  show (Int32.ofNat n).toInt = n
  exact Int32.toInt_ofNat_of_lt hn

/-- The messages that are assembled are the ones that carry what they were assembled from. -/
theorem assemble?_eq_some_iff :
    assemble? cdb payload n = some m ↔ n ≤ maxReply ∧ m.Carries cdb payload n := by
  have hl := (announce n).length_encode
  constructor
  · intro h
    obtain ⟨hn, h⟩ := Option.ite_none_right_eq_some.mp h
    cases h
    refine ⟨hn, rfl, ⟨_, hl, rfl⟩, announce n, ?_, toInt_announce hn, rfl, rfl, rfl, rfl, rfl⟩
    refine Header.parse?_eq_some_iff.mpr ?_
    rw [← hl, List.append_assoc, List.take_left]
  · rintro ⟨hn, hreply, ⟨front, hf, hoctets⟩, h, hh, hlen, hpack, hid, hresult, hflags, hsense⟩
    -- The header is determined by what it says, and the front by the header.
    have hannounce : h = announce n := by
      have hlen : h.replyLen = (announce n).replyLen :=
        Int32.toInt_inj.mp (hlen.trans (toInt_announce hn).symm)
      cases h
      simp only at hlen hpack hid hresult hflags hsense
      subst hlen hpack hid hresult hflags hsense
      rfl
    have hfront : front = (announce n).encode := by
      rw [← hannounce, Header.encode_of_parse? hh, hoctets, List.append_assoc]
      exact (List.take_left' hf).symm
    unfold assemble?
    rw [if_pos hn, ← hfront, ← hoctets, ← hreply]

theorem assemble?_isSome_iff : (assemble? cdb payload n).isSome = true ↔ n ≤ maxReply := by
  unfold assemble?
  split <;> simp [*]

end Message

/-- Messages are assembled exactly if their reply can be announced, and then carry what they were
assembled from. Strings are replies exactly if they have room for a header, and are then the octets
of the reply. The sense octets of a reply are a front of the sixteen in its header, as long as these
say. -/
theorem messages_as_octets (cdb payload raw : Bytes) (n : Nat) (m : Message) (r : Reply) :
    ((Message.assemble? cdb payload n).isSome = true ↔ n ≤ 0x7FFFFFFF) ∧
      (Message.assemble? cdb payload n = some m ↔ n ≤ 0x7FFFFFFF ∧ m.Carries cdb payload n) ∧
      ((Reply.parse? raw).isSome = true ↔ 36 ≤ raw.length) ∧
      (Reply.parse? raw = some r ↔ r.toBytes = raw) ∧
      Reply.parse? r.toBytes = some r ∧
      r.sense <+: r.header.sense.toList ∧
      r.sense.length =
        if 0x70 ≤ (Bytes.octet r.header.sense.toList 0).toNat % 0x80 ∧
            (Bytes.octet r.header.sense.toList 0).toNat % 0x80 ≤ 0x73 then
          min 16 (8 + (Bytes.octet r.header.sense.toList 7).toNat)
        else 0 := by
  refine ⟨Message.assemble?_isSome_iff, Message.assemble?_eq_some_iff, Reply.parse?_isSome_iff,
    Reply.parse?_eq_some_iff, Reply.parse?_eq_some_iff.mpr rfl, List.take_prefix _ _, ?_⟩
  exact (Header.length_validSense r.header).trans r.header.senseLength_eq

end Sg

end AspiManager
