import AspiManager.Proofs.Completion

/-!
# Sense data on its way to the caller

The sense area of a reply has 16 octets. The reply says how many of them count, the caller says how
many it wants, and sense data is read from 14 of them. So whether the octets that a caller finds in
its sense window can be read is decided by the length that it declared, by the response code and by
the additional length alone; and what is read from them is what is read from the whole area
(`Manager.sense_relayed`).
-/

namespace AspiManager

/-- What a caller makes of the octets `seen` that it was given of the sense area of a reply, when it
had declared room for `declared` of them. -/
structure Scsi.Sense.Relayed (declared : Nat) (area seen : Bytes) : Prop where
  readable_iff : (∃ x, parse seen = .ok x) ↔
    14 ≤ declared ∧ (area.octet 0 &&& 0x7F = 0x70 ∨ area.octet 0 &&& 0x7F = 0x71) ∧
      6 ≤ (area.octet 7).toNat
  /-- The whole area is read alike. -/
  alike : ∀ x, parse seen = .ok x → parse area = .ok x

/-! ## Reading sense data -/

namespace Scsi.Sense

variable {bs area : Bytes}

theorem exists_parse_iff : (∃ x, parse bs = .ok x) ↔
    minLength ≤ bs.length ∧ (bs.octet 0 &&& 0x7F = 0x70 ∨ bs.octet 0 &&& 0x7F = 0x71) := by
  unfold parse
  dsimp only
  by_cases hl : bs.length < minLength
  · rw [if_pos hl]
    exact ⟨fun ⟨_, hx⟩ => (nomatch hx), fun ⟨hle, _⟩ => absurd hle (Nat.not_le.mpr hl)⟩
  rw [if_neg hl]
  by_cases hc : bs.octet 0 &&& 0x7F = 0x70 ∨ bs.octet 0 &&& 0x7F = 0x71
  · rw [if_neg fun hne => hc.elim hne.1 hne.2]
    exact ⟨fun _ => ⟨Nat.le_of_not_lt hl, hc⟩, fun _ => ⟨_, rfl⟩⟩
  · rw [if_pos ⟨mt .inl hc, mt .inr hc⟩]
    exact ⟨fun ⟨_, hx⟩ => (nomatch hx), fun h => absurd h.2 hc⟩

/-- Nothing but the first 14 octets is looked at. -/
theorem parse_congr (hb : minLength ≤ bs.length) (ha : minLength ≤ area.length)
    (h : ∀ i < minLength, bs.octet i = area.octet i) : parse bs = parse area := by
  unfold minLength at h
  unfold parse Bytes.bigWord32
  rw [if_neg (Nat.not_lt.mpr hb), if_neg (Nat.not_lt.mpr ha)]
  simp only [Nat.reduceAdd, h 0, h 2, h 3, h 4, h 5, h 6, h 7, h 8, h 9, h 10, h 11, h 12, h 13,
    Nat.reduceLT]

end Scsi.Sense

/-! ## The sense area of a reply -/

namespace Sg

theorem octet_area (raw : Bytes) {i : Nat} (hi : i < 16) :
    Bytes.octet (Header.ofOctets raw).sense.toList i = raw.octet (20 + i) := by
  rw [Bytes.octet_eq_getElem (by rw [Vector.length_toList]; exact hi)]
  simp [Header.ofOctets, Bytes.field]

theorem le_min_senseCount_iff (declared : Nat) (raw : Bytes) :
    14 ≤ min declared (senseCount raw) ↔
      14 ≤ declared ∧ (0x70 ≤ raw.octet 20 &&& 0x7F ∧ raw.octet 20 &&& 0x7F ≤ 0x73) ∧
        6 ≤ (raw.octet 27).toNat := by
  unfold senseCount
  by_cases hc : 0x70 ≤ raw.octet 20 &&& 0x7F ∧ raw.octet 20 &&& 0x7F ≤ 0x73
  · rw [if_pos hc]
    exact ⟨fun h => ⟨by omega, hc, by omega⟩, fun ⟨hd, _, hadd⟩ => by omega⟩
  · rw [if_neg hc]
    exact ⟨fun h => absurd h (by omega), fun h => absurd h.2.1 hc⟩

/-- The response codes of the fixed format are among those whose octets count. -/
theorem counts_of_fixed {c : UInt8} (h : c = 0x70 ∨ c = 0x71) : 0x70 ≤ c ∧ c ≤ 0x73 := by
  rcases h with rfl | rfl <;> decide

/-- The front of the area, as far as the octets count and the caller wants them. -/
theorem relayed {declared : Nat} {raw seen : Bytes}
    (hl : seen.length = min declared (senseCount raw))
    (ho : ∀ i < seen.length, seen.octet i = raw.octet (20 + i)) :
    Scsi.Sense.Relayed declared (Header.ofOctets raw).sense.toList seen := by
  have h16 : (Header.ofOctets raw).sense.toList.length = 16 := Vector.length_toList
  have h14 : Scsi.Sense.minLength = 14 := rfl
  have hle := senseCount_le raw
  refine ⟨?_, fun x hx => ?_⟩
  · rw [Scsi.Sense.exists_parse_iff, h14, octet_area raw (by decide), octet_area raw (by decide)]
    -- The response code that is looked at is the one of the area as soon as there are any octets,
    -- and there are 14 if so many are wanted and count.
    constructor
    · rintro ⟨hlen, hfixed⟩
      obtain ⟨hd, -, hadd⟩ := (le_min_senseCount_iff declared raw).mp (hl ▸ hlen)
      rw [ho 0 (by omega)] at hfixed
      exact ⟨hd, hfixed, hadd⟩
    · rintro ⟨hd, hfixed, hadd⟩
      have hlen := (le_min_senseCount_iff declared raw).mpr ⟨hd, counts_of_fixed hfixed, hadd⟩
      rw [← hl] at hlen
      exact ⟨hlen, by rwa [ho 0 (by omega)]⟩
  · have hlen := (Scsi.Sense.exists_parse_iff.mp ⟨x, hx⟩).1
    rw [← Scsi.Sense.parse_congr hlen (by omega) fun i hi => ?_]
    · exact hx
    · rw [ho i (by omega), octet_area raw (by omega)]

/-- The account of a delivery says how many octets count and are wanted. -/
theorem senseCopied_deliver {raw : Bytes} (h : raw.int32 12 = 0) (r : Request) {given : Windows Bytes}
    {dst : Bytes} (hd : given.sense = some dst) :
    (Delivery.deliver (.ofOctets raw) r given).1.senseCopied = min dst.length (senseCount raw) := by
  have hresult : ¬ (Reply.ofOctets raw).result ≠ 0 := not_not_intro h
  unfold Delivery.deliver
  rw [if_neg hresult]
  dsimp only
  rw [hd]
  exact congrArg (min dst.length) (length_validSense raw)

end Sg

/-! ## Requests that are complete -/

theorem Completed.relayed {before after : Memory} {mode : AddressingMode} {r : Request}
    {block : Option Block} {w : Windows Range} {raw : Bytes} {q : Range}
    (h : Completed before after r block w raw) (hw : r.Fits before mode w)
    (hq : w.sense = some q) :
    Scsi.Sense.Relayed r.sense.len.toNat (Sg.Header.ofOctets raw).sense.toList
      (after.read q.base (min q.len (Sg.senseCount raw))) := by
  obtain ⟨hlen, ho⟩ := h.sense q hq
  have hstop : q.base + q.len ≤ before.size := (hw.sound.sense q hq).2
  have hl : (after.read q.base (min q.len (Sg.senseCount raw))).length =
      min q.len (Sg.senseCount raw) := by
    rw [Memory.length_read, h.size]
    omega
  refine Sg.relayed (by rw [hl, hlen]) fun i hi => ?_
  rw [hl] at hi
  rw [Memory.octet_read, if_pos hi, ho i hi]

namespace Manager

variable {σ : Type} {m : Manager σ} {mode : AddressingMode} {call : Call} {r : Request}
  {block : Option Block} {s t u : State σ} {p : Option Posting}

/-- The memory in which a request that is complete is settled, before its post routine is called. -/
theorem Turn.completed (h : m.Turn mode call s (.ok .complete) u p)
    (ha : call.Asks s.memory mode r block) :
    ∃ w raw, r.Fits s.memory mode w ∧ m.Answered r block w s raw ∧ raw.int32 12 = 0 ∧
      Completed s.memory u.memory r block w raw := by
  generalize ho : (.ok .complete : Except Fault Status) = o at h
  cases h with
  | aside es hc hn => exact absurd ⟨r, block, ha⟩ hn
  | rejected | unavailable | crashed => cases ho
  | @settled _ _ w handle _ es ha' hw hd hj =>
    cases ho
    obtain ⟨rfl, rfl⟩ := ha.unique ha'
    obtain ⟨raw, hc, hmem⟩ := trip_complete hj
    have hans := answered_of_converse hd hc
    have hlen : raw.length = r.expectedReply := by
      obtain ⟨-, -, -, octets, -, -, -, rfl⟩ := hans
      exact Bytes.length_fit _ _
    have hcompleted := AspiManager.completed { r with status := .pending } ha.fits hw hlen
      fun q hq a hqa => ha.sense_not_showsStatus hw hq hqa
    rw [← hmem] at hcompleted
    exact ⟨w, raw, hw, hans, result_of_trip hc hj, hcompleted⟩

/-- A caller whose request is complete, and who wanted sense data, finds octets in its sense window
from which it reads what it would read from the whole sense area of the reply, if it reads anything;
and that it does exactly if it wanted 14 octets, the reply is in the fixed format, and its additional
length says that there are so many. Its post routine, if it has one, is called from the same
memory. -/
theorem sense_relayed (ha : call.Asks s.memory mode r block)
    (h : (m.perform mode call).exec s = (.ok .complete, t)) :
    ∃ w raw u p, r.Fits s.memory mode w ∧ m.Answered r block w s raw ∧
      m.Turn mode call s (.ok .complete) u p ∧
      conclude m.routine Status.complete u p = (.ok .complete, t) ∧
      ∀ q, w.sense = some q →
        Scsi.Sense.Relayed r.sense.len.toNat (Sg.Header.ofOctets raw).sense.toList
          (u.memory.read q.base (Delivery.deliver (.ofOctets raw) r
            ((s.memory.stamp { r with status := .pending } block).octetsIn w)).1.senseCopied) := by
  obtain ⟨o, u, p, hturn, hx⟩ := m.perform_turn mode call s
  have hm : finish m.routine o u p = (.ok .complete, t) := (hx m.routine).symm.trans h
  cases o with
  | error e => cases hm
  | ok st =>
    obtain rfl := eq_of_conclude hm
    obtain ⟨w, raw, hw, hans, hresult, hcompleted⟩ := hturn.completed ha
    refine ⟨w, raw, u, p, hw, hans, hturn, hm, fun q hq => ?_⟩
    have hgiven : ((s.memory.stamp { r with status := .pending } block).octetsIn w).sense =
        some ((s.memory.stamp { r with status := .pending } block).read q.base q.len) := by
      rw [Memory.octetsIn, hq]
      rfl
    have hstop : q.stop ≤ (s.memory.stamp { r with status := .pending } block).size := by
      rw [Memory.size_stamp]
      exact (hw.sound.sense q hq).2
    rw [Sg.senseCopied_deliver hresult r hgiven, Memory.length_read_of_le hstop]
    exact hcompleted.relayed hw hq

end Manager

/-- A reply with the payload `deadbeef` and 14 octets of sense data. -/
def attentionReply : Bytes :=
  Bytes.zeros 20 ++ [0x70, 0, 6, 0, 0, 0, 0, 6, 0, 0, 0, 0, 0x29, 0, 0, 0] ++
    [0xDE, 0xAD, 0xBE, 0xEF]

/-- A read has room for 16 sense octets, two more than the device has: the 14 are read. -/
theorem attention_relayed :
    let m := Manager.constant attentionReply
    let s := State.initial (.zeroed 256)
    ∃ t, Call.Asks s.memory .realMode (.submit shortRead) shortRead none ∧
      (m.perform .realMode (.submit shortRead)).exec s = (.ok .complete, t) ∧
      (Scsi.Sense.parse (t.memory.read 20 14)).toOption.map (·.code) = some 0x29 ∧
      ∃ w raw u p, shortRead.Fits s.memory .realMode w ∧ m.Answered shortRead none w s raw ∧
        m.Turn .realMode (.submit shortRead) s (.ok .complete) u p ∧
        Manager.conclude m.routine Status.complete u p = (.ok .complete, t) ∧
        ∀ q, w.sense = some q →
          Scsi.Sense.Relayed shortRead.sense.len.toNat (Sg.Header.ofOctets raw).sense.toList
            (u.memory.read q.base (Delivery.deliver (.ofOctets raw) shortRead
              (s.memory.octetsIn w)).1.senseCopied) := by
  intro m s
  have hok : ((m.perform .realMode (.submit shortRead)).exec s).1.toOption = some .complete := by
    decide +kernel
  have hread : (Scsi.Sense.parse (((m.perform .realMode (.submit shortRead)).exec s).2.memory.read
      20 14)).toOption.map (·.code) = some 0x29 := by decide +kernel
  rcases hx : (m.perform .realMode (.submit shortRead)).exec s with ⟨e | st, t⟩ <;>
    rw [hx] at hok hread <;> cases hok
  exact ⟨t, .submit shortRead, rfl, hread, Manager.sense_relayed (.submit shortRead) hx⟩

end AspiManager
