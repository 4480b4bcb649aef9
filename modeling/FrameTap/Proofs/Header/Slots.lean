import FrameTap.Synchronizer.Extraction

/-!
One view of the slots of both revisions: the only slot of a single header is slot 0. What is ready,
where payloads lie and which number a slot carries are said of a slot by its index. In an accepted
layout payloads lie behind the header record, inside the region and apart from one another.
-/

set_option autoImplicit false

namespace FrameTap

namespace Protocol

def slotCount : Protocol → Nat
  | .single => 1
  | .ring => Slots.count

def slotName : Protocol → Nat → Option Nat
  | .single, _ => none
  | .ring, index => some index

theorem slotCount_pos (protocol : Protocol) : 0 < protocol.slotCount := by
  cases protocol <;> decide

end Protocol

theorem Slots.get?_isSome {α : Type} (slots : Slots α) (index : Nat) :
    (slots.get? index).isSome ↔ index < Slots.count := by
  match index with
  | 0 | 1 | 2 => simp [get?, count]
  | _ + 3 => simp [get?, count]

def Candidate.index (candidate : Candidate) : Nat := candidate.slot.getD 0

namespace Header

def slot? : Header → Nat → Option SlotState
  | .single h, 0 => some ⟨h.ready, h.timestampMs, h.frameNumber⟩
  | .single _, _ + 1 => none
  | .ring h, index => h.slots.get? index

def payloadLength : Header → Nat
  | .single h => h.dataSize.toNat
  | .ring h => h.frameDataSize.toNat

def payloadStart : Header → Nat → Nat
  | .single _, _ => Protocol.single.headerLength
  | .ring h, index => h.frameOffset.toNat + index * h.frameDataSize.toNat

def candidateAt (header : Header) (index : Nat) (state : SlotState) : Candidate where
  slot := header.protocol.slotName index
  frameNumber := state.frameNumber
  timestampMs := state.timestampMs
  offset := header.payloadStart index
  length := header.payloadLength

theorem slot?_isSome (header : Header) (index : Nat) :
    (header.slot? index).isSome ↔ index < header.protocol.slotCount := by
  cases header with
  | single h => cases index <;> simp [slot?, protocol, Protocol.slotCount]
  | ring h => exact h.slots.get?_isSome index

theorem slot?_lt {header : Header} {index : Nat} {state : SlotState}
    (present : header.slot? index = some state) : index < header.protocol.slotCount := by
  rw [← slot?_isSome, present]
  rfl

-- Offsets and sizes are 32-bit numbers, so no payload of a slot ends past the 64-bit numbers.
theorem payload_addressable {header : Header} {index : Nat}
    (inside : index < header.protocol.slotCount) :
    header.payloadStart index + header.payloadLength < addressSpace := by
  change _ < 18446744073709551616
  cases header with
  | single h =>
    have size : h.dataSize.toNat < 4294967296 := h.dataSize.toNat_lt
    simp only [payloadStart, payloadLength, Protocol.headerLength]
    omega
  | ring h =>
    have size : h.frameDataSize.toNat < 4294967296 := h.frameDataSize.toNat_lt
    have offset : h.frameOffset.toNat < 4294967296 := h.frameOffset.toNat_lt
    have slots : index * h.frameDataSize.toNat ≤ 2 * h.frameDataSize.toNat :=
      Nat.mul_le_mul_right _ (Nat.le_of_lt_succ inside)
    simp only [payloadStart, payloadLength]
    omega

theorem payloadStart_mono (header : Header) {index other : Nat} (before : index ≤ other) :
    header.payloadStart index ≤ header.payloadStart other := by
  cases header with
  | single h => exact Nat.le_refl _
  | ring h => exact Nat.add_le_add_left (Nat.mul_le_mul_right _ before) _

theorem slotOffset_eq (h : RingHeader) {index : Nat} (inside : index < Slots.count) :
    h.slotOffset index = h.frameOffset.toNat + index * h.frameDataSize.toNat := by
  have addressable : (Header.ring h).payloadStart index + (Header.ring h).payloadLength <
      addressSpace := payload_addressable inside
  exact Nat.mod_eq_of_lt (Nat.lt_of_le_of_lt (Nat.le_add_right _ _) addressable)

theorem ofSlot_eq_candidateAt (h : RingHeader) {index : Nat} (inside : index < Slots.count)
    (state : SlotState) : Candidate.ofSlot h index state = candidateAt (.ring h) index state := by
  simp [Candidate.ofSlot, candidateAt, slotOffset_eq h inside, payloadStart, payloadLength,
    protocol, Protocol.slotName]

def readyAt? (header : Header) (index : Nat) : Option Candidate :=
  ((header.slot? index).filter (·.ready ≠ 0)).map (header.candidateAt index)

theorem readyAt?_eq_some {header : Header} {index : Nat} {candidate : Candidate} :
    header.readyAt? index = some candidate ↔
      ∃ state, header.slot? index = some state ∧ state.ready ≠ 0 ∧
        header.candidateAt index state = candidate := by
  simp [readyAt?, Option.map_eq_some_iff, Option.filter_eq_some_iff, and_assoc]

theorem readyCandidates_eq (header : Header) :
    header.readyCandidates =
      (List.range header.protocol.slotCount).filterMap header.readyAt? := by
  cases header with
  | single h =>
    by_cases ready : h.ready = 0 <;>
      simp [readyCandidates, readyAt?, slot?, protocol, Protocol.slotCount, ready, candidateAt,
        Protocol.slotName, payloadStart, payloadLength, Option.filter]
  | ring h =>
    have first := ofSlot_eq_candidateAt h (by decide : 0 < Slots.count) h.slots.first
    have second := ofSlot_eq_candidateAt h (by decide : 1 < Slots.count) h.slots.second
    have third := ofSlot_eq_candidateAt h (by decide : 2 < Slots.count) h.slots.third
    -- Each flag decides on a candidate of its own, so the eight combinations are independent.
    by_cases ready0 : h.slots.first.ready = 0 <;> by_cases ready1 : h.slots.second.ready = 0 <;>
      by_cases ready2 : h.slots.third.ready = 0 <;>
      simp [readyCandidates, readyAt?, slot?, protocol, Protocol.slotCount, Slots.count,
        Slots.toList, Slots.get?, List.range_succ, List.zipIdx_cons, Option.filter, ready0, ready1,
        ready2, first, second, third]

theorem mem_readyCandidates {header : Header} {candidate : Candidate} :
    candidate ∈ header.readyCandidates ↔
      ∃ index state, header.slot? index = some state ∧ state.ready ≠ 0 ∧
        header.candidateAt index state = candidate := by
  rw [readyCandidates_eq, List.mem_filterMap]
  constructor
  · rintro ⟨index, -, found⟩
    exact ⟨index, readyAt?_eq_some.mp found⟩
  · rintro ⟨index, state, present, ready⟩
    exact ⟨index, List.mem_range.mpr (slot?_lt present),
      readyAt?_eq_some.mpr ⟨state, present, ready⟩⟩

theorem readyCandidates_single {h : SingleHeader} {candidate : Candidate}
    (ready : candidate ∈ (Header.single h).readyCandidates) :
    h.ready ≠ 0 ∧ candidate.frameNumber = h.frameNumber := by
  by_cases raised : h.ready ≠ 0
  · rw [readyCandidates, if_pos raised, List.mem_singleton] at ready
    exact ⟨raised, by rw [ready]⟩
  · rw [readyCandidates, if_neg raised] at ready
    exact absurd ready List.not_mem_nil

theorem index_candidateAt {header : Header} {index : Nat} {state : SlotState}
    (present : header.slot? index = some state) :
    (header.candidateAt index state).index = index := by
  have inside := slot?_lt present
  cases header with
  | single h =>
    have only : index = 0 := Nat.lt_one_iff.mp inside
    rw [only]
    rfl
  | ring h => rfl

theorem readyCandidates_slot_order (header : Header) :
    header.readyCandidates.Pairwise fun earlier later => earlier.index < later.index := by
  rw [readyCandidates_eq, List.pairwise_filterMap]
  refine List.pairwise_lt_range.imp ?_
  intro index next before earlier foundEarlier later foundLater
  obtain ⟨state, present, -, rfl⟩ := readyAt?_eq_some.mp foundEarlier
  obtain ⟨nextState, nextPresent, -, rfl⟩ := readyAt?_eq_some.mp foundLater
  rw [index_candidateAt present, index_candidateAt nextPresent]
  exact before

-- A header read later gives a candidate the number that its slot carries then.
theorem currentNumber_candidateAt {header later : Header} {index : Nat} {state : SlotState}
    (present : header.slot? index = some state) (same : later.protocol = header.protocol) :
    later.currentNumber (header.candidateAt index state) =
      (later.slot? index).map (·.frameNumber) := by
  have inside := slot?_lt present
  cases header with
  | single h =>
    have only : index = 0 := Nat.lt_one_iff.mp inside
    cases later with
    | single l =>
      rw [only]
      rfl
    | ring l => cases same
  | ring h =>
    cases later with
    | single l => cases same
    | ring l => rfl

theorem currentNumber_of_ready {header : Header} {candidate : Candidate}
    (ready : candidate ∈ header.readyCandidates) :
    header.currentNumber candidate = some candidate.frameNumber := by
  obtain ⟨index, state, present, -, rfl⟩ := mem_readyCandidates.mp ready
  rw [currentNumber_candidateAt present rfl, present]
  rfl

section Payloads

variable {header : Header} {index other : Nat}

-- The first byte after the payload of the last slot.
def areaEnd (header : Header) : Nat :=
  header.payloadStart (header.protocol.slotCount - 1) + header.payloadLength

theorem payloadEnd_eq (header : Header) : header.payloadEnd = some header.areaEnd := by
  have last : header.protocol.slotCount - 1 < header.protocol.slotCount :=
    Nat.pred_lt_of_lt header.protocol.slotCount_pos
  have addressable := payload_addressable last
  cases header with
  | single h => exact if_pos addressable
  | ring h =>
    have sum : h.frameDataSize.toNat * Slots.count + h.frameOffset.toNat = (ring h).areaEnd := by
      change h.frameDataSize.toNat * 3 + h.frameOffset.toNat =
        h.frameOffset.toNat + 2 * h.frameDataSize.toNat + h.frameDataSize.toNat
      omega
    rw [payloadEnd, sum]
    exact if_pos addressable

/-- What is said of a layout, in order of precedence. -/
inductive Verdict (header : Header) (size : Nat) : Except LayoutFault Unit → Prop
  | overlapping {h : RingHeader} (ring : header = .ring h)
      (before : header.payloadStart 0 < header.encodedLength) :
      Verdict header size (.error (.overlapsHeader h.frameOffset))
  | outside (behind : header.encodedLength ≤ header.payloadStart 0)
      (beyond : size < header.areaEnd) :
      Verdict header size (.error (.payloadOutside header.areaEnd size))
  | accepted (behind : header.encodedLength ≤ header.payloadStart 0)
      (within : header.areaEnd ≤ size) : Verdict header size (.ok ())

theorem verdict_of_behind {size : Nat} (behind : header.encodedLength ≤ header.payloadStart 0) :
    Verdict header size
      (if header.areaEnd ≤ size then .ok () else .error (.payloadOutside header.areaEnd size)) := by
  by_cases within : header.areaEnd ≤ size
  · rw [if_pos within]
    exact .accepted behind within
  · rw [if_neg within]
    exact .outside behind (Nat.not_le.mp within)

theorem validateLayout_verdict (header : Header) (size : Nat) :
    Verdict header size (header.validateLayout size) := by
  have last := header.payloadEnd_eq
  cases header with
  | single h =>
    simp only [validateLayout, last]
    exact verdict_of_behind (Nat.le_refl _)
  | ring h =>
    have first : (ring h).payloadStart 0 = h.frameOffset.toNat := by simp [payloadStart]
    by_cases overlaps : h.frameOffset.toNat < Protocol.ring.headerLength
    · simp only [validateLayout, if_pos overlaps]
      exact .overlapping rfl (first ▸ overlaps)
    · simp only [validateLayout, if_neg overlaps, last]
      exact verdict_of_behind (first ▸ Nat.not_lt.mp overlaps)

theorem validateLayout_ok_iff {size : Nat} :
    header.validateLayout size = .ok () ↔
      header.encodedLength ≤ header.payloadStart 0 ∧ header.areaEnd ≤ size := by
  have verdict := header.validateLayout_verdict size
  generalize header.validateLayout size = answer at verdict
  cases verdict with
  | overlapping ring before =>
    constructor
    · nofun
    · exact fun ⟨behind, _⟩ => absurd behind (Nat.not_le.mpr before)
  | outside behind beyond =>
    constructor
    · nofun
    · exact fun ⟨_, within⟩ => absurd within (Nat.not_le.mpr beyond)
  | accepted behind within => exact ⟨fun _ => ⟨behind, within⟩, fun _ => rfl⟩

-- The first slot begins before all others, and the last one ends after them.
theorem payload_within {size : Nat} (accepted : header.validateLayout size = .ok ())
    (inside : index < header.protocol.slotCount) :
    header.encodedLength ≤ header.payloadStart index ∧
      header.payloadStart index + header.payloadLength ≤ size := by
  obtain ⟨behind, fits⟩ := validateLayout_ok_iff.mp accepted
  have first := header.payloadStart_mono (Nat.zero_le index)
  have last := header.payloadStart_mono (Nat.le_sub_one_of_lt inside)
  simp only [areaEnd] at fits
  omega

theorem payload_apart (before : index < other) (inside : other < header.protocol.slotCount) :
    header.payloadStart index + header.payloadLength ≤ header.payloadStart other := by
  cases header with
  | single h =>
    have only : other < 1 := inside
    omega
  | ring h =>
    have next : (index + 1) * h.frameDataSize.toNat ≤ other * h.frameDataSize.toNat :=
      Nat.mul_le_mul_right _ before
    simp only [payloadStart, payloadLength]
    rw [Nat.succ_mul] at next
    omega

end Payloads

end Header

end FrameTap
