import FrameTap.Proofs.Header.RoundTrip
import FrameTap.Proofs.Synchronizer.Still

set_option autoImplicit false

namespace FrameTap

def Picture.frame (picture : Picture) (slot : Option Nat) (state : SlotState) (data : Bytes) :
    Frame where
  data := data
  frameNumber := state.frameNumber
  width := picture.width
  height := picture.height
  stride := picture.stride
  format := if picture.format = 0 then .bgra32 else .other picture.format
  timestampMs := state.timestampMs
  slot := slot

namespace Header

-- The reference reads the fields of the two records and shares nothing with what it is compared to.
inductive HasSlot : Header → Nat → SlotState → Prop
  | only (h : SingleHeader) : HasSlot (.single h) 0 ⟨h.ready, h.timestampMs, h.frameNumber⟩
  | first (h : RingHeader) : HasSlot (.ring h) 0 h.slots.first
  | second (h : RingHeader) : HasSlot (.ring h) 1 h.slots.second
  | third (h : RingHeader) : HasSlot (.ring h) 2 h.slots.third

def frameAt (bytes : Bytes) : Header → Nat → SlotState → Frame
  | .single h, _, state =>
    h.picture.frame none state ((bytes.drop 48).take h.dataSize.toNat)
  | .ring h, index, state =>
    h.picture.frame (some index) state
      ((bytes.drop (h.frameOffset.toNat + index * h.frameDataSize.toNat)).take
        h.frameDataSize.toNat)

def slotEnd : Header → Nat → Nat
  | .single h, _ => 48 + h.dataSize.toNat
  | .ring h, index =>
    h.frameOffset.toNat + index * h.frameDataSize.toNat + h.frameDataSize.toNat

inductive Native : Protocol → Header → Prop
  | single (h : SingleHeader) : Native .single (.single h)
  | ring (h : RingHeader) : Native .ring (.ring h)

/-- A header of the other revision, with the version that was connected to and its own. -/
inductive Foreign : Protocol → Header → UInt32 → UInt32 → Prop
  | ring (h : RingHeader) : Foreign .single (.ring h) 1 2
  | single (h : SingleHeader) : Foreign .ring (.single h) 2 1

section Slot

variable {header : Header} {index other : Nat} {state rival : SlotState}

theorem hasSlot_iff : header.HasSlot index state ↔ header.slot? index = some state := by
  constructor
  · intro slot
    cases slot <;> rfl
  · intro present
    cases header with
    | single h =>
      obtain rfl : index = 0 := Nat.lt_one_iff.mp (slot?_lt present)
      obtain rfl := Option.some.inj present
      exact .only h
    | ring h =>
      obtain rfl | rfl | rfl : index = 0 ∨ index = 1 ∨ index = 2 := by
        have inside : index < 3 := slot?_lt present
        omega
      · obtain rfl := Option.some.inj present
        exact .first h
      · obtain rfl := Option.some.inj present
        exact .second h
      · obtain rfl := Option.some.inj present
        exact .third h

theorem HasSlot.index_eq (slot : header.HasSlot index state) :
    (header.candidateAt index state).index = index :=
  index_candidateAt (hasSlot_iff.mp slot)

theorem HasSlot.inj (slot : header.HasSlot index state) (beside : header.HasSlot other rival)
    (same : header.candidateAt index state = header.candidateAt other rival) :
    index = other ∧ state = rival := by
  have indices : index = other := by rw [← slot.index_eq, ← beside.index_eq, same]
  have states := (hasSlot_iff.mp slot).symm.trans (indices ▸ hasSlot_iff.mp beside)
  exact ⟨indices, Option.some.inj states⟩

theorem payload_end (header : Header) (index : Nat) :
    header.payloadStart index + header.payloadLength = header.slotEnd index := by
  cases header <;> rfl

theorem frame_candidateAt (header : Header) (index : Nat) (state : SlotState) (bytes : Bytes) :
    (header.candidateAt index state).frame header
      ((header.candidateAt index state).payload bytes) = header.frameAt bytes index state := by
  cases header <;> rfl

theorem protocol_of_native {protocol : Protocol} (native : header.Native protocol) :
    header.protocol = protocol := by
  cases native <;> rfl

theorem protocol_of_foreign {protocol : Protocol} {was now : UInt32}
    (foreign : header.Foreign protocol was now) : header.protocol ≠ protocol := by
  cases foreign <;> exact Protocol.noConfusion

theorem versions_of_foreign {protocol : Protocol} {was now : UInt32}
    (foreign : header.Foreign protocol was now) {bytes : Bytes}
    (decoded : decode bytes = .ok header) : protocol.version = was ∧ header.version = now := by
  rw [version_of_decode decoded]
  cases foreign <;> exact ⟨rfl, rfl⟩

end Slot

end Header

def SlotBefore (earlier later : Nat × SlotState) : Prop :=
  earlier.2.frameNumber < later.2.frameNumber ∨
    earlier.2.frameNumber = later.2.frameNumber ∧ earlier.1 < later.1

namespace Synchronizer

variable (sync : Synchronizer) (mode : ExtractMode) (header : Header)

def Fresh (index : Nat) (state : SlotState) : Prop :=
  header.HasSlot index state ∧ state.ready ≠ 0 ∧ sync.floor header < state.frameNumber

def Picks (index : Nat) (state : SlotState) : Prop :=
  sync.Fresh header index state ∧ (mode = .latest → ∀ other rival,
    sync.Fresh header other rival → (other, rival) = (index, state) ∨
      SlotBefore (other, rival) (index, state))

section Slot

variable {sync : Synchronizer} {mode : ExtractMode} {header : Header} {index other : Nat}
  {state rival : SlotState} {candidate : Candidate}

theorem fresh_iff_isNew (slot : header.HasSlot index state) :
    sync.Fresh header index state ↔ sync.IsNew header (header.candidateAt index state) := by
  constructor
  · rintro ⟨-, ready, above⟩
    exact ⟨⟨index, state, Header.hasSlot_iff.mp slot, ready, rfl⟩, above⟩
  · rintro ⟨⟨other, rival, present, ready, same⟩, above⟩
    obtain ⟨rfl, rfl⟩ := (Header.hasSlot_iff.mpr present).inj slot same
    exact ⟨slot, ready, above⟩

theorem exists_slot_of_isNew (new : sync.IsNew header candidate) :
    ∃ index state, header.HasSlot index state ∧ header.candidateAt index state = candidate := by
  obtain ⟨⟨index, state, present, -, same⟩, -⟩ := new
  exact ⟨index, state, Header.hasSlot_iff.mpr present, same⟩

theorem slotBefore_iff (slot : header.HasSlot index state) (beside : header.HasSlot other rival) :
    SlotBefore (index, state) (other, rival) ↔
      (header.candidateAt index state).Before (header.candidateAt other rival) := by
  rw [Candidate.Before, slot.index_eq, beside.index_eq]
  rfl

theorem picks_iff_wants (slot : header.HasSlot index state) :
    sync.Picks mode header index state ↔
      sync.Wants mode header (header.candidateAt index state) := by
  refine and_congr (fresh_iff_isNew slot) (imp_congr_right fun _ => ?_)
  constructor
  · intro highest candidate new
    obtain ⟨other, rival, beside, rfl⟩ := exists_slot_of_isNew new
    obtain same | before := highest other rival ((fresh_iff_isNew beside).mpr new)
    · obtain ⟨rfl, rfl⟩ := Prod.mk.inj same
      exact .inl rfl
    · exact .inr ((slotBefore_iff beside slot).mp before)
  · intro highest other rival fresh
    have beside := fresh.1
    obtain same | before := highest _ ((fresh_iff_isNew beside).mp fresh)
    · obtain ⟨rfl, rfl⟩ := beside.inj slot same
      exact .inl rfl
    · exact .inr ((slotBefore_iff beside slot).mpr before)

end Slot

/-- The slots that an extraction delivers, and what it leaves behind. -/
structure Delivers (sync : Synchronizer) (mode : ExtractMode) (header : Header) (bytes : Bytes)
    (slots : List (Nat × SlotState)) (extraction : Extraction) (next : Synchronizer) : Prop where
  picked : ∀ index state, (index, state) ∈ slots ↔ sync.Picks mode header index state
  ordered : slots.Pairwise SlotBefore
  frames : extraction.frames = slots.map fun (index, state) => header.frameAt bytes index state
  untorn : extraction.torn = 0
  reset : extraction.reset =
    if sync.Restarted header then
      some { lastConsumed := sync.lastConsumed, observed := header.counter }
    else
      none
  highest : ∀ slot ∈ slots, slot.2.frameNumber ≤ next.lastConsumed
  last : (∃ slot ∈ slots, slot.2.frameNumber = next.lastConsumed) ∨
    slots = [] ∧ next.lastConsumed = sync.floor header

theorem exists_slots {header : Header} {taken : List Candidate}
    (declared : ∀ candidate ∈ taken,
      ∃ index state, header.HasSlot index state ∧ header.candidateAt index state = candidate) :
    ∃ slots : List (Nat × SlotState), (∀ slot ∈ slots, header.HasSlot slot.1 slot.2) ∧
      slots.map (fun slot => header.candidateAt slot.1 slot.2) = taken := by
  induction taken with
  | nil => exact ⟨[], by simp, rfl⟩
  | cons candidate rest ih =>
    obtain ⟨index, state, slot, rfl⟩ := declared _ List.mem_cons_self
    obtain ⟨slots, present, rfl⟩ := ih fun other member =>
      declared other (List.mem_cons_of_mem _ member)
    exact ⟨(index, state) :: slots, List.forall_mem_cons.mpr ⟨slot, present⟩, rfl⟩

section Taken

variable {sync : Synchronizer} {mode : ExtractMode} {header : Header}
  {slots : List (Nat × SlotState)} (present : ∀ slot ∈ slots, header.HasSlot slot.1 slot.2)
  (kept : slots.map (fun slot => header.candidateAt slot.1 slot.2) =
    (sync.select mode header).kept)

include present kept

theorem picked_of_kept (index : Nat) (state : SlotState) :
    (index, state) ∈ slots ↔ sync.Picks mode header index state := by
  have taken (slot : header.HasSlot index state) : sync.Picks mode header index state ↔
      ∃ other ∈ slots, header.candidateAt other.1 other.2 = header.candidateAt index state := by
    rw [picks_iff_wants slot, ← mem_kept_iff_wants, ← kept, List.mem_map]
  constructor
  · intro member
    exact (taken (present _ member)).mpr ⟨_, member, rfl⟩
  · intro picks
    have slot := picks.1.1
    obtain ⟨other, member, same⟩ := (taken slot).mp picks
    obtain ⟨indices, states⟩ := (present other member).inj slot same
    rwa [← indices, ← states]

theorem ordered_of_kept : slots.Pairwise SlotBefore := by
  have sorted := sync.kept_before mode header
  rw [← kept, List.pairwise_map] at sorted
  refine sorted.imp_of_mem fun early late before => ?_
  exact (slotBefore_iff (present _ early) (present _ late)).mpr before

end Taken

end Synchronizer

section Still

variable {sync : Synchronizer} {bytes : Bytes} {mode : ExtractMode} {header : Header}

theorem extract_ofBytes_unread (decoded : Header.decode bytes = .ok header)
    (native : header.Native sync.protocol) {index : Nat} {state : SlotState}
    (picks : sync.Picks mode header index state) (beyond : bytes.length < header.slotEnd index) :
    let attempt := (sync.extract (Source.ofBytes bytes : Source Id) mode).run
    (∃ fault, attempt.result = .error (.readFailure fault)) ∧ attempt.next = sync := by
  have wanted := (Synchronizer.picks_iff_wants picks.1.1).mp picks
  have outside : ¬(header.candidateAt index state).Fits bytes := by
    rw [← Header.payload_end] at beyond
    exact Nat.not_le.mpr beyond
  obtain ⟨candidate, -, -, outcome⟩ := extract_ofBytes_beyond (m := Id) decoded
    (Header.protocol_of_native native) (Synchronizer.mem_kept_iff_wants.mpr wanted) outside
  rw [outcome]
  exact ⟨⟨_, rfl⟩, rfl⟩

theorem extract_ofBytes_delivers (decoded : Header.decode bytes = .ok header)
    (native : header.Native sync.protocol)
    (fits : ∀ index state, sync.Picks mode header index state →
      header.slotEnd index ≤ bytes.length) :
    let attempt := (sync.extract (Source.ofBytes bytes : Source Id) mode).run
    ∃ slots extraction, attempt.result = .ok extraction ∧
      sync.Delivers mode header bytes slots extraction attempt.next := by
  have declared : ∀ candidate ∈ (sync.select mode header).kept,
      ∃ index state, header.HasSlot index state ∧ header.candidateAt index state = candidate :=
    fun candidate taken =>
      Synchronizer.exists_slot_of_isNew (Synchronizer.mem_kept_iff_wants.mp taken).1
  obtain ⟨slots, present, kept⟩ := Synchronizer.exists_slots declared
  have picked := Synchronizer.picked_of_kept present kept
  have inside : ∀ candidate ∈ (sync.select mode header).kept, candidate.Fits bytes := by
    rw [← kept, List.forall_mem_map]
    rintro ⟨index, state⟩ member
    have ends := fits index state ((picked index state).mp member)
    rwa [← Header.payload_end] at ends
  have outcome := extract_ofBytes_taken (m := Id) decoded (Header.protocol_of_native native) inside
  have cursor := settle_payloads_previous header (sync.select mode header).kept bytes
    (sync.floor header)
  have highest := highest_of_before (sync.floor header) (sync.kept_before mode header)
  rw [← cursor, Synchronizer.floor_eq_baseline] at highest
  rw [outcome]
  refine ⟨slots, _, rfl, ?_⟩
  constructor
  case picked => exact picked
  case ordered => exact Synchronizer.ordered_of_kept present kept
  case frames =>
    refine (settle_payloads_frames header _ bytes _).trans ?_
    rw [← kept, List.map_map]
    exact List.map_congr_left fun slot _ => Header.frame_candidateAt header slot.1 slot.2 bytes
  case untorn =>
    change UInt64.ofNat (List.length _) = 0
    rw [settle_payloads_overwritten]
    rfl
  case reset =>
    change Option.map _ (sync.restartObserved header) = _
    rw [Synchronizer.restartObserved_eq]
    split <;> rfl
  case highest =>
    intro slot member
    refine highest.1 (header.candidateAt slot.1 slot.2) ?_
    rw [← kept]
    exact List.mem_map_of_mem member
  case last =>
    rw [Synchronizer.floor_eq_baseline]
    refine highest.2.imp (fun carried => ?_) (And.imp_left fun none => ?_)
    · obtain ⟨candidate, taken, number⟩ := List.mem_map.mp carried
      rw [← kept] at taken
      obtain ⟨slot, member, rfl⟩ := List.mem_map.mp taken
      exact ⟨slot, member, number⟩
    · rw [← kept] at none
      exact List.map_eq_nil_iff.mp none

end Still

/-- An extraction from a region that stands still is the one that the reference describes. -/
theorem extract_still (sync : Synchronizer) (bytes : Bytes) (mode : ExtractMode) :
    let attempt := (sync.extract (Source.ofBytes bytes : Source Id) mode).run
    (∀ mismatch, Header.decode bytes = .error mismatch →
      attempt.result = .error (.protocolMismatch mismatch) ∧ attempt.next = sync) ∧
    (∀ header, Header.decode bytes = .ok header →
      (∀ was now, header.Foreign sync.protocol was now →
        attempt.result = .error (.protocolMismatch (.versionChanged was now)) ∧
        attempt.next = sync) ∧
      (header.Native sync.protocol →
        ((∃ index state, sync.Picks mode header index state ∧
            bytes.length < header.slotEnd index) →
          (∃ fault, attempt.result = .error (.readFailure fault)) ∧ attempt.next = sync) ∧
        ((∀ index state, sync.Picks mode header index state →
            header.slotEnd index ≤ bytes.length) →
          ∃ slots extraction, attempt.result = .ok extraction ∧
            sync.Delivers mode header bytes slots extraction attempt.next))) := by
  intro attempt
  refine ⟨?_, ?_⟩
  · intro mismatch refused
    have outcome := extract_ofBytes_undecodable (m := Id) sync mode refused
    simp only [attempt, outcome]
    exact ⟨rfl, rfl⟩
  intro header decoded
  refine ⟨?_, fun native => ⟨?_, extract_ofBytes_delivers decoded native⟩⟩
  · intro was now foreign
    obtain ⟨rfl, rfl⟩ := Header.versions_of_foreign foreign decoded
    have outcome := extract_ofBytes_changed (m := Id) mode decoded
      (Header.protocol_of_foreign foreign)
    simp only [attempt, outcome]
    exact ⟨rfl, rfl⟩
  · rintro ⟨index, state, picks, beyond⟩
    exact extract_ofBytes_unread decoded native picks beyond

end FrameTap
