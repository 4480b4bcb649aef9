import FrameTap.Proofs.Header.Slots
import Mathlib.Data.Set.Pairwise.Basic
import Mathlib.Order.Interval.Finset.Nat

set_option autoImplicit false

namespace FrameTap

namespace Header

def payloadOffset : Header → Nat → Nat
  | .single _, _ => Protocol.single.headerLength
  | .ring h, index => h.slotOffset index

def payloadRange (header : Header) (index : Nat) : Finset Nat :=
  Finset.Ico (header.payloadOffset index) (header.payloadOffset index + header.payloadLength)

variable {header : Header} {index other : Nat}

theorem payloadOffset_eq (inside : index < header.protocol.slotCount) :
    header.payloadOffset index = header.payloadStart index := by
  cases header with
  | single h => rfl
  | ring h => exact slotOffset_eq h inside

theorem payloadRange_disjoint (inside : index < header.protocol.slotCount)
    (otherInside : other < header.protocol.slotCount) (before : index < other) :
    Disjoint (header.payloadRange index) (header.payloadRange other) := by
  have apart := payload_apart before otherInside
  rw [← payloadOffset_eq inside, ← payloadOffset_eq otherInside] at apart
  rw [payloadRange, payloadRange, Finset.disjoint_left]
  intro byte low high
  rw [Finset.mem_Ico] at low high
  omega

theorem accepted_of_within {size : Nat}
    (within : ∀ index < header.protocol.slotCount,
      header.encodedLength ≤ header.payloadOffset index ∧
        header.payloadOffset index + header.payloadLength ≤ size) :
    header.validateLayout size = .ok () := by
  have firstInside := header.protocol.slotCount_pos
  have lastInside : header.protocol.slotCount - 1 < header.protocol.slotCount := by omega
  have first := (within 0 firstInside).1
  have last := (within _ lastInside).2
  rw [payloadOffset_eq firstInside] at first
  rw [payloadOffset_eq lastInside] at last
  exact validateLayout_ok_iff.mpr ⟨first, last⟩

/-- A layout is accepted exactly if all payloads that it declares lie behind the header record and
inside the region. Their ranges have no byte in common, and no address among them wraps. -/
theorem validateLayout_exact (header : Header) (size : Nat) :
    (header.validateLayout size = .ok () ↔
      ∀ index < header.protocol.slotCount,
        header.encodedLength ≤ header.payloadOffset index ∧
          header.payloadOffset index + header.payloadLength ≤ size) ∧
    {index | index < header.protocol.slotCount}.PairwiseDisjoint header.payloadRange ∧
    (∀ h, header = .ring h → ∀ index < Slots.count,
      h.slotOffset index = h.frameOffset.toNat + index * h.frameDataSize.toNat ∧
        h.slotOffset index + h.frameDataSize.toNat < addressSpace) ∧
    header.validateLayout size ≠ .error .payloadOverflow := by
  refine ⟨⟨?_, accepted_of_within⟩, ?_, ?_, ?_⟩
  · intro accepted index inside
    rw [payloadOffset_eq inside]
    exact payload_within accepted inside
  · intro index inside other otherInside distinct
    rcases Nat.lt_or_gt_of_ne distinct with before | after
    · exact payloadRange_disjoint inside otherInside before
    · exact (payloadRange_disjoint otherInside inside after).symm
  · rintro h rfl index inside
    rw [slotOffset_eq h inside]
    exact ⟨rfl, @payload_addressable (.ring h) index inside⟩
  · intro overflowed
    have verdict := header.validateLayout_verdict size
    rw [overflowed] at verdict
    cases verdict

end Header

end FrameTap
