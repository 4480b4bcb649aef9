import FrameTap.Proofs.Synchronizer.Modes
import FrameTap.Region

set_option autoImplicit false

namespace FrameTap

section Bounds

variable {m : Type → Type} [Monad m] {mapping : Mapping m} {bytes : Bytes} {offset length : Nat}

structure Mapping.Shows (mapping : Mapping m) (bytes : Bytes) : Prop where
  size : mapping.size = bytes.length
  inside : ∀ offset length, offset + length ≤ bytes.length →
    mapping.read offset length = pure (bytes.slice offset length)

theorem copyOut_mapped_of_outside (outside : bytes.length < offset + length) :
    ∃ fault, (Source.mapped bytes : Source m).copyOut offset length =
      pure (.error (.readFailure fault)) := by
  by_cases overflow : addressSpace ≤ offset + length
  · exact ⟨.rangeOverflow, by simp [Source.mapped, Source.ofMapping, overflow]⟩
  · exact ⟨.outsideRegion offset (offset + length) bytes.length, by
      simp [Source.mapped, Source.ofMapping, overflow, outside]⟩

theorem copyOut_ofBytes_of_outside (outside : bytes.length < offset + length) :
    (Source.ofBytes bytes : Source m).copyOut offset length =
      pure (.error (.readFailure (.outOfBounds offset length))) := by
  simp [Source.ofBytes, Nat.not_le.mpr outside]

variable [LawfulMonad m]

-- A mapping is read inside of its bounds only.
theorem ofMapping_eq_mapped (shows : mapping.Shows bytes) :
    Source.ofMapping mapping.size mapping.read = Source.mapped bytes := by
  obtain ⟨size, read⟩ := mapping
  obtain ⟨rfl, inside⟩ := shows
  refine congrArg (Source.mk _) ?_
  funext offset length
  by_cases within : offset + length ≤ bytes.length
  · have read : read offset length = pure (bytes.slice offset length) :=
      inside offset length within
    simp [read]
  · simp [Nat.not_le.mp within]

end Bounds

-- Which copies are possible: they end at a 64-bit number, and not past the last byte.
def Bytes.Holds (bytes : Bytes) (offset length : Nat) : Prop :=
  offset + length < addressSpace ∧ offset + length ≤ bytes.length

theorem Bytes.outside_of_not_holds {bytes : Bytes} {offset length : Nat}
    (addressable : bytes.length < addressSpace) (refused : ¬bytes.Holds offset length) :
    bytes.length < offset + length := by
  simp only [Bytes.Holds, not_and_or] at refused
  omega

theorem opened_region_agrees (name : String) {mapping : Mapping Id} {bytes : Bytes}
    (shows : mapping.Shows bytes) (sized : Header.preambleLength ≤ bytes.length)
    (addressable : bytes.length < addressSpace) :
    let plain : Source Id := Source.ofBytes bytes
    ∃ region, Region.ofMapping name mapping = .ok region ∧
      (∀ offset length,
        (bytes.Holds offset length →
          (region.source.copyOut offset length).run = .ok (bytes.slice offset length) ∧
          (plain.copyOut offset length).run = .ok (bytes.slice offset length)) ∧
        (¬bytes.Holds offset length →
          (∃ fault, (region.source.copyOut offset length).run = .error (.readFailure fault)) ∧
          ∃ fault, (plain.copyOut offset length).run = .error (.readFailure fault))) ∧
      region.source.readHeader.run = plain.readHeader.run ∧
      ∀ (sync : Synchronizer) mode,
        (sync.extract region.source mode).run = (sync.extract plain mode).run := by
  intro plain
  refine ⟨{ name, source := Source.mapped bytes }, ?_, fun offset length => ⟨?_, ?_⟩, ?_, ?_⟩
  · have long : ¬mapping.size < Header.preambleLength := by
      rw [shows.size]
      exact Nat.not_lt.mpr sized
    rw [Region.ofMapping, if_neg long, ofMapping_eq_mapped shows]
  · rintro ⟨inRange, inside⟩
    have copied := copyOut_ofBytes_of_inside (m := Id) inside
    rw [copyOut_mapped inside inRange, copied]
    exact ⟨rfl, rfl⟩
  · intro refused
    have outside := Bytes.outside_of_not_holds addressable refused
    obtain ⟨fault, mapped⟩ := copyOut_mapped_of_outside (m := Id) outside
    exact ⟨⟨fault, congrArg Id.run mapped⟩, _, congrArg Id.run (copyOut_ofBytes_of_outside outside)⟩
  · rw [readHeader_mapped]
  · intro sync mode
    rw [extract_mapped]

-- Past its end there would be something to read.
def looseMapping : Mapping Id where
  size := scatteredRing.length
  read offset length :=
    if offset + length ≤ scatteredRing.length then scatteredRing.slice offset length
    else List.replicate length 255

theorem looseMapping_shows : looseMapping.Shows scatteredRing where
  size := rfl
  inside _ _ inside := if_pos inside

-- Nothing is left to copy at the very end, and nothing may be copied after it.
theorem opened_region_agrees_looseMapping :
    looseMapping.Shows scatteredRing ∧ Header.preambleLength ≤ scatteredRing.length ∧
      scatteredRing.length < addressSpace ∧
      ∃ region, Region.ofMapping "ring" looseMapping = .ok region ∧
        (region.source.copyOut 132 0).run = .ok [] ∧
        (∃ fault, (region.source.copyOut 133 0).run = .error (.readFailure fault)) ∧
        (∃ fault, (region.source.copyOut 18446744073709551615 1).run =
          .error (.readFailure fault)) ∧
        (afterThree.extract region.source .allNew).run.result =
          .ok { frames := scatteredFrames, dropped := 3, torn := 0, reset := none } := by
  have sized : Header.preambleLength ≤ scatteredRing.length := by decide +kernel
  have addressable : scatteredRing.length < addressSpace := by decide +kernel
  have all : scatteredRing.length = 132 := by decide +kernel
  obtain ⟨region, opened, copies, -, extracts⟩ :=
    opened_region_agrees "ring" looseMapping_shows sized addressable
  have nothing : scatteredRing.Holds 132 0 := ⟨by decide, Nat.le_of_eq all.symm⟩
  have past : ¬scatteredRing.Holds 133 0 := fun held => by
    have inside := held.2
    omega
  have overflow : ¬scatteredRing.Holds 18446744073709551615 1 := fun held =>
    absurd held.1 (by decide)
  refine ⟨looseMapping_shows, sized, addressable, region, opened, ((copies 132 0).1 nothing).1,
    ((copies 133 0).2 past).1, ((copies _ 1).2 overflow).1, ?_⟩
  rw [extracts]
  decide +kernel

end FrameTap
