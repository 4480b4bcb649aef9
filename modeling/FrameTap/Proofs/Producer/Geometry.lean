import FrameTap.Proofs.Producer.Timeline
import FrameTap.Proofs.Synchronizer.Readable

set_option autoImplicit false

namespace FrameTap

namespace Header

-- Ready flags, numbers, counters, times and pictures may all differ.
def SameGeometry : Header → Header → Prop
  | .single old, .single new => new.dataSize = old.dataSize
  | .ring old, .ring new =>
    new.frameDataSize = old.frameDataSize ∧ new.frameOffset = old.frameOffset
  | _, _ => False

theorem SameGeometry.same {old new : Header} (geometry : SameGeometry old new) :
    new.protocol = old.protocol ∧ new.payloadLength = old.payloadLength ∧
      ∀ index, new.payloadStart index = old.payloadStart index := by
  cases old <;> cases new <;>
    simp_all [SameGeometry, protocol, payloadLength, payloadStart]

theorem SameGeometry.ready_within {accepted shown : Header} {size : Nat} {candidate : Candidate}
    (layout : accepted.validateLayout size = .ok ()) (geometry : accepted.SameGeometry shown)
    (ready : candidate ∈ shown.readyCandidates) : candidate.offset + candidate.length ≤ size := by
  obtain ⟨protocol, length, start⟩ := geometry.same
  obtain ⟨index, state, present, -, rfl⟩ := mem_readyCandidates.mp ready
  have inside := slot?_lt present
  rw [protocol] at inside
  have within := (payload_within layout inside).2
  simp only [candidateAt, start, length]
  exact within

end Header

variable {σ : Type}

structure Source.KeepsTo (source : Source (StateM σ)) (accepted : Header) (size : Nat) : Prop where
  length : ∀ world, (source.length world).1 = size
  copyOut : ∀ offset length world, offset + length ≤ size →
    ∃ data, (source.copyOut offset length world).1 = .ok data
  readHeader : ∀ world, ∃ shown,
    (source.readHeader world).1 = .ok shown ∧ accepted.SameGeometry shown

namespace Source.KeepsTo

variable {source : Source (StateM σ)} {accepted : Header} {size : Nat}
  (keeps : source.KeepsTo accepted size)

include keeps

theorem stillCurrent (candidate : Candidate) (world : σ) :
    ∃ verdict, (source.stillCurrent candidate world).1 = .ok verdict := by
  obtain ⟨shown, read, -⟩ := keeps.readHeader world
  rcases scan : source.readHeader world with ⟨answer, after⟩
  obtain rfl : answer = .ok shown := by simpa [scan] using read
  rw [Source.stillCurrent, StateM.bind_of_eq scan]
  exact ⟨_, rfl⟩

theorem readable {shown : Header} {candidate : Candidate}
    (layout : accepted.validateLayout size = .ok ()) (geometry : accepted.SameGeometry shown)
    (ready : candidate ∈ shown.readyCandidates) :
    Readable source (fun _ => True) candidate := by
  have within := geometry.ready_within layout ready
  refine ⟨?_, ?_, ?_⟩
  · intro world _
    refine ⟨_, _, rfl, ?_, trivial⟩
    rw [keeps.length world]
    exact within
  · intro world _
    obtain ⟨data, copy⟩ := keeps.copyOut _ _ world within
    exact ⟨data, _, Prod.ext copy rfl, trivial⟩
  · intro world _
    obtain ⟨verdict, check⟩ := keeps.stillCurrent candidate world
    exact ⟨verdict, _, Prod.ext check rfl, trivial⟩

end Source.KeepsTo

theorem extract_of_accepted {accepted : Header} {size : Nat}
    (layout : accepted.validateLayout size = .ok ()) {source : Source (StateM σ)}
    (keeps : source.KeepsTo accepted size) {sync : Synchronizer}
    (agreed : sync.protocol = accepted.protocol) (mode : ExtractMode) (world : σ) :
    ∃ extraction, (sync.extract source mode world).1.result = .ok extraction := by
  obtain ⟨shown, read, geometry⟩ := keeps.readHeader world
  have scan : source.readHeader world = (.ok shown, (source.readHeader world).2) :=
    Prod.ext read rfl
  have same : shown.protocol = sync.protocol := geometry.same.1.trans agreed.symm
  obtain ⟨attempt, after, extraction, run, succeeded, -⟩ :=
    extract_readable scan same trivial fun _ taken =>
      keeps.readable layout geometry (Synchronizer.ready_of_kept taken)
  exact ⟨extraction, by rw [run, succeeded]⟩

-- At each read the ring shows other flags, numbers, totals and pictures.
def busyHeader (call : Nat) : Header :=
  .ring
    { magic := Header.magicNumber, version := 2
      picture := { width := UInt32.ofNat call, height := 1, stride := 4, format := 0 }
      frameDataSize := 4, ringSize := 3, frameOffset := 120
      writeIndex := UInt32.ofNat call, readIndex := 0
      totalFrames := UInt64.ofNat (1000 - call), timestampMs := UInt64.ofNat call
      slots :=
        { first := ⟨UInt32.ofNat (call % 2), 0, UInt64.ofNat (call + 7)⟩
          second := ⟨1, UInt64.ofNat call, 5⟩
          third := ⟨1, 0, UInt64.ofNat (2 * call)⟩ } }

def busyView (call : Nat) : Bytes := (busyHeader call).encode ++ List.replicate 12 0

theorem length_busyView (call : Nat) : (busyView call).length = 132 := by
  rw [busyView, List.length_append, Header.length_encode]
  rfl

theorem keepsTo_busyView : (Source.ofViews busyView).KeepsTo (busyHeader 0) 132 where
  length call := by
    simp only [Source.ofViews]
    exact length_busyView call
  copyOut offset length call inside :=
    ⟨(busyView call).slice offset length, by
      simp only [Source.ofViews, length_busyView, if_pos inside]⟩
  readHeader call := by
    have genuine : (busyHeader call).Genuine := ⟨rfl, rfl, rfl⟩
    refine ⟨busyHeader call, ?_, rfl, rfl⟩
    rw [readHeader_ofViews, busyView, Header.decode_encode_append genuine]
    rfl

-- Only the second slot keeps its number while the three are copied.
theorem extract_of_accepted_busyView :
    (busyHeader 0).validateLayout 132 = .ok () ∧
      (Source.ofViews busyView).KeepsTo (busyHeader 0) 132 ∧
      ∃ extraction,
        ((Synchronizer.start .ring).extract (Source.ofViews busyView) .allNew 1).1.result =
          .ok extraction ∧
        frameNumbers extraction.frames = [5] ∧ extraction.torn = 2 := by
  have layout : (busyHeader 0).validateLayout 132 = .ok () := rfl
  have agreed : (Synchronizer.start .ring).protocol = (busyHeader 0).protocol := rfl
  obtain ⟨extraction, succeeded⟩ := extract_of_accepted layout keepsTo_busyView agreed .allNew 1
  have outcome :
      ((Synchronizer.start .ring).extract (Source.ofViews busyView) .allNew 1).1.result.map
        (fun extraction => (frameNumbers extraction.frames, extraction.torn)) = .ok ([5], 2) := by
    decide +kernel
  rw [succeeded] at outcome
  obtain ⟨numbers, torn⟩ := Prod.mk.inj (Except.ok.inj outcome)
  exact ⟨layout, keepsTo_busyView, extraction, succeeded, numbers, torn⟩

end FrameTap
