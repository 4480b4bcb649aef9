import FrameTap.Proofs.Synchronizer.Sessions
import FrameTap.Proofs.Synchronizer.Views

set_option autoImplicit false

namespace FrameTap

namespace Synchronizer

variable (sync : Synchronizer) (header : Header)

theorem kept_latest_eq_getLast? :
    (sync.select .latest header).kept = (sync.select .allNew header).kept.getLast?.toList := by
  rw [kept_latest]
  rcases List.eq_nil_or_concat' (sync.select .allNew header).kept with none | ⟨front, last, kept⟩
  · simp [none]
  · simp [kept]

theorem getLast?_kept_latest :
    (sync.select .latest header).kept.getLast? = (sync.select .allNew header).kept.getLast? := by
  rw [kept_latest_eq_getLast?]
  cases (sync.select .allNew header).kept.getLast? <;> rfl

variable {sync header}

theorem baseline_of_unreset (unreset : sync.restartObserved header = none) :
    sync.baseline header = sync.lastConsumed := by
  simp [baseline, unreset]

end Synchronizer

section Counts

variable {sync : Synchronizer} {header : Header}

-- Frames delivered and frames dropped are all that lie between the cursor before and after.
theorem length_add_dropped (mode : ExtractMode) (bytes : Bytes) (distinct : header.DistinctReady)
    (positive : 0 < sync.baseline header) :
    (sync.stillHaul mode header bytes).frames.length +
        (sync.stillHaul mode header bytes).dropped.toNat + (sync.baseline header).toNat =
      (sync.stillHaul mode header bytes).previous.toNat := by
  have names : (payloadCopies (sync.select mode header).kept bytes).map Prod.fst <+:
      (sync.select mode header).kept := by
    simp [payloadCopies, Function.comp_def]
  have dropped := settle_dropped_exact names
  have numbers : frameNumbers (deliveredFrames header
      (payloadCopies (sync.select mode header).kept bytes)) =
        (sync.select mode header).kept.map (·.frameNumber) := by
    simp [deliveredFrames_payloads, frameNumbers, Candidate.frame, Function.comp_def]
  have increasing : (sync.baseline header :: (sync.select mode header).kept.map
      (·.frameNumber)).Pairwise (· < ·) := by
    rw [List.pairwise_cons, List.forall_mem_map, List.pairwise_map]
    exact ⟨fun _ taken => Synchronizer.baseline_lt_of_kept taken,
      Synchronizer.kept_increasing distinct⟩
  have covered := length_add_missed (UInt64.pos_iff_ne_zero.mp positive) increasing
  rw [numbers] at dropped
  change (sync.stillHaul mode header bytes).dropped.toNat = _ at dropped
  simp only [List.length_cons, List.length_map] at covered
  simp only [stillHaul_frames, stillHaul_previous, List.length_map]
  omega

end Counts

theorem latest_refines_allNew (sync : Synchronizer) (bytes : Bytes) {all : Extraction}
    (succeeded :
      (sync.extract (Source.ofBytes bytes : Source Id) .allNew).run.result = .ok all) :
    let allNew := (sync.extract (Source.ofBytes bytes : Source Id) .allNew).run
    let latest := (sync.extract (Source.ofBytes bytes : Source Id) .latest).run
    ∃ newest, latest.result = .ok newest ∧
      newest.reset = all.reset ∧
      latest.next.lastConsumed = allNew.next.lastConsumed ∧
      latest.next.lastTotal = allNew.next.lastTotal ∧
      newest.frames = all.frames.getLast?.toList ∧
      (all.reset = none → 0 < sync.lastConsumed →
        (∀ header, Header.decode bytes = .ok header → header.DistinctReady) →
        newest.frames.length + newest.dropped.toNat = all.frames.length + all.dropped.toNat) := by
  intro allNew latest
  obtain ⟨header, agreed, fits, rfl⟩ := extracted_of_still succeeded
  have fitsLatest : ∀ candidate ∈ (sync.select .latest header).kept, candidate.Fits bytes :=
    fun candidate taken => fits candidate ((sync.kept_sublist .latest header).subset taken)
  obtain ⟨-, allConsumed, allTotal⟩ := extract_agreed agreed fits
  obtain ⟨ran, consumed, total⟩ := extract_agreed agreed fitsLatest
  have sameCursor : (sync.stillHaul .latest header bytes).previous =
      (sync.stillHaul .allNew header bytes).previous := by
    simp [List.getLastD_eq_getLast?, sync.getLast?_kept_latest]
  refine ⟨_, ran, rfl, ?_, ?_, ?_, ?_⟩
  · rw [consumed, allConsumed, sameCursor]
  · rw [total, allTotal]
    rfl
  · change (sync.stillHaul .latest header bytes).frames = _
    simp [Haul.extraction, sync.kept_latest_eq_getLast?, Option.toList_map]
  · intro unreset positive distinct
    have base := Synchronizer.baseline_of_unreset (Option.map_eq_none_iff.mp unreset)
    have shown := distinct header (agreedHeader_eq_ok.mp agreed).1
    rw [← base] at positive
    have counted := length_add_dropped .latest bytes shown positive
    have allCounted := length_add_dropped .allNew bytes shown positive
    rw [sameCursor] at counted
    simp only [Haul.extraction]
    omega

-- Three new frames, out of slot order.
def scatteredHeader : Header :=
  .ring
    { magic := Header.magicNumber, version := 2
      picture := { width := 1, height := 1, stride := 4, format := 0 }
      frameDataSize := 4, ringSize := 3, frameOffset := 120, writeIndex := 0, readIndex := 0
      totalFrames := 9, timestampMs := 0
      slots := { first := ⟨1, 70, 7⟩, second := ⟨1, 50, 5⟩, third := ⟨1, 90, 9⟩ } }

def scatteredRing : Bytes := scatteredHeader.encode ++ [7, 7, 7, 7, 5, 5, 5, 5, 9, 9, 9, 9]

def afterThree : Synchronizer := { protocol := .ring, lastConsumed := 3, lastTotal := 3 }

def scatteredFrames : List Frame :=
  [(50, 5, 1), (70, 7, 0), (90, 9, 2)].map fun (timestampMs, frameNumber, slot) =>
    { data := List.replicate 4 frameNumber.toUInt8, frameNumber, width := 1, height := 1
      stride := 4, format := .bgra32, timestampMs, slot := some slot }

theorem latest_refines_allNew_scatteredRing :
    ∃ newest,
      (afterThree.extract (Source.ofBytes scatteredRing : Source Id) .allNew).run.result =
        .ok { frames := scatteredFrames, dropped := 3, torn := 0, reset := none } ∧
      (afterThree.extract (Source.ofBytes scatteredRing : Source Id) .latest).run.result =
        .ok newest ∧
      newest.frames.map (·.frameNumber) = [9] ∧ newest.dropped.toNat = 5 := by
  have succeeded :
      (afterThree.extract (Source.ofBytes scatteredRing : Source Id) .allNew).run.result =
        .ok { frames := scatteredFrames, dropped := 3, torn := 0, reset := none } := by
    decide +kernel
  have distinct : ∀ header, Header.decode scatteredRing = .ok header → header.DistinctReady := by
    intro header decoded
    have genuine : scatteredHeader.Genuine := ⟨rfl, rfl, rfl⟩
    rw [scatteredRing, Header.decode_encode_append genuine] at decoded
    obtain rfl := Except.ok.inj decoded
    rw [Header.DistinctReady]
    decide
  obtain ⟨newest, ran, -, -, -, frames, counted⟩ :=
    latest_refines_allNew afterThree scatteredRing succeeded
  have total : newest.frames.length + newest.dropped.toNat = 6 := counted rfl (by decide) distinct
  have nine : newest.frames.map (·.frameNumber) = [9] := by
    rw [frames]
    rfl
  have one : newest.frames.length = 1 := by simpa using congrArg List.length nine
  exact ⟨newest, succeeded, ran, nine, by omega⟩

end FrameTap
