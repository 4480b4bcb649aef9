import FrameTap.Proofs.Synchronizer.Polling
import FrameTap.Proofs.Synchronizer.Views

set_option autoImplicit false

namespace FrameTap

variable {σ : Type}

namespace Header

def Confirms (shown : Header) (protocol : Protocol) (index : Nat) (number : UInt64) : Prop :=
  shown.protocol = protocol ∧ (shown.slot? index).map (·.frameNumber) = some number

instance (shown : Header) (protocol : Protocol) (index : Nat) (number : UInt64) :
    Decidable (shown.Confirms protocol index number) :=
  inferInstanceAs (Decidable (_ ∧ _))

/-- A single header whose only slot carries the number, where a ring was agreed on. -/
def PassesFor (shown : Header) (protocol : Protocol) (number : UInt64) : Prop :=
  protocol = .ring ∧ shown.Confirms .single 0 number

instance (shown : Header) (protocol : Protocol) (number : UInt64) :
    Decidable (shown.PassesFor protocol number) :=
  inferInstanceAs (Decidable (_ ∧ _))

variable {header shown : Header} {candidate : Candidate}

theorem confirms_iff_of_same (declared : header.Declares candidate)
    (same : shown.protocol = header.protocol) {number : UInt64} :
    shown.currentNumber candidate = some number ↔
      shown.Confirms header.protocol candidate.index number := by
  obtain ⟨index, state, present, -, rfl⟩ := declared
  rw [currentNumber_candidateAt present same, index_candidateAt present, Confirms]
  exact ⟨fun carries => ⟨same, carries⟩, And.right⟩

-- A header of another revision says nothing of a single slot, and of every ring slot the same.
theorem passesFor_iff_of_other (declared : header.Declares candidate)
    (other : shown.protocol ≠ header.protocol) {number : UInt64} :
    shown.currentNumber candidate = some number ↔ shown.PassesFor header.protocol number := by
  obtain ⟨index, state, -, -, rfl⟩ := declared
  cases header with
  | single h =>
    cases shown with
    | single s => exact absurd rfl other
    | ring s => simp [currentNumber, candidateAt, Protocol.slotName, PassesFor, protocol]
  | ring h =>
    cases shown with
    | single s => simp [currentNumber, PassesFor, Confirms, protocol, slot?]
    | ring s => exact absurd rfl other

theorem currentNumber_eq_some_iff (declared : header.Declares candidate) {number : UInt64} :
    shown.currentNumber candidate = some number ↔
      shown.Confirms header.protocol candidate.index number ∨
        shown.PassesFor header.protocol number := by
  by_cases same : shown.protocol = header.protocol
  · rw [confirms_iff_of_same declared same]
    refine ⟨Or.inl, ?_⟩
    rintro (confirmed | ⟨ring, single, -⟩)
    · exact confirmed
    · rw [same, ring] at single
      cases single
  · rw [passesFor_iff_of_other declared same]
    refine ⟨Or.inr, ?_⟩
    rintro (⟨equal, -⟩ | passes)
    · exact absurd equal same
    · exact passes

end Header

structure Visit where
  candidate : Candidate
  data : Bytes
  shown : Header

namespace Visit

variable (visit : Visit) (protocol : Protocol)

def Confirmed : Prop :=
  visit.shown.Confirms protocol visit.candidate.index visit.candidate.frameNumber

instance : Decidable (visit.Confirmed protocol) :=
  inferInstanceAs (Decidable (visit.shown.Confirms _ _ _))

def Mistaken : Prop := visit.shown.PassesFor protocol visit.candidate.frameNumber

instance : Decidable (visit.Mistaken protocol) :=
  inferInstanceAs (Decidable (visit.shown.PassesFor _ _))

def Stands : Prop := visit.Confirmed protocol ∨ visit.Mistaken protocol

instance : Decidable (visit.Stands protocol) := inferInstanceAs (Decidable (_ ∨ _))

def frame (header : Header) : Frame := visit.candidate.frame header visit.data

def copy : Candidate × Option Bytes :=
  (visit.candidate, if visit.Stands protocol then some visit.data else none)

end Visit

inductive Visited (source : Source (StateM σ)) : σ → List Visit → σ → Prop
  | nil (world : σ) : Visited source world [] world
  | cons {world copied checked after : σ} {visit : Visit} {rest : List Visit}
      (copy : source.copyOut visit.candidate.offset visit.candidate.length world =
        (.ok visit.data, copied))
      (check : source.readHeader copied = (.ok visit.shown, checked))
      (later : Visited source checked rest after) :
      Visited source world (visit :: rest) after

theorem stillCurrent_eq_ok {source : Source (StateM σ)} {candidate : Candidate}
    {copied checked : σ} {verdict : Bool}
    (check : source.stillCurrent candidate copied = (.ok verdict, checked)) :
    ∃ shown, source.readHeader copied = (.ok shown, checked) ∧
      verdict = decide (shown.currentNumber candidate = some candidate.frameNumber) := by
  rcases scan : source.readHeader copied with ⟨answer, scanned⟩
  rw [Source.stillCurrent, StateM.bind_of_eq scan] at check
  cases answer with
  | error error => cases check
  | ok shown =>
    cases check
    exact ⟨shown, rfl, rfl⟩

theorem deliveredFrames_visits (header : Header) (protocol : Protocol) (visits : List Visit) :
    deliveredFrames header (visits.map (·.copy protocol)) =
      (visits.filter (·.Stands protocol)).map (·.frame header) := by
  induction visits with
  | nil => rfl
  | cons visit rest ih =>
    by_cases stands : visit.Stands protocol
    · rw [List.map_cons, Visit.copy, if_pos stands, List.filter_cons_of_pos (by simpa using stands),
        List.map_cons, ← ih]
      rfl
    · rw [List.map_cons, Visit.copy, if_neg stands, List.filter_cons_of_neg (by simpa using stands),
        ← ih]
      rfl

-- A copy was kept or discarded on what its visit showed.
theorem Copied.visited {source : Source (StateM σ)} {header : Header} {world after : σ}
    {copies : List (Candidate × Option Bytes)} (made : Copied source world copies after)
    (declared : ∀ candidate ∈ copies.map Prod.fst, header.Declares candidate) :
    ∃ visits, Visited source world visits after ∧
      visits.map (·.copy header.protocol) = copies := by
  induction made with
  | nil world => exact ⟨[], .nil world, rfl⟩
  | @delivered world copied checked after candidate data rest copy check _ ih =>
    obtain ⟨first, others⟩ := List.forall_mem_cons.mp declared
    obtain ⟨visits, visited, named⟩ := ih others
    obtain ⟨shown, scan, carries⟩ := stillCurrent_eq_ok check
    let visit : Visit := { candidate, data, shown }
    have stands : visit.Stands header.protocol :=
      (Header.currentNumber_eq_some_iff first).mp (of_decide_eq_true carries.symm)
    refine ⟨visit :: visits, .cons copy scan visited, ?_⟩
    rw [List.map_cons, named, Visit.copy, if_pos stands]
  | @discarded world copied checked after candidate data rest copy check _ ih =>
    obtain ⟨first, others⟩ := List.forall_mem_cons.mp declared
    obtain ⟨visits, visited, named⟩ := ih others
    obtain ⟨shown, scan, changed⟩ := stillCurrent_eq_ok check
    let visit : Visit := { candidate, data, shown }
    have fallen : ¬visit.Stands header.protocol := fun stands =>
      of_decide_eq_false changed.symm ((Header.currentNumber_eq_some_iff first).mpr stands)
    refine ⟨visit :: visits, .cons copy scan visited, ?_⟩
    rw [List.map_cons, named, Visit.copy, if_neg fallen]

theorem Extracted.visited {sync next : Synchronizer} {source : Source (StateM σ)}
    {mode : ExtractMode} {world after : σ} {header : Header}
    {copies : List (Candidate × Option Bytes)} {extraction : Extraction}
    (extracted : Extracted sync source mode world header copies extraction next after) :
    ∃ scanned checked visits,
      source.readHeader world = (.ok header, scanned) ∧
        sync.Takes mode header (visits.map (·.candidate)) ∧
        source.checkBounds (visits.map (·.candidate)) scanned = (.ok (), checked) ∧
        Visited source checked visits after ∧
        extraction.frames =
          (visits.filter (·.Stands sync.protocol)).map (·.frame header) := by
  obtain ⟨scanned, checked, scan, bounds, made⟩ := extracted.run
  have declared : ∀ candidate ∈ copies.map Prod.fst, header.Declares candidate := by
    intro candidate named
    rw [extracted.candidates] at named
    exact Header.mem_readyCandidates.mp (Synchronizer.ready_of_kept named)
  obtain ⟨visits, visited, named⟩ := made.visited declared
  have kept : visits.map (·.candidate) = (sync.select mode header).kept := by
    rw [← extracted.candidates, ← named, List.map_map]
    rfl
  refine ⟨scanned, checked, visits, scan, ?_, ?_, visited, ?_⟩
  · rw [kept]
    exact sync.takes_kept mode header
  · rw [kept]
    exact bounds
  · rw [extracted.frames_eq, ← named, deliveredFrames_visits, extracted.protocol]

theorem delivered_frames_stand {sync : Synchronizer} {source : Source (StateM σ)}
    {mode : ExtractMode} {world : σ} {extraction : Extraction}
    (succeeded : (sync.extract source mode world).1.result = .ok extraction) :
    ∃ header scanned checked visits,
      source.readHeader world = (.ok header, scanned) ∧ header.protocol = sync.protocol ∧
        sync.Takes mode header (visits.map (·.candidate)) ∧
        source.checkBounds (visits.map (·.candidate)) scanned = (.ok (), checked) ∧
        Visited source checked visits (sync.extract source mode world).2 ∧
        extraction.frames =
          (visits.filter (·.Stands sync.protocol)).map (·.frame header) := by
  obtain ⟨header, copies, -, extracted⟩ := extracted_of_ok succeeded
  obtain ⟨scanned, checked, visits, scan, taken, bounds, visited, frames⟩ := extracted.visited
  exact ⟨header, scanned, checked, visits, scan, extracted.protocol, taken, bounds, visited, frames⟩

theorem exists_of_map_eq_ok {α β : Type} {answer : Except Error α} {view : α → β} {shown : β}
    (seen : answer.map view = .ok shown) : ∃ value, answer = .ok value ∧ view value = shown := by
  cases answer with
  | error error => cases seen
  | ok value => exact ⟨value, rfl, Except.ok.inj seen⟩

section HandedOver

def handedOverRing : Header := .ring
  { magic := Header.magicNumber, version := 2
    picture := { width := 1, height := 1, stride := 4, format := 0 }
    frameDataSize := 4, ringSize := 3, frameOffset := 120, writeIndex := 2, readIndex := 0
    totalFrames := 7, timestampMs := 70
    slots := { first := ⟨1, 50, 5⟩, second := ⟨1, 70, 7⟩, third := ⟨0, 0, 0⟩ } }

def handedOverSingle : Header := .single
  { magic := Header.magicNumber, version := 1
    picture := { width := 1, height := 1, stride := 4, format := 0 }
    timestampMs := 90, frameNumber := 7, dataSize := 4, ready := 0 }

-- Once the second payload is copied, a single header takes the place of the ring.
def handedOver (call : Nat) : Bytes :=
  if call < 4 then
    handedOverRing.encode ++ [5, 5, 5, 5, 7, 7, 7, 7, 0, 0, 0, 0]
  else
    handedOverSingle.encode ++ List.replicate 84 0

def handedOverFirst : Visit where
  candidate :=
    { slot := some 0, frameNumber := 5, timestampMs := 50, offset := 120, length := 4 }
  data := [5, 5, 5, 5]
  shown := handedOverRing

def handedOverSecond : Visit where
  candidate :=
    { slot := some 1, frameNumber := 7, timestampMs := 70, offset := 124, length := 4 }
  data := [7, 7, 7, 7]
  shown := handedOverSingle

theorem readHeader_handedOver (call : Nat) :
    (Source.ofViews handedOver).readHeader call =
      (.ok (if call < 4 then handedOverRing else handedOverSingle), call + 1) := by
  have ring : handedOverRing.Genuine := ⟨rfl, rfl, rfl⟩
  have single : handedOverSingle.Genuine := ⟨rfl, rfl⟩
  rw [readHeader_ofViews, handedOver]
  split
  · rw [Header.decode_encode_append ring]
    rfl
  · rw [Header.decode_encode_append single]
    rfl

theorem handedOver_visited :
    Visited (Source.ofViews handedOver) 1 [handedOverFirst, handedOverSecond] 5 := by
  have firstCopy : (Source.ofViews handedOver).copyOut 120 4 1 = (.ok [5, 5, 5, 5], 2) :=
    Prod.ext (by decide +kernel) rfl
  have secondCopy : (Source.ofViews handedOver).copyOut 124 4 3 = (.ok [7, 7, 7, 7], 4) :=
    Prod.ext (by decide +kernel) rfl
  have later : Visited (Source.ofViews handedOver) 3 [handedOverSecond] 5 :=
    .cons secondCopy (readHeader_handedOver 4) (.nil 5)
  exact .cons firstCopy (readHeader_handedOver 2) later

theorem handedOver_extracted :
    ∃ extraction,
      ((Synchronizer.start .ring).extract (Source.ofViews handedOver) .allNew 0).1.result =
        .ok extraction ∧
      extraction.frames =
        [handedOverFirst, handedOverSecond].map (·.frame handedOverRing) :=
  exists_of_map_eq_ok (by decide +kernel)

theorem handedOver_delivers :
    (∃ extraction,
      ((Synchronizer.start .ring).extract (Source.ofViews handedOver) .allNew 0).1.result =
        .ok extraction ∧
      extraction.frames =
        [handedOverFirst, handedOverSecond].map (·.frame handedOverRing)) ∧
      (Source.ofViews handedOver).readHeader 0 = (.ok handedOverRing, 1) ∧
      Visited (Source.ofViews handedOver) 1 [handedOverFirst, handedOverSecond] 5 ∧
      handedOverFirst.Confirmed .ring ∧ ¬handedOverSecond.Confirmed .ring :=
  ⟨handedOver_extracted, readHeader_handedOver 0, handedOver_visited, by decide, by decide⟩

theorem delivered_frames_stand_handedOver :
    ∃ extraction,
      ((Synchronizer.start .ring).extract (Source.ofViews handedOver) .allNew 0).1.result =
        .ok extraction ∧
      ∃ checked visits finish,
        Visited (Source.ofViews handedOver) checked visits finish ∧
          (visits.filter (·.Stands .ring)).map (·.frame handedOverRing) =
            [handedOverFirst, handedOverSecond].map (·.frame handedOverRing) := by
  obtain ⟨extraction, succeeded, frames⟩ := handedOver_extracted
  obtain ⟨header, scanned, checked, visits, scan, -, -, -, visited, delivered⟩ :=
    delivered_frames_stand succeeded
  rw [readHeader_handedOver] at scan
  obtain rfl : handedOverRing = header := Except.ok.inj (congrArg Prod.fst scan)
  exact ⟨extraction, succeeded, checked, visits, _, visited, delivered.symm.trans frames⟩

end HandedOver

end FrameTap
