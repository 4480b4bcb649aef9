import FrameTap.Proofs.Synchronizer.Revalidation

set_option autoImplicit false

namespace FrameTap

variable {σ : Type}

def Source.Steady (source : Source (StateM σ)) (size : Nat) : Prop :=
  ∀ world, (source.length world).1 = size

def headerRange (size : Nat) : Nat × Nat := (0, min size Protocol.ring.headerLength)

def Candidate.reads (size : Nat) (candidate : Candidate) : List (Nat × Nat) :=
  [(candidate.offset, candidate.length), headerRange size]

theorem headerRange_inside (size : Nat) :
    (headerRange size).1 + (headerRange size).2 ≤ size ∧
      (headerRange size).1 + (headerRange size).2 < addressSpace :=
  front_inside size

theorem reads_inside {size : Nat} {header : Header} {candidates : List Candidate}
    (ready : ∀ candidate ∈ candidates, candidate ∈ header.readyCandidates)
    (fits : ∀ candidate ∈ candidates, candidate.offset + candidate.length ≤ size) :
    ∀ read ∈ candidates.flatMap (·.reads size),
      read.1 + read.2 ≤ size ∧ read.1 + read.2 < addressSpace := by
  intro read member
  obtain ⟨candidate, taken, asked⟩ := List.mem_flatMap.mp member
  rcases List.mem_pair.mp asked with rfl | rfl
  · exact ⟨fits candidate taken, addressable_of_ready (ready candidate taken)⟩
  · exact headerRange_inside size

section Asks

variable {α β : Type}

/-- A recorded program asks for `reads`, and is the plain one otherwise. -/
def Asks (recorded : StateT (List (Nat × Nat)) (StateM σ) α) (plain : StateM σ α) (world : σ)
    (reads : List (Nat × Nat)) : Prop :=
  ∀ earlier, recorded earlier world = (((plain world).1, earlier ++ reads), (plain world).2)

namespace Asks

theorem pure (value : α) (world : σ) : Asks (Pure.pure value) (Pure.pure value) world [] := by
  intro earlier
  rw [List.append_nil]
  rfl

variable {recorded : StateT (List (Nat × Nat)) (StateM σ) α} {plain : StateM σ α}
  {next : α → StateT (List (Nat × Nat)) (StateM σ) β} {plainNext : α → StateM σ β}
  {world after : σ} {value : α} {front back : List (Nat × Nat)}

theorem bind (asks : Asks recorded plain world front) (ran : plain world = (value, after))
    (onward : Asks (next value) (plainNext value) after back) :
    Asks (recorded >>= next) (plain >>= plainNext) world (front ++ back) := by
  intro earlier
  rw [StateM.bind_of_eq ran, ← List.append_assoc, ← onward (earlier ++ front)]
  have first := asks earlier
  rw [ran] at first
  change (match recorded earlier world with | (answer, reached) => next answer.1 answer.2 reached) =
    next value (earlier ++ front) after
  rw [first]

theorem bind_exists (asks : Asks recorded plain world front) (ran : plain world = (value, after))
    {known : List (Nat × Nat) → Prop}
    (onward : ∃ back, Asks (next value) (plainNext value) after back ∧ known (front ++ back)) :
    ∃ reads, Asks (recorded >>= next) (plain >>= plainNext) world reads ∧ known reads :=
  let ⟨back, later, holds⟩ := onward
  ⟨front ++ back, asks.bind ran later, holds⟩

end Asks

end Asks

section Recorded

variable {source : Source (StateM σ)} {size : Nat} {header : Header} {candidates : List Candidate}

theorem length_asks (source : Source (StateM σ)) (world : σ) :
    Asks source.recorded.length source.length world [] := by
  intro earlier
  rw [List.append_nil]
  rfl

theorem copyOut_asks (source : Source (StateM σ)) (offset length : Nat) (world : σ) :
    Asks (source.recorded.copyOut offset length) (source.copyOut offset length) world
      [(offset, length)] :=
  fun _ => rfl

theorem checkBounds_asks (source : Source (StateM σ)) (candidates : List Candidate) (world : σ) :
    Asks (source.recorded.checkBounds candidates) (source.checkBounds candidates) world [] := by
  induction candidates generalizing world with
  | nil => exact .pure _ world
  | cons candidate rest ih =>
    rcases measured : source.length world with ⟨length, after⟩
    refine (length_asks source world).bind measured ?_
    by_cases fits : candidate.offset + candidate.length ≤ length
    · rw [if_pos fits, if_pos fits]
      exact ih after
    · rw [if_neg fits, if_neg fits]
      exact (length_asks source after).bind rfl (.pure _ _)

variable (steady : source.Steady size)

include steady

theorem readHeader_asks (world : σ) :
    Asks source.recorded.readHeader source.readHeader world [headerRange size] := by
  rcases measured : source.length world with ⟨length, reached⟩
  obtain rfl : length = size := (congrArg Prod.fst measured).symm.trans (steady world)
  rcases copy : source.copyOut 0 (min length Protocol.ring.headerLength) reached with ⟨answer, after⟩
  refine (length_asks source world).bind measured ?_
  refine (copyOut_asks source _ _ reached).bind copy ?_
  cases answer with
  | error fault => exact .pure _ after
  | ok bytes => exact .pure _ after

theorem stillCurrent_asks (candidate : Candidate) (world : σ) :
    Asks (source.recorded.stillCurrent candidate) (source.stillCurrent candidate) world
      [headerRange size] := by
  rcases scan : source.readHeader world with ⟨answer, after⟩
  refine (readHeader_asks steady world).bind scan ?_
  cases answer with
  | error error => exact .pure _ after
  | ok shown => exact .pure _ after

-- Copying that is given up has made the first of the reads that all candidates take.
theorem copyCandidates_asks (header : Header) (candidates : List Candidate) (haul : Haul)
    (world : σ) :
    ∃ reads,
      Asks (source.recorded.copyCandidates header candidates haul)
        (source.copyCandidates header candidates haul) world reads ∧
      reads <+: candidates.flatMap (·.reads size) ∧
      ((source.copyCandidates header candidates haul world).1.2 = none →
        reads = candidates.flatMap (·.reads size)) := by
  induction candidates generalizing haul world with
  | nil => exact ⟨[], .pure _ world, List.prefix_rfl, fun _ => rfl⟩
  | cons candidate rest ih =>
    rw [List.flatMap_cons]
    rcases copy : source.copyOut candidate.offset candidate.length world with ⟨answer, copied⟩
    rw [Source.copyCandidates, Source.copyCandidates, StateM.bind_of_eq copy]
    refine (copyOut_asks source _ _ world).bind_exists copy ?_
    cases answer with
    | error error => exact ⟨[], .pure _ copied, ⟨_, rfl⟩, fun success => by cases success⟩
    | ok data =>
      rcases check : source.stillCurrent candidate copied with ⟨verdict, checked⟩
      dsimp only
      rw [StateM.bind_of_eq check]
      refine (stillCurrent_asks steady candidate copied).bind_exists check ?_
      cases verdict with
      | error error => exact ⟨[], .pure _ checked, ⟨_, rfl⟩, fun success => by cases success⟩
      | ok current =>
        have goOn : ∀ settled, ∃ reads,
            Asks (source.recorded.copyCandidates header rest settled)
              (source.copyCandidates header rest settled) checked reads ∧
            (candidate.reads size ++ reads) <+:
              candidate.reads size ++ rest.flatMap (·.reads size) ∧
            ((source.copyCandidates header rest settled checked).1.2 = none →
              candidate.reads size ++ reads =
                candidate.reads size ++ rest.flatMap (·.reads size)) := by
          intro settled
          obtain ⟨reads, later, begun, ended⟩ := ih settled checked
          exact ⟨reads, later, (List.prefix_append_right_inj (candidate.reads size)).mpr begun,
            fun success => congrArg (candidate.reads size ++ ·) (ended success)⟩
        cases current
        · exact goOn (haul.discard candidate)
        · exact goOn (haul.deliver header candidate data)

theorem inside_of_checkBounds {world after : σ}
    (passed : source.checkBounds candidates world = (.ok (), after)) :
    ∀ candidate ∈ candidates, candidate.offset + candidate.length ≤ size := by
  induction candidates generalizing world with
  | nil => exact fun _ member => absurd member List.not_mem_nil
  | cons candidate rest ih =>
    rcases measured : source.length world with ⟨length, reached⟩
    obtain rfl : length = size := (congrArg Prod.fst measured).symm.trans (steady world)
    rw [Source.checkBounds, StateM.bind_of_eq measured] at passed
    by_cases fits : candidate.offset + candidate.length ≤ length
    · rw [if_pos fits] at passed
      exact List.forall_mem_cons.mpr ⟨fits, ih passed⟩
    · rw [if_neg fits] at passed
      cases passed

end Recorded

/-- How far the reads of an extraction got: the header alone, or into the copies of candidates that
were all found inside. -/
inductive Asked (sync : Synchronizer) (source : Source (StateM σ)) (mode : ExtractMode) (size : Nat)
    (world : σ) (result : Except Error Extraction) : List (Nat × Nat) → Prop
  | stopped {error : Error} (failed : result = .error error) :
      Asked sync source mode size world result [headerRange size]
  | copying {header : Header} {scanned checked : σ} {reads : List (Nat × Nat)}
      (scan : source.readHeader world = (.ok header, scanned))
      (bounds : source.checkBounds (sync.select mode header).kept scanned = (.ok (), checked))
      (begun : reads <+: (sync.select mode header).kept.flatMap (·.reads size))
      (ended : ∀ extraction, result = .ok extraction →
        reads = (sync.select mode header).kept.flatMap (·.reads size)) :
      Asked sync source mode size world result (headerRange size :: reads)

section Extract

variable {source : Source (StateM σ)} {size : Nat} (steady : source.Steady size)
  (sync : Synchronizer) (mode : ExtractMode) (world : σ)

include steady

theorem extract_asks :
    ∃ reads, Asks (sync.extract source.recorded mode) (sync.extract source mode) world reads ∧
      Asked sync source mode size world (sync.extract source mode world).1.result reads := by
  rcases scan : source.readHeader world with ⟨answer, scanned⟩
  rw [Synchronizer.extract, Synchronizer.extract, StateM.bind_of_eq scan]
  refine (readHeader_asks steady world).bind_exists scan ?_
  cases answer with
  | error error => exact ⟨[], .pure _ scanned, .stopped rfl⟩
  | ok header =>
    dsimp only
    by_cases same : header.protocol = sync.protocol
    · simp only [Synchronizer.checkProtocol, if_pos same]
      rcases bounds : source.checkBounds (sync.select mode header).kept scanned with
        ⟨verdict, checked⟩
      rw [StateM.bind_of_eq bounds]
      refine (checkBounds_asks source _ scanned).bind_exists bounds ?_
      cases verdict with
      | error error => exact ⟨[], .pure _ checked, .stopped rfl⟩
      | ok _ =>
        obtain ⟨reads, asked, begun, ended⟩ := copyCandidates_asks steady header
          (sync.select mode header).kept (Haul.start (sync.select mode header).baseline) checked
        rcases copying : source.copyCandidates header (sync.select mode header).kept
          (Haul.start (sync.select mode header).baseline) checked with ⟨⟨haul, failure⟩, copied⟩
        rw [copying] at ended
        dsimp only
        rw [StateM.bind_of_eq copying]
        refine asked.bind_exists copying ⟨[], ?_⟩
        rw [List.append_nil]
        cases failure with
        | some error =>
          exact ⟨.pure _ copied, .copying scan bounds begun fun _ success => by cases success⟩
        | none => exact ⟨.pure _ copied, .copying scan bounds begun fun _ _ => ended rfl⟩
    · simp only [Synchronizer.checkProtocol, if_neg same]
      exact ⟨[], .pure _ scanned, .stopped rfl⟩

/-- No extraction reads outside of a region of constant length, and no payload is copied unless all
that are taken lie inside. One that succeeds reads the header, then each payload in turn and the
header after it. -/
theorem reads_of_extract :
    ∃ reads, Asks (sync.extract source.recorded mode) (sync.extract source mode) world reads ∧
      (∀ read ∈ reads, read.1 + read.2 ≤ size ∧ read.1 + read.2 < addressSpace) ∧
      (reads = [headerRange size] ∨
        ∃ header taken, (source.readHeader world).1 = .ok header ∧ sync.Takes mode header taken ∧
          (∀ candidate ∈ taken, candidate.offset + candidate.length ≤ size) ∧
          reads <+: headerRange size :: taken.flatMap (·.reads size)) ∧
      ∀ extraction, (sync.extract source mode world).1.result = .ok extraction →
        ∃ header taken, (source.readHeader world).1 = .ok header ∧ sync.Takes mode header taken ∧
          reads = headerRange size :: taken.flatMap (·.reads size) ∧
          extraction.frames.length + extraction.torn.toNat = taken.length := by
  obtain ⟨reads, asks, asked⟩ := extract_asks steady sync mode world
  refine ⟨reads, asks, ?_⟩
  cases asked with
  | stopped failed =>
    refine ⟨?_, Or.inl rfl, fun extraction succeeded => ?_⟩
    · intro read member
      rw [List.mem_singleton.mp member]
      exact headerRange_inside size
    · cases failed.symm.trans succeeded
  | @copying header scanned checked reads scan bounds begun ended =>
    have fits := inside_of_checkBounds steady bounds
    have inside := reads_inside (fun _ kept => Synchronizer.ready_of_kept kept) fits
    refine ⟨?_, Or.inr ?_, fun extraction succeeded => ?_⟩
    · exact List.forall_mem_cons.mpr
        ⟨headerRange_inside size, fun read member => inside read (begun.subset member)⟩
    · exact ⟨header, _, congrArg Prod.fst scan, sync.takes_kept mode header, fits,
        (List.prefix_cons_inj _).mpr begun⟩
    · obtain ⟨found, copies, shown, extracted⟩ := extracted_of_ok succeeded
      obtain rfl : header = found :=
        Except.ok.inj ((congrArg Prod.fst scan).symm.trans shown)
      exact ⟨header, _, congrArg Prod.fst scan, sync.takes_kept mode header,
        by rw [ended extraction succeeded], extracted.length_add_torn⟩

end Extract

theorem handedOver_steady : (Source.ofViews handedOver).Steady 132 := by
  intro call
  change (handedOver call).length = 132
  rw [handedOver]
  split <;> rw [List.length_append, Header.length_encode] <;> rfl

theorem reads_of_extract_handedOver :
    (Source.ofViews handedOver).Steady 132 ∧
      ∃ reads,
        Asks ((Synchronizer.start .ring).extract (Source.ofViews handedOver).recorded .allNew)
          ((Synchronizer.start .ring).extract (Source.ofViews handedOver) .allNew) 0 reads ∧
        (∀ read ∈ reads, read.1 + read.2 ≤ 132 ∧ read.1 + read.2 < addressSpace) ∧
        reads = [(0, 120), (120, 4), (0, 120), (124, 4), (0, 120)] := by
  obtain ⟨reads, asks, inside, -, -⟩ :=
    reads_of_extract handedOver_steady (Synchronizer.start .ring) .allNew 0
  have listed :
      ((Synchronizer.start .ring).extract (Source.ofViews handedOver).recorded .allNew [] 0).1.2 =
        [(0, 120), (120, 4), (0, 120), (124, 4), (0, 120)] := by
    decide +kernel
  rw [asks [], List.nil_append] at listed
  exact ⟨handedOver_steady, reads, asks, inside, listed⟩

namespace Header

def Overlaps (header : Header) (index : Nat) : Prop :=
  ∃ h, header = .ring h ∧
    h.frameOffset.toNat + index * h.frameDataSize.toNat < Protocol.ring.headerLength

variable {header : Header}

theorem overlaps_iff {candidate : Candidate} (declared : header.Declares candidate) :
    header.Overlaps candidate.index ↔ candidate.offset < header.encodedLength := by
  obtain ⟨index, state, present, -, rfl⟩ := declared
  rw [index_candidateAt present]
  cases header with
  | single h =>
    constructor
    · rintro ⟨_, ⟨⟩, _⟩
    · exact fun before => absurd before (Nat.lt_irrefl _)
  | ring h =>
    constructor
    · rintro ⟨_, ⟨⟩, before⟩
      exact before
    · exact fun before => ⟨h, rfl, before⟩

theorem Overlaps.refused {index : Nat} (overlaps : header.Overlaps index) (size : Nat) :
    ∃ h, header = .ring h ∧ header.validateLayout size = .error (.overlapsHeader h.frameOffset) := by
  obtain ⟨h, rfl, before⟩ := overlaps
  refine ⟨h, rfl, ?_⟩
  have offset : h.frameOffset.toNat < Protocol.ring.headerLength :=
    Nat.lt_of_le_of_lt (Nat.le_add_right _ _) before
  simp only [validateLayout, if_pos offset]
  rfl

end Header

/-- Every payload that is copied ends inside the region. It begins behind the header record unless
the ring, as it was scanned, places the slot before its end; connecting would refuse such a ring. -/
theorem placement_of_payloads {source : Source (StateM σ)} {size : Nat}
    (steady : source.Steady size) {sync : Synchronizer} {mode : ExtractMode} {world : σ}
    {extraction : Extraction}
    (succeeded : (sync.extract source mode world).1.result = .ok extraction) :
    ∃ header checked visits, (source.readHeader world).1 = .ok header ∧
      sync.Takes mode header (visits.map (·.candidate)) ∧
      Visited source checked visits (sync.extract source mode world).2 ∧
      extraction.frames = (visits.filter (·.Stands sync.protocol)).map (·.frame header) ∧
      ∀ visit ∈ visits,
        visit.candidate.offset + visit.candidate.length ≤ size ∧
        (visit.candidate.offset < header.encodedLength ↔
          header.Overlaps visit.candidate.index) ∧
        (header.Overlaps visit.candidate.index → ∃ h, header = .ring h ∧
          header.validateLayout size = .error (.overlapsHeader h.frameOffset)) := by
  obtain ⟨header, copies, scan, extracted⟩ := extracted_of_ok succeeded
  obtain ⟨scanned, checked, visits, -, taken, bounds, visited, frames⟩ := extracted.visited
  refine ⟨header, checked, visits, scan, taken, visited, frames, fun visit member => ?_⟩
  have named : visit.candidate ∈ visits.map (·.candidate) := List.mem_map_of_mem member
  have declared : header.Declares visit.candidate := ((taken.wanted _).mp named).1.1
  exact ⟨inside_of_checkBounds steady bounds _ named, (Header.overlaps_iff declared).symm,
    fun overlaps => overlaps.refused size⟩

def movedRing (frameOffset : UInt32) (number : UInt64) : Header := .ring
  { magic := Header.magicNumber, version := 2
    picture := { width := 2, height := 1, stride := 8, format := 0 }
    frameDataSize := 8, ringSize := 3, frameOffset := frameOffset, writeIndex := 1, readIndex := 0
    totalFrames := number, timestampMs := number
    slots := { first := ⟨1, number, number⟩, second := ⟨0, 0, 0⟩, third := ⟨0, 0, 0⟩ } }

def movedBytes (frameOffset : UInt32) (number : UInt64) : Bytes :=
  (movedRing frameOffset number).encode ++ List.replicate 24 9

def movedSource (frameOffset : UInt32) (number : UInt64) : Source (StateM Unit) :=
  .ofBytes (movedBytes frameOffset number)

def afterPlaced : Synchronizer :=
  ((Synchronizer.start .ring).extract (movedSource 120 1) .allNew ()).1.next

theorem moved_extracted :
    ∃ extraction,
      (afterPlaced.extract (movedSource 0 2) .allNew ()).1.result = .ok extraction ∧
        extraction.frames.map (·.data) = [[67, 72, 65, 75, 2, 0, 0, 0]] :=
  exists_of_map_eq_ok (by decide +kernel)

theorem moved_delivers_header :
    (movedRing 120 1).validateLayout 144 = .ok () ∧
      (movedRing 0 2).validateLayout 144 = .error (.overlapsHeader 0) ∧
      afterPlaced.lastConsumed = 1 ∧
      (∃ extraction,
        (afterPlaced.extract (movedSource 0 2) .allNew ()).1.result = .ok extraction ∧
          extraction.frames.map (·.data) = [[67, 72, 65, 75, 2, 0, 0, 0]]) ∧
      (movedRing 0 2).encode.take 8 = [67, 72, 65, 75, 2, 0, 0, 0] :=
  ⟨rfl, rfl, by decide +kernel, moved_extracted, by decide +kernel⟩

theorem placement_of_payloads_moved :
    (movedSource 0 2).Steady 144 ∧
      ∃ extraction,
        (afterPlaced.extract (movedSource 0 2) .allNew ()).1.result = .ok extraction ∧
        extraction.frames.map (·.data) = [[67, 72, 65, 75, 2, 0, 0, 0]] ∧
        ∃ header checked visits finish,
          Visited (movedSource 0 2) checked visits finish ∧
            extraction.frames =
              (visits.filter (·.Stands afterPlaced.protocol)).map (·.frame header) ∧
            ∀ visit ∈ visits, visit.candidate.offset + visit.candidate.length ≤ 144 := by
  have steady : (movedSource 0 2).Steady 144 := by
    intro world
    change (movedBytes 0 2).length = 144
    rw [movedBytes, List.length_append, Header.length_encode]
    rfl
  obtain ⟨extraction, succeeded, data⟩ := moved_extracted
  obtain ⟨header, checked, visits, -, -, visited, frames, placed⟩ :=
    placement_of_payloads steady succeeded
  exact ⟨steady, extraction, succeeded, data, header, checked, visits, _, visited, frames,
    fun visit member => (placed visit member).1⟩

end FrameTap
