import FrameTap.Proofs.Synchronizer.Sessions

set_option autoImplicit false

namespace FrameTap

variable {σ : Type}

section OneExtraction

-- A total lower than the highest one starts a session, so the highest one is the last one.
theorem Synchronizer.select_lastTotal (sync : Synchronizer) (mode : ExtractMode) (h : RingHeader) :
    (sync.select mode (.ring h)).lastTotal = h.totalFrames := by
  by_cases restarted : h.totalFrames < sync.lastTotal
  · simp only [select, restartObserved, if_pos restarted]
    exact if_pos UInt64.zero_le
  · simp only [select, restartObserved, if_neg restarted]
    exact if_pos (UInt64.not_lt.mp restarted)

theorem missed_zero_cons {first : UInt64} {rest : List UInt64} :
    missed 0 (first :: rest) = missed first rest := by
  simp [missed, gap]

namespace Extracted

variable {sync next : Synchronizer} {source : Source (StateM σ)} {mode : ExtractMode}
  {world after : σ} {header : Header} {copies : List (Candidate × Option Bytes)}
  {extraction : Extraction}
  (extracted : Extracted sync source mode world header copies extraction next after)

include extracted

theorem lastTotal_eq {h : RingHeader} (ring : header = .ring h) :
    next.lastTotal = h.totalFrames := by
  rw [extracted.next_eq, ring]
  exact sync.select_lastTotal mode h

theorem reset_eq_some {reset : SessionReset} :
    extraction.reset = some reset ↔
      sync.Restarted header ∧
        reset = { lastConsumed := sync.lastConsumed, observed := header.counter } := by
  rw [extracted.extraction_eq, Haul.extraction, sync.select_reset, sync.restartObserved_eq]
  by_cases restarted : sync.Restarted header <;> simp [restarted, eq_comm]

theorem dropped_of_restarted (restarted : sync.Restarted header) {first : UInt64}
    {rest : List UInt64} (delivered : frameNumbers extraction.frames = first :: rest) :
    extraction.dropped.toNat = missed first rest := by
  have base : sync.baseline header = 0 := by
    simp [Synchronizer.baseline, sync.restartObserved_eq, restarted]
  rw [extracted.dropped_eq, base, delivered, missed_zero_cons]

end Extracted

end OneExtraction

section Totals

-- The total in the header that a successful extraction decided on.
def Poll.scannedTotal? (poll : Poll) : Option UInt64 :=
  match poll.attempt.result, poll.scan with
  | .ok _, .ok (.ring h) => some h.totalFrames
  | _, _ => none

def scannedTotals (polls : List Poll) : List UInt64 := polls.flatMap (·.scannedTotal?.toList)

theorem scannedTotals_cons {poll : Poll} {rest : List Poll} :
    scannedTotals (poll :: rest) = poll.scannedTotal?.toList ++ scannedTotals rest :=
  List.flatMap_cons

namespace Synchronizer

variable (sync : Synchronizer) (mode : ExtractMode) (source : Source (StateM σ)) (world : σ)

theorem protocol_poll : (sync.poll source mode world).1.attempt.next.protocol = sync.protocol := by
  rcases run : sync.extract source mode world with ⟨attempt, after⟩
  rw [poll, run]
  rcases extract_cases sync source mode world run with ⟨_, -, same⟩ | ⟨_, _, _, -, extracted⟩
  · simp [same]
  · simp [extracted.next_eq]

theorem lastTotal_poll (ring : sync.protocol = .ring) :
    (sync.poll source mode world).1.attempt.next.lastTotal =
      (sync.poll source mode world).1.scannedTotal?.toList.getLastD sync.lastTotal := by
  rcases run : sync.extract source mode world with ⟨attempt, after⟩
  rw [poll, run]
  rcases extract_cases sync source mode world run with
    ⟨_, failed, same⟩ | ⟨header, _, _, succeeded, extracted⟩
  · simp [Poll.scannedTotal?, failed, same]
  · obtain ⟨_, _, scan, -⟩ := extracted.run
    have protocol := extracted.protocol
    cases header with
    | single h => simp [Header.protocol, ring] at protocol
    | ring h => simp [Poll.scannedTotal?, succeeded, scan, extracted.lastTotal_eq]

variable (calls : List (Source (StateM σ) × ExtractMode))

theorem protocol_polls :
    (sync.afterPolls (sync.polls calls world).1).protocol = sync.protocol := by
  induction calls generalizing sync world with
  | nil => rfl
  | cons call rest ih =>
    obtain ⟨source, mode⟩ := call
    have first := sync.protocol_poll mode source world
    rw [polls_cons]
    generalize sync.poll source mode world = polled at first ⊢
    exact (ih polled.1.attempt.next polled.2).trans first

-- Of a run on rings, the total remembered is the one scanned last.
theorem lastTotal_polls (ring : sync.protocol = .ring) :
    (sync.afterPolls (sync.polls calls world).1).lastTotal =
      (scannedTotals (sync.polls calls world).1).getLastD sync.lastTotal := by
  induction calls generalizing sync world with
  | nil => rfl
  | cons call rest ih =>
    obtain ⟨source, mode⟩ := call
    have stillRing := sync.protocol_poll mode source world
    have first := sync.lastTotal_poll mode source world ring
    rw [polls_cons]
    generalize sync.poll source mode world = polled at stillRing first ⊢
    obtain ⟨poll, after⟩ := polled
    change _ = (scannedTotals (poll :: _)).getLastD _
    rw [scannedTotals_cons, getLastD_append, ← first]
    exact ih poll.attempt.next after (stillRing.trans ring)

end Synchronizer

end Totals

section Regressions

/-- Whether a header shows that the counters of its producer went backwards since the extractions
of a run. -/
def Regresses (history : List Poll) : Header → Prop
  | .single h =>
    h.ready ≠ 0 ∧
      ∃ last, (numbers (currentSession history)).getLast? = some last ∧ h.frameNumber < last
  | .ring h => ∃ previous, (scannedTotals history).getLast? = some previous ∧
      h.totalFrames < previous

-- No number is below the zero that a fresh synchronizer begins with.
theorem lt_getLastD_zero {numbers : List UInt64} {number : UInt64} :
    number < numbers.getLastD 0 ↔ ∃ last, numbers.getLast? = some last ∧ number < last := by
  rw [List.getLastD_eq_getLast?]
  cases numbers.getLast? <;> simp

theorem restarted_iff_regresses (protocol : Protocol)
    (calls : List (Source (StateM σ) × ExtractMode)) (world : σ) {header : Header}
    (same : header.protocol = protocol) :
    let history := ((Synchronizer.start protocol).polls calls world).1
    ((Synchronizer.start protocol).afterPolls history).Restarted header ↔
      Regresses history header := by
  intro history
  cases header with
  | single h =>
    have cursor := cursor_eq_currentSession rfl
      ((Synchronizer.start protocol).polls_linked calls world)
    rw [Synchronizer.Restarted, Regresses, cursor, lt_getLastD_zero]
  | ring h =>
    have total := (Synchronizer.start protocol).lastTotal_polls world calls same.symm
    rw [Synchronizer.Restarted, Regresses, total]
    exact lt_getLastD_zero

end Regressions

section Fresh

variable {sync : Synchronizer} {mode : ExtractMode} {header : Header}

theorem restartObserved_reset : sync.reset.restartObserved header = none := by
  cases header <;> simp [Synchronizer.reset, Synchronizer.start, Synchronizer.restartObserved]

theorem select_restarted (restarted : sync.Restarted header) :
    sync.select mode header =
      { sync.reset.select mode header with
        reset := some { lastConsumed := sync.lastConsumed, observed := header.counter } } := by
  have observed : sync.restartObserved header = some header.counter := by
    simp [sync.restartObserved_eq, restarted]
  simp only [Synchronizer.select, observed, restartObserved_reset]
  rfl

-- A reset leaves nothing of the session before: the extraction is that of a fresh synchronizer.
theorem extract_restarted {source : Source (StateM σ)} {world : σ} {extraction : Extraction}
    (scan : (source.readHeader world).1 = .ok header) (same : header.protocol = sync.protocol)
    (restarted : sync.Restarted header)
    (succeeded : (sync.extract source mode world).1.result = .ok extraction) :
    let fresh := sync.reset.extract source mode world
    fresh.1.result = .ok { extraction with reset := none } ∧
      fresh.1.next = (sync.extract source mode world).1.next ∧
      fresh.2 = (sync.extract source mode world).2 := by
  have unreset : (sync.reset.select mode header).reset = none := by
    simp [restartObserved_reset]
  have checked : sync.checkProtocol header = .ok () := by
    simp [Synchronizer.checkProtocol, same]
  have freshChecked : sync.reset.checkProtocol header = .ok () := checked
  intro fresh
  revert fresh succeeded
  simp only [Synchronizer.extract]
  rcases read : source.readHeader world with ⟨answer, scanned⟩
  rw [read] at scan
  subst scan
  simp only [StateM.bind_of_eq read, checked, freshChecked, select_restarted restarted]
  rcases bounds : source.checkBounds (sync.reset.select mode header).kept scanned with
    ⟨verdict, inside⟩
  simp only [StateM.bind_of_eq bounds]
  cases verdict with
  | error error =>
    intro succeeded
    cases succeeded
  | ok _ =>
    rcases copying : source.copyCandidates header (sync.reset.select mode header).kept
      (Haul.start (sync.reset.select mode header).baseline) inside with ⟨⟨haul, failure⟩, after⟩
    simp only [StateM.bind_of_eq copying]
    cases failure with
    | some error =>
      intro succeeded
      cases succeeded
    | none =>
      intro succeeded
      cases succeeded
      simp only [unreset]
      exact ⟨rfl, rfl, rfl⟩

end Fresh

theorem resets_exactly_on_regression (protocol : Protocol)
    (calls : List (Source (StateM σ) × ExtractMode)) (world : σ) (source : Source (StateM σ))
    (mode : ExtractMode) :
    let start := Synchronizer.start protocol
    let history := (start.polls calls world).1
    let reached := (start.polls calls world).2
    let sync := start.afterPolls history
    let attempt := (sync.extract source mode reached).1
    ∀ extraction, attempt.result = .ok extraction →
      ∃ header, (source.readHeader reached).1 = .ok header ∧ header.protocol = protocol ∧
        (∀ h, header = .ring h → attempt.next.lastTotal = h.totalFrames) ∧
        (∀ reset, extraction.reset = some reset ↔
          Regresses history header ∧
            reset = { lastConsumed := sync.lastConsumed, observed := header.counter }) ∧
        (Regresses history header →
          (start.extract source mode reached).1.result = .ok { extraction with reset := none } ∧
          (start.extract source mode reached).1.next = attempt.next ∧
          ∀ first rest, frameNumbers extraction.frames = first :: rest →
            extraction.dropped.toNat = missed first rest) := by
  intro start history reached sync attempt extraction succeeded
  obtain ⟨header, copies, scan, extracted⟩ := extracted_of_ok succeeded
  have agreed : sync.protocol = protocol := start.protocol_polls world calls
  have same : header.protocol = protocol := extracted.protocol.trans agreed
  have restarted : sync.Restarted header ↔ Regresses history header :=
    restarted_iff_regresses protocol calls world same
  refine ⟨header, scan, same, fun _ => extracted.lastTotal_eq, ?_, ?_⟩
  · intro reset
    rw [extracted.reset_eq_some, restarted]
  · intro regressed
    have forgotten : sync.reset = start := congrArg Synchronizer.start agreed
    obtain ⟨ran, left, -⟩ :=
      extract_restarted scan extracted.protocol (restarted.mpr regressed) succeeded
    rw [forgotten] at ran left
    exact ⟨ran, left, fun _ _ => extracted.dropped_of_restarted (restarted.mpr regressed)⟩

def ringAt (total : UInt64) : Bytes :=
  Header.encode
    (.ring
      { magic := Header.magicNumber, version := 2
        picture := { width := 1, height := 1, stride := 4, format := 0 }
        frameDataSize := 4, ringSize := 3, frameOffset := 120, writeIndex := 0, readIndex := 0
        totalFrames := total, timestampMs := 0
        slots := { first := ⟨1, 30, total⟩, second := ⟨0, 0, 0⟩, third := ⟨1, 10, total / 2⟩ } }) ++
    List.replicate 12 8

def ringFrame (frameNumber timestampMs : UInt64) (slot : Nat) : Frame where
  data := List.replicate 4 8
  frameNumber := frameNumber
  width := 1
  height := 1
  stride := 4
  format := .bgra32
  timestampMs := timestampMs
  slot := some slot

-- The producer starts again after nine frames and is at its fourth when it is looked at.
theorem resets_exactly_on_regression_fourAfterNine :
    let start := Synchronizer.start .ring
    let calls : List (Source (StateM Unit) × ExtractMode) := [(.ofBytes (ringAt 9), .allNew)]
    let history := (start.polls calls ()).1
    let reached := (start.polls calls ()).2
    let source : Source (StateM Unit) := .ofBytes (ringAt 4)
    let attempt := ((start.afterPolls history).extract source .allNew reached).1
    let extraction : Extraction :=
      { frames := [ringFrame 2 10 2, ringFrame 4 30 0], dropped := 1, torn := 0
        reset := some { lastConsumed := 9, observed := 4 } }
    attempt.result = .ok extraction ∧ attempt.next.lastTotal = 4 ∧
      extraction.dropped.toNat = missed 2 [4] := by
  intro start calls history reached source attempt extraction
  have succeeded : attempt.result = .ok extraction := by decide +kernel
  have reports := resets_exactly_on_regression .ring calls () source .allNew extraction
  dsimp only [attempt, start, history, reached] at succeeded ⊢
  obtain ⟨header, -, ring, total, reset, fresh⟩ := reports succeeded
  obtain ⟨regressed, counters⟩ := (reset _).mp rfl
  obtain ⟨-, -, drops⟩ := fresh regressed
  refine ⟨succeeded, ?_, drops 2 [4] rfl⟩
  cases header with
  | single h => cases ring
  | ring h =>
    have observed : 4 = h.totalFrames := congrArg SessionReset.observed counters
    exact (total h rfl).trans observed.symm

end FrameTap
