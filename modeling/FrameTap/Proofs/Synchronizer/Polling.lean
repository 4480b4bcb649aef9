import FrameTap.Proofs.Synchronizer.Copying

set_option autoImplicit false

namespace FrameTap

structure Poll where
  before : Synchronizer
  mode : ExtractMode
  scan : Except Error Header
  attempt : Attempt

namespace Poll

variable (poll : Poll)

def frames : List Frame :=
  match poll.attempt.result with
  | .ok extraction => extraction.frames
  | .error _ => []

def dropped : Nat :=
  match poll.attempt.result with
  | .ok extraction => extraction.dropped.toNat
  | .error _ => 0

-- A successful extraction that reports a reset is the first of a new session.
def startsSession : Bool :=
  match poll.attempt.result with
  | .ok extraction => extraction.reset.isSome
  | .error _ => false

def base : UInt64 := if poll.startsSession then 0 else poll.before.lastConsumed

end Poll

namespace Synchronizer

variable {σ : Type}

def poll (sync : Synchronizer) (source : Source (StateM σ)) (mode : ExtractMode) :
    StateM σ Poll := fun world =>
  let (attempt, after) := sync.extract source mode world
  ({ before := sync, mode, scan := (source.readHeader world).1, attempt }, after)

def polls : Synchronizer → List (Source (StateM σ) × ExtractMode) → StateM σ (List Poll)
  | _, [] => return []
  | sync, (source, mode) :: rest => do
    let poll ← sync.poll source mode
    let later ← poll.attempt.next.polls rest
    return poll :: later

def afterPolls (sync : Synchronizer) : List Poll → Synchronizer
  | [] => sync
  | poll :: rest => poll.attempt.next.afterPolls rest

end Synchronizer

def Header.DistinctReady (header : Header) : Prop :=
  (header.readyCandidates.map (·.frameNumber)).Nodup

theorem gap_toNat (previous number : UInt64) :
    (gap previous number).toNat =
      if previous = 0 then 0 else number.toNat - (previous.toNat + 1) := by
  have small : number.toNat - (previous.toNat + 1) < UInt64.size :=
    Nat.lt_of_le_of_lt (Nat.sub_le _ _) number.toNat_lt_size
  by_cases first : previous = 0
  · rw [gap, if_pos first, if_pos first]
    rfl
  · rw [gap, if_neg first, if_neg first, UInt64.toNat_ofNat_of_lt' small]

-- The sum telescopes: no gap is wider than the way to the next number.
theorem missed_add_le {previous : UInt64} {numbers : List UInt64}
    (ordered : (previous :: numbers).Pairwise (· ≤ ·)) :
    missed previous numbers + previous.toNat ≤ (numbers.getLastD previous).toNat := by
  induction numbers generalizing previous with
  | nil => simp [missed]
  | cons number rest ih =>
    obtain ⟨least, later⟩ := List.pairwise_cons.mp ordered
    have up : previous.toNat ≤ number.toNat :=
      UInt64.le_iff_toNat_le.mp (least number List.mem_cons_self)
    have tail := ih later
    rw [List.getLastD_cons, missed, gap_toNat]
    split <;> omega

theorem missed_lt {previous : UInt64} {numbers : List UInt64}
    (ordered : (previous :: numbers).Pairwise (· ≤ ·)) :
    missed previous numbers < UInt64.size := by
  have bound := missed_add_le ordered
  have small := (numbers.getLastD previous).toNat_lt_size
  omega

structure Poll.Sound (poll : Poll) : Prop where
  above : ∀ number ∈ frameNumbers poll.frames, poll.base < number
  ordered : (frameNumbers poll.frames).Pairwise (· ≤ ·)
  increasing : (∀ header, poll.scan = .ok header → header.DistinctReady) →
    (frameNumbers poll.frames).Pairwise (· < ·)
  cursor : poll.attempt.next.lastConsumed = (frameNumbers poll.frames).getLastD poll.base
  dropped_eq : poll.dropped = missed poll.base (frameNumbers poll.frames)

section Numbers

variable {sync : Synchronizer} {mode : ExtractMode} {header : Header}
  {copies : List (Candidate × Option Bytes)}

theorem numbers_sublist_of_kept (named : copies.map Prod.fst <+: (sync.select mode header).kept) :
    (frameNumbers (deliveredFrames header copies)).Sublist
      ((sync.select mode header).kept.map (·.frameNumber)) :=
  (numbers_deliveredFrames_sublist header copies).trans (named.sublist.map _)

theorem baseline_lt_of_delivered
    (named : copies.map Prod.fst <+: (sync.select mode header).kept) {number : UInt64}
    (delivered : number ∈ frameNumbers (deliveredFrames header copies)) :
    sync.baseline header < number := by
  obtain ⟨candidate, taken, rfl⟩ :=
    List.mem_map.mp ((numbers_sublist_of_kept named).subset delivered)
  exact Synchronizer.baseline_lt_of_kept taken

theorem delivered_ordered (named : copies.map Prod.fst <+: (sync.select mode header).kept) :
    (frameNumbers (deliveredFrames header copies)).Pairwise (· ≤ ·) := by
  refine List.Pairwise.sublist (numbers_sublist_of_kept named) (List.pairwise_map.mpr ?_)
  exact (sync.kept_before mode header).imp Candidate.Before.number_le

theorem delivered_increasing (distinct : header.DistinctReady)
    (named : copies.map Prod.fst <+: (sync.select mode header).kept) :
    (frameNumbers (deliveredFrames header copies)).Pairwise (· < ·) := by
  refine List.Pairwise.sublist (numbers_sublist_of_kept named) (List.pairwise_map.mpr ?_)
  exact Synchronizer.kept_increasing distinct

-- Between the baseline and the last number there is no room for a sum past 64 bits.
theorem settle_dropped_exact (named : copies.map Prod.fst <+: (sync.select mode header).kept) :
    ((Haul.start (sync.baseline header)).settle header copies).dropped.toNat =
      missed (sync.baseline header) (frameNumbers (deliveredFrames header copies)) := by
  have ordered : (sync.baseline header :: frameNumbers (deliveredFrames header copies)).Pairwise
      (· ≤ ·) :=
    List.pairwise_cons.mpr ⟨fun number delivered =>
      UInt64.le_of_lt (baseline_lt_of_delivered named delivered), delivered_ordered named⟩
  rw [Haul.settle_dropped]
  change (0 + missed (sync.baseline header) _) % _ = _
  rw [Nat.zero_add, Nat.mod_eq_of_lt (missed_lt ordered)]

-- Wherever the copying stops, nothing was lost in the additions to its counter of drops.
theorem copying_dropped_exact {σ : Type} (source : Source (StateM σ)) (world : σ) :
    let haul := (source.copyCandidates header (sync.select mode header).kept
      (Haul.start (sync.baseline header)) world).1.1
    haul.dropped.toNat = missed (sync.baseline header) (frameNumbers haul.frames) := by
  rcases copying : source.copyCandidates header (sync.select mode header).kept
    (Haul.start (sync.baseline header)) world with ⟨⟨haul, failure⟩, after⟩
  obtain ⟨copies, reached, -, named, settled, -⟩ := copied_of_copyCandidates copying
  have frames : haul.frames = deliveredFrames header copies := by
    rw [settled, Haul.settle_frames]
    exact List.nil_append _
  change haul.dropped.toNat = missed (sync.baseline header) (frameNumbers haul.frames)
  rw [frames, settled]
  exact settle_dropped_exact named

end Numbers

namespace Extracted

variable {σ : Type} {sync next : Synchronizer} {source : Source (StateM σ)} {mode : ExtractMode}
  {world after : σ} {header : Header} {copies : List (Candidate × Option Bytes)}
  {extraction : Extraction}
  (extracted : Extracted sync source mode world header copies extraction next after)

include extracted

theorem frames_eq : extraction.frames = deliveredFrames header copies := by
  rw [extracted.extraction_eq, Haul.extraction, Haul.settle_frames]
  exact List.nil_append _

theorem dropped_eq :
    extraction.dropped.toNat = missed (sync.baseline header) (frameNumbers extraction.frames) := by
  rw [extracted.frames_eq, ← settle_dropped_exact extracted.kept_prefix, extracted.extraction_eq]
  rfl

theorem torn_eq : extraction.torn = UInt64.ofNat (copies.filter (·.2.isNone)).length := by
  rw [extracted.extraction_eq, Haul.extraction, Haul.settle_overwritten]
  simp [Haul.start]

theorem length_add_torn :
    extraction.frames.length + extraction.torn.toNat = (sync.select mode header).kept.length := by
  have few := sync.length_kept_le mode header
  rw [← extracted.candidates, List.length_map] at few ⊢
  have discarded : (copies.filter (·.2.isNone)).length ≤ 3 :=
    (List.length_filter_le _ copies).trans few
  have small : (copies.filter (·.2.isNone)).length < UInt64.size :=
    Nat.lt_of_le_of_lt discarded (by decide)
  rw [extracted.torn_eq, UInt64.toNat_ofNat_of_lt' small, extracted.frames_eq]
  exact length_deliveredFrames header copies

end Extracted

section Outcome

variable {poll : Poll}

theorem Poll.sound_of_failed {error : Error} (failed : poll.attempt.result = .error error)
    (same : poll.attempt.next = poll.before) : poll.Sound := by
  have none : poll.frames = [] := by simp [Poll.frames, failed]
  have base : poll.base = poll.before.lastConsumed := by
    simp [Poll.base, Poll.startsSession, failed]
  refine ⟨?_, ?_, ?_, ?_, ?_⟩
  · simp [none, frameNumbers]
  · simp [none, frameNumbers]
  · simp [none, frameNumbers]
  · simp [none, frameNumbers, same, base]
  · simp [none, frameNumbers, Poll.dropped, failed, missed]

variable {σ : Type} {source : Source (StateM σ)} {world after : σ} {header : Header}
  {copies : List (Candidate × Option Bytes)} {extraction : Extraction}

theorem Poll.base_of_extracted (succeeded : poll.attempt.result = .ok extraction)
    (extracted : Extracted poll.before source poll.mode world header copies extraction
      poll.attempt.next after) : poll.base = poll.before.baseline header := by
  have starts : poll.startsSession = (poll.before.restartObserved header).isSome := by
    simp [Poll.startsSession, succeeded, extracted.extraction_eq, Haul.extraction]
  rw [Poll.base, starts, Synchronizer.baseline]

theorem Poll.frames_of_extracted (succeeded : poll.attempt.result = .ok extraction)
    (extracted : Extracted poll.before source poll.mode world header copies extraction
      poll.attempt.next after) : poll.frames = deliveredFrames header copies := by
  simp [Poll.frames, succeeded, extracted.frames_eq]

theorem Poll.sound_of_extracted (succeeded : poll.attempt.result = .ok extraction)
    (scan : poll.scan = .ok header)
    (extracted : Extracted poll.before source poll.mode world header copies extraction
      poll.attempt.next after) : poll.Sound := by
  have named := extracted.kept_prefix
  have frames := Poll.frames_of_extracted succeeded extracted
  have base := Poll.base_of_extracted succeeded extracted
  refine ⟨?_, ?_, ?_, ?_, ?_⟩
  · intro number delivered
    rw [frames] at delivered
    rw [base]
    exact baseline_lt_of_delivered named delivered
  · rw [frames]
    exact delivered_ordered named
  · intro distinct
    rw [frames]
    exact delivered_increasing (distinct header scan) named
  · rw [frames, base, extracted.next_eq]
    exact Haul.settle_previous header _ copies
  · rw [frames, base, ← extracted.frames_eq, ← extracted.dropped_eq]
    simp [Poll.dropped, succeeded]

end Outcome

theorem Synchronizer.poll_sound {σ : Type} (sync : Synchronizer) (source : Source (StateM σ))
    (mode : ExtractMode) (world : σ) : (sync.poll source mode world).1.Sound := by
  rcases run : sync.extract source mode world with ⟨attempt, after⟩
  have polled : (sync.poll source mode world).1 =
      { before := sync, mode, scan := (source.readHeader world).1, attempt } := by
    rw [Synchronizer.poll, run]
  rw [polled]
  rcases extract_cases sync source mode world run with ⟨error, failed, same⟩ |
    ⟨header, copies, extraction, succeeded, extracted⟩
  · exact Poll.sound_of_failed failed same
  · obtain ⟨scanned, checked, scan, -⟩ := extracted.run
    exact Poll.sound_of_extracted succeeded (congrArg Prod.fst scan) extracted

-- Each extraction of a run goes on from the synchronizer that the one before left.
def Linked : Synchronizer → List Poll → Prop
  | _, [] => True
  | sync, poll :: rest => poll.before = sync ∧ poll.Sound ∧ Linked poll.attempt.next rest

theorem Linked.sound {sync : Synchronizer} {polls : List Poll} (linked : Linked sync polls) :
    ∀ poll ∈ polls, poll.Sound := by
  induction polls generalizing sync with
  | nil => exact fun _ member => absurd member List.not_mem_nil
  | cons first rest ih =>
    obtain ⟨-, sound, later⟩ := linked
    intro poll member
    rcases List.mem_cons.mp member with rfl | inRest
    · exact sound
    · exact ih later poll inRest

namespace Synchronizer

variable {σ : Type}

theorem polls_cons (sync : Synchronizer) (source : Source (StateM σ)) (mode : ExtractMode)
    (rest : List (Source (StateM σ) × ExtractMode)) (world : σ) :
    sync.polls ((source, mode) :: rest) world =
      let (poll, after) := sync.poll source mode world
      let (later, finish) := poll.attempt.next.polls rest after
      (poll :: later, finish) :=
  rfl

theorem polls_linked (sync : Synchronizer) (calls : List (Source (StateM σ) × ExtractMode))
    (world : σ) : Linked sync (sync.polls calls world).1 := by
  induction calls generalizing sync world with
  | nil => trivial
  | cons call rest ih =>
    obtain ⟨source, mode⟩ := call
    rw [polls_cons]
    exact ⟨rfl, sync.poll_sound source mode world, ih _ _⟩

-- What single extractions from a source keep holds before each extraction of a run.
theorem polls_invariant {source : Source (StateM σ)} (invariant : Synchronizer → σ → Prop)
    (kept : ∀ sync world mode, invariant sync world →
      invariant (sync.extract source mode world).1.next (sync.extract source mode world).2)
    {sync : Synchronizer} {world : σ} (holds : invariant sync world) (modes : List ExtractMode) :
    ∀ poll ∈ (sync.polls (modes.map (source, ·)) world).1, ∃ reached after,
      invariant poll.before reached ∧
        poll.before.extract source poll.mode reached = (poll.attempt, after) ∧
        poll.scan = (source.readHeader reached).1 := by
  induction modes generalizing sync world with
  | nil => exact fun _ member => absurd member List.not_mem_nil
  | cons mode rest ih =>
    intro poll member
    rcases List.mem_cons.mp member with rfl | inRest
    · exact ⟨world, _, holds, rfl, rfl⟩
    · exact ih (kept sync world mode holds) poll inRest

theorem afterPolls_append (sync : Synchronizer) (front back : List Poll) :
    sync.afterPolls (front ++ back) = (sync.afterPolls front).afterPolls back := by
  induction front generalizing sync with
  | nil => rfl
  | cons poll rest ih => exact ih _

theorem linked_append {sync : Synchronizer} {front back : List Poll}
    (linked : Linked sync (front ++ back)) :
    Linked sync front ∧ Linked (sync.afterPolls front) back := by
  induction front generalizing sync with
  | nil => exact ⟨trivial, linked⟩
  | cons poll rest ih =>
    obtain ⟨before, sound, later⟩ := linked
    obtain ⟨front, back⟩ := ih later
    exact ⟨⟨before, sound, front⟩, back⟩

end Synchronizer

end FrameTap
