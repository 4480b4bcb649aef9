import FrameTap.Proofs.Receiver.Deliveries
import FrameTap.Proofs.Receiver.Requests

set_option autoImplicit false

namespace FrameTap

-- The totals of the second go beyond those of the first by what was extracted.
structure Statistics.Adds (before after : Statistics) (taken : List Extraction) : Prop where
  received : after.received = before.received + UInt64.ofNat (taken.flatMap (·.frames)).length
  dropped : after.dropped =
    before.dropped + UInt64.ofNat (taken.map fun extraction => extraction.dropped.toNat).sum
  torn : after.torn =
    before.torn + UInt64.ofNat (taken.map fun extraction => extraction.torn.toNat).sum

namespace Statistics.Adds

theorem nothing (statistics : Statistics) : statistics.Adds statistics [] := by
  constructor <;> simp

theorem append {before middle after : Statistics} {taken later : List Extraction}
    (first : before.Adds middle taken) (second : middle.Adds after later) :
    before.Adds after (taken ++ later) := by
  constructor
  · simp [second.received, first.received, UInt64.add_assoc]
  · simp [second.dropped, first.dropped, UInt64.add_assoc]
  · simp [second.torn, first.torn, UInt64.add_assoc]

theorem record (statistics : Statistics) (now : Nanoseconds) (extraction : Extraction) :
    statistics.Adds (statistics.record now (UInt64.ofNat extraction.frames.length)
      extraction.dropped extraction.torn) [extraction] := by
  unfold Statistics.record roll
  constructor <;> dsimp only <;> split <;> simp

end Statistics.Adds

section Books

variable {σ : Type} {receiver before middle after : Receiver (StateM σ)}
  {events later : List ReceiverEvent} {returned others : List Frame} {polls following : List Poll}

structure Booked (before after : Receiver (StateM σ)) (events : List ReceiverEvent)
    (returned : List Frame) (polls : List Poll) : Prop where
  returned_eq : returned = (extractions polls).flatMap (·.frames)
  counted : before.statistics.Adds after.statistics (extractions polls)
  current_eq : after.current = returned.getLast?.or before.current
  announced : Announces events polls

theorem Booked.append (first : Booked before middle events returned polls)
    (second : Booked middle after later others following) :
    Booked before after (events ++ later) (returned ++ others) (polls ++ following) := by
  refine ⟨?_, ?_, ?_, first.announced.append second.announced⟩
  · rw [extractions_append, List.flatMap_append, first.returned_eq, second.returned_eq]
  · rw [extractions_append]
    exact first.counted.append second.counted
  · rw [second.current_eq, first.current_eq, List.getLast?_append, Option.or_assoc]

theorem Booked.idle (statistics : after.statistics = before.statistics)
    (current : after.current = before.current)
    (quiet : ∀ event ∈ events, event.ofSession = false) :
    Booked before after events [] [] := by
  refine ⟨rfl, ?_, ?_, .of_quiet quiet⟩
  · rw [statistics]
    exact .nothing _
  · rw [current]
    rfl

end Books

section Requests

variable {σ : Type} {receiver : Receiver (StateM σ)} {world : σ} {request : Request}
  {mode : ExtractMode} {view : Except Error (List Frame) → Reply} {polls : List Poll}

-- The extraction that a request makes, if it makes one.
def Receiver.pollFor (receiver : Receiver (StateM σ)) (request : Request) (world : σ) :
    Option Poll :=
  request.taking?.bind fun (mode, _) =>
    receiver.connection.map fun connection =>
      (connection.sync.poll connection.region.source mode world).1

def Step.poll? (step : Step σ) : Option Poll := step.before.pollFor step.request step.world

def Step.Establishes (step : Step σ) : Prop :=
  step.request = .connect ∧ step.before.isConnected = false ∧ step.after.isConnected = true

-- What an extraction in the latest mode found is returned whole, even as a single frame.
theorem Request.returned_of_taking (asks : request.taking? = some (mode, view))
    {frames : List Frame} (few : mode = .latest → frames.length ≤ 1) :
    (view (.ok frames)).returned = frames := by
  cases request with
  | tryGetFrame =>
    cases asks
    match frames, few rfl with
    | [], _ => rfl
    | [frame], _ => rfl
  | _ => cases asks <;> rfl

theorem Request.returned_of_refused (asks : request.taking? = some (mode, view))
    (error : Error) : (view (.error error)).returned = [] := by
  cases request <;> cases asks <;> rfl

namespace Receiver

@[simp] theorem taken_connection (now : Nanoseconds) (extraction : Extraction) :
    (receiver.taken now extraction).connection = receiver.connection := by
  unfold taken
  split <;> rfl

@[simp] theorem taken_statistics (now : Nanoseconds) (extraction : Extraction) :
    (receiver.taken now extraction).statistics = receiver.statistics.record now
      (UInt64.ofNat extraction.frames.length) extraction.dropped extraction.torn := by
  unfold taken
  split <;> rfl

@[simp] theorem taken_current (now : Nanoseconds) (extraction : Extraction) :
    (receiver.taken now extraction).current =
      extraction.frames.getLast?.or receiver.current := by
  cases ending : extraction.frames.getLast? <;> simp [taken, ending, counted, showing]

theorem pollFor_eq (asks : request.taking? = some (mode, view))
    {connection : Connection (StateM σ)} (linked : receiver.connection = some connection) :
    receiver.pollFor request world =
      some (connection.sync.poll connection.region.source mode world).1 := by
  rw [pollFor, asks, linked]
  rfl

theorem Extracting.booked (asks : request.taking? = some (mode, view))
    {outcome : Outcome σ (Except Error (List Frame))}
    (extracting : receiver.Extracting mode world outcome) :
    Booked receiver outcome.receiver outcome.events (view outcome.value).returned
      (receiver.pollFor request world).toList := by
  cases extracting with
  | apart apart =>
    rw [pollFor, asks, apart, Request.returned_of_refused asks]
    exact .idle rfl rfl (List.forall_mem_nil _)
  | @failed connection poll error reached linked made result =>
    have polled : receiver.pollFor request world = some poll := by
      rw [pollFor_eq asks linked, made]
    have none : poll.extraction? = none := by simp [Poll.extraction?, result]
    have frames : poll.frames = [] := by simp [Poll.frames, result]
    have announced : Announces [] [poll] := by
      simpa [Poll.reset?, none, frames, resetEvents, frameEvents] using
        (Announces.poll .nil : Announces _ [poll])
    have nothing : (view (.ok [])).returned = [] := Request.returned_of_taking asks (by simp)
    rw [polled, nothing]
    refine ⟨?_, ?_, rfl, .quiet rfl announced⟩
    · simp [extractions, none]
    · simpa [extractions, none, advanced] using Statistics.Adds.nothing receiver.statistics
  | @delivered connection poll extraction now reached linked made result =>
    have polled : receiver.pollFor request world = some poll := by
      rw [pollFor_eq asks linked, made]
    have some : poll.extraction? = some extraction := by simp [Poll.extraction?, result]
    have frames : poll.frames = extraction.frames := by simp [Poll.frames, result]
    have few : mode = .latest → extraction.frames.length ≤ 1 := by
      rintro rfl
      rw [← frames, ← made]
      exact Synchronizer.poll_latest_length ..
    have announced : Announces
        (resetEvents extraction.reset ++ frameEvents extraction.frames) [poll] := by
      simpa [Poll.reset?, some, frames] using (Announces.poll .nil : Announces _ [poll])
    rw [polled, Request.returned_of_taking asks few]
    refine ⟨?_, ?_, ?_, announced⟩
    · simp [extractions, some]
    · have recorded := Statistics.Adds.record receiver.statistics now extraction
      simpa [extractions, some, advanced] using recorded
    · simp [advanced]

theorem Effect.booked {outcome : Outcome σ Reply}
    (effect : receiver.Effect world request outcome)
    (goesOn : request = .connect → receiver.isConnected = false →
      outcome.receiver.isConnected = false) :
    Booked receiver outcome.receiver outcome.events outcome.value.returned
      (receiver.pollFor request world).toList := by
  cases effect with
  | connect connecting =>
    cases connecting with
    | already _ => exact .idle rfl rfl (List.forall_mem_nil _)
    | refused _ => exact .idle rfl rfl (by simp [Outcome.map, ReceiverEvent.ofSession])
    | established apart _ => cases goesOn rfl (by simp [isConnected, apart])
  | disconnect disconnecting =>
    cases disconnecting with
    | already _ => exact .idle rfl rfl (List.forall_mem_nil _)
    | released _ => exact .idle rfl rfl (by simp [Outcome.map, ReceiverEvent.ofSession])
  | take asks extracting => exact extracting.booked asks
  | wait waiting =>
    cases waiting with
    | apart _ => exact .idle rfl rfl (List.forall_mem_nil _)
    | failed _ => exact .idle rfl rfl (by simp [Outcome.map, ReceiverEvent.ofSession])
    | answered _ _ => exact .idle rfl rfl (List.forall_mem_nil _)
  | inspect => exact .idle rfl rfl (List.forall_mem_nil _)

-- The extractions go on from where the connection stands, if there is one.
def LinkedTo (receiver : Receiver (StateM σ)) (polls : List Poll) : Prop :=
  match receiver.connection with
  | none => polls = []
  | some connection => Linked connection.sync polls

theorem linkedTo_nil : receiver.LinkedTo [] := by
  unfold LinkedTo
  split
  · rfl
  · trivial

theorem Extracting.linked (asks : request.taking? = some (mode, view))
    {outcome : Outcome σ (Except Error (List Frame))}
    (extracting : receiver.Extracting mode world outcome)
    (later : outcome.receiver.LinkedTo polls) :
    receiver.LinkedTo ((receiver.pollFor request world).toList ++ polls) := by
  cases linked : receiver.connection with
  | none =>
    have none : receiver.pollFor request world = none := by simp [pollFor, linked]
    rw [none]
    cases extracting with
    | apart _ => exact later
    | failed present => cases linked.symm.trans present
    | delivered present => cases linked.symm.trans present
  | some connection =>
    let poll := (connection.sync.poll connection.region.source mode world).1
    have polled : receiver.pollFor request world = some poll := pollFor_eq asks linked
    have next : Linked poll.attempt.next polls := by
      cases extracting with
      | apart absent => cases linked.symm.trans absent
      | failed present made _ =>
        cases linked.symm.trans present
        rw [← made] at later
        exact later
      | delivered present made _ =>
        cases linked.symm.trans present
        rw [← made] at later
        simpa [LinkedTo, advanced] using later
    rw [polled, LinkedTo, linked]
    exact ⟨rfl, Synchronizer.poll_sound .., next⟩

theorem Effect.linked {outcome : Outcome σ Reply}
    (effect : receiver.Effect world request outcome)
    (goesOn : request = .connect → receiver.isConnected = false →
      outcome.receiver.isConnected = false)
    (later : outcome.receiver.LinkedTo polls) :
    receiver.LinkedTo ((receiver.pollFor request world).toList ++ polls) := by
  cases effect with
  | connect connecting =>
    cases connecting with
    | already _ => exact later
    | refused _ => exact later
    | established apart _ => cases goesOn rfl (by simp [isConnected, apart])
  | disconnect disconnecting =>
    cases disconnecting with
    | already _ => exact later
    | released _ =>
      obtain rfl : polls = [] := later
      exact linkedTo_nil
  | take asks extracting => exact extracting.linked asks later
  | wait waiting => cases waiting <;> exact later
  | inspect => exact later

end Receiver

namespace Step

variable {step : Step σ}

theorem Served.goesOn {outcome : Receiver.Outcome σ Reply}
    {subscribers : List Subscriber} (after : step.after = outcome.receiver.heardBy subscribers)
    (keeps : ¬step.Establishes) : step.request = .connect → step.before.isConnected = false →
      outcome.receiver.isConnected = false := by
  intro asked apart
  by_contra connected
  refine keeps ⟨asked, apart, ?_⟩
  rw [after]
  exact eq_true_of_ne_false connected

theorem Served.booked (served : step.Served) (keeps : ¬step.Establishes) :
    Booked step.before step.after step.events step.reply.returned step.poll?.toList := by
  cases served with
  | subscribed asked reply after silent =>
    rw [poll?, asked, reply, after, silent]
    exact .idle rfl rfl (List.forall_mem_nil _)
  | closed asked reply after silent =>
    rw [poll?, asked, reply, after, silent]
    exact .idle rfl rfl (List.forall_mem_nil _)
  | announced effect reply after events =>
    have booked := effect.booked (Served.goesOn after keeps)
    rw [poll?, reply, after, events]
    exact ⟨booked.returned_eq, booked.counted, booked.current_eq, booked.announced⟩

theorem Served.linked (served : step.Served) (keeps : ¬step.Establishes)
    (later : step.after.LinkedTo polls) :
    step.before.LinkedTo (step.poll?.toList ++ polls) := by
  cases served with
  | subscribed asked _ after _ =>
    rw [poll?, asked]
    rwa [after] at later
  | closed asked _ after _ =>
    rw [poll?, asked]
    rwa [after] at later
  | announced effect _ after _ =>
    rw [after] at later
    exact effect.linked (Served.goesOn after keeps) later

end Step

theorem Served.booked {steps : List (Step σ)} (served : Served receiver steps)
    (keep : ∀ step ∈ steps, ¬step.Establishes) :
    Booked receiver (receiver.afterSteps steps) (history steps)
        (steps.flatMap (·.reply.returned)) (steps.filterMap Step.poll?) ∧
      receiver.LinkedTo (steps.filterMap Step.poll?) := by
  induction steps generalizing receiver with
  | nil => exact ⟨.idle rfl rfl (List.forall_mem_nil _), Receiver.linkedTo_nil⟩
  | cons step rest ih =>
    obtain ⟨rfl, did, later⟩ := served
    obtain ⟨first, others⟩ := List.forall_mem_cons.mp keep
    obtain ⟨booked, linked⟩ := ih later others
    have polls : (step :: rest).filterMap Step.poll? =
        step.poll?.toList ++ rest.filterMap Step.poll? := by
      cases made : step.poll? <;> simp [made]
    rw [polls]
    exact ⟨(did.booked first).append booked, did.linked first linked⟩

end Requests

theorem Step.Served.established {σ : Type} {step : Step σ} (served : step.Served)
    (establishes : step.Establishes) :
    (∃ connection protocol, step.after.connection = some connection ∧
        connection.sync = Synchronizer.start protocol) ∧
      (∃ now, step.after.statistics = Statistics.start now) ∧ step.after.current = none := by
  obtain ⟨asked, apart, connected⟩ := establishes
  cases served with
  | subscribed other => cases asked.symm.trans other
  | closed other => cases asked.symm.trans other
  | announced effect _ after _ =>
    rw [after] at connected ⊢
    rw [asked] at effect
    cases effect with
    | connect connecting =>
      cases connecting with
      | already present => cases apart.symm.trans present
      | refused _ => cases apart.symm.trans connected
      | @established connection now header _ _ fresh =>
        exact ⟨⟨connection, header.protocol, rfl, fresh⟩, ⟨now, rfl⟩, rfl⟩
    | take asks => cases asks

/-- Since a receiver last connected, the frames that it returned, its counters, the frame that it
keeps and the events that it announced tell of the same extractions. -/
theorem accounts_agree {σ : Type} (env : Surroundings (StateM σ)) (settings : ReceiverSettings)
    (created : Nanoseconds) (requests : List Request) (world : σ) :
    let fresh : Receiver (StateM σ) := Receiver.new settings created
    let steps := fresh.steps env requests world
    ∀ earlier step since later, steps = earlier ++ step :: (since ++ later) →
      step.Establishes → (∀ other ∈ since, ¬other.Establishes) →
      let now := step.after.afterSteps since
      let returned := since.flatMap (·.reply.returned)
      let polls := since.filterMap Step.poll?
      now.statistics.received = UInt64.ofNat returned.length ∧
      now.statistics.dropped =
        UInt64.ofNat ((extractions polls).map fun extraction => extraction.dropped.toNat).sum ∧
      now.statistics.torn =
        UInt64.ofNat ((extractions polls).map fun extraction => extraction.torn.toNat).sum ∧
      returned = (extractions polls).flatMap (·.frames) ∧
      deliveries (history since) = returned.map (fun frame => (frame.frameNumber, frame.slot)) ∧
      now.current = returned.getLast? ∧
      (DistinctScans polls →
        (∀ group ∈ groups (history since), group.Pairwise (· < ·)) ∧
        now.statistics.received + now.statistics.dropped =
          UInt64.ofNat ((groups (history since)).map span).sum) := by
  intro fresh steps earlier step since later cut establishes keep now returned polls
  have served : Served fresh steps := fresh.steps_served env world requests
  rw [cut] at served
  obtain ⟨-, did, following⟩ := served.split.2
  obtain ⟨booked, linked⟩ : Booked step.after now (history since) returned polls ∧
      step.after.LinkedTo polls := following.split.1.booked keep
  obtain ⟨⟨connection, protocol, present, started⟩, ⟨connectedAt, zero⟩, empty⟩ :=
    did.established establishes
  rw [Receiver.LinkedTo, present] at linked
  have fromZero : connection.sync.lastConsumed = 0 := by rw [started]; rfl
  have received : now.statistics.received = UInt64.ofNat returned.length := by
    rw [booked.counted.received, zero, ← booked.returned_eq]
    exact UInt64.zero_add _
  have dropped : now.statistics.dropped =
      UInt64.ofNat ((extractions polls).map fun extraction => extraction.dropped.toNat).sum := by
    rw [booked.counted.dropped, zero]
    exact UInt64.zero_add _
  have torn : now.statistics.torn =
      UInt64.ofNat ((extractions polls).map fun extraction => extraction.torn.toNat).sum := by
    rw [booked.counted.torn, zero]
    exact UInt64.zero_add _
  have current : now.current = returned.getLast? := by
    rw [booked.current_eq, empty, Option.or_none]
  have announced : deliveries (history since) =
      returned.map fun frame => (frame.frameNumber, frame.slot) := by
    rw [booked.announced.deliveries_eq, frames_of_extractions, ← booked.returned_eq]
  refine ⟨received, dropped, torn, booked.returned_eq, announced, current, ?_⟩
  intro distinct
  obtain ⟨increasing, filled⟩ := parts_of_fresh fromZero linked distinct
  rw [booked.announced.groups_eq]
  constructor
  · intro group member
    obtain ⟨part, inParts, rfl⟩ := List.mem_map.mp member
    exact increasing part inParts
  · have count : returned.length = (numbers polls).length := by
      rw [booked.returned_eq, ← frames_of_extractions, length_numbers]
    rw [received, dropped, ← lost_of_extractions, count, ← UInt64.ofNat_add, filled, List.map_map]
    rfl

-- A region of one slot in which frame 5 follows frame 3, until its producer starts again.
def restartingRegion (time : Nat) : Bytes :=
  let frameNumber : UInt64 :=
    match time with
    | 0 | 1 => 3
    | 2 => 5
    | _ => 2
  Header.encode (.single
    { magic := Header.magicNumber, version := 1
      picture := { width := 1, height := 1, stride := 4, format := 0 }
      timestampMs := 0, frameNumber, dataSize := 4, ready := 1 }) ++ [0, 0, 0, 255]

-- The world is its time, which passes when the clock is read.
def restartingWorld : Surroundings (StateM Nat) where
  openRegion _ := pure (.ok
    { size := 52
      read := fun offset length time => ((restartingRegion time).slice offset length, time) })
  openSemaphore _ := pure (.error .notFound)
  now := fun time => (time, time + 1)
  wallClock := fun time => (WallTime.ofNanoseconds time, time)
  sleep _ := pure ()
  log _ := pure ()

def briefLife : List (Step Nat) :=
  (Receiver.new {} 0).steps restartingWorld
    [.connect, .tryGetFrame, .tryGetAllNewFrames, .extract .latest, .disconnect] 0

theorem briefLife_distinct : DistinctScans (briefLife.tail.filterMap Step.poll?) := by
  have scans : ∀ poll ∈ briefLife.tail.filterMap Step.poll?,
      poll.scan.toOption.map (·.protocol) = some .single := by
    decide +kernel
  intro poll member header scan
  have single := scans poll member
  rw [scan] at single
  match header with
  | .single h =>
    rw [Header.DistinctReady, Header.readyCandidates]
    split <;> simp
  | .ring _ => cases single

theorem accounts_agree_briefLife :
    ∃ step since, briefLife = [] ++ step :: (since ++ []) ∧ step.Establishes ∧
      (∀ other ∈ since, ¬other.Establishes) ∧
      DistinctScans (since.filterMap Step.poll?) ∧
      groups (history since) = [[3, 5], [2]] ∧
      (step.after.afterSteps since).statistics.received = 3 ∧
      (step.after.afterSteps since).statistics.dropped = 1 ∧
      (step.after.afterSteps since).statistics.received +
        (step.after.afterSteps since).statistics.dropped = 4 := by
  let step := ((Receiver.new {} 0).step restartingWorld .connect 0).1
  have cut : briefLife = [] ++ step :: (briefLife.tail ++ []) := by
    rw [List.append_nil]
    rfl
  have establishes : step.Establishes := by
    refine ⟨?_, ?_, ?_⟩ <;> decide +kernel
  have keep : ∀ other ∈ briefLife.tail, ¬other.Establishes := by
    have others : ∀ other ∈ briefLife.tail, other.request ≠ .connect := by decide +kernel
    exact fun other member connects => others other member connects.1
  have grouped : groups (history briefLife.tail) = [[3, 5], [2]] := by decide +kernel
  obtain ⟨received, dropped, -, -, -, -, filled⟩ :=
    accounts_agree restartingWorld {} 0 _ 0 [] step briefLife.tail [] cut establishes keep
  refine ⟨step, briefLife.tail, cut, establishes, keep, briefLife_distinct, grouped, ?_, ?_, ?_⟩
  · rw [received]
    decide +kernel
  · rw [dropped]
    decide +kernel
  · rw [(filled briefLife_distinct).2, grouped]
    rfl

end FrameTap
