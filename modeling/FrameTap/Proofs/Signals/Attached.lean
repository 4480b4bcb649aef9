import FrameTap.Proofs.Receiver.Effects
import FrameTap.Proofs.Receiver.Requests
import FrameTap.Proofs.Signals.Dialogue

set_option autoImplicit false

namespace FrameTap

open Dialogue

variable {α β : Type} {size : Nat}

def Dialogue.prompting : EffectLaw Dialogue where
  Holds good dialogue := dialogue.Unblocked good
  pure fine := fine
  bind := Unblocked.bind

structure Source.Prompt (source : Source Dialogue) : Prop where
  length : source.length.Prompt
  copyOut : ∀ offset length, (source.copyOut offset length).Prompt

theorem Source.Prompt.reads {source : Source Dialogue} (prompt : source.Prompt) :
    prompting.Reads source :=
  ⟨prompt.length, prompt.copyOut⟩

theorem surroundings_serve (size : Nat) : prompting.Serves (surroundings size) where
  now := ⟨nofun, fun _ => trivial⟩
  wallClock := ⟨nofun, fun _ => trivial⟩
  sleep _ := trivial
  log _ _ := trivial

def Dialogue.source (size : Nat) : Source Dialogue := Source.ofMapping size (mapping size).read

theorem source_prompt (size : Nat) : (Dialogue.source size).Prompt where
  length := trivial
  copyOut offset length := by
    unfold Dialogue.source Source.ofMapping
    dsimp only
    split
    · trivial
    · split
      · trivial
      · exact ⟨nofun, fun bytes => trivial⟩

/-- Connected to what producer and consumer share. -/
structure Connection.Shared (size : Nat) (connection : Connection Dialogue) : Prop where
  source : connection.region.source = Dialogue.source size
  event : ∀ event ∈ connection.event, event.semaphore = Dialogue.semaphore

namespace Receiver

def Attached (size : Nat) (receiver : Receiver Dialogue) : Prop :=
  ∀ connection ∈ receiver.connection, connection.Shared size

def Keeps (size : Nat) (action : ReceiverM Dialogue α) : Prop :=
  ∀ receiver : Receiver Dialogue, receiver.Attached size →
    (action receiver).Unblocked fun outcome => outcome.2.Attached size

theorem get_run (rest : Receiver Dialogue → ReceiverM Dialogue α)
    (receiver : Receiver Dialogue) :
    (get >>= rest) receiver = rest receiver receiver :=
  rfl

theorem lift_run (dialogue : Dialogue β) (rest : β → ReceiverM Dialogue α)
    (receiver : Receiver Dialogue) :
    (liftM dialogue >>= rest) receiver = dialogue >>= fun value => rest value receiver :=
  bind_bind dialogue _ _

section Requests

variable (size)

theorem reads_of_shared {connection : Connection Dialogue} (shared : connection.Shared size) :
    prompting.Reads connection.region.source := by
  rw [shared.source]
  exact (source_prompt size).reads

theorem extract_keeps (mode : ExtractMode) :
    prompting.Keeps (Connection.Shared size) (extract (surroundings size) mode) :=
  (surroundings_serve size).extract_keeps (fun _ shared => reads_of_shared size shared)
    (fun _ _ shared => ⟨shared.source, shared.event⟩) mode

theorem source_of_ofMapping {name : String} {region : Region Dialogue}
    (opened : Region.ofMapping name (mapping size) = .ok region) :
    region.source = Dialogue.source size := by
  rw [Region.ofMapping] at opened
  split at opened
  · cases opened
  · cases opened
    rfl

theorem openAt_shared (place : RegionPlace) :
    (Region.openAt (surroundings size) place).Unblocked fun answer =>
      ∀ region, answer = .ok region → region.source = Dialogue.source size := by
  unfold Region.openAt
  cases Region.checkPlace place with
  | error fault => exact nofun
  | ok named =>
    have mapped : ((surroundings size).openRegion place).Unblocked (· = .ok (mapping size)) := rfl
    refine mapped.bind fun answer same => ?_
    subst same
    dsimp only
    cases opened : Region.ofMapping place.label (mapping size) with
    | error error => exact nofun
    | ok region =>
      rintro region ⟨⟩
      exact source_of_ofMapping size opened

theorem openEvent_shared (name : Option String) :
    (openEvent (surroundings size) name).Unblocked fun event? =>
      ∀ event ∈ event?, event.semaphore = Dialogue.semaphore := by
  cases name with
  | none => exact nofun
  | some name =>
    unfold openEvent Event.openNamed
    dsimp only
    split
    · exact nofun
    · rintro event ⟨⟩
      rfl

theorem openConnection_shared (settings : ReceiverSettings) :
    (openConnection (surroundings size) settings).Unblocked fun answer =>
      ∀ connection header, answer = .ok (connection, header) → connection.Shared size := by
  unfold openConnection
  refine (openAt_shared size _).bind fun answer opened => ?_
  cases answer with
  | error error => exact nofun
  | ok region =>
    have viewed : region.source = Dialogue.source size := opened region rfl
    refine (openEvent_shared size settings.eventName).bind fun event? heard => ?_
    rw [viewed]
    refine Unblocked.bind (source_prompt size).reads.readHeader fun answer _ => ?_
    cases answer with
    | error error => exact nofun
    | ok header =>
      refine (source_prompt size).length.bind fun length _ => ?_
      cases header.validateLayout length with
      | error fault => exact nofun
      | ok accepted =>
        rintro connection header ⟨⟩
        exact ⟨viewed, heard⟩

theorem connect_keeps :
    prompting.Keeps (Connection.Shared size) (connect (surroundings size)) := by
  have serves := surroundings_serve size
  unfold connect
  refine EffectLaw.Keeps.get_bind fun receiver _ => ?_
  split
  · exact .pure _
  · refine .lift_bind (openConnection_shared size receiver.settings) fun answer opened => ?_
    match answer, opened with
    | .error error, _ => exact (serves.report_keeps error).bind fun _ => .pure _
    | .ok (connection, header), opened =>
      have shared : connection.Shared size := opened connection header rfl
      refine .lift_bind (serves.log _ rfl) fun _ _ => .lift_bind serves.now fun now _ => ?_
      refine EffectLaw.Keeps.bind (.modify ?_) fun _ =>
        (EffectLaw.emit_keeps _).bind fun _ => .pure _
      rintro receiver - _ ⟨⟩
      exact shared

theorem disconnect_keeps :
    prompting.Keeps (Connection.Shared size) (disconnect (surroundings size)) :=
  (surroundings_serve size).disconnect_keeps

theorem frameInfo_keeps :
    prompting.Keeps (Connection.Shared size) frameInfo := by
  unfold frameInfo
  refine EffectLaw.Keeps.get_bind fun receiver attached => ?_
  match linked : receiver.connection with
  | none => exact .pure _
  | some connection =>
    have reads := reads_of_shared size (attached connection linked)
    exact .lift reads.readHeader

theorem serve_keeps {request : Request}
    (brief : ∀ timeout patience, request ≠ .waitForFrame timeout patience) :
    Keeps size (request.serve (surroundings size)) := by
  change prompting.Keeps (Connection.Shared size) _
  cases request with
  | subscribe =>
    refine EffectLaw.Keeps.bind (.get_bind fun receiver attached => ?_) fun _ => .pure _
    exact EffectLaw.Keeps.bind (.set attached) fun _ => .pure _
  | close id =>
    refine EffectLaw.Keeps.bind (.modify ?_) fun _ => .pure _
    exact fun _ attached => attached
  | connect => exact (connect_keeps size).bind fun _ => .pure _
  | disconnect => exact (disconnect_keeps size).bind fun _ => .pure _
  | extract mode => exact (extract_keeps size mode).bind fun _ => .pure _
  | tryGetFrame =>
    refine EffectLaw.Keeps.bind ((extract_keeps size .latest).bind fun answer => ?_)
      fun _ => .pure _
    cases answer <;> exact .pure _
  | tryGetAllNewFrames => exact (extract_keeps size .allNew).bind fun _ => .pure _
  | waitForFrame timeout patience => exact absurd rfl (brief timeout patience)
  | frameInfo => exact (frameInfo_keeps size).bind fun _ => .pure _

end Requests

end Receiver

end FrameTap
