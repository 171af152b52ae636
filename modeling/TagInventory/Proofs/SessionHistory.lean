import Mathlib.Data.List.DropRight
import Mathlib.Data.List.Induction
import TagInventory.Proofs.Reply
import TagInventory.Session

/-!
# The session is known from what was dispatched to it

A session is changed by frames and by the three calls that an application makes between them.
Every field follows the last event that says something about it: a response of one command
that has the layout of this command, or one of the calls.

## Strategy

* `Session.Reports`: six parts of the session follow the responses to one command each, and
  differ in the command, in how its payload is read and in what is kept of it.  What a frame
  does to such a part is said once for all of them (`Session.Reports.applyFrame`).
* `Session.field_afterAll`: what one event does to a field, by induction over the events, is
  what the last event that concerns it has done.
* The two fields that are emptied by fetching them hold what came behind the last fetch.
-/

namespace TagInventory

/-! ## Events -/

/-- Something done to a session. -/
inductive SessionEvent
  | dispatch (frame : Frame)
  | setTagCount (count : UInt16)
  | takeLastError
  | takeTagReads
  deriving DecidableEq

namespace Session

def after (session : Session) : SessionEvent → Session
  | .dispatch frame => session.applyFrame frame
  | .setTagCount count => session.setTagCount count
  | .takeLastError => session.takeLastError.2
  | .takeTagReads => session.takeTagReads.2

/-- The session after some events. -/
def afterAll (session : Session) (events : List SessionEvent) : Session :=
  events.foldl after session

theorem afterAll_concat (session : Session) (events : List SessionEvent) (event : SessionEvent) :
    session.afterAll (events ++ [event]) = (session.afterAll events).after event :=
  List.foldl_concat ..

end Session

/-! ## What a payload says -/

def firmware? : List UInt8 → Option (UInt8 × UInt8)
  | [major, minor] => some (major, minor)
  | _ => none

def antenna? : List UInt8 → Option Antenna
  | [code] => Antenna.ofCode? code
  | _ => none

/-- A region, and the first and the last frequency in it. -/
def band? : List UInt8 → Option (UInt8 × UInt8 × UInt8)
  | [region, first, last] => some (region, first, last)
  | _ => none

def count? : List UInt8 → Option UInt16
  | [high, low] => some (word16 high low)
  | _ => none

namespace SessionEvent

/-- The payload of a response to `command`. -/
def payload? (command : Command) : SessionEvent → Option (List UInt8)
  | dispatch frame => if frame.command = command.code then some frame.payload else none
  | setTagCount _ | takeLastError | takeTagReads => none

/-- What a response to `command` says, where its payload can be read. -/
def said? {α : Type} (command : Command) (read : List UInt8 → Option α) (event : SessionEvent) :
    Option α :=
  (event.payload? command).bind read

theorem said?_dispatch {α : Type} {command : Command} {read : List UInt8 → Option α}
    {frame : Frame} {said : α} :
    (dispatch frame).said? command read = some said ↔
      frame.command = command.code ∧ read frame.payload = some said := by
  by_cases hcode : frame.command = command.code
  · rw [said?, payload?, if_pos hcode, Option.bind_some]
    exact ⟨fun h => ⟨hcode, h⟩, And.right⟩
  · rw [said?, payload?, if_neg hcode, Option.bind_none]
    exact ⟨fun h => (by cases h), fun h => absurd h.1 hcode⟩

/-- The reply of a frame with the code of a command of the wire. -/
def reply? : SessionEvent → Option Reply
  | dispatch frame => Reply.ofFrame? frame
  | setTagCount _ | takeLastError | takeTagReads => none

/-- The error that is reported, with the command that it answers. -/
def error? (event : SessionEvent) : Option (Command × DeviceError) :=
  event.reply?.bind fun reply => reply.error?.map fun error => (reply.command, error)

/-- The tag of a record, with the command that it answers. -/
def tag? (event : SessionEvent) : Option (Command × TagRead) :=
  event.reply?.bind fun reply => reply.tag?.map fun tag => (reply.command, tag)

/-- The number of tags that is set or reported. -/
def tagCount? : SessionEvent → Option UInt16
  | setTagCount count => some count
  | event => event.said? .getInventoryBufferTagCount count?

theorem error?_dispatch {frame : Frame} {command : Command} {error : DeviceError} :
    (dispatch frame).error? = some (command, error) ↔
      command.onWire = true ∧ frame.command = command.code ∧
        Response.decode command frame.payload = .error error := by
  constructor
  · intro h
    obtain ⟨reply, hreply, herror⟩ := Option.bind_eq_some_iff.mp h
    have hresult := Reply.result_eq hreply
    have hwire := Reply.onWire_command hreply
    have hcode := (Reply.command_eq_iff hreply reply.command).mp rfl
    -- an error is the result of the one reply that a frame can carry
    obtain ⟨answered, result⟩ := reply
    cases result with
    | ok response => cases herror
    | error error =>
        cases herror
        exact ⟨hwire, hcode, hresult.symm⟩
  · rintro ⟨hwire, hcode, hdecode⟩
    rw [error?, reply?, Reply.ofFrame?_of_code hwire hcode, hdecode]
    rfl

theorem tag?_dispatch {frame : Frame} {command : Command} {tag : TagRead} :
    (dispatch frame).tag? = some (command, tag) ↔
      frame.command = command.code ∧
        (command = .read ∧ readRecord? frame.payload = some tag ∨
          command.readsBuffer = true ∧ bufferRecord? frame.payload = some tag) := by
  constructor
  · intro h
    obtain ⟨reply, hreply, htag⟩ := Option.bind_eq_some_iff.mp h
    have hcode := (Reply.command_eq_iff hreply reply.command).mp rfl
    have hresult := Reply.result_eq hreply
    obtain ⟨answered, result⟩ := reply
    cases result with
    | error error => cases htag
    | ok response =>
        -- only two layouts hold a tag
        have hlayout := Response.layout_of_decode hresult.symm
        cases response with
        | readTag tag =>
            cases htag
            exact ⟨hcode, .inl (Response.layout_readTag_iff.mp hlayout)⟩
        | bufferedTag tag =>
            cases htag
            exact ⟨hcode, .inr (Response.layout_bufferedTag_iff.mp hlayout)⟩
        | _ => cases htag
  · rintro ⟨hcode, ⟨rfl, hread⟩ | ⟨hreads, hread⟩⟩
    · rw [tag?, reply?, Reply.ofFrame?_of_code rfl hcode,
        Response.decode_of_layout (.readTag hread)]
      rfl
    · have hwire : command.onWire = true := by
        cases command <;> first | rfl | cases hreads
      rw [tag?, reply?, Reply.ofFrame?_of_code hwire hcode,
        Response.decode_of_layout (.bufferedTag hreads hread)]
      rfl

@[simp] def takesError : SessionEvent → Bool
  | takeLastError => true
  | dispatch _ | setTagCount _ | takeTagReads => false

@[simp] def takesTags : SessionEvent → Bool
  | takeTagReads => true
  | dispatch _ | setTagCount _ | takeLastError => false

end SessionEvent

/-- No command of the wire has the code of the frame. -/
def Frame.Foreign (frame : Frame) : Prop :=
  ∀ command : Command, command.onWire = true → frame.command ≠ command.code

/-- A frame is foreign, or it answers a command of the wire. -/
theorem Frame.foreign_or_answers (frame : Frame) :
    frame.Foreign ∨
      ∃ command : Command, command.onWire = true ∧ frame.command = command.code := by
  by_cases h : ∃ command : Command, command.onWire = true ∧ frame.command = command.code
  · exact .inr h
  · refine .inl ?_
    intro command hwire hcode
    exact h ⟨command, hwire, hcode⟩

namespace Session

/-! ## What a frame does -/

theorem applyFrame_of_foreign {frame : Frame} (h : frame.Foreign) (session : Session) :
    session.applyFrame frame = session := by
  rw [applyFrame, Reply.ofFrame?_eq_none h]

theorem applyFrame_of_error {frame : Frame} {command : Command} {error : DeviceError}
    (hwire : command.onWire = true) (hcode : frame.command = command.code)
    (herror : Response.decode command frame.payload = .error error) (session : Session) :
    session.applyFrame frame =
      { session with failed := true, lastError := some (command, error) } := by
  rw [applyFrame, Reply.ofFrame?_of_code hwire hcode, herror]
  rfl

theorem applyFrame_of_layout {frame : Frame} {command : Command} {response : Response}
    (hwire : command.onWire = true) (hcode : frame.command = command.code)
    (h : Response.Layout command frame.payload response) (session : Session) :
    session.applyFrame frame = session.record command response := by
  rw [applyFrame, Reply.ofFrame?_of_code hwire hcode, Response.decode_of_layout h]
  rfl

/-! ## Parts that follow one command -/

/-- A part of the session follows the responses to one command. -/
structure Reports {α β : Type} (field : Session → β) (command : Command)
    (read : List UInt8 → Option α) (make : α → Response) (value : α → β) : Prop where
  onWire : command.onWire = true
  layout_iff : ∀ other payload said, Response.Layout other payload (make said) ↔
    other = command ∧ read payload = some said
  record_make : ∀ session said, field (record session command (make said)) = value said
  record_other : ∀ session other response, (∀ said, response ≠ make said) →
    field (record session other response) = field session
  /-- Neither the errors nor the tags belong to it. -/
  apart : ∀ session failed error tags,
    field { session with failed := failed, lastError := error, tagReads := tags } = field session

theorem Reports.applyFrame {α β : Type} {field : Session → β} {command : Command}
    {read : List UInt8 → Option α} {make : α → Response} {value : α → β}
    (h : Reports field command read make value) (session : Session) (frame : Frame) :
    field (session.applyFrame frame) =
      (((SessionEvent.dispatch frame).said? command read).map value).getD (field session) := by
  cases hsaid : (SessionEvent.dispatch frame).said? command read with
  | some said =>
      obtain ⟨hcode, hread⟩ := SessionEvent.said?_dispatch.mp hsaid
      have hlayout := (h.layout_iff command frame.payload said).mpr ⟨rfl, hread⟩
      rw [applyFrame_of_layout h.onWire hcode hlayout, h.record_make]
      rfl
  | none =>
      -- nothing was said: the frame is foreign, an error, or about another part
      show field (session.applyFrame frame) = field session
      rcases frame.foreign_or_answers with hforeign | ⟨other, hwire, hcode⟩
      · rw [applyFrame_of_foreign hforeign]
      cases hdecode : Response.decode other frame.payload with
      | error error =>
          rw [applyFrame_of_error hwire hcode hdecode]
          exact h.apart session true _ session.tagReads
      | ok response =>
          have hlayout := Response.layout_of_decode hdecode
          rw [applyFrame_of_layout hwire hcode hlayout]
          apply h.record_other
          -- a response that sets the part would have been read from the payload
          rintro said rfl
          obtain ⟨rfl, hread⟩ := (h.layout_iff other frame.payload said).mp hlayout
          rw [SessionEvent.said?_dispatch.mpr ⟨hcode, hread⟩] at hsaid
          cases hsaid

/-- The region, and the first and the last frequency in it. -/
def band (session : Session) : UInt8 × UInt8 × UInt8 :=
  (session.settings.region, session.settings.startFrequency, session.settings.endFrequency)

theorem reports_band :
    Reports band .getFrequencyRegion band?
      (fun said => .frequencyRegion said.1 said.2.1 said.2.2) id where
  onWire := rfl
  layout_iff := by
    intro other payload said
    constructor
    · intro h
      cases h with
      | acknowledged rest hdone => cases Command.acknowledges_of_acknowledgement? hdone
      | frequencyRegion => exact ⟨rfl, rfl⟩
    · rintro ⟨rfl, hread⟩
      unfold band? at hread
      split at hread
      · cases hread
        exact .frequencyRegion _ _ _
      · cases hread
  record_make _ _ := rfl
  record_other := by
    intro session other response h
    cases response with
    | frequencyRegion region first last => exact absurd rfl (h (region, first, last))
    | _ => rfl
  apart _ _ _ _ := rfl

theorem reports_powers :
    Reports (fun session => session.settings.powers) .getOutputPower Powers.ofList?
      .outputPower id where
  onWire := rfl
  layout_iff := by
    intro other payload said
    constructor
    · intro h
      cases h with
      | acknowledged rest hdone => cases Command.acknowledges_of_acknowledgement? hdone
      | outputPower hread => exact ⟨rfl, hread⟩
    · rintro ⟨rfl, hread⟩
      exact .outputPower hread
  record_make _ _ := rfl
  record_other := by
    intro session other response h
    cases response with
    | outputPower powers => exact absurd rfl (h powers)
    | _ => rfl
  apart _ _ _ _ := rfl

theorem reports_firmware :
    Reports firmware .getFirmwareVersion firmware?
      (fun said => .firmwareVersion said.1 said.2) some where
  onWire := rfl
  layout_iff := by
    intro other payload said
    constructor
    · intro h
      cases h with
      | acknowledged rest hdone => cases Command.acknowledges_of_acknowledgement? hdone
      | firmwareVersion => exact ⟨rfl, rfl⟩
    · rintro ⟨rfl, hread⟩
      unfold firmware? at hread
      split at hread
      · cases hread
        exact .firmwareVersion _ _
      · cases hread
  record_make _ _ := rfl
  record_other := by
    intro session other response h
    cases response with
    | firmwareVersion major minor => exact absurd rfl (h (major, minor))
    | _ => rfl
  apart _ _ _ _ := rfl

theorem reports_workAntenna :
    Reports workAntenna .getWorkAntenna antenna? .workAntenna some where
  onWire := rfl
  layout_iff := by
    intro other payload said
    constructor
    · intro h
      cases h with
      | acknowledged rest hdone => cases Command.acknowledges_of_acknowledgement? hdone
      | workAntenna => exact ⟨rfl, Antenna.ofCode?_code said⟩
    · rintro ⟨rfl, hread⟩
      unfold antenna? at hread
      split at hread
      · rw [← Antenna.code_of_ofCode? hread]
        exact .workAntenna said
      · cases hread
  record_make _ _ := rfl
  record_other := by
    intro session other response h
    cases response with
    | workAntenna antenna => exact absurd rfl (h antenna)
    | _ => rfl
  apart _ _ _ _ := rfl

theorem reports_lastInventory :
    Reports lastInventory .inventory inventorySummary? .inventoryDone some where
  onWire := rfl
  layout_iff := by
    intro other payload said
    constructor
    · intro h
      cases h with
      | acknowledged rest hdone => cases Command.acknowledges_of_acknowledgement? hdone
      | inventoryDone hread => exact ⟨rfl, hread⟩
    · rintro ⟨rfl, hread⟩
      exact .inventoryDone hread
  record_make _ _ := rfl
  record_other := by
    intro session other response h
    cases response with
    | inventoryDone summary => exact absurd rfl (h summary)
    | _ => rfl
  apart _ _ _ _ := rfl

theorem reports_tagCount :
    Reports tagCount .getInventoryBufferTagCount count? .bufferTagCount id where
  onWire := rfl
  layout_iff := by
    intro other payload said
    constructor
    · intro h
      cases h with
      | acknowledged rest hdone => cases Command.acknowledges_of_acknowledgement? hdone
      | bufferTagCount => exact ⟨rfl, rfl⟩
    · rintro ⟨rfl, hread⟩
      unfold count? at hread
      split at hread
      · cases hread
        exact .bufferTagCount _ _
      · cases hread
  record_make _ _ := rfl
  record_other := by
    intro session other response h
    cases response with
    | bufferTagCount count => exact absurd rfl (h count)
    | _ => rfl
  apart _ _ _ _ := rfl

/-! ## The last event that says something -/

/-- What one event does to a field, the last one that concerns it has done. -/
theorem field_afterAll {β : Type} {field : Session → β} {news : SessionEvent → Option β}
    (h : ∀ session event, field (after session event) = (news event).getD (field session))
    (session : Session) (events : List SessionEvent) :
    field (session.afterAll events) = (events.filterMap news).getLastD (field session) := by
  induction events using List.reverseRec with
  | nil => rfl
  | append_singleton events event ih =>
      rw [afterAll_concat, h, List.filterMap_append]
      cases hnews : news event with
      | none => simpa [hnews] using ih
      | some value => simp [hnews]

section

variable {α β : Type} {field : Session → β} {command : Command} {read : List UInt8 → Option α}
  {make : α → Response}

/-- What one event does to a part of the session that is not set by a call. -/
theorem Reports.after {value : α → β} (h : Reports field command read make value)
    (hset : ∀ session count, field (setTagCount session count) = field session)
    (session : Session) (event : SessionEvent) :
    field (session.after event) =
      ((event.said? command read).map value).getD (field session) := by
  cases event with
  | dispatch frame => exact h.applyFrame session frame
  | setTagCount count => exact hset session count
  | takeLastError => exact h.apart session session.failed none session.tagReads
  | takeTagReads => exact h.apart session session.failed session.lastError []

/-- Such a part is what its command said last. -/
theorem Reports.getLastD {make : β → Response} {read : List UInt8 → Option β}
    (h : Reports field command read make id)
    (hset : ∀ session count, field (setTagCount session count) = field session)
    (session : Session) (events : List SessionEvent) :
    field (session.afterAll events) =
      (events.filterMap (SessionEvent.said? command read)).getLastD (field session) := by
  refine (field_afterAll (h.after hset) session events).trans ?_
  simp only [Option.map_id_apply]

/-- Where nothing was known at first, nothing is known as long as nothing was said. -/
theorem Reports.getLast? {field : Session → Option α} (h : Reports field command read make some)
    (hset : ∀ session count, field (setTagCount session count) = field session)
    {session : Session} (hnone : field session = none) (events : List SessionEvent) :
    field (session.afterAll events) =
      (events.filterMap (SessionEvent.said? command read)).getLast? := by
  refine (field_afterAll (h.after hset) session events).trans ?_
  rw [← List.map_filterMap, List.getLastD_eq_getLast?, List.getLast?_map, hnone]
  cases (events.filterMap (SessionEvent.said? command read)).getLast? <;> rfl

end

theorem tagCount_after (session : Session) (event : SessionEvent) :
    (session.after event).tagCount = event.tagCount?.getD session.tagCount := by
  cases event with
  | dispatch frame =>
      refine (reports_tagCount.applyFrame session frame).trans ?_
      rw [Option.map_id_fun, id]
      rfl
  | setTagCount count => rfl
  | takeLastError => rfl
  | takeTagReads => rfl

theorem failed_after (session : Session) (event : SessionEvent) :
    (session.after event).failed =
      (event.reply?.map fun reply => reply.error?.isSome).getD session.failed := by
  cases event with
  | dispatch frame =>
      show (session.applyFrame frame).failed = _
      rw [applyFrame, SessionEvent.reply?]
      cases Reply.ofFrame? frame with
      | none => rfl
      | some reply =>
          obtain ⟨command, result⟩ := reply
          cases result with
          | error error => rfl
          | ok response => cases response <;> rfl
  | setTagCount count => rfl
  | takeLastError => rfl
  | takeTagReads => rfl

/-! ## What is fetched -/

theorem lastError_after (session : Session) (event : SessionEvent) :
    (session.after event).lastError =
      if event.takesError then none else event.error?.or session.lastError := by
  cases event with
  | dispatch frame =>
      show (session.applyFrame frame).lastError = _
      rw [applyFrame, SessionEvent.error?, SessionEvent.reply?]
      cases Reply.ofFrame? frame with
      | none => rfl
      | some reply =>
          obtain ⟨command, result⟩ := reply
          cases result with
          | error error => rfl
          | ok response => cases response <;> rfl
  | setTagCount count => rfl
  | takeLastError => rfl
  | takeTagReads => rfl

theorem tagReads_after (session : Session) (event : SessionEvent) :
    (session.after event).tagReads =
      if event.takesTags then [] else session.tagReads ++ event.tag?.toList := by
  cases event with
  | dispatch frame =>
      show (session.applyFrame frame).tagReads = _
      rw [applyFrame, SessionEvent.tag?, SessionEvent.reply?]
      cases Reply.ofFrame? frame with
      | none => exact (List.append_nil _).symm
      | some reply =>
          obtain ⟨command, result⟩ := reply
          cases result with
          | error error => exact (List.append_nil _).symm
          | ok response =>
              -- two responses bring a tag, under the command that they answer
              cases response with
              | readTag tag | bufferedTag tag => rfl
              | _ => exact (List.append_nil _).symm
  | setTagCount count => exact (List.append_nil _).symm
  | takeLastError => exact (List.append_nil _).symm
  | takeTagReads => rfl

/-- The newest error that nobody has fetched. -/
theorem lastError_afterAll (events : List SessionEvent) :
    (initial.afterAll events).lastError =
      ((events.rtakeWhile fun event => !event.takesError).filterMap
        SessionEvent.error?).getLast? := by
  induction events using List.reverseRec with
  | nil => rfl
  | append_singleton events event ih =>
      rw [afterAll_concat, lastError_after, ih, List.rtakeWhile_concat]
      cases htakes : event.takesError with
      | true => rfl
      | false =>
          simp only [Bool.not_false, if_true, List.filterMap_append]
          cases herror : event.error? with
          | none => simp [herror]
          | some error => simp [herror]

/-- The records that nobody has fetched, in the order in which they came. -/
theorem tagReads_afterAll (events : List SessionEvent) :
    (initial.afterAll events).tagReads =
      (events.rtakeWhile fun event => !event.takesTags).filterMap SessionEvent.tag? := by
  induction events using List.reverseRec with
  | nil => rfl
  | append_singleton events event ih =>
      rw [afterAll_concat, tagReads_after, ih, List.rtakeWhile_concat]
      cases htakes : event.takesTags with
      | true => rfl
      | false =>
          simp only [Bool.not_false, if_true, List.filterMap_append]
          cases htag : event.tag? with
          | none => simp [htag]
          | some tag => simp [htag]

/-- Frames that say nothing may be left out. -/
theorem afterAll_filter {kept : SessionEvent → Bool} (session : Session)
    {events : List SessionEvent}
    (h : ∀ event ∈ events, kept event = false → ∃ frame, event = .dispatch frame ∧ frame.Foreign) :
    session.afterAll (events.filter kept) = session.afterAll events := by
  induction events using List.reverseRec with
  | nil => rfl
  | append_singleton events event ih =>
      have hevents := ih fun other hother => h other (List.mem_append_left _ hother)
      rw [List.filter_append, afterAll_concat]
      cases hkept : kept event with
      | true => simp [hkept, afterAll_concat, hevents]
      | false =>
          obtain ⟨frame, rfl, hforeign⟩ := h event (by simp) hkept
          have hsame (session : Session) : session.after (.dispatch frame) = session :=
            applyFrame_of_foreign hforeign session
          simp [hkept, hsame, hevents]

/-- A frame that is reported as an error changes nothing but the errors. -/
theorem after_of_error? {frame : Frame} {error : Command × DeviceError}
    (h : (SessionEvent.dispatch frame).error? = some error) (session : Session) :
    session.after (.dispatch frame) = { session with failed := true, lastError := some error } := by
  obtain ⟨⟨command, result⟩, hreply, herror⟩ := Option.bind_eq_some_iff.mp h
  show session.applyFrame frame = _
  rw [applyFrame, show Reply.ofFrame? frame = _ from hreply]
  cases result with
  | ok response => cases herror
  | error error =>
      cases herror
      rfl

/-- **What a session knows is what was said last.**  After any frames, with calls between them,
a new session has

* the band, the powers, the firmware, the antenna and the summary of the last response of their
  command that has the layout of this command, and their first values where there was none;
* the number of tags that was set or reported last;
* the mark of an error exactly when the last frame of a command of the wire was one.

The powers are one for all antennas, or one for each.  Fetching gives the newest error, and the
records with their commands in the order in which they came, since the last fetch.  An error is
a frame of a command of the wire whose payload is not decoded, and a record is one of a direct
read or of a buffer read.

A frame that is reported as an error changes nothing but the errors.  A frame that no command of
the wire has the code of changes nothing, and leaving any of them out does not change the
session. -/
theorem fields_of_history :
    (∀ events, let session := initial.afterAll events
      session.band = (events.filterMap
        (SessionEvent.said? .getFrequencyRegion band?)).getLastD (Region.etsi.code, 0, 0) ∧
      session.settings.powers = (events.filterMap
        (SessionEvent.said? .getOutputPower Powers.ofList?)).getLastD (.uniform 0) ∧
      session.firmware =
        (events.filterMap (SessionEvent.said? .getFirmwareVersion firmware?)).getLast? ∧
      session.workAntenna =
        (events.filterMap (SessionEvent.said? .getWorkAntenna antenna?)).getLast? ∧
      session.lastInventory =
        (events.filterMap (SessionEvent.said? .inventory inventorySummary?)).getLast? ∧
      session.tagCount = (events.filterMap SessionEvent.tagCount?).getLastD 0 ∧
      session.failed = (events.filterMap SessionEvent.reply?).getLast?.any
        (fun reply => reply.error?.isSome) ∧
      session.takeLastError.1 = ((events.rtakeWhile fun event => !event.takesError).filterMap
        SessionEvent.error?).getLast? ∧
      session.takeTagReads.1 =
        (events.rtakeWhile fun event => !event.takesTags).filterMap SessionEvent.tag?) ∧
    (∀ payload powers, Powers.ofList? payload = some powers ↔
      (∃ power, payload = [power] ∧ powers = .uniform power) ∨ payload = powers.toList) ∧
    (∀ (frame : Frame) (command : Command),
      (command.onWire = true → frame.command = command.code →
        (SessionEvent.dispatch frame).reply? =
          some ⟨command, Response.decode command frame.payload⟩) ∧
      (∀ error, (SessionEvent.dispatch frame).error? = some (command, error) ↔
        command.onWire = true ∧ frame.command = command.code ∧
          Response.decode command frame.payload = .error error) ∧
      ∀ tag, (SessionEvent.dispatch frame).tag? = some (command, tag) ↔
        frame.command = command.code ∧
          (command = .read ∧ readRecord? frame.payload = some tag ∨
            command.readsBuffer = true ∧ bufferRecord? frame.payload = some tag)) ∧
    (∀ (session : Session) (frame : Frame) (error : Command × DeviceError),
      (SessionEvent.dispatch frame).error? = some error → session.after (.dispatch frame) =
        { session with failed := true, lastError := some error }) ∧
    (∀ (session : Session) (frame : Frame), frame.Foreign →
      (SessionEvent.dispatch frame).reply? = none ∧ session.after (.dispatch frame) = session) ∧
    ∀ (session : Session) (events : List SessionEvent) (kept : SessionEvent → Bool),
      (∀ event ∈ events, kept event = false →
        ∃ frame, event = .dispatch frame ∧ frame.Foreign) →
      session.afterAll (events.filter kept) = session.afterAll events := by
  refine ⟨?_, fun _ _ => Powers.ofList?_eq_some_iff, ?_, ?_, ?_, ?_⟩
  · intro events session
    refine ⟨reports_band.getLastD (fun _ _ => rfl) initial events,
      reports_powers.getLastD (fun _ _ => rfl) initial events,
      reports_firmware.getLast? (fun _ _ => rfl) rfl events,
      reports_workAntenna.getLast? (fun _ _ => rfl) rfl events,
      reports_lastInventory.getLast? (fun _ _ => rfl) rfl events,
      field_afterAll tagCount_after initial events, ?_,
      lastError_afterAll events, tagReads_afterAll events⟩
    -- nothing had failed at first, and no reply has failed when there is none
    refine (field_afterAll failed_after initial events).trans ?_
    rw [← List.map_filterMap, List.getLastD_eq_getLast?, List.getLast?_map]
    cases (events.filterMap SessionEvent.reply?).getLast? <;> rfl
  · intro frame command
    exact ⟨Reply.ofFrame?_of_code, fun _ => SessionEvent.error?_dispatch,
      fun _ => SessionEvent.tag?_dispatch⟩
  · intro session frame error h
    exact after_of_error? h session
  · intro session frame h
    exact ⟨Reply.ofFrame?_eq_none h, applyFrame_of_foreign h session⟩
  · intro session events kept h
    exact afterAll_filter session h

/-- A frame with the code that never travels. -/
private def neverSent : Frame :=
  .make broadcastAddress Command.allTagsReceived.code [0x01]

private theorem foreign_neverSent : neverSent.Foreign := by
  intro command hwire hcode
  have hcommand : command = .allTagsReceived := Command.code_injective hcode.symm
  rw [hcommand] at hwire
  cases hwire

/-- The region is asked for twice, and the second answer is an error; a tag is read, fetched and
read again, and the number of tags is set behind an answer about it. -/
private def eventful : List SessionEvent :=
  [.dispatch (.make broadcastAddress Command.getFrequencyRegion.code [0x01, 0x05, 0x09]),
    .dispatch (.make broadcastAddress Command.getInventoryBufferTagCount.code [0x00, 0x02]),
    .dispatch (.make broadcastAddress Command.read.code
      (encodeReadRecord 1 0x3000 0x1122 [0xE2, 0x00] [] 0x05 1)),
    .takeTagReads, .setTagCount 7, .dispatch neverSent,
    .dispatch (.make broadcastAddress Command.read.code
      (encodeReadRecord 1 0x3000 0x1122 [0xE2, 0x00] [] 0x05 2)),
    .dispatch (.make broadcastAddress Command.getFrequencyRegion.code [0x11])]

theorem fields_of_eventful :
    let session := initial.afterAll eventful
    session.band = (0x01, 0x05, 0x09) ∧ session.tagCount = 7 ∧ session.failed = true ∧
      session.takeLastError.1 = some (.getFrequencyRegion, ⟨0x11⟩) ∧
      session.takeTagReads.1.map (fun read => (read.1, read.2.readCount)) = [(.read, 2)] ∧
      initial.afterAll (eventful.filter fun event => event ≠ .dispatch neverSent) = session := by
  intro session
  obtain ⟨hfields, -, -, -, -, hfilter⟩ := fields_of_history
  obtain ⟨hband, -, -, -, -, hcount, hfailed, herror, htags⟩ := hfields eventful
  refine ⟨?_, ?_, ?_, ?_, ?_, hfilter initial eventful _ ?_⟩
  · rw [hband]
    decide +kernel
  · rw [hcount]
    decide +kernel
  · rw [hfailed]
    decide +kernel
  · rw [herror]
    decide +kernel
  · rw [htags]
    decide +kernel
  · intro event _ hkept
    exact ⟨neverSent, by simpa using hkept, foreign_neverSent⟩

end Session

end TagInventory
