import TagInventory.Proofs.Access.Stream
import TagInventory.Proofs.Engine.Contents

/-!
# No byte stops the reader thread

Whatever the reader sends is handled by one thread, which would end with the first access that is
out of range.  The bytes themselves lead to no such access (`Receiver.pushAt_eq`).  What is left is
the number of times that a tag was seen, which has 32 bits: it is the only thing that can give way,
and it gives way exactly when a tag is recorded 2³² times since occurrences were counted anew
(`System.receive_safe`).

## Strategy

* `TagViews.recordAt` counts with a check.  It records the tag where there is room for one more,
  and is a breach otherwise.
* `Core.Counting`: the invariant between two bytes.  The views are those of a history in which no
  tag was recorded too often, so that the numbers in them are the true ones.
* A byte that completes the record of a tag makes the history longer by one record.  The induction
  over the bytes stops at the first one that has no room.
-/

namespace TagInventory

/-! ## Recording -/

namespace TagViews

/-- The observation that stands for a tag from now on, counted with a check. -/
def observedAt (views : TagViews) (read : TagRead) : Checked TagRead :=
  match views.occurrences.find? read.key with
  | some known => return { known with seen := ← increment known.seen }
  | none => return { read with seen := 1 }

def recordAt (views : TagViews) (read : TagRead) : Checked TagViews := do
  let tag ← views.observedAt read
  return { views with
    occurrences := views.occurrences.insert read.key tag
    accumulated := views.accumulated.insert read.key tag
    pending := views.pending.insert read.key tag }

/-- There is room for one more record of a tag. -/
def HasRoom (views : TagViews) (read : TagRead) : Prop :=
  (views.occurrences.seen read.key).toNat + 1 < UInt32.size

theorem observedAt_of_room {views : TagViews} {read : TagRead} (h : views.HasRoom read) :
    views.observedAt read = pure (views.observed read) := by
  rw [HasRoom, View.seen] at h
  rw [observedAt, observed]
  cases hfind : views.occurrences.find? read.key with
  | none => rfl
  | some known =>
      rw [hfind] at h
      have hroom : known.seen.toNat + 1 < UInt32.size := h
      simp only [increment_of_lt hroom]
      rfl

theorem observedAt_of_full {views : TagViews} {read : TagRead} (h : ¬views.HasRoom read) :
    views.observedAt read = throw .counter := by
  rw [HasRoom, View.seen] at h
  rw [observedAt]
  cases hfind : views.occurrences.find? read.key with
  | none =>
      rw [hfind] at h
      exact absurd (by decide) h
  | some known =>
      rw [hfind] at h
      have hfull : ¬known.seen.toNat + 1 < UInt32.size := h
      simp only [increment_of_full hfull]
      rfl

theorem recordAt_of_room {views : TagViews} {read : TagRead} (h : views.HasRoom read) :
    views.recordAt read = pure (views.record read) := by
  rw [recordAt, observedAt_of_room h]
  rfl

theorem recordAt_of_full {views : TagViews} {read : TagRead} (h : ¬views.HasRoom read) :
    views.recordAt read = throw .counter := by
  rw [recordAt, observedAt_of_full h]
  rfl

end TagViews

/-! ## One byte -/

/-- Takes over one decoded tag. -/
def Intake.recordTagAt (intake : Intake) (command : Command) (read : TagRead) :
    Checked Intake := do
  let tags ← intake.core.tags.recordAt read
  let intake := { intake with core := { intake.core with tags := tags } }
  if command.readsBuffer ∧ read.announced ≠ 0 ∧ read.announced.toNat = tags.received then
    return intake.signal .allTagsReceived .completed
  return intake

theorem Intake.recordTagAt_of_room {intake : Intake} {read : TagRead}
    (h : intake.core.tags.HasRoom read) (command : Command) :
    intake.recordTagAt command read = pure (intake.recordTag command read) := by
  rw [recordTagAt, TagViews.recordAt_of_room h, recordTag]
  simp only [pure_bind]
  split <;> rfl

theorem Intake.recordTagAt_of_full {intake : Intake} {read : TagRead}
    (h : ¬intake.core.tags.HasRoom read) (command : Command) :
    intake.recordTagAt command read = throw .counter := by
  rw [recordTagAt, TagViews.recordAt_of_full h]
  rfl

namespace Core

/-- Takes over a byte. -/
def receiveAt (core : Core) (byte : UInt8) : Checked Core := do
  let (answered, receiver) ← core.receiver.pushAt byte
  let core := { core with receiver := receiver }
  let some command := answered | return core
  let (reads, session) := core.session.takeTagReads
  let intake ← reads.foldlM (fun intake entry => intake.recordTagAt entry.1 entry.2)
    (⟨core.setSession session, []⟩ : Intake)
  let (error, session) := intake.core.session.takeLastError
  return ({ intake with core := intake.core.setSession session }.answer command error).core

def receiveAllAt (core : Core) (bytes : List UInt8) : Checked Core :=
  bytes.foldlM receiveAt core

/-- The records of some tags go well, or one of them finds no room. -/
theorem foldlM_recordTagAt (reads : List (Command × TagRead)) (intake : Intake) :
    reads.foldlM (fun intake entry => intake.recordTagAt entry.1 entry.2) intake =
        pure (reads.foldl (fun intake entry => intake.recordTag entry.1 entry.2) intake) ∨
      reads.foldlM (fun intake entry => intake.recordTagAt entry.1 entry.2) intake =
        throw .counter := by
  induction reads generalizing intake with
  | nil => exact .inl rfl
  | cons entry reads ih =>
      rw [List.foldlM_cons, List.foldl_cons]
      by_cases hroom : intake.core.tags.HasRoom entry.2
      · rw [Intake.recordTagAt_of_room hroom, pure_bind]
        exact ih _
      · rw [Intake.recordTagAt_of_full hroom]
        exact .inr rfl

/-- Nothing but a counter can give way, whatever the state of the engine. -/
theorem receiveAt_case (core : Core) (byte : UInt8) :
    core.receiveAt byte = pure (core.receive byte) ∨ core.receiveAt byte = throw .counter := by
  rw [receiveAt, Receiver.pushAt_eq, receive, intake]
  cases core.receiver.replyTo? byte with
  | none => exact .inl rfl
  | some reply =>
      simp only [pure_bind, Option.map_some]
      rcases foldlM_recordTagAt _ _ with hreads | hreads
      · rw [hreads]
        exact .inl rfl
      · rw [hreads]
        exact .inr rfl

theorem receiveAllAt_case (core : Core) (bytes : List UInt8) :
    core.receiveAllAt bytes = pure (core.receiveAll bytes) ∨
      core.receiveAllAt bytes = throw .counter := by
  induction bytes generalizing core with
  | nil => exact .inl rfl
  | cons byte bytes ih =>
      rw [receiveAllAt, List.foldlM_cons]
      rcases core.receiveAt_case byte with hbyte | hbyte
      · rw [hbyte, pure_bind]
        exact ih (core.receive byte)
      · rw [hbyte]
        exact .inr rfl

end Core

/-! ## Counting -/

/-- The tags that wait to be fetched when a byte has completed a reply. -/
theorem Core.tagReads_push {core : Core} (hdrained : core.session.Drained) {byte : UInt8}
    {reply : Reply} (h : core.receiver.replyTo? byte = some reply) :
    (core.receiver.push byte).session.tagReads =
      reply.tag?.toList.map fun tag => (reply.command, tag) := by
  have hreads : core.receiver.session.tagReads = [] := hdrained.tagReads_eq
  rw [Receiver.session_push_of_some h]
  obtain ⟨command, result⟩ := reply
  cases result with
  | error error => exact hreads
  | ok response =>
      cases response with
      | readTag tag | bufferedTag tag =>
          show core.receiver.session.tagReads ++ _ = _
          rw [hreads]
          rfl
      | _ => exact hreads

/-- A byte records the tag of the reply that it completes, if there is one, and counts it. -/
theorem Core.receiveAt_of_room {core : Core} (hdrained : core.session.Drained) {byte : UInt8}
    (hroom : ∀ tag, (core.receiver.replyTo? byte).bind Reply.tag? = some tag →
      core.tags.HasRoom tag) : core.receiveAt byte = pure (core.receive byte) := by
  rw [receiveAt, Receiver.pushAt_eq, receive, intake]
  cases hreply : core.receiver.replyTo? byte with
  | none => rfl
  | some reply =>
      have hreads := tagReads_push hdrained hreply
      simp only [pure_bind, Option.map_some, session, Session.takeTagReads, hreads]
      cases htag : reply.tag? with
      | none => rfl
      | some tag =>
          have hone : core.tags.HasRoom tag := hroom tag (by rw [hreply, Option.bind_some, htag])
          simp only [Option.toList_some, List.map_cons, List.map_nil, List.foldlM_cons,
            List.foldlM_nil, List.foldl_cons, List.foldl_nil]
          rw [Intake.recordTagAt_of_room hone]
          rfl

theorem Core.receiveAt_of_full {core : Core} (hdrained : core.session.Drained) {byte : UInt8}
    {tag : TagRead} (h : (core.receiver.replyTo? byte).bind Reply.tag? = some tag)
    (hfull : ¬core.tags.HasRoom tag) : core.receiveAt byte = throw .counter := by
  obtain ⟨reply, hreply, htag⟩ := Option.bind_eq_some_iff.mp h
  have hreads := tagReads_push hdrained hreply
  rw [receiveAt, Receiver.pushAt_eq, hreply]
  simp only [pure_bind, Option.map_some, session, Session.takeTagReads, hreads, htag,
    Option.toList_some, List.map_cons, List.map_nil, List.foldlM_cons, List.foldlM_nil]
  rw [Intake.recordTagAt_of_full hfull]
  rfl

/-- How often an EPC was recorded since occurrences were counted anew. -/
def timesRecorded (history : List TagOperation) (epc : List UInt8) : Nat :=
  (recordedSince TagOperation.restartsCounts history).count epc

theorem timesRecorded_concat_record (history : List TagOperation) (tag : TagRead)
    (epc : List UInt8) :
    timesRecorded (history ++ [.record tag]) epc =
      timesRecorded history epc + if tag.epc = epc then 1 else 0 := by
  rw [timesRecorded, timesRecorded, recordedSince_concat, TagOperation.restartsCounts,
    if_neg Bool.false_ne_true, List.count_append]
  show _ + [tag.epc].count epc = _
  rw [List.count_singleton]
  simp only [beq_iff_eq]

theorem timesRecorded_le_append (history : List TagOperation) (tags : List TagRead)
    (epc : List UInt8) :
    timesRecorded history epc ≤ timesRecorded (history ++ tags.map .record) epc := by
  induction tags generalizing history with
  | nil => exact Nat.le_of_eq (by rw [List.map_nil, List.append_nil])
  | cons tag tags ih =>
      calc timesRecorded history epc
          ≤ timesRecorded (history ++ [.record tag]) epc := by
            rw [timesRecorded_concat_record]
            exact Nat.le_add_right ..
        _ ≤ timesRecorded (history ++ [.record tag] ++ tags.map .record) epc := ih _
        _ = timesRecorded (history ++ (tag :: tags).map .record) epc := by
            rw [List.map_cons, List.append_assoc, List.singleton_append]

theorem Receiver.repliesTo_congr {first second : Receiver} (h : first.buffer = second.buffer)
    (bytes : List UInt8) : first.repliesTo bytes = second.repliesTo bytes := by
  induction bytes generalizing first second with
  | nil => rfl
  | cons byte bytes ih =>
      have hfind : first.find byte = second.find byte := by
        rw [find, find, h]
      have hbuffer : (first.push byte).buffer = (second.push byte).buffer := by
        rw [push, push, hfind]
      rw [repliesTo, repliesTo, replyTo?, replyTo?, hfind, ih hbuffer]

namespace Core

/-- The tags that some bytes bring. -/
def tagsIn (core : Core) (bytes : List UInt8) : List TagRead :=
  (core.receiver.repliesTo bytes).filterMap Reply.tag?

theorem tagsIn_cons {core : Core} (hdrained : core.session.Drained) (byte : UInt8)
    (bytes : List UInt8) :
    core.tagsIn (byte :: bytes) =
      ((core.receiver.replyTo? byte).bind Reply.tag?).toList ++
        (core.receive byte).tagsIn bytes := by
  have hrest := Receiver.repliesTo_congr (buffer_receive hdrained byte) bytes
  rw [tagsIn, tagsIn, Receiver.repliesTo, List.filterMap_append, hrest]
  cases core.receiver.replyTo? byte with
  | none => rfl
  | some reply =>
      rw [Option.bind_some, Option.toList_some, List.filterMap_cons]
      cases reply.tag? <;> rfl

/-- The views are those of a history in which no EPC was recorded too often to be counted. -/
structure Counting (core : Core) (history : List TagOperation) : Prop where
  drained : core.session.Drained
  tags_eq : core.tags = TagViews.initial.afterAll history
  fits : ∀ epc, timesRecorded history epc < UInt32.size

namespace Counting

variable {core : Core} {history : List TagOperation}

/-- There is room for a tag as long as one more record can be counted. -/
theorem hasRoom_iff (h : core.Counting history) (tag : TagRead) :
    core.tags.HasRoom tag ↔ timesRecorded (history ++ [.record tag]) tag.epc < UInt32.size := by
  have hseen : (core.tags.occurrences.seen tag.key).toNat = timesRecorded history tag.epc := by
    rw [h.tags_eq]
    exact TagViews.toNat_seen_of_lt (h.fits tag.epc)
  rw [TagViews.HasRoom, hseen, timesRecorded_concat_record, if_pos rfl]

/-- A byte makes the history longer by the record of the tag that it brings. -/
theorem receive (h : core.Counting history) {byte : UInt8}
    (hfits : ∀ epc, timesRecorded (history ++ core.recordsOf byte) epc < UInt32.size) :
    (core.receive byte).Counting (history ++ core.recordsOf byte) where
  drained := drained_receive h.drained byte
  tags_eq := by rw [tags_receive h.drained, h.tags_eq, TagViews.afterAll_append]
  fits := hfits

theorem receiveAt_eq (h : core.Counting history) {byte : UInt8}
    (hfits : ∀ epc, timesRecorded (history ++ core.recordsOf byte) epc < UInt32.size) :
    core.receiveAt byte = pure (core.receive byte) := by
  refine receiveAt_of_room h.drained ?_
  intro tag htag
  rw [h.hasRoom_iff]
  have htimes := hfits tag.epc
  rwa [recordsOf, htag] at htimes

theorem receiveAt_full (h : core.Counting history) {byte : UInt8} {epc : List UInt8}
    (hfull : UInt32.size ≤ timesRecorded (history ++ core.recordsOf byte) epc) :
    core.receiveAt byte = throw .counter := by
  cases htag : (core.receiver.replyTo? byte).bind Reply.tag? with
  | none =>
      rw [recordsOf, htag, Option.toList_none, List.map_nil, List.append_nil] at hfull
      exact absurd (h.fits epc) (Nat.not_lt.mpr hfull)
  | some tag =>
      refine receiveAt_of_full h.drained htag ?_
      rw [recordsOf, htag] at hfull
      have hbefore := h.fits epc
      -- the only EPC with a record more is that of the tag
      have hepc : tag.epc = epc := by
        by_contra hother
        have hsame : timesRecorded (history ++ [.record tag]) epc = timesRecorded history epc := by
          rw [timesRecorded_concat_record, if_neg hother, Nat.add_zero]
        exact absurd (hsame ▸ hfull) (Nat.not_le.mpr hbefore)
      rw [h.hasRoom_iff, hepc]
      exact Nat.not_lt.mpr hfull

theorem append_tagsIn (h : core.Counting history) (byte : UInt8) (bytes : List UInt8) :
    history ++ (core.tagsIn (byte :: bytes)).map .record =
      history ++ core.recordsOf byte ++ ((core.receive byte).tagsIn bytes).map .record := by
  rw [tagsIn_cons h.drained, List.map_append, ← recordsOf, List.append_assoc]

/-- Some bytes are handled as long as every tag that they bring can be counted. -/
theorem receiveAllAt_eq (h : core.Counting history) {bytes : List UInt8}
    (hfits : ∀ epc, timesRecorded (history ++ (core.tagsIn bytes).map .record) epc < UInt32.size) :
    core.receiveAllAt bytes = pure (core.receiveAll bytes) := by
  induction bytes generalizing core history with
  | nil => rfl
  | cons byte bytes ih =>
      rw [h.append_tagsIn] at hfits
      have hbyte : ∀ epc, timesRecorded (history ++ core.recordsOf byte) epc < UInt32.size :=
        fun epc => Nat.lt_of_le_of_lt (timesRecorded_le_append _ _ epc) (hfits epc)
      rw [receiveAllAt, List.foldlM_cons, h.receiveAt_eq hbyte, pure_bind]
      exact ih (h.receive hbyte) hfits

theorem receiveAllAt_full (h : core.Counting history) {bytes : List UInt8} {epc : List UInt8}
    (hfull : UInt32.size ≤ timesRecorded (history ++ (core.tagsIn bytes).map .record) epc) :
    core.receiveAllAt bytes = throw .counter := by
  induction bytes generalizing core history with
  | nil =>
      rw [show core.tagsIn [] = [] from rfl, List.map_nil, List.append_nil] at hfull
      exact absurd (h.fits epc) (Nat.not_lt.mpr hfull)
  | cons byte bytes ih =>
      rw [h.append_tagsIn] at hfull
      rw [receiveAllAt, List.foldlM_cons]
      by_cases hbyte : ∀ epc, timesRecorded (history ++ core.recordsOf byte) epc < UInt32.size
      · rw [h.receiveAt_eq hbyte, pure_bind]
        exact ih (h.receive hbyte) hfull
      · -- the counter gives way with this byte already
        obtain ⟨other, hother⟩ := not_forall.mp hbyte
        rw [h.receiveAt_full (Nat.not_lt.mp hother)]
        rfl

end Counting

end Core

/-! ## Runs -/

namespace System

variable {config : EngineConfig} {connected : Bool} {actions : List Action} {system : System}
  {log : List Event}

theorem counting_run (hrun : (initial config connected).run actions = some (system, log))
    (hfits : ∀ epc,
      timesRecorded ((initial config connected).tagHistory actions) epc < UInt32.size) :
    system.core.Counting ((initial config connected).tagHistory actions) where
  drained := (Reachable.sound ⟨actions, log, hrun⟩).drained
  tags_eq := tags_run (sound_initial config connected) hrun
  fits := hfits

/-- **No byte stops the reader thread.**  After any run of an engine, and for any bytes that the
reader sends then:

* no access is out of range, and the bytes are handled as `Core.receiveAll` says, as long as no
  EPC was recorded 2³² times since occurrences were counted anew;
* once an EPC is recorded that often the counter of its tag gives way, and that is a breach;
* no other breach is possible, in whatever state the engine is. -/
theorem receive_safe (hrun : (initial config connected).run actions = some (system, log))
    (bytes : List UInt8) :
    let earlier := (initial config connected).tagHistory actions
    let history := earlier ++ (system.core.tagsIn bytes).map .record
    ((∀ epc, timesRecorded history epc < UInt32.size) →
        system.core.receiveAllAt bytes = .ok (system.core.receiveAll bytes)) ∧
      ((∀ epc, timesRecorded earlier epc < UInt32.size) →
        (∃ epc, UInt32.size ≤ timesRecorded history epc) →
          system.core.receiveAllAt bytes = .error .counter) ∧
      ∀ (core : Core) (breach : Breach), core.receiveAllAt bytes = .error breach →
        breach = .counter := by
  intro earlier history
  refine ⟨?_, ?_, ?_⟩
  · intro hfits
    have hearlier : ∀ epc, timesRecorded earlier epc < UInt32.size :=
      fun epc => Nat.lt_of_le_of_lt (timesRecorded_le_append _ _ epc) (hfits epc)
    exact (counting_run hrun hearlier).receiveAllAt_eq hfits
  · rintro hearlier ⟨epc, hfull⟩
    exact (counting_run hrun hearlier).receiveAllAt_full hfull
  · intro core breach hbreach
    rcases core.receiveAllAt_case bytes with hok | hcounter
    · rw [hok] at hbreach
      cases hbreach
    · rw [hcounter] at hbreach
      cases hbreach
      rfl

/-- A record of one tag, and two answers whose sizes are wrong: the first one announces more EPC
than there is, the second one more data, and both have a right checksum. -/
private def hostileBytes : List UInt8 :=
  (Frame.make broadcastAddress Command.read.code
      (encodeReadRecord 1 0x3000 0x1122 [0x0A] [] 0x05 1)).bytes ++
    (Frame.make broadcastAddress Command.getInventoryBuffer.code [0, 1, 0xFF, 0x30, 0]).bytes ++
    0xA0 :: 0x00 :: (Frame.make broadcastAddress Command.read.code [0, 1, 0xFF, 0xFF, 0, 0]).bytes

theorem receive_safe_of_hostileBytes :
    let system := initial .standard true
    system.run [] = some (system, []) ∧
      (system.core.tagsIn hostileBytes).map TagRead.epc = [[0x0A]] ∧
      system.core.receiveAllAt hostileBytes = .ok (system.core.receiveAll hostileBytes) := by
  intro system
  have hrun : system.run [] = some (system, []) := rfl
  have htags : system.core.tagsIn hostileBytes =
      [{ announced := 1, pc := 0x3000, epc := [0x0A], crc := 0x1122, antenna := 1,
         frequency := 4, readCount := 1 }] := by decide +kernel
  refine ⟨hrun, by rw [htags]; rfl, (receive_safe hrun hostileBytes).1 fun epc => ?_⟩
  -- one record, of whatever EPC, is not too many
  refine Nat.lt_of_le_of_lt (List.count_le_length ..) ?_
  rw [htags]
  decide

end System

end TagInventory
