import TagInventory.Proofs.Engine.Scene
import TagInventory.Proofs.Tag.Recording

/-!
# One poll from its first request to its last record

A cycle of one poll asks for an inventory, for the number of tags, and, unless there are
none, for the records.  Each request is answered by the reader of `Field.lean`, and the
records end the wait for all tags with the last of them, not before: the number of tags
received so far is the announced one only then (`Scene.records`).

`Scene.cycle` is the outcome: the views after the cycle are those that
`TagViews.Polled` describes, and the engine is ready for the next one.
-/

namespace TagInventory

namespace Core

variable {core : Core}

theorem Ready.frame (h : core.Ready) {frame : Frame} {reply : Reply}
    (hheader : frame.header = frameHeader) (hreply : Reply.ofFrame? frame = some reply) :
    (core.receiveAll frame.bytes).Ready := by
  rw [receiveAll_frame h.drained h.idle hheader hreply]
  exact { h with
    drained := Session.drained_drain _
    idle := ⟨waiting_of_short (Nat.zero_lt_succ _), List.not_mem_nil⟩
    waits := wellFormed_waitsAfter h.waits reply }

theorem Ready.release (h : core.Ready) (ticket : Ticket) : (core.release ticket).Ready :=
  { h with waits := h.waits.release ticket }

theorem Ready.setTags (h : core.Ready) (tags : TagViews) :
    Core.Ready { core with tags := tags } :=
  { h with }

/-- The engine goes on with other views. -/
structure Resumed (core : Core) (tags : TagViews) (core' : Core) : Prop where
  ready : core'.Ready
  tags_eq : core'.tags = tags
  pollCount_eq : core'.pollCount = core.pollCount

end Core

namespace Scene

variable {Goal : List Report → Scene → Prop} {reports : List Report} {core : Core}
  {worker : Worker} {reader : PollingReader} {poll : Poll} {upcoming : List Poll}

/-! ## Requests with one answer -/

/-- A request is answered by one frame, which brings no tag. -/
theorem exchange {stage : PollStage} {frame : Frame} {reply : Reply} (hready : core.Ready)
    (hline : reader.line = []) (hphase : worker.phase = .asking stage .opening)
    (hheader : frame.header = frameHeader) (hreply : Reply.ofFrame? frame = some reply)
    (htag : reply.tag? = none)
    (hdelivers : (stage.asked core).delivers reply (stage.question core.config).expected =
      some .completed)
    (hheard : (reader.hear (stage.question core.config).request.command).line = frame.bytes)
    (hnext : ∀ core', core.Resumed (stage.prepare core).tags core' →
      core'.session = ((stage.asked core).session.apply reply).drain →
      Inevitable Step Goal reports ⟨core', worker.goto stage.answered,
        { reader.hear (stage.question core.config).request.command with line := [] }⟩) :
    Inevitable Step Goal reports ⟨core, worker, reader⟩ := by
  have hasked := PollStage.ready_asked hready stage
  have hawaits := PollStage.awaits_asked hready stage
  have hall := Core.receiveAll_frame hasked.drained hasked.idle hheader hreply
  have hanswered : ((stage.asked core).receiveAll frame.bytes).waits.outcome?
      (stage.ticket core) = some .completed := by
    have hafter := Core.awaits_waitsAfter hasked.waits hawaits (Reply.onWire_command hreply)
    rw [hdelivers] at hafter
    rw [hall]
    exact hafter.outcome?_eq
  refine ask hready hline hphase ?_
  have hframe : (reader.hear (stage.question core.config).request.command).line =
      frame.bytes ++ [] := by
    rw [hheard, List.append_nil]
  refine arrive hasked rfl hawaits.outcome?_eq hheader hframe ?_
  refine close rfl rfl hanswered ?_
  refine hnext _ ⟨(hasked.frame hheader hreply).release _, ?_, ?_⟩ ?_
  · rw [hall, htag]
    rfl
  · rw [hall]
    cases stage <;> rfl
  · rw [hall]
    rfl

theorem inventory (hready : core.Ready) (hphase : worker.phase = .asking .inventory .opening)
    (current : Option Poll)
    (hnext : ∀ core', core.Resumed core.tags core' →
      Inevitable Step Goal reports
        ⟨core', worker.goto (.asking .count .opening), ⟨[], some poll, upcoming⟩⟩) :
    Inevitable Step Goal reports ⟨core, worker, ⟨[], current, poll :: upcoming⟩⟩ := by
  refine exchange hready rfl hphase rfl poll.ofFrame?_inventoryFrame rfl rfl
    (List.append_nil _) ?_
  intro core' hresumed _
  exact hnext core' hresumed

theorem count (hready : core.Ready) (hphase : worker.phase = .asking .count .opening)
    (hnext : ∀ core', core.Resumed core.tags core' → core'.session.tagCount = poll.count →
      Inevitable Step Goal reports
        ⟨core', worker.goto .counting, ⟨[], some poll, upcoming⟩⟩) :
    Inevitable Step Goal reports ⟨core, worker, ⟨[], some poll, upcoming⟩⟩ := by
  refine exchange hready rfl hphase rfl poll.ofFrame?_countFrame rfl rfl (List.append_nil _) ?_
  intro core' hresumed hsession
  refine hnext core' hresumed ?_
  rw [hsession]
  rfl

end Scene

/-! ## The records -/

/-- The records of some tags are still to come, and with the last of them the number of tags
received is the announced one. -/
structure Core.Streaming (core : Core) (poll : Poll) (ticket : Ticket) (left : List Sighting) :
    Prop where
  ready : core.Ready
  awaits : core.waits.Awaits ticket .allTagsReceived none
  epc_le : ∀ sighting ∈ left, sighting.epc.length ≤ 242
  nodup : (left.map fun sighting => hexText sighting.epc).Nodup
  unseen : ∀ sighting ∈ left, hexText sighting.epc ∉ core.tags.pending.keys
  received : core.tags.received + left.length = poll.count.toNat

namespace Core.Streaming

variable {core : Core} {poll : Poll} {ticket : Ticket} {first : Sighting} {left : List Sighting}

/-- A record is taken over, and completes the wait when it is the last one. -/
theorem record (h : core.Streaming poll ticket (first :: left)) :
    core.Resumed (core.tags.record (first.read poll.count))
        (core.receiveAll (poll.recordFrame first).bytes) ∧
      (core.receiveAll (poll.recordFrame first).bytes).tags.received = core.tags.received + 1 ∧
      (core.receiveAll (poll.recordFrame first).bytes).waits.Awaits ticket .allTagsReceived
        (if left = [] then some .completed else none) := by
  have hreply := poll.ofFrame?_recordFrame (h.epc_le first (List.mem_cons_self ..))
  have hall := receiveAll_frame h.ready.drained h.ready.idle rfl hreply
  have hreceived : (core.tags.record (first.read poll.count)).received =
      core.tags.received + 1 :=
    View.size_insert_of_not_mem (h.unseen first (List.mem_cons_self ..)) _
  have hcount := h.received
  rw [List.length_cons] at hcount
  have hannounced : poll.count ≠ 0 := by
    intro hzero
    rw [hzero] at hcount
    cases hcount
  have hends : poll.count.toNat = (core.tags.record (first.read poll.count)).received ↔
      left = [] := by
    rw [hreceived, ← List.length_eq_zero_iff]
    omega
  have hdelivers : core.delivers
      ⟨.getAndResetInventoryBuffer, .ok (.bufferedTag (first.read poll.count))⟩
        .allTagsReceived = if left = [] then some .completed else none := by
    have hread : (first.read poll.count).announced = poll.count := rfl
    simp [delivers, endsBufferRead, Reply.tag?, Command.readsBuffer, hread, hannounced, hends]
  refine ⟨⟨h.ready.frame rfl hreply, ?_, ?_⟩, ?_, ?_⟩
  · rw [hall]
    rfl
  · rw [hall]
  · rw [hall]
    exact hreceived
  · have hafter := awaits_waitsAfter h.ready.waits h.awaits (Reply.onWire_command hreply)
    rw [hdelivers] at hafter
    rw [hall]
    exact hafter

theorem next {second : Sighting} (h : core.Streaming poll ticket (first :: second :: left)) :
    (core.receiveAll (poll.recordFrame first).bytes).Streaming poll ticket (second :: left) := by
  obtain ⟨hresumed, hreceived, hawaits⟩ := h.record
  obtain ⟨hfirst, hnodup⟩ := List.nodup_cons.mp h.nodup
  have hcount := h.received
  refine ⟨hresumed.ready, hawaits, ?_, hnodup, ?_, ?_⟩
  · intro sighting hmem
    exact h.epc_le sighting (List.mem_cons_of_mem _ hmem)
  · intro sighting hmem hold
    rw [hresumed.tags_eq, TagViews.record, View.mem_keys_insert] at hold
    rcases hold with heq | hold
    · exact hfirst (List.mem_map.mpr ⟨sighting, hmem, heq⟩)
    · exact h.unseen sighting (List.mem_cons_of_mem _ hmem) hold
  · rw [List.length_cons] at hcount
    rw [hreceived]
    omega

end Core.Streaming

namespace Scene

variable {Goal : List Report → Scene → Prop} {reports : List Report} {core : Core}
  {worker : Worker} {reader : PollingReader} {poll : Poll} {upcoming : List Poll}

/-- The records arrive one after the other, and the last of them ends the wait. -/
theorem records {announced : UInt16} {ticket : Ticket} (first : Sighting) (left : List Sighting)
    (hphase : worker.phase = .asking (.buffer announced) (.awaiting ticket))
    (hstreaming : core.Streaming poll ticket (first :: left))
    (hline : reader.line = ((first :: left).map poll.recordFrame).flatMap Frame.bytes)
    (hnext : ∀ core',
      core.Resumed (core.tags.recordAll ((first :: left).map (Sighting.read · poll.count))) core' →
      core'.waits.outcome? ticket = some .completed →
      Inevitable Step Goal reports ⟨core', worker, { reader with line := [] }⟩) :
    Inevitable Step Goal reports ⟨core, worker, reader⟩ := by
  induction left generalizing first core reader with
  | nil =>
      obtain ⟨hresumed, -, hawaits⟩ := hstreaming.record
      exact arrive hstreaming.ready hphase hstreaming.awaits.outcome?_eq rfl hline
        (hnext _ hresumed hawaits.outcome?_eq)
  | cons second left ih =>
      obtain ⟨hresumed, -, -⟩ := hstreaming.record
      refine arrive hstreaming.ready hphase hstreaming.awaits.outcome?_eq rfl hline ?_
      refine ih second hstreaming.next rfl ?_
      intro core' hafter houtcome
      refine hnext core' ⟨hafter.ready, ?_, ?_⟩ houtcome
      · rw [hafter.tags_eq, hresumed.tags_eq]
        rfl
      · rw [hafter.pollCount_eq, hresumed.pollCount_eq]

theorem buffer (hready : core.Ready) (hpoll : poll.WellFormed) (hne : poll.sightings ≠ [])
    (hphase : worker.phase = .asking (.buffer poll.count) .opening)
    (hnext : ∀ core', core.Resumed (core.tags.beginBufferRead.recordAll poll.reads) core' →
      Inevitable Step Goal reports
        ⟨core', worker.goto (.absorbing poll.count), ⟨[], some poll, upcoming⟩⟩) :
    Inevitable Step Goal reports ⟨core, worker, ⟨[], some poll, upcoming⟩⟩ := by
  obtain ⟨first, left, hsightings⟩ := List.exists_cons_of_ne_nil hne
  have hstreaming : (PollStage.asked core (.buffer poll.count)).Streaming poll
      (PollStage.ticket core (.buffer poll.count)) (first :: left) := by
    rw [← hsightings]
    refine ⟨PollStage.ready_asked hready _, PollStage.awaits_asked hready _, hpoll.epc_le,
      hpoll.nodup_texts, ?_, ?_⟩
    · intro sighting _
      exact List.not_mem_nil
    · rw [hpoll.toNat_count]
      exact Nat.zero_add _
  refine ask hready rfl hphase ?_
  refine records first left rfl hstreaming ?_ ?_
  · rw [← hsightings]
    rfl
  intro core' hresumed houtcome
  refine close rfl rfl houtcome ?_
  refine hnext _ ⟨hresumed.ready.release _, ?_, hresumed.pollCount_eq⟩
  refine hresumed.tags_eq.trans ?_
  rw [← hsightings]
  rfl

/-! ## The cycle -/

theorem cycle {plan : RunPlan} {completed attempt : Nat} {interval : UInt64}
    {current : Option Poll} (hready : core.Ready) (hpoll : poll.WellFormed)
    (hnext : ∀ core', core'.Ready → core'.pollCount = core.pollCount →
      core.tags.Polled poll.texts core'.tags →
      Inevitable Step Goal reports
        ⟨core', ⟨plan, .committing, false, completed, 0, 1, interval⟩, ⟨[], some poll, upcoming⟩⟩) :
    Inevitable Step Goal reports
      ⟨core, ⟨plan, .openingCycle, false, completed, attempt, 1, interval⟩,
        ⟨[], current, poll :: upcoming⟩⟩ := by
  refine proceed_noted rfl rfl rfl rfl ?_
  refine pause rfl rfl rfl rfl rfl ?_
  refine inventory (hready.setTags core.tags.beginCycle) rfl current ?_
  intro core₁ hinventory
  refine count hinventory.ready rfl ?_
  intro core₂ hcount htagCount
  have hcounted : core₂.tags = core.tags.beginCycle :=
    hcount.tags_eq.trans hinventory.tags_eq
  by_cases hnone : poll.sightings = []
  · -- there is nothing to read
    have hzero := hpoll.count_eq_zero_iff.mpr hnone
    have hskipped : Worker.step core₂ ⟨plan, .counting, false, completed, 0, 1, interval⟩ .proceed =
        some ⟨core₂, ⟨plan, .checkingStop, false, completed, 0, 1, interval⟩,
          [.noted (.bufferCounted 0), .noted .bufferEmpty]⟩ := by
      unfold Worker.step
      simp [htagCount, hzero, Worker.move, Worker.goto]
    refine proceed_noted rfl rfl hskipped rfl ?_
    refine proceed_noted rfl rfl rfl rfl ?_
    refine hnext core₂ hcount.ready (hcount.pollCount_eq.trans hinventory.pollCount_eq) ?_
    rw [hcounted, Poll.texts, hnone]
    exact core.tags.polled_beginCycle
  · have hsome : poll.count ≠ 0 := fun hzero => hnone (hpoll.count_eq_zero_iff.mp hzero)
    have hasked : Worker.step core₂ ⟨plan, .counting, false, completed, 0, 1, interval⟩ .proceed =
        some ⟨core₂,
          ⟨plan, .asking (.buffer poll.count) .opening, false, completed, 0, 1, interval⟩,
          [.noted (.bufferCounted poll.count)]⟩ := by
      unfold Worker.step
      simp [htagCount, hsome, Worker.move, Worker.goto]
    refine proceed_noted rfl rfl hasked rfl ?_
    refine buffer hcount.ready hpoll hnone rfl ?_
    intro core₃ hbuffer
    refine proceed_noted rfl rfl rfl rfl ?_
    refine proceed_noted rfl rfl rfl rfl ?_
    refine hnext _ (hbuffer.ready.setTags core₃.tags.absorb) ?_ ?_
    · calc core₃.pollCount = core₂.pollCount := hbuffer.pollCount_eq
        _ = core₁.pollCount := hcount.pollCount_eq
        _ = core.pollCount := hinventory.pollCount_eq
    · rw [hbuffer.tags_eq, hcounted, ← poll.map_key_reads]
      refine core.tags.polled_absorb poll.reads ?_
      rw [poll.map_key_reads]
      exact hpoll.nodup_texts

end Scene

end TagInventory
