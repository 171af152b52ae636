import TagInventory.Proofs.Engine.Arrival
import TagInventory.Proofs.Engine.Field
import TagInventory.Proofs.Engine.Shown

/-!
# A worker and the reader at the other end

A `Scene` is what matters for one run when nobody else is at work: the shared state, the
worker, and the reader.  It moves when the worker takes a step, which puts answers on the
line when a frame is written, and when a byte of the line arrives.  Pauses end, nothing
fails, and no wait ends before its answer is there (`WorkerPhase.isTimely`).

`Inevitable` says where every run of a scene leads, however worker and bytes take turns.
Its rules follow the worker through one exchange:

* `Scene.proceed`, `Scene.pause`: a step with nothing on the line;
* `Scene.ask`: the wait is opened and the request is written;
* `Scene.arrive`: a frame arrives while its answer is awaited;
* `Scene.close`: the wait ends.

The shared state stays `Core.Ready` throughout.
-/

namespace TagInventory

/-! ## What cannot be avoided -/

/-- Every run comes to a goal after finitely many steps, and does not get stuck before.  The
reports that were made so far are part of the goal. -/
inductive Inevitable {State : Type} (Step : State → List Report → State → Prop)
    (Goal : List Report → State → Prop) : List Report → State → Prop
  | now {reports : List Report} {state : State} (h : Goal reports state) :
      Inevitable Step Goal reports state
  | later {reports : List Report} {state : State} (hcan : ∃ made next, Step state made next)
      (hall : ∀ made next, Step state made next → Inevitable Step Goal (reports ++ made) next) :
      Inevitable Step Goal reports state

theorem Inevitable.mono {State : Type} {Step : State → List Report → State → Prop}
    {Goal Goal' : List Report → State → Prop} {reports : List Report} {state : State}
    (h : Inevitable Step Goal reports state)
    (hgoal : ∀ reports state, Goal reports state → Goal' reports state) :
    Inevitable Step Goal' reports state := by
  induction h with
  | now h => exact .now (hgoal _ _ h)
  | later hcan _ ih => exact .later hcan ih

/-! ## Steps -/

namespace PollingReader

/-- The reader after some steps of the engine were shown to the outside. -/
def receiveAll (reader : PollingReader) (events : List Event) : PollingReader :=
  events.foldl (fun reader event =>
    match event with
    | .wrote frame => reader.receive frame
    | _ => reader) reader

theorem receiveAll_of_notes {events : List Event} (h : events.all Event.isNote = true)
    (reader : PollingReader) : reader.receiveAll events = reader := by
  induction events with
  | nil => rfl
  | cons event events ih =>
      obtain ⟨hevent, hevents⟩ := Bool.and_eq_true_iff.mp (List.all_cons.symm.trans h)
      cases event with
      | noted notice => exact ih hevents
      | wrote | reported => cases hevent

end PollingReader

/-- Whether a worker is in a pause. -/
def WorkerPhase.isPause : WorkerPhase → Bool
  | settling | idling | pausing => true
  | _ => false

/-- Nothing fails, and time is only over for pauses. -/
def WorkerPhase.isTimely (phase : WorkerPhase) : Choice → Bool
  | .proceed => true
  | .expire => phase.isPause
  | .fail _ => false

/-- A worker, what it shares, and the reader. -/
structure Scene where
  core : Core
  worker : Worker
  reader : PollingReader

namespace Scene

/-- What can happen next, and the reports that are made. -/
inductive Step : Scene → List Report → Scene → Prop
  | work {core : Core} {worker : Worker} {reader : PollingReader} (choice : Choice)
      (advance : Advance Worker) (htimely : worker.phase.isTimely choice = true)
      (h : worker.step core choice = some advance) :
      Step ⟨core, worker, reader⟩ (reportsOf advance.events)
        ⟨advance.core, advance.next, reader.receiveAll advance.events⟩
  | byte {core : Core} {worker : Worker} {reader : PollingReader} (byte : UInt8)
      (line : List UInt8) (hrunning : core.readerRunning = true)
      (h : reader.line = byte :: line) :
      Step ⟨core, worker, reader⟩ [] ⟨core.receive byte, worker, { reader with line := line }⟩

variable {Goal : List Report → Scene → Prop} {reports : List Report} {core : Core}
  {worker : Worker} {reader : PollingReader}

/-- With nothing on the line, the worker takes the only step that it can take. -/
theorem work {choice : Choice} {advance : Advance Worker} (hline : reader.line = [])
    (htimely : worker.phase.isTimely choice = true)
    (hstep : worker.step core choice = some advance)
    (honly : ∀ other, worker.phase.isTimely other = true → other ≠ choice →
      worker.step core other = none)
    (hnext : Inevitable Step Goal (reports ++ reportsOf advance.events)
      ⟨advance.core, advance.next, reader.receiveAll advance.events⟩) :
    Inevitable Step Goal reports ⟨core, worker, reader⟩ := by
  refine .later ⟨_, _, .work choice advance htimely hstep⟩ ?_
  intro made next h
  cases h with
  | work other found hother hfound =>
      by_cases heq : other = choice
      · subst heq
        rw [hstep] at hfound
        cases hfound
        exact hnext
      · rw [honly other hother heq] at hfound
        cases hfound
  | byte byte line hrunning hcons =>
      rw [hline] at hcons
      cases hcons

/-- Outside its pauses a worker goes on by itself. -/
theorem proceed {core' : Core} {worker' : Worker} {events : List Event} (hline : reader.line = [])
    (hpause : worker.phase.isPause = false)
    (hstep : worker.step core .proceed = some ⟨core', worker', events⟩)
    (hnext : Inevitable Step Goal (reports ++ reportsOf events)
      ⟨core', worker', reader.receiveAll events⟩) :
    Inevitable Step Goal reports ⟨core, worker, reader⟩ := by
  refine work hline rfl hstep ?_ hnext
  intro other hother hne
  cases other with
  | proceed => exact absurd rfl hne
  | expire =>
      rw [WorkerPhase.isTimely, hpause] at hother
      cases hother
  | fail cause => cases hother

theorem proceed_noted {core' : Core} {worker' : Worker} {events : List Event}
    (hline : reader.line = []) (hpause : worker.phase.isPause = false)
    (hstep : worker.step core .proceed = some ⟨core', worker', events⟩)
    (hnotes : events.all Event.isNote = true)
    (hnext : Inevitable Step Goal reports ⟨core', worker', reader⟩) :
    Inevitable Step Goal reports ⟨core, worker, reader⟩ := by
  refine proceed hline hpause hstep ?_
  rw [reportsOf_of_notes hnotes, PollingReader.receiveAll_of_notes hnotes, List.append_nil]
  exact hnext

/-- A pause ends with its timer when no stop was requested. -/
theorem pause {core' : Core} {worker' : Worker} {events : List Event}
    (hline : reader.line = []) (hpause : worker.phase.isPause = true)
    (hstop : worker.stopRequested = false)
    (hstep : worker.step core .expire = some ⟨core', worker', events⟩)
    (hnotes : events.all Event.isNote = true)
    (hnext : Inevitable Step Goal reports ⟨core', worker', reader⟩) :
    Inevitable Step Goal reports ⟨core, worker, reader⟩ := by
  have hwait : worker.step core .proceed = none := by
    cases hphase : worker.phase with
    | settling | idling | pausing =>
        unfold Worker.step
        simp [Worker.pause, hphase, hstop]
    | _ =>
        rw [hphase] at hpause
        cases hpause
  have htimely : worker.phase.isTimely .expire = true := hpause
  refine work hline htimely hstep ?_ ?_
  · intro other hother hne
    cases other with
    | proceed => exact hwait
    | expire => exact absurd rfl hne
    | fail cause => cases hother
  · rw [reportsOf_of_notes hnotes, PollingReader.receiveAll_of_notes hnotes, List.append_nil]
    exact hnext

end Scene

/-! ## Exchanges -/

/-- Requests are sent and answers are taken over, and nothing is left from before. -/
structure Core.Ready (core : Core) : Prop where
  initialized : core.initialized = true
  connected : core.connected = true
  readerRunning : core.readerRunning = true
  drained : core.session.Drained
  idle : core.receiver.Idle
  waits : core.waits.WellFormed

namespace PollStage

/-- The shared state once the wait for an answer is open. -/
def asked (core : Core) (stage : PollStage) : Core :=
  ((stage.prepare core).register (stage.question core.config).expected).2

/-- The ticket of the wait. -/
def ticket (core : Core) (stage : PollStage) : Ticket :=
  (stage.prepare core).waits.issued

/-- Where a poll goes on once the answer is there. -/
def answered : PollStage → WorkerPhase
  | inventory => .asking .count .opening
  | count => .counting
  | buffer announced => .absorbing announced

theorem waits_prepare (core : Core) (stage : PollStage) :
    (stage.prepare core).waits = core.waits := by
  cases stage <;> rfl

theorem awaits_asked {core : Core} (h : core.Ready) (stage : PollStage) :
    (stage.asked core).waits.Awaits (stage.ticket core) (stage.question core.config).expected
      none := by
  have hwaits : (stage.prepare core).waits.WellFormed := by
    rw [waits_prepare]
    exact h.waits
  exact hwaits.awaits_register _

theorem ready_asked {core : Core} (h : core.Ready) (stage : PollStage) :
    (stage.asked core).Ready := by
  have hwaits := h.waits.register (stage.question core.config).expected
  cases stage with
  | inventory => exact { h with waits := hwaits }
  | count =>
      exact { h with
        drained := ⟨h.drained.lastError_eq, h.drained.tagReads_eq⟩
        idle := ⟨h.idle.waiting, h.idle.noise⟩
        waits := hwaits }
  | buffer announced => exact { h with waits := hwaits }

end PollStage

namespace Scene

variable {Goal : List Report → Scene → Prop} {reports : List Report} {core : Core}
  {worker : Worker} {reader : PollingReader} {stage : PollStage}

private theorem going {before after : Exchange} {core' : Core} {events : List Event}
    (hline : reader.line = []) (hphase : worker.phase = .asking stage before)
    (hstep : before.step (stage.question core.config) (stage.prepare ·) core .proceed =
      some ⟨core', after, events⟩)
    (hafter : after.ticket?.isSome = true)
    (hnext : Inevitable Step Goal (reports ++ reportsOf events)
      ⟨core', worker.goto (.asking stage after), reader.receiveAll events⟩) :
    Inevitable Step Goal reports ⟨core, worker, reader⟩ := by
  refine proceed hline (by rw [hphase]; rfl) ?_ hnext
  rw [Worker.step_asking hphase, hstep, Option.map_some]
  cases after with
  | checking | writing | awaiting => cases stage <;> simp [Worker.afterExchange]
  | opening | ended | failed => cases hafter

/-- The wait is opened, the link is checked, and the request is written. -/
theorem ask (hready : core.Ready) (hline : reader.line = [])
    (hphase : worker.phase = .asking stage .opening)
    (hnext : Inevitable Step Goal reports
      ⟨stage.asked core, worker.goto (.asking stage (.awaiting (stage.ticket core))),
        reader.hear (stage.question core.config).request.command⟩) :
    Inevitable Step Goal reports ⟨core, worker, reader⟩ := by
  have hasked := PollStage.ready_asked hready stage
  have hconfig : (stage.asked core).config = core.config := by
    cases stage <;> rfl
  have hheard : reader.receive
      ((stage.asked core).frameOf (stage.question (stage.asked core).config).request) =
        reader.hear (stage.question core.config).request.command := by
    rw [PollingReader.receive, Core.frameOf, Request.command_frame, Command.ofCode?_code, hconfig]
  rw [← hheard] at hnext
  refine going hline hphase rfl rfl ?_
  rw [reportsOf_of_notes rfl, List.append_nil, PollingReader.receiveAll_of_notes rfl]
  have hchecked : Exchange.step (stage.question (stage.asked core).config) (stage.prepare ·)
      (stage.asked core) (.checking (stage.ticket core)) .proceed =
        some ⟨stage.asked core, .writing (stage.ticket core), []⟩ := by
    simp [Exchange.step, hasked.initialized]
  refine going hline rfl hchecked rfl ?_
  rw [reportsOf_of_notes rfl, List.append_nil, PollingReader.receiveAll_of_notes rfl]
  have hwrote : Exchange.step (stage.question (stage.asked core).config) (stage.prepare ·)
      (stage.asked core) (.writing (stage.ticket core)) .proceed =
        some ⟨stage.asked core, .awaiting (stage.ticket core),
          [.wrote ((stage.asked core).frameOf
            (stage.question (stage.asked core).config).request)]⟩ := by
    simp [Exchange.step, Core.write, hasked.connected, Exchange.releaseOnFailure]
  refine going hline rfl hwrote rfl ?_
  show Inevitable Step Goal (reports ++ []) _
  rw [List.append_nil]
  exact hnext

theorem arrive (hready : core.Ready) {ticket : Ticket} {frame : Frame} {more : List UInt8}
    (hphase : worker.phase = .asking stage (.awaiting ticket))
    (hpending : core.waits.outcome? ticket = none) (hheader : frame.header = frameHeader)
    (hline : reader.line = frame.bytes ++ more)
    (hnext : Inevitable Step Goal reports
      ⟨core.receiveAll frame.bytes, worker, { reader with line := more }⟩) :
    Inevitable Step Goal reports ⟨core, worker, reader⟩ := by
  -- induction on the bytes that are still to come
  have hpart (rest sent : List UInt8) (hbytes : frame.bytes = sent ++ rest) :
      Inevitable Step Goal reports
        ⟨core.receiveAll sent, worker, { reader with line := rest ++ more }⟩ := by
    induction rest generalizing sent with
    | nil =>
        rw [List.append_nil] at hbytes
        rw [← hbytes]
        exact hnext
    | cons byte rest ih =>
        have hkept := Core.receiveAll_part hready.idle hheader hbytes (by simp)
        have hrunning : (core.receiveAll sent).readerRunning = true := by
          rw [hkept]
          exact hready.readerRunning
        refine .later ⟨_, _, .byte byte (rest ++ more) hrunning rfl⟩ ?_
        intro made next h
        cases h with
        | work choice advance htimely hstep =>
            rw [Worker.step_asking hphase] at hstep
            cases choice with
            | proceed => simp [Exchange.step, hkept, hpending] at hstep
            | expire =>
                rw [hphase] at htimely
                cases htimely
            | fail cause => cases htimely
        | byte other line hrunning hcons =>
            cases hcons
            have hsent := ih (sent ++ [byte]) (by rw [hbytes, List.append_assoc]; rfl)
            rw [Core.receiveAll_append] at hsent
            rw [List.append_nil]
            exact hsent
  have hall := hpart frame.bytes [] rfl
  rw [← hline] at hall
  exact hall

/-- The wait ends when the answer is there. -/
theorem close {ticket : Ticket} (hline : reader.line = [])
    (hphase : worker.phase = .asking stage (.awaiting ticket))
    (houtcome : core.waits.outcome? ticket = some .completed)
    (hnext : Inevitable Step Goal reports
      ⟨core.release ticket, worker.goto stage.answered, reader⟩) :
    Inevitable Step Goal reports ⟨core, worker, reader⟩ := by
  have hclosed : worker.step core .proceed =
      some ⟨core.release ticket, worker.goto stage.answered, []⟩ := by
    rw [Worker.step_asking hphase, Exchange.step, houtcome]
    cases stage <;> rfl
  exact proceed_noted hline (by rw [hphase]; rfl) hclosed rfl hnext

end Scene

end TagInventory
