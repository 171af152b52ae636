import TagInventory.Engine.Core

/-!
# Requests and their answers

A request that waits for its answer goes through four steps: the wait is opened, the link
is checked, the frame is written, and the wait ends.  Other threads may act between any
two of them.  Opening the wait comes first, so that an answer that arrives at once is not
missed.

A step that depends on the outside is told what happens there by a `Choice`; a step that
has to wait is not possible (`none`) until it need not.
-/

namespace TagInventory

/-- What the outside decides about a step. -/
inductive Choice
  /-- Nothing stands in the way. -/
  | proceed
  /-- A pause or a wait ends without what was waited for. -/
  | expire
  /-- What the step asks of the link or of the machine fails. -/
  | fail (cause : String)
  deriving DecidableEq, Repr

/-- What a step leads to: the shared state, the next place of the thread that took it, and
what was shown to the outside. -/
structure Advance (α : Type) where
  core : Core
  next : α
  events : List Event

/-- What a request stands for: the command that has to be answered, which need not be the
one that is sent, and for how long an answer is awaited. -/
structure Question where
  request : Request
  expected : Command
  timeout : UInt64
  deriving DecidableEq, Repr

namespace Question

/-- A request whose own command is awaited. -/
def ofRequest (config : EngineConfig) (request : Request) : Question where
  request := request
  expected := request.command
  timeout := config.commandTimeout

end Question

/-- The place of a thread in an exchange. -/
inductive Exchange
  | opening
  | checking (ticket : Ticket)
  | writing (ticket : Ticket)
  | awaiting (ticket : Ticket)
  | ended (outcome : WaitOutcome)
  | failed (failure : Failure)
  deriving DecidableEq, Repr

def Core.builtEvent (core : Core) (request : Request) : Event :=
  .noted (.requestBuilt request.command (core.frameOf request).bytes)

/-- Writes a frame, if there is a link.  `written` and `refused` say where the thread goes on. -/
def Core.write {α : Type} (core : Core) (frame : Frame) (choice : Choice) (written : α)
    (refused : Failure → α) : Option (Advance α) :=
  if core.connected then
    match choice with
    | .proceed => some ⟨core, written, [.wrote frame]⟩
    | .fail cause =>
      some ⟨core.markFailed, refused (.transport cause), [.noted (.writeFailed cause)]⟩
    | .expire => none
  else
    match choice with
    | .proceed => some ⟨core, refused .notInitialized, []⟩
    | _ => none

namespace Exchange

/-- Gives the wait up when the exchange has failed. -/
def releaseOnFailure (ticket : Ticket) (advance : Advance Exchange) : Advance Exchange :=
  match advance.next with
  | failed _ => { advance with core := advance.core.release ticket }
  | _ => advance

/-- One step.  `prepare` is done together with opening the wait. -/
def step (question : Question) (prepare : Core → Core) (core : Core) (exchange : Exchange)
    (choice : Choice) : Option (Advance Exchange) :=
  match exchange, choice with
  | opening, .proceed =>
    let (ticket, core) := (prepare core).register question.expected
    some ⟨core, checking ticket, [core.builtEvent question.request]⟩
  | checking ticket, .proceed =>
    if core.initialized then some ⟨core, writing ticket, []⟩
    else some ⟨core.release ticket, failed .notInitialized, []⟩
  | writing ticket, choice =>
    (core.write (core.frameOf question.request) choice (awaiting ticket) failed).map
      (releaseOnFailure ticket)
  | awaiting ticket, .proceed =>
    (core.waits.outcome? ticket).map fun outcome => ⟨core.release ticket, ended outcome, []⟩
  | awaiting ticket, .expire =>
    some ⟨core.release ticket, ended .timedOut, [.noted (.waitExpired question.expected)]⟩
  | _, _ => none

end Exchange

/-! ### What a thread needs from the outside -/

/-- What the next step of a thread depends on. -/
inductive Demand
  | nothing
  | write (frame : Frame)
  | flush
  /-- The step may become possible by itself; otherwise it is taken when the time is over. -/
  | timer (milliseconds : Nat)
  deriving DecidableEq, Repr

def Exchange.demand (question : Question) (core : Core) : Exchange → Demand
  | writing _ => .write (core.frameOf question.request)
  | awaiting _ => .timer question.timeout.toNat
  | _ => .nothing

end TagInventory
