import Mathlib.Data.List.Forall2
import TagInventory.Request

/-!
# Raw requests

What can be asked for with a command code and a bare payload, and what is sent then.  The
tables are stated on bytes, without the types that requests are made of:

* `wireCodes` are the codes of the commands that can be sent,
* `Command.Takes` says which payloads a command takes,
* `Command.Fits` says what is sent for a payload, and that the reader accepts it.

A raw request is refused for its code, refused for its payload, or sent as `Command.Fits` says
(`Request.ofRaw_case`).
-/

namespace TagInventory

/-! ## Tables -/

/-- The codes of the commands of the wire. -/
def wireCodes : List UInt8 :=
  [0x70, 0x71, 0x72, 0x74, 0x75, 0x76, 0x77, 0x78, 0x79, 0x80, 0x81, 0x90, 0x91, 0x92, 0x93]

/-- A power is sent as it was asked for, or not at all when the reader would refuse it. -/
structure PowerFits (asked sent : UInt8) : Prop where
  le : sent ≤ 0x21
  eq_asked : asked ≤ 0x21 → sent = asked
  eq_zero : ¬asked ≤ 0x21 → sent = 0

/-- The region that is sent is one of three, and ETSI when none of them was asked for. -/
structure RegionFits (asked sent : UInt8) : Prop where
  mem : sent ∈ [0x01, 0x02, 0x03]
  eq_asked : asked ∈ [0x01, 0x02, 0x03] → sent = asked
  eq_etsi : asked ∉ [0x01, 0x02, 0x03] → sent = 0x02

/-- The range of frequencies that is sent is not empty and has ends that the reader knows; it is
`0 … 6` when no such range was asked for. -/
structure RangeFits (askedFirst askedLast first last : UInt8) : Prop where
  first_le : first ≤ last
  last_le : last ≤ 0x3B
  eq_asked : askedFirst ≤ askedLast ∧ askedLast ≤ 0x3B → first = askedFirst ∧ last = askedLast
  eq_default : ¬(askedFirst ≤ askedLast ∧ askedLast ≤ 0x3B) → first = 0x00 ∧ last = 0x06

namespace Command

/-- The payloads that a command takes. -/
def Takes (command : Command) (payload : List UInt8) : Prop :=
  match command with
  | setUartBaudrate => payload.length = 1 ∧ ∀ code ∈ payload, code = 0x03 ∨ code = 0x04
  | setWorkAntenna => payload.length = 1 ∧ ∀ code ∈ payload, code ≤ 0x03
  | setOutputPower => payload.length = 1 ∨ payload.length = 4
  | setFrequencyRegion => payload.length = 2 ∨ payload.length = 3
  | inventory => payload.length ≤ 1
  | read => payload.length ≤ 1 ∧ ∀ code ∈ payload, code ≤ 0x03
  | allTagsReceived => False
  | _ => payload = []

/-- What is sent for a payload: the parameters of a command, with its fixed ones. -/
def Fits (command : Command) (payload sent : List UInt8) : Prop :=
  match command with
  | setUartBaudrate | setWorkAntenna => sent = payload
  | setOutputPower =>
    -- one power counts for every antenna
    ∃ asked, (payload = asked ∧ asked.length = 4 ∨
        ∃ power, payload = [power] ∧ asked = List.replicate 4 power) ∧
      List.Forall₂ PowerFits asked sent
  | setFrequencyRegion =>
    ∃ asked askedFirst askedLast region first last,
      (payload = [asked, askedFirst, askedLast] ∨
          payload = [asked, askedFirst] ∧ askedLast = askedFirst) ∧
        sent = [region, first, last] ∧ RegionFits asked region ∧
        RangeFits askedFirst askedLast first last
  | inventory => sent = [payload.headD 0x00]
  | read => sent = [payload.headD 0x01, 0x00, 0x01]
  | _ => sent = []

theorem mem_wireCodes_iff (code : UInt8) :
    code ∈ wireCodes ↔ ∃ command : Command, command.onWire = true ∧ command.code = code := by
  constructor
  · intro hmem
    have hcodes : wireCodes = (all.filter onWire).map Command.code := by decide
    rw [hcodes] at hmem
    obtain ⟨command, hcommand, hcode⟩ := List.mem_map.mp hmem
    exact ⟨command, (List.mem_filter.mp hcommand).2, hcode⟩
  · rintro ⟨command, hwire, rfl⟩
    cases command <;> first | decide | cases hwire

end Command

/-! ## Parameters -/

namespace Baudrate

theorem isSome_ofCode?_iff (code : UInt8) :
    (ofCode? code).isSome = true ↔ code = 0x03 ∨ code = 0x04 := by
  unfold ofCode?
  split <;> simp_all

end Baudrate

namespace Antenna

theorem isSome_ofCode?_iff (code : UInt8) : (ofCode? code).isSome = true ↔ code ≤ 0x03 := by
  unfold ofCode?
  split
  case h_5 => grind
  all_goals decide

end Antenna

namespace MemoryBank

theorem isSome_ofCode?_iff (code : UInt8) : (ofCode? code).isSome = true ↔ code ≤ 0x03 := by
  unfold ofCode?
  split
  case h_5 => grind
  all_goals decide

end MemoryBank

/-- Powers are sent in the way that the reader accepts. -/
theorem powerFits_acceptedPower (power : UInt8) : PowerFits power (acceptedPower power) := by
  unfold acceptedPower
  split <;> rename_i hle
  · exact ⟨hle, fun _ => rfl, fun h => absurd hle h⟩
  · exact ⟨by decide, fun h => absurd h hle, fun _ => rfl⟩

theorem regionFits_getD (asked : UInt8) :
    RegionFits asked ((Region.ofCode? asked).getD .etsi).code := by
  unfold Region.ofCode?
  split
  case h_4 hfcc hetsi hchn =>
    have hunknown : asked ∉ [0x01, 0x02, 0x03] := by simp_all
    exact ⟨by decide, fun h => absurd h hunknown, fun _ => rfl⟩
  all_goals exact ⟨by decide, fun _ => rfl, fun h => absurd h (by decide)⟩

/-- Bands are sent in the way that the reader accepts. -/
theorem fits_normalize (asked askedFirst askedLast : UInt8) :
    RegionFits asked (Band.normalize asked askedFirst askedLast).region.code ∧
      RangeFits askedFirst askedLast (Band.normalize asked askedFirst askedLast).first
        (Band.normalize asked askedFirst askedLast).last := by
  unfold Band.normalize maxFrequencyCode
  dsimp only
  split <;> rename_i hcase
  · have hdefault : (0x00 : UInt8) ≤ 0x06 ∧ (0x06 : UInt8) ≤ 0x3B := by decide
    refine ⟨regionFits_getD asked, hdefault.1, hdefault.2, ?_, fun _ => ⟨rfl, rfl⟩⟩
    rintro ⟨hrange, hlast⟩
    grind
  · have hvalid : askedFirst ≤ askedLast ∧ askedLast ≤ 0x3B := by grind
    exact ⟨regionFits_getD asked, hvalid.1, hvalid.2, fun _ => ⟨rfl, rfl⟩,
      fun h => absurd hvalid h⟩

/-! ## Requests -/

namespace Request

/-- What becomes of a payload for a command of the wire. -/
inductive Verdict (command : Command) (payload : List UInt8) : Except Failure Request → Prop
  | accepted (request : Request) (hcommand : request.command = command)
      (htakes : command.Takes payload) (hfits : command.Fits payload request.payload) :
      Verdict command payload (.ok request)
  | refused (fault : ParameterFault) (htakes : ¬command.Takes payload) :
      Verdict command payload (.error (.invalidParameter fault))

/-- The verdict on a payload that is a code of a table. -/
private theorem verdict_of_code {α : Type} {command : Command} {code : UInt8} {value? : Option α}
    (request : α → Request) (fault : ParameterFault)
    (htakes : value?.isSome = true ↔ command.Takes [code])
    (hsome : ∀ value, value? = some value →
      ofPayload command [code] = .ok (request value) ∧ (request value).command = command ∧
        command.Fits [code] (request value).payload)
    (hnone : value? = none → ofPayload command [code] = .error (.invalidParameter fault)) :
    Verdict command [code] (ofPayload command [code]) := by
  cases value? with
  | some value =>
      obtain ⟨hok, hcommand, hfits⟩ := hsome value rfl
      rw [hok]
      exact .accepted _ hcommand (htakes.mp rfl) hfits
  | none =>
      rw [hnone rfl]
      exact .refused _ fun h => Bool.false_ne_true (htakes.mpr h)

theorem ofPayload_verdict {command : Command} (hwire : command.onWire = true)
    (payload : List UInt8) : Verdict command payload (ofPayload command payload) := by
  cases command with
  | setUartBaudrate =>
      -- each command is decided by the first bytes of the payload and by its length
      rcases payload with _ | ⟨code, _ | ⟨second, rest⟩⟩
      case cons.nil =>
        refine verdict_of_code setUartBaudrate (.unknownCode .setUartBaudrate .baudrate code)
          (by simpa [Command.Takes] using Baudrate.isSome_ofCode?_iff code)
          (fun rate hrate => ⟨?_, rfl, ?_⟩) fun hnone => ?_
        · unfold ofPayload
          simp only [hrate]
        · rw [← Baudrate.code_of_ofCode? hrate]
          rfl
        · unfold ofPayload
          simp only [hnone]
      all_goals exact .refused _ (by simp [Command.Takes])
  | setWorkAntenna =>
      rcases payload with _ | ⟨code, _ | ⟨second, rest⟩⟩
      case cons.nil =>
        refine verdict_of_code setWorkAntenna (.unknownCode .setWorkAntenna .antenna code)
          (by simpa [Command.Takes] using Antenna.isSome_ofCode?_iff code)
          (fun antenna hantenna => ⟨?_, rfl, ?_⟩) fun hnone => ?_
        · unfold ofPayload
          simp only [hantenna]
        · rw [← Antenna.code_of_ofCode? hantenna]
          rfl
        · unfold ofPayload
          simp only [hnone]
      all_goals exact .refused _ (by simp [Command.Takes])
  | setOutputPower =>
      rcases payload with _ | ⟨first, _ | ⟨second, _ | ⟨third, _ | ⟨fourth, _ | ⟨fifth, rest⟩⟩⟩⟩⟩
      -- one power for all antennas, or four
      case cons.nil =>
        refine .accepted _ rfl (.inl rfl) ⟨_, .inr ⟨first, rfl, rfl⟩, ?_⟩
        simp [Request.payload, Powers.accepted, Powers.toList, Powers.uniform,
          powerFits_acceptedPower, List.replicate]
      case cons.cons.cons.cons.nil =>
        refine .accepted _ rfl (.inr rfl) ⟨_, .inl ⟨rfl, rfl⟩, ?_⟩
        simp [Request.payload, Powers.accepted, Powers.toList, powerFits_acceptedPower]
      all_goals exact .refused _ (by simp [Command.Takes])
  | setFrequencyRegion =>
      rcases payload with _ | ⟨asked, _ | ⟨first, _ | ⟨last, _ | ⟨fourth, rest⟩⟩⟩⟩
      -- without a last frequency the band ends where it begins
      case cons.cons.nil =>
        exact .accepted _ rfl (.inl rfl)
          ⟨asked, first, first, _, _, _, .inr ⟨rfl, rfl⟩, rfl, fits_normalize asked first first⟩
      case cons.cons.cons.nil =>
        exact .accepted _ rfl (.inr rfl)
          ⟨asked, first, last, _, _, _, .inl rfl, rfl, fits_normalize asked first last⟩
      all_goals exact .refused _ (by simp [Command.Takes])
  | inventory =>
      rcases payload with _ | ⟨rounds, _ | ⟨second, rest⟩⟩
      · exact .accepted _ rfl (by simp [Command.Takes]) rfl
      · exact .accepted _ rfl (by simp [Command.Takes]) rfl
      · exact .refused _ (by simp [Command.Takes])
  | read =>
      rcases payload with _ | ⟨code, _ | ⟨second, rest⟩⟩
      · exact .accepted _ rfl (by simp [Command.Takes]) rfl
      · refine verdict_of_code (read · 0 1) (.unknownCode .read .memoryBank code)
          (by simpa [Command.Takes] using MemoryBank.isSome_ofCode?_iff code)
          (fun bank hbank => ⟨?_, rfl, ?_⟩) fun hnone => ?_
        · unfold ofPayload
          simp only [hbank]
        · rw [← MemoryBank.code_of_ofCode? hbank]
          rfl
        · unfold ofPayload
          simp only [hnone]
      · exact .refused _ (by simp [Command.Takes])
  | allTagsReceived => cases hwire
  | _ =>
      cases payload with
      -- the others take no bytes
      | nil => exact .accepted _ rfl rfl rfl
      | cons first rest => exact .refused _ (by simp [Command.Takes])

/-- **Raw requests.**  A raw request is refused for its code when the code is not one of the
wire, and for its payload when the command does not take it.  It is accepted otherwise, and then
it is about the command of its code, and sends what fits. -/
theorem ofRaw_case (code : UInt8) (payload : List UInt8) :
    (code ∉ wireCodes ∧ ofRaw code payload = .error (.unsupportedCommand code)) ∨
      ∃ command : Command, command.onWire = true ∧ command.code = code ∧
        Verdict command payload (ofRaw code payload) := by
  cases hcode : Command.ofCode? code with
  | none =>
      refine .inl ⟨?_, by rw [ofRaw, hcode]⟩
      rw [Command.mem_wireCodes_iff]
      rintro ⟨command, -, rfl⟩
      rw [Command.ofCode?_code] at hcode
      cases hcode
  | some command =>
      obtain rfl := Command.code_of_ofCode? hcode
      rw [ofRaw, hcode]
      dsimp only
      by_cases hwire : command.onWire = true
      · exact .inr ⟨command, hwire, rfl, ofPayload_verdict hwire payload⟩
      · -- the name of an event has a code, too
        obtain rfl : command = .allTagsReceived := by
          cases command with
          | allTagsReceived => rfl
          | _ => exact absurd rfl hwire
        exact .inl ⟨by decide, rfl⟩

end Request

end TagInventory
