import Mathlib.Data.List.Basic
import TagInventory.Response.Record

/-!
# Records, access by access

A decoder takes bytes from places that it has computed, some of them from what the reader sent,
and subtracts from lengths.  Where it asks whether there is something, the answer may be that
there is nothing; where it does not ask, the place must be in range.  Here the accesses of the
second kind are `Checked`: one that is out of range is a `Breach`, and nothing comes out.

Written in this way, access by access, the three decoders of `Response.Record` decode what they
decode without a breach, for every payload (`inventorySummaryAt_eq`, `bufferRecordAt_eq`,
`readRecordAt_eq`).  A read record has two bytes at its end that nobody asks for.  They are there
because the one before them was asked for.
-/

namespace TagInventory

/-! ## Checked accesses -/

/-- What a program that does not check its accesses cannot survive. -/
inductive Breach
  /-- There is no byte at this place. -/
  | index (index length : Nat)
  /-- There are not that many bytes to cut off. -/
  | cut (count length : Nat)
  | subtraction (minuend subtrahend : Nat)
  /-- A counter is at its largest value. -/
  | counter
  deriving DecidableEq, Repr

/-- What comes out, unless some access on the way is a breach. -/
abbrev Checked := Except Breach

/-- The byte at a place, which must be there. -/
def byteAt (bytes : List UInt8) (index : Nat) : Checked UInt8 :=
  match bytes[index]? with
  | some byte => pure byte
  | none => throw (.index index bytes.length)

/-- So many bytes cut off from the others; they must be there. -/
def cutAt (bytes : List UInt8) (count : Nat) : Checked (List UInt8 × List UInt8) :=
  if count ≤ bytes.length then pure (bytes.take count, bytes.drop count)
  else throw (.cut count bytes.length)

/-- A difference that must not be below zero. -/
def subtract (minuend subtrahend : Nat) : Checked Nat :=
  if subtrahend ≤ minuend then pure (minuend - subtrahend)
  else throw (.subtraction minuend subtrahend)

/-- One more, which must not be too many for 32 bits. -/
def increment (counter : UInt32) : Checked UInt32 :=
  if counter.toNat + 1 < UInt32.size then pure (counter + 1) else throw .counter

theorem byteAt_of_some {bytes : List UInt8} {index : Nat} {byte : UInt8}
    (h : bytes[index]? = some byte) : byteAt bytes index = pure byte := by
  rw [byteAt, h]

theorem cutAt_of_le {bytes : List UInt8} {count : Nat} (h : count ≤ bytes.length) :
    cutAt bytes count = pure (bytes.take count, bytes.drop count) :=
  if_pos h

theorem cutAt_append (front rest : List UInt8) :
    cutAt (front ++ rest) front.length = pure (front, rest) := by
  rw [cutAt_of_le (by rw [List.length_append]; exact Nat.le_add_right ..), List.take_left,
    List.drop_left]

theorem subtract_of_le {minuend subtrahend : Nat} (h : subtrahend ≤ minuend) :
    subtract minuend subtrahend = pure (minuend - subtrahend) :=
  if_pos h

theorem increment_of_lt {counter : UInt32} (h : counter.toNat + 1 < UInt32.size) :
    increment counter = pure (counter + 1) :=
  if_pos h

theorem increment_of_full {counter : UInt32} (h : ¬counter.toNat + 1 < UInt32.size) :
    increment counter = throw .counter :=
  if_neg h

/-! ### Lookups that may find nothing -/

/-- The bytes between two places, if they are there. -/
def span? (bytes : List UInt8) (first last : Nat) : Option (List UInt8) :=
  if first ≤ last ∧ last ≤ bytes.length then some ((bytes.take last).drop first) else none

def minus? (minuend subtrahend : Nat) : Option Nat :=
  if subtrahend ≤ minuend then some (minuend - subtrahend) else none

def word16At? (bytes : List UInt8) (index : Nat) : Option UInt16 := do
  return word16 (← bytes[index]?) (← bytes[index + 1]?)

/-- The four bytes of the word are taken from a span that was looked up before. -/
def word32At (bytes : List UInt8) (index : Nat) : Checked (Option UInt32) := do
  let some span := span? bytes index (index + 4) | return none
  return word32 (← byteAt span 0) (← byteAt span 1) (← byteAt span 2) (← byteAt span 3)

theorem exists_word16At? {bytes : List UInt8} {index : Nat} (h : index + 1 < bytes.length) :
    ∃ word, word16At? bytes index = some word := by
  rw [word16At?, List.getElem?_eq_getElem (Nat.lt_of_succ_lt h), List.getElem?_eq_getElem h]
  exact ⟨_, rfl⟩

/-! ## Records -/

def inventorySummaryAt (payload : List UInt8) : Checked (Option InventorySummary) := do
  let some antenna := payload[0]? | return none
  let some tagCount := word16At? payload 1 | return none
  let some readRate := word16At? payload 3 | return none
  let some totalRead ← word32At payload 5 | return none
  return some ⟨antenna, tagCount, readRate, totalRead⟩

/-- What is looked up in a buffer record. -/
def bufferFieldsAt? (payload : List UInt8) : Option TagRead := do
  let announced ← word16At? payload 0
  let size ← payload[2]?
  let epcSize ← minus? size.toNat 4
  let pc ← word16At? payload 3
  let epc ← span? payload 5 (5 + epcSize)
  let crc ← word16At? payload (5 + epcSize)
  let rssi ← payload[epcSize + 7]?
  let radio ← payload[epcSize + 8]?
  let inventories ← payload[epcSize + 9]?
  return {
    announced, pc, epc, crc, rssi
    antenna := radioAntenna radio
    frequency := radioFrequency radio
    inventoryCount := inventories }

/-- Every place of a buffer record is looked up. -/
def bufferRecordAt (payload : List UInt8) : Checked (Option TagRead) :=
  return bufferFieldsAt? payload

/-- What is looked up in a read record once its trailer is known. -/
def readFieldsAt? (payload : List UInt8) (announced : UInt16) (size dataSize radio reads : UInt8) :
    Option TagRead := do
  let epcSize ← minus? size.toNat (dataSize.toNat + 4)
  let pc ← word16At? payload 3
  let epc ← span? payload 5 (5 + epcSize)
  let crc ← word16At? payload (5 + epcSize)
  let data ← span? payload (epcSize + 7) (epcSize + 7 + dataSize.toNat)
  return {
    announced, pc, epc, crc, data
    antenna := radioAntenna radio
    frequency := radioFrequency radio
    readCount := reads }

/-- The third byte from the end is looked up, and the two behind it are taken. -/
def readRecordAt (payload : List UInt8) : Checked (Option TagRead) := do
  let some announced := word16At? payload 0 | return none
  let some size := payload[2]? | return none
  let some trailer := minus? payload.length 3 | return none
  let some dataSize := payload[trailer]? | return none
  let radio ← byteAt payload (← subtract payload.length 2)
  let reads ← byteAt payload (← subtract payload.length 1)
  return readFieldsAt? payload announced size dataSize radio reads

/-! ### Places behind a front -/

theorem getElem?_behind (front rest : List UInt8) (index : Nat) :
    (front ++ rest)[front.length + index]? = rest[index]? := by
  rw [List.getElem?_append_right (Nat.le_add_right ..), Nat.add_sub_cancel_left]

theorem word16At?_behind (front rest : List UInt8) (index : Nat) :
    word16At? (front ++ rest) (front.length + index) = word16At? rest index := by
  rw [word16At?, word16At?, Nat.add_assoc, getElem?_behind, getElem?_behind]

theorem span?_behind (front rest : List UInt8) (first last : Nat) :
    span? (front ++ rest) (front.length + first) (front.length + last) =
      span? rest first last := by
  simp only [span?, List.length_append, Nat.add_le_add_iff_left, List.take_length_add_append,
    List.drop_length_add_append]

theorem span?_of_short {bytes : List UInt8} {first last : Nat} (h : bytes.length < last) :
    span? bytes first last = none :=
  if_neg fun hrange => Nat.not_lt.mpr hrange.2 h

theorem span?_zero (bytes : List UInt8) (size : Nat) :
    span? bytes 0 size = if bytes.length < size then none else some (bytes.take size) := by
  rcases Nat.lt_or_ge bytes.length size with hshort | hlong
  · rw [span?_of_short hshort, if_pos hshort]
  · rw [span?, if_pos ⟨Nat.zero_le size, hlong⟩, if_neg (Nat.not_lt.mpr hlong)]
    rfl

theorem span?_front (front rest : List UInt8) :
    span? (front ++ rest) 0 front.length = some front := by
  rw [span?_zero, List.length_append, if_neg (by omega), List.take_left]

/-- What is found behind the EPC of a record, wherever its size byte puts the end of it. -/
structure BehindEpc (payload : List UInt8) (epc behind : List UInt8) : Prop where
  epc_eq : span? payload 5 (5 + epc.length) = some epc
  word_eq : word16At? payload (5 + epc.length) = word16At? behind 0
  byte_eq : ∀ index, payload[epc.length + (5 + index)]? = behind[index]?
  span_eq : ∀ size, span? payload (epc.length + 7) (epc.length + 7 + size) =
    span? behind 2 (2 + size)

theorem behindEpc (count1 count0 size pc1 pc0 : UInt8) (epc behind : List UInt8) :
    BehindEpc (count1 :: count0 :: size :: pc1 :: pc0 :: (epc ++ behind)) epc behind where
  epc_eq :=
    (span?_behind [count1, count0, size, pc1, pc0] (epc ++ behind) 0 epc.length).trans
      (span?_front epc behind)
  word_eq :=
    (word16At?_behind [count1, count0, size, pc1, pc0] (epc ++ behind) epc.length).trans
      (word16At?_behind epc behind 0)
  byte_eq index := by
    rw [Nat.add_left_comm]
    exact (getElem?_behind [count1, count0, size, pc1, pc0] (epc ++ behind) _).trans
      (getElem?_behind epc behind index)
  span_eq dataSize := by
    have hfirst : epc.length + 7 = 5 + (epc.length + 2) := by omega
    have hlast : epc.length + 7 + dataSize = 5 + (epc.length + (2 + dataSize)) := by omega
    rw [hlast, hfirst]
    exact (span?_behind [count1, count0, size, pc1, pc0] (epc ++ behind) _ _).trans
      (span?_behind epc behind 2 (2 + dataSize))

/-- An EPC that does not end within the payload is not found. -/
theorem span?_of_short_rest (count1 count0 size pc1 pc0 : UInt8) {rest : List UInt8}
    {epcSize : Nat} (h : rest.length < epcSize) :
    span? (count1 :: count0 :: size :: pc1 :: pc0 :: rest) 5 (5 + epcSize) = none := by
  refine span?_of_short ?_
  simp only [List.length_cons]
  omega

/-! ### The decoders, access by access -/

theorem inventorySummaryAt_eq (payload : List UInt8) :
    inventorySummaryAt payload = pure (inventorySummary? payload) := by
  match payload with
  | [] | [_] | [_, _] | [_, _, _] | [_, _, _, _] | [_, _, _, _, _] | [_, _, _, _, _, _]
  | [_, _, _, _, _, _, _] | [_, _, _, _, _, _, _, _] => rfl
  | _ :: _ :: _ :: _ :: _ :: _ :: _ :: _ :: _ :: _ => rfl

/-- Some bytes are fewer than a number, or this number of them comes first. -/
theorem short_or_append (bytes : List UInt8) (size : Nat) :
    bytes.length < size ∨ ∃ first rest, bytes = first ++ rest ∧ first.length = size := by
  rcases Nat.lt_or_ge bytes.length size with hshort | hlong
  · exact .inl hshort
  · refine .inr ⟨bytes.take size, bytes.drop size, (List.take_append_drop size bytes).symm, ?_⟩
    exact List.length_take_of_le hlong

/-- Looking fields up by their places is reading them from the front. -/
theorem bufferFieldsAt?_eq (payload : List UInt8) :
    bufferFieldsAt? payload = bufferRecord? payload := by
  match payload with
  | [] | [_] | [_, _] => rfl
  | [_, _, size] | [_, _, size, _] =>
      show (minus? size.toNat 4).bind _ = none
      cases minus? size.toNat 4 <;> rfl
  | count1 :: count0 :: size :: pc1 :: pc0 :: rest =>
      show (minus? size.toNat 4).bind _ = _
      rw [bufferRecord?, minus?]
      by_cases hsize : size.toNat < 4
      · rw [if_neg (Nat.not_le.mpr hsize), if_pos hsize]
        rfl
      simp only [if_pos (Nat.not_lt.mp hsize), if_neg hsize, Option.bind_some]
      rcases short_or_append rest (size.toNat - 4) with hshort | ⟨epc, behind, rfl, hlength⟩
      · have hepc := span?_of_short_rest count1 count0 size pc1 pc0 hshort
        simp only [hepc, List.drop_eq_nil_of_le (Nat.le_of_lt hshort)]
        rfl
      · obtain ⟨hepc, hcrc, hbyte, -⟩ := behindEpc count1 count0 size pc1 pc0 epc behind
        have hrssi := hbyte 2
        have hradio := hbyte 3
        have hinventories := hbyte 4
        simp only [Nat.reduceAdd] at hrssi hradio hinventories
        simp only [← hlength, List.drop_left, List.take_left, hepc, hcrc, hrssi, hradio,
          hinventories]
        match behind with
        -- five fields follow the EPC, and a payload that is cut before the last is none
        | [] | [_] | [_, _] | [_, _, _] | [_, _, _, _] => rfl
        | _ :: _ :: _ :: _ :: _ :: _ => rfl

theorem bufferRecordAt_eq (payload : List UInt8) :
    bufferRecordAt payload = pure (bufferRecord? payload) :=
  congrArg pure (bufferFieldsAt?_eq payload)

/-- A record whose trailer is known is read as from the front and from the end. -/
theorem readFieldsAt?_eq {payload before : List UInt8} {announced : UInt16}
    {size dataSize radio reads : UInt8}
    (hreverse : payload.reverse = reads :: radio :: dataSize :: before)
    (hannounced : word16At? payload 0 = some announced) (hsize : payload[2]? = some size) :
    readFieldsAt? payload announced size dataSize radio reads = readRecord? payload := by
  rw [readRecord?.eq_def, hreverse]
  match payload, hannounced, hsize with
  | [_, _, _], _, _ | [_, _, _, _], _, _ =>
      show (minus? size.toNat (dataSize.toNat + 4)).bind _ = none
      cases minus? size.toNat (dataSize.toNat + 4) <;> rfl
  | count1 :: count0 :: _ :: pc1 :: pc0 :: rest, rfl, rfl =>
      rw [readFieldsAt?, minus?]
      by_cases hshort : size.toNat < dataSize.toNat + 4
      · simp only [if_neg (Nat.not_le.mpr hshort), if_pos hshort]
        rfl
      simp only [if_pos (Nat.not_lt.mp hshort), if_neg hshort]
      rcases short_or_append rest (size.toNat - (dataSize.toNat + 4)) with
        hrest | ⟨epc, behind, rfl, hlength⟩
      · have hepc := span?_of_short_rest count1 count0 size pc1 pc0 hrest
        simp only [Option.bind_eq_bind, Option.bind_some, hepc,
          List.drop_eq_nil_of_le (Nat.le_of_lt hrest)]
        rfl
      · obtain ⟨hepc, hcrc, -, hdata⟩ := behindEpc count1 count0 size pc1 pc0 epc behind
        simp only [Option.bind_eq_bind, Option.bind_some, ← hlength, List.drop_left,
          List.take_left, hepc, hcrc, hdata]
        match behind with
        | [] | [_] => rfl
        | crc1 :: crc0 :: tail =>
            have hspan : span? (crc1 :: crc0 :: tail) 2 (2 + dataSize.toNat) = _ :=
              (span?_behind [crc1, crc0] tail 0 dataSize.toNat).trans (span?_zero tail _)
            -- the data have to end within the payload
            by_cases htail : tail.length < dataSize.toNat
            · simp only [hspan, if_pos htail]
              rfl
            · simp only [hspan, if_neg htail]
              rfl

theorem short_or_trailer (payload : List UInt8) :
    payload.length < 3 ∨ ∃ before dataSize radio reads,
      payload = before ++ [dataSize, radio, reads] := by
  rcases Nat.lt_or_ge payload.length 3 with hshort | hlong
  · exact .inl hshort
  · right
    have hthree : (payload.drop (payload.length - 3)).length = 3 := by
      rw [List.length_drop]
      omega
    obtain ⟨dataSize, radio, reads, heq⟩ := List.length_eq_three.mp hthree
    refine ⟨payload.take (payload.length - 3), dataSize, radio, reads, ?_⟩
    rw [← heq, List.take_append_drop]

/-- The two bytes that are taken from the end are there when the one before them is. -/
theorem readRecordAt_eq (payload : List UInt8) :
    readRecordAt payload = pure (readRecord? payload) := by
  rcases short_or_trailer payload with hshort | ⟨before, dataSize, radio, reads, hpayload⟩
  · match payload, hshort with
    | [], _ | [_], _ | [_, _], _ => rfl
  have hlength : payload.length = before.length + 3 := by
    simp [hpayload]
  have htrailer : minus? payload.length 3 = some before.length := by
    rw [minus?, if_pos (by omega), hlength]
    rfl
  have hdataSize : payload[before.length]? = some dataSize := by
    simp [hpayload]
  have hradioPlace : subtract payload.length 2 = pure (before.length + 1) := by
    rw [subtract_of_le (by omega), hlength]
    rfl
  have hradio : byteAt payload (before.length + 1) = pure radio :=
    byteAt_of_some (by simp [hpayload])
  have hreadsPlace : subtract payload.length 1 = pure (before.length + 2) := by
    rw [subtract_of_le (by omega), hlength]
    rfl
  have hreads : byteAt payload (before.length + 2) = pure reads :=
    byteAt_of_some (by simp [hpayload])
  -- with three bytes behind it, the front has the two fields that are looked up first
  obtain ⟨announced, hannounced⟩ := exists_word16At? (show 0 + 1 < payload.length by omega)
  obtain ⟨size, hsize⟩ : ∃ size, payload[2]? = some size :=
    ⟨_, List.getElem?_eq_getElem (by omega)⟩
  have hreverse : payload.reverse = reads :: radio :: dataSize :: before.reverse := by
    simp [hpayload]
  rw [readRecordAt, ← readFieldsAt?_eq hreverse hannounced hsize]
  simp only [hannounced, hsize, htrailer, hdataSize, hradioPlace, hradio, hreadsPlace, hreads,
    pure_bind]

end TagInventory
