import SensorFirmware.Modbus.SaveRequests
import SensorFirmware.Modbus.Responses

/-!
# Requests and their responses

A request is told from its bytes alone: the slave id, the function code and the checksum.
A call of `ModbusService::process` responds to a frame exactly if it is a request to the
slave id in force and as long as its function code asks for.
-/

namespace SensorFirmware

open BigEndian ModbusService

/-- The bytes are a request to the slave with the given id. -/
structure IsRequest (id function : UInt8) (request : List UInt8) : Prop where
  le_length : 4 ≤ request.length
  address : request[0]? = some id
  function : request[1]? = some function
  checksum : ∃ body, request = withCrc body

/-- The length from which on a request with the function code has a response. -/
def responseLength (function : UInt8) : Nat :=
  if function = fcWriteSingleReg then 8
  else if function = fcWriteMultipleRegs then 9
  else 4

/-- The slave with the given id responds to the bytes. -/
def HasResponse (id : UInt8) (request : List UInt8) : Prop :=
  ∃ function, IsRequest id function request ∧ responseLength function ≤ request.length

/-- A request and the response to it. -/
structure Exchange where
  request : List UInt8
  response : List UInt8
  deriving DecidableEq

/-- The response answers the request, in the name of the slave with the given id. -/
def Exchange.Answers (exchange : Exchange) (id : UInt8) : Prop :=
  ∃ function, IsRequest id function exchange.request ∧
    responseLength function ≤ exchange.request.length ∧
    WellFormedResponse id function exchange.response

/-! ## The bytes of a frame -/

/-- The bytes that the UART hands over to a call. -/
def receivedBytes (received : Option UartFrame) : List UInt8 :=
  received.elim [] UartFrame.bytes

theorem length_receivedBytes
    (received : Option UartFrame) :
    (receivedBytes received).length ≤ 256 := by
  cases received with
  | none => exact Nat.zero_le 256
  | some received => exact received.fits

/-- An arrival holds the received bytes. -/
theorem UartFrame.arrival_eq
    (received : Option UartFrame)
    (time : UInt32) :
    arrival received time =
      if 0 < (receivedBytes received).length then
        some ⟨receivedBytes received, (receivedBytes received).length, time⟩
      else none := by
  cases received with
  | none => rfl
  | some received => rfl

namespace FrameItem

variable {frame : FrameItem} {request : List UInt8} {time : UInt32}

/-- Bytes of a frame within its length. -/
theorem getElem?_queued
    (queued : frame.queued = ⟨request, request.length, time⟩)
    {index : Nat}
    (inside : index < request.length) :
    request[index]? = some (frame.byte index) := by
  have bytes : FixedArray.front frame.data frame.len.toNat = request :=
    congrArg QueuedFrame.bytes queued
  rw [← bytes] at inside
  simp only [← bytes]
  rw [List.getElem?_eq_getElem inside, FixedArray.getElem_front]
  rfl

/-- A frame passes the check exactly if its bytes end with their checksum. -/
theorem crcMatches_iff_withCrc
    (queued : frame.queued = ⟨request, request.length, time⟩)
    (long : 2 ≤ request.length)
    (fits : request.length ≤ 256) :
    frame.CrcMatches ↔ ∃ body, request = withCrc body := by
  have len : frame.len.toNat = request.length := congrArg QueuedFrame.len queued
  have bytes : FixedArray.front frame.data frame.len.toNat = request :=
    congrArg QueuedFrame.bytes queued
  obtain ⟨body, length⟩ : ∃ body, request.length = body + 2 :=
    ⟨request.length - 2, by omega⟩
  have split : request =
      FixedArray.front frame.data body ++ [frame.byte body, frame.byte (body + 1)] := by
    rw [← bytes, len, length, FixedArray.front_succ _ (by omega),
      FixedArray.front_succ _ (by omega), List.append_assoc]
    rfl
  have carried : frame.crcRx = word (frame.byte (body + 1)) (frame.byte body) := by
    rw [crcRx, len, length]
    rfl
  rw [CrcMatches, len, length, Nat.add_sub_cancel, carried]
  constructor
  · intro sum
    refine ⟨FixedArray.front frame.data body, split.trans ?_⟩
    rw [withCrc, crcBytes, sum, lowByte_word, highByte_word]
  · rintro ⟨content, whole⟩
    obtain ⟨front, crc⟩ := List.append_inj' (split.symm.trans whole) rfl
    obtain ⟨low, high⟩ := List.cons.inj crc
    rw [low, (List.cons.inj high).1, front, word_highByte_lowByte]

/-- A frame that is queued with the bytes of a request is that request. -/
theorem sameRequest_of_queued
    {body : List UInt8}
    (fits : body.length ≤ 254)
    (queued : frame.queued = ⟨withCrc body, (withCrc body).length, time⟩) :
    SameRequest frame (makeFrame body) := by
  have len : frame.len.toNat = (withCrc body).length := congrArg QueuedFrame.len queued
  have length : (withCrc body).length = body.length + 2 := by simp [withCrc]
  constructor
  · apply UInt16.toNat.inj
    rw [len, length, makeFrame_len fits]
  · intro index inside
    rw [makeFrame_len fits] at inside
    rw [makeFrame_byte fits index inside, List.getD_eq_getElem?_getD,
      getElem?_queued queued (by omega), Option.getD_some]

/-- A frame that reaches its handler with the given id, and is long enough for it. -/
def Asks (frame : FrameItem) (id : UInt8) : Prop :=
  4 ≤ frame.len ∧ frame.CrcMatches ∧ frame.byte 0 = id ∧ ¬ Device.TooShort frame

/-- The handlers for writes are the ones that ask for more bytes. -/
theorem tooShort_iff
    (long : 4 ≤ frame.len.toNat) :
    Device.TooShort frame ↔ frame.len.toNat < responseLength (frame.byte 1) := by
  have single : frame.len < 8 ↔ frame.len.toNat < 8 := UInt16.lt_iff_toNat_lt
  have multiple : frame.len < 9 ↔ frame.len.toNat < 9 := UInt16.lt_iff_toNat_lt
  have different : fcWriteSingleReg ≠ fcWriteMultipleRegs := by decide
  rw [Device.TooShort, responseLength, single, multiple]
  split
  case isTrue code => simp [code, different]
  case isFalse other =>
    split
    case isTrue code => simp [code, different.symm]
    case isFalse => simp_all

/-- The bytes of a frame that asks are a request of sufficient length. -/
theorem Asks.isRequest
    {id : UInt8}
    (asks : frame.Asks id)
    (queued : frame.queued = ⟨request, request.length, time⟩)
    (fits : request.length ≤ 256) :
    IsRequest id (frame.byte 1) request ∧ responseLength (frame.byte 1) ≤ request.length := by
  obtain ⟨enough, crc, own, answered⟩ := asks
  have len : frame.len.toNat = request.length := congrArg QueuedFrame.len queued
  have long : 4 ≤ frame.len.toNat := UInt16.le_iff_toNat_le.mp enough
  rw [tooShort_iff long, len, Nat.not_lt] at answered
  rw [len] at long
  refine ⟨⟨long, ?_, getElem?_queued queued (by omega), ?_⟩, answered⟩
  · rw [getElem?_queued queued (by omega), own]
  · exact (crcMatches_iff_withCrc queued (by omega) fits).mp crc

/-- So a frame asks exactly if its bytes have a response. -/
theorem asks_iff_hasResponse
    (queued : frame.queued = ⟨request, request.length, time⟩)
    (fits : request.length ≤ 256)
    (id : UInt8) :
    frame.Asks id ↔ HasResponse id request := by
  have len : frame.len.toNat = request.length := congrArg QueuedFrame.len queued
  constructor
  · intro asks
    exact ⟨frame.byte 1, asks.isRequest queued fits⟩
  · rintro ⟨function, ⟨long, address, code, checksum⟩, answered⟩
    rw [getElem?_queued queued (by omega), Option.some.injEq] at address code
    refine ⟨UInt16.le_iff_toNat_le.mpr (len ▸ long), ?_, address, ?_⟩
    · exact (crcMatches_iff_withCrc queued (by omega) fits).mpr checksum
    · rwa [tooShort_iff (by omega), len, code, Nat.not_lt]

end FrameItem

namespace Device

variable [DoubleArith D]

/-! ## One frame -/

/-- A write request that is too short is dropped. -/
theorem dispatch_tooShort
    (dev : Device D)
    {frame : FrameItem}
    (short : TooShort frame) :
    dev.dispatch frame = (0, dev) := by
  unfold dispatch
  rcases short with ⟨code, few⟩ | ⟨code, few⟩
  · rw [code, if_neg (by decide), if_neg (by decide), if_pos rfl, processWriteSingleRegister,
      if_pos few]
  · rw [code, if_neg (by decide), if_neg (by decide), if_neg (by decide), if_pos rfl,
      processWriteMultipleRegisters, if_pos few]

/-- Every other frame for the device alone has a response. -/
theorem dispatch_transmits
    (dev : Device D)
    {frame : FrameItem}
    (unicast : ¬ frame.IsBroadcast)
    (enough : ¬ TooShort frame) :
    (dev.dispatch frame).2.transmitted ≠ dev.transmitted := by
  have handled := dispatch_handled dev frame
  generalize dev.dispatch frame = result at handled ⊢
  cases handled with
  | tooShort short => exact absurd short enough
  | refused errorCode =>
      rw [answerError_transmitted _ _ _ _ unicast]
      simp
  | readHolding _ inRange =>
      rw [answerRead_transmitted _ _ _ _ (by rw [length_holdingWords]; exact inRange.few)
        unicast]
      simp
  | readInput _ inRange =>
      rw [answerRead_transmitted _ _ _ _ (by rw [length_inputWords]; exact inRange.few)
        unicast, updateLiveInputs_transmitted]
      simp
  | writeSingle =>
      rw [answer_transmitted _ _ _ unicast (by simp [writeEcho, withCrc])
        (by simp [writeEcho, withCrc])]
      simp [setHoldingRegister]
  | writeMultiple =>
      rw [runCommand_transmitted, answer_transmitted _ _ _ unicast
        (by simp [writeEcho, withCrc]) (by simp [writeEcho, withCrc])]
      simp [writeRegisters]

omit [DoubleArith D] in
/-- A legal id is not the one of a broadcast. -/
theorem IdValid.toUInt8_ne_zero
    {dev : Device D}
    (valid : dev.IdValid) :
    dev.deviceConfig.id.toUInt8 ≠ 0 := by
  have lower : 0 < dev.deviceConfig.id.toNat := UInt16.lt_iff_toNat_lt.mp valid.1
  have upper : dev.deviceConfig.id.toNat ≤ 247 := UInt16.le_iff_toNat_le.mp valid.2
  intro zero
  have same := congrArg UInt8.toNat zero
  rw [UInt16.toNat_toUInt8, UInt8.toNat_zero] at same
  omega

/-- A frame that asks has exactly one response. -/
theorem frameStep_responds_of_asks
    (dev : Device D)
    {frame : FrameItem}
    (valid : dev.IdValid)
    (asks : frame.Asks dev.deviceConfig.id.toUInt8) :
    ∃ response, WellFormedResponse dev.deviceConfig.id.toUInt8 (frame.byte 1) response ∧
      (dev.frameStep frame).transmitted = dev.transmitted ++ [response] := by
  obtain ⟨long, crc, own, enough⟩ := asks
  have unicast : ¬ frame.IsBroadcast := by
    intro broadcast
    exact valid.toUInt8_ne_zero (own.symm.trans broadcast)
  have address : frame.byte 0 = dev.noteValidFrame.modbus.slaveAddress :=
    own.trans (noteValidFrame_slaveAddress valid).symm
  have transmits : (dev.frameStep frame).transmitted ≠ dev.transmitted := by
    rw [frameStep, processFrame_of_reaches ⟨long, crc, Or.inr address⟩]
    exact dev.noteValidFrame.dispatch_transmits unicast enough
  exact (frameStep_responds dev frame valid).resolve_left transmits

/-- Any other frame has none. -/
theorem frameStep_silent_of_not_asks
    (dev : Device D)
    {frame : FrameItem}
    (valid : dev.IdValid)
    (other : ¬ frame.Asks dev.deviceConfig.id.toUInt8) :
    (dev.frameStep frame).transmitted = dev.transmitted := by
  by_cases silent : frame.len < 4 ∨ ¬ frame.CrcMatches ∨ frame.byte 0 = 0 ∨
      frame.byte 0 ≠ dev.deviceConfig.id.toUInt8
  · exact frameStep_silent dev frame valid silent
  · simp only [not_or, not_not] at silent
    obtain ⟨notShort, crc, -, own⟩ := silent
    have long : 4 ≤ frame.len := UInt16.not_lt.mp notShort
    have short : TooShort frame := by
      by_contra enough
      exact other ⟨long, crc, own, enough⟩
    have address : frame.byte 0 = dev.noteValidFrame.modbus.slaveAddress :=
      own.trans (noteValidFrame_slaveAddress valid).symm
    rw [frameStep, processFrame_of_reaches ⟨long, crc, Or.inr address⟩,
      dispatch_tooShort _ short]
    rfl

/-! ## One call of `process` -/

omit [DoubleArith D] in
/-- What the queue is used for transmits nothing. -/
theorem dequeued_transmitted
    (dev : Device D)
    (received : Option UartFrame)
    (time : UInt32) :
    (dev.dequeued received time).2.transmitted = dev.transmitted := by
  have queued : (dev.queueReceived received time).2.transmitted = dev.transmitted := by
    cases received with
    | none => rfl
    | some received =>
        simp only [queueReceived, queueFrame]
        split
        · split
          · rfl
          · rfl
        · rfl
  have taken (waiting : Device D) (frame : FrameItem) :
      (waiting.dequeueFrame (some frame)).2.2.transmitted = waiting.transmitted := by
    rw [dequeueFrame]
    split
    · rfl
    · rfl
  exact (taken _ _).trans queued

/-- From an empty queue on, a call takes up the request that it fetches. -/
theorem QueueEmpty.dequeued_request
    {dev : Device D}
    (empty : dev.QueueEmpty)
    (received : UartFrame)
    {body : List UInt8}
    (bytes : received.bytes = withCrc body)
    (time : UInt32) :
    (dev.dequeued (some received) time).1 ≠ 0 ∧
      SameRequest (dev.dequeued (some received) time).2.modbus.frameScratch
        (makeFrame body) := by
  have length : received.bytes.length = body.length + 2 := by simp [bytes, withCrc]
  have fits := received.fits
  have arrival : UartFrame.arrival (some received) time =
      some ⟨withCrc body, (withCrc body).length, time⟩ := by
    rw [UartFrame.arrival, if_pos (by omega), bytes]
  obtain ⟨-, -, arrived⟩ := empty.process (some received) time
  rw [process_processed, arrival] at arrived
  split at arrived
  case isTrue someFrame =>
    exact ⟨someFrame, FrameItem.sameRequest_of_queued (by omega) (Option.some.inj arrived)⟩
  case isFalse => exact absurd arrived (by simp)

/-- A call keeps a legal id. -/
theorem process_idValid
    {dev : Device D}
    (valid : dev.IdValid)
    (received : Option UartFrame)
    (time : UInt32) :
    (dev.process received time).2.IdValid := by
  have config : (dev.dequeued received time).2.deviceConfig = dev.deviceConfig :=
    congrArg SettingsState.deviceConfig (dev.dequeued_settings received time)
  have kept : (dev.dequeued received time).2.IdValid := by
    rw [IdValid, config]
    exact valid
  rw [process_eq]
  split
  · exact frameStep_idValid kept
  · exact kept

/-- From an empty queue on, a call transmits one response to a request to the device, and
nothing otherwise. -/
theorem QueueEmpty.process_responds
    {dev : Device D}
    (empty : dev.QueueEmpty)
    (valid : dev.IdValid)
    (received : Option UartFrame)
    (time : UInt32) :
    (HasResponse dev.deviceConfig.id.toUInt8 (receivedBytes received) ∧
        ∃ response,
          Exchange.Answers ⟨receivedBytes received, response⟩ dev.deviceConfig.id.toUInt8 ∧
          (dev.process received time).2.transmitted = dev.transmitted ++ [response]) ∨
      (¬ HasResponse dev.deviceConfig.id.toUInt8 (receivedBytes received) ∧
        (dev.process received time).2.transmitted = dev.transmitted) := by
  obtain ⟨-, -, arrived⟩ := empty.process received time
  rw [process_processed, UartFrame.arrival_eq] at arrived
  rw [process_eq]
  by_cases someFrame : (dev.dequeued received time).1 ≠ 0
  · rw [if_pos someFrame] at arrived ⊢
    have config : (dev.dequeued received time).2.deviceConfig = dev.deviceConfig :=
      congrArg SettingsState.deviceConfig (dev.dequeued_settings received time)
    have kept := dev.dequeued_transmitted received time
    generalize (dev.dequeued received time).2 = after at config kept arrived ⊢
    have validAfter : after.IdValid := by
      rw [IdValid, config]
      exact valid
    split at arrived
    case isFalse => exact absurd arrived (by simp)
    case isTrue =>
      have queued := Option.some.inj arrived
      have fits := length_receivedBytes received
      rw [← config, ← kept]
      by_cases asks : after.modbus.frameScratch.Asks after.deviceConfig.id.toUInt8
      · left
        obtain ⟨request, enough⟩ := asks.isRequest queued fits
        obtain ⟨response, wellFormed, transmits⟩ :=
          after.frameStep_responds_of_asks validAfter asks
        exact ⟨⟨_, request, enough⟩, response, ⟨_, request, enough, wellFormed⟩, transmits⟩
      · right
        have silent := after.frameStep_silent_of_not_asks validAfter asks
        rw [FrameItem.asks_iff_hasResponse queued fits] at asks
        exact ⟨asks, silent⟩
  · rw [if_neg someFrame] at arrived ⊢
    right
    refine ⟨?_, dequeued_transmitted dev received time⟩
    rintro ⟨function, request, -⟩
    have long := request.le_length
    rw [if_pos (by omega)] at arrived
    exact absurd arrived (by simp)

end Device

end SensorFirmware
