import SensorFirmware.Library.FixedArray
import SensorFirmware.Library.Transition

/-!
# UART reception

The receiver of the Modbus link: the DMA stream that fills the receive ring, the
two mechanisms that find the end of a frame, and the functions that hand a frame
to the service.  The registers of the transmitter and the pin configuration are
left out.
-/

namespace SensorFirmware

/-- `RtuState`. -/
inductive RtuState
  | rtuIdle
  | rtuReceiving
  deriving DecidableEq

/-- The variables of the receiver, of its frame timer and of the tick. -/
structure Uart where
  /-- `rxRing.buf`, of `UART_RX_BUF_SIZE` bytes. -/
  buf : Vector UInt8 256
  /-- `rxRing.tail`. -/
  tail : UInt16
  rtuState : RtuState
  rtuLastHead : UInt16
  rtuFrameHead : UInt16
  rtuDeadline : UInt32
  /-- `DMA2_Stream2->NDTR`: the bytes until the stream wraps around. -/
  ndtr : UInt16
  baudRate : UInt16
  uartTxBusy : UInt8
  rtuFrameReady : UInt8
  modbusT35Steps : UInt16
  modbusTimerCounter : UInt16
  modbusTimerRunning : UInt8
  modbusCounter : UInt16
  msTicks : UInt32
  msDivider : UInt8
  deriving DecidableEq

namespace Uart

/-- The initial values of the variables. -/
def powerOn : Uart where
  buf := Vector.replicate 256 0
  tail := 0
  rtuState := .rtuIdle
  rtuLastHead := 0
  rtuFrameHead := 0
  rtuDeadline := 0
  ndtr := 0
  baudRate := 0
  uartTxBusy := 0
  rtuFrameReady := 0
  modbusT35Steps := 35
  modbusTimerCounter := 0
  modbusTimerRunning := 0
  modbusCounter := 0
  msTicks := 0
  msDivider := 0

/-- The part of `UART_Init` that concerns the receiver. -/
def init (uart : Uart) (baud : UInt32) : Uart :=
  { uart with
    buf := Vector.replicate 256 0
    tail := 0
    baudRate := baud.toUInt16
    uartTxBusy := 0
    rtuFrameReady := 0
    modbusTimerRunning := 0
    modbusTimerCounter := 0
    rtuState := .rtuIdle
    rtuLastHead := 0
    rtuFrameHead := 0
    rtuDeadline := 0
    ndtr := 256 }

/-- The part of `DelayTimer::initialize` that concerns the tick. -/
def delayTimerInitialize (uart : Uart) : Uart :=
  { uart with
    msTicks := 0
    modbusCounter := 0 }

/-- `dmaHead`. -/
def dmaHead (uart : Uart) : UInt16 := 256 - uart.ndtr

/-- The DMA stream stores a received byte. -/
def receive (uart : Uart) (byte : UInt8) : Uart :=
  { uart with
    buf := FixedArray.write uart.buf uart.dmaHead.toNat byte
    ndtr := if uart.ndtr = 1 then 256 else uart.ndtr - 1 }

/-- `UART_RTU_Poll`. -/
def rtuPoll (uart : Uart) : Uart :=
  let head := uart.dmaHead
  let now := uart.msTicks
  match uart.rtuState with
  | .rtuIdle =>
      if uart.rtuFrameReady ≠ 0 then uart
      else if head ≠ uart.tail then
        { uart with
          rtuState := .rtuReceiving
          rtuLastHead := head
          rtuDeadline := now + 3 }
      else uart
  | .rtuReceiving =>
      if head ≠ uart.rtuLastHead then
        { uart with
          rtuLastHead := head
          rtuDeadline := now + 3 }
      else if 0 ≤ (now - uart.rtuDeadline).toInt32 then
        { uart with
          rtuFrameHead := head
          rtuFrameReady := 1
          rtuState := .rtuIdle }
      else uart

/-- One byte of the copy loop of `UART_GetFrame`. -/
def copyByte (buf : Vector UInt8 256) (copied : List UInt8 × UInt16) :
    List UInt8 × UInt16 :=
  let tail := copied.2 + 1
  (copied.1 ++ [FixedArray.read buf copied.2.toNat], if 256 ≤ tail then 0 else tail)

/-- The length of the latched frame in `UART_GetFrame`. -/
def frameLength (uart : Uart) : UInt16 :=
  let head := uart.rtuFrameHead
  let tail := uart.tail
  if tail ≤ head then head - tail else 256 - tail + head

/-- `UART_GetFrame`: the bytes copied and the receiver afterwards. -/
def getFrame (uart : Uart) (maxLen : UInt16) : List UInt8 × Uart :=
  let len := uart.frameLength
  if len = 0 then ([], uart)
  else
    let len := if maxLen < len then maxLen else len
    let copied := countedLoop (fun _ => copyByte uart.buf) len.toNat ([], uart.tail)
    (copied.1, { uart with tail := copied.2 })

/-- `UartDriver::fetchFrame` with a destination; `BufferSize` is 256. -/
def fetchFrame (uart : Uart) (maxLength : UInt32) : List UInt8 × Uart :=
  if maxLength = 0 then ([], uart)
  else
    let maxLength := if 256 < maxLength then 256 else maxLength
    if uart.rtuFrameReady = 0 then ([], uart)
    else
      let frame := uart.getFrame maxLength.toUInt16
      (frame.1, { frame.2 with rtuFrameReady := 0 })

/-- The limit of the frame timer for a baud rate. -/
def t35Steps (baudRate : UInt16) : UInt16 :=
  if 19200 < baudRate then 18
  else (38500000 / baudRate.toUInt32 / 50).toUInt16

/-- `USART1_IRQHandler`, by the flags of the status register. -/
def usart1IrqHandler (uart : Uart) (rxne idle tc : Bool) : Uart :=
  let uart :=
    if rxne then { uart with modbusTimerRunning := 0, modbusTimerCounter := 0 }
    else uart
  let uart :=
    if idle then
      { uart with
        rtuFrameHead := uart.dmaHead
        modbusTimerCounter := 0
        modbusTimerRunning := 1
        modbusT35Steps := t35Steps uart.baudRate }
    else uart
  if tc then { uart with uartTxBusy := 0 } else uart

/-- `DelayTimer::onSysTickInterrupt`. -/
def onSysTickInterrupt (uart : Uart) : Uart :=
  let uart :=
    if uart.modbusTimerRunning ≠ 0 then
      let counted :=
        { uart with
          modbusCounter := uart.modbusCounter + 1
          modbusTimerCounter := uart.modbusTimerCounter + 1 }
      if counted.modbusT35Steps ≤ counted.modbusCounter then
        { counted with
          modbusTimerRunning := 0
          modbusCounter := 0
          modbusTimerCounter := 0
          rtuFrameReady := 1 }
      else counted
    else uart
  let msDivider := uart.msDivider + 1
  if 10 ≤ msDivider then { uart with msTicks := uart.msTicks + 1, msDivider := 0 }
  else { uart with msDivider := msDivider }

end Uart

/-- What happens to the receiver: a byte on the line, an interrupt or a call. -/
inductive UartEvent
  | byte (value : UInt8)
  | usart1 (rxne idle tc : Bool)
  | sysTick
  | poll
  | fetch (maxLength : UInt32)
  deriving DecidableEq

namespace Uart

/-- The receiver after one event. -/
def step (uart : Uart) : UartEvent → Uart
  | .byte value => uart.receive value
  | .usart1 rxne idle tc => uart.usart1IrqHandler rxne idle tc
  | .sysTick => uart.onSysTickInterrupt
  | .poll => uart.rtuPoll
  | .fetch maxLength => (uart.fetchFrame maxLength).2

end Uart

end SensorFirmware
