import Mathlib.Data.List.Induction
import SensorFirmware.Library.FixedArray
import SensorFirmware.Library.Transition

/-!
# UART transmission

`UART_Send` copies a frame into a buffer, switches the RS-485 transceiver over and starts
the DMA stream that moves the buffer to the data register.  The interrupts of the stream
and of the UART may come between any two of its statements.  When the UART reports that
everything has left it, the transceiver is switched back and the buffer is free again.
-/

namespace SensorFirmware

/-- The variables of the transmitter, the level of PA8 and the registers of the stream. -/
structure UartTx where
  uartTxBusy : UInt8
  txBuf : Vector UInt8 256
  /-- PA8 is high: the transceiver drives the line. -/
  transmitMode : Bool
  /-- `DMA_SxCR_EN` of `DMA2_Stream7->CR`. -/
  enabled : Bool
  /-- The byte of `txBuf` that the stream moves next. -/
  next : Nat
  /-- `DMA2_Stream7->NDTR`. -/
  ndtr : Nat
  /-- `USART_CR3_DMAT` of `USART1->CR3`. -/
  dmat : Bool
  /-- `DMA_HISR_TCIF7` of `DMA2->HISR`. -/
  tcif7 : Bool
  /-- `USART_CR1_TCIE` of `USART1->CR1`. -/
  tcie : Bool
  /-- The bytes moved to the data register, each with the level of PA8 at that moment. -/
  moved : List (UInt8 × Bool)
  deriving DecidableEq

/-- The statements of `UART_Send` behind its checks. -/
inductive SendStep
  | setBusy
  | copy (data : List UInt8)
  | transmitMode
  | disableStream
  | clearFlags
  | setAddress
  | setCount (len : Nat)
  | setControl
  | enableRequests
  | enableStream
  deriving DecidableEq

namespace UartTx

/-! ## The code -/

/-- The transmitter after `UART_Init`. -/
def init : UartTx where
  uartTxBusy := 0
  txBuf := Vector.replicate 256 0
  transmitMode := false
  enabled := false
  next := 0
  ndtr := 0
  dmat := false
  tcif7 := false
  tcie := false
  moved := []

/-- One statement of `UART_Send`.  The stream is configured to go through the buffer and to
interrupt at its end, with `DMA_SxCR_EN` still clear. -/
def perform (tx : UartTx) : SendStep → UartTx
  | .setBusy => { tx with uartTxBusy := 1 }
  | .copy data => { tx with txBuf := FixedArray.writeAll tx.txBuf 0 data }
  | .transmitMode => { tx with transmitMode := true }
  | .disableStream => { tx with enabled := false }
  | .clearFlags => { tx with tcif7 := false }
  | .setAddress => { tx with next := 0 }
  | .setCount len => { tx with ndtr := len }
  | .setControl => { tx with enabled := false }
  | .enableRequests => { tx with dmat := true }
  | .enableStream => { tx with enabled := true }

/-- `UART_Send` behind its checks, in order. -/
def sendSteps (data : List UInt8) : List SendStep :=
  [.setBusy, .copy data, .transmitMode, .disableStream, .clearFlags, .setAddress,
    .setCount data.length, .setControl, .enableRequests, .enableStream]

/-- The checks of `UART_Send`, which `UartDriver::send` makes as well. -/
def Accepts (tx : UartTx) (data : List UInt8) : Prop :=
  data.length ≠ 0 ∧ data.length ≤ 256 ∧ tx.uartTxBusy = 0

instance (tx : UartTx) (data : List UInt8) : Decidable (tx.Accepts data) :=
  inferInstanceAs (Decidable (_ ∧ _ ∧ _))

/-- The stream moves a byte to the data register when the UART asks for one.  Behind the
last one it is disabled and sets its flag. -/
def moveByte (tx : UartTx) : UartTx :=
  if tx.enabled ∧ tx.dmat ∧ tx.ndtr ≠ 0 then
    { tx with
      moved := tx.moved ++ [(FixedArray.read tx.txBuf tx.next, tx.transmitMode)]
      next := tx.next + 1
      ndtr := tx.ndtr - 1
      enabled := tx.ndtr ≠ 1
      tcif7 := tx.tcif7 || tx.ndtr = 1 }
  else tx

/-- `DMA2_Stream7_IRQHandler`. -/
def dma2Stream7IrqHandler (tx : UartTx) : UartTx :=
  if tx.tcif7 then { tx with tcif7 := false, tcie := true } else tx

/-- The part of `USART1_IRQHandler` that concerns the transmitter, by the flag TC of the
status register. -/
def usart1IrqHandler (tx : UartTx) (tc : Bool) : UartTx :=
  if tc then { tx with tcie := false, transmitMode := false, uartTxBusy := 0 } else tx

end UartTx

/-- The transmitter, and what is left of `UART_Send` in the main loop. -/
structure Transmitter extends UartTx where
  program : List SendStep
  deriving DecidableEq

/-- What happens to the transmitter. -/
inductive TxEvent
  | send (data : List UInt8)
  | proceed
  | moveByte
  | dma2Stream7
  | usart1 (tc : Bool)
  deriving DecidableEq

namespace Transmitter

/-- The transmitter after `UART_Init`. -/
def init : Transmitter := { UartTx.init with program := [] }

/-- The frame that a call accepts.  The main loop calls `UART_Send` only behind its last
call. -/
def accepted (transmitter : Transmitter) : TxEvent → Option (List UInt8)
  | .send data =>
      if transmitter.program = [] ∧ transmitter.Accepts data then some data else none
  | _ => none

def step (transmitter : Transmitter) (event : TxEvent) : Transmitter :=
  match event with
  | .send data =>
      if transmitter.program = [] ∧ transmitter.Accepts data then
        { transmitter with program := UartTx.sendSteps data }
      else transmitter
  | .proceed =>
      match transmitter.program with
      | [] => transmitter
      | statement :: program =>
          { toUartTx := transmitter.perform statement, program := program }
  | .moveByte => { transmitter with toUartTx := transmitter.moveByte }
  | .dma2Stream7 => { transmitter with toUartTx := transmitter.dma2Stream7IrqHandler }
  | .usart1 tc => { transmitter with toUartTx := transmitter.usart1IrqHandler tc }

def run (transmitter : Transmitter) (events : List TxEvent) : Transmitter :=
  Transition.run step transmitter events

/-- The accepted frames of a run, in order. -/
def acceptedFrames (transmitter : Transmitter) (events : List TxEvent) : List (List UInt8) :=
  (Transition.outputs step accepted transmitter events).filterMap id

/-- The UART reports that everything has left it only when there is nothing to move. -/
def Timely (transmitter : Transmitter) (event : TxEvent) : Prop :=
  event = .usart1 true → transmitter.program = [] ∧ transmitter.enabled = false

instance (transmitter : Transmitter) (event : TxEvent) :
    Decidable (transmitter.Timely event) :=
  inferInstanceAs (Decidable (_ → _))

end Transmitter

namespace UartTx

/-! ## What is left to move -/

/-- The bytes that the stream still has to move. -/
def left (tx : UartTx) : List UInt8 :=
  (List.range tx.ndtr).map fun index => FixedArray.read tx.txBuf (tx.next + index)

/-- The stream moves the buffer, with the transceiver on. -/
structure Streaming (tx : UartTx) : Prop where
  enabled : tx.enabled = true
  requests : tx.dmat = true
  some : tx.ndtr ≠ 0
  transmitMode : tx.transmitMode = true
  busy : tx.uartTxBusy ≠ 0

/-- The stream has moved everything.  While the transmitter is busy, the transceiver is on
and an interrupt will report it. -/
structure Finished (tx : UartTx) : Prop where
  disabled : tx.enabled = false
  busy : tx.uartTxBusy ≠ 0 → tx.transmitMode = true ∧ (tx.tcif7 = true ∨ tx.tcie = true)
  free : tx.uartTxBusy = 0 → tx.transmitMode = false

/-- The statements of `UART_Send` start the stream on the frame. -/
theorem foldl_sendSteps
    (tx : UartTx)
    {data : List UInt8}
    (nonempty : data.length ≠ 0)
    (fits : data.length ≤ 256) :
    ((sendSteps data).foldl perform tx).Streaming ∧
      ((sendSteps data).foldl perform tx).left = data := by
  constructor
  · exact
      { enabled := rfl
        requests := rfl
        some := nonempty
        transmitMode := rfl
        busy := show (1 : UInt8) ≠ 0 by decide }
  · apply List.ext_getElem
    · exact (List.length_map _).trans List.length_range
    · intro index _ inside
      have stored := FixedArray.read_writeAll tx.txBuf 0 data (by omega) index
      rw [if_pos (by omega)] at stored
      simp only [left, List.getElem_map, List.getElem_range]
      show FixedArray.read (FixedArray.writeAll tx.txBuf 0 data) (0 + index) = data[index]
      rw [Nat.zero_add, stored, Nat.sub_zero, List.getD_eq_getElem?_getD,
        List.getElem?_eq_getElem inside, Option.getD_some]

/-- A statement of `UART_Send` moves nothing. -/
@[simp] theorem perform_moved
    (tx : UartTx)
    (statement : SendStep) :
    (tx.perform statement).moved = tx.moved := by
  cases statement <;> rfl

/-- Only the last statement enables the stream. -/
theorem perform_enabled
    {tx : UartTx}
    (disabled : tx.enabled = false)
    {statement : SendStep}
    (other : statement ≠ .enableStream) :
    (tx.perform statement).enabled = false := by
  cases statement with
  | enableStream => exact absurd rfl other
  | disableStream | setControl => rfl
  | setBusy | copy | transmitMode | clearFlags | setAddress | setCount | enableRequests =>
      exact disabled

/-- The transmitter with other interrupt flags. -/
def withFlags (tx : UartTx) (tcif7 tcie : Bool) : UartTx :=
  { tx with tcif7 := tcif7, tcie := tcie }

/-- The flags have no influence on `UART_Send`. -/
theorem foldl_withFlags
    (tx : UartTx)
    (tcif7 tcie : Bool)
    (program : List SendStep) :
    ∃ flag interrupt, program.foldl perform (tx.withFlags tcif7 tcie) =
      (program.foldl perform tx).withFlags flag interrupt := by
  induction program generalizing tx tcif7 with
  | nil => exact ⟨tcif7, tcie, rfl⟩
  | cons statement program inductionHypothesis =>
      rw [List.foldl_cons, List.foldl_cons]
      have same : ∃ flag, (tx.withFlags tcif7 tcie).perform statement =
          (tx.perform statement).withFlags flag tcie := by
        cases statement with
        | clearFlags => exact ⟨false, rfl⟩
        | setBusy | copy | transmitMode | disableStream | setAddress | setCount | setControl
        | enableRequests | enableStream => exact ⟨tcif7, rfl⟩
      obtain ⟨flag, moved⟩ := same
      rw [moved]
      exact inductionHypothesis _ flag

theorem Streaming.withFlags
    {tx : UartTx}
    (streaming : tx.Streaming)
    (tcif7 tcie : Bool) :
    (tx.withFlags tcif7 tcie).Streaming where
  enabled := streaming.enabled
  requests := streaming.requests
  some := streaming.some
  transmitMode := streaming.transmitMode
  busy := streaming.busy

/-- The handler of the stream only changes the flags. -/
theorem dma2Stream7IrqHandler_eq (tx : UartTx) :
    ∃ tcif7 tcie, tx.dma2Stream7IrqHandler = tx.withFlags tcif7 tcie := by
  rw [dma2Stream7IrqHandler]
  split
  · exact ⟨false, true, rfl⟩
  · exact ⟨tx.tcif7, tx.tcie, rfl⟩

/-- An interrupt of the stream leads to one of the UART. -/
theorem Finished.dma2Stream7IrqHandler
    {tx : UartTx}
    (finished : tx.Finished) :
    tx.dma2Stream7IrqHandler.Finished := by
  rw [UartTx.dma2Stream7IrqHandler]
  split
  · exact ⟨finished.disabled, fun busy => ⟨(finished.busy busy).1, Or.inr rfl⟩, finished.free⟩
  · exact finished

/-- The stream moves the next byte with the transceiver on. -/
theorem Streaming.moveByte
    {tx : UartTx}
    (streaming : tx.Streaming) :
    ∃ byte rest, tx.left = byte :: rest ∧ tx.moveByte.moved = tx.moved ++ [(byte, true)] ∧
      (rest = [] ∧ tx.moveByte.Finished ∨
        tx.moveByte.Streaming ∧ tx.moveByte.left = rest) := by
  obtain ⟨enabled, requests, some, transmitMode, busy⟩ := streaming
  obtain ⟨count, counted⟩ := Nat.exists_eq_succ_of_ne_zero some
  have moves : tx.moveByte =
      { tx with
        moved := tx.moved ++ [(FixedArray.read tx.txBuf tx.next, true)]
        next := tx.next + 1
        ndtr := count
        enabled := count ≠ 0
        tcif7 := tx.tcif7 || count = 0 } := by
    rw [UartTx.moveByte, if_pos ⟨enabled, requests, some⟩, counted, transmitMode]
    simp
  refine ⟨FixedArray.read tx.txBuf tx.next,
    (List.range count).map fun index => FixedArray.read tx.txBuf (tx.next + 1 + index), ?_, ?_,
    ?_⟩
  · rw [left, counted, List.range_succ_eq_map, List.map_cons, List.map_map, Nat.add_zero]
    congr 1
    apply List.map_congr_left
    intro index _
    simp only [Function.comp_apply, Nat.succ_eq_add_one]
    rw [Nat.add_right_comm, Nat.add_assoc]
  · rw [moves]
  · rw [moves]
    by_cases last : count = 0
    · left
      subst last
      exact ⟨rfl, rfl, fun _ => ⟨transmitMode, Or.inl (by simp)⟩, fun free => absurd free busy⟩
    · right
      exact ⟨⟨by simpa using last, requests, last, transmitMode, busy⟩, rfl⟩

end UartTx

namespace Transmitter

/-! ## Along a run -/

/-- How far the last accepted frame is, and the bytes of it that are still to be moved. -/
inductive Phase (transmitter : Transmitter) : List UInt8 → Prop
  | finished
      (returned : transmitter.program = [])
      (finished : transmitter.Finished) :
      Phase transmitter []
  | streaming
      (returned : transmitter.program = [])
      (streaming : transmitter.Streaming) :
      Phase transmitter transmitter.left
  | sending
      (before : List SendStep)
      (program : transmitter.program = before ++ [.enableStream])
      (once : .enableStream ∉ before)
      (disabled : transmitter.enabled = false)
      (starts : (transmitter.program.foldl UartTx.perform transmitter.toUartTx).Streaming) :
      Phase transmitter (transmitter.program.foldl UartTx.perform transmitter.toUartTx).left

/-- What has been moved, with the transceiver on, are the accepted frames up to the rest of
the last one. -/
structure Transmits (transmitter : Transmitter) (frames : List (List UInt8))
    (rest : List UInt8) : Prop where
  phase : transmitter.Phase rest
  moved : transmitter.moved.map Prod.fst ++ rest = frames.flatten
  driven : ∀ byte ∈ transmitter.moved, byte.2 = true

theorem transmits_init : init.Transmits [] [] where
  phase := .finished rfl ⟨rfl, fun busy => absurd rfl busy, fun _ => rfl⟩
  moved := rfl
  driven := nofun

/-- A call is accepted only when everything has been moved. -/
theorem Phase.rest_of_accepts
    {transmitter : Transmitter}
    {rest : List UInt8}
    (phase : transmitter.Phase rest)
    (returned : transmitter.program = [])
    (free : transmitter.uartTxBusy = 0) :
    rest = [] ∧ transmitter.Finished := by
  cases phase with
  | finished _ finished => exact ⟨rfl, finished⟩
  | streaming _ streaming => exact absurd free streaming.busy
  | sending before program => exact absurd (returned.symm.trans program) (by simp)

theorem Transmits.send
    {transmitter : Transmitter}
    {frames : List (List UInt8)}
    {rest : List UInt8}
    (transmits : transmitter.Transmits frames rest)
    {data : List UInt8}
    (returned : transmitter.program = [])
    (accepts : transmitter.Accepts data) :
    Transmits { transmitter with program := UartTx.sendSteps data }
      (frames ++ [data]) data := by
  obtain ⟨nonempty, fits, free⟩ := accepts
  obtain ⟨rfl, finished⟩ := transmits.phase.rest_of_accepts returned free
  obtain ⟨starts, frame⟩ := transmitter.toUartTx.foldl_sendSteps nonempty fits
  have phase : Phase { transmitter with program := UartTx.sendSteps data } _ :=
    .sending (UartTx.sendSteps data).dropLast rfl (by simp [UartTx.sendSteps])
      finished.disabled starts
  refine ⟨?_, ?_, transmits.driven⟩
  · rwa [frame] at phase
  · have moved := transmits.moved
    rw [List.append_nil] at moved
    rw [List.flatten_append, ← moved, List.flatten_singleton]

theorem Transmits.proceed
    {transmitter : Transmitter}
    {frames : List (List UInt8)}
    {rest : List UInt8}
    (transmits : transmitter.Transmits frames rest) :
    (transmitter.step .proceed).Transmits frames rest := by
  obtain ⟨phase, moved, driven⟩ := transmits
  cases phase with
  | finished returned finished =>
      have idle : transmitter.step .proceed = transmitter := by rw [step, returned]
      rw [idle]
      exact ⟨.finished returned finished, moved, driven⟩
  | streaming returned streaming =>
      have idle : transmitter.step .proceed = transmitter := by rw [step, returned]
      rw [idle]
      exact ⟨.streaming returned streaming, moved, driven⟩
  | sending before program once disabled starts =>
      rw [program] at starts moved ⊢
      cases before with
      | nil =>
          rw [step, program]
          exact ⟨.streaming rfl starts, moved, driven⟩
      | cons statement before =>
          obtain ⟨other, later⟩ := not_or.mp (mt List.mem_cons.mpr once)
          have proceeds : transmitter.step .proceed =
              { toUartTx := transmitter.perform statement
                program := before ++ [.enableStream] } := by
            rw [step, program]
            rfl
          rw [proceeds]
          refine ⟨.sending before rfl later
            (UartTx.perform_enabled disabled fun same => other same.symm) starts, ?_, ?_⟩
          · rw [← moved, UartTx.perform_moved, List.cons_append, List.foldl_cons]
          · rw [UartTx.perform_moved]
            exact driven

theorem Transmits.moveByte
    {transmitter : Transmitter}
    {frames : List (List UInt8)}
    {rest : List UInt8}
    (transmits : transmitter.Transmits frames rest) :
    ∃ rest, (transmitter.step .moveByte).Transmits frames rest := by
  have idle (disabled : transmitter.enabled = false) :
      transmitter.step .moveByte = transmitter := by
    rw [step, UartTx.moveByte, if_neg]
    rw [disabled]
    exact fun moves => absurd moves.1 Bool.false_ne_true
  obtain ⟨phase, moved, driven⟩ := transmits
  cases phase with
  | finished returned finished =>
      rw [idle finished.disabled]
      exact ⟨_, .finished returned finished, moved, driven⟩
  | sending before program once disabled starts =>
      rw [idle disabled]
      exact ⟨_, .sending before program once disabled starts, moved, driven⟩
  | streaming returned streaming =>
      obtain ⟨byte, rest, left, extended, after⟩ := streaming.moveByte
      have moves : transmitter.step .moveByte =
          { transmitter with toUartTx := transmitter.toUartTx.moveByte } := rfl
      have whole : (transmitter.step .moveByte).moved.map Prod.fst ++ rest =
          frames.flatten := by
        rw [moves, extended, List.map_append, List.append_assoc, ← moved, left]
        rfl
      have driving : ∀ other ∈ (transmitter.step .moveByte).moved, other.2 = true := by
        intro other listed
        rw [moves, extended] at listed
        rcases List.mem_append.mp listed with earlier | last
        · exact driven other earlier
        · rw [List.mem_singleton.mp last]
      refine ⟨rest, ?_, whole, driving⟩
      rcases after with ⟨rfl, finished⟩ | ⟨still, same⟩
      · exact .finished returned finished
      · rw [← same]
        exact .streaming returned still

theorem Transmits.dma2Stream7
    {transmitter : Transmitter}
    {frames : List (List UInt8)}
    {rest : List UInt8}
    (transmits : transmitter.Transmits frames rest) :
    (transmitter.step .dma2Stream7).Transmits frames rest := by
  obtain ⟨phase, moved, driven⟩ := transmits
  obtain ⟨tcif7, tcie, flags⟩ := transmitter.toUartTx.dma2Stream7IrqHandler_eq
  have handles : transmitter.step .dma2Stream7 =
      { transmitter with toUartTx := transmitter.withFlags tcif7 tcie } := by
    rw [step, flags]
  cases phase with
  | finished returned finished =>
      refine ⟨.finished returned finished.dma2Stream7IrqHandler, ?_, ?_⟩
      · rw [handles]
        exact moved
      · rw [handles]
        exact driven
  | streaming returned streaming =>
      rw [handles]
      exact ⟨.streaming returned (streaming.withFlags tcif7 tcie), moved, driven⟩
  | sending before program once disabled starts =>
      obtain ⟨flag, interrupt, same⟩ :=
        transmitter.toUartTx.foldl_withFlags tcif7 tcie transmitter.program
      have startsToo := starts.withFlags flag interrupt
      rw [← same] at startsToo
      have phase : Phase { transmitter with toUartTx := transmitter.withFlags tcif7 tcie } _ :=
        .sending before program once disabled startsToo
      rw [handles]
      refine ⟨?_, moved, driven⟩
      have left := congrArg UartTx.left same
      rw [show (transmitter.program.foldl UartTx.perform
        (transmitter.withFlags tcif7 tcie)).left = _ from left] at phase
      exact phase

/-- When everything has been moved, the report of the UART frees the transmitter. -/
theorem Transmits.usart1
    {transmitter : Transmitter}
    {frames : List (List UInt8)}
    {rest : List UInt8}
    (transmits : transmitter.Transmits frames rest)
    {tc : Bool}
    (timely : transmitter.Timely (.usart1 tc)) :
    (transmitter.step (.usart1 tc)).Transmits frames rest := by
  cases tc with
  | false => exact transmits
  | true =>
      obtain ⟨returned, disabled⟩ := timely rfl
      obtain ⟨phase, moved, driven⟩ := transmits
      cases phase with
      | finished =>
          have freed : (transmitter.usart1IrqHandler true).Finished :=
            ⟨disabled, fun busy => absurd rfl busy, fun _ => rfl⟩
          exact ⟨.finished returned freed, moved, driven⟩
      | streaming _ streaming =>
          exact absurd (disabled.symm.trans streaming.enabled) Bool.false_ne_true
      | sending before program => exact absurd (returned.symm.trans program) (by simp)

/-- Every event keeps what has been moved in step with the accepted frames. -/
theorem Transmits.step
    {transmitter : Transmitter}
    {frames : List (List UInt8)}
    {rest : List UInt8}
    (transmits : transmitter.Transmits frames rest)
    {event : TxEvent}
    (timely : transmitter.Timely event) :
    ∃ rest, (transmitter.step event).Transmits
      (frames ++ (transmitter.accepted event).toList) rest := by
  have silent {event : TxEvent} (none : transmitter.accepted event = none) :
      frames ++ (transmitter.accepted event).toList = frames := by
    rw [none, Option.toList_none, List.append_nil]
  cases event with
  | send data =>
      rw [Transmitter.step, accepted]
      split
      case isTrue accepts => exact ⟨data, transmits.send accepts.1 accepts.2⟩
      case isFalse =>
        rw [Option.toList_none, List.append_nil]
        exact ⟨rest, transmits⟩
  | proceed =>
      rw [silent rfl]
      exact ⟨rest, transmits.proceed⟩
  | moveByte =>
      rw [silent rfl]
      exact transmits.moveByte
  | dma2Stream7 =>
      rw [silent rfl]
      exact ⟨rest, transmits.dma2Stream7⟩
  | usart1 tc =>
      rw [silent rfl]
      exact ⟨rest, transmits.usart1 timely⟩

theorem acceptedFrames_concat
    (transmitter : Transmitter)
    (events : List TxEvent)
    (event : TxEvent) :
    transmitter.acceptedFrames (events ++ [event]) =
      transmitter.acceptedFrames events ++ ((transmitter.run events).accepted event).toList :=
  Transition.filterMap_outputs_concat step accepted transmitter events event

@[simp] theorem acceptedFrames_nil (transmitter : Transmitter) :
    transmitter.acceptedFrames [] = [] := rfl

theorem acceptedFrames_singleton
    (transmitter : Transmitter)
    (event : TxEvent) :
    transmitter.acceptedFrames [event] = (transmitter.accepted event).toList :=
  transmitter.acceptedFrames_concat [] event

/-- Every run keeps what has been moved in step with the accepted frames. -/
theorem Transmits.run
    {transmitter : Transmitter}
    {frames : List (List UInt8)}
    {rest : List UInt8}
    (transmits : transmitter.Transmits frames rest)
    {events : List TxEvent}
    (timely : Transition.AllSteps Transmitter.step Timely transmitter events) :
    ∃ rest, (transmitter.run events).Transmits
      (frames ++ transmitter.acceptedFrames events) rest := by
  induction events using List.reverseRecOn with
  | nil =>
      rw [acceptedFrames_nil, List.append_nil]
      exact ⟨rest, transmits⟩
  | append_singleton events event inductionHypothesis =>
      obtain ⟨earlier, last⟩ :=
        (Transition.allSteps_append_singleton transmitter events event).mp timely
      obtain ⟨rest, after⟩ := inductionHypothesis earlier
      rw [acceptedFrames_concat, ← List.append_assoc, Transmitter.run, Transition.run_append]
      exact after.step last

/-- The stream has moved a beginning of the frames, all of them behind its end, and drives
the line for each byte.  A free transmitter has moved everything and released the line, and
a busy one is bound to be freed. -/
structure Sends (transmitter : Transmitter) (frames : List (List UInt8)) : Prop where
  moved : ∃ rest, transmitter.moved.map Prod.fst ++ rest = frames.flatten ∧
    (transmitter.program = [] → transmitter.enabled = false → rest = [])
  driven : ∀ byte ∈ transmitter.moved, byte.2 = true
  free : transmitter.program = [] → transmitter.uartTxBusy = 0 →
    transmitter.moved.map Prod.fst = frames.flatten ∧ transmitter.transmitMode = false
  busy : transmitter.uartTxBusy ≠ 0 →
    transmitter.program ≠ [] ∨ transmitter.enabled = true ∨ transmitter.tcif7 = true ∨
      transmitter.tcie = true

theorem Transmits.sends
    {transmitter : Transmitter}
    {frames : List (List UInt8)}
    {rest : List UInt8}
    (transmits : transmitter.Transmits frames rest) :
    transmitter.Sends frames where
  moved := by
    refine ⟨rest, transmits.moved, ?_⟩
    intro returned disabled
    cases transmits.phase with
    | finished => rfl
    | streaming _ streaming =>
        exact absurd (disabled.symm.trans streaming.enabled) Bool.false_ne_true
    | sending before program => exact absurd (returned.symm.trans program) (by simp)
  driven := transmits.driven
  free := by
    intro returned free
    obtain ⟨rfl, finished⟩ := transmits.phase.rest_of_accepts returned free
    exact ⟨(List.append_nil _).symm.trans transmits.moved, finished.free free⟩
  busy := by
    intro busy
    cases transmits.phase with
    | finished _ finished => exact Or.inr (Or.inr (finished.busy busy).2)
    | streaming _ streaming => exact Or.inr (Or.inl streaming.enabled)
    | sending before program =>
        left
        rw [program]
        simp

/-- In every interleaving of the calls, their statements, the stream and the interrupts in
which the UART reports the end only when nothing is left to move, the stream sends the
accepted frames in order. -/
theorem run_transmitsFrames
    {events : List TxEvent}
    (timely : Transition.AllSteps step Timely init events) :
    (init.run events).Sends (init.acceptedFrames events) := by
  obtain ⟨rest, transmits⟩ := transmits_init.run timely
  exact transmits.sends

/-- A frame of two bytes, with an interrupt of the receiver in between. -/
def twoBytes : List TxEvent :=
  .send [0x11, 0x22] :: List.replicate 10 .proceed ++
    [.moveByte, .usart1 false, .moveByte, .dma2Stream7, .usart1 true]

theorem run_transmitsFrames_twoBytes :
    (init.run twoBytes).Sends (init.acceptedFrames twoBytes) := by
  refine run_transmitsFrames ?_
  simp only [twoBytes, List.replicate, List.cons_append, List.nil_append, Transition.AllSteps]
  decide +kernel

/-- The flag of the frame before, read by an interrupt of the receiver, releases the line
in the middle of a frame. -/
example :
    (init.run (.send [0x11, 0x22] :: List.replicate 10 .proceed ++
      [.moveByte, .usart1 true, .moveByte])).moved = [(0x11, true), (0x22, false)] := by
  decide +kernel

end Transmitter

end SensorFirmware
