import PreRunner.Encoder.EncoderState

/-!
# The encoder node and its worker thread

The kernel stamps every edge of the GPIO line and queues it. The worker thread reads one event
and then records it under the lock of the encoder state; the executor thread reads the clock and
then takes a measurement under the same lock. Between the two halves of either thread the other
thread may run, so every half is an action of its own.
-/

namespace PreRunner.Encoder

/-- `GpioEventReader`: the event it has read and not yet recorded, and its counters. -/
structure GpioEventReader where
  event : Option ℤ := none
  eventCount : ℕ := 0
  shortIntervalCount : ℕ := 0
  lastEventNs : Option ℤ := none
  deriving DecidableEq, Repr

/-- `event_read` and the bookkeeping before `_record_edge`. -/
def GpioEventReader.read (reader : GpioEventReader) (timestampNs : ℤ) : GpioEventReader where
  event := some timestampNs
  eventCount := reader.eventCount + 1
  shortIntervalCount :=
    if reader.lastEventNs.any (timestampNs - · < minEdgeIntervalNs) then
      reader.shortIntervalCount + 1
    else reader.shortIntervalCount
  lastEventNs := some timestampNs

/-- The node, the monotonic clock, the queue of the GPIO line, and what either thread holds. -/
structure EncoderNode where
  state : EncoderState
  metresPerEdge : ℚ
  clock : ℤ
  queue : List ℤ := []
  reader : GpioEventReader := {}
  /-- The executor has read the clock and waits for the lock. -/
  reading : Option ℤ := none
  deriving DecidableEq, Repr

/-- The steps of the two threads and of the world around them. -/
inductive EncoderAction where
  | elapse (ns : ℕ)
  | edge
  | readEvent
  | recordEdge
  | onDirection (data : ℤ)
  | readClock
  | takeMeasurement
  deriving DecidableEq, Repr

/-- What can be observed of a step: an edge the state accepted, or a published measurement. -/
inductive EncoderOutput where
  | accepted (edgeNs : ℤ)
  | measured (timestampNs : ℤ) (measurement : EncoderMeasurement) (signedSpeed : ℚ)
  deriving DecidableEq, Repr

namespace EncoderNode

/-- The signed speed of `build_publications`. -/
def signedSpeed (measurement : EncoderMeasurement) (metresPerEdge : ℚ) : ℚ :=
  measurement.edgeRate * metresPerEdge * measurement.pendingDirection

/-- One action. An action whose thread is not at that point does nothing. -/
def step (node : EncoderNode) : EncoderAction → EncoderNode × List EncoderOutput
  | .elapse ns => ({ node with clock := node.clock + ns }, [])
  | .edge => ({ node with queue := node.queue ++ [node.clock] }, [])
  | .readEvent =>
    match node.queue, node.reader.event with
    | timestampNs :: queue, none =>
      ({ node with queue, reader := node.reader.read timestampNs }, [])
    | _, _ => (node, [])
  | .recordEdge =>
    match node.reader.event with
    | some timestampNs =>
      ({ node with
          state := node.state.recordEdge timestampNs
          reader := { node.reader with event := none } },
        if node.state.rejectsEdge timestampNs then [] else [.accepted timestampNs])
    | none => (node, [])
  | .onDirection data =>
    match node.reading with
    | none => ({ node with state := (node.state.updateDirection data).1 }, [])
    | some _ => (node, [])
  | .readClock =>
    match node.reading with
    | none => ({ node with reading := some node.clock }, [])
    | some _ => (node, [])
  | .takeMeasurement =>
    match node.reading with
    | some monotonicNs =>
      let (state, measurement) := node.state.takeMeasurement monotonicNs
      ({ node with state, reading := none },
        [.measured monotonicNs measurement (signedSpeed measurement node.metresPerEdge)])
    | none => (node, [])

end EncoderNode

end PreRunner.Encoder
