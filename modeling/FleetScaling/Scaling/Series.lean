import FleetScaling.Scaling.Sample
import FleetScaling.Time.Rfc3339

/-!
# Series

A series is three columns of equal length, of launched instances, of joined nodes and of times, and
the end of the monitoring window. The entries at one index belong to one sample: a sample is pushed
onto all columns at once (`Series.push`), and the samples of a window one after another
(`Series.ofSamples`). A document holds the columns; it is accepted when they have the same length
(`Series.ofColumns`).
-/

namespace FleetScaling

open Json Time

/-- Decodes an instant from its text. -/
def instantDecoder : Decoder Instant :=
  (Decoder.text "an RFC 3339 formatted date and time string").andThen fun s =>
    (Instant.read s).mapError fun e => .rejected e.message

/-- What was seen in a monitoring window, column by column. -/
structure Series where
  /-- Launched instances. -/
  instances : List UInt32
  /-- Joined nodes. -/
  nodes : List UInt32
  /-- Seconds since 1970. -/
  times : List Float
  /-- The end of the window. -/
  endTime : Instant
  length_instances : instances.length = times.length
  length_nodes : nodes.length = times.length
  deriving DecidableEq

namespace Series

/-- The series without samples. -/
def empty (endTime : Instant) : Series := ⟨[], [], [], endTime, rfl, rfl⟩

/-- The series with one more sample; its end stays. -/
def push (series : Series) (sample : Sample) : Series where
  instances := series.instances ++ [sample.instances]
  nodes := series.nodes ++ [sample.nodes]
  times := series.times ++ [sample.time]
  endTime := series.endTime
  length_instances := by
    rw [List.length_append, List.length_append, series.length_instances]
    rfl
  length_nodes := by
    rw [List.length_append, List.length_append, series.length_nodes]
    rfl

/-- The series with another end. -/
def endingAt (series : Series) (endTime : Instant) : Series := { series with endTime }

/-- The series of samples. It ends with the last one, or at another time if there is none or its time
is no instant. -/
def ofSamples (samples : List Sample) (fallback : Instant) : Series :=
  let series := samples.foldl push (empty fallback)
  match samples.getLast? with
  | none => series
  | some last =>
    match Instant.ofEpoch? last.time with
    | none => series
    | some endTime => series.endingAt endTime

/-- The number of samples. -/
def size (series : Series) : Nat := series.times.length

/-- The most instances seen. -/
def peakInstances (series : Series) : Option UInt32 := series.instances.max?

/-- The most joined nodes seen. -/
def peakNodes (series : Series) : Option UInt32 := series.nodes.max?

/-- The joined nodes at the last sample. -/
def lastNodes (series : Series) : Option UInt32 := series.nodes.getLast?

/-! ## Samples -/

/-- Samples from columns, as far as the shortest goes. -/
def zipColumns : List UInt32 → List UInt32 → List Float → List Sample
  | i :: is, n :: ns, t :: ts => ⟨i, n, t⟩ :: zipColumns is ns ts
  | _, _, _ => []

/-- The samples of a series: what its columns have at each index. -/
def samples (series : Series) : List Sample :=
  zipColumns series.instances series.nodes series.times

/-! ## Documents -/

/-- The columns of a document. -/
structure Columns where
  instances : List UInt32
  nodes : List UInt32
  times : List Float
  endTime : Instant

/-- The series of columns of equal length. -/
def ofColumns (columns : Columns) : Except DecodeError Series :=
  let ⟨instances, nodes, times, endTime⟩ := columns
  if h : instances.length = times.length ∧ nodes.length = times.length then
    .ok ⟨instances, nodes, times, endTime, h.1, h.2⟩
  else
    .error (.rejected ("series lengths differ: " ++ toString instances.length ++
      " ec2 capacity, " ++ toString nodes.length ++ " compute nodes, " ++
      toString times.length ++ " timestamps"))

/-- The fields of the columns. -/
def record : Record Columns :=
  Columns.mk <$> .field "ec2_capacity" (.list .count) <*>
    .field "compute_nodes" (.list .count) <*>
    .field "timestamps" ((Decoder.list EpochSeconds.decoder).andThen
      fun times => times.mapM EpochSeconds.toFloat) <*>
    .field "end_time" instantDecoder

/-- Decodes a series. -/
def decoder : Decoder Series := (record.decoder "RawScalingSeries").andThen ofColumns

end Series

end FleetScaling
