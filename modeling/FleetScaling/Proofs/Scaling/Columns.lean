import FleetScaling.Proofs.Json.Accepted
import FleetScaling.Proofs.Scaling.Location
import FleetScaling.Proofs.Scaling.Samples
import FleetScaling.Proofs.Text.Numerals
import FleetScaling.Proofs.Traces

/-!
# Columns of series

A series is made without samples, of samples, by one more sample, or from a document. Whichever way
it came about (`Series.Obtained`), its columns are those of the samples that went into it. A
document of a series holds two lists of counts, a list of times and an end (`Series.Describes`); it
is accepted exactly if the lists have the same length and each time is a number or a text that
writes one, and then no entry is lost or moved (`Series.columns_describe_samples`).
-/

namespace FleetScaling

open Json Time Decimal Text

/-! ## Times in documents -/

/-- A document stands for a time: a number, or a text that writes one between blanks. -/
inductive IsStamp : Document → Prop
  | number {n : Number} : IsStamp (.number (.ok n))
  | text {s : String} : WritesFloat (trimmed s.toList) → IsStamp (.text (.ok s))

/-- The time that a document stands for. -/
def stamp? : Document → Option Float
  | .number (.ok n) => some n.toFloat
  | .text (.ok s) => readFloat? (trimmed s.toList)
  | _ => none

theorem isSome_stamp?_iff {d : Document} : (stamp? d).isSome ↔ IsStamp d := by
  constructor
  · intro h
    unfold stamp? at h
    split at h
    · exact .number
    · exact .text (isSome_readFloat?_iff.1 h)
    · cases h
  · intro h
    cases h with
    | number => rfl
    | text hs => exact isSome_readFloat?_iff.2 hs

theorem stamp?_eq_some_iff {depth : Nat} {d : Document} {time : Float} :
    (∃ raw, EpochSeconds.decoder depth d = .ok raw ∧ raw.toFloat = .ok time) ↔
      stamp? d = some time := by
  have decoded (raw : EpochSeconds) : EpochSeconds.decoder depth d = .ok raw ↔
      d.readFault depth = none ∧ EpochSeconds.ofDocument? d = some raw :=
    Decoder.untagged_eq_ok_iff
  simp only [decoded]
  unfold stamp?
  split
  · rename_i n
    refine ⟨?_, fun h => ⟨.number n.toFloat, ⟨rfl, rfl⟩, congrArg Except.ok (Option.some.inj h)⟩⟩
    rintro ⟨raw, ⟨_, ⟨⟩⟩, h⟩
    exact congrArg some (Except.ok.inj h)
  · rename_i s
    have toFloat_eq : (EpochSeconds.text s).toFloat = .ok time ↔
        readFloat? (trimmed s.toList) = some time := by
      unfold EpochSeconds.toFloat
      dsimp only
      cases readFloat? (trimmed s.toList) with
      | none => exact iff_of_false nofun nofun
      | some x =>
        exact ⟨fun h => congrArg some (Except.ok.inj h),
          fun h => congrArg Except.ok (Option.some.inj h)⟩
    refine ⟨?_, fun h => ⟨.text s, ⟨rfl, rfl⟩, toFloat_eq.2 h⟩⟩
    rintro ⟨raw, ⟨_, ⟨⟩⟩, h⟩
    exact toFloat_eq.1 h
  · rename_i hnumber htext
    refine iff_of_false ?_ nofun
    rintro ⟨raw, ⟨_, h⟩, _⟩
    unfold EpochSeconds.ofDocument? at h
    split at h
    · exact hnumber _ rfl
    · exact htext _ rfl
    · cases h

/-! ## Lists in documents -/

section Lists

variable {α β γ : Type} {depth : Nat} {d : Document}

theorem map_eq_map_iff {f : α → γ} {g : β → γ} {l : List α} {l' : List β} :
    l.map f = l'.map g ↔ List.Forall₂ (fun a b => f a = g b) l l' := by
  rw [← List.forall₂_eq_eq_eq, List.forall₂_map_left_iff, List.forall₂_map_right_iff]

theorem forall₂_comp_iff {R : α → β → Prop} {S : β → γ → Prop} {l : List α} {l' : List γ} :
    (∃ between, List.Forall₂ R l between ∧ List.Forall₂ S between l') ↔
      List.Forall₂ (fun a c => ∃ b, R a b ∧ S b c) l l' := by
  constructor
  · rintro ⟨between, hR, hS⟩
    induction hR generalizing l' with
    | nil =>
      rw [List.forall₂_nil_left_iff.1 hS]
      exact .nil
    | cons h _ ih =>
      obtain ⟨c, rest, hc, hrest, rfl⟩ := List.forall₂_cons_left_iff.1 hS
      exact .cons ⟨_, h, hc⟩ (ih hrest)
  · intro h
    induction h with
    | nil => exact ⟨[], .nil, .nil⟩
    | cons h _ ih =>
      obtain ⟨b, hR, hS⟩ := h
      obtain ⟨between, hRs, hSs⟩ := ih
      exact ⟨b :: between, .cons hR hRs, .cons hS hSs⟩

/-- The numbers of a list of counts. -/
theorem counts_eq_ok_iff {column : List UInt32} :
    Decoder.list .count depth d = .ok column ↔ 1 < depth ∧ ∃ items, d = .list items .closed ∧
      items.map Document.integer? = column.map fun n => some (n.toNat : Int) := by
  simp only [Decoder.list_eq_ok_iff, Decoder.count_eq_ok_iff, map_eq_map_iff]

theorem stamps_eq_ok_iff {times : List Float} :
    ((Decoder.list EpochSeconds.decoder).andThen fun raws => raws.mapM EpochSeconds.toFloat) depth d =
        .ok times ↔
      1 < depth ∧ ∃ stamps, d = .list stamps .closed ∧ stamps.map stamp? = times.map some := by
  have timed (stamps : List Document) :
      stamps.map stamp? = times.map some ↔ ∃ raws : List EpochSeconds,
        List.Forall₂ (fun stamp raw => EpochSeconds.decoder (depth - 1) stamp = .ok raw) stamps raws ∧
        List.Forall₂ (fun raw time => raw.toFloat = .ok time) raws times := by
    simp only [map_eq_map_iff, forall₂_comp_iff, stamp?_eq_some_iff]
  rw [Decoder.andThen_eq_ok_iff]
  simp only [Decoder.list_eq_ok_iff, mapM_eq_ok_iff, timed]
  constructor
  · rintro ⟨raws, ⟨hd, stamps, rfl, hraws⟩, htimes⟩
    exact ⟨hd, stamps, rfl, raws, hraws, htimes⟩
  · rintro ⟨hd, stamps, rfl, raws, hraws, htimes⟩
    exact ⟨raws, ⟨hd, stamps, rfl, hraws⟩, htimes⟩

theorem instant_eq_ok_iff {t : Instant} : instantDecoder depth d = .ok t ↔
    ∃ s, d = .text (.ok s) ∧ Instant.read s = .ok t := by
  unfold instantDecoder
  simp only [Decoder.andThen_eq_ok_iff, Decoder.text_eq_ok_iff]
  refine exists_congr fun s => and_congr_right fun _ => ?_
  cases Instant.read s with
  | ok t' => exact ⟨fun h => congrArg Except.ok (Except.ok.inj h), fun h => by cases h; rfl⟩
  | error e => exact iff_of_false nofun nofun

end Lists

namespace Series

/-! ## Documents of series -/

/-- A document is that of a series: lists of counts, a list of anything in the place of the times,
and an instant. -/
def Describes (document : Document) (instances nodes : List UInt32) (stamps : List Document)
    (endTime : Instant) : Prop :=
  ∃ (launched joined : List Document) (ends : String),
    document.HasFields ["ec2_capacity", "compute_nodes", "timestamps", "end_time"]
      [.list launched .closed, .list joined .closed, .list stamps .closed, .text (.ok ends)] ∧
    launched.map Document.integer? = instances.map (fun n => some (n.toNat : Int)) ∧
    joined.map Document.integer? = nodes.map (fun n => some (n.toNat : Int)) ∧
    Instant.read ends = .ok endTime

/-- The columns of a series. -/
def columns (series : Series) : Columns :=
  ⟨series.instances, series.nodes, series.times, series.endTime⟩

theorem ofColumns_eq_ok_iff {columns : Columns} {series : Series} :
    ofColumns columns = .ok series ↔ series.columns = columns := by
  obtain ⟨instances, nodes, times, endTime⟩ := columns
  unfold ofColumns
  dsimp only
  constructor
  · intro h
    split at h
    · cases h
      rfl
    · cases h
  · rintro ⟨⟩
    exact dif_pos ⟨series.length_instances, series.length_nodes⟩

theorem record_judges : record.Judges fun depth values columns =>
    ∃ i n t e, values = [i, n, t, e] ∧
      Decoder.list .count depth i = .ok columns.instances ∧
      Decoder.list .count depth n = .ok columns.nodes ∧
      ((Decoder.list EpochSeconds.decoder).andThen fun raws => raws.mapM EpochSeconds.toFloat)
        depth t = .ok columns.times ∧
      instantDecoder depth e = .ok columns.endTime := by
  refine ((((Record.Judges.field "ec2_capacity" _).map Columns.mk).seq
    (.field "compute_nodes" _)).seq (.field "timestamps" _)).seq (.field "end_time" _) |>.congr ?_
  intro depth values columns
  constructor
  · rintro ⟨_, _, _, _, rfl, ⟨_, _, _, _, rfl, ⟨_, _, _, _, rfl, ⟨_, ⟨i, rfl, hi⟩, rfl⟩,
      ⟨n, rfl, hn⟩, rfl⟩, ⟨t, rfl, ht⟩, rfl⟩, ⟨e, rfl, he⟩, rfl⟩
    exact ⟨i, n, t, e, rfl, hi, hn, ht, he⟩
  · rintro ⟨i, n, t, e, rfl, hi, hn, ht, he⟩
    exact ⟨[i, n, t], [e], _, _, rfl, ⟨[i, n], [t], _, _, rfl, ⟨[i], [n], _, _, rfl,
      ⟨_, ⟨i, rfl, hi⟩, rfl⟩, ⟨n, rfl, hn⟩, rfl⟩, ⟨t, rfl, ht⟩, rfl⟩, ⟨e, rfl, he⟩, rfl⟩

/-- The series that a document is decoded to is the one whose columns it describes. -/
theorem decoder_eq_ok_iff {depth : Nat} (hd : 2 < depth) {document : Document} {series : Series} :
    decoder depth document = .ok series ↔ ∃ stamps,
      Describes document series.instances series.nodes stamps series.endTime ∧
        stamps.map stamp? = series.times.map some := by
  have hd' : 1 < depth - 1 := by omega
  unfold decoder
  rw [Decoder.andThen_eq_ok_iff]
  simp only [ofColumns_eq_ok_iff, exists_eq_right', record_judges.decoder_eq_ok_iff,
    counts_eq_ok_iff, stamps_eq_ok_iff, instant_eq_ok_iff]
  constructor
  · rintro ⟨-, _, hfields, _, _, _, _, rfl, ⟨-, launched, rfl, hi⟩, ⟨-, joined, rfl, hn⟩,
      ⟨-, stamps, rfl, ht⟩, ends, rfl, he⟩
    exact ⟨stamps, ⟨launched, joined, ends, hfields, hi, hn, he⟩, ht⟩
  · rintro ⟨stamps, ⟨launched, joined, ends, hfields, hi, hn, he⟩, ht⟩
    exact ⟨by omega, _, hfields, _, _, _, _, rfl, ⟨hd', launched, rfl, hi⟩, ⟨hd', joined, rfl, hn⟩,
      ⟨hd', stamps, rfl, ht⟩, ends, rfl, he⟩

theorem Describes.unique {document : Document} {instances instances' nodes nodes' : List UInt32}
    {stamps stamps' : List Document} {endTime endTime' : Instant}
    (h : Describes document instances nodes stamps endTime)
    (h' : Describes document instances' nodes' stamps' endTime') :
    instances = instances' ∧ nodes = nodes' ∧ stamps = stamps' ∧ endTime = endTime' := by
  have counted : Function.Injective fun n : UInt32 => some (n.toNat : Int) := by
    intro n m hnm
    exact UInt32.toNat_inj.1 (Int.ofNat.inj (Option.some.inj hnm))
  obtain ⟨launched, joined, ends, hfields, hi, hn, he⟩ := h
  obtain ⟨launched', joined', ends', hfields', hi', hn', he'⟩ := h'
  cases hfields.unique hfields'
  exact ⟨counted.list_map (hi.symm.trans hi'), counted.list_map (hn.symm.trans hn'), rfl,
    Except.ok.inj (he.symm.trans he')⟩

section Accepted

variable {text : String} {document : Document} {instances nodes : List UInt32}
  {stamps : List Document} {endTime : Instant} {series : Series}

theorem decode_eq_ok_iff (read : Document.ofText text = (document, []))
    (h : Describes document instances nodes stamps endTime) :
    decode decoder text = .ok series ↔ series.instances = instances ∧ series.nodes = nodes ∧
      stamps.map stamp? = series.times.map some ∧ series.endTime = endTime := by
  have hdepth : 2 < depthLimit := by decide
  rw [Json.decode_eq_ok_iff]
  constructor
  · rintro ⟨document', read', hdecoded⟩
    cases read.symm.trans read'
    obtain ⟨stamps', h', ht⟩ := (decoder_eq_ok_iff hdepth).1 hdecoded
    obtain ⟨rfl, rfl, rfl, rfl⟩ := h.unique h'
    exact ⟨rfl, rfl, ht, rfl⟩
  · rintro ⟨rfl, rfl, ht, rfl⟩
    exact ⟨document, read, (decoder_eq_ok_iff hdepth).2 ⟨stamps, h, ht⟩⟩

/-- A document of a series is accepted if its lists have one length and hold times where they
should. -/
theorem accepted_iff (read : Document.ofText text = (document, []))
    (h : Describes document instances nodes stamps endTime) :
    (∃ series, decode decoder text = .ok series) ↔
      instances.length = stamps.length ∧ nodes.length = stamps.length ∧
        ∀ stamp ∈ stamps, IsStamp stamp := by
  simp only [decode_eq_ok_iff read h]
  constructor
  · rintro ⟨series, rfl, rfl, ht, rfl⟩
    have hlength := congrArg List.length ht
    rw [List.length_map, List.length_map] at hlength
    rw [hlength]
    refine ⟨series.length_instances, series.length_nodes, fun stamp hstamp => ?_⟩
    obtain ⟨time, -, htime⟩ := List.mem_map.1 (ht ▸ List.mem_map_of_mem hstamp)
    exact isSome_stamp?_iff.1 (by rw [← htime]; rfl)
  · rintro ⟨hi, hn, hstamps⟩
    obtain ⟨times, ht⟩ : ∃ times : List Float, stamps.map stamp? = times.map some := by
      refine ⟨stamps.map fun stamp => (stamp? stamp).getD 0, ?_⟩
      rw [List.map_map]
      refine List.map_congr_left fun stamp hstamp => ?_
      obtain ⟨time, htime⟩ := Option.isSome_iff_exists.1 (isSome_stamp?_iff.2 (hstamps stamp hstamp))
      rw [Function.comp_apply, htime, Option.getD_some]
    have hlength := congrArg List.length ht
    rw [List.length_map, List.length_map] at hlength
    exact ⟨⟨instances, nodes, times, endTime, hi.trans hlength, hn.trans hlength⟩, rfl, rfl, ht, rfl⟩

end Accepted

/-! ## The samples of a series -/

/-- A document holds samples: at each index, its lists have what belongs to one of them. -/
def Holds (document : Document) (samples : List Sample) (endTime : Instant) : Prop :=
  ∃ stamps, Describes document (samples.map Sample.instances) (samples.map Sample.nodes) stamps
      endTime ∧
    stamps.map stamp? = samples.map fun sample => some sample.time

/-- How series come about, with the samples that went into them. -/
inductive Obtained : Series → List Sample → Prop
  | empty (endTime : Instant) : Obtained (empty endTime) []
  | ofSamples (samples : List Sample) (fallback : Instant) :
      Obtained (ofSamples samples fallback) samples
  | push {series : Series} {samples : List Sample} (sample : Sample) : Obtained series samples →
      Obtained (series.push sample) (samples ++ [sample])
  | decoded {text : String} {document : Document} {series : Series} {samples : List Sample}
      {endTime : Instant} : Document.ofText text = (document, []) →
      Holds document samples endTime → decode decoder text = .ok series → Obtained series samples

theorem Obtained.samples_eq {series : Series} {samples : List Sample} (h : Obtained series samples) :
    series.samples = samples := by
  induction h with
  | empty endTime => exact samples_empty endTime
  | ofSamples samples fallback => exact samples_ofSamples samples fallback
  | @push series samples sample _ ih => rw [samples_push, ih]
  | @decoded text document series samples endTime read holds hdecoded =>
    obtain ⟨stamps, hdescribes, hstamps⟩ := holds
    obtain ⟨hi, hn, ht, -⟩ := (decode_eq_ok_iff read hdescribes).1 hdecoded
    have htimes : series.times.map some = (samples.map Sample.time).map some := by
      rw [← ht, hstamps, List.map_map]
      rfl
    exact samples_eq_iff.2
      ⟨hi, hn, Function.Injective.list_map (fun _ _ => Option.some.inj) htimes⟩

/-- Every text that is accepted has the document of a series. -/
theorem exists_holds {text : String} {series : Series} (h : decode decoder text = .ok series) :
    ∃ document, Document.ofText text = (document, []) ∧
      Holds document series.samples series.endTime := by
  obtain ⟨document, read, hdecoded⟩ := Json.decode_eq_ok_iff.1 h
  obtain ⟨stamps, hdescribes, ht⟩ := (decoder_eq_ok_iff (by decide)).1 hdecoded
  rw [instances_eq, nodes_eq] at hdescribes
  refine ⟨document, read, stamps, hdescribes, ?_⟩
  rw [ht, times_eq, List.map_map]
  rfl

/-! ## Answers about columns -/

section Answers

variable {column : List UInt32} {times : List Float} {target : UInt32} {reference : Instant}

theorem locate_ne_lengthMismatch (hlength : column.length = times.length) {n m : Nat} :
    Milestone.locate column times target reference ≠ .error (.lengthMismatch n m) := by
  intro h
  cases Milestone.locate_eq_iff.1 h with
  | mismatch hmismatch => exact hmismatch hlength

/-- A peak is reached where it was seen. -/
theorem locate_peak {peak : UInt32} {n : Nat} (h : column.max? = some peak) :
    Milestone.locate column times peak reference ≠ .error (.targetNotReached target n) := by
  intro hlocate
  cases Milestone.locate_eq_iff.1 hlocate with
  | absent _ missing => exact missing (List.max?_eq_some_iff.1 h).1

end Answers

/-- The columns of a series agree with its samples, index by index. -/
theorem getElem?_columns (series : Series) (i : Nat) :
    series.instances[i]? = series.samples[i]?.map Sample.instances ∧
      series.nodes[i]? = series.samples[i]?.map Sample.nodes ∧
      series.times[i]? = series.samples[i]?.map Sample.time := by
  rw [instances_eq, nodes_eq, times_eq]
  exact ⟨List.getElem?_map, List.getElem?_map, List.getElem?_map⟩

theorem peakInstances_eq_none_iff {series : Series} :
    series.peakInstances = none ↔ series.samples = [] := by
  rw [peakInstances, instances_eq, List.max?_eq_none_iff, List.map_eq_nil_iff]

theorem peakNodes_eq_none_iff {series : Series} : series.peakNodes = none ↔ series.samples = [] := by
  rw [peakNodes, nodes_eq, List.max?_eq_none_iff, List.map_eq_nil_iff]

/-- **Columns and samples.** Whichever way a series came about, its columns have the same length,
and at each index they have what belongs to one sample; its peaks are the greatest counts, absent
only without samples; so a search in its columns never finds that they differ in length, nor misses
a peak. A document of a series is accepted exactly if its lists have one length and each of its
times is a number or a text that writes one, and then its lists are the columns; no other document
is accepted. The columns of a series of samples have them all in their order, and it ends with the
last one, unless there is none or its time is no instant. -/
theorem columns_describe_samples :
    (∀ series samples, Obtained series samples →
      (series.instances.length = series.times.length ∧ series.nodes.length = series.times.length ∧
        ∀ i : Nat, series.instances[i]? = samples[i]?.map Sample.instances ∧
          series.nodes[i]? = samples[i]?.map Sample.nodes ∧
          series.times[i]? = samples[i]?.map Sample.time) ∧
      (∀ peak, series.peakInstances = some peak ↔
        peak ∈ series.instances ∧ ∀ n ∈ series.instances, n ≤ peak) ∧
      (∀ peak, series.peakNodes = some peak ↔ peak ∈ series.nodes ∧ ∀ n ∈ series.nodes, n ≤ peak) ∧
      (series.peakInstances = none ↔ samples = []) ∧ (series.peakNodes = none ↔ samples = []) ∧
      ∀ column ∈ [series.instances, series.nodes], ∀ reference : Instant,
        (∀ target n m, Milestone.locate column series.times target reference ≠
          .error (.lengthMismatch n m)) ∧
        ∀ peak, column.max? = some peak → ∀ target n,
          Milestone.locate column series.times peak reference ≠ .error (.targetNotReached target n)) ∧
    (∀ text document instances nodes stamps endTime, Document.ofText text = (document, []) →
      Describes document instances nodes stamps endTime →
      ((∃ series, decode decoder text = .ok series) ↔
        instances.length = stamps.length ∧ nodes.length = stamps.length ∧
          ∀ stamp ∈ stamps, IsStamp stamp) ∧
      ∀ series, decode decoder text = .ok series →
        series.instances = instances ∧ series.nodes = nodes ∧
          stamps.map stamp? = series.times.map some ∧ series.endTime = endTime) ∧
    (∀ text series, decode decoder text = .ok series →
      ∃ document, Document.ofText text = (document, []) ∧
        Holds document series.samples series.endTime ∧ Obtained series series.samples) ∧
    ∀ samples fallback,
      (ofSamples samples fallback).instances = samples.map Sample.instances ∧
      (ofSamples samples fallback).nodes = samples.map Sample.nodes ∧
      (ofSamples samples fallback).times = samples.map Sample.time ∧
      (ofSamples samples fallback).endTime =
        (samples.getLast?.bind fun last => Instant.ofEpoch? last.time).getD fallback := by
  refine ⟨fun series samples h => ?_, fun text document instances nodes stamps endTime read
    described => ⟨accepted_iff read described, fun series => (decode_eq_ok_iff read described).1⟩,
    fun text series h => ?_, fun samples fallback => ?_⟩
  · obtain rfl := h.samples_eq
    refine ⟨⟨series.length_instances, series.length_nodes, series.getElem?_columns⟩,
      fun _ => List.max?_eq_some_iff, fun _ => List.max?_eq_some_iff, peakInstances_eq_none_iff,
      peakNodes_eq_none_iff, fun column hcolumn reference => ⟨fun target n m => ?_,
        fun peak hpeak target n => locate_peak hpeak⟩⟩
    rcases List.mem_pair.1 hcolumn with rfl | rfl
    · exact locate_ne_lengthMismatch series.length_instances
    · exact locate_ne_lengthMismatch series.length_nodes
  · obtain ⟨document, read, holds⟩ := exists_holds h
    exact ⟨document, read, holds, .decoded read holds h⟩
  · obtain ⟨hi, hn, ht⟩ := samples_eq_iff.1 (samples_ofSamples samples fallback)
    exact ⟨hi, hn, ht, endTime_ofSamples samples fallback⟩

/-- The characters of a document with a number and a text for times. -/
def mixed : List Char :=
  ["\x7b\"ec2_capacity\": [0, 2], \"compute_nodes\": [0, 1], ",
    "\"timestamps\": [1700000000, \" 1700000020.25 \"], ",
    "\"end_time\": \"2023-11-14T22:13:40Z\", \"source\": null\x7d"].flatMap String.toList

/-- It is accepted, and one more sample can be pushed. -/
theorem columns_describe_samples_mixed :
    ∃ series document stamps, decode decoder (String.ofList mixed) = .ok series ∧
      Document.ofText (String.ofList mixed) = (document, []) ∧
      Describes document [0, 2] [0, 1] stamps series.endTime ∧
      (stamps.length = 2 ∧ ∀ stamp ∈ stamps, IsStamp stamp) ∧
      series.times = [1700000000, 1700000020.25] ∧
      (let pushed := series.push ⟨3, 2, 1700000040⟩
      pushed.instances.length = 3 ∧ pushed.instances[2]? = some 3 ∧ pushed.nodes[2]? = some 2 ∧
      ∀ reference target n, Milestone.locate pushed.instances pushed.times 3 reference ≠
        .error (.targetNotReached target n)) := by
  have read : (decode decoder (String.ofList mixed)).toOption.map samples =
      some [⟨0, 0, 1700000000⟩, ⟨2, 1, 1700000020.25⟩] := by
    unfold decode Document.ofText
    rw [String.toList_ofList]
    decide +kernel
  obtain ⟨series, hseries, hsamples⟩ := Option.map_eq_some_iff.1 read
  have hseries := eq_ok_of_toOption hseries
  obtain ⟨obtained, decoded, described, _⟩ := columns_describe_samples
  obtain ⟨document, hread, ⟨stamps, hdescribes, _⟩, hobtained⟩ := described _ series hseries
  rw [hsamples] at hdescribes
  obtain ⟨accepted, _⟩ := decoded _ _ _ _ _ _ hread hdescribes
  obtain ⟨hlength, _, hstamps⟩ := accepted.1 ⟨series, hseries⟩
  obtain ⟨⟨_, _, aligned⟩, _, _, _, _, located⟩ := obtained _ _ (hobtained.push ⟨3, 2, 1700000040⟩)
  have hpushed : (series.push ⟨3, 2, 1700000040⟩).instances = [0, 2, 3] := by
    rw [instances_eq, samples_push, hsamples]
    rfl
  obtain ⟨hi, hn, _⟩ := aligned 2
  rw [hsamples] at hi hn
  refine ⟨series, document, stamps, hseries, hread, hdescribes, ⟨hlength.symm, hstamps⟩, ?_, ?_,
    hi, hn, fun reference target n => (located _ List.mem_cons_self reference).2 3 ?_ target n⟩
  · rw [times_eq, hsamples]
    rfl
  · rw [hpushed]
    rfl
  · rw [hpushed]
    rfl

end Series

end FleetScaling
