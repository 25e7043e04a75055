import FleetScaling.Proofs.Json.Accepted
import FleetScaling.Site.Fleet

/-!
# Reports on the fleet

What the tool prints about a fleet is one JSON document. `NamesStatus` says which documents name a
status: objects that have it as the one string with this key, and lists that begin with it. Besides
it there may be the time of the last change, a string or null, and an object may have members with
other keys. An output is read exactly if its document names a status, and then as that one
(`FleetStatus.ofText_eq_ok_iff`).
-/

namespace FleetScaling

open Json

/-! ## Documents that name a status -/

/-- What may stand for a text that can be lacking: nothing at all, null, or a text. -/
inductive TextOrNone : List Document → Prop
  | absent : TextOrNone []
  | null : TextOrNone [.null]
  | text (s : String) : TextOrNone [.text (.ok s)]

/-- The document is a report in which the fleet has the status. -/
inductive NamesStatus (status : String) : Document → Prop
  | object {members : Members}
      (sound : ∀ member ∈ members, ∃ key, member.1 = .ok key ∧
        (key ∉ ["status", "lastStatusUpdatedTime"] → member.2.skipFault = none))
      (named : valuesOf "status" members = [.text (.ok status)])
      (updated : TextOrNone (valuesOf "lastStatusUpdatedTime" members)) :
      NamesStatus status (.object members .closed)
  | list {updated : List Document} (h : TextOrNone updated) :
      NamesStatus status (.list (.text (.ok status) :: updated) .closed)

/-- The output is one document, in which the fleet has the status. -/
def ReportsStatus (output status : String) : Prop :=
  ∃ document, Document.ofText output = (document, []) ∧ NamesStatus status document

/-! ## The time of the last change -/

section

variable {depth : Nat} {d : Document} {values : List Document}

theorem TextOrNone.length_le (h : TextOrNone values) : values.length ≤ 1 := by
  cases h <;> simp

theorem TextOrNone.accepted (h : TextOrNone values) (hd : d ∈ values) :
    ((Decoder.text "a string").optional depth d).map (fun _ => ()) = .ok () := by
  cases h with
  | absent => cases hd
  | null => rw [List.mem_singleton.1 hd]; rfl
  | text s => rw [List.mem_singleton.1 hd]; rfl

/-- What can be read, if there is anything, is a text or null. -/
theorem exists_optional_iff (h : values.length ≤ 1) :
    (∃ updated : Option String,
      (∃ d, values.head? = some d ∧ (Decoder.text "a string").optional depth d = .ok updated) ∨
        values.head? = none ∧ some none = some updated) ↔ TextOrNone values := by
  constructor
  · rintro ⟨updated, ⟨d, hd, hread⟩ | ⟨hnone, -⟩⟩
    · rw [eq_singleton_of_head? hd h]
      obtain ⟨rfl, -⟩ | ⟨-, s, hs, -⟩ := Decoder.optional_eq_ok_iff.1 hread
      · exact .null
      · rw [Decoder.text_eq_ok_iff.1 hs]
        exact .text s
    · rw [List.head?_eq_none_iff.1 hnone]
      exact .absent
  · rintro (_ | _ | s)
    · exact ⟨none, Or.inr ⟨rfl, rfl⟩⟩
    · exact ⟨none, Or.inl ⟨_, rfl, rfl⟩⟩
    · exact ⟨some s, Or.inl ⟨_, rfl, rfl⟩⟩

end

namespace FleetStatus

section

variable {depth : Nat} {name output status : String} {d : Document} {members : Members}
  {ending : Ending} {items : List Document} {updated : Option String}

/-! ## Reports as objects -/

/-- The checks of the members: each with a key of the report is read like the field. -/
theorem checkMembers_eq_ok_iff {last : Option Fault} :
    Record.checkMembers record.fields depth last [] members = .ok () ↔
      last = none ∧ (∀ member ∈ members, Record.Proper record.fields depth member) ∧
        (valuesOf "status" members).length ≤ 1 ∧
        (valuesOf "lastStatusUpdatedTime" members).length ≤ 1 := by
  rw [Record.checkMembers_eq_ok_iff]
  refine and_congr_right fun _ => and_congr_right fun _ => ?_
  have names : record.fields.map Prod.fst = ["status", "lastStatusUpdatedTime"] := rfl
  simp [names]

theorem ofMembers_eq_ok_iff {find : String → Option Document} :
    record.ofMembers depth find = .ok ⟨status, updated⟩ ↔
      find "status" = some (.text (.ok status)) ∧
        ((∃ d, find "lastStatusUpdatedTime" = some d ∧
            (Decoder.text "a string").optional depth d = .ok updated) ∨
          find "lastStatusUpdatedTime" = none ∧ some none = some updated) := by
  unfold record
  rw [Record.seq_ofMembers_eq_ok_iff]
  constructor
  · rintro ⟨g, u, hg, hu, h⟩
    obtain ⟨_, s, hmk, hs, rfl⟩ := Record.seq_ofMembers_eq_ok_iff.1 hg
    cases hmk
    cases h
    obtain ⟨d, hd, hread⟩ | ⟨-, h⟩ := Record.fieldOr_ofMembers_eq_ok_iff.1 hs
    · rw [Decoder.text_eq_ok_iff.1 hread] at hd
      exact ⟨hd, Record.fieldOr_ofMembers_eq_ok_iff.1 hu⟩
    · cases h
  · rintro ⟨hd, hu⟩
    refine ⟨FleetStatus.mk status, updated, ?_, Record.fieldOr_ofMembers_eq_ok_iff.2 hu, rfl⟩
    refine Record.seq_ofMembers_eq_ok_iff.2 ⟨FleetStatus.mk, status, rfl, ?_, rfl⟩
    exact Record.fieldOr_ofMembers_eq_ok_iff.2 (Or.inl ⟨_, hd, rfl⟩)

/-- The members of a report are in order if those that are passed over are. -/
theorem forall_proper_iff (named : valuesOf "status" members = [.text (.ok status)])
    (updated : TextOrNone (valuesOf "lastStatusUpdatedTime" members)) :
    (∀ member ∈ members, Record.Proper record.fields depth member) ↔
      ∀ member ∈ members, ∃ key, member.1 = .ok key ∧
        (key ∉ ["status", "lastStatusUpdatedTime"] → member.2.skipFault = none) := by
  refine forall₂_congr fun member hmember => exists_congr fun key => and_congr_right fun hkey => ?_
  have found : member.2 ∈ valuesOf key members := mem_valuesOf_iff.2 (hkey ▸ hmember)
  by_cases status : key = "status"
  · subst status
    rw [named, List.mem_singleton] at found
    rw [found]
    exact iff_of_true rfl fun h => absurd (by decide) h
  by_cases time : key = "lastStatusUpdatedTime"
  · subst time
    refine iff_of_true ?_ fun h => absurd (by decide) h
    exact updated.accepted found
  · have unknown : key ∉ ["status", "lastStatusUpdatedTime"] := by simp [status, time]
    have passed : record.fields.lookup key = none := lookup_eq_none_iff.2 unknown
    rw [passed]
    exact ⟨fun h _ => h, fun h => h unknown⟩

theorem decoder_object_eq_ok_iff :
    (∃ updated, record.decoder name depth (.object members ending) =
      .ok ⟨status, updated⟩) ↔ 1 < depth ∧ NamesStatus status (.object members ending) := by
  simp only [Record.decoder_object_eq_ok_iff, exists_and_left]
  refine and_congr_right fun _ => ?_
  constructor
  · rintro ⟨hchecked, updated, hfields⟩
    obtain ⟨hlast, hproper, hstatus, htime⟩ := checkMembers_eq_ok_iff.1 hchecked
    simp only [ofMembers_eq_ok_iff, member?_eq_head?] at hfields
    have named := eq_singleton_of_head? hfields.1 hstatus
    have time := (exists_optional_iff htime).1 ⟨updated, hfields.2⟩
    rw [Ending.objectFault_eq_none_iff.1 hlast]
    exact .object ((forall_proper_iff named time).1 hproper) named time
  · intro h
    cases h with
    | object sound named time =>
      obtain ⟨updated, hupdated⟩ := (exists_optional_iff time.length_le).2 time
      have once : (valuesOf "status" members).length ≤ 1 := by rw [named]; exact Nat.le_refl 1
      refine ⟨checkMembers_eq_ok_iff.2
        ⟨rfl, (forall_proper_iff named time).2 sound, once, time.length_le⟩, updated, ?_⟩
      simp only [ofMembers_eq_ok_iff, member?_eq_head?]
      exact ⟨by rw [named]; rfl, hupdated⟩

/-! ## Reports as lists -/

theorem ofItems_eq_ok_iff {expected : String} {rest : List Document} :
    record.ofItems depth expected 0 ending items = .ok (⟨status, updated⟩, rest) ↔
      ∃ later, items = .text (.ok status) :: later ∧
        ((∃ d, later = d :: rest ∧ (Decoder.text "a string").optional depth d = .ok updated) ∨
          later = [] ∧ ending = .closed ∧ some none = some updated ∧ rest = []) := by
  unfold record
  rw [Record.seq_ofItems_eq_ok_iff]
  constructor
  · rintro ⟨g, later, u, hg, hu, h⟩
    obtain ⟨_, _, s, hmk, hs, rfl⟩ := Record.seq_ofItems_eq_ok_iff.1 hg
    cases hmk
    cases h
    obtain ⟨d, rfl, hread⟩ | ⟨-, -, h, -⟩ := Record.fieldOr_ofItems_eq_ok_iff.1 hs
    · rw [Decoder.text_eq_ok_iff.1 hread]
      exact ⟨later, rfl, Record.fieldOr_ofItems_eq_ok_iff.1 hu⟩
    · cases h
  · rintro ⟨later, rfl, hu⟩
    refine ⟨FleetStatus.mk status, later, updated, ?_, Record.fieldOr_ofItems_eq_ok_iff.2 hu, rfl⟩
    refine Record.seq_ofItems_eq_ok_iff.2 ⟨FleetStatus.mk, _, status, rfl, ?_, rfl⟩
    exact Record.fieldOr_ofItems_eq_ok_iff.2 (Or.inl ⟨_, rfl, rfl⟩)

theorem decoder_list_eq_ok_iff :
    (∃ updated, record.decoder name depth (.list items ending) =
      .ok ⟨status, updated⟩) ↔ 1 < depth ∧ NamesStatus status (.list items ending) := by
  simp only [Record.decoder_list_eq_ok_iff, exists_and_left]
  refine and_congr_right fun _ => ?_
  constructor
  · rintro ⟨rfl, updated, hfields⟩
    obtain ⟨later, rfl, ⟨d, rfl, hread⟩ | ⟨rfl, -⟩⟩ := ofItems_eq_ok_iff.1 hfields
    · have one : [d].length ≤ 1 := Nat.le_refl 1
      exact .list ((exists_optional_iff one).1 ⟨updated, Or.inl ⟨d, rfl, hread⟩⟩)
    · exact .list .absent
  · intro h
    cases h with
    | @list later time =>
      obtain ⟨updated, hupdated⟩ := (exists_optional_iff time.length_le).2 time
      refine ⟨rfl, updated, ofItems_eq_ok_iff.2 ⟨later, rfl, ?_⟩⟩
      obtain ⟨d, hd, hread⟩ | ⟨hnone, h⟩ := hupdated
      · exact Or.inl ⟨d, eq_singleton_of_head? hd time.length_le, hread⟩
      · exact Or.inr ⟨List.head?_eq_none_iff.1 hnone, rfl, h, rfl⟩

/-! ## Outputs -/

/-- **Which documents are read.** -/
theorem decoder_eq_ok_iff :
    (∃ updated, record.decoder name depth d = .ok ⟨status, updated⟩) ↔
      1 < depth ∧ NamesStatus status d := by
  cases d with
  | object members ending => exact decoder_object_eq_ok_iff
  | list items ending => exact decoder_list_eq_ok_iff
  | _ => exact ⟨nofun, fun h => nomatch h.2⟩

/-- **Which outputs are read.** -/
theorem ofText_eq_ok_iff :
    (∃ updated, ofText output = .ok ⟨status, updated⟩) ↔ ReportsStatus output status := by
  unfold ofText
  simp only [decodeWithin_eq_ok_iff, decode_eq_ok_iff]
  rw [exists_comm]
  refine exists_congr fun document => ?_
  rw [exists_and_left, decoder_eq_ok_iff]
  exact and_congr_right fun _ => and_iff_right (by decide)

/-- An output that is no report cannot be decoded. -/
theorem exists_decodeError (h : ∀ status, ¬ReportsStatus output status) :
    ∃ e, decode (record.decoder "ComputeFleetStatus") output = .error e := by
  cases read : decode (record.decoder "ComputeFleetStatus") output with
  | error e => exact ⟨e, rfl⟩
  | ok fleet =>
    exact absurd (ofText_eq_ok_iff.1 ⟨fleet.updated, decodeWithin_of_ok read⟩) (h fleet.status)

end

end FleetStatus

theorem ReportsStatus.unique {output status status' : String} (h : ReportsStatus output status)
    (h' : ReportsStatus output status') : status = status' := by
  obtain ⟨updated, hread⟩ := FleetStatus.ofText_eq_ok_iff.2 h
  obtain ⟨updated', hread'⟩ := FleetStatus.ofText_eq_ok_iff.2 h'
  exact congrArg FleetStatus.status (Except.ok.inj (hread.symm.trans hread'))

/-- The failure of an output that is no report. -/
def unreadReport (e : DecodeError) : Failure :=
  (Failure.of (.malformed e)).within "Failed to parse describe-compute-fleet output"

end FleetScaling
