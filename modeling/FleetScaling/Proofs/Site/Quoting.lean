import FleetScaling.Proofs.Shell.Words
import FleetScaling.Proofs.Text.Digits
import FleetScaling.Site.Job

/-!
# The command of a job between quotes

The line that submits a job has the job's command between double quotes, and a backslash before each
double quote of the command. The head node's shell reads the command back from there if nothing in
it means more between quotes than itself (`Quotable`). Otherwise it does not: a dollar sign or a
backquote begins an expansion, and a backslash that should stand for itself vanishes or, before a
double quote, lets that one end the quotes. `commandLine_words_iff` says so of every job; that a
command which is not quotable is never read back is seen by counting characters
(`Shell.Reader.size`).
-/

namespace FleetScaling

open Shell Reader

/-- Nothing in the command is expanded between quotes, and every backslash stands for itself. -/
structure Quotable (command : List Char) : Prop where
  unexpanded : ∀ c ∈ command, c ≠ '$' ∧ c ≠ '\x60'
  backslash : ∀ before after, command = before ++ '\\' :: after →
    ∃ c rest, after = c :: rest ∧ c ≠ '"' ∧ c ≠ '\\' ∧ c ≠ '\n'

namespace Quotable

variable {c : Char} {cs : List Char}

theorem nil : Quotable [] where
  unexpanded := nofun
  backslash before after h := by simp at h

theorem cons_iff (h : c ≠ '\\') : Quotable (c :: cs) ↔ (c ≠ '$' ∧ c ≠ '\x60') ∧ Quotable cs := by
  constructor
  · intro hq
    refine ⟨hq.unexpanded c List.mem_cons_self,
      fun d hd => hq.unexpanded d (List.mem_cons_of_mem c hd),
      fun before after hcs => hq.backslash (c :: before) after (hcs ▸ rfl)⟩
  · rintro ⟨hc, hq⟩
    refine ⟨fun d hd => ?_, fun before after hcs => ?_⟩
    · rcases List.mem_cons.1 hd with rfl | hd
      · exact hc
      · exact hq.unexpanded d hd
    · rcases before with _ | ⟨b, before⟩
      · exact absurd (List.cons.inj hcs).1 h
      · exact hq.backslash before after (List.cons.inj hcs).2

theorem not_backslash : ¬Quotable ['\\'] := by
  intro hq
  obtain ⟨c, rest, h, -⟩ := hq.backslash [] [] rfl
  cases h

theorem backslash_cons_iff :
    Quotable ('\\' :: c :: cs) ↔ (c ≠ '"' ∧ c ≠ '\\' ∧ c ≠ '\n') ∧ Quotable (c :: cs) := by
  constructor
  · intro hq
    obtain ⟨d, rest, h, hd⟩ := hq.backslash [] (c :: cs) rfl
    cases h
    exact ⟨hd, fun d hd => hq.unexpanded d (List.mem_cons_of_mem _ hd),
      fun before after hcs => hq.backslash ('\\' :: before) after (hcs ▸ rfl)⟩
  · rintro ⟨hc, hq⟩
    refine ⟨fun d hd => ?_, fun before after hcs => ?_⟩
    · rcases List.mem_cons.1 hd with rfl | hd
      · decide
      · exact hq.unexpanded d hd
    · rcases before with _ | ⟨b, before⟩
      · obtain rfl := (List.cons.inj hcs).2
        exact ⟨c, cs, rfl, hc⟩
      · exact hq.backslash before after (List.cons.inj hcs).2

end Quotable

/-! ## The command between quotes -/

theorem not_mem_quotedSpecials {c : Char} (hexpand : c ≠ '$' ∧ c ≠ '\x60') (hquote : c ≠ '"')
    (hslash : c ≠ '\\') : c ∉ quotedSpecials := by
  simp [quotedSpecials, hexpand, hquote, hslash]

section

variable {c : Char} {cs : List Char} {r r' : Reader}

theorem flatMap_wrappedChar_of_ne (h : c ≠ '"') :
    (c :: cs).flatMap Job.wrappedChar = c :: cs.flatMap Job.wrappedChar := by
  rw [List.flatMap_cons, Job.wrappedChar, if_neg h, List.singleton_append]

theorem flatMap_wrappedChar_quote : ('"' :: cs).flatMap Job.wrappedChar =
    '\\' :: '"' :: cs.flatMap Job.wrappedChar := rfl

/-- A quotable command is read back. By induction on the command, also for what follows a backslash
that was read before. -/
theorem readAll_wrapped (parts : List (List Char)) (cs part : List Char) :
    (Quotable cs → readAll ⟨.quoted, parts, some part⟩ (cs.flatMap Job.wrappedChar) =
      .ok ⟨.quoted, parts, some (part ++ cs)⟩) ∧
    (Quotable ('\\' :: cs) → readAll ⟨.quotedEscaped, parts, some part⟩
        (cs.flatMap Job.wrappedChar) = .ok ⟨.quoted, parts, some (part ++ '\\' :: cs)⟩) := by
  induction cs generalizing part with
  | nil => exact ⟨fun _ => by rw [List.append_nil]; rfl, fun h => absurd h Quotable.not_backslash⟩
  | cons c cs ih =>
    have slash : read ⟨.quoted, parts, some part⟩ '\\' =
      .ok ⟨.quotedEscaped, parts, some part⟩ := rfl
    constructor
    · intro h
      by_cases hslash : c = '\\'
      · rw [hslash, flatMap_wrappedChar_of_ne (by decide), readAll_cons_of_ok slash]
        exact (ih part).2 (hslash ▸ h)
      obtain ⟨hexpand, hrest⟩ := (Quotable.cons_iff hslash).1 h
      by_cases hquote : c = '"'
      · have quote : read ⟨.quotedEscaped, parts, some part⟩ '"' =
            .ok ⟨.quoted, parts, some (part ++ ['"'])⟩ := rfl
        rw [hquote, flatMap_wrappedChar_quote, readAll_cons_of_ok slash, readAll_cons_of_ok quote,
          (ih _).1 hrest, List.append_assoc, List.singleton_append]
      · have plain := not_mem_quotedSpecials hexpand hquote hslash
        rw [flatMap_wrappedChar_of_ne hquote, readAll_cons_of_ok (read_quoted rfl plain)]
        refine ((ih (part ++ [c])).1 hrest).trans ?_
        rw [List.append_assoc, List.singleton_append]
    · intro h
      obtain ⟨⟨hquote, hslash, hline⟩, h⟩ := Quotable.backslash_cons_iff.1 h
      obtain ⟨hexpand, hrest⟩ := (Quotable.cons_iff hslash).1 h
      have plain := not_mem_quotedSpecials hexpand hquote hslash
      rw [flatMap_wrappedChar_of_ne hquote, readAll_cons_of_ok (read_quotedEscaped rfl hline plain)]
      refine ((ih (part ++ ['\\'] ++ [c])).1 hrest).trans ?_
      rw [List.append_assoc, List.append_assoc, List.singleton_append, List.singleton_append]

/-- However it is read, a command adds at most as much as there is in it. -/
theorem size_readAll_wrapped (h : r.readAll (cs.flatMap Job.wrappedChar) = .ok r') :
    r'.size ≤ r.size + cs.length := by
  induction cs generalizing r with
  | nil =>
    cases h
    exact Nat.le_refl _
  | cons c cs ih =>
    rw [List.length_cons]
    by_cases hquote : c = '"'
    · rw [hquote, flatMap_wrappedChar_quote] at h
      obtain ⟨r₁, hslash, h⟩ := ok_of_readAll_cons h
      obtain ⟨r₂, hread, h⟩ := ok_of_readAll_cons h
      have hr₁ := size_read_le hslash
      have hr₂ := size_read_quote hread
      have hr' := ih h
      omega
    · rw [flatMap_wrappedChar_of_ne hquote] at h
      obtain ⟨r₁, hread, h⟩ := ok_of_readAll_cons h
      have hr₁ := size_read_le hread
      have hr' := ih h
      omega

/-- A character of the command that is no backslash: it ends the reading or stands for itself. -/
theorem read_wrapped_quoted (hmode : r.mode = .quoted) (hslash : c ≠ '\\')
    (h : r.readAll ((c :: cs).flatMap Job.wrappedChar) = .ok r') :
    (c ≠ '$' ∧ c ≠ '\x60') ∧ ∃ r₁ : Reader, r₁.mode = .quoted ∧ r₁.size ≤ r.size + 1 ∧
      r₁.readAll (cs.flatMap Job.wrappedChar) = .ok r' := by
  by_cases hquote : c = '"'
  · subst hquote
    rw [flatMap_wrappedChar_quote] at h
    obtain ⟨r₁, hread, h⟩ := ok_of_readAll_cons h
    have hr₁ := size_read_le hread
    rw [read_backslash hmode] at hread
    cases hread
    obtain ⟨r₂, hread, h⟩ := ok_of_readAll_cons h
    obtain ⟨hquoted, hr₂⟩ := size_read_quotedEscaped rfl (Or.inr (by decide)) hread
    exact ⟨by decide, r₂, hquoted, Nat.le_trans hr₂ hr₁, h⟩
  rw [flatMap_wrappedChar_of_ne hquote] at h
  by_cases hexpand : c = '$' ∨ c = '\x60'
  · rw [readAll_cons, read_expansion hmode hexpand] at h
    cases h
  · have hread := read_quoted hmode (not_mem_quotedSpecials (not_or.1 hexpand) hquote hslash)
    rw [readAll_cons_of_ok hread] at h
    exact ⟨not_or.1 hexpand, r.push c, hmode, size_read_le hread, h⟩

/-- A character of the command after a backslash: it takes that for itself, or both stand for
themselves. -/
theorem read_wrapped_escaped (hmode : r.mode = .quotedEscaped)
    (h : r.readAll ((c :: cs).flatMap Job.wrappedChar) = .ok r') :
    r'.size ≤ r.size + cs.length ∨
      (c ≠ '"' ∧ c ≠ '\\' ∧ c ≠ '\n') ∧ (c ≠ '$' ∧ c ≠ '\x60') ∧
        ∃ r₁ : Reader, r₁.mode = .quoted ∧ r₁.size ≤ r.size + 1 ∧
          r₁.readAll (cs.flatMap Job.wrappedChar) = .ok r' := by
  by_cases hquote : c = '"'
  · rw [hquote, flatMap_wrappedChar_quote] at h
    obtain ⟨r₁, hslash, h⟩ := ok_of_readAll_cons h
    obtain ⟨r₂, hread, h⟩ := ok_of_readAll_cons h
    obtain ⟨-, hr₁⟩ := size_read_quotedEscaped hmode (Or.inr (by decide)) hslash
    have hr₂ := size_read_quote hread
    have hr' := size_readAll_wrapped h
    exact Or.inl (by omega)
  rw [flatMap_wrappedChar_of_ne hquote] at h
  obtain ⟨r₁, hread, h⟩ := ok_of_readAll_cons h
  by_cases hc : c = '\n' ∨ c ∈ quotedSpecials
  · obtain ⟨-, hr₁⟩ := size_read_quotedEscaped hmode hc hread
    have hr' := size_readAll_wrapped h
    exact Or.inl (by omega)
  · obtain ⟨hline, hspecial⟩ := not_or.1 hc
    have hr₁ := size_read_le hread
    rw [read_quotedEscaped hmode hline hspecial] at hread
    cases hread
    simp only [quotedSpecials, List.mem_cons, List.not_mem_nil, or_false, not_or] at hspecial
    obtain ⟨hdollar, hback, -, hslash⟩ := hspecial
    exact Or.inr ⟨⟨hquote, hslash, hline⟩, ⟨hdollar, hback⟩, _, rfl, hr₁, h⟩

/-- A command that is not quotable is not read back: its last backslash is left over for what
follows, or it adds less than there is in it. By induction as before. -/
theorem quotable_or_lost :
    (r.mode = .quoted → r.readAll (cs.flatMap Job.wrappedChar) = .ok r' →
      Quotable cs ∨ r'.mode = .quotedEscaped ∨ r'.size < r.size + cs.length) ∧
    (r.mode = .quotedEscaped → r.readAll (cs.flatMap Job.wrappedChar) = .ok r' →
      Quotable ('\\' :: cs) ∨ r'.mode = .quotedEscaped ∨ r'.size < r.size + cs.length) := by
  induction cs generalizing r with
  | nil =>
    refine ⟨fun _ _ => Or.inl Quotable.nil, fun hmode h => Or.inr (Or.inl ?_)⟩
    cases h
    exact hmode
  | cons c cs ih =>
    rw [List.length_cons]
    constructor
    · intro hmode h
      by_cases hslash : c = '\\'
      · rw [hslash, flatMap_wrappedChar_of_ne (by decide),
          readAll_cons_of_ok (read_backslash hmode)] at h
        have hsize := size_read_le (read_backslash hmode)
        exact (ih.2 rfl h).imp (hslash ▸ ·) (Or.imp_right fun hless => by omega)
      · obtain ⟨hexpand, r₁, hquoted, hsize, hrest⟩ := read_wrapped_quoted hmode hslash h
        exact (ih.1 hquoted hrest).imp (fun hq => (Quotable.cons_iff hslash).2 ⟨hexpand, hq⟩)
          (Or.imp_right fun hless => by omega)
    · intro hmode h
      obtain hless | ⟨hc, hexpand, r₁, hquoted, hsize, hrest⟩ := read_wrapped_escaped hmode h
      · exact Or.inr (Or.inr (by omega))
      · exact (ih.1 hquoted hrest).imp
          (fun hq => Quotable.backslash_cons_iff.2 ⟨hc, (Quotable.cons_iff hc.2.1).2 ⟨hexpand, hq⟩⟩)
          (Or.imp_right fun hless => by omega)

end

/-! ## The options -/

/-- An option as words. -/
def optionWords (flag : String) : Option String → List String
  | none => []
  | some v => [flag, v]

namespace Job

/-- The options of the line that submits a job. -/
def options (job : Job) : List (String × Option String) :=
  [("-p", job.partition), ("-N", job.nodes.map toString), ("-n", job.tasks.map toString)]

/-- The words of which the line that submits a job is meant to consist. -/
def words (job : Job) : List String :=
  ["sbatch", "--wrap", job.command] ++ job.options.flatMap fun o => optionWords o.1 o.2

theorem toList_commandLine (job : Job) : job.commandLine.toList =
    "sbatch --wrap \"".toList ++ (job.command.toList.flatMap wrappedChar ++
      '"' :: job.options.flatMap fun o => (optionText o.1 o.2).toList) := by
  have close : "\"".toList = ['"'] := rfl
  unfold commandLine wrapped options
  simp only [String.toList_append, String.toList_ofList, List.flatMap_cons, List.flatMap_nil,
    List.append_nil, List.append_assoc, close, List.cons_append,
    List.nil_append]

end Job

/-- A text of letters, digits and dashes. -/
def IsName (text : String) : Prop := ∀ c ∈ text.toList, c.isAlphanum ∨ c = '-'

instance (text : String) : Decidable (IsName text) :=
  List.decidableBAll (fun c : Char => c.isAlphanum ∨ c = '-') text.toList

theorem IsName.plain {text : String} (h : IsName text) : ∀ c ∈ text.toList, IsPlain c := by
  have others : (' ' :: '\t' :: '\\' :: '"' :: specials).all
      fun c => decide ¬(c.isAlphanum ∨ c = '-') := by decide
  exact fun c hc hmem => of_decide_eq_true (List.all_eq_true.1 others c hmem) (h c hc)

/-- An option of which nothing has a meaning to the shell. -/
structure PlainOption (o : String × Option String) : Prop where
  flag_ne : o.1 ≠ ""
  flag : IsName o.1
  value : ∀ v, o.2 = some v → IsName v

section

variable {r r' : Reader} {o : String × Option String} {options : List (String × Option String)}

theorem PlainOption.readAll (h : PlainOption o) (hmode : r.mode = .bare) :
    ∃ r', r.readAll (Job.optionText o.1 o.2).toList = .ok r' ∧ r'.mode = .bare ∧
      r'.begun = r.begun ++ ((optionWords o.1 o.2).filter (· ≠ "")).map String.toList := by
  rcases hvalue : o.2 with _ | v
  · exact ⟨r, rfl, hmode, (List.append_nil _).symm⟩
  obtain ⟨r₁, hread₁, hmode₁, hbegun₁⟩ := exists_readAll_word hmode h.flag.plain
  obtain ⟨r₂, hread₂, hmode₂, hbegun₂⟩ := exists_readAll_word hmode₁ (h.value v hvalue).plain
  have text : (Job.optionText o.1 (some v)).toList = ' ' :: o.1.toList ++ ' ' :: v.toList := by
    simp [Job.optionText]
  refine ⟨r₂, ?_, hmode₂, ?_⟩
  · rw [text, readAll_append_of_ok hread₁, hread₂]
  · rw [hbegun₂, hbegun₁]
    by_cases hv : v = "" <;> simp [optionWords, h.flag_ne, hv]

theorem exists_readAll_options (h : ∀ o ∈ options, PlainOption o) (hmode : r.mode = .bare) :
    ∃ r', r.readAll (options.flatMap fun o => (Job.optionText o.1 o.2).toList) = .ok r' ∧
      r'.mode = .bare ∧ r'.begun = r.begun ++
        ((options.flatMap fun o => optionWords o.1 o.2).filter (· ≠ "")).map String.toList := by
  induction options generalizing r with
  | nil => exact ⟨r, rfl, hmode, (List.append_nil _).symm⟩
  | cons o options ih =>
    obtain ⟨r₁, hread₁, hmode₁, hbegun₁⟩ := (h o List.mem_cons_self).readAll hmode
    obtain ⟨r₂, hread₂, hmode₂, hbegun₂⟩ :=
      ih (fun o ho => h o (List.mem_cons_of_mem _ ho)) hmode₁
    refine ⟨r₂, ?_, hmode₂, ?_⟩
    · rw [List.flatMap_cons, readAll_append_of_ok hread₁, hread₂]
    · rw [hbegun₂, hbegun₁, List.flatMap_cons, List.filter_append, List.map_append,
        List.append_assoc]

theorem PlainOption.not_mem_quotedSpecials (h : PlainOption o) :
    ∀ c ∈ (Job.optionText o.1 o.2).toList, c ∉ quotedSpecials := by
  rcases hvalue : o.2 with _ | v
  · nofun
  have text : (Job.optionText o.1 (some v)).toList = ' ' :: o.1.toList ++ ' ' :: v.toList := by
    simp [Job.optionText]
  have blank : ' ' ∉ quotedSpecials := by decide
  have flag := fun c hc => (h.flag.plain c hc).not_mem_quotedSpecials
  have value := fun c hc => ((h.value v hvalue).plain c hc).not_mem_quotedSpecials
  rw [text]
  simpa [or_imp, forall_and, blank] using ⟨flag, value⟩

end

/-- The number of characters of some words. -/
def totalLength (ws : List String) : Nat := (ws.map String.length).sum

theorem totalLength_append (a b : List String) :
    totalLength (a ++ b) = totalLength a + totalLength b := by
  simp [totalLength]

theorem totalLength_filter (ws : List String) :
    totalLength (ws.filter (· ≠ "")) = totalLength ws := by
  induction ws with
  | nil => rfl
  | cons w ws ih =>
    unfold totalLength at ih ⊢
    by_cases hw : w = "" <;> simp_all

theorem sum_length_map_toList (ws : List String) :
    ((ws.map String.toList).map List.length).sum = totalLength ws := by
  rw [List.map_map]
  rfl

/-! ## The line -/

theorem toList_toString_count (n : UInt32) : (toString n).toList = Nat.toDigits 10 n.toNat :=
  Text.toList_toString n.toNat

theorem isName_count {value : Option UInt32} {v : String} (h : value.map toString = some v) :
    IsName v ∧ v ≠ "" := by
  obtain ⟨n, -, rfl⟩ := Option.map_eq_some_iff.1 h
  have htext := toList_toString_count n
  refine ⟨fun c hc => Or.inl ?_, fun hempty => ?_⟩
  · rw [htext] at hc
    have digit := Text.allDigits_toDigits n.toNat c hc
    simp [Char.isAlphanum, digit]
  · rw [hempty] at htext
    exact Nat.toDigits_ne_nil htext.symm

namespace Job

section

variable {job : Job}

theorem plain_options (h : ∀ v, job.partition = some v → IsName v) :
    ∀ o ∈ job.options, PlainOption o := by
  have flags : ∀ flag ∈ ["-p", "-N", "-n"], flag ≠ "" ∧ IsName flag := by decide
  simp only [List.forall_mem_cons] at flags
  obtain ⟨⟨hp, hp'⟩, ⟨hN, hN'⟩, ⟨hn, hn'⟩, -⟩ := flags
  intro o ho
  simp only [options, List.mem_cons, List.not_mem_nil, or_false] at ho
  obtain rfl | rfl | rfl := ho
  · exact ⟨hp, hp', h⟩
  · exact ⟨hN, hN', fun v hv => (isName_count hv).1⟩
  · exact ⟨hn, hn', fun v hv => (isName_count hv).1⟩

/-- Only an empty partition is missing among the words. -/
theorem filter_options_iff :
    ((job.options.flatMap fun o => optionWords o.1 o.2).filter (· ≠ "") =
      job.options.flatMap fun o => optionWords o.1 o.2) ↔ job.partition ≠ some "" := by
  have present {flag : String} {value : Option String} (hflag : flag ≠ "") :
      (∀ w ∈ optionWords flag value, w ≠ "") ↔ value ≠ some "" := by
    rcases value with _ | v
    · simp [optionWords]
    · simpa [optionWords] using fun _ => hflag
  have count (value : Option UInt32) : value.map toString ≠ some "" :=
    fun h => (isName_count h).2 rfl
  rw [List.filter_eq_self]
  simp only [options, List.flatMap_cons, List.flatMap_nil, List.append_nil, List.forall_mem_append,
    decide_eq_true_eq]
  rw [present (by decide), present (by decide), present (by decide)]
  exact and_iff_left ⟨count _, count _⟩

theorem totalLength_words (job : Job) : totalLength job.words = 12 + job.command.toList.length +
    totalLength (job.options.flatMap fun o => optionWords o.1 o.2) := by
  rw [words, totalLength_append]
  show 6 + (6 + (job.command.length + 0)) + _ = _
  rw [String.length_toList]
  omega

theorem readAll_opening : readAll ⟨.bare, [], none⟩ "sbatch --wrap \"".toList =
    .ok ⟨.quoted, ["sbatch".toList, "--wrap".toList], some []⟩ := rfl

theorem words_of_quotable (hpartition : ∀ v, job.partition = some v → IsName v)
    (h : Quotable job.command.toList) : Shell.words job.commandLine =
      .ok (["sbatch", "--wrap", job.command] ++
        (job.options.flatMap fun o => optionWords o.1 o.2).filter (· ≠ "")) := by
  have command := (readAll_wrapped ["sbatch".toList, "--wrap".toList] job.command.toList []).1 h
  rw [List.nil_append] at command
  have close : read ⟨.quoted, ["sbatch".toList, "--wrap".toList], some job.command.toList⟩ '"' =
    .ok ⟨.bare, ["sbatch".toList, "--wrap".toList], some job.command.toList⟩ := rfl
  obtain ⟨r, options, hmode, hbegun⟩ := exists_readAll_options (r := ⟨.bare,
    ["sbatch".toList, "--wrap".toList], some job.command.toList⟩) (plain_options hpartition) rfl
  refine words_eq_ok_iff.2 ⟨r, ?_, hmode, ?_⟩
  · rw [toList_commandLine, readAll_append_of_ok readAll_opening, readAll_append_of_ok command,
      readAll_cons_of_ok close, options]
  · rw [hbegun]
    simp [begun]

/-- By counting: what is read of a command that is not quotable is too short. -/
theorem quotable_of_words (hpartition : ∀ v, job.partition = some v → IsName v)
    (h : Shell.words job.commandLine = .ok job.words) : Quotable job.command.toList := by
  obtain ⟨r, hread, hmode, hwords⟩ := words_eq_ok_iff.1 h
  rw [toList_commandLine, readAll_append_of_ok readAll_opening] at hread
  obtain ⟨r₁, hcommand, hread⟩ := ok_of_readAll_append hread
  obtain ⟨r₂, hclose, hoptions⟩ := ok_of_readAll_cons hread
  have unquoted : r₂.mode ≠ .quoted := by
    intro hquoted
    refine absurd (hmode.symm.trans (mode_readAll_quoted hquoted (fun c hc => ?_) hoptions)) nofun
    obtain ⟨o, ho, hc⟩ := List.mem_flatMap.1 hc
    exact (plain_options hpartition o ho).not_mem_quotedSpecials c hc
  obtain hq | hleft | hless := quotable_or_lost.1 rfl hcommand
  · exact hq
  · exact absurd (size_read_quotedEscaped hleft (Or.inr (by decide)) hclose).1 unquoted
  · have hbare := (mode_read_quote hclose).resolve_right unquoted
    obtain ⟨_, hread', -, hbegun⟩ := exists_readAll_options (plain_options hpartition) hbare
    rw [hoptions] at hread'
    cases hread'
    have hr : r.begun = job.words.map String.toList := by
      rw [← hwords, List.map_map]
      exact (List.map_id'' (fun _ => String.toList_ofList) r.begun).symm
    have total : r.written = 12 + job.command.toList.length +
        totalLength (job.options.flatMap fun o => optionWords o.1 o.2) := by
      rw [← sum_begun, hr, sum_length_map_toList, totalLength_words]
    have parts : r.written = r₂.written +
        totalLength (job.options.flatMap fun o => optionWords o.1 o.2) := by
      rw [← sum_begun, hbegun, List.map_append, List.sum_append, sum_begun, sum_length_map_toList,
        totalLength_filter]
    have closed := size_read_quote hclose
    have opened : size ⟨.quoted, ["sbatch".toList, "--wrap".toList], some []⟩ = 12 := rfl
    have nothing : r₂.size = r₂.written := by rw [size, hbare, Mode.pending, Nat.add_zero]
    omega

end

end Job

/-- **What the shell makes of the line that submits a job.** For a partition of letters, digits and
dashes it reads exactly the intended words, if and only if the job's command is quotable; and a
partition, if there is one, must not be empty. -/
theorem commandLine_words_iff (job : Job) (hpartition : ∀ v, job.partition = some v → IsName v) :
    Shell.words job.commandLine = .ok (["sbatch", "--wrap", job.command] ++
        optionWords "-p" job.partition ++ optionWords "-N" (job.nodes.map toString) ++
        optionWords "-n" (job.tasks.map toString)) ↔
      Quotable job.command.toList ∧ job.partition ≠ some "" := by
  have intended : ["sbatch", "--wrap", job.command] ++ optionWords "-p" job.partition ++
      optionWords "-N" (job.nodes.map toString) ++ optionWords "-n" (job.tasks.map toString) =
        job.words := by
    simp [Job.words, Job.options]
  rw [intended, ← Job.filter_options_iff]
  constructor
  · intro h
    have hq := Job.quotable_of_words hpartition h
    rw [Job.words_of_quotable hpartition hq] at h
    exact ⟨hq, List.append_cancel_left (Except.ok.inj h)⟩
  · rintro ⟨hq, hfilter⟩
    rw [Job.words_of_quotable hpartition hq, hfilter]
    rfl

/-- A command without anything special, and all options. -/
theorem commandLine_words_sleep :
    let job : Job := ⟨"srun sleep 10", some "queue-0", some 1000, some 1000⟩
    (∀ v, job.partition = some v → IsName v) ∧
      Shell.words job.commandLine = .ok ["sbatch", "--wrap", "srun sleep 10", "-p", "queue-0",
        "-N", "1000", "-n", "1000"] := by
  intro job
  have hpartition : ∀ v, job.partition = some v → IsName v := by
    intro v hv
    cases hv
    decide
  have hq : Quotable job.command.toList := by
    have plain : job.command.toList.all fun c => decide (c ≠ '$' ∧ c ≠ '\x60') := by decide
    refine ⟨fun c hc => of_decide_eq_true (List.all_eq_true.1 plain c hc), fun before after h => ?_⟩
    have absent : '\\' ∉ job.command.toList := by decide
    exact absurd (h ▸ List.mem_append_right before List.mem_cons_self) absent
  exact ⟨hpartition, (commandLine_words_iff job hpartition).2 ⟨hq, by decide⟩⟩

/-- The command marks double quotes of its own with backslashes. These take the marks of the line,
so the double quotes end the quotes around the command, and the shell takes everything away but one
backslash of each pair. -/
theorem commandLine_words_nested_quotes :
    let job : Job := ⟨"echo \"a \\\"b\\\" c\"", none, some 2, none⟩
    Shell.words job.commandLine = .ok ["sbatch", "--wrap", "echo \"a \\b\\ c\"", "-N", "2"] ∧
      Shell.words job.commandLine ≠ .ok ["sbatch", "--wrap", job.command, "-N", "2"] := by
  decide

end FleetScaling
