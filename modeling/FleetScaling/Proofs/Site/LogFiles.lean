import FleetScaling.Proofs.Site.Answers
import FleetScaling.Site.LogFile

/-!
# Messages in log files

A check for messages reads log files of the head node one after another, each with one command. The
answer to a command either is `Clean` or is one of three kinds of `LogFault`; the first fault ends
the check (`expectNotLogged_of_clean`, `expectNotLogged_of_fault`). So the check of all files comes
out well exactly if every answer is clean, and otherwise with the fault of the first file that has
one, after which nothing is read (`expectNotLogged_course`).
-/

namespace FleetScaling

open Text

variable {ω : Type}

/-! ## Texts within texts -/

theorem occursIn_iff {needle cs : List Char} : occursIn needle cs = true ↔ needle <:+: cs := by
  induction cs with
  | nil => rw [occursIn, List.isEmpty_iff, List.infix_nil]
  | cons c cs ih =>
    rw [occursIn, Bool.or_eq_true, List.isPrefixOf_iff_prefix, ih, List.infix_cons_iff]

theorem occurs_iff {needle text : String} :
    occurs needle text = true ↔ needle.toList <:+: text.toList := occursIn_iff

theorem exists_joined_cons (separator text : String) (rest : List String) :
    ∃ more, joined separator (text :: rest) = text ++ more := by
  cases rest with
  | nil => exact ⟨"", String.append_empty.symm⟩
  | cons next rest =>
    refine ⟨separator ++ joined separator (next :: rest), ?_⟩
    rw [joined, String.intercalate_cons_cons, String.append_assoc]
    rfl

/-! ## Commands one after another -/

namespace HeadNode

/-- The answers to command lines that are run one after another, whatever they are. -/
def answers (headNode : HeadNode ω) : List String → ω → List (Except Failure CommandResult)
  | [], _ => []
  | command :: commands, world =>
    (headNode.run command world).outcome ::
      headNode.answers commands (headNode.run command world).world

/-- The head node with a record of the command lines that it was asked to run. -/
def recorded (headNode : HeadNode ω) : HeadNode (ω × List String) where
  run command := fun (world, commands) =>
    let run := headNode.run command world
    ⟨run.outcome, (run.world, commands ++ [command]), run.notes⟩
  reset := fun (world, commands) =>
    let reset := headNode.reset world
    ⟨reset.outcome, (reset.world, commands), reset.notes⟩

end HeadNode

/-! ## Answers -/

/-- The command line that shows a file. -/
def showCommand (file : String) : String := "sudo cat " ++ file

/-- The answer shows a file that holds none of the messages. -/
def Clean (messages : List String) (answer : Except Failure CommandResult) : Prop :=
  ∃ r, answer = .ok r ∧ r.exitCode = 0 ∧ ∀ message ∈ messages, ¬ message.toList <:+: r.output.toList

/-- Why the answer to the command that shows a file fails a check for messages: there is none, the
command fails, or the file holds a message, of which the first is named. -/
inductive LogFault (messages : List String) (file : String) :
    Except Failure CommandResult → Failure → Prop
  | unanswered (failure : Failure) :
    LogFault messages file (.error failure) (failure.within ("Failed to read " ++ file))
  | refused {r : CommandResult} (code : r.exitCode ≠ 0) :
    LogFault messages file (.ok r) <| Failure.within ("Failed to read " ++ file) <|
      .other ("Remote command `" ++ showCommand file ++ "` failed with exit code " ++
        toString r.exitCode ++ ": " ++ trim r.errors)
  | found {r : CommandResult} {before after : List String} {message : String}
    (code : r.exitCode = 0) (split : messages = before ++ message :: after)
    (first : ∀ m ∈ before, ¬ m.toList <:+: r.output.toList)
    (here : message.toList <:+: r.output.toList) :
    LogFault messages file (.ok r) (.other ("Found \"" ++ message ++ "\" in " ++ file))

/-- What becomes of a check for messages when the command that shows a file is answered. -/
def logVerdict (messages : List String) (file : String) (answer : Except Failure CommandResult) :
    Except Failure Unit :=
  (withContext ("Failed to read " ++ file)
    (answer.bind (·.checked ("Remote command `" ++ showCommand file ++ "`")))).bind
    fun r => expectNoneOf messages file r.output

section Answers

variable {messages : List String} {file : String} {answer : Except Failure CommandResult}
  {failure : Failure}

theorem expectNoneOf_of_clean {output : String}
    (clean : ∀ message ∈ messages, ¬ message.toList <:+: output.toList) :
    expectNoneOf messages file output = .ok () := by
  have none : messages.find? (fun message => occurs message output) = none :=
    List.find?_eq_none.2 fun message hm h => clean message hm (occurs_iff.1 h)
  unfold expectNoneOf
  rw [none]

/-- The message that is named is the first one that the output holds. -/
theorem expectNoneOf_of_found {before after : List String} {message output : String}
    (first : ∀ m ∈ before, ¬ m.toList <:+: output.toList)
    (here : message.toList <:+: output.toList) :
    expectNoneOf (before ++ message :: after) file output =
      .error (.other ("Found \"" ++ message ++ "\" in " ++ file)) := by
  have skipped : before.find? (fun message => occurs message output) = none :=
    List.find?_eq_none.2 fun m hm h => first m hm (occurs_iff.1 h)
  have found : (before ++ message :: after).find? (fun message => occurs message output) =
      some message := by
    rw [List.find?_append, skipped, List.find?_cons_of_pos (by exact occurs_iff.2 here)]
    rfl
  unfold expectNoneOf
  rw [found]

theorem logVerdict_of_clean (clean : Clean messages answer) :
    logVerdict messages file answer = .ok () := by
  obtain ⟨r, rfl, code, clean⟩ := clean
  show (withContext _ (r.checked _)).bind _ = _
  rw [checked_of_code code]
  exact expectNoneOf_of_clean clean

theorem logVerdict_of_fault (fault : LogFault messages file answer failure) :
    logVerdict messages file answer = .error failure := by
  cases fault with
  | unanswered failure => rfl
  | @refused r code =>
    show (withContext _ (r.checked _)).bind _ = _
    have text : "Remote command `" ++ showCommand file ++ "`" ++ " failed with exit code " =
        "Remote command `" ++ showCommand file ++ "` failed with exit code " := String.append_assoc
    rw [checked_of_code_ne code, text]
    rfl
  | @found r before after message code split first here =>
    show (withContext _ (r.checked _)).bind _ = _
    rw [checked_of_code code, split]
    exact expectNoneOf_of_found first here

/-- Whatever the fault, its file is named. -/
theorem LogFault.names_file (fault : LogFault messages file answer failure) :
    file.toList <:+: failure.message.toList := by
  have named (front : String) {text : String} (rest : List String) (h : text = front ++ file) :
      file.toList <:+: (joined ": " (text :: rest)).toList := by
    obtain ⟨more, hmore⟩ := exists_joined_cons ": " text rest
    rw [hmore, h, String.toList_append, String.toList_append]
    exact List.infix_append _ _ _
  cases fault with
  | unanswered failure => exact named "Failed to read " _ rfl
  | refused => exact named "Failed to read " _ rfl
  | @found _ _ _ message => exact named ("Found \"" ++ message ++ "\" in ") _ rfl

theorem clean_or_fault (messages : List String) (file : String)
    (answer : Except Failure CommandResult) :
    Clean messages answer ∨ ∃ failure, LogFault messages file answer failure := by
  cases answer with
  | error failure => exact .inr ⟨_, .unanswered failure⟩
  | ok r =>
    by_cases code : r.exitCode = 0
    case neg => exact .inr ⟨_, .refused code⟩
    cases found : messages.find? fun message => occurs message r.output with
    | none =>
      refine .inl ⟨r, rfl, code, fun message hm h => ?_⟩
      exact List.find?_eq_none.1 found message hm (occurs_iff.2 h)
    | some message =>
      obtain ⟨here, before, after, split, first⟩ := List.find?_eq_some_iff_append.1 found
      refine .inr ⟨_, .found code split (fun m hm h => ?_) (occurs_iff.1 here)⟩
      exact absurd (first m hm) (by rw [occurs_iff.2 h]; decide)

theorem Clean.not_fault (clean : Clean messages answer) :
    ¬ LogFault messages file answer failure := by
  intro fault
  have passed : logVerdict messages file answer = .ok () := logVerdict_of_clean clean
  cases passed.symm.trans (logVerdict_of_fault fault)

end Answers

/-! ## Files one after another -/

section Files

variable {headNode : HeadNode ω} {messages files : List String} {file : String} {world : ω}
  {failure : Failure}

/-- The check of one file is one command, whose answer is judged. -/
theorem shown_apply : (do
      let r ← (headNode.runChecked (showCommand file)).within ("Failed to read " ++ file)
      .ofExcept (expectNoneOf messages file r.output) : SiteOperation ω Unit) world =
    ⟨logVerdict messages file (headNode.run (showCommand file) world).outcome,
      (headNode.run (showCommand file) world).world,
      (headNode.run (showCommand file) world).notes⟩ := by
  rw [Operation.bind_ofExcept_apply, Operation.within_apply, runChecked_apply]
  rfl

theorem expectNotLogged_cons : expectNotLogged headNode messages (file :: files) =
    (do let r ← (headNode.runChecked (showCommand file)).within ("Failed to read " ++ file)
        .ofExcept (expectNoneOf messages file r.output)) >>=
      fun _ => expectNotLogged headNode messages files :=
  (Operation.bind_assoc _ _ _).symm

/-- After a clean file the check goes on. -/
theorem expectNotLogged_of_clean
    (clean : Clean messages (headNode.run (showCommand file) world).outcome) :
    expectNotLogged headNode messages (file :: files) world =
      let run := headNode.run (showCommand file) world
      let rest := expectNotLogged headNode messages files run.world
      ⟨rest.outcome, rest.world, run.notes ++ rest.notes⟩ := by
  rw [expectNotLogged_cons, Operation.bind_of_ok (a := ()), shown_apply]
  rw [shown_apply]
  exact logVerdict_of_clean clean

/-- A fault ends it. -/
theorem expectNotLogged_of_fault
    (fault : LogFault messages file (headNode.run (showCommand file) world).outcome failure) :
    expectNotLogged headNode messages (file :: files) world =
      let run := headNode.run (showCommand file) world
      ⟨.error failure, run.world, run.notes⟩ := by
  rw [expectNotLogged_cons, Operation.bind_of_error, shown_apply]
  rw [shown_apply]
  exact logVerdict_of_fault fault

end Files

/-- The `i`-th of some files is the first whose answer has a fault. -/
structure FirstFault (messages files : List String) (answers : List (Except Failure CommandResult))
    (i : Nat) (failure : Failure) : Prop where
  before : ∀ answer ∈ answers.take i, Clean messages answer
  fault : ∃ file ∈ files[i]?, ∃ answer ∈ answers[i]?, LogFault messages file answer failure

namespace FirstFault

variable {messages files : List String} {answers : List (Except Failure CommandResult)} {i : Nat}
  {file : String} {answer : Except Failure CommandResult} {failure : Failure}

theorem head (fault : LogFault messages file answer failure) :
    FirstFault messages (file :: files) (answer :: answers) 0 failure where
  before := List.forall_mem_nil _
  fault := ⟨file, rfl, answer, rfl, fault⟩

theorem cons (clean : Clean messages answer) (h : FirstFault messages files answers i failure) :
    FirstFault messages (file :: files) (answer :: answers) (i + 1) failure where
  before := List.forall_mem_cons.2 ⟨clean, h.before⟩
  fault := h.fault

theorem not_all_clean (h : FirstFault messages files answers i failure) :
    ¬ ∀ answer ∈ answers, Clean messages answer := by
  obtain ⟨-, file, -, answer, hanswer, fault⟩ := h
  exact fun clean => (clean answer (List.mem_of_getElem? hanswer)).not_fault fault

end FirstFault

/-- All answers are clean and all files are read, or the first fault is the outcome and its file the
last that is read. By induction on the files, whatever was on the record before. -/
theorem expectNotLogged_clean_or_fault (headNode : HeadNode ω) (messages files : List String)
    (world : ω) (before : List String) :
    let check := expectNotLogged headNode messages files world
    let answers := headNode.answers (files.map showCommand) world
    let record := (expectNotLogged headNode.recorded messages files (world, before)).world.2
    ((∀ answer ∈ answers, Clean messages answer) ∧ check.outcome = .ok () ∧
      record = before ++ files.map showCommand) ∨
    ∃ i failure, FirstFault messages files answers i failure ∧ check.outcome = .error failure ∧
      record = before ++ (files.take (i + 1)).map showCommand := by
  induction files generalizing world before with
  | nil => exact .inl ⟨List.forall_mem_nil _, rfl, (List.append_nil before).symm⟩
  | cons file files ih =>
    dsimp only
    rcases clean_or_fault messages file (headNode.run (showCommand file) world).outcome with
      clean | ⟨failure, fault⟩
    · have recorded : Clean messages
          (headNode.recorded.run (showCommand file) (world, before)).outcome := clean
      rw [expectNotLogged_of_clean clean, expectNotLogged_of_clean recorded]
      rcases ih (headNode.run (showCommand file) world).world (before ++ [showCommand file]) with
        ⟨all, passed, record⟩ | ⟨i, failure, first, failed, record⟩
      · refine .inl ⟨List.forall_mem_cons.2 ⟨clean, all⟩, passed, record.trans ?_⟩
        rw [List.append_assoc]
        rfl
      · refine .inr ⟨i + 1, failure, first.cons clean, failed, record.trans ?_⟩
        rw [List.append_assoc]
        rfl
    · have recorded : LogFault messages file
          (headNode.recorded.run (showCommand file) (world, before)).outcome failure := fault
      rw [expectNotLogged_of_fault fault, expectNotLogged_of_fault recorded]
      exact .inr ⟨0, failure, .head fault, rfl, rfl⟩

/-- **Log files.** The check succeeds exactly if every file is shown and holds none of the messages.
If not, its failure is that of the first file with a fault, which is also the last one that is
read. -/
theorem expectNotLogged_course (headNode : HeadNode ω) (messages files : List String) (world : ω) :
    let check := expectNotLogged headNode messages files world
    let answers := headNode.answers (files.map showCommand) world
    let commands := (expectNotLogged headNode.recorded messages files (world, [])).world.2
    (check.outcome = .ok () ↔ ∀ answer ∈ answers, Clean messages answer) ∧
    (check.outcome = .ok () → commands = files.map showCommand) ∧
    ∀ failure, check.outcome = .error failure →
      ∃ i, FirstFault messages files answers i failure ∧
        commands = (files.take (i + 1)).map showCommand := by
  dsimp only
  rcases expectNotLogged_clean_or_fault headNode messages files world [] with
    ⟨all, passed, record⟩ | ⟨i, failure, first, failed, record⟩
  · rw [passed, record]
    exact ⟨iff_of_true rfl all, fun _ => rfl, nofun⟩
  · rw [failed, record]
    refine ⟨iff_of_false nofun first.not_all_clean, nofun, fun failure' h => ?_⟩
    cases h
    exact ⟨i, first, rfl⟩

end FleetScaling
