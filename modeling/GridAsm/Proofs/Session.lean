import GridAsm.Proofs.Notice
import GridAsm.Session

/-!
# Sessions

A history is a list of operations on one assembler.  Of all that came before, an operation finds the
table and the sink, and its answer depends on the table alone (`answer_perform`): a program that was
made earlier, a load that failed or a word that was asked for leave nothing behind.

Work that fails leaves the session as it was when it failed, and not as it was before the work.  So
what one operation does is gone through step by step (`result_bind`), and said once, in
`table_perform` and `writes_perform`: it may put another table in the place of the old one, or add
the words of one program to the sink.  The table and the sink after a whole history follow by
induction (`table_run`, `writes_run`).
-/

namespace GridAsm

open Text

/-! ### What a history leaves -/

/-- The table that an operation puts in the place of the old one, if it does. -/
def Operation.table? : Operation → Option RuleTable
  | .useTable table => some table
  | .useTableFile levels files name => (RuleFile.load levels files name).outcome.toOption
  | _ => none

/-- The program that an operation hands to the sink, if it does. -/
def Operation.program? : Operation → Option Program
  | .handOver program => some program
  | _ => none

/-- The last table that was given or loaded, and the empty one if there was none. -/
def lastTable (history : List Operation) : RuleTable :=
  (history.filterMap Operation.table?).getLast?.getD {}

/-- The words of the programs that were handed over and had any, in order. -/
def handedWords (history : List Operation) : List (List Text) :=
  ((history.filterMap Operation.program?).filter fun program => !program.words.isEmpty).map
    Program.hexWords

/-! ### Steps -/

/-- What some work gives, and the session after it. -/
def Work.result {ε α : Type} (x : Work ε α) (s : Session) : Except ε α × Session :=
  (x.run.run s).value

namespace Session

variable {ε α β : Type}

/-- A sequence goes on with the session that its first part leaves, and ends where that fails. -/
theorem result_bind (x : Work ε α) (f : α → Work ε β) (s : Session) :
    (x >>= f).result s = match x.result s with
      | (.ok a, s') => (f a).result s'
      | (.error e, s') => (.error e, s') := by
  have hrun : (x >>= f).result s = ((x.run >>= ExceptT.bindCont f).run s).value := rfl
  rw [hrun, StateT.run_bind, Logged.value_bind]
  unfold Work.result
  rcases (x.run.run s).value with ⟨result, s'⟩
  cases result <;> rfl

theorem result_get_bind (f : Session → Work ε β) (s : Session) :
    (get >>= f).result s = (f s).result s := rfl

theorem result_modify_bind (g : Session → Session) (f : Unit → Work ε β) (s : Session) :
    (modify g >>= f).result s = (f ()).result (g s) := rfl

/-- An attempt leaves the session as it is, whether it succeeds or not. -/
theorem result_attempt_bind (x : Attempt ε α) (f : α → Work ε β) (s : Session) :
    (attempt x >>= f).result s = match x.outcome with
      | .ok a => (f a).result s
      | .error e => (.error e, s) := by
  have hattempt : (attempt x).result s = (x.outcome, s) := rfl
  rw [result_bind, hattempt]
  cases x.outcome <;> rfl

theorem value_answered (x : Work Failure Answer) (s : Session) :
    ((answered x).run s).value = match x.result s with
      | (.ok answer, s') => (answer, s')
      | (.error failure, s') => (.refused failure, s') := by
  unfold answered
  rw [StateT.run_bind, Logged.value_bind]
  unfold Work.result
  rcases (x.run.run s).value with ⟨result, s'⟩
  cases result <;> rfl

/-! ### One operation -/

/-- A load that fails leaves the table that was there. -/
theorem value_perform_useTableFile (levels : Nat) (files : FileTree) (name : Text) (s : Session) :
    ((perform (.useTableFile levels files name)).run s).value =
      match (RuleFile.load levels files name).outcome with
      | .ok table => (.table table, { s with files := files, table := table })
      | .error failure => (.refused failure, { s with files := files }) := by
  rw [perform, value_answered, result_modify_bind, result_bind, useTableFile, result_get_bind,
    result_attempt_bind]
  cases (RuleFile.load levels files name).outcome <;> rfl

theorem value_perform_assembleFrom (files : FileTree) (p : Path) (s : Session) :
    ((perform (.assembleFrom files p)).run s).value =
      match (SourceFile.assemble files s.table p).outcome with
      | .ok program => (.program program, { s with files := files, last := program })
      | .error failure => (.refused failure, { s with files := files }) := by
  rw [perform, value_answered, result_modify_bind, result_bind, assembleFrom, result_get_bind,
    result_attempt_bind]
  cases (SourceFile.assemble files s.table p).outcome <;> rfl

theorem value_perform_handOver (program : Program) (s : Session) :
    ((perform (.handOver program)).run s).value =
      if program.words.isEmpty then (.written false, s)
      else (.written true, { s with sink := ⟨s.sink.writes ++ [program.hexWords]⟩ }) := by
  rw [perform, value_answered, result_bind, handOver, result_get_bind, result_attempt_bind,
    Attempt.outcome_liftM]
  unfold Artifact.Sink.write
  cases program.words.isEmpty <;> rfl

theorem table_perform (op : Operation) (s : Session) :
    ((perform op).run s).value.2.table = op.table?.getD s.table := by
  cases op with
  | useTableFile levels files name =>
    rw [value_perform_useTableFile, Operation.table?]
    cases (RuleFile.load levels files name).outcome <;> rfl
  | assembleFrom files p =>
    rw [value_perform_assembleFrom]
    cases (SourceFile.assemble files s.table p).outcome <;> rfl
  | handOver program =>
    rw [value_perform_handOver]
    cases program.words.isEmpty <;> rfl
  | useTable | assemble | wordOf => rfl

theorem writes_perform (op : Operation) (s : Session) :
    ((perform op).run s).value.2.sink.writes = s.sink.writes ++ handedWords [op] := by
  cases op with
  | useTableFile levels files name =>
    rw [value_perform_useTableFile]
    cases (RuleFile.load levels files name).outcome <;> exact (List.append_nil _).symm
  | assembleFrom files p =>
    rw [value_perform_assembleFrom]
    cases (SourceFile.assemble files s.table p).outcome <;> exact (List.append_nil _).symm
  | handOver program =>
    rw [value_perform_handOver]
    cases hwords : program.words.isEmpty with
    | true => simp [handedWords, Operation.program?, hwords]
    | false => simp [handedWords, Operation.program?, hwords]
  | useTable | assemble | wordOf => exact (List.append_nil _).symm

/-- An answer depends on nothing but the table. -/
theorem answer_perform (op : Operation) (s : Session) :
    ((perform op).run s).value.1 = ((perform op).run { table := s.table }).value.1 := by
  cases op with
  | useTableFile levels files name =>
    rw [value_perform_useTableFile, value_perform_useTableFile]
    cases (RuleFile.load levels files name).outcome <;> rfl
  | assembleFrom files p =>
    rw [value_perform_assembleFrom, value_perform_assembleFrom]
    cases (SourceFile.assemble files s.table p).outcome <;> rfl
  | handOver program =>
    rw [value_perform_handOver, value_perform_handOver]
    cases program.words.isEmpty <;> rfl
  | useTable | assemble | wordOf => rfl

/-! ### Whole histories -/

theorem value_run_cons (op : Operation) (rest : List Operation) (s : Session) :
    ((run (op :: rest)).run s).value =
      (((perform op).run s).value.1 :: ((run rest).run ((perform op).run s).value.2).value.1,
        ((run rest).run ((perform op).run s).value.2).value.2) := rfl

theorem length_answers (history : List Operation) (s : Session) :
    ((run history).run s).value.1.length = history.length := by
  induction history generalizing s with
  | nil => rfl
  | cons op rest ih => rw [value_run_cons, List.length_cons, ih, List.length_cons]

theorem value_run_append (earlier later : List Operation) (s : Session) :
    ((run (earlier ++ later)).run s).value =
      (((run earlier).run s).value.1 ++ ((run later).run ((run earlier).run s).value.2).value.1,
        ((run later).run ((run earlier).run s).value.2).value.2) := by
  induction earlier generalizing s with
  | nil => rfl
  | cons op rest ih => rw [List.cons_append, value_run_cons, ih, value_run_cons, List.cons_append]

theorem table_run (history : List Operation) (s : Session) :
    ((run history).run s).value.2.table =
      (history.filterMap Operation.table?).getLast?.getD s.table := by
  induction history generalizing s with
  | nil => rfl
  | cons op rest ih =>
    rw [value_run_cons, ih, table_perform, List.filterMap_cons]
    cases op.table? with
    | none => rfl
    | some table =>
      -- A later table counts, and if there is none this one stays.
      rw [List.getLast?_cons]
      rfl

theorem writes_run (history : List Operation) (s : Session) :
    ((run history).run s).value.2.sink.writes = s.sink.writes ++ handedWords history := by
  induction history generalizing s with
  | nil => exact (List.append_nil _).symm
  | cons op rest ih =>
    have hsplit : handedWords (op :: rest) = handedWords [op] ++ handedWords rest := by
      unfold handedWords
      rw [← List.map_append, ← List.filter_append, ← List.filterMap_append]
      rfl
    rw [value_run_cons, ih, writes_perform, hsplit, List.append_assoc]

/-- **A session keeps its table and its sink, and nothing else.**  After any operations of a history
the table is the last one that was given or could be loaded, or the empty one.  The answer to the
next operation, whatever follows it, is that of a new assembler with this table.  The sink holds the
words of the programs that were handed over and had any, in order. -/
theorem session_keeps_table_and_sink (earlier later : List Operation) (op : Operation) :
    let reached := ((run earlier).run {}).value.2
    let new : Session := { table := lastTable earlier }
    reached.table = lastTable earlier ∧
      ((run (earlier ++ op :: later)).run {}).value.1[earlier.length]? =
        some ((perform op).run new).value.1 ∧
      reached.sink.writes = handedWords earlier := by
  intro reached new
  have htable : reached.table = lastTable earlier := table_run earlier {}
  refine ⟨htable, ?_, writes_run earlier {}⟩
  rw [value_run_append, List.getElem?_append_right (Nat.le_of_eq (length_answers ..)),
    length_answers, Nat.sub_self, value_run_cons, List.getElem?_cons_zero]
  -- What is left is the answer in the session reached, of which only the table counts.
  show some ((perform op).run reached).value.1 = _
  rw [answer_perform, htable]

end Session

end GridAsm
