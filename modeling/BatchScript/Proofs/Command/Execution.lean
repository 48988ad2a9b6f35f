import BatchScript.Command.Run
import BatchScript.Proofs.Files.Disk

/-!
# How the command ends

Once its options are made out, the command ends in one of nine ways, whatever the files answer.
Seven of them come before any writing. The other two are the answers to a write of the output to the
file that the options name, after all that was to be read was read.

So on a disk only that write changes anything. It changes the file on success, and also without
success if the file was opened and the write breaks down then: there is no way back to what the file
was.
-/
namespace BatchScript

open Access (ReadsOnly)
open Data (Nesting)

namespace Settings

/-- Asking for a configuration file only reads. -/
theorem readsOnly_isFile (path : Path) : ReadsOnly (isFile path) := by
  rw [isFile]
  split
  · exact .done _
  · refine ReadsOnly.bind (.isFile fun answer => .done answer) fun answer => ?_
    split
    · exact .done _
    · split
      · exact .done _
      · exact .done _

/-- Loading a configuration only reads. -/
theorem readsOnly_load (path : Option Path) (directory : Path) (nesting : Nesting) :
    ReadsOnly (load path directory nesting) := by
  rw [load]
  refine (readsOnly_isFile _).bind fun found => ?_
  split
  · exact .done _
  · exact .done _
  · refine ReadsOnly.bind (.readFile fun answer => .done answer) fun answer => ?_
    split
    · exact .done _
    · exact .done _

end Settings

namespace Command

/-- Producing the output only reads. -/
theorem readsOnly_produce (nesting : Nesting) (options : Options) (source : Text) :
    ReadsOnly (produce nesting options source) := by
  rw [produce]
  split
  · refine (Settings.readsOnly_load _ _ _).bind fun loaded => ?_
    split
    split
    · exact .done _
    · exact .done _
  · split
    · exact .done _
    · exact .done _

section Files

variable {State : Type} (system : FileSystem State) (nesting : Nesting) (options : Options)

/-- The options name a script that can be read as text. -/
structure Reads (state : State) (source : Text) : Prop where
  /-- Its path can be one of a file. -/
  named : options.input.hasNull = false
  /-- The bytes of the file are the text. -/
  text : ∃ contents, system.read state options.input = .ok contents ∧ decode contents = .ok source

/-- The result of producing the output for the script that the options name. -/
def Produces (state : State) (result : Except Error Text) (log : List Log.Record) : Prop :=
  ∃ source, Reads system options state source ∧
    (produce nesting options source).runOn system state = ((result, log), state)

/-- The ways in which the command ends on files in some state, with the state that it leaves. -/
inductive Execution (state : State) : Except Error Outcome → State → Prop
  /-- No file can have the path of the script. -/
  | noScript (null : options.input.hasNull = true) : Execution state (.error .nullInPath) state
  /-- The script cannot be read. -/
  | unreadable {cause : FileError} (named : options.input.hasNull = false)
    (refused : system.read state options.input = .error cause) :
    Execution state (.ok (ended 1 [] (fileErrorLine "read" options.input cause))) state
  /-- The script is no text. -/
  | noText {contents : ByteArray} {cause : Error} (named : options.input.hasNull = false)
    (read : system.read state options.input = .ok contents)
    (refused : decode contents = .error cause) : Execution state (.error cause) state
  /-- The configuration cannot be used. -/
  | badConfig {problem : ConfigProblem} {path : Option Path} {log : List Log.Record}
    (produces : Produces system nesting options state (.error (.config problem path)) log) :
    Execution state
      (.ok (ended 2 []
        (shownLog options log ++ errorLine (Error.config problem path).message))) state
  /-- The output cannot be produced for another cause. -/
  | failed {cause : Error} {log : List Log.Record}
    (produces : Produces system nesting options state (.error cause) log)
    (other : ∀ problem path, cause ≠ .config problem path) : Execution state (.error cause) state
  /-- The output goes to the standard output. -/
  | printed {output : Text} {log : List Log.Record}
    (produces : Produces system nesting options state (.ok output) log)
    (unnamed : options.output = none) :
    Execution state (.ok (ended 0 output (shownLog options log))) state
  /-- No file can have the path of the output. -/
  | noOutput {output : Text} {log : List Log.Record} {path : Path}
    (produces : Produces system nesting options state (.ok output) log)
    (given : options.output = some path) (null : path.hasNull = true) :
    Execution state (.error .nullInPath) state
  /-- The output cannot be written, or not all of it. -/
  | unwritten {output : Text} {log : List Log.Record} {path : Path} {cause : FileError}
    {after : State} (produces : Produces system nesting options state (.ok output) log)
    (given : options.output = some path) (named : path.hasNull = false)
    (refused : system.write state path (String.ofList output).toUTF8 = (.error cause, after)) :
    Execution state
      (.ok (ended 1 [] (shownLog options log ++ fileErrorLine "write" path cause))) after
  /-- The output is written to its file. -/
  | written {output : Text} {log : List Log.Record} {path : Path} {after : State}
    (produces : Produces system nesting options state (.ok output) log)
    (given : options.output = some path) (named : path.hasNull = false)
    (wrote : system.write state path (String.ofList output).toUTF8 = (.ok (), after)) :
    Execution state (.ok (ended 0 [] (shownLog options log))) after

end Files

variable {State : Type} {system : FileSystem State} {nesting : Nesting} {options : Options}

/-- Output that was produced is printed or written, or there is no file to write it to. -/
theorem execution_deliver {state : State} {output : Text} {log : List Log.Record}
    (produces : Produces system nesting options state (.ok output) log) :
    let delivered := (deliver options output (shownLog options log)).runOn system state
    Execution system nesting options state delivered.1 delivered.2 := by
  rw [deliver]
  cases given : options.output with
  | none => exact .printed produces given
  | some path =>
    cases null : path.hasNull with
    | true =>
      simp only [null]
      exact .noOutput produces given null
    | false =>
      simp only [null, Bool.false_eq_true, if_false]
      rw [Access.runOn_bind, Access.write]
      simp only [Access.runOn]
      rcases wrote : system.write state path (String.ofList output).toUTF8 with ⟨answer, after⟩
      cases answer with
      | error cause => exact .unwritten produces given null wrote
      | ok => exact .written produces given null wrote

/-- The command ends in one of these ways. -/
theorem execution (system : FileSystem State) (nesting : Nesting) (options : Options)
    (state : State) :
    Execution system nesting options state ((execute nesting options).runOn system state).1
      ((execute nesting options).runOn system state).2 := by
  rw [execute]
  cases null : options.input.hasNull with
  | true => exact .noScript null
  | false =>
    simp only [Bool.false_eq_true, if_false]
    rw [Access.runOn_bind, Access.read]
    simp only [Access.runOn]
    cases read : system.read state options.input with
    | error cause => exact .unreadable null read
    | ok contents =>
      cases decoded : decode contents with
      | error cause =>
        simp only [decoded]
        exact .noText null read decoded
      | ok source =>
        simp only [decoded]
        have reads : Reads system options state source := ⟨null, contents, read, decoded⟩
        have kept := (readsOnly_produce nesting options source).runOn_snd system state
        rw [Access.runOn_bind]
        rcases produced : (produce nesting options source).runOn system state with
          ⟨⟨result, log⟩, after⟩
        obtain rfl : after = state := by rw [produced] at kept; exact kept
        cases result with
        | ok output => exact execution_deliver ⟨source, reads, produced⟩
        | error cause =>
          cases cause with
          | config problem path => exact .badConfig ⟨source, reads, produced⟩
          | _ => exact .failed ⟨source, reads, produced⟩ (by simp)

/-- The result of a success: the command itself gave the exit code 0. -/
def Succeeded (result : Except Error Outcome) : Prop :=
  ∃ outcome, result = .ok outcome ∧ outcome.exit = 0 ∧ outcome.overArguments = false

variable {disk after : Disk} {result : Except Error Outcome} {outcome : Outcome}

/-- The output was to go to a file, which was opened, and the write broke down. The command says so
and gives the exit code 1. The file holds the bytes that came first, and nothing else has
changed. -/
def BreaksOff (nesting : Nesting) (options : Options) (disk : Disk)
    (result : Except Error Outcome) (after : Disk) : Prop :=
  ∃ output log path place count cause,
    Produces Disk.system nesting options disk (.ok output) log ∧ options.output = some path ∧
    disk.breakdown place (String.ofList output).toUTF8 = some (count, cause) ∧
    result = .ok (ended 1 [] (shownLog options log ++ fileErrorLine "write" path cause)) ∧
    disk.WrittenAt path place ((String.ofList output).toUTF8.extract 0 count) after

/-- An output was produced on the disk as it was. It was printed, or else it was written to its
file, and nothing else has changed. -/
def Delivers (nesting : Nesting) (options : Options) (disk : Disk) (outcome : Outcome)
    (after : Disk) : Prop :=
  ∃ output log, Produces Disk.system nesting options disk (.ok output) log ∧
    (options.output = none → outcome.stdout = output ∧ after = disk) ∧
    ∀ path, options.output = some path →
      outcome.stdout = [] ∧ ∃ place, disk.WrittenAt path place (String.ofList output).toUTF8 after

/-- Without success the disk is as it was, unless the write of the output broke off. -/
theorem Execution.unchanged (ends : Execution Disk.system nesting options disk result after)
    (failed : ¬ Succeeded result) : after = disk ∨ BreaksOff nesting options disk result after := by
  cases ends with
  | written => exact absurd ⟨_, rfl, rfl, rfl⟩ failed
  | @unwritten output log path cause _ produces given named refused =>
    cases Disk.writing_of_write refused with
    | closed => exact .inl rfl
    | broken stops written =>
      exact .inr ⟨output, log, path, _, _, cause, produces, given, stops, rfl, written⟩
  | _ => exact .inl rfl

/-- On success the output was delivered. -/
theorem Execution.delivers (ends : Execution Disk.system nesting options disk (.ok outcome) after)
    (success : outcome.exit = 0) : Delivers nesting options disk outcome after := by
  cases ends with
  | unreadable => cases success
  | badConfig => cases success
  | unwritten => cases success
  | printed produces unnamed =>
    refine ⟨_, _, produces, fun _ => ⟨rfl, rfl⟩, fun path given => ?_⟩
    cases unnamed.symm.trans given
  | @written output log path _ produces given named wrote =>
    refine ⟨output, log, produces, fun unnamed => ?_, fun other same => ⟨rfl, ?_⟩⟩
    · cases unnamed.symm.trans given
    · obtain rfl : path = other := Option.some.inj (given.symm.trans same)
      cases Disk.writing_of_write wrote with
      | whole runs written => exact ⟨_, written⟩

/-- Arguments that are understood are carried out as the options that they stand for. -/
theorem run_of_resolve {arguments : List Text} {parsed : Arguments}
    (accepted : parse arguments = .ok parsed) (resolved : resolve parsed = .ok options) :
    run arguments nesting = execute nesting options := by
  simp only [run, accepted, resolved]

/-- The options that arguments stand for. -/
def Means (arguments : List Text) (options : Options) : Prop :=
  ∃ parsed, parse arguments = .ok parsed ∧ resolve parsed = .ok options

/-- The command carries out the options that its arguments stand for, or ends over them at once and
without success. -/
theorem run_cases (arguments : List Text) (nesting : Nesting) :
    (∃ options, Means arguments options ∧ run arguments nesting = execute nesting options) ∨
    ∃ result, run arguments nesting = .done result ∧ ¬ Succeeded result := by
  have atOnce : ∀ stop, ¬ Succeeded (.ok (stopped stop)) := by
    rintro stop ⟨outcome, same, -, returned⟩
    obtain rfl := Except.ok.inj same
    cases stop <;> cases returned
  have refused : ∀ message, ¬ Succeeded (.ok (ended 2 [] message)) := by
    rintro message ⟨outcome, same, success, -⟩
    obtain rfl := Except.ok.inj same
    cases success
  have raised : ∀ cause, ¬ Succeeded (.error cause) := by
    rintro cause ⟨outcome, same, -⟩
    cases same
  cases accepted : parse arguments with
  | error stop =>
    right
    exact ⟨_, by simp only [run, accepted]; rfl, atOnce stop⟩
  | ok parsed =>
    cases resolved : resolve parsed with
    | ok options =>
      exact .inl ⟨options, ⟨parsed, accepted, resolved⟩, run_of_resolve accepted resolved⟩
    | error cause =>
      right
      simp only [run, accepted, resolved]
      split
      · contradiction
      · exact ⟨_, rfl, refused _⟩
      · exact ⟨_, rfl, refused _⟩
      · exact ⟨_, rfl, raised _⟩

/-- Without success the command leaves the disk as it is, whether it ends over its arguments, with
another exit code or not at all, but for one case: the output file was opened and the write broke
down. Then the exit code is 1, the file holds what was written before, and nothing else has changed.
On success the command has read the script and produced an output from it, all on the disk as it
was. That is what it printed, if the options name no file for it. If they do, nothing was printed,
the file holds the output unless it is a device, and nothing else has changed. -/
theorem files_change_by_begun_write_only (arguments : List Text) (nesting : Nesting) (disk : Disk) :
    let result := ((run arguments nesting).run disk).1
    let after := ((run arguments nesting).run disk).2
    (¬ Succeeded result → after = disk ∨
      ∃ options, Means arguments options ∧ BreaksOff nesting options disk result after) ∧
    ∀ outcome, result = .ok outcome → outcome.exit = 0 → outcome.overArguments = false →
      ∃ options, Means arguments options ∧ Delivers nesting options disk outcome after := by
  intro result after
  rcases run_cases arguments nesting with ⟨options, means, ran⟩ | ⟨ended, ran, failed⟩
  · have ends : Execution Disk.system nesting options disk result after := by
      have executed := execution Disk.system nesting options disk
      rwa [← ran] at executed
    refine ⟨fun failed => ?_, fun outcome same success _ => ?_⟩
    · exact (ends.unchanged failed).imp_right fun breaks => ⟨options, means, breaks⟩
    · rw [same] at ends
      exact ⟨options, means, ends.delivers success⟩
  · have done : (run arguments nesting).run disk = (ended, disk) := by rw [ran]; rfl
    refine ⟨fun _ => .inl (congrArg Prod.snd done), fun outcome same success returned => ?_⟩
    exact absurd ⟨outcome, (congrArg Prod.fst done).symm.trans same, success, returned⟩ failed

/-- A script that is missing changes nothing, and one that its own dump is written over was read
before. -/
theorem files_change_by_begun_write_only_in_place :
    let script : Text := "a.bat".toList
    let disk : Disk := ⟨["home".toList], [(["home".toList, script], .file "echo\n".toUTF8)],
      fun _ _ => none, fun _ _ => none⟩
    let missing := (run ["b.bat".toList] .usual).run disk
    let dumped := (run [script, "-o".toList, script] .usual).run disk
    let options : Options := ⟨.ofText script, some (.ofText script), false, none, none, false⟩
    (¬ Succeeded missing.1 ∧ missing.2 = disk) ∧
      dumped.1 = .ok (ended 0 [] []) ∧
      ∃ output log place, Produces Disk.system .usual options disk (.ok output) log ∧
        disk.WrittenAt (.ofText script) place (String.ofList output).toUTF8 dumped.2 := by
  intro script disk missing dumped options
  have refused : missing.1 =
      .ok (ended 1 [] (fileErrorLine "read" (.ofText "b.bat".toList) .notFound)) := rfl
  have failed : ¬ Succeeded missing.1 := by
    rintro ⟨outcome, same, success, -⟩
    obtain rfl := Except.ok.inj (refused.symm.trans same)
    cases success
  have same : missing.2 = disk := by
    rcases (files_change_by_begun_write_only _ _ disk).1 failed with same | ⟨_, _, breaks⟩
    · exact same
    · obtain ⟨_, _, _, _, _, _, _, _, stops, _⟩ := breaks
      cases stops
  have wrote : dumped.1 = .ok (ended 0 [] []) := rfl
  have understood : parse [script, "-o".toList, script] =
      .ok ⟨some script, some script, false, none, none, false, []⟩ := rfl
  obtain ⟨chosen, ⟨parsed, accepted, resolved⟩, output, log, produces, -, written⟩ :=
    (files_change_by_begun_write_only _ _ disk).2 _ wrote rfl rfl
  obtain rfl := Except.ok.inj (understood.symm.trans accepted)
  obtain rfl : options = chosen := Except.ok.inj resolved
  obtain ⟨-, place, there⟩ := written _ rfl
  exact ⟨⟨failed, same⟩, wrote, output, log, place, produces, there⟩

/-- An output file is lost if the disk is full: the command gives the exit code 1, and the file is
empty. And a device takes the output on success, but holds nothing of it. -/
theorem begun_write_loses_file :
    let script : Text := "a.bat".toList
    let page : Path := .ofText "b.txt".toList
    let null : Text := "/dev/null".toList
    let full : Disk := ⟨["home".toList], [(["home".toList, script], .file "echo\n".toUTF8),
      (["home".toList, "b.txt".toList], .file "old".toUTF8), (["dev".toList], .directory),
      (Disk.nullDevice, .device)], fun _ _ => none,
      fun _ _ => some (0, .other "No space left on device".toList)⟩
    let disk : Disk := { full with breakdown := fun _ _ => none }
    let lost := (run [script, "-o".toList, "b.txt".toList]).run full
    let gone := (run [script, "--html".toList, "-o".toList, null]).run disk
    (lost.1.map (·.exit) = .ok 1 ∧ full.read page = .ok "old".toUTF8 ∧
      lost.2.read page = .ok .empty) ∧
    gone.1 = .ok (ended 0 [] []) ∧ gone.2.read (.ofText null) = .ok .empty ∧
      ((run [script, "--html".toList]).run disk).1.map (·.stdout.isEmpty) = .ok false := by
  have nothing : ∀ bytes : ByteArray, bytes.extract 0 0 = .empty := by simp
  exact ⟨⟨rfl, rfl, congrArg Except.ok (nothing _)⟩, rfl, rfl, rfl⟩

end Command

end BatchScript
