import BatchScript.Proofs.Command.CursorArgument
import BatchScript.Proofs.Command.Execution
import BatchScript.Proofs.Files.Path
import BatchScript.Proofs.Hint.Failure
import BatchScript.Proofs.Settings.Loading

/-!
# When the command fails

Arguments that are understood, with plain paths and a cursor of two positive numbers, leave little
that the command does not report by its exit code: a script whose bytes are no text, and a
configuration that is looked at for a hint and is refused for no problem of its own. Nothing else
makes it fail. The words of the buffer can always be had, and the names of a configuration always
survive the store.

What the files are and what they answer does not matter: a question, a read and a write may each be
refused for any cause.
-/
namespace BatchScript.Command

open Data (Nesting)

/-- The path at which the configuration is looked for. -/
def Options.configPath (options : Options) : Path :=
  options.config.getD (options.input.parent.child Settings.fileName)

/-- The options name paths that files can have. -/
structure Options.Plain (options : Options) : Prop where
  /-- The script has one. -/
  input : options.input.hasNull = false
  /-- The output file has one, if there is to be one. -/
  output : ∀ path ∈ options.output, path.hasNull = false
  /-- The configuration has one. -/
  config : options.configPath.hasNull = false

section Files

variable {State : Type} (system : FileSystem State) (nesting : Nesting) (options : Options)
  (state : State)

/-- The causes for which the command fails. -/
inductive Escapes : Error → Prop
  /-- The bytes of the script are no text. -/
  | script {contents : ByteArray} (read : system.read state options.input = .ok contents)
    (undecodable : String.fromUTF8? contents = none) : Escapes .notUtf8
  /-- The configuration for a hint is refused, though not for a problem with it. -/
  | config {source : Text} {cause : Error} (reads : Reads system options state source)
    (asked : options.hint.isSome = true)
    (unloadable : Settings.Unloadable system state nesting options.configPath cause) : Escapes cause

end Files

/-- There are candidates, even if none, wherever the commands of the store can be had. -/
theorem candidates_eq_ok {store : Store} {names : List Text} {warnings : List Log.Record}
    {nesting : Nesting} (had : Hint.customCommands store nesting = .ok (names, warnings))
    (line column : Nat) (source : Text) :
    ∃ output log, candidates nesting store line column source = (.ok output, log) := by
  obtain ⟨response, log, -, hinted, -⟩ :=
    Hint.sameAnswer_of_names had had rfl Hint.defaultRange ⟨source, line, column⟩
  simp only [candidates, hinted]
  cases response with
  | none => exact ⟨_, _, rfl⟩
  | some response => exact ⟨_, _, rfl⟩

variable {State : Type} {system : FileSystem State} {nesting : Nesting} {options : Options}
  {state after : State} {cause : Error} {outcome : Outcome}

/-- Apart from a problem with the configuration, no output is produced exactly if the configuration
is refused, and only a hint asks for it. -/
theorem produce_eq_error_iff (plain : options.Plain) (source : Text)
    (other : ∀ problem path, cause ≠ .config problem path) :
    ((produce nesting options source).runOn system state).1.1 = .error cause ↔
      options.hint.isSome = true ∧
        Settings.Unloadable system state nesting options.configPath cause := by
  rw [produce]
  cases asked : options.hint with
  | none =>
    cases html : options.html <;> simp [Access.runOn, pure]
  | some place =>
    rw [Options.configPath, ← Settings.load_eq_error_iff plain.config other]
    simp only [Option.isSome_some, true_and]
    rw [Access.runOn_bind]
    rcases (Settings.load options.config options.input.parent nesting).runOn system state with
      ⟨⟨config, log⟩, after⟩
    cases config with
    | error reason =>
      constructor
      · exact fun failed => congrArg _ (Except.error.inj failed)
      · exact fun failed => congrArg _ (Except.error.inj failed)
    | ok entries =>
      -- What was loaded makes up a store with commands to be had, or is a problem of the
      -- configuration.
      have kept : ((.ok entries : Except Error Data.Entries) >>= Settings.store) =
          Settings.store entries := rfl
      rcases Settings.usable_store nesting entries with
        ⟨problem, refused⟩ | ⟨made, names, warnings, stored, had⟩
      · simp only [kept, refused]
        constructor
        · exact fun failed => absurd (Except.error.inj failed).symm (other _ _)
        · intro failed
          cases failed
      · obtain ⟨output, more, found⟩ := candidates_eq_ok had place.1 place.2 source
        simp only [kept, stored, found]
        constructor
        · intro failed
          cases failed
        · intro failed
          cases failed

/-- The bytes of a script are refused exactly if they are no text. -/
theorem decode_eq_error_iff {contents : ByteArray} :
    decode contents = .error cause ↔ String.fromUTF8? contents = none ∧ cause = .notUtf8 := by
  rw [decode]
  cases String.fromUTF8? contents with
  | none =>
    constructor
    · exact fun refused => ⟨rfl, (Except.error.inj refused).symm⟩
    · exact fun undecodable => congrArg _ undecodable.2.symm
  | some text =>
    constructor
    · intro refused
      cases refused
    · rintro ⟨undecodable, -⟩
      cases undecodable

/-- With plain paths the command fails only for those causes. -/
theorem Execution.escapes (plain : options.Plain)
    (ends : Execution system nesting options state (.error cause) after) :
    Escapes system nesting options state cause := by
  cases ends with
  | noScript null => cases plain.input.symm.trans null
  | noText named read refused =>
    obtain ⟨undecodable, rfl⟩ := decode_eq_error_iff.1 refused
    exact .script read undecodable
  | failed produces other =>
    obtain ⟨source, reads, produced⟩ := produces
    obtain ⟨asked, unloadable⟩ := (produce_eq_error_iff plain _ other).1 (by rw [produced])
    exact .config reads asked unloadable
  | noOutput produces given null => cases (plain.output _ given).symm.trans null

/-- A command that ends has an exit code, and it is 0, 1 or 2. -/
theorem Execution.exit_le (ends : Execution system nesting options state (.ok outcome) after) :
    outcome.overArguments = false ∧ outcome.exit ≤ 2 := by
  cases ends <;> exact ⟨rfl, by simp [ended]⟩

/-- With plain paths the command fails for each of those causes. -/
theorem execute_of_escapes (plain : options.Plain)
    (escapes : Escapes system nesting options state cause) :
    ((execute nesting options).runOn system state).1 = .error cause := by
  rw [execute, plain.input]
  simp only [Bool.false_eq_true, if_false]
  rw [Access.runOn_bind, Access.read]
  cases escapes with
  | script read undecodable =>
    have refused := decode_eq_error_iff.2 ⟨undecodable, rfl⟩
    simp only [Access.runOn, read, refused]
    rfl
  | @config source cause reads asked unloadable =>
    obtain ⟨-, contents, read, decoded⟩ := reads
    have failed := (produce_eq_error_iff plain source unloadable.other).2 ⟨asked, unloadable⟩
    simp only [Access.runOn, read, decoded, Access.runOn_bind, failed]
    cases cause with
    | config problem path => exact absurd rfl (unloadable.other problem path)
    | _ => rfl

/-- No path among the arguments holds the character that ends every path. -/
def Arguments.NullFree (arguments : Arguments) : Prop :=
  ∀ value ∈ [arguments.input, arguments.output, arguments.config], ∀ path ∈ value, '\x00' ∉ path

/-- A value that is not empty is the value that was given. -/
theorem mem_of_mem_present? {value : Option Text} {text : Text} (found : text ∈ present? value) :
    text ∈ value := (Option.mem_filter_iff.1 found).1

/-- Arguments with such paths and such a cursor stand for options with plain paths. -/
theorem resolve_plain {parsed : Arguments} (nullFree : parsed.NullFree)
    (cursor : ∀ value ∈ parsed.hint, IsAsciiCursor value) :
    ∃ options, resolve parsed = .ok options ∧ options.Plain := by
  have understood : ∃ hint, (present? parsed.hint).mapM parseCursor = .ok hint := by
    cases given : present? parsed.hint with
    | none => exact ⟨none, rfl⟩
    | some value =>
      obtain ⟨place, read⟩ := (cursor value (mem_of_mem_present? given)).parseCursor
      exact ⟨some place, by rw [Option.mapM_some, read]; rfl⟩
  have input : (Path.ofText (parsed.input.getD [])).Plain := by
    cases given : parsed.input with
    | none => exact Path.plain_ofText (by simp)
    | some path => exact Path.plain_ofText (nullFree _ (by simp) path given)
  obtain ⟨hint, read⟩ := understood
  refine ⟨_, by rw [resolve, read]; rfl, input.hasNull, ?_, ?_⟩
  · intro path given
    obtain ⟨text, found, rfl⟩ := Option.map_eq_some_iff.1 given
    have without := nullFree parsed.output (by simp) text (mem_of_mem_present? found)
    exact (Path.plain_ofText without).hasNull
  · rw [Options.configPath]
    cases given : present? parsed.config with
    | none => exact (input.sibling (by decide)).hasNull
    | some text =>
      have without := nullFree parsed.config (by simp) text (mem_of_mem_present? given)
      exact (Path.plain_ofText without).hasNull

/-- The command is run on arguments that are understood, with paths that files can have and a cursor
of two positive numbers, on any system of files and with any room for nested values. It ends without
an exit code exactly over a script whose bytes are no text, and over a configuration that is looked
at for a hint and is refused for no problem of its own. Otherwise the exit code is 0, 1 or 2. So
there is one whenever the script, if it can be read at all, is a text, and the question for the
configuration of a hint is answered and the file, if there is one, can be read as a text within the
limits of its reader. -/
theorem exit_code_unless_escapes (arguments : List Text) (parsed : Arguments)
    (accepted : parse arguments = .ok parsed) (nullFree : parsed.NullFree)
    (cursor : ∀ value ∈ parsed.hint, IsAsciiCursor value) (nesting : Nesting) {State : Type}
    (system : FileSystem State) (state : State) :
    let result := ((run arguments nesting).runOn system state).1
    ∃ options, resolve parsed = .ok options ∧
      (∀ cause, result = .error cause ↔ Escapes system nesting options state cause) ∧
      (∀ outcome, result = .ok outcome → outcome.overArguments = false ∧ outcome.exit ≤ 2) ∧
      ((∀ contents, system.read state options.input = .ok contents →
          ∃ text, String.fromUTF8? contents = some text) →
        (options.hint.isSome = true →
          Settings.Loadable system state nesting options.configPath) →
        ∃ outcome, result = .ok outcome) := by
  intro result
  obtain ⟨options, resolved, plain⟩ := resolve_plain nullFree cursor
  have executed : result = ((execute nesting options).runOn system state).1 := by
    rw [← run_of_resolve accepted resolved]
  have ends := execution system nesting options state
  rw [← executed] at ends
  refine ⟨options, resolved, fun cause => ⟨fun failed => ?_, fun escapes => ?_⟩,
    fun outcome ended => ?_, fun script config => ?_⟩
  · rw [failed] at ends
    exact ends.escapes plain
  · exact executed.trans (execute_of_escapes plain escapes)
  · rw [ended] at ends
    exact ends.exit_le
  · cases finished : result with
    | ok outcome => exact ⟨outcome, rfl⟩
    | error cause =>
      rw [finished] at ends
      cases ends.escapes plain with
      | script read undecodable =>
        obtain ⟨text, decoded⟩ := script _ read
        cases decoded.symm.trans undecodable
      | config reads asked unloadable =>
        exact absurd unloadable ((config asked).not_unloadable cause)

/-- There is an exit code for a hint beside a configuration with an array of commands, and none if
that configuration may not be read. -/
theorem exit_code_unless_escapes_beside_config :
    let arguments : List Text := ["a.bat".toList, "--hint".toList, "1:4".toList]
    let parsed : Arguments := { input := some "a.bat".toList, hint := some "1:4".toList }
    let config : String := "[hint]\ncustom_commands = [\"echt\"]\n"
    let path : Path := .ofText "cmdlex.toml".toList
    let disk : Disk := ⟨["home".toList], [(["home".toList, "a.bat".toList], .file "ech".toUTF8),
      (["home".toList, "cmdlex.toml".toList], .file config.toUTF8)],
      fun _ _ => none, fun _ _ => none⟩
    let secret : Disk := { disk with
      refusal := fun use place =>
        if use = .read ∧ place = ["home".toList, "cmdlex.toml".toList] then some .denied else none }
    parse arguments = .ok parsed ∧ parsed.NullFree ∧ (∀ value ∈ parsed.hint, IsAsciiCursor value) ∧
      disk.read (.ofText "a.bat".toList) = .ok "ech".toUTF8 ∧
      Settings.Loadable Disk.system disk .usual path ∧
      (∃ outcome, ((run arguments).run disk).1 = .ok outcome ∧
        outcome.overArguments = false ∧ outcome.exit ≤ 2) ∧
      secret.isFile path = .ok true ∧ secret.read path = .error .denied ∧
      ((run arguments).run secret).1 = .error (.refused .denied path.toText) := by
  intro arguments parsed config path disk secret
  have accepted : parse arguments = .ok parsed := rfl
  have nullFree : parsed.NullFree := by
    change ∀ value ∈ [some "a.bat".toList, none, none], ∀ path ∈ value, '\x00' ∉ path
    simp
  have cursor : ∀ value ∈ parsed.hint, IsAsciiCursor value := by
    rintro value ⟨⟩
    exact ⟨"1".toList, "4".toList, rfl, by simp [Numeral.maxDigits, Nat.ofDigitChars_cons]⟩
  have decoded : ∀ text : String, String.fromUTF8? text.toUTF8 = some text :=
    fun text => dif_pos text.isValidUTF8
  have read : disk.read (.ofText "a.bat".toList) = .ok "ech".toUTF8 := rfl
  have found : disk.isFile path = .ok true := rfl
  have loadable : Settings.Loadable Disk.system disk .usual path := by
    refine ⟨fun cause refused => ?_, fun _ => ?_⟩
    · cases found.symm.trans refused
    · refine ⟨config.toUTF8, config, rfl, decoded config, fun run inside _ => ?_, by decide⟩
      exact Nat.le_trans List.countP_le_length (Nat.le_trans inside.length_le (by decide))
  obtain ⟨options, resolved, -, exits, ends⟩ :=
    exit_code_unless_escapes arguments parsed accepted nullFree cursor .usual Disk.system disk
  obtain rfl := Except.ok.inj resolved
  obtain ⟨outcome, finished⟩ := ends
    (fun contents same => ⟨"ech", Except.ok.inj (read.symm.trans same) ▸ decoded "ech"⟩)
    fun _ => loadable
  have present : secret.isFile path = .ok true := rfl
  have refused : secret.read path = .error .denied := rfl
  obtain ⟨options, resolved, escapes, -⟩ :=
    exit_code_unless_escapes arguments parsed accepted nullFree cursor .usual Disk.system secret
  obtain rfl := Except.ok.inj resolved
  have text : decode "ech".toUTF8 = .ok "ech".toList := by
    rw [decode, decoded]
    rfl
  have failed := (escapes _).2 (.config ⟨rfl, _, rfl, text⟩ rfl (.reading present refused))
  exact ⟨accepted, nullFree, cursor, read, loadable,
    ⟨outcome, finished, exits outcome finished⟩, present, refused, failed⟩

/-- A script with a byte that no text has leaves the command without an exit code. -/
theorem no_exit_code_over_lone_byte :
    let disk : Disk := ⟨["home".toList], [(["home".toList, "a.bat".toList], .file ⟨#[0xff]⟩)],
      fun _ _ => none, fun _ _ => none⟩
    ((run ["a.bat".toList]).run disk).1 = .error .notUtf8 := rfl

end BatchScript.Command
