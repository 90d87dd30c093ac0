import JobCluster.Job.Basic
import JobCluster.Text.Natural

/-!
# The command line

What a user can ask for (`Command`) and how it is written (`Command.read`): a command, its operands,
and options that start with two dashes and have their value in the same argument after an equals
sign, or in the next one. Arguments are read in order; the first fault, or the first wish for help,
ends the reading.
-/

namespace JobCluster.Client

open JobCluster.Text

/-- What a user can ask for. -/
inductive Command where
  | submit (name : String) (inputs : List String) (reduces : UInt32) (user : Option String)
      (splitSize : Option UInt64) (priority : JobPriority)
  | status (id : JobId)
  | profile (id : JobId)
  | counters (id : JobId)
  | kill (id : JobId)
  | killTask (id : AttemptId) (fail : Bool)
  | list (all : Bool)
  | cluster
  | events (id : JobId) (start max : UInt32)
  | tasks (id : JobId) (reduce : Bool)
  | diagnostics (id : JobId) (task : TaskId) (attempt : AttemptId)
  | fileSystem
  | wait (id : JobId) (interval : UInt64)
  | trackers
deriving DecidableEq, Repr

/-- Why arguments are no command: help is wanted, with the program or with one command, or they are
not used as they should be. -/
inductive ReadStop where
  | help (topic : Option String)
  | usage
deriving DecidableEq, Repr

/-- How an option is given: as a mark, once with a value, or any number of times with one. -/
inductive OptionShape where
  | mark
  | single
  | repeated
deriving DecidableEq, Repr

/-- An option of a command: its name, what its value is called, what it means, and which values it
takes. -/
structure OptionRule where
  name : String
  value : String
  about : String
  shape : OptionShape
  accepts : String → Bool

/-- What a command does, and its operands and options. -/
structure CommandRule where
  name : String
  about : String
  operands : List String
  options : List OptionRule

/-- Reads a priority. -/
def readPriority : String → Option JobPriority
  | "very-high" => some .veryHigh
  | "high" => some .high
  | "normal" => some .normal
  | "low" => some .low
  | "very-low" => some .veryLow
  | _ => none

/-- Reads a 32-bit word. Zero may be written with a minus sign. -/
def readSignedWord32 (s : String) : Option UInt32 :=
  match s.toList with
  | '-' :: '0' :: rest => if rest.all (· = '0') then some 0 else none
  | _ => readWord32 s

/-- An option without a value. -/
def markOption (name : String) : OptionRule := ⟨name, "", "", .mark, fun _ => true⟩

/-- An option with a 32-bit word. -/
def word32Option (name value about : String) : OptionRule :=
  ⟨name, value, about, .single, fun s => (readSignedWord32 s).isSome⟩

/-- An option with a 64-bit word. -/
def word64Option (name value about : String) : OptionRule :=
  ⟨name, value, about, .single, fun s => (readWord64 s).isSome⟩

/-- The options of a submission. -/
def submitOptions : List OptionRule := [
  ⟨"input", "RUTA", "Archivo, directorio o patrón glob (repetible)", .repeated, fun _ => true⟩,
  word32Option "reduces" "REDUCES" "[default: 1]",
  ⟨"user", "USER", "Por defecto $USER", .single, fun _ => true⟩,
  word64Option "split-size" "SPLIT_SIZE"
    "Tamaño de split en bytes (por defecto el del coordinador)",
  ⟨"priority", "PRIORITY",
    "[default: normal] [possible values: very-high, high, normal, low, very-low]", .single,
    fun s => (readPriority s).isSome⟩]

/-- All commands. -/
def commandRules : List CommandRule := [
  ⟨"submit", "Reserva un id y envía un job", ["NOMBRE"], submitOptions⟩,
  ⟨"status", "Estado de un job", ["JOB_ID"], []⟩,
  ⟨"profile", "", ["JOB_ID"], []⟩,
  ⟨"counters", "", ["JOB_ID"], []⟩,
  ⟨"kill", "", ["JOB_ID"], []⟩,
  ⟨"kill-task", "Mata un intento; con --fail cuenta como fallido", ["ATTEMPT_ID"],
    [markOption "fail"]⟩,
  ⟨"list", "Jobs sin terminar (o todos con --all)", [], [markOption "all"]⟩,
  ⟨"cluster", "", [], []⟩,
  ⟨"events", "", ["JOB_ID"],
    [word32Option "from" "FROM" "[default: 0]", word32Option "max" "MAX" "[default: 100]"]⟩,
  ⟨"tasks", "Reportes de las tareas map (o reduce con --reduce)", ["JOB_ID"],
    [markOption "reduce"]⟩,
  ⟨"diagnostics", "", ["JOB_ID", "TASK_ID", "ATTEMPT_ID"], []⟩,
  ⟨"fs", "Filesystem por defecto del cluster", [], []⟩,
  ⟨"wait", "Sigue los eventos de un job hasta que termine", ["JOB_ID"],
    [word64Option "interval" "INTERVAL" "Segundos entre consultas [default: 2]"]⟩,
  ⟨"trackers", "", [], []⟩]

/-- The operands and options found so far, in the order in which they were given. -/
structure Given where
  operands : List String
  options : List (String × String)
deriving DecidableEq, Repr

namespace Given

/-- The values of an option. -/
def values (g : Given) (name : String) : List String :=
  (g.options.filter (·.1 == name)).map Prod.snd

/-- The value of an option that is given at most once. -/
def value? (g : Given) (name : String) : Option String := (g.values name).head?

/-- Whether a mark is given. -/
def has (g : Given) (name : String) : Bool := ! (g.values name).isEmpty

/-- Takes an operand, if the command has one more. -/
def addOperand (g : Given) (rule : CommandRule) (s : String) : Except ReadStop Given :=
  if g.operands.length < rule.operands.length then .ok { g with operands := g.operands ++ [s] }
  else .error .usage

/-- Takes an option with its value. Only repeated options may be given again. -/
def addOption (g : Given) (rule : OptionRule) (value : String) : Except ReadStop Given :=
  if rule.shape ≠ .repeated ∧ g.has rule.name then .error .usage
  else if rule.accepts value then .ok { g with options := g.options ++ [(rule.name, value)] }
  else .error .usage

end Given

/-- Whether an argument is an option and no operand or value. -/
def looksLikeOption (s : String) : Bool :=
  match s.toList with
  | '-' :: _ :: _ => true
  | _ => false

/-- Takes operands alone. -/
def readOperands (rule : CommandRule) : Given → List String → Except ReadStop Given
  | g, [] => .ok g
  | g, s :: rest => do readOperands rule (← g.addOperand rule s) rest

/-- What an argument that looks like an option turns out to be. -/
inductive Marked where
  | operandsOnly
  | help
  | long (name : String) (value : Option String)
  | unknown
deriving DecidableEq, Repr

/-- Reads an argument that looks like an option. -/
def Marked.read (s : String) : Marked :=
  match s.toList with
  | ['-', '-'] => .operandsOnly
  | '-' :: '-' :: text =>
    .long (String.ofList (text.takeWhile (· ≠ '=')))
      ((text.dropWhile (· ≠ '=')).tail?.map String.ofList)
  | '-' :: 'h' :: _ => .help
  | _ => .unknown

/-- Takes the arguments of a command in order, where an option may be waiting for its value. After
two dashes there are operands only. -/
def readArguments (rule : CommandRule) :
    Option OptionRule → Given → List String → Except ReadStop Given
  | none, g, [] => .ok g
  | some _, _, [] => .error .usage
  | some option, g, s :: rest =>
    if looksLikeOption s then .error .usage
    else do readArguments rule none (← g.addOption option s) rest
  | none, g, s :: rest =>
    if ! looksLikeOption s then do readArguments rule none (← g.addOperand rule s) rest
    else match Marked.read s with
      | .operandsOnly => readOperands rule g rest
      | .help => .error (.help rule.name)
      | .unknown => .error .usage
      | .long name value =>
        if name = "help" then .error (if value.isNone then .help rule.name else .usage)
        else match rule.options.find? (·.name == name), value with
          | none, _ => .error .usage
          | some option, some value =>
            if option.shape = .mark then .error .usage
            else do readArguments rule none (← g.addOption option value) rest
          | some option, none =>
            if option.shape = .mark then do readArguments rule none (← g.addOption option "") rest
            else readArguments rule (some option) g rest

namespace Command

/-- The command of a rule, from what is given for it. -/
def ofGiven (name : String) (g : Given) : Option Command :=
  let word32 (option : String) (default : UInt32) :=
    ((g.value? option).bind readSignedWord32).getD default
  match name, g.operands with
  | "submit", [job] => some (.submit job (g.values "input") (word32 "reduces" 1) (g.value? "user")
      ((g.value? "split-size").bind readWord64)
      (((g.value? "priority").bind readPriority).getD .normal))
  | "status", [id] => some (.status id)
  | "profile", [id] => some (.profile id)
  | "counters", [id] => some (.counters id)
  | "kill", [id] => some (.kill id)
  | "kill-task", [id] => some (.killTask id (g.has "fail"))
  | "list", [] => some (.list (g.has "all"))
  | "cluster", [] => some .cluster
  | "events", [id] => some (.events id (word32 "from" 0) (word32 "max" 100))
  | "tasks", [id] => some (.tasks id (g.has "reduce"))
  | "diagnostics", [id, task, attempt] => some (.diagnostics id task attempt)
  | "fs", [] => some .fileSystem
  | "wait", [id] => some (.wait id (((g.value? "interval").bind readWord64).getD 2))
  | "trackers", [] => some .trackers
  | _, _ => none

/-- The name of the command that gives help. -/
def helpName : String := "help"

/-- What the words after a wish for help ask about: a command, or the program if there are none. -/
def helpTopic : List String → ReadStop
  | [] => .help none
  | [s] => if s = helpName ∨ commandRules.any (·.name == s) then .help s else .usage
  | _ => .usage

/-- Reads the arguments of the program. -/
def read : List String → Except ReadStop Command
  | [] => .error .usage
  | s :: rest =>
    if s = helpName then .error (helpTopic rest)
    else if s = "--help" ∨ ['-', 'h'].isPrefixOf s.toList then .error (.help none)
    else match commandRules.find? (·.name == s) with
      | none => .error .usage
      | some rule => do
        let g ← readArguments rule none ⟨[], []⟩ rest
        match ofGiven rule.name g with
        | some c => .ok c
        | none => .error .usage

end Command

end JobCluster.Client
