import RelSchema.CommandLine.Arguments
import RelSchema.Machine

namespace RelSchema.CommandLine

inductive Outcome
  | done
  | failed
  /-- The arguments do not make sense. -/
  | misused
  deriving DecidableEq

def Outcome.code : Outcome → UInt8
  | .done => 0
  | .failed => 1
  | .misused => 2

def usage : String :=
  "Usage: xlschema <input.yml> -w <suffix/method> [options] (see --help)"

def version : String :=
  "xlschema 0.1.0\n"

def help : String :=
  "Relational schema model and code generator - specialize one parsed schema into many " ++
    "target languages\n\n" ++
  "Usage: xlschema [OPTIONS] [INPUT]\n\n" ++
  "Arguments:\n" ++
  "  [INPUT]  Input schema (.yml)\n\n" ++
  "Options:\n" ++
  "  -w, --writer <WRITERS>                 " ++
    "Writer as suffix/method, e.g. sql/sqlite (repeatable)\n" ++
  "  -o, --output <OUTPUT>                  Output directory\n" ++
  "      --stdout                           Print to stdout instead of writing files\n" ++
  "      --namespace <NAMESPACE>            Attach namespace values: package or djapp\n" ++
  "      --comment-offset <COMMENT_OFFSET>  " ++
    "Column for right-aligned definition comments (0 disables)\n" ++
  "      --list                             List available writers and exit\n" ++
  "  -v, --verbose                          Debug logging\n" ++
  "  -h, --help                             Print help\n" ++
  "  -V, --version                          Print version\n"

/-- Finds what each name stands for, or the first name that stands for nothing. -/
def resolve {α : Type} (find? : String → Option α) : List String → Except String (List α)
  | [] => .ok []
  | name :: rest =>
    match find? name with
    | none => .error name
    | some x => (resolve find? rest).map (x :: ·)

/-- What is left to do once the arguments make sense. -/
structure Job where
  input : String
  outputs : List Output
  options : Options
  toScreen : Bool

def Arguments.options (a : Arguments) : Options :=
  let options : Options := {}
  { output := a.output.getD options.output
    commentOffset := a.commentOffset.getD options.commentOffset }

def Arguments.job (a : Arguments) : Except String Job := do
  let input ← match a.input with
    | some input => .ok input
    | none => .error usage
  let kinds ← (resolve NamespaceKind.ofName? a.namespaceName.toList).mapError
    ("Invalid namespace: " ++ ·)
  let formats ← (resolve Format.ofName? a.formats).mapError ("Unknown writer: " ++ ·)
  if formats.isEmpty then .error "No writer given; use -w <suffix/method> (see --list)"
  else
    let options := a.options
    return {
      input, options
      outputs := formats.map fun format => { format, options, namespaceKind := kinds.head? }
      toScreen := a.toScreen }

variable {m : Type → Type} [Monad m] (machine : Machine m)

def fail (message : String) : m Outcome := do
  machine.complain (message ++ "\n")
  return .failed

def produce (toScreen : Bool) (o : Output) (s : Schema) : m (Except WriteError Unit) := do
  if toScreen then
    match ← machine.render o s with
    | .error e => return .error e
    | .ok text =>
      machine.print text
      return .ok ()
  else return (← machine.write o s).map fun _ => ()

/-- Writes the outputs in turn, up to the first that fails. -/
def produceAll (toScreen : Bool) (s : Schema) : List Output → m Outcome
  | [] => return .done
  | o :: rest => do
    match ← produce machine toScreen o s with
    | .error e => fail machine (o.format.key ++ ": " ++ e.message)
    | .ok () => produceAll toScreen s rest

def runJob (job : Job) : m Outcome := do
  match ← machine.readPath job.options job.input with
  | .error e => fail machine ("Failed to read " ++ job.input ++ ": " ++ e.message)
  | .ok schema => produceAll machine job.toScreen schema job.outputs

def runArguments (a : Arguments) : m Outcome := do
  if a.listsFormats then
    Format.all.forM fun format => machine.print (format.key ++ "\n")
    return .done
  else match a.job with
    | .error message => fail machine message
    | .ok job => runJob machine job

def run (args : List String) : m Outcome := do
  match Arguments.ofList args with
  | .error .help =>
    machine.print help
    return .done
  | .error .version =>
    machine.print version
    return .done
  | .error .wrong => return .misused
  | .ok a => runArguments machine a

end RelSchema.CommandLine
