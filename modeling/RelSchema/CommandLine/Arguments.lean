import RelSchema.Text.Digits
import RelSchema.Text.Split

namespace RelSchema.CommandLine

structure Arguments where
  input : Option String := none
  formats : List String := []
  output : Option String := none
  toScreen : Bool := false
  namespaceName : Option String := none
  commentOffset : Option Nat := none
  listsFormats : Bool := false
  isVerbose : Bool := false
  deriving Inhabited

/-- A switch stands alone; a setting has a value. -/
inductive Switch
  | toScreen | listsFormats | isVerbose

inductive Setting
  | format | output | namespaceName | commentOffset

inductive Choice
  | switch (s : Switch)
  | setting (s : Setting)
  | help
  | version

def Choice.ofName? : String → Option Choice
  | "writer" => some (.setting .format)
  | "output" => some (.setting .output)
  | "stdout" => some (.switch .toScreen)
  | "namespace" => some (.setting .namespaceName)
  | "comment-offset" => some (.setting .commentOffset)
  | "list" => some (.switch .listsFormats)
  | "verbose" => some (.switch .isVerbose)
  | "help" => some .help
  | "version" => some .version
  | _ => none

def Choice.ofLetter? : Char → Option Choice
  | 'w' => some (.setting .format)
  | 'o' => some (.setting .output)
  | 'v' => some (.switch .isVerbose)
  | 'h' => some .help
  | 'V' => some .version
  | _ => none

/-- What arguments ask for, unless they ask for a run. -/
inductive Refusal
  | help
  | version
  | wrong
  deriving DecidableEq

def count? (s : String) : Option Nat :=
  let digits := match s.toList with
    | '+' :: rest => rest
    | cs => cs
  (Text.natural? 10 digits).filter (· < UInt64.size)

namespace Arguments

/-- Turns a switch on, which can be done once. -/
def turnOn (a : Arguments) : Switch → Except Refusal Arguments
  | .toScreen => if a.toScreen then .error .wrong else .ok { a with toScreen := true }
  | .listsFormats => if a.listsFormats then .error .wrong else .ok { a with listsFormats := true }
  | .isVerbose => if a.isVerbose then .error .wrong else .ok { a with isVerbose := true }

/-- Gives a setting its value. Only formats can be given more than once. -/
def set (a : Arguments) (setting : Setting) (value : String) : Except Refusal Arguments :=
  match setting with
  | .format => .ok { a with formats := a.formats ++ [value] }
  | .output =>
    if a.output.isSome || value.isEmpty then .error .wrong else .ok { a with output := some value }
  | .namespaceName =>
    if a.namespaceName.isSome then .error .wrong else .ok { a with namespaceName := some value }
  | .commentOffset =>
    match a.commentOffset, count? value with
    | none, some n => .ok { a with commentOffset := some n }
    | _, _ => .error .wrong

def setInput (a : Arguments) (value : String) : Except Refusal Arguments :=
  if a.input.isSome || value.isEmpty then .error .wrong else .ok { a with input := some value }

end Arguments

/-- Whether an argument can be the value of the option before it. A lone hyphen can. -/
def isValue (s : String) : Bool :=
  !Text.startsWith s "-" || s = "-"

/-- Letters behind a hyphen: switches, and last a setting, whose value may follow at once. -/
def letters (a : Arguments) : List Char → Except Refusal (Arguments × Option Setting)
  | [] => .ok (a, none)
  | c :: rest =>
    match Choice.ofLetter? c with
    | none => .error .wrong
    | some .help => .error .help
    | some .version => .error .version
    | some (.switch s) => do letters (← a.turnOn s) rest
    | some (.setting s) =>
      match rest with
      | [] => .ok (a, some s)
      | '=' :: value => do return (← a.set s (.ofList value), none)
      | value => do return (← a.set s (.ofList value), none)

/-- A name behind two hyphens, with a value behind an equals sign or without. -/
def name (a : Arguments) (text : List Char) : Except Refusal (Arguments × Option Setting) :=
  let value := match text.dropWhile (· ≠ '=') with
    | [] => none
    | _ :: value => some (String.ofList value)
  match Choice.ofName? (.ofList (text.takeWhile (· ≠ '='))), value with
  | some .help, none => .error .help
  | some .version, none => .error .version
  | some (.switch s), none => do return (← a.turnOn s, none)
  | some (.setting s), none => .ok (a, some s)
  | some (.setting s), some value => do return (← a.set s value, none)
  | _, _ => .error .wrong

/-- Reads the arguments. A setting without a value takes the next argument for it, and two hyphens
end the options. -/
def read (a : Arguments) (waiting : Option Setting) : List String → Except Refusal Arguments
  | [] => if waiting.isSome then .error .wrong else .ok a
  | s :: rest =>
    match waiting with
    | some setting =>
      if isValue s then do read (← a.set setting s) none rest else .error .wrong
    | none =>
      if s = "--" then rest.foldlM Arguments.setInput a
      else if isValue s then do read (← a.setInput s) none rest
      else do
        let (a, waiting) ← match s.toList with
          | '-' :: '-' :: text => name a text
          | text => letters a (text.drop 1)
        read a waiting rest

def Arguments.ofList (args : List String) : Except Refusal Arguments :=
  read {} none args

end RelSchema.CommandLine
