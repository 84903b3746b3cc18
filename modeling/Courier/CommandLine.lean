/-!
# Command lines

The arguments are read from left to right. A flag that takes a value takes the
next argument whatever it is; an argument that begins with a hyphen is otherwise
a flag. The first fault ends the reading, and what was read until then is kept.
-/

namespace Courier

/-- What the program is asked to do. -/
structure Options where
  /-- The directory to discover files in. -/
  root : String := ""
  configFile : String := ""
  logFile : String := "pneumatic.log"
  logLevel : String := "info"
  /-- Whether to accept sessions instead. -/
  serve : Bool := false
  deriving DecidableEq, Repr

/-- An option that takes a value. -/
inductive Setting where
  | configFile
  | logFile
  | logLevel
  deriving DecidableEq, Repr

/-- The option that a flag sets. -/
def Setting.ofFlag? : String → Option Setting
  | "-c" | "--config" => some configFile
  | "-l" | "--log-file" => some logFile
  | "-v" | "--log-level" => some logLevel
  | _ => none

def Options.set (options : Options) (setting : Setting) (value : String) : Options :=
  match setting with
  | .configFile => { options with configFile := value }
  | .logFile => { options with logFile := value }
  | .logLevel => { options with logLevel := value }

/-- Why a command line is refused. -/
inductive UsageError where
  | missingValue (flag : String)
  | unknown (argument : String)
  | secondRoot
  | rootToServe
  | noRoot
  deriving DecidableEq, Repr

def UsageError.message : UsageError → String
  | missingValue flag => "Missing value for " ++ flag
  | unknown argument => "Unknown argument: " ++ argument
  | secondRoot => "Only one root may be given"
  | rootToServe => "--serve does not take a root directory"
  | noRoot => "A root directory or a config file is required"

namespace CommandLine

def programName : String := "pneumatic"

/-- How the program is called. -/
def usage : String :=
  "Usage: " ++ programName ++ " <root> [-c <file>] [-l <file>] [-v <level>]\n" ++
  "       " ++ programName ++ " --serve [-c <file>] [-l <file>] [-v <level>]\n" ++
  "Arguments:\n" ++
  "  <root>            Directory to scan (optional when the config lists roots)\n" ++
  "  -s, --serve       Accept sessions on the configured address and port until interrupted\n" ++
  "  -c, --config      JSON configuration file\n" ++
  "  -l, --log-file    Log file, or - for the console (default: pneumatic.log)\n" ++
  "  -v, --log-level   trace, debug, info, warning, error or fatal (default: info)\n" ++
  "Example: " ++ programName ++ " ./data -c pneumatic.json\n"

/-- A complaint with its line. -/
def complain (text : String) : String := "Error: " ++ text ++ "\n"

def isServeFlag (argument : String) : Bool := argument == "-s" || argument == "--serve"

/-- Whether an argument that is no known flag looks like one. -/
def looksLikeFlag (argument : String) : Bool := argument.toList.head? == some '-'

/-- Reads the arguments that are left; the options gather what was read. -/
def scan (options : Options) : List String → Options × Option UsageError
  | [] => (options, none)
  | argument :: rest =>
      if isServeFlag argument then scan { options with serve := true } rest
      else
        match Setting.ofFlag? argument with
        | some setting =>
            match rest with
            | [] => (options, some (.missingValue argument))
            | value :: rest => scan (options.set setting value) rest
        | none =>
            if looksLikeFlag argument then (options, some (.unknown argument))
            else if options.root.isEmpty then scan { options with root := argument } rest
            else (options, some .secondRoot)

/-- What is wrong with options that were read without a fault. -/
def judge (options : Options) : Option UsageError :=
  if options.serve && !options.root.isEmpty then some .rootToServe
  else if !options.serve && options.root.isEmpty && options.configFile.isEmpty then some .noRoot
  else none

/-- The options that the arguments give, and why they are refused, if they are. -/
def read (arguments : List String) : Options × Option UsageError :=
  match scan {} arguments with
  | (options, some error) => (options, some error)
  | (options, none) => (options, judge options)

/-- What is said about a refused command line. -/
def refusal (error : UsageError) : String := complain error.message ++ usage

end CommandLine

end Courier
