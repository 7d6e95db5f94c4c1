import CoilProbe.CommandLine.Argument
import CoilProbe.CommandLine.Number
import CoilProbe.Text.Terminal

/-!
# How the command line is used

The options, what is said about them, and what is said to someone who gets them wrong.
-/

namespace CoilProbe

/-- The options. -/
inductive Flag where
  /-- Shows more of the journal. -/
  | verbose
  /-- Sets the timeout. -/
  | timeout
  /-- Shows the help. -/
  | help
  /-- Shows the version. -/
  | version
deriving DecidableEq

/-- The long name of an option. -/
def Flag.long : Flag → String
  | .verbose => "verbose"
  | .timeout => "timeout"
  | .help => "help"
  | .version => "version"

/-- The short name of an option. -/
def Flag.short : Flag → Char
  | .verbose => 'v'
  | .timeout => 't'
  | .help => 'h'
  | .version => 'V'

/-- An option as messages name it, with its value if it has one. -/
def Flag.shown : Flag → String
  | .timeout => "--timeout <timeout>"
  | f => "--" ++ f.long

/-- The line of the help about an option. -/
def Flag.helpLine : Flag → String
  | .verbose => "  -v, --verbose            Switch on verbose output\n"
  | .timeout =>
    "  -t, --timeout <timeout>  The timeout in milliseconds for each Modbus operation "
      ++ "[default: 3000]\n"
  | .help => "  -h, --help               Print help\n"
  | .version => "  -V, --version            Print version\n"

/-- A command line: which options it has, and what the help says before them. -/
structure Dialect where
  /-- The first part of the help. -/
  about : String
  /-- The options in the order of the help. -/
  flags : List Flag

/-- The command line that only has settings. -/
def Dialect.settings : Dialect := ⟨"", [.timeout, .help]⟩

/-- The command line of the program. -/
def Dialect.program : Dialect :=
  ⟨"Read a single coil from a Modbus TCP server\n\n", [.verbose, .timeout, .help, .version]⟩

/-- The help. -/
def Dialect.help (d : Dialect) : String :=
  d.about ++ "Usage: modbus-coil-reader [OPTIONS] <HOST>\n\n"
    ++ "Arguments:\n  <HOST>  The host running the Modbus TCP server\n\n"
    ++ "Options:\n" ++ String.join (d.flags.map Flag.helpLine)

/-- The version. -/
def versionText : String := "modbus-coil-reader 0.1.0\n"

/-- What can be wrong with a command line. -/
inductive Misuse where
  /-- An argument that is neither an option nor the host. -/
  | unexpected (shown : String)
  /-- The timeout option without a value. -/
  | valueMissing
  /-- An option given twice. -/
  | repeated (flag : Flag)
  /-- A value that is not UTF-8. -/
  | notUtf8
  /-- A timeout that is no number. -/
  | badTimeout (shown : String) (fault : NumberFault)
  /-- A value for an option that takes none. -/
  | unexpectedValue (shown : String) (flag : Flag)
  /-- No host. -/
  | hostMissing
deriving DecidableEq

/-- What is wrong, in words, before it is cut to a paragraph. What was given on the command line is
shown without control sequences. -/
def Misuse.words (blanks : Interruption) : Misuse → String
  | .unexpected shown => "unexpected argument '" ++ withoutControls blanks shown ++ "' found"
  | .valueMissing =>
    "a value is required for '" ++ Flag.timeout.shown ++ "' but none was supplied"
  | .repeated flag => "the argument '" ++ flag.shown ++ "' cannot be used multiple times"
  | .notUtf8 => "invalid UTF-8 was detected in one or more arguments"
  | .badTimeout shown fault =>
    "invalid value '" ++ withoutControls blanks shown ++ "' for '" ++ Flag.timeout.shown ++ "': "
      ++ fault.message
  | .unexpectedValue shown flag =>
    "unexpected value '" ++ withoutControls blanks shown ++ "' for '" ++ flag.shown
      ++ "' found; no more were expected"
  | .hostMissing => "the following required arguments were not provided:\n  <HOST>"

/-- The lines of a text before its first empty line, without the last line's end. -/
def firstParagraph : List Char → List Char
  | [] => []
  | '\n' :: '\n' :: _ => []
  | c :: rest => c :: firstParagraph rest

/-- The message about a misuse: one paragraph. -/
def Misuse.message (blanks : Interruption) (m : Misuse) : String :=
  String.ofList (firstParagraph ("error: " ++ m.words blanks).toList) ++ "\n"

/-- Why a command line is not carried out. -/
inductive Stop where
  /-- The help was asked for. -/
  | help
  /-- The version was asked for. -/
  | version
  /-- It is wrong. -/
  | misuse (misuse : Misuse)
deriving DecidableEq

end CoilProbe
