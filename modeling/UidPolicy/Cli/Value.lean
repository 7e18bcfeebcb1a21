import UidPolicy.Command.Basic
import UidPolicy.Log.Event
import UidPolicy.Text.Digits

/-!
# Arguments of the command line

* `Cli.UsageError` — why a command line asks for nothing that can be run.
* `Cli.Value` — an argument after it was read, and `Cli.ValueKind` — what it has to be.
* `Cli.ValueKind.read` — reads the text of an argument.
-/

namespace UidPolicy

namespace Cli

/-- Why a command line asks for nothing that can be run.  To ask for the usage text or the version
is among them, as these end the reading of the words just the same. -/
inductive UsageError where
  | valueValidation
  /-- An option that does not exist, or an argument too many. -/
  | unknownArgument
  | missingRequiredArgument
  /-- A word that is no command. -/
  | invalidSubcommand
  /-- An option without its value, or with one that is not among the possible ones. -/
  | invalidValue
  | argumentConflict
  /-- A value for an option that takes none. -/
  | tooManyValues
  /-- A command without the word that has to follow. -/
  | missingSubcommand
  /-- The same, with nothing else on the command line either. -/
  | nothingGiven
  | helpRequested
  | versionRequested
  deriving DecidableEq, Repr, Inhabited

namespace UsageError

def name : UsageError → String
  | valueValidation => "ValueValidation"
  | unknownArgument => "UnknownArgument"
  | missingRequiredArgument => "MissingRequiredArgument"
  | invalidSubcommand => "InvalidSubcommand"
  | invalidValue => "InvalidValue"
  | argumentConflict => "ArgumentConflict"
  | tooManyValues => "TooManyValues"
  | missingSubcommand => "MissingSubcommand"
  | nothingGiven => "DisplayHelpOnMissingArgumentOrSubcommand"
  | helpRequested => "DisplayHelp"
  | versionRequested => "DisplayVersion"

/-- The exit code: what was asked for is no failure. -/
def exitCode : UsageError → Nat
  | helpRequested | versionRequested => 0
  | _ => 2

end UsageError

inductive Value where
  | text (s : String)
  | logLevel (level : Log.Level)
  | logFormat (format : Log.Format)
  | output (format : OutputFormat)
  | chain (chain : Chain)
  | uid (uid : Uid)
  | verdict (verdict : Verdict)
  | mask (mask : UInt8)
  | address (addr : IpAddress)
  deriving DecidableEq, Repr, Inhabited

/-- What an argument has to be. -/
inductive ValueKind where
  | text | logLevel | logFormat | output | chain | uid | verdict | mask | address
  deriving DecidableEq, Repr, Inhabited

def Value.uids (values : List Value) : List Uid :=
  values.filterMap fun
    | .uid u => some u
    | _ => none

/-- A natural number of at most `max`, with an optional sign. -/
def natural? (max : Nat) (text : String) : Option Nat :=
  (Decimal.within? 0 max text.toList).map Int.toNat

/-- The output format of a word; case counts. -/
def outputFormat? : String → Option OutputFormat
  | "text" => some .text
  | "json" => some .json
  | _ => none

/-- The value, or the error of a text that cannot be read. -/
def orInvalid {α : Type} (value? : Option α) : Except UsageError α :=
  match value? with
  | some value => .ok value
  | none => .error .valueValidation

def ValueKind.read : ValueKind → String → Except UsageError Value
  | text, s => .ok (.text s)
  | logLevel, s => orInvalid ((Log.Level.parse s).toOption.map .logLevel)
  | logFormat, s => orInvalid ((Log.Format.parse s).toOption.map .logFormat)
  | output, s =>
    match outputFormat? s with
    | some format => .ok (.output format)
    | none => .error .invalidValue
  | chain, s => orInvalid ((Chain.parse s).toOption.map .chain)
  | uid, s => orInvalid ((natural? 0xffffffff s).map fun n => .uid (UInt32.ofNat n))
  | verdict, s => orInvalid ((Verdict.parse s).toOption.map .verdict)
  | mask, s => orInvalid ((natural? 0xff s).map fun n => .mask (UInt8.ofNat n))
  | address, s => orInvalid ((IpAddress.parse? s).map .address)

end Cli

end UidPolicy
