/-!
# Kinds of failure

The protocol fixes a table of failures, each with the exit status that a
program reports it by.  The table is used in both directions: to read the status
of a backend and to choose the status of the front end.
-/

namespace StatelessPgp

/-- The failures that have an exit status of their own. -/
inductive Kind where
  | generic
  | noSignature
  | unsupportedAsymmetricAlgo
  | certCannotEncrypt
  | missingArg
  | incompleteVerification
  | cannotDecrypt
  | passwordNotHumanReadable
  | unsupportedOption
  | badData
  | expectedText
  | outputExists
  | missingInput
  | keyIsProtected
  | unsupportedSubcommand
  | unsupportedSpecialPrefix
  | ambiguousInput
  | keyCannotSign
  | incompatibleOptions
  | unsupportedProfile
  | noHardwareKeyFound
  | hardwareKeyFailure
  | primaryKeyBad
  | certUserIdNoMatch
  deriving DecidableEq, Repr

namespace Kind

def all : List Kind :=
  [.generic, .noSignature, .unsupportedAsymmetricAlgo, .certCannotEncrypt, .missingArg,
    .incompleteVerification, .cannotDecrypt, .passwordNotHumanReadable,
    .unsupportedOption, .badData, .expectedText, .outputExists, .missingInput,
    .keyIsProtected, .unsupportedSubcommand, .unsupportedSpecialPrefix, .ambiguousInput,
    .keyCannotSign, .incompatibleOptions, .unsupportedProfile, .noHardwareKeyFound,
    .hardwareKeyFailure, .primaryKeyBad, .certUserIdNoMatch]

def status : Kind → Nat
  | .generic => 1
  | .noSignature => 3
  | .unsupportedAsymmetricAlgo => 13
  | .certCannotEncrypt => 17
  | .missingArg => 19
  | .incompleteVerification => 23
  | .cannotDecrypt => 29
  | .passwordNotHumanReadable => 31
  | .unsupportedOption => 37
  | .badData => 41
  | .expectedText => 53
  | .outputExists => 59
  | .missingInput => 61
  | .keyIsProtected => 67
  | .unsupportedSubcommand => 69
  | .unsupportedSpecialPrefix => 71
  | .ambiguousInput => 73
  | .keyCannotSign => 79
  | .incompatibleOptions => 83
  | .unsupportedProfile => 89
  | .noHardwareKeyFound => 97
  | .hardwareKeyFailure => 101
  | .primaryKeyBad => 103
  | .certUserIdNoMatch => 107

def label : Kind → String
  | .generic => "Generic"
  | .noSignature => "NoSignature"
  | .unsupportedAsymmetricAlgo => "UnsupportedAsymmetricAlgo"
  | .certCannotEncrypt => "CertCannotEncrypt"
  | .missingArg => "MissingArg"
  | .incompleteVerification => "IncompleteVerification"
  | .cannotDecrypt => "CannotDecrypt"
  | .passwordNotHumanReadable => "PasswordNotHumanReadable"
  | .unsupportedOption => "UnsupportedOption"
  | .badData => "BadData"
  | .expectedText => "ExpectedText"
  | .outputExists => "OutputExists"
  | .missingInput => "MissingInput"
  | .keyIsProtected => "KeyIsProtected"
  | .unsupportedSubcommand => "UnsupportedSubcommand"
  | .unsupportedSpecialPrefix => "UnsupportedSpecialPrefix"
  | .ambiguousInput => "AmbiguousInput"
  | .keyCannotSign => "KeyCannotSign"
  | .incompatibleOptions => "IncompatibleOptions"
  | .unsupportedProfile => "UnsupportedProfile"
  | .noHardwareKeyFound => "NoHardwareKeyFound"
  | .hardwareKeyFailure => "HardwareKeyFailure"
  | .primaryKeyBad => "PrimaryKeyBad"
  | .certUserIdNoMatch => "CertUserIdNoMatch"

/-- What a kind means, in a few words. -/
def summary : Kind → String
  | .generic => "Unspecified failure"
  | .noSignature => "No verifiable signature found"
  | .unsupportedAsymmetricAlgo => "Unsupported asymmetric algorithm"
  | .certCannotEncrypt => "Certificate is not encryption capable"
  | .missingArg => "Missing required argument"
  | .incompleteVerification => "Incomplete verification instructions"
  | .cannotDecrypt => "Unable to decrypt"
  | .passwordNotHumanReadable => "Password is not human-readable"
  | .unsupportedOption => "Unsupported option"
  | .badData => "Invalid data type"
  | .expectedText => "Non-text input where text was expected"
  | .outputExists => "Output file already exists"
  | .missingInput => "Input file does not exist"
  | .keyIsProtected => "Key is password protected and could not be unlocked"
  | .unsupportedSubcommand => "Unsupported subcommand"
  | .unsupportedSpecialPrefix => "Unsupported special prefix"
  | .ambiguousInput => "Ambiguous input designator"
  | .keyCannotSign => "Key is not signing capable"
  | .incompatibleOptions => "Incompatible options"
  | .unsupportedProfile => "Unsupported profile"
  | .noHardwareKeyFound => "No matching hardware key found"
  | .hardwareKeyFailure => "Hardware key operation failed"
  | .primaryKeyBad => "Primary key is unusable"
  | .certUserIdNoMatch => "Certificate has no matching user ID"

/-- The kind that an exit status reports.  Zero and statuses outside the table
report none. -/
def ofStatus? (status : Int) : Option Kind :=
  all.find? fun kind => decide ((kind.status : Int) = status)

end Kind
end StatelessPgp
