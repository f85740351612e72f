/-!
# Failures

Every way in which an operation of this library can fail, by cause. What failed is part of the
result of an operation, so the causes are told apart as finely as a caller can tell them apart, and
a text is kept exactly where it is shown to someone.
-/

namespace Remedy

/-- The status with which a command ends before its work is done. -/
inductive ExitStatus where
  | code (n : Int)
  | text (s : String)
deriving DecidableEq, Repr

/-- The codes of the error answers of the request protocol. -/
inductive ResponseCode where
  | parseError
  | invalidRequest
  | methodNotFound
  | invalidParams
  | internalError
  | serverErrorStart
  | serverErrorEnd
  | serverNotInitialized
  | unknownErrorCode
  | requestCancelled
  | contentModified
deriving DecidableEq, Repr

namespace ResponseCode

/-- All codes. -/
def all : List ResponseCode :=
  [.parseError, .invalidRequest, .methodNotFound, .invalidParams, .internalError, .serverErrorStart,
   .serverErrorEnd, .serverNotInitialized, .unknownErrorCode, .requestCancelled, .contentModified]

/-- The name of a code. -/
def name : ResponseCode → String
  | .parseError => "ParseError"
  | .invalidRequest => "InvalidRequest"
  | .methodNotFound => "MethodNotFound"
  | .invalidParams => "InvalidParams"
  | .internalError => "InternalError"
  | .serverErrorStart => "serverErrorStart"
  | .serverErrorEnd => "serverErrorEnd"
  | .serverNotInitialized => "ServerNotInitialized"
  | .unknownErrorCode => "UnknownErrorCode"
  | .requestCancelled => "RequestCancelled"
  | .contentModified => "ContentModified"

/-- The code of a name. -/
def ofName? (name : String) : Option ResponseCode :=
  all.find? fun c => c.name == name

end ResponseCode

/-- Why an operation gave no result. -/
inductive Failure where
  /-- A value of the right kind that is not acceptable. -/
  | badValue (text : String)
  /-- A text that is not JSON. -/
  | malformedJson
  /-- A settings file that cannot be read. -/
  | malformedSettings
  /-- Bytes that are not text. -/
  | malformedText
  /-- A value of the wrong kind for what is done with it. -/
  | wrongKind
  /-- A value of a kind that has no items is gone through. -/
  | noItems (kind : String)
  /-- A value lacks the part that is asked of it. -/
  | missingMember
  /-- A value of a kind lacks the part of a name. -/
  | lacksMember (kind member : String)
  /-- A table has no entry under the key; the key is kept if it is a text. -/
  | missingKey (key : Option String)
  /-- A sequence is too short. -/
  | outOfRange
  /-- A number is too large for its place. -/
  | tooLarge
  /-- A result is asked for that no branch has set. -/
  | unset
  /-- A text that is no time. -/
  | unreadableTime
  /-- Data that does not fit its model; the reason is kept if a rule of the model gave one. -/
  | invalidData (reason : Option String)
  /-- A template asks for a value that it was not given. -/
  | undefinedInTemplate (text : String)
  /-- No template of that name. -/
  | templateMissing (name : String)
  /-- A failure told in words. -/
  | told (text : String)
  /-- An error answer of the request protocol. -/
  | response (code : ResponseCode) (text : String)
  /-- An error answer that reports the failure of the work behind it. -/
  | fixFailed (cause : Failure)
  /-- A file could not be migrated. -/
  | migrationFailed
  /-- There is no such file; the text is kept if one was given. -/
  | noSuchFile (text : Option String)
  /-- Something stands where a new directory should be made. -/
  | alreadyThere
  /-- A directory stands where a file is expected. -/
  | directoryThere
  /-- A file stands where a directory is expected. -/
  | notDirectory
  /-- The database refuses a row that lacks a column. -/
  | refusedRow
  /-- The version control command failed. -/
  | git
  /-- A branch or commit that the repository does not know. -/
  | unknownRevision
  /-- The server answered with an error status. -/
  | http
  /-- The request did not reach the server. -/
  | unreachable (text : String)
  /-- The operation is not offered here. -/
  | notOffered
  /-- The command ends early. -/
  | exit (status : ExitStatus)
deriving DecidableEq, Repr

/-- What an operation gives: a result or a failure. -/
abbrev Outcome (α : Type) := Except Failure α

end Remedy
