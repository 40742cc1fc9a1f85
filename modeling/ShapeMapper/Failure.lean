import ShapeMapper.Config
import ShapeMapper.FileTree
import ShapeMapper.Source.Fault
import ShapeMapper.Template.Render

/-!
# Failures

Why a run ends without its file. Some failures are the user's to mend, and are reported in
words (`Failure.report?`); the others come from the files themselves.
-/

namespace ShapeMapper

/-- Why a run fails. -/
inductive Failure
  | config (error : ConfigError)
  | noConfig (path : Text)
  | unreadable (error : Source.Unreadable)
  | rendering (fault : Template.RenderFault)
  | file (fault : FileFault)
  /-- A shape would have to be imported from nowhere. -/
  | emptyLocation
  deriving DecidableEq, Repr

/-- The words for a failure that is the user's to mend. -/
def Failure.report? : Failure → Option Text
  | config error => some error.message
  | noConfig path =>
    some ("You need to specify a JSON config file with the mapping specification: '".toList ++
      path ++ "' not found".toList)
  | unreadable error => some error.message
  | rendering fault => fault.detail?.map ("Template rendering failed: ".toList ++ ·)
  | file _ | emptyLocation => none

/-- A failure in words, whoever has to mend it. -/
def Failure.message (f : Failure) : Text :=
  match f with
  | file fault => fault.message
  | emptyLocation => "no path to import from".toList
  | rendering (.use .wrongKind) => "a value of the wrong kind in the template".toList
  | f => f.report?.getD []

end ShapeMapper
