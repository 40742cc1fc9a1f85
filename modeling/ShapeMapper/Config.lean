import ShapeMapper.Json.Parser
import ShapeMapper.Path.Basic

/-!
# Mapping requests

The configuration is a JSON array of entries with a source file, a target file and a flag for
both directions:

    [{"source": "model/user.ts", "target": "view/user.ts", "viceVersa": true}]

`Request.ofDocument` accepts exactly the arrays of such entries, whatever other fields an
entry has, and drops repeated requests.
-/

namespace ShapeMapper

/-- A request for the mappers from the shapes of one file to those of another. -/
structure Request where
  source : Text
  target : Text
  bothWays : Bool := false
  deriving DecidableEq, Repr

/-- What is wrong with an entry of the configuration. -/
inductive EntryFault
  | notAnObject
  | missing (field : Text)
  | notAText (field : Text)
  | notABool (field : Text)
  deriving DecidableEq, Repr

/-- A fault in words. -/
def EntryFault.message : EntryFault → Text
  | notAnObject => "expected an object with 'source' and 'target'".toList
  | missing field => field ++ ": Field required".toList
  | notAText field => field ++ ": Input should be a valid string".toList
  | notABool field => field ++ ": Input should be a valid boolean".toList

/-- Why a configuration is refused. -/
inductive ConfigError
  | notAnArray (kind : Text)
  | invalidEntry (index : Nat) (fault : EntryFault)
  | malformed (origin : Text) (cause : Json.Malformed)
  deriving DecidableEq, Repr

/-- An error as it is shown. -/
def ConfigError.message : ConfigError → Text
  | notAnArray kind =>
    "The value in the json file is not array as expected (got ".toList ++ kind ++ [')']
  | invalidEntry index fault =>
    "Invalid mapping entry at index ".toList ++ Text.ofNat index ++ ": ".toList ++ fault.message
  | malformed origin cause =>
    "Invalid JSON in '".toList ++ origin ++ "': ".toList ++ cause.message

namespace Request

/-- A field that has to hold a text. -/
def textField (name : Text) (fields : List (Text × Json)) : Except EntryFault Text :=
  match Json.field? name fields with
  | some (.text t) => .ok t
  | some _ => .error (.notAText name)
  | none => .error (.missing name)

/-- A field that may hold a boolean. -/
def boolField? (name : Text) (fields : List (Text × Json)) : Except EntryFault (Option Bool) :=
  match Json.field? name fields with
  | some (.bool b) => .ok (some b)
  | some _ => .error (.notABool name)
  | none => .ok none

/-- The flag for both directions, under either of its two names; the first one wins. -/
def flag (fields : List (Text × Json)) : Except EntryFault Bool := do
  match ← boolField? "viceVersa".toList fields with
  | some b => return b
  | none => return (← boolField? "vice_versa".toList fields).getD false

/-- The request that an entry makes. -/
def ofEntry : Json → Except EntryFault Request
  | .object fields => do
    let source ← textField "source".toList fields
    let target ← textField "target".toList fields
    let bothWays ← flag fields
    return { source, target, bothWays }
  | _ => .error .notAnObject

/-- The requests of some entries, the first of which has the given index. -/
def ofEntries (index : Nat) : List Json → Except ConfigError (List Request)
  | [] => .ok []
  | entry :: entries => do
    let request ← (ofEntry entry).mapError (.invalidEntry index ·)
    return request :: (← ofEntries (index + 1) entries)

/-- The requests of a configuration, each once. -/
def ofDocument : Json → Except ConfigError (List Request)
  | .list entries => (ofEntries 0 entries).map List.eraseDups
  | value => .error (.notAnArray value.kind)

/-- The requests of a configuration text that comes from `origin`. -/
def ofText (origin t : Text) : Except ConfigError (List Request) := do
  ofDocument (← (Json.parse t).mapError (.malformed origin ·))

/-- A request with its files named from the directory `base`. -/
def within (base : Text) (r : Request) : Request :=
  { r with source := Path.absolute base r.source, target := Path.absolute base r.target }

/-- Requests with their files named from the directory `base`, each once. -/
def resolve (base : Text) (requests : List Request) : List Request :=
  (requests.map (within base)).eraseDups

end Request

end ShapeMapper
