import ShapeMapper.Text.Basic

/-!
# Events

What a run reports while it goes on. An event is data; how it reads in a log is said here in
one place.
-/

namespace ShapeMapper

/-- How much an event matters. -/
inductive Level
  | debug
  | info
  | warning
  | error
  deriving DecidableEq, Repr

/-- Something worth reporting. -/
inductive Event
  /-- A member of a shape that is no property. -/
  | unsupportedMember (file member : Text)
  /-- An alias whose braces are only a part of its type. -/
  | compositeAlias (file name : Text)
  /-- A document taken from the registry. -/
  | documentReused (location : Text)
  /-- A document read from its file. -/
  | documentRead (entities imports : Nat) (location : Text)
  /-- A request left out because some of its files do not exist. -/
  | requestSkipped (source target : Text) (missing : List Text)
  | mapping (source target : Text)
  | rendering (imports mappers : Nat) (template : Text)
  | written (mappers : Nat) (output : Text)
  /-- A run that ended with an error. -/
  | failed (message : Text)
  deriving DecidableEq, Repr

namespace Level

/-- A level as it is shown. -/
def name : Level → Text
  | debug => "DEBUG".toList
  | info => "INFO".toList
  | warning => "WARNING".toList
  | error => "ERROR".toList

/-- Whether a level matters at least as much as another. -/
def atLeast : (threshold level : Level) → Bool
  | debug, _ => true
  | info, level => level ≠ debug
  | warning, level => level = warning ∨ level = error
  | error, level => level = error

end Level

namespace Event

/-- How much an event matters. -/
def level : Event → Level
  | unsupportedMember .. | compositeAlias .. | documentReused .. | documentRead ..
  | rendering .. => .debug
  | mapping .. | written .. => .info
  | requestSkipped .. => .warning
  | failed .. => .error

/-- The part of the program that reports an event. -/
def channel : Event → Text
  | unsupportedMember .. | compositeAlias .. => "ts_mapper.extraction.typescript".toList
  | documentReused .. | documentRead .. => "ts_mapper.extraction.registry".toList
  | requestSkipped .. | mapping .. | written .. => "ts_mapper.generator".toList
  | rendering .. => "ts_mapper.rendering.renderer".toList
  | failed .. => "ts_mapper".toList

/-- An event in words. -/
def message : Event → Text
  | unsupportedMember file member =>
    "Skipping unsupported member in ".toList ++ file ++ ": ".toList ++ member
  | compositeAlias file name =>
    "Skipping composite type alias ".toList ++ name ++ " in ".toList ++ file
  | documentReused location => "Schema cache hit for ".toList ++ location
  | documentRead entities imports location =>
    "Extracted ".toList ++ Text.ofNat entities ++ " entities and ".toList ++
      Text.ofNat imports ++ " imports from ".toList ++ location
  | requestSkipped source target missing =>
    "Skipping mapping ".toList ++ source ++ " -> ".toList ++ target ++
      ": file not found: ".toList ++ ", ".toList.intercalate missing
  | mapping source target =>
    "Mapping from source: \"".toList ++ source ++ "\" to target: \"".toList ++ target ++ ['"']
  | rendering imports mappers template =>
    "Rendering ".toList ++ Text.ofNat imports ++ " imports and ".toList ++
      Text.ofNat mappers ++ " mappers with ".toList ++ template
  | written mappers output =>
    "Wrote ".toList ++ Text.ofNat mappers ++ " mappers to ".toList ++ output
  | failed message => message

/-- An event as a line of the log, without its line end. -/
def line (e : Event) : Text :=
  e.level.name ++ ' ' :: e.channel ++ ": ".toList ++ e.message

end Event

end ShapeMapper
