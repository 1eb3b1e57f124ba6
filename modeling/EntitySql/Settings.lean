import EntitySql.Text.Numeral
/-!
# Settings

The settings of a session, read from a look-up of texts by key. A setting that is not given has its
default. No depth limit is set by an empty text or the text `0`.
-/

namespace EntitySql

/-- The settings of a session. -/
structure Settings where
  /-- The greatest number of rows of a selection that names none. -/
  selectLimit : Nat
  /-- The greatest level of a predicate's nodes; without one any nesting is allowed. -/
  maxDepth : Option Nat
  /-- The filter of log messages. -/
  logFilter : String
  deriving DecidableEq, Repr

/-- The settings when nothing is given. -/
def Settings.default : Settings := ⟨1000, none, "dorm=info"⟩

/-- The settings that can be wrong. -/
inductive SettingKey where
  | selectLimit
  | maxDepth
  deriving DecidableEq, Repr

/-- The key of a setting. -/
def SettingKey.name : SettingKey → String
  | selectLimit => "DORM_DEFAULT_SELECT_LIMIT"
  | maxDepth => "DORM_MAX_PREDICATE_DEPTH"

/-- The key of the log filter, which may be any text. -/
def logFilterKey : String := "DORM_LOG"

/-- A setting that is no number, with the reason. -/
structure SettingsError where
  key : SettingKey
  cause : Numeral.ReadError
  deriving DecidableEq, Repr

/-- The message of the error itself. -/
def SettingsError.message (e : SettingsError) : String := "Invalid " ++ e.key.name

/-- The messages of the error and of its cause. -/
def SettingsError.chain (e : SettingsError) : List String := [e.message, e.cause.message]

/-- Reads a number of 64 bits for a setting. -/
def readSetting (key : SettingKey) (text : String) : Except SettingsError Nat :=
  (Numeral.readUnsigned Numeral.wordBound text.toList).mapError fun cause => ⟨key, cause⟩

/-- The row limit of a text, or the default without one. -/
def readSelectLimit : Option String → Except SettingsError Nat
  | none => .ok Settings.default.selectLimit
  | some text => readSetting .selectLimit text

/-- The depth limit of a text, or the default without one. -/
def readMaxDepth : Option String → Except SettingsError (Option Nat)
  | none => .ok Settings.default.maxDepth
  | some text =>
    if text = "" ∨ text = "0" then .ok none else (readSetting .maxDepth text).map some

/-- The settings of a look-up. -/
def Settings.ofLookup (lookup : String → Option String) : Except SettingsError Settings := do
  let selectLimit ← readSelectLimit (lookup SettingKey.selectLimit.name)
  let maxDepth ← readMaxDepth (lookup SettingKey.maxDepth.name)
  return ⟨selectLimit, maxDepth, (lookup logFilterKey).getD Settings.default.logFilter⟩

end EntitySql
