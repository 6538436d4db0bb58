import FluentSql.Journal
import FluentSql.Settings.Toml
import FluentSql.Text.Path
/-!
Settings of a session: where its databases are, which schema version they have, and how statements are
reported. They come from code or from a TOML file; a setting that is absent has its standard value, unknown
settings are ignored, and the version is checked last. A relative data directory in a file is relative to
that file.
-/

namespace FluentSql

/-- the settings of a session -/
structure Settings where
  dataDir : String
  version : Int
  statementLog : StatementLog
deriving DecidableEq, Repr

namespace Settings

def standard : Settings := ⟨".", 1, .standard⟩

def withDataDir (s : Settings) (dir : String) : Settings := { s with dataDir := dir }

def withVersion (s : Settings) (version : Int) : Settings := { s with version := version }

def withStatementLog (s : Settings) (log : StatementLog) : Settings := { s with statementLog := log }

/-- a schema version is at least one -/
def validate (s : Settings) : Except DbError Unit :=
  if s.version < 1 then .error (.config (.versionTooLow s.version)) else .ok ()

/-! ## Settings from a document -/

/-- a setting with its standard value when it is absent -/
def setting {α : Type} (read : Toml.Item → Option α) (standard : α) : Option Toml.Item → Option α
  | none => some standard
  | some item => read item

def readText : Toml.Item → Option String
  | .text s => some s
  | _ => none

def readBool : Toml.Item → Option Bool
  | .boolean b => some b
  | _ => none

/-- a whole number of 32 bits -/
def readVersion : Toml.Item → Option Int
  | .integer i => if Int32.minValue.toInt ≤ i ∧ i ≤ Int32.maxValue.toInt then some i else none
  | _ => none

/-- a length of at most 64 bits -/
def readLength : Toml.Item → Option (Option Nat)
  | .integer i => if 0 ≤ i ∧ i < (2 ^ 64 : Nat) then some (some i.toNat) else none
  | _ => none

/-- a level by its name, or as the one key of a table without content -/
def readLevel : Toml.Item → Option Level
  | .text s => Level.ofName? s
  | .table _ [(name, .table _ [])] => Level.ofName? name
  | .table _ [(name, .array [])] => Level.ofName? name
  | _ => none

def readLogParts (enabled level maxLength : Option Toml.Item) : Option StatementLog := do
  let enabled ← setting readBool StatementLog.standard.enabled enabled
  let level ← setting readLevel StatementLog.standard.level level
  let maxLength ← setting readLength StatementLog.standard.maxLength maxLength
  pure ⟨enabled, level, maxLength⟩

/-- the statement log by names, or by position in an array; a moment in time names none of its parts -/
def readLog : Toml.Item → Option StatementLog
  | .table _ es =>
    readLogParts (Toml.lookup "enabled" es) (Toml.lookup "level" es) (Toml.lookup "max_sql_length" es)
  | .array items => readLogParts items[0]? items[1]? items[2]?
  | .tables list =>
    let items := list.map (Toml.Item.table .header)
    readLogParts items[0]? items[1]? items[2]?
  | .moment => readLogParts none none none
  | _ => none

def ofEntries (es : Toml.Entries) : Option Settings := do
  let dataDir ← setting readText standard.dataDir (Toml.lookup "data_dir" es)
  let version ← setting readVersion standard.version (Toml.lookup "version" es)
  let log ← setting readLog standard.statementLog (Toml.lookup "sql_log" es)
  pure ⟨dataDir, version, log⟩

/-- the settings in a TOML text -/
def ofToml (text : String) : Except DbError Settings :=
  match Toml.read text with
  | none => .error (.config (.malformed "invalid TOML document"))
  | some es => match ofEntries es with
    | none => .error (.config (.malformed "setting of the wrong kind"))
    | some s => s.validate.map fun _ => s

/-! ## Settings from a file -/

/-- the settings in a file, given what the file holds, if it can be read -/
def load (path : String) (contents : Option String) : Except DbError Settings :=
  match contents with
  | none => .error (.config (.unreadable path "the file cannot be read"))
  | some text =>
    match ofToml text with
    | .error (.config fault) => .error (.config (.inFile path fault))
    | .error e => .error e
    | .ok s =>
      let base := (Text.Path.parent? path).getD "."
      .ok { s with dataDir := Text.Path.join base s.dataDir }

end Settings

end FluentSql
