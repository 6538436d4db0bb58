import FluentSql.Embedded.Library
import FluentSql.Storage.Basic
/-!
The engine of this project as the library that handles and providers ask for.
-/

namespace FluentSql

open Engine Embedded

namespace Engine.Connection

/-- what a connection answers to a request -/
def answer {α : Type} (r : Request α) (c : Connection) (v : Vault) : Except EngineFault α × Connection × Vault :=
  match r with
  | .batch sql => execute sql c v
  | .query sql args => query sql args c v
  | .change sql args => change sql args c v
  | .readVersion =>
    let x := performData [] .readVersion c v
    (x.1.map fun a => ((a.rows.bind Rows.firstCell?).bind Value.asInt).elim 0 Int64.toInt, x.2)
  | .writeVersion version =>
    let x := performData [] (.writeVersion version) c v
    (x.1.map fun _ => (), x.2)

end Engine.Connection

namespace Storage

/-- the engine and its files; the same text leads to the same database, whoever opens it, and every connection can be
ended -/
def library : Library Connection Storage where
  perform r := access (Connection.answer r)
  lastId c _ := c.lastId
  openFile := connectText
  openMemory s := (.ok s.connectPrivate.1, s.connectPrivate.2)
  openAddress := connectText
  close c s := (.ok (), s.disconnect c)
  makeDirectories := makeDirectories
  isFile := isFile
  isDirectory := isDirectory
  filesIn := filesIn
  removeFile := removeFile

end Storage

end FluentSql
