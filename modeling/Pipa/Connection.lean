import Pipa.Binlog

/-! Saved connections, as far as the modelled code reads them. -/

namespace Pipa

inductive Engine where
  | mySql | postgreSql | mongoDb | redis
deriving DecidableEq, Repr

def Engine.debug : Engine → String
  | .mySql => "MySql"
  | .postgreSql => "PostgreSql"
  | .mongoDb => "MongoDb"
  | .redis => "Redis"

structure ConnectionProfile where
  id : Uuid
  name : String
  engine : Engine
  database : Option String
deriving DecidableEq, Repr

end Pipa
