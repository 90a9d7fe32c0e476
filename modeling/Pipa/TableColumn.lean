/-! Columns of a table as the structure editor holds them. -/

namespace Pipa

/-- One column as reconstructed by the visual structure editor; a column being added has
no source name. -/
structure TableColumnDefinition where
  sourceName : Option String
  name : String
  columnType : String
  nullable : Bool
  defaultValue : Option String
  defaultExpression : Bool
  comment : String
  primary : Bool
  extra : String
  characterSet : Option String
  collation : Option String
  generationExpression : String
deriving DecidableEq, Repr, Inhabited

end Pipa
