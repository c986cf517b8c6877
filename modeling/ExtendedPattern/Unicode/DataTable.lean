import ExtendedPattern.Text

/-! Tables of named sets of code points, each written as rows of data. -/
namespace ExtendedPattern.Unicode

abbrev DataTable := List (String × List String)

def DataTable.texts (table : DataTable) : List (Text × Text) :=
  table.map fun (name, rows) => (name.toList, rows.flatMap String.toList)

end ExtendedPattern.Unicode
