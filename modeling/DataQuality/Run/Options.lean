import DataQuality.Json.Fields
import DataQuality.Sql.Table

/-!
The choices that a caller has for a run, and for the compilation of a suite.
-/

namespace DataQuality

open Json (Value Shape)

structure RunOptions where
  validateFirst : Bool
  validateOnly : Bool
  flattenRows : Bool
  exports : Bool
  extra : Dict Value

namespace RunOptions

def standard : RunOptions := ⟨true, false, false, true, .empty⟩

def validation : RunOptions := { standard with validateOnly := true }

/-- Whether the engine is asked for a dry run. -/
def dryRun (o : RunOptions) : Bool := o.validateFirst || o.validateOnly

def shape : Shape :=
  .record "RunOptions"
    [("validate_first", .defaulted, .flag),
     ("validate_only", .defaulted, .flag),
     ("flatten_rows", .defaulted, .flag),
     ("export", .defaulted, .flag),
     ("extra", .defaulted, .dictionary .any)]

def ofJson (v : Value) : RunOptions where
  validateFirst := v.flagAt "validate_first" true
  validateOnly := v.flagAt "validate_only" false
  flattenRows := v.flagAt "flatten_rows" false
  exports := v.flagAt "export" true
  extra := (v.field "extra").entries

def toJson (o : RunOptions) : Value :=
  .object
    [("validate_first", .bool o.validateFirst),
     ("validate_only", .bool o.validateOnly),
     ("flatten_rows", .bool o.flattenRows),
     ("export", .bool o.exports),
     ("extra", .object o.extra)]

end RunOptions

structure CompilerOptions where
  tableQuote : Sql.TableQuote

namespace CompilerOptions

def shape : Shape :=
  .record "CompilerOptions" [("table_quote", .defaulted, Sql.TableQuote.shape)]

def ofJson (v : Value) : CompilerOptions where
  tableQuote := ((v.text? "table_quote").bind Sql.TableQuote.ofText?).getD default

def toJson (o : CompilerOptions) : Value :=
  .object [("table_quote", .string o.tableQuote.text)]

end CompilerOptions

end DataQuality
