import DataQuality.Storage.Database

/-!
Connections to a database. A session is a sequence of operations on a connection, each of which can
fail: because of what it asks for, or because the system lets it fail. Outside of a transaction an
operation takes effect at once. Inside of one it takes effect when the transaction is committed, and
never if the transaction is rolled back or left open.
-/

namespace DataQuality.Storage

/-- Why an operation on a database fails. -/
inductive DatabaseFault
  | notDatabase
  | cannotOpen (path : String)
  | keyword (name : String)
  | reserved (name : String)
  | noTable (name : String)
  | noColumn (table column : String)
  | tooLarge (column : String)
  | inTransaction
  | noTransaction
  | system (message : String)

def DatabaseFault.message : DatabaseFault → String
  | .notDatabase => "file is not a database"
  | .cannotOpen path => "unable to open database file: " ++ path
  | .keyword name => "near \"" ++ name ++ "\": syntax error"
  | .reserved name => "object name reserved for internal use: " ++ name
  | .noTable name => "no such table: " ++ name
  | .noColumn table column => "table " ++ table ++ " has no column named " ++ column
  | .tooLarge column => column ++ ": number too large to fit in target type"
  | .inTransaction => "cannot start a transaction within a transaction"
  | .noTransaction => "cannot commit - no transaction is active"
  | .system message => message

/-- Which operations the system lets fail, and with what message. Operations are numbered in the
order in which they are tried; the first opens the database. -/
abbrev Trouble := Nat → Option String

/-- The system lets no operation fail. -/
def Trouble.none : Trouble := fun _ => .none

/-- What a connection sees: what has been committed, what an open transaction has made of it, and
the number of the row that was inserted last. -/
structure View where
  committed : Database
  pending : Option Database
  lastRowId : Nat

namespace View

def current (v : View) : Database := v.pending.getD v.committed

/-- Puts a database in the place of the current one. -/
def put (v : View) (d : Database) : View :=
  match v.pending with
  | some _ => { v with pending := some d }
  | none => { v with committed := d }

end View

structure Connection where
  trouble : Trouble
  operations : Nat
  view : View

namespace Connection

/-- The connection to a database that has just been opened. -/
def opened (trouble : Trouble) (d : Database) : Connection := ⟨trouble, 1, ⟨d, none, 0⟩⟩

def counted (c : Connection) : Connection := { c with operations := c.operations + 1 }

end Connection

abbrev Session := EStateM DatabaseFault Connection

namespace Session

variable {α : Type}

/-- One operation. It leaves what it sees alone if it fails. -/
def operation (step : View → Except DatabaseFault View) : Session Unit := fun c =>
  match c.trouble c.operations with
  | some message => .error (.system message) c.counted
  | none =>
    match step c.view with
    | .error fault => .error fault c.counted
    | .ok v => .ok () { c.counted with view := v }

/-- Changes the current database. -/
def change (f : Database → Except DatabaseFault Database) : Session Unit :=
  operation fun v => do pure (v.put (← f v.current))

def lastRowId : Session Nat := do
  pure (← get).view.lastRowId

/-- Opens a transaction. -/
def start : Session Unit :=
  operation fun v =>
    match v.pending with
    | some _ => throw .inTransaction
    | none => pure { v with pending := some v.committed }

def commit : Session Unit :=
  operation fun v =>
    match v.pending with
    | some d => pure { v with committed := d, pending := none }
    | none => throw .noTransaction

/-- Drops what an open transaction has done. -/
def rollback : Session Unit :=
  modify fun c => { c with view := { c.view with pending := none } }

/-- Runs a session in a transaction of its own, which is rolled back on failure. -/
def transaction (body : Session α) : Session α := do
  start
  try
    let a ← body
    commit
    pure a
  catch fault =>
    rollback
    throw fault

/-- Runs a session on a database that has just been opened. What has been committed is what stays
when the connection ends. -/
def onDatabase (x : Session α) (trouble : Trouble) (d : Database) :
    Database × Except DatabaseFault α :=
  match x (.opened trouble d) with
  | .ok a c => (c.view.committed, .ok a)
  | .error fault c => (c.view.committed, .error fault)

end Session

end DataQuality.Storage
