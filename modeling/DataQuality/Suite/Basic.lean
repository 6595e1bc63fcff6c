import DataQuality.Sql.Name
import DataQuality.Suite.Check
import DataQuality.Suite.Source

/-!
Suites: the checks that are run over the rows of one source. A suite is built from a draft, and only
from a draft without fault.
-/

namespace DataQuality

open Json (Value)

structure SuiteDraft where
  name : String
  domain : Option String
  owner : Option String
  source : DataSource
  params : Dict Value
  checks : List Check
  tags : Dict String

inductive SuiteFault
  | suiteName (cause : Error)
  | source (cause : DataSource.Fault)
  | checkName (cause : Error)
  | baseCollision (check : String)
  | duplicate (check : String)
  deriving DecidableEq

def SuiteFault.message : SuiteFault → String
  | .suiteName cause => "suite name: " ++ cause.message
  | .source cause => cause.message
  | .checkName cause => "check name: " ++ cause.message
  | .baseCollision check => "check name '" ++ check ++ "' collides with the base fragment"
  | .duplicate check => "duplicate check name '" ++ check ++ "'"

namespace SuiteDraft

/-- The folded names of the fragments that come before the checks. -/
def baseName (suite : String) : String := Text.lower (suite ++ "_base")

/-- The first fault among the names of checks, where some folded names are taken. -/
def checkFault? (base : String) : (taken : List String) → List String → Option SuiteFault
  | _, [] => none
  | taken, name :: rest =>
    match Sql.checkName name with
    | .error e => some (.checkName e)
    | .ok _ =>
      if Text.lower name = base then some (.baseCollision name)
      else if Text.lower name ∈ taken then some (.duplicate name)
      else checkFault? base (Text.lower name :: taken) rest

def fault? (d : SuiteDraft) : Option SuiteFault :=
  match Sql.checkName d.name with
  | .error e => some (.suiteName e)
  | .ok _ =>
    match d.source.fault? with
    | some fault => some (.source fault)
    | none => checkFault? (baseName d.name) [] (d.checks.map Check.name)

end SuiteDraft

structure Suite extends SuiteDraft where
  valid : toSuiteDraft.fault? = none

namespace SuiteDraft

def build (d : SuiteDraft) : Except Error Suite :=
  match h : d.fault? with
  | some fault => .error (.invalidSuite d.name fault.message)
  | none => .ok ⟨d, h⟩

end SuiteDraft

/-- The check of a name. -/
def Suite.check? (s : Suite) (name : String) : Option Check := s.checks.find? (·.name == name)

end DataQuality
