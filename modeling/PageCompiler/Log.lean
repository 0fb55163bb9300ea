/-!
# Log records

What a build says about itself while it runs. A log is part of a result like any other; which of its
records are shown is for the command line to decide.
-/

namespace PageCompiler

/-- How much a record matters, least first. -/
inductive Level
  | debug
  | info
  | warning
  deriving Repr, DecidableEq

/-- The rank of a level. -/
def Level.rank : Level → Nat
  | .debug => 0
  | .info => 1
  | .warning => 2

/-- One thing said. -/
structure LogRecord where
  level : Level
  message : String
  deriving Repr, DecidableEq

/-- Everything said, in order. -/
abbrev Log := List LogRecord

/-- The messages of at least a level, each on a line. -/
def Log.shown (log : Log) (least : Level) : String :=
  String.join ((log.filter fun record => least.rank ≤ record.level.rank).map fun record =>
    record.message ++ "\n")

end PageCompiler
