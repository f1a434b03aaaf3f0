import VolumeLifecycle.Operation
import VolumeLifecycle.Text.Fragment
import VolumeLifecycle.Text.Unsigned

namespace VolumeLifecycle.Logging

/-- How important a line is, the most important first. -/
inductive Level where
  | error
  | warn
  | info
  | debug
  | trace
  deriving DecidableEq, Inhabited

namespace Level

def name : Level → String
  | error => "ERROR"
  | warn => "WARN"
  | info => "INFO"
  | debug => "DEBUG"
  | trace => "TRACE"

def rank : Level → Nat
  | error => 1
  | warn => 2
  | info => 3
  | debug => 4
  | trace => 5

def all : List Level :=
  [error, warn, info, debug, trace]

/-- The level that a text gives by number or, without regard to case, by name. -/
def ofText? (s : String) : Option Level :=
  match Text.unsigned? s with
  | some n => all.find? fun l => l.rank = n
  | none => all.find? fun l => Text.sameIgnoringCase l.name s

def ofSetting (s : String) : Level :=
  (ofText? s).getD info

/-- Whether lines of level `l` are written when the log is set to this level. -/
def admits (setting l : Level) : Bool :=
  l.rank ≤ setting.rank

end Level

/-- A log: the level it is set to, if it is, and its lines. The level is set once; until then
nothing is logged. -/
structure Log where
  setting : Option Level := none
  lines : List String := []
  deriving DecidableEq

namespace Log

def write (log : Log) (level : Level) (text : String) : Log :=
  match log.setting with
  | none => log
  | some setting =>
    if setting.admits level then { log with lines := log.lines ++ [level.name ++ " " ++ text] }
    else log

/-- Sets the level of a log that has none yet, and says so at debug level. A log that is set stays
as it is. -/
def init (log : Log) (setting : String) : Log :=
  match log.setting with
  | some _ => log
  | none =>
    let level := Level.ofSetting setting
    { log with setting := some level }.write .debug
      ("tracing subscriber installed level=" ++ level.name)

def gateAcquired (log : Log) (name : String) (op : Operation) : Log :=
  log.write .debug ("gate acquired for " ++ name ++ " (" ++ op.name ++ ")")

def gateReleased (log : Log) (name : String) (op : Operation) : Log :=
  log.write .debug ("gate released for " ++ name ++ " (" ++ op.name ++ ")")

end Log
end VolumeLifecycle.Logging
