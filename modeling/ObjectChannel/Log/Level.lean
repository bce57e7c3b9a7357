/-
Log levels are numbers; five of them, and zero, have names of their own.
-/
namespace ObjectChannel.Log

abbrev Level := Int

namespace Level

def debug : Level := 10
def info : Level := 20
def warning : Level := 30
def error : Level := 40
def critical : Level := 50

/-- The name that a record shows. -/
def name (n : Level) : String :=
  if n = 0 then "NOTSET"
  else if n = debug then "DEBUG"
  else if n = info then "INFO"
  else if n = warning then "WARNING"
  else if n = error then "ERROR"
  else if n = critical then "CRITICAL"
  else "Level " ++ toString n

/-- The level that a setting names. Two levels have a second name. -/
def ofName? : String → Option Level
  | "CRITICAL" | "FATAL" => some critical
  | "ERROR" => some error
  | "WARN" | "WARNING" => some warning
  | "INFO" => some info
  | "DEBUG" => some debug
  | "NOTSET" => some 0
  | _ => none

end Level
end ObjectChannel.Log
