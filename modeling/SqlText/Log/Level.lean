import SqlText.Fault
import SqlText.Text.Letters

/-!
# Levels — from which severity on records are let through

    levelNamed "warn"  =  .ok 30

A level is the number of the least grave severity that is let through, zero meaning that no
level is set. Eight names stand for levels, in any letter case.
-/

namespace SqlText.Log

/-- The level that stands under an upper-case name. -/
def levelOf? : String → Option Nat
  | "NOTSET"   => some 0
  | "DEBUG"    => some 10
  | "INFO"     => some 20
  | "WARNING"  => some 30
  | "WARN"     => some 30
  | "ERROR"    => some 40
  | "CRITICAL" => some 50
  | "FATAL"    => some 50
  | _          => none

/-- The level that a text names, letter case aside. The names of the basic format and of the
table of styles stand beside the levels: what they name is refused as a level, the one for
its value and the other for its kind. Every other name is unknown. -/
def levelNamed (s : String) : Except Fault Nat :=
  match levelOf? (Text.upper s) with
  | some n => .ok n
  | none   =>
    if Text.upper s == "BASIC_FORMAT" then .error (.value (.notALevel s))
    else if Text.upper s == "_STYLES" then .error (.type .badCall)
    else .error (.noAttribute "module" (Text.upper s))

/-- The level that a value names; only texts name levels. -/
def levelOfValue : Value → Except Fault Nat
  | .text s  => levelNamed s
  | .bytes _ => .error (.type .badCall)
  | v        => .error (.noAttribute v.typeName "upper")

end SqlText.Log
