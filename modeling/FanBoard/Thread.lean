import FanBoard.Log

/-!
# Threads

A thread runs on one of the two cores.  Its name comes with trailing NUL characters, which are not
part of it.
-/

namespace FanBoard

/-- A core of the board. -/
inductive Core where
  /-- The core of the controller. -/
  | first
  /-- The core of the worker. -/
  | second
deriving Repr, DecidableEq

def Core.name : Core → String
  | .first => "Pro"
  | .second => "App"

/-- What is needed to start a thread. -/
structure Thread where
  core : Core
  /-- The stack in units of 1024 bytes. -/
  stackKb : Nat
  name : String
deriving Repr, DecidableEq

namespace Thread

/-- The least stack in bytes. -/
def minStack : Nat := 64 * 1024

/-- The name without trailing NUL characters. -/
def displayName (t : Thread) : String :=
  String.ofList (t.name.toList.reverse.dropWhile (· == '\x00')).reverse

def stackBytes (t : Thread) : Nat :=
  max (t.stackKb * 1024) minStack

/-- The line that the start of a thread logs. -/
def startLine (t : Thread) : Log.Line :=
  Log.Origin.thread.line .info
    ("Spawning '" ++ t.displayName ++ "' (sim, " ++ t.core.name ++ " not pinned, stack="
      ++ toString t.stackKb ++ "KB)")

end Thread

end FanBoard
