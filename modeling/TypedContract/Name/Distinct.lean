/-
# TypedContract.Name.Distinct -- telling equal names apart

A name that was given before gets its method appended; a name that still occurs
again gets a counter.
-/
import TypedContract.Fault

namespace TypedContract.Name

set_option autoImplicit false

/-- Appends the method to every name that was seen before. -/
def appendMethods (seen : List String) :
    List String → List String → Except Fault (List String)
  | [], _ => .ok []
  | name :: rest, methods =>
      if seen.contains name then
        match methods with
        | [] => .error .badIndex
        | method :: methods => do
            return (name ++ "_" ++ method) :: (← appendMethods seen rest methods)
      else do return name :: (← appendMethods (name :: seen) rest methods.tail)

/-- Appends a counter to every name that was seen before; `counts` holds how often
each name was met. -/
def appendCounters (counts : List (String × Nat)) : List String → List String
  | [] => []
  | name :: rest =>
      match counts.lookup name with
      | some count =>
          (name ++ "_" ++ toString (count + 1))
            :: appendCounters ((name, count + 1) :: counts) rest
      | none => name :: appendCounters ((name, 1) :: counts) rest

/-- The names told apart by their methods and by counters. -/
def distinct (names methods : List String) : Except Fault (List String) := do
  return appendCounters [] (← appendMethods [] names methods)

end TypedContract.Name
