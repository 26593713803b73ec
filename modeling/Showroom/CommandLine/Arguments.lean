import Showroom.Text.Trim

/-!
# Showroom.CommandLine.Arguments

Arguments in the form `--name value` or `--name=value`. Reading goes from the left and stops at the
first word that belongs to no option, at a call for help, or at the first mistake.

* `readOptions`   reads them.
-/

namespace Showroom.CommandLine

/-- Why there is nothing to carry out. -/
inductive Stop where
  | mistake
  | help
  | version
deriving DecidableEq, Inhabited

/-- What an argument is. -/
inductive Argument where
  | word
  | help
  | version
  | option (name : String) (value : Option String)
  | last
  | unknown
deriving DecidableEq, Inhabited

namespace Argument

def ofLong (cs : List Char) : Argument :=
  if cs = [] then .last
  else if cs = "help".toList then .help
  else if cs = "version".toList then .version
  else
    let name := String.ofList (cs.takeWhile (· ≠ '='))
    match cs.dropWhile (· ≠ '=') with
    | _ :: value => .option name (some (String.ofList value))
    | [] => .option name none

def ofText (s : String) : Argument :=
  match s.toList with
  | '-' :: '-' :: cs => ofLong cs
  | '-' :: 'h' :: _ => .help
  | '-' :: 'V' :: _ => .version
  | '-' :: _ :: _ => .unknown
  | _ => .word

end Argument

/-- Reads options as far as they go. `set` is given the name and the value of each and says what has
been read then, unless there is no such option, it cannot have this value or it has one already. -/
def readOptions {α : Type} (set : String → String → α → Option α) :
    α → List String → Except Stop (α × List String)
  | a, [] => .ok (a, [])
  | a, s :: rest =>
    match Argument.ofText s with
    | .word => .ok (a, s :: rest)
    | .help => .error .help
    | .version => .error .version
    | .unknown => .error .mistake
    | .last => if rest = [] then .ok (a, []) else .error .mistake
    | .option name (some value) =>
      match set name value a with
      | some a => readOptions set a rest
      | none => .error .mistake
    | .option name none =>
      match rest with
      | [] => .error .mistake
      | value :: rest =>
        if Argument.ofText value = .word then
          match set name value a with
          | some a => readOptions set a rest
          | none => .error .mistake
        else .error .mistake

end Showroom.CommandLine
