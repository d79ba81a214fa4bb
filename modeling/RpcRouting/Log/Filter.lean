import RpcRouting.Log.Basic
import RpcRouting.Text.Alphanumeric
import RpcRouting.Text.Blank
/-!
Filters by which a log is installed: directives between commas, each a target, a level, or a target
and its level. Behind the target, or in its place, a span may stand in square brackets, and in the
span its fields in braces.
-/

set_option autoImplicit false
set_option relaxedAutoImplicit false

namespace RpcRouting

inductive InstallError
  | filter (reason : String)
  | install (reason : String)
deriving DecidableEq

namespace InstallError

def describe : InstallError → String
  | filter reason => "invalid log filter: " ++ reason
  | install reason => "failed to install tracing subscriber: " ++ reason

def unknownLevel : InstallError :=
  filter ("error parsing level filter: expected one of \"off\", \"error\", \"warn\", \"info\", " ++
    "\"debug\", \"trace\", or a number 0-5")

def malformedDirective : InstallError := filter "invalid filter directive"

def alreadyInstalled : InstallError :=
  install "a global default trace dispatcher has already been set"

end InstallError

namespace LogFilter

def levelNames : List String := ["off", "error", "warn", "info", "debug", "trace"]

/-- Whether a text is the number of a level: up to 5, perhaps with a plus sign. -/
def isLevelNumber (text : List Char) : Bool :=
  let digits := if text.head? = some '+' then text.tail else text
  !digits.isEmpty && digits.all Char.isDigit && Nat.ofDigitChars 10 digits 0 ≤ 5

/-- Whether a text is a level: empty, a name in letters of either case, or a number. -/
def isLevel (text : List Char) : Bool :=
  text.isEmpty || levelNames.any (fun name => name.toList = text.map Char.toLower) ||
    isLevelNumber text

def parts (separator : Char) : List Char → List (List Char)
  | [] => [[]]
  | c :: rest =>
    if c = separator then [] :: parts separator rest
    else
      match parts separator rest with
      | [] => [[c]]
      | part :: others => (c :: part) :: others

def beginsTarget (c : Char) : Bool := c = '-' || c = ':' || c = '_' || Text.isAlphanumeric c

/-- What stands behind a span whose opening bracket was taken. The braces of its fields are not
empty, and the bracket closes right behind them. -/
def afterSpan? (text : List Char) : Option (List Char) :=
  match text.dropWhile (fun c => c ≠ ']' && c ≠ '\x7b') with
  | ']' :: rest => some rest
  | '\x7b' :: fields =>
    match fields.span (· ≠ '\x7d') with
    | (_ :: _, '\x7d' :: ']' :: rest) => some rest
    | _ => none
  | _ => none

def afterTarget? (text : List Char) : Option (List Char) :=
  match text.dropWhile (fun c => c ≠ '=' && c ≠ '[') with
  | '[' :: span => afterSpan? span
  | rest => some rest

/-- Checks a directive. Blanks around it are no part of its form, but a level stands only in a
directive without them. -/
def checkDirective (text : List Char) : Except InstallError Unit :=
  let directive := Text.trimChars text
  if directive.head?.any (fun c => c = '[' || beginsTarget c) then
    match afterTarget? directive with
    | some [] => .ok ()
    | some ('=' :: level) =>
      if directive = text ∧ isLevel level then .ok () else .error .unknownLevel
    | _ => .error .malformedDirective
  else .error .malformedDirective

/-- Checks the directives of a filter up to the first that is refused; nothing between two commas is
no directive. -/
def check (filter : String) : Except InstallError Unit :=
  ((parts ',' filter.toList).filter (· ≠ [])).forM checkDirective

def install (installed : Bool) (filter : String) : Except InstallError Unit := do
  check filter
  if installed then throw .alreadyInstalled

end LogFilter

end RpcRouting
