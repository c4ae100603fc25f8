/-
# The command line

The program listens or sends. Options can stand before or behind the command,
with their value behind an equals sign or as the next argument; positional
arguments come in a fixed order; two dashes end the options.

Arguments are read from left to right. The value of an argument is checked
when the next argument is understood, so an argument that the command does not
know is reported before a bad value just ahead of it, and a bad value before
arguments that are missing. An option before the command is checked after the
command's own arguments.

An argument that starts with a dash is a value only where a coordinate is
expected, and only if it looks like a negative number.

Key definitions: `Cli.Param`, `Cli.Halt`, `Cli.Reading`, `Cli.Invocation`,
`Cli.parse`.
-/
import Tagram.Cli.Help
import Tagram.Command.Basic
import Tagram.Decimal.Read
import Tagram.Endpoint.Retry
import Tagram.Net.Address
import Tagram.Text.Terminal

namespace Tagram
namespace Cli

/-! ### What can be given -/

/-- The arguments that have a value. -/
inductive Param where
  | maxRetries
  | maxBackoff
  | forward
  | forwardBind
  | address
  | bind
  | peer
  | uid
  | x
  | y
  deriving DecidableEq

/-- How an argument is named in an error. -/
def Param.label : Param → String
  | .maxRetries => "--max-retries <MAX_RETRIES>"
  | .maxBackoff => "--max-backoff-ms <MAX_BACKOFF_MS>"
  | .forward => "--forward <FORWARD>"
  | .forwardBind => "--bind <BIND>"
  | .address => "<ADDRESS>"
  | .bind => "<BIND>"
  | .peer => "<PEER>"
  | .uid => "<UID>"
  | .x => "<X>"
  | .y => "<Y>"

/-- Whether a value may look like a negative number. -/
def Param.allowsNegative : Param → Bool
  | .x | .y => true
  | _ => false

/-- A value that was checked. -/
inductive Value where
  | address (a : Net.Address)
  | count (n : UInt32)
  | number (n : UInt64)
  | coordinate (x : Single)

/-- A count of 32 bits, read as a signed number of 64 bits. -/
def readCount (t : String) : Except String Value :=
  match Integer.readInt 0x8000000000000000 t with
  | .error e => .error e.message
  | .ok n =>
    if 0 ≤ n && n < 0x100000000 then .ok (.count (UInt32.ofNat n.toNat))
    else .error s!"{n} is not in 0..=4294967295"

/-- The value of an argument, or why there is none. -/
def Param.read (p : Param) (t : String) : Except String Value :=
  match p with
  | .maxRetries => readCount t
  | .maxBackoff | .uid =>
    match Integer.readNat 0x10000000000000000 t with
    | .error e => .error e.message
    | .ok n => .ok (.number (UInt64.ofNat n))
  | .forward | .forwardBind | .address | .bind | .peer =>
    match Net.Address.parse? t with
    | some a => .ok (.address a)
    | none => .error Net.Address.invalidMessage
  | .x | .y =>
    if t.isEmpty then .error "cannot parse float from empty string"
    else
      match Single.ofText? t with
      | some v => .ok (.coordinate v)
      | none => .error "invalid float literal"

/-- A command, or the program before its command. -/
inductive Scope where
  | program
  | listen
  | send
  deriving DecidableEq

/-- The options of a scope that have a value. -/
def Scope.options : Scope → List (String × Param)
  | .program => [("max-retries", .maxRetries), ("max-backoff-ms", .maxBackoff)]
  | .listen =>
    [("forward", .forward), ("bind", .forwardBind), ("max-retries", .maxRetries),
      ("max-backoff-ms", .maxBackoff)]
  | .send => [("max-retries", .maxRetries), ("max-backoff-ms", .maxBackoff)]

/-- The positional arguments of a scope. -/
def Scope.positionals : Scope → List Param
  | .program => []
  | .listen => [.address]
  | .send => [.bind, .peer, .uid, .x, .y]

/-- What help on a scope is about. -/
def Scope.topic : Scope → Topic
  | .program => .program
  | .listen => .listen
  | .send => .send

/-! ### How reading ends early -/

/-- Why the command line is not carried out. -/
inductive Halt where
  /-- Help was asked for. -/
  | help (topic : Topic)
  /-- The version was asked for. -/
  | version
  /-- Nothing was given. -/
  | noArguments
  | missing
  | noCommand
  | unknownCommand (name : String)
  | unexpected (argument : String)
  | unneededValue (value option : String)
  | valueMissing (p : Param)
  | repeated (p : Param)
  | invalid (p : Param) (value reason : String)
  deriving DecidableEq

/-- What is printed to standard error. What was given on the command line is
repeated without the terminal escapes in it. -/
def Halt.errors : Halt → List String
  | .help _ | .version => []
  | .noArguments => helpText .program
  | .missing => ["error: the following required arguments were not provided:"]
  | .noCommand => ["error: 'wirebridge' requires a subcommand but one was not provided"]
  | .unknownCommand name => ["error: unrecognized subcommand '" ++ Text.plain name ++ "'"]
  | .unexpected argument => ["error: unexpected argument '" ++ Text.plain argument ++ "' found"]
  | .unneededValue value option =>
    ["error: unexpected value '" ++ Text.plain value ++
      s!"' for '{option}' found; no more were expected"]
  | .valueMissing p => [s!"error: a value is required for '{p.label}' but none was supplied"]
  | .repeated p => [s!"error: the argument '{p.label}' cannot be used multiple times"]
  | .invalid p value reason =>
    ["error: invalid value '" ++ Text.plain value ++ s!"' for '{p.label}': {reason}"]

/-- What is printed to standard output. -/
def Halt.output : Halt → List String
  | .help topic => helpText topic
  | .version => [versionText]
  | _ => []

/-- The exit code. -/
def Halt.code : Halt → Nat
  | .help _ | .version => 0
  | _ => 2

/-! ### Reading -/

/-- How far the arguments of a scope are read. -/
structure Reading where
  /-- The values that were checked. -/
  found : List (Param × Value)
  /-- An argument whose value is still to be checked, if it has one yet. -/
  pending : Option (Param × Option String)
  /-- Whether the next argument is the value of the pending option. -/
  awaiting : Bool
  /-- The positional arguments that are still to come. -/
  positionals : List Param
  /-- Whether two dashes have ended the options. -/
  trailing : Bool

namespace Reading

/-- Nothing read yet. -/
def start (scope : Scope) : Reading := ⟨[], none, false, scope.positionals, false⟩

/-- Checks a value and keeps it. -/
def keep (r : Reading) (p : Param) (value : String) : Except Halt Reading :=
  if (r.found.lookup p).isSome then .error (.repeated p)
  else
    match p.read value with
    | .ok v => .ok { r with found := (p, v) :: r.found }
    | .error reason => .error (.invalid p value reason)

/-- Checks the pending argument. -/
def settle (r : Reading) : Except Halt Reading :=
  match r.pending with
  | none => .ok r
  | some (p, none) => .error (.valueMissing p)
  | some (p, some value) => { r with pending := none, awaiting := false }.keep p value

/-- An option, with its value if that stands behind an equals sign. -/
def option (r : Reading) (p : Param) (value : Option String) : Except Halt Reading := do
  let r ← r.settle
  match value with
  | some v => r.keep p v
  | none => return { r with pending := some (p, none), awaiting := true }

/-- The value of the pending option, or the next positional argument. `none` if
no argument is expected any more. -/
def value? (r : Reading) (t : String) : Option (Except Halt Reading) :=
  match r.awaiting && !r.trailing, r.pending with
  | true, some (p, _) => some (.ok { r with pending := some (p, some t), awaiting := false })
  | _, _ =>
    match r.positionals with
    | [] => none
    | p :: rest => some do
      let r ← r.settle
      return { r with pending := some (p, some t), awaiting := false, positionals := rest }

end Reading

/-- Whether the text behind a dash looks like a number: digits, at most one point
and at most one exponent mark, neither of them first, the point ahead of the
mark, and the mark not last. -/
def looksNumeric (cs : List Char) : Bool :=
  let whole := cs.takeWhile fun c => c ≠ 'e' && c ≠ 'E'
  let part := cs.drop whole.length
  let marked :=
    match part with
    | [] => true
    | _ :: digits => !whole.isEmpty && !digits.isEmpty && digits.all Char.isDigit
  let points := whole.filter (· = '.')
  marked && whole.all (fun c => c.isDigit || c = '.') && points.length ≤ 1 && whole.head? ≠ some '.'

/-- A long option without its dashes, cut at the first equals sign. -/
def splitLong (cs : List Char) : String × Option String :=
  let name := cs.takeWhile (· ≠ '=')
  match cs.drop name.length with
  | [] => (String.ofList name, none)
  | _ :: value => (String.ofList name, some (String.ofList value))

/-- What an argument is. -/
inductive Kind where
  /-- Two dashes. -/
  | separator
  | long (name : String) (value : Option String)
  | short (first : Char)
  | plain

/-- What an argument is, where `next` is the positional argument that comes next. -/
def classify (next : Option Param) (argument : String) : Kind :=
  match argument.toList with
  | ['-', '-'] => .separator
  | '-' :: '-' :: cs => .long (splitLong cs).1 (splitLong cs).2
  | '-' :: c :: cs =>
    if (next.map Param.allowsNegative).getD false && looksNumeric (c :: cs) then .plain
    else .short c
  | _ => .plain

/-- A long option. -/
def readLong (scope : Scope) (r : Reading) (name : String) (value : Option String) :
    Except Halt Reading :=
  let flag (halt : Halt) : Except Halt Reading :=
    match value with
    | some v => .error (.unneededValue v ("--" ++ name))
    | none => do
      let _ ← r.settle
      .error halt
  match scope.options.lookup name with
  | some p => r.option p value
  | none =>
    if name = "help" then flag (.help scope.topic)
    else if name = "version" && scope = .program then flag .version
    else .error (.unexpected ("--" ++ name))

/-- A short option. -/
def readShort (scope : Scope) (r : Reading) (c : Char) : Except Halt Reading :=
  if c = 'h' then do
    let _ ← r.settle
    .error (.help scope.topic)
  else if c = 'V' && scope = .program then do
    let _ ← r.settle
    .error .version
  else .error (.unexpected (String.ofList ['-', c]))

/-- What is wrong with an argument that nothing is expected for. -/
def excess (scope : Scope) (trailing : Bool) (argument : String) : Halt :=
  match scope with
  | .program =>
    if trailing && ["listen", "send", "help"].contains argument then .unexpected argument
    else .unknownCommand argument
  | _ => .unexpected argument

/-- One argument of a scope. -/
def readArgument (scope : Scope) (r : Reading) (argument : String) : Except Halt Reading :=
  let plain :=
    match r.value? argument with
    | some result => result
    | none => .error (excess scope r.trailing argument)
  if r.trailing then plain
  else
    match classify r.positionals.head? argument with
    | .separator => .ok { r with trailing := true }
    | .long name value => readLong scope r name value
    | .short c => readShort scope r c
    | .plain => plain

/-- All arguments of a command. -/
def readCommand (scope : Scope) (arguments : List String) : Except Halt (List (Param × Value)) := do
  let r ← arguments.foldlM (readArgument scope) (Reading.start scope)
  let r ← r.settle
  if r.positionals.isEmpty then return r.found else throw .missing

/-- Help on a command that is named by arguments. -/
def readHelp : List String → Halt
  | [] => .help .program
  | name :: rest =>
    let topic? : Option Topic :=
      if name = "listen" then some .listen
      else if name = "send" then some .send
      else if name = "help" then some .help
      else none
    match topic?, rest with
    | none, _ => .unknownCommand name
    | some topic, [] => .help topic
    | some _, extra :: _ => .unknownCommand extra

/-- What a command line asks for: a command, with the values given for it and
those given before it. -/
structure Request where
  scope : Scope
  own : List (Param × Value)
  before : List (Param × Value)

/-- The arguments before the command, the command, and its arguments. -/
def readProgram (r : Reading) : List String → Except Halt Request
  | [] => do
    let given := r.pending.isSome || !r.found.isEmpty
    let _ ← r.settle
    throw (if given then .noCommand else .noArguments)
  | argument :: rest =>
    let command? : Option Scope :=
      if r.trailing || r.awaiting then none
      else if argument = "listen" then some .listen
      else if argument = "send" then some .send
      else none
    match command? with
    | some scope => do
      let own ← readCommand scope rest
      let r ← r.settle
      return ⟨scope, own, r.found⟩
    | none =>
      if argument = "help" && !r.trailing && !r.awaiting then .error (readHelp rest)
      else
        match readArgument .program r argument with
        | .error halt => .error halt
        | .ok r => readProgram r rest

/-! ### What is asked for -/

/-- A command with its arguments. -/
inductive Mode where
  /-- Print what arrives at an address, and forward it from one address to another. -/
  | listen (address : Net.Address) (forward : Option (Net.Address × Net.Address))
  /-- Send one command. -/
  | send (bind peer : Net.Address) (command : Command)

/-- A command and the retry policy of its sockets. -/
structure Invocation where
  mode : Mode
  retry : RetryPolicy

namespace Request

/-- The value of an argument: the one given for the command wins over the one
given before it. -/
def value? (r : Request) (p : Param) : Option Value := (r.own.lookup p).or (r.before.lookup p)

/-- The address given for an argument. -/
def address? (r : Request) (p : Param) : Option Net.Address :=
  match r.value? p with
  | some (.address a) => some a
  | _ => none

/-- The number given for an argument. -/
def number? (r : Request) (p : Param) : Option UInt64 :=
  match r.value? p with
  | some (.number n) => some n
  | _ => none

/-- The coordinate given for an argument. -/
def coordinate? (r : Request) (p : Param) : Option Single :=
  match r.value? p with
  | some (.coordinate x) => some x
  | _ => none

/-- The retry policy. The longest wait is five seconds unless one is given. -/
def retry (r : Request) : RetryPolicy :=
  { RetryPolicy.default with
    maxBackoff := .ofMillis ((r.number? .maxBackoff).getD 5000)
    maxRetries :=
      match r.value? .maxRetries with
      | some (.count n) => some n
      | _ => none }

/-- The address that forwarding sends from unless one is given. -/
def defaultForwardBind : Net.Address := .v4 0 0 0 0 0

/-- The command with its arguments, if they are all there. -/
def mode? (r : Request) : Option Mode :=
  match r.scope with
  | .program => none
  | .listen => do
    let address ← r.address? .address
    let bind := (r.address? .forwardBind).getD defaultForwardBind
    return .listen address ((r.address? .forward).map fun peer => (bind, peer))
  | .send => do
    return .send (← r.address? .bind) (← r.address? .peer)
      (.move (← r.number? .uid) (← r.coordinate? .x) (← r.coordinate? .y))

end Request

/-- What the arguments of the program ask for. -/
def parse (arguments : List String) : Except Halt Invocation := do
  let request ← readProgram (Reading.start .program) arguments
  match request.mode? with
  | some mode => return ⟨mode, request.retry⟩
  | none => throw .missing

end Cli
end Tagram
