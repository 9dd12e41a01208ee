/-! # Invocations

    What the arguments of the program ask for.  Options come in a short and a
    long form; a value follows as the next argument, directly after a short form,
    or after an equals sign.  Arguments are taken in order, and the first one that
    settles the matter does so: a request for version or help, or a mistake.
-/

namespace ChatDice.Console

/-! ## What can be asked for -/

/-- What the program is asked to do. -/
inductive Invocation
  /-- Handle lines as messages of a user, with settings from a path. -/
  | run (config user : String)
  | version
  | help
  /-- The arguments make no sense. -/
  | mistaken
  deriving DecidableEq

/-- An option that has a value. -/
inductive Setting
  | config
  | user
  deriving DecidableEq

/-- The options given so far. -/
structure Given where
  config : Option String
  user   : Option String

/-- No options. -/
def Given.nothing : Given := ⟨none, none⟩

/-- Adds an option.  No option may be given twice, and a path may not be empty. -/
def Given.add (g : Given) (s : Setting) (value : String) : Option Given :=
  match s with
  | .config => if g.config.isSome || value == "" then none else some { g with config := value }
  | .user   => if g.user.isSome then none else some { g with user := value }

/-! ## Single arguments -/

/-- What one argument comes to. -/
inductive Sense
  /-- The arguments make an end here. -/
  | settled (i : Invocation)
  /-- An option with its value. -/
  | option (s : Setting) (value : String)
  /-- An option whose value is the next argument. -/
  | awaiting (s : Setting)
  /-- No further options follow. -/
  | separator
  /-- A value. -/
  | value (v : String)

/-- The value after an equals sign, or the text itself. -/
def withoutEquals : List Char → List Char
  | '=' :: v => v
  | v        => v

/-- The sense of the letters after a single dash. -/
def shortSense : List Char → Sense
  | 'V' :: _ => .settled .version
  | 'h' :: _ => .settled .help
  | ['c']    => .awaiting .config
  | ['u']    => .awaiting .user
  | 'c' :: v => .option .config (String.ofList (withoutEquals v))
  | 'u' :: v => .option .user (String.ofList (withoutEquals v))
  | _        => .settled .mistaken

/-- The sense of a name after two dashes, with the value after an equals sign. -/
def longSense (name : String) (value : Option String) : Sense :=
  match name, value with
  | "version", none   => .settled .version
  | "help",    none   => .settled .help
  | "config",  none   => .awaiting .config
  | "user",    none   => .awaiting .user
  | "config",  some v => .option .config v
  | "user",    some v => .option .user v
  | _,         _      => .settled .mistaken

/-- The sense of an argument. -/
def senseOf (arg : String) : Sense :=
  match arg.toList with
  | ['-', '-']      => .separator
  | '-' :: '-' :: s =>
    match s.span (· != '=') with
    | (name, '=' :: v) => longSense (String.ofList name) (some (String.ofList v))
    | (name, _)        => longSense (String.ofList name) none
  -- A dash on its own is no option.
  | ['-']           => .value arg
  | '-' :: s        => shortSense s
  | _               => .value arg

/-! ## All arguments -/

/-- Path of the settings file if none is named. -/
def defaultConfig : String := "rollbot.toml"

/-- Sender of the messages if none is named. -/
def defaultUser : String := "@you:localhost"

/-- The run that some options ask for.  The environment may name the settings file
in place of an option. -/
def Given.toRun (g : Given) (environment : Option String) : Invocation :=
  match g.config, environment with
  | some c, _        => .run c (g.user.getD defaultUser)
  | none,   some ""  => .mistaken
  | none,   some c   => .run c (g.user.getD defaultUser)
  | none,   none     => .run defaultConfig (g.user.getD defaultUser)

/-- Takes the arguments in order; `pending` is an option that awaits its value. -/
def Invocation.take (environment : Option String) :
    Given → (pending : Option Setting) → List String → Invocation
  | g, none,    []      => g.toRun environment
  | _, some _,  []      => .mistaken
  | g, pending, a :: as =>
    match pending, senseOf a with
    | some s, .value v    =>
      match g.add s v with
      | some g => take environment g none as
      | none   => .mistaken
    -- An option that awaits its value cannot be followed by anything else.
    | some _, _           => .mistaken
    | none,   .settled i  => i
    | none,   .option s v =>
      match g.add s v with
      | some g => take environment g none as
      | none   => .mistaken
    | none,   .awaiting s => take environment g (some s) as
    -- The program has no values of its own, so nothing may follow a separator.
    | none,   .separator  => if as.isEmpty then g.toRun environment else .mistaken
    | none,   .value _    => .mistaken

/-- What some arguments ask for. -/
def Invocation.ofArguments (environment : Option String) (args : List String) : Invocation :=
  Invocation.take environment Given.nothing none args

/-- The text of a request for help. -/
def helpText : String :=
  "Dice roll bot that answers /roll and /reroll commands read from stdin\n\n" ++
  "Usage: rollbot [OPTIONS]\n\n" ++
  "Options:\n" ++
  "  -c, --config <CONFIG>  Configuration file [env: ROLLBOT_CONFIG=] [default: rollbot.toml]\n" ++
  "  -u, --user <USER>      Sender the messages are attributed to [default: @you:localhost]\n" ++
  "  -h, --help             Print help\n" ++
  "  -V, --version          Print version\n"

end ChatDice.Console
