import ChatStream.Decimal.Read

/-! # Command-line arguments

`llmux [OPTIONS] [PROMPT]` reads its arguments from left to right:

* `--name value`, `--name=value`, `-x value`, `-xvalue` and `-x=value` give an option its value;
  short flags may be bundled (`-hV`), and a short option ends a bundle by taking the rest of it;
* a flag with an attached value (`--mock=yes`) is refused;
* `--` makes every later argument a value;
* a lone `-` is a value; anything else starting with `-` must name an option.

An option waiting for a value takes the next argument unless it starts with `-`. The value of an
option is checked, and a repeated option refused, when the next known argument (or the end) is
reached, so an unknown argument is reported before the value before it. `--help` and `--version`
answer at once when read. `--image` may be repeated; every other option may be given once.

Errors name the argument, suggest a similar long option (Jaro similarity above 0.7) or the `--`
escape, and end with a usage line that lists the options already read.
-/

namespace ChatStream.Cli

inductive Opt where
  | api | model | system | image | maxTokens | temperature | mock | help | version
  deriving Repr, DecidableEq

namespace Opt

/-- Every option, in the order of the help text. -/
def all : List Opt := [.api, .model, .system, .image, .maxTokens, .temperature, .mock, .help, .version]

def long : Opt → String
  | .api => "api"
  | .model => "model"
  | .system => "system"
  | .image => "image"
  | .maxTokens => "max-tokens"
  | .temperature => "temperature"
  | .mock => "mock"
  | .help => "help"
  | .version => "version"

def short : Opt → Option Char
  | .api => some 'a'
  | .model => some 'm'
  | .system => some 's'
  | .image => some 'i'
  | .help => some 'h'
  | .version => some 'V'
  | _ => none

/-- The placeholder of the value; flags take none. -/
def valueName : Opt → Option String
  | .api => some "API"
  | .model => some "MODEL"
  | .system => some "SYSTEM"
  | .image => some "IMAGES"
  | .maxTokens => some "MAX_TOKENS"
  | .temperature => some "TEMPERATURE"
  | _ => none

def takesValue (o : Opt) : Bool := o.valueName.isSome

def display (o : Opt) : String :=
  match o.valueName with
  | some v => "--" ++ o.long ++ " <" ++ v ++ ">"
  | none => "--" ++ o.long

def ofLong (name : String) : Option Opt := all.find? (·.long == name)

def ofShort (c : Char) : Option Opt := all.find? (·.short == some c)

end Opt

structure Args where
  api : Option String := none
  model : Option String := none
  system : Option String := none
  images : List String := []
  maxTokens : Option Nat := none
  /-- Binary32 bits. -/
  temperature : Option Nat := none
  mock : Bool := false
  prompt : Option String := none
  deriving Repr, DecidableEq

/-- The outcome of reading the arguments. -/
inductive Command where
  | run (args : Args)
  | help
  | version
  /-- Refused arguments, with the whole text for standard error. -/
  | refuse (text : String)
  deriving Repr, DecidableEq

/-! ## Texts -/

def programName : String := "llmux"

def versionText : String := programName ++ " 0.1.0\n"

/-- The usage line when nothing has been read. -/
def fullUsage : String := programName ++ " [OPTIONS] [PROMPT]"

def helpText : String := String.intercalate "\n" [
  "Stream one prompt through an LLM API and print the answer",
  "",
  "Usage: " ++ fullUsage,
  "",
  "Arguments:",
  "  [PROMPT]  Prompt text; read from stdin when omitted",
  "",
  "Options:",
  "  -a, --api <API>                  API identifier, e.g. openai-completions, google-vertex, anthropic-messages",
  "  -m, --model <MODEL>              Model name; defaults to the configured model for the API",
  "  -s, --system <SYSTEM>            System prompt",
  "  -i, --image <IMAGES>             Attach an image (png, jpg, gif, webp); may be repeated",
  "      --max-tokens <MAX_TOKENS>    Maximum output tokens",
  "      --temperature <TEMPERATURE>  Sampling temperature",
  "      --mock                       Echo the prompt back through the mock adapter instead of calling an API",
  "  -h, --help                       Print help",
  "  -V, --version                    Print version",
  ""]

/-- An argument that has been read: an option, or the prompt. -/
inductive Taken where
  | opt (o : Opt)
  | prompt
  deriving Repr, DecidableEq

/-- Whether an option belongs to the group of the program's own arguments; `--help` and
`--version` do not. -/
def Opt.inGroup : Opt → Bool
  | .help | .version => false
  | _ => true

/-- The group of the program's own arguments, as a usage line writes it. -/
def groupUsage : String :=
  "<" ++ "|".intercalate ((Opt.all.filter Opt.inGroup).map Opt.display ++ ["PROMPT"]) ++ ">"

/-- The usage line after some arguments were read: the options read, then either the group of
the program's arguments (when it counts as read) or the prompt, written as required once given.
Nothing read gives the full usage line. -/
def usageAfter (taken : List Taken) (group : Bool) : String :=
  if taken.isEmpty && !group then fullUsage
  else
    let opts := (taken.filterMap fun | .opt o => some o | .prompt => none).eraseDups
    let opts := if group then opts.filter (!·.inGroup) else opts
    programName ++ String.join (opts.map (" " ++ ·.display)) ++
      (if group then " " ++ groupUsage
       else if taken.contains .prompt then " <PROMPT>" else " [PROMPT]")

/-- An error text: the message, an optional tip, an optional usage line, and the pointer to the
help. -/
def errorText (message : String) (tip usage : Option String) : String :=
  "error: " ++ message ++ "\n" ++ (match tip with | some t => "\n  tip: " ++ t ++ "\n" | none => "") ++
    (match usage with | some u => "\nUsage: " ++ u ++ "\n" | none => "") ++
    "\nFor more information, try '--help'.\n"

def unexpectedArgument (arg : String) (tip : Option String) (usage : String) : Command :=
  .refuse (errorText ("unexpected argument '" ++ arg ++ "' found") tip (some usage))

/-- The tip to escape an argument that looks like an option. -/
def escapeTip (arg : String) : String := "to pass '" ++ arg ++ "' as a value, use '-- " ++ arg ++ "'"

/-! ## Similar names -/

/-- Mark the first unmarked position of `b` within `range` of `i` that holds `c`. -/
def matchWithin (c : Char) (i range : Nat) (b : List Char) (marks : List Bool) : Option Nat :=
  ((List.range b.length).filter fun j => i ≤ j + range && j ≤ i + range).find? fun j =>
    b[j]? == some c && marks[j]? == some false

/-- The matching characters of two words, in the order of each word, as Jaro similarity counts
them: a character matches an unmatched equal one of the other word at most half the longer
length (less one) away. -/
def jaroMatches (a b : List Char) : List Char × List Char :=
  let range := max a.length b.length / 2 - 1
  let step := fun (acc : List Bool × List Bool) (p : Char × Nat) =>
    match matchWithin p.1 p.2 range b acc.2 with
    | some j => (acc.1 ++ [true], acc.2.set j true)
    | none => (acc.1 ++ [false], acc.2)
  let (aMarks, bMarks) := (a.zip (List.range a.length)).foldl step ([], b.map fun _ => false)
  ((a.zip aMarks).filterMap (fun (c, m) => if m then some c else none),
   (b.zip bMarks).filterMap (fun (c, m) => if m then some c else none))

/-- The Jaro similarity of two words as a binary64 value, computed the way a floating-point
program does: `(m/|a| + m/|b| + (m-t)/m) / 3`, each step rounded, where `m` counts matching
characters and `t` half the matches out of order. -/
def jaro (a b : List Char) : Nat :=
  let f := Decimal.Format.binary64
  if a.isEmpty && b.isEmpty then f.ofNat 1
  else if a.isEmpty || b.isEmpty then f.ofNat 0
  else
    let (aHits, bHits) := jaroMatches a b
    let m := aHits.length
    if m = 0 then f.ofNat 0
    else
      let t := ((aHits.zip bHits).filter fun (x, y) => x != y).length / 2
      let q (x y : Nat) := f.div (f.ofNat x) (f.ofNat y)
      f.div (f.add (f.add (q m a.length) (q m b.length)) (q (m - t) m)) (f.ofNat 3)

/-- The least similarity, exclusive, for a suggestion: the binary64 value nearest 0.7. -/
def similarityFloor : Nat := Decimal.Format.binary64.round false 7 10 0

/-- The long option most similar to a word, if one is similar enough; of equally similar ones,
the last. Similarities are non-negative, so their encodings compare as the values do. -/
def similarOption (word : String) : Option Opt :=
  Opt.all.foldl (fun best o =>
    let score := jaro word.toList o.long.toList
    if score ≤ similarityFloor then best
    else match best with
      | some (b, bs) => if score ≥ bs then some (o, score) else some (b, bs)
      | none => some (o, score)) (none : Option (Opt × Nat)) |>.map (·.1)

/-! ## Values -/

/-- Read a signed 64-bit integer, reporting the first bad digit or overflow from the left. -/
def readInt64 (text : String) : Except String Int :=
  let (neg, digits) := match text.toList with
    | '-' :: r => (true, r)
    | '+' :: r => (false, r)
    | r => (false, r)
  if text.isEmpty then .error "cannot parse integer from empty string"
  else if digits.isEmpty then .error "invalid digit found in string"
  else
    let limit : Nat := if neg then Nat.pow 2 63 else Nat.pow 2 63 - 1
    let r := digits.foldl (fun (acc : Except String Nat) c => acc.bind fun v =>
      if !c.isDigit then .error "invalid digit found in string"
      else
        let v := 10 * v + (c.toNat - '0'.toNat)
        if v > limit then
          .error (if neg then "number too small to fit in target type"
            else "number too large to fit in target type")
        else .ok v) (.ok 0)
    r.map fun v => if neg then -(v : Int) else v

/-- Read an unsigned 32-bit value: a 64-bit integer in range. Errors give the value as shown and
the reason. -/
def readUnsigned32 (text : String) : Except (String × String) Nat :=
  match readInt64 text with
  | .error e => .error (text, e)
  | .ok v =>
    if 0 ≤ v ∧ v < Nat.pow 2 32 then .ok v.toNat
    else .error (toString v, toString v ++ " is not in 0..=4294967295")

/-! ## Reading -/

/-- A read value waiting to be applied: an option's (none yet when it still waits for one), or
the prompt. -/
inductive Pending where
  | option (o : Opt) (value : Option String)
  | prompt (value : String)
  deriving Repr, DecidableEq

structure ArgState where
  args : Args := {}
  /-- The arguments applied, in the order they were first applied. -/
  taken : List Taken := []
  pending : Option Pending := none
  /-- The prompt's place has been filled. -/
  promptSeen : Bool := false
  /-- After `--` every argument is a value. -/
  trailing : Bool := false

namespace ArgState

def take (s : ArgState) (t : Taken) : ArgState :=
  if s.taken.contains t then s else { s with taken := s.taken ++ [t] }

def repeated (o : Opt) : Command :=
  .refuse (errorText ("the argument '" ++ o.display ++ "' cannot be used multiple times")
    none (some fullUsage))

/-- The refusal of an option given no value. -/
def valueRequired (o : Opt) : Command :=
  .refuse (errorText ("a value is required for '" ++ o.display ++ "' but none was supplied") none none)

/-- Apply an option with its value. An image is a path, and an empty path counts as no value. -/
def apply (s : ArgState) (o : Opt) (value : Option String) : Except Command ArgState :=
  match o, value with
  | .help, _ => .error .help
  | .version, _ => .error .version
  | .mock, _ =>
    if s.taken.contains (.opt .mock) then .error (repeated .mock)
    else .ok ({ s with args := { s.args with mock := true } }.take (.opt .mock))
  | o, none => .error (valueRequired o)
  | .image, some "" => .error (valueRequired .image)
  | o, some v =>
    if o != .image && s.taken.contains (.opt o) then .error (repeated o)
    else
      let invalid := fun (shown reason : String) =>
        Command.refuse (errorText ("invalid value '" ++ shown ++ "' for '" ++ o.display ++ "': " ++ reason)
          none none)
      let a := s.args
      let set := fun (a : Args) => Except.ok ({ s with args := a }.take (.opt o))
      match o with
      | .api => set { a with api := some v }
      | .model => set { a with model := some v }
      | .system => set { a with system := some v }
      | .image => set { a with images := a.images ++ [v] }
      | .maxTokens =>
        match readUnsigned32 v with
        | .ok n => set { a with maxTokens := some n }
        | .error (shown, reason) => .error (invalid shown reason)
      | .temperature =>
        match Decimal.Format.binary32.readLiteral v with
        | .ok bits => set { a with temperature := some bits }
        | .error e => .error (invalid v e.message)
      | _ => .ok s

def resolve (s : ArgState) : Except Command ArgState :=
  match s.pending with
  | some (.option o v) => { s with pending := none }.apply o v
  | some (.prompt v) =>
    .ok ({ s with pending := none, args := { s.args with prompt := some v } }.take .prompt)
  | none => .ok s

/-- The arguments counted as read once the pending value has been tried, whether or not it was
accepted: an option with a value counts even when the value is refused, one without a value does
not, and a repeated one is dropped. -/
def takenAfterTry (s : ArgState) : List Taken :=
  match s.pending with
  | some (.option o (some _)) =>
    if o != .image && s.taken.contains (.opt o) then s.taken.erase (.opt o)
    else (s.take (.opt o)).taken
  | some (.option _ none) => s.taken
  | some (.prompt _) => (s.take .prompt).taken
  | none => s.taken

/-- Start an option: one with an attached value is applied, one that needs a value waits for
it. -/
def start (s : ArgState) (o : Opt) (attached : Option String) : Except Command ArgState := do
  let s ← s.resolve
  if o.takesValue && attached.isNone then pure { s with pending := some (.option o none) }
  else s.apply o attached

/-- A value that belongs to no option: the prompt, once. -/
def positional (s : ArgState) (arg : String) : Except Command ArgState :=
  if s.promptSeen then .error (unexpectedArgument arg none fullUsage)
  else do
    let s ← s.resolve
    pure { s with pending := some (.prompt arg), promptSeen := true }

/-- A long option, with the text after `=` if there was one. -/
def longOption (s : ArgState) (name : String) (attached : Option String) : Except Command ArgState :=
  let arg := "--" ++ name
  match Opt.ofLong name, attached with
  | none, _ =>
    match similarOption name with
    | some o =>
      .error (unexpectedArgument arg (some ("a similar argument exists: '--" ++ o.long ++ "'"))
        (usageAfter (s.takenAfterTry ++ [.opt o]) false))
    | none =>
      .error (unexpectedArgument arg (if s.trailing then none else some (escapeTip arg))
        (usageAfter s.takenAfterTry false))
  | some o, some v =>
    if o.takesValue then s.start o (some v)
    else .error (.refuse (errorText ("unexpected value '" ++ v ++ "' for '" ++ o.display ++
      "' found; no more were expected") none
      (some (usageAfter (s.taken ++ [.opt o]) (!s.taken.isEmpty)))))
  | some o, none => s.start o none

/-- A bundle of short options, the leading `-` removed. -/
def shortOptions (s : ArgState) : List Char → Except Command ArgState
  | [] => .ok s
  | c :: rest =>
    match Opt.ofShort c with
    | none =>
      let arg := "-" ++ String.singleton c
      .error (unexpectedArgument arg (some (escapeTip arg)) fullUsage)
    | some o =>
      if o.takesValue then
        match rest with
        | [] => s.start o none
        | '=' :: v => s.start o (some (String.ofList v))
        | v => s.start o (some (String.ofList v))
      else do
        let s ← s.start o none
        s.shortOptions rest

def step (s : ArgState) (arg : String) : Except Command ArgState :=
  if s.trailing then s.positional arg
  else if arg == "--" then .ok { s with trailing := true }
  else if arg.startsWith "--" then
    match ((arg.drop 2).toString.splitOn "=") with
    | name :: rest@(_ :: _) => s.longOption name (some ("=".intercalate rest))
    | _ => s.longOption (arg.drop 2).toString none
  else if arg.startsWith "-" && arg != "-" then s.shortOptions (arg.toList.drop 1)
  else match s.pending with
    | some (.option o none) => .ok { s with pending := some (.option o (some arg)) }
    | _ => s.positional arg

end ArgState

/-- Read the arguments (the program's name not among them). -/
def parseArgs (argv : List String) : Command :=
  match argv.foldlM ArgState.step {} >>= ArgState.resolve with
  | .ok s => .run s.args
  | .error c => c

end ChatStream.Cli
