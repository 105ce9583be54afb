import FacetSearch.Text.Digits

/-!
# Command lines

A command line has options, the name of a command, and the command's own options and operands in
any order.  An option's value follows it or is attached; a word that begins with `-` is an
option unless `--` came before it.  Reading goes from left to right and stops at the first thing
wrong, or at a request for help.
-/

namespace FacetSearch.Command

/-- What the program is asked to do. -/
inductive Task where
  /-- Show the form for a query. -/
  | form (query : String) (asHtml : Bool)
  /-- Set parameters of a location. -/
  | merge (url : String) (set : List (String × String))
  /-- List the values of a field. -/
  | catalog (key : String)
  /-- Go to a random search. -/
  | lucky
  /-- Show a document, given in place or in a file. -/
  | detail (document file : Option String)
  /-- Show the navigation of a listing. -/
  | pages (count : UInt64) (limit : Option UInt64) (offset : UInt64) (query : String)
      (asHtml : Bool)
deriving DecidableEq, Repr, Inhabited

/-- A task with the options that every task has. -/
structure Invocation where
  asJson : Bool
  config : Option String
  verbose : Bool
  task : Task
deriving DecidableEq, Repr, Inhabited

/-- Why a command line asks for no task. -/
inductive Stop where
  /-- It is not a good one. -/
  | usage
  /-- It asks for the help text of a command, or of the program. -/
  | help (command : Option String)
  /-- It asks which version this is. -/
  | version
deriving DecidableEq, Repr, Inhabited

/-! ## Values -/

/-- A whole number of 64 bits: digits after an optional plus sign. -/
def wordOf? (text : String) : Option UInt64 :=
  let digits := match text.toList with
    | '+' :: r => r
    | s => s
  match Text.decimal? digits with
  | some n => if n < UInt64.size then some (UInt64.ofNat n) else none
  | none => none

/-- A key that is not empty and a value, with `=` between them. -/
def pairOf? (text : String) : Option (String × String) :=
  match text.toList.span (· != '=') with
  | (k :: key, '=' :: value) => some (String.ofList (k :: key), String.ofList value)
  | _ => none

/-! ## Options -/

/-- An option: its names, whether a value goes with it and which ones are good, and
whether it may be repeated. -/
structure Switch where
  long : String
  short : Option Char
  hasValue : Bool
  repeats : Bool
  accepts : String → Bool

/-- An option without a value. -/
def Switch.flag (long : String) (short : Option Char) : Switch :=
  ⟨long, short, false, false, fun _ => true⟩

/-- An option with a value. -/
def Switch.valued (long : String) (accepts : String → Bool) : Switch :=
  ⟨long, none, true, false, accepts⟩

/-- A path may not be empty. -/
def isPath (text : String) : Bool :=
  !text.isEmpty

/-- The options of every task. -/
def commonSwitches : List Switch :=
  [.flag "json" none, .valued "config" isPath, .flag "verbose" (some 'v')]

/-- A command: its options, and how many operands it may have. -/
structure Grammar where
  name : String
  switches : List Switch
  operands : Nat

/-- The commands. -/
def grammars : List Grammar :=
  let isWord (text : String) : Bool := (wordOf? text).isSome
  [⟨"form", [.flag "html" none], 1⟩,
   ⟨"merge", [⟨"set", some 's', true, true, fun text => (pairOf? text).isSome⟩], 1⟩,
   ⟨"catalog", [], 1⟩,
   ⟨"lucky", [], 0⟩,
   ⟨"detail", [.valued "file" isPath], 1⟩,
   ⟨"pages", [.valued "count" isWord, .valued "limit" isWord, .valued "offset" isWord,
     .flag "html" none], 1⟩]

/-! ## Reading words -/

/-- What was read so far: options by long name with their values, and operands. -/
structure Found where
  options : List (String × String)
  operands : List String
deriving DecidableEq, Repr, Inhabited

namespace Found

/-- Nothing read. -/
def empty : Found := ⟨[], []⟩

/-- Whether an option was given. -/
def has (f : Found) (long : String) : Bool :=
  f.options.any fun o => o.1 == long

/-- The values of an option, in order. -/
def values (f : Found) (long : String) : List String :=
  (f.options.filter fun o => o.1 == long).map (·.2)

/-- The last value of an option. -/
def value? (f : Found) (long : String) : Option String :=
  (f.values long).getLast?

/-- Takes in an option with its value. -/
def accept (f : Found) (s : Switch) (value : String) : Except Stop Found :=
  if (f.has s.long && !s.repeats) || !s.accepts value then .error .usage
  else .ok { f with options := f.options ++ [(s.long, value)] }

/-- Takes in an operand. -/
def addOperand (f : Found) (limit : Nat) (text : String) : Except Stop Found :=
  if limit ≤ f.operands.length then .error .usage
  else .ok { f with operands := f.operands ++ [text] }

end Found

/-- Reads the letters of a word of short options.  An option with a value takes the rest of
the word, or else waits for the next word.  The command whose words these are, if any, is
the one that help is for. -/
def readShort (switches : List Switch) (command : Option String) (f : Found) :
    List Char → Except Stop (Found × Option Switch)
  | [] => .ok (f, none)
  | c :: r =>
    if c = 'h' then .error (.help command)
    else if c = 'V' ∧ command.isNone then .error .version
    else match switches.find? fun s => s.short == some c with
      | none => .error .usage
      | some s =>
        if !s.hasValue then do readShort switches command (← f.accept s "") r
        else match r with
          | [] => .ok (f, some s)
          | '=' :: v => do return (← f.accept s (String.ofList v), none)
          | v => do return (← f.accept s (String.ofList v), none)

/-- Reads a word that begins with two hyphens, without them. -/
def readLong (switches : List Switch) (command : Option String) (f : Found) (word : List Char) :
    Except Stop (Found × Option Switch) :=
  let name := String.ofList (word.takeWhile (· != '='))
  let attached := (word.dropWhile (· != '=')).tail?.map String.ofList
  if name = "help" ∧ attached.isNone then .error (.help command)
  else if name = "version" ∧ command.isNone ∧ attached.isNone then .error .version
  else match switches.find? fun s => s.long == name with
    | none => .error .usage
    | some s =>
      match s.hasValue, attached with
      | true, some v => do return (← f.accept s v, none)
      | true, none => .ok (f, some s)
      | false, some _ => .error .usage
      | false, none => do return (← f.accept s "", none)

/-- Reads the words of a command.  `waiting` is an option whose value comes next, and after `--` all
words are operands. -/
def readWords (g : Grammar) (f : Found) (waiting : Option Switch) :
    List String → Except Stop Found
  | [] => if waiting.isSome then .error .usage else .ok f
  | w :: r =>
    match w.toList, waiting with
    | ['-', '-'], none => r.foldlM (fun f w => f.addOperand g.operands w) f
    | '-' :: '-' :: long, none => do
      let (f, waiting) ← readLong g.switches (some g.name) f long
      readWords g f waiting r
    | '-' :: c :: short, none => do
      let (f, waiting) ← readShort g.switches (some g.name) f (c :: short)
      readWords g f waiting r
    | '-' :: _ :: _, some _ => .error .usage
    | _, some s => do readWords g (← f.accept s w) none r
    | _, none => do readWords g (← f.addOperand g.operands w) none r

/-- The task of a command, from what was read of it. -/
def taskOf (name : String) (f : Found) : Except Stop Task :=
  let operand := f.operands.head?
  let asHtml := f.has "html"
  let word (long : String) : Option UInt64 := (f.value? long).bind wordOf?
  match name, operand with
  | "form", query => .ok (.form (query.getD "") asHtml)
  | "merge", some url => .ok (.merge url ((f.values "set").filterMap pairOf?))
  | "catalog", some key => .ok (.catalog key)
  | "lucky", _ => .ok .lucky
  | "detail", document =>
    if document.isSome ∧ f.has "file" then .error .usage
    else .ok (.detail document (f.value? "file"))
  | "pages", query =>
    match word "count" with
    | some count =>
      .ok (.pages count (word "limit") ((word "offset").getD 0) (query.getD "") asHtml)
    | none => .error .usage
  | _, _ => .error .usage

/-- The invocation that a command's words ask for, with the options that came before its name. -/
def invocationOf (before : Found) (g : Grammar) (words : List String) : Except Stop Invocation := do
  let f ← readWords { g with switches := commonSwitches ++ g.switches } .empty none words
  let task ← taskOf g.name f
  return ⟨before.has "json" || f.has "json", f.value? "config" <|> before.value? "config",
    before.has "verbose" || f.has "verbose", task⟩

/-- What the words after a request for help ask for. -/
def helpFor : List String → Stop
  | [] => .help none
  | [name] => if name = "help" ∨ grammars.any (·.name == name) then .help (some name) else .usage
  | _ => .usage

/-- Reads a command line from a word on, after the options found so far. -/
def readTop (f : Found) (waiting : Option Switch) : List String → Except Stop Invocation
  | [] => .error .usage
  | w :: r =>
    match w.toList, waiting with
    | ['-', '-'], none => .error .usage
    | '-' :: '-' :: long, none => do
      let (f, waiting) ← readLong commonSwitches none f long
      readTop f waiting r
    | '-' :: c :: short, none => do
      let (f, waiting) ← readShort commonSwitches none f (c :: short)
      readTop f waiting r
    | '-' :: _ :: _, some _ => .error .usage
    | _, some s => do readTop (← f.accept s w) none r
    | _, none =>
      if w = "help" then .error (helpFor r)
      else match grammars.find? fun g => g.name == w with
        | some g => invocationOf f g r
        | none => .error .usage

/-- The invocation that a command line asks for. -/
def parse? (args : List String) : Except Stop Invocation :=
  readTop .empty none args

end FacetSearch.Command
