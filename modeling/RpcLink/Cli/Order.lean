import RpcLink.Wire.Transport

/-!
Orders: what a user asks for on the command line. Options stand before the command; each is given
at most once, its value behind an equals sign or as the next argument. Arguments are looked at
one after the other, and the first that cannot be right decides.
-/

namespace RpcLink.Cli

/-- The options that were given. -/
structure Options where
  transport : Option Transport := none
  program : Option String := none
  host : Option String := none
  directory : Option String := none
  /-- In milliseconds. -/
  timeout : Option Nat := none
  verbose : Bool := false

inductive Order where
  | call (options : Options) (method : String) (params : Option String)
  | showVersion
  | showHelp
  /-- Arguments that make no sense. -/
  | misuse

/-- An option that has a value. -/
inductive Setting where
  | transport
  | program
  | host
  | directory
  | timeout

def Setting.ofName : String → Option Setting
  | "transport" => some .transport
  | "binary" => some .program
  | "host" => some .host
  | "workspace" => some .directory
  | "timeout-ms" => some .timeout
  | _ => none

/-- A number below 2^64 in decimal digits, perhaps behind a plus sign. -/
def wordOf (s : String) : Option Nat :=
  let digits :=
    match s.toList with
    | '+' :: rest => rest
    | cs => cs
  if digits.isEmpty || !digits.all Char.isDigit then none
  else
    let value := digits.foldl (fun n c => 10 * n + (c.toNat - 48)) 0
    if value < 0x10000000000000000 then some value else none

/-- A path; an empty one is none. -/
def pathOf (s : String) : Option String :=
  if s.isEmpty then none else some s

/-- Set an option, unless it was given before or the value is not one for it. -/
def Options.set (o : Options) (setting : Setting) (value : String) : Option Options :=
  match setting with
  | .transport =>
    if o.transport.isSome then none
    else (Transport.ofName value).toOption.map fun t => { o with transport := some t }
  | .program =>
    if o.program.isSome then none
    else (pathOf value).map fun p => { o with program := some p }
  | .host => if o.host.isSome then none else some { o with host := some value }
  | .directory =>
    if o.directory.isSome then none
    else (pathOf value).map fun p => { o with directory := some p }
  | .timeout =>
    if o.timeout.isSome then none
    else (wordOf value).map fun n => { o with timeout := some n }

/-- What an argument looks like. -/
inductive Shape where
  /-- Only values follow. -/
  | barrier
  /-- `--name` or `--name=value`. -/
  | long (name : String) (value : Option String)
  /-- `-abc`. -/
  | short (letters : List Char)
  | plain

def Shape.of (argument : String) : Shape :=
  match argument.toList with
  | ['-', '-'] => .barrier
  | '-' :: '-' :: rest =>
    .long (String.ofList (rest.takeWhile (· != '=')))
      (match rest.dropWhile (· != '=') with
      | _ :: value => some (String.ofList value)
      | [] => none)
  | '-' :: c :: rest => .short (c :: rest)
  | _ => .plain

namespace Order

/-- The values behind the command: a method, and perhaps parameters. -/
def ofValues (o : Options) : List String → Order
  | [method] => .call o method none
  | [method, params] => .call o method (some params)
  | _ => .misuse

/-- The arguments behind the command, of which some values were found. -/
def ofCall (o : Options) (values : List String) : List String → Order
  | [] => ofValues o values
  | argument :: rest =>
    match Shape.of argument with
    | .barrier => ofValues o (values ++ rest)
    | .long "help" none => .showHelp
    | .short ('h' :: _) => .showHelp
    | .long .. | .short _ => .misuse
    | .plain =>
      if values.length < 2 then ofCall o (values ++ [argument]) rest else .misuse

/-- The arguments behind a request for help: at most the name of a command. -/
def ofHelp : List String → Order
  | [] | ["call"] | ["help"] => .showHelp
  | _ => .misuse

/-- Letters behind one dash: what they order at once, or the options with them. -/
def ofLetters (o : Options) : List Char → Except Order Options
  | [] => .ok o
  | 'v' :: rest => if o.verbose then .error .misuse else ofLetters { o with verbose := true } rest
  | 'h' :: _ => .error .showHelp
  | 'V' :: _ => .error .showVersion
  | _ => .error .misuse

/-- The arguments from some point on, with the options found before it. -/
def ofArguments (o : Options) : List String → Order
  | [] => .misuse
  | argument :: rest =>
    match Shape.of argument with
    | .barrier => .misuse
    | .plain =>
      if argument = "call" then ofCall o [] rest
      else if argument = "help" then ofHelp rest
      else .misuse
    | .short letters =>
      match ofLetters o letters with
      | .ok o => ofArguments o rest
      | .error order => order
    | .long "verbose" none =>
      if o.verbose then .misuse else ofArguments { o with verbose := true } rest
    | .long "help" none => .showHelp
    | .long "version" none => .showVersion
    | .long name (some value) =>
      match (Setting.ofName name).bind fun s => o.set s value with
      | some o => ofArguments o rest
      | none => .misuse
    | .long name none =>
      match Setting.ofName name, rest with
      | some s, value :: rest =>
        match Shape.of value with
        | .plain =>
          match o.set s value with
          | some o => ofArguments o rest
          | none => .misuse
        | _ => .misuse
      | _, _ => .misuse

/-- The order that arguments give. -/
def ofList (arguments : List String) : Order := ofArguments {} arguments

end Order

end RpcLink.Cli
