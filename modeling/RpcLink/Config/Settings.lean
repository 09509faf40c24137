import RpcLink.Text.Blank

/-!
Settings that say where the server is: looked up by name, in a store or in the environment, each
time that they are needed.
-/

namespace RpcLink

/-- Texts under names, such as settings or the variables of an environment. -/
structure NamedTexts where
  entries : List (String × String) := []
deriving DecidableEq

namespace NamedTexts

def get? (t : NamedTexts) (name : String) : Option String :=
  t.entries.lookup name

def remove (t : NamedTexts) (name : String) : NamedTexts :=
  ⟨t.entries.filter fun entry => entry.1 != name⟩

def set (t : NamedTexts) (name value : String) : NamedTexts :=
  ⟨(name, value) :: (t.remove name).entries⟩

/-- Set the texts one after the other. -/
def setAll (t : NamedTexts) (entries : List (String × String)) : NamedTexts :=
  entries.foldl (fun t entry => t.set entry.1 entry.2) t

/-- Set a text, or remove it where none is given. -/
def put (t : NamedTexts) (name : String) : Option String → NamedTexts
  | some value => t.set name value
  | none => t.remove name

end NamedTexts

/-- Where settings are looked up. -/
inductive Settings where
  | stored (values : NamedTexts)
  | environment (vars : NamedTexts)

namespace Settings

/-- The setting that names the server's program. -/
def programKey : String := "codingbuddy.binaryPath"

/-- The setting that names the native host. -/
def hostKey : String := "codingbuddy.nativeHost"

/-- The program that is run where none is set. -/
def defaultProgram : String := "codingbuddy"

/-- The native host that is used where none is set. -/
def defaultHost : String := "io.codingbuddy.native_host"

/-- The variable of the environment that holds a setting, if one does. -/
def variableOf (key : String) : Option String :=
  if key = programKey then some "CODINGBUDDY_BIN"
  else if key = hostKey then some "CODINGBUDDY_NATIVE_HOST"
  else none

def get? (s : Settings) (key : String) : Option String :=
  match s with
  | .stored values => values.get? key
  | .environment vars => (variableOf key).bind vars.get?

/-- A setting without the blanks around it, or the default if it is missing or blank. -/
def resolve (s : Settings) (key fallback : String) : String :=
  match s.get? key with
  | some value => if Text.allBlank value then fallback else Text.trim value
  | none => fallback

/-- Put a value under a name where the settings are looked up, or remove what is there. -/
def put (s : Settings) (name : String) (value : Option String) : Settings :=
  match s with
  | .stored values => .stored (values.put name value)
  | .environment vars => .environment (vars.put name value)

end Settings

end RpcLink
