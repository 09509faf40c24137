import RpcLink.Config.Basic
import RpcLink.Config.Hosts

/-!
The place in which servers run on a bench: its files, its programs, and the variables that
servers inherit.
-/

namespace RpcLink.Bench

/-- What stands at a path. -/
inductive Entry where
  | directory
  | file
deriving DecidableEq

structure Place where
  /-- The programs that are found by name. -/
  programs : List String := [Settings.defaultProgram]
  /-- What else is found by name and cannot be run. -/
  barred : List String := []
  /-- The directory in which everything begins, by the names from the root on. -/
  directory : List String := ["srv", "bench"]
  /-- Variables that servers inherit. -/
  vars : NamedTexts := {}

namespace Place

/-- What stands where, beside the root. Nothing of it is a program. -/
def entries : List (String × Entry) :=
  [("dev/null", .file), ("dev/zero", .file), ("etc/hosts", .file), ("etc/passwd", .file)] ++
    (["bin", "dev", "etc", "home", "lib", "media", "mnt", "opt", "proc", "root", "run", "sbin",
      "srv", "srv/bench", "sys", "tmp", "usr", "usr/bin", "usr/lib", "usr/local", "usr/sbin",
      "usr/share", "var", "var/lib", "var/log", "var/tmp"].map fun path => (path, .directory))

/-- Go on from a directory or file by the names of a path. -/
def walk : (at_ : List String × Entry) → List String → Except SystemError (List String × Entry)
  | at_, [] => .ok at_
  | (_, .file), _ :: _ => .error .notADirectory
  | (names, .directory), name :: rest =>
    if name = "" ∨ name = "." then walk (names, .directory) rest
    else if name = ".." then walk (names.dropLast, .directory) rest
    else
      match entries.lookup ("/".intercalate (names ++ [name])) with
      | some entry => walk (names ++ [name], entry) rest
      | none => .error .noSuchFile

/-- What stands at a path, looked for from a directory if the path does not begin at the root. -/
def find (start : List String) (path : String) : Except SystemError (List String × Entry) :=
  if path.isEmpty then .error .noSuchFile
  else walk (if path.startsWith "/" then [] else start, .directory) (path.splitOn "/")

/-- Whether something stands at a path. -/
def pathExists (p : Place) (path : String) : Bool :=
  (find p.directory path).toBool

/-- The directory in which a configuration has its servers run. -/
def directoryFor (p : Place) (c : Config) : Except SystemError (List String) :=
  match c.directory with
  | none => .ok p.directory
  | some path => do
    match ← find p.directory path with
    | (names, .directory) => .ok names
    | (_, .file) => .error .notADirectory

/-- The path of a directory. -/
def pathOf (names : List String) : String := "/" ++ "/".intercalate names

/-- No name may be longer. -/
def longestName : Nat := 255

/-- A text with a zero in it cannot be handed to a program. -/
def zeroFault : SystemError := .custom .other "nul byte found in provided data"

/-- Start a program: the directory in which it runs, or why it does not start. A name without a
slash is looked for among the programs, any other one among the files. -/
def start (p : Place) (c : Config) (l : Launch) : Except SystemError (List String) := do
  let given := l.program :: l.arguments ++ c.vars.entries.flatMap fun v => [v.1, v.2]
  if given.any fun text => text.contains '\x00' then .error zeroFault
  else
    let directory ← p.directoryFor c
    if l.program.contains '/' then
      let _ ← find directory l.program
      .error .accessDenied
    else if p.programs.contains l.program then .ok directory
    else if p.barred.contains l.program || [".", ".."].contains l.program then
      .error .accessDenied
    else if longestName < l.program.utf8ByteSize then .error (.number 36)
    else .error .noSuchFile

/-- Why a program does not start, unless it does. -/
def refusal (p : Place) (c : Config) (l : Launch) : Option SystemError :=
  match p.start c l with
  | .ok _ => none
  | .error e => some e

end Place

end RpcLink.Bench
