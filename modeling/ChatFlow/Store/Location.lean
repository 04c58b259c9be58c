import ChatFlow.Config
import ChatFlow.Failure

namespace ChatFlow

/-- A way through directories, from the outermost one. -/
abbrev Way := List String

namespace Way

def enter (way : Way) (name : String) : Way :=
  if name = "" ∨ name = "." then way
  else if name = ".." then way.dropLast
  else way ++ [name]

def names (path : String) : List String := (Text.pieces '/' path.toList).map .ofList

end Way

inductive Obstacle
  /-- its place is taken by a file -/
  | taken
  /-- a file stands on its way -/
  | blocked
  deriving DecidableEq, Repr

def Obstacle.message : Obstacle → String
  | taken => "File exists (os error 17)"
  | blocked => "Not a directory (os error 20)"

/-- The files that are not directories; directories can be created everywhere else. -/
structure Files where
  plain : List Way
  deriving DecidableEq, Repr

namespace Files

def walk (files : Files) (way : Way) : List String → Except Obstacle Way
  | [] => if files.plain.contains way then .error .taken else .ok way
  | name :: rest =>
    if files.plain.contains way ∧ way.enter name ≠ way then .error .blocked
    else files.walk (way.enter name) rest

def createDirectory (files : Files) (path : String) : Except Obstacle Way :=
  files.walk [] (Way.names path)

/-- Whether there is a database behind a way, or a new one can be put there, next to an existing
directory. -/
def opens (files : Files) (directory file : Way) : Except Failure Unit :=
  let refusal (code : Nat) (reason : String) : Failure :=
    .other ("error returned from database: (code: " ++ toString code ++ ") " ++ reason)
  if file.isPrefixOf directory || !file.dropLast.isPrefixOf directory then
    .error (refusal 14 "unable to open database file")
  else if files.plain.contains file then .error (refusal 26 "file is not a database")
  else .ok ()

def openDatabase (files : Files) (config : DatabaseConfig) : Except Failure Unit :=
  match files.createDirectory config.directory with
  | .error obstacle =>
    .error (.other
      ("Failed to create data directory '" ++ config.directory ++ "': " ++ obstacle.message))
  | .ok directory => files.opens directory ((Way.names config.fileName).foldl Way.enter directory)

end Files

end ChatFlow
